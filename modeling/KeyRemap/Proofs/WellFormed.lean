import KeyRemap.Proofs.Members
import KeyRemap.Proofs.SoundRecords

/-!
# Every written document is well formed

What the host asks of a document, stated of its JSON alone, member by member, so that it does not
depend on how documents are represented here. Writing what is sound gives what is well formed
(`Record.Sound.isRecord`), so every record and every modification that is written is
(`Compiler.document_wellFormed`).
-/

namespace KeyRemap

/-! ## Well-formed JSON -/

namespace Json

/-- The names under which an event says what it does. -/
def actions : List String := ["key_code", "pointing_button", "shell_command", "set_variable"]

/-- The names under which an event of a key says how the key is pressed. -/
def pressings : List String := ["modifiers", "halt", "hold_down_milliseconds"]

/-- A value of a variable. -/
def IsBit (json : Json) : Prop := json = .nat 0 ∨ json = .nat 1

/-- A well-formed event does one thing, and says how a key is pressed only where it is a key that it
presses. A command is a text that is not blank, and a variable is set to 0 or 1. -/
structure IsEvent (event : Json) : Prop where
  action : ∃! name, name ∈ actions ∧ (event.get? name).isSome
  pressings : ∀ name ∈ pressings, (event.get? name).isSome → (event.get? "key_code").isSome
  modifiers : (event.items "modifiers").Nodup
  command : ∀ value ∈ event.get? "shell_command",
    ∃ command, value = .str command ∧ Text.allBlank command = false
  setting : ∀ setting ∈ event.get? "set_variable", ∃ value ∈ setting.get? "value", value.IsBit

/-- A well-formed source has an object for its modifiers only where it has a modifier. Only `any` may
be optional, only `any` may not be mandatory, and nothing is listed twice. -/
structure IsSource (source : Json) : Prop where
  modifiers : ∀ modifiers ∈ source.get? "modifiers",
    modifiers.items "mandatory" ++ modifiers.items "optional" ≠ []
  mandatory : .str "any" ∉ (source.get "modifiers").items "mandatory"
  optional : ∀ name ∈ (source.get "modifiers").items "optional", name = .str "any"
  nodup : ((source.get "modifiers").items "mandatory" ++
    (source.get "modifiers").items "optional").Nodup

/-- A well-formed condition on a variable asks for 0 or 1. -/
def IsCondition (condition : Json) : Prop :=
  condition.get? "type" = some (.str "variable_if") → ∃ value ∈ condition.get? "value", value.IsBit

/-- An event that halts nothing. -/
def IsPlainEvent (event : Json) : Prop :=
  event.IsEvent ∧ event.get? "halt" = none

/-- A well-formed record, where `holds` says whether it is that of a hold. Only what a hold sends
when its key is tapped may halt. A record has one of `to` and `to_if_held_down`, and only with the
latter does it have parameters and a delayed action. -/
structure IsRecord (record : Json) (holds : Prop) : Prop where
  source : ∃ source ∈ record.get? "from", source.IsSource
  pressed : ∀ event ∈ record.items "to", event.IsPlainEvent
  alone : ∀ event ∈ record.items "to_if_alone",
    event.IsEvent ∧ ((event.get? "halt").isSome → holds)
  heldDown : ∀ event ∈ record.items "to_if_held_down", event.IsPlainEvent
  released : ∀ event ∈ record.items "to_after_key_up", event.IsPlainEvent
  canceled : ∀ event ∈ (record.get "to_delayed_action").items "to_if_canceled", event.IsPlainEvent
  conditions : ∀ condition ∈ record.items "conditions", condition.IsCondition
  acts : record.items "to" ≠ [] ↔ record.items "to_if_held_down" = []
  cancels : (record.get? "to_delayed_action").isSome ↔ record.items "to_if_held_down" ≠ []
  timed : (record.get? "parameters").isSome ↔ record.items "to_if_held_down" ≠ []

/-- A well-formed modification puts a key in the place of its source. -/
structure IsModification (modification : Json) : Prop where
  source : ∃ source ∈ modification.get? "from", source.IsSource
  event : ∃ event ∈ modification.get? "to", event.IsPlainEvent ∧ (event.get? "key_code").isSome

end Json

/-! ## Writing what is sound -/

/-- A truth value that is written as a number is written as a bit. -/
theorem Json.isBit_toNat (value : Bool) : (Json.nat value.toNat).IsBit := by
  cases value
  · exact Or.inl rfl
  · exact Or.inr rfl

/-- What says what an event does says nothing of how a key is pressed. -/
theorem Json.not_mem_pressings {name : String} (h : name ∈ actions) : name ∉ pressings := by
  revert name
  decide

/-- An object with a single member is an event if the member says what it does. -/
theorem Json.isEvent_singleton {name : String} {value : Json} (hname : name ∈ actions)
    (hcommand : name = "shell_command" →
      ∃ command, value = .str command ∧ Text.allBlank command = false)
    (hsetting : name = "set_variable" → ∃ bit ∈ value.get? "value", bit.IsBit) :
    (obj [(name, value)]).IsEvent := by
  have hget : ∀ other, (obj [(name, value)]).get? other = if other = name then some value else none :=
    fun other => by rw [get?_obj, lookup_cons, List.lookup_nil]
  refine ⟨⟨name, ⟨hname, by simp [hget]⟩, ?_⟩, ?_, ?_, ?_, ?_⟩
  · rintro other ⟨-, hsome⟩
    by_contra hne
    simp [hget, hne] at hsome
  · intro other hother hsome
    have hne : other ≠ name := fun heq => not_mem_pressings hname (heq ▸ hother)
    simp [hget, hne] at hsome
  · have hne : "modifiers" ≠ name := fun heq => not_mem_pressings hname (heq ▸ by decide)
    simp [Json.items, hget, hne]
  · intro found hfound
    rw [hget] at hfound
    split_ifs at hfound with heq
    · exact Option.some.inj hfound ▸ hcommand heq.symm
    · cases hfound
  · intro found hfound
    rw [hget] at hfound
    split_ifs at hfound with heq
    · exact Option.some.inj hfound ▸ hsetting heq.symm
    · cases hfound

/-- The modifiers of a set are written without repeats. -/
theorem Modifier.nodup_encodeAll {modifiers : List Modifier} (h : modifiers.Nodup) :
    (encodeAll modifiers).Nodup :=
  h.map json_injective

namespace Event

/-- An event of a key says nothing but what it presses and how. -/
theorem get?_key_eq_none {pressed : Key} {modifiers : Modifiers} {holdDown : Option Nat}
    {halt : Bool} {name : String} (hkey : name ≠ "key_code") (h : name ∉ Json.pressings) :
    (key pressed modifiers holdDown halt).encode.get? name = none := by
  simp only [Json.pressings, List.mem_cons, List.not_mem_nil, or_false, not_or] at h
  obtain ⟨hmodifiers, hhalt, hhold⟩ := h
  cases halt <;>
    simp [encode, Json.get?_obj, Json.lookup_cons, List.lookup_append, hkey, hmodifiers, hhalt, hhold]

/-- An event is written with a halt exactly if it halts what follows it. -/
theorem get?_halt_encode (event : Event) :
    event.encode.get? "halt" = if event.halts then some (.bool true) else none := by
  cases event with
  | key pressed modifiers holdDown halt => exact get?_halt pressed modifiers holdDown halt
  | _ => simp [encode, halts, Json.get?_obj, Json.lookup_cons]

/-- An event of a key is well formed whatever key it is and however that is pressed. -/
theorem isEvent_key (pressed : Key) (modifiers : Modifiers) (holdDown : Option Nat) (halt : Bool) :
    (key pressed modifiers holdDown halt).encode.IsEvent := by
  have hpressed := get?_key pressed modifiers holdDown halt
  have hnone : ∀ name ∈ Json.actions, name ≠ "key_code" →
      (key pressed modifiers holdDown halt).encode.get? name = none := fun name hname hne =>
    get?_key_eq_none hne (Json.not_mem_pressings hname)
  refine ⟨⟨"key_code", ⟨by decide, by rw [hpressed]; rfl⟩, ?_⟩, ?_, ?_, ?_, ?_⟩
  · rintro name ⟨hname, hsome⟩
    by_contra hne
    rw [hnone name hname hne] at hsome
    cases hsome
  · intro _ _ _
    rw [hpressed]
    rfl
  · rw [items_modifiers]
    exact Modifier.nodup_encodeAll modifiers.nodup
  · rw [hnone "shell_command" (by decide) (by decide)]
    exact fun _ hmem => absurd hmem (Option.not_mem_none _)
  · rw [hnone "set_variable" (by decide) (by decide)]
    exact fun _ hmem => absurd hmem (Option.not_mem_none _)

/-- A sound event is written as a well-formed event. -/
theorem Sound.isEvent {event : Event} (h : event.Sound) : event.encode.IsEvent := by
  cases event with
  | key pressed modifiers holdDown halt => exact isEvent_key pressed modifiers holdDown halt
  | button pressed =>
      exact Json.isEvent_singleton (by decide) (fun heq => absurd heq (by decide))
        fun heq => absurd heq (by decide)
  | shell command =>
      exact Json.isEvent_singleton (by decide) (fun _ => ⟨command, rfl, h command rfl⟩)
        fun heq => absurd heq (by decide)
  | setVariable name value =>
      refine Json.isEvent_singleton (by decide) (fun heq => absurd heq (by decide)) fun _ => ?_
      exact ⟨.nat value.toNat, by simp [Json.get?_obj, Json.lookup_cons], Json.isBit_toNat value⟩

/-- A plain event is written as a well-formed event that halts nothing. -/
theorem Plain.isPlainEvent {event : Event} (h : event.Plain) : event.encode.IsPlainEvent :=
  ⟨h.sound.isEvent, by simp [get?_halt_encode, h.halts]⟩

end Event

/-- A sound source is written as a well-formed source. -/
theorem Source.Sound.isSource {source : Source} (h : source.Sound) : source.encode.IsSource where
  modifiers := by
    rintro modifiers hmodifiers
    have hmandatory := source.items_mandatory
    have hoptional := source.items_optional
    rw [Json.get_eq hmodifiers] at hmandatory hoptional
    rw [source.get?_modifiers] at hmodifiers
    split_ifs at hmodifiers with hne
    · cases hmodifiers
    · rw [hmandatory, hoptional, Modifier.encodeAll, Modifier.encodeAll, ← List.map_append]
      exact fun hnil => hne (List.map_eq_nil_iff.mp hnil)
  mandatory := by
    rw [source.items_mandatory]
    intro hany
    obtain ⟨modifier, hmodifier, heq⟩ := List.mem_map.mp hany
    have hany : modifier = .any := Modifier.json_injective heq
    exact h.mandatory (hany ▸ hmodifier)
  optional := by
    rw [source.items_optional]
    intro name hname
    obtain ⟨modifier, hmodifier, rfl⟩ := List.mem_map.mp hname
    rw [h.optional modifier hmodifier]
    rfl
  nodup := by
    rw [source.items_mandatory, source.items_optional, Modifier.encodeAll, Modifier.encodeAll,
      ← List.map_append]
    exact Modifier.nodup_encodeAll h.nodup

/-- Every guard is written as a well-formed condition. -/
theorem Guard.isCondition (guard : Guard) : guard.encode.IsCondition := by
  cases guard with
  | var name value =>
      exact fun _ => ⟨.nat value.toNat, by simp [encode, Json.get?_obj, Json.lookup_cons],
        Json.isBit_toNat value⟩
  | device polarity identifiers =>
      intro htype
      cases polarity <;> simp [encode, Polarity.guardType, Json.get?_obj] at htype

/-- Writing a sound record gives a well-formed one. -/
theorem Record.Sound.isRecord {record : Record} {holds : Prop} (h : record.Sound holds)
    (hsource : record.source.Sound) : record.encode.IsRecord holds where
  source := ⟨_, record.get?_source, hsource.isSource⟩
  pressed := by
    rw [record.items_pressed]
    exact List.forall_mem_map.mpr fun event hevent => (h.pressed event hevent).isPlainEvent
  alone := by
    rw [record.items_alone]
    refine List.forall_mem_map.mpr fun event hevent => ?_
    obtain ⟨hsound, hhalts⟩ := h.alone event hevent
    refine ⟨hsound.isEvent, fun hsome => hhalts ?_⟩
    -- an event that halts nothing is written without the member
    by_contra hnot
    rw [event.get?_halt_encode, if_neg hnot] at hsome
    cases hsome
  heldDown := by
    rw [record.items_heldDown]
    exact List.forall_mem_map.mpr fun event hevent => (h.heldDown event hevent).isPlainEvent
  released := by
    rw [record.items_released]
    exact List.forall_mem_map.mpr fun event hevent => (h.released event hevent).isPlainEvent
  canceled := by
    rw [record.items_canceled]
    exact List.forall_mem_map.mpr fun event hevent => (h.canceled event hevent).isPlainEvent
  conditions := by
    rw [record.items_guards]
    exact List.forall_mem_map.mpr fun guard _ => guard.isCondition
  acts := by
    rw [record.items_pressed, record.items_heldDown, ne_eq, List.map_eq_nil_iff,
      List.map_eq_nil_iff]
    exact h.acts
  cancels := by
    rw [record.get?_canceled, record.items_heldDown, Option.isSome_map, ne_eq, List.map_eq_nil_iff]
    exact h.cancels
  timed := by
    rw [record.get?_parameters, record.items_heldDown, Option.isSome_map, ne_eq,
      List.map_eq_nil_iff]
    exact h.timed

/-- Writing the modification of a key by a key gives a well-formed one. -/
theorem SimpleModification.isModification {modification : SimpleModification} {combo : Combo}
    {pressed : Key} {modifiers : Modifiers} (hsource : modification.source = .ofCombo combo)
    (hevent : modification.event = .press pressed modifiers) :
    modification.encode.IsModification where
  source := by
    refine ⟨modification.source.encode, by simp [encode, Json.get?_obj], ?_⟩
    rw [hsource]
    exact (Source.sound_ofCombo combo).isSource
  event := by
    refine ⟨modification.event.encode, by simp [encode, Json.get?_obj, Json.lookup_cons], ?_⟩
    rw [hevent]
    exact ⟨(Event.plain_press pressed modifiers).isPlainEvent,
      by rw [Event.press, Event.get?_key]; rfl⟩

/-! ## Written documents -/

/-- Whatever is compiled, every record and every modification that is written is well formed. -/
theorem Compiler.document_wellFormed {compiler : Compiler} {config : Config} {document : Document}
    (h : (compiler.compile config).2 = .ok document) :
    ∃ origins, config.Traced document origins ∧
      document.encode.records = origins.map (fun origin => (origin.record config).encode) ∧
      (∀ origin ∈ origins, (origin.record config).encode.IsRecord origin.Holds) ∧
      ∀ modification ∈ document.encode.modifications, modification.IsModification := by
  obtain ⟨hvalid, rfl⟩ := compile_eq_ok_iff.mp h
  refine ⟨config.origins, config.traced_output, ?_, ?_, ?_⟩
  · rw [Document.records_encode, config.records_output, List.map_map]
    rfl
  · intro origin horigin
    exact (hvalid.sound_record horigin).isRecord (origin.sound_source config)
  · rw [Document.modifications_encode]
    refine List.forall_mem_map.mpr fun modification hmodification => ?_
    obtain ⟨substitution, hsubstitution, hmodified⟩ := List.mem_filterMap.mp hmodification
    obtain ⟨hsource, pressed, modifiers, hevent⟩ := Substitution.press_of_modification?
      (hvalid.substitutions substitution hsubstitution) hmodified
    exact SimpleModification.isModification hsource hevent

/-- The written desk, with a strict trigger, a hold and a modification of all devices. -/
theorem Compiler.document_wellFormed_desk :
    (({} : Compiler).compile .desk).2 = .ok Config.desk.output ∧
      ∃ origins, Config.Traced .desk Config.desk.output origins ∧
        (∀ origin ∈ origins, (origin.record .desk).encode.IsRecord origin.Holds) ∧
        ∀ modification ∈ Config.desk.output.encode.modifications, modification.IsModification := by
  obtain ⟨origins, htraced, -, hrecords, hmodifications⟩ := document_wellFormed compile_desk
  exact ⟨compile_desk, origins, htraced, hrecords, hmodifications⟩

end KeyRemap
