import KeyRemap.Proofs.Listening

/-!
# What records and modifications hold

What the types of records leave open. A source lists `any` and every other modifier in its place;
no event runs a blank command; nothing halts but the tap of a hold; and a record acts in just one
way, when its key is pressed or once it has been held. The record of every origin of a valid
configuration is like that (`Config.Valid.sound_record`), and a substitution for all devices stands
for a key (`Substitution.press_of_modification?`).
-/

namespace KeyRemap

/-! ## Sources -/

/-- `any` is the only modifier that may be held without having to be; each is listed once. -/
structure Source.Sound (source : Source) : Prop where
  mandatory : Modifier.any ∉ source.mandatory
  optional : ∀ modifier ∈ source.optional, modifier = .any
  nodup : (source.mandatory ++ source.optional).Nodup

/-- A combination is listened to with its modifiers in their places. -/
theorem Source.sound_ofCombo (combo : Combo) : (ofCombo combo).Sound where
  mandatory := fun hany => combo.modifiers.parted.ne_any _ hany rfl
  optional := combo.modifiers.parted.eq_any
  nodup := combo.modifiers.parted.perm.nodup_iff.mpr combo.modifiers.nodup

/-- Every record listens to its combination with the modifiers in their places. -/
theorem Origin.sound_source (config : Config) (origin : Origin) :
    (origin.record config).source.Sound := by
  rw [source_record]
  exact Source.sound_ofCombo _

/-! ## Events -/

namespace Event

/-- An event runs no command of blanks alone. -/
def Sound (event : Event) : Prop :=
  ∀ command, event = .shell command → Text.allBlank command = false

/-- Does an event halt those that follow it? -/
def halts : Event → Bool
  | .key _ _ _ halt => halt
  | _ => false

/-- An event that is sound and halts nothing. -/
structure Plain (event : Event) : Prop where
  sound : event.Sound
  halts : event.halts = false

/-- What halts nothing may be sent wherever only some events may halt. -/
theorem Plain.tapped {event : Event} {holds : Prop} (h : event.Plain) :
    event.Sound ∧ (event.halts → holds) :=
  ⟨h.sound, fun hhalts => absurd hhalts (by simp [h.halts])⟩

/-- A key without a halt is plain, for however long it is held down. -/
theorem plain_key (pressed : Key) (modifiers : Modifiers) (holdDown : Option Nat) :
    (key pressed modifiers holdDown false).Plain :=
  ⟨fun _ => Event.noConfusion, rfl⟩

/-- A key that is pressed is plain. -/
theorem plain_press (pressed : Key) (modifiers : Modifiers) : (press pressed modifiers).Plain :=
  plain_key pressed modifiers none

/-- Setting a variable is plain. -/
theorem plain_setVariable (name : String) (value : Bool) : (setVariable name value).Plain :=
  ⟨fun _ => Event.noConfusion, rfl⟩

/-- A command that is not all blanks is plain. -/
theorem plain_shell {command : String} (h : Text.allBlank command = false) :
    (shell command).Plain := by
  refine ⟨fun text heq => ?_, rfl⟩
  obtain rfl : command = text := Event.shell.inj heq
  exact h

/-- A halt leaves an event sound. -/
theorem sound_halted {event : Event} (h : event.Sound) : event.halted.Sound := by
  cases event with
  | key pressed modifiers holdDown halt => exact fun _ => Event.noConfusion
  | _ => exact h

end Event

/-- A text is sent as a command only if it is not blank. -/
theorem Destination.not_blank_of_resolve {destination : Destination} {command : String}
    (h : destination.resolve = .ok (.shell command)) : Text.allBlank command = false := by
  cases htarget : destination.target with
  | key pressed => simp [resolve, htarget] at h
  | button pressed =>
      simp only [resolve, htarget, resolveButton] at h
      split at h <;> simp at h
  | text text =>
      simp only [resolve, htarget, resolveText] at h
      split at h
      · cases h
      · next hname =>
          -- the text names neither a key nor a button, so it is the command itself
          have htext : command = text := by
            split at h
            · cases h
            · rw [resolveButton] at h
              split at h <;> simp at h
            · split at h
              · cases h
                rfl
              · cases h
          subst htext
          rw [Bool.eq_false_iff, ne_eq, ← Text.trimmed_eq_empty_iff]
          simpa using hname

/-- What a destination sends is sound and halts nothing. -/
theorem Destination.SentAs.plain {destination : Destination} {event : Event}
    (h : destination.SentAs event) : event.Plain := by
  obtain ⟨action, hresolve, hsends⟩ := h
  cases hsends with
  | key pressed modifiers => exact Event.plain_press pressed modifiers
  | button pressed => exact ⟨fun _ => Event.noConfusion, rfl⟩
  | shell command => exact Event.plain_shell (not_blank_of_resolve hresolve)

/-- What a hold does is sound and halts nothing. -/
theorem Hold.Action.Sendable.plain {action : Hold.Action} (h : action.Sendable) :
    action.event.Plain := by
  cases action with
  | key pressed modifiers => exact Event.plain_press pressed modifiers
  | shell command =>
      refine Event.plain_shell ?_
      rw [Bool.eq_false_iff, ne_eq, ← Text.trimmed_eq_empty_iff]
      exact h command rfl

namespace Binding

variable {binding : Binding}

/-- What a binding sends is plain. -/
theorem plain_of_mem_sent {event : Event} (h : event ∈ binding.sent.map Event.ofAction) :
    event.Plain := by
  obtain ⟨action, haction, rfl⟩ := List.mem_map.mp h
  obtain ⟨destination, -, hresolve⟩ := List.mem_filterMap.mp haction
  cases hresult : destination.resolve with
  | error fault => simp [hresult, Except.toOption] at hresolve
  | ok found =>
      obtain rfl : found = action := by simpa [hresult, Except.toOption] using hresolve
      exact Destination.SentAs.plain ⟨found, hresult, Event.sends_ofAction found⟩

/-- A binding with a destination sends something where it can be sent. -/
theorem sent_ne_nil (h : binding.Sendable) (hdestinations : binding.destinations ≠ []) :
    binding.sent.map Event.ofAction ≠ [] := by
  have hempty := isEmpty_sent h
  intro hnil
  rw [List.map_eq_nil_iff.mp hnil] at hempty
  exact hdestinations (List.isEmpty_iff.mp hempty.symm)

end Binding

/-! ## Records -/

/-- A record whose events are sound, where `holds` says whether it is that of a hold. Only the tap of
a hold may halt, and only what acts once its key has been held has timings and something to
cancel. -/
structure Record.Sound (record : Record) (holds : Prop) : Prop where
  pressed : ∀ event ∈ record.pressed, event.Plain
  alone : ∀ event ∈ record.alone, event.Sound ∧ (event.halts → holds)
  heldDown : ∀ event ∈ record.heldDown, event.Plain
  released : ∀ event ∈ record.released, event.Plain
  canceled : ∀ event ∈ record.canceled.getD [], event.Plain
  acts : record.pressed ≠ [] ↔ record.heldDown = []
  cancels : record.canceled.isSome ↔ record.heldDown ≠ []
  timed : record.parameters.isSome ↔ record.heldDown ≠ []

/-- A record that acts when its key is pressed, and does nothing more once it has been held. -/
theorem Record.sound_of_pressed {record : Record} {holds : Prop}
    (hpressed : ∀ event ∈ record.pressed, event.Plain) (hne : record.pressed ≠ [])
    (halone : ∀ event ∈ record.alone, event.Plain)
    (hreleased : ∀ event ∈ record.released, event.Plain) (hheld : record.heldDown = [])
    (hcanceled : record.canceled = none) (hparameters : record.parameters = none) :
    record.Sound holds where
  pressed := hpressed
  alone := fun event hevent => (halone event hevent).tapped
  heldDown := by simp [hheld]
  released := hreleased
  canceled := by simp [hcanceled]
  acts := iff_of_true hne hheld
  cancels := by simp [hcanceled, hheld]
  timed := by simp [hparameters, hheld]

namespace Origin

/-- The record of an origin is that of a hold. -/
def Holds : Origin → Prop
  | .ofRule _ binding => binding.hold.isSome
  | _ => False

variable {config : Config}

/-- The record of a trigger is sound. -/
theorem sound_trigger (base : Base) : ((trigger base).record config).Sound (trigger base).Holds := by
  have harm : ∀ event ∈ base.armEvents, event.Plain := by
    intro event hevent
    rcases List.mem_cons.mp hevent with rfl | hcombo
    · exact Event.plain_setVariable _ _
    · obtain ⟨combo, -, rfl⟩ := Option.map_eq_some_iff.mp (Option.mem_toList.mp hcombo)
      exact Event.plain_press _ _
  have halone : ∀ event ∈ [Event.key base.alone.key ∅ base.alone.holdDown false], event.Plain :=
    List.forall_mem_singleton.mpr (Event.plain_key _ _ _)
  have hreleased : ∀ event ∈ [Event.setVariable base.variableName false], event.Plain :=
    List.forall_mem_singleton.mpr (Event.plain_setVariable _ _)
  rw [record, Base.triggerRecord]
  cases base.strict with
  | none =>
      exact Record.sound_of_pressed harm (List.cons_ne_nil _ _) halone hreleased rfl rfl rfl
  | some timing =>
      exact {
        pressed := List.forall_mem_nil _
        alone := fun event hevent => (halone event hevent).tapped
        heldDown := harm
        released := hreleased
        canceled := List.forall_mem_singleton.mpr (Event.plain_press _ _)
        acts := iff_of_false (fun hne => hne rfl) (List.cons_ne_nil _ _)
        cancels := iff_of_true rfl (List.cons_ne_nil _ _)
        timed := iff_of_true rfl (List.cons_ne_nil _ _) }

/-- The record of a toggle is sound. -/
theorem sound_toggle (parent : Scope) (layer : Layer) (nested : Forest Layer) :
    ((toggle parent layer nested).record config).Sound (toggle parent layer nested).Holds :=
  Record.sound_of_pressed (List.forall_mem_singleton.mpr (Event.plain_setVariable _ _))
    (List.cons_ne_nil _ _) (List.forall_mem_nil _)
    (List.forall_mem_singleton.mpr (Event.plain_setVariable _ _)) rfl rfl rfl

/-- The record of a binding of a scope is sound if it can be sent and has a destination. -/
theorem sound_content {scope : Scope} {binding : ScopedBinding} (h : binding.toBinding.Sendable)
    (hdestinations : binding.destinations ≠ []) :
    ((content scope binding).record config).Sound (content scope binding).Holds :=
  Record.sound_of_pressed (fun _ => Binding.plain_of_mem_sent)
    (Binding.sent_ne_nil h hdestinations) (List.forall_mem_nil _) (List.forall_mem_nil _) rfl rfl rfl

/-- The record of a binding of a rule is sound if it can be sent and held, and holds something or
has a destination. -/
theorem sound_ofRule {rule : Rule} {binding : HoldBinding} (h : binding.toBinding.Sendable)
    (hhold : ∀ hold ∈ binding.hold, hold.action.Sendable)
    (hdestinations : binding.hold = none → binding.destinations ≠ []) :
    ((ofRule rule binding).record config).Sound (ofRule rule binding).Holds := by
  rw [record, Holds, HoldBinding.record]
  cases hcase : binding.hold with
  | none =>
      exact Record.sound_of_pressed (fun _ => Binding.plain_of_mem_sent)
        (Binding.sent_ne_nil h (hdestinations hcase)) (List.forall_mem_nil _)
        (List.forall_mem_nil _) rfl rfl rfl
  | some hold =>
      have htap : ∀ event ∈ binding.tapEvents (binding.sent.map Event.ofAction), event.Plain := by
        rw [HoldBinding.tapEvents]
        split
        · exact List.forall_mem_singleton.mpr (Event.plain_press _ _)
        · exact fun _ => Binding.plain_of_mem_sent
      exact {
        pressed := List.forall_mem_nil _
        alone := List.forall_mem_map.mpr fun event hevent =>
          ⟨Event.sound_halted (htap event hevent).sound, fun _ => rfl⟩
        heldDown := List.forall_mem_singleton.mpr (hhold hold hcase).plain
        released := List.forall_mem_nil _
        canceled := htap
        acts := iff_of_false (fun hne => hne rfl) (List.cons_ne_nil _ _)
        cancels := iff_of_true rfl (List.cons_ne_nil _ _)
        timed := iff_of_true rfl (List.cons_ne_nil _ _) }

/-- The record of a substitution on one device is sound if it can be sent. -/
theorem sound_ofSubstitution {substitution : Substitution} {id : Device.Index}
    {destination : Destination} (h : destination.Sendable) :
    ((ofSubstitution substitution id destination).record config).Sound
      (ofSubstitution substitution id destination).Holds := by
  obtain ⟨event, hevents, hsent⟩ := Destination.sentAs_events h
  refine Record.sound_of_pressed ?_ ?_ (List.forall_mem_nil _) (List.forall_mem_nil _) rfl rfl rfl
  · show ∀ event ∈ destination.events, event.Plain
    rw [hevents]
    exact List.forall_mem_singleton.mpr hsent.plain
  · show destination.events ≠ []
    rw [hevents]
    exact List.cons_ne_nil _ _

end Origin

/-- A binding of a rule that has a record holds something or has a destination. -/
theorem Config.destinations_ne_nil_of_mem_origins {config : Config} {rule : Rule}
    {binding : HoldBinding} (h : .ofRule rule binding ∈ config.origins)
    (hhold : binding.hold = none) : binding.destinations ≠ [] := by
  have hmem : (rule ∈ config.rules ∧ binding ∈ rule.bindings ∧ binding.destinations ≠ []) ∨
      ∃ id, (id, .ofRule rule binding) ∈ config.deviceOrigins := by
    simpa [inventory, Scope.bindingOrigins, Scope.toggles, Rule.origins, hhold]
      using config.origins_perm_inventory.subset h
  rcases hmem with ⟨-, -, hne⟩ | ⟨id, horigin⟩
  · exact hne
  · obtain ⟨substitution, -, horigin⟩ := List.mem_filterMap.mp horigin
    rw [Substitution.origin?] at horigin
    split at horigin <;> cases horigin

/-- In a valid configuration every record is sound. -/
theorem Config.Valid.sound_record {config : Config} (h : config.Valid) {origin : Origin}
    (horigin : origin ∈ config.origins) : (origin.record config).Sound origin.Holds := by
  have hdeclared := config.declaredIn_of_mem_origins horigin
  cases origin with
  | trigger base => exact Origin.sound_trigger base
  | toggle parent layer nested => exact Origin.sound_toggle parent layer nested
  | content scope binding =>
      obtain ⟨hscope, hbinding⟩ := hdeclared
      obtain ⟨hmem, hdestinations⟩ := List.mem_filter.mp hbinding
      exact Origin.sound_content (h.bindings scope hscope binding hmem) (by simpa using hdestinations)
  | ofRule rule binding =>
      obtain ⟨hrule, hbinding⟩ := hdeclared
      obtain ⟨hsendable, hhold⟩ := h.rules rule hrule binding hbinding
      exact Origin.sound_ofRule hsendable hhold (config.destinations_ne_nil_of_mem_origins horigin)
  | ofSubstitution substitution id destination =>
      obtain ⟨hsubstitution, -, hdestination⟩ := hdeclared
      exact Origin.sound_ofSubstitution
        ((h.substitutions substitution hsubstitution).destination hdestination)

/-- A substitution for all devices stands for a key. -/
theorem Substitution.press_of_modification? {substitution : Substitution}
    (h : substitution.Sendable) {modification : SimpleModification}
    (hmodification : substitution.modification? = some modification) :
    modification.source = .ofCombo substitution.source ∧
      ∃ pressed modifiers, modification.event = .press pressed modifiers := by
  rw [modification?] at hmodification
  split at hmodification
  · next destination _ hdestination =>
      obtain ⟨pressed, modifiers, hresolve⟩ := h destination hdestination
      rw [Destination.events, hresolve] at hmodification
      cases hmodification
      exact ⟨rfl, pressed, modifiers, rfl⟩
  · cases hmodification

end KeyRemap
