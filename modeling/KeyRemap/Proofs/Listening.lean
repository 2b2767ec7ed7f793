import KeyRemap.Proofs.Distinction
import KeyRemap.Proofs.Equivalence
import KeyRemap.Proofs.ModifierSets

/-!
# What records listen to

The source of every record is that of a combination, `Origin.heard`, and sources are alike exactly
when their combinations are equivalent. What is heard is what is claimed, with one exception: a
trigger without modifiers claims its key alone but hears it whatever else is held, just as if it had
been declared with `any`. So of the records that are in force everywhere, two are alike exactly when
one comes from such a trigger and the other from a combination of the same key with `any`
(`Compiler.alike_iff_drowns`), and there are such records (`Compiler.alike_drowned`).
-/

namespace KeyRemap

/-! ## Sources -/

/-- Two sources are alike when they have the same key and the same modifiers, in whatever order. -/
structure Source.Alike (a b : Source) : Prop where
  key : a.key = b.key
  mandatory : ∀ modifier, modifier ∈ a.mandatory ↔ modifier ∈ b.mandatory
  optional : ∀ modifier, modifier ∈ a.optional ↔ modifier ∈ b.optional

/-- The key with whatever else is held. -/
def Combo.withAny (key : Key) : Combo :=
  .ofList key [.any]

namespace Source

/-- A source tells its combination, up to the order of the modifiers. -/
theorem alike_ofCombo_iff {a b : Combo} : (ofCombo a).Alike (ofCombo b) ↔ a ≈ b := by
  rw [Combo.equiv_iff, Modifiers.equiv_iff]
  constructor
  · rintro ⟨hkey, hmandatory, hoptional⟩
    refine ⟨hkey, fun modifier => ?_⟩
    -- a modifier stands in just one of the two lists, by what it is
    cases hmodifier : modifier.optional with
    | false => simpa [ofCombo, Modifiers.mem_mandatory, hmodifier] using hmandatory modifier
    | true => simpa [ofCombo, Modifiers.mem_optional, hmodifier] using hoptional modifier
  · rintro ⟨hkey, hmodifiers⟩
    refine ⟨hkey, fun modifier => ?_, fun modifier => ?_⟩
    · simp only [ofCombo, Modifiers.mem_mandatory, hmodifiers]
    · simp only [ofCombo, Modifiers.mem_optional, hmodifiers]

/-- A key is heard whatever else is held just as if it were declared with `any`. -/
theorem anyModifiers_eq (key : Key) : anyModifiers key = ofCombo (.withAny key) := rfl

end Source

/-! ## What is heard -/

namespace Origin

/-- The combination to which the record of an origin really listens. -/
def heard : Origin → Combo
  | .trigger base =>
      if base.trigger.modifiers.isEmpty then .withAny base.trigger.key else base.trigger
  | .toggle _ layer _ => .withAny layer.key
  | origin => origin.combo

/-- The record of an origin listens to what is heard there. -/
theorem source_record (config : Config) (origin : Origin) :
    (origin.record config).source = .ofCombo origin.heard := by
  cases origin with
  | trigger base =>
      have hsource : (base.triggerRecord config).source = base.triggerSource := by
        rw [Base.triggerRecord]
        cases base.strict <;> rfl
      rw [record, hsource, Base.triggerSource, heard]
      split
      · exact Source.anyModifiers_eq _
      · rfl
  | ofRule rule binding =>
      rw [record, HoldBinding.record]
      cases binding.hold <;> rfl
  | _ => rfl

/-- The record of an origin is in force everywhere, on its device: it is that of a base, of a binding
of a rule or of a substitution. -/
def Everywhere : Origin → Prop
  | .trigger _ | .ofRule .. | .ofSubstitution .. => True
  | .toggle .. | .content .. => False

/-- An origin is that of a trigger without modifiers, and another is declared for the same key with
`any`. -/
def Drowns (a b : Origin) : Prop :=
  ∃ base, a = .trigger base ∧ base.trigger.modifiers.isEmpty ∧ b.combo ≈ .withAny base.trigger.key

/-- What is declared is what is heard, unless it is a trigger without modifiers. -/
theorem heard_cases {origin : Origin} (h : origin.Everywhere) :
    origin.heard = origin.combo ∨
      ∃ base, origin = .trigger base ∧ base.trigger.modifiers.isEmpty ∧
        origin.heard = .withAny base.trigger.key := by
  cases origin with
  | trigger base =>
      by_cases hempty : base.trigger.modifiers.isEmpty
      · exact Or.inr ⟨base, rfl, hempty, if_pos hempty⟩
      · exact Or.inl (if_neg hempty)
  | toggle parent layer nested => exact h.elim
  | content scope binding => exact h.elim
  | _ => exact Or.inl rfl

/-- Triggers without modifiers that hear the same key claim the same combination. -/
theorem combo_equiv_of_bare {base other : Base} (hbase : base.trigger.modifiers.isEmpty)
    (hother : other.trigger.modifiers.isEmpty)
    (h : Combo.withAny base.trigger.key ≈ .withAny other.trigger.key) :
    base.trigger ≈ other.trigger := by
  rw [Modifiers.isEmpty_iff] at hbase hother
  rw [Combo.equiv_iff, Modifiers.equiv_iff]
  refine ⟨(Combo.equiv_iff.mp h).1, fun modifier => ?_⟩
  exact iff_of_false (hbase modifier) (hother modifier)

/-- What is heard alike was declared alike, unless one of the two drowns the other. -/
theorem equiv_or_drowns_of_heard {a b : Origin} (ha : a.Everywhere) (hb : b.Everywhere)
    (h : a.heard ≈ b.heard) : a.combo ≈ b.combo ∨ a.Drowns b ∨ b.Drowns a := by
  rcases heard_cases ha with hacombo | ⟨base, rfl, hbase, hany⟩ <;>
    rcases heard_cases hb with hbcombo | ⟨other, rfl, hother, hbany⟩
  · rw [hacombo, hbcombo] at h
    exact Or.inl h
  · rw [hacombo, hbany] at h
    exact Or.inr (Or.inr ⟨other, rfl, hother, h⟩)
  · rw [hany, hbcombo] at h
    exact Or.inr (Or.inl ⟨base, rfl, hbase, Combo.equiv_symm h⟩)
  · rw [hany, hbany] at h
    exact Or.inl (combo_equiv_of_bare hbase hother h)

/-- What drowns another hears the same. -/
theorem Drowns.heard_equiv {a b : Origin} (h : a.Drowns b) (hb : b.Everywhere) :
    a.heard ≈ b.heard := by
  obtain ⟨base, rfl, hbase, hcombo⟩ := h
  have hheard : (trigger base).heard = .withAny base.trigger.key := if_pos hbase
  rw [hheard]
  rcases heard_cases hb with hbcombo | ⟨other, rfl, hother, -⟩
  · rw [hbcombo]
    exact Combo.equiv_symm hcombo
  · -- the other is declared with `any`, so it is no trigger without modifiers
    have hany := (Modifiers.equiv_iff.mp (Combo.equiv_iff.mp hcombo).2 .any).mpr
      (Modifiers.mem_ofList.mpr (List.mem_singleton_self _))
    exact absurd hany (Modifiers.isEmpty_iff.mp hother .any)

end Origin

/-! ## Records that are alike -/

/-- Two records are alike when their sources are and they have the same condition on the device,
whatever other conditions they have. -/
structure Record.Alike (a b : Record) : Prop where
  source : a.source.Alike b.source
  device : ∀ polarity identifiers,
    .device polarity identifiers ∈ a.guards ↔ .device polarity identifiers ∈ b.guards

/-- No two devices of a configuration have the same identifiers and the same polarity. -/
def Config.DistinctDevices (config : Config) : Prop :=
  config.devices.Pairwise fun d e => ¬ (d.identifiers = e.identifiers ∧ d.polarity = e.polarity)

/-- Where devices are distinct, the guard of a device tells which it is. -/
theorem Config.DistinctDevices.eq_of_guard {config : Config} (h : config.DistinctDevices)
    {d e : Device} (hd : d ∈ config.devices) (he : e ∈ config.devices)
    (hguard : Guard.ofDevice d = .ofDevice e) : d = e := by
  have hnodup : (config.devices.map Guard.ofDevice).Nodup := by
    refine List.pairwise_map.mpr (h.imp fun hdistinct heq => ?_)
    obtain ⟨hpolarity, hidentifiers⟩ := Guard.device.inj heq
    exact hdistinct ⟨hidentifiers, hpolarity⟩
  exact List.inj_on_of_nodup_map hnodup hd he hguard

namespace Origin

variable {config : Config} {a b : Origin}

/-- Where devices are distinct, records have the same condition on the device exactly if they are
declared for the same one or both for none. -/
theorem device_eq_iff (h : config.DistinctDevices) :
    (∀ polarity identifiers, .device polarity identifiers ∈ (a.record config).guards ↔
      .device polarity identifiers ∈ (b.record config).guards) ↔
    config.device? a.deviceId = config.device? b.deviceId := by
  simp only [device_mem_guards]
  constructor
  · intro hguards
    cases hd : config.device? a.deviceId with
    | none => cases he : config.device? b.deviceId with
      | none => rfl
      | some e =>
          obtain ⟨d, hmem, -⟩ := (hguards e.polarity e.identifiers).mpr ⟨e, he, rfl⟩
          rw [hd] at hmem
          cases hmem
    | some d =>
        obtain ⟨e, he, hguard⟩ := (hguards d.polarity d.identifiers).mp ⟨d, hd, rfl⟩
        rw [Option.mem_def.mp he, h.eq_of_guard (config.mem_devices_of_device? hd)
          (config.mem_devices_of_device? he) hguard.symm]
  · intro heq polarity identifiers
    rw [heq]

/-- Records in force everywhere are alike exactly if what they hear is the same on the same device. -/
theorem alike_record_iff (h : config.DistinctDevices) :
    (a.record config).Alike (b.record config) ↔
      a.heard ≈ b.heard ∧ config.device? a.deviceId = config.device? b.deviceId := by
  rw [← device_eq_iff h, ← Source.alike_ofCombo_iff, ← source_record, ← source_record]
  exact ⟨fun halike => ⟨halike.source, halike.device⟩, fun hboth => ⟨hboth.1, hboth.2⟩⟩

/-- Of two origins that do not conflict, the same is heard on the same device only if one drowns the
other. -/
theorem drowns_of_not_conflict (ha : a.Everywhere) (hb : b.Everywhere)
    (hclaims : ∀ c ∈ a.claim? config, ∀ d ∈ b.claim? config, ¬ c.Conflict d)
    (hheard : a.heard ≈ b.heard) (hdevice : config.device? a.deviceId = config.device? b.deviceId) :
    a.Drowns b ∨ b.Drowns a := by
  have hpath : ∀ {origin : Origin}, origin.Everywhere → origin.path? = some [] := by
    intro origin heverywhere
    cases origin with
    | toggle parent layer nested => exact heverywhere.elim
    | content scope binding => exact heverywhere.elim
    | _ => rfl
  rcases equiv_or_drowns_of_heard ha hb hheard with hcombo | hdrowns
  · exfalso
    refine hclaims ⟨a.combo, [], _⟩ (by rw [claim?, hpath ha]; rfl)
      ⟨b.combo, [], _⟩ (by rw [claim?, hpath hb]; rfl) ⟨hcombo, SamePath.refl [], ?_⟩
    exact Or.inl hdevice
  · exact hdrowns

end Origin

/-- Where devices are distinct, two records that are in force everywhere are alike in one way only:
they are meant for the same device, one is that of a trigger without modifiers, and the other is
declared for the same key with `any`. -/
theorem Compiler.alike_iff_drowns {compiler : Compiler} {config : Config} {document : Document}
    (h : (compiler.compile config).2 = .ok document) (hdevices : config.DistinctDevices) :
    document.records = config.origins.map (Origin.record config) ∧
      config.origins.Pairwise fun a b => a.Everywhere → b.Everywhere →
        ((a.record config).Alike (b.record config) ↔
          config.device? a.deviceId = config.device? b.deviceId ∧ (a.Drowns b ∨ b.Drowns a)) := by
  obtain ⟨hvalid, rfl⟩ := compile_eq_ok_iff.mp h
  refine ⟨config.records_output, hvalid.pairwise_claim?.imp ?_⟩
  intro a b hclaims ha hb
  rw [Origin.alike_record_iff hdevices]
  constructor
  · rintro ⟨hheard, hdevice⟩
    exact ⟨hdevice, Origin.drowns_of_not_conflict ha hb hclaims hheard hdevice⟩
  · rintro ⟨hdevice, hdrowns | hdrowns⟩
    · exact ⟨hdrowns.heard_equiv hb, hdevice⟩
    · exact ⟨Combo.equiv_symm (hdrowns.heard_equiv ha), hdevice⟩

/-- A base without modifiers, and a rule that binds the key of the base with `any`. -/
def Config.drowned : Config where
  rules := [{
    description := some "one"
    bindings := [{ source := .withAny .f16, destinations := [⟨.key .a, ∅⟩] }] }]
  bases := [{ trigger := ⟨.f16, ∅⟩ }]

/-- The base and the rule on the same key can be compiled. -/
theorem Compiler.compile_drowned :
    (({} : Compiler).compile .drowned).2 = .ok Config.drowned.output :=
  compile_of_passes (by decide +kernel)

/-- Two records that are in force everywhere and at all times listen to the same, though one arms a
base and the other sends a key. -/
theorem Compiler.alike_drowned :
    (({} : Compiler).compile .drowned).2 = .ok Config.drowned.output ∧
      Config.drowned.DistinctDevices ∧
      ∃ a b, Config.drowned.origins[0]? = some a ∧ Config.drowned.origins[1]? = some b ∧
        a.Everywhere ∧ b.Everywhere ∧ (a.record .drowned).Alike (b.record .drowned) ∧
        (a.record .drowned).guards = [] ∧ (b.record .drowned).guards = [] ∧
        (a.record .drowned).pressed ≠ (b.record .drowned).pressed := by
  refine ⟨compile_drowned, .nil, _, _, rfl, rfl, trivial, trivial, ⟨⟨rfl, ?_, ?_⟩, ?_⟩, rfl, rfl, ?_⟩
  · exact fun _ => Iff.rfl
  · exact fun _ => Iff.rfl
  · exact fun _ _ => Iff.rfl
  · decide

/-- The first of the two comes from a trigger without modifiers, whose key the rule binds with
`any`. -/
theorem Compiler.alike_iff_drowns_drowned :
    (({} : Compiler).compile .drowned).2 = .ok Config.drowned.output ∧
      Config.drowned.DistinctDevices ∧
      ∃ a b, Config.drowned.origins[0]? = some a ∧ Config.drowned.origins[1]? = some b ∧
        a.Drowns b ∧ (a.record .drowned).Alike (b.record .drowned) := by
  have hpairwise := (alike_iff_drowns compile_drowned .nil).2
  have hdrowns : Config.drowned.origins[0].Drowns Config.drowned.origins[1] := ⟨_, rfl, rfl, rfl⟩
  exact ⟨compile_drowned, .nil, _, _, rfl, rfl, hdrowns,
    (List.pairwise_iff_getElem.mp hpairwise 0 1 (by decide) (by decide) (by decide) trivial
      trivial).mpr ⟨rfl, Or.inl hdrowns⟩⟩

end KeyRemap
