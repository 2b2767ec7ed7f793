import KeyRemap.Proofs.Assignment
import KeyRemap.Proofs.Claims
import KeyRemap.Proofs.Guards

/-!
# Records that cannot be told apart

Two records with equivalent combinations and the same guards are live at the same times, so only
their order decides between them. Toggles apart, this happens in one way: claims are kept apart by
the whole of their devices, but a guard does not tell whether its device is ignored. So the two
records are meant for devices that differ in that alone (`Compiler.confusable_devices`), and there
are such records (`Compiler.confusable_twins`).
-/

namespace KeyRemap

/-! ## Guards of the two kinds -/

/-- The only guard of a device is the one of the device that is declared. -/
theorem Config.mem_deviceGuards {config : Config} {id : Option Device.Index} {guard : Guard} :
    guard ∈ config.deviceGuards id ↔ ∃ device ∈ config.device? id, .ofDevice device = guard := by
  simp [deviceGuards]

namespace Origin

variable {config : Config} {origin : Origin}

/-- A record demands that a variable be set exactly if it is among its armed ones. -/
theorem armed_mem_guards {name : String} :
    .var name true ∈ (origin.record config).guards ↔ name ∈ origin.armedNames := by
  have hdevice : ∀ id, Guard.var name true ∉ config.deviceGuards id := by
    intro id hguard
    obtain ⟨device, -, heq⟩ := Config.mem_deviceGuards.mp hguard
    cases heq
  rw [guards_record]
  cases origin with
  | trigger base => simp [guards, armedNames, Base.triggerGuards, Guard.idle, hdevice]
  | toggle parent layer nested =>
      simp [guards, armedNames, Scope.toggleGuards, Guard.armed, hdevice]
  | content scope binding =>
      simp [guards, armedNames, Scope.bindingGuards, Guard.armed, Guard.idle, hdevice]
  | ofRule rule binding => simp [guards, armedNames, hdevice]
  | ofSubstitution substitution id destination => simp [guards, armedNames, hdevice]

/-- The guard of a device stands on a record exactly if it is that of the device of its origin. -/
theorem device_mem_guards {polarity : Polarity} {identifiers : Identifiers} :
    .device polarity identifiers ∈ (origin.record config).guards ↔
      ∃ device ∈ config.device? origin.deviceId,
        .ofDevice device = Guard.device polarity identifiers := by
  rw [guards_record, ← Config.mem_deviceGuards]
  cases origin with
  | trigger base => simp [guards, deviceId, Base.triggerGuards, Guard.idle]
  | toggle parent layer nested => simp [guards, deviceId, Scope.toggleGuards, Guard.armed]
  | content scope binding =>
      simp [guards, deviceId, Scope.bindingGuards, Guard.armed, Guard.idle]
  | ofRule rule binding => rfl
  | ofSubstitution substitution id destination => rfl

/-! ## Paths -/

/-- An origin that claims a combination claims it everywhere and demands no variable to be set, or
claims it in a scope and demands those on the way to the scope. -/
theorem path?_cases (hdeclared : origin.DeclaredIn config) {path : List Combo}
    (hpath : origin.path? = some path) :
    path = [] ∧ origin.armedNames = [] ∨
      ∃ scope ∈ config.scopes, path = scope.path ∧ origin.armedNames = scope.variableNames := by
  cases origin with
  | toggle parent layer nested => cases hpath
  | content scope binding => exact Or.inr ⟨scope, hdeclared.1, (Option.some.inj hpath).symm, rfl⟩
  | _ => exact Or.inl ⟨(Option.some.inj hpath).symm, rfl⟩

end Origin

/-- Origins whose records demand the same variables to be set have claimed on the same path. -/
theorem Config.Valid.samePath_of_armedNames {config : Config} (h : config.Valid) {a b : Origin}
    (ha : a.DeclaredIn config) (hb : b.DeclaredIn config) {p q : List Combo}
    (hp : a.path? = some p) (hq : b.path? = some q)
    (hnames : ∀ name, name ∈ a.armedNames ↔ name ∈ b.armedNames) : SamePath p q := by
  rcases Origin.path?_cases ha hp with ⟨rfl, hanames⟩ | ⟨s, hs, rfl, hanames⟩ <;>
    rcases Origin.path?_cases hb hq with ⟨rfl, hbnames⟩ | ⟨t, ht, rfl, hbnames⟩ <;>
    rw [hanames, hbnames] at hnames
  · exact SamePath.refl []
  · -- every scope demands at least its own variable
    have hnone := (hnames _).mpr t.variableName_mem_variableNames
    cases hnone
  · have hnone := (hnames _).mp s.variableName_mem_variableNames
    cases hnone
  · obtain ⟨n, hn⟩ :=
      h.exists_samePath_take hs ht ((hnames _).mp s.variableName_mem_variableNames)
    obtain ⟨m, hm⟩ :=
      h.exists_samePath_take ht hs ((hnames _).mpr t.variableName_mem_variableNames)
    exact hn.of_take hm

/-! ## Confusable records -/

/-- Two records cannot be told apart when they listen to the same combination under the same
guards. -/
structure Origin.Confusable (config : Config) (a b : Origin) : Prop where
  combo : a.combo ≈ b.combo
  guards : ∀ guard, guard ∈ (a.record config).guards ↔ guard ∈ (b.record config).guards

/-- Two devices are looked for in the same way, but just one of them is ignored. -/
structure Device.DifferInIgnored (a b : Device) : Prop where
  identifiers : a.identifiers = b.identifiers
  polarity : a.polarity = b.polarity
  ignored : a.ignored ≠ b.ignored

/-- Different devices with the same guard differ in whether they are ignored. -/
theorem Device.differInIgnored_of_ne {a b : Device} (hne : a ≠ b)
    (hguard : Guard.ofDevice a = Guard.ofDevice b) : a.DifferInIgnored b := by
  obtain ⟨hpolarity, hidentifiers⟩ := Guard.device.inj hguard
  refine ⟨hidentifiers, hpolarity, fun hignored => hne ?_⟩
  cases a
  cases b
  simp_all

/-- The device of a number is one of those that are declared. -/
theorem Config.mem_devices_of_device? {config : Config} {id : Option Device.Index} {device : Device}
    (h : config.device? id = some device) : device ∈ config.devices := by
  obtain ⟨index, -, hindex⟩ := Option.bind_eq_some_iff.mp h
  exact List.mem_of_getElem? hindex

/-- Records that cannot be told apart come from declarations for two devices that differ in whether
they are ignored. -/
theorem Config.Valid.devices_of_confusable {config : Config} (h : config.Valid) {a b : Origin}
    (ha : a.DeclaredIn config) (hb : b.DeclaredIn config) (hap : a.path?.isSome)
    (hbp : b.path?.isSome) (hconfusable : a.Confusable config b)
    (hclaims : ∀ c ∈ a.claim? config, ∀ d ∈ b.claim? config, ¬ c.Conflict d) :
    ∃ d ∈ config.devices, ∃ e ∈ config.devices, config.device? a.deviceId = some d ∧
      config.device? b.deviceId = some e ∧ d.DifferInIgnored e := by
  obtain ⟨p, hp⟩ := Option.isSome_iff_exists.mp hap
  obtain ⟨q, hq⟩ := Option.isSome_iff_exists.mp hbp
  have hpath : SamePath p q := h.samePath_of_armedNames ha hb hp hq fun name => by
    have hset := hconfusable.guards (.var name true)
    rwa [Origin.armed_mem_guards, Origin.armed_mem_guards] at hset
  -- combination and path are the same, so only the devices keep the claims apart
  have hdevices : ¬ DevicesOverlap (config.device? a.deviceId) (config.device? b.deviceId) :=
    fun hoverlap => hclaims ⟨a.combo, p, _⟩ (by rw [Origin.claim?, hp]; rfl)
      ⟨b.combo, q, _⟩ (by rw [Origin.claim?, hq]; rfl) ⟨hconfusable.combo, hpath, hoverlap⟩
  cases hd : config.device? a.deviceId with
  | none => exact absurd (Or.inr (Or.inl hd)) hdevices
  | some d => cases he : config.device? b.deviceId with
    | none => exact absurd (Or.inr (Or.inr he)) hdevices
    | some e =>
        have hne : d ≠ e := fun heq => hdevices (Or.inl (by rw [hd, he, heq]))
        have hguard := (hconfusable.guards (.ofDevice d)).mp
          (Origin.device_mem_guards.mpr ⟨d, hd, rfl⟩)
        obtain ⟨other, hother, heq⟩ := Origin.device_mem_guards.mp hguard
        obtain rfl : e = other := Option.some.inj (he.symm.trans hother)
        exact ⟨d, mem_devices_of_device? hd, e, mem_devices_of_device? he, rfl, rfl,
          Device.differInIgnored_of_ne hne heq.symm⟩

/-- Of two records that cannot be told apart, one is for a device that is ignored and the other for
one that is not and has the same guard; or one of them is a toggle. -/
theorem Compiler.confusable_devices {compiler : Compiler} {config : Config} {document : Document}
    (h : (compiler.compile config).2 = .ok document) :
    document.records = config.origins.map (Origin.record config) ∧
      config.origins.Pairwise fun a b => a.path?.isSome → b.path?.isSome → a.Confusable config b →
        ∃ d ∈ config.devices, ∃ e ∈ config.devices, config.device? a.deviceId = some d ∧
          config.device? b.deviceId = some e ∧ d.DifferInIgnored e := by
  obtain ⟨hvalid, rfl⟩ := compile_eq_ok_iff.mp h
  refine ⟨config.records_output, hvalid.pairwise_claim?.imp_of_mem ?_⟩
  intro a b ha hb hclaims hap hbp hconfusable
  exact hvalid.devices_of_confusable (config.declaredIn_of_mem_origins ha)
    (config.declaredIn_of_mem_origins hb) hap hbp hconfusable hclaims

/-- One device declared twice, the second time as one to be ignored, and two rules that bind the same
key, one for either declaration. -/
def Config.twins : Config where
  devices := [⟨.product 7504 24926, .onDevice, false⟩, ⟨.product 7504 24926, .onDevice, true⟩]
  rules := [
    { device := some ⟨0⟩, bindings := [{ source := ⟨.a, ∅⟩, destinations := [⟨.key .b, ∅⟩] }] },
    { device := some ⟨1⟩, bindings := [{ source := ⟨.a, ∅⟩, destinations := [⟨.key .c, ∅⟩] }] }]

/-- The two declarations of one device can be compiled. -/
theorem Compiler.compile_twins :
    (({} : Compiler).compile .twins).2 = .ok Config.twins.output :=
  compile_of_passes (by decide +kernel)

/-- The bindings of the two rules cannot be told apart. -/
theorem Config.confusable_bindings :
    Config.twins.origins[0].Confusable .twins Config.twins.origins[1] :=
  ⟨rfl, fun _ => Iff.rfl⟩

/-- Two records of bindings that cannot be told apart, though they send different keys. -/
theorem Compiler.confusable_twins :
    (({} : Compiler).compile .twins).2 = .ok Config.twins.output ∧
      Config.twins.output.records = Config.twins.origins.map (Origin.record .twins) ∧
      ∃ a b, Config.twins.origins[0]? = some a ∧ Config.twins.origins[1]? = some b ∧
        a.path?.isSome ∧ b.path?.isSome ∧ a.Confusable .twins b ∧
        (a.record .twins).pressed ≠ (b.record .twins).pressed :=
  ⟨compile_twins, Config.twins.records_output, _, _, rfl, rfl, rfl, rfl,
    Config.confusable_bindings, by decide⟩

/-- What tells the devices of the two rules apart is only that one is ignored. -/
theorem Compiler.confusable_devices_twins :
    (({} : Compiler).compile .twins).2 = .ok Config.twins.output ∧
      ∃ a b, Config.twins.origins[0]? = some a ∧ Config.twins.origins[1]? = some b ∧
        a.Confusable .twins b ∧ ∃ d ∈ Config.twins.devices, ∃ e ∈ Config.twins.devices,
          Config.twins.device? a.deviceId = some d ∧ Config.twins.device? b.deviceId = some e ∧
            d.DifferInIgnored e := by
  have hpairwise := (confusable_devices compile_twins).2
  exact ⟨compile_twins, _, _, rfl, rfl, Config.confusable_bindings,
    List.pairwise_iff_getElem.mp hpairwise 0 1 (by decide) (by decide) (by decide) rfl rfl
      Config.confusable_bindings⟩

end KeyRemap
