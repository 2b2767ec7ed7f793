import KeyRemap.Proofs.Origin
import KeyRemap.Proofs.Validity

/-!
# What a declaration takes from around it

A declaration looks at the rest of its configuration for two things only: the device that its number
names, and, if it is the binding of a scope, the layer variables that its record is to forbid. So
claims are the same wherever the devices are (`Base.claims_congr`, `Rule.claims_congr`), and records
differ at most in their guards (`Origin.record_congr`), those of bindings of scopes apart in nothing
(`Origin.guards_congr`).
-/

namespace KeyRemap

variable {a b : Config}

namespace Config

/-- The same declared devices give every number the same device. -/
theorem device?_congr (h : a.devices = b.devices) : a.device? = b.device? := by
  funext id
  rw [device?, device?, h]

/-- The same declared devices give every number the same guards. -/
theorem deviceGuards_congr (h : a.devices = b.devices) : a.deviceGuards = b.deviceGuards := by
  funext id
  rw [deviceGuards, deviceGuards, device?_congr h]

end Config

/-! ## Claims -/

/-- The claims of a base depend on nothing around it but the declared devices. -/
theorem Base.claims_congr (h : a.devices = b.devices) : Base.claims a = Base.claims b := by
  funext base
  have hscope : Scope.claims a = Scope.claims b := by
    funext scope
    rw [Scope.claims, Scope.claims, Scope.device?, Scope.device?, Config.device?_congr h]
  rw [claims, claims, hscope, Config.device?_congr h]

/-- The claims of a rule depend on nothing around it but the declared devices. -/
theorem Rule.claims_congr (h : a.devices = b.devices) : Rule.claims a = Rule.claims b := by
  funext rule
  rw [claims, claims, Config.device?_congr h]

/-! ## Records -/

namespace Origin

/-- Nothing in a record but its guards depends on the configuration. -/
theorem record_congr (a b : Config) (origin : Origin) :
    origin.record b = { origin.record a with guards := origin.guards b } := by
  cases origin with
  | trigger base =>
      rw [record, record, Base.triggerRecord, Base.triggerRecord]
      cases base.strict <;> rfl
  | ofRule rule binding =>
      rw [record, record, HoldBinding.record, HoldBinding.record]
      cases binding.hold <;> rfl
  | _ => rfl

/-- The record of an origin depends on the configuration only by its guards. -/
theorem record_eq_of_guards_eq {origin : Origin} (h : origin.guards a = origin.guards b) :
    origin.record a = origin.record b := by
  rw [record_congr b a, h, ← guards_record]

/-- No guards but those of bindings of scopes depend on more than the devices. -/
theorem guards_congr (h : a.devices = b.devices) {origin : Origin}
    (hcontent : origin.content? = none) : origin.guards a = origin.guards b := by
  have hdevice := Config.deviceGuards_congr h
  cases origin with
  | trigger base => rw [guards, guards, Base.triggerGuards, Base.triggerGuards, hdevice]
  | toggle parent layer nested =>
      rw [guards, guards, Scope.toggleGuards, Scope.toggleGuards, hdevice]
  | content scope binding => cases hcontent
  | ofRule rule binding => rw [guards, guards, hdevice]
  | ofSubstitution substitution id destination => rw [guards, guards, hdevice]

end Origin

end KeyRemap
