import KeyRemap.Proofs.Members
import KeyRemap.Proofs.UniqueReading
import Mathlib.Data.Option.Basic

/-!
# Documents can be recovered from their texts

Nothing is lost when a document is written: different documents have different texts
(`Document.pretty_eq_iff`). A JSON text is read in one way, and every part of a document is found
again in its JSON, field by field: a list that is left out was empty, any other member that is left
out was not given, and every name stands for one key, modifier, button or kind of guard.
-/

namespace KeyRemap

/-! ## Devices and guards -/

/-- A number that is given is read back, and so is its absence. -/
theorem Json.map_nat_injective : Function.Injective (Option.map Json.nat) :=
  Option.map_injective fun _ _ => Json.nat.inj

/-- Truth values that may be missing are written differently where they differ. -/
theorem Json.map_bool_injective : Function.Injective (Option.map Json.bool) :=
  Option.map_injective fun _ _ => Json.bool.inj

/-- Identifiers can be read back. -/
theorem Identifiers.encode_injective : Function.Injective Identifiers.encode := by
  intro a b h
  have hvendor : a.vendorId = b.vendorId :=
    Json.map_nat_injective (by rw [← get?_vendorId, h, get?_vendorId])
  have hproduct : a.productId = b.productId :=
    Json.map_nat_injective (by rw [← get?_productId, h, get?_productId])
  have hkeyboard : a.isKeyboard = b.isKeyboard :=
    Json.map_bool_injective (by rw [← get?_isKeyboard, h, get?_isKeyboard])
  have hpointing : a.isPointingDevice = b.isPointingDevice :=
    Json.map_bool_injective (by rw [← get?_isPointingDevice, h, get?_isPointingDevice])
  have hbuiltIn : a.isBuiltInKeyboard = b.isBuiltInKeyboard :=
    Json.map_bool_injective (by rw [← get?_isBuiltInKeyboard, h, get?_isBuiltInKeyboard])
  cases a
  cases b
  simp_all

/-- A device of a profile can be read back. -/
theorem ProfileDevice.encode_injective : Function.Injective ProfileDevice.encode := by
  intro a b h
  simp only [encode, Json.obj.injEq, List.cons.injEq, Prod.mk.injEq, Json.bool.injEq, true_and,
    and_true] at h
  cases a
  cases b
  rw [ProfileDevice.mk.injEq]
  exact h.imp_left fun hidentifiers => Identifiers.encode_injective hidentifiers

/-- A guard can be read back. -/
theorem Guard.encode_injective : Function.Injective Guard.encode := by
  intro a b h
  cases a with
  | var name value => cases b with
    | var other set =>
        simp only [encode, Json.obj.injEq, List.cons.injEq, Prod.mk.injEq, Json.str.injEq,
          Json.nat.injEq, true_and, and_true] at h
        obtain ⟨rfl, hvalue⟩ := h
        cases value <;> cases set <;> simp_all
    | device polarity identifiers => cases polarity <;> simp [encode, Polarity.guardType] at h
  | device polarity identifiers => cases b with
    | var other set => cases polarity <;> simp [encode, Polarity.guardType] at h
    | device other others =>
        simp only [encode, Json.obj.injEq, List.cons.injEq, Prod.mk.injEq, Json.str.injEq,
          Json.arr.injEq, true_and, and_true] at h
        rw [Polarity.guardType_injective h.1, Identifiers.encode_injective h.2]

/-! ## Events and sources -/

/-- An event can be read back. -/
theorem Event.encode_injective : Function.Injective Event.encode := by
  intro a b h
  -- events of different kinds differ in the name of their first member
  cases a with
  | key pressed modifiers holdDown halt => cases b with
    | key other others otherHold otherHalt =>
        have hkey := congrArg (Json.get? · "key_code") h
        have hmodifiers := congrArg (Json.items · "modifiers") h
        have hhold := congrArg (Json.get? · "hold_down_milliseconds") h
        have hhalt := congrArg (Json.get? · "halt") h
        simp only [get?_key, items_modifiers, get?_holdDown, get?_halt] at hkey hmodifiers hhold hhalt
        obtain rfl : pressed = other := Key.name_injective (Json.str.inj (Option.some.inj hkey))
        obtain rfl : modifiers = others := by
          cases modifiers
          cases others
          rw [Modifiers.mk.injEq]
          exact Modifier.encodeAll_injective hmodifiers
        obtain rfl : holdDown = otherHold := Json.map_nat_injective hhold
        cases halt <;> cases otherHalt <;> simp_all
    | _ => simp [encode] at h
  | button pressed => cases b with
    | button other =>
        simp only [encode, Json.obj.injEq, List.cons.injEq, Prod.mk.injEq, Json.str.injEq, true_and,
          and_true] at h
        rw [Button.name_injective h]
    | _ => simp [encode] at h
  | shell command => cases b with
    | shell other =>
        simp only [encode, Json.obj.injEq, List.cons.injEq, Prod.mk.injEq, Json.str.injEq, true_and,
          and_true] at h
        rw [h]
    | _ => simp [encode] at h
  | setVariable name value => cases b with
    | setVariable other set =>
        simp only [encode, Json.obj.injEq, List.cons.injEq, Prod.mk.injEq, Json.str.injEq,
          Json.nat.injEq, true_and, and_true] at h
        obtain ⟨rfl, hvalue⟩ := h
        cases value <;> cases set <;> simp_all
    | _ => simp [encode] at h

/-- A source can be read back. -/
theorem Source.encode_injective : Function.Injective Source.encode := by
  intro a b h
  have hkey : a.key = b.key := by
    have hname := a.get?_key
    rw [h, b.get?_key] at hname
    exact (Key.name_injective (Json.str.inj (Option.some.inj hname))).symm
  have hmandatory : a.mandatory = b.mandatory :=
    Modifier.encodeAll_injective (by rw [← items_mandatory, h, items_mandatory])
  have hoptional : a.optional = b.optional :=
    Modifier.encodeAll_injective (by rw [← items_optional, h, items_optional])
  cases a
  cases b
  simp_all

/-! ## Records -/

/-- The times of a record can be read back. -/
theorem Parameters.encode_injective : Function.Injective Parameters.encode := by
  intro a b h
  have halone : a.aloneTimeout = b.aloneTimeout :=
    Json.map_nat_injective (by rw [← get?_aloneTimeout, h, get?_aloneTimeout])
  have hthreshold : a.heldDownThreshold = b.heldDownThreshold :=
    Json.nat.inj (Option.some.inj (by rw [← get?_heldDownThreshold, h, get?_heldDownThreshold]))
  have hdelayed : a.delayedAction = b.delayedAction :=
    Json.nat.inj (Option.some.inj (by rw [← get?_delayedAction, h, get?_delayedAction]))
  cases a
  cases b
  simp_all

/-- A record can be read back. -/
theorem Record.encode_injective : Function.Injective Record.encode := by
  intro a b h
  have hevents : Function.Injective (List.map Event.encode) := Event.encode_injective.list_map
  have hdescription : a.description = b.description :=
    Json.str.inj (Option.some.inj (by rw [← get?_description, h, get?_description]))
  have hsource : a.source = b.source :=
    Source.encode_injective (Option.some.inj (by rw [← get?_source, h, get?_source]))
  have hpressed : a.pressed = b.pressed := hevents (by rw [← items_pressed, h, items_pressed])
  have halone : a.alone = b.alone := hevents (by rw [← items_alone, h, items_alone])
  have hheldDown : a.heldDown = b.heldDown := hevents (by rw [← items_heldDown, h, items_heldDown])
  have hreleased : a.released = b.released := hevents (by rw [← items_released, h, items_released])
  have hcanceled : a.canceled = b.canceled := by
    refine Option.map_injective (fun events others heq => ?_)
      (by rw [← get?_canceled, h, get?_canceled])
    simpa [hevents.eq_iff] using heq
  have hguards : a.guards = b.guards :=
    Guard.encode_injective.list_map (by rw [← items_guards, h, items_guards])
  have hparameters : a.parameters = b.parameters :=
    Option.map_injective Parameters.encode_injective
      (by rw [← get?_parameters, h, get?_parameters])
  cases a
  cases b
  simp_all

/-! ## Documents -/

/-- A group can be read back. -/
theorem Group.encode_injective : Function.Injective Group.encode := by
  intro a b h
  simp only [encode, Json.obj.injEq, List.cons.injEq, Prod.mk.injEq, Json.str.injEq,
    Json.arr.injEq, true_and, and_true] at h
  cases a
  cases b
  rw [Group.mk.injEq]
  exact h.imp_right fun hrecords => Record.encode_injective.list_map hrecords

/-- A modification can be read back. -/
theorem SimpleModification.encode_injective : Function.Injective SimpleModification.encode := by
  intro a b h
  simp only [encode, Json.obj.injEq, List.cons.injEq, Prod.mk.injEq, true_and, and_true] at h
  cases a
  cases b
  rw [SimpleModification.mk.injEq]
  exact h.imp (fun hsource => Source.encode_injective hsource)
    fun hevent => Event.encode_injective hevent

/-- A document can be read back. -/
theorem Document.encode_injective : Function.Injective Document.encode := by
  intro a b h
  have hshow : a.showInMenuBar = b.showInMenuBar := by
    have hglobal := a.get?_global
    rw [h, b.get?_global] at hglobal
    simpa using hglobal.symm
  have hprofileJson : a.profileJson = b.profileJson :=
    List.singleton_inj.mp (by rw [← items_profiles, h, items_profiles])
  have hprofile : a.profile = b.profile :=
    Json.str.inj (Option.some.inj (by rw [← get?_profile, hprofileJson, get?_profile]))
  have hdevices : a.devices = b.devices :=
    ProfileDevice.encode_injective.list_map (by rw [← items_devices, hprofileJson, items_devices])
  have hmodifications : a.simpleModifications = b.simpleModifications :=
    SimpleModification.encode_injective.list_map
      (by rw [← modifications_encode, h, modifications_encode])
  have hgroups : a.groups = b.groups :=
    Group.encode_injective.list_map (by rw [← groups_encode, h, groups_encode])
  cases a
  cases b
  simp_all

/-- Documents with the same text are the same. -/
theorem Document.pretty_eq_iff (a b : Document) : a.pretty = b.pretty ↔ a = b := by
  constructor
  · intro h
    exact encode_injective (Json.pretty_injective h)
  · rintro rfl
    rfl

end KeyRemap
