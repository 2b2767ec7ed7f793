import KeyRemap.Device
import KeyRemap.Violation

/-!
# The registry of claims

A claim reserves a combination on an activation path, for one device or for all. Two claims conflict
when they have equivalent combinations on equivalent paths and some device is meant by both. The
registry keeps claims that do not conflict, grouped by path, so that a new claim is compared only
with those on its own path.
-/

namespace KeyRemap

/-- A reservation of a combination where `path` is in force. Without a device it holds on all of
them. -/
structure Claim where
  combo : Combo
  path : List Combo := []
  device : Option Device := none
  deriving DecidableEq, Repr

namespace Claim

/-- Is some device meant by both? A claim without a device means all of them. -/
def sharesDevice (a b : Option Device) : Bool :=
  match a, b with
  | some a, some b => a = b
  | _, _ => true

/-- The activation path, whatever the order in which modifiers were declared. -/
def sortedPath (claim : Claim) : List Combo :=
  claim.path.map Combo.sorted

/-- Do two claims exclude each other? -/
def conflicts (a b : Claim) : Bool :=
  a.combo ≈ b.combo && a.sortedPath = b.sortedPath && sharesDevice a.device b.device

end Claim

/-- The accepted claims, the newest first, grouped by their sorted activation paths. -/
structure Registry where
  groups : List (List Combo × List Claim) := []
  deriving DecidableEq, Repr

namespace Registry

/-- The registry without claims. -/
def empty : Registry := {}

instance : EmptyCollection Registry := ⟨empty⟩

instance : Inhabited Registry := ⟨empty⟩

/-- The claims on a sorted path. -/
def claimsOn (registry : Registry) (path : List Combo) : List Claim :=
  (registry.groups.lookup path).getD []

/-- All claims. -/
def claims (registry : Registry) : List Claim :=
  registry.groups.flatMap Prod.snd

/-- The number of claims. -/
def size (registry : Registry) : Nat := registry.claims.length

/-- Does the registry hold a claim that conflicts with this one? -/
def contains (registry : Registry) (claim : Claim) : Bool :=
  (registry.claimsOn claim.sortedPath).any fun held =>
    held.combo ≈ claim.combo && Claim.sharesDevice held.device claim.device

/-- Adds a claim to the group of its path, which is made if there is none. -/
def insertInto (path : List Combo) (claim : Claim) :
    List (List Combo × List Claim) → List (List Combo × List Claim)
  | [] => [(path, [claim])]
  | (p, claims) :: rest =>
    if p = path then (p, claim :: claims) :: rest else (p, claims) :: insertInto path claim rest

/-- Adding a claim adds it, once, and nothing else. -/
theorem insertInto_perm (path : List Combo) (claim : Claim)
    (groups : List (List Combo × List Claim)) :
    ((insertInto path claim groups).flatMap Prod.snd).Perm (claim :: groups.flatMap Prod.snd) := by
  induction groups with
  | nil => exact List.Perm.refl _
  | cons group rest ih =>
    obtain ⟨p, claims⟩ := group
    by_cases h : p = path
    · simp only [insertInto, h, if_true, List.flatMap_cons, List.cons_append]
      exact List.Perm.refl _
    · simp only [insertInto, h, if_false, List.flatMap_cons]
      exact (ih.append_left claims).trans List.perm_middle

/-- Accepts a claim, or refuses it because it conflicts with one that was accepted before. -/
def register (registry : Registry) (claim : Claim) (context : String) :
    Except Violation Registry :=
  if registry.contains claim then .error (.duplicateKey claim.combo context)
  else .ok ⟨insertInto claim.sortedPath claim registry.groups⟩

end Registry

end KeyRemap
