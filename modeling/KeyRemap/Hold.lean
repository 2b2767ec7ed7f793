import KeyRemap.Modifiers

/-!
# Tap and hold

A binding may do one thing when its key is tapped and another when it is held. When a hold counts,
and how long a tap waits, is a matter of timing: each timing may be left open and is then taken from
the rule, or from the default.
-/

namespace KeyRemap

namespace Hold

/-- What a held key does. -/
inductive Action where
  | key (key : Key) (modifiers : Modifiers)
  | shell (command : String)
  deriving DecidableEq, Repr

/-- The timing of a hold, in milliseconds, as far as it is given. -/
structure Timing where
  threshold : Option Nat := none
  delayedAction : Option Nat := none
  aloneTimeout : Option Nat := none
  deriving DecidableEq, Repr, Inhabited

namespace Timing

/-- The threshold of a hold for which none is given, in milliseconds. -/
def defaultThreshold : Nat := 150

/-- The delay of the delayed action of a hold for which none is given, in milliseconds. -/
def defaultDelayedAction : Nat := 150

/-- The timing `own`, with what it leaves open taken from `fallback`. -/
def orElse (own fallback : Timing) : Timing where
  threshold := own.threshold <|> fallback.threshold
  delayedAction := own.delayedAction <|> fallback.delayedAction
  aloneTimeout := own.aloneTimeout <|> fallback.aloneTimeout

/-- There is nothing to take from a timing that leaves everything open. -/
@[simp] theorem orElse_empty (timing : Timing) : timing.orElse {} = timing := by
  obtain ⟨threshold, delayedAction, aloneTimeout⟩ := timing
  cases threshold <;> cases delayedAction <;> cases aloneTimeout <;> rfl

/-- Of three timings it does not matter which two are put together first. -/
theorem orElse_assoc (a b c : Timing) : (a.orElse b).orElse c = a.orElse (b.orElse c) := by
  obtain ⟨threshold, delayedAction, aloneTimeout⟩ := a
  cases threshold <;> cases delayedAction <;> cases aloneTimeout <;> rfl

/-- The threshold that applies. -/
def effectiveThreshold (timing : Timing) : Nat :=
  timing.threshold.getD defaultThreshold

/-- The delay that applies. -/
def effectiveDelayedAction (timing : Timing) : Nat :=
  timing.delayedAction.getD defaultDelayedAction

end Timing

end Hold

/-- What a held key does, and when. -/
structure Hold where
  action : Hold.Action
  timing : Hold.Timing := {}
  deriving DecidableEq, Repr

end KeyRemap
