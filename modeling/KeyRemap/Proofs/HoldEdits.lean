import KeyRemap.Proofs.Inventory
import Mathlib.Data.List.Induction

/-!
# Holds as they are built

A binding of a rule is built edit by edit, and so is the rule. What comes of the edits can be read off
their sequence: destinations follow each other in the order of their edits, of the hold actions the
last one counts, and of each time the last one that is set after the first hold action
(`HoldBinding.BuiltBy`). The compiled record of the binding takes each time from there, else from the
last timing of the rule, else from the defaults (`Record.Holds`).
-/

namespace KeyRemap

/-! ## The times of a timing -/

namespace Hold.Timing

/-- One of the times of a timing. -/
inductive Field where
  | threshold | delayedAction | aloneTimeout
  deriving DecidableEq, Repr

/-- A time of a timing, if it is given. -/
def get (timing : Timing) : Field → Option Nat
  | .threshold => timing.threshold
  | .delayedAction => timing.delayedAction
  | .aloneTimeout => timing.aloneTimeout

/-- A time that the one timing leaves open is the one of the other. -/
theorem get_orElse (own fallback : Timing) (field : Field) :
    (own.orElse fallback).get field = (own.get field).or (fallback.get field) := by
  cases field <;> exact Option.orElse_eq_or ..

/-- A timing is made up of its times. -/
theorem eq_of_get {a b : Timing} (h : ∀ field, a.get field = b.get field) : a = b := by
  obtain ⟨threshold, delayedAction, aloneTimeout⟩ := a
  obtain rfl : threshold = b.threshold := h .threshold
  obtain rfl : delayedAction = b.delayedAction := h .delayedAction
  obtain rfl : aloneTimeout = b.aloneTimeout := h .aloneTimeout
  rfl

end Hold.Timing

/-- A hold, if there is one, is made up of its action and its times. -/
theorem Hold.eq_of_action_of_time {hold other : Option Hold}
    (haction : hold.map action = other.map action)
    (htime : ∀ field, (hold.bind fun hold => hold.timing.get field) =
      other.bind fun hold => hold.timing.get field) : hold = other := by
  cases hold with
  | none => exact (Option.map_eq_none_iff.mp haction.symm).symm
  | some hold =>
      obtain ⟨found, rfl, hfound⟩ := Option.map_eq_some_iff.mp haction.symm
      have htiming : hold.timing = found.timing := Timing.eq_of_get htime
      rw [Option.some_inj, Hold.mk.injEq]
      exact ⟨hfound.symm, htiming⟩

/-! ## The last word of a sequence -/

/-- The last thing that a sequence of steps gives, where each of them may give one or not. -/
def latest? {α β : Type} (gives : α → Option β) (steps : List α) : Option β :=
  (steps.filterMap gives).getLast?

/-- The last step adds what it gives at the end. -/
theorem filterMap_concat {α β : Type} (gives : α → Option β) (steps : List α) (last : α) :
    (steps ++ [last]).filterMap gives = steps.filterMap gives ++ (gives last).toList := by
  rw [List.filterMap_append, List.filterMap_cons]
  cases gives last <;> rfl

/-- The last step counts before all others where it gives something. -/
theorem latest?_concat {α β : Type} (gives : α → Option β) (steps : List α) (last : α) :
    latest? gives (steps ++ [last]) = (gives last).or (latest? gives steps) := by
  rw [latest?, latest?, filterMap_concat, List.getLast?_append]
  cases gives last <;> rfl

/-! ## Bindings -/

namespace HoldBinding

open Hold.Timing (Field)

namespace Edit

/-- The destination that an edit adds. -/
def destination? : Edit → Option Destination
  | .to destination => some destination
  | _ => none

/-- The description that an edit gives. -/
def description? : Edit → Option String
  | .describe description => some description
  | _ => none

/-- The hold action that an edit gives. -/
def action? : Edit → Option Hold.Action
  | .onHold action => some action
  | _ => none

/-- The value that an edit gives to a time. -/
def time? (field : Field) : Edit → Option Nat
  | .threshold ms => if field = .threshold then some ms else none
  | .delayedAction ms => if field = .delayedAction then some ms else none
  | .aloneTimeout ms => if field = .aloneTimeout then some ms else none
  | _ => none

/-- The edits from the first hold action on. -/
def held (edits : List Edit) : List Edit :=
  edits.dropWhile fun edit => edit.action?.isNone

/-- There are edits from the first action on exactly when there is an action. -/
theorem held_eq_nil_iff {edits : List Edit} : held edits = [] ↔ latest? action? edits = none := by
  rw [held, latest?, List.dropWhile_eq_nil_iff, List.getLast?_eq_none_iff,
    List.filterMap_eq_nil_iff]
  simp only [Option.isNone_iff_eq_none]

/-- The first hold action starts the hold, and it sets no time. After it, the last edit goes before
all others. -/
theorem latest?_held_concat (field : Field) (edits : List Edit) (last : Edit) :
    latest? (time? field) (held (edits ++ [last])) =
      if latest? action? edits = none then none
      else (last.time? field).or (latest? (time? field) (held edits)) := by
  split
  · next hnone =>
      have hnil := held_eq_nil_iff.mpr hnone
      rw [held] at hnil
      rw [held, List.dropWhile_append, hnil]
      cases last <;> rfl
  · next hsome =>
      have hheld : held (edits ++ [last]) = held edits ++ [last] := by
        have hne : held edits ≠ [] := fun hnil => hsome (held_eq_nil_iff.mp hnil)
        rw [held] at hne
        rw [held, held, List.dropWhile_append, if_neg (by simpa using hne)]
      rw [hheld, latest?_concat]

end Edit

/-- The time that a binding sets for its hold. -/
def time? (binding : HoldBinding) (field : Field) : Option Nat :=
  binding.hold.bind fun hold => hold.timing.get field

/-! ### One edit -/

section Step

variable (binding : HoldBinding) (last : Edit)

/-- No edit changes the source of a binding. -/
theorem source_edit : (binding.edit last).source = binding.source := by
  cases last <;> rfl

/-- An edit can only add a destination after those that are there. -/
theorem destinations_edit :
    (binding.edit last).destinations = binding.destinations ++ last.destination?.toList := by
  cases last <;> first | rfl | exact (List.append_nil _).symm

/-- A description that is given counts before the one that is there. -/
theorem description_edit :
    (binding.edit last).description = last.description?.or binding.description := by
  cases last <;> rfl

/-- An action that is given counts before the one that is there. -/
theorem action_edit :
    (binding.edit last).hold.map Hold.action = last.action?.or (binding.hold.map Hold.action) := by
  cases last <;> cases hhold : binding.hold <;> simp [edit, setAction, setTiming, Edit.action?, hhold]

/-- An edit sets a time only where there is a hold, and a new hold action keeps the times of the one
before it. -/
theorem time?_edit (field : Field) :
    (binding.edit last).time? field =
      if binding.hold = none then none else (last.time? field).or (binding.time? field) := by
  cases hhold : binding.hold with
  | none =>
      cases last <;> cases field <;> simp [time?, edit, setAction, setTiming, hhold, Hold.Timing.get]
  | some hold =>
      cases last <;> cases field <;>
        simp [time?, edit, setAction, setTiming, hhold, Hold.Timing.get, Edit.time?]

end Step

/-! ### All edits -/

/-- What a sequence of edits makes of a binding. -/
structure BuiltBy (source : Combo) (edits : List Edit) (binding : HoldBinding) : Prop where
  source : binding.source = source
  destinations : binding.destinations = edits.filterMap Edit.destination?
  description : binding.description = latest? Edit.description? edits
  action : binding.hold.map Hold.action = latest? Edit.action? edits
  time : ∀ field, binding.time? field = latest? (Edit.time? field) (Edit.held edits)

namespace BuiltBy

variable {source : Combo} {edits : List Edit} {binding : HoldBinding}

/-- One more edit keeps a binding as its edits build it. -/
theorem edit (h : BuiltBy source edits binding) (last : Edit) :
    BuiltBy source (edits ++ [last]) (binding.edit last) where
  source := by rw [source_edit, h.source]
  destinations := by rw [destinations_edit, h.destinations, filterMap_concat]
  description := by rw [description_edit, h.description, latest?_concat]
  action := by rw [action_edit, h.action, latest?_concat]
  time field := by
    have hnone : binding.hold = none ↔ latest? Edit.action? edits = none := by
      rw [← h.action, Option.map_eq_none_iff]
    rw [time?_edit, Edit.latest?_held_concat, h.time]
    simp only [hnone]

/-- By induction on the edits, of which the last one acts on what those before it have built. -/
theorem ofEdits (source : Combo) (edits : List Edit) :
    BuiltBy source edits (ofEdits source edits) := by
  induction edits using List.reverseRecOn with
  | nil => exact ⟨rfl, rfl, rfl, rfl, fun _ => rfl⟩
  | append_singleton edits last ih =>
      rw [ofEdits_concat]
      exact ih.edit last

/-- The edits leave no choice. -/
theorem unique {other : HoldBinding} (h : BuiltBy source edits binding)
    (hother : BuiltBy source edits other) : binding = other := by
  have hhold : binding.hold = other.hold :=
    Hold.eq_of_action_of_time (h.action.trans hother.action.symm) fun field =>
      (h.time field).trans (hother.time field).symm
  obtain ⟨⟨_, _, _⟩, hold⟩ := binding
  obtain ⟨⟨_, _, _⟩, otherHold⟩ := other
  obtain rfl : hold = otherHold := hhold
  obtain ⟨rfl, rfl, rfl, -, -⟩ := h
  obtain ⟨rfl, rfl, rfl, -, -⟩ := hother
  rfl

end BuiltBy

/-- The edits of a binding build it, and they build nothing else. -/
theorem ofEdits_eq_iff {source : Combo} {edits : List Edit} {binding : HoldBinding} :
    ofEdits source edits = binding ↔ BuiltBy source edits binding :=
  ⟨fun h => h ▸ BuiltBy.ofEdits source edits, (BuiltBy.ofEdits source edits).unique⟩

/-- There is a hold when some edit gives it an action. -/
theorem isSome_hold_ofEdits_iff {source : Combo} {edits : List Edit} :
    (ofEdits source edits).hold.isSome ↔ ∃ action, .onHold action ∈ edits := by
  rw [← Option.isSome_map (f := Hold.action), (BuiltBy.ofEdits source edits).action, latest?,
    List.getLast?_isSome]
  constructor
  · intro hne
    obtain ⟨action, hmem⟩ := List.exists_mem_of_ne_nil _ hne
    obtain ⟨edit, hedit, hgives⟩ := List.mem_filterMap.mp hmem
    cases edit <;> cases hgives
    exact ⟨action, hedit⟩
  · rintro ⟨action, hmem⟩
    exact List.ne_nil_of_mem (List.mem_filterMap.mpr ⟨_, hmem, rfl⟩)

end HoldBinding

/-! ## Rules -/

namespace Rule

namespace Edit

/-- The description that an edit gives. -/
def description? : Edit → Option String
  | .describe description => some description
  | _ => none

/-- The timing that an edit gives. -/
def timing? : Edit → Option Hold.Timing
  | .timing given => some given
  | _ => none

/-- The binding that an edit adds. -/
def binding? : Edit → Option HoldBinding
  | .bind source edits => some (.ofEdits source edits)
  | _ => none

end Edit

/-- What a sequence of edits makes of a rule. -/
structure BuiltBy (description : String) (device : Option Device.Index) (edits : List Edit)
    (rule : Rule) : Prop where
  description : rule.description =
    (latest? Edit.description? edits).or (named description device).description
  device : rule.device = device
  timing : rule.timing = (latest? Edit.timing? edits).getD {}
  bindings : rule.bindings = edits.filterMap Edit.binding?

namespace BuiltBy

variable {description : String} {device : Option Device.Index} {edits : List Edit} {rule : Rule}

/-- One more edit keeps a rule as its edits build it. -/
theorem edit (h : BuiltBy description device edits rule) (last : Edit) :
    BuiltBy description device (edits ++ [last]) (rule.edit last) := by
  constructor
  · rw [latest?_concat, Option.or_assoc, ← h.description]
    cases last <;> rfl
  · rw [← h.device]
    cases last <;> rfl
  · rw [latest?_concat, Option.getD_or, ← h.timing]
    cases last <;> rfl
  · rw [filterMap_concat, ← h.bindings]
    cases last <;> first | rfl | exact (List.append_nil _).symm

/-- By induction on the edits, as for bindings. -/
theorem ofEdits (description : String) (device : Option Device.Index) (edits : List Edit) :
    BuiltBy description device edits (ofEdits description device edits) := by
  induction edits using List.reverseRecOn with
  | nil => exact ⟨rfl, rfl, rfl, rfl⟩
  | append_singleton edits last ih =>
      rw [ofEdits_concat]
      exact ih.edit last

end BuiltBy

end Rule

/-! ## Records -/

/-- An event as it is sent on a tap when `event` is sent on cancellation: a key halts what follows
it, and nothing else is changed. -/
inductive Event.TappedAs : Event → Event → Prop where
  | key (pressed : Key) (modifiers : Modifiers) (holdDown : Option Nat) (halt : Bool) :
      TappedAs (.key pressed modifiers holdDown halt) (.key pressed modifiers holdDown true)
  | button (pressed : Button) : TappedAs (.button pressed) (.button pressed)
  | shell (command : String) : TappedAs (.shell command) (.shell command)
  | setVariable (name : String) (value : Bool) :
      TappedAs (.setVariable name value) (.setVariable name value)

/-- An event with a halt is the one that is sent on a tap. -/
theorem Event.tappedAs_halted (event : Event) : event.TappedAs event.halted := by
  cases event <;> constructor

/-- The event that performs a hold action: a key with its modifiers, which is not held down for a
time and halts nothing, or a command. -/
inductive Event.Performs : Event → Hold.Action → Prop where
  | key (pressed : Key) (modifiers : Modifiers) :
      Performs (.key pressed modifiers none false) (.key pressed modifiers)
  | shell (command : String) : Performs (.shell command) (.shell command)

/-- The event that is built for a hold action performs it. -/
theorem Hold.Action.performs_event (action : Hold.Action) : action.event.Performs action := by
  cases action <;> constructor

/-- The value that the edits of a binding and of its rule give to a time, those of the binding
first. -/
def Rule.givenTime? (calls : List Rule.Edit) (edits : List HoldBinding.Edit)
    (field : Hold.Timing.Field) : Option Nat :=
  (latest? (HoldBinding.Edit.time? field) (HoldBinding.Edit.held edits)).or
    ((latest? Rule.Edit.timing? calls).bind fun timing => timing.get field)

/-- What the record of a binding with a hold says: the key is `action` while it is held, and else
what the destinations send. -/
structure Record.Holds (calls : List Rule.Edit) (source : Combo) (edits : List HoldBinding.Edit)
    (action : Hold.Action) (record : Record) : Prop where
  source : record.source = .ofCombo source
  heldDown : ∃ event, record.heldDown = [event] ∧ event.Performs action
  tap : ∃ events, record.canceled = some events ∧
    List.Forall₂ Event.TappedAs events record.alone ∧
    (edits.filterMap HoldBinding.Edit.destination? ≠ [] →
      List.Forall₂ Destination.SentAs (edits.filterMap HoldBinding.Edit.destination?) events)
  parameters : record.parameters = some {
    aloneTimeout := Rule.givenTime? calls edits .aloneTimeout
    heldDownThreshold := (Rule.givenTime? calls edits .threshold).getD 150
    delayedAction := (Rule.givenTime? calls edits .delayedAction).getD 150 }

/-- The time that counts for the hold of a binding: its own, or else that of its rule. -/
theorem Rule.get_timing_orElse {calls : List Rule.Edit} {source : Combo}
    {edits : List HoldBinding.Edit} {rule : Rule} {binding : HoldBinding} {hold : Hold}
    {description : String} {device : Option Device.Index}
    (hrule : rule.BuiltBy description device calls) (hbinding : binding.BuiltBy source edits)
    (hhold : binding.hold = some hold) (field : Hold.Timing.Field) :
    (hold.timing.orElse rule.timing).get field = Rule.givenTime? calls edits field := by
  have hown := hbinding.time field
  rw [HoldBinding.time?, hhold, Option.bind_some] at hown
  rw [Hold.Timing.get_orElse, givenTime?, hown, hrule.timing]
  cases latest? Rule.Edit.timing? calls with
  | none => cases field <;> rfl
  | some timing => rfl

/-- The record of a binding with a hold says what the edits gave. -/
theorem HoldBinding.holds_record {config : Config} {calls : List Rule.Edit} {source : Combo}
    {edits : List HoldBinding.Edit} {rule : Rule} {binding : HoldBinding} {action : Hold.Action}
    {description : String} {device : Option Device.Index}
    (hrule : rule.BuiltBy description device calls) (hbinding : binding.BuiltBy source edits)
    (haction : latest? Edit.action? edits = some action) (hsendable : binding.toBinding.Sendable) :
    (binding.record config rule).Holds calls source edits action := by
  obtain ⟨hold, hhold, rfl⟩ := Option.map_eq_some_iff.mp (hbinding.action.trans haction)
  have hget := Rule.get_timing_orElse hrule hbinding hhold
  have hrecord : binding.record config rule = binding.holdRecord {
      description := binding.description.getD binding.source.text
      source := .ofCombo binding.source
      guards := config.deviceGuards rule.device } hold rule.timing
        (binding.sent.map Event.ofAction) := by
    rw [HoldBinding.record, hhold]
  rw [hrecord, holdRecord]
  constructor
  · exact congrArg Source.ofCombo hbinding.source
  · exact ⟨_, rfl, hold.action.performs_event⟩
  · refine ⟨_, rfl, ?_, ?_⟩
    · rw [List.forall₂_map_right_iff, List.forall₂_same]
      exact fun event _ => event.tappedAs_halted
    · intro hne
      rw [← hbinding.destinations] at hne ⊢
      have hsent := Binding.sentAs hsendable
      -- something is sent for every destination, so the bare key is not put in its place
      have hevents : ¬ (binding.sent.map Event.ofAction).isEmpty := by
        intro hempty
        rw [List.isEmpty_iff.mp hempty, List.forall₂_nil_right_iff] at hsent
        exact hne hsent
      rwa [tapEvents, if_neg hevents]
  · rw [← hget, ← hget, ← hget]
    rfl

/-- The group of a rule stands in the document. -/
theorem Config.group_mem_output {config : Config} {rule : Rule} (h : rule ∈ config.rules) :
    Origin.group config (rule.fullDescription, rule.origins) ∈ config.output.groups := by
  refine List.mem_map_of_mem ?_
  rw [outline, List.mem_append, List.mem_append]
  exact Or.inl (Or.inr (List.mem_map_of_mem h))

/-- Holds as they are built. The edits of a binding make of it what they say and nothing else: it
has a hold when one of them gives an action, the last of these counts, of each time the last setting
after the first action counts, and the destinations follow each other. In every document the record
of a binding with a hold performs that action while the key is held, taps what it sends on
cancellation, and has the times of the binding, else those of the last timing that the edits of the
rule give, before or after the binding, else 150 for the two that must be there. -/
theorem Compiler.holds_as_built :
    (∀ (source : Combo) (edits : List HoldBinding.Edit) (binding : HoldBinding),
      HoldBinding.ofEdits source edits = binding ↔ binding.BuiltBy source edits) ∧
    (∀ (source : Combo) (edits : List HoldBinding.Edit),
      (HoldBinding.ofEdits source edits).hold.isSome ↔ ∃ action, .onHold action ∈ edits) ∧
    ∀ (compiler : Compiler) (config : Config) (document : Document),
      (compiler.compile config).2 = .ok document →
      ∀ (description : String) (device : Option Device.Index) (calls : List Rule.Edit),
        Rule.ofEdits description device calls ∈ config.rules →
        ∀ (source : Combo) (edits : List HoldBinding.Edit) (action : Hold.Action),
          .bind source edits ∈ calls → latest? HoldBinding.Edit.action? edits = some action →
          ∃ group ∈ document.groups, ∃ record ∈ group.records,
            (Rule.ofEdits description device calls).group config = .ok group ∧
            (HoldBinding.ofEdits source edits).records config
              (Rule.ofEdits description device calls) = .ok [record] ∧
            record.Holds calls source edits action := by
  refine ⟨fun _ _ _ => HoldBinding.ofEdits_eq_iff,
    fun _ _ => HoldBinding.isSome_hold_ofEdits_iff, ?_⟩
  intro compiler config document hcompile description device calls hmem source edits action hbind
    haction
  obtain ⟨hvalid, rfl⟩ := compile_eq_ok_iff.mp hcompile
  have hrule := Rule.BuiltBy.ofEdits description device calls
  have hbinding := HoldBinding.BuiltBy.ofEdits source edits
  -- what the edits build matters from here on, and no longer how they build it
  generalize Rule.ofEdits description device calls = rule at hmem hrule ⊢
  have hdeclared : HoldBinding.ofEdits source edits ∈ rule.bindings := by
    rw [hrule.bindings]
    exact List.mem_filterMap.mpr ⟨_, hbind, rfl⟩
  generalize HoldBinding.ofEdits source edits = binding at hbinding hdeclared ⊢
  have hsendable := hvalid.sound.sendable.rules rule hmem
  have hsome : binding.hold.isSome := by
    rw [← Option.isSome_map (f := Hold.action), hbinding.action, haction]
    rfl
  refine ⟨_, Config.group_mem_output hmem, binding.record config rule, ?_,
    Rule.group_eq hsendable, ?_,
    HoldBinding.holds_record hrule hbinding haction (hsendable binding hdeclared)⟩
  · exact List.mem_map_of_mem (f := Origin.record config) (Rule.mem_origins hdeclared hsome)
  · rw [HoldBinding.records_eq (hsendable binding hdeclared), hsome, Bool.true_or, if_pos rfl]

/-- A rule whose timing comes after its binding, which sets a threshold before there is a hold and
again after it, and gives two actions. -/
def Rule.homeRowEdits : List Rule.Edit := [
  .timing { threshold := some 120 },
  .bind ⟨.f, ∅⟩ [.threshold 90, .onHold (.key .leftShift ∅), .to ⟨.text "open -a Mail", ∅⟩,
    .threshold 200, .onHold (.shell "say held"), .to ⟨.key .f, ∅⟩, .threshold 250],
  .timing { delayedAction := some 300, aloneTimeout := some 400 }]

/-- The configuration with nothing but this rule. -/
def Config.homeRow : Config where
  rules := [Rule.ofEdits "Home row" none Rule.homeRowEdits]

/-- The home row can be compiled. -/
theorem Compiler.compile_homeRow :
    (({} : Compiler).compile .homeRow).2 = .ok Config.homeRow.output :=
  compile_of_passes (by decide +kernel)

/-- The second action, the threshold that was set last, the delay and the timeout of the rule. -/
theorem Compiler.holds_as_built_homeRow :
    (({} : Compiler).compile .homeRow).2 = .ok Config.homeRow.output ∧
      ∃ group ∈ Config.homeRow.output.groups, ∃ record ∈ group.records,
        record.heldDown = [.shell "say held"] ∧
        record.parameters = some ⟨some 400, 250, 300⟩ := by
  obtain ⟨-, -, hrecord⟩ := holds_as_built
  obtain ⟨group, hgroup, record, hmem, -, -, hholds⟩ :=
    hrecord {} .homeRow _ compile_homeRow "Home row" none Rule.homeRowEdits List.mem_cons_self ⟨.f, ∅⟩ _
      (.shell "say held") (List.mem_cons_of_mem _ List.mem_cons_self) rfl
  obtain ⟨_, hheld, ⟨⟩⟩ := hholds.heldDown
  exact ⟨compile_homeRow, group, hgroup, record, hmem, hheld, hholds.parameters⟩

end KeyRemap
