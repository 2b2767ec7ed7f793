import KeyRemap.Proofs.Lowering
import KeyRemap.Proofs.ModifierSets

/-!
# What a cancelled hold gives back

A strict trigger and a binding with a hold take a keystroke and wait; when another key comes between,
they send something in its place. A strict trigger sends the keystroke that it took. A binding with a
hold and without destinations sends its bare key: that is the keystroke only where its source demands
no modifiers, and a shortcut that is held loses them (`Compiler.given_back`).
-/

namespace KeyRemap

/-- An event is the keystroke of a combination: its key with the modifiers that must be held, in
their order, and with no other. -/
def Event.IsKeystroke (source : Combo) (event : Event) : Prop :=
  ∃ modifiers : Modifiers, modifiers.toList = source.modifiers.toList.filter (· ≠ .any) ∧
    event = .key source.key modifiers none false

/-- On cancellation a record sends the keystroke of a combination and nothing else. -/
def Record.GivesBack (source : Combo) (record : Record) : Prop :=
  ∃ event, record.canceled = some [event] ∧ event.IsKeystroke source

namespace Modifiers

/-- What must be held is everything but `any`. -/
theorem mandatory_eq (set : Modifiers) : set.mandatory = set.toList.filter (· ≠ .any) := by
  unfold mandatory
  apply List.filter_congr
  intro modifier _
  cases modifier <;> rfl

/-- No modifier must be held twice. -/
theorem nodup_mandatory (set : Modifiers) : set.mandatory.Nodup :=
  set.nodup.filter _

end Modifiers

namespace Event

variable {source : Combo} {modifiers : Modifiers}

/-- A key that is pressed with modifiers is the keystroke of a combination exactly when these are
the ones that must be held, in their order. -/
theorem isKeystroke_press_iff :
    (press source.key modifiers).IsKeystroke source ↔
      modifiers.toList = source.modifiers.mandatory := by
  rw [source.modifiers.mandatory_eq]
  constructor
  · rintro ⟨others, hothers, heq⟩
    obtain rfl : modifiers = others := (Event.key.inj heq).2.1
    exact hothers
  · intro h
    exact ⟨modifiers, h, rfl⟩

/-- The bare key is the keystroke where nothing but `any` is declared with it. -/
theorem isKeystroke_bare_iff :
    (press source.key ∅).IsKeystroke source ↔ ∀ modifier ∈ source.modifiers, modifier = .any := by
  rw [isKeystroke_press_iff, source.modifiers.mandatory_eq, Modifiers.toList_empty, eq_comm,
    List.filter_eq_nil_iff]
  simp only [ne_eq, decide_not, Bool.not_eq_true', decide_eq_false_iff_not, not_not,
    Modifiers.mem_iff]

end Event

/-- A strict trigger gives back the keystroke that it took. -/
theorem Base.givesBack_triggerRecord {config : Config} {base : Base} (h : base.strict.isSome) :
    (base.triggerRecord config).GivesBack base.trigger := by
  obtain ⟨timing, htiming⟩ := Option.isSome_iff_exists.mp h
  refine ⟨base.literalPress, ?_, ?_⟩
  · rw [triggerRecord, htiming]
  · rw [literalPress, Event.isKeystroke_press_iff, Modifiers.toList_ofList,
      eraseDups_eq_self base.trigger.modifiers.nodup_mandatory]

/-- A binding with a hold and without destinations gives back its bare key. -/
theorem HoldBinding.canceled_record {config : Config} {rule : Rule} {binding : HoldBinding}
    (hhold : binding.hold.isSome) (hdestinations : binding.destinations = []) :
    (binding.record config rule).canceled = some [.press binding.source.key ∅] := by
  obtain ⟨hold, hhold⟩ := Option.isSome_iff_exists.mp hhold
  rw [record, hhold, Binding.sent, hdestinations]
  rfl

/-- So it gives back the keystroke exactly where its source demands no modifiers. -/
theorem HoldBinding.givesBack_record_iff {config : Config} {rule : Rule} {binding : HoldBinding}
    (hhold : binding.hold.isSome) (hdestinations : binding.destinations = []) :
    (binding.record config rule).GivesBack binding.source ↔
      ∀ modifier ∈ binding.source.modifiers, modifier = .any := by
  rw [Record.GivesBack, canceled_record hhold hdestinations, ← Event.isKeystroke_bare_iff]
  constructor
  · rintro ⟨event, heq, hevent⟩
    obtain rfl : Event.press binding.source.key ∅ = event :=
      List.head_eq_of_cons_eq (Option.some.inj heq)
    exact hevent
  · exact fun hbare => ⟨_, rfl, hbare⟩

namespace Config

variable {config : Config}

/-- What is declared has its record in the document. -/
theorem record_mem_output {origin : Origin} (h : origin ∈ config.declared) :
    origin.record config ∈ config.output.records := by
  rw [records_output]
  exact List.mem_map_of_mem (config.origins_perm_declared.symm.subset h)

/-- The record of the trigger of every base stands in the document. -/
theorem triggerRecord_mem_output {base : Base} (h : base ∈ config.bases) :
    base.triggerRecord config ∈ config.output.records := by
  have hbase : .trigger base ∈ config.bases.flatMap Base.declared :=
    List.mem_flatMap.mpr ⟨base, h, base.trigger_mem_declared⟩
  exact record_mem_output (List.mem_append_left _ (List.mem_append_left _ hbase))

/-- The record of every binding with a hold stands in the document. -/
theorem heldRecord_mem_output {rule : Rule} {binding : HoldBinding} (hrule : rule ∈ config.rules)
    (hbinding : binding ∈ rule.bindings) (hhold : binding.hold.isSome) :
    binding.record config rule ∈ config.output.records := by
  have horigins : .ofRule rule binding ∈ config.rules.flatMap Rule.origins :=
    List.mem_flatMap.mpr ⟨rule, hrule, Rule.mem_origins hbinding hhold⟩
  exact record_mem_output (List.mem_append_left _ (List.mem_append_right _ horigins))

end Config

namespace Compiler

/-- What cancelled holds give back. In every document a strict trigger gives back the keystroke that
it took: the key with all modifiers that must be held, in their order. A binding with a hold and
without destinations gives back a single key event, that of its bare key. It is the keystroke where
the source declares no modifier but `any`, and nowhere else. -/
theorem given_back {compiler : Compiler} {config : Config} {document : Document}
    (h : (compiler.compile config).2 = .ok document) :
    (∀ base ∈ config.bases, base.strict.isSome →
      base.triggerRecord config ∈ document.records ∧
        (base.triggerRecord config).GivesBack base.trigger) ∧
    ∀ rule ∈ config.rules, ∀ binding ∈ rule.bindings, binding.hold.isSome →
      binding.destinations = [] →
        binding.record config rule ∈ document.records ∧
          (binding.record config rule).canceled = some [.press binding.source.key ∅] ∧
          ((binding.record config rule).GivesBack binding.source ↔
            ∀ modifier ∈ binding.source.modifiers, modifier = .any) := by
  obtain ⟨-, rfl⟩ := compile_eq_ok_iff.mp h
  constructor
  · intro base hbase hstrict
    exact ⟨Config.triggerRecord_mem_output hbase, Base.givesBack_triggerRecord hstrict⟩
  · intro rule hrule binding hbinding hhold hdestinations
    exact ⟨Config.heldRecord_mem_output hrule hbinding hhold,
      HoldBinding.canceled_record hhold hdestinations,
      HoldBinding.givesBack_record_iff hhold hdestinations⟩

end Compiler

/-! ## A shortcut that is held -/

/-- A binding of a shortcut, with a hold and nothing else. -/
def HoldBinding.shortcut : HoldBinding :=
  ofEdits (.ofList .a [.leftCommand]) [.onHold (.key .leftShift ∅)]

/-- The rule of the shortcut. -/
def Rule.shortcut : Rule where
  description := some "one"
  bindings := [.shortcut]

/-- A strict base, whose trigger is a shortcut as well, and the rule. -/
def Config.shortcuts : Config where
  bases := [{ trigger := .ofList .f16 [.leftCommand, .any, .leftShift], strict := some {} }]
  rules := [.shortcut]

namespace Compiler

/-- The shortcuts can be compiled. -/
theorem compile_shortcuts :
    (({} : Compiler).compile .shortcuts).2 = .ok Config.shortcuts.output :=
  compile_of_passes (by decide +kernel)

/-- The base gives back its shortcut, and the binding does not. -/
theorem given_back_shortcuts :
    (({} : Compiler).compile .shortcuts).2 = .ok Config.shortcuts.output ∧
      (∀ base ∈ Config.shortcuts.bases,
        (base.triggerRecord .shortcuts).GivesBack base.trigger) ∧
      ¬ (HoldBinding.shortcut.record .shortcuts .shortcut).GivesBack
        HoldBinding.shortcut.source := by
  obtain ⟨hbases, hrules⟩ := given_back compile_shortcuts
  obtain ⟨-, -, hiff⟩ := hrules .shortcut List.mem_cons_self .shortcut List.mem_cons_self rfl rfl
  refine ⟨compile_shortcuts, fun base hbase => (hbases base hbase ?_).2, fun hback => ?_⟩
  · cases List.mem_singleton.mp hbase
    rfl
  · cases hiff.mp hback .leftCommand (by decide)

/-- The rule compiles, its record is in the document, and cancelling the hold loses the shortcut. -/
theorem shortcut_lost :
    (({} : Compiler).compile .shortcuts).2 = .ok Config.shortcuts.output ∧
      Rule.shortcut ∈ Config.shortcuts.rules ∧ HoldBinding.shortcut ∈ Rule.shortcut.bindings ∧
      HoldBinding.shortcut.hold.isSome ∧ HoldBinding.shortcut.destinations = [] ∧
      HoldBinding.shortcut.record .shortcuts .shortcut ∈ Config.shortcuts.output.records ∧
      ¬ (HoldBinding.shortcut.record .shortcuts .shortcut).GivesBack
        HoldBinding.shortcut.source := by
  have hrule : Rule.shortcut ∈ Config.shortcuts.rules := List.mem_cons_self
  have hbinding : HoldBinding.shortcut ∈ Rule.shortcut.bindings := List.mem_cons_self
  refine ⟨compile_shortcuts, hrule, hbinding, rfl, rfl,
    Config.heldRecord_mem_output hrule hbinding rfl, fun hback => ?_⟩
  have hany := (HoldBinding.givesBack_record_iff rfl rfl).mp hback
  cases hany .leftCommand (by decide)

end Compiler

end KeyRemap
