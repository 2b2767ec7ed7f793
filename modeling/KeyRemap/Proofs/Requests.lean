import KeyRemap.Cli.Options
import KeyRemap.Proofs.Traversals

/-!
# What arguments ask for

Arguments are read one token after the other: a positional argument, or a flag. So what one token
keeps, a whole reading keeps. No output file has an empty name (`Request.output_ne_empty`), and a
flag before all arguments is added to what they ask for (`Request.ofArguments_stdout`).
-/

namespace KeyRemap.Cli

namespace Seen

/-- A part of the arguments that is read in one step. -/
inductive Token where
  | positional (text : String)
  | flag (flag : Option Flag)

/-- Reads a token. -/
def take (seen : Seen) : Token → Except Request Seen
  | .positional text => seen.positional text
  | .flag flag => seen.flag flag

/-- The tokens of arguments, where options may occur. -/
def tokens : List String → List Token
  | [] => []
  | text :: rest =>
    match Argument.of text with
    | .endOfOptions => rest.map .positional
    | .positional text => .positional text :: tokens rest
    | .flags flags => flags.map .flag ++ tokens rest

/-- Arguments are read token by token. -/
theorem arguments_eq (seen : Seen) (arguments : List String) :
    seen.arguments arguments = (tokens arguments).foldlM take seen := by
  induction arguments generalizing seen with
  | nil => rfl
  | cons text rest ih =>
      rw [Seen.arguments, tokens]
      cases Argument.of text with
      | endOfOptions => rw [List.foldlM_map]; rfl
      | positional text =>
          rw [List.foldlM_cons]
          exact bind_congr fun seen => ih seen
      | flags flags =>
          rw [List.foldlM_append, List.foldlM_map]
          exact bind_congr fun seen => ih seen

variable {seen next final : Seen} {token : Token} {tokens : List Token}

/-- The two things a token can do. -/
theorem take_eq_ok (h : seen.take token = .ok next) :
    (∃ text, token = .positional text ∧ text ≠ "" ∧ seen.positionals.length < 2 ∧
      next = { seen with positionals := seen.positionals ++ [text] }) ∨
    ∃ flag, token = .flag (some flag) ∧ flag ≠ .help ∧ flag ≠ .version ∧ flag ∉ seen.flags ∧
      next = { seen with flags := flag :: seen.flags } := by
  cases token with
  | positional text =>
      rw [take, positional] at h
      split at h
      · cases h
      · next hfits =>
          cases h
          simp only [String.isEmpty_iff, not_or, Nat.not_le] at hfits
          exact .inl ⟨text, rfl, hfits.1, hfits.2, rfl⟩
  | flag flag =>
      rw [take, Seen.flag.eq_def] at h
      split at h
      · cases h
      · cases h
      · cases h
      · next flag hhelp hversion =>
          split at h
          · cases h
          · next hfresh =>
              cases h
              exact .inr ⟨flag, rfl, hhelp, hversion, hfresh, rfl⟩

/-- A token that ends the reading does not ask for a run. -/
theorem take_ne_run (seen : Seen) (token : Token) (options : Options) :
    seen.take token ≠ .error (.run options) := by
  intro h
  cases token with
  | positional text =>
      rw [take, positional] at h
      split at h <;> cases h
  | flag flag =>
      rw [take, Seen.flag.eq_def] at h
      split at h
      · cases h
      · cases h
      · cases h
      · split at h <;> cases h

/-- No positional argument is empty. -/
theorem positionals_ne_empty (hseen : "" ∉ seen.positionals) (h : seen.take token = .ok next) :
    "" ∉ next.positionals := by
  obtain ⟨text, -, htext, -, rfl⟩ | ⟨flag, -, -, -, -, rfl⟩ := take_eq_ok h
  · rw [List.mem_append, List.mem_singleton, not_or]
    exact ⟨hseen, htext.symm⟩
  · exact hseen

/-- What has been read, and before all of it the flag for printing. -/
def printing (seen : Seen) : Seen := { seen with flags := seen.flags ++ [.stdout] }

/-- A token other than the flag for printing is read in the same way after that flag. -/
theorem take_printing (h : seen.take token = .ok next) (hnext : .stdout ∉ next.flags) :
    seen.printing.take token = .ok next.printing ∧ .stdout ∉ seen.flags := by
  obtain ⟨text, rfl, htext, hfits, rfl⟩ | ⟨flag, rfl, hhelp, hversion, hfresh, rfl⟩ := take_eq_ok h
  · refine ⟨?_, hnext⟩
    have hfits' : ¬ (text.isEmpty = true ∨ 2 ≤ seen.positionals.length) := by
      rw [String.isEmpty_iff, not_or, Nat.not_le]
      exact ⟨htext, hfits⟩
    exact if_neg hfits'
  · rw [List.mem_cons, not_or] at hnext
    refine ⟨?_, hnext.2⟩
    have hfresh' : flag ∉ seen.flags ++ [.stdout] := by
      rw [List.mem_append, List.mem_singleton, not_or]
      exact ⟨hfresh, Ne.symm hnext.1⟩
    cases flag with
    | help => exact absurd rfl hhelp
    | version => exact absurd rfl hversion
    | _ => exact if_neg hfresh'

/-- Where tokens were taken without the flag for printing, they can be taken after it as well. -/
theorem foldlM_printing (h : tokens.foldlM take seen = .ok final) (hfinal : .stdout ∉ final.flags) :
    tokens.foldlM take seen.printing = .ok final.printing ∧ .stdout ∉ seen.flags := by
  induction tokens generalizing seen with
  | nil =>
      cases h
      exact ⟨rfl, hfinal⟩
  | cons token rest ih =>
      rw [List.foldlM_cons, bind_eq_ok_iff] at h
      obtain ⟨next, htoken, hrest⟩ := h
      obtain ⟨hrest, hnext⟩ := ih hrest
      obtain ⟨htoken, hseen⟩ := take_printing htoken hnext
      exact ⟨bind_eq_ok_iff.mpr ⟨_, htoken, hrest⟩, hseen⟩

/-- With the flag for printing the request is the same but that it prints. -/
theorem request_printing {options : Options} (h : final.request = .run options) :
    final.printing.request = .run { options with stdout := true } := by
  rw [request] at h ⊢
  cases hpositionals : final.positionals with
  | nil => simp [hpositionals] at h
  | cons script others =>
      simp only [hpositionals, Request.run.injEq] at h
      subst h
      simp [printing, hpositionals]

end Seen

namespace Request

variable {arguments : List String} {options : Options}

/-- A run is asked for when all tokens have been read. -/
theorem ofArguments_eq_run_iff : ofArguments arguments = .run options ↔
    ∃ final, (Seen.tokens arguments).foldlM Seen.take {} = .ok final ∧
      final.request = .run options := by
  rw [ofArguments, Seen.arguments_eq]
  cases hread : (Seen.tokens arguments).foldlM Seen.take {} with
  | ok final => simp
  | error request =>
      refine iff_of_false ?_ (by simp)
      rintro rfl
      obtain ⟨seen, token, htoken⟩ := exists_of_foldlM_eq_error hread
      exact seen.take_ne_run token options htoken

/-- No output file has an empty name. -/
theorem output_ne_empty (h : ofArguments arguments = .run options) : options.output ≠ some "" := by
  obtain ⟨final, hread, hrequest⟩ := ofArguments_eq_run_iff.mp h
  have hempty : "" ∉ final.positionals :=
    foldlM_keeps (fun _ _ _ => Seen.positionals_ne_empty) List.not_mem_nil hread
  rw [Seen.request] at hrequest
  split at hrequest
  · cases hrequest
  · next script others hpositionals =>
      cases hrequest
      rw [hpositionals] at hempty
      exact fun heq => hempty (List.mem_cons_of_mem _ (List.mem_of_mem_head? heq))

/-- A flag for printing that is given first is one more thing that is asked for. -/
theorem ofArguments_stdout (h : ofArguments arguments = .run options)
    (hstdout : options.stdout = false) :
    ofArguments ("--stdout" :: arguments) = .run { options with stdout := true } := by
  obtain ⟨final, hread, hrequest⟩ := ofArguments_eq_run_iff.mp h
  have hfinal : .stdout ∉ final.flags := by
    rw [Seen.request] at hrequest
    split at hrequest
    · cases hrequest
    · cases hrequest
      exact of_decide_eq_false hstdout
  exact ofArguments_eq_run_iff.mpr
    ⟨final.printing, (Seen.foldlM_printing hread hfinal).1, Seen.request_printing hrequest⟩

end Request

end KeyRemap.Cli
