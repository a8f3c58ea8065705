import HouseStyle.Proofs.DocumentationWindow
import HouseStyle.Proofs.RuleFindings

namespace HouseStyle
open CommentTracking
open scoped List

section Lists

variable {α : Type} {test wider : α → Bool}

theorem filter_not_sublist (widens : ∀ item, test item = true → wider item = true)
    (items : List α) : items.filter (fun item => !wider item) <+ items.filter (fun item => !test item) := by
  refine List.monotone_filter_right items fun item missing => ?_
  rw [Bool.not_eq_true', ← Bool.not_eq_true] at missing ⊢
  exact mt (widens item) missing

theorem any_take_mono {limit more : Nat} (le : limit ≤ more) (items : List α)
    (any : (items.take limit).any test = true) : (items.take more).any test = true := by
  obtain ⟨item, member, passes⟩ := List.any_eq_true.mp any
  exact List.any_eq_true.mpr ⟨item, (List.take_prefix_take_left le).subset member, passes⟩

end Lists

/-! ## The three rules -/

theorem FunctionDocRule.check_sublist {window wider : Nat} (le : window ≤ wider) (source : Source) :
    FunctionDocRule.check ⟨wider⟩ source <+ FunctionDocRule.check ⟨window⟩ source := by
  refine List.Sublist.map _ (filter_not_sublist (fun definition => ?_) _)
  exact (DocumentationWindow.inspect_within source.lines definition le).found

namespace ErrorHandlingRule

variable {lookahead further : Nat}

theorem uncheckedCalls_sublist (le : lookahead ≤ further) (functions : List String) (path : Path)
    (start : Nat) (lines : List Line) :
    uncheckedCalls ⟨functions, further⟩ path start lines <+
      uncheckedCalls ⟨functions, lookahead⟩ path start lines := by
  induction lines generalizing start with
  | nil => exact .slnil
  | cons text rest ih =>
      rw [uncheckedCalls, uncheckedCalls]
      refine List.Sublist.append (List.Sublist.map _ ?_) (ih _)
      split
      · exact List.nil_sublist _
      · rename_i unchecked
        have before : ¬ isChecked (rest.take lookahead) = true := mt (any_take_mono le rest) unchecked
        rw [if_neg before]
        exact List.Sublist.refl _

theorem check_sublist (le : lookahead ≤ further) (functions : List String) (source : Source) :
    check ⟨functions, further⟩ source <+ check ⟨functions, lookahead⟩ source :=
  (uncheckedCalls_sublist le functions source.path 1 source.lines).append (List.Sublist.refl _)

end ErrorHandlingRule

namespace HeaderRule

theorem check_sublist {window wider : Nat} (le : window ≤ wider) (scanLines : Nat)
    (source : Source) : check ⟨scanLines, wider⟩ source <+ check ⟨scanLines, window⟩ source := by
  rw [check, check]
  cases (source.lines.take scanLines).findIdx? Line.opensComment with
  | none => exact List.Sublist.refl _
  | some opener =>
      exact List.Sublist.map _ (filter_not_sublist (fun field => any_take_mono le _) _)

theorem findIdx?_take {lines : List Line} {limit more : Nat} (le : limit ≤ more)
    (opens : ∃ line ∈ lines.take limit, opening <:+: line) :
    (lines.take more).findIdx? Line.opensComment =
      (lines.take limit).findIdx? Line.opensComment := by
  obtain ⟨line, member, hasMark⟩ := opens
  obtain ⟨later, parts⟩ := List.take_prefix_take_left (l := lines) le
  obtain ⟨opener, found⟩ : ∃ opener, (lines.take limit).findIdx? Line.opensComment = some opener := by
    rw [← Option.isSome_iff_exists, List.findIdx?_isSome, List.any_eq_true]
    exact ⟨line, member, (opensComment_iff line).mpr hasMark⟩
  rw [← parts, List.findIdx?_append, found, Option.some_or]

theorem check_eq_of_opener {scanLines more : Nat} (le : scanLines ≤ more) (window : Nat)
    {source : Source} (opens : ∃ line ∈ source.lines.take scanLines, opening <:+: line) :
    check ⟨more, window⟩ source = check ⟨scanLines, window⟩ source := by
  rw [check, check, findIdx?_take le opens]

end HeaderRule

/-! ## Wider limits -/

/-- With a wider limit a rule reports some of the same findings, in the same order: with a larger
window for documentation, with more lines for the check of a call, whatever the functions are, where
misdirected messages stay the same, and with a larger window for the header. If the header opens
within the lines that are searched for it, then it makes no difference to search more. -/
theorem findings_shrink_with_limits (source : Source) :
    (∀ window wider, window ≤ wider →
      FunctionDocRule.check ⟨wider⟩ source <+ FunctionDocRule.check ⟨window⟩ source) ∧
    (∀ functions lookahead further, lookahead ≤ further →
      ErrorHandlingRule.check ⟨functions, further⟩ source <+
        ErrorHandlingRule.check ⟨functions, lookahead⟩ source ∧
      (ErrorHandlingRule.check ⟨functions, further⟩ source).filter (·.kind = .errorOutput) =
        (ErrorHandlingRule.check ⟨functions, lookahead⟩ source).filter (·.kind = .errorOutput)) ∧
    (∀ scanLines window wider, window ≤ wider →
      HeaderRule.check ⟨scanLines, wider⟩ source <+ HeaderRule.check ⟨scanLines, window⟩ source) ∧
    ∀ window scanLines more, scanLines ≤ more →
      (∃ line ∈ source.lines.take scanLines, opening <:+: line) →
      HeaderRule.check ⟨more, window⟩ source = HeaderRule.check ⟨scanLines, window⟩ source := by
  refine ⟨fun window wider le => FunctionDocRule.check_sublist le source, ?_,
    fun scanLines window wider le => HeaderRule.check_sublist le scanLines source,
    fun window scanLines more le => HeaderRule.check_eq_of_opener le window⟩
  intro functions lookahead further le
  refine ⟨ErrorHandlingRule.check_sublist le functions source, ?_⟩
  rw [ErrorHandlingRule.filter_check_errorOutput, ErrorHandlingRule.filter_check_errorOutput]

end HouseStyle
