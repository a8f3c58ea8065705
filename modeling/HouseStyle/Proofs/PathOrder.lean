import HouseStyle.Path
import Mathlib.Data.List.Basic

namespace HouseStyle

/-! ## Components -/

namespace Component

theorem before_irrefl (component : Component) : component.before component = false := by
  cases component with
  | normal name => simp [before]
  | root | current | parent => rfl

theorem before_trans {first second third : Component} (left : first.before second = true)
    (right : second.before third = true) : first.before third = true := by
  cases first <;> cases second <;> cases third <;> simp_all [before, rank]
  exact List.lt_trans left right

theorem before_trichotomy (first second : Component) :
    first.before second = true ∨ first = second ∨ second.before first = true := by
  cases first <;> cases second <;> simp [before, rank]
  rename_i name name'
  by_cases less : name < name'
  · exact .inl less
  · by_cases greater : name' < name
    · exact .inr (.inr greater)
    · exact .inr (.inl (List.le_antisymm (List.not_lt.mp greater) (List.not_lt.mp less)))

end Component

namespace Path

theorem componentsBefore_irrefl (components : List Component) :
    componentsBefore components components = false := by
  induction components with
  | nil => rfl
  | cons component rest ih => simpa [componentsBefore] using ih

theorem componentsBefore_trans {first second third : List Component}
    (left : componentsBefore first second = true) (right : componentsBefore second third = true) :
    componentsBefore first third = true := by
  induction first generalizing second third with
  | nil => cases second <;> cases third <;> simp_all [componentsBefore]
  | cons a first ih =>
      cases second with
      | nil => simp [componentsBefore] at left
      | cons b second =>
          cases third with
          | nil => simp [componentsBefore] at right
          | cons c third =>
              rw [componentsBefore] at left right ⊢
              by_cases ab : a = b
              · subst ab
                rw [if_pos rfl] at left
                by_cases ac : a = c
                · rw [if_pos ac] at right ⊢
                  exact ih left right
                · rwa [if_neg ac] at right ⊢
              · rw [if_neg ab] at left
                by_cases bc : b = c
                · subst bc
                  rwa [if_neg ab]
                · rw [if_neg bc] at right
                  have before := Component.before_trans left right
                  have ac : a ≠ c := by
                    rintro rfl
                    rw [Component.before_irrefl] at before
                    contradiction
                  rwa [if_neg ac]

theorem componentsBefore_trichotomy (first second : List Component) :
    componentsBefore first second = true ∨ first = second ∨
      componentsBefore second first = true := by
  induction first generalizing second with
  | nil => cases second <;> simp [componentsBefore]
  | cons a first ih =>
      cases second with
      | nil => simp [componentsBefore]
      | cons b second =>
          rw [componentsBefore, componentsBefore]
          by_cases ab : a = b
          · simpa [ab] using ih second
          · simpa [ab, Ne.symm ab] using Component.before_trichotomy a b

/-! ## Paths -/

theorem before_irrefl (path : Path) : before path path = false :=
  componentsBefore_irrefl _

theorem before_trans {first second third : Path} (left : before first second = true)
    (right : before second third = true) : before first third = true :=
  componentsBefore_trans left right

theorem before_asymm {first second : Path} (before : before first second = true) :
    Path.before second first = false := by
  rw [← Bool.not_eq_true]
  intro after
  have circle := before_trans before after
  rw [before_irrefl] at circle
  contradiction

theorem same_iff {first second : Path} :
    same first second = true ↔ components first = components second := by
  simp [same]

theorem before_of_not_before {first second : Path} (notAfter : before second first = false)
    (different : components first ≠ components second) : before first second = true := by
  rcases componentsBefore_trichotomy (components first) (components second) with
    less | same | greater
  · exact less
  · contradiction
  · rw [before, greater] at notAfter
    contradiction

theorem pairwise_sort (paths : List Path) :
    (sort paths).Pairwise fun first second => before second first = false := by
  have trans : ∀ first second third : Path, (!before second first) = true →
      (!before third second) = true → (!before third first) = true := by
    intro first second third left right
    rw [Bool.not_eq_true'] at left right ⊢
    rw [← Bool.not_eq_true]
    intro after
    by_cases same : components second = components third
    · rw [before, same, ← before, after] at left
      contradiction
    · rw [before_trans (before_of_not_before right same) after] at left
      contradiction
  have total : ∀ first second : Path, (!before second first || !before first second) = true := by
    intro first second
    cases after : before second first with
    | false => rfl
    | true => simp [before_asymm after]
  simpa [sort] using List.pairwise_mergeSort trans total paths

/-! ## Dropping repeats -/

theorem dropRepeated_sublist (paths : List Path) : (dropRepeated paths).Sublist paths := by
  induction paths with
  | nil => exact .refl _
  | cons path rest ih =>
      rw [dropRepeated]
      cases dropped : dropRepeated rest with
      | nil => simp
      | cons next more =>
          rw [dropped] at ih
          dsimp only
          split
          · exact ((List.sublist_cons_self next more).trans ih).cons_cons path
          · exact ih.cons_cons path

theorem mem_components_dropRepeated (paths : List Path) (list : List Component) :
    list ∈ (dropRepeated paths).map components ↔ list ∈ paths.map components := by
  induction paths with
  | nil => rfl
  | cons path rest ih =>
      rw [dropRepeated]
      cases dropped : dropRepeated rest with
      | nil =>
          rw [dropped] at ih
          simp [← ih]
      | cons next more =>
          rw [dropped] at ih
          dsimp only
          split
          · rename_i repeated
            rw [same_iff] at repeated
            rw [List.map_cons, List.map_cons, List.mem_cons, List.mem_cons, ← ih]
            simp [repeated]
          · rw [List.map_cons, List.mem_cons, ih]
            simp

theorem pairwise_dropRepeated {paths : List Path}
    (sorted : paths.Pairwise fun first second => before second first = false) :
    (dropRepeated paths).Pairwise fun first second => before first second = true := by
  induction paths with
  | nil => exact .nil
  | cons path rest ih =>
      obtain ⟨first, sorted⟩ := List.pairwise_cons.mp sorted
      have ih := ih sorted
      have fromRest := (dropRepeated_sublist rest).subset
      rw [dropRepeated]
      cases dropped : dropRepeated rest with
      | nil => simp
      | cons next more =>
          rw [dropped] at ih fromRest
          obtain ⟨later, increasing⟩ := List.pairwise_cons.mp ih
          dsimp only
          split
          · -- The path takes the place of the next one, which has the same components.
            rename_i repeated
            rw [same_iff] at repeated
            refine List.pairwise_cons.mpr ⟨fun other member => ?_, increasing⟩
            rw [before, repeated]
            exact later other member
          · rename_i different
            rw [same_iff] at different
            have isNext : before path next = true :=
              before_of_not_before (first next (fromRest (by simp))) different
            refine List.pairwise_cons.mpr ⟨fun other member => ?_, ih⟩
            rcases List.mem_cons.mp member with rfl | inMore
            · exact isNext
            · exact before_trans isNext (later other inMore)

/-! ## Sorted paths without repeats -/

def tidy (paths : List Path) : List Path :=
  dropRepeated (sort paths)

theorem mem_of_mem_tidy {paths : List Path} {path : Path} (member : path ∈ tidy paths) :
    path ∈ paths :=
  List.mem_mergeSort.mp ((dropRepeated_sublist _).subset member)

theorem pairwise_tidy (paths : List Path) :
    (tidy paths).Pairwise fun first second => before first second = true :=
  pairwise_dropRepeated (pairwise_sort paths)

theorem mem_components_tidy (paths : List Path) (list : List Component) :
    list ∈ (tidy paths).map components ↔ list ∈ paths.map components := by
  rw [tidy, mem_components_dropRepeated]
  simp [sort]

theorem components_tidy_congr {paths paths' : List Path}
    (same : ∀ list, list ∈ paths.map components ↔ list ∈ paths'.map components) :
    (tidy paths).map components = (tidy paths').map components := by
  have increasing (paths : List Path) : ((tidy paths).map components).Pairwise
      fun first second => componentsBefore first second = true :=
    List.pairwise_map.mpr (pairwise_tidy paths)
  have distinct (paths : List Path) : ((tidy paths).map components).Nodup := by
    refine (increasing paths).imp fun {first second} less equal => ?_
    rw [equal, componentsBefore_irrefl] at less
    contradiction
  refine List.Perm.eq_of_pairwise ?_ (increasing paths) (increasing paths') ?_
  · intro first second _ _ less greater
    have circle := componentsBefore_trans less greater
    rw [componentsBefore_irrefl] at circle
    contradiction
  · rw [List.perm_ext_iff_of_nodup (distinct paths) (distinct paths')]
    intro list
    rw [mem_components_tidy, mem_components_tidy, same]

end Path

end HouseStyle
