import HouseStyle.Proofs.Text
import HouseStyle.Search.Basic

namespace HouseStyle

namespace Path
open Text

@[simp] theorem dot_ne_separator : dot ≠ separator := by decide

@[simp] theorem separator_ne_dot : separator ≠ dot := by decide

/-! ## The components of a path -/

def isDotted (bytes : List UInt8) : Bool :=
  bytes = [dot] || [dot, separator].isPrefixOf bytes

def steps (bytes : List UInt8) : List Component :=
  ((splitAt separator bytes).filter fun piece => piece ≠ [] && piece ≠ [dot]).map fun piece =>
    if piece = [dot, dot] then .parent else .normal piece

theorem components_eq (path : Path) : components path =
    (if path.bytes.head? = some separator then [.root]
      else if isDotted path.bytes then [.current] else []) ++ steps path.bytes :=
  rfl

theorem ne_of_mem_steps {bytes : List UInt8} {component : Component}
    (member : component ∈ steps bytes) : component ≠ .root ∧ component ≠ .current := by
  obtain ⟨piece, -, rfl⟩ := List.mem_map.mp member
  split <;> simp

theorem isDotted_iff {bytes : List UInt8} :
    isDotted bytes = true ↔ bytes = [dot] ∨ ∃ rest, bytes = dot :: separator :: rest := by
  rw [isDotted, Bool.or_eq_true, decide_eq_true_eq, List.isPrefixOf_iff_prefix]
  exact or_congr Iff.rfl (exists_congr fun rest => eq_comm)

/-! ## Dots at the start -/

def undotted (path : Path) : List Component :=
  (components path).filter (· ≠ .current)

theorem current_notMem_undotted (path : Path) : .current ∉ undotted path := by
  simp [undotted]

theorem undotted_eq (path : Path) : undotted path =
    (if path.bytes.head? = some separator then [.root] else []) ++ steps path.bytes := by
  have kept : (steps path.bytes).filter (· ≠ .current) = steps path.bytes :=
    List.filter_eq_self.mpr fun component member => by simpa using (ne_of_mem_steps member).2
  rw [undotted, components_eq, List.filter_append, kept]
  split
  · rfl
  · split <;> rfl

theorem components_eq_undotted (path : Path) : components path =
    if isDotted path.bytes then .current :: undotted path else undotted path := by
  rw [components_eq, undotted_eq]
  by_cases dotted : isDotted path.bytes = true
  · have relative : path.bytes.head? ≠ some separator := by
      rcases isDotted_iff.mp dotted with lone | ⟨rest, start⟩ <;> simp_all
    simp [dotted, relative]
  · simp [dotted]

/-! ## Taking a dot off -/

theorem isDotted_dropIdle (bytes : List UInt8) : isDotted (dropIdle bytes) = false := by
  fun_induction dropIdle bytes with
  | case1 rest ih => exact ih
  | case2 rest ih => exact ih
  | case3 => rfl
  | case4 bytes notSlash notDot notLone =>
      rw [← Bool.not_eq_true, isDotted_iff]
      rintro (rfl | ⟨rest, rfl⟩)
      · exact notLone rfl
      · exact notDot rest rfl

theorem dropIdle_suffix (bytes : List UInt8) : dropIdle bytes <:+ bytes := by
  fun_induction dropIdle bytes with
  | case1 rest ih => exact ih.trans (List.suffix_cons _ _)
  | case2 rest ih => exact ih.trans ((List.suffix_cons _ _).trans (List.suffix_cons _ _))
  | case3 => exact List.nil_suffix
  | case4 => exact List.suffix_rfl

theorem isDotted_trimmed (bytes : List UInt8) :
    isDotted (dropIdle (dropIdle bytes).reverse).reverse = false := by
  rw [← Bool.not_eq_true, isDotted_iff]
  rintro (lone | ⟨rest, dotted⟩)
  · -- What is left would be a lone dot, seen from either end.
    have dot : dropIdle (dropIdle bytes).reverse = [dot] := by simpa using lone
    have plain := isDotted_dropIdle (dropIdle bytes).reverse
    rw [dot] at plain
    contradiction
  · have start : dot :: separator :: rest <+: dropIdle bytes := by
      rw [← dotted, ← List.reverse_suffix, List.reverse_reverse]
      exact dropIdle_suffix (dropIdle bytes).reverse
    obtain ⟨more, text_eq⟩ := start
    have plain := isDotted_dropIdle bytes
    rw [← text_eq, List.cons_append, List.cons_append, isDotted] at plain
    simp at plain

theorem stripBase?_dot (path : Path) : stripBase? "." path =
    if isDotted path.bytes then
      some ⟨(dropIdle (dropIdle path.bytes).reverse).reverse⟩
    else none := by
  have dot : components "." = [.current] := by decide
  rw [stripBase?, dot, components_eq_undotted path]
  by_cases dotted : isDotted path.bytes = true
  · simp [dotted, dropNames]
  · have plain : [Component.current].isPrefixOf (undotted path) = false := by
      rw [← Bool.not_eq_true, List.isPrefixOf_iff_prefix]
      rintro ⟨rest, starts⟩
      exact current_notMem_undotted path (by simp [← starts])
    simp [dotted, plain]

end Path

namespace Search

theorem plain_shownPath (directory : Path) (names : Place) :
    Path.isDotted (shownPath directory names).bytes = false := by
  rw [shownPath, Path.stripBase?_dot]
  split
  · rw [Option.getD_some]
    exact Path.isDotted_trimmed _
  · rename_i plain
    simpa using plain

theorem taken?_eq_some {search : Search} {setting : IgnoreSetting} {entry : Place × Entry}
    {path : Path} (taken : search.taken? setting entry = some path) :
    path = shownPath setting.directory entry.1 := by
  obtain ⟨names, entry⟩ := entry
  cases entry with
  | file content =>
      rw [taken?] at taken
      split at taken
      · contradiction
      · split at taken
        · exact (Option.some.inj taken).symm
        · contradiction
  | directory | link target | device device | program program => contradiction

theorem plain_of_mem {search : Search} {host : Host} {directory path : Path} {recursive : Bool}
    {found : SearchResult} (isFound : search.inDirectory host directory recursive = .ok found)
    (member : path ∈ found.files) : Path.isDotted path.bytes = false := by
  rw [inDirectory] at isFound
  split at isFound
  · dsimp only at isFound
    split at isFound
    · obtain rfl := Except.ok.inj isFound
      simp at member
    · split at isFound
      · contradiction
      · obtain rfl := Except.ok.inj isFound
        obtain ⟨entry, -, taken⟩ := List.mem_filterMap.mp member
        rw [taken?_eq_some taken]
        exact plain_shownPath _ _
  · obtain rfl := Except.ok.inj isFound
    simp at member

end Search

end HouseStyle
