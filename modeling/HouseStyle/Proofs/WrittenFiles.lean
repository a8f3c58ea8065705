import HouseStyle.Host.Basic
import HouseStyle.Proofs.Text
import Mathlib.Data.List.Basic

namespace HouseStyle

def Located.place : Located → Place
  | .found place => place
  | .vacant place => place

namespace FileTree

variable {tree tree' : FileTree} {place : Place} {content : List UInt8}

/-! ## Putting a file at a place -/

theorem lookup_replaced (entries : List (Place × Entry)) (place other : Place) (entry : Entry) :
    (replaced entries place entry).lookup other =
      if other = place then (entries.lookup place).map fun _ => entry else entries.lookup other := by
  induction entries with
  | nil => simp [replaced]
  | cons first rest ih =>
      rw [replaced] at ih
      rw [replaced, List.map_cons, List.lookup_cons, List.lookup_cons, List.lookup_cons, ih]
      by_cases replaced : first.1 = place
      · by_cases here : other = place
        · simp [replaced, here]
        · simp [replaced, here, beq_eq_false_iff_ne.mpr here]
      · have apart : (place == first.1) = false := beq_eq_false_iff_ne.mpr (Ne.symm replaced)
        by_cases here : other = place <;> simp [replaced, here, apart]

theorem get?_set (isPlace : IsPlace place) (entry : Entry) (other : Place) :
    (tree.set place entry).get? other = if other = place then some entry else tree.get? other := by
  by_cases here : other = place
  · subst here
    rw [get?, if_neg isPlace.notRoot, if_pos rfl, set, dif_pos isPlace]
    split
    · rename_i free
      simp [List.lookup_append, free]
    · rename_i occupied
      obtain ⟨old, isOld⟩ := Option.ne_none_iff_exists'.mp occupied
      simp [lookup_replaced, isOld]
  · rw [if_neg here, get?, get?, set, dif_pos isPlace]
    refine ite_congr rfl (fun _ => rfl) fun _ => ?_
    split
    · simp [List.lookup_append, List.lookup_cons, beq_eq_false_iff_ne.mpr here]
    · simp [lookup_replaced, here]

theorem isPlace_of_get? {entry : Entry} (found : tree.get? place = some entry)
    (notRoot : place ≠ []) : IsPlace place := by
  rw [get?, if_neg notRoot] at found
  obtain ⟨before, after, listed, -⟩ := List.lookup_eq_some_iff.mp found
  exact tree.named (place, entry) (by simp [listed])

structure Puts (tree : FileTree) (place : Place) (content : List UInt8) (tree' : FileTree) : Prop where
  before : ∀ entry, tree.get? place = some entry → ∃ old, entry = .file old
  here : tree'.get? place = some (.file content)
  elsewhere : ∀ other, other ≠ place → tree'.get? other = tree.get? other

theorem Puts.set (isPlace : IsPlace place)
    (before : ∀ entry, tree.get? place = some entry → ∃ old, entry = .file old) :
    tree.Puts place content (tree.set place (.file content)) := by
  refine ⟨before, ?_, fun other ne => ?_⟩
  · rw [get?_set isPlace, if_pos rfl]
  · rw [get?_set isPlace, if_neg ne]

theorem Puts.isDirectoryAt (puts : tree.Puts place content tree') (other : Place) :
    tree'.isDirectoryAt other = tree.isDirectoryAt other := by
  rw [FileTree.isDirectoryAt, FileTree.isDirectoryAt]
  by_cases here : other = place
  · subst here
    have file : tree.get? other ≠ some .directory := fun directory => by
      obtain ⟨old, isFile⟩ := puts.before _ directory
      contradiction
    rw [puts.here, decide_eq_false file]
    rfl
  · rw [puts.elsewhere other here]

/-! ## Following paths -/

theorem Puts.walk (puts : tree.Puts place content tree') (start : Place)
    (names : List Name) :
    (∀ next rest, tree.walk start names = .linked next rest →
      tree'.walk start names = .linked next rest) ∧
    (∀ located, tree.walk start names = .ended (.ok located) → located.place = place →
      tree'.walk start names = .ended (.ok (.found place))) := by
  induction names generalizing start with
  | nil =>
      constructor
      · intro next rest linked
        simp [FileTree.walk] at linked
      · intro located ended isPlace
        simp only [FileTree.walk, Walk.ended.injEq, Except.ok.injEq] at ended ⊢
        rw [← isPlace, ← ended]
        rfl
  | cons name rest ih =>
      rw [FileTree.walk, FileTree.walk, puts.isDirectoryAt]
      split
      · simp
      split
      · exact ih start
      split
      · exact ih start.dropLast
      split
      · simp
      by_cases here : start ++ [name] = place
      · -- The walk comes to the place itself, where it ends unless a file is to be walked through.
        rw [here, puts.here]
        cases old : tree.get? place with
        | none =>
            constructor
            · simp
            · intro located ended isPlace
              by_cases last : rest = []
              · subst last
                rfl
              · simp [last] at ended
        | some entry =>
            obtain ⟨content, rfl⟩ := puts.before entry old
            exact ih place
      · rw [puts.elsewhere _ here]
        split
        · constructor
          · simp
          · intro located ended isPlace
            by_cases last : rest = []
            · rw [if_pos last, Walk.ended.injEq, Except.ok.injEq] at ended
              exact absurd (by rw [← isPlace, ← ended]; rfl) here
            · simp [last] at ended
        · simp
        · exact ih (start ++ [name])

theorem Puts.follow (puts : tree.Puts place content tree') {links : Nat} {start : Place}
    {names : List Name} {located : Located}
    (leads : tree.follow links start names = .ok located) (isPlace : located.place = place) :
    tree'.follow links start names = .ok (.found place) := by
  fun_induction FileTree.follow tree links start names with
  | case1 links start names result walked =>
      have ended := (puts.walk start names).2 located (walked.trans (by rw [leads])) isPlace
      rw [FileTree.follow, ended]
  | case2 => contradiction
  | case3 start names next rest walked links ih =>
      rw [FileTree.follow, (puts.walk start names).1 next rest walked]
      exact ih leads

/-! ## Free places -/

structure IsFree (tree : FileTree) (place : Place) : Prop where
  isPlace : IsPlace place
  empty : tree.get? place = none

def ArePieces (names : List Name) : Prop :=
  ∀ name ∈ names, Path.separator ∉ name

theorem arePieces_splitAt (bytes : List UInt8) : ArePieces (Text.splitAt Path.separator bytes) :=
  fun _ => Text.notMem_of_mem_splitAt

theorem isPlace_append {start : Place} (directory : tree.isDirectoryAt start = true) {name : Name}
    (isName : IsName name) : IsPlace (start ++ [name]) := by
  refine ⟨by simp, fun other member => ?_⟩
  rcases List.mem_append.mp member with above | last
  · exact (isPlace_of_get? (of_decide_eq_true directory) (List.ne_nil_of_mem above)).names other above
  · rwa [List.mem_singleton.mp last]

theorem walk_pieces {start : Place} {names : List Name} (pieces : ArePieces names) :
    (∀ next rest, tree.walk start names = .linked next rest → ArePieces rest) ∧
    (∀ place, tree.walk start names = .ended (.ok (.vacant place)) → tree.IsFree place) := by
  induction names generalizing start with
  | nil => simp [FileTree.walk]
  | cons name rest ih =>
      have pieces' : ArePieces rest := fun other member => pieces other (List.mem_cons_of_mem _ member)
      rw [FileTree.walk]
      split
      · simp
      split
      · exact ih pieces'
      split
      · exact ih pieces'
      split
      · simp
      rename_i directory named notParent _
      split
      · rename_i empty
        refine ⟨by simp, fun place walked => ?_⟩
        split at walked
        · simp only [Walk.ended.injEq, Except.ok.injEq, Located.vacant.injEq] at walked
          subst walked
          simp only [Bool.or_eq_true, decide_eq_true_eq, not_or] at named
          have isName : IsName name := ⟨named.1, named.2, notParent, pieces name List.mem_cons_self⟩
          exact ⟨isPlace_append (by simpa using directory) isName, empty⟩
        · simp at walked
      · rename_i target _
        refine ⟨fun next others linked => ?_, by simp⟩
        obtain ⟨-, rfl⟩ := Walk.linked.inj linked
        intro other member
        exact (List.mem_append.mp member).elim (arePieces_splitAt target.bytes other) (pieces' other)
      · exact ih pieces'

theorem follow_vacant {links : Nat} {start : Place} {names : List Name} (pieces : ArePieces names)
    (leads : tree.follow links start names = .ok (.vacant place)) : tree.IsFree place := by
  fun_induction FileTree.follow tree links start names with
  | case1 links start names result walked =>
      exact (walk_pieces pieces).2 place (walked.trans (by rw [leads]))
  | case2 => contradiction
  | case3 start names next rest walked links ih =>
      exact ih ((walk_pieces pieces).1 next rest walked) leads

theorem locate_eq_follow {here : Place} {path : Path} {located : Located}
    (leads : tree.locate here path = .ok located) :
    ∃ start, ∀ other : FileTree,
      other.locate here path = other.follow 40 start (Text.splitAt Path.separator path.bytes) := by
  rw [locate] at leads
  split at leads
  · contradiction
  split at leads
  · contradiction
  split at leads
  · contradiction
  refine ⟨if path.isAbsolute then [] else here, fun other => ?_⟩
  rw [locate, if_neg ‹_›, if_neg ‹_›, if_neg ‹_›]

theorem Puts.locate (puts : tree.Puts place content tree') {here : Place} {path : Path}
    {located : Located} (leads : tree.locate here path = .ok located)
    (isPlace : located.place = place) : tree'.locate here path = .ok (.found place) := by
  obtain ⟨start, follows⟩ := locate_eq_follow leads
  rw [follows] at leads ⊢
  exact puts.follow leads isPlace

theorem locate_vacant {here : Place} {path : Path}
    (leads : tree.locate here path = .ok (.vacant place)) : tree.IsFree place := by
  obtain ⟨start, follows⟩ := locate_eq_follow leads
  rw [follows] at leads
  exact follow_vacant (arePieces_splitAt path.bytes) leads

/-! ## Writing and reading back -/

inductive LeadsToFile (tree : FileTree) (here : Place) (path : Path) : Prop where
  | free (place : Place) (leads : tree.locate here path = .ok (.vacant place))
  | file (place : Place) (old : List UInt8) (leads : tree.locate here path = .ok (.found place))
      (found : tree.get? place = some (.file old))

theorem read_of_puts {here : Place} {path : Path} (puts : tree.Puts place content tree')
    (leads : tree'.locate here path = .ok (.found place)) : tree'.read here path = .ok content := by
  have found : tree'.find here path = .ok (place, .file content) := by
    simp [find, leads, puts.here, bind, Except.bind]
  simp [read, found, bind, Except.bind]

theorem read_write {here : Place} {path : Path} (leads : tree.LeadsToFile here path)
    (content : List UInt8) : ∃ tree', tree.write here path content = .ok tree' ∧
      tree'.read here path = .ok content := by
  cases leads with
  | free place leads =>
      have puts : tree.Puts place content (tree.set place (.file content)) :=
        .set (locate_vacant leads).isPlace fun entry found => by
          simp [(locate_vacant leads).empty] at found
      refine ⟨_, ?_, read_of_puts puts (puts.locate leads rfl)⟩
      simp [write, leads, bind, Except.bind]
  | file place old leads found =>
      have notRoot : place ≠ [] := by
        rintro rfl
        simp [get?] at found
      have puts : tree.Puts place content (tree.set place (.file content)) :=
        .set (isPlace_of_get? found notRoot) fun entry isEntry =>
          ⟨old, Option.some.inj (isEntry.symm.trans found)⟩
      refine ⟨_, ?_, read_of_puts puts (puts.locate leads rfl)⟩
      simp [write, leads, found, bind, Except.bind]

theorem isOk_write (here : Place) (path : Path) (content content' : List UInt8) :
    (tree.write here path content).isOk = (tree.write here path content').isOk := by
  rw [write, write]
  cases tree.locate here path with
  | error error => rfl
  | ok located =>
      cases located with
      | vacant place => rfl
      | found place =>
          dsimp only [bind, Except.bind]
          cases tree.get? place with
          | none => rfl
          | some entry =>
              cases entry with
              | device device => cases device <;> rfl
              | _ => rfl

end FileTree

namespace Host

def canWrite (host : Host) (path : Path) : Bool :=
  (host.write path []).isOk

def LeadsToFile (host : Host) (path : Path) : Prop :=
  host.tree.LeadsToFile host.here path

theorem isOk_write (host : Host) (path : Path) (content : List UInt8) :
    (host.write path content).isOk = (host.tree.write host.here path content).isOk := by
  rw [write]
  cases host.tree.write host.here path content <;> rfl

theorem exists_write {host : Host} {path : Path} (can : host.canWrite path = true)
    (content : List UInt8) : ∃ host', host.write path content = .ok host' := by
  rw [canWrite, isOk_write, FileTree.isOk_write _ _ _ content, ← isOk_write] at can
  cases written : host.write path content with
  | error error => simp [written, Except.isOk, Except.toBool] at can
  | ok host' => exact ⟨host', rfl⟩

theorem read_of_leadsToFile {host : Host} {path : Path} (leads : host.LeadsToFile path)
    (content : List UInt8) : ∃ host', host.write path content = .ok host' ∧
      host'.read path = .ok content := by
  obtain ⟨tree, written, holds⟩ := FileTree.read_write leads content
  let shown := if host.isOutput path then String.ofList (Text.decodeLossy content) else ""
  refine ⟨{ host with tree, printed := host.printed ++ shown }, ?_, holds⟩
  rw [write, written]
  rfl

end Host

end HouseStyle
