import HouseStyle.CommandLine.Run
import HouseStyle.Proofs.PathOrder
import HouseStyle.Proofs.PathSpelling
import HouseStyle.Proofs.Relisting
import Mathlib.Data.List.Nodup

namespace HouseStyle.CheckOptions

variable {options : CheckOptions} {search : Search} {host : Host} {base : Path}

/-- The search that the options ask for: of their directory, or of `base` if they name no directory
and no file. -/
def searched (options : CheckOptions) (search : Search) (host : Host) (base : Path) :
    Except SearchError SearchResult :=
  match options.directory with
  | some directory => search.inDirectory host directory options.recursive
  | none => if options.files = [] then search.inDirectory host base false else .ok {}

def candidates (options : CheckOptions) (host : Host) (found : List Path) : List Path :=
  found ++ options.files.filter host.exists?

theorem collect_eq (options : CheckOptions) (search : Search) (host : Host) (base : Path) :
    options.collect search host base = (options.searched search host base).map fun found =>
      { files := Path.tidy (options.candidates host found.files)
        log := found.log ++ (Search.existing host options.files).log } := by
  obtain ⟨files, directory, recursive, _⟩ := options
  cases directory with
  | some directory =>
      simp only [collect, searched, Option.isNone_some, Bool.and_false]
      cases search.inDirectory host directory recursive <;> rfl
  | none =>
      cases files with
      | nil =>
          simp only [collect, searched, candidates, Search.existing]
          cases search.inDirectory host base false with
          | error error => rfl
          | ok found => simp [Except.map, Path.tidy, pure, Except.pure, bind, Except.bind]
      | cons file rest => rfl

/-! ## The order of a search and of the named files -/

theorem exists?_relists {tree : FileTree} (relists : host.tree.Relists tree) :
    { host with tree }.exists? = host.exists? := by
  funext path
  rw [Host.exists?, Host.exists?, relists.agrees.exists?]

theorem searched_relists {tree : FileTree} (relists : host.tree.Relists tree) {files : List Path}
    (named : ∀ file, file ∈ files ↔ file ∈ options.files) :
    Search.SameFiles (options.searched search host base)
      ({ options with files }.searched search { host with tree } base) := by
  have empty : files = [] ↔ options.files = [] := by
    simp only [List.eq_nil_iff_forall_not_mem, named]
  simp only [searched, empty]
  cases options.directory with
  | some directory => exact Search.sameFiles_of_relists relists directory options.recursive
  | none =>
      dsimp only
      split
      · exact Search.sameFiles_of_relists relists base false
      · exact .found (.refl _)

theorem components_candidates {found found' files : List Path} (walked : found'.Perm found)
    (named : ∀ file, file ∈ files ↔ file ∈ options.files) :
    (Path.tidy ({ options with files }.candidates host found')).map Path.components =
      (Path.tidy (options.candidates host found)).map Path.components := by
  have same : ∀ path, path ∈ { options with files }.candidates host found' ↔
      path ∈ options.candidates host found := by
    intro path
    simp only [candidates, List.mem_append, List.mem_filter, walked.mem_iff, named]
  refine Path.components_tidy_congr fun list => ?_
  simp only [List.mem_map, same]

def upToSpelling (collected : Except SearchError SearchResult) :
    Except SearchError (List (List Component)) :=
  collected.map fun result => result.files.map Path.components

theorem collect_relists {tree : FileTree} (relists : host.tree.Relists tree) {files : List Path}
    (named : ∀ file, file ∈ files ↔ file ∈ options.files) :
    upToSpelling ({ options with files }.collect search { host with tree } base) =
      upToSpelling (options.collect search host base) := by
  have there : { options with files }.candidates { host with tree } =
      { options with files }.candidates host := by
    funext found
    rw [candidates, candidates, exists?_relists relists]
  have same : Search.SameFiles (options.searched search host base) _ :=
    searched_relists relists named
  rw [collect_eq, collect_eq, there]
  revert same
  generalize options.searched search host base = found
  generalize { options with files }.searched search { host with tree } base = found'
  intro same
  cases same with
  | failed error => rfl
  | found walked => exact congrArg Except.ok (components_candidates walked.symm named)

theorem exists_mem_tidy_iff (paths : List Path) (path : Path) :
    (∃ file ∈ Path.tidy paths, Path.same file path = true) ↔
      ∃ file ∈ paths, Path.same file path = true := by
  have members := Path.mem_components_tidy paths (Path.components path)
  simpa only [List.mem_map, ← Path.same_iff] using members

theorem searched_of_ne_nil (named : options.files ≠ []) (other : Path) :
    options.searched search host other = options.searched search host base := by
  rw [searched, searched]
  cases options.directory with
  | some directory => rfl
  | none => rw [if_neg named, if_neg named]

/-- The `files` are what is collected of the ones `found` by a search and of the named ones: they
increase, they are the same paths, and they do not depend on the order of either. -/
structure Collects (options : CheckOptions) (host : Host) (found files : List Path) : Prop where
  increasing : files.Pairwise fun first second => Path.before first second = true
  members : ∀ path, (∃ file ∈ files, Path.same file path = true) ↔
    ∃ file ∈ found ++ options.files.filter host.exists?, Path.same file path = true
  anyOrder : ∀ walked named : List Path, walked.Perm found →
    (∀ file, file ∈ named ↔ file ∈ options.files) →
      (Path.dropRepeated (Path.sort (walked ++ named.filter host.exists?))).map Path.components =
        files.map Path.components

theorem collects_tidy (found : List Path) :
    options.Collects host found (Path.tidy (options.candidates host found)) where
  increasing := Path.pairwise_tidy _
  members := exists_mem_tidy_iff _
  anyOrder := fun _ _ => components_candidates

/-- The files to check do not depend on any order. Unless the search of the directory fails, they
are collected: strictly increasing, and up to spelling those that the search finds and the named ones
that are there. They stay the same if the tree lists its entries in another order, and if the files
are named in another order or repeatedly. And `base` does not matter if any file is named. -/
theorem collect_canonical (options : CheckOptions) (search : Search) (host : Host) (base : Path) :
    (match options.searched search host base with
      | .error error => options.collect search host base = .error error
      | .ok found => ∃ result, options.collect search host base = .ok result ∧
          options.Collects host found.files result.files) ∧
    (∀ (tree : FileTree) (files : List Path), host.tree.Relists tree →
      (∀ file, file ∈ files ↔ file ∈ options.files) →
        upToSpelling ({ options with files }.collect search { host with tree } base) =
          upToSpelling (options.collect search host base)) ∧
    (options.files ≠ [] → ∀ other,
      options.collect search host other = options.collect search host base) := by
  refine ⟨?_, fun tree files relists named => collect_relists relists named, fun named other => ?_⟩
  · rw [collect_eq]
    cases options.searched search host base with
    | error error => rfl
    | ok found => exact ⟨_, rfl, collects_tidy found.files⟩
  · rw [collect_eq, collect_eq, searched_of_ne_nil named]

theorem collect_canonical_reversed :
    let tree := (FileTree.empty.add [] "a.h" (.file [])).add [] "b.h" (.file [])
    let tree' := (FileTree.empty.add [] "b.h" (.file [])).add [] "a.h" (.file [])
    let host : Host := { tree, here := [] }
    let options : CheckOptions := { files := ["b.h", "c.h", ".//a.h"], directory := some "." }
    let search : Search := ⟨["c", "h"], [], false⟩
    host.tree.Relists tree' ∧
      upToSpelling ({ options with files := [".//a.h", "b.h", "c.h", "b.h"] }.collect search
        { host with tree := tree' } ".") =
        upToSpelling (options.collect search host ".") ∧
      options.collect search host "elsewhere" = options.collect search host "." := by
  intro tree tree' host options search
  have relists : host.tree.Relists tree' := by
    rw [FileTree.Relists, ← List.isPerm_iff]
    decide +kernel
  obtain ⟨-, anyOrder, anyBase⟩ := collect_canonical options search host "."
  refine ⟨relists, anyOrder _ _ relists fun file => ?_, anyBase (by decide) "elsewhere"⟩
  simp only [options, List.mem_cons, List.not_mem_nil]
  tauto

/-! ## Paths that differ in a dot -/

theorem plain_of_mem_searched {found : SearchResult} {path : Path}
    (isFound : options.searched search host base = .ok found) (member : path ∈ found.files) :
    Path.isDotted path.bytes = false := by
  rw [searched] at isFound
  split at isFound
  · exact Search.plain_of_mem isFound member
  · split at isFound
    · exact Search.plain_of_mem isFound member
    · obtain rfl := Except.ok.inj isFound
      simp at member

/-- A named file is spelled with a dot at its start, and without the dot it is collected as well. -/
def MeetsDotted (options : CheckOptions) (host : Host) (found : List Path) : Prop :=
  ∃ dotted ∈ options.files.filter host.exists?, ∃ plain ∈ options.candidates host found,
    Path.components dotted = .current :: Path.components plain

theorem undotted_ne {found : SearchResult} (isFound : options.searched search host base = .ok found)
    (apart : ¬ options.MeetsDotted host found.files) {first second : Path}
    (isFirst : first ∈ options.candidates host found.files)
    (isSecond : second ∈ options.candidates host found.files)
    (different : Path.components first ≠ Path.components second) :
    Path.undotted first ≠ Path.undotted second := by
  have named {path : Path} (member : path ∈ options.candidates host found.files)
      (dotted : Path.isDotted path.bytes = true) : path ∈ options.files.filter host.exists? := by
    rcases List.mem_append.mp member with searched | named
    · rw [plain_of_mem_searched isFound searched] at dotted
      contradiction
    · exact named
  intro same
  have firstEq := Path.components_eq_undotted first
  have secondEq := Path.components_eq_undotted second
  cases dotted : Path.isDotted first.bytes <;> cases dotted' : Path.isDotted second.bytes <;>
    simp only [dotted, dotted', if_true, Bool.false_eq_true, if_false] at firstEq secondEq
  · exact different (firstEq.trans (same.trans secondEq.symm))
  · exact apart ⟨second, named isSecond dotted', first, isFirst, by rw [secondEq, firstEq, same]⟩
  · exact apart ⟨first, named isFirst dotted, second, isSecond, by rw [firstEq, secondEq, same]⟩
  · exact different (by rw [firstEq, secondEq, same])

theorem meetsDotted_of_nodup {found : List Path}
    (once : ((Path.tidy (options.candidates host found)).map Path.undotted).Nodup) :
    ¬ options.MeetsDotted host found := by
  rintro ⟨dotted, named, plain, isPlain, dot⟩
  have collected {path : Path} (member : path ∈ options.candidates host found) :
      ∃ file ∈ Path.tidy (options.candidates host found),
        Path.components file = Path.components path := by
    have inTidy := (Path.mem_components_tidy _ (Path.components path)).mpr
      (List.mem_map_of_mem member)
    simpa only [List.mem_map] using inTidy
  obtain ⟨first, isFirst, firstEq⟩ := collected (List.mem_append_right _ named)
  obtain ⟨second, isSecond, secondEq⟩ := collected isPlain
  have same : Path.undotted first = Path.undotted second := by
    simp [Path.undotted, firstEq, secondEq, dot]
  obtain rfl := List.inj_on_of_nodup_map once isFirst isSecond same
  rw [firstEq, dot] at secondEq
  exact List.cons_ne_self _ _ secondEq

/-- When no file is checked twice under two spellings that differ in dots: exactly if no named file
is spelled with a dot at its start and also collected without it. -/
theorem collected_once_iff (options : CheckOptions) (search : Search) (host : Host)
    (base : Path) :
    match options.searched search host base with
    | .error error => options.collect search host base = .error error
    | .ok found => ∃ result, options.collect search host base = .ok result ∧
        ((result.files.map Path.undotted).Nodup ↔ ¬ options.MeetsDotted host found.files) := by
  rw [collect_eq]
  cases isFound : options.searched search host base with
  | error error => rfl
  | ok found =>
      refine ⟨_, rfl, meetsDotted_of_nodup, fun apart => List.pairwise_map.mpr ?_⟩
      refine (Path.pairwise_tidy _).imp_of_mem fun {first second} isFirst isSecond before => ?_
      refine undotted_ne isFound apart (Path.mem_of_mem_tidy isFirst)
        (Path.mem_of_mem_tidy isSecond) ?_
      intro same
      rw [Path.before, same, Path.componentsBefore_irrefl] at before
      contradiction

theorem dotted_file_collected_twice :
    let host : Host := { tree := FileTree.empty.add [] "a.h" (.file []), here := [] }
    let options : CheckOptions := { files := ["./a.h"], directory := some "." }
    options.collect ⟨["c", "h"], [], false⟩ host "." = .ok { files := ["./a.h", "a.h"] } ∧
      ¬ ([Path.ofText "./a.h", Path.ofText "a.h"].map Path.undotted).Nodup := by
  intro host options
  have found : options.searched ⟨["c", "h"], [], false⟩ host "." = .ok { files := ["a.h"] } := by
    decide +kernel
  have named : options.files.filter host.exists? = ["./a.h"] := by decide +kernel
  have log : (Search.existing host options.files).log = [] := by decide +kernel
  have first : Path.before "./a.h" "a.h" = true := by decide
  have apart : Path.same "./a.h" "a.h" = false := by decide
  have tidy : Path.tidy ["a.h", "./a.h"] = ["./a.h", "a.h"] := by
    simp [Path.tidy, Path.sort, List.mergeSort, Path.dropRepeated, first, apart]
  refine ⟨?_, by decide⟩
  rw [collect_eq, found]
  simp [Except.map, candidates, named, log, tidy]

end HouseStyle.CheckOptions
