import HouseStyle.Proofs.PathSpelling

/-!
# A directory that is spelled with a dot

A search of `./d` goes through the same entries as a search of `d`, sees the same ignore files and
shows the same paths. It differs in one point: the paths that it shows do not start as the directory
is spelled, so its patterns are never tried on what follows the directory. Hence it finds the files
that the search of `d` finds, and those besides that a pattern describes from the directory on.
-/

namespace HouseStyle

/-! ## Plain paths -/

namespace Path
open Text

structure IsPlain (text : List UInt8) : Prop where
  nonempty : text ≠ []
  relative : text.head? ≠ some separator
  undotted : isDotted text = false

theorem IsPlain.append {text : List UInt8} (plain : IsPlain text) (more : List UInt8) :
    IsPlain (text ++ more) := by
  obtain ⟨first, rest, rfl⟩ := List.exists_cons_of_ne_nil plain.nonempty
  refine ⟨by simp, plain.relative, ?_⟩
  rw [← Bool.not_eq_true, isDotted_iff]
  have undotted := plain.undotted
  rw [← Bool.not_eq_true, isDotted_iff, not_or] at undotted
  rintro (lone | ⟨others, dotted⟩)
  · simp_all
  · cases rest with
    | nil => simp_all
    | cons second rest => simp_all

theorem isPlain_of_normal {path : Path} (nonempty : components path ≠ [])
    (normal : ∀ component ∈ components path, ∃ name, component = .normal name) :
    IsPlain path.bytes := by
  refine ⟨?_, ?_, ?_⟩
  · intro empty
    rw [components_eq, empty] at nonempty
    exact nonempty rfl
  · intro absolute
    obtain ⟨name, isRoot⟩ := normal .root (by simp [components_eq, absolute])
    contradiction
  · rw [← Bool.not_eq_true]
    intro dotted
    obtain ⟨name, isDot⟩ := normal .current (by simp [components_eq_undotted, dotted])
    contradiction

theorem IsPlain.current_notMem {path : Path} (plain : IsPlain path.bytes) :
    .current ∉ components path := by
  rw [components_eq_undotted, plain.undotted, if_neg (by simp)]
  exact current_notMem_undotted path

theorem dropIdle_of_isPlain {text : List UInt8} (plain : IsPlain text) : dropIdle text = text := by
  obtain ⟨nonempty, relative, undotted⟩ := plain
  rw [← Bool.not_eq_true, isDotted_iff, not_or] at undotted
  fun_cases dropIdle text <;> simp_all [separator, dot]

theorem isPlain_reverse {name : List UInt8} (isName : IsName name) (front : List UInt8) :
    IsPlain (front ++ separator :: name).reverse := by
  obtain ⟨last, others, reversed⟩ := List.exists_cons_of_ne_nil
    (mt List.reverse_eq_nil_iff.mp isName.nonempty)
  have oneStep : separator ∉ last :: others := by
    rw [← reversed, List.mem_reverse]
    exact isName.oneStep
  rw [List.mem_cons, not_or] at oneStep
  have text : (front ++ separator :: name).reverse =
      last :: (others ++ separator :: front.reverse) := by
    simp [reversed]
  rw [text]
  refine ⟨by simp, by simpa using Ne.symm oneStep.1, ?_⟩
  rw [← Bool.not_eq_true, isDotted_iff]
  rintro (lone | ⟨rest, dotted⟩)
  · simp at lone
  · obtain ⟨isDot, rest_eq⟩ := List.cons.inj dotted
    cases others with
    | nil =>
        -- The name would be a dot.
        refine isName.notDot ?_
        rw [← List.reverse_reverse name, reversed, isDot]
        rfl
    | cons second others =>
        have slash := (List.cons.inj rest_eq).1
        exact oneStep.2 (by simp [slash])

/-! ## Spelling a directory with a dot -/

def dotted (path : Path) : Path := ⟨dot :: separator :: path.bytes⟩

theorem bytes_dotted (path : Path) : (dotted path).bytes = dot :: separator :: path.bytes := rfl

theorem components_dotted {path : Path} (plain : IsPlain path.bytes) :
    components (dotted path) = .current :: components path := by
  have pieces : splitAt separator (dot :: separator :: path.bytes) =
      [dot] :: splitAt separator path.bytes :=
    splitAt_append (show separator ∉ [dot] by decide) path.bytes
  have steps_eq : steps (dot :: separator :: path.bytes) = steps path.bytes := by
    simp [steps, pieces]
  have isDotted : isDotted (dot :: separator :: path.bytes) = true := isDotted_iff.mpr (.inr ⟨_, rfl⟩)
  rw [components_eq, components_eq, bytes_dotted, steps_eq]
  simp [isDotted, plain.relative, plain.undotted]

theorem bytes_join {path : Path} (nonempty : path.bytes ≠ []) {name : List UInt8}
    (isName : IsName name) : (join path ⟨name⟩).bytes =
      path.bytes ++ if path.bytes.getLast? = some separator then name else separator :: name := by
  have relative : isAbsolute ⟨name⟩ = false := by
    rw [isAbsolute, decide_eq_false_iff_not]
    exact fun slash => isName.oneStep (List.mem_of_mem_head? slash)
  rw [join, relative]
  by_cases ends : path.bytes.getLast? = some separator <;> simp [nonempty, ends]

theorem isPlain_join {path : Path} (plain : IsPlain path.bytes) {name : List UInt8}
    (isName : IsName name) : IsPlain (join path ⟨name⟩).bytes := by
  rw [bytes_join plain.nonempty isName]
  exact plain.append _

theorem join_dotted {path : Path} (plain : IsPlain path.bytes) {name : List UInt8}
    (isName : IsName name) :
    join (dotted path) ⟨name⟩ = dotted (join path ⟨name⟩) := by
  have nonempty : (dotted path).bytes ≠ [] := by simp [bytes_dotted]
  have last : (dotted path).bytes.getLast? = path.bytes.getLast? := by
    obtain ⟨first, rest, text⟩ := List.exists_cons_of_ne_nil plain.nonempty
    simp [bytes_dotted, text]
  rw [Path.ext_iff, bytes_join nonempty isName, last, bytes_dotted, bytes_dotted,
    bytes_join plain.nonempty isName]
  rfl

theorem extend_dotted {path : Path} (plain : IsPlain path.bytes) {names : Place}
    (areNames : ∀ name ∈ names, IsName name) :
    extend (dotted path) names = dotted (extend path names) := by
  induction names generalizing path with
  | nil => rfl
  | cons name names ih =>
      have isName := areNames name (by simp)
      have step := ih (isPlain_join plain isName) fun other member =>
        areNames other (List.mem_cons_of_mem _ member)
      rw [← join_dotted plain isName] at step
      exact step

theorem isPlain_extend {path : Path} (plain : IsPlain path.bytes) {names : Place}
    (areNames : ∀ name ∈ names, IsName name) : IsPlain (extend path names).bytes := by
  induction names generalizing path with
  | nil => exact plain
  | cons name names ih =>
      exact ih (isPlain_join plain (areNames name (by simp))) fun other member =>
        areNames other (List.mem_cons_of_mem _ member)

theorem isPlain_reverse_extend {path : Path} (plain : IsPlain path.bytes) {names : Place}
    (areNames : ∀ name ∈ names, IsName name) (nonempty : names ≠ []) :
    IsPlain (extend path names).bytes.reverse := by
  obtain ⟨front, last, rfl⟩ := (List.eq_nil_or_concat' names).resolve_left nonempty
  have isName := areNames last (by simp)
  have base := isPlain_extend plain fun name member => areNames name (List.mem_append_left _ member)
  have extended :
      extend path (front ++ [last]) = join (extend path front) ⟨last⟩ := by
    simp [extend]
  rw [extended, bytes_join base.nonempty isName]
  split
  · rename_i slash
    obtain ⟨start, text⟩ := List.getLast?_eq_some_iff.mp slash
    rw [text, List.append_assoc]
    exact isPlain_reverse isName start
  · exact isPlain_reverse isName _

end Path

/-! ## Ignore files -/

namespace IgnoreSetting
open HouseStyle.Path IgnorePath

def verdict (levels : List (IgnoreLevel × List UInt8)) (user : Option Bool) (isDirectory : Bool) :
    Bool :=
  let inRepository := levels.any (·.1.hasRepository)
  let shared := if inRepository then sharedLevels levels else []
  let own := levels.findSome? fun (level, path) => level.own.verdict? path isDirectory
  let shared? := shared.findSome? fun (level, path) => level.shared.verdict? path isDirectory
  let repository := shared.findSome? fun (level, path) => level.repository.verdict? path isDirectory
  (((own.or shared?).or repository).or (if inRepository then user else none)).getD false

def unplaced (seen : IgnoreLevel × List UInt8) : IgnoreLevel × List UInt8 :=
  ({ seen.1 with directory := [] }, seen.2)

theorem sharedLevels_map_unplaced (levels : List (IgnoreLevel × List UInt8)) :
    sharedLevels (levels.map unplaced) = (sharedLevels levels).map unplaced := by
  simp only [sharedLevels, List.takeWhile_map, List.find?_map, List.map_append, Option.toList_map]
  rfl

theorem verdict_map_unplaced (levels : List (IgnoreLevel × List UInt8)) (user : Option Bool)
    (isDirectory : Bool) :
    verdict (levels.map unplaced) user isDirectory = verdict levels user isDirectory := by
  have shared (inRepository : Bool) :
      (if inRepository then sharedLevels (levels.map unplaced) else []) =
        (if inRepository then sharedLevels levels else []).map unplaced := by
    cases inRepository
    · rfl
    · exact sharedLevels_map_unplaced levels
  simp only [verdict, shared, List.any_map, List.findSome?_map]
  rfl

theorem dropDot_of_isPlain {text : List UInt8} (plain : IsPlain text) : dropDot text = text := by
  have undotted := plain.undotted
  rw [isDotted, Bool.or_eq_false_iff] at undotted
  rw [dropDot, dropStart, undotted.2]
  rfl

theorem dropDot_dotted (path : Path) : dropDot (dotted path).bytes = path.bytes := by
  rw [bytes_dotted]
  rfl

theorem relativeTo_congr {directory directory' : List UInt8}
    (same : dropDot directory = dropDot directory') (path : List UInt8) :
    relativeTo directory path = relativeTo directory' path := by
  rw [relativeTo, relativeTo, same]

def seen (setting : IgnoreSetting) (names : Place) : List (IgnoreLevel × List UInt8) :=
  let path := dropDot (setting.spelled names)
  (setting.levelsInside names).map (fun level => (level, relativeTo level.directory path)) ++
    setting.around.map fun level => (level, relativeTo level.directory (setting.pathFromRoot path))

theorem isIgnoredItself_eq (setting : IgnoreSetting) (names : Place) (isDirectory : Bool) :
    setting.isIgnoredItself names isDirectory = verdict (setting.seen names)
      (setting.user.verdict?
        (relativeTo (ofPlace setting.here) (dropDot (setting.spelled names))) isDirectory)
      isDirectory :=
  rfl

def dotted (setting : IgnoreSetting) : IgnoreSetting :=
  { setting with directory := Path.dotted setting.directory }

theorem ofDirectory_dotted (tree : FileTree) (here : Place) (user : IgnoreFile)
    (directory : Path) (base : Place) :
    ofDirectory tree here user (Path.dotted directory) base =
      (ofDirectory tree here user directory base).dotted :=
  rfl

theorem isValid_dotted (setting : IgnoreSetting) : setting.dotted.isValid = setting.isValid :=
  rfl

variable {setting : IgnoreSetting} (plain : IsPlain setting.directory.bytes) {names : Place}
  (areNames : ∀ name ∈ names, IsName name)

include plain in
theorem pathFromRoot_dotted (isPath : components setting.directory ≠ []) (path : List UInt8) :
    setting.dotted.pathFromRoot path = setting.pathFromRoot path := by
  have dot : components "." = [.current] := by decide
  have notHere : Path.same setting.directory "." = false := by
    rw [← Bool.not_eq_true, Path.same, decide_eq_true_eq, dot]
    exact fun same => plain.current_notMem (by simp [same])
  have notHere' : Path.same (Path.dotted setting.directory) "." = false := by
    simp [Path.same, dot, components_dotted plain, isPath]
  have directory : dropDot (Path.dotted setting.directory).bytes =
      dropDot setting.directory.bytes := by
    rw [dropDot_dotted, dropDot_of_isPlain plain]
  simp only [pathFromRoot, dotted, notHere, notHere', directory]

include plain areNames

theorem dropDot_spelled_dotted :
    dropDot (setting.dotted.spelled names) = dropDot (setting.spelled names) := by
  rw [spelled, dotted, extend_dotted plain areNames, dropDot_dotted, spelled,
    dropDot_of_isPlain (isPlain_extend plain areNames)]

theorem levelsInside_dotted (path : List UInt8) :
    (setting.dotted.levelsInside names).map
        (fun level => unplaced (level, relativeTo level.directory path)) =
      (setting.levelsInside names).map
        fun level => unplaced (level, relativeTo level.directory path) := by
  have inside : setting.dotted.levelsInside names = ((List.range names.length).map fun depth =>
      IgnoreLevel.ofDirectory setting.tree setting.here (setting.base ++ names.take depth)
        (setting.dotted.spelled (names.take depth))).reverse := rfl
  rw [inside, levelsInside, List.map_reverse, List.map_reverse, List.map_map, List.map_map]
  refine congrArg List.reverse (List.map_congr_left fun depth _ => ?_)
  have seen : relativeTo (setting.dotted.spelled (names.take depth)) path =
      relativeTo (setting.spelled (names.take depth)) path :=
    relativeTo_congr (dropDot_spelled_dotted plain fun name member =>
      areNames name (List.mem_of_mem_take member)) path
  simp only [Function.comp_apply, unplaced, IgnoreLevel.ofDirectory, seen]

theorem seen_dotted (isPath : components setting.directory ≠ []) :
    (setting.dotted.seen names).map unplaced = (setting.seen names).map unplaced := by
  have around : setting.dotted.around = setting.around := rfl
  have inside := levelsInside_dotted plain areNames (dropDot (setting.spelled names))
  simp only [seen, List.map_append, List.map_map, Function.comp_def, around,
    dropDot_spelled_dotted plain areNames, pathFromRoot_dotted plain isPath, inside]

theorem isIgnoredItself_dotted (isPath : components setting.directory ≠ []) (isDirectory : Bool) :
    setting.dotted.isIgnoredItself names isDirectory =
      setting.isIgnoredItself names isDirectory := by
  rw [isIgnoredItself_eq, isIgnoredItself_eq, ← verdict_map_unplaced,
    ← verdict_map_unplaced (setting.seen names), seen_dotted plain areNames isPath,
    dropDot_spelled_dotted plain areNames]
  rfl

theorem isIgnored_dotted (isPath : components setting.directory ≠ []) (isDirectory : Bool) :
    setting.dotted.isIgnored names isDirectory = setting.isIgnored names isDirectory := by
  have onTheWay (depth : Nat) : setting.dotted.isIgnoredItself (names.take depth) true =
      setting.isIgnoredItself (names.take depth) true :=
    isIgnoredItself_dotted plain
      (fun name member => areNames name (List.mem_of_mem_take member)) isPath true
  simp only [isIgnored, isIgnoredItself_dotted plain areNames isPath, onTheWay]

end IgnoreSetting

/-! ## Paths that are shown, and patterns -/

namespace Search
open HouseStyle.Path

def excludesBelow (search : Search) (directory path : Path) : Bool :=
  search.exclude.any fun pattern => pattern.isMatch ((stripBase? directory path).getD path)

theorem isExcluded_eq (search : Search) (directory path : Path) :
    search.isExcluded directory path =
      (search.exclude.any (·.isMatch path) || search.excludesBelow directory path) := by
  rw [Bool.eq_iff_iff]
  simp [isExcluded, excludesBelow, and_or_left, exists_or]

section Dotted

variable {directory : Path} (plain : IsPlain directory.bytes) {names : Place}
  (areNames : ∀ name ∈ names, IsName name)
include plain areNames

theorem shownPath_eq : shownPath directory names = extend directory names := by
  rw [shownPath, stripBase?_dot, (isPlain_extend plain areNames).undotted]
  rfl

theorem shownPath_dotted (nonempty : names ≠ []) :
    shownPath (dotted directory) names = extend directory names := by
  have start := isPlain_extend plain areNames
  have stop := isPlain_reverse_extend plain areNames nonempty
  have isDotted : isDotted (dotted (extend directory names)).bytes = true :=
    isDotted_iff.mpr (.inr ⟨_, bytes_dotted _⟩)
  have rest :
      dropIdle (dotted (extend directory names)).bytes = (extend directory names).bytes := by
    rw [bytes_dotted, dot, separator, dropIdle, dropIdle_of_isPlain start]
  rw [shownPath, extend_dotted plain areNames, stripBase?_dot, isDotted, if_pos rfl,
    Option.getD_some, rest, dropIdle_of_isPlain stop, List.reverse_reverse]

theorem isExcluded_dotted (search : Search) :
    search.isExcluded (dotted directory) (extend directory names) =
      search.exclude.any (·.isMatch (extend directory names)) := by
  have apart : ¬ .current :: components directory <+: components (extend directory names) := by
    rintro ⟨rest, starts⟩
    exact (isPlain_extend plain areNames).current_notMem (by simp [← starts])
  have below : stripBase? (dotted directory) (extend directory names) = none := by
    simp [stripBase?, components_dotted plain, apart]
  simp [isExcluded, below]

end Dotted

theorem taken?_dotted {search : Search} {setting : IgnoreSetting}
    (plain : IsPlain setting.directory.bytes) (isPath : components setting.directory ≠ [])
    {names : Place} (areNames : ∀ name ∈ names, IsName name) (nonempty : names ≠ [])
    (entry : Entry) :
    search.taken? setting (names, entry) = (search.taken? setting.dotted (names, entry)).filter
      fun path => !search.excludesBelow setting.directory path := by
  cases entry with
  | file content =>
      have shown : shownPath setting.dotted.directory names = extend setting.directory names :=
        shownPath_dotted plain areNames nonempty
      have excluded : search.isExcluded setting.dotted.directory (extend setting.directory names) =
          search.exclude.any (·.isMatch (extend setting.directory names)) :=
        isExcluded_dotted plain areNames search
      simp only [taken?, shownPath_eq plain areNames, shown, excluded, isExcluded_eq,
        IgnoreSetting.isIgnored_dotted plain areNames isPath]
      split
      · rfl
      · generalize extend setting.directory names = path
        cases search.hasExtension path <;> cases search.exclude.any (·.isMatch path) <;>
          cases below : search.excludesBelow setting.directory path <;>
            simp [Option.filter, below]
  | directory | link target | device device | program program => rfl

end Search

/-! ## Searches -/

namespace FileTree
open HouseStyle.Path Text

theorem walk_dot (tree : FileTree) (place : Place) (name : Name) (rest : List Name) :
    tree.walk place ([dot] :: name :: rest) = tree.walk place (name :: rest) := by
  rw [walk]
  split
  · rename_i nowhere
    rw [walk, if_pos nowhere]
  · simp

theorem find_dotted (tree : FileTree) (here : Place) {path : Path}
    (plain : IsPlain path.bytes)
    (short : (dotted path).bytes.length < pathLimit) :
    tree.find here (dotted path) = tree.find here path := by
  obtain ⟨name, rest, pieces⟩ := List.exists_cons_of_ne_nil (splitAt_ne_nil separator path.bytes)
  have dottedPieces : splitAt separator (dot :: separator :: path.bytes) = [dot] :: name :: rest := by
    rw [← pieces]
    exact splitAt_append (show separator ∉ [dot] by decide) path.bytes
  have steps (start : Place) :
      tree.follow 40 start ([dot] :: name :: rest) = tree.follow 40 start (name :: rest) := by
    rw [follow, walk_dot, follow]
  have short' : path.bytes.length < pathLimit := by
    rw [bytes_dotted] at short
    exact (Nat.le_add_right _ 2).trans_lt short
  have located : tree.locate here (dotted path) = tree.locate here path := by
    rw [locate, locate, bytes_dotted, dottedPieces, pieces, steps]
    rw [bytes_dotted, List.length_cons, List.length_cons] at short
    simp [plain.nonempty, isAbsolute, bytes_dotted, plain.relative, Nat.not_le.mpr short,
      Nat.not_le.mpr short', show (0 : UInt8) ≠ dot by decide, show (0 : UInt8) ≠ separator by decide]
  rw [find, located, find]

theorem isName_of_mem_below {tree : FileTree} {base : Place} {depth : Option Nat} {names : Place}
    {entry : Entry}
    (member : (names, entry) ∈ tree.below base depth) :
    names ≠ [] ∧ ∀ name ∈ names, IsName name := by
  obtain ⟨⟨place, entry'⟩, isEntry, below⟩ := List.mem_filterMap.mp member
  obtain ⟨names', isUnder, kept⟩ := Option.bind_eq_some_iff.mp below
  obtain ⟨allowed, same⟩ := Option.ite_none_right_eq_some.mp kept
  obtain ⟨rfl, -⟩ := Prod.mk.inj (Option.some.inj same)
  refine ⟨by simpa using (Bool.and_eq_true_iff.mp allowed).1, fun name isName => ?_⟩
  obtain ⟨-, dropped⟩ := Option.ite_none_right_eq_some.mp isUnder
  rw [← Option.some.inj dropped] at isName
  exact (tree.named _ isEntry).names name (List.mem_of_mem_drop isName)

end FileTree

namespace Search
open HouseStyle.Path

theorem filterMap_taken?_dotted (search : Search) {setting : IgnoreSetting}
    (plain : IsPlain setting.directory.bytes) (isPath : components setting.directory ≠ [])
    (tree : FileTree) (base : Place) (depth : Option Nat) :
    (tree.below base depth).filterMap (search.taken? setting) =
      ((tree.below base depth).filterMap (search.taken? setting.dotted)).filter
        fun path => !search.excludesBelow setting.directory path := by
  rw [List.filter_filterMap]
  refine List.filterMap_congr fun (names, entry) member => ?_
  obtain ⟨nonempty, areNames⟩ := FileTree.isName_of_mem_below member
  exact taken?_dotted plain isPath areNames nonempty entry

theorem same_dotted_streamName {directory : Path} (plain : IsPlain directory.bytes) :
    same (dotted directory) streamName = false := by
  have stream : components streamName = [.normal (ofText "-").bytes] := by decide
  simp [same, stream, components_dotted plain]

theorem inDirectory_of_find {search : Search} {host : Host} {directory : Path} {base : Place}
    {setting : IgnoreSetting}
    (located : host.tree.find host.here directory = .ok (base, .directory))
    (isSetting : .ofDirectory host.tree host.here (UserIgnore.load host) directory base = setting)
    (notStream : same directory streamName = false) (recursive : Bool) :
    search.inDirectory host directory recursive =
      if search.respectIgnoreFiles && !setting.isValid then .error (.walkFailed directory)
      else .ok { files := (host.tree.below base (if recursive then none else some 1)).filterMap
                            (search.taken? setting) } := by
  rw [inDirectory, located]
  simp only [isSetting, notStream, Bool.false_eq_true, if_false]

theorem outcomes_dotted (search : Search) (host : Host) {directory : Path} (recursive : Bool)
    (plain : IsPlain directory.bytes) (isPath : components directory ≠ [])
    (notStream : same directory streamName = false)
    (short : (dotted directory).bytes.length < FileTree.pathLimit) :
    (search.inDirectory host directory recursive = .error (.walkFailed directory) ∧
      search.inDirectory host (dotted directory) recursive =
        .error (.walkFailed (dotted directory))) ∨
    ∃ found found', search.inDirectory host directory recursive = .ok found ∧
      search.inDirectory host (dotted directory) recursive = .ok found' ∧
      found.files = found'.files.filter fun path => !search.excludesBelow directory path := by
  have located := FileTree.find_dotted host.tree host.here plain short
  by_cases isDirectory : ∃ base, host.tree.find host.here directory = .ok (base, .directory)
  · obtain ⟨base, isDirectory⟩ := isDirectory
    obtain ⟨setting, isSetting⟩ : ∃ setting : IgnoreSetting,
        .ofDirectory host.tree host.here (UserIgnore.load host) directory base = setting :=
      ⟨_, rfl⟩
    have isDotted : .ofDirectory host.tree host.here (UserIgnore.load host) (dotted directory)
        base = setting.dotted := by
      rw [IgnoreSetting.ofDirectory_dotted, isSetting]
    have sameDirectory : setting.directory = directory := by
      rw [← isSetting, IgnoreSetting.ofDirectory]
    rw [inDirectory_of_find isDirectory isSetting notStream,
      inDirectory_of_find (located.trans isDirectory) isDotted (same_dotted_streamName plain),
      IgnoreSetting.isValid_dotted]
    by_cases fails : (search.respectIgnoreFiles && !setting.isValid) = true
    · exact .inl ⟨if_pos fails, if_pos fails⟩
    · subst sameDirectory
      exact .inr ⟨_, _, if_neg fails, if_neg fails,
        filterMap_taken?_dotted search plain isPath host.tree base _⟩
  · have notFound {spelling : Path}
        (same : host.tree.find host.here spelling = host.tree.find host.here directory) :
        search.inDirectory host spelling recursive =
          .ok { log := [⟨.warn, "Not a directory: " ++ spelling.display⟩] } := by
      rw [inDirectory, same]
      split
      · rename_i base isFound
        exact absurd ⟨base, isFound⟩ isDirectory
      · rfl
    exact .inr ⟨_, _, notFound rfl, notFound located, rfl⟩

/-- A search of a directory that is spelled with a dot. It fails if the search of the directory
does. Otherwise it finds the same files, and besides those that a pattern describes from the
directory on, none of them spelled with a dot. So the two agree exactly if there are no such files.
The name that stands for a stream is apart: without a dot, nothing is found there. -/
theorem inDirectory_dotted (search : Search) (host : Host) (directory : Path) (recursive : Bool)
    (nonempty : components directory ≠ [])
    (normal : ∀ component ∈ components directory, ∃ name, component = .normal name)
    (short : (dotted directory).bytes.length < FileTree.pathLimit) :
    (same directory streamName ∧
      ∃ found, search.inDirectory host directory recursive = .ok found ∧ found.files = []) ∨
    (search.inDirectory host directory recursive = .error (.walkFailed directory) ∧
      search.inDirectory host (dotted directory) recursive =
        .error (.walkFailed (dotted directory))) ∨
    ∃ found found', search.inDirectory host directory recursive = .ok found ∧
      search.inDirectory host (dotted directory) recursive = .ok found' ∧
      found.files = found'.files.filter (fun path => !search.excludesBelow directory path) ∧
      (∀ path ∈ found'.files, isDotted path.bytes = false) ∧
      ((∀ path, path ∈ found.files ↔ path ∈ found'.files) ↔
        ∀ path ∈ found'.files, search.excludesBelow directory path = false) := by
  have plain := isPlain_of_normal nonempty normal
  by_cases stream : same directory streamName = true
  · refine .inl ⟨stream, ?_⟩
    rw [inDirectory, stream]
    split
    · exact ⟨_, rfl, rfl⟩
    · exact ⟨_, rfl, rfl⟩
  refine .inr ((outcomes_dotted search host recursive plain nonempty (by simpa using stream)
    short).imp_right ?_)
  rintro ⟨found, found', isFound, isFound', files⟩
  refine ⟨found, found', isFound, isFound', files, fun path => plain_of_mem isFound', ?_⟩
  simp [files]

theorem inDirectory_dotted_two_files :
    let tree := (FileTree.empty.add [] "lib/a.c" (.file [])).add [] "lib/b.c" (.file [])
    let host : Host := { tree, here := [] }
    let search : Search := ⟨["c"], [⟨[.char 'a', .char '.', .char 'c']⟩], false⟩
    components "lib" = [.normal (ofText "lib").bytes] ∧
      ∃ found', search.inDirectory host (dotted "lib") true = .ok found' ∧
        found'.files.filter (fun path => !search.excludesBelow "lib" path) = ["lib/b.c"] := by
  intro tree host search
  have isName : components "lib" = [.normal (ofText "lib").bytes] := by decide
  have finds : search.inDirectory host "lib" true = .ok { files := ["lib/b.c"] } := by
    decide +kernel
  refine ⟨isName, ?_⟩
  obtain ⟨stream, -⟩ | ⟨fails, -⟩ | ⟨found, found', isFound, isFound', files, -⟩ :=
    inDirectory_dotted search host "lib" true (by simp [isName]) (by simp [isName]) (by decide)
  · exact absurd stream (by decide)
  · rw [finds] at fails
    contradiction
  · obtain rfl := Except.ok.inj (finds.symm.trans isFound)
    exact ⟨found', isFound', files.symm⟩

/-- A file that a pattern describes from the directory on is found once the directory is spelled
with a dot. -/
theorem dotted_directory_finds_more :
    let host : Host := { tree := FileTree.empty.add [] "lib/a.c" (.file []), here := [] }
    let search : Search := ⟨["c"], [⟨[.char 'a', .char '.', .char 'c']⟩], false⟩
    search.inDirectory host "lib" true = .ok { files := [] } ∧
      search.inDirectory host "./lib" true = .ok { files := ["lib/a.c"] } := by
  decide +kernel

end Search

end HouseStyle
