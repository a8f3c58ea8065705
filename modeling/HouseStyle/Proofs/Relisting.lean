import HouseStyle.Search.Basic
import Mathlib.Data.List.Basic

namespace HouseStyle

namespace FileTree

def Agrees (tree tree' : FileTree) : Prop :=
  ∀ place, tree.get? place = tree'.get? place

def Relists (tree tree' : FileTree) : Prop :=
  tree.entries.Perm tree'.entries

variable {tree tree' : FileTree}

theorem lookup_eq_some_iff {entries : List (Place × Entry)} (distinct : (entries.map (·.1)).Nodup)
    {place : Place} {entry : Entry} :
    entries.lookup place = some entry ↔ (place, entry) ∈ entries := by
  induction entries with
  | nil => simp
  | cons first rest ih =>
      obtain ⟨other, found⟩ := first
      rw [List.map_cons, List.nodup_cons] at distinct
      rw [List.lookup_cons, List.mem_cons, ← ih distinct.2]
      by_cases here : place = other
      · subst here
        have absent : rest.lookup place ≠ some entry := by
          rw [ne_eq, ih distinct.2]
          exact fun member => distinct.1 (List.mem_map.mpr ⟨_, member, rfl⟩)
        simp [absent, eq_comm]
      · rw [beq_eq_false_iff_ne.mpr here]
        simp [here]

theorem Relists.agrees (relists : tree.Relists tree') : tree.Agrees tree' := by
  intro place
  rw [get?, get?]
  split
  · rfl
  · refine Option.ext fun entry => ?_
    rw [lookup_eq_some_iff tree.distinct, lookup_eq_some_iff tree'.distinct, relists.mem_iff]

/-! ## Following paths -/

theorem Agrees.walk (agrees : tree.Agrees tree') (place : Place) (names : List Name) :
    tree.walk place names = tree'.walk place names := by
  induction names generalizing place with
  | nil => rfl
  | cons name rest ih =>
      rw [FileTree.walk, FileTree.walk]
      simp only [isDirectoryAt, agrees place, agrees (place ++ [name]), ih]
      rfl

theorem Agrees.follow (agrees : tree.Agrees tree') (links : Nat) (place : Place)
    (names : List Name) :
    tree.follow links place names = tree'.follow links place names := by
  induction links generalizing place names with
  | zero => rw [FileTree.follow, FileTree.follow, agrees.walk]
  | succ links ih =>
      rw [FileTree.follow, FileTree.follow, agrees.walk]
      simp only [ih]

theorem Agrees.find (agrees : tree.Agrees tree') : tree.find = tree'.find := by
  funext here path
  simp only [FileTree.find, FileTree.locate, agrees.follow, agrees _]

theorem Agrees.read (agrees : tree.Agrees tree') : tree.read = tree'.read := by
  funext here path
  simp only [FileTree.read, agrees.find]

theorem Agrees.exists? (agrees : tree.Agrees tree') : tree.exists? = tree'.exists? := by
  funext here path
  simp only [FileTree.exists?, agrees.find]

theorem Agrees.isFile (agrees : tree.Agrees tree') : tree.isFile = tree'.isFile := by
  funext here path
  simp only [FileTree.isFile, agrees.find]

theorem Relists.below (relists : tree.Relists tree') (base : Place) (depth : Option Nat) :
    (tree.below base depth).Perm (tree'.below base depth) :=
  List.Perm.filterMap _ relists

end FileTree

/-! ## Ignore files -/

variable {tree tree' : FileTree}

theorem IgnoreFile.load_congr (agrees : tree.Agrees tree') :
    IgnoreFile.load tree = IgnoreFile.load tree' := by
  funext here path
  simp only [load, agrees.read]

theorem Repository.list_congr (agrees : tree.Agrees tree') :
    Repository.list tree = Repository.list tree' := by
  funext here place
  simp only [list, locate, agrees.find, agrees.read, IgnoreFile.load_congr agrees]

theorem IgnoreLevel.ofDirectory_congr (agrees : tree.Agrees tree') :
    IgnoreLevel.ofDirectory tree = IgnoreLevel.ofDirectory tree' := by
  funext here place directory
  simp only [ofDirectory, Repository.isAt, agrees.exists?, IgnoreFile.load_congr agrees,
    Repository.list_congr agrees]

namespace IgnoreSetting

theorem levelsAround_congr (agrees : tree.Agrees tree') :
    levelsAround tree = levelsAround tree' := by
  funext here place
  simp only [levelsAround, IgnoreLevel.ofDirectory_congr agrees]

theorem isValid_ofDirectory (agrees : tree.Agrees tree') (here : Place) (user : IgnoreFile)
    (directory : Path) (base : Place) :
    (ofDirectory tree here user directory base).isValid =
      (ofDirectory tree' here user directory base).isValid := by
  simp only [isValid, ofDirectory, levelsAround_congr agrees]

theorem isIgnored_ofDirectory (agrees : tree.Agrees tree') (here : Place) (user : IgnoreFile)
    (directory : Path) (base : Place) :
    (ofDirectory tree here user directory base).isIgnored =
      (ofDirectory tree' here user directory base).isIgnored := by
  funext names isDirectory
  simp only [isIgnored, isIgnoredItself, levelsInside, ofDirectory, levelsAround_congr agrees,
    IgnoreLevel.ofDirectory_congr agrees]
  rfl

end IgnoreSetting

theorem UserIgnore.load_congr {host : Host} (agrees : host.tree.Agrees tree) :
    load host = load { host with tree } := by
  have read : host.read = { host with tree }.read := by
    funext path
    simp only [Host.read, agrees.read]
  have isFile : host.isFile = { host with tree }.isFile := by
    funext path
    simp only [Host.isFile, agrees.isFile]
  simp only [load, path?, read, isFile, IgnoreFile.load_congr agrees]
  rfl

/-! ## Searches -/

namespace Search

inductive SameFiles : Except SearchError SearchResult → Except SearchError SearchResult → Prop where
  | failed (error : SearchError) : SameFiles (.error error) (.error error)
  | found {result result' : SearchResult} (files : result.files.Perm result'.files) :
      SameFiles (.ok result) (.ok result')

variable {host : Host} {search : Search}

theorem taken?_ofDirectory (agrees : tree.Agrees tree') (here : Place) (user : IgnoreFile)
    (directory : Path) (base : Place) :
    search.taken? (.ofDirectory tree here user directory base) =
      search.taken? (.ofDirectory tree' here user directory base) := by
  funext entry
  obtain ⟨names, entry⟩ := entry
  cases entry with
  | file content =>
      simp only [taken?, IgnoreSetting.isIgnored_ofDirectory agrees]
      rfl
  | directory | link target | device device | program program => rfl

theorem sameFiles_of_relists (relists : host.tree.Relists tree) (directory : Path)
    (recursive : Bool) :
    SameFiles (search.inDirectory host directory recursive)
      (search.inDirectory { host with tree } directory recursive) := by
  have agrees := relists.agrees
  simp only [inDirectory, ← agrees.find, ← UserIgnore.load_congr agrees,
    ← IgnoreSetting.isValid_ofDirectory agrees, ← taken?_ofDirectory agrees]
  split
  · split
    · exact .found (.refl _)
    · split
      · exact .failed _
      · exact .found ((relists.below _ _).filterMap _)
  · exact .found (.refl _)

end Search

end HouseStyle
