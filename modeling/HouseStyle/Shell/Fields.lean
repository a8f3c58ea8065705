import HouseStyle.Shell.Expansion

/-!
# Fields

The pieces of a word are cut into fields. Blanks between fields count as one separator, other
separators each count for themselves. A field that is a pattern stands for the paths that it
describes, in order; if there are none, it stands for itself.
-/

namespace HouseStyle.Shell

abbrev Field := List QuotedChar

structure Cutting where
  done : List Field := []
  current : Field := []
  began : Bool := false
  /-- A separator was just passed; it can go on with blanks, and if it consists of blanks so far,
  with one other separator. -/
  passing : Option Bool := none

namespace Cutting

def close (cutting : Cutting) : Cutting :=
  { done := cutting.done ++ [cutting.current.reverse] }

def closeBegun (cutting : Cutting) : Cutting :=
  if cutting.began then cutting.close else { cutting with passing := none }

def isBlank (c : Char) : Bool :=
  c = ' ' || c = '\t' || c = '\n'

def separate (cutting : Cutting) (c : Char) : Cutting :=
  let blank := isBlank c
  match cutting.passing with
  | some onlyBlanks =>
    if blank then cutting
    else if onlyBlanks then { cutting with passing := some false }
    else { cutting.close with passing := some false }
  | none =>
    if blank && !cutting.began then cutting
    else { cutting.close with passing := some blank }

def step (separators : List Char) (cutting : Cutting) : Piece → Cutting
  | .char c quoted cuts =>
    if cuts && separators.contains c then cutting.separate c
    else { cutting with current := (c, quoted) :: cutting.current, began := true, passing := none }
  | .mark => { cutting with began := true, passing := none }
  | .gap => cutting.closeBegun
  | .seam => { cutting with passing := none }

end Cutting

def fieldsOf (separators : List Char) (pieces : List Piece) : List Field :=
  (pieces.foldl (Cutting.step separators) {}).closeBegun.done

/-! ## Paths -/

def Field.text (field : Field) : List Char :=
  field.map (·.1)

def pathParts : Field → List Field
  | [] => [[]]
  | (c, quoted) :: rest =>
    match pathParts rest with
    | [] => [[(c, quoted)]]
    | part :: parts => if c = '/' then [] :: part :: parts else ((c, quoted) :: part) :: parts

def textBefore : List Char → List Char → Bool
  | _, [] => false
  | [], _ :: _ => true
  | a :: left, b :: right => if a = b then textBefore left right else a < b

def sortTexts (texts : List (List Char)) : List (List Char) :=
  texts.mergeSort fun left right => !textBefore right left

namespace Exec

def namesIn (path : List Char) : Exec (List (List Char)) := do
  match (← locate (if path = [] then ['.'] else path)) with
  | .ok (place, .directory) => do
    let below := (← get).tree.below place (some 1)
    pure (below.filterMap fun (names, _) => names.head?.map ofPath)
  | _ => pure []

def isThere (path : List Char) : Exec Bool := do
  let machine ← get
  if machine.tree.exists? machine.process.here (pathOf path) then pure true
  else
    let parent := (path.reverse.dropWhile (· ≠ '/')).reverse
    let name := (path.reverse.takeWhile (· ≠ '/')).reverse
    match (← locate (if parent = [] then ['.'] else parent)) with
    | .ok (place, .directory) =>
      pure (name ≠ [] && (machine.tree.get? (place ++ [(pathOf name).bytes])).isSome)
    | _ => pure false

def pathsFrom (start : List Char) : List Field → Exec (List (List Char))
  | [] => do
    if (← isThere start) then pure [start] else pure []
  | part :: rest => do
    let ending := if rest = [] then [] else ['/']
    if part = [] then
      match rest with
      | [] => if start = [] || (← isThere start) then pure [start] else pure []
      | _ => pathsFrom (start ++ ['/']) rest
    else if isGlob part then
      let tokens := globOf part
      let hidden := part.head?.any (·.1 = '.')
      let own := if hidden then [['.'], ['.', '.']] else []
      let names := (own ++ (← namesIn start)).filter fun name =>
        (hidden || name.head? ≠ some '.') && globMatches tokens name
      let found ← names.mapM fun name => do
        let path := start ++ name
        if rest = [] then pure [path]
        else match (← locate path) with
          | .ok (_, .directory) => pathsFrom (path ++ ending) rest
          | _ => pure []
      pure found.flatten
    else pathsFrom (start ++ part.text ++ ending) rest

def pathsOf (field : Field) : Exec (List (List Char)) := do
  if (← hasOption 'f') || !isGlob field then pure [field.text]
  else
    match sortTexts (← pathsFrom [] (pathParts field)) with
    | [] => pure [field.text]
    | paths => pure paths

/-! ## Words -/

def expandWord (run : Command → Exec (List Char)) (word : Word) : Exec (List (List Char)) := do
  let pieces ← expandParts run { cutting := true, tildes := true } true word
  let fields := fieldsOf (← separators) pieces
  pure (← fields.mapM pathsOf).flatten

def expandWords (run : Command → Exec (List Char)) (words : List Word) :
    Exec (List (List Char)) := do
  pure (← words.mapM (expandWord run)).flatten

def expandText (run : Command → Exec (List Char)) (word : Word) : Exec (List Char) := do
  pure (Piece.text (← expandParts run { cutting := false, tildes := true } true word))

def expandValue (run : Command → Exec (List Char)) (word : Word) : Exec (List Char) := do
  let manner := { cutting := false, tildes := true, tildesInside := true }
  pure (Piece.text (← expandParts run manner true word))

def expandPattern (run : Command → Exec (List Char)) (word : Word) : Exec (List GlobToken) := do
  let pieces ← expandParts run { cutting := false, tildes := true } true word
  pure (globOf (Piece.quotedChars pieces))

def anyMatches (run : Command → Exec (List Char)) (text : List Char) : List Word → Exec Bool
  | [] => pure false
  | pattern :: rest => do
    if globMatches (← expandPattern run pattern) text then pure true
    else anyMatches run text rest

end Exec

end HouseStyle.Shell
