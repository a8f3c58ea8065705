namespace HouseStyle.Shell

structure CharSet where
  ranges : List (Char × Char) := []
  negated : Bool := false
  deriving DecidableEq, Repr

namespace CharSet

def holds (set : CharSet) (c : Char) : Bool :=
  (set.ranges.any fun (low, high) => low ≤ c && c ≤ high) != set.negated

def single (c : Char) : CharSet :=
  { ranges := [(c, c)] }

def all : CharSet :=
  { negated := true }

def classes : List (String × List (Char × Char)) :=
  [("alpha", [('A', 'Z'), ('a', 'z')]), ("digit", [('0', '9')]),
    ("alnum", [('0', '9'), ('A', 'Z'), ('a', 'z')]), ("upper", [('A', 'Z')]),
    ("lower", [('a', 'z')]), ("space", [('\t', '\r'), (' ', ' ')]),
    ("blank", [('\t', '\t'), (' ', ' ')]), ("xdigit", [('0', '9'), ('A', 'F'), ('a', 'f')]),
    ("punct", [('!', '/'), (':', '@'), ('[', '\x60'), ('\x7b', '~')]), ("print", [(' ', '~')]),
    ("graph", [('!', '~')]), ("cntrl", [('\x00', '\x1f'), ('\x7f', '\x7f')])]

def classRanges? (name : List Char) : Option (List (Char × Char)) :=
  classes.lookup (String.ofList name)

def word : CharSet :=
  { ranges := [('0', '9'), ('A', 'Z'), ('_', '_'), ('a', 'z')] }

def space : CharSet :=
  { ranges := [('\t', '\r'), (' ', ' ')] }

def digit : CharSet :=
  { ranges := [('0', '9')] }

def complement (set : CharSet) : CharSet :=
  { set with negated := !set.negated }

def otherCase (range : Char × Char) : List (Char × Char) :=
  let shifted (low high : Char) (shift : Char → Char) : List (Char × Char) :=
    let first := if range.1 ≤ low then low else range.1
    let last := if high ≤ range.2 then high else range.2
    if first ≤ last then [(shift first, shift last)] else []
  shifted 'A' 'Z' Char.toLower ++ shifted 'a' 'z' Char.toUpper

def folded (set : CharSet) : CharSet :=
  { set with ranges := set.ranges ++ set.ranges.flatMap otherCase }

end CharSet

def isWordChar (c : Char) : Bool :=
  CharSet.word.holds c

inductive Edge where
  | textStart
  | textEnd
  | lineStart
  | lineEnd
  | wordStart
  | wordEnd
  | wordEdge
  | noWordEdge
  deriving DecidableEq, Repr

namespace Edge

/-- Whether an edge is between the character before a place and the one after it. If the text has
several lines, each of them has a start and an end. -/
def holds (inLines : Bool) (before after : Option Char) : Edge → Bool
  | textStart => before.isNone
  | textEnd => after.isNone
  | lineStart => before.isNone || inLines && before = some '\n'
  | lineEnd => after.isNone || inLines && after = some '\n'
  | wordStart => !before.any isWordChar && after.any isWordChar
  | wordEnd => before.any isWordChar && !after.any isWordChar
  | wordEdge => before.any isWordChar != after.any isWordChar
  | noWordEdge => before.any isWordChar == after.any isWordChar

end Edge

inductive Regex where
  | empty
  | one (set : CharSet)
  | both (first second : Regex)
  | either (first second : Regex)
  | bounded (body : Regex) (least : Nat) (most : Option Nat) (lazy : Bool)
  | group (number : Nat) (body : Regex)
  | again (number : Nat)
  | edge (edge : Edge)
  | look (back negated : Bool) (body : Regex)
  | restart
  deriving Repr

namespace Regex

def char (c : Char) : Regex :=
  .one (.single c)

def ofPlain (text : List Char) : Regex :=
  text.foldr (fun c regex => .both (.char c) regex) .empty

def choice : List Regex → Regex
  | [] => .one {}
  | [regex] => regex
  | regex :: rest => .either regex (choice rest)

def hasMemory : Regex → Bool
  | both first second | either first second => first.hasMemory || second.hasMemory
  | bounded body _ _ lazy => lazy || body.hasMemory
  | group _ body => body.hasMemory
  | again _ | look _ _ _ | restart => true
  | empty | one _ | edge _ => false

def groupCount : Regex → Nat
  | both first second | either first second => Nat.max first.groupCount second.groupCount
  | bounded body _ _ _ => body.groupCount
  | group number body => Nat.max number body.groupCount
  | look _ _ body => body.groupCount
  | empty | one _ | again _ | edge _ | restart => 0

end Regex

end HouseStyle.Shell
