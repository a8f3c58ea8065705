import HouseStyle.Shell.Command

/-!
# Arguments of programs

The arguments of a program are options and operands. An option is a letter behind a dash or a name
behind two, and some take arguments of their own. Letters can stand together behind one dash, a name
can be cut short as long as only one fits, and all that follows two dashes alone is an operand.
-/

namespace HouseStyle.Shell

inductive Demand where
  | nothing
  | optional
  | required
  deriving DecidableEq, Repr

inductive WordOrder where
  | mixed
  | ordered
  | numbers
  deriving DecidableEq, Repr

structure OptionForm where
  letter : Char
  demand : Demand := .nothing
  name : String := ""
  deriving DecidableEq, Repr

/-- The options of a program as they were given, each with its argument, and its operands. A fault
ends both. -/
structure Arguments where
  options : List (Char × List Char) := []
  operands : List (List Char) := []
  fault : Option (List Char) := none

namespace OptionForm

def letters (letters : String) : List OptionForm :=
  letters.toList.map fun letter => { letter }

def valued (letters : String) : List OptionForm :=
  letters.toList.map fun letter => { letter, demand := .required }

def named (forms : List (Char × String)) : List OptionForm :=
  forms.map fun (letter, name) => { letter, name }

def namedValued (forms : List (Char × String)) : List OptionForm :=
  forms.map fun (letter, name) => { letter, name, demand := .required }

/-- The forms whose names start as a text does. It is only one if its name is the text, or if they
all mean the same. -/
def fitting (forms : List OptionForm) (text : List Char) : List OptionForm :=
  let named := forms.filter (·.name ≠ "")
  match named.filter (·.name.toList = text) with
  | form :: _ => [form]
  | [] =>
    match named.filter fun form => text.isPrefixOf form.name.toList with
    | form :: others =>
      if others.all fun other => other.letter = form.letter && other.demand = form.demand then
        [form]
      else form :: others
    | [] => []

end OptionForm

namespace Arguments

def addOption (arguments : Arguments) (letter : Char) (argument : List Char) : Arguments :=
  { arguments with options := (letter, argument) :: arguments.options }

def addOperand (arguments : Arguments) (operand : List Char) : Arguments :=
  { arguments with operands := operand :: arguments.operands }

def quotedName (name : List Char) : List Char :=
  "'--".toList ++ name ++ ['\'']

/-- What a word with a name of an option means: its letter, its argument, and how many of the words
after it belong to it. -/
def long (forms : List OptionForm) (text : List Char) (next : Option (List Char)) :
    Except (List Char) (Char × List Char × Nat) :=
  let name := text.takeWhile (· ≠ '=')
  let value? := match text.drop name.length with
    | _ :: value => some value
    | [] => none
  match OptionForm.fitting forms name with
  | [] => .error ("unrecognized option ".toList ++ quotedName text)
  | [form] =>
    let shown := "option ".toList ++ quotedName form.name.toList
    match form.demand, value?, next with
    | .nothing, some _, _ => .error (shown ++ " doesn't allow an argument".toList)
    | .nothing, none, _ | .optional, none, _ => .ok (form.letter, [], 0)
    | _, some value, _ => .ok (form.letter, value, 0)
    | .required, none, some value => .ok (form.letter, value, 1)
    | .required, none, none => .error (shown ++ " requires an argument".toList)
  | several =>
    .error ("option ".toList ++ quotedName text ++ " is ambiguous; possibilities:".toList ++
      several.flatMap fun form => ' ' :: quotedName form.name.toList)

def isNegative (word : List Char) : Bool :=
  word.head? = some '-' && word[1]?.any fun c => c.isDigit || c = '.'

/-- Read words in at most so many steps, up to an option that is not known or whose argument is
missing. `inside` tells that letters were taken off the first word. -/
def read (order : WordOrder) (forms : List OptionForm) :
    Nat → Bool → List (List Char) → Arguments
  | 0, _, operands => { operands }
  | steps + 1, inside, words =>
    if order = .numbers && !inside && words.head?.any isNegative then { operands := words }
    else match words with
    | [] => {}
    | ['-', '-'] :: operands => { operands }
    | ('-' :: '-' :: text) :: rest =>
      match long forms text rest.head? with
      | .error fault => { fault := some fault }
      | .ok (letter, argument, used) =>
        (read order forms steps false (rest.drop used)).addOption letter argument
    | ('-' :: letter :: letters) :: rest =>
      match forms.find? (·.letter = letter) with
      | none => { fault := some ("invalid option -- '".toList ++ [letter, '\'']) }
      | some form =>
        match form.demand, letters, rest with
        | .nothing, [], rest | .optional, [], rest =>
          (read order forms steps false rest).addOption letter []
        | .nothing, letters, rest =>
          (read order forms steps true (('-' :: letters) :: rest)).addOption letter []
        | .required, [], [] =>
          { fault := some ("option requires an argument -- '".toList ++ [letter, '\'']) }
        | .required, [], argument :: rest =>
          (read order forms steps false rest).addOption letter argument
        | _, argument, rest => (read order forms steps false rest).addOption letter argument
    | word :: rest =>
      if order ≠ .mixed then { operands := word :: rest }
      else (read order forms steps false rest).addOperand word

def parse (order : WordOrder) (forms : List OptionForm) (words : List (List Char)) : Arguments :=
  read order forms (words.foldl (fun total word => total + word.length + 1) 1) false words

def has (arguments : Arguments) (letter : Char) : Bool :=
  arguments.options.any (·.1 = letter)

def hasAny (arguments : Arguments) (letters : String) : Bool :=
  arguments.options.any fun option => letters.toList.contains option.1

def value? (arguments : Arguments) (letter : Char) : Option (List Char) :=
  ((arguments.options.filter (·.1 = letter)).getLast?).map (·.2)

def last? (arguments : Arguments) (letters : String) : Option Char :=
  ((arguments.options.filter fun option =>
    letters.toList.contains option.1).getLast?).map (·.1)

end Arguments

end HouseStyle.Shell
