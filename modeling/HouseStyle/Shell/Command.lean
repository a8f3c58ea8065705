namespace HouseStyle.Shell

mutual

inductive WordPart where
  | text (text : List Char) (quoted : Bool)
  | parameter (name : List Char) (use : ParameterUse) (quoted : Bool)
  | output (command : Command) (quoted : Bool)
  | arithmetic (parts : List WordPart) (quoted : Bool)

/-- What is made of a parameter. Some uses depend on whether it is set; those with a colon count an
empty value as none. -/
inductive ParameterUse where
  | value
  | length
  | orElse (colon : Bool) (word : List WordPart)
  | orAssign (colon : Bool) (word : List WordPart)
  | orFail (colon : Bool) (word : List WordPart)
  | ifSet (colon : Bool) (word : List WordPart)
  | trim (side : TrimSide) (longest : Bool) (pattern : List WordPart)
  | unknown

inductive TrimSide where
  | start
  | ending

inductive Redirection where
  | mk (stream : Nat) (target : RedirectionTarget)

inductive RedirectionTarget where
  | readFrom (path : List WordPart)
  | writeTo (path : List WordPart)
  | overwrite (path : List WordPart)
  | appendTo (path : List WordPart)
  | readWrite (path : List WordPart)
  | copyOf (stream : List WordPart)
  | document (number : Nat)

inductive Command where
  | nothing
  | simple (line : Nat) (assignments : List (List Char × List WordPart))
      (words : List (List WordPart)) (redirections : List Redirection)
  | pipeline (commands : List Command)
  | negation (command : Command)
  | onSuccess (first second : Command)
  | onFailure (first second : Command)
  | sequence (first second : Command)
  | background (command : Command)
  | subshell (line : Nat) (command : Command) (redirections : List Redirection)
  | redirected (line : Nat) (command : Command) (redirections : List Redirection)
  | conditional (test yes no : Command)
  | loop (onSuccess : Bool) (test body : Command)
  | forEach (line : Nat) (name : List Char) (words : List (List WordPart)) (body : Command)
  | choice (line : Nat) (word : List WordPart) (cases : List (List (List WordPart) × Command))
  | define (line : Nat) (name : List Char) (body : Command)

end

instance : Inhabited Command := ⟨.nothing⟩

abbrev Word := List WordPart

/-! ## Names -/

def isNameStart (c : Char) : Bool :=
  c.isAlpha || c = '_'

def isNameChar (c : Char) : Bool :=
  c.isAlphanum || c = '_'

def isName (text : List Char) : Bool :=
  text.head?.any isNameStart && text.all isNameChar

def isSpecialParameter (c : Char) : Bool :=
  c ∈ ['@', '*', '#', '?', '-', '$', '!'] || c.isDigit

/-! ## Bytes -/

def ofBytes (bytes : List UInt8) : List Char :=
  bytes.map fun b => Char.ofNat b.toNat

def toBytes (text : List Char) : List UInt8 :=
  text.map fun c => c.toNat.toUInt8

end HouseStyle.Shell
