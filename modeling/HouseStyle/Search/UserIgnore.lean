import HouseStyle.Host.Basic
import HouseStyle.Search.Ignore

namespace HouseStyle.UserIgnore

def isBlank (b : UInt8) : Bool :=
  b = 0x20 || 0x09 ≤ b && b ≤ 0x0D

def dropBlanks (text : List UInt8) : List UInt8 :=
  text.dropWhile isBlank

def endsLine (text : List UInt8) : Bool :=
  (text.takeWhile isBlank).contains 0x0A || (dropBlanks text).isEmpty

def quote : UInt8 := 0x22

def endsValue (text : List UInt8) : Bool :=
  endsLine text || match dropBlanks text with
    | b :: rest => b = quote && endsLine rest
    | [] => false

def shortest? : List UInt8 → Option (List UInt8)
  | [] => none
  | b :: rest =>
    if isBlank b then none
    else if endsValue rest then some [b]
    else (shortest? rest).map (b :: ·)

def value? (text : List UInt8) : Option (List UInt8) :=
  match dropBlanks text with
  | b :: rest =>
    if b = quote then
      match shortest? (dropBlanks rest) with
      | some value => some value
      | none => shortest? (b :: rest)
    else shortest? (b :: rest)
  | [] => none

def toLowerByte (b : UInt8) : UInt8 :=
  if 0x41 ≤ b && b ≤ 0x5A then b + 0x20 else b

def key : List UInt8 := Text.encode "excludesfile".toList

def entry? (text : List UInt8) : Option (List UInt8) :=
  let text := dropBlanks text
  if (text.take key.length).map toLowerByte = key then
    match dropBlanks (text.drop key.length) with
    | b :: rest => if b = 0x3D then value? rest else none
    | [] => none
  else none

def firstEntry? (atStart : Bool) : List UInt8 → Option (List UInt8)
  | [] => none
  | b :: rest =>
    match if atStart then entry? (b :: rest) else none with
    | some value => some value
    | none => firstEntry? (b = 0x0A) rest

def namedPath? (home : Path) (content : List UInt8) : Option Path := do
  let value ← firstEntry? true content
  let path ← Text.decode? value
  let expanded := path.flatMap fun c => if c = '~' then home.display.toList else [c]
  pure (Path.ofText (String.ofList expanded))

def settingsNames : List Path := [".gitconfig", ".config/git/config"]

def defaultName : Path := ".config/git/ignore"

def path? (host : Host) : Option Path := do
  let home ← host.homeDirectory?
  let named := settingsNames.findSome? fun name =>
    (host.read (home.join name)).toOption.bind (namedPath? home)
  pure (named.getD (home.join defaultName))

def load (host : Host) : IgnoreFile :=
  match (path? host).filter host.isFile with
  | some path => .load host.tree host.here path
  | none => {}

end HouseStyle.UserIgnore
