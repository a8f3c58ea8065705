import HouseStyle.FileTree.Basic

namespace HouseStyle

structure Host where
  tree : FileTree
  here : Place
  home : Option Path := none
  settingsDirectory : Option Path := none
  printed : String := ""

namespace Host

def homeDirectory? (host : Host) : Option Path :=
  host.home.filter (·.bytes ≠ [])

def read (host : Host) (path : Path) : Except FileError (List UInt8) :=
  host.tree.read host.here path

def isFile (host : Host) (path : Path) : Bool :=
  host.tree.isFile host.here path

def exists? (host : Host) (path : Path) : Bool :=
  host.tree.exists? host.here path

def isOutput (host : Host) (path : Path) : Bool :=
  match host.tree.find host.here path with
  | .ok (_, .device (.stream 1)) => true
  | _ => false

def write (host : Host) (path : Path) (content : List UInt8) : Except FileError Host := do
  let tree ← host.tree.write host.here path content
  let written := if host.isOutput path then String.ofList (Text.decodeLossy content) else ""
  pure { host with tree, printed := host.printed ++ written }

def enter (host : Host) (path : Path) : Host :=
  match host.tree.find host.here path with
  | .ok (place, .directory) => { host with here := place }
  | _ => host

end Host

end HouseStyle
