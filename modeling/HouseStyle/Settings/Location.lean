import HouseStyle.Host.Basic
import HouseStyle.Settings.Document

namespace HouseStyle

inductive SettingsSource where
  | explicit (path : Path)
  | project (path : Path)
  | user (path : Path)
  | default
  deriving DecidableEq, Repr

namespace SettingsSource

def path? : SettingsSource → Option Path
  | explicit path | project path | user path => some path
  | default => none

def isUser : SettingsSource → Bool
  | user _ => true
  | _ => false

def projectNames : List Path := ["cstyle.toml", ".cstyle.toml"]

def userDirectory? (host : Host) : Option Path :=
  host.settingsDirectory.or (host.homeDirectory?.map (·.join ".cstyle"))

def resolve (host : Host) (directory : Path) (named : Option Path) : SettingsSource :=
  match named with
  | some path => explicit path
  | none =>
    match (projectNames.map directory.join).find? host.isFile with
    | some path => project path
    | none =>
      match ((userDirectory? host).map (·.join "config.toml")).filter host.isFile with
      | some path => user path
      | none => default

end SettingsSource

namespace Settings

def load (host : Host) (path : Path) : Except SettingsError Settings :=
  match host.read path with
  | .error error => .error (.unreadable path error.message)
  | .ok content =>
    match Text.decode? content with
    | none => .error (.unreadable path "stream did not contain valid UTF-8")
    | some text => parse text

end Settings

end HouseStyle
