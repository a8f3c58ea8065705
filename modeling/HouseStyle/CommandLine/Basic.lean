import HouseStyle.Report.Format

namespace HouseStyle

structure CheckOptions where
  files : List Path := []
  directory : Option Path := none
  recursive : Bool := false
  output : Option Path := none
  format : Format := .text
  rules : Option String := none
  exclude : List String := []
  deriving DecidableEq, Repr

inductive Action where
  | check (options : CheckOptions)
  | listRules
  | writeSettings (force : Bool)
  deriving DecidableEq, Repr

structure Order where
  verbose : Bool
  settings : Option Path
  action : Action
  deriving DecidableEq, Repr

inductive CommandLine where
  | order (order : Order)
  | version
  | help
  | misuse
  deriving DecidableEq, Repr

end HouseStyle
