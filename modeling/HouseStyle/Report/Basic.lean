import HouseStyle.Finding

namespace HouseStyle

structure Report where
  findings : List Finding
  checkedFiles : List Path
  deriving DecidableEq, Repr

namespace Report

def empty : Report := ⟨[], []⟩

instance : Append Report where
  append first second :=
    ⟨first.findings ++ second.findings, first.checkedFiles ++ second.checkedFiles⟩

def ofKind (report : Report) (kind : Kind) : List Finding :=
  report.findings.filter (·.kind = kind)

def insertGrouped (finding : Finding) :
    List (Kind × List Finding) → List (Kind × List Finding)
  | [] => [(finding.kind, [finding])]
  | (kind, members) :: rest =>
    if kind = finding.kind then (kind, members ++ [finding]) :: rest
    else (kind, members) :: insertGrouped finding rest

def grouped (report : Report) : List (Kind × List Finding) :=
  report.findings.foldl (fun groups finding => insertGrouped finding groups) []

def exitCode (report : Report) : Nat :=
  if report.findings = [] then 0 else 1

end Report

end HouseStyle
