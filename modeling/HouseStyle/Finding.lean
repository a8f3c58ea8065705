import HouseStyle.Path

namespace HouseStyle

inductive Kind where
  | header
  | functionDoc
  | indentation
  | headerGuard
  | errorHandling
  | errorOutput
  | compilation
  | fileError
  deriving DecidableEq, Repr

namespace Kind

def all : List Kind :=
  [header, functionDoc, indentation, headerGuard, errorHandling, errorOutput, compilation,
    fileError]

def label : Kind → String
  | header => "HEADER"
  | functionDoc => "FUNCTION_DOC"
  | indentation => "INDENTATION"
  | headerGuard => "HEADER_GUARD"
  | errorHandling => "ERROR_HANDLING"
  | errorOutput => "ERROR_OUTPUT"
  | compilation => "COMPILATION"
  | fileError => "FILE_ERROR"

def ofLabel? (label : String) : Option Kind :=
  all.find? (·.label = label)

end Kind

structure Location where
  file : Path
  line : Nat
  deriving DecidableEq, Repr

namespace Location

def wholeFile (file : Path) : Location :=
  ⟨file, 0⟩

def hasLine (location : Location) : Bool :=
  location.line > 0

def text (location : Location) : String :=
  if location.hasLine then location.file.display ++ ":" ++ toString location.line
  else location.file.display

end Location

structure Finding where
  kind : Kind
  location : Location
  message : String
  deriving DecidableEq, Repr

namespace Finding

def entry (finding : Finding) : String :=
  finding.location.text ++ " - " ++ finding.message

def compact (finding : Finding) : String :=
  finding.location.text ++ ": " ++ finding.kind.label ++ ": " ++ finding.message

end Finding

end HouseStyle
