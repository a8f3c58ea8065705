namespace HouseStyle

inductive FileError where
  | notFound
  | permissionDenied
  | alreadyThere
  | notDirectory
  | isDirectory
  | noSpace
  | nameTooLong
  | notEmpty
  | tooManyLinks
  | busy
  | invalid
  | notPermitted
  | nulInName
  deriving DecidableEq, Repr

namespace FileError

def reason : FileError → String
  | notFound => "No such file or directory"
  | permissionDenied => "Permission denied"
  | alreadyThere => "File exists"
  | notDirectory => "Not a directory"
  | isDirectory => "Is a directory"
  | noSpace => "No space left on device"
  | nameTooLong => "File name too long"
  | notEmpty => "Directory not empty"
  | tooManyLinks => "Too many levels of symbolic links"
  | busy => "Device or resource busy"
  | invalid => "Invalid argument"
  | notPermitted => "Operation not permitted"
  | nulInName => "file name contained an unexpected NUL byte"

def number? : FileError → Option Nat
  | notFound => some 2
  | permissionDenied => some 13
  | alreadyThere => some 17
  | notDirectory => some 20
  | isDirectory => some 21
  | noSpace => some 28
  | nameTooLong => some 36
  | notEmpty => some 39
  | tooManyLinks => some 40
  | busy => some 16
  | invalid => some 22
  | notPermitted => some 1
  | nulInName => none

def message (error : FileError) : String :=
  match error.number? with
  | some number => error.reason ++ " (os error " ++ toString number ++ ")"
  | none => error.reason

end FileError

end HouseStyle
