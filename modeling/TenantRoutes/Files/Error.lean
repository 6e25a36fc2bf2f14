import TenantRoutes.Text.Described
/-! Failures to read or write a file. -/
namespace TenantRoutes

inductive FileError where
  | notFound
  | notDirectory
  | isDirectory
  | nameTooLong
  /-- The content is no UTF-8 text. -/
  | invalidText
  /-- Any other failure, in the words of the system. -/
  | other (message : String)
deriving DecidableEq

namespace FileError

/-- The number and the name of a failure that the system reports. -/
def systemCode? : FileError → Option (Nat × String)
  | notFound => some (2, "NotFound")
  | notDirectory => some (20, "NotADirectory")
  | isDirectory => some (21, "IsADirectory")
  | nameTooLong => some (36, "InvalidFilename")
  | _ => none

def text : FileError → String
  | notFound => "No such file or directory"
  | notDirectory => "Not a directory"
  | isDirectory => "Is a directory"
  | nameTooLong => "File name too long"
  | invalidText => "stream did not contain valid UTF-8"
  | other message => message

def message (error : FileError) : String :=
  match error.systemCode? with
  | some (code, _) => error.text ++ " (os error " ++ toString code ++ ")"
  | none => error.text

open Text.Described in
def describe (error : FileError) : String :=
  match error.systemCode? with
  | some (code, kind) =>
    record "Os" [("code", toString code), ("kind", kind), ("message", Text.quoted error.text)]
  | none => record "Error" [("kind", "InvalidData"), ("message", Text.quoted error.text)]

end FileError

end TenantRoutes
