import TenantRoutes.Files.Error
import TenantRoutes.Policy.Json
import TenantRoutes.Policy.Validation
import TenantRoutes.Toml.Document
/-! Loading policies. A policy is accepted when its file can be read as UTF-8, the text is TOML of
the form of a policy, and the policy has no problems. -/
namespace TenantRoutes

inductive LoadError where
  | unreadable (error : FileError)
  /-- The text is no TOML, or not of the form of a policy. -/
  | malformed
  | invalid (problems : List Problem)
deriving DecidableEq

namespace LoadError

/-- The name of the kind of a failure. -/
def kind : LoadError → String
  | unreadable _ => "Io"
  | malformed => "Parse"
  | invalid _ => "Validation"

def message : LoadError → String
  | unreadable error => "IO error: " ++ error.message
  | malformed => "Parse error"
  | invalid problems =>
    "Validation failed: " ++ String.intercalate ", " (problems.map Problem.message)

open Text.Described in
def describe (error : LoadError) : String :=
  match error with
  | unreadable cause => case error.kind cause.describe
  | malformed => error.kind
  | invalid problems => case error.kind (list (problems.map Problem.describe))

end LoadError

namespace Policy

/-- The policy that a text stands for, before its problems are looked at. Items after the last field
of a record are ignored. -/
def ofText? (text : String) : Option Policy :=
  (Toml.parse? text).bind (read? .ignored)

/-- Accept a policy without problems. -/
def validate (policy : Policy) : Except LoadError Policy :=
  match policy.problems with
  | [] => .ok policy
  | problems => .error (.invalid problems)

/-- The policy of a text. -/
def parse (text : String) : Except LoadError Policy :=
  match ofText? text with
  | none => .error .malformed
  | some policy => policy.validate

/-- The policy of a file that was read, or failed to be. -/
def load (content : Except FileError ByteArray) : Except LoadError Policy :=
  match content with
  | .error error => .error (.unreadable error)
  | .ok bytes =>
    match String.fromUTF8? bytes with
    | none => .error (.unreadable .invalidText)
    | some text => parse text

end Policy

end TenantRoutes
