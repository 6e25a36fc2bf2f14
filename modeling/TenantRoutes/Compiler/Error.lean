import TenantRoutes.Text.Described
/-! The failures of a compilation. Each arises from the answer to a question of the compiler, which
passes it on unchanged. -/
namespace TenantRoutes

inductive CompileError where
  /-- An id cannot be a directory name. -/
  | invalidPathSegment (id : String)
  /-- A site without a name has no domain on the platform. -/
  | missingSiteName (site : String)
  /-- There is a password, but its hash is empty. -/
  | emptyPassword
deriving DecidableEq

namespace CompileError

/-- The name of the kind of a failure. -/
def kind : CompileError → String
  | invalidPathSegment _ => "InvalidPathSegment"
  | missingSiteName _ => "MissingSiteName"
  | emptyPassword => "EmptyPassword"

def message : CompileError → String
  | invalidPathSegment id => "invalid path segment " ++ Text.quoted id ++ " in content root"
  | missingSiteName site => "site " ++ site ++ " has no name"
  | emptyPassword => "password hash is empty"

def describe (error : CompileError) : String :=
  match error with
  | invalidPathSegment text | missingSiteName text =>
    Text.Described.case error.kind (Text.quoted text)
  | emptyPassword => error.kind

end CompileError

end TenantRoutes
