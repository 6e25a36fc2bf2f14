import TenantRoutes.Route.Basic
/-! Descriptions of routes. -/
namespace TenantRoutes

open Text (quoted)
open Text.Described

def StatusCode.describe : StatusCode → String
  | code value => case "Code" (toString value.toNat)
  | placeholder text => case "Placeholder" (quoted text)

/-- The description of a list of texts. -/
def describeTexts (texts : List String) : String :=
  list (texts.map quoted)

def FileMatcher.describe (matcher : FileMatcher) : String :=
  record "FileMatcher" [("root", quoted matcher.root),
    ("try_files", describeTexts matcher.tryFiles)]

def MatcherSet.describe (matcher : MatcherSet) : String :=
  record "MatcherSet" [("host", optional describeTexts matcher.host),
    ("path", optional describeTexts matcher.path),
    ("file", optional FileMatcher.describe matcher.file),
    ("expression", optional quoted matcher.expression)]

def Account.describe (account : Account) : String :=
  record "Account" [("username", quoted account.username), ("password", quoted account.password)]

def BasicAuth.describeAlgorithm (algorithm : String) : String :=
  record "HashConfig" [("algorithm", quoted algorithm)]

def BasicAuth.describe (auth : BasicAuth) : String :=
  record "HttpBasicAuth" [("hash", describeAlgorithm auth.algorithm),
    ("accounts", list (auth.accounts.map Account.describe)),
    ("realm", optional quoted auth.realm)]

namespace Handler

def describeGzip (_ : Unit) : String :=
  record "GzipSettings" []

def describeEncodings (gzip : Bool) : String :=
  record "Encodings" [("gzip", optional describeGzip (if gzip then some () else none))]

def describeProviders (basic : Option BasicAuth) : String :=
  record "AuthProviders" [("http_basic", optional BasicAuth.describe basic)]

def describeResponse (set : HeaderMap) : String :=
  record "HeaderOps" [("set", set.describe)]

end Handler

def describeErrors (routes : List String) : String :=
  record "ErrorRoutes" [("routes", list routes)]

mutual

def Route.describe (route : Route) : String :=
  match route with
  | ⟨id, group, matchers, handlers, errors⟩ =>
    record "Route" [("id", optional quoted id), ("group", optional quoted group),
      ("matchers", list (matchers.map MatcherSet.describe)),
      ("handle", list (Handler.describeList handlers)),
      ("errors",
        match errors with
        | none => optional quoted none
        | some routes => case "Some" (describeErrors (Route.describeList routes)))]

def Handler.describe (handler : Handler) : String :=
  match handler with
  | .subroute routes => record "Subroute" [("routes", list (Route.describeList routes))]
  | .rewrite uri => record "Rewrite" [("uri", quoted uri)]
  | .headers set => record "Headers" [("response", Handler.describeResponse set)]
  | .encode gzip => record "Encode" [("encodings", Handler.describeEncodings gzip)]
  | .fileServer root => record "FileServer" [("root", quoted root)]
  | .staticResponse status headers body =>
    record "StaticResponse" [("status_code", optional StatusCode.describe status),
      ("headers", headers.describe), ("body", optional quoted body)]
  | .authentication basic =>
    record "Authentication" [("providers", Handler.describeProviders basic)]

def Route.describeList : List Route → List String
  | [] => []
  | route :: rest => route.describe :: Route.describeList rest

def Handler.describeList : List Handler → List String
  | [] => []
  | handler :: rest => handler.describe :: Handler.describeList rest

end

end TenantRoutes
