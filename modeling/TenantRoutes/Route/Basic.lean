import TenantRoutes.Route.HeaderMap
/-! Routes of the server. A route holds a condition on requests and the handlers of the requests
that meet it; a subroute handler holds routes again, and so do the error routes, which answer when
a handler ends with an error status. Nothing here evaluates a request. -/
namespace TenantRoutes

/-- A status, or a placeholder that the server replaces. -/
inductive StatusCode where
  | code (value : UInt16)
  | placeholder (text : String)
deriving DecidableEq

/-- Holds when one of the files exists below the root. -/
structure FileMatcher where
  root : String
  tryFiles : List String
deriving DecidableEq

/-- Conditions that hold together. An empty list of hosts holds for no request, and differs from
the absence of a condition on hosts. -/
structure MatcherSet where
  host : Option (List String) := none
  path : Option (List String) := none
  file : Option FileMatcher := none
  expression : Option String := none
deriving DecidableEq

/-- A user with the Base64 text of the hash of a password. -/
structure Account where
  username : String
  password : String
deriving DecidableEq

structure BasicAuth where
  /-- The name of the hash. -/
  algorithm : String
  accounts : List Account
  realm : Option String := none
deriving DecidableEq

mutual

/-- A route. Without matchers it holds for every request. Of the routes of a group only the first
that holds is taken. -/
structure Route where
  id : Option String := none
  group : Option String := none
  /-- The route holds when one of these does. -/
  matchers : List MatcherSet := []
  handlers : List Handler := []
  errors : Option (List Route) := none

inductive Handler where
  | subroute (routes : List Route)
  | rewrite (uri : String)
  /-- Sets response headers. -/
  | headers (set : HeaderMap)
  /-- Compresses responses; `gzip` is the one encoding there is. -/
  | encode (gzip : Bool)
  | fileServer (root : String)
  | staticResponse (status : Option StatusCode) (headers : HeaderMap) (body : Option String)
  | authentication (basic : Option BasicAuth)

end

instance : Inhabited Route := ⟨{}⟩
instance : Inhabited Handler := ⟨.rewrite ""⟩

/-- The name of the kind of a handler. -/
def Handler.name : Handler → String
  | subroute _ => "subroute"
  | rewrite _ => "rewrite"
  | headers _ => "headers"
  | encode _ => "encode"
  | fileServer _ => "file_server"
  | staticResponse _ _ _ => "static_response"
  | authentication _ => "authentication"

/-- The routes of a subroute handler. -/
def Handler.subroutes? : Handler → Option (List Route)
  | subroute routes => some routes
  | _ => none

namespace Route

/-- The hosts of the first matcher. -/
def hosts? (route : Route) : Option (List String) :=
  route.matchers.head?.bind (·.host)

/-- The routes of the first subroute handler. -/
def subroutes? (route : Route) : Option (List Route) :=
  route.handlers.findSome? Handler.subroutes?

end Route

end TenantRoutes
