import TenantRoutes.Json.Printer
import TenantRoutes.Route.Basic
/-! Routes in JSON. Absent optional fields and empty lists of a route are left out; a list of hosts
is written even if it is empty. Reading accepts what writing gives and all other forms of the
records. Inside the routes of a subroute handler, a handler may be named by its place. -/
namespace TenantRoutes

open Json (Record Naming)

/-- A field that is written if it is there. -/
def presentField (name : String) (value : Option Json) : List (String × Json) :=
  match value with
  | none => []
  | some json => [(name, json)]

/-- A field that is written unless its list is empty. -/
def nonemptyField (name : String) (items : List Json) : List (String × Json) :=
  match items with
  | [] => []
  | items => [(name, .array items)]

/-- A field that is written unless its map is empty. -/
def headersField (name : String) (map : HeaderMap) : List (String × Json) :=
  if map.isEmpty then [] else [(name, map.toJson)]

namespace StatusCode

def toJson : StatusCode → Json
  | code value => Json.ofNat value.toNat
  | placeholder text => .string text

def ofJson? : Json → Option StatusCode
  | .string text => some (placeholder text)
  | json => do
    let value ← json.nat?
    if value < 65536 then some (code (UInt16.ofNat value)) else none

end StatusCode

namespace FileMatcher

def toJson (matcher : FileMatcher) : Json :=
  .object [("root", .string matcher.root), ("try_files", Json.ofList Json.string matcher.tryFiles)]

def ofJson? (json : Json) : Option FileMatcher := do
  let record ← Record.ofJson? .refused 2 json
  let root ← record.required 0 "root" Json.string?
  let tryFiles ← record.required 1 "try_files" (Json.listOf? Json.string?)
  some { root, tryFiles }

end FileMatcher

namespace MatcherSet

def toJson (matcher : MatcherSet) : Json :=
  .object (presentField "host" (matcher.host.map (Json.ofList Json.string))
    ++ presentField "path" (matcher.path.map (Json.ofList Json.string))
    ++ presentField "file" (matcher.file.map FileMatcher.toJson)
    ++ presentField "expression" (matcher.expression.map Json.string))

def ofJson? (json : Json) : Option MatcherSet := do
  let record ← Record.ofJson? .refused 4 json
  let host ← record.optional 0 "host" (Json.listOf? Json.string?)
  let path ← record.optional 1 "path" (Json.listOf? Json.string?)
  let file ← record.optional 2 "file" FileMatcher.ofJson?
  let expression ← record.optional 3 "expression" Json.string?
  some { host, path, file, expression }

end MatcherSet

namespace Account

def toJson (account : Account) : Json :=
  .object [("username", .string account.username), ("password", .string account.password)]

def ofJson? (json : Json) : Option Account := do
  let record ← Record.ofJson? .refused 2 json
  let username ← record.required 0 "username" Json.string?
  let password ← record.required 1 "password" Json.string?
  some { username, password }

end Account

namespace BasicAuth

def algorithmToJson (algorithm : String) : Json :=
  .object [("algorithm", .string algorithm)]

def algorithmOfJson? (json : Json) : Option String := do
  let record ← Record.ofJson? .refused 1 json
  record.required 0 "algorithm" Json.string?

def toJson (auth : BasicAuth) : Json :=
  .object ([("hash", algorithmToJson auth.algorithm),
    ("accounts", Json.ofList Account.toJson auth.accounts)]
    ++ presentField "realm" (auth.realm.map Json.string))

def ofJson? (json : Json) : Option BasicAuth := do
  let record ← Record.ofJson? .refused 3 json
  let algorithm ← record.required 0 "hash" algorithmOfJson?
  let accounts ← record.required 1 "accounts" (Json.listOf? Account.ofJson?)
  let realm ← record.optional 2 "realm" Json.string?
  some { algorithm, accounts, realm }

end BasicAuth

namespace Handler

/-- The settings of the gzip encoding, which has none. -/
def gzipToJson : Json := .object []

def gzipOfJson? (json : Json) : Option Unit :=
  (Record.ofJson? .refused 0 json).map fun _ => ()

def encodingsToJson (gzip : Bool) : Json :=
  .object (presentField "gzip" (if gzip then some gzipToJson else none))

def encodingsOfJson? (json : Json) : Option Bool := do
  let record ← Record.ofJson? .refused 1 json
  let gzip ← record.optional 0 "gzip" gzipOfJson?
  some gzip.isSome

def providersToJson (basic : Option BasicAuth) : Json :=
  .object (presentField "http_basic" (basic.map BasicAuth.toJson))

def providersOfJson? (json : Json) : Option (Option BasicAuth) := do
  let record ← Record.ofJson? .refused 1 json
  record.optional 0 "http_basic" BasicAuth.ofJson?

def responseToJson (set : HeaderMap) : Json :=
  .object (headersField "set" set)

def responseOfJson? (json : Json) : Option HeaderMap := do
  let record ← Record.ofJson? .refused 1 json
  record.withDefault 0 "set" HeaderMap.empty HeaderMap.ofJson?

def caseNames : List String :=
  ["subroute", "rewrite", "headers", "encode", "file_server", "static_response", "authentication"]

end Handler

/-- The object of error routes. -/
def errorsToJson (routes : List Json) : Json :=
  .object [("routes", .array routes)]

mutual

def Route.toJson (route : Route) : Json :=
  match route with
  | ⟨id, group, matchers, handlers, errors⟩ =>
    .object (presentField "@id" (id.map Json.string) ++ presentField "group" (group.map Json.string)
      ++ nonemptyField "match" (matchers.map MatcherSet.toJson)
      ++ nonemptyField "handle" (Handler.listToJson handlers)
      ++ presentField "errors"
        (match errors with
        | none => none
        | some routes => some (errorsToJson (Route.listToJson routes))))

def Handler.toJson (handler : Handler) : Json :=
  .object (("handler", .string handler.name) ::
    match handler with
    | .subroute routes => [("routes", .array (Route.listToJson routes))]
    | .rewrite uri => [("uri", .string uri)]
    | .headers set => [("response", Handler.responseToJson set)]
    | .encode gzip => [("encodings", Handler.encodingsToJson gzip)]
    | .fileServer root => [("root", .string root)]
    | .staticResponse status headers body =>
      presentField "status_code" (status.map StatusCode.toJson) ++ headersField "headers" headers
        ++ presentField "body" (body.map Json.string)
    | .authentication basic => [("providers", Handler.providersToJson basic)])

def Route.listToJson : List Route → List Json
  | [] => []
  | route :: rest => route.toJson :: Route.listToJson rest

def Handler.listToJson : List Handler → List Json
  | [] => []
  | handler :: rest => handler.toJson :: Handler.listToJson rest

end

/-- A field of a record is smaller than the record. -/
theorem Json.Record.sizeOf_lt_of_field? {json : Json} {record : Record} {size place : Nat}
    {name : String} {value : Json} (hrecord : Record.ofJson? .refused size json = some record)
    (hfield : record.field? place name = some value) : sizeOf value < sizeOf json := by
  cases json with
  | object fields =>
    cases hrecord
    have hmem := List.sizeOf_lt_of_mem (Json.mem_of_field? hfield)
    simp only [Prod.mk.sizeOf_spec, Json.object.sizeOf_spec] at hmem ⊢
    omega
  | array items =>
    simp only [Record.ofJson?] at hrecord
    split at hrecord
    · cases hrecord
      have hmem := List.sizeOf_lt_of_mem (List.mem_of_getElem? hfield)
      simp only [Json.array.sizeOf_spec]
      omega
    · cases hrecord
  | _ => cases hrecord

/-- A field beside a tag is smaller than the whole. -/
theorem Json.sizeOf_lt_of_tagged? {json tag : Json} {record : Record} {tagName : String}
    {place : Nat} {name : String} {value : Json} (htag : tagged? tagName json = some (tag, record))
    (hfield : record.field? place name = some value) : sizeOf value < sizeOf json := by
  cases json with
  | object fields =>
    simp only [tagged?, Option.map_eq_some_iff] at htag
    obtain ⟨_, _, hpair⟩ := htag
    cases hpair
    have hrecord : Record.ofJson? .refused 0 (object fields) = some (.named fields) := rfl
    exact Record.sizeOf_lt_of_field? hrecord hfield
  | array items =>
    cases items with
    | nil => cases htag
    | cons first rest =>
      cases htag
      have hmem := List.sizeOf_lt_of_mem (List.mem_of_getElem? hfield)
      simp only [Json.array.sizeOf_spec, List.cons.sizeOf_spec]
      omega
  | _ => cases htag

set_option linter.unusedVariables false in
mutual

/-- The route that a value holds. `naming` says how its handlers may name their cases. -/
def Route.read? (naming : Naming) (json : Json) : Option Route :=
  match hrecord : Record.ofJson? .refused 5 json with
  | none => none
  | some record => do
    let id ← record.optional 0 "@id" Json.string?
    let group ← record.optional 1 "group" Json.string?
    let matchers ← record.withDefault 2 "match" [] (Json.listOf? MatcherSet.ofJson?)
    let handlers ←
      match hfield : record.field? 3 "handle" with
      | none => some []
      | some handlers => Handler.readList? naming handlers
    let errors ←
      match hfield : record.field? 4 "errors" with
      | none => some none
      | some .null => some none
      | some errors => (Route.readErrors? naming errors).map some
    some { id, group, matchers, handlers, errors }
termination_by sizeOf json
decreasing_by
  all_goals exact Json.Record.sizeOf_lt_of_field? hrecord hfield

/-- The routes of an object of error routes. -/
def Route.readErrors? (naming : Naming) (json : Json) : Option (List Route) :=
  match hrecord : Record.ofJson? .refused 1 json with
  | none => none
  | some record =>
    match hfield : record.field? 0 "routes" with
    | none => none
    | some routes => Route.readList? naming routes
termination_by sizeOf json
decreasing_by
  exact Json.Record.sizeOf_lt_of_field? hrecord hfield

/-- An array of routes. -/
def Route.readList? (naming : Naming) (json : Json) : Option (List Route) :=
  match json with
  | .array items => items.attach.mapM fun item => Route.read? naming item.1
  | _ => none
termination_by sizeOf json
decreasing_by
  have hitem := List.sizeOf_lt_of_mem item.2
  simp only [Json.array.sizeOf_spec]
  omega

/-- The handler that a value holds. -/
def Handler.read? (naming : Naming) (json : Json) : Option Handler :=
  match htag : Json.tagged? "handler" json with
  | none => none
  | some (tag, record) =>
    match Json.caseOf? naming Handler.caseNames tag with
    | some "subroute" =>
      match hfield : record.field? 0 "routes" with
      | none => none
      | some routes => do
        let _ ← record.fits? 1
        (Route.readList? .byNameOrPlace routes).map .subroute
    | some "rewrite" => do
      let record ← record.fits? 1
      (record.required 0 "uri" Json.string?).map .rewrite
    | some "headers" => do
      let record ← record.fits? 1
      (record.required 0 "response" Handler.responseOfJson?).map .headers
    | some "encode" => do
      let record ← record.fits? 1
      (record.required 0 "encodings" Handler.encodingsOfJson?).map .encode
    | some "file_server" => do
      let record ← record.fits? 1
      (record.required 0 "root" Json.string?).map .fileServer
    | some "static_response" => do
      let record ← record.fits? 3
      let status ← record.optional 0 "status_code" StatusCode.ofJson?
      let headers ← record.withDefault 1 "headers" HeaderMap.empty HeaderMap.ofJson?
      let body ← record.optional 2 "body" Json.string?
      some (.staticResponse status headers body)
    | some "authentication" => do
      let record ← record.fits? 1
      (record.required 0 "providers" Handler.providersOfJson?).map .authentication
    | _ => none
termination_by sizeOf json
decreasing_by
  exact Json.sizeOf_lt_of_tagged? htag hfield

/-- An array of handlers. -/
def Handler.readList? (naming : Naming) (json : Json) : Option (List Handler) :=
  match json with
  | .array items => items.attach.mapM fun item => Handler.read? naming item.1
  | _ => none
termination_by sizeOf json
decreasing_by
  have hitem := List.sizeOf_lt_of_mem item.2
  simp only [Json.array.sizeOf_spec]
  omega

end

/-- The route that a value holds. -/
def Route.ofJson? : Json → Option Route :=
  Route.read? .byName

/-- The handler that a value holds. -/
def Handler.ofJson? : Json → Option Handler :=
  Handler.read? .byName

/-- The text of a list of routes. -/
def Route.render (layout : Json.Layout) (routes : List Route) : String :=
  Json.render layout (.array (Route.listToJson routes))

end TenantRoutes
