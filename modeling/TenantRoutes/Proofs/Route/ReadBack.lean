import TenantRoutes.Proofs.Json.ReadBack
import TenantRoutes.Proofs.Json.Record
import TenantRoutes.Route.Json

/-!
Routes written as JSON are read back as they were.

What is left out when it is empty has to come back as empty, and nothing else may be left out: a
list of hosts that is there and empty matches no request, and no list of hosts matches all. -/
namespace TenantRoutes

open Json (Record Naming)

@[simp] theorem field?_presentField (name key : String) (value? : Option Json) :
    Json.field? name (presentField key value?) = if key = name then value? else none := by
  cases value? with
  | none => simp [presentField]
  | some value => simp [presentField]

@[simp] theorem field?_nonemptyField (name key : String) (items : List Json) :
    Json.field? name (nonemptyField key items) =
      if key = name ∧ items ≠ [] then some (.array items) else none := by
  cases items with
  | nil => simp [nonemptyField]
  | cons item rest => simp [nonemptyField]

@[simp] theorem field?_headersField (name key : String) (map : HeaderMap) :
    Json.field? name (headersField key map) =
      if key = name ∧ map.isEmpty = false then some map.toJson else none := by
  cases hMap : map.isEmpty <;> simp [headersField, hMap]

namespace HeaderMap

/-- An entry that comes after all others in the order of the names is put behind them. -/
theorem insertSorted_of_lt {name : String} {values : List String}
    {entries : List (String × List String)} (hLast : ∀ entry ∈ entries, entry.1 < name) :
    insertSorted name values entries = entries ++ [(name, values)] := by
  induction entries with
  | nil => rfl
  | cons entry rest ih =>
      obtain ⟨key, old⟩ := entry
      rw [List.forall_mem_cons] at hLast
      have hNe : name ≠ key := by
        rintro rfl
        exact String.lt_irrefl name hLast.1
      rw [insertSorted, if_neg hNe, if_neg (String.lt_asymm hLast.1), ih hLast.2, List.cons_append]

/-- Entries that are in order already stay as they are. -/
theorem foldl_insert_entries {entries : List (String × List String)} {map : HeaderMap}
    (hSorted : (map.entries ++ entries).Pairwise fun a b => a.1 < b.1) :
    (entries.foldl (fun map entry => map.insert entry.1 entry.2) map).entries =
      map.entries ++ entries := by
  induction entries generalizing map with
  | nil => simp
  | cons entry rest ih =>
      obtain ⟨name, values⟩ := entry
      have hLast : ∀ earlier ∈ map.entries, earlier.1 < name := fun earlier hEarlier =>
        (List.pairwise_append.mp hSorted).2.2 earlier hEarlier _ List.mem_cons_self
      have hInsert : (map.insert name values).entries = map.entries ++ [(name, values)] :=
        insertSorted_of_lt hLast
      rw [List.foldl_cons, ih (by simpa [hInsert] using hSorted), hInsert, List.append_assoc,
        List.singleton_append]

theorem ofList_entries (map : HeaderMap) : ofList map.entries = map := by
  have hEntries : (ofList map.entries).entries = map.entries :=
    foldl_insert_entries (by simpa [empty] using map.sorted)
  obtain ⟨entries, sorted⟩ := map
  cases hMap : ofList entries
  simp_all

/-- The entries of a map are written and read one by one. -/
theorem mapM_entries (entries : List (String × List String)) :
    (entries.map fun entry => (entry.1, Json.ofList Json.string entry.2)).mapM
      (fun entry => (Json.listOf? Json.string? entry.2).bind fun values =>
        some (entry.1, values)) = some entries := by
  induction entries with
  | nil => rfl
  | cons entry rest ih =>
      rw [List.map_cons, List.mapM_cons, ih]
      simp [(Json.readsBack_texts entry.2).read_write]

theorem ofJson?_toJson (map : HeaderMap) : ofJson? map.toJson = some map := by
  have hEntries : ofJson? map.toJson = some (ofList map.entries) :=
    congrArg (Option.bind · fun entries => some (ofList entries)) (mapM_entries map.entries)
  rw [hEntries, ofList_entries]

/-- Headers that are left out are read as none. -/
theorem withDefault_headersField {fields : List (String × Json)} {place : Nat} {name : String}
    {map : HeaderMap}
    (hField : Json.field? name fields = if map.isEmpty = false then some map.toJson else none) :
    (Record.named fields).withDefault place name empty ofJson? = some map := by
  refine Record.withDefault_named ?_ ?_
  · intro json hJson
    rw [hField, Option.ite_none_right_eq_some] at hJson
    rw [← Option.some.inj hJson.2, ofJson?_toJson]
  · intro hNone
    have hEmpty : map.entries = [] := by simpa [hField, isEmpty] using hNone
    obtain ⟨entries, sorted⟩ := map
    obtain rfl : entries = [] := hEmpty
    rfl

end HeaderMap

theorem StatusCode.readsBack (status : StatusCode) : Json.ReadsBack ofJson? toJson status := by
  cases status with
  | code value =>
      have hBound : value.toNat < 65536 := value.toNat_lt
      exact ⟨by simp [toJson, ofJson?, Json.ofNat, Json.nat?, hBound], Json.noConfusion⟩
  | placeholder text => exact ⟨rfl, Json.noConfusion⟩

theorem FileMatcher.readsBack (matcher : FileMatcher) : Json.ReadsBack ofJson? toJson matcher := by
  refine ⟨?_, Json.noConfusion⟩
  simp only [ofJson?, toJson, Option.bind_eq_bind, Option.bind_eq_some_iff]
  exact ⟨_, Record.ofJson?_object _ _ _,
    matcher.root, Record.required_named (by simp) (Json.readsBack_string _),
    matcher.tryFiles, Record.required_named (by simp) (Json.readsBack_texts _), rfl⟩

theorem MatcherSet.readsBack (matcher : MatcherSet) : Json.ReadsBack ofJson? toJson matcher := by
  refine ⟨?_, Json.noConfusion⟩
  simp only [ofJson?, toJson, Option.bind_eq_bind, Option.bind_eq_some_iff]
  exact ⟨_, Record.ofJson?_object _ _ _,
    matcher.host, Record.optional_named (by simp) fun _ _ => Json.readsBack_texts _,
    matcher.path, Record.optional_named (by simp) fun _ _ => Json.readsBack_texts _,
    matcher.file, Record.optional_named (by simp) fun _ _ => FileMatcher.readsBack _,
    matcher.expression, Record.optional_named (by simp) fun _ _ => Json.readsBack_string _, rfl⟩

theorem Account.readsBack (account : Account) : Json.ReadsBack ofJson? toJson account := by
  refine ⟨?_, Json.noConfusion⟩
  simp only [ofJson?, toJson, Option.bind_eq_bind, Option.bind_eq_some_iff]
  exact ⟨_, Record.ofJson?_object _ _ _,
    account.username, Record.required_named (by simp) (Json.readsBack_string _),
    account.password, Record.required_named (by simp) (Json.readsBack_string _), rfl⟩

namespace BasicAuth

theorem readsBack_algorithm (algorithm : String) :
    Json.ReadsBack algorithmOfJson? algorithmToJson algorithm := by
  refine ⟨?_, Json.noConfusion⟩
  simp only [algorithmOfJson?, algorithmToJson, Option.bind_eq_bind, Option.bind_eq_some_iff]
  exact ⟨_, Record.ofJson?_object _ _ _,
    Record.required_named (by simp) (Json.readsBack_string _)⟩

theorem readsBack (auth : BasicAuth) : Json.ReadsBack ofJson? toJson auth := by
  refine ⟨?_, Json.noConfusion⟩
  simp only [ofJson?, toJson, Option.bind_eq_bind, Option.bind_eq_some_iff]
  exact ⟨_, Record.ofJson?_object _ _ _,
    auth.algorithm, Record.required_named (by simp) (readsBack_algorithm _),
    auth.accounts, Record.required_named (by simp)
      (Json.readsBack_list fun account _ => account.readsBack),
    auth.realm, Record.optional_named (by simp) fun _ _ => Json.readsBack_string _, rfl⟩

end BasicAuth

namespace Handler

theorem readsBack_encodings (gzip : Bool) :
    Json.ReadsBack encodingsOfJson? encodingsToJson gzip := by
  refine ⟨?_, Json.noConfusion⟩
  cases gzip <;> rfl

theorem readsBack_providers (basic : Option BasicAuth) :
    Json.ReadsBack providersOfJson? providersToJson basic := by
  refine ⟨?_, Json.noConfusion⟩
  simp only [providersOfJson?, providersToJson, Option.bind_eq_bind, Option.bind_eq_some_iff]
  exact ⟨_, Record.ofJson?_object _ _ _,
    Record.optional_named (by simp) fun _ _ => BasicAuth.readsBack _⟩

theorem readsBack_response (set : HeaderMap) :
    Json.ReadsBack responseOfJson? responseToJson set := by
  refine ⟨?_, Json.noConfusion⟩
  simp only [responseOfJson?, responseToJson, Option.bind_eq_bind, Option.bind_eq_some_iff]
  exact ⟨_, Record.ofJson?_object _ _ _, HeaderMap.withDefault_headersField (by simp)⟩

end Handler

/-! The readers of routes carry proofs that their recursion ends. Their equations without these
have the form of the other readers. -/

theorem Route.read?_eq (naming : Naming) (json : Json) :
    Route.read? naming json = (Record.ofJson? .refused 5 json).bind fun record => (do
      let id ← record.optional 0 "@id" Json.string?
      let group ← record.optional 1 "group" Json.string?
      let matchers ← record.withDefault 2 "match" [] (Json.listOf? MatcherSet.ofJson?)
      let handlers ← record.withDefault 3 "handle" [] (Handler.readList? naming)
      let errors ← record.optional 4 "errors" (Route.readErrors? naming)
      some { id, group, matchers, handlers, errors }) := by
  rw [Route.read?]
  split
  case h_1 hRecord =>
    rw [hRecord]
    rfl
  case h_2 record hRecord =>
    rw [hRecord, Option.bind_some]
    refine Option.bind_congr fun id _ => Option.bind_congr fun group _ =>
      Option.bind_congr fun matchers _ => ?_
    rw [Record.optional, Record.withDefault, Record.withDefault]
    split
    case h_1 hErrors => split <;> simp [*]
    case h_2 hErrors => split <;> simp [*, Json.optional?]
    case h_3 errors hSome hErrors => split <;> simp [*, Json.optional?_of_ne_null hSome]

theorem Route.readErrors?_eq (naming : Naming) (json : Json) :
    Route.readErrors? naming json = (Record.ofJson? .refused 1 json).bind fun record =>
      record.required 0 "routes" (Route.readList? naming) := by
  rw [Route.readErrors?]
  split
  case h_1 hRecord =>
    rw [hRecord]
    rfl
  case h_2 record hRecord =>
    rw [hRecord, Option.bind_some, Record.required]
    split
    case h_1 hRoutes =>
      rw [hRoutes]
      rfl
    case h_2 routes hRoutes =>
      rw [hRoutes]
      rfl

theorem Route.readList?_eq (naming : Naming) :
    Route.readList? naming = Json.listOf? (Route.read? naming) := by
  funext json
  rw [Route.readList?.eq_def]
  cases json with
  | array items => simp [Json.listOf?]
  | _ => rfl

theorem Handler.readList?_eq (naming : Naming) :
    Handler.readList? naming = Json.listOf? (Handler.read? naming) := by
  funext json
  rw [Handler.readList?.eq_def]
  cases json with
  | array items => simp [Json.listOf?]
  | _ => rfl

theorem Route.listToJson_eq (routes : List Route) :
    Route.listToJson routes = routes.map Route.toJson := by
  induction routes with
  | nil => rfl
  | cons route rest ih => rw [Route.listToJson, ih, List.map_cons]

theorem Handler.listToJson_eq (handlers : List Handler) :
    Handler.listToJson handlers = handlers.map Handler.toJson := by
  induction handlers with
  | nil => rfl
  | cons handler rest ih => rw [Handler.listToJson, ih, List.map_cons]

theorem Route.readsBack_errors {naming : Naming} {routes : List Route}
    (hRoutes : ∀ route ∈ routes, Json.ReadsBack (Route.read? naming) Route.toJson route) :
    Json.ReadsBack (Route.readErrors? naming)
      (fun routes => errorsToJson (Route.listToJson routes)) routes := by
  refine ⟨?_, Json.noConfusion⟩
  rw [Route.readErrors?_eq, Option.bind_eq_some_iff, Route.readList?_eq, Route.listToJson_eq]
  exact ⟨_, Record.ofJson?_object _ _ _,
    Record.required_named (by simp; rfl) (Json.readsBack_list hRoutes)⟩

/-- The handler of a case with the fields of a record. -/
def Handler.ofCase? (record : Record) : String → Option Handler
  | "subroute" => do
    let routes ← record.field? 0 "routes"
    let _ ← record.fits? 1
    (Route.readList? .byNameOrPlace routes).map .subroute
  | "rewrite" => do
    let record ← record.fits? 1
    (record.required 0 "uri" Json.string?).map .rewrite
  | "headers" => do
    let record ← record.fits? 1
    (record.required 0 "response" responseOfJson?).map .headers
  | "encode" => do
    let record ← record.fits? 1
    (record.required 0 "encodings" encodingsOfJson?).map .encode
  | "file_server" => do
    let record ← record.fits? 1
    (record.required 0 "root" Json.string?).map .fileServer
  | "static_response" => do
    let record ← record.fits? 3
    let status ← record.optional 0 "status_code" StatusCode.ofJson?
    let headers ← record.withDefault 1 "headers" HeaderMap.empty HeaderMap.ofJson?
    let body ← record.optional 2 "body" Json.string?
    some (.staticResponse status headers body)
  | "authentication" => do
    let record ← record.fits? 1
    (record.required 0 "providers" providersOfJson?).map .authentication
  | _ => none

theorem Handler.read?_eq (naming : Naming) (json : Json) :
    Handler.read? naming json = (Json.tagged? "handler" json).bind fun (tag, record) =>
      (Json.caseOf? naming caseNames tag).bind (ofCase? record) := by
  rw [Handler.read?]
  split
  case h_1 hTag =>
    rw [hTag]
    rfl
  case h_2 tag record hTag =>
    rw [hTag, Option.bind_some]
    change _ = (Json.caseOf? naming caseNames tag).bind (ofCase? record)
    cases Json.caseOf? naming caseNames tag with
    | none => rfl
    | some name =>
        rw [Option.bind_some]
        unfold ofCase?
        split
        case h_1 hCase =>
          cases hCase
          split <;> simp [*]
        all_goals simp_all

/-- A handler names its case once, in front of the fields of the case. -/
theorem Handler.readsBack_of_case {naming : Naming} {handler : Handler}
    {fields : List (String × Json)}
    (hFields : handler.toJson = .object (("handler", .string handler.name) :: fields))
    (hTag : Json.field? "handler" fields = none)
    (hCase : Handler.ofCase? (.named (("handler", .string handler.name) :: fields)) handler.name =
      some handler) :
    Json.ReadsBack (Handler.read? naming) Handler.toJson handler := by
  refine ⟨?_, hFields ▸ Json.noConfusion⟩
  have hName : Json.caseOf? naming caseNames (.string handler.name) = some handler.name := by
    cases handler <;> rfl
  rw [Handler.read?_eq, hFields, Json.tagged?, Json.field?_cons, hTag]
  simp [hName, hCase]

mutual

/-- A written route is read back, whichever way its handlers may be named. -/
theorem Route.readsBack (naming : Naming) (route : Route) :
    Json.ReadsBack (Route.read? naming) Route.toJson route := by
  match route with
  | ⟨id, group, matchers, handlers, errors⟩ =>
    have hHandlers : ∀ handler ∈ handlers,
        Json.ReadsBack (Handler.read? naming) Handler.toJson handler :=
      fun handler hHandler => Handler.readsBack naming handler
    have hErrors : ∀ routes ∈ errors, ∀ route ∈ routes,
        Json.ReadsBack (Route.read? naming) Route.toJson route :=
      fun routes hRoutes route hRoute => Route.readsBack naming route
    refine ⟨?_, Json.noConfusion⟩
    rw [Route.read?_eq, Route.toJson.eq_def, Option.bind_eq_some_iff]
    simp only [Option.bind_eq_bind, Option.bind_eq_some_iff, Handler.readList?_eq,
      Handler.listToJson_eq]
    refine ⟨_, Record.ofJson?_object _ _ _,
      id, Record.optional_named (by simp) fun _ _ => Json.readsBack_string _,
      group, Record.optional_named (by simp) fun _ _ => Json.readsBack_string _,
      matchers, Record.withDefault_list_named (by simp) fun _ _ => MatcherSet.readsBack _,
      handlers, Record.withDefault_list_named (by simp) hHandlers,
      errors, Record.optional_named ?_ fun routes hRoutes =>
        Route.readsBack_errors (hErrors routes hRoutes), rfl⟩
    cases errors <;> simp
termination_by sizeOf route
decreasing_by
  · have hSize := List.sizeOf_lt_of_mem hHandler
    simp only [Route.mk.sizeOf_spec]
    omega
  · have hSize := List.sizeOf_lt_of_mem hRoute
    rw [Option.mem_def] at hRoutes
    subst hRoutes
    simp only [Route.mk.sizeOf_spec, Option.some.sizeOf_spec]
    omega

theorem Handler.readsBack (naming : Naming) (handler : Handler) :
    Json.ReadsBack (Handler.read? naming) Handler.toJson handler := by
  match handler with
  | .subroute routes =>
    have hRoutes : ∀ route ∈ routes,
        Json.ReadsBack (Route.read? .byNameOrPlace) Route.toJson route :=
      fun route hRoute => Route.readsBack .byNameOrPlace route
    refine Handler.readsBack_of_case rfl (by simp) ?_
    simp only [Handler.ofCase?, Handler.name, Record.fits?_named, Option.bind_eq_bind,
      Option.bind_some, Route.readList?_eq, Route.listToJson_eq]
    exact Option.bind_eq_some_iff.mpr ⟨_, rfl, Option.map_eq_some_iff.mpr
      ⟨routes, (Json.readsBack_list hRoutes).read_write, rfl⟩⟩
  | .rewrite uri =>
    refine Handler.readsBack_of_case rfl (by simp) ?_
    simp only [Handler.ofCase?, Handler.name, Record.fits?_named, Option.bind_eq_bind,
      Option.bind_some, Option.map_eq_some_iff]
    exact ⟨uri, Record.required_named (by simp) (Json.readsBack_string uri), rfl⟩
  | .headers set =>
    refine Handler.readsBack_of_case rfl (by simp) ?_
    simp only [Handler.ofCase?, Handler.name, Record.fits?_named, Option.bind_eq_bind,
      Option.bind_some, Option.map_eq_some_iff]
    exact ⟨set, Record.required_named (by simp) (Handler.readsBack_response set), rfl⟩
  | .encode gzip =>
    refine Handler.readsBack_of_case rfl (by simp) ?_
    simp only [Handler.ofCase?, Handler.name, Record.fits?_named, Option.bind_eq_bind,
      Option.bind_some, Option.map_eq_some_iff]
    exact ⟨gzip, Record.required_named (by simp) (Handler.readsBack_encodings gzip), rfl⟩
  | .fileServer root =>
    refine Handler.readsBack_of_case rfl (by simp) ?_
    simp only [Handler.ofCase?, Handler.name, Record.fits?_named, Option.bind_eq_bind,
      Option.bind_some, Option.map_eq_some_iff]
    exact ⟨root, Record.required_named (by simp) (Json.readsBack_string root), rfl⟩
  | .staticResponse status headers body =>
    refine Handler.readsBack_of_case rfl (by simp) ?_
    simp only [Handler.ofCase?, Handler.name, Record.fits?_named, Option.bind_eq_bind,
      Option.bind_some, Option.bind_eq_some_iff]
    exact ⟨status, Record.optional_named (by simp) fun _ _ => StatusCode.readsBack _,
      headers, HeaderMap.withDefault_headersField (by simp),
      body, Record.optional_named (by simp) fun _ _ => Json.readsBack_string _, rfl⟩
  | .authentication basic =>
    refine Handler.readsBack_of_case rfl (by simp) ?_
    simp only [Handler.ofCase?, Handler.name, Record.fits?_named, Option.bind_eq_bind,
      Option.bind_some, Option.map_eq_some_iff]
    exact ⟨basic, Record.required_named (by simp) (Handler.readsBack_providers basic), rfl⟩
termination_by sizeOf handler
decreasing_by
  have hSize := List.sizeOf_lt_of_mem hRoute
  simp only [Handler.subroute.sizeOf_spec]
  omega

end

namespace Route

theorem parse?_render (layout : Json.Layout) (routes : List Route) :
    Json.parse? (render layout routes) = some (Json.ofList toJson routes) := by
  rw [render, listToJson_eq]
  exact Json.parse?_render layout _

theorem listOf?_ofList (routes : List Route) :
    Json.listOf? ofJson? (Json.ofList toJson routes) = some routes :=
  (Json.readsBack_list fun route _ => readsBack .byName route).read_write

end Route

/-- The text of routes holds all of them: compact and indented text have one value, and the routes
that are read from it are those that were written. -/
theorem Route.render_readsBack (routes : List Route) :
    ∃ json, (∀ layout, Json.parse? (Route.render layout routes) = some json) ∧
      Json.listOf? Route.ofJson? json = some routes :=
  ⟨_, fun layout => parse?_render layout routes, listOf?_ofList routes⟩

end TenantRoutes
