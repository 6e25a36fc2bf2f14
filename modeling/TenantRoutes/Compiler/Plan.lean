import TenantRoutes.Compiler.Error
import TenantRoutes.Log.Event
import TenantRoutes.Route.Basic
import TenantRoutes.Site.Basic
/-! Plans of a compilation. The compiler decides by itself only how answers are put together: names
on the platform, directories, handlers and identifiers come from questions that it asks. A plan is
such a computation with its questions left open, so that it can be run against any answers. A plan
never fails by itself. Run against answers, it ends with its result or with the first failure
among them, and no question follows a failure. -/
namespace TenantRoutes

/-- A question of the compiler. -/
inductive Query where
  /-- The name of a site on the platform. -/
  | mainDomain (site : Site)
  /-- The directory of a branch's content. -/
  | contentRoot (site branch : String)
  /-- The identifier of the route of a branch. -/
  | routeId (site : Site) (branch : Branch)
  /-- The handler that asks for a password. -/
  | authHandler (password : Password)
  /-- The route of one redirect rule. -/
  | redirectRoute (site : Site) (branch : Branch) (redirect : Redirect)
  /-- The error route for paths without a file. -/
  | notFoundRoute (site : Site) (branch : Branch)
  /-- Whether a domain repeats one seen before. -/
  | sameDomain (seen domain : Domain)

/-- What a question is answered with. -/
@[reducible] def Query.Answer : Query → Type
  | mainDomain _ | contentRoot _ _ | routeId _ _ => String
  | authHandler _ => Handler
  | redirectRoute _ _ _ | notFoundRoute _ _ => Route
  | sameDomain _ _ => Bool

/-- Answers to every question. Only the comparison of domains cannot fail. -/
structure Lookups where
  mainDomain : Site → Except CompileError String
  contentRoot : String → String → Except CompileError String
  routeId : Site → Branch → Except CompileError String
  authHandler : Password → Except CompileError Handler
  redirectRoute : Site → Branch → Redirect → Except CompileError Route
  notFoundRoute : Site → Branch → Except CompileError Route
  sameDomain : Domain → Domain → Bool

namespace Lookups

/-- The answer to a question. -/
def answer (lookups : Lookups) : (query : Query) → Except CompileError query.Answer
  | .mainDomain site => lookups.mainDomain site
  | .contentRoot site branch => lookups.contentRoot site branch
  | .routeId site branch => lookups.routeId site branch
  | .authHandler password => lookups.authHandler password
  | .redirectRoute site branch redirect => lookups.redirectRoute site branch redirect
  | .notFoundRoute site branch => lookups.notFoundRoute site branch
  | .sameDomain seen domain => .ok (lookups.sameDomain seen domain)

/-- The same answers, except that chosen questions fail. -/
def failingOn (lookups : Lookups) (failure? : Query → Option CompileError) : Lookups where
  mainDomain site := fail (.mainDomain site) (lookups.mainDomain site)
  contentRoot site branch := fail (.contentRoot site branch) (lookups.contentRoot site branch)
  routeId site branch := fail (.routeId site branch) (lookups.routeId site branch)
  authHandler password := fail (.authHandler password) (lookups.authHandler password)
  redirectRoute site branch redirect :=
    fail (.redirectRoute site branch redirect) (lookups.redirectRoute site branch redirect)
  notFoundRoute site branch :=
    fail (.notFoundRoute site branch) (lookups.notFoundRoute site branch)
  sameDomain := lookups.sameDomain
where
  fail {α : Type} (query : Query) (otherwise : Except CompileError α) : Except CompileError α :=
    match failure? query with
    | some error => .error error
    | none => otherwise

end Lookups

/-- A computation that may ask questions and report events. -/
inductive Plan (α : Type) where
  | done (result : α)
  | report (event : Log.Event) (next : Plan α)
  | ask (query : Query) (next : query.Answer → Plan α)

/-- What running a plan shows: the questions and the events in order, and the end. -/
structure Run (α : Type) where
  queries : List Query
  events : List Log.Event
  result : Except CompileError α

namespace Plan

variable {α β : Type}

/-- Continue a plan with what follows from its result. -/
def bind (plan : Plan α) (next : α → Plan β) : Plan β :=
  match plan with
  | done result => next result
  | report event rest => report event (rest.bind next)
  | ask query rest => ask query fun answer => (rest answer).bind next

instance : Monad Plan where
  pure := done
  bind := bind

@[simp] theorem pure_eq_done (result : α) : (pure result : Plan α) = done result := rfl

@[simp] theorem bind_eq (plan : Plan α) (next : α → Plan β) : plan >>= next = plan.bind next := rfl

@[simp] theorem done_bind (result : α) (next : α → Plan β) :
    (done result).bind next = next result := rfl

@[simp] theorem report_bind (event : Log.Event) (rest : Plan α) (next : α → Plan β) :
    (report event rest).bind next = report event (rest.bind next) := rfl

@[simp] theorem ask_bind (query : Query) (rest : query.Answer → Plan α) (next : α → Plan β) :
    (ask query rest).bind next = ask query fun answer => (rest answer).bind next := rfl

theorem bind_done (plan : Plan α) : plan.bind done = plan := by
  induction plan with
  | done result => rfl
  | report event rest ih => simp [ih]
  | ask query rest ih => simp [ih]

theorem bind_assoc {γ : Type} (plan : Plan α) (first : α → Plan β) (second : β → Plan γ) :
    (plan.bind first).bind second = plan.bind fun result => (first result).bind second := by
  induction plan with
  | done result => rfl
  | report event rest ih => simp [ih]
  | ask query rest ih => simp [ih]

instance : LawfulMonad Plan :=
  LawfulMonad.mk' Plan bind_done (fun _ _ => rfl) bind_assoc

/-- Ask one question. -/
def query (question : Query) : Plan question.Answer :=
  ask question done

/-- Report one event. -/
def emit (event : Log.Event) : Plan Unit :=
  report event (done ())

/-- Run a plan against answers. The first failure among the answers ends the run. -/
def run (lookups : Lookups) : Plan α → Run α
  | done result => ⟨[], [], .ok result⟩
  | report event next =>
    let rest := next.run lookups
    ⟨rest.queries, event :: rest.events, rest.result⟩
  | ask query next =>
    match lookups.answer query with
    | .error error => ⟨[query], [], .error error⟩
    | .ok answer =>
      let rest := (next answer).run lookups
      ⟨query :: rest.queries, rest.events, rest.result⟩

/-- Running a plan and then, if it succeeds, what follows it. -/
theorem run_bind (lookups : Lookups) (plan : Plan α) (next : α → Plan β) :
    (plan.bind next).run lookups =
      match (plan.run lookups).result with
      | .error error => ⟨(plan.run lookups).queries, (plan.run lookups).events, .error error⟩
      | .ok result =>
        ⟨(plan.run lookups).queries ++ ((next result).run lookups).queries,
          (plan.run lookups).events ++ ((next result).run lookups).events,
          ((next result).run lookups).result⟩ := by
  induction plan with
  | done result => simp [run]
  | report event rest ih =>
    simp only [report_bind, run, ih]
    split <;> simp
  | ask query rest ih =>
    simp only [ask_bind, run]
    cases lookups.answer query with
    | error error => rfl
    | ok answer =>
      simp only [ih]
      split <;> simp

/-- The result of a plan against answers. -/
def resultWith (plan : Plan α) (lookups : Lookups) : Except CompileError α :=
  (plan.run lookups).result

end Plan

end TenantRoutes
