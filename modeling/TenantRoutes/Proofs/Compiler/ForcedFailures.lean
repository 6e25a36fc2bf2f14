import TenantRoutes.Proofs.Compiler.PlatformRoutes

/-! Compilation against answers that fail on purpose. Of two runs, one with failures forced on some
questions and one without, the first is the second up to the first forced failure, whatever the
answers are. Which questions a run asks may depend on the answers before, so the two runs are
compared question by question. -/
namespace TenantRoutes

namespace Query

/-- Whether the answer to a question may be a failure. -/
def isFallible : Query → Bool
  | sameDomain _ _ => false
  | _ => true

/-- The failure forced on a question. -/
def forced? (failure? : Query → Option CompileError) (query : Query) : Option CompileError :=
  if query.isFallible then failure? query else none

end Query

namespace Lookups

variable {lookups : Lookups} {failure? : Query → Option CompileError} {query : Query}

theorem answer_failingOn_of_forced {error : CompileError}
    (hForced : query.forced? failure? = some error) :
    (lookups.failingOn failure?).answer query = .error error := by
  cases query with
  | sameDomain seen domain => simp [Query.forced?, Query.isFallible] at hForced
  | _ =>
      change failure? _ = some error at hForced
      simp [answer, failingOn, failingOn.fail, hForced]

theorem answer_failingOn_of_unforced (hUnforced : query.forced? failure? = none) :
    (lookups.failingOn failure?).answer query = lookups.answer query := by
  cases query with
  | sameDomain seen domain => rfl
  | _ =>
      change failure? _ = none at hUnforced
      simp [answer, failingOn, failingOn.fail, hUnforced]

end Lookups

namespace Plan

variable {α β : Type} {lookups : Lookups} {failure? : Query → Option CompileError}

theorem run_ask_of_error {query : Query} {next : query.Answer → Plan α} {error : CompileError}
    (hAnswer : lookups.answer query = .error error) :
    (ask query next).run lookups = ⟨[query], [], .error error⟩ := by
  rw [run, hAnswer]

theorem run_ask_of_ok {query : Query} {next : query.Answer → Plan α} {answer : query.Answer}
    (hAnswer : lookups.answer query = .ok answer) :
    (ask query next).run lookups =
      ⟨query :: ((next answer).run lookups).queries, ((next answer).run lookups).events,
        ((next answer).run lookups).result⟩ := by
  rw [run, hAnswer]

variable (lookups) in
/-- The question at the front of a plan comes first, whatever its answer is. -/
theorem queries_ask (query : Query) (next : query.Answer → Plan α) :
    ∃ rest, ((ask query next).run lookups).queries = query :: rest := by
  cases hAnswer : lookups.answer query with
  | error error => exact ⟨[], by rw [run_ask_of_error hAnswer]⟩
  | ok answer => exact ⟨_, by rw [run_ask_of_ok hAnswer]⟩

/-- Forced failures that no question meets change nothing. -/
theorem run_failingOn_of_unforced (plan : Plan α)
    (hUnforced : ∀ query ∈ (plan.run lookups).queries, query.forced? failure? = none) :
    plan.run (lookups.failingOn failure?) = plan.run lookups := by
  induction plan with
  | done result => rfl
  | report event rest ih => rw [run, run, ih hUnforced]
  | ask query next ih =>
      obtain ⟨rest, hQueries⟩ := queries_ask lookups query next
      have hSame : (lookups.failingOn failure?).answer query = lookups.answer query :=
        Lookups.answer_failingOn_of_unforced (hUnforced query (by simp [hQueries]))
      cases hAnswer : lookups.answer query with
      | error error =>
          rw [run_ask_of_error hAnswer, run_ask_of_error (hSame.trans hAnswer)]
      | ok answer =>
          rw [run_ask_of_ok hAnswer] at hUnforced
          rw [run_ask_of_ok hAnswer, run_ask_of_ok (hSame.trans hAnswer),
            ih answer fun later hLater => hUnforced later (List.mem_cons_of_mem _ hLater)]

/-- A run ends with the first question that a failure is forced on. -/
theorem run_failingOn_of_forced (plan : Plan α) {before after : List Query} {query : Query}
    {error : CompileError} (hQueries : (plan.run lookups).queries = before ++ query :: after)
    (hBefore : ∀ earlier ∈ before, earlier.forced? failure? = none)
    (hForced : query.forced? failure? = some error) :
    (plan.run (lookups.failingOn failure?)).queries = before ++ [query] ∧
      (plan.run (lookups.failingOn failure?)).result = .error error := by
  induction plan generalizing before with
  | done result => simp [run] at hQueries
  | report event rest ih => exact ih hQueries hBefore
  | ask first next ih =>
      cases before with
      | nil =>
          obtain ⟨rest, hFirst⟩ := queries_ask lookups first next
          obtain ⟨rfl, _⟩ := List.cons.inj (hFirst.symm.trans hQueries)
          rw [run_ask_of_error (Lookups.answer_failingOn_of_forced hForced)]
          exact ⟨rfl, rfl⟩
      | cons earlier before =>
          rw [List.forall_mem_cons] at hBefore
          cases hAnswer : lookups.answer first with
          | error failure => simp [run_ask_of_error hAnswer] at hQueries
          | ok answer =>
              rw [run_ask_of_ok hAnswer] at hQueries
              obtain ⟨rfl, hLater⟩ := List.cons.inj hQueries
              have hSame : (lookups.failingOn failure?).answer first = .ok answer :=
                (Lookups.answer_failingOn_of_unforced hBefore.1).trans hAnswer
              obtain ⟨hPrefix, hResult⟩ := ih answer hLater hBefore.2
              rw [run_ask_of_ok hSame]
              exact ⟨congrArg (first :: ·) hPrefix, hResult⟩

/-- A failing answer is the last of a run, and its failure is the result. -/
theorem run_ends_at_failure (plan : Plan α) {before after : List Query} {query : Query}
    {error : CompileError} (hQueries : (plan.run lookups).queries = before ++ query :: after)
    (hFails : lookups.answer query = .error error) :
    after = [] ∧ (plan.run lookups).result = .error error := by
  induction plan generalizing before with
  | done result => simp [run] at hQueries
  | report event rest ih => exact ih hQueries
  | ask first next ih =>
      cases hAnswer : lookups.answer first with
      | error failure =>
          rw [run_ask_of_error hAnswer] at hQueries ⊢
          obtain ⟨rfl, rfl, rfl⟩ : before = [] ∧ first = query ∧ after = [] := by
            cases before with
            | nil => simpa [eq_comm] using hQueries
            | cons earlier before => simp at hQueries
          have hSame : failure = error := Except.error.inj (hAnswer.symm.trans hFails)
          exact ⟨rfl, congrArg Except.error hSame⟩
      | ok answer =>
          rw [run_ask_of_ok hAnswer] at hQueries ⊢
          cases before with
          | nil =>
              obtain ⟨rfl, _⟩ := List.cons.inj hQueries
              simp [hFails] at hAnswer
          | cons earlier before => exact ih answer (List.cons.inj hQueries).2

/-- A run fails only with the failure of its last answer. -/
theorem exists_failure_of_run (plan : Plan α) {error : CompileError}
    (hFailed : (plan.run lookups).result = .error error) :
    ∃ before query, (plan.run lookups).queries = before ++ [query] ∧
      lookups.answer query = .error error := by
  induction plan with
  | done result => simp [run] at hFailed
  | report event rest ih => exact ih hFailed
  | ask query next ih =>
      cases hAnswer : lookups.answer query with
      | error failure =>
          rw [run_ask_of_error hAnswer] at hFailed ⊢
          have hSame : failure = error := Except.error.inj hFailed
          exact ⟨[], query, rfl, hSame ▸ hAnswer⟩
      | ok answer =>
          rw [run_ask_of_ok hAnswer] at hFailed ⊢
          obtain ⟨before, last, hQueries, hFails⟩ := ih answer hFailed
          exact ⟨query :: before, last, by rw [hQueries, List.cons_append], hFails⟩

/-- Besides comparisons of domains, a run of the plan that succeeds asks these questions. -/
def Asks (lookups : Lookups) (plan : Plan α) (questions : List Query) : Prop :=
  ∀ value, (plan.run lookups).result = .ok value →
    (plan.run lookups).queries.filter Query.isFallible = questions

theorem asks_done (result : α) : (done result).Asks lookups [] := by
  intro value _
  rfl

theorem Asks.report {plan : Plan α} {questions : List Query} (event : Log.Event)
    (hAsks : plan.Asks lookups questions) : (report event plan).Asks lookups questions :=
  hAsks

theorem Asks.bind {plan : Plan α} {next : α → Plan β} {questions later : List Query}
    (hAsks : plan.Asks lookups questions) (hNext : ∀ value, (next value).Asks lookups later) :
    (plan.bind next).Asks lookups (questions ++ later) := by
  intro value hValue
  rw [run_bind] at hValue ⊢
  cases hPlan : (plan.run lookups).result with
  | error error => simp [hPlan] at hValue
  | ok middle =>
      simp only [hPlan] at hValue ⊢
      rw [List.filter_append, hAsks middle hPlan, hNext middle value hValue]

theorem asks_query {question : Query} (hFallible : question.isFallible = true) :
    (query question).Asks lookups [question] := by
  intro value hValue
  cases hAnswer : lookups.answer question with
  | error error => simp [query, run_ask_of_error hAnswer] at hValue
  | ok answer => simp [query, run_ask_of_ok hAnswer, run, hFallible]

theorem asks_comparison (seen domain : Domain) :
    (query (.sameDomain seen domain)).Asks lookups [] := by
  intro value _
  rfl

theorem Asks.mapM {f : α → Plan β} {questions : α → List Query}
    (hAsks : ∀ x, (f x).Asks lookups (questions x)) (xs : List α) :
    (xs.mapM f).Asks lookups (xs.flatMap questions) := by
  induction xs with
  | nil => exact asks_done []
  | cons x xs ih =>
      rw [List.mapM_cons, List.flatMap_cons]
      refine (hAsks x).bind fun y => ?_
      rw [← List.append_nil (xs.flatMap questions)]
      exact ih.bind fun ys => asks_done (y :: ys)

end Plan

variable {lookups : Lookups}

theorem isRepeated_asks (domain : Domain) (kept : List Domain) :
    (isRepeated domain kept).Asks lookups [] := by
  induction kept with
  | nil => exact Plan.asks_done false
  | cons seen rest ih =>
      refine (Plan.asks_comparison seen domain).bind fun repeated => ?_
      cases repeated with
      | true => exact Plan.asks_done true
      | false => exact ih

theorem keepFirst_asks (kept domains : List Domain) :
    (keepFirst kept domains).Asks lookups [] := by
  induction domains generalizing kept with
  | nil => exact Plan.asks_done kept
  | cons domain rest ih =>
      refine (isRepeated_asks domain kept).bind fun repeated => ?_
      cases repeated with
      | true => exact ih kept
      | false => exact ih (kept ++ [domain])

namespace Site

variable (site : Site) (branch : Branch)

theorem resolveDomains_asks : site.resolveDomains.Asks lookups [.mainDomain site] := by
  refine (Plan.asks_query rfl).bind fun name => ?_
  exact (keepFirst_asks [] _).bind fun domains => (Plan.asks_done domains).report _

/-- What is asked for the route of a branch, in order, apart from comparisons of domains. -/
def questions : List Query :=
  .mainDomain site ::
    ((site.effectivePassword branch).toList.map .authHandler
      ++ branch.redirects.map (.redirectRoute site branch)
      ++ [.contentRoot site.id branch.id, .notFoundRoute site branch, .routeId site branch])

end Site

theorem authRoutes_asks (password? : Option Password) :
    (authRoutes password?).Asks lookups (password?.toList.map .authHandler) := by
  cases password? with
  | none => exact Plan.asks_done []
  | some password => exact (Plan.asks_query rfl).bind fun handler => Plan.asks_done _

theorem contentRoute_asks (site : Site) (branch : Branch) :
    (contentRoute site branch).Asks lookups [.contentRoot site.id branch.id] :=
  (Plan.asks_query rfl).bind fun _ => (Plan.asks_done _).report _

theorem warnUnreachable_asks (site : Site) (branch : Branch) (hosts : List String) :
    (warnUnreachable site branch hosts).Asks lookups [] := by
  unfold warnUnreachable
  cases hosts.isEmpty with
  | true => exact (Plan.asks_done ()).report _
  | false => exact Plan.asks_done ()

theorem redirectRoutes_asks (site : Site) (branch : Branch) :
    (branch.redirects.mapM fun redirect =>
      Plan.query (.redirectRoute site branch redirect)).Asks lookups
      (branch.redirects.map (.redirectRoute site branch)) := by
  rw [List.map_eq_flatMap]
  refine Plan.Asks.mapM (fun redirect => ?_) branch.redirects
  exact Plan.asks_query rfl

theorem branchRoute_asks (site : Site) (branch : Branch) :
    (branchRoute site branch).Asks lookups (site.questions branch) := by
  rw [Site.questions, List.append_assoc]
  refine (site.resolveDomains_asks).bind fun domains => ?_
  refine (authRoutes_asks _).bind fun auth => (redirectRoutes_asks site branch).bind
    fun redirects => ?_
  refine (contentRoute_asks site branch).bind fun content => ?_
  refine (Plan.asks_query rfl).bind fun notFound => Plan.Asks.report _ ?_
  refine (warnUnreachable_asks site branch _).bind fun _ => ?_
  exact (Plan.asks_query rfl).bind fun id => Plan.asks_done _

theorem siteRoutes_asks (site : Site) :
    (siteRoutes site).Asks lookups (site.branches.flatMap site.questions) := by
  rw [← List.append_nil (site.branches.flatMap site.questions)]
  refine (Plan.Asks.mapM (branchRoute_asks site) site.branches).bind fun routes => ?_
  exact (Plan.asks_done routes).report _

/-- Compilation asks for the branches one after the other, each time the same questions. -/
theorem compileSites_asks (sites : List Site) :
    (compileSites sites).Asks lookups
      ((ownedBranches sites).flatMap fun owned => owned.1.questions owned.2) := by
  have hOwned : ((ownedBranches sites).flatMap fun owned => owned.1.questions owned.2) =
      sites.flatMap fun site => site.branches.flatMap site.questions := by
    simp only [ownedBranches, List.flatMap_assoc, List.flatMap_map]
  rw [hOwned, ← List.append_nil (sites.flatMap _)]
  refine (Plan.Asks.mapM siteRoutes_asks sites).bind fun routes => ?_
  exact (Plan.asks_done routes.flatten).report _

/-- Whatever the answers are, forcing failures on some questions cuts the compilation off at the
first of these questions that it would ask, with the failure forced there, and changes nothing if
it would ask none of them. No question follows a failing one, and all failures come from questions:
those of a branch are asked in a fixed order, and the comparisons of domains between them cannot
fail. -/
theorem compileSites_ends_at_forced_failure (lookups : Lookups)
    (failure? : Query → Option CompileError) (sites : List Site) :
    (∀ before query after error,
      ((compileSites sites).run lookups).queries = before ++ query :: after →
      (∀ earlier ∈ before, earlier.forced? failure? = none) →
      query.forced? failure? = some error →
      ((compileSites sites).run (lookups.failingOn failure?)).queries = before ++ [query] ∧
        ((compileSites sites).run (lookups.failingOn failure?)).result = .error error) ∧
    ((∀ query ∈ ((compileSites sites).run lookups).queries, query.forced? failure? = none) →
      (compileSites sites).run (lookups.failingOn failure?) = (compileSites sites).run lookups) ∧
    (∀ before query after error,
      ((compileSites sites).run lookups).queries = before ++ query :: after →
      lookups.answer query = .error error →
      after = [] ∧ ((compileSites sites).run lookups).result = .error error) ∧
    (∀ error, ((compileSites sites).run lookups).result = .error error →
      ∃ before query, ((compileSites sites).run lookups).queries = before ++ [query] ∧
        lookups.answer query = .error error) ∧
    (∀ routes, ((compileSites sites).run lookups).result = .ok routes →
      ((compileSites sites).run lookups).queries.filter Query.isFallible =
        (ownedBranches sites).flatMap fun owned => owned.1.questions owned.2) := by
  refine ⟨?_, ?_, ?_, ?_, ?_⟩
  · intro before query after error hQueries hBefore hForced
    exact (compileSites sites).run_failingOn_of_forced hQueries hBefore hForced
  · intro hUnforced
    exact (compileSites sites).run_failingOn_of_unforced hUnforced
  · intro before query after error hQueries hFails
    exact (compileSites sites).run_ends_at_failure hQueries hFails
  · intro error hFailed
    exact (compileSites sites).exists_failure_of_run hFailed
  · intro routes hRoutes
    exact compileSites_asks sites routes hRoutes

end TenantRoutes
