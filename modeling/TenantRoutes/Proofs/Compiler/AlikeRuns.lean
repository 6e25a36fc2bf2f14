import TenantRoutes.Proofs.Compiler.Outcome

/-! Runs that look alike. Of a run only the events and the end are looked at, and of a result only
a part. Plans that look alike may ask different questions, as long as the answers lead to parts of
results that agree. -/
namespace TenantRoutes.Plan

variable {α β γ δ : Type} {lookups : Lookups}

/-- Two plans report the same events and end with the same failure, or with results that agree as
far as they are looked at. -/
structure LooksAlike (lookups : Lookups) (view : α → γ) (first second : Plan α) : Prop where
  events_eq : (first.run lookups).events = (second.run lookups).events
  result_eq : (first.resultWith lookups).map view = (second.resultWith lookups).map view

theorem run_query (question : Query) :
    (query question).run lookups = ⟨[question], [], lookups.answer question⟩ := by
  rw [query, run]
  cases lookups.answer question <;> rfl

namespace LooksAlike

variable {view : α → γ} {first second : Plan α}

theorem refl (plan : Plan α) : LooksAlike lookups view plan plan := ⟨rfl, rfl⟩

theorem done {x y : α} (hView : view x = view y) : LooksAlike lookups view (done x) (done y) :=
  ⟨rfl, congrArg Except.ok hView⟩

theorem report {event : Log.Event} (hNext : LooksAlike lookups view first second) :
    LooksAlike lookups view (report event first) (report event second) :=
  ⟨congrArg (event :: ·) hNext.events_eq, hNext.result_eq⟩

/-- Plans that report nothing are compared by their ends. -/
theorem of_silent {firstQueries secondQueries : List Query}
    {firstEnd secondEnd : Except CompileError α}
    (hFirst : first.run lookups = ⟨firstQueries, [], firstEnd⟩)
    (hSecond : second.run lookups = ⟨secondQueries, [], secondEnd⟩)
    (hView : firstEnd.map view = secondEnd.map view) : LooksAlike lookups view first second := by
  constructor
  · rw [hFirst, hSecond]
  · rw [resultWith, resultWith, hFirst, hSecond]
    exact hView

/-- Ends that look alike are one failure or results that look alike. -/
theorem result_cases (hAlike : LooksAlike lookups view first second) :
    (∃ failure, first.resultWith lookups = .error failure ∧
        second.resultWith lookups = .error failure) ∨
      ∃ x y, first.resultWith lookups = .ok x ∧ second.resultWith lookups = .ok y ∧
        view x = view y := by
  have hResult := hAlike.result_eq
  cases hFirst : first.resultWith lookups <;> cases hSecond : second.resultWith lookups <;>
    simp_all [Except.map]

/-- What follows results that look alike has to look alike too, and then the whole does. -/
theorem bind {nextView : β → δ} {firstNext secondNext : α → Plan β}
    (hAlike : LooksAlike lookups view first second)
    (hNext : ∀ x y, view x = view y →
      LooksAlike lookups nextView (firstNext x) (secondNext y)) :
    LooksAlike lookups nextView (first.bind firstNext) (second.bind secondNext) := by
  have hEvents := hAlike.events_eq
  rcases hAlike.result_cases with ⟨failure, hFirst, hSecond⟩ | ⟨x, y, hFirst, hSecond, hView⟩
  · unfold resultWith at hFirst hSecond
    constructor
    · rw [run_bind, run_bind, hFirst, hSecond]
      exact hEvents
    · rw [resultWith, resultWith, run_bind, run_bind, hFirst, hSecond]
  · unfold resultWith at hFirst hSecond
    have hRest := hNext x y hView
    constructor
    · rw [run_bind, run_bind, hFirst, hSecond]
      exact congrArg₂ _ hEvents hRest.events_eq
    · rw [resultWith, resultWith, run_bind, run_bind, hFirst, hSecond]
      exact hRest.result_eq

theorem mapM {ι : Type} {items : List ι} {first second : ι → Plan α}
    (hItems : ∀ item ∈ items, LooksAlike lookups view (first item) (second item)) :
    LooksAlike lookups (List.map view) (items.mapM first) (items.mapM second) := by
  induction items with
  | nil => exact refl _
  | cons item rest ih =>
      rw [List.forall_mem_cons] at hItems
      rw [List.mapM_cons, List.mapM_cons]
      refine hItems.1.bind fun x y hView => (ih hItems.2).bind fun xs ys hViews => done ?_
      rw [List.map_cons, List.map_cons, hView, hViews]

end LooksAlike

end TenantRoutes.Plan
