import Mathlib.Data.List.Basic
import Mathlib.Data.List.Forall2
import TenantRoutes.Compiler.Plan

/-! Results of plans, apart from their records. Against fixed answers the result of a plan composes
as computations that may fail compose. Two plans with equal results may still differ in the
questions they ask and the events they report. -/
namespace TenantRoutes

variable {α β ε : Type}

/-- A value that is there unless there is a failure. -/
def settle (failure? : Option ε) (value : α) : Except ε α :=
  match failure? with
  | some failure => .error failure
  | none => .ok value

@[simp] theorem settle_none (value : α) : (settle none value : Except ε α) = .ok value := rfl

@[simp] theorem settle_some (failure : ε) (value : α) :
    settle (some failure) value = .error failure := rfl

theorem settle_eq_ok_iff {failure? : Option ε} {value result : α} :
    settle failure? value = .ok result ↔ failure? = none ∧ value = result := by
  cases failure? <;> simp

theorem settle_eq_error_iff {failure? : Option ε} {value : α} {failure : ε} :
    settle failure? value = .error failure ↔ failure? = some failure := by
  cases failure? <;> simp

/-- A list of computations fails with the failure of the first one that fails. -/
theorem mapM_settle (failure? : α → Option ε) (value : α → β) (xs : List α) :
    xs.mapM (fun x => settle (failure? x) (value x)) =
      settle (xs.findSome? failure?) (xs.map value) := by
  induction xs with
  | nil => rfl
  | cons x xs ih =>
      rw [List.mapM_cons, ih, List.findSome?_cons]
      cases failure? x with
      | some failure => rfl
      | none => cases xs.findSome? failure? <;> rfl

/-- A computation in two steps succeeds when both steps do. -/
theorem bind_eq_ok_iff {first : Except ε α} {next : α → Except ε β} {result : β} :
    first >>= next = .ok result ↔ ∃ value, first = .ok value ∧ next value = .ok result := by
  cases first with
  | error failure => simp [bind, Except.bind]
  | ok value => simp [bind, Except.bind]

/-- A list of computations succeeds when all of them do, each with its own part of the result. -/
theorem mapM_eq_ok_iff_forall₂ {f : α → Except ε β} {xs : List α} {ys : List β} :
    xs.mapM f = .ok ys ↔ List.Forall₂ (fun x y => f x = .ok y) xs ys := by
  induction xs generalizing ys with
  | nil => cases ys <;> simp [pure, Except.pure]
  | cons x xs ih =>
      rw [List.mapM_cons, bind_eq_ok_iff]
      simp only [bind_eq_ok_iff, ih, List.forall₂_cons_left_iff]
      constructor
      · rintro ⟨y, hFirst, rest, hRest, hPure⟩
        exact ⟨y, rest, hFirst, hRest, (Except.ok.inj hPure).symm⟩
      · rintro ⟨y, rest, hFirst, hRest, rfl⟩
        exact ⟨y, hFirst, rest, hRest, rfl⟩

namespace Plan

@[simp] theorem resultWith_done (lookups : Lookups) (result : α) :
    (done result).resultWith lookups = .ok result := rfl

@[simp] theorem resultWith_report (lookups : Lookups) (event : Log.Event) (next : Plan α) :
    (report event next).resultWith lookups = next.resultWith lookups := rfl

/-- A question is its answer, followed by what the plan makes of it. -/
@[simp] theorem resultWith_ask (lookups : Lookups) (question : Query)
    (next : question.Answer → Plan α) :
    (ask question next).resultWith lookups =
      lookups.answer question >>= fun answer => (next answer).resultWith lookups := by
  unfold resultWith
  rw [run]
  cases lookups.answer question <;> rfl

@[simp] theorem resultWith_bind (lookups : Lookups) (plan : Plan α) (next : α → Plan β) :
    (plan.bind next).resultWith lookups =
      plan.resultWith lookups >>= fun result => (next result).resultWith lookups := by
  unfold resultWith
  rw [run_bind]
  cases (plan.run lookups).result <;> rfl

theorem resultWith_mapM (lookups : Lookups) (f : α → Plan β) (xs : List α) :
    (xs.mapM f).resultWith lookups = xs.mapM fun x => (f x).resultWith lookups := by
  induction xs with
  | nil => rfl
  | cons x xs ih =>
      rw [List.mapM_cons, List.mapM_cons, bind_eq, resultWith_bind]
      congr 1
      funext y
      rw [bind_eq, resultWith_bind, ih]
      rfl

end Plan

end TenantRoutes
