import Mathlib.Data.List.Basic
import TenantRoutes.Json.Record

/-! Reading the fields of a written record. A name that is written once is found with its value,
wherever it stands among the fields. What is said of a writer and a reader of one value carries over
to lists of values and to values that may be absent. -/
namespace TenantRoutes.Json

variable {α : Type}

@[simp] theorem field?_nil (name : String) : field? name [] = none := rfl

@[simp] theorem field?_cons (name key : String) (value : Json) (rest : List (String × Json)) :
    field? name ((key, value) :: rest) =
      (field? name rest).or (if key = name then some value else none) := by
  rw [field?]
  cases field? name rest <;> rfl

@[simp] theorem field?_append (name : String) (fields later : List (String × Json)) :
    field? name (fields ++ later) = (field? name later).or (field? name fields) := by
  induction fields with
  | nil => simp
  | cons entry rest ih => rw [List.cons_append, field?_cons, field?_cons, ih, Option.or_assoc]

/-- What is written for a value is read as that value and not as an absent one. -/
structure ReadsBack (read : Json → Option α) (write : α → Json) (value : α) : Prop where
  read_write : read (write value) = some value
  ne_null : write value ≠ .null

theorem readsBack_string (value : String) : ReadsBack string? .string value :=
  ⟨rfl, Json.noConfusion⟩

theorem readsBack_bool (value : Bool) : ReadsBack bool? .bool value :=
  ⟨rfl, Json.noConfusion⟩

theorem readsBack_list {read : Json → Option α} {write : α → Json} {values : List α}
    (hValues : ∀ value ∈ values, ReadsBack read write value) :
    ReadsBack (listOf? read) (ofList write) values := by
  refine ⟨?_, Json.noConfusion⟩
  change (values.map write).mapM read = some values
  induction values with
  | nil => rfl
  | cons value rest ih =>
      rw [List.forall_mem_cons] at hValues
      rw [List.map_cons, List.mapM_cons, hValues.1.read_write, ih hValues.2]
      rfl

theorem readsBack_texts (values : List String) :
    ReadsBack (listOf? string?) (ofList .string) values :=
  readsBack_list fun value _ => readsBack_string value

/-- Only `null` stands for an absent value. -/
theorem optional?_of_ne_null {read : Json → Option α} {json : Json} (hSome : json ≠ .null) :
    optional? read json = (read json).map some := by
  cases json with
  | null => exact absurd rfl hSome
  | _ => rfl

/-- Where `null` is written for an absent value, absence is read back as well. -/
theorem optional?_ofOption {read : Json → Option α} {write : α → Json} {value? : Option α}
    (hValue : ∀ value ∈ value?, ReadsBack read write value) :
    optional? read (ofOption write value?) = some value? := by
  cases value? with
  | none => rfl
  | some value =>
      obtain ⟨hRead, hSome⟩ := hValue value rfl
      exact (optional?_of_ne_null hSome).trans (by rw [hRead, Option.map_some])

namespace Record

variable {fields : List (String × Json)} {place : Nat} {name : String} {read : Json → Option α}

@[simp] theorem ofJson?_object (surplus : Surplus) (size : Nat) (fields : List (String × Json)) :
    ofJson? surplus size (.object fields) = some (named fields) := rfl

@[simp] theorem fits?_named (size : Nat) (fields : List (String × Json)) :
    fits? size (named fields) = some (named fields) := rfl

theorem required_named {write : α → Json} {value : α}
    (hField : Json.field? name fields = some (write value)) (hValue : ReadsBack read write value) :
    (named fields).required place name read = some value := by
  rw [required, field?, hField, Option.bind_some, hValue.read_write]

/-- An absent value is not written, and neither is it then read. -/
theorem optional_named {write : α → Json} {value? : Option α}
    (hField : Json.field? name fields = value?.map write)
    (hValue : ∀ value ∈ value?, ReadsBack read write value) :
    (named fields).optional place name read = some value? := by
  rw [optional, withDefault, field?, hField]
  cases value? with
  | none => rfl
  | some value =>
      obtain ⟨hRead, hSome⟩ := hValue value rfl
      rw [Option.map_some]
      exact (optional?_of_ne_null hSome).trans (by rw [hRead, Option.map_some])

/-- A field that is written for absent values too. -/
theorem optional_written {write : α → Json} {value? : Option α}
    (hField : Json.field? name fields = some (ofOption write value?))
    (hValue : ∀ value ∈ value?, ReadsBack read write value) :
    (named fields).optional place name read = some value? := by
  rw [optional, withDefault, field?, hField]
  exact optional?_ofOption hValue

/-- A field that is written has no need of its default. -/
theorem withDefault_written {write : α → Json} {value default : α}
    (hField : Json.field? name fields = some (write value)) (hValue : ReadsBack read write value) :
    (named fields).withDefault place name default read = some value := by
  rw [withDefault, field?, hField]
  exact hValue.read_write

/-- A field may be left out where its value is the default. -/
theorem withDefault_named {value default : α}
    (hField : ∀ json, Json.field? name fields = some json → read json = some value)
    (hAbsent : Json.field? name fields = none → value = default) :
    (named fields).withDefault place name default read = some value := by
  rw [withDefault, field?]
  cases hJson : Json.field? name fields with
  | none => rw [hAbsent hJson]
  | some json => exact hField json hJson

/-- A list may be left out where it is empty. -/
theorem withDefault_list_named {write : α → Json} {values : List α}
    (hField : Json.field? name fields =
      if values.map write ≠ [] then some (.array (values.map write)) else none)
    (hValues : ∀ value ∈ values, ReadsBack read write value) :
    (named fields).withDefault place name [] (listOf? read) = some values := by
  refine withDefault_named ?_ ?_
  · intro json hJson
    rw [hField, Option.ite_none_right_eq_some] at hJson
    rw [← Option.some.inj hJson.2]
    exact (readsBack_list hValues).read_write
  · intro hNone
    simpa [hField] using hNone

end Record

end TenantRoutes.Json
