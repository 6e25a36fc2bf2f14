/-! JSON values. An object is the list of its fields as written; where a name occurs twice the last
occurrence counts. -/
namespace TenantRoutes

/-- A number as it is written: an integer, or a mantissa with a power of ten. The two are kept
apart, since `2e2` is no integer to a reader that asks for one. -/
inductive Json.Number where
  | integer (value : Int)
  | decimal (mantissa exponent : Int)
deriving DecidableEq

inductive Json where
  | null
  | bool (value : Bool)
  | number (value : Json.Number)
  | string (value : String)
  | array (items : List Json)
  | object (fields : List (String × Json))

namespace Json

instance : Inhabited Json := ⟨.null⟩

/-- The value of the last field of a name. -/
def field? (name : String) : List (String × Json) → Option Json
  | [] => none
  | (key, value) :: rest =>
    match field? name rest with
    | some found => some found
    | none => if key = name then some value else none

/-- The value of a field of an object. -/
def get? (json : Json) (name : String) : Option Json :=
  match json with
  | object fields => field? name fields
  | _ => none

theorem mem_of_field? {name : String} {fields : List (String × Json)} {value : Json}
    (h : field? name fields = some value) : (name, value) ∈ fields := by
  induction fields with
  | nil => simp [field?] at h
  | cons entry rest ih =>
    obtain ⟨key, first⟩ := entry
    simp only [field?] at h
    split at h
    · next found hfound =>
      cases h
      exact List.mem_cons_of_mem _ (ih hfound)
    · split at h
      · next hkey =>
        cases h
        subst hkey
        exact List.mem_cons_self
      · cases h

def string? : Json → Option String
  | string value => some value
  | _ => none

def bool? : Json → Option Bool
  | bool value => some value
  | _ => none

/-- A natural number written as an integer. -/
def nat? : Json → Option Nat
  | number (.integer (.ofNat value)) => some value
  | _ => none

def ofNat (value : Nat) : Json :=
  number (.integer value)

/-- An array of values of one kind. -/
def listOf? (read : Json → Option α) : Json → Option (List α)
  | array items => items.mapM read
  | _ => none

/-- A value or `null` for its absence. -/
def optional? (read : Json → Option α) : Json → Option (Option α)
  | null => some none
  | json => (read json).map some

def ofOption (write : α → Json) : Option α → Json
  | none => null
  | some value => write value

def ofList (write : α → Json) (items : List α) : Json :=
  array (items.map write)

end Json

end TenantRoutes
