import TenantRoutes.Json.Basic
/-! Records in JSON. A record is an object of its fields by name, where unknown names are ignored,
or the array of its fields in order, where missing fields may only end the array. Whether items may
follow the last field depends on the format that the value comes from. A value of one of several
cases names its case in a field of the object or as the first item of the array, beside the fields
of the case, and there nothing may follow the last. -/
namespace TenantRoutes.Json

/-- The fields of a record as they are given. -/
inductive Record where
  | named (fields : List (String × Json))
  | placed (items : List Json)

/-- What becomes of items of an array after the last field of a record. -/
inductive Surplus where
  | refused
  | ignored
deriving DecidableEq

namespace Record

/-- The record that a value holds, if it can be one of `size` fields. -/
def ofJson? (surplus : Surplus) (size : Nat) : Json → Option Record
  | object fields => some (named fields)
  | array items =>
    if surplus = .ignored ∨ items.length ≤ size then some (placed items) else none
  | _ => none

/-- A record of a case may not have more items than the case has fields. -/
def fits? (size : Nat) : Record → Option Record
  | named fields => some (named fields)
  | placed items => if items.length ≤ size then some (placed items) else none

/-- The field with a name that stands at a place. -/
def field? (record : Record) (place : Nat) (name : String) : Option Json :=
  match record with
  | named fields => Json.field? name fields
  | placed items => items[place]?

/-- A field that has to be there. -/
def required (record : Record) (place : Nat) (name : String) (read : Json → Option α) : Option α :=
  (record.field? place name).bind read

/-- A field with a value for its absence. A field that is there has to be readable. -/
def withDefault (record : Record) (place : Nat) (name : String) (default : α)
    (read : Json → Option α) : Option α :=
  match record.field? place name with
  | none => some default
  | some json => read json

/-- A field that may be absent or `null`. -/
def optional (record : Record) (place : Nat) (name : String) (read : Json → Option α) :
    Option (Option α) :=
  record.withDefault place name none (optional? read)

end Record

/-- The case that a value names and the fields beside it. -/
def tagged? (tagName : String) : Json → Option (Json × Record)
  | object fields => (field? tagName fields).map fun tag => (tag, .named fields)
  | array (tag :: items) => some (tag, .placed items)
  | _ => none

/-- How a case may be named: by its name alone, or also by its place in the list of cases. -/
inductive Naming where
  | byName
  | byNameOrPlace
deriving DecidableEq

/-- The case that a tag stands for. -/
def caseOf? (naming : Naming) (names : List String) (tag : Json) : Option String :=
  match tag with
  | string name => if name ∈ names then some name else none
  | number (.integer (.ofNat place)) =>
    match naming with
    | .byName => none
    | .byNameOrPlace => names[place]?
  | _ => none

end TenantRoutes.Json
