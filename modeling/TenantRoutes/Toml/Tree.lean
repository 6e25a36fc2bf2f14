import TenantRoutes.Json.Basic
/-! The tables of a TOML document while it is read. A table remembers how it came about, since that
decides who may add to it: a table with a header of its own is closed to dotted keys and to a
second header; one that only lies on the path of a header may still get its own; one made by a
dotted key takes further dotted keys. -/
namespace TenantRoutes.Toml

/-- How a table came about. -/
inductive Origin where
  | header
  | onPath
  | dottedKey
deriving DecidableEq

/-- A finished value, a table that may still grow, or an array of such tables. -/
inductive Node where
  | value (json : Json)
  | table (origin : Origin) (entries : List (String × Node))
  | tables (elements : List Node)

abbrev Entries := List (String × Node)

namespace Entries

def find? (key : String) : Entries → Option Node
  | [] => none
  | (name, node) :: rest => if name = key then some node else find? key rest

/-- The entries with a node for a key, in place of the node it had. -/
def put (key : String) (node : Node) : Entries → Entries
  | [] => [(key, node)]
  | (name, old) :: rest =>
    if name = key then (name, node) :: rest else (name, old) :: put key node rest

/-- Change the table at the end of a path. Tables that are missing on the way are made; an array of
tables is entered at its last element. A path of dotted keys does not enter a table with a header
of its own. -/
def descend (dotted : Bool) (change : Origin → Entries → Option Entries) :
    List String → Origin → Entries → Option Entries
  | [], origin, entries => change origin entries
  | key :: path, _, entries =>
    match find? key entries with
    | none => do
      let origin := if dotted then Origin.dottedKey else .onPath
      let changed ← descend dotted change path origin []
      some (put key (.table origin changed) entries)
    | some (.value _) => none
    | some (.table origin inner) =>
      if dotted && origin == .header then none
      else do
        let changed ← descend dotted change path origin inner
        some (put key (.table origin changed) entries)
    | some (.tables elements) =>
      match elements.getLast? with
      | some (.table origin inner) => do
        let changed ← descend dotted change path origin inner
        some (put key (.tables (elements.dropLast ++ [.table origin changed])) entries)
      | _ => none

/-- Add a value under a key of one or more parts. Its last part has to be new, and the parts before
it may only name tables made by dotted keys. -/
def addValue (entries : Entries) (path : List String) (json : Json) : Option Entries :=
  match path.getLast? with
  | none => none
  | some key =>
    let parents := path.dropLast
    descend true (fun origin inner =>
      if (origin == .dottedKey) == parents.isEmpty then none
      else
        match find? key inner with
        | some _ => none
        | none => some (put key (.value json) inner)) parents .header entries

/-- Add values in order. -/
def addValues (entries : Entries) (values : List (List String × Json)) : Option Entries :=
  values.foldlM (fun entries (path, json) => addValue entries path json) entries

end Entries

mutual

/-- What a node holds in the end. -/
def Node.toJson : Node → Json
  | .value json => json
  | .table _ entries => .object (Entries.toFields entries)
  | .tables elements => .array (Node.listToJson elements)

def Entries.toFields : List (String × Node) → List (String × Json)
  | [] => []
  | (key, node) :: rest => (key, node.toJson) :: Entries.toFields rest

def Node.listToJson : List Node → List Json
  | [] => []
  | node :: rest => node.toJson :: Node.listToJson rest

end

end TenantRoutes.Toml
