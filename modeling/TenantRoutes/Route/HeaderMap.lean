import TenantRoutes.Json.Record
import TenantRoutes.Text.Ascii
import TenantRoutes.Text.Described
/-! Header values by name. A map holds each spelling of a name once, in increasing order of the
names; code points order texts as the bytes of their UTF-8 form do. -/
namespace TenantRoutes

structure HeaderMap where
  entries : List (String × List String)
  sorted : entries.Pairwise fun a b => a.1 < b.1
deriving DecidableEq

namespace HeaderMap

/-- Put an entry into a list sorted by name, in place of an entry with the same spelling. -/
def insertSorted (name : String) (values : List String) :
    List (String × List String) → List (String × List String)
  | [] => [(name, values)]
  | (key, old) :: rest =>
    if name = key then (name, values) :: rest
    else if name < key then (name, values) :: (key, old) :: rest
    else (key, old) :: insertSorted name values rest

theorem mem_insertSorted {name : String} {values : List String} {entry : String × List String} :
    ∀ {entries : List (String × List String)},
      entry ∈ insertSorted name values entries → entry = (name, values) ∨ entry ∈ entries
  | [], h => by simpa [insertSorted] using h
  | (key, old) :: rest, h => by
    simp only [insertSorted] at h
    split at h
    · exact (List.mem_cons.1 h).imp id (List.mem_cons_of_mem _)
    · split at h
      · exact List.mem_cons.1 h
      · rcases List.mem_cons.1 h with rfl | h
        · exact Or.inr List.mem_cons_self
        · exact (mem_insertSorted h).imp id (List.mem_cons_of_mem _)

theorem pairwise_insertSorted (name : String) (values : List String) :
    ∀ {entries : List (String × List String)}, entries.Pairwise (fun a b => a.1 < b.1) →
      (insertSorted name values entries).Pairwise fun a b => a.1 < b.1
  | [], _ => by simp [insertSorted]
  | (key, old) :: rest, h => by
    rw [List.pairwise_cons] at h
    simp only [insertSorted]
    split
    · next hname =>
      subst hname
      exact List.pairwise_cons.2 h
    · next hne =>
      split
      · next hlt =>
        refine List.pairwise_cons.2 ⟨fun entry hentry => ?_, List.pairwise_cons.2 h⟩
        rcases List.mem_cons.1 hentry with rfl | hentry
        · exact hlt
        · exact String.lt_trans hlt (h.1 entry hentry)
      · next hnot =>
        refine List.pairwise_cons.2 ⟨fun entry hentry => ?_, pairwise_insertSorted name values h.2⟩
        rcases mem_insertSorted hentry with rfl | hentry
        · exact String.not_le.1 fun hle => hne (String.le_antisymm hle (String.not_lt.1 hnot))
        · exact h.1 entry hentry

def empty : HeaderMap := ⟨[], List.Pairwise.nil⟩

instance : Inhabited HeaderMap := ⟨empty⟩

def isEmpty (map : HeaderMap) : Bool :=
  map.entries.isEmpty

/-- The map with a value for a name; other spellings of the name stay. -/
def insert (map : HeaderMap) (name : String) (values : List String) : HeaderMap :=
  ⟨insertSorted name values map.entries, pairwise_insertSorted name values map.sorted⟩

/-- The map without the spellings of a name that differ in letter case at most. -/
def eraseIgnoringCase (map : HeaderMap) (name : String) : HeaderMap :=
  ⟨map.entries.filter fun entry => !Text.eqIgnoringCase entry.1 name, map.sorted.filter _⟩

/-- The map of a list of entries, where the last entry of a name counts. -/
def ofList (entries : List (String × List String)) : HeaderMap :=
  entries.foldl (fun map entry => map.insert entry.1 entry.2) empty

def toJson (map : HeaderMap) : Json :=
  .object (map.entries.map fun (name, values) => (name, Json.ofList Json.string values))

def ofJson? : Json → Option HeaderMap
  | .object fields => do
    let entries ← fields.mapM fun (name, value) => do
      some (name, ← Json.listOf? Json.string? value)
    some (ofList entries)
  | _ => none

open Text.Described in
def describe (header : HeaderMap) : String :=
  map (header.entries.map fun (name, values) => (name, list (values.map Text.quoted)))

end HeaderMap

end TenantRoutes
