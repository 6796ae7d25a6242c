/-
A catalog of declared types, looked up by number or by name in finite tables that keep the
order in which their keys were first put in. Mappers are also indexed by what they map, each
list of the index in ascending order of numbers whatever order the definitions came in.
-/

import MappingPlan.Catalog.Definition

set_option autoImplicit false

namespace MappingPlan

structure Table (Key Value : Type) where
  entries : List (Key × Value) := []
  deriving DecidableEq

namespace Table

variable {Key Value : Type} [DecidableEq Key]

def findEntry (key : Key) : List (Key × Value) → Option Value
  | [] => none
  | (known, value) :: rest => if key = known then some value else findEntry key rest

def find? (table : Table Key Value) (key : Key) : Option Value :=
  findEntry key table.entries

def contains (table : Table Key Value) (key : Key) : Bool := (table.find? key).isSome

def values (table : Table Key Value) : List Value := table.entries.map Prod.snd

def insertEntry (key : Key) (value : Value) : List (Key × Value) → List (Key × Value)
  | [] => [(key, value)]
  | (known, old) :: rest =>
      if key = known then (key, value) :: rest
      else (known, old) :: insertEntry key value rest

def insert (table : Table Key Value) (key : Key) (value : Value) : Table Key Value :=
  ⟨insertEntry key value table.entries⟩

theorem findEntry_insertEntry (key other : Key) (value : Value)
    (entries : List (Key × Value)) :
    findEntry other (insertEntry key value entries) =
      if other = key then some value else findEntry other entries := by
  induction entries with
  | nil => rfl
  | cons entry rest ih =>
      rcases entry with ⟨known, old⟩
      by_cases found : key = known
      · subst found
        by_cases same : other = key <;> simp [insertEntry, findEntry, same]
      · by_cases here : other = known
        · subst here
          simp [insertEntry, findEntry, found, Ne.symm found]
        · simp [insertEntry, findEntry, found, here, ih]

theorem find?_insert (table : Table Key Value) (key other : Key) (value : Value) :
    (table.insert key value).find? other =
      if other = key then some value else table.find? other :=
  findEntry_insertEntry key other value table.entries

end Table

def insertAscending (id : TypeId) : List TypeId → List TypeId
  | [] => [id]
  | head :: rest =>
      if id.number ≤ head.number then id :: head :: rest
      else head :: insertAscending id rest

theorem mem_insertAscending (id other : TypeId) (ids : List TypeId) :
    other ∈ insertAscending id ids ↔ other = id ∨ other ∈ ids := by
  induction ids with
  | nil => simp only [insertAscending, List.mem_singleton, List.not_mem_nil, or_false]
  | cons head rest ih =>
      unfold insertAscending
      split
      · exact List.mem_cons
      · rw [List.mem_cons, List.mem_cons, ih]
        exact or_left_comm

/-- The parameter and result of an entry point for one value. -/
abbrev Signature := Ty × Ty

abbrev SignatureIndex := Table Signature (List TypeId)

namespace SignatureIndex

def mappers (index : SignatureIndex) (signature : Signature) : List TypeId :=
  (index.find? signature).getD []

/-- Enter a definition under the signature of its entry point for one value. What
has no such entry point is not entered. -/
def enter (index : SignatureIndex) (definition : Definition) : SignatureIndex :=
  match definition.entryPoint? .map with
  | some point =>
      let signature := (point.parameter, point.result)
      index.insert signature (insertAscending definition.id (index.mappers signature))
  | none => index

def ofDefinitions (definitions : List Definition) : SignatureIndex :=
  definitions.foldl enter {}

end SignatureIndex

structure Catalog where
  definitions : Table TypeId Definition
  names : Table String TypeId
  index : SignatureIndex

namespace Catalog

def definition? (catalog : Catalog) (id : TypeId) : Option Definition :=
  catalog.definitions.find? id

def idOf? (catalog : Catalog) (name : String) : Option TypeId := catalog.names.find? name

def mappersBetween (catalog : Catalog) (source target : Ty) : List Definition :=
  (catalog.index.mappers (source, target)).filterMap catalog.definition?

def lookup (catalog : Catalog) : TypeLookup :=
  ⟨catalog.definition?, catalog.mappersBetween⟩

end Catalog

end MappingPlan
