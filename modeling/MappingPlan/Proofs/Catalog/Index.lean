/-
The index of mappers against a search of all definitions. What the index lists
between two types is what has an entry point for one value with exactly these types, in
ascending order of numbers, and so each such mapper once.
-/

import MappingPlan.Proofs.Catalog.Coherence

set_option autoImplicit false

namespace MappingPlan

def Definition.signature? (definition : Definition) : Option Signature :=
  (definition.entryPoint? .map).map fun point => (point.parameter, point.result)

theorem Definition.isMapper_of_signature? {definition : Definition} {signature : Signature}
    (signed : definition.signature? = some signature) : definition.isMapper = true := by
  obtain ⟨id, name, body⟩ := definition
  cases body with
  | mapperBody source target entryPoints => rfl
  | _ => cases signed

def TypeId.Precedes (id other : TypeId) : Prop := id.number < other.number

instance : Std.Irrefl TypeId.Precedes where
  irrefl id := UInt32.lt_irrefl id.number

instance : Std.Antisymm TypeId.Precedes where
  antisymm _ _ before after := absurd after (UInt32.lt_asymm before)

def Definition.Precedes (definition other : Definition) : Prop := definition.id.Precedes other.id

instance : Std.Irrefl Definition.Precedes where
  irrefl definition := irrefl definition.id

instance : Std.Antisymm Definition.Precedes where
  antisymm _ _ before after := absurd after (UInt32.lt_asymm before)

theorem pairwise_insertAscending {id : TypeId} {ids : List TypeId} (fresh : id ∉ ids)
    (ascending : ids.Pairwise TypeId.Precedes) :
    (insertAscending id ids).Pairwise TypeId.Precedes := by
  induction ids with
  | nil => exact List.pairwise_singleton _ id
  | cons head rest ih =>
      have headTail := List.pairwise_cons.mp ascending
      have differs : id ≠ head := fun same => fresh (same ▸ List.mem_cons_self)
      unfold insertAscending
      split
      next atMost =>
        have first : id.Precedes head :=
          UInt32.lt_of_le_of_ne atMost fun same => differs (congrArg TypeId.mk same)
        refine List.pairwise_cons.mpr ⟨?_, ascending⟩
        intro other member
        rcases List.mem_cons.mp member with same | later
        · exact same ▸ first
        · exact UInt32.lt_trans first (headTail.1 other later)
      next beyond =>
        refine List.pairwise_cons.mpr ⟨?_, ih (List.not_mem_of_not_mem_cons fresh) headTail.2⟩
        intro other member
        rcases (mem_insertAscending id other rest).mp member with same | later
        · exact same ▸ UInt32.not_le.mp beyond
        · exact headTail.1 other later

namespace SignatureIndex

theorem mappers_enter (index : SignatureIndex) (definition : Definition)
    (signature : Signature) :
    (index.enter definition).mappers signature =
      if definition.signature? = some signature then
        insertAscending definition.id (index.mappers signature)
      else index.mappers signature := by
  unfold enter Definition.signature?
  cases definition.entryPoint? .map with
  | none => rfl
  | some point =>
      simp only [Option.map_some, Option.some.injEq, mappers, Table.find?_insert]
      by_cases same : signature = (point.parameter, point.result)
      · rw [if_pos same, if_pos same.symm, same]
        rfl
      · rw [if_neg same, if_neg (Ne.symm same)]

theorem mem_mappers_enter (index : SignatureIndex) (definition : Definition)
    (signature : Signature) (id : TypeId) :
    id ∈ (index.enter definition).mappers signature ↔
      id ∈ index.mappers signature ∨
        definition.id = id ∧ definition.signature? = some signature := by
  rw [mappers_enter]
  split
  next signed => rw [mem_insertAscending, or_comm, eq_comm, and_iff_left signed]
  next unsigned => exact (or_iff_left fun both => unsigned both.2).symm

theorem mem_mappers_foldl (index : SignatureIndex) (definitions : List Definition)
    (signature : Signature) (id : TypeId) :
    id ∈ SignatureIndex.mappers (definitions.foldl enter index) signature ↔
      id ∈ index.mappers signature ∨
        ∃ definition ∈ definitions, definition.id = id ∧
          definition.signature? = some signature := by
  induction definitions generalizing index with
  | nil => simp only [List.foldl_nil, List.not_mem_nil, false_and, exists_false, or_false]
  | cons head rest ih =>
      rw [List.foldl_cons, ih, mem_mappers_enter, or_assoc]
      simp only [List.mem_cons, exists_eq_or_imp]

theorem mem_mappers_ofDefinitions (definitions : List Definition) (signature : Signature)
    (id : TypeId) :
    id ∈ (ofDefinitions definitions).mappers signature ↔
      ∃ definition ∈ definitions, definition.id = id ∧
        definition.signature? = some signature := by
  have absent : id ∉ SignatureIndex.mappers {} signature := List.not_mem_nil
  unfold ofDefinitions
  rw [mem_mappers_foldl, or_iff_right absent]

theorem ascending_mappers_enter {index : SignatureIndex} {definition : Definition}
    (ascending : ∀ signature, (index.mappers signature).Pairwise TypeId.Precedes)
    (fresh : ∀ signature, definition.id ∉ index.mappers signature) (signature : Signature) :
    ((index.enter definition).mappers signature).Pairwise TypeId.Precedes := by
  rw [mappers_enter]
  split
  · exact pairwise_insertAscending (fresh signature) (ascending signature)
  · exact ascending signature

theorem ascending_mappers_foldl {index : SignatureIndex} (definitions : List Definition)
    (distinctIds : (definitions.map (·.id)).Nodup)
    (ascending : ∀ signature, (index.mappers signature).Pairwise TypeId.Precedes)
    (fresh : ∀ definition ∈ definitions, ∀ signature,
      definition.id ∉ index.mappers signature) (signature : Signature) :
    (SignatureIndex.mappers (definitions.foldl enter index) signature).Pairwise
      TypeId.Precedes := by
  induction definitions generalizing index with
  | nil => exact ascending signature
  | cons head rest ih =>
      have headTail := List.nodup_cons.mp distinctIds
      obtain ⟨freshHead, freshRest⟩ := List.forall_mem_cons.mp fresh
      refine ih headTail.2 (ascending_mappers_enter ascending freshHead) ?_
      intro later member other entered
      rcases (mem_mappers_enter index head other later.id).mp entered with before | ⟨same, -⟩
      · exact freshRest later member other before
      · exact headTail.1 (List.mem_map.mpr ⟨later, member, same.symm⟩)

theorem ascending_mappers_ofDefinitions {definitions : List Definition}
    (distinctIds : (definitions.map (·.id)).Nodup) (signature : Signature) :
    ((ofDefinitions definitions).mappers signature).Pairwise TypeId.Precedes := by
  unfold ofDefinitions
  apply ascending_mappers_foldl definitions distinctIds
  · intro _
    exact List.Pairwise.nil
  · intro _ _ _
    exact List.not_mem_nil

end SignatureIndex

namespace Catalog

variable {catalog : Catalog}

/-- A definition is listed between two types exactly if it is stored and its entry point
for one value takes the one to the other. -/
theorem IsBuilt.mem_mappersBetween_iff (built : catalog.IsBuilt) (source target : Ty)
    (definition : Definition) :
    definition ∈ catalog.mappersBetween source target ↔
      ∃ id, catalog.definition? id = some definition ∧
        definition.signature? = some (source, target) := by
  obtain ⟨draft, coherent, same, indexed⟩ := built.exists_draft
  unfold mappersBetween
  rw [List.mem_filterMap, indexed]
  apply exists_congr
  intro id
  rw [SignatureIndex.mem_mappers_ofDefinitions, and_comm]
  apply and_congr_right
  intro found
  constructor
  · intro listed
    obtain ⟨other, member, sameId, hasSignature⟩ := listed
    obtain ⟨⟨key, _⟩, stored, rfl⟩ := List.mem_map.mp member
    obtain ⟨declaration, -, rfl⟩ := coherent.declared key _ stored
    rw [← same, ← built.definition?_eq_some_iff] at stored
    obtain rfl : key = id := sameId
    rw [found] at stored
    rw [Option.some.inj stored]
    exact hasSignature
  · intro hasSignature
    have stored := (built.definition?_eq_some_iff id definition).mp found
    obtain ⟨declaration, -, becomes⟩ := built.declared found
    rw [same] at stored
    exact ⟨definition, List.mem_map_of_mem stored, by rw [becomes]; rfl, hasSignature⟩

theorem IsBuilt.ownId (built : catalog.IsBuilt) {id : TypeId} {definition : Definition}
    (found : catalog.definition? id = some definition) : definition.id = id := by
  obtain ⟨declaration, -, rfl⟩ := built.declared found
  rfl

theorem IsBuilt.nodup_ids (built : catalog.IsBuilt) :
    (catalog.definitions.values.map (·.id)).Nodup := by
  obtain ⟨draft, coherent, same, -⟩ := built.exists_draft
  have ids : draft.definitions.values.map (·.id) = draft.definitions.entries.map Prod.fst := by
    unfold Table.values
    rw [List.map_map]
    apply List.map_congr_left
    intro entry stored
    obtain ⟨declaration, -, becomes⟩ := coherent.declared entry.1 entry.2 stored
    exact congrArg Definition.id becomes
  rw [same, ids]
  exact coherent.distinct

theorem IsBuilt.index_eq (built : catalog.IsBuilt) :
    catalog.index = .ofDefinitions catalog.definitions.values := by
  obtain ⟨draft, -, same, indexed⟩ := built.exists_draft
  rw [same, indexed]

theorem IsBuilt.ascending_mappersBetween (built : catalog.IsBuilt) (source target : Ty) :
    (catalog.mappersBetween source target).Pairwise Definition.Precedes := by
  unfold mappersBetween
  rw [built.index_eq]
  refine List.Pairwise.filterMap _ ?_
    (SignatureIndex.ascending_mappers_ofDefinitions built.nodup_ids (source, target))
  intro id other before definition found otherDefinition otherFound
  unfold Definition.Precedes
  rw [built.ownId found, built.ownId otherFound]
  exact before

theorem IsBuilt.nodup_mappersBetween (built : catalog.IsBuilt) (source target : Ty) :
    (catalog.mappersBetween source target).Nodup :=
  (built.ascending_mappersBetween source target).nodup

end Catalog

end MappingPlan
