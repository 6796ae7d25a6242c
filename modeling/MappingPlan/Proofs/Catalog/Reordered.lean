/-
The same declarations in another order. Each is given another number, and to exchange the
numbers for one another wherever they are mentioned leads from the one catalog to the other.
-/

import Mathlib.Data.List.Perm.Basic
import MappingPlan.Proofs.Catalog.Closing
import MappingPlan.Proofs.Catalog.Index
import MappingPlan.Proofs.Catalog.Renumbered

set_option autoImplicit false

namespace MappingPlan

namespace Draft

/-- Of the declarations, made one after the other, none is rejected. -/
def AllDeclared (declarations : List Declaration) : Prop :=
  ∀ ending ∈ (Draft.empty.run (declarations.map .declare)).1, ending.2 = .declared

instance (declarations : List Declaration) : Decidable (AllDeclared declarations) :=
  inferInstanceAs (Decidable (∀ ending ∈ (Draft.empty.run (declarations.map .declare)).1, _))

theorem forall_declared_iff (draft : Draft) (declarations : List Declaration) :
    (∀ ending ∈ (draft.run (declarations.map .declare)).1, ending.2 = .declared) ↔
      (∀ declaration ∈ declarations,
        declaration.fault? = none ∧ draft.names.find? declaration.name = none) ∧
        (declarations.map (·.name)).Nodup := by
  induction declarations generalizing draft with
  | nil => simp [run]
  | cons head rest ih =>
      rw [List.map_cons, run_cons, List.forall_mem_cons, List.forall_mem_cons, List.map_cons,
        List.nodup_cons, ← rejection?_eq_none_iff, ih]
      cases accepted : draft.rejection? head with
      | some error =>
          have rejected : (draft.step (.declare head)).1.2 = .rejected error := by
            rw [step_declare, accepted]
          simp only [rejected, reduceCtorEq, false_and]
      | none =>
          have names : ∀ name, (draft.step (.declare head)).2.names.find? name =
              if name = head.name then some ⟨draft.next⟩ else draft.names.find? name := by
            intro name
            rw [step_declare, accepted]
            exact Table.find?_insert _ _ _ _
          have declared : (draft.step (.declare head)).1.2 = .declared := by
            rw [step_declare, accepted]
          have fresh : ∀ declaration : Declaration,
              (draft.step (.declare head)).2.names.find? declaration.name = none ↔
                declaration.name ≠ head.name ∧ draft.names.find? declaration.name = none := by
            intro declaration
            rw [names]
            by_cases same : declaration.name = head.name
            · simp only [same, if_true, reduceCtorEq, ne_eq, not_true, false_and]
            · simp only [same, if_false, ne_eq, not_false_eq_true, true_and]
          simp only [declared, true_and, fresh, List.mem_map, not_exists, not_and]
          grind

/-- All succeed exactly if none is at fault on its own and no two have one name. This does
not depend on their order. -/
theorem allDeclared_iff (declarations : List Declaration) :
    AllDeclared declarations ↔
      (∀ declaration ∈ declarations, declaration.fault? = none) ∧
        (declarations.map (·.name)).Nodup := by
  unfold AllDeclared
  rw [forall_declared_iff]
  apply and_congr_left
  intro _
  have unnamed : ∀ name, Draft.empty.names.find? name = none := fun _ => rfl
  simp only [unnamed, and_true]

theorem nodup_of_allDeclared {declarations : List Declaration}
    (complete : AllDeclared declarations) : declarations.Nodup :=
  List.Nodup.of_map _ ((allDeclared_iff declarations).mp complete).2

theorem number_of_ending {steps : List Step} (lasts : steps.length < 2 ^ 32) {index : Nat}
    {ending : TypeId × Ending} (given : (Draft.empty.run steps).1[index]? = some ending) :
    ending.1.number.toNat = index := by
  have numbers := congrArg (·[index]?) (numbers_run Draft.empty steps (lasts_empty lasts))
  have within : index < steps.length := by
    rw [← length_run Draft.empty steps]
    exact (List.getElem?_eq_some_iff.mp given).1
  rw [List.getElem?_map, given, Option.map_some, List.getElem?_range' within] at numbers
  have same := Option.some.inj numbers
  change ending.1.number.toNat = 0 + 1 * index at same
  omega

section Declared

variable {declarations : List Declaration} (lasts : declarations.length < 2 ^ 32)
  (complete : AllDeclared declarations)

include lasts complete

theorem declares_iff (declaration : Declaration) (id : TypeId) :
    Draft.empty.Declares (declarations.map .declare) declaration id ↔
      declarations[id.number.toNat]? = some declaration := by
  have lastsSteps : (declarations.map Step.declare).length < 2 ^ 32 := by
    rwa [List.length_map]
  unfold Declares history
  constructor
  · intro member
    obtain ⟨index, found⟩ := List.mem_iff_getElem?.mp member
    obtain ⟨atStep, atEnding⟩ := List.getElem?_zip_eq_some.mp found
    rw [number_of_ending lastsSteps atEnding]
    rw [List.getElem?_map] at atStep
    obtain ⟨other, found, same⟩ := Option.map_eq_some_iff.mp atStep
    rw [found, Step.declare.inj same]
  · intro found
    have within : id.number.toNat < (Draft.empty.run (declarations.map .declare)).1.length := by
      rw [length_run, List.length_map]
      exact (List.getElem?_eq_some_iff.mp found).1
    have atEnding := List.getElem?_eq_getElem within
    have ownNumber := number_of_ending lastsSteps atEnding
    have succeeds := complete _ (List.getElem_mem within)
    have ending : (Draft.empty.run (declarations.map .declare)).1[id.number.toNat] =
        (id, Ending.declared) := by
      apply Prod.ext
      · exact congrArg TypeId.mk (UInt32.toNat_inj.mp ownNumber)
      · exact succeeds
    apply List.mem_iff_getElem?.mpr
    refine ⟨id.number.toNat, List.getElem?_zip_eq_some.mpr ⟨?_, ?_⟩⟩
    · rw [List.getElem?_map, found, Option.map_some]
    · rw [atEnding, ending]

theorem find?_definitions (id : TypeId) :
    (Draft.empty.run (declarations.map .declare)).2.definitions.find? id =
      declarations[id.number.toNat]?.map (·.toDefinition id) := by
  have lastsSteps : (declarations.map Step.declare).length < 2 ^ 32 := by
    rwa [List.length_map]
  apply Option.ext
  intro definition
  rw [find?_definitions_iff lastsSteps, Option.map_eq_some_iff]
  simp only [declares_iff lasts complete, eq_comm]

end Declared

end Draft

namespace Declaration

/-- The number by which the second list has what the first one has under a number. What is
declared by neither keeps its number. -/
def renumbering (before after : List Declaration) (id : TypeId) : TypeId :=
  match before[id.number.toNat]? with
  | some declaration => ⟨UInt32.ofNat (after.idxOf declaration)⟩
  | none => id

section Reordered

variable {before after : List Declaration} (order : after.Perm before)
  (lasts : before.length < 2 ^ 32)

include order lasts

theorem getElem?_renumbering (id : TypeId) :
    after[(renumbering before after id).number.toNat]? = before[id.number.toNat]? := by
  unfold renumbering
  cases found : before[id.number.toNat]? with
  | some declaration =>
      have member := order.mem_iff.mpr (List.mem_of_getElem? found)
      have within := List.idxOf_lt_length_of_mem member
      have fits : after.idxOf declaration < 2 ^ 32 := by
        rw [← order.length_eq] at lasts
        exact within.trans lasts
      dsimp only
      rw [UInt32.toNat_ofNat_of_lt' fits, List.getElem?_eq_getElem within, List.getElem_idxOf]
  | none =>
      dsimp only
      rw [List.getElem?_eq_none_iff] at found ⊢
      exact order.length_eq ▸ found

theorem renumbering_renumbering (distinct : before.Nodup) (id : TypeId) :
    renumbering after before (renumbering before after id) = id := by
  have same := getElem?_renumbering order lasts id
  cases found : before[id.number.toNat]? with
  | some declaration =>
      obtain ⟨within, here⟩ := List.getElem?_eq_some_iff.mp found
      have place : before.idxOf declaration = id.number.toNat := by
        rw [← here]
        exact distinct.idxOf_getElem _ within
      rw [found] at same
      unfold renumbering at same ⊢
      rw [same]
      dsimp only
      rw [place, UInt32.ofNat_toNat]
  | none =>
      have unchanged : renumbering before after id = id := by
        unfold renumbering
        rw [found]
      rw [unchanged, found] at same
      rw [unchanged]
      unfold renumbering
      rw [same]

end Reordered

end Declaration

/-! ### Drafts under other numbers -/

theorem Definition.signature?_renumbered (number : TypeId → TypeId) (definition : Definition) :
    (definition.renumbered number).signature? =
      definition.signature?.map fun signature =>
        (signature.1.renumbered number, signature.2.renumbered number) := by
  unfold signature?
  rw [entryPoint?_renumbered, Option.map_map, Option.map_map]
  rfl

namespace Draft

structure Renumbers (number : TypeId → TypeId) (draft other : Draft) : Prop where
  bijective : Function.Bijective number
  definitions : ∀ id,
    other.definitions.find? (number id) =
      (draft.definitions.find? id).map (·.renumbered number)
  undeclared : ∀ id, draft.definitions.find? id = none → number id = id

theorem Coherent.exists_close_eq_ok_iff {draft : Draft} (coherent : draft.Coherent) :
    (∃ catalog, draft.close = .ok catalog) ↔
      ∀ id definition, draft.definitions.find? id = some definition →
        definition.firstUnknown? draft.knows = none := by
  rw [close_eq_closeVisiting, exists_closeVisiting_eq_ok_iff]
  simp only [coherent.mem_values_iff, forall_exists_index]
  exact forall_comm

namespace Renumbers

variable {number : TypeId → TypeId} {draft other : Draft}

theorem close_iff (renumbers : Renumbers number draft other) (coherent : draft.Coherent)
    (otherCoherent : other.Coherent) :
    (∃ catalog, draft.close = .ok catalog) ↔ ∃ catalog, other.close = .ok catalog := by
  have known : ∀ id, other.knows (number id) = draft.knows id := by
    intro id
    unfold knows Table.contains
    rw [renumbers.definitions, Option.isSome_map]
  rw [coherent.exists_close_eq_ok_iff, otherCoherent.exists_close_eq_ok_iff]
  refine Iff.trans ?_ renumbers.bijective.surjective.forall.symm
  apply forall_congr'
  intro id
  simp only [renumbers.definitions, Option.map_eq_some_iff, forall_exists_index, and_imp,
    forall_apply_eq_imp_iff₂, Definition.firstUnknown?_renumbered number _ known,
    Option.map_eq_none_iff]

theorem mem_mappersBetween_iff {catalog others : Catalog} (built : catalog.IsBuilt)
    (othersBuilt : others.IsBuilt) (bijective : Function.Bijective number)
    (definitions : ∀ id, others.definition? (number id) =
      (catalog.definition? id).map (·.renumbered number)) (source target : Ty)
    (mapper : Definition) :
    mapper ∈ others.mappersBetween (source.renumbered number) (target.renumbered number) ↔
      mapper ∈ (catalog.mappersBetween source target).map (·.renumbered number) := by
  have sameSignature : ∀ definition : Definition,
      (definition.renumbered number).signature? =
          some (source.renumbered number, target.renumbered number) ↔
        definition.signature? = some (source, target) := by
    intro definition
    have injective := bijective.injective
    rw [Definition.signature?_renumbered, Option.map_eq_some_iff]
    constructor
    · intro both
      obtain ⟨⟨first, second⟩, signature, same⟩ := both
      obtain ⟨sameFirst, sameSecond⟩ : first.renumbered number = source.renumbered number ∧
        second.renumbered number = target.renumbered number := Prod.mk.inj same
      rw [signature, Ty.renumbered_injective injective sameFirst,
        Ty.renumbered_injective injective sameSecond]
    · intro signature
      exact ⟨_, signature, rfl⟩
  rw [othersBuilt.mem_mappersBetween_iff, List.mem_map, bijective.surjective.exists]
  simp only [definitions, built.mem_mappersBetween_iff, Option.map_eq_some_iff]
  constructor
  · intro listed
    obtain ⟨id, ⟨definition, found, rfl⟩, signature⟩ := listed
    exact ⟨definition, ⟨id, found, (sameSignature definition).mp signature⟩, rfl⟩
  · intro listed
    obtain ⟨definition, ⟨id, found, signature⟩, rfl⟩ := listed
    exact ⟨id, ⟨definition, found, rfl⟩, (sameSignature definition).mpr signature⟩

/-- The catalogs that both drafts close to answer the same questions alike. -/
theorem lookup (renumbers : Renumbers number draft other) {catalog others : Catalog}
    (built : catalog.IsBuilt) (othersBuilt : others.IsBuilt) (closed : draft.close = .ok catalog)
    (othersClosed : other.close = .ok others) :
    TypeLookup.Renumbers number catalog.lookup others.lookup := by
  have sameDefinition : ∀ id, catalog.definition? id = draft.definitions.find? id := by
    intro id
    rw [close_eq_ok closed]
    rfl
  have definitions : ∀ id, others.definition? (number id) =
      (catalog.definition? id).map (·.renumbered number) := by
    intro id
    rw [sameDefinition, ← renumbers.definitions, close_eq_ok othersClosed]
    rfl
  have injective := renumbers.bijective.injective
  constructor
  · exact injective
  · exact definitions
  · intro source target
    apply (List.perm_ext_iff_of_nodup (othersBuilt.nodup_mappersBetween _ _) ?_).mpr
    · exact mem_mappersBetween_iff built othersBuilt renumbers.bijective definitions source target
    · apply List.Nodup.map_on ?_ (built.nodup_mappersBetween source target)
      intro first atFirst second atSecond same
      obtain ⟨id, found, -⟩ := (built.mem_mappersBetween_iff _ _ _).mp atFirst
      obtain ⟨otherId, otherFound, -⟩ := (built.mem_mappersBetween_iff _ _ _).mp atSecond
      have sameId : first.id = second.id := injective (congrArg Definition.id same)
      rw [built.ownId found, built.ownId otherFound] at sameId
      rw [sameId, otherFound] at found
      exact (Option.some.inj found).symm
  · intro id undeclared
    exact renumbers.undeclared id ((sameDefinition id).symm.trans undeclared)

end Renumbers

section Reordered

variable {before after : List Declaration} (order : after.Perm before)

/-- The declarations of the second order, with the numbers of the first exchanged in them. -/
def reordered (before after : List Declaration) : List Declaration :=
  after.map (·.renumbered (Declaration.renumbering before after))

include order

theorem allDeclared_reordered (complete : AllDeclared before) :
    AllDeclared (reordered before after) := by
  obtain ⟨faultless, distinct⟩ := (allDeclared_iff before).mp complete
  have names : (reordered before after).map (·.name) = after.map (·.name) := by
    unfold reordered
    rw [List.map_map]
    rfl
  rw [allDeclared_iff, names]
  constructor
  · intro declaration member
    obtain ⟨original, among, rfl⟩ := List.mem_map.mp member
    rw [Declaration.fault?_renumbered]
    exact faultless original (order.mem_iff.mp among)
  · exact (order.map _).nodup_iff.mpr distinct

theorem renumbers_reordered (lasts : before.length < 2 ^ 32) (complete : AllDeclared before) :
    Renumbers (Declaration.renumbering before after)
      (Draft.empty.run (before.map .declare)).2
      (Draft.empty.run ((reordered before after).map .declare)).2 := by
  have distinct := nodup_of_allDeclared complete
  have lastsAfter : after.length < 2 ^ 32 := order.length_eq ▸ lasts
  have lastsReordered : (reordered before after).length < 2 ^ 32 := by
    unfold reordered
    rwa [List.length_map]
  have back := Declaration.renumbering_renumbering order lasts distinct
  have forth := Declaration.renumbering_renumbering order.symm lastsAfter
    (order.nodup_iff.mpr distinct)
  constructor
  · exact Function.bijective_iff_has_inverse.mpr ⟨_, back, forth⟩
  · intro id
    rw [find?_definitions lasts complete,
      find?_definitions lastsReordered (allDeclared_reordered order complete)]
    unfold reordered
    rw [List.getElem?_map, Declaration.getElem?_renumbering order lasts, Option.map_map,
      Option.map_map]
    congr 1
    funext declaration
    exact declaration.toDefinition_renumbered _ id
  · intro id undeclared
    rw [find?_definitions lasts complete, Option.map_eq_none_iff] at undeclared
    unfold Declaration.renumbering
    rw [undeclared]

/-- Each declaration is given the number that its own is exchanged for. -/
theorem declares_reordered (lasts : before.length < 2 ^ 32) (complete : AllDeclared before)
    {declaration : Declaration} {id : TypeId}
    (declares : Draft.empty.Declares (before.map .declare) declaration id) :
    Draft.empty.Declares ((reordered before after).map .declare)
      (declaration.renumbered (Declaration.renumbering before after))
      (Declaration.renumbering before after id) := by
  have lastsReordered : (reordered before after).length < 2 ^ 32 := by
    unfold reordered
    rwa [List.length_map, order.length_eq]
  rw [declares_iff lasts complete] at declares
  rw [declares_iff lastsReordered (allDeclared_reordered order complete)]
  unfold reordered
  rw [List.getElem?_map, Declaration.getElem?_renumbering order lasts, declares,
    Option.map_some]

end Reordered

end Draft

end MappingPlan
