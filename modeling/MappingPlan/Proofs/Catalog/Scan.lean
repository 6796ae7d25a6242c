/-
The mappers between two types against a search of the whole catalog. The index answers at
once what going through all definitions in ascending order of numbers finds and, as long
as the numbers last, what going through the declarations in their order finds.
-/

import Mathlib.Data.List.Sort
import MappingPlan.Proofs.Catalog.History
import MappingPlan.Proofs.Catalog.Index
import MappingPlan.Proofs.Parts

set_option autoImplicit false

namespace MappingPlan

namespace Definition

variable {definition : Definition}

def maps (definition : Definition) (source target : Ty) : Bool :=
  definition.entryPoints.contains (.single source target)

/-- No kind of entry point is there twice, so a search finds any that is there. -/
theorem InOrder.entryPoint?_eq_some_iff (inOrder : definition.InOrder) (kind : EntryPointKind)
    (point : EntryPoint) :
    definition.entryPoint? kind = some point ↔
      point ∈ definition.entryPoints ∧ point.kind = kind := by
  unfold entryPoint?
  constructor
  · intro found
    have sameKind := List.find?_some found
    exact ⟨List.mem_of_find?_eq_some found, of_decide_eq_true sameKind⟩
  · intro both
    obtain ⟨member, sameKind⟩ := both
    refine find?_of_unique member (decide_eq_true sameKind) ?_
    intro other otherMember alsoKind
    exact List.inj_on_of_nodup_map inOrder.distinctEntryPoints otherMember member
      ((of_decide_eq_true alsoKind).trans sameKind.symm)

theorem InOrder.signature?_eq_some_iff (inOrder : definition.InOrder) (source target : Ty) :
    definition.signature? = some (source, target) ↔ definition.maps source target = true := by
  unfold signature? maps
  rw [Option.map_eq_some_iff, List.contains_iff_mem]
  simp only [inOrder.entryPoint?_eq_some_iff, Prod.mk.injEq]
  constructor
  · intro signed
    obtain ⟨⟨_, _, _⟩, ⟨member, rfl⟩, rfl, rfl⟩ := signed
    exact member
  · intro member
    exact ⟨_, ⟨member, rfl⟩, rfl, rfl⟩

end Definition

/-- In which order definitions are entered makes no difference to the index. -/
theorem SignatureIndex.mappers_ofDefinitions_of_perm {visited definitions : List Definition}
    (order : visited.Perm definitions) (distinctIds : (definitions.map (·.id)).Nodup)
    (signature : Signature) :
    (ofDefinitions visited).mappers signature = (ofDefinitions definitions).mappers signature := by
  have alsoDistinct := (order.map (·.id)).nodup_iff.mpr distinctIds
  refine (ascending_mappers_ofDefinitions alsoDistinct signature).eq_of_mem_iff
    (ascending_mappers_ofDefinitions distinctIds signature) ?_
  intro id
  simp only [mem_mappers_ofDefinitions, order.mem_iff]

namespace Draft

variable {draft : Draft} {steps : List Step}

def stored? : Step × TypeId × Ending → Option Definition
  | (.declare declaration, id, .declared) => some (declaration.toDefinition id)
  | _ => none

/-- What the declarations of a run that succeed become, in their order. -/
def declared (draft : Draft) (steps : List Step) : List Definition :=
  (draft.history steps).filterMap stored?

theorem stored?_eq_some_iff (entry : Step × TypeId × Ending) (definition : Definition) :
    stored? entry = some definition ↔
      ∃ declaration id, entry = (.declare declaration, id, .declared) ∧
        definition = declaration.toDefinition id := by
  unfold stored?
  split
  next declaration id =>
    constructor
    · intro same
      exact ⟨declaration, id, rfl, (Option.some.inj same).symm⟩
    · intro same
      obtain ⟨_, _, sameEntry, rfl⟩ := same
      obtain ⟨rfl, rfl, -⟩ := by simpa using sameEntry
      rfl
  next other =>
    refine iff_of_false nofun ?_
    intro same
    obtain ⟨declaration, id, sameEntry, -⟩ := same
    exact other declaration id sameEntry

theorem mem_declared_iff (definition : Definition) :
    definition ∈ draft.declared steps ↔
      ∃ declaration id, draft.Declares steps declaration id ∧
        definition = declaration.toDefinition id := by
  unfold declared Declares
  simp only [List.mem_filterMap, stored?_eq_some_iff]
  constructor
  · intro found
    obtain ⟨_, member, declaration, id, rfl, becomes⟩ := found
    exact ⟨declaration, id, member, becomes⟩
  · intro found
    obtain ⟨declaration, id, member, becomes⟩ := found
    exact ⟨_, member, declaration, id, rfl, becomes⟩

theorem ascending_declared (lasts : draft.next.toNat + steps.length < 2 ^ 32) :
    (draft.declared steps).Pairwise Definition.Precedes := by
  have numbers : ((draft.history steps).map (·.2.1.number.toNat)).Pairwise (· < ·) := by
    have same : (draft.history steps).map (·.2.1.number.toNat) =
        (draft.run steps).1.map (·.1.number.toNat) := by
      have ids := congrArg (List.map (·.number.toNat)) (map_id_history draft steps)
      rw [List.map_map, List.map_map] at ids
      exact ids
    rw [same, numbers_run draft steps lasts]
    exact List.pairwise_lt_range'
  rw [List.pairwise_map] at numbers
  refine numbers.filterMap stored? ?_
  intro entry other before definition found otherDefinition otherFound
  obtain ⟨declaration, id, rfl, rfl⟩ := (stored?_eq_some_iff entry definition).mp found
  obtain ⟨later, laterId, rfl, rfl⟩ :=
    (stored?_eq_some_iff other otherDefinition).mp otherFound
  exact before

end Draft

/-! ### Going through the catalog -/

namespace Catalog

variable {catalog : Catalog}

def ascending (catalog : Catalog) : List Definition :=
  catalog.definitions.values.mergeSort (·.id.number ≤ ·.id.number)

/-- Every definition with an entry point for one value from the one type to the other. -/
def scan (catalog : Catalog) (source target : Ty) : List Definition :=
  catalog.ascending.filter (·.maps source target)

theorem IsBuilt.mem_values_iff (built : catalog.IsBuilt) (definition : Definition) :
    definition ∈ catalog.definitions.values ↔
      ∃ id, catalog.definition? id = some definition := by
  simp only [built.definition?_eq_some_iff, Table.values, List.mem_map, Prod.exists,
    exists_eq_right]

theorem IsBuilt.ascending_pairwise (built : catalog.IsBuilt) :
    catalog.ascending.Pairwise Definition.Precedes := by
  have sorted : catalog.ascending.Pairwise fun definition other =>
      decide (definition.id.number ≤ other.id.number) = true := by
    apply List.pairwise_mergeSort
    · intro first second third
      simp only [decide_eq_true_eq]
      exact UInt32.le_trans
    · intro first second
      simp only [Bool.or_eq_true, decide_eq_true_eq]
      exact UInt32.le_total _ _
  have distinct : (catalog.ascending.map (·.id)).Nodup :=
    ((List.mergeSort_perm _ _).map _).nodup_iff.mpr built.nodup_ids
  refine (sorted.and (List.pairwise_map.mp distinct)).imp ?_
  intro definition other both
  obtain ⟨atMost, differ⟩ := both
  exact UInt32.lt_of_le_of_ne (of_decide_eq_true atMost)
    fun same => differ (congrArg TypeId.mk same)

theorem IsBuilt.mem_mappersBetween_iff_maps (built : catalog.IsBuilt) (source target : Ty)
    (definition : Definition) :
    definition ∈ catalog.mappersBetween source target ↔
      (∃ id, catalog.definition? id = some definition) ∧
        definition.maps source target = true := by
  rw [built.mem_mappersBetween_iff]
  constructor
  · intro listed
    obtain ⟨id, found, signed⟩ := listed
    exact ⟨⟨id, found⟩, ((built.inOrder found).signature?_eq_some_iff source target).mp signed⟩
  · intro both
    obtain ⟨⟨id, found⟩, maps⟩ := both
    exact ⟨id, found, ((built.inOrder found).signature?_eq_some_iff source target).mpr maps⟩

theorem IsBuilt.mappersBetween_eq_scan (built : catalog.IsBuilt) (source target : Ty) :
    catalog.mappersBetween source target = catalog.scan source target := by
  refine (built.ascending_mappersBetween source target).eq_of_mem_iff
    (built.ascending_pairwise.filter _) ?_
  intro definition
  unfold scan ascending
  rw [built.mem_mappersBetween_iff_maps, List.mem_filter, (List.mergeSort_perm _ _).mem_iff,
    built.mem_values_iff]

/-- As long as the numbers last, the declarations are in ascending order themselves. -/
theorem mappersBetween_eq_filter_declared {steps : List Draft.Step}
    (closed : (Draft.empty.run steps).2.close = .ok catalog) (lasts : steps.length < 2 ^ 32)
    (source target : Ty) :
    catalog.mappersBetween source target =
      (Draft.empty.declared steps).filter (·.maps source target) := by
  have built : catalog.IsBuilt := ⟨steps, closed⟩
  have ascending := Draft.ascending_declared (Draft.lasts_empty lasts)
  refine (built.ascending_mappersBetween source target).eq_of_mem_iff (ascending.filter _) ?_
  intro definition
  rw [built.mem_mappersBetween_iff_maps, List.mem_filter, Draft.mem_declared_iff, exists_comm]
  apply and_congr_left'
  apply exists_congr
  intro id
  have stored := Draft.find?_definitions_iff lasts id definition
  unfold definition?
  rw [Draft.close_eq_ok closed]
  exact stored

theorem IsBuilt.mem_mappersBetween_iff_entryPoint? (built : catalog.IsBuilt) (source target : Ty)
    (definition : Definition) :
    definition ∈ catalog.mappersBetween source target ↔
      ∃ id, catalog.definition? id = some definition ∧ definition.isMapper = true ∧
        ∃ point, definition.entryPoint? .map = some point ∧
          point.parameter = source ∧ point.result = target := by
  rw [built.mem_mappersBetween_iff]
  apply exists_congr
  intro id
  apply and_congr_right
  intro _
  have signed : definition.signature? = some (source, target) ↔
      ∃ point, definition.entryPoint? .map = some point ∧
        point.parameter = source ∧ point.result = target := by
    unfold Definition.signature?
    rw [Option.map_eq_some_iff]
    simp only [Prod.mk.injEq]
  rw [← signed]
  exact (and_iff_right_of_imp Definition.isMapper_of_signature?).symm

/-- Whatever was declared, in whatever order and with whichever endings, the mappers between
two types are found by a scan of the catalog in ascending order of numbers, which is the
order of the declarations as long as the numbers last. They are the registered mappers with
an entry point for one value that has exactly these types, each once and under its own
number. In which order the definitions are entered into the index makes no difference. -/
theorem mappersBetween_of_run (steps : List Draft.Step)
    (closed : (Draft.empty.run steps).2.close = .ok catalog) (source target : Ty) :
    let listed := catalog.lookup.mappersBetween source target
    listed = catalog.scan source target ∧
      listed.Pairwise Definition.Precedes ∧
      (∀ definition, definition ∈ listed ↔
        ∃ id, catalog.lookup.definition? id = some definition ∧ definition.isMapper = true ∧
          ∃ point, definition.entryPoint? .map = some point ∧
            point.parameter = source ∧ point.result = target) ∧
      (∀ definition ∈ listed,
        catalog.lookup.definition? definition.id = some definition) ∧
      (∀ visited : List Definition, visited.Perm catalog.definitions.values →
        ∀ signature, (SignatureIndex.ofDefinitions visited).mappers signature =
          catalog.index.mappers signature) ∧
      (steps.length < 2 ^ 32 →
        listed = (Draft.empty.declared steps).filter (·.maps source target)) := by
  have built : catalog.IsBuilt := ⟨steps, closed⟩
  refine ⟨built.mappersBetween_eq_scan source target,
    built.ascending_mappersBetween source target,
    built.mem_mappersBetween_iff_entryPoint? source target, ?_, ?_, ?_⟩
  · intro definition member
    obtain ⟨⟨id, found⟩, -⟩ :=
      (built.mem_mappersBetween_iff_maps source target definition).mp member
    rw [built.ownId found]
    exact found
  · intro visited order signature
    rw [built.index_eq]
    exact SignatureIndex.mappers_ofDefinitions_of_perm order built.nodup_ids signature
  · intro lasts
    exact mappersBetween_eq_filter_declared closed lasts source target

/-- Mappers between an integer and a long one: one that is declared for texts, one of a name
that is taken, one for lists alone, and two more in the order in which they are declared. -/
def gaugeSteps : List Draft.Step :=
  [.declare ⟨"Loose", .mapperBody .string .string
      [⟨.map, .primitive .int, .primitive .long⟩]⟩,
    .abandon,
    .declare ⟨"Loose", .mapperBody (.primitive .int) (.primitive .long)
      [.single (.primitive .int) (.primitive .long)]⟩,
    .declare ⟨"Lists", .mapperBody (.primitive .int) (.primitive .long)
      [.elementwise (.primitive .int) (.primitive .long)]⟩,
    .declare ⟨"Gauge", .mapperBody (.primitive .int) (.primitive .long)
      [.elementwise (.primitive .int) (.primitive .long),
        .single (.primitive .int) (.primitive .long)]⟩]

/-- Two are found, under the numbers that they were given. -/
theorem gaugeSteps_mappersBetween :
    ∃ catalog, (Draft.empty.run gaugeSteps).2.close = .ok catalog ∧
      gaugeSteps.length < 2 ^ 32 ∧
      (catalog.lookup.mappersBetween (.primitive .int) (.primitive .long)).map (·.id) =
        [⟨0⟩, ⟨4⟩] := by
  have closed : (Draft.empty.run gaugeSteps).2.close = .ok _ := rfl
  have lasts : gaugeSteps.length < 2 ^ 32 := by decide
  obtain ⟨-, -, -, -, -, inOrder⟩ :=
    mappersBetween_of_run gaugeSteps closed (.primitive .int) (.primitive .long)
  refine ⟨_, closed, lasts, ?_⟩
  rw [inOrder lasts]
  decide

end Catalog

end MappingPlan
