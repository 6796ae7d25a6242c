/-
Closing a draft. It succeeds exactly if every number that occurs in what is stored is
itself stored under, and it is to no purpose in which order the definitions are visited:
the order can only decide which of several unknown numbers is reported.
-/

import MappingPlan.Proofs.Catalog.History

set_option autoImplicit false

namespace MappingPlan

inductive Ty.Occurs (id : TypeId) : Ty → Prop where
  | named : Occurs id (.named id)
  | list {element : Ty} : Occurs id element → Occurs id (.list element)
  | nullable {inner : Ty} : Occurs id inner → Occurs id (.nullable inner)

theorem Ty.mentioned?_eq_some_iff (type : Ty) (id : TypeId) :
    type.mentioned? = some id ↔ type.Occurs id := by
  induction type with
  | named other =>
      constructor
      · intro same
        obtain rfl := Option.some.inj same
        exact .named
      · intro occurs
        cases occurs
        rfl
  | list element ih =>
      constructor
      · intro within
        exact .list (ih.mp within)
      · intro occurs
        cases occurs with
        | list within => exact ih.mpr within
  | nullable inner ih =>
      constructor
      · intro within
        exact .nullable (ih.mp within)
      · intro occurs
        cases occurs with
        | nullable within => exact ih.mpr within
  | _ => constructor <;> intro impossible <;> cases impossible

namespace Definition

inductive Uses (definition : Definition) : Ty → Prop where
  | parameter {constructor : Constructor} {parameter : Parameter} :
      constructor ∈ definition.constructors → parameter ∈ constructor.parameters →
      Uses definition parameter.type
  | property {property : Property} :
      property ∈ definition.properties → Uses definition property.type
  | source {source target : Ty} {entryPoints : List EntryPoint} :
      definition.body = .mapperBody source target entryPoints → Uses definition source
  | target {source target : Ty} {entryPoints : List EntryPoint} :
      definition.body = .mapperBody source target entryPoints → Uses definition target
  | input {point : EntryPoint} :
      point ∈ definition.entryPoints → Uses definition point.parameter
  | result {point : EntryPoint} :
      point ∈ definition.entryPoints → Uses definition point.result

variable {definition : Definition}

def ends (definition : Definition) : List Ty :=
  match definition.body with
  | .mapperBody source target _ => [source, target]
  | _ => []

theorem mentions_eq (definition : Definition) :
    definition.mentions =
      definition.constructors.flatMap (fun constructor => constructor.parameters.map (·.type)) ++
        (definition.properties.map (·.type) ++ (definition.ends ++
          definition.entryPoints.flatMap fun point => [point.parameter, point.result])) := by
  unfold mentions constructors properties ends entryPoints
  cases definition.body with
  | classBody constructors properties =>
      simp only [List.flatMap_nil, List.append_nil]
  | enumBody entries => rfl
  | mapperBody source target entryPoints => rfl

theorem mem_ends_iff (type : Ty) :
    type ∈ definition.ends ↔ ∃ source target entryPoints,
      definition.body = .mapperBody source target entryPoints ∧
        (type = source ∨ type = target) := by
  unfold ends
  cases definition.body with
  | mapperBody source target entryPoints =>
      rw [List.mem_pair]
      constructor
      · intro either
        exact ⟨source, target, entryPoints, rfl, either⟩
      · intro same
        obtain ⟨_, _, _, same, either⟩ := same
        obtain ⟨rfl, rfl, -⟩ := DefinitionBody.mapperBody.inj same
        exact either
  | _ => simp only [List.not_mem_nil, reduceCtorEq, false_and, exists_false]

theorem mem_mentions_iff (type : Ty) : type ∈ definition.mentions ↔ definition.Uses type := by
  rw [mentions_eq]
  constructor
  · intro member
    rcases List.mem_append.mp member with ofParameter | member
    · obtain ⟨constructor, written, found⟩ := List.mem_flatMap.mp ofParameter
      obtain ⟨parameter, among, rfl⟩ := List.mem_map.mp found
      exact .parameter written among
    · rcases List.mem_append.mp member with ofProperty | member
      · obtain ⟨property, among, rfl⟩ := List.mem_map.mp ofProperty
        exact .property among
      · rcases List.mem_append.mp member with ofEnds | ofPoint
        · obtain ⟨_, _, _, body, rfl | rfl⟩ := (mem_ends_iff type).mp ofEnds
          · exact .source body
          · exact .target body
        · obtain ⟨point, among, found⟩ := List.mem_flatMap.mp ofPoint
          rcases List.mem_pair.mp found with rfl | rfl
          · exact .input among
          · exact .result among
  · intro uses
    simp only [List.mem_append]
    cases uses with
    | parameter written among =>
        exact Or.inl (List.mem_flatMap.mpr ⟨_, written, List.mem_map_of_mem among⟩)
    | property among => exact Or.inr (Or.inl (List.mem_map_of_mem among))
    | source body =>
        exact Or.inr (Or.inr (Or.inl ((mem_ends_iff type).mpr ⟨_, _, _, body, Or.inl rfl⟩)))
    | target body =>
        exact Or.inr (Or.inr (Or.inl ((mem_ends_iff type).mpr ⟨_, _, _, body, Or.inr rfl⟩)))
    | input among =>
        exact Or.inr (Or.inr (Or.inr
          (List.mem_flatMap.mpr ⟨_, among, List.mem_pair.mpr (Or.inl rfl)⟩)))
    | result among =>
        exact Or.inr (Or.inr (Or.inr
          (List.mem_flatMap.mpr ⟨_, among, List.mem_pair.mpr (Or.inr rfl)⟩)))

/-- The number occurs in a type of the definition and is unknown, and in the types before
this one nothing is. -/
def FirstUnknown (definition : Definition) (known : TypeId → Bool) (id : TypeId) : Prop :=
  ∃ before type after, definition.mentions = before ++ type :: after ∧ type.Occurs id ∧
    known id = false ∧ ∀ earlier ∈ before, ∀ other, earlier.Occurs other → known other = true

theorem firstUnknown_of_firstUnknown? {known : TypeId → Bool} {id : TypeId}
    (found : definition.firstUnknown? known = some id) : definition.FirstUnknown known id := by
  obtain ⟨unknown, numbers, later, split, knownBefore⟩ := List.find?_eq_some_iff_append.mp found
  obtain ⟨before, rest, sameMentions, ofBefore, ofRest⟩ := List.filterMap_eq_append_iff.mp split
  obtain ⟨skipped, type, after, rfl, none, mentions, -⟩ := List.filterMap_eq_cons_iff.mp ofRest
  refine ⟨before ++ skipped, type, after, ?_, ?_, ?_, ?_⟩
  · rw [sameMentions, List.append_assoc]
  · exact (type.mentioned?_eq_some_iff id).mp mentions
  · simpa only [Bool.not_eq_true'] using unknown
  · intro earlier member other occurs
    have mentioned := (earlier.mentioned?_eq_some_iff other).mpr occurs
    rcases List.mem_append.mp member with written | nothing
    · have among : other ∈ numbers := by
        rw [← ofBefore]
        exact List.mem_filterMap.mpr ⟨earlier, written, mentioned⟩
      simpa only [Bool.not_not] using knownBefore other among
    · rw [none earlier nothing] at mentioned
      cases mentioned

theorem firstUnknown?_eq_none_iff (known : TypeId → Bool) :
    definition.firstUnknown? known = none ↔
      ∀ type, definition.Uses type → ∀ id, type.Occurs id → known id = true := by
  unfold firstUnknown?
  simp only [List.find?_eq_none, List.mem_filterMap, Ty.mentioned?_eq_some_iff, mem_mentions_iff,
    Bool.not_eq_true', Bool.not_eq_false]
  constructor
  · intro allKnown type uses id occurs
    exact allKnown id ⟨type, uses, occurs⟩
  · intro allKnown id mentioned
    obtain ⟨type, uses, occurs⟩ := mentioned
    exact allKnown type uses id occurs

end Definition

namespace Draft

variable {draft : Draft} {visited : List Definition}

/-! ### Visiting the definitions in any order -/

/-- Close the draft with its definitions visited in the order given. -/
def closeVisiting (draft : Draft) (visited : List Definition) :
    Except DeclarationError Catalog :=
  match dangling? draft.knows visited with
  | some error => .error error
  | none =>
      .ok ⟨draft.definitions, draft.names, .ofDefinitions draft.definitions.values⟩

theorem close_eq_closeVisiting (draft : Draft) :
    draft.close = draft.closeVisiting draft.definitions.values := rfl

/-- Every number that occurs in a stored definition is stored under. -/
def ReferenceClosed (draft : Draft) : Prop :=
  ∀ id definition, draft.definitions.find? id = some definition →
    ∀ type, definition.Uses type → ∀ reference, type.Occurs reference →
      ∃ declared, draft.definitions.find? reference = some declared

theorem knows_iff (id : TypeId) :
    draft.knows id = true ↔ ∃ definition, draft.definitions.find? id = some definition :=
  Option.isSome_iff_exists

theorem Coherent.mem_values_iff (coherent : draft.Coherent) (definition : Definition) :
    definition ∈ draft.definitions.values ↔
      ∃ id, draft.definitions.find? id = some definition := by
  constructor
  · intro member
    obtain ⟨⟨id, _⟩, stored, rfl⟩ := List.mem_map.mp member
    exact ⟨id, Table.findEntry_of_mem coherent.distinct stored⟩
  · intro found
    obtain ⟨id, stored⟩ := found
    exact List.mem_map_of_mem (Table.mem_of_findEntry stored)

theorem closeVisiting_eq_error_iff (error : DeclarationError) :
    draft.closeVisiting visited = .error error ↔
      dangling? draft.knows visited = some error := by
  unfold closeVisiting
  cases dangling? draft.knows visited with
  | some found => simp only [Except.error.injEq, Option.some.injEq]
  | none => simp only [reduceCtorEq]

theorem exists_closeVisiting_eq_ok_iff :
    (∃ catalog, draft.closeVisiting visited = .ok catalog) ↔
      ∀ definition ∈ visited, definition.firstUnknown? draft.knows = none := by
  have noneDangling : dangling? draft.knows visited = none ↔
      ∀ definition ∈ visited, definition.firstUnknown? draft.knows = none := by
    unfold dangling?
    simp only [List.findSome?_eq_none_iff, Option.map_eq_none_iff]
  rw [← noneDangling]
  unfold closeVisiting
  cases dangling? draft.knows visited with
  | some found => simp only [reduceCtorEq, exists_false]
  | none => simp only [Except.ok.injEq, exists_eq']

section Visiting

variable (coherent : draft.Coherent) (order : visited.Perm draft.definitions.values)

include coherent order

theorem closeVisiting_isOk_iff :
    (∃ catalog, draft.closeVisiting visited = .ok catalog) ↔ draft.ReferenceClosed := by
  rw [exists_closeVisiting_eq_ok_iff]
  simp only [order.mem_iff, coherent.mem_values_iff, Definition.firstUnknown?_eq_none_iff,
    knows_iff, forall_exists_index]
  exact forall_comm

/-- What is reported is a stored definition and the first unknown number in it. -/
theorem exists_firstUnknown_of_closeVisiting {error : DeclarationError}
    (failed : draft.closeVisiting visited = .error error) :
    ∃ id definition reference, draft.definitions.find? id = some definition ∧
      error = .unknownReference definition.name reference ∧
      definition.FirstUnknown draft.knows reference := by
  have dangling := (closeVisiting_eq_error_iff error).mp failed
  obtain ⟨definition, member, reported⟩ := List.exists_of_findSome?_eq_some dangling
  obtain ⟨reference, unknown, rfl⟩ := Option.map_eq_some_iff.mp reported
  obtain ⟨id, stored⟩ := (coherent.mem_values_iff definition).mp (order.mem_iff.mp member)
  exact ⟨id, definition, reference, stored, rfl,
    Definition.firstUnknown_of_firstUnknown? unknown⟩

end Visiting

theorem closeVisiting_eq_ok {catalog : Catalog}
    (closed : draft.closeVisiting visited = .ok catalog) :
    catalog.definitions = draft.definitions := by
  unfold closeVisiting at closed
  split at closed
  · cases closed
  · rw [← Except.ok.inj closed]

end Draft

namespace Definition

variable {definition : Definition}

theorem FirstUnknown.exists_uses {known : TypeId → Bool} {id : TypeId}
    (first : definition.FirstUnknown known id) :
    ∃ type, definition.Uses type ∧ type.Occurs id := by
  obtain ⟨before, type, after, split, occurs, -, -⟩ := first
  have member : type ∈ definition.mentions := by
    rw [split]
    exact List.mem_append_right _ List.mem_cons_self
  exact ⟨type, (mem_mentions_iff type).mp member, occurs⟩

theorem FirstUnknown.unknown {known : TypeId → Bool} {id : TypeId}
    (first : definition.FirstUnknown known id) : known id = false := by
  obtain ⟨_, _, _, -, -, unknown, -⟩ := first
  exact unknown

end Definition

namespace Draft

/-- A draft closes exactly if every number that occurs at any depth in what is stored is
stored under, in whichever order the definitions are visited. Otherwise a stored
definition is reported with the first unknown number in it. In a catalog every number that
occurs leads to a definition. A number given to a declaration that failed or was abandoned
is unknown for good, as long as the numbers last. -/
theorem closing_of_run (steps : List Step) {visited : List Definition}
    (order : visited.Perm (Draft.empty.run steps).2.definitions.values) :
    let draft := (Draft.empty.run steps).2
    draft.close = draft.closeVisiting draft.definitions.values ∧
      ((∃ catalog, draft.closeVisiting visited = .ok catalog) ↔ draft.ReferenceClosed) ∧
      (∀ error, draft.closeVisiting visited = .error error →
        ∃ id definition reference, draft.definitions.find? id = some definition ∧
          error = .unknownReference definition.name reference ∧
          (∃ type, definition.Uses type ∧ type.Occurs reference) ∧
          draft.definitions.find? reference = none ∧
          definition.FirstUnknown draft.knows reference) ∧
      (∀ catalog, draft.closeVisiting visited = .ok catalog →
        ∀ id definition, catalog.definition? id = some definition →
          ∀ type, definition.Uses type → ∀ reference, type.Occurs reference →
            ∃ declared, catalog.lookup.definition? reference = some declared) ∧
      (steps.length < 2 ^ 32 →
        ∀ step id ending, (step, id, ending) ∈ Draft.empty.history steps → ending ≠ .declared →
          ∀ owner definition, draft.definitions.find? owner = some definition →
            ∀ type, definition.Uses type → type.Occurs id →
              ∃ error, draft.closeVisiting visited = .error error) := by
  intro draft
  have coherent : draft.Coherent := run_coherent coherent_empty steps
  have closes := closeVisiting_isOk_iff coherent order
  refine ⟨close_eq_closeVisiting draft, closes, ?_, ?_, ?_⟩
  · intro error failed
    obtain ⟨id, definition, reference, stored, reported, first⟩ :=
      exists_firstUnknown_of_closeVisiting coherent order failed
    have notStored : draft.definitions.find? reference = none :=
      Option.isNone_iff_eq_none.mp (Option.isSome_eq_false_iff.mp first.unknown)
    exact ⟨id, definition, reference, stored, reported, first.exists_uses, notStored, first⟩
  · intro catalog closed id definition stored type uses reference occurs
    unfold Catalog.definition? at stored
    unfold Catalog.lookup Catalog.definition?
    rw [closeVisiting_eq_ok closed] at stored ⊢
    exact closes.mp ⟨catalog, closed⟩ id definition stored type uses reference occurs
  · intro lasts step id ending taken failed owner definition stored type uses occurs
    have unknown := find?_eq_none_of_history lasts taken failed
    cases closed : draft.closeVisiting visited with
    | error error => exact ⟨error, rfl⟩
    | ok catalog =>
        obtain ⟨declared, known⟩ :=
          closes.mp ⟨catalog, closed⟩ owner definition stored type uses id occurs
        rw [unknown] at known
        cases known

def danglingSteps : List Step :=
  [.abandon, .declare ⟨"Holder", .classBody [("inner", .list (.named ⟨0⟩))] []⟩]

/-- What is used is found in the one catalog; the other draft, in which what is used was
abandoned, does not close. -/
theorem danglingSteps_closing :
    (∃ catalog, (Draft.empty.run patchySteps).2.closeVisiting
        (Draft.empty.run patchySteps).2.definitions.values.reverse = .ok catalog ∧
      ∃ declared, catalog.lookup.definition? ⟨1⟩ = some declared) ∧
      ∃ error, (Draft.empty.run danglingSteps).2.closeVisiting
          (Draft.empty.run danglingSteps).2.definitions.values = .error error ∧
        ∃ id definition reference,
          (Draft.empty.run danglingSteps).2.definitions.find? id = some definition ∧
            error = .unknownReference definition.name reference := by
  obtain ⟨-, -, -, answered, -⟩ := closing_of_run patchySteps (List.reverse_perm _)
  obtain ⟨-, -, reported, -, abandoned⟩ := closing_of_run danglingSteps (List.Perm.refl _)
  have closed : (Draft.empty.run patchySteps).2.closeVisiting
      (Draft.empty.run patchySteps).2.definitions.values.reverse = .ok _ := rfl
  have post : (Draft.empty.run patchySteps).2.definitions.find? ⟨4⟩ = some _ := rfl
  have lamp := answered _ closed ⟨4⟩ _ post _ (.property List.mem_cons_self) ⟨1⟩ (.nullable .named)
  have holder : (Draft.empty.run danglingSteps).2.definitions.find? ⟨1⟩ = some _ := rfl
  obtain ⟨error, failed⟩ := abandoned (by decide) .abandon ⟨0⟩ .abandoned List.mem_cons_self nofun
    ⟨1⟩ _ holder _ (.property List.mem_cons_self) (.list .named)
  obtain ⟨id, definition, reference, stored, same, -⟩ := reported error failed
  exact ⟨⟨_, closed, lamp⟩, error, failed, id, definition, reference, stored, same⟩

end Draft

end MappingPlan
