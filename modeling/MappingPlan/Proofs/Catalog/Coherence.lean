/-
What holds of every catalog that declarations can build. A draft stores under each number one
definition, the one that a declaration without fault becomes under that number; no step of a
draft breaks this, and closing a draft keeps it. When a declaration is at fault is said
without the search for the fault, so that the parts of every definition are in order: the
constructors of a class are numbered by their places, at most one is primary and that one is
visible, and none repeats a parameter.
-/

import Mathlib.Data.List.Nodup
import MappingPlan.Catalog.Draft
import MappingPlan.Source

set_option autoImplicit false

namespace MappingPlan

namespace Table

variable {Key Value : Type} [DecidableEq Key]

theorem mem_of_findEntry {key : Key} {value : Value} {entries : List (Key × Value)}
    (found : findEntry key entries = some value) : (key, value) ∈ entries := by
  induction entries with
  | nil => cases found
  | cons entry rest ih =>
      rcases entry with ⟨known, old⟩
      unfold findEntry at found
      split at found
      next same =>
        obtain rfl := Option.some.inj found
        rw [same]
        exact List.mem_cons_self
      next => exact List.mem_cons_of_mem _ (ih found)

theorem findEntry_of_mem {key : Key} {value : Value} {entries : List (Key × Value)}
    (distinct : (entries.map Prod.fst).Nodup) (member : (key, value) ∈ entries) :
    findEntry key entries = some value := by
  induction entries with
  | nil => cases member
  | cons entry rest ih =>
      rcases entry with ⟨known, old⟩
      have headTail := List.nodup_cons.mp distinct
      unfold findEntry
      rcases List.mem_cons.mp member with same | later
      · obtain ⟨rfl, rfl⟩ := Prod.mk.inj same
        exact if_pos rfl
      · have different : key ≠ known := by
          intro same
          exact headTail.1 (List.mem_map.mpr ⟨(key, value), later, same⟩)
        rw [if_neg different]
        exact ih headTail.2 later

theorem mem_insertEntry {key : Key} {value : Value} {entries : List (Key × Value)}
    {entry : Key × Value} (member : entry ∈ insertEntry key value entries) :
    entry = (key, value) ∨ entry ∈ entries := by
  induction entries with
  | nil => exact Or.inl (List.mem_singleton.mp member)
  | cons head rest ih =>
      rcases head with ⟨known, old⟩
      unfold insertEntry at member
      split at member
      · rcases List.mem_cons.mp member with new | later
        · exact Or.inl new
        · exact Or.inr (List.mem_cons_of_mem _ later)
      · rcases List.mem_cons.mp member with same | later
        · exact Or.inr (same ▸ List.mem_cons_self)
        · rcases ih later with new | present
          · exact Or.inl new
          · exact Or.inr (List.mem_cons_of_mem _ present)

theorem insertEntry_distinct (key : Key) (value : Value) {entries : List (Key × Value)}
    (distinct : (entries.map Prod.fst).Nodup) :
    ((insertEntry key value entries).map Prod.fst).Nodup := by
  induction entries with
  | nil => exact List.nodup_singleton key
  | cons head rest ih =>
      rcases head with ⟨known, old⟩
      have headTail := List.nodup_cons.mp distinct
      unfold insertEntry
      split
      next same =>
        subst same
        exact distinct
      next different =>
        refine List.nodup_cons.mpr ⟨?_, ih headTail.2⟩
        intro repeated
        obtain ⟨entry, member, same⟩ := List.mem_map.mp repeated
        rcases mem_insertEntry member with new | present
        · exact different ((congrArg Prod.fst new).symm.trans same)
        · exact headTail.1 (same ▸ List.mem_map_of_mem present)

end Table

/-! ### Faults of declarations -/

namespace Declaration

/-- Something is said twice that may be said only once. -/
def Repeats (declaration : Declaration) : Prop :=
  match declaration.body with
  | .classBody properties constructors =>
      ¬ (properties.map (·.1)).Nodup ∨
        1 < constructors.countP (·.role = .primary) ∨
        ∃ outline ∈ constructors, ¬ (outline.parameters.map (·.name)).Nodup
  | .enumBody entries => ¬ entries.Nodup
  | .mapperBody _ _ entryPoints => ¬ (entryPoints.map (·.kind)).Nodup

end Declaration

theorem firstRepeat?_nil_eq_none_iff {α : Type} [DecidableEq α] (members : List α) :
    firstRepeat? [] members = none ↔ members.Nodup := by
  rw [firstRepeat?_eq_none_iff]
  constructor
  · intro both
    exact both.1
  · intro distinct
    exact ⟨distinct, fun _ _ => List.not_mem_nil⟩

theorem findSome?_repeatedParameter?_eq_none_iff (constructors : List ConstructorOutline) :
    constructors.findSome? (·.repeatedParameter?) = none ↔
      ¬ ∃ outline ∈ constructors, ¬ (outline.parameters.map (·.name)).Nodup := by
  rw [List.findSome?_eq_none_iff]
  simp only [ConstructorOutline.repeatedParameter?, firstRepeat?_nil_eq_none_iff, not_exists,
    not_and, not_not]

namespace Declaration

variable {declaration : Declaration}

/-- The search finds no fault exactly if nothing is repeated. -/
theorem fault?_eq_none_iff : declaration.fault? = none ↔ ¬ declaration.Repeats := by
  unfold fault? Repeats
  cases declaration.body with
  | classBody properties constructors =>
      dsimp only
      rw [not_or, not_or, not_not, ← firstRepeat?_nil_eq_none_iff]
      cases firstRepeat? [] (properties.map (·.1)) with
      | some property => simp only [reduceCtorEq, false_and]
      | none =>
          by_cases several : 1 < constructors.countP (·.role = .primary)
          · simp only [several, if_true, not_true, reduceCtorEq, false_and, and_false]
          · simp only [several, if_false, Option.map_eq_none_iff,
              findSome?_repeatedParameter?_eq_none_iff, not_false_eq_true, true_and]
  | enumBody entries =>
      dsimp only
      rw [Option.map_eq_none_iff, firstRepeat?_nil_eq_none_iff, not_not]
  | mapperBody source target entryPoints =>
      dsimp only
      rw [Option.map_eq_none_iff, firstRepeat?_nil_eq_none_iff, not_not]

end Declaration

/-! ### What declarations become -/

structure ConstructorsDeclared (constructors : List Constructor) : Prop where
  index : ∀ (place : Nat) (constructor : Constructor),
    constructors[place]? = some constructor → constructor.index = place
  onePrimary : constructors.countP (·.isPrimary) ≤ 1
  primaryVisible : ∀ constructor ∈ constructors, constructor.isPrimary = true →
    constructor.isVisible = true
  distinctParameters : ∀ constructor ∈ constructors, (constructor.parameters.map (·.name)).Nodup

namespace ConstructorsDeclared

variable {constructors : List Constructor}

theorem getElem?_index (declared : ConstructorsDeclared constructors) {constructor : Constructor}
    (member : constructor ∈ constructors) :
    constructors[constructor.index]? = some constructor := by
  obtain ⟨place, placed⟩ := List.mem_iff_getElem?.mp member
  rw [declared.index place constructor placed]
  exact placed

theorem pairwise_index (declared : ConstructorsDeclared constructors) :
    constructors.Pairwise (·.index < ·.index) := by
  rw [List.pairwise_iff_getElem]
  intro earlier later atEarlier atLater order
  rw [declared.index earlier _ (List.getElem?_eq_getElem atEarlier),
    declared.index later _ (List.getElem?_eq_getElem atLater)]
  exact order

end ConstructorsDeclared

theorem countP_isPrimary_mapIdx (outlines : List ConstructorOutline) :
    (outlines.mapIdx fun index outline => outline.toConstructor index).countP (·.isPrimary) =
      outlines.countP (·.role = .primary) := by
  rw [List.mapIdx_eq_zipIdx_map, List.countP_map]
  conv_rhs => rw [← List.zipIdx_map_fst 0 outlines, List.countP_map]
  rfl

theorem Declaration.constructorsDeclared {declaration : Declaration}
    (faultless : declaration.fault? = none) (id : TypeId) :
    ConstructorsDeclared (declaration.toDefinition id).constructors := by
  have unrepeated := fault?_eq_none_iff.mp faultless
  unfold Repeats at unrepeated
  unfold toDefinition Definition.constructors
  cases body : declaration.body with
  | enumBody entries => exact ⟨nofun, Nat.zero_le 1, nofun, nofun⟩
  | mapperBody source target entryPoints => exact ⟨nofun, Nat.zero_le 1, nofun, nofun⟩
  | classBody properties outlines =>
      simp only [body, not_or, not_exists, not_and, not_not] at unrepeated
      obtain ⟨-, fewPrimaries, distinct⟩ := unrepeated
      refine ⟨?_, ?_, ?_, ?_⟩
      · intro place constructor placed
        rw [List.getElem?_mapIdx] at placed
        obtain ⟨outline, -, rfl⟩ := Option.map_eq_some_iff.mp placed
        rfl
      · rw [countP_isPrimary_mapIdx]
        exact Nat.le_of_not_lt fewPrimaries
      · intro constructor member isPrimary
        obtain ⟨place, within, rfl⟩ := List.mem_mapIdx.mp member
        have role : outlines[place].role = .primary := of_decide_eq_true isPrimary
        apply decide_eq_true
        rw [role]
        exact nofun
      · intro constructor member
        obtain ⟨place, within, rfl⟩ := List.mem_mapIdx.mp member
        exact distinct _ (List.getElem_mem within)

/-- The parts of a definition are what their places and names say, and none is there
twice. A definition of one kind has no parts of the others. -/
structure Definition.InOrder (definition : Definition) : Prop where
  distinctProperties : (definition.properties.map (·.name)).Nodup
  getters : ∀ property ∈ definition.properties,
    property.getter = ⟨definition.id, property.name⟩
  constructors : ConstructorsDeclared definition.constructors
  distinctEntries : definition.entries.Nodup
  distinctEntryPoints : (definition.entryPoints.map (·.kind)).Nodup

namespace Declaration

variable {declaration : Declaration}

theorem inOrder_toDefinition (faultless : declaration.fault? = none) (id : TypeId) :
    (declaration.toDefinition id).InOrder := by
  have numbered := declaration.constructorsDeclared faultless id
  have unrepeated := fault?_eq_none_iff.mp faultless
  unfold Repeats at unrepeated
  cases body : declaration.body with
  | classBody properties constructors =>
      simp only [body, not_or, not_not] at unrepeated
      have becomes : (declaration.toDefinition id).properties =
          properties.map fun property => ⟨property.1, property.2, ⟨id, property.1⟩⟩ := by
        simp only [toDefinition, Definition.properties, body]
      refine ⟨?_, ?_, numbered, ?_, ?_⟩
      · rw [becomes, List.map_map]
        exact unrepeated.1
      · intro property member
        rw [becomes] at member
        obtain ⟨written, -, rfl⟩ := List.mem_map.mp member
        rfl
      · simp only [toDefinition, Definition.entries, body, List.nodup_nil]
      · simp only [toDefinition, Definition.entryPoints, body, List.map_nil, List.nodup_nil]
  | enumBody entries =>
      simp only [body, not_not] at unrepeated
      refine ⟨?_, ?_, numbered, ?_, ?_⟩
      · simp only [toDefinition, Definition.properties, body, List.map_nil, List.nodup_nil]
      · simp only [toDefinition, Definition.properties, body, List.not_mem_nil, false_implies,
          implies_true]
      · simpa only [toDefinition, Definition.entries, body] using unrepeated
      · simp only [toDefinition, Definition.entryPoints, body, List.map_nil, List.nodup_nil]
  | mapperBody source target entryPoints =>
      simp only [body, not_not] at unrepeated
      refine ⟨?_, ?_, numbered, ?_, ?_⟩
      · simp only [toDefinition, Definition.properties, body, List.map_nil, List.nodup_nil]
      · simp only [toDefinition, Definition.properties, body, List.not_mem_nil, false_implies,
          implies_true]
      · simp only [toDefinition, Definition.entries, body, List.nodup_nil]
      · simpa only [toDefinition, Definition.entryPoints, body] using unrepeated

end Declaration

/-! ### Drafts and built catalogs -/

namespace Draft

/-- Every definition is stored once, and is what a declaration without fault becomes
under its number. -/
structure Coherent (draft : Draft) : Prop where
  distinct : (draft.definitions.entries.map Prod.fst).Nodup
  declared : ∀ id definition, (id, definition) ∈ draft.definitions.entries →
    ∃ declaration : Declaration,
      declaration.fault? = none ∧ definition = declaration.toDefinition id

theorem coherent_empty : Draft.empty.Coherent where
  distinct := List.nodup_nil
  declared := by
    intro id definition member
    cases member

theorem store_coherent {draft : Draft} (coherent : draft.Coherent) (id : TypeId)
    {declaration : Declaration} (faultless : declaration.fault? = none) :
    (draft.store (declaration.toDefinition id)).Coherent where
  distinct := Table.insertEntry_distinct _ _ coherent.distinct
  declared := by
    intro other definition member
    rcases Table.mem_insertEntry member with new | present
    · obtain ⟨rfl, rfl⟩ := Prod.mk.inj new
      exact ⟨declaration, faultless, rfl⟩
    · exact coherent.declared other definition present

theorem fault?_of_rejection? {draft : Draft} {declaration : Declaration}
    (accepted : draft.rejection? declaration = none) : declaration.fault? = none := by
  unfold rejection? at accepted
  split at accepted
  next => cases accepted
  next faultless => exact faultless

theorem step_declare (draft : Draft) (declaration : Declaration) :
    draft.step (.declare declaration) =
      match draft.rejection? declaration with
      | some error => ((⟨draft.next⟩, .rejected error), draft.reserve.2)
      | none =>
          ((⟨draft.next⟩, .declared),
            draft.reserve.2.store (declaration.toDefinition ⟨draft.next⟩)) := by
  simp only [Draft.step, declare, reserve]
  cases draft.rejection? declaration <;> rfl

theorem step_coherent {draft : Draft} (coherent : draft.Coherent) (step : Step) :
    (draft.step step).2.Coherent := by
  have numbered : draft.reserve.2.Coherent := ⟨coherent.distinct, coherent.declared⟩
  cases step with
  | abandon => exact numbered
  | declare declaration =>
      rw [step_declare]
      cases accepted : draft.rejection? declaration with
      | some error => exact numbered
      | none => exact store_coherent numbered ⟨draft.next⟩ (fault?_of_rejection? accepted)

theorem run_coherent {draft : Draft} (coherent : draft.Coherent) (steps : List Step) :
    (draft.run steps).2.Coherent := by
  induction steps generalizing draft with
  | nil => exact coherent
  | cons head rest ih => exact ih (step_coherent coherent head)

theorem close_eq_ok {draft : Draft} {catalog : Catalog} (closed : draft.close = .ok catalog) :
    catalog = ⟨draft.definitions, draft.names, .ofDefinitions draft.definitions.values⟩ := by
  unfold close at closed
  split at closed
  · cases closed
  · exact (Except.ok.inj closed).symm

end Draft

namespace Catalog

/-- The catalogs that declarations build, in any order and however each of them ends. -/
def IsBuilt (catalog : Catalog) : Prop :=
  ∃ steps, (Draft.empty.run steps).2.close = .ok catalog

/-- The declarations of two enums, of two classes that differ in the type of what they
hold, and of a mapper between the two types. -/
def roadSteps : List Draft.Step :=
  [.declare ⟨"Lamp", .enumBody ["RED", "GREEN"]⟩,
    .declare ⟨"Signal", .enumBody ["STOP", "GREEN"]⟩,
    .declare ⟨"Reading", .classBody [("level", .primitive .int)] []⟩,
    .declare ⟨"Report", .classBody []
      [⟨.primary, [⟨"level", .primitive .long, false⟩, ⟨"unit", .string, true⟩]⟩]⟩,
    .declare ⟨"Widening", .mapperBody (.primitive .int) (.primitive .long)
      [.single (.primitive .int) (.primitive .long)]⟩]

def road : Catalog :=
  let draft := (Draft.empty.run roadSteps).2
  ⟨draft.definitions, draft.names, .ofDefinitions draft.definitions.values⟩

theorem road_isBuilt : road.IsBuilt := ⟨roadSteps, rfl⟩

theorem IsBuilt.exists_draft {catalog : Catalog} (built : catalog.IsBuilt) :
    ∃ draft : Draft, draft.Coherent ∧ catalog.definitions = draft.definitions ∧
      catalog.index = .ofDefinitions draft.definitions.values := by
  obtain ⟨steps, closed⟩ := built
  refine ⟨_, Draft.run_coherent Draft.coherent_empty steps, ?_⟩
  rw [Draft.close_eq_ok closed]
  exact ⟨rfl, rfl⟩

theorem IsBuilt.definition?_eq_some_iff {catalog : Catalog} (built : catalog.IsBuilt)
    (id : TypeId) (definition : Definition) :
    catalog.definition? id = some definition ↔
      (id, definition) ∈ catalog.definitions.entries := by
  obtain ⟨draft, coherent, same, -⟩ := built.exists_draft
  unfold definition? Table.find?
  rw [same]
  exact ⟨Table.mem_of_findEntry, Table.findEntry_of_mem coherent.distinct⟩

theorem IsBuilt.declared {catalog : Catalog} (built : catalog.IsBuilt) {id : TypeId}
    {definition : Definition} (found : catalog.definition? id = some definition) :
    ∃ declaration : Declaration,
      declaration.fault? = none ∧ definition = declaration.toDefinition id := by
  obtain ⟨draft, coherent, same, -⟩ := built.exists_draft
  have member := (built.definition?_eq_some_iff id definition).mp found
  exact coherent.declared id definition (same ▸ member)

theorem IsBuilt.inOrder {catalog : Catalog} (built : catalog.IsBuilt) {id : TypeId}
    {definition : Definition} (found : catalog.definition? id = some definition) :
    definition.InOrder := by
  obtain ⟨declaration, faultless, rfl⟩ := built.declared found
  exact declaration.inOrder_toDefinition faultless id

theorem IsBuilt.inOrder_of_declared {catalog : Catalog} (built : catalog.IsBuilt)
    {type : Ty} {definition : Definition}
    (declared : catalog.lookup.declared? type = some definition) : definition.InOrder := by
  obtain ⟨id, -, found⟩ := Option.bind_eq_some_iff.mp declared
  exact built.inOrder found

end Catalog

theorem Context.constructorsDeclared_of_built {context : Context} {catalog : Catalog}
    (built : catalog.IsBuilt) (types : context.types = catalog.lookup) {target : Definition}
    (declared : context.target? = some target) :
    ConstructorsDeclared target.constructors := by
  unfold target? at declared
  rw [types] at declared
  exact (built.inOrder_of_declared declared).constructors

end MappingPlan
