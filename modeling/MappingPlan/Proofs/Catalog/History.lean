/-
Runs of a draft. Every step takes the next number, however it ends, so as long as the numbers
last no number is given out twice. What a run stores is what its declarations that succeed
become, each under the number it was given and entered by its name; so types are stored in
order, and a name leads to a number exactly if the type of that name is stored under it.
-/

import Mathlib.Algebra.Group.Nat.Defs
import Mathlib.Data.List.Nodup
import Mathlib.Data.List.Range
import MappingPlan.Proofs.Catalog.Coherence

set_option autoImplicit false

namespace MappingPlan

namespace Draft

/-- The steps of a run, each with the number it was given and the way it ended. -/
def history (draft : Draft) (steps : List Step) : List (Step × TypeId × Ending) :=
  steps.zip (draft.run steps).1

/-- The declaration is made in the run, succeeds, and is given the number. -/
def Declares (draft : Draft) (steps : List Step) (declaration : Declaration) (id : TypeId) :
    Prop :=
  (Step.declare declaration, id, Ending.declared) ∈ draft.history steps

variable {draft : Draft} {declaration : Declaration} {id : TypeId}

theorem rejection?_eq_none_iff :
    draft.rejection? declaration = none ↔
      declaration.fault? = none ∧ draft.names.find? declaration.name = none := by
  unfold rejection? Table.contains
  cases declaration.fault? with
  | some fault => simp only [reduceCtorEq, false_and]
  | none => cases draft.names.find? declaration.name <;> simp

/-- A step stores a declaration that nothing speaks against, or it only takes a number. -/
theorem step_cases (draft : Draft) (step : Step) :
    (∃ declaration, step = .declare declaration ∧ draft.rejection? declaration = none ∧
        draft.step step = ((⟨draft.next⟩, .declared),
          draft.reserve.2.store (declaration.toDefinition ⟨draft.next⟩))) ∨
      ∃ ending, ending ≠ .declared ∧
        draft.step step = ((⟨draft.next⟩, ending), draft.reserve.2) := by
  cases step with
  | abandon => exact Or.inr ⟨.abandoned, nofun, rfl⟩
  | declare declaration =>
      rw [step_declare]
      cases accepted : draft.rejection? declaration with
      | none => exact Or.inl ⟨declaration, rfl, accepted, rfl⟩
      | some error => exact Or.inr ⟨.rejected error, nofun, rfl⟩

theorem step_id (draft : Draft) (step : Step) : (draft.step step).1.1 = ⟨draft.next⟩ := by
  rcases draft.step_cases step with ⟨_, -, -, stepped⟩ | ⟨_, -, stepped⟩ <;> rw [stepped]

theorem step_next (draft : Draft) (step : Step) : (draft.step step).2.next = draft.next + 1 := by
  rcases draft.step_cases step with ⟨_, -, -, stepped⟩ | ⟨_, -, stepped⟩ <;> rw [stepped] <;> rfl

theorem step_names (draft : Draft) (step : Step) (name : String) (id : TypeId) :
    (draft.step step).2.names.find? name = some id ↔
      draft.names.find? name = some id ∨
        ∃ declaration, step = .declare declaration ∧
          (draft.step step).1 = (id, .declared) ∧ declaration.name = name := by
  rcases draft.step_cases step with
    ⟨declaration, rfl, accepted, stepped⟩ | ⟨ending, failed, stepped⟩
  · have fresh := (rejection?_eq_none_iff.mp accepted).2
    have entered : (draft.step (.declare declaration)).2.names.find? name =
        if name = declaration.name then some ⟨draft.next⟩ else draft.names.find? name := by
      rw [stepped]
      exact Table.find?_insert _ _ _ _
    rw [entered, stepped]
    by_cases same : name = declaration.name
    · subst same
      simp [fresh]
    · simp [same, Ne.symm same]
  · rw [stepped]
    simp only [Prod.mk.injEq, failed, and_false, false_and, exists_false, or_false]
    rfl

/-- A step stores a definition exactly if it declares it, as long as its number is new. -/
theorem step_definitions {step : Step} (fresh : draft.definitions.find? ⟨draft.next⟩ = none)
    (id : TypeId) (definition : Definition) :
    (draft.step step).2.definitions.find? id = some definition ↔
      draft.definitions.find? id = some definition ∨
        ∃ declaration, step = .declare declaration ∧
          (draft.step step).1 = (id, .declared) ∧ definition = declaration.toDefinition id := by
  rcases draft.step_cases step with
    ⟨declaration, rfl, accepted, stepped⟩ | ⟨ending, failed, stepped⟩
  · have stored : (draft.step (.declare declaration)).2.definitions.find? id =
        if id = ⟨draft.next⟩ then some (declaration.toDefinition ⟨draft.next⟩)
        else draft.definitions.find? id := by
      rw [stepped]
      exact Table.find?_insert _ _ _ _
    rw [stored, stepped]
    by_cases same : id = ⟨draft.next⟩
    · subst same
      simp [fresh, eq_comm]
    · simp [same, Ne.symm same]
  · rw [stepped]
    simp only [Prod.mk.injEq, failed, and_false, false_and, exists_false, or_false]
    rfl

/-! ### Runs -/

theorem run_cons (draft : Draft) (head : Step) (rest : List Step) :
    draft.run (head :: rest) =
      ((draft.step head).1 :: ((draft.step head).2.run rest).1,
        ((draft.step head).2.run rest).2) := rfl

theorem history_cons (draft : Draft) (head : Step) (rest : List Step) :
    draft.history (head :: rest) =
      (head, (draft.step head).1) :: (draft.step head).2.history rest := rfl

theorem length_run (draft : Draft) (steps : List Step) :
    (draft.run steps).1.length = steps.length := by
  induction steps generalizing draft with
  | nil => rfl
  | cons head rest ih => rw [run_cons, List.length_cons, List.length_cons, ih]

theorem map_id_history (draft : Draft) (steps : List Step) :
    (draft.history steps).map (·.2.1) = (draft.run steps).1.map Prod.fst := by
  have endings : (draft.history steps).map Prod.snd = (draft.run steps).1 :=
    List.map_snd_zip (Nat.le_of_eq (length_run draft steps))
  rw [← endings, List.map_map]
  rfl

theorem declares_cons {head : Step} {rest : List Step} :
    draft.Declares (head :: rest) declaration id ↔
      (head = .declare declaration ∧ (draft.step head).1 = (id, .declared)) ∨
        (draft.step head).2.Declares rest declaration id := by
  unfold Declares
  rw [history_cons, List.mem_cons, Prod.mk.injEq, eq_comm, @eq_comm _ (id, Ending.declared)]

theorem names_run_iff (draft : Draft) (steps : List Step) (name : String) (id : TypeId) :
    (draft.run steps).2.names.find? name = some id ↔
      draft.names.find? name = some id ∨
        ∃ declaration, draft.Declares steps declaration id ∧ declaration.name = name := by
  induction steps generalizing draft with
  | nil =>
      unfold Declares history
      simp only [List.zip_nil_left, List.not_mem_nil, false_and, exists_false, or_false]
      rfl
  | cons head rest ih =>
      rw [run_cons, ih, step_names, or_assoc]
      simp only [declares_cons, or_and_right, exists_or, and_assoc]

/-- Every number that is stored under was given out before. -/
def Fresh (draft : Draft) : Prop :=
  ∀ id definition, draft.definitions.find? id = some definition →
    id.number.toNat < draft.next.toNat

theorem fresh_empty : Draft.empty.Fresh := by
  intro id definition impossible
  cases impossible

theorem Fresh.find?_next (fresh : draft.Fresh) :
    draft.definitions.find? ⟨draft.next⟩ = none := by
  rw [Option.eq_none_iff_forall_ne_some]
  intro definition stored
  exact Nat.lt_irrefl _ (fresh _ definition stored)

theorem toNat_step_next {steps : Nat} (lasts : draft.next.toNat + (steps + 1) < 2 ^ 32)
    (step : Step) : (draft.step step).2.next.toNat = draft.next.toNat + 1 := by
  have fits : draft.next.toNat + 1 < 2 ^ 32 := by omega
  rw [step_next, UInt32.toNat_add]
  exact Nat.mod_eq_of_lt fits

theorem Fresh.step (fresh : draft.Fresh) {steps : Nat}
    (lasts : draft.next.toNat + (steps + 1) < 2 ^ 32) (step : Step) :
    (draft.step step).2.Fresh := by
  intro id definition stored
  rw [toNat_step_next lasts step]
  rcases (step_definitions fresh.find?_next id definition).mp stored with before | ⟨_, -, ending, -⟩
  · exact Nat.lt_succ_of_lt (fresh id definition before)
  · have own : id = ⟨draft.next⟩ := by
      rw [← step_id draft step, ending]
    rw [own]
    exact Nat.lt_succ_self _

/-- The numbers given out are consecutive as long as they last. -/
theorem numbers_run (draft : Draft) (steps : List Step)
    (lasts : draft.next.toNat + steps.length < 2 ^ 32) :
    (draft.run steps).1.map (fun ending => ending.1.number.toNat) =
      List.range' draft.next.toNat steps.length := by
  induction steps generalizing draft with
  | nil => rfl
  | cons head rest ih =>
      rw [List.length_cons] at lasts
      have next := toNat_step_next lasts head
      rw [run_cons, List.map_cons, step_id, ih _ (by omega), next, List.length_cons,
        List.range'_succ]

theorem nodup_ids (draft : Draft) (steps : List Step)
    (lasts : draft.next.toNat + steps.length < 2 ^ 32) :
    ((draft.run steps).1.map Prod.fst).Nodup := by
  have distinct : ((draft.run steps).1.map (fun ending => ending.1.number.toNat)).Nodup := by
    rw [numbers_run draft steps lasts]
    exact List.nodup_range'
  apply List.Nodup.of_map (fun id => id.number.toNat)
  rw [List.map_map]
  exact distinct

theorem definitions_run_iff (fresh : draft.Fresh) (steps : List Step)
    (lasts : draft.next.toNat + steps.length < 2 ^ 32) (id : TypeId) (definition : Definition) :
    (draft.run steps).2.definitions.find? id = some definition ↔
      draft.definitions.find? id = some definition ∨
        ∃ declaration, draft.Declares steps declaration id ∧
          definition = declaration.toDefinition id := by
  induction steps generalizing draft with
  | nil =>
      unfold Declares history
      simp only [List.zip_nil_left, List.not_mem_nil, false_and, exists_false, or_false]
      rfl
  | cons head rest ih =>
      rw [List.length_cons] at lasts
      have next := toNat_step_next lasts head
      rw [run_cons, ih (fresh.step lasts head) (by omega),
        step_definitions fresh.find?_next, or_assoc]
      simp only [declares_cons, or_and_right, exists_or, and_assoc]

/-- A number that was given to a step which declared nothing is stored under by no other. -/
theorem find?_eq_none_of_history {steps : List Step} (lasts : steps.length < 2 ^ 32)
    {step : Step} {ending : Ending} (taken : (step, id, ending) ∈ Draft.empty.history steps)
    (failed : ending ≠ .declared) : (Draft.empty.run steps).2.definitions.find? id = none := by
  have fits : Draft.empty.next.toNat + steps.length < 2 ^ 32 := by
    change 0 + steps.length < 2 ^ 32
    omega
  rw [Option.eq_none_iff_forall_ne_some]
  intro definition stored
  rcases (definitions_run_iff fresh_empty steps fits id definition).mp stored with
    impossible | ⟨declaration, declares, -⟩
  · cases impossible
  · have distinct := nodup_ids Draft.empty steps fits
    rw [← map_id_history] at distinct
    have same := List.inj_on_of_nodup_map distinct taken declares rfl
    exact failed (Prod.mk.inj (Prod.mk.inj same).2).2

/-- An enum that repeats an entry and the same enum without the repetition, a second type
of its name, a type that is abandoned, a class that reads it, and a mapper between lists
of the enum and of the class. -/
def patchySteps : List Step :=
  [.declare ⟨"Lamp", .enumBody ["RED", "RED"]⟩,
    .declare ⟨"Lamp", .enumBody ["RED", "GREEN"]⟩,
    .declare ⟨"Lamp", .classBody [] []⟩,
    .abandon,
    .declare ⟨"Post", .classBody [("lamp", .nullable (.named ⟨1⟩))]
      [⟨.primary, [⟨"lamp", .named ⟨1⟩, false⟩]⟩, ⟨.hidden, []⟩]⟩,
    .declare ⟨"Posts", .mapperBody (.named ⟨1⟩) (.named ⟨4⟩)
      [.single (.named ⟨1⟩) (.named ⟨4⟩), .elementwise (.named ⟨1⟩) (.named ⟨4⟩)]⟩]

end Draft

/-! ### Tables that a run leaves -/

namespace Draft

/-- Tables of definitions and of names that hold what a run of declarations left. -/
structure Registered (steps : List Step) (definitions : Table TypeId Definition)
    (names : Table String TypeId) : Prop where
  stored : ∀ id definition, definitions.find? id = some definition ↔
    ∃ declaration, Draft.empty.Declares steps declaration id ∧
      definition = declaration.toDefinition id
  ownId : ∀ id definition, definitions.find? id = some definition → definition.id = id
  named : ∀ name id, names.find? name = some id ↔
    ∃ definition, definitions.find? id = some definition ∧ definition.name = name
  inOrder : ∀ id definition, definitions.find? id = some definition → definition.InOrder

variable {steps : List Step}

theorem lasts_empty (lasts : steps.length < 2 ^ 32) :
    Draft.empty.next.toNat + steps.length < 2 ^ 32 := by
  change 0 + steps.length < 2 ^ 32
  omega

theorem find?_definitions_iff (lasts : steps.length < 2 ^ 32) (id : TypeId)
    (definition : Definition) :
    (Draft.empty.run steps).2.definitions.find? id = some definition ↔
      ∃ declaration, Draft.empty.Declares steps declaration id ∧
        definition = declaration.toDefinition id := by
  rw [definitions_run_iff fresh_empty steps (lasts_empty lasts) id definition]
  refine or_iff_right ?_
  intro impossible
  cases impossible

theorem find?_names_iff (steps : List Step) (name : String) (id : TypeId) :
    (Draft.empty.run steps).2.names.find? name = some id ↔
      ∃ declaration, Draft.empty.Declares steps declaration id ∧ declaration.name = name := by
  rw [names_run_iff]
  refine or_iff_right ?_
  intro impossible
  cases impossible

theorem inOrder_of_stored (steps : List Step) {id : TypeId} {definition : Definition}
    (stored : (Draft.empty.run steps).2.definitions.find? id = some definition) :
    definition.InOrder := by
  have coherent := run_coherent coherent_empty steps
  obtain ⟨declaration, faultless, rfl⟩ :=
    coherent.declared id definition (Table.mem_of_findEntry stored)
  exact declaration.inOrder_toDefinition faultless id

theorem registered_of_run (lasts : steps.length < 2 ^ 32) :
    Registered steps (Draft.empty.run steps).2.definitions (Draft.empty.run steps).2.names where
  stored := find?_definitions_iff lasts
  ownId := by
    intro id definition stored
    obtain ⟨declaration, -, rfl⟩ := (find?_definitions_iff lasts id definition).mp stored
    rfl
  named := by
    intro name id
    rw [find?_names_iff]
    constructor
    · intro entered
      obtain ⟨declaration, declares, rfl⟩ := entered
      have stored := (find?_definitions_iff lasts id _).mpr ⟨declaration, declares, rfl⟩
      exact ⟨_, stored, rfl⟩
    · intro both
      obtain ⟨definition, stored, rfl⟩ := both
      obtain ⟨declaration, declares, rfl⟩ := (find?_definitions_iff lasts id definition).mp stored
      exact ⟨declaration, declares, rfl⟩
  inOrder := fun _ _ stored => inOrder_of_stored steps stored

/-- As long as the numbers last, no two declarations are given the same one, whichever of
them fail or are abandoned. The draft is in order after every run and so is the catalog
that it closes to, in which a name leads to a number exactly if the type of that name is
found under it. -/
theorem registered_always (steps : List Step) (lasts : steps.length < 2 ^ 32) :
    ((Draft.empty.run steps).1.map Prod.fst).Nodup ∧
      Registered steps (Draft.empty.run steps).2.definitions
        (Draft.empty.run steps).2.names ∧
      ∀ catalog, (Draft.empty.run steps).2.close = .ok catalog →
        Registered steps catalog.definitions catalog.names ∧
          ∀ name id, catalog.idOf? name = some id ↔
            ∃ definition, catalog.definition? id = some definition ∧ definition.name = name := by
  have registered := registered_of_run lasts
  refine ⟨nodup_ids Draft.empty steps (lasts_empty lasts), registered, ?_⟩
  intro catalog closed
  rw [close_eq_ok closed]
  exact ⟨registered, registered.named⟩

/-- Of three declarations of one name the second succeeds, under the second number. -/
theorem patchySteps_registered :
    patchySteps.length < 2 ^ 32 ∧ ((Draft.empty.run patchySteps).1.map Prod.fst).Nodup ∧
      ∃ catalog, (Draft.empty.run patchySteps).2.close = .ok catalog ∧
        catalog.idOf? "Lamp" = some ⟨1⟩ ∧
        ∃ definition, catalog.definition? ⟨1⟩ = some definition ∧ definition.name = "Lamp" ∧
          definition.InOrder := by
  have lasts : patchySteps.length < 2 ^ 32 := by decide
  obtain ⟨distinct, -, closes⟩ := registered_always patchySteps lasts
  have closed : (Draft.empty.run patchySteps).2.close = .ok _ := rfl
  obtain ⟨registered, named⟩ := closes _ closed
  obtain ⟨definition, found, ofName⟩ := (named "Lamp" ⟨1⟩).mp rfl
  exact ⟨lasts, distinct, _, closed, rfl, definition, found, ofName,
    registered.inOrder ⟨1⟩ definition found⟩

end Draft

end MappingPlan
