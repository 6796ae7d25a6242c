/-
Declarations that fail. When one fails is said by the earlier ones and by what it repeats
itself; all that it takes is a number. So it makes no difference to a draft, nor to how
any other declaration ends, whether a declaration fails or is abandoned.
-/

import MappingPlan.Proofs.Catalog.History

set_option autoImplicit false

namespace MappingPlan

namespace Draft

variable {draft : Draft} {declaration : Declaration}

theorem declare_eq (draft : Draft) (declaration : Declaration) :
    draft.declare declaration =
      match draft.rejection? declaration with
      | some error => (.error error, draft.reserve.2)
      | none => (.ok ⟨draft.next⟩,
          draft.reserve.2.store (declaration.toDefinition ⟨draft.next⟩)) := rfl

theorem declare_eq_error_iff (error : DeclarationError) :
    (draft.declare declaration).1 = .error error ↔
      draft.rejection? declaration = some error := by
  rw [declare_eq]
  cases draft.rejection? declaration with
  | some found => simp only [Except.error.injEq, Option.some.injEq]
  | none => simp only [reduceCtorEq]

theorem declare_of_error {error : DeclarationError}
    (failed : (draft.declare declaration).1 = .error error) :
    (draft.declare declaration).2 = { draft with next := draft.next + 1 } := by
  rw [declare_eq, (declare_eq_error_iff error).mp failed]
  rfl

theorem exists_rejection?_iff :
    (∃ error, draft.rejection? declaration = some error) ↔
      (∃ id, draft.names.find? declaration.name = some id) ∨ declaration.Repeats := by
  rw [← Option.ne_none_iff_exists', ne_eq, rejection?_eq_none_iff, Declaration.fault?_eq_none_iff,
    ← Option.ne_none_iff_exists', not_and_or, not_not, or_comm]

/-- After a run, a declaration fails exactly if one of its name succeeded in the run, or
it repeats something itself. -/
theorem exists_error_declare_iff (steps : List Step) (declaration : Declaration) :
    (∃ error, ((Draft.empty.run steps).2.declare declaration).1 = .error error) ↔
      (∃ other id, Draft.empty.Declares steps other id ∧ other.name = declaration.name) ∨
        declaration.Repeats := by
  simp only [declare_eq_error_iff]
  rw [exists_rejection?_iff]
  simp only [find?_names_iff]
  rw [exists_comm]

/-- The run in which declarations that fail in another are abandoned instead. -/
def Withdraws (draft : Draft) (steps alternative : List Step) : Prop :=
  ∀ place : Nat, alternative[place]? = steps[place]? ∨
    alternative[place]? = some .abandon ∧ ∃ declaration id error,
      (draft.history steps)[place]? = some (.declare declaration, id, .rejected error)

def withdrawRejected (draft : Draft) (steps : List Step) : List Step :=
  (draft.history steps).map fun (step, _, ending) =>
    match ending with
    | .rejected _ => .abandon
    | _ => step

theorem step_of_rejected {step : Step} {id : TypeId} {error : DeclarationError}
    (failed : (draft.step step).1 = (id, .rejected error)) :
    (draft.step step).2 = (draft.step .abandon).2 := by
  rcases draft.step_cases step with ⟨declaration, -, -, stepped⟩ | ⟨ending, -, stepped⟩
  · rw [stepped] at failed
    cases failed
  · rw [stepped]
    rfl

theorem getElem?_history_zero (head : Step) (rest : List Step) :
    (draft.history (head :: rest))[0]? = some (head, (draft.step head).1) := rfl

theorem Withdraws.tail {head first : Step} {rest others : List Step}
    (withdraws : draft.Withdraws (head :: rest) (first :: others)) :
    (draft.step head).2.Withdraws rest others :=
  fun place => withdraws (place + 1)

/-- A step and what withdraws it leave the same draft. -/
theorem Withdraws.step_eq {head first : Step} {rest others : List Step}
    (withdraws : draft.Withdraws (head :: rest) (first :: others)) :
    (draft.step first).2 = (draft.step head).2 := by
  rcases withdraws 0 with same | ⟨abandoned, declaration, id, error, failed⟩
  · rw [Option.some.inj same]
  · rw [getElem?_history_zero] at failed
    obtain ⟨rfl, ended⟩ := Prod.mk.inj (Option.some.inj failed)
    rw [Option.some.inj abandoned, step_of_rejected ended]

/-- Whichever declarations that fail are abandoned instead, the draft becomes the same,
every step is given the same number, and each that is kept ends as it did. -/
theorem Withdraws.run_eq {steps alternative : List Step}
    (withdraws : draft.Withdraws steps alternative) :
    (draft.run alternative).2 = (draft.run steps).2 ∧
      (draft.run alternative).1.map Prod.fst = (draft.run steps).1.map Prod.fst ∧
      ∀ place : Nat, alternative[place]? = steps[place]? →
        (draft.run alternative).1[place]? = (draft.run steps).1[place]? := by
  induction steps generalizing draft alternative with
  | nil =>
      have empty : alternative = [] := by
        cases alternative with
        | nil => rfl
        | cons first others =>
            rcases withdraws 0 with impossible | ⟨-, _, _, _, impossible⟩ <;> cases impossible
      subst empty
      exact ⟨rfl, rfl, fun _ _ => rfl⟩
  | cons head rest ih =>
      cases alternative with
      | nil => rcases withdraws 0 with impossible | ⟨impossible, -⟩ <;> cases impossible
      | cons first others =>
          have sameStep := withdraws.step_eq
          obtain ⟨sameDraft, sameIds, sameEndings⟩ := ih withdraws.tail
          rw [run_cons, run_cons, sameStep]
          refine ⟨sameDraft, ?_, ?_⟩
          · rw [List.map_cons, List.map_cons, step_id, step_id, sameIds]
          · intro place kept
            cases place with
            | zero =>
                have same : first = head := Option.some.inj kept
                rw [same]
                rfl
            | succ earlier => exact sameEndings earlier kept

theorem withdraws_withdrawRejected (draft : Draft) (steps : List Step) :
    draft.Withdraws steps (draft.withdrawRejected steps) := by
  intro place
  have kept : ((draft.history steps).map Prod.fst)[place]? = steps[place]? := by
    unfold history
    rw [List.map_fst_zip (Nat.le_of_eq (length_run draft steps).symm)]
  unfold withdrawRejected
  rw [List.getElem?_map] at kept ⊢
  cases taken : (draft.history steps)[place]? with
  | none =>
      rw [taken] at kept
      exact Or.inl kept
  | some entry =>
      obtain ⟨step, id, ending⟩ := entry
      rw [taken] at kept
      cases ending with
      | rejected error =>
          cases step with
          | abandon => exact Or.inl kept
          | declare declaration => exact Or.inr ⟨rfl, declaration, id, error, rfl⟩
      | declared => exact Or.inl kept
      | abandoned => exact Or.inl kept

/-- A declaration fails exactly if its name is that of one that succeeded before, or if it
repeats something itself; one that failed or was abandoned before takes no name away. A
declaration that fails takes a number and changes nothing else. So the declarations that
fail, all of them or only some, may as well be abandoned: the draft becomes the same and
every other declaration ends as it did. -/
theorem failed_leaves_no_trace :
    (∀ steps declaration,
      (∃ error, ((Draft.empty.run steps).2.declare declaration).1 = .error error) ↔
        (∃ other id, Draft.empty.Declares steps other id ∧ other.name = declaration.name) ∨
          declaration.Repeats) ∧
      (∀ (draft : Draft) declaration error,
        (draft.declare declaration).1 = .error error →
          (draft.declare declaration).2 = { draft with next := draft.next + 1 }) ∧
      (∀ (draft : Draft) steps, draft.Withdraws steps (draft.withdrawRejected steps)) ∧
      ∀ (draft : Draft) steps alternative, draft.Withdraws steps alternative →
        (draft.run alternative).2 = (draft.run steps).2 ∧
          (draft.run alternative).1.map Prod.fst = (draft.run steps).1.map Prod.fst ∧
          ∀ place : Nat, alternative[place]? = steps[place]? →
            (draft.run alternative).1[place]? = (draft.run steps).1[place]? := by
  refine ⟨exists_error_declare_iff, ?_, withdraws_withdrawRejected, ?_⟩
  · intro draft declaration error failed
    exact declare_of_error failed
  · intro draft steps alternative withdraws
    exact withdraws.run_eq

/-- Two of three declarations of one name fail, and a fourth fails after them. -/
theorem patchySteps_withdrawn :
    (Draft.empty.run (Draft.empty.withdrawRejected patchySteps)).2 =
        (Draft.empty.run patchySteps).2 ∧
      (Draft.empty.withdrawRejected patchySteps)[2]? = some .abandon ∧
      ∃ error,
        ((Draft.empty.run patchySteps).2.declare ⟨"Lamp", .enumBody []⟩).1 = .error error ∧
          ((Draft.empty.run patchySteps).2.declare ⟨"Lamp", .enumBody []⟩).2 =
            { (Draft.empty.run patchySteps).2 with next := 7 } := by
  obtain ⟨-, unchanged, allOfThem, same⟩ := failed_leaves_no_trace
  have failed : ((Draft.empty.run patchySteps).2.declare ⟨"Lamp", .enumBody []⟩).1 =
      .error (.duplicateTypeName "Lamp") := rfl
  exact ⟨(same _ _ _ (allOfThem Draft.empty patchySteps)).1, rfl, _, failed,
    unchanged _ _ _ failed⟩

end Draft

end MappingPlan
