/-
Lists taken apart by a name. The parts under distinct names and the rest make up the
list. Two lists have the same parts if under every name they hold the same elements in
the same order. One is then a permutation of the other, and a traversal that keeps names
makes lists with the same parts of them.
-/

import Mathlib.Data.List.Forall2
import MappingPlan.Proofs.Lockstep

set_option autoImplicit false

namespace MappingPlan

variable {Value Result Error : Type}

def SameParts (name : Value → String) (left right : List Value) : Prop :=
  ∀ target, left.filter (name · = target) = right.filter (name · = target)

section Traversal

variable {name : Value → String} {resultName : Result → String}
  {step : Value → Except Error Result} {elements : List Value} {results : List Result}
  (keeps : ∀ element result, step element = .ok result → resultName result = name element)

include keeps

theorem map_name_of_mapM (success : elements.mapM step = .ok results) :
    results.map resultName = elements.map name := by
  have related := (mapM_eq_ok_iff step elements results).mp success
  clear success
  induction related with
  | nil => rfl
  | cons atHead _ ih => rw [List.map_cons, List.map_cons, keeps _ _ atHead, ih]

theorem filter_of_mapM (success : elements.mapM step = .ok results) (kept : String → Bool) :
    List.Forall₂ (fun element result => step element = .ok result)
      (elements.filter fun element => kept (name element))
      (results.filter fun result => kept (resultName result)) := by
  apply List.rel_filter _ ((mapM_eq_ok_iff step elements results).mp success)
  intro element result related
  simp only [keeps element result related]

end Traversal

/-- The parts under distinct names and the rest make up the whole list. -/
theorem perm_flatMap_filter (name : Value → String) (elements : List Value)
    {targets : List String} (distinct : targets.Nodup) :
    elements.Perm
      (targets.flatMap (fun target => elements.filter (name · = target)) ++
        elements.filter (name · ∉ targets)) := by
  induction targets with
  | nil =>
      have whole : elements.filter (name · ∉ []) = elements := by
        rw [List.filter_eq_self]
        intro element _
        exact decide_eq_true List.not_mem_nil
      rw [whole]
      exact .refl elements
  | cons head others ih =>
      obtain ⟨fresh, distinctOthers⟩ := List.nodup_cons.mp distinct
      have ofHead : (elements.filter (name · ∉ others)).filter (name · = head) =
          elements.filter (name · = head) := by
        rw [List.filter_filter]
        apply List.filter_congr
        intro element _
        by_cases same : name element = head
        · simp [same, fresh]
        · simp [same]
      have rest : (elements.filter (name · ∉ others)).filter
          (fun element => !decide (name element = head)) =
          elements.filter (name · ∉ head :: others) := by
        rw [List.filter_filter]
        apply List.filter_congr
        intro element _
        simp [List.mem_cons, not_or]
      have split := List.filter_append_perm (name · = head) (elements.filter (name · ∉ others))
      rw [ofHead, rest] at split
      rw [List.flatMap_cons, List.append_assoc]
      refine (ih distinctOthers).trans ?_
      refine (split.symm.append_left _).trans ?_
      exact List.perm_append_comm_assoc _ _ _

namespace SameParts

variable {name : Value → String} {left right : List Value}

theorem symm (same : SameParts name left right) : SameParts name right left :=
  fun target => (same target).symm

theorem perm (same : SameParts name left right) : left.Perm right := by
  classical
  rw [List.perm_iff_count]
  intro element
  have own : decide (name element = name element) = true := decide_eq_true rfl
  have inPart (elements : List Value) :
      (elements.filter (name · = name element)).count element = elements.count element :=
    List.count_filter own
  rw [← inPart left, ← inPart right, same]

theorem mapM_lockstep {resultName : Result → String} {step : Value → Except Error Result}
    (keeps : ∀ element result, step element = .ok result → resultName result = name element)
    (same : SameParts name left right) :
    Lockstep (fun _ _ => True) (SameParts resultName) (left.mapM step) (right.mapM step) := by
  apply Lockstep.of_results
  · rw [exists_mapM_eq_ok_iff, exists_mapM_eq_ok_iff]
    exact forall_congr' fun element => imp_congr_left same.perm.mem_iff
  · intro atLeft atRight leftSuccess rightSuccess target
    have fromLeft := filter_of_mapM keeps leftSuccess (· = target)
    have fromRight := filter_of_mapM keeps rightSuccess (· = target)
    rw [same target] at fromLeft
    have functional : Relator.RightUnique
        fun element result => step element = .ok result := by
      intro element first second atFirst atSecond
      exact Except.ok.inj (atFirst.symm.trans atSecond)
    exact List.right_unique_forall₂' functional fromLeft fromRight

end SameParts

theorem find?_of_unique {elements : List Value} {holds : Value → Bool} {element : Value}
    (member : element ∈ elements) (atElement : holds element = true)
    (only : ∀ other ∈ elements, holds other = true → other = element) :
    elements.find? holds = some element := by
  cases found : elements.find? holds with
  | none => exact absurd atElement (List.find?_eq_none.mp found element member)
  | some other =>
      rw [only other (List.mem_of_find?_eq_some found) (List.find?_some found)]

end MappingPlan
