/-
Batches. A batch gives every mapper the outcome it has on its own, and appends to the log
what each of them reports on its own, in their order. So a failure reaches no other
mapper, and batches may be joined, split and rearranged.
-/

import Mathlib.Logic.Equiv.Defs
import MappingPlan.Proofs.Plan.Review
import MappingPlan.Proofs.Resolution.Stages

set_option autoImplicit false

namespace MappingPlan

namespace Resolver

variable {resolver : Resolver} {mapper : Mapper}

/-- What each mapper reports on its own. -/
def segments (resolver : Resolver) (mappers : List Mapper) : List Log :=
  mappers.map fun mapper => (resolver.resolve mapper []).2

theorem resolve_nil (resolver : Resolver) (mapper : Mapper) :
    (resolver.resolve mapper []).2 = Outcome.diagnostics (resolver.resolve mapper []).1 :=
  Log.reportAll_eq_append [] _

/-- The log is only appended to, and what it held before changes nothing. -/
theorem resolve_eq (resolver : Resolver) (mapper : Mapper) (log : Log) :
    resolver.resolve mapper log =
      ((resolver.resolve mapper []).1, log ++ (resolver.resolve mapper []).2) := by
  rw [resolve_nil]
  unfold resolve
  dsimp only
  rw [Log.reportAll_eq_append]

theorem resolve_of_error {failure : Failure}
    (failed : (resolver.resolve mapper []).1 = .error failure) :
    (resolver.resolve mapper []).2 = [failure.toDiagnostic] ∧
      failure.toDiagnostic.severity = .error := by
  rw [resolve_nil, failed]
  exact ⟨rfl, rfl⟩

theorem resolve_of_ok {resolved : Resolved}
    (success : (resolver.resolve mapper []).1 = .ok resolved) :
    (resolver.resolve mapper []).2 = resolved.findings ∧
      resolved.findings =
        (Context.mk resolver.types resolver.policy mapper).review resolved.plan := by
  obtain ⟨-, -, -, -, -, -, -, reviewed⟩ := Context.stages_of_resolve success
  rw [resolve_nil, success]
  exact ⟨rfl, reviewed⟩

theorem exists_plan?_iff (resolver : Resolver) (mapper : Mapper) :
    (∃ resolved plan, (resolver.resolve mapper []).1 = .ok resolved ∧
      resolved.plan? = some plan) ↔
      ∀ diagnostic ∈ (resolver.resolve mapper []).2, diagnostic.severity ≠ .error := by
  cases outcome : (resolver.resolve mapper []).1 with
  | error failure =>
      obtain ⟨reported, severe⟩ := resolve_of_error outcome
      rw [reported, List.forall_mem_singleton]
      constructor
      · intro planned
        obtain ⟨_, _, impossible, -⟩ := planned
        cases impossible
      · intro mild
        exact absurd severe mild
  | ok resolved =>
      rw [(resolve_of_ok outcome).1, ← Log.hasErrors_eq_false_iff, ← resolved.plan?_isSome_iff,
        Option.isSome_iff_exists]
      constructor
      · intro planned
        obtain ⟨_, plan, same, isPlan⟩ := planned
        obtain rfl := Except.ok.inj same
        exact ⟨plan, isPlan⟩
      · intro planned
        obtain ⟨plan, isPlan⟩ := planned
        exact ⟨resolved, plan, rfl, isPlan⟩

theorem resolveAll_eq (resolver : Resolver) (mappers : List Mapper) (log : Log) :
    resolver.resolveAll mappers log =
      (mappers.map (fun mapper => (resolver.resolve mapper []).1),
        log ++ (resolver.segments mappers).flatten) := by
  induction mappers generalizing log with
  | nil => exact congrArg (Prod.mk []) (List.append_nil log).symm
  | cons head rest ih =>
      unfold resolveAll segments
      rw [resolver.resolve_eq head log]
      dsimp only
      rw [ih, List.map_cons, List.map_cons, List.flatten_cons, List.append_assoc]
      rfl

theorem resolveAll_append (resolver : Resolver) (mappers more : List Mapper) (log : Log) :
    resolver.resolveAll (mappers ++ more) log =
      ((resolver.resolveAll mappers log).1 ++ (resolver.resolveAll more []).1,
        (resolver.resolveAll mappers log).2 ++ (resolver.resolveAll more []).2) := by
  rw [resolveAll_eq, resolveAll_eq, resolveAll_eq]
  unfold segments
  rw [List.map_append, List.map_append, List.flatten_append, List.append_assoc,
    List.nil_append]

/-- A batch is its mappers one by one: outcomes and reports are those that each mapper has
on its own, so they are joined as batches are and go where their mappers go. A mapper
reports its failure or the findings of its review, and has a plan to carry out exactly if
no error is among what it reports. -/
theorem resolveAll_batch (resolver : Resolver) (mappers : List Mapper) (log : Log) :
    (resolver.resolveAll mappers log).1 =
        mappers.map (fun mapper => (resolver.resolve mapper []).1) ∧
      (resolver.resolveAll mappers log).2 = log ++ (resolver.segments mappers).flatten ∧
      (∀ mapper,
        (∀ failure, (resolver.resolve mapper []).1 = .error failure →
          (resolver.resolve mapper []).2 = [failure.toDiagnostic] ∧
            failure.toDiagnostic.severity = .error) ∧
        (∀ resolved, (resolver.resolve mapper []).1 = .ok resolved →
          (resolver.resolve mapper []).2 = resolved.findings ∧
            resolved.findings =
              (Context.mk resolver.types resolver.policy mapper).review resolved.plan) ∧
        ((∃ resolved plan, (resolver.resolve mapper []).1 = .ok resolved ∧
            resolved.plan? = some plan) ↔
          ∀ diagnostic ∈ (resolver.resolve mapper []).2, diagnostic.severity ≠ .error)) ∧
      (∀ more, resolver.resolveAll (mappers ++ more) log =
        ((resolver.resolveAll mappers log).1 ++ (resolver.resolveAll more []).1,
          (resolver.resolveAll mappers log).2 ++ (resolver.resolveAll more []).2)) ∧
      ∀ (others : List Mapper) (order : Fin others.length ≃ Fin mappers.length),
        (∀ place, others[place] = mappers[order place]) →
          (resolver.resolveAll others log).2 = log ++ (resolver.segments others).flatten ∧
            ∀ place, (resolver.resolveAll others log).1[place.val]? =
                (resolver.resolveAll mappers log).1[(order place).val]? ∧
              (resolver.segments others)[place.val]? =
                (resolver.segments mappers)[(order place).val]? := by
  refine ⟨?_, ?_, ?_, ?_, ?_⟩
  · rw [resolveAll_eq]
  · rw [resolveAll_eq]
  · intro mapper
    exact ⟨fun _ => resolve_of_error, fun _ => resolve_of_ok, resolver.exists_plan?_iff mapper⟩
  · exact fun more => resolver.resolveAll_append mappers more log
  · intro others order rearranged
    rw [resolveAll_eq, resolveAll_eq]
    refine ⟨rfl, ?_⟩
    intro place
    have same : others[place.val]? = mappers[(order place).val]? := by
      rw [List.getElem?_eq_getElem place.isLt, List.getElem?_eq_getElem (order place).isLt]
      exact congrArg some (rearranged place)
    unfold segments
    rw [List.getElem?_map, List.getElem?_map, List.getElem?_map, List.getElem?_map, same]
    exact ⟨rfl, rfl⟩

end Resolver

end MappingPlan
