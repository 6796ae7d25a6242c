/-
Sources that admit null. What a source declares is looked up without regard to null, so a
class or an enum is filled from it as if null could not come; a single value is refused.
-/

import MappingPlan.Proofs.Resolution.Ownership

set_option autoImplicit false

namespace MappingPlan

namespace Ty

theorem reference?_nullable {inner : Ty} (plain : inner.isNullable = false) :
    (nullable inner).reference? = inner.reference? := by
  cases inner with
  | nullable _ => cases plain
  | _ => rfl

theorem reference?_nullable_nullable {inner : Ty} (twice : inner.isNullable = true) :
    (nullable inner).reference? = none := by
  cases inner with
  | nullable _ => rfl
  | _ => cases twice

/-- What may be null is no scalar, unless the scalar may be null too. -/
theorem conversion?_nullable_scalar (inner : Ty) {slot : Ty} (scalar : slot.isScalar = true)
    (noNull : slot.isNullable = false) : (nullable inner).conversion? slot = none := by
  cases slot with
  | primitive kind => rfl
  | string => rfl
  | nullable _ => cases noNull
  | _ => cases scalar

end Ty

inductive Failure.SameButNull (shown : String) : Failure → Failure → Prop where
  | same (failure : Failure) : SameButNull shown failure failure
  | enumSourceRequired (target : String) (span : Span) :
      SameButNull shown ⟨.enumSourceRequired target shown, span⟩
        ⟨.enumSourceRequired target (shown ++ "?"), span⟩

namespace Outcome

def plan? : Outcome → Option Plan
  | .ok resolved => resolved.plan?
  | .error _ => none

theorem plan?_eq_some_iff {outcome : Outcome} {plan : Plan} :
    outcome.plan? = some plan ↔
      ∃ resolved, outcome = .ok resolved ∧ resolved.findings.hasErrors = false ∧
        resolved.plan = plan := by
  cases outcome with
  | error failure =>
      constructor
      · intro impossible
        cases impossible
      · intro success
        obtain ⟨_, impossible, -⟩ := success
        cases impossible
  | ok resolved =>
      unfold plan? Resolved.plan? Resolved.isValid
      simp only [Except.ok.injEq, exists_eq_left', Bool.not_eq_true', Option.ite_none_right_eq_some,
        Option.some.injEq]

theorem plan?_of_lockstep {failures : Failure → Failure → Prop} {exchange : Plan → Plan}
    {before after : Outcome}
    (together : Lockstep failures
      (fun before after => after.plan = exchange before.plan ∧
        (after.findings.hasErrors = false ↔ before.findings.hasErrors = false)) before after) :
    after.plan? = before.plan?.map exchange := by
  cases together with
  | error _ => rfl
  | @ok before after related =>
      obtain ⟨samePlan, sameValidity⟩ := related
      change after.plan? = before.plan?.map exchange
      unfold Resolved.plan? Resolved.isValid
      simp only [Bool.not_eq_true', sameValidity, samePlan]
      split <;> rfl

end Outcome

def Plan.withSource (source : Ty) : Plan → Plan
  | construction plan => .construction { plan with source }
  | enumeration plan => .enumeration { plan with source }
  | value plan => .value { plan with source }

namespace Context

def withSource (context : Context) (source : Ty) : Context :=
  { context with mapper := { context.mapper with source } }

variable {context : Context} {inner : Ty}

section Simulation

variable (admits : context.mapper.source = .nullable inner) (plain : inner.isNullable = false)

include admits plain

theorem source?_withSource : (context.withSource inner).source? = context.source? := by
  unfold source? TypeLookup.declared?
  rw [admits, Ty.reference?_nullable plain]
  rfl

theorem member_withSource (contributions : List Contribution) :
    (context.withSource inner).member contributions = context.member contributions := by
  have sameFallback : (context.withSource inner).fallback? = context.fallback? := by
    funext parameter
    unfold fallback? automaticSource?
    rw [source?_withSource admits plain]
    rfl
  funext parameter
  unfold member
  rw [sameFallback]

theorem constructorPlan_withSource (contributions : List Contribution)
    (constructor : Constructor) :
    context.constructorPlan contributions constructor =
      { (context.withSource inner).constructorPlan contributions constructor with
        source := .nullable inner } := by
  unfold constructorPlan
  rw [member_withSource admits plain, admits]
  rfl

theorem sourceEnum_withSource (target : Definition) :
    Lockstep (Failure.SameButNull (context.display inner)) Eq
      ((context.withSource inner).sourceEnum target) (context.sourceEnum target) := by
  unfold sourceEnum
  rw [source?_withSource admits plain]
  cases context.source?.filter (·.isEnum) with
  | some source => exact .ok rfl
  | none =>
      rw [admits]
      exact .error (.enumSourceRequired target.name context.mapper.span)

theorem enumPlan_withSource (target : Definition) (assignments : List Assignment) :
    Lockstep (Failure.SameButNull (context.display inner))
      (fun before after => after = { before with source := .nullable inner })
      ((context.withSource inner).enumPlan target assignments)
      (context.enumPlan target assignments) := by
  apply (sourceEnum_withSource admits plain target).bind
  intro source _ same
  subst same
  have sameRoutes : Lockstep (Failure.SameButNull (context.display inner)) Eq
      (assignments.mapM (Assignment.toRoute source target))
      (assignments.mapM (Assignment.toRoute source target)) :=
    Lockstep.refl .same fun _ _ => rfl
  apply sameRoutes.bind
  intro routes _ same
  subst same
  rw [admits]
  exact .ok rfl

/-- Apart from a single value, the stages take no notice of null. -/
theorem simulation_withSource :
    Simulation (context.withSource inner) context (Failure.SameButNull (context.display inner))
      Eq Eq (fun before after =>
        (∀ plan, before ≠ .value plan) → after = before.withSource (.nullable inner)) where
  sameForm := rfl
  sameFailure := .same
  read := Lockstep.refl .same fun _ _ => rfl
  contribute := by
    intro assignments _ same
    subst same
    exact Lockstep.refl .same fun _ _ => rfl
  value := fun _ _ _ _ noValue => absurd rfl (noValue _)
  enumeration := by
    intro target assignments _ same
    subst same
    apply (enumPlan_withSource admits plain target assignments).imp id
    intro before after same _
    exact congrArg Plan.enumeration same
  sameRank := by
    intro contributions _ same
    subst same
    have samePlans := constructorPlan_withSource admits plain contributions
    constructor
    · intro constructor
      rw [samePlans]
    · intro constructor
      rw [samePlans]
      rfl
  construction := by
    intro contributions _ same constructor _
    subst same
    exact congrArg Plan.construction (constructorPlan_withSource admits plain _ constructor)

end Simulation

theorem hasErrors_withSource {plan : Plan} (noValue : ∀ value, plan ≠ .value value)
    (source : Ty) :
    (context.review (plan.withSource source)).hasErrors = false ↔
      ((context.withSource inner).review plan).hasErrors = false := by
  cases plan with
  | construction plan => exact Iff.rfl
  | enumeration plan =>
      change (context.review (.enumeration { plan with source })).hasErrors = false ↔ _
      rw [review_enumeration_hasErrors_iff, review_enumeration_hasErrors_iff]
      exact Iff.rfl
  | value plan => exact absurd rfl (noValue plan)

theorem ne_value_of_resolve (notScalar : context.mapper.target.isScalar = false)
    {resolved : Resolved} (success : context.resolve = .ok resolved) (plan : ValuePlan) :
    resolved.plan ≠ .value plan := by
  obtain ⟨assignments, -, planned⟩ := planned_of_resolve success
  intro isValue
  rw [isValue] at planned
  cases planned with
  | value scalar _ =>
      rw [scalar] at notScalar
      cases notScalar

/-- A class or an enum is made from a source that admits null as from one that does not: the
same way, for the same reason, and no less validly. For a class not even a finding differs. -/
theorem resolve_withSource (admits : context.mapper.source = .nullable inner)
    (plain : inner.isNullable = false) (notScalar : context.mapper.target.isScalar = false) :
    Lockstep (Failure.SameButNull (context.display inner))
      (fun before after =>
        after.plan = before.plan.withSource (.nullable inner) ∧ after.choice = before.choice ∧
          (after.findings.hasErrors = false ↔ before.findings.hasErrors = false) ∧
          ∀ plan, before.plan = .construction plan → after.findings = before.findings)
      (context.withSource inner).resolve context.resolve := by
  have together := (simulation_withSource admits plain).resolve_lockstep
  apply together.eq_ok.imp id
  intro before after stages
  obtain ⟨atPlain, -, samePlan, sameChoice, reviewed, alsoReviewed⟩ := stages
  have noValue : ∀ plan, before.plan ≠ .value plan := @ne_value_of_resolve
    (context.withSource inner) notScalar before atPlain
  have withSource := samePlan noValue
  rw [reviewed, alsoReviewed, withSource]
  refine ⟨rfl, sameChoice.symm, hasErrors_withSource noValue _, ?_⟩
  intro plan isConstruction
  rw [isConstruction]
  rfl

theorem plan?_of_scalar (admits : context.mapper.source = .nullable inner)
    (noNull : context.mapper.target.isNullable = false)
    (scalar : context.mapper.target.isScalar = true) : Outcome.plan? context.resolve = none := by
  rw [Option.eq_none_iff_forall_ne_some]
  intro plan carried
  obtain ⟨resolved, success, valid, -⟩ := Outcome.plan?_eq_some_iff.mp carried
  obtain ⟨_, _, -, -, isValue⟩ := value_of_resolve scalar success
  rw [findings_of_resolve success, isValue, review_value_hasErrors_iff] at valid
  have unrelated := Ty.conversion?_nullable_scalar inner scalar noNull
  unfold valuePlan at valid
  rw [admits, unrelated] at valid
  cases valid.1

theorem unread_of_source?_eq_none (unknown : context.source? = none)
    (notScalar : context.mapper.target.isScalar = false) {resolved : Resolved}
    (success : context.resolve = .ok resolved) :
    ∃ plan, resolved.plan = .construction plan ∧
      ∀ member ∈ plan.members, ∀ read, Source.property read ∈ member.sources →
        read.isAutomatic = false := by
  obtain ⟨assignments, -, planned⟩ := planned_of_resolve success
  generalize resolved.plan = plan at planned ⊢
  cases planned with
  | value scalar _ =>
      rw [scalar] at notScalar
      cases notScalar
  | enumeration _ _ planned =>
      obtain ⟨source, _, declared, -⟩ := enumPlan_eq_ok planned
      rw [unknown] at declared
      cases declared
  | construction _ _ _ contributed =>
      refine ⟨_, rfl, ?_⟩
      intro member isMember read among
      obtain ⟨parameter, -, rfl⟩ := List.mem_map.mp isMember
      rcases property_of_member contributed among with ⟨-, own⟩ | ⟨explicitly, -⟩
      · obtain ⟨source, declared, -⟩ := own
        rw [unknown] at declared
        cases declared
      · exact explicitly

/-- From a source that admits null to a target that does not: a single value is never
carried out. A class or an enum has the plan, if any, that it has from the same source
without null, and so reads just as much of it. Only what admits null twice is not looked
through, and nothing is read of it by name. -/
theorem plan?_of_nullable (admits : context.mapper.source = .nullable inner)
    (noNull : context.mapper.target.isNullable = false) :
    (context.mapper.target.isScalar = true → Outcome.plan? context.resolve = none) ∧
      (context.mapper.target.isScalar = false → inner.isNullable = false →
        Outcome.plan? context.resolve =
          (Outcome.plan? (context.withSource inner).resolve).map
            (Plan.withSource (.nullable inner))) ∧
      (inner.isNullable = true → ∀ plan, Outcome.plan? context.resolve = some plan →
        ∃ constructs, plan = .construction constructs ∧
          ∀ member ∈ constructs.members, ∀ read, Source.property read ∈ member.sources →
            read.isAutomatic = false) := by
  refine ⟨plan?_of_scalar admits noNull, ?_, ?_⟩
  · intro notScalar plain
    apply Outcome.plan?_of_lockstep
    apply (resolve_withSource admits plain notScalar).imp id
    intro before after related
    exact ⟨related.1, related.2.2.1⟩
  · intro twice plan carried
    have unknown : context.source? = none := by
      unfold source? TypeLookup.declared?
      rw [admits, Ty.reference?_nullable_nullable twice]
      rfl
    obtain ⟨resolved, success, -, rfl⟩ := Outcome.plan?_eq_some_iff.mp carried
    cases scalar : context.mapper.target.isScalar with
    | true =>
        rw [plan?_of_scalar admits noNull scalar] at carried
        cases carried
    | false => exact unread_of_source?_eq_none unknown scalar success

theorem reporting_plan?_of_nullable :
    ∃ plan, Outcome.plan? reporting.resolve = some plan ∧
      Outcome.plan? (reporting.withSource (.nullable reporting.mapper.source)).resolve =
        some (plan.withSource (.nullable reporting.mapper.source)) := by
  have carried : Outcome.plan? reporting.resolve = some _ := rfl
  have admits : (reporting.withSource (.nullable reporting.mapper.source)).mapper.source =
    .nullable reporting.mapper.source := rfl
  obtain ⟨-, sameAsPlain, -⟩ := plan?_of_nullable admits rfl
  have plan := sameAsPlain rfl rfl
  rw [show ((reporting.withSource (.nullable reporting.mapper.source)).withSource
    reporting.mapper.source) = reporting from rfl, carried] at plan
  exact ⟨_, carried, plan⟩

/-- Both a class and an enum are read of a source that may be null. -/
theorem nullable_sources_valid :
    Catalog.road.IsBuilt ∧
      (∃ plan member read,
        Outcome.plan? (reporting.withSource (.nullable reporting.mapper.source)).resolve =
          some (.construction plan) ∧
        reporting.mapper.target.isNullable = false ∧ member ∈ plan.members ∧
        Source.property read ∈ member.sources) ∧
      ∃ plan,
        Outcome.plan? (signalling.withSource (.nullable signalling.mapper.source)).resolve =
          some (.enumeration plan) ∧
        signalling.mapper.target.isNullable = false := by
  refine ⟨Catalog.road_isBuilt, ?_, ?_⟩
  · exact ⟨_, _, _, rfl, rfl, List.mem_cons_self, List.mem_cons_self⟩
  · exact ⟨_, rfl, rfl⟩

end Context

end MappingPlan
