/-
Resolutions of a body and of the same body with two neighbouring statements swapped.
Every part of a plan is made from the assignments to one target, so a swap of
statements about different targets can only rearrange what is left over.
-/

import MappingPlan.Proofs.Catalog.Coherence
import MappingPlan.Proofs.Directive.StatementOrder
import MappingPlan.Proofs.Plan.Review
import MappingPlan.Proofs.Plan.Routes
import MappingPlan.Proofs.Resolution.Stages
import MappingPlan.Proofs.Source.Contribution

set_option autoImplicit false

namespace MappingPlan

namespace Plan

/-- The parts of a plan without what is left over. -/
def parts : Plan → Plan
  | construction plan => .construction { plan with strays := [] }
  | enumeration plan => .enumeration { plan with strays := [] }
  | value plan => .value { plan with strays := [] }

/-- Plans with the same parts, and the same left over in some order. -/
structure Rearranged (left right : Plan) : Prop where
  sameParts : left.parts = right.parts
  strays : left.strays.Perm right.strays

end Plan

namespace Context

def withBody (context : Context) (body : Expr) : Context :=
  { context with mapper := { context.mapper with body := some body } }

variable {context : Context} {swapped : Expr}

theorem partFindings_parts (context : Context) (plan : Plan) :
    context.partFindings plan.parts = context.partFindings plan := by
  cases plan with
  | construction plan => rfl
  | enumeration plan => rfl
  | value plan => rfl

theorem target_parts (plan : Plan) : plan.parts.target = plan.target := by
  cases plan with
  | construction plan => rfl
  | enumeration plan => rfl
  | value plan => rfl

theorem review_perm {left right : Plan} (rearranged : left.Rearranged right) :
    (context.review left).Perm ((context.withBody swapped).review right) := by
  have sameFindings : context.partFindings left =
      (context.withBody swapped).partFindings right := by
    rw [← partFindings_parts, rearranged.sameParts, partFindings_parts]
    rfl
  have sameTarget : left.target = right.target := by
    rw [← target_parts, rearranged.sameParts, target_parts]
  unfold review
  rw [sameFindings, sameTarget]
  exact (rearranged.strays.map _).append_left _

theorem hasErrors_perm {left right : Log} (perm : left.Perm right) :
    left.hasErrors = right.hasErrors :=
  perm.any_eq

theorem member_congr {atLeft atRight : List Contribution}
    (same : SameParts Contribution.target atLeft atRight) (parameter : Parameter) :
    context.member atLeft parameter = context.member atRight parameter := by
  unfold member
  rw [same parameter.name]

theorem constructorPlan_rearranged {atLeft atRight : List Contribution}
    (same : SameParts Contribution.target atLeft atRight) (constructor : Constructor) :
    Plan.Rearranged (.construction (context.constructorPlan atLeft constructor))
      (.construction (context.constructorPlan atRight constructor)) where
  sameParts := by
    unfold Plan.parts constructorPlan
    rw [funext (member_congr same)]
  strays := (same.perm.filter _).map _

theorem enumPlan_lockstep {atLeft atRight : List Assignment}
    (same : SameParts Assignment.target atLeft atRight) (target : Definition) :
    Lockstep (fun _ _ => True)
      (fun leftPlan rightPlan =>
        Plan.Rearranged (.enumeration leftPlan) (.enumeration rightPlan))
      (context.enumPlan target atLeft) (context.enumPlan target atRight) := by
  apply Lockstep.bind (Lockstep.refl (fun _ => trivial) fun source _ => Eq.refl source)
  intro source _ sameSource
  subst sameSource
  apply (same.mapM_lockstep Assignment.toRoute_target).bind
  intro leftRoutes rightRoutes sameRoutes
  refine .ok ⟨?_, (sameRoutes.perm.filter _).map _⟩
  have sameEntry :
      EntryPlan.ofRoutes source leftRoutes = EntryPlan.ofRoutes source rightRoutes := by
    funext entry
    unfold EntryPlan.ofRoutes
    rw [sameRoutes entry]
  unfold Plan.parts
  rw [sameEntry]

/-- Bodies read to lists with the same parts lead through the same stages. -/
theorem simulation_of_sameParts
    (read : Lockstep (fun _ _ => True) (SameParts Assignment.target)
      context.mapper.assignments (context.withBody swapped).mapper.assignments) :
    Simulation context (context.withBody swapped) (fun _ _ => True)
      (SameParts Assignment.target) (SameParts Contribution.target) Plan.Rearranged where
  sameForm := rfl
  sameFailure := fun _ => trivial
  read := read
  contribute := by
    intro atLeft atRight same
    exact same.mapM_lockstep contribution_target
  value := by
    intro type atLeft atRight same
    exact ⟨rfl, same.perm.map _⟩
  enumeration := by
    intro target atLeft atRight same
    exact enumPlan_lockstep same target
  sameRank := by
    intro atLeft atRight same
    refine ⟨fun _ => rfl, ?_⟩
    intro constructor
    unfold ConstructorPlan.explicitCount constructorPlan
    rw [funext (member_congr same)]
    rfl
  construction := by
    intro atLeft atRight same constructor
    exact constructorPlan_rearranged same constructor

/-- Of two neighbouring statements that are not about the same target, it does not matter
which comes first: the same constructor is chosen for the same reason, every member,
entry or value gets the same sources, and the same is found, only what is left over
and the findings may come in another order. -/
theorem resolve_swap {body : Expr} (given : context.mapper.body = some body)
    {before after : List Expr} {first second : Expr}
    (written : Reading.block body = .ok (before ++ first :: second :: after))
    (apart : ∀ name, Reading.addressee? first = some name →
      Reading.addressee? second ≠ some name)
    {collected : List Assignment} (read : context.mapper.assignments = .ok collected) :
    let swapped :=
      context.withBody (Reading.withBlock (before ++ second :: first :: after) body)
    (∃ also, swapped.mapper.assignments = .ok also) ∧
      ((∃ resolved, context.resolve = .ok resolved) ↔
        ∃ resolved, swapped.resolve = .ok resolved) ∧
      ∀ resolved also, context.resolve = .ok resolved → swapped.resolve = .ok also →
        resolved.choice = also.choice ∧ resolved.plan.parts = also.plan.parts ∧
          resolved.isValid = also.isValid ∧
          resolved.plan.strays.Perm also.plan.strays ∧
          resolved.findings.Perm also.findings := by
  obtain ⟨also, readSwapped, sameParts⟩ :=
    Mapper.assignments_swap given written apart read
  have readBoth : Lockstep (fun _ _ => True) (SameParts Assignment.target)
      context.mapper.assignments
      (context.withBody
        (Reading.withBlock (before ++ second :: first :: after) body)).mapper.assignments := by
    unfold withBody
    rw [read, readSwapped]
    exact .ok sameParts.symm
  have lockstep := (simulation_of_sameParts readBoth).resolve_lockstep
  refine ⟨⟨also, readSwapped⟩, lockstep.isOk_iff, ?_⟩
  intro resolved also success alsoSuccess
  rw [success, alsoSuccess] at lockstep
  obtain ⟨rearranged, sameChoice, reviewed, alsoReviewed⟩ := lockstep.of_ok
  have sameFindings : resolved.findings.Perm also.findings := by
    rw [reviewed, alsoReviewed]
    exact review_perm rearranged
  refine ⟨sameChoice, rearranged.sameParts, ?_, rearranged.strays, sameFindings⟩
  unfold Resolved.isValid
  rw [hasErrors_perm sameFindings]

def levelRead : Expr :=
  .call
    { name := "property"
      receiver := some (.member ⟨.named ⟨3⟩, "level", .primitive .long, .unknown⟩)
      arguments := [.member ⟨.named ⟨2⟩, "level", .primitive .int, .unknown⟩] }

def unitFixed : Expr :=
  .call
    { name := "constant"
      receiver := some (.member ⟨.named ⟨3⟩, "unit", .string, .unknown⟩)
      arguments := [.literal { value := .string "mm" }] }

def levelScaled : Expr :=
  .call
    { name := "transform"
      receiver := some (.member ⟨.named ⟨3⟩, "level", .primitive .long, .unknown⟩)
      arguments := [.closure { parameter := some (.primitive .int), result := .primitive .long }] }

def scalingBody : Expr :=
  .call
    { name := "mapping"
      arguments := [.closure { body := [levelRead, unitFixed, levelScaled] }] }

def scaling : Context where
  types := Catalog.road.lookup
  policy := .standard
  mapper :=
    { name := "scaling", source := .named ⟨2⟩, target := .named ⟨3⟩, body := some scalingBody }

theorem scaling_swap :
    ∃ resolved also, scaling.resolve = .ok resolved ∧
      (scaling.withBody
        (Reading.withBlock [levelRead, levelScaled, unitFixed] scalingBody)).resolve = .ok also ∧
      resolved.plan.parts = also.plan.parts ∧ also.isValid = true := by
  have given : scaling.mapper.body = some scalingBody := rfl
  have written : Reading.block scalingBody =
      .ok ([levelRead] ++ unitFixed :: levelScaled :: []) := rfl
  have apart : ∀ name, Reading.addressee? unitFixed = some name →
      Reading.addressee? levelScaled ≠ some name := by
    intro name own
    obtain rfl : "unit" = name := Option.some.inj own
    decide
  have read : scaling.mapper.assignments = .ok _ := rfl
  obtain ⟨-, -, together⟩ := resolve_swap given written apart read
  obtain ⟨-, sameParts, sameValidity, -, -⟩ := together _ _ rfl rfl
  exact ⟨_, _, rfl, rfl, sameParts, sameValidity.symm⟩

end Context

end MappingPlan
