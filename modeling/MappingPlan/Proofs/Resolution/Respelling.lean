/-
Resolutions of a body and of the same body with relays spelled differently. Where a
statement stands reaches a plan only through what is left over, and a diagnostic only as
the place where it is shown. So the plan, the choice and what is reported stay the same.
-/

import MappingPlan.Proofs.Directive.Spelling
import MappingPlan.Proofs.Resolution.Rearrangement

set_option autoImplicit false

namespace MappingPlan

def Contribution.unlocated (contribution : Contribution) : Contribution :=
  { contribution with span := .unknown }

def Route.unlocated (route : Route) : Route := { route with span := .unknown }

def Stray.unlocated (stray : Stray) : Stray := { stray with span := .unknown }

/-- A plan without the locations of what is left over. Its parts stay as they are. -/
def Plan.unlocated : Plan → Plan
  | construction plan => .construction { plan with strays := plan.strays.map .unlocated }
  | enumeration plan => .enumeration { plan with strays := plan.strays.map .unlocated }
  | value plan => .value { plan with strays := plan.strays.map .unlocated }

namespace Plan

theorem parts_unlocated (plan : Plan) : plan.unlocated.parts = plan.parts := by
  cases plan with
  | construction plan => rfl
  | enumeration plan => rfl
  | value plan => rfl

theorem strays_unlocated (plan : Plan) :
    plan.unlocated.strays = plan.strays.map .unlocated := by
  cases plan with
  | construction plan => rfl
  | enumeration plan => rfl
  | value plan => rfl

end Plan

def Diagnostic.wording (diagnostic : Diagnostic) : Severity × String :=
  (diagnostic.severity, diagnostic.message)

def Failure.SameCause (left right : Failure) : Prop := left.cause = right.cause

theorem Failure.SameCause.refl (failure : Failure) : failure.SameCause failure := rfl

theorem forall₂_iff_map_eq {Value View : Type} {view : Value → View} {left right : List Value} :
    List.Forall₂ (fun first second => view first = view second) left right ↔
      left.map view = right.map view := by
  rw [← List.forall₂_eq_eq_eq, List.forall₂_map_left_iff, List.forall₂_map_right_iff]

/-- A step whose failure and result look the same without the location of an assignment
runs in lockstep through assignments that differ in locations. -/
theorem mapM_lockstep_of_unlocated {Result View : Type} {view : Result → View}
    {step : Assignment → Except Failure Result}
    (each : ∀ assignment, Lockstep Failure.SameCause
      (fun left right => view left = view right) (step assignment.unlocated) (step assignment))
    {left right : List Assignment}
    (same : left.map Assignment.unlocated = right.map .unlocated) :
    Lockstep Failure.SameCause
      (fun atLeft atRight => atLeft.map view = atRight.map view)
      (left.mapM step) (right.mapM step) := by
  have step_lockstep : ∀ {first second : Assignment}, first.unlocated = second.unlocated →
      Lockstep Failure.SameCause (fun atFirst atSecond => view atFirst = view atSecond)
        (step first) (step second) := by
    intro first second sameUnlocated
    have atFirst := each first
    rw [sameUnlocated] at atFirst
    exact atFirst.of_common (each second)
  exact (Lockstep.mapM (forall₂_iff_map_eq.mpr same) step_lockstep).imp id forall₂_iff_map_eq.mp

namespace Context

variable {context : Context} {respelled : Expr}

theorem entryCall_relocated (delegate : Delegate) (span : Span) :
    Lockstep Failure.SameCause Eq (context.entryCall { delegate with span })
      (context.entryCall delegate) := by
  unfold entryCall
  dsimp only
  cases context.types.definition? delegate.mapper with
  | none => exact .error rfl
  | some definition =>
      dsimp only
      by_cases isMapper : definition.isMapper
      · rw [if_pos isMapper, if_pos isMapper]
        cases definition.entryPoint? delegate.kind with
        | none => exact .error rfl
        | some point => exact .ok rfl
      · rw [if_neg isMapper, if_neg isMapper]
        exact .error rfl

theorem wrappedMember_relocated (base : Directive) (wrapper : Wrapper) (left right : Span) :
    Lockstep Failure.SameCause Eq (base.wrappedMember wrapper left)
      (base.wrappedMember wrapper right) := by
  cases base with
  | property source => exact .ok rfl
  | _ => exact .error rfl

/-- The location of an assignment shows in a failure at most. -/
theorem explicitSource_unlocated (assignment : Assignment) :
    Lockstep Failure.SameCause Eq (context.explicitSource assignment.unlocated)
      (context.explicitSource assignment) := by
  obtain ⟨target, directive, span⟩ := assignment
  cases directive with
  | property source => exact .refl Failure.SameCause.refl fun _ _ => rfl
  | constant value => exact .ok rfl
  | expression body => exact .ok rfl
  | transform base closure =>
      apply (wrappedMember_relocated base .transform .unknown span).bind
      intro member _ same
      subst same
      exact .refl Failure.SameCause.refl fun _ _ => rfl
  | via base delegate =>
      apply (wrappedMember_relocated base .via .unknown span).bind
      intro member _ same
      subst same
      apply (entryCall_relocated delegate .unknown).bind
      intro call _ same
      subst same
      exact .refl Failure.SameCause.refl fun _ _ => rfl
  | entry source => exact .error rfl

theorem contribution_unlocated (assignment : Assignment) :
    Lockstep Failure.SameCause (fun left right => left.unlocated = right.unlocated)
      (context.contribution assignment.unlocated) (context.contribution assignment) := by
  apply (explicitSource_unlocated assignment).bind
  intro source _ same
  subst same
  exact .ok rfl

theorem toRoute_unlocated (source target : Definition) (assignment : Assignment) :
    Lockstep Failure.SameCause (fun left right => left.unlocated = right.unlocated)
      (assignment.unlocated.toRoute source target) (assignment.toRoute source target) := by
  obtain ⟨name, directive, span⟩ := assignment
  unfold Assignment.toRoute
  cases directive with
  | entry entry =>
      simp only [Assignment.unlocated, Directive.unlocated]
      by_cases declared : source.hasEntry entry.name
      · rw [if_pos declared, if_pos declared]
        exact .ok rfl
      · rw [if_neg declared, if_neg declared]
        exact .error rfl
  | _ => exact .error rfl

theorem member_unlocated (contributions : List Contribution) (parameter : Parameter) :
    context.member (contributions.map .unlocated) parameter =
      context.member contributions parameter := by
  unfold member
  rw [List.filter_map, List.map_map]
  rfl

theorem constructorPlan_unlocated (contributions : List Contribution)
    (constructor : Constructor) :
    Plan.unlocated (.construction (context.constructorPlan contributions constructor)) =
      .construction (context.constructorPlan (contributions.map .unlocated) constructor) := by
  unfold Plan.unlocated constructorPlan
  dsimp only
  rw [funext (member_unlocated contributions), List.filter_map, List.map_map, List.map_map]
  rfl

theorem valuePlan_unlocated (type : Ty) (contributions : List Contribution) :
    Plan.unlocated (.value (context.valuePlan type contributions)) =
      .value (context.valuePlan type (contributions.map .unlocated)) := by
  unfold Plan.unlocated valuePlan
  dsimp only
  rw [List.map_map, List.map_map]
  rfl

theorem ofRoutes_unlocated (source : Definition) (routes : List Route) :
    EntryPlan.ofRoutes source (routes.map .unlocated) = EntryPlan.ofRoutes source routes := by
  funext target
  unfold EntryPlan.ofRoutes
  rw [List.filter_map, List.map_map]
  rfl

theorem map_toStray_unlocated (target : Definition) (routes : List Route) :
    ((routes.filter fun route => !target.hasEntry route.target).map (·.toStray)).map
        Stray.unlocated =
      ((routes.map Route.unlocated).filter fun route => !target.hasEntry route.target).map
        (·.toStray) := by
  rw [List.filter_map, List.map_map, List.map_map]
  rfl

theorem enumPlan_lockstep_of_unlocated (target : Definition) {left right : List Assignment}
    (same : left.map Assignment.unlocated = right.map .unlocated) :
    Lockstep Failure.SameCause
      (fun leftPlan rightPlan =>
        Plan.unlocated (.enumeration leftPlan) = .unlocated (.enumeration rightPlan))
      (context.enumPlan target left) (context.enumPlan target right) := by
  apply Lockstep.bind (Lockstep.refl Failure.SameCause.refl fun source _ => Eq.refl source)
  intro source _ sameSource
  subst sameSource
  apply (mapM_lockstep_of_unlocated (toRoute_unlocated source target) same).bind
  intro leftRoutes rightRoutes sameRoutes
  apply Lockstep.ok
  unfold Plan.unlocated
  dsimp only
  rw [map_toStray_unlocated, map_toStray_unlocated, ← ofRoutes_unlocated source leftRoutes,
    ← ofRoutes_unlocated source rightRoutes, sameRoutes]

/-! ### Resolutions -/

/-- Bodies read to assignments that differ in locations lead through the same stages. -/
theorem simulation_of_unlocated
    (read : Lockstep Failure.SameCause
      (fun left right => left.map Assignment.unlocated = right.map .unlocated)
      context.mapper.assignments (context.withBody respelled).mapper.assignments) :
    Simulation context (context.withBody respelled) Failure.SameCause
      (fun left right => left.map Assignment.unlocated = right.map .unlocated)
      (fun left right => left.map Contribution.unlocated = right.map .unlocated)
      (fun left right => left.unlocated = right.unlocated) where
  sameForm := rfl
  sameFailure := Failure.SameCause.refl
  read := read
  contribute := mapM_lockstep_of_unlocated contribution_unlocated
  value := by
    intro type atLeft atRight same
    rw [valuePlan_unlocated, valuePlan_unlocated, same]
    rfl
  enumeration := by
    intro target atLeft atRight same
    exact enumPlan_lockstep_of_unlocated target same
  sameRank := by
    intro atLeft atRight same
    refine ⟨fun _ => rfl, ?_⟩
    intro constructor
    unfold ConstructorPlan.explicitCount constructorPlan
    rw [← funext (member_unlocated atLeft), same, funext (member_unlocated atRight)]
    rfl
  construction := by
    intro atLeft atRight same constructor
    rw [constructorPlan_unlocated, constructorPlan_unlocated, same]
    rfl

theorem review_unlocated (context : Context) (plan : Plan) :
    (context.review plan.unlocated).map Diagnostic.wording =
      (context.review plan).map Diagnostic.wording := by
  have sameFindings : context.partFindings plan.unlocated = context.partFindings plan := by
    rw [← partFindings_parts, Plan.parts_unlocated, partFindings_parts]
  have sameTarget : plan.unlocated.target = plan.target := by
    rw [← target_parts, Plan.parts_unlocated, target_parts]
  unfold review
  rw [sameFindings, sameTarget, Plan.strays_unlocated, List.map_append, List.map_append,
    List.map_map, List.map_map, List.map_map]
  rfl

theorem hasErrors_of_wording {left right : Log}
    (same : left.map Diagnostic.wording = right.map Diagnostic.wording) :
    left.hasErrors = right.hasErrors := by
  have byWording (log : Log) :
      log.hasErrors = (log.map Diagnostic.wording).any fun said => said.1 = .error := by
    unfold Log.hasErrors
    rw [List.any_map]
    rfl
  rw [byWording, same, ← byWording]

end Context

structure Resolved.SameButLocations (left right : Resolved) : Prop where
  plan : left.plan.unlocated = right.plan.unlocated
  choice : left.choice = right.choice
  isValid : left.isValid = right.isValid
  findings : left.findings.map Diagnostic.wording = right.findings.map Diagnostic.wording

namespace Context

variable {context : Context}

theorem resolve_respelled {body : Expr} (given : context.mapper.body = some body)
    {members others : List Expr} (written : Reading.block body = .ok members)
    (respelled : List.Forall₂ Reading.Respelled members others) :
    Lockstep Failure.SameCause Resolved.SameButLocations context.resolve
      (context.withBody (Reading.withBlock others body)).resolve := by
  have read : Lockstep Failure.SameCause
      (fun left right => left.map Assignment.unlocated = right.map .unlocated)
      context.mapper.assignments
      (context.withBody (Reading.withBlock others body)).mapper.assignments :=
    (Mapper.assignments_respelled given written respelled).imp (congrArg Failure.cause) id
  apply (simulation_of_unlocated read).resolve_lockstep.imp id
  intro resolved also both
  obtain ⟨samePlan, sameChoice, reviewed, alsoReviewed⟩ := both
  have sameFindings : resolved.findings.map Diagnostic.wording =
      also.findings.map Diagnostic.wording := by
    rw [reviewed, alsoReviewed, ← review_unlocated, samePlan, review_unlocated]
    rfl
  refine ⟨samePlan, sameChoice, ?_, sameFindings⟩
  unfold Resolved.isValid
  rw [hasErrors_of_wording sameFindings]

/-- The spellings of a wrapped directive agree. A wrapper around a directive is read like
the directive and the wrapper behind it, with every failure. A property passed through
another mapper is read to one assignment up to locations, whether the mapper is called on
the property or the property is wrapped; and a body in which one spelling stands for the
other, at any statement, is resolved the same. -/
theorem spellings_agree :
    (∀ {call wrap : Call} {wrapper : Wrapper} {base : Assignment} {member : MemberRef},
      Reading.plain call = .ok base → wrap.wrapper? = some wrapper →
      member.name = base.target → ∀ collected,
        Reading.statement (.call { wrap with receiver := some (.call call) }) collected =
          Reading.statements
            [.call call, .call { wrap with receiver := some (.member member) }] collected) ∧
      (∀ {relay : Relay} {call : Call}, relay.Spelled call → ∀ collected,
        ∃ assignment,
          Reading.statement (.call call) collected = (.ok (), collected ++ [assignment]) ∧
            assignment.unlocated = relay.assignment) ∧
      ∀ {context : Context} {body : Expr} {members others : List Expr},
        context.mapper.body = some body → Reading.block body = .ok members →
        List.Forall₂ Reading.Respelled members others →
        Lockstep Failure.SameCause Resolved.SameButLocations context.resolve
          (context.withBody (Reading.withBlock others body)).resolve := by
  refine ⟨?_, ?_, ?_⟩
  · intro call wrap wrapper base member read wraps named
    exact Reading.statement_wrapping read wraps named
  · intro relay call spelled
    exact Reading.statement_of_spelled spelled
  · intro context body members others given written respelled
    exact resolve_respelled given written respelled

def levelInReport : MemberRef := ⟨.named ⟨3⟩, "level", .primitive .long, .unknown⟩

def levelWidened : Relay where
  target := "level"
  source := ⟨.named ⟨2⟩, "level", .primitive .int, .unknown⟩
  mapper := ⟨4⟩
  kind := .map

def levelUnwrapped : Call :=
  { name := "property"
    receiver := some (.member levelInReport)
    arguments := [.member levelWidened.source]
    span := .atPosition 2 5 }

def levelCalled : Call :=
  { name := "property"
    receiver := some (.member levelInReport)
    arguments :=
      [.call
        { name := "map"
          receiver := some (.mapper { mapper := ⟨4⟩ })
          arguments := [.member levelWidened.source]
          span := .atPosition 2 20 }]
    span := .atPosition 2 5 }

def levelPassed : Call :=
  { name := "via"
    receiver := some (.call levelUnwrapped)
    arguments := [.mapper { mapper := ⟨4⟩, span := .atPosition 2 40 }]
    span := .atPosition 2 5 }

def relayingBody : Expr :=
  .call
    { name := "mapping"
      arguments := [.closure { body := [.call levelCalled, unitFixed] }] }

def relaying : Context where
  types := Catalog.road.lookup
  policy := .standard
  mapper :=
    { name := "relaying", source := .named ⟨2⟩, target := .named ⟨3⟩, body := some relayingBody }

theorem relaying_spellings :
    Reading.statement (.call levelPassed) [] =
        Reading.statements
          [.call levelUnwrapped, .call { levelPassed with receiver := some (.member levelInReport) }]
          [] ∧
      (∃ assignment, Reading.statement (.call levelCalled) [] = (.ok (), [assignment]) ∧
        assignment.unlocated = levelWidened.assignment) ∧
      ∃ resolved also, relaying.resolve = .ok resolved ∧
        (relaying.withBody
          (Reading.withBlock [.call levelPassed, unitFixed] relayingBody)).resolve = .ok also ∧
        resolved.SameButLocations also ∧ also.isValid = true := by
  have called : levelWidened.Spelled levelCalled :=
    .direct levelInReport { mapper := ⟨4⟩ } (.atPosition 2 20) (.atPosition 2 5) rfl rfl
  have passed : levelWidened.Spelled levelPassed :=
    .chained levelInReport { mapper := ⟨4⟩, span := .atPosition 2 40 } (.atPosition 2 5)
      (.atPosition 2 5) rfl rfl rfl
  obtain ⟨behind, collected, replaced⟩ := spellings_agree
  have wraps : levelPassed.wrapper? = some .via := rfl
  have given : relaying.mapper.body = some relayingBody := rfl
  have written : Reading.block relayingBody = .ok [.call levelCalled, unitFixed] := rfl
  have lockstep := replaced given written
    (.cons (.relay called passed) (.cons (.kept unitFixed) .nil))
  refine ⟨behind rfl wraps rfl [], collected called [], _, _, rfl, rfl, ?_, rfl⟩
  exact lockstep.of_ok

end Context

end MappingPlan
