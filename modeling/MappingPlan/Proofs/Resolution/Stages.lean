/-
The stages of a resolution, one after another. A resolution that succeeds has read the body,
found the form of the target and assembled one plan from what it read. Of two resolutions side
by side, what each stage has to keep for them to end alike is a field of `Simulation`; that
they do is proved from the fields once.
-/

import MappingPlan.Proofs.Plan.Choice
import MappingPlan.Resolution

set_option autoImplicit false

namespace MappingPlan

namespace Definition

variable {definition : Definition} {constructors : List Constructor} {properties : List Property}

theorem constructors_of_class (isClass : definition.body = .classBody constructors properties) :
    definition.constructors = constructors := by
  unfold Definition.constructors
  rw [isClass]

theorem visibleConstructors_of_class
    (isClass : definition.body = .classBody constructors properties) :
    definition.visibleConstructors = constructors.filter (·.isVisible) := by
  unfold visibleConstructors
  rw [constructors_of_class isClass]

end Definition

namespace Context

variable {context : Context} {target : Definition}

theorem isScalar_of_reference? {type : Ty} {id : TypeId}
    (referenced : type.reference? = some id) : type.isScalar = false := by
  unfold Ty.reference? at referenced
  unfold Ty.isScalar
  cases reached : type.core <;> rw [reached] at referenced <;> first | rfl | cases referenced

theorem isScalar_of_declared {types : TypeLookup} {type : Ty}
    (declared : types.declared? type = some target) : type.isScalar = false := by
  obtain ⟨id, referenced, -⟩ := Option.bind_eq_some_iff.mp declared
  exact isScalar_of_reference? referenced

theorem targetForm_cases {form : TargetForm} (formed : context.targetForm = .ok form) :
    (context.mapper.target.isScalar = true ∧ form = .value context.mapper.target) ∨
      ∃ target, context.target? = some target ∧
        ((∃ entries, target.body = .enumBody entries) ∧ form = .enumeration target ∨
          (∃ constructors properties, target.body = .classBody constructors properties) ∧
            target.visibleConstructors ≠ [] ∧
            form = .construction target target.visibleConstructors) := by
  unfold targetForm at formed
  dsimp only at formed
  split at formed
  next scalar => exact Or.inl ⟨scalar, (Except.ok.inj formed).symm⟩
  next notScalar =>
    split at formed
    next => cases formed
    next id referenced =>
      split at formed
      next => cases formed
      next target found =>
        have declared : context.target? = some target := by
          unfold target? TypeLookup.declared?
          rw [referenced, Option.bind_some, found]
        refine Or.inr ⟨target, declared, ?_⟩
        split at formed
        next entries isEnum =>
          exact Or.inl ⟨⟨entries, isEnum⟩, (Except.ok.inj formed).symm⟩
        next => cases formed
        next constructors properties isClass =>
          split at formed
          next => cases formed
          next constructors someConstructor =>
            exact Or.inr ⟨⟨_, _, isClass⟩, someConstructor, (Except.ok.inj formed).symm⟩

theorem targetForm_of_class {constructors : List Constructor} {properties : List Property}
    (declared : context.target? = some target)
    (isClass : target.body = .classBody constructors properties) {form : TargetForm}
    (formed : context.targetForm = .ok form) :
    form = .construction target target.visibleConstructors := by
  rcases targetForm_cases formed with ⟨scalar, -⟩ | ⟨other, also, cases⟩
  · rw [isScalar_of_declared declared] at scalar
    cases scalar
  · obtain rfl := Option.some.inj (declared.symm.trans also)
    rcases cases with ⟨⟨_, isEnum⟩, -⟩ | ⟨-, -, same⟩
    · rw [isClass] at isEnum
      cases isEnum
    · exact same

theorem visible_of_targetForm {constructors : List Constructor}
    (formed : context.targetForm = .ok (.construction target constructors)) :
    constructors ≠ [] := by
  rcases targetForm_cases formed with ⟨-, impossible⟩ | ⟨_, -, ⟨-, impossible⟩ | ⟨-, visible, same⟩⟩
  · cases impossible
  · cases impossible
  · cases same
    exact visible

/-! ### Success -/

theorem resolve_eq (context : Context) :
    context.resolve = context.plan.map fun settled =>
      ⟨settled.1, settled.2, context.review settled.1⟩ := by
  unfold resolve
  cases context.plan <;> rfl

inductive Fills (context : Context) (assignments : List Assignment) :
    TargetForm → Candidates → Prop where
  | value {type : Ty} {contributions : List Contribution} :
      context.contributions assignments = .ok contributions →
      Fills context assignments (.value type)
        (.single (.value (context.valuePlan type contributions)))
  | enumeration {target : Definition} {plan : EnumPlan} :
      context.enumPlan target assignments = .ok plan →
      Fills context assignments (.enumeration target) (.single (.enumeration plan))
  | construction {target : Definition} {constructors : List Constructor}
      {contributions : List Contribution} :
      context.contributions assignments = .ok contributions →
      Fills context assignments (.construction target constructors)
        (.constructors (constructors.map (context.constructorPlan contributions)))

theorem fills_of_assemble {assignments : List Assignment} {candidates : Candidates}
    (assembled : context.assemble assignments = .ok candidates) :
    ∃ form, context.targetForm = .ok form ∧ context.Fills assignments form candidates := by
  obtain ⟨form, formed, assembled⟩ := bind_eq_ok_iff.mp assembled
  refine ⟨form, formed, ?_⟩
  cases form with
  | value type =>
      obtain ⟨contributions, contributed, same⟩ := bind_eq_ok_iff.mp assembled
      obtain rfl := Except.ok.inj same
      exact .value contributed
  | enumeration target =>
      obtain ⟨plan, planned, same⟩ := bind_eq_ok_iff.mp assembled
      obtain rfl := Except.ok.inj same
      exact .enumeration planned
  | construction target constructors =>
      obtain ⟨contributions, contributed, same⟩ := bind_eq_ok_iff.mp assembled
      obtain rfl := Except.ok.inj same
      exact .construction contributed

/-- A resolution that succeeds has read the body, found the form of the target, and
settled on one of the candidates for it. -/
theorem stages_of_resolve {resolved : Resolved} (success : context.resolve = .ok resolved) :
    ∃ assignments form candidates, context.mapper.assignments = .ok assignments ∧
      context.targetForm = .ok form ∧ context.Fills assignments form candidates ∧
      context.settle candidates = .ok (resolved.plan, resolved.choice) ∧
      resolved.findings = context.review resolved.plan := by
  obtain ⟨⟨plan, choice⟩, planned, same⟩ := bind_eq_ok_iff.mp success
  obtain rfl := Except.ok.inj same
  obtain ⟨assignments, read, planned⟩ := bind_eq_ok_iff.mp planned
  obtain ⟨candidates, assembled, settled⟩ := bind_eq_ok_iff.mp planned
  obtain ⟨form, formed, fills⟩ := fills_of_assemble assembled
  exact ⟨assignments, form, candidates, read, formed, fills, settled, rfl⟩

inductive Planned (context : Context) (assignments : List Assignment) : Plan → Prop where
  | value {contributions : List Contribution} :
      context.mapper.target.isScalar = true →
      context.contributions assignments = .ok contributions →
      Planned context assignments (.value (context.valuePlan context.mapper.target contributions))
  | enumeration {target : Definition} {plan : EnumPlan} :
      context.target? = some target →
      (∃ entries, target.body = .enumBody entries) →
      context.enumPlan target assignments = .ok plan →
      Planned context assignments (.enumeration plan)
  | construction {target : Definition} {constructor : Constructor}
      {contributions : List Contribution} :
      context.target? = some target →
      (∃ constructors properties, target.body = .classBody constructors properties) →
      constructor ∈ target.visibleConstructors →
      context.contributions assignments = .ok contributions →
      Planned context assignments
        (.construction (context.constructorPlan contributions constructor))

theorem planned_of_settle {assignments : List Assignment} {form : TargetForm}
    {candidates : Candidates} {plan : Plan} {choice : Option Choice}
    (formed : context.targetForm = .ok form) (fills : context.Fills assignments form candidates)
    (settled : context.settle candidates = .ok (plan, choice)) :
    context.Planned assignments plan := by
  rcases targetForm_cases formed with
    ⟨scalar, rfl⟩ | ⟨target, declared, ⟨isEnum, rfl⟩ | ⟨isClass, visible, rfl⟩⟩
  · cases fills with
    | value contributed =>
        obtain ⟨rfl, -⟩ := Prod.mk.inj (Except.ok.inj settled)
        exact .value scalar contributed
  · cases fills with
    | enumeration planned =>
        obtain ⟨rfl, -⟩ := Prod.mk.inj (Except.ok.inj settled)
        exact .enumeration declared isEnum planned
  · cases fills with
    | @construction _ _ contributions contributed =>
        obtain ⟨chosen, isVisible, _, atChosen, -⟩ :=
          ConstructorPlan.choose?_map (.refl (context.constructorPlan contributions)) _ visible
        simp only [settle, choose, atChosen] at settled
        obtain ⟨rfl, -⟩ := Prod.mk.inj (Except.ok.inj settled)
        exact .construction declared isClass isVisible contributed

theorem planned_of_resolve {resolved : Resolved} (success : context.resolve = .ok resolved) :
    ∃ assignments, context.mapper.assignments = .ok assignments ∧
      context.Planned assignments resolved.plan := by
  obtain ⟨assignments, _, _, read, formed, fills, settled, -⟩ := stages_of_resolve success
  exact ⟨assignments, read, planned_of_settle formed fills settled⟩

theorem findings_of_resolve {resolved : Resolved} (success : context.resolve = .ok resolved) :
    resolved.findings = context.review resolved.plan := by
  obtain ⟨-, -, -, -, -, -, -, reviewed⟩ := stages_of_resolve success
  exact reviewed

theorem value_of_resolve (scalar : context.mapper.target.isScalar = true) {resolved : Resolved}
    (success : context.resolve = .ok resolved) :
    ∃ assignments contributions, context.mapper.assignments = .ok assignments ∧
      context.contributions assignments = .ok contributions ∧
      resolved.plan = .value (context.valuePlan context.mapper.target contributions) := by
  obtain ⟨assignments, read, planned⟩ := planned_of_resolve success
  generalize resolved.plan = plan at planned ⊢
  cases planned with
  | value _ contributed => exact ⟨assignments, _, read, contributed, rfl⟩
  | enumeration declared _ _ | construction declared _ _ _ =>
      rw [isScalar_of_declared declared] at scalar
      cases scalar

theorem construction_of_resolve {constructors : List Constructor} {properties : List Property}
    (declared : context.target? = some target)
    (isClass : target.body = .classBody constructors properties) {resolved : Resolved}
    (success : context.resolve = .ok resolved) :
    ∃ assignments contributions, context.mapper.assignments = .ok assignments ∧
      context.contributions assignments = .ok contributions ∧
      ∃ constructor ∈ target.visibleConstructors,
        resolved.plan = .construction (context.constructorPlan contributions constructor) ∧
        resolved.findings = context.review resolved.plan := by
  obtain ⟨assignments, read, planned⟩ := planned_of_resolve success
  refine ⟨assignments, ?_⟩
  rw [findings_of_resolve success]
  generalize resolved.plan = plan at planned ⊢
  cases planned with
  | value scalar _ =>
      rw [isScalar_of_declared declared] at scalar
      cases scalar
  | enumeration also isEnum _ =>
      obtain rfl := Option.some.inj (declared.symm.trans also)
      rw [isClass] at isEnum
      obtain ⟨_, impossible⟩ := isEnum
      cases impossible
  | construction also _ visible contributed =>
      obtain rfl := Option.some.inj (declared.symm.trans also)
      exact ⟨_, read, contributed, _, visible, rfl, rfl⟩

theorem enumeration_of_resolve {entries : List String}
    (declared : context.target? = some target) (isEnum : target.body = .enumBody entries)
    {resolved : Resolved} (success : context.resolve = .ok resolved) :
    ∃ assignments plan, context.mapper.assignments = .ok assignments ∧
      context.enumPlan target assignments = .ok plan ∧ resolved.plan = .enumeration plan ∧
      resolved.findings = context.review resolved.plan := by
  obtain ⟨assignments, read, planned⟩ := planned_of_resolve success
  refine ⟨assignments, ?_⟩
  rw [findings_of_resolve success]
  generalize resolved.plan = plan at planned ⊢
  cases planned with
  | value scalar _ =>
      rw [isScalar_of_declared declared] at scalar
      cases scalar
  | enumeration also _ planned =>
      obtain rfl := Option.some.inj (declared.symm.trans also)
      exact ⟨_, read, planned, rfl, rfl⟩
  | construction also isClass _ _ =>
      obtain rfl := Option.some.inj (declared.symm.trans also)
      rw [isEnum] at isClass
      obtain ⟨_, _, impossible⟩ := isClass
      cases impossible

end Context

/-! ### Two resolutions -/

namespace Context

/-- Two contexts whose resolutions go through the same stages, with what each stage
yields related. -/
structure Simulation (left right : Context) (failures : Failure → Failure → Prop)
    (assignments : List Assignment → List Assignment → Prop)
    (contributions : List Contribution → List Contribution → Prop)
    (plans : Plan → Plan → Prop) : Prop where
  sameForm : left.targetForm = right.targetForm
  sameFailure : ∀ failure, failures failure failure
  read : Lockstep failures assignments left.mapper.assignments right.mapper.assignments
  contribute : ∀ {atLeft atRight}, assignments atLeft atRight →
    Lockstep failures contributions (left.contributions atLeft) (right.contributions atRight)
  value : ∀ type {atLeft atRight}, contributions atLeft atRight →
    plans (.value (left.valuePlan type atLeft)) (.value (right.valuePlan type atRight))
  enumeration : ∀ target {atLeft atRight}, assignments atLeft atRight →
    Lockstep failures
      (fun leftPlan rightPlan => plans (.enumeration leftPlan) (.enumeration rightPlan))
      (left.enumPlan target atLeft) (right.enumPlan target atRight)
  sameRank : ∀ {atLeft atRight}, contributions atLeft atRight →
    ConstructorPlan.SameRank (left.constructorPlan atLeft) (right.constructorPlan atRight)
  construction : ∀ {atLeft atRight}, contributions atLeft atRight → ∀ constructor,
    plans (.construction (left.constructorPlan atLeft constructor))
      (.construction (right.constructorPlan atRight constructor))

namespace Simulation

variable {left right : Context} {failures : Failure → Failure → Prop}
  {assignments : List Assignment → List Assignment → Prop}
  {contributions : List Contribution → List Contribution → Prop}
  {plans : Plan → Plan → Prop}

theorem assemble_lockstep
    (simulation : Simulation left right failures assignments contributions plans)
    {atLeft atRight : List Assignment} (related : assignments atLeft atRight) :
    Lockstep failures (Candidates.Related plans) (left.assemble atLeft)
      (right.assemble atRight) := by
  have contributed := simulation.contribute related
  unfold assemble
  rw [← simulation.sameForm]
  cases formed : left.targetForm with
  | error failure => exact .error (simulation.sameFailure failure)
  | ok form =>
      cases form with
      | value type =>
          apply contributed.bind
          intro _ _ matching
          exact .ok (.single (simulation.value type matching))
      | enumeration target =>
          apply (simulation.enumeration target related).bind
          intro _ _ matching
          exact .ok (.single matching)
      | construction target constructors =>
          apply contributed.bind
          intro _ _ matching
          exact .ok (.constructors (simulation.sameRank matching) constructors
            (visible_of_targetForm formed) (simulation.construction matching))

theorem plan_lockstep
    (simulation : Simulation left right failures assignments contributions plans) :
    Lockstep failures (fun atLeft atRight => plans atLeft.1 atRight.1 ∧ atLeft.2 = atRight.2)
      left.plan right.plan := by
  apply simulation.read.bind
  intro _ _ related
  apply (simulation.assemble_lockstep related).bind
  intro _ _ candidates
  exact settle_lockstep left right candidates

/-- The resolutions end alike: each with a failure, or each with a plan, chosen for the
same reason and reviewed on its own. -/
theorem resolve_lockstep
    (simulation : Simulation left right failures assignments contributions plans) :
    Lockstep failures
      (fun atLeft atRight => plans atLeft.plan atRight.plan ∧ atLeft.choice = atRight.choice ∧
        atLeft.findings = left.review atLeft.plan ∧
        atRight.findings = right.review atRight.plan)
      left.resolve right.resolve := by
  apply simulation.plan_lockstep.bind
  intro _ _ related
  exact .ok ⟨related.1, related.2, rfl, rfl⟩

end Simulation

end Context

end MappingPlan
