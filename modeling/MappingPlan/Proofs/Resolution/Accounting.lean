/-
What becomes of the assignments of a body. A plan for a class takes up each of them once:
as a source of the member it names, or as a stray if there is no such member. A plan for a
single value has all of them as strays. A review reports each stray once.
-/

import MappingPlan.Proofs.Directive.Collected
import MappingPlan.Proofs.Plan.Findings
import MappingPlan.Proofs.Resolution.Rearrangement

set_option autoImplicit false

namespace MappingPlan

theorem Constructor.parameter?_isNone (constructor : Constructor) (name : String) :
    (constructor.parameter? name).isNone =
      decide (name ∉ constructor.parameters.map (·.name)) := by
  unfold parameter?
  rw [Bool.eq_iff_iff, decide_eq_true_eq, Option.isNone_iff_eq_none, List.find?_eq_none]
  simp only [List.mem_map, decide_eq_true_eq, not_exists, not_and]

namespace Context

variable {context : Context} {assignments : List Assignment}
  {contributions : List Contribution}

structure StraysFrom (context : Context) (assignment : Assignment) (stray : Stray) : Prop where
  target : stray.target = assignment.target
  span : stray.span = assignment.span
  source : ∃ source, stray.source = some source ∧ context.explicitSource assignment = .ok source

theorem straysFrom_toStray {assignment : Assignment} {contribution : Contribution}
    (read : context.contribution assignment = .ok contribution) :
    context.StraysFrom assignment contribution.toStray := by
  obtain ⟨sameTarget, sameSpan, found⟩ := contribution_eq_ok_iff.mp read
  exact ⟨sameTarget, sameSpan, contribution.source, rfl, found⟩

/-- A plan for a class takes up every assignment once, in its place. -/
structure Accounts (context : Context) (assignments : List Assignment)
    (plan : ConstructorPlan) : Prop where
  parameters : plan.members.map (·.parameter) = plan.constructor.parameters
  distinct : (plan.constructor.parameters.map (·.name)).Nodup
  explicit : ∀ member ∈ plan.members,
    List.Forall₂ (fun assignment source => context.explicitSource assignment = .ok source)
      (assignments.filter (·.target = member.parameter.name))
      (member.sources.filter (·.isExplicit))
  exclusive : ∀ member ∈ plan.members, (∃ source ∈ member.sources, source.isExplicit = true) →
    ∀ source ∈ member.sources, source.isExplicit = true
  atMostOne : ∀ member ∈ plan.members,
    (∀ source ∈ member.sources, source.isExplicit = false) → member.sources.length ≤ 1
  strays : List.Forall₂ context.StraysFrom
    (assignments.filter (·.target ∉ plan.constructor.parameters.map (·.name))) plan.strays
  partition : assignments.Perm
    (plan.members.flatMap (fun member => assignments.filter (·.target = member.parameter.name)) ++
      assignments.filter (·.target ∉ plan.constructor.parameters.map (·.name)))

/-- Explicit sources and strays together are as many as the assignments. -/
theorem Accounts.total {plan : ConstructorPlan} (accounts : context.Accounts assignments plan) :
    (plan.members.flatMap fun member => member.sources.filter (·.isExplicit)).length +
      plan.strays.length = assignments.length := by
  have ofMembers :
      (plan.members.map fun member => (member.sources.filter (·.isExplicit)).length) =
        plan.members.map fun member =>
          (assignments.filter (·.target = member.parameter.name)).length := by
    apply List.map_congr_left
    intro member isMember
    exact (accounts.explicit member isMember).length_eq.symm
  rw [accounts.partition.length_eq, List.length_append, List.length_flatMap,
    List.length_flatMap, accounts.strays.length_eq, ofMembers]

theorem explicit_member
    (contributed : context.contributions assignments = .ok contributions)
    (parameter : Parameter) :
    List.Forall₂ (fun assignment source => context.explicitSource assignment = .ok source)
      (assignments.filter (·.target = parameter.name))
      ((context.member contributions parameter).sources.filter (·.isExplicit)) := by
  rw [filter_isExplicit_member contributed]
  exact offered_forall₂ contributed parameter.name

/-- A member that a directive fills is filled by nothing else. -/
theorem exclusive_member
    (contributed : context.contributions assignments = .ok contributions)
    {parameter : Parameter}
    (directed : ∃ source ∈ (context.member contributions parameter).sources,
      source.isExplicit = true) :
    ∀ source ∈ (context.member contributions parameter).sources, source.isExplicit = true := by
  rw [member_sources] at directed ⊢
  split at directed
  next =>
    obtain ⟨source, found, isExplicit⟩ := directed
    rw [isExplicit_of_fallback? (Option.mem_toList.mp found)] at isExplicit
    cases isExplicit
  next someOffered =>
    rw [if_neg someOffered]
    exact fun source found => isExplicit_of_offered contributed found

theorem atMostOne_member
    (contributed : context.contributions assignments = .ok contributions)
    {parameter : Parameter}
    (undirected : ∀ source ∈ (context.member contributions parameter).sources,
      source.isExplicit = false) :
    (context.member contributions parameter).sources.length ≤ 1 := by
  have noneOffered : offered contributions parameter.name = [] := by
    rw [← filter_isExplicit_member contributed, List.filter_eq_nil_iff]
    intro source found
    rw [undirected source found]
    exact Bool.false_ne_true
  rw [member_sources, noneOffered, List.isEmpty_nil, if_pos rfl]
  exact Option.length_toList_le

theorem strays_constructorPlan
    (contributed : context.contributions assignments = .ok contributions)
    (constructor : Constructor) :
    List.Forall₂ context.StraysFrom
      (assignments.filter (·.target ∉ constructor.parameters.map (·.name)))
      (context.constructorPlan contributions constructor).strays := by
  have ofRest := filter_of_mapM contribution_target contributed
    fun name => (constructor.parameter? name).isNone
  have related : List.Forall₂ context.StraysFrom
      (assignments.filter fun assignment => (constructor.parameter? assignment.target).isNone)
      (context.constructorPlan contributions constructor).strays :=
    List.forall₂_map_right_iff.mpr (ofRest.imp fun _ _ => straysFrom_toStray)
  simp only [Constructor.parameter?_isNone] at related
  exact related

theorem accounts_constructorPlan
    (contributed : context.contributions assignments = .ok contributions)
    {constructor : Constructor} (distinct : (constructor.parameters.map (·.name)).Nodup) :
    context.Accounts assignments (context.constructorPlan contributions constructor) := by
  refine ⟨members_map_parameter contributions constructor, distinct, ?_, ?_, ?_,
    strays_constructorPlan contributed constructor, ?_⟩
  · intro member isMember
    obtain ⟨parameter, -, rfl⟩ := List.mem_map.mp isMember
    exact explicit_member contributed parameter
  · intro member isMember
    obtain ⟨parameter, -, rfl⟩ := List.mem_map.mp isMember
    exact exclusive_member contributed
  · intro member isMember
    obtain ⟨parameter, -, rfl⟩ := List.mem_map.mp isMember
    exact atMostOne_member contributed
  · have partition := perm_flatMap_filter (·.target) assignments distinct
    rw [List.flatMap_map] at partition
    unfold constructorPlan
    rw [List.flatMap_map]
    exact partition

theorem straysFrom_valuePlan
    (contributed : context.contributions assignments = .ok contributions) (type : Ty) :
    List.Forall₂ context.StraysFrom assignments
      (context.valuePlan type contributions).strays := by
  have related := (mapM_eq_ok_iff context.contribution assignments contributions).mp contributed
  exact List.forall₂_map_right_iff.mpr (related.imp fun _ _ => straysFrom_toStray)

/-- Every assignment of a body is accounted for, and there is one for each statement that
makes one. -/
theorem accounting_of_built {catalog : Catalog} (built : catalog.IsBuilt)
    (types : context.types = catalog.lookup) {resolved : Resolved}
    (success : context.resolve = .ok resolved) :
    ∃ assignments written, context.mapper.assignments = .ok assignments ∧
      context.mapper.written = .ok written ∧
      assignments.length = written.countP Reading.assigns ∧
      resolved.findings.filter (·.isUnknownTarget) =
        resolved.plan.strays.map
          (context.strayFinding (context.display resolved.plan.target)) ∧
      (∀ target constructors properties, context.target? = some target →
        target.body = .classBody constructors properties →
        ∃ plan, resolved.plan = .construction plan ∧
          plan.constructor ∈ target.visibleConstructors ∧ context.Accounts assignments plan ∧
          (plan.members.flatMap fun member => member.sources.filter (·.isExplicit)).length +
            plan.strays.length = written.countP Reading.assigns) ∧
      (context.mapper.target.isScalar = true →
        ∃ plan, resolved.plan = .value plan ∧
          List.Forall₂ context.StraysFrom assignments plan.strays) := by
  obtain ⟨assignments, -, -, read, -, -, -, reviewed⟩ := stages_of_resolve success
  obtain ⟨written, inBlock, sameLength⟩ := Mapper.length_of_assignments read
  refine ⟨assignments, written, read, inBlock, sameLength, ?_, ?_, ?_⟩
  · rw [reviewed]
    exact filter_isUnknownTarget_review resolved.plan
  · intro target constructors properties declared isClass
    obtain ⟨_, contributions, also, contributed, constructor, visible, planned, -⟩ :=
      construction_of_resolve declared isClass success
    obtain rfl := Except.ok.inj (read.symm.trans also)
    have ordered := constructorsDeclared_of_built built types declared
    have distinct := ordered.distinctParameters constructor (List.mem_filter.mp visible).1
    have accounts := accounts_constructorPlan contributed distinct
    exact ⟨_, planned, visible, accounts, accounts.total.trans sameLength⟩
  · intro scalar
    obtain ⟨_, contributions, also, contributed, planned⟩ := value_of_resolve scalar success
    obtain rfl := Except.ok.inj (read.symm.trans also)
    exact ⟨_, planned, straysFrom_valuePlan contributed _⟩

def unitMisspelt : Expr :=
  .call
    { name := "constant"
      receiver := some (.member ⟨.named ⟨3⟩, "units", .string, .unknown⟩)
      arguments := [.literal { value := .string "cm" }] }

/-- A mapper of four statements, one of which wraps what another assigns, and one of which
names no parameter. -/
def misspelling : Context where
  types := Catalog.road.lookup
  policy := .standard
  mapper :=
    { name := "misspelling"
      source := .named ⟨2⟩
      target := .named ⟨3⟩
      body := some (.call
        { name := "mapping"
          arguments := [.closure
            { body := [levelRead, unitFixed, levelScaled, unitMisspelt] }] }) }

theorem misspelling_accounting :
    ∃ resolved assignments plan, misspelling.resolve = .ok resolved ∧
      misspelling.mapper.assignments = .ok assignments ∧
      resolved.plan = .construction plan ∧ misspelling.Accounts assignments plan ∧
      (plan.members.flatMap fun member => member.sources.filter (·.isExplicit)).length +
        plan.strays.length = 3 ∧
      (resolved.findings.filter (·.isUnknownTarget)).map (·.message) =
        ["Target Report::units does not exist on the target"] := by
  have declared : misspelling.target? = some _ := rfl
  have success : misspelling.resolve = .ok _ := rfl
  obtain ⟨assignments, written, read, inBlock, -, reported, ofClass, -⟩ :=
    accounting_of_built Catalog.road_isBuilt rfl success
  obtain ⟨plan, planned, -, accounts, total⟩ := ofClass _ _ _ declared rfl
  obtain rfl := Except.ok.inj inBlock
  refine ⟨_, assignments, plan, success, read, planned, accounts, total, ?_⟩
  rw [reported]
  rfl

end Context

end MappingPlan
