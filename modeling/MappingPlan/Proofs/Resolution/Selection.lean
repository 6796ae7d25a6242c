/-
Which constructor of a class a resolution calls. A primary constructor is called whatever
the body says; without one, a constructor with the most parameters that directives name
is, and of several such constructors the first declared.
-/

import MappingPlan.Proofs.Catalog.Coherence
import MappingPlan.Proofs.Resolution.Stages
import MappingPlan.Proofs.Source.Contribution

set_option autoImplicit false

namespace MappingPlan

/-- How many parameters assignments name, however many name the same one. -/
def Constructor.addressedCount (constructor : Constructor) (assignments : List Assignment) :
    Nat :=
  constructor.parameters.countP fun parameter => assignments.any (·.target = parameter.name)

namespace ChosenBy

variable {constructors : List Constructor} {score : Constructor → Nat}
  {selected : Constructor} {choice : Choice}

theorem mem {Element : Type} {isPrimary : Element → Bool} {score : Element → Nat}
    {elements : List Element} {chosen : Element}
    (reason : ChosenBy isPrimary score elements chosen choice) : chosen ∈ elements := by
  cases reason with
  | only single => exact single ▸ List.mem_singleton_self chosen
  | primary _ sole => exact (List.mem_filter.mp (sole ▸ List.mem_singleton_self chosen)).1
  | mostExplicit _ _ most => exact most.mem

/-- A primary constructor leaves no choice. -/
theorem eq_primary (declared : ConstructorsDeclared constructors)
    (reason : ChosenBy (·.isPrimary) score (constructors.filter (·.isVisible)) selected choice)
    {primary : Constructor} (member : primary ∈ constructors)
    (isPrimary : primary.isPrimary = true) :
    selected = primary ∧
      choice = if constructors.countP (·.isVisible) = 1 then .only else .primary := by
  have visible : primary ∈ constructors.filter (·.isVisible) :=
    List.mem_filter.mpr ⟨member, declared.primaryVisible primary member isPrimary⟩
  rw [List.countP_eq_length_filter]
  cases reason with
  | only single =>
      rw [single] at visible ⊢
      exact ⟨(List.mem_singleton.mp visible).symm, rfl⟩
  | primary several sole =>
      have among := List.mem_filter.mpr ⟨visible, isPrimary⟩
      rw [sole] at among
      exact ⟨(List.mem_singleton.mp among).symm, (if_neg several).symm⟩
  | mostExplicit _ notSole _ =>
      have someVisible : 0 < (constructors.filter (·.isVisible)).countP (·.isPrimary) :=
        List.countP_pos_iff.mpr ⟨primary, visible, isPrimary⟩
      have noMore : (constructors.filter (·.isVisible)).countP (·.isPrimary) ≤
          constructors.countP (·.isPrimary) :=
        List.filter_sublist.countP_le
      have atMostOne := declared.onePrimary
      omega

/-- Without a primary constructor the count decides, and then the place. -/
theorem eq_mostExplicit (declared : ConstructorsDeclared constructors)
    (reason : ChosenBy (·.isPrimary) score (constructors.filter (·.isVisible)) selected choice)
    (noPrimary : ∀ constructor ∈ constructors, constructor.isPrimary = false) :
    (∀ other ∈ constructors, other.isVisible = true →
      score other < score selected ∨
        score other = score selected ∧ selected.index ≤ other.index) ∧
      choice =
        if constructors.countP (·.isVisible) = 1 then .only
        else .mostExplicit (score selected) := by
  rw [List.countP_eq_length_filter]
  cases reason with
  | only single =>
      rw [single]
      refine ⟨?_, rfl⟩
      intro other member isVisible
      have visible := List.mem_filter.mpr ⟨member, isVisible⟩
      rw [single] at visible
      obtain rfl := List.mem_singleton.mp visible
      exact Or.inr ⟨rfl, Nat.le_refl _⟩
  | primary _ sole =>
      have among : selected ∈ (constructors.filter (·.isVisible)).filter (·.isPrimary) :=
        sole ▸ List.mem_singleton_self selected
      obtain ⟨visible, isPrimary⟩ := List.mem_filter.mp among
      rw [noPrimary selected (List.mem_filter.mp visible).1] at isPrimary
      cases isPrimary
  | mostExplicit several _ most =>
      refine ⟨?_, (if_neg several).symm⟩
      intro other member isVisible
      have ordered : (constructors.filter (·.isVisible)).Pairwise (·.index < ·.index) :=
        declared.pairwise_index.sublist List.filter_sublist
      exact most.lt_or_place_le ordered (List.mem_filter.mpr ⟨member, isVisible⟩)

end ChosenBy

namespace Context

variable {context : Context} {assignments : List Assignment}
  {contributions : List Contribution}

theorem explicitCount_eq_addressedCount
    (contributed : context.contributions assignments = .ok contributions)
    (constructor : Constructor) :
    (context.constructorPlan contributions constructor).explicitCount =
      constructor.addressedCount assignments := by
  rw [explicitCount_constructorPlan contributed]
  apply List.countP_congr
  intro parameter _
  have sameLength := (offered_forall₂ contributed parameter.name).length_eq
  rw [Bool.not_eq_true', List.isEmpty_eq_false_iff, ← List.length_pos_iff, ← sameLength,
    List.length_pos_iff, ← List.isEmpty_eq_false_iff]
  simp

/-- The plan for a class is one of those for its visible constructors, chosen by what the
assignments name. -/
theorem chosen_of_resolve {target : Definition} {constructors : List Constructor}
    {properties : List Property} (declared : context.target? = some target)
    (isClass : target.body = .classBody constructors properties) {resolved : Resolved}
    (success : context.resolve = .ok resolved) :
    ∃ assignments contributions selected choice,
      context.mapper.assignments = .ok assignments ∧
      context.contributions assignments = .ok contributions ∧
      resolved.plan = .construction (context.constructorPlan contributions selected) ∧
      resolved.choice = some choice ∧
      ChosenBy (·.isPrimary) (·.addressedCount assignments)
        (constructors.filter (·.isVisible)) selected choice := by
  obtain ⟨assignments, form, candidates, read, formed, fills, settled, -⟩ :=
    stages_of_resolve success
  obtain rfl := targetForm_of_class declared isClass formed
  cases fills with
  | @construction _ _ contributions contributed =>
      obtain ⟨⟨plan, choice⟩, chose, same⟩ := bind_eq_ok_iff.mp settled
      obtain ⟨samePlan, sameChoice⟩ := Prod.mk.inj (Except.ok.inj same)
      unfold choose at chose
      split at chose
      next chosen picked =>
        obtain rfl := Except.ok.inj chose
        obtain ⟨selected, rfl, reason⟩ := (ConstructorPlan.chosenBy_of_choose? picked).of_map
        rw [Definition.visibleConstructors_of_class isClass] at reason
        simp only [explicitCount_eq_addressedCount contributed] at reason
        exact ⟨assignments, contributions, selected, choice, read, contributed, samePlan.symm,
          sameChoice.symm, reason⟩
      next => cases chose

/-- The constructor called is a visible one of the class, with one member for each of its
parameters. It is the primary one if there is one; otherwise no visible constructor has
more parameters that assignments name, and none before it as many. -/
theorem selection_of_built {catalog : Catalog} (built : catalog.IsBuilt)
    (types : context.types = catalog.lookup) {target : Definition}
    {constructors : List Constructor} {properties : List Property}
    (declared : context.target? = some target)
    (isClass : target.body = .classBody constructors properties) {resolved : Resolved}
    (success : context.resolve = .ok resolved) :
    ∃ assignments plan, context.mapper.assignments = .ok assignments ∧
      resolved.plan = .construction plan ∧
      plan.constructor.isVisible = true ∧
      constructors[plan.constructor.index]? = some plan.constructor ∧
      plan.members.map (·.parameter) = plan.constructor.parameters ∧
      (∀ primary ∈ constructors, primary.isPrimary = true →
        plan.constructor = primary ∧
          resolved.choice =
            some (if constructors.countP (·.isVisible) = 1 then .only else .primary)) ∧
      ((∀ constructor ∈ constructors, constructor.isPrimary = false) →
        (∀ other ∈ constructors, other.isVisible = true →
          other.addressedCount assignments < plan.constructor.addressedCount assignments ∨
            other.addressedCount assignments = plan.constructor.addressedCount assignments ∧
              plan.constructor.index ≤ other.index) ∧
        resolved.choice =
          some (if constructors.countP (·.isVisible) = 1 then .only
            else .mostExplicit (plan.constructor.addressedCount assignments))) := by
  obtain ⟨assignments, contributions, selected, choice, read, contributed, samePlan, sameChoice,
    reason⟩ := chosen_of_resolve declared isClass success
  have ordered := constructorsDeclared_of_built built types declared
  rw [Definition.constructors_of_class isClass] at ordered
  obtain ⟨member, isVisible⟩ := List.mem_filter.mp reason.mem
  refine ⟨assignments, _, read, samePlan, isVisible, ordered.getElem?_index member,
    members_map_parameter contributions selected, ?_, ?_⟩
  · intro primary isDeclared isPrimary
    rw [sameChoice]
    obtain ⟨same, forced⟩ := reason.eq_primary ordered isDeclared isPrimary
    exact ⟨same, congrArg some forced⟩
  · intro noPrimary
    rw [sameChoice]
    obtain ⟨most, forced⟩ := reason.eq_mostExplicit ordered noPrimary
    exact ⟨most, congrArg some forced⟩

/-- The declaration of a class without a primary constructor, with a hidden one between
those that a mapper may call. -/
def parcelSteps : List Draft.Step :=
  let name : Parameter := ⟨"name", .string, false⟩
  let weight : Parameter := ⟨"weight", .primitive .int, false⟩
  [.declare ⟨"Parcel", .classBody []
    [⟨.secondary, [name]⟩, ⟨.hidden, [weight, name]⟩, ⟨.secondary, [name, weight]⟩,
      ⟨.secondary, [weight, name]⟩]⟩]

def parcels : Catalog :=
  let draft := (Draft.empty.run parcelSteps).2
  ⟨draft.definitions, draft.names, .ofDefinitions draft.definitions.values⟩

def labelling : Context where
  types := parcels.lookup
  policy := .standard
  mapper :=
    { name := "labelling"
      source := .string
      target := .named ⟨0⟩
      body := some (.call
        { name := "mapping"
          arguments := [.closure
            { body := [constant "weight" (.int 1), constant "name" (.string "small"),
                constant "weight" (.int 2)] }] }) }
where
  constant (member : String) (value : LiteralValue) : Expr :=
    .call
      { name := "constant"
        receiver := some (.member ⟨.named ⟨0⟩, member, value.type, .unknown⟩)
        arguments := [.literal { value := value }] }

theorem labelling_selection :
    ∃ resolved plan, labelling.resolve = .ok resolved ∧ resolved.plan = .construction plan ∧
      plan.constructor.index = 2 ∧ resolved.choice = some (.mostExplicit 2) := by
  have built : parcels.IsBuilt := ⟨parcelSteps, rfl⟩
  have declared : labelling.target? = some _ := rfl
  have success : labelling.resolve = .ok _ := rfl
  obtain ⟨assignments, plan, read, samePlan, -, -, -, -, unforced⟩ :=
    selection_of_built built rfl declared rfl success
  obtain rfl := Except.ok.inj read
  obtain rfl := Plan.construction.inj samePlan
  obtain ⟨-, choice⟩ := unforced (by decide)
  exact ⟨_, _, success, rfl, rfl, choice⟩

end Context

end MappingPlan
