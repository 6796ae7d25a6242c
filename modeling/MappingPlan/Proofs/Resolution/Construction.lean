/-
When the plan for a class may be carried out: every assignment names a parameter of
the constructor chosen, and every parameter is settled by one fit directive, by a
fit property of its name, or by its declared default.
-/

import MappingPlan.Proofs.Catalog.Coherence
import MappingPlan.Proofs.Plan.Review
import MappingPlan.Proofs.Resolution.Stages
import MappingPlan.Proofs.Source.Contribution

set_option autoImplicit false

namespace MappingPlan

namespace Context

variable {context : Context} {assignments : List Assignment}
  {contributions : List Contribution}

inductive DirectiveFits (context : Context) (slot : Ty) : Directive → Prop where
  | property {member : MemberRef} :
      context.policy.Accepts member.type slot → DirectiveFits context slot (.property member)
  | constant {value : Literal} :
      context.policy.Accepts value.type slot → DirectiveFits context slot (.constant value)
  | expression {body : Closure} :
      context.policy.Accepts body.result slot → DirectiveFits context slot (.expression body)
  | transform {member : MemberRef} {closure : Closure} :
      (∀ input, closure.parameter = some input → context.policy.Accepts member.type input) →
      context.policy.Accepts closure.result slot →
      DirectiveFits context slot (.transform (.property member) closure)
  | via {member : MemberRef} {delegate : Delegate} {point : EntryPoint} :
      context.types.entryPoint? delegate.mapper delegate.kind = some point →
      context.policy.Accepts member.type point.parameter →
      context.policy.Accepts point.result slot →
      DirectiveFits context slot (.via (.property member) delegate)

/-- A property found by name is fit for a slot, through the mapper call that discovery
puts around it if there is one. -/
def PropertyFits (context : Context) (type slot : Ty) : Prop :=
  match context.discovered? type slot with
  | some call =>
      context.policy.Accepts type call.parameter ∧ context.policy.Accepts call.result slot
  | none => context.policy.Accepts type slot

/-- The three ways to settle a parameter. -/
inductive Settled (context : Context) (assignments : List Assignment)
    (parameter : Parameter) : Prop where
  | directed {assignment : Assignment} :
      assignments.filter (·.target = parameter.name) = [assignment] →
      context.DirectiveFits parameter.type assignment.directive →
      Settled context assignments parameter
  | automatic {property : Property} :
      (∀ assignment ∈ assignments, assignment.target ≠ parameter.name) →
      context.namedProperty? parameter.name = some property →
      context.PropertyFits property.type parameter.type →
      Settled context assignments parameter
  | defaulted :
      (∀ assignment ∈ assignments, assignment.target ≠ parameter.name) →
      context.namedProperty? parameter.name = none →
      parameter.hasDefault = true → context.policy.defaultArguments = true →
      Settled context assignments parameter

theorem entryPoint?_of_entryCall {delegate : Delegate} {call : EntryCall}
    (called : context.entryCall delegate = .ok call) :
    ∃ point, context.types.entryPoint? delegate.mapper delegate.kind = some point ∧
      call.parameter = point.parameter ∧ call.result = point.result := by
  unfold entryCall at called
  unfold TypeLookup.entryPoint?
  split at called
  next => cases called
  next definition found =>
    split at called
    · split at called
      next => cases called
      next point atKind =>
        obtain rfl := Except.ok.inj called
        rw [found]
        exact ⟨point, atKind, rfl, rfl⟩
    · cases called

theorem sourceFits_of_read {slot : Ty} {member : MemberRef} {adapter : Option Adapter}
    {read : PropertyRead} (found : member.read adapter = .ok read) :
    context.SourceFits slot (.property read) ↔
      (∀ input, adapter.bind (·.input?) = some input →
        context.policy.Accepts member.type input) ∧
      context.policy.Accepts ((adapter.map Adapter.result).getD member.type) slot := by
  obtain ⟨_, -, rfl⟩ := read_eq_ok found
  cases adapter <;> rfl

theorem sourceFits_iff_directiveFits {slot : Ty} {directive : Directive} {source : Source}
    (reads : context.Reads directive source) :
    context.SourceFits slot source ↔ context.DirectiveFits slot directive := by
  cases reads with
  | property found =>
      rw [sourceFits_of_read found]
      constructor
      · intro fits
        exact .property fits.2
      · intro fits
        cases fits with
        | property accepted =>
            refine ⟨?_, accepted⟩
            intro input impossible
            cases impossible
  | constant =>
      constructor
      · exact .constant
      · intro fits
        cases fits with
        | constant accepted => exact accepted
  | expression =>
      constructor
      · exact .expression
      · intro fits
        cases fits with
        | expression accepted => exact accepted
  | transform found =>
      rw [sourceFits_of_read found]
      constructor
      · intro fits
        exact .transform fits.1 fits.2
      · intro fits
        cases fits with
        | transform takes accepted => exact ⟨takes, accepted⟩
  | @via member delegate call read called found =>
      obtain ⟨point, atKind, sameParameter, sameResult⟩ := entryPoint?_of_entryCall called
      rw [sourceFits_of_read found]
      constructor
      · intro fits
        have takes := fits.1 call.parameter rfl
        exact .via atKind (sameParameter ▸ takes) (sameResult ▸ fits.2)
      · intro fits
        cases fits with
        | via alsoAtKind takes accepted =>
            obtain rfl := Option.some.inj (atKind.symm.trans alsoAtKind)
            constructor
            · intro input given
              obtain rfl := Option.some.inj given
              exact sameParameter ▸ takes
            · change context.policy.Accepts call.result slot
              rw [sameResult]
              exact accepted

/-! ### Members and strays -/

theorem sourceFits_automatic_iff {property : Property} {slot : Ty} :
    context.SourceFits slot (.property (context.automaticRead property slot)) ↔
      context.PropertyFits property.type slot := by
  unfold PropertyFits
  simp only [SourceFits, PropertyRead.result, automaticRead]
  cases context.discovered? property.type slot with
  | none => simp
  | some call => simp [Adapter.input?, Adapter.result]

/-- A member that directives are about needs just one of them, and that one fit. -/
theorem memberFits_iff_of_directed
    (contributed : context.contributions assignments = .ok contributions)
    {parameter : Parameter} {first : Assignment} {others : List Assignment}
    (directed : assignments.filter (·.target = parameter.name) = first :: others) :
    context.MemberFits (context.member contributions parameter) ↔
      others = [] ∧ context.DirectiveFits parameter.type first.directive := by
  have related := offered_forall₂ contributed parameter.name
  rw [directed] at related
  obtain ⟨source, more, atFirst, atOthers, sources⟩ := List.forall₂_cons_left_iff.mp related
  have sameFitness : context.SourceFits parameter.type source ↔
      context.DirectiveFits parameter.type first.directive :=
    sourceFits_iff_directiveFits (reads_of_explicitSource atFirst)
  unfold MemberFits
  rw [member_sources, sources, List.isEmpty_cons, if_neg Bool.false_ne_true, ← sameFitness]
  constructor
  · intro single
    obtain ⟨only, same, fits⟩ := single
    obtain ⟨rfl, rfl⟩ := List.cons.inj same
    exact ⟨List.forall₂_nil_right_iff.mp atOthers, fits⟩
  · intro single
    obtain ⟨rfl, fits⟩ := single
    rw [List.forall₂_nil_left_iff.mp atOthers]
    exact ⟨source, rfl, fits⟩

/-- A member that no directive is about needs a fit property of its name, or else a
default. -/
theorem memberFits_iff_of_undirected
    (contributed : context.contributions assignments = .ok contributions)
    {parameter : Parameter}
    (undirected : assignments.filter (·.target = parameter.name) = []) :
    context.MemberFits (context.member contributions parameter) ↔
      match context.namedProperty? parameter.name with
      | some property => context.PropertyFits property.type parameter.type
      | none => parameter.hasDefault = true ∧ context.policy.defaultArguments = true := by
  have related := offered_forall₂ contributed parameter.name
  rw [undirected, List.forall₂_nil_left_iff] at related
  unfold MemberFits
  rw [member_sources, related, List.isEmpty_nil, if_pos rfl, fallback?_eq]
  cases context.namedProperty? parameter.name with
  | some property =>
      dsimp only
      rw [← sourceFits_automatic_iff, Option.toList_some]
      constructor
      · intro single
        obtain ⟨only, same, fits⟩ := single
        obtain rfl := List.singleton_inj.mp same
        exact fits
      · intro fits
        exact ⟨_, rfl, fits⟩
  | none =>
      dsimp only
      rw [← Bool.and_eq_true]
      split
      next allowed => exact ⟨fun _ => allowed, fun _ => ⟨_, rfl, trivial⟩⟩
      next forbidden =>
        refine ⟨?_, fun allowed => absurd allowed forbidden⟩
        intro single
        obtain ⟨_, impossible, -⟩ := single
        cases impossible

theorem memberFits_iff_settled
    (contributed : context.contributions assignments = .ok contributions)
    (parameter : Parameter) :
    context.MemberFits (context.member contributions parameter) ↔
      context.Settled assignments parameter := by
  have unaddressed : assignments.filter (·.target = parameter.name) = [] ↔
      ∀ assignment ∈ assignments, assignment.target ≠ parameter.name := by
    simp only [List.filter_eq_nil_iff, decide_eq_true_eq, ne_eq]
  cases directed : assignments.filter (·.target = parameter.name) with
  | nil =>
      rw [memberFits_iff_of_undirected contributed directed]
      have nobody := unaddressed.mp directed
      constructor
      · intro fits
        cases named : context.namedProperty? parameter.name with
        | some property =>
            rw [named] at fits
            exact .automatic nobody named fits
        | none =>
            rw [named] at fits
            exact .defaulted nobody named fits.1 fits.2
      · intro settled
        cases settled with
        | directed addressed fits =>
            rw [directed] at addressed
            cases addressed
        | automatic _ named fits =>
            rw [named]
            exact fits
        | defaulted _ unnamed hasDefault allowed =>
            rw [unnamed]
            exact ⟨hasDefault, allowed⟩
  | cons first others =>
      rw [memberFits_iff_of_directed contributed directed]
      constructor
      · intro single
        obtain ⟨rfl, fits⟩ := single
        exact .directed directed fits
      · have addressed : ¬∀ assignment ∈ assignments, assignment.target ≠ parameter.name := by
          rw [← unaddressed, directed]
          exact List.cons_ne_nil first others
        intro settled
        cases settled with
        | directed alsoDirected fits =>
            obtain ⟨rfl, rfl⟩ := List.cons.inj (directed.symm.trans alsoDirected)
            exact ⟨rfl, fits⟩
        | automatic nobody => exact absurd nobody addressed
        | defaulted nobody => exact absurd nobody addressed

theorem strays_eq_nil_iff
    (contributed : context.contributions assignments = .ok contributions)
    (constructor : Constructor) :
    (context.constructorPlan contributions constructor).strays = [] ↔
      ∀ assignment ∈ assignments, ∃ parameter ∈ constructor.parameters,
        parameter.name = assignment.target := by
  have named (target : String) : (constructor.parameter? target).isNone = false ↔
      ∃ parameter ∈ constructor.parameters, parameter.name = target := by
    unfold Constructor.parameter?
    simp
  have sameTargets := contributions_map_target contributed
  calc (context.constructorPlan contributions constructor).strays = []
      ↔ ∀ contribution ∈ contributions,
          (constructor.parameter? contribution.target).isNone = false := by
        unfold constructorPlan
        simp only [List.map_eq_nil_iff, List.filter_eq_nil_iff, Bool.not_eq_true]
    _ ↔ ∀ target ∈ contributions.map (·.target), (constructor.parameter? target).isNone = false :=
        by rw [List.forall_mem_map]
    _ ↔ ∀ target ∈ assignments.map (·.target),
          ∃ parameter ∈ constructor.parameters, parameter.name = target := by
        rw [sameTargets]
        exact forall₂_congr fun target _ => named target
    _ ↔ _ := by rw [List.forall_mem_map]

/-- A plan for a class may be carried out exactly if every assignment names a parameter
of the constructor chosen and every parameter of it is settled. -/
theorem construction_plan?_isSome_iff {target : Definition} {constructors : List Constructor}
    {properties : List Property} (declared : context.target? = some target)
    (isClass : target.body = .classBody constructors properties) {resolved : Resolved}
    (success : context.resolve = .ok resolved) :
    ∃ assignments plan, context.mapper.assignments = .ok assignments ∧
      resolved.plan = .construction plan ∧ plan.constructor ∈ target.visibleConstructors ∧
      (resolved.plan?.isSome = true ↔
        (∀ assignment ∈ assignments, ∃ parameter ∈ plan.constructor.parameters,
          parameter.name = assignment.target) ∧
        ∀ parameter ∈ plan.constructor.parameters, context.Settled assignments parameter) := by
  obtain ⟨assignments, contributions, read, contributed, constructor, visible, planned, reviewed⟩ :=
    construction_of_resolve declared isClass success
  refine ⟨assignments, _, read, planned, visible, ?_⟩
  rw [Resolved.plan?_isSome_iff, reviewed, planned, review_construction_hasErrors_iff,
    strays_eq_nil_iff contributed, and_comm]
  apply and_congr Iff.rfl
  unfold constructorPlan
  rw [List.forall_mem_map]
  exact forall₂_congr fun parameter _ => memberFits_iff_settled contributed parameter

def reporting : Context where
  types := Catalog.road.lookup
  policy := .standard
  mapper :=
    { name := "reporting"
      source := .named ⟨2⟩
      target := .named ⟨3⟩
      body := some (.call
        { name := "mapping"
          arguments := [.closure
            { body := [.call
                { name := "constant"
                  receiver := some (.member ⟨.named ⟨3⟩, "unit", .string, .unknown⟩)
                  arguments := [.literal { value := .string "mm" }] }] }] }) }

theorem reporting_settled :
    ∃ assignments resolved plan, reporting.mapper.assignments = .ok assignments ∧
      reporting.resolve = .ok resolved ∧ resolved.plan = .construction plan ∧
      ∀ parameter ∈ plan.constructor.parameters, reporting.Settled assignments parameter := by
  have declared : reporting.target? = some _ := rfl
  have success : reporting.resolve = .ok _ := rfl
  obtain ⟨assignments, plan, read, planned, -, validity⟩ :=
    construction_plan?_isSome_iff declared rfl success
  exact ⟨assignments, _, plan, read, success, planned, (validity.mp rfl).2⟩

end Context

end MappingPlan
