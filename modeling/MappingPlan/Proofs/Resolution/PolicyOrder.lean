/-
Resolutions of one mapper under different policies. A policy that allows more leads to
the same failure or the same choice, and to a plan that is valid if the plan under the
lesser policy is: a call that discovery adds takes exactly what the property gives.
-/

import MappingPlan.Proofs.Plan.Findings
import MappingPlan.Proofs.Resolution.Construction
import MappingPlan.Proofs.Source.NestedCall

set_option autoImplicit false

namespace MappingPlan

/-- What one policy allows the other allows too. How strict they are about enums does
not matter. -/
structure Policy.AtMost (lesser greater : Policy) : Prop where
  defaultArguments : lesser.defaultArguments = true → greater.defaultArguments = true
  implicitConversions : lesser.implicitConversions = true → greater.implicitConversions = true
  nestedMappers : lesser.nestedMappers = true → greater.nestedMappers = true

def Plan.constructor? : Plan → Option Constructor
  | .construction plan => some plan.constructor
  | _ => none

variable {lesser greater : Policy}

theorem Policy.AtMost.accepts (atMost : lesser.AtMost greater) {found expected : Ty}
    (accepted : lesser.Accepts found expected) : greater.Accepts found expected := by
  rcases accepted with stored | ⟨allowed, widened⟩
  · exact Or.inl stored
  · exact Or.inr ⟨atMost.implicitConversions allowed, widened⟩

/-- Without a conversion by identity, what a policy accepts is widened. -/
theorem Policy.Accepts.widening {policy : Policy} {found expected : Ty}
    (accepted : policy.Accepts found expected)
    (notAssignable : found.assignableTo expected = false) :
    ∃ narrow wide, found.conversion? expected = some (.widening narrow wide) := by
  rcases accepted with stored | ⟨-, widened⟩
  · unfold Ty.assignableTo at notAssignable
    rw [stored] at notAssignable
    cases notAssignable
  · exact widened

namespace Context

variable {catalog : Catalog} {mapper : Mapper}

/-- A call found in place of a widening takes the whole value, for nothing is widened on
its way into a list. -/
theorem conversion?_of_nestedCall? (built : catalog.IsBuilt) {policy : Policy}
    {source target : Ty} {narrow wide : Primitive}
    (widened : source.conversion? target = some (.widening narrow wide)) {call : EntryCall}
    (found : (Context.mk catalog.lookup policy mapper).nestedCall? source target = some call) :
    call.parameter = source ∧ call.result.conversion? target = some .identity := by
  have whole : call.kind = .map := by
    rcases (nestedCall?_eq_some_iff built rfl call).mp found with
      ⟨_, _, -, -, rfl⟩ | ⟨-, _, element, -, toList, -⟩
    · rfl
    · have isList := (Ty.element?_eq_some_iff target element).mpr toList
      exact absurd widened (Ty.conversion?_ne_widening isList narrow wide)
  exact conversion?_of_nestedCall?_map built rfl found whole

theorem SourceFits.mono (atMost : lesser.AtMost greater) {types : TypeLookup} {slot : Ty}
    {source : Source} (fits : (Context.mk types lesser mapper).SourceFits slot source) :
    (Context.mk types greater mapper).SourceFits slot source := by
  cases source with
  | property read =>
      refine ⟨?_, atMost.accepts fits.2⟩
      intro input given
      exact atMost.accepts (fits.1 input given)
  | expression body => exact atMost.accepts fits
  | constant value type => exact atMost.accepts fits
  | declaredDefault type span => trivial

/-- A property that the lesser policy takes as it is or widens, the greater one takes too,
or puts a call around it that fits. -/
theorem propertyFits_of_accepts (built : catalog.IsBuilt) (atMost : lesser.AtMost greater)
    {type slot : Ty} (accepted : lesser.Accepts type slot) :
    (Context.mk catalog.lookup greater mapper).PropertyFits type slot := by
  unfold PropertyFits
  cases discovered : (Context.mk catalog.lookup greater mapper).discovered? type slot with
  | none => exact atMost.accepts accepted
  | some call =>
      unfold discovered? at discovered
      split at discovered
      next searched =>
        have notAssignable : type.assignableTo slot = false := by
          rw [Bool.and_eq_true, Bool.not_eq_true'] at searched
          exact searched.2
        obtain ⟨narrow, wide, widened⟩ := accepted.widening notAssignable
        obtain ⟨takes, gives⟩ := conversion?_of_nestedCall? built widened discovered
        refine ⟨?_, Policy.accepts_of_identity gives⟩
        rw [takes]
        exact Policy.accepts_of_identity (Ty.conversion?_self type)
      next => cases discovered

theorem PropertyFits.mono (built : catalog.IsBuilt) (atMost : lesser.AtMost greater)
    {type slot : Ty} (fits : (Context.mk catalog.lookup lesser mapper).PropertyFits type slot) :
    (Context.mk catalog.lookup greater mapper).PropertyFits type slot := by
  cases nested : lesser.nestedMappers with
  | false =>
      have undiscovered :
          (Context.mk catalog.lookup lesser mapper).discovered? type slot = none := by
        unfold discovered?
        rw [nested, Bool.false_and]
        exact if_neg Bool.false_ne_true
      unfold PropertyFits at fits
      rw [undiscovered] at fits
      exact propertyFits_of_accepts built atMost fits
  | true =>
      have sameCall : (Context.mk catalog.lookup greater mapper).discovered? type slot =
          (Context.mk catalog.lookup lesser mapper).discovered? type slot := by
        unfold discovered?
        rw [nested, atMost.nestedMappers nested]
        rfl
      unfold PropertyFits at fits ⊢
      rw [sameCall]
      cases discovered : (Context.mk catalog.lookup lesser mapper).discovered? type slot with
      | none =>
          rw [discovered] at fits
          exact atMost.accepts fits
      | some call =>
          rw [discovered] at fits
          exact ⟨atMost.accepts fits.1, atMost.accepts fits.2⟩

/-- A member that fits under the lesser policy has a source under the greater one, the
same one or a call in its place, and fits. -/
theorem MemberFits.mono (built : catalog.IsBuilt) (atMost : lesser.AtMost greater)
    {contributions : List Contribution} {parameter : Parameter}
    (fits : (Context.mk catalog.lookup lesser mapper).MemberFits
      ((Context.mk catalog.lookup lesser mapper).member contributions parameter)) :
    (Context.mk catalog.lookup greater mapper).MemberFits
      ((Context.mk catalog.lookup greater mapper).member contributions parameter) := by
  obtain ⟨source, only, fits⟩ := fits
  unfold MemberFits
  rw [member_sources] at only ⊢
  cases empty : (offered contributions parameter.name).isEmpty with
  | false =>
      rw [empty, if_neg Bool.false_ne_true] at only
      rw [if_neg Bool.false_ne_true]
      exact ⟨source, only, fits.mono atMost⟩
  | true =>
      rw [empty, if_pos rfl, fallback?_eq] at only
      rw [if_pos rfl, fallback?_eq]
      have sameName : (Context.mk catalog.lookup greater mapper).namedProperty? parameter.name =
        (Context.mk catalog.lookup lesser mapper).namedProperty? parameter.name := rfl
      rw [sameName]
      cases named : (Context.mk catalog.lookup lesser mapper).namedProperty? parameter.name with
      | some property =>
          rw [named] at only
          obtain rfl := List.singleton_inj.mp only
          exact ⟨_, rfl, sourceFits_automatic_iff.mpr
            ((sourceFits_automatic_iff.mp fits).mono built atMost)⟩
      | none =>
          rw [named] at only
          dsimp only at only ⊢
          split at only
          next allowed =>
            have stillAllowed : (parameter.hasDefault && greater.defaultArguments) = true := by
              rw [Bool.and_eq_true] at allowed ⊢
              exact ⟨allowed.1, atMost.defaultArguments allowed.2⟩
            rw [if_pos stillAllowed]
            exact ⟨_, rfl, trivial⟩
          next => cases only

structure Grows (left right : Context) (atLeft atRight : Plan) : Prop where
  constructor? : atLeft.constructor? = atRight.constructor?
  valid : (left.review atLeft).hasErrors = false → (right.review atRight).hasErrors = false

theorem grows_construction (built : catalog.IsBuilt) (atMost : lesser.AtMost greater)
    (contributions : List Contribution) (constructor : Constructor) :
    Grows (.mk catalog.lookup lesser mapper) (.mk catalog.lookup greater mapper)
      (.construction
        ((Context.mk catalog.lookup lesser mapper).constructorPlan contributions constructor))
      (.construction
        ((Context.mk catalog.lookup greater mapper).constructorPlan contributions constructor)) where
  constructor? := rfl
  valid := by
    rw [review_construction_hasErrors_iff, review_construction_hasErrors_iff]
    intro valid
    refine ⟨?_, valid.2⟩
    have fits := valid.1
    unfold constructorPlan at fits ⊢
    rw [List.forall_mem_map] at fits ⊢
    intro parameter declared
    exact (fits parameter declared).mono built atMost

/-- Up to the plans themselves the stages do not look at the policy. -/
theorem simulation_of_atMost (built : catalog.IsBuilt) (mapper : Mapper)
    (atMost : lesser.AtMost greater) :
    Simulation (.mk catalog.lookup lesser mapper) (.mk catalog.lookup greater mapper) Eq Eq
      (fun atLeft atRight => atLeft = atRight ∧ ∃ assignments,
        (Context.mk catalog.lookup lesser mapper).contributions assignments = .ok atLeft)
      (Grows (.mk catalog.lookup lesser mapper) (.mk catalog.lookup greater mapper)) where
  sameForm := rfl
  sameFailure := fun _ => rfl
  read := Lockstep.refl (fun _ => rfl) fun _ _ => rfl
  contribute := by
    intro assignments _ same
    subst same
    apply Lockstep.refl fun _ => rfl
    intro contributions contributed
    exact ⟨rfl, assignments, contributed⟩
  value := by
    intro type contributions _ same
    obtain ⟨rfl, -⟩ := same
    refine ⟨rfl, ?_⟩
    rw [review_value_hasErrors_iff, review_value_hasErrors_iff]
    exact id
  enumeration := by
    intro target assignments _ same
    subst same
    apply Lockstep.refl fun _ => rfl
    intro plan _
    refine ⟨rfl, ?_⟩
    rw [review_enumeration_hasErrors_iff, review_enumeration_hasErrors_iff]
    exact id
  sameRank := by
    intro contributions _ same
    obtain ⟨rfl, assignments, contributed⟩ := same
    have alsoContributed : (Context.mk catalog.lookup greater mapper).contributions assignments =
        .ok contributions := contributed
    refine ⟨fun _ => rfl, ?_⟩
    intro constructor
    rw [explicitCount_constructorPlan contributed, explicitCount_constructorPlan alsoContributed]
  construction := by
    intro contributions _ same constructor
    obtain ⟨rfl, -⟩ := same
    exact grows_construction built atMost contributions constructor

theorem resolve_withStrictEnums {context : Context} {resolved : Resolved}
    (success : (context.withStrictEnums true).resolve = .ok resolved) :
    (context.withStrictEnums false).resolve =
      .ok { resolved with findings := resolved.findings.filter (!·.isLeftover) } := by
  have samePlan : (context.withStrictEnums false).plan = (context.withStrictEnums true).plan :=
    rfl
  obtain ⟨⟨plan, choice⟩, planned, same⟩ := bind_eq_ok_iff.mp success
  obtain rfl := Except.ok.inj same
  unfold resolve
  rw [samePlan, planned]
  dsimp only
  rw [filter_review]
  rfl

/-- A policy that allows more changes neither how a mapper fails nor which constructor is
chosen, nor why, and keeps a valid plan valid. Strictness about enums changes nothing
but the notices about leftover entries. -/
theorem resolve_of_atMost (built : catalog.IsBuilt) (mapper : Mapper)
    (atMost : lesser.AtMost greater) :
    (∀ failure, (Context.mk catalog.lookup lesser mapper).resolve = .error failure ↔
      (Context.mk catalog.lookup greater mapper).resolve = .error failure) ∧
    (∀ before after, (Context.mk catalog.lookup lesser mapper).resolve = .ok before →
      (Context.mk catalog.lookup greater mapper).resolve = .ok after →
      before.plan.constructor? = after.plan.constructor? ∧ before.choice = after.choice ∧
        (before.plan?.isSome = true → after.plan?.isSome = true)) ∧
    ∀ policy resolved,
      ((Context.mk catalog.lookup policy mapper).withStrictEnums true).resolve = .ok resolved →
      ((Context.mk catalog.lookup policy mapper).withStrictEnums false).resolve =
        .ok { resolved with findings := resolved.findings.filter (!·.isLeftover) } := by
  have lockstep := (simulation_of_atMost built mapper atMost).resolve_lockstep
  refine ⟨lockstep.error_iff, ?_, fun policy resolved => resolve_withStrictEnums⟩
  intro before after atBefore atAfter
  rw [atBefore, atAfter] at lockstep
  obtain ⟨grows, sameChoice, reviewed, alsoReviewed⟩ := lockstep.of_ok
  refine ⟨grows.constructor?, sameChoice, ?_⟩
  rw [Resolved.plan?_isSome_iff, Resolved.plan?_isSome_iff, reviewed, alsoReviewed]
  exact grows.valid

/-- A mapper that is valid by a widening stays so when the call found in its place is
made. -/
theorem reporting_of_atMost :
    ∃ before after,
      (Context.mk Catalog.road.lookup { nestedMappers := false } reporting.mapper).resolve =
        .ok before ∧
      reporting.resolve = .ok after ∧ before.choice = after.choice ∧
      after.plan?.isSome = true := by
  have fewer : Policy.AtMost { nestedMappers := false } .standard :=
    ⟨fun _ => rfl, fun _ => rfl, nofun⟩
  obtain ⟨-, together, -⟩ := resolve_of_atMost Catalog.road_isBuilt reporting.mapper fewer
  obtain ⟨-, sameChoice, staysValid⟩ := together _ _ rfl rfl
  exact ⟨_, _, rfl, rfl, sameChoice, staysValid rfl⟩

end Context

end MappingPlan
