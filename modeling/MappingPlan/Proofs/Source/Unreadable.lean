/-
Assignments that no source can be made of. A directive is unreadable if it maps enum
entries, if it reads a member of no declared type, or if it delegates to what is no entry
point; each of these fails in its own way, the delegate before the member.
-/

import MappingPlan.Proofs.Directive.Collected
import MappingPlan.Proofs.Source.Contribution

set_option autoImplicit false

namespace MappingPlan

def Directive.member? : Directive → Option MemberRef
  | .property source => some source
  | .transform (.property source) _ => some source
  | .via (.property source) _ => some source
  | _ => none

namespace Context

variable {context : Context}

inductive DelegateFails (context : Context) (delegate : Delegate) : Failure → Prop where
  | unregistered :
      context.types.definition? delegate.mapper = none →
      DelegateFails context delegate ⟨.unknownType delegate.mapper, delegate.span⟩
  | notAMapper {definition : Definition} :
      context.types.definition? delegate.mapper = some definition →
      definition.isMapper = false →
      DelegateFails context delegate ⟨.notAMapper definition.name, delegate.span⟩
  | missingEntryPoint {definition : Definition} :
      context.types.definition? delegate.mapper = some definition →
      definition.isMapper = true → definition.entryPoint? delegate.kind = none →
      DelegateFails context delegate
        ⟨.missingEntryPoint definition.name delegate.kind, delegate.span⟩

theorem entryCall_eq_error_iff {delegate : Delegate} {failure : Failure} :
    context.entryCall delegate = .error failure ↔ context.DelegateFails delegate failure := by
  constructor
  · intro failed
    unfold entryCall at failed
    split at failed
    next absent =>
      obtain rfl := Except.error.inj failed
      exact .unregistered absent
    next definition found =>
      split at failed
      next isMapper =>
        split at failed
        next absent =>
          obtain rfl := Except.error.inj failed
          exact .missingEntryPoint found isMapper absent
        next => cases failed
      next notMapper =>
        obtain rfl := Except.error.inj failed
        exact .notAMapper found (Bool.eq_false_iff.mpr notMapper)
  · intro fails
    unfold entryCall
    cases fails with
    | unregistered absent => rw [absent]
    | notAMapper found notMapper =>
        rw [found]
        dsimp only
        rw [notMapper]
        rfl
    | missingEntryPoint found isMapper absent =>
        rw [found]
        dsimp only
        rw [isMapper, absent]
        rfl

theorem read_eq_error_iff {member : MemberRef} {adapter : Option Adapter} {failure : Failure} :
    member.read adapter = .error failure ↔
      member.owner.reference? = none ∧
        failure = ⟨.malformed .property (.undeclaredOwner member.name), member.span⟩ := by
  unfold MemberRef.read
  split
  next undeclared =>
    rw [Except.error.injEq, eq_comm]
    exact (and_iff_right undeclared).symm
  next owner declared =>
    rw [declared]
    constructor
    · intro impossible
      cases impossible
    · intro both
      cases both.1

theorem readProperty_eq_error_iff {member : MemberRef} {adapter : Option Adapter}
    {failure : Failure} :
    (member.read adapter >>= fun read => pure (Source.property read)) = .error failure ↔
      member.owner.reference? = none ∧
        failure = ⟨.malformed .property (.undeclaredOwner member.name), member.span⟩ :=
  bind_pure_eq_error_iff.trans read_eq_error_iff

inductive Unreadable (context : Context) : Directive → Prop where
  | entry {source : EntryRef} : Unreadable context (.entry source)
  | undeclaredOwner {directive : Directive} {member : MemberRef} :
      directive.member? = some member → member.owner.reference? = none →
      Unreadable context directive
  | unregistered {base : Directive} {delegate : Delegate} :
      context.types.definition? delegate.mapper = none →
      Unreadable context (.via base delegate)
  | notAMapper {base : Directive} {delegate : Delegate} {definition : Definition} :
      context.types.definition? delegate.mapper = some definition →
      definition.isMapper = false → Unreadable context (.via base delegate)
  | missingEntryPoint {base : Directive} {delegate : Delegate} {definition : Definition} :
      context.types.definition? delegate.mapper = some definition →
      definition.entryPoint? delegate.kind = none → Unreadable context (.via base delegate)

inductive SourceFails (context : Context) (assignment : Assignment) : Failure → Prop where
  | entry {source : EntryRef} :
      assignment.directive = .entry source →
      SourceFails context assignment
        ⟨.inapplicable .fromEnumEntry (context.display context.mapper.target),
          assignment.span⟩
  | delegate {base : Directive} {delegate : Delegate} {failure : Failure} :
      assignment.directive = .via base delegate → context.DelegateFails delegate failure →
      SourceFails context assignment failure
  | undeclaredOwner {member : MemberRef} :
      assignment.directive.member? = some member → member.owner.reference? = none →
      (∀ base delegate, assignment.directive = .via base delegate →
        ∃ call, context.entryCall delegate = .ok call) →
      SourceFails context assignment
        ⟨.malformed .property (.undeclaredOwner member.name), member.span⟩

theorem explicitSource_via (target : String) (member : MemberRef) (delegate : Delegate)
    (span : Span) :
    context.explicitSource ⟨target, .via (.property member) delegate, span⟩ =
      context.entryCall delegate >>= fun call =>
        member.read (some (.mapper call)) >>= fun read => pure (Source.property read) := rfl

/-- An assignment whose wrapper stands around a property fails in these ways only. -/
theorem explicitSource_eq_error_iff {assignment : Assignment} {failure : Failure}
    (single : assignment.directive.SingleLevel) :
    context.explicitSource assignment = .error failure ↔
      context.SourceFails assignment failure := by
  obtain ⟨target, directive, span⟩ := assignment
  constructor
  · intro failed
    cases directive with
    | property member =>
        obtain ⟨undeclared, rfl⟩ := readProperty_eq_error_iff.mp failed
        exact .undeclaredOwner rfl undeclared nofun
    | constant value => cases failed
    | expression body => cases failed
    | transform base closure =>
        obtain ⟨member, rfl⟩ := single base rfl
        obtain ⟨undeclared, rfl⟩ := readProperty_eq_error_iff.mp failed
        exact .undeclaredOwner rfl undeclared nofun
    | via base delegate =>
        obtain ⟨member, rfl⟩ := single base rfl
        rw [explicitSource_via] at failed
        rcases bind_eq_error_iff.mp failed with uncalled | ⟨call, called, reading⟩
        · exact .delegate rfl (entryCall_eq_error_iff.mp uncalled)
        · obtain ⟨undeclared, rfl⟩ := readProperty_eq_error_iff.mp reading
          refine .undeclaredOwner rfl undeclared ?_
          intro _ _ same
          obtain ⟨-, rfl⟩ := Directive.via.inj same
          exact ⟨call, called⟩
    | entry source =>
        obtain rfl := Except.error.inj failed
        exact .entry rfl
  · intro fails
    cases fails with
    | entry isEntry =>
        obtain rfl : directive = _ := isEntry
        rfl
    | delegate isVia unfound =>
        obtain rfl : directive = _ := isVia
        obtain ⟨member, rfl⟩ := single _ rfl
        rw [explicitSource_via]
        exact bind_eq_error_iff.mpr (Or.inl (entryCall_eq_error_iff.mpr unfound))
    | @undeclaredOwner member reads undeclared callable =>
        have unread (adapter : Option Adapter) :
            (member.read adapter >>= fun read => pure (Source.property read)) = .error _ :=
          readProperty_eq_error_iff.mpr ⟨undeclared, rfl⟩
        cases directive with
        | property source =>
            obtain rfl := Option.some.inj reads
            exact unread none
        | constant value => cases reads
        | expression body => cases reads
        | entry source => cases reads
        | transform base closure =>
            obtain ⟨source, rfl⟩ := single base rfl
            obtain rfl := Option.some.inj reads
            exact unread (some (.closure closure))
        | via base delegate =>
            obtain ⟨source, rfl⟩ := single base rfl
            obtain rfl := Option.some.inj reads
            obtain ⟨call, called⟩ := callable _ delegate rfl
            rw [explicitSource_via]
            exact bind_eq_error_iff.mpr (Or.inr ⟨call, called, unread (some (.mapper call))⟩)

theorem exists_sourceFails_iff {assignment : Assignment} :
    (∃ failure, context.SourceFails assignment failure) ↔
      context.Unreadable assignment.directive := by
  obtain ⟨target, directive, span⟩ := assignment
  constructor
  · intro fails
    obtain ⟨failure, fails⟩ := fails
    cases fails with
    | entry isEntry =>
        obtain rfl : directive = _ := isEntry
        exact .entry
    | delegate isVia unfound =>
        obtain rfl : directive = _ := isVia
        cases unfound with
        | unregistered absent => exact .unregistered absent
        | notAMapper found notMapper => exact .notAMapper found notMapper
        | missingEntryPoint found _ absent => exact .missingEntryPoint found absent
    | undeclaredOwner reads undeclared _ => exact .undeclaredOwner reads undeclared
  · intro unreadable
    cases unreadable with
    | entry => exact ⟨_, .entry rfl⟩
    | unregistered absent => exact ⟨_, .delegate rfl (.unregistered absent)⟩
    | notAMapper found notMapper => exact ⟨_, .delegate rfl (.notAMapper found notMapper)⟩
    | @missingEntryPoint _ _ definition found absent =>
        cases isMapper : definition.isMapper with
        | true => exact ⟨_, .delegate rfl (.missingEntryPoint found isMapper absent)⟩
        | false => exact ⟨_, .delegate rfl (.notAMapper found isMapper)⟩
    | undeclaredOwner reads undeclared =>
        by_cases callable : ∀ base delegate, directive = .via base delegate →
            ∃ call, context.entryCall delegate = .ok call
        · exact ⟨_, .undeclaredOwner reads undeclared callable⟩
        · push Not at callable
          obtain ⟨base, delegate, isVia, uncallable⟩ := callable
          cases called : context.entryCall delegate with
          | ok call => exact absurd called (uncallable call)
          | error failure => exact ⟨failure, .delegate isVia (entryCall_eq_error_iff.mp called)⟩

theorem contribution_eq_error_iff {assignment : Assignment} {failure : Failure} :
    context.contribution assignment = .error failure ↔
      context.explicitSource assignment = .error failure := by
  unfold contribution
  exact bind_pure_eq_error_iff

theorem exists_contribution_iff {assignment : Assignment}
    (single : assignment.directive.SingleLevel) :
    (∃ contribution, context.contribution assignment = .ok contribution) ↔
      ¬context.Unreadable assignment.directive := by
  rw [exists_eq_ok_iff, ← exists_sourceFails_iff, not_exists]
  apply forall_congr'
  intro failure
  rw [ne_eq, contribution_eq_error_iff, explicitSource_eq_error_iff single]

/-- The contributions of a body fail as the first directive that is unreadable. -/
theorem contributions_eq_error_iff {assignments : List Assignment} {failure : Failure}
    (single : ∀ assignment ∈ assignments, assignment.directive.SingleLevel) :
    context.contributions assignments = .error failure ↔
      ∃ before offending after, assignments = before ++ offending :: after ∧
        (∀ assignment ∈ before, ¬context.Unreadable assignment.directive) ∧
        context.SourceFails offending failure := by
  unfold contributions
  rw [mapM_eq_error_iff]
  refine exists_congr fun before => exists_congr fun offending => exists_congr fun after => ?_
  refine and_congr_right ?_
  intro split
  subst split
  have headTail := List.forall_mem_append.mp single
  have own := (List.forall_mem_cons.mp headTail.2).1
  rw [contribution_eq_error_iff, explicitSource_eq_error_iff own]
  refine and_congr_left' ?_
  exact forall₂_congr fun assignment member =>
    exists_contribution_iff (headTail.1 assignment member)

end Context

end MappingPlan
