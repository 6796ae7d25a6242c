/-
Where diagnostics are shown. Failures and findings choose among many spans, but all of these
come from the mapper: a source has the span of a node that its directive holds on to, a stray
that of its assignment, and what has no span is shown where the mapper is declared.
-/

import MappingPlan.Proofs.Directive.Rejection
import MappingPlan.Proofs.Plan.Findings
import MappingPlan.Proofs.Resolution.Batch
import MappingPlan.Proofs.Resolution.Failing

set_option autoImplicit false

namespace MappingPlan

theorem Directive.mem_nodes_of_member? {directive : Directive} {member : MemberRef}
    (reads : directive.member? = some member) : Expr.member member ∈ directive.nodes := by
  unfold member? at reads
  split at reads
  next =>
    obtain rfl := Option.some.inj reads
    exact List.mem_singleton_self _
  next =>
    obtain rfl := Option.some.inj reads
    exact List.mem_cons_of_mem _ (List.mem_singleton_self _)
  next =>
    obtain rfl := Option.some.inj reads
    exact List.mem_singleton_self _
  next => cases reads

inductive Plan.Carries : Plan → Span → Prop where
  | source {plan : ConstructorPlan} {member : Member} {source : Source} :
      member ∈ plan.members → source ∈ member.sources →
      Carries (.construction plan) source.span
  | stray {plan : Plan} {stray : Stray} : stray ∈ plan.strays → Carries plan stray.span

namespace Context

variable {context : Context} {failure : Failure}

theorem DelegateFails.span_eq {delegate : Delegate}
    (fails : context.DelegateFails delegate failure) : failure.span = delegate.span := by
  cases fails <;> rfl

theorem TargetFails.span_eq (fails : context.TargetFails failure) :
    failure.span = context.mapper.span := by
  cases fails <;> rfl

theorem SourceFails.located {assignment : Assignment}
    (fails : context.SourceFails assignment failure)
    (locates : context.mapper.Locates assignment) : context.mapper.Located failure.span := by
  cases fails with
  | entry _ => exact locates.own
  | @delegate base delegate _ isVia fails =>
      have called : delegate ∈ assignment.directive.delegates := by
        rw [isVia]
        exact List.mem_cons_self
      rw [fails.span_eq]
      exact locates.delegates delegate called
  | undeclaredOwner reads _ _ => exact locates.nodes _ (Directive.mem_nodes_of_member? reads)

theorem located_of_routeFails {source target : Definition} {assignment : Assignment}
    (fails : assignment.RouteFails source target failure)
    (locates : context.mapper.Locates assignment) : context.mapper.Located failure.span := by
  cases fails with
  | inapplicable _ => exact locates.own
  | @unknownEntry entry isEntry _ =>
      have held : Expr.entry entry ∈ assignment.directive.nodes := by
        rw [isEntry]
        exact List.mem_singleton_self _
      exact locates.nodes _ held

theorem Fails.located (fails : context.Fails failure) : context.mapper.Located failure.span := by
  have locates {before after : List Assignment} {offending : Assignment}
      (read : context.mapper.assignments = .ok (before ++ offending :: after)) :
      context.mapper.Locates offending :=
    context.mapper.locates_of_assignments read offending
      (List.mem_append_right _ List.mem_cons_self)
  cases fails with
  | body rejected =>
      obtain ⟨body, given, rejected⟩ := rejected
      have ofBody := Reading.failsWithin_body body [] failure rejected
      exact Mapper.located_of_shows given ofBody.located
  | target _ unformed =>
      rw [unformed.span_eq]
      exact .whole
  | source read _ _ _ fails => exact fails.located (locates read)
  | enumSource _ _ _ _ => exact .whole
  | route read _ _ _ _ _ fails => exact located_of_routeFails fails (locates read)

/-! ### Findings -/

inductive ShownAt (context : Context) (plan : Plan) : Span → Prop where
  | mapper : ShownAt context plan context.mapper.span
  | part {span : Span} : plan.Carries span → span ≠ .unknown → ShownAt context plan span

section Reviews

variable {plan : Plan}

theorem shownAt_locate {span : Span} (carried : plan.Carries span) :
    context.ShownAt plan (context.locate span) := by
  unfold locate Span.orElse
  split
  next => exact .mapper
  next known => exact .part carried known

theorem MemberFinds.shownAt {plan : ConstructorPlan} {member : Member} {finding : Finding}
    {span : Span}
    (finds : context.MemberFinds (context.display plan.target) member finding span)
    (among : member ∈ plan.members) : context.ShownAt (.construction plan) span := by
  have carried {source : Source} (offered : source ∈ member.sources) :
      context.ShownAt (.construction plan) (context.locate source.span) :=
    shownAt_locate (.source among offered)
  cases finds with
  | withoutSource _ => exact .mapper
  | withSources several =>
      apply carried
      rw [several]
      exact List.mem_cons_of_mem _ List.mem_cons_self
  | @input read _ _ sole _ _ _ =>
      have offered : Source.property read ∈ member.sources := sole ▸ List.mem_singleton_self _
      exact carried offered
  | result sole _ => exact carried (sole ▸ List.mem_singleton_self _)

theorem shownAt_of_mem_review {diagnostic : Diagnostic}
    (found : diagnostic ∈ context.review plan) : context.ShownAt plan diagnostic.span := by
  rcases finds_of_mem_review found with ⟨finding, span, finds, rfl⟩ | ⟨stray, among, rfl⟩
  · cases finds with
    | member among finds => exact finds.shownAt among
    | _ => exact .mapper
  · exact shownAt_locate (.stray among)

end Reviews

/-- A source has the span of a node that its directive holds on to. -/
theorem Reads.exists_node {directive : Directive} {source : Source}
    (reads : context.Reads directive source) :
    ∃ node ∈ directive.nodes, node.span = source.span := by
  cases reads with
  | constant => exact ⟨_, .head _, rfl⟩
  | expression => exact ⟨_, .head _, rfl⟩
  | property found | via _ found =>
      obtain ⟨_, -, rfl⟩ := read_eq_ok found
      exact ⟨_, .head _, rfl⟩
  | transform found =>
      obtain ⟨_, -, rfl⟩ := read_eq_ok found
      exact ⟨_, .tail _ (.head _), rfl⟩

section Assignments

variable {assignments : List Assignment}
  (locates : ∀ assignment ∈ assignments, context.mapper.Locates assignment)

include locates

theorem located_of_contribution {contributions : List Contribution}
    (contributed : context.contributions assignments = .ok contributions)
    {contribution : Contribution} (among : contribution ∈ contributions) :
    context.mapper.Located contribution.span := by
  obtain ⟨assignment, written, made⟩ := exists_of_mem_mapM contributed among
  rw [(contribution_eq_ok_iff.mp made).2.1]
  exact (locates assignment written).own

theorem located_of_route {source target : Definition} {routes : List Route}
    (routed : assignments.mapM (Assignment.toRoute source target) = .ok routes) {route : Route}
    (among : route ∈ routes) : context.mapper.Located route.span := by
  obtain ⟨assignment, written, made⟩ := exists_of_mem_mapM routed among
  obtain ⟨_, -, -, rfl⟩ := Assignment.toRoute_eq_ok made
  exact (locates assignment written).own

/-- What is found by name has no span, and a declared default has that of the mapper. -/
theorem located_of_member {contributions : List Contribution}
    (contributed : context.contributions assignments = .ok contributions)
    {parameter : Parameter} {source : Source}
    (among : source ∈ (context.member contributions parameter).sources)
    (known : source.span ≠ .unknown) : context.mapper.Located source.span := by
  cases sourced_of_member contributed among with
  | directed written _ reads =>
      obtain ⟨node, held, same⟩ := reads.exists_node
      rw [← same]
      exact (locates _ written).nodes node held
  | named _ => exact absurd rfl known
  | byDefault _ _ => exact .whole

theorem located_of_stray {plan : Plan} (planned : context.Planned assignments plan)
    {stray : Stray} (among : stray ∈ plan.strays) : context.mapper.Located stray.span := by
  cases planned with
  | value _ contributed =>
      obtain ⟨contribution, isContribution, rfl⟩ := List.mem_map.mp among
      exact located_of_contribution locates contributed isContribution
  | enumeration _ _ planned =>
      obtain ⟨source, routes, -, -, routed, rfl⟩ := enumPlan_eq_ok planned
      obtain ⟨route, unknown, rfl⟩ := List.mem_map.mp among
      exact located_of_route locates routed (List.mem_filter.mp unknown).1
  | construction _ _ _ contributed =>
      obtain ⟨contribution, unknown, rfl⟩ := List.mem_map.mp among
      exact located_of_contribution locates contributed (List.mem_filter.mp unknown).1

theorem located_of_carries {plan : Plan} (planned : context.Planned assignments plan)
    {span : Span} (carried : plan.Carries span) (known : span ≠ .unknown) :
    context.mapper.Located span := by
  cases carried with
  | stray among => exact located_of_stray locates planned among
  | source isMember among =>
      cases planned with
      | construction _ _ _ contributed =>
          obtain ⟨parameter, -, rfl⟩ := List.mem_map.mp isMember
          exact located_of_member locates contributed among known

end Assignments

theorem located_of_finding {resolved : Resolved} (success : context.resolve = .ok resolved)
    {diagnostic : Diagnostic} (found : diagnostic ∈ resolved.findings) :
    context.mapper.Located diagnostic.span ∧
      (diagnostic.span = .unknown → context.mapper.span = .unknown) := by
  obtain ⟨assignments, read, planned⟩ := planned_of_resolve success
  rw [findings_of_resolve success] at found
  have shown := shownAt_of_mem_review found
  generalize diagnostic.span = span at shown ⊢
  cases shown with
  | mapper => exact ⟨.whole, id⟩
  | part carried known =>
      have locates := context.mapper.locates_of_assignments read
      exact ⟨located_of_carries locates planned carried known, fun unknown => absurd unknown known⟩

end Context

namespace Resolver

/-- A resolution adds to the log its failure or the findings of its review, and each of them
is shown where the mapper is declared or at a node of its body. So no finding is shown at an
unknown place unless it is unknown where the mapper is declared. -/
theorem resolve_located (resolver : Resolver) (mapper : Mapper) (log : Log) :
    ∃ reported, (resolver.resolve mapper log).2 = log ++ reported ∧
      (∀ diagnostic ∈ reported, mapper.Located diagnostic.span) ∧
      (∀ failure, (resolver.resolve mapper log).1 = .error failure →
        reported = [failure.toDiagnostic]) ∧
      ∀ resolved, (resolver.resolve mapper log).1 = .ok resolved →
        reported = resolved.findings ∧
          ∀ diagnostic ∈ resolved.findings,
            diagnostic.span = .unknown → mapper.span = .unknown := by
  have outcome : (resolver.resolve mapper []).1 =
      (Context.mk resolver.types resolver.policy mapper).resolve := rfl
  rw [resolve_eq, resolve_nil, outcome]
  refine ⟨_, rfl, ?_⟩
  cases resolution : (Context.mk resolver.types resolver.policy mapper).resolve with
  | error failure =>
      refine ⟨?_, ?_, ?_⟩
      · intro diagnostic found
        obtain rfl := List.mem_singleton.mp found
        exact (Context.resolve_eq_error_iff_fails.mp resolution).located
      · intro _ same
        rw [Except.error.inj same]
        rfl
      · intro _ impossible
        cases impossible
  | ok resolved =>
      refine ⟨?_, ?_, ?_⟩
      · intro diagnostic found
        exact (Context.located_of_finding resolution found).1
      · intro _ impossible
        cases impossible
      · intro _ same
        obtain rfl := Except.ok.inj same
        exact ⟨rfl, fun diagnostic found => (Context.located_of_finding resolution found).2⟩

/-- A report declared on line three. Line four gives a text to a parameter there is not. -/
def pinned : Mapper where
  name := "pinned"
  source := .named ⟨2⟩
  target := .named ⟨3⟩
  body := some (.call
    { name := "mapping"
      arguments := [.closure
        { body := [.call
            { name := "constant"
              receiver := some (.member ⟨.named ⟨3⟩, "units", .string, .atPosition 4 5⟩)
              arguments := [.literal { value := .string "cm", span := .atPosition 4 30 }]
              span := .atPosition 4 14 }]
          span := .atPosition 3 40 }]
      span := .atPosition 3 33 })
  span := .atPosition 3 1

/-- Under a strict policy the level that is found by name does not fit, and the unit has no
source. Neither has a place of its own, unlike the directive after them. -/
theorem pinned_located :
    ∃ resolved, (Resolver.resolve ⟨Catalog.road.lookup, .strict⟩ pinned []).1 = .ok resolved ∧
      resolved.findings.map (·.span) =
        [.atPosition 3 1, .atPosition 3 1, .atPosition 4 14] ∧
      ∀ diagnostic ∈ resolved.findings, pinned.Located diagnostic.span := by
  obtain ⟨reported, -, located, -, ofFindings⟩ :=
    resolve_located ⟨Catalog.road.lookup, .strict⟩ pinned []
  have success : (Resolver.resolve ⟨Catalog.road.lookup, .strict⟩ pinned []).1 = .ok _ := rfl
  obtain ⟨rfl, -⟩ := ofFindings _ success
  exact ⟨_, success, rfl, located⟩

end Resolver

end MappingPlan
