/-
The entries of an enum plan in terms of the pairs that directives name. A target entry
is fed by the source entries paired with it and by the one of its own name, each once;
what the plan makes of a source entry is read off the same pairs.
-/

import Mathlib.Data.Finset.Card
import Mathlib.Data.Finset.Union
import MappingPlan.Plan
import MappingPlan.Proofs.Parts

set_option autoImplicit false

namespace MappingPlan

/-- The pairs of a target entry and a source entry that assignments name. -/
def directedPairs (assignments : List Assignment) : List (String × String) :=
  assignments.filterMap fun assignment =>
    match assignment.directive with
    | .entry source => some (assignment.target, source.name)
    | _ => none

theorem mem_directedPairs_iff {assignments : List Assignment} {target entry : String} :
    (target, entry) ∈ directedPairs assignments ↔
      ∃ assignment ∈ assignments, assignment.target = target ∧
        ∃ reference, assignment.directive = .entry reference ∧ reference.name = entry := by
  unfold directedPairs
  rw [List.mem_filterMap]
  apply exists_congr
  intro assignment
  apply and_congr_right
  intro _
  cases assignment.directive with
  | entry reference =>
      simp only [Option.some.injEq, Prod.mk.injEq, Directive.entry.injEq, exists_eq_left']
  | _ => simp only [reduceCtorEq, false_and, exists_false, and_false]

theorem exists_assignment_of_mem_directedPairs {assignments : List Assignment}
    {pair : String × String} (named : pair ∈ directedPairs assignments) :
    ∃ assignment ∈ assignments, assignment.target = pair.1 := by
  obtain ⟨assignment, written, same, -⟩ := mem_directedPairs_iff.mp named
  exact ⟨assignment, written, same⟩

def Route.pair (route : Route) : String × String := (route.target, route.entry)

theorem nodup_eraseDups (names : List String) : names.eraseDups.Nodup := by
  induction size : names.length using Nat.strong_induction_on generalizing names with
  | _ length ih =>
      cases names with
      | nil => exact List.nodup_nil
      | cons head rest =>
          subst size
          have shorter := Nat.lt_succ_of_le (List.length_filter_le (fun name => !name == head) rest)
          rw [List.eraseDups_cons, List.nodup_cons]
          refine ⟨?_, ih _ shorter _ rfl⟩
          intro repeated
          have kept := (List.mem_filter.mp (List.mem_eraseDups.mp repeated)).2
          rw [beq_self_eq_true] at kept
          cases kept

namespace Assignment

variable {source target : Definition}

theorem toRoute_eq_ok {assignment : Assignment} {route : Route}
    (success : assignment.toRoute source target = .ok route) :
    ∃ entry, assignment.directive = .entry entry ∧ entry.name ∈ source.entries ∧
      route = ⟨assignment.target, entry.name, assignment.span⟩ := by
  unfold toRoute at success
  split at success
  next entry named =>
    split at success
    next known =>
      exact ⟨entry, named, List.contains_iff_mem.mp known, (Except.ok.inj success).symm⟩
    next => cases success
  next => cases success

theorem toRoute_target (assignment : Assignment) (route : Route)
    (success : assignment.toRoute source target = .ok route) :
    route.target = assignment.target := by
  obtain ⟨_, -, -, rfl⟩ := toRoute_eq_ok success
  rfl

end Assignment

section Routes

variable {source target : Definition} {assignments : List Assignment} {routes : List Route}

theorem map_pair_of_mapM
    (routed : assignments.mapM (Assignment.toRoute source target) = .ok routes) :
    routes.map Route.pair = directedPairs assignments := by
  have related := (mapM_eq_ok_iff _ assignments routes).mp routed
  clear routed
  induction related with
  | nil => rfl
  | cons atHead _ ih =>
      obtain ⟨entry, named, -, rfl⟩ := Assignment.toRoute_eq_ok atHead
      unfold directedPairs at ih ⊢
      rw [List.map_cons, ih, List.filterMap_cons, named]
      rfl

theorem mem_entries_of_mem_directedPairs
    (routed : assignments.mapM (Assignment.toRoute source target) = .ok routes)
    {pair : String × String} (named : pair ∈ directedPairs assignments) :
    pair.2 ∈ source.entries := by
  rw [← map_pair_of_mapM routed] at named
  obtain ⟨route, member, rfl⟩ := List.mem_map.mp named
  obtain ⟨assignment, -, becomes⟩ := exists_of_mem_mapM routed member
  obtain ⟨entry, -, known, rfl⟩ := Assignment.toRoute_eq_ok becomes
  exact known

end Routes

namespace EntryPlan

variable (source : Definition) (routes : List Route) (name entry : String)

theorem mem_explicit_iff :
    entry ∈ (ofRoutes source routes name).explicit ↔ (name, entry) ∈ routes.map Route.pair := by
  unfold ofRoutes
  dsimp only
  rw [List.mem_eraseDups, List.mem_map, List.mem_map]
  apply exists_congr
  intro route
  rw [List.mem_filter, decide_eq_true_eq, and_assoc]
  apply and_congr_right
  intro _
  exact Prod.mk_inj.symm

theorem mem_sources_iff :
    entry ∈ (ofRoutes source routes name).sources ↔
      (name, entry) ∈ routes.map Route.pair ∨ entry = name ∧ name ∈ source.entries := by
  rw [← mem_explicit_iff source]
  unfold ofRoutes Definition.entriesNamed
  dsimp only
  rw [List.mem_eraseDups, List.mem_append, List.mem_filter, decide_eq_true_eq]
  apply or_congr Iff.rfl
  constructor
  · intro both
    exact ⟨both.2, both.2 ▸ both.1⟩
  · intro both
    exact ⟨both.1 ▸ both.2, both.1⟩

theorem nodup_sources : (ofRoutes source routes name).sources.Nodup := nodup_eraseDups _

end EntryPlan

/-- The source entries that feed a target entry: those paired with it, and its namesake if
there is one. -/
def feeders (sourceEntries : List String) (pairs : List (String × String)) (name : String) :
    Finset String :=
  ((pairs.filter (·.1 = name)).map (·.2)).toFinset ∪
    if name ∈ sourceEntries then {name} else ∅

theorem mem_feeders_iff (sourceEntries : List String) (pairs : List (String × String))
    (name entry : String) :
    entry ∈ feeders sourceEntries pairs name ↔
      (name, entry) ∈ pairs ∨ entry = name ∧ name ∈ sourceEntries := by
  unfold feeders
  rw [Finset.mem_union, List.mem_toFinset, List.mem_map]
  apply or_congr
  · constructor
    · intro found
      obtain ⟨pair, member, rfl⟩ := found
      obtain ⟨member, same⟩ := List.mem_filter.mp member
      rw [← of_decide_eq_true same]
      exact member
    · intro member
      exact ⟨(name, entry), List.mem_filter.mpr ⟨member, decide_eq_true rfl⟩, rfl⟩
  · split
    next known => simp [known]
    next unknown => simp [unknown]

theorem EntryPlan.length_sources (source : Definition) (routes : List Route) (name : String) :
    (ofRoutes source routes name).sources.length =
      (feeders source.entries (routes.map Route.pair) name).card := by
  rw [← List.toFinset_card_of_nodup (nodup_sources source routes name)]
  congr 1
  ext entry
  rw [List.mem_toFinset, mem_sources_iff, mem_feeders_iff]

/-! ### What becomes of a source entry -/

namespace EnumPlan

variable {plan : EnumPlan} {source : Definition} {routes : List Route} {targets : List String}

theorem targetsOf_eq (made : plan.entries = targets.map (EntryPlan.ofRoutes source routes))
    {entry : String} (known : entry ∈ source.entries) :
    plan.targetsOf entry =
      targets.filter fun name => (name, entry) ∈ routes.map Route.pair ∨ name = entry := by
  unfold targetsOf
  rw [made, List.filter_map, List.map_map]
  have sameName : (EntryPlan.target ∘ EntryPlan.ofRoutes source routes) = id := rfl
  rw [sameName, List.map_id]
  apply List.filter_congr
  intro name _
  rw [Function.comp_apply, List.contains_eq_mem]
  apply decide_eq_decide.mpr
  rw [EntryPlan.mem_sources_iff]
  apply or_congr Iff.rfl
  constructor
  · intro both
    exact both.1.symm
  · intro same
    exact ⟨same.symm, same ▸ known⟩

theorem directedCount_eq (made : plan.entries = targets.map (EntryPlan.ofRoutes source routes))
    (entry : String) :
    plan.directedCount entry =
      targets.countP fun name => (name, entry) ∈ routes.map Route.pair := by
  unfold directedCount
  rw [made, List.countP_map]
  apply List.countP_congr
  intro name _
  rw [Function.comp_apply, List.contains_iff_mem, EntryPlan.mem_explicit_iff, decide_eq_true_eq]

/-- Directives agree on what a source entry becomes if they name it for one target entry
at most. -/
theorem directedCount_le_one_iff
    (made : plan.entries = targets.map (EntryPlan.ofRoutes source routes))
    (distinct : targets.Nodup) (entry : String) :
    plan.directedCount entry ≤ 1 ↔
      ∀ first ∈ targets, ∀ second ∈ targets, (first, entry) ∈ routes.map Route.pair →
        (second, entry) ∈ routes.map Route.pair → first = second := by
  rw [directedCount_eq made, List.countP_eq_length_filter,
    ← List.toFinset_card_of_nodup (distinct.filter _), Finset.card_le_one]
  simp only [List.mem_toFinset, List.mem_filter, decide_eq_true_eq]
  constructor
  · intro agree first isFirst second isSecond atFirst atSecond
    exact agree first ⟨isFirst, atFirst⟩ second ⟨isSecond, atSecond⟩
  · intro agree first isFirst second isSecond
    exact agree first isFirst.1 second isSecond.1 isFirst.2 isSecond.2

theorem targetOf?_eq (made : plan.entries = targets.map (EntryPlan.ofRoutes source routes))
    (entry : String) :
    plan.targetOf? entry =
      (targets.find? fun name => (EntryPlan.ofRoutes source routes name).explicit.contains entry).or
        (targets.find? fun name =>
          (EntryPlan.ofRoutes source routes name).sources.contains entry) := by
  have sameName : (EntryPlan.target ∘ EntryPlan.ofRoutes source routes) = id := rfl
  unfold targetOf?
  rw [made, List.find?_map, List.find?_map]
  dsimp only
  rw [← Option.map_or, Option.map_map, sameName, Option.map_id]
  rfl

theorem targetOf?_of_directed
    (made : plan.entries = targets.map (EntryPlan.ofRoutes source routes)) {name entry : String}
    (agree : ∀ other ∈ targets, (other, entry) ∈ routes.map Route.pair → other = name)
    (isTarget : name ∈ targets) (directed : (name, entry) ∈ routes.map Route.pair) :
    plan.targetOf? entry = some name := by
  have first : (targets.find? fun name =>
      (EntryPlan.ofRoutes source routes name).explicit.contains entry) = some name := by
    apply find?_of_unique isTarget
    · rw [List.contains_iff_mem, EntryPlan.mem_explicit_iff]
      exact directed
    · intro other isOther found
      rw [List.contains_iff_mem, EntryPlan.mem_explicit_iff] at found
      exact agree other isOther found
  rw [targetOf?_eq made, first]
  rfl

theorem targetOf?_of_undirected
    (made : plan.entries = targets.map (EntryPlan.ofRoutes source routes)) {entry : String}
    (known : entry ∈ source.entries)
    (undirected : ∀ name ∈ targets, (name, entry) ∉ routes.map Route.pair) :
    plan.targetOf? entry = if entry ∈ targets then some entry else none := by
  have noneDirected : (targets.find? fun name =>
      (EntryPlan.ofRoutes source routes name).explicit.contains entry) = none := by
    rw [List.find?_eq_none]
    intro name isTarget found
    rw [List.contains_iff_mem, EntryPlan.mem_explicit_iff] at found
    exact undirected name isTarget found
  have namesake (name : String) (isTarget : name ∈ targets) :
      (EntryPlan.ofRoutes source routes name).sources.contains entry = true ↔ name = entry := by
    rw [List.contains_iff_mem, EntryPlan.mem_sources_iff,
      or_iff_right (undirected name isTarget)]
    constructor
    · intro both
      exact both.1.symm
    · intro same
      exact ⟨same.symm, same ▸ known⟩
  rw [targetOf?_eq made, noneDirected, Option.none_or]
  split
  next isTarget =>
    apply find?_of_unique isTarget
    · exact (namesake entry isTarget).mpr rfl
    · intro other isOther found
      exact (namesake other isOther).mp found
  next noTarget =>
    rw [List.find?_eq_none]
    intro other isOther found
    exact noTarget ((namesake other isOther).mp found ▸ isOther)

end EnumPlan

end MappingPlan
