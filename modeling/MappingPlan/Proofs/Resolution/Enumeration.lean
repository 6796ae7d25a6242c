/-
The plan for an enum in terms of the entries of both enums and the pairs that
directives name: when it may be carried out, what is doubtful about it, and what
becomes of each source entry.
-/

import MappingPlan.Proofs.Catalog.Coherence
import MappingPlan.Proofs.Plan.Review
import MappingPlan.Proofs.Plan.Routes
import MappingPlan.Proofs.Resolution.Stages

set_option autoImplicit false

namespace MappingPlan

theorem flatMap_if_eq_map_filter {Part Finding : Type} (parts : List Part)
    (doubtful : Part → Prop) [DecidablePred doubtful] (finding : Part → Finding) :
    (parts.flatMap fun part => if doubtful part then [finding part] else []) =
      (parts.filter fun part => doubtful part).map finding := by
  induction parts with
  | nil => rfl
  | cons head rest ih =>
      rw [List.flatMap_cons, ih]
      by_cases atHead : doubtful head
      · simp [atHead]
      · simp [atHead]

namespace Context

variable {context : Context} {source target : Definition} {assignments : List Assignment}
  {routes : List Route}

theorem sourceEnum_eq_ok (found : context.sourceEnum target = .ok source) :
    context.source? = some source ∧ ∃ entries, source.body = .enumBody entries := by
  unfold sourceEnum at found
  split at found
  next _ kept =>
    obtain rfl := Except.ok.inj found
    obtain ⟨declared, isEnum⟩ := Option.filter_eq_some_iff.mp kept
    refine ⟨declared, ?_⟩
    unfold Definition.isEnum at isEnum
    split at isEnum
    next entries body => exact ⟨entries, body⟩
    next => cases isEnum
  next => cases found

def routedPlan (context : Context) (source target : Definition) (routes : List Route) :
    EnumPlan where
  target := context.mapper.target
  source := context.mapper.source
  entries := target.entries.map (EntryPlan.ofRoutes source routes)
  sourceEntries := source.entries
  strays := (routes.filter fun route => !target.hasEntry route.target).map (·.toStray)

theorem enumPlan_eq_ok {plan : EnumPlan}
    (planned : context.enumPlan target assignments = .ok plan) :
    ∃ source routes, context.source? = some source ∧
      (∃ entries, source.body = .enumBody entries) ∧
      assignments.mapM (Assignment.toRoute source target) = .ok routes ∧
      plan = context.routedPlan source target routes := by
  obtain ⟨source, found, planned⟩ := bind_eq_ok_iff.mp planned
  obtain ⟨routes, routed, same⟩ := bind_eq_ok_iff.mp planned
  obtain ⟨declared, isEnum⟩ := sourceEnum_eq_ok found
  exact ⟨source, routes, declared, isEnum, routed, (Except.ok.inj same).symm⟩

theorem strays_routedPlan_eq_nil_iff
    (routed : assignments.mapM (Assignment.toRoute source target) = .ok routes) :
    (context.routedPlan source target routes).strays = [] ↔
      ∀ assignment ∈ assignments, assignment.target ∈ target.entries := by
  have sameTargets := map_name_of_mapM Assignment.toRoute_target routed
  calc (context.routedPlan source target routes).strays = []
      ↔ ∀ route ∈ routes, route.target ∈ target.entries := by
        unfold routedPlan Definition.hasEntry
        simp only [List.map_eq_nil_iff, List.filter_eq_nil_iff, Bool.not_eq_true,
          Bool.not_eq_false', List.contains_iff_mem]
    _ ↔ ∀ name ∈ routes.map (·.target), name ∈ target.entries := by rw [List.forall_mem_map]
    _ ↔ ∀ name ∈ assignments.map (·.target), name ∈ target.entries := by rw [sameTargets]
    _ ↔ _ := by rw [List.forall_mem_map]

theorem sources_ne_nil_iff (name : String) :
    (EntryPlan.ofRoutes source routes name).sources ≠ [] ↔
      name ∈ source.entries ∨ ∃ entry, (name, entry) ∈ routes.map Route.pair := by
  constructor
  · intro notEmpty
    obtain ⟨entry, feeds⟩ := List.exists_mem_of_ne_nil _ notEmpty
    rcases (EntryPlan.mem_sources_iff source routes name entry).mp feeds with directed | namesake
    · exact Or.inr ⟨entry, directed⟩
    · exact Or.inl namesake.2
  · intro found
    rcases found with known | ⟨entry, directed⟩
    · have feeds := (EntryPlan.mem_sources_iff source routes name name).mpr (Or.inr ⟨rfl, known⟩)
      exact List.ne_nil_of_mem feeds
    · have feeds := (EntryPlan.mem_sources_iff source routes name entry).mpr (Or.inl directed)
      exact List.ne_nil_of_mem feeds

/-- Directives may name a source entry for several target entries only if none of these
exists. -/
theorem targetsOf_or_directedCount_iff (distinct : target.entries.Nodup) {entry : String}
    (known : entry ∈ source.entries) :
    ((context.routedPlan source target routes).targetsOf entry = [] ∨
        (context.routedPlan source target routes).directedCount entry ≤ 1) ↔
      ∀ first ∈ target.entries, ∀ second ∈ target.entries,
        (first, entry) ∈ routes.map Route.pair → (second, entry) ∈ routes.map Route.pair →
          first = second := by
  rw [EnumPlan.targetsOf_eq rfl known, EnumPlan.directedCount_le_one_iff rfl distinct]
  constructor
  · intro either
    rcases either with untouched | agree
    · intro first isFirst _ _ directed
      rw [List.filter_eq_nil_iff] at untouched
      exact absurd (decide_eq_true (Or.inl directed)) (untouched first isFirst)
    · exact agree
  · exact Or.inr

theorem review_routedPlan_hasErrors_iff (context : Context) (distinct : target.entries.Nodup)
    (routed : assignments.mapM (Assignment.toRoute source target) = .ok routes) :
    (context.review (.enumeration (context.routedPlan source target routes))).hasErrors = false ↔
      (∀ assignment ∈ assignments, assignment.target ∈ target.entries) ∧
        (∀ name ∈ target.entries,
          name ∈ source.entries ∨ ∃ entry, (name, entry) ∈ directedPairs assignments) ∧
        ∀ entry, ∀ first ∈ target.entries, ∀ second ∈ target.entries,
          (first, entry) ∈ directedPairs assignments →
            (second, entry) ∈ directedPairs assignments → first = second := by
  have pairs := map_pair_of_mapM routed
  rw [review_enumeration_hasErrors_iff, strays_routedPlan_eq_nil_iff routed, and_comm]
  apply and_congr Iff.rfl
  apply and_congr
  · change (∀ entry ∈ target.entries.map _, _) ↔ _
    rw [List.forall_mem_map]
    apply forall₂_congr
    intro name _
    rw [sources_ne_nil_iff, pairs]
  · constructor
    · intro agree entry first isFirst second isSecond atFirst atSecond
      have known : entry ∈ source.entries := mem_entries_of_mem_directedPairs routed atFirst
      have here := (targetsOf_or_directedCount_iff distinct known).mp (agree entry known)
      rw [pairs] at here
      exact here first isFirst second isSecond atFirst atSecond
    · intro agree entry known
      rw [targetsOf_or_directedCount_iff distinct known, pairs]
      exact agree entry

theorem warnings_targetEntryFindings (shown name : String) :
    (context.targetEntryFindings shown (EntryPlan.ofRoutes source routes name)).filter
        (·.isWarning) =
      if 1 < (feeders source.entries (routes.map Route.pair) name).card then
        [(Finding.entryWithSources shown name).report context.mapper.span]
      else [] := by
  rw [← EntryPlan.length_sources]
  unfold targetEntryFindings
  cases (EntryPlan.ofRoutes source routes name).sources with
  | nil => rfl
  | cons first others =>
      cases others with
      | nil => rfl
      | cons second more =>
          rw [if_pos (by simp)]
          rfl

theorem warnings_sourceEntryFindings (shown : String) (plan : EnumPlan) (entry : String) :
    (context.sourceEntryFindings shown plan entry).filter (·.isWarning) =
      if context.policy.strictEnums = true ∧ plan.targetsOf entry = [] then
        [(Finding.unmappedEntry shown entry).report context.mapper.span]
      else [] := by
  unfold sourceEntryFindings
  cases plan.targetsOf entry with
  | nil =>
      cases context.policy.strictEnums with
      | true => rfl
      | false => rfl
  | cons first others =>
      have notEmpty : ¬(context.policy.strictEnums = true ∧ first :: others = []) := nofun
      rw [List.isEmpty_cons, if_neg Bool.false_ne_true, if_neg notEmpty]
      split
      · rfl
      · rfl

/-- A source entry reaches nothing if it has no namesake among the target entries and no
directive names it for one of them. -/
theorem targetsOf_eq_nil_iff {entry : String} (known : entry ∈ source.entries) :
    (context.routedPlan source target routes).targetsOf entry = [] ↔
      entry ∉ target.entries ∧
        ∀ name ∈ target.entries, (name, entry) ∉ routes.map Route.pair := by
  rw [EnumPlan.targetsOf_eq rfl known, List.filter_eq_nil_iff]
  constructor
  · intro untouched
    constructor
    · intro isTarget
      exact untouched entry isTarget (decide_eq_true (Or.inr rfl))
    · intro name isTarget directed
      exact untouched name isTarget (decide_eq_true (Or.inl directed))
  · intro unmapped name isTarget reached
    rcases of_decide_eq_true reached with directed | rfl
    · exact unmapped.2 name isTarget directed
    · exact unmapped.1 isTarget

theorem warnings_sourceEntries
    (routed : assignments.mapM (Assignment.toRoute source target) = .ok routes) (shown : String) :
    (source.entries.flatMap fun entry =>
        (context.sourceEntryFindings shown (context.routedPlan source target routes) entry).filter
          (·.isWarning)) =
      if context.policy.strictEnums = true then
        (source.entries.filter fun entry =>
            entry ∉ target.entries ∧
              ∀ name ∈ target.entries, (name, entry) ∉ directedPairs assignments).map
          fun entry => (Finding.unmappedEntry shown entry).report context.mapper.span
      else [] := by
  simp only [warnings_sourceEntryFindings]
  cases context.policy.strictEnums with
  | false => exact List.flatMap_eq_nil_iff.mpr fun _ _ => if_neg fun both => nomatch both.1
  | true =>
      simp only [true_and, if_true]
      rw [flatMap_if_eq_map_filter, ← map_pair_of_mapM routed]
      apply congrArg
      apply List.filter_congr
      intro entry known
      exact decide_eq_decide.mpr (targetsOf_eq_nil_iff known)

theorem warnings_review_routedPlan
    (routed : assignments.mapM (Assignment.toRoute source target) = .ok routes) :
    (context.review (.enumeration (context.routedPlan source target routes))).warnings =
      ((target.entries.filter fun name =>
          1 < (feeders source.entries (directedPairs assignments) name).card).map fun name =>
        (Finding.entryWithSources (context.display context.mapper.target) name).report
          context.mapper.span) ++
      if context.policy.strictEnums = true then
        (source.entries.filter fun entry =>
            entry ∉ target.entries ∧
              ∀ name ∈ target.entries, (name, entry) ∉ directedPairs assignments).map
          fun entry =>
            (Finding.unmappedEntry (context.display context.mapper.source) entry).report
              context.mapper.span
      else [] := by
  have noStrays (shown : String) (strays : List Stray) :
      (strays.map (context.strayFinding shown)).filter (·.isWarning) = [] := by
    rw [List.filter_eq_nil_iff]
    intro diagnostic found
    obtain ⟨stray, -, rfl⟩ := List.mem_map.mp found
    exact Bool.false_ne_true
  have targetEntries (shown : String) :
      ((context.routedPlan source target routes).entries.flatMap fun entry =>
          (context.targetEntryFindings shown entry).filter (·.isWarning)) =
        (target.entries.filter fun name =>
            1 < (feeders source.entries (directedPairs assignments) name).card).map
          fun name => (Finding.entryWithSources shown name).report context.mapper.span := by
    unfold routedPlan
    rw [List.flatMap_map, ← map_pair_of_mapM routed, ← flatMap_if_eq_map_filter]
    exact List.flatMap_congr fun name _ => warnings_targetEntryFindings shown name
  unfold Log.warnings review partFindings
  rw [List.filter_append, noStrays, List.append_nil]
  dsimp only
  rw [List.filter_append, List.filter_flatMap, List.filter_flatMap, targetEntries]
  exact congrArg _ (warnings_sourceEntries routed _)

/-! ### What becomes of the source entries -/

theorem targetOf?_of_mem_directedPairs
    (routed : assignments.mapM (Assignment.toRoute source target) = .ok routes)
    {name entry : String} (isTarget : name ∈ target.entries)
    (agree : ∀ other ∈ target.entries, (other, entry) ∈ directedPairs assignments → other = name)
    (directed : (name, entry) ∈ directedPairs assignments) :
    (context.routedPlan source target routes).targetOf? entry = some name := by
  rw [← map_pair_of_mapM routed] at agree directed
  exact EnumPlan.targetOf?_of_directed rfl agree isTarget directed

theorem targetOf?_of_not_mem_directedPairs
    (routed : assignments.mapM (Assignment.toRoute source target) = .ok routes)
    {entry : String} (known : entry ∈ source.entries)
    (undirected : ∀ name, (name, entry) ∉ directedPairs assignments) :
    (context.routedPlan source target routes).targetOf? entry =
      if entry ∈ target.entries then some entry else none := by
  rw [← map_pair_of_mapM routed] at undirected
  exact EnumPlan.targetOf?_of_undirected rfl known fun name _ => undirected name

theorem targetsOf_routedPlan
    (routed : assignments.mapM (Assignment.toRoute source target) = .ok routes)
    {entry : String} (known : entry ∈ source.entries) :
    (context.routedPlan source target routes).targetsOf entry =
      target.entries.filter
        fun name => (name, entry) ∈ directedPairs assignments ∨ name = entry := by
  rw [← map_pair_of_mapM routed]
  exact EnumPlan.targetsOf_eq rfl known

/-- For an enum the entries of both enums and the pairs that directives name decide all:
whether the plan may be carried out, which warnings there are, what a source entry
becomes and which target entries it feeds. -/
theorem enumeration_of_built {catalog : Catalog} (built : catalog.IsBuilt)
    (types : context.types = catalog.lookup) {targets : List String}
    (declared : context.target? = some target) (isEnum : target.body = .enumBody targets)
    {resolved : Resolved} (success : context.resolve = .ok resolved) :
    ∃ source entries assignments plan, context.source? = some source ∧
      source.body = .enumBody entries ∧ context.mapper.assignments = .ok assignments ∧
      resolved.plan = .enumeration plan ∧
      (resolved.plan?.isSome = true ↔
        (∀ assignment ∈ assignments, assignment.target ∈ targets) ∧
        (∀ name ∈ targets,
          name ∈ entries ∨ ∃ entry, (name, entry) ∈ directedPairs assignments) ∧
        ∀ entry, ∀ first ∈ targets, ∀ second ∈ targets,
          (first, entry) ∈ directedPairs assignments →
            (second, entry) ∈ directedPairs assignments → first = second) ∧
      resolved.findings.warnings =
        ((targets.filter fun name =>
            1 < (feeders entries (directedPairs assignments) name).card).map fun name =>
          (Finding.entryWithSources (context.display context.mapper.target) name).report
            context.mapper.span) ++
        (if context.policy.strictEnums = true then
          (entries.filter fun entry =>
              entry ∉ targets ∧
                ∀ name ∈ targets, (name, entry) ∉ directedPairs assignments).map
            fun entry =>
              (Finding.unmappedEntry (context.display context.mapper.source) entry).report
                context.mapper.span
        else []) ∧
      (resolved.plan?.isSome = true → ∀ entry ∈ entries,
        (∀ name, (name, entry) ∈ directedPairs assignments →
          plan.targetOf? entry = some name) ∧
        ((∀ name, (name, entry) ∉ directedPairs assignments) →
          plan.targetOf? entry = if entry ∈ targets then some entry else none) ∧
        plan.targetsOf entry =
          targets.filter
            (fun name => (name, entry) ∈ directedPairs assignments ∨ name = entry) ∧
        (plan.targetsOf entry).Nodup) := by
  obtain ⟨assignments, plan, read, planned, samePlan, reviewed⟩ :=
    enumeration_of_resolve declared isEnum success
  obtain ⟨source, routes, sourceDeclared, ⟨entries, sourceIsEnum⟩, routed, rfl⟩ :=
    enumPlan_eq_ok planned
  have sameTargets : target.entries = targets := by
    unfold Definition.entries
    rw [isEnum]
  have sameEntries : source.entries = entries := by
    unfold Definition.entries
    rw [sourceIsEnum]
  subst sameTargets sameEntries
  have distinct : target.entries.Nodup := by
    unfold target? at declared
    rw [types] at declared
    exact (built.inOrder_of_declared declared).distinctEntries
  have validity := review_routedPlan_hasErrors_iff context distinct routed
  rw [← samePlan, ← reviewed, ← Resolved.plan?_isSome_iff] at validity
  refine ⟨source, source.entries, assignments, _, sourceDeclared, sourceIsEnum, read, samePlan,
    validity, ?_, ?_⟩
  · rw [reviewed, samePlan]
    exact warnings_review_routedPlan routed
  · intro valid entry known
    obtain ⟨onlyTargets, -, agree⟩ := validity.mp valid
    refine ⟨?_, targetOf?_of_not_mem_directedPairs routed known,
      targetsOf_routedPlan routed known, ?_⟩
    · intro name directed
      have isTarget : name ∈ target.entries := by
        obtain ⟨assignment, written, same⟩ := exists_assignment_of_mem_directedPairs directed
        change assignment.target = name at same
        rw [← same]
        exact onlyTargets assignment written
      apply targetOf?_of_mem_directedPairs routed isTarget _ directed
      intro other isOther alsoDirected
      exact agree entry other isOther name isTarget alsoDirected directed
    · rw [targetsOf_routedPlan routed known]
      exact distinct.filter _

def signalling : Context where
  types := Catalog.road.lookup
  policy := .standard
  mapper :=
    { name := "signalling"
      source := .named ⟨0⟩
      target := .named ⟨1⟩
      body := some (.call
        { name := "mapping"
          arguments := [.closure
            { body := [.call
                { name := "fromEnumEntry"
                  receiver := some (.entry ⟨.named ⟨1⟩, "STOP", .unknown⟩)
                  arguments := [.entry ⟨.named ⟨0⟩, "RED", .unknown⟩] }] }] }) }

theorem signalling_targetOf? :
    ∃ resolved plan, signalling.resolve = .ok resolved ∧ resolved.plan = .enumeration plan ∧
      plan.targetOf? "RED" = some "STOP" ∧ plan.targetOf? "GREEN" = some "GREEN" := by
  have declared : signalling.target? = some _ := rfl
  have success : signalling.resolve = .ok _ := rfl
  obtain ⟨source, entries, assignments, plan, sourceDeclared, isEnum, read, samePlan, -, -,
    becomes⟩ := enumeration_of_built Catalog.road_isBuilt rfl declared rfl success
  obtain rfl := Option.some.inj sourceDeclared
  obtain rfl := DefinitionBody.enumBody.inj isEnum
  obtain rfl := Except.ok.inj read
  refine ⟨_, plan, success, samePlan, ?_, ?_⟩
  · exact (becomes rfl "RED" (by decide)).1 "STOP" (by decide)
  · exact (becomes rfl "GREEN" (by decide)).2.1 (by simp [directedPairs])

end Context

end MappingPlan
