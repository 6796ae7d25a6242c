/-
What a review has to say of a plan, part by part and without a look at how it is carried
out. Every member and entry has a report of its own, which follows from it and, for a
source entry, from the entries it maps to; the review is the reports one after another.
-/

import Mathlib.Data.List.Forall2
import MappingPlan.Proofs.Plan.Findings

set_option autoImplicit false

namespace MappingPlan

namespace Finding

def error (finding : Finding) (span : Span) : Diagnostic := ⟨.error, finding.message, span⟩

def warning (finding : Finding) (span : Span) : Diagnostic := ⟨.warning, finding.message, span⟩

end Finding

/-- Reports that are those of a function of each part make up the list of its results. -/
theorem forall₂_iff_eq_map {Part Report : Type} {Reports : Part → Report → Prop}
    {report : Part → Report} (each : ∀ part result, Reports part result ↔ result = report part)
    (parts : List Part) (results : List Report) :
    List.Forall₂ Reports parts results ↔ results = parts.map report := by
  have same : Reports = fun part result => report part = result := by
    funext part result
    exact propext ((each part result).trans eq_comm)
  rw [same, ← List.forall₂_map_left_iff, List.forall₂_eq_eq_eq, eq_comm]

namespace Context

inductive InputReport (context : Context) (target member : String) (read : PropertyRead) :
    Log → Prop where
  | misfit {adapter : Adapter} {expected : Ty} :
      read.adapter = some adapter → adapter.input? = some expected →
      ¬context.policy.Accepts read.type expected →
      InputReport context target member read
        [(Finding.adapterInput (context.callee adapter) target member (context.display expected)
          (context.display read.type)).error (context.locate read.span)]
  | fit :
      (∀ adapter expected, read.adapter = some adapter → adapter.input? = some expected →
        context.policy.Accepts read.type expected) →
      InputReport context target member read []

inductive ResultReport (context : Context) (target : String) (parameter : Parameter)
    (source : Source) : Log → Prop where
  | misfit :
      ¬context.policy.Accepts source.type parameter.type →
      ResultReport context target parameter source
        [(Finding.memberType target parameter.name (context.display parameter.type)
          source.isAutomatic (context.display source.type)).error (context.locate source.span)]
  | fit :
      context.policy.Accepts source.type parameter.type →
      ResultReport context target parameter source []

inductive MemberReport (context : Context) (target : String) (member : Member) : Log → Prop where
  | withoutSource :
      member.sources = [] →
      MemberReport context target member
        [(Finding.memberWithoutSource target member.parameter.name).error context.mapper.span]
  | withSources {first second : Source} {others : List Source} :
      member.sources = first :: second :: others →
      MemberReport context target member
        [(Finding.memberWithSources target member.parameter.name).error
          (context.locate second.span)]
  | withDefault {type : Ty} {span : Span} :
      member.sources = [.declaredDefault type span] →
      MemberReport context target member []
  | withProperty {read : PropertyRead} {atInput atResult : Log} :
      member.sources = [.property read] →
      InputReport context target member.parameter.name read atInput →
      ResultReport context target member.parameter (.property read) atResult →
      MemberReport context target member (atInput ++ atResult)
  | withConstant {value : Literal} {type : Ty} {atResult : Log} :
      member.sources = [.constant value type] →
      ResultReport context target member.parameter (.constant value type) atResult →
      MemberReport context target member atResult
  | withExpression {body : Closure} {atResult : Log} :
      member.sources = [.expression body] →
      ResultReport context target member.parameter (.expression body) atResult →
      MemberReport context target member atResult

inductive TargetEntryReport (context : Context) (target : String) (entry : EntryPlan) :
    Log → Prop where
  | withoutSource :
      entry.sources = [] →
      TargetEntryReport context target entry
        [(Finding.entryWithoutSource target entry.target).error context.mapper.span]
  | withSource :
      entry.sources.length = 1 → TargetEntryReport context target entry []
  | withSources :
      1 < entry.sources.length →
      TargetEntryReport context target entry
        [(Finding.entryWithSources target entry.target).warning context.mapper.span]

inductive SourceEntryReport (context : Context) (source : String) (plan : EnumPlan)
    (entry : String) : Log → Prop where
  | unmapped :
      (∀ target ∈ plan.entries, entry ∉ target.sources) → context.policy.strictEnums = true →
      SourceEntryReport context source plan entry
        [(Finding.unmappedEntry source entry).warning context.mapper.span]
  | tolerated :
      (∀ target ∈ plan.entries, entry ∉ target.sources) → context.policy.strictEnums = false →
      SourceEntryReport context source plan entry []
  | ambiguous :
      (∃ target ∈ plan.entries, entry ∈ target.sources) →
      1 < (plan.entries.filter (entry ∈ ·.explicit)).length →
      SourceEntryReport context source plan entry
        [(Finding.ambiguousEntry source entry).error context.mapper.span]
  | settled :
      (∃ target ∈ plan.entries, entry ∈ target.sources) →
      (plan.entries.filter (entry ∈ ·.explicit)).length ≤ 1 →
      SourceEntryReport context source plan entry []

def strayReport (context : Context) (target : Ty) (strays : List Stray) : Log :=
  strays.map fun stray =>
    (Finding.unknownTarget (context.display target) stray.target).error
      (context.locate stray.span)

inductive Reviewed (context : Context) : Plan → Log → Prop where
  | construction {plan : ConstructorPlan} {members : List Log} :
      List.Forall₂ (context.MemberReport (context.display plan.target)) plan.members members →
      Reviewed context (.construction plan)
        (members.flatten ++ context.strayReport plan.target plan.strays)
  | enumeration {plan : EnumPlan} {targets sources : List Log} :
      List.Forall₂ (context.TargetEntryReport (context.display plan.target)) plan.entries
        targets →
      List.Forall₂ (context.SourceEntryReport (context.display plan.source) plan)
        plan.sourceEntries sources →
      Reviewed context (.enumeration plan)
        (targets.flatten ++ sources.flatten ++ context.strayReport plan.target plan.strays)
  | converted {plan : ValuePlan} :
      plan.conversion ≠ none →
      Reviewed context (.value plan) (context.strayReport plan.target plan.strays)
  | unconverted {plan : ValuePlan} :
      plan.conversion = none →
      Reviewed context (.value plan)
        ((Finding.valueType (context.display plan.source) (context.display plan.target)).error
            context.mapper.span ::
          context.strayReport plan.target plan.strays)

variable {context : Context}

/-! ### The reports of a review -/

theorem inputReport_iff (target member : String) (read : PropertyRead) (log : Log) :
    context.InputReport target member read log ↔
      log = context.inputFindings target member read := by
  constructor
  · intro report
    cases report with
    | misfit through takes rejected =>
        exact (inputFindings_of_misfit through takes rejected).symm
    | fit accepted => exact (inputFindings_of_fit accepted).symm
  · intro same
    subst same
    by_cases fits : ∀ adapter expected, read.adapter = some adapter →
        adapter.input? = some expected → context.policy.Accepts read.type expected
    · rw [inputFindings_of_fit fits]
      exact .fit fits
    · simp only [Classical.not_forall, exists_prop] at fits
      obtain ⟨adapter, expected, through, takes, rejected⟩ := fits
      rw [inputFindings_of_misfit through takes rejected]
      exact .misfit through takes rejected

theorem resultReport_iff (target : String) (parameter : Parameter) (source : Source)
    (log : Log) :
    context.ResultReport target parameter source log ↔
      log = context.typeFindings target parameter source := by
  unfold typeFindings
  constructor
  · intro report
    cases report with
    | misfit rejected =>
        rw [if_neg (rejected ∘ (accepts_iff _ _).mp)]
        rfl
    | fit accepted => rw [if_pos ((accepts_iff _ _).mpr accepted)]
  · intro same
    subst same
    split
    next accepted => exact .fit ((accepts_iff _ _).mp accepted)
    next rejected => exact .misfit (rejected ∘ (accepts_iff _ _).mpr)

theorem memberReport_iff (target : String) (member : Member) (log : Log) :
    context.MemberReport target member log ↔ log = context.memberFindings target member := by
  unfold memberFindings
  constructor
  · intro report
    cases report with
    | withoutSource sources => rw [sources]; rfl
    | withSources sources => rw [sources]; rfl
    | withDefault sources => rw [sources]; rfl
    | withProperty sources atInput atResult =>
        rw [sources, (inputReport_iff _ _ _ _).mp atInput, (resultReport_iff _ _ _ _).mp atResult]
        rfl
    | withConstant sources atResult =>
        rw [sources, (resultReport_iff _ _ _ _).mp atResult]
        rfl
    | withExpression sources atResult =>
        rw [sources, (resultReport_iff _ _ _ _).mp atResult]
        rfl
  · intro same
    subst same
    split
    next sources => exact .withoutSource sources
    next source sources =>
      cases source with
      | property read =>
          exact .withProperty sources ((inputReport_iff _ _ _ _).mpr rfl)
            ((resultReport_iff _ _ _ _).mpr rfl)
      | constant value type => exact .withConstant sources ((resultReport_iff _ _ _ _).mpr rfl)
      | expression body => exact .withExpression sources ((resultReport_iff _ _ _ _).mpr rfl)
      | declaredDefault type span => exact .withDefault sources
    next sources => exact .withSources sources

theorem targetEntryReport_iff (target : String) (entry : EntryPlan) (log : Log) :
    context.TargetEntryReport target entry log ↔
      log = context.targetEntryFindings target entry := by
  unfold targetEntryFindings
  constructor
  · intro report
    cases report with
    | withoutSource sources => rw [sources]; rfl
    | withSource one =>
        obtain ⟨source, sources⟩ := List.length_eq_one_iff.mp one
        rw [sources]
    | withSources several =>
        split
        next sources => rw [sources] at several; cases several
        next sources => rw [sources] at several; exact absurd several (Nat.lt_irrefl 1)
        next => rfl
  · intro same
    subst same
    rcases sources : entry.sources with - | ⟨first, - | ⟨second, others⟩⟩
    · exact .withoutSource sources
    · exact .withSource (congrArg List.length sources)
    · refine .withSources ?_
      rw [sources]
      exact Nat.succ_lt_succ (Nat.succ_pos others.length)

theorem targetsOf_isEmpty_iff (plan : EnumPlan) (entry : String) :
    (plan.targetsOf entry).isEmpty = true ↔
      ∀ target ∈ plan.entries, entry ∉ target.sources := by
  unfold EnumPlan.targetsOf
  rw [List.isEmpty_iff, List.map_eq_nil_iff, List.filter_eq_nil_iff]
  simp only [List.contains_iff_mem]

theorem directedCount_eq_length (plan : EnumPlan) (entry : String) :
    plan.directedCount entry = (plan.entries.filter (entry ∈ ·.explicit)).length := by
  unfold EnumPlan.directedCount
  rw [List.countP_eq_length_filter]
  simp only [List.elem_eq_mem]

theorem sourceEntryReport_iff (source : String) (plan : EnumPlan) (entry : String) (log : Log) :
    context.SourceEntryReport source plan entry log ↔
      log = context.sourceEntryFindings source plan entry := by
  unfold sourceEntryFindings
  simp only [targetsOf_isEmpty_iff, directedCount_eq_length]
  constructor
  · intro report
    cases report with
    | unmapped nowhere strict => rw [if_pos nowhere, if_pos strict]; rfl
    | tolerated nowhere lenient => rw [if_pos nowhere, lenient]; rfl
    | ambiguous somewhere several =>
        have mapped : ¬∀ target ∈ plan.entries, entry ∉ target.sources := by simpa using somewhere
        rw [if_neg mapped, if_pos several]
        rfl
    | settled somewhere atMostOne =>
        have mapped : ¬∀ target ∈ plan.entries, entry ∉ target.sources := by simpa using somewhere
        rw [if_neg mapped, if_neg (Nat.not_lt_of_le atMostOne)]
  · intro same
    subst same
    split
    next nowhere =>
      split
      next strict => exact .unmapped nowhere strict
      next lenient => exact .tolerated nowhere (Bool.eq_false_iff.mpr lenient)
    next mapped =>
      have somewhere : ∃ target ∈ plan.entries, entry ∈ target.sources := by simpa using mapped
      split
      next several => exact .ambiguous somewhere several
      next atMostOne => exact .settled somewhere (Nat.le_of_not_lt atMostOne)

theorem reviewed_iff (plan : Plan) (log : Log) :
    context.Reviewed plan log ↔ log = context.review plan := by
  unfold review partFindings
  constructor
  · intro reviewed
    cases reviewed with
    | construction members =>
        rw [(forall₂_iff_eq_map (memberReport_iff _) _ _).mp members]
        rfl
    | enumeration targets sources =>
        rw [(forall₂_iff_eq_map (targetEntryReport_iff _) _ _).mp targets,
          (forall₂_iff_eq_map (sourceEntryReport_iff _ _) _ _).mp sources]
        rfl
    | converted converts =>
        dsimp only
        rw [if_pos (Option.isSome_iff_ne_none.mpr converts)]
        rfl
    | unconverted unrelated =>
        dsimp only
        rw [unrelated]
        rfl
  · intro same
    subst same
    cases plan with
    | construction plan =>
        exact .construction ((forall₂_iff_eq_map (memberReport_iff _) _ _).mpr rfl)
    | enumeration plan =>
        exact .enumeration ((forall₂_iff_eq_map (targetEntryReport_iff _) _ _).mpr rfl)
          ((forall₂_iff_eq_map (sourceEntryReport_iff _ _) _ _).mpr rfl)
    | value plan =>
        dsimp only
        split
        next converts => exact .converted (Option.isSome_iff_ne_none.mp converts)
        next unrelated => exact .unconverted (Option.not_isSome_iff_eq_none.mp unrelated)

/-! ### Errors -/

inductive MemberFault (context : Context) (member : Member) : Prop where
  | withoutSource : member.sources = [] → MemberFault context member
  | withSources : 1 < member.sources.length → MemberFault context member
  | input {read : PropertyRead} {adapter : Adapter} {expected : Ty} :
      member.sources = [.property read] → read.adapter = some adapter →
      adapter.input? = some expected → ¬context.policy.Accepts read.type expected →
      MemberFault context member
  | result {source : Source} :
      member.sources = [source] → (∀ type span, source ≠ .declaredDefault type span) →
      ¬context.policy.Accepts source.type member.parameter.type → MemberFault context member

inductive Faulty (context : Context) : Plan → Prop where
  | member {plan : ConstructorPlan} {member : Member} :
      member ∈ plan.members → context.MemberFault member → Faulty context (.construction plan)
  | targetEntry {plan : EnumPlan} {entry : EntryPlan} :
      entry ∈ plan.entries → entry.sources = [] → Faulty context (.enumeration plan)
  | sourceEntry {plan : EnumPlan} {entry : String} :
      entry ∈ plan.sourceEntries → (∃ target ∈ plan.entries, entry ∈ target.sources) →
      1 < (plan.entries.filter (entry ∈ ·.explicit)).length → Faulty context (.enumeration plan)
  | value {plan : ValuePlan} : plan.conversion = none → Faulty context (.value plan)
  | stray {plan : Plan} : plan.strays ≠ [] → Faulty context plan

theorem memberFits_iff_not_memberFault (member : Member) :
    context.MemberFits member ↔ ¬context.MemberFault member := by
  unfold MemberFits
  constructor
  · intro fits fault
    obtain ⟨source, sole, fits⟩ := fits
    cases fault with
    | withoutSource sources => cases sole.symm.trans sources
    | withSources several => rw [sole] at several; exact absurd several (Nat.lt_irrefl 1)
    | input sources through takes rejected =>
        obtain rfl := List.singleton_inj.mp (sole.symm.trans sources)
        refine rejected (fits.1 _ ?_)
        rw [through]
        exact takes
    | result sources notDefault rejected =>
        obtain rfl := List.singleton_inj.mp (sole.symm.trans sources)
        cases source with
        | property read => exact rejected fits.2
        | constant value type => exact rejected fits
        | expression body => exact rejected fits
        | declaredDefault type span => exact notDefault type span rfl
  · intro faultless
    rcases sources : member.sources with - | ⟨source, - | ⟨second, others⟩⟩
    · exact absurd (.withoutSource sources) faultless
    · refine ⟨source, rfl, ?_⟩
      have fits (notDefault : ∀ type span, source ≠ .declaredDefault type span) :
          context.policy.Accepts source.type member.parameter.type :=
        Classical.not_not.mp fun rejected => faultless (.result sources notDefault rejected)
      cases source with
      | property read =>
          refine ⟨?_, fits nofun⟩
          intro input given
          obtain ⟨adapter, through, takes⟩ := Option.bind_eq_some_iff.mp given
          exact Classical.not_not.mp fun rejected =>
            faultless (.input sources through takes rejected)
      | constant value type => exact fits nofun
      | expression body => exact fits nofun
      | declaredDefault type span => trivial
    · refine absurd (.withSources ?_) faultless
      rw [sources]
      exact Nat.succ_lt_succ (Nat.succ_pos others.length)

theorem not_ambiguous_iff (plan : EnumPlan) (entry : String) :
    (plan.targetsOf entry = [] ∨ plan.directedCount entry ≤ 1) ↔
      ¬((∃ target ∈ plan.entries, entry ∈ target.sources) ∧
        1 < (plan.entries.filter (entry ∈ ·.explicit)).length) := by
  rw [← List.isEmpty_iff, targetsOf_isEmpty_iff, directedCount_eq_length, not_and_or,
    Nat.not_lt]
  simp only [not_exists, not_and]

theorem review_hasErrors_iff_faulty (plan : Plan) :
    (context.review plan).hasErrors = false ↔ ¬context.Faulty plan := by
  cases plan with
  | construction plan =>
      rw [review_construction_hasErrors_iff]
      simp only [memberFits_iff_not_memberFault]
      constructor
      · intro fine fault
        cases fault with
        | member among fault => exact fine.1 _ among fault
        | stray remains => exact remains fine.2
      · intro faultless
        refine ⟨fun member among fault => faultless (.member among fault), ?_⟩
        exact Classical.not_not.mp fun remains => faultless (.stray remains)
  | enumeration plan =>
      rw [review_enumeration_hasErrors_iff]
      simp only [not_ambiguous_iff]
      constructor
      · intro fine fault
        cases fault with
        | targetEntry among empty => exact fine.1.1 _ among empty
        | sourceEntry among somewhere several => exact fine.1.2 _ among ⟨somewhere, several⟩
        | stray remains => exact remains fine.2
      · intro faultless
        refine ⟨⟨fun entry among empty => faultless (.targetEntry among empty), ?_⟩, ?_⟩
        · intro entry among ambiguous
          exact faultless (.sourceEntry among ambiguous.1 ambiguous.2)
        · exact Classical.not_not.mp fun remains => faultless (.stray remains)
  | value plan =>
      rw [review_value_hasErrors_iff]
      constructor
      · intro fine fault
        cases fault with
        | value unrelated => exact absurd unrelated (Option.isSome_iff_ne_none.mp fine.1)
        | stray remains => exact remains fine.2
      · intro faultless
        refine ⟨Option.isSome_iff_ne_none.mpr fun unrelated => faultless (.value unrelated), ?_⟩
        exact Classical.not_not.mp fun remains => faultless (.stray remains)

/-! ### One part among others -/

theorem isInfix_flatMap {Part Value : Type} {parts : List Part} {part : Part}
    (among : part ∈ parts) (values : Part → List Value) :
    values part <:+: parts.flatMap values := by
  obtain ⟨before, after, rfl⟩ := List.append_of_mem among
  refine ⟨before.flatMap values, after.flatMap values, ?_⟩
  rw [List.flatMap_append, List.flatMap_cons, List.append_assoc]

section

variable {target : String} {member : Member} {log : Log}

theorem InputReport.length_le {read : PropertyRead}
    (report : context.InputReport target member.parameter.name read log) : log.length ≤ 1 := by
  cases report with
  | misfit _ _ _ => exact Nat.le_refl 1
  | fit _ => exact Nat.zero_le 1

theorem ResultReport.length_le {source : Source}
    (report : context.ResultReport target member.parameter source log) : log.length ≤ 1 := by
  cases report with
  | misfit _ => exact Nat.le_refl 1
  | fit _ => exact Nat.zero_le 1

theorem TargetEntryReport.length_le {entry : EntryPlan}
    (report : context.TargetEntryReport target entry log) : log.length ≤ 1 := by
  cases report with
  | withoutSource _ => exact Nat.le_refl 1
  | withSource _ => exact Nat.zero_le 1
  | withSources _ => exact Nat.le_refl 1

theorem SourceEntryReport.length_le {source entry : String} {plan : EnumPlan}
    (report : context.SourceEntryReport source plan entry log) : log.length ≤ 1 := by
  cases report with
  | unmapped _ _ => exact Nat.le_refl 1
  | tolerated _ _ => exact Nat.zero_le 1
  | ambiguous _ _ => exact Nat.le_refl 1
  | settled _ _ => exact Nat.zero_le 1

theorem MemberReport.length_le (report : context.MemberReport target member log) :
    log.length ≤ 2 := by
  cases report with
  | withoutSource _ => exact Nat.le_succ 1
  | withSources _ => exact Nat.le_succ 1
  | withDefault _ => exact Nat.zero_le 2
  | withProperty _ atInput atResult =>
      rw [List.length_append]
      exact Nat.add_le_add atInput.length_le atResult.length_le
  | withConstant _ atResult => exact Nat.le_succ_of_le atResult.length_le
  | withExpression _ atResult => exact Nat.le_succ_of_le atResult.length_le

end

theorem isInfix_review {plan : Plan} {log : Log} (among : log <:+: context.partFindings plan) :
    log <:+: context.review plan :=
  among.trans (List.prefix_append _ _).isInfix

theorem MemberReport.isInfix {plan : ConstructorPlan} {member : Member} {log : Log}
    (among : member ∈ plan.members)
    (report : context.MemberReport (context.display plan.target) member log) :
    log <:+: context.review (.construction plan) := by
  obtain rfl := (memberReport_iff _ _ _).mp report
  exact isInfix_review (isInfix_flatMap among _)

theorem TargetEntryReport.isInfix {plan : EnumPlan} {entry : EntryPlan} {log : Log}
    (among : entry ∈ plan.entries)
    (report : context.TargetEntryReport (context.display plan.target) entry log) :
    log <:+: context.review (.enumeration plan) := by
  obtain rfl := (targetEntryReport_iff _ _ _).mp report
  apply isInfix_review
  exact (isInfix_flatMap among _).trans (List.prefix_append _ _).isInfix

theorem SourceEntryReport.isInfix {plan : EnumPlan} {entry : String} {log : Log}
    (among : entry ∈ plan.sourceEntries)
    (report : context.SourceEntryReport (context.display plan.source) plan entry log) :
    log <:+: context.review (.enumeration plan) := by
  obtain rfl := (sourceEntryReport_iff _ _ _ _).mp report
  apply isInfix_review
  exact (isInfix_flatMap among _).trans (List.suffix_append _ _).isInfix

theorem isError_of_mem_review {plan : ConstructorPlan} {diagnostic : Diagnostic}
    (found : diagnostic ∈ context.review (.construction plan)) : diagnostic.isError = true := by
  rcases finds_of_mem_review found with ⟨finding, span, finds, rfl⟩ | ⟨stray, -, rfl⟩
  · cases finds with
    | member _ finds => exact decide_eq_true finds.severity_eq
  · rfl

/-- A member is reported on as if the plan had no other member and no stray. -/
theorem review_construction_eq_flatMap (plan : ConstructorPlan) :
    context.review (.construction plan) =
      (plan.members.flatMap fun member =>
        context.review (.construction { plan with members := [member], strays := [] })) ++
      context.review (.construction { plan with members := [] }) := by
  simp only [review, partFindings, Plan.target, Plan.strays, List.flatMap_cons,
    List.flatMap_nil, List.map_nil, List.append_nil, List.nil_append]

/-- Of any plan, also of one that is never assembled, the review is the reports of its parts
in their order and those of its strays. It finds an error exactly if something is wrong with
a part or there is a stray. The report of a part, which says no more than two things of a
member and no more than one of an entry, stands in it undivided, so no part hides what there
is to say of another. Of a class all that is said is an error, and of each member it is what
would be said of the member alone. -/
theorem review_exhaustive (context : Context) :
    (∀ plan log, context.Reviewed plan log ↔ log = context.review plan) ∧
    (∀ plan choice, (Resolved.mk plan choice (context.review plan)).isValid = true ↔
      ¬context.Faulty plan) ∧
    (∀ (plan : ConstructorPlan) member log, member ∈ plan.members →
      context.MemberReport (context.display plan.target) member log →
      log.length ≤ 2 ∧ log <:+: context.review (.construction plan)) ∧
    (∀ (plan : EnumPlan) entry log, entry ∈ plan.entries →
      context.TargetEntryReport (context.display plan.target) entry log →
      log.length ≤ 1 ∧ log <:+: context.review (.enumeration plan)) ∧
    (∀ (plan : EnumPlan) entry log, entry ∈ plan.sourceEntries →
      context.SourceEntryReport (context.display plan.source) plan entry log →
      log.length ≤ 1 ∧ log <:+: context.review (.enumeration plan)) ∧
    ∀ plan : ConstructorPlan,
      (∀ diagnostic ∈ context.review (.construction plan), diagnostic.isError = true) ∧
      context.review (.construction plan) =
        (plan.members.flatMap fun member =>
          context.review (.construction { plan with members := [member], strays := [] })) ++
        context.review (.construction { plan with members := [] }) := by
  refine ⟨reviewed_iff, ?_, ?_, ?_, ?_, ?_⟩
  · intro plan choice
    rw [← review_hasErrors_iff_faulty]
    unfold Resolved.isValid
    rw [Bool.not_eq_true']
  · intro plan member log among report
    exact ⟨report.length_le, report.isInfix among⟩
  · intro plan entry log among report
    exact ⟨report.length_le, report.isInfix among⟩
  · intro plan entry log among report
    exact ⟨report.length_le, report.isInfix among⟩
  · intro plan
    exact ⟨fun _ => isError_of_mem_review, review_construction_eq_flatMap plan⟩

def misreading : PropertyRead where
  getter := ⟨⟨1⟩, "count"⟩
  type := .primitive .int
  isAutomatic := false
  adapter := some (.closure { parameter := some .string, result := .string })

def jumble : ConstructorPlan where
  target := .named ⟨0⟩
  source := .any
  constructor := ⟨0, [], false, true⟩
  members :=
    [⟨⟨"missing", .string, false⟩, []⟩,
      ⟨⟨"doubled", .any, false⟩, [.property misreading, .property misreading]⟩,
      ⟨⟨"flag", .primitive .bool, false⟩, [.property misreading]⟩,
      ⟨⟨"kept", .string, true⟩, [.declaredDefault .any .unknown]⟩]
  strays := [⟨"gone", none, .unknown⟩]

def barren : Context where
  types := ⟨fun _ => none, fun _ _ => []⟩
  policy := .standard
  mapper := { name := "Jumble", source := .any, target := .named ⟨0⟩ }

/-- The member that misreads twice is reported on twice, between the others. -/
theorem jumble_reviewed :
    ∃ log, barren.Reviewed (.construction jumble) log ∧ log.length = 5 ∧
      barren.Faulty (.construction jumble) ∧
      ∃ twofold : Log, twofold.length = 2 ∧ twofold <:+: log := by
  obtain ⟨reviewed, valid, reported, -⟩ := review_exhaustive barren
  have invalid : ¬(Resolved.mk (.construction jumble) none
      (barren.review (.construction jumble))).isValid = true := by decide
  have flag : ⟨⟨"flag", .primitive .bool, false⟩, [.property misreading]⟩ ∈ jumble.members :=
    .tail _ (.tail _ (.head _))
  have report : barren.MemberReport (barren.display jumble.target)
      ⟨⟨"flag", .primitive .bool, false⟩, [.property misreading]⟩ _ :=
    (memberReport_iff _ _ _).mpr rfl
  refine ⟨_, (reviewed _ _).mpr rfl, by decide, ?_, _, ?_, (reported _ _ _ flag report).2⟩
  · exact Classical.not_not.mp fun faultless => invalid ((valid _ none).mpr faultless)
  · decide

end Context

end MappingPlan
