/-
The findings of a review, one by one. Each is about one member, one entry or the value as a
whole, for a reason of its own, and is shown at one place. Strictness about enums adds notices
about source entries that reach nothing, and no more; strays add one error each. Notices and
such errors are told from all other diagnostics by their wording.
-/

import MappingPlan.Proofs.Plan.Review

set_option autoImplicit false

namespace MappingPlan

namespace Context

variable {context : Context} {diagnostic : Diagnostic}

inductive MemberFinds (context : Context) (target : String) (member : Member) :
    Finding → Span → Prop where
  | withoutSource :
      member.sources = [] →
      MemberFinds context target member
        (.memberWithoutSource target member.parameter.name) context.mapper.span
  | withSources {first second : Source} {others : List Source} :
      member.sources = first :: second :: others →
      MemberFinds context target member
        (.memberWithSources target member.parameter.name) (context.locate second.span)
  | input {read : PropertyRead} {adapter : Adapter} {expected : Ty} :
      member.sources = [.property read] → read.adapter = some adapter →
      adapter.input? = some expected → ¬context.policy.Accepts read.type expected →
      MemberFinds context target member
        (.adapterInput (context.callee adapter) target member.parameter.name
          (context.display expected) (context.display read.type))
        (context.locate read.span)
  | result {source : Source} :
      member.sources = [source] → ¬context.policy.Accepts source.type member.parameter.type →
      MemberFinds context target member
        (.memberType target member.parameter.name (context.display member.parameter.type)
          source.isAutomatic (context.display source.type))
        (context.locate source.span)

theorem MemberFinds.severity_eq {target : String} {member : Member} {finding : Finding}
    {span : Span} (finds : context.MemberFinds target member finding span) :
    finding.severity = .error := by
  cases finds <;> rfl

theorem finds_of_mem_inputFindings {target : String} {member : Member} {read : PropertyRead}
    (sole : member.sources = [.property read])
    (found : diagnostic ∈ context.inputFindings target member.parameter.name read) :
    ∃ finding span, context.MemberFinds target member finding span ∧
      diagnostic = finding.report span := by
  by_cases fits : ∀ adapter expected, read.adapter = some adapter →
      adapter.input? = some expected → context.policy.Accepts read.type expected
  · rw [inputFindings_of_fit fits] at found
    cases found
  · simp only [Classical.not_forall, exists_prop] at fits
    obtain ⟨adapter, expected, through, takes, rejected⟩ := fits
    rw [inputFindings_of_misfit through takes rejected] at found
    exact ⟨_, _, .input sole through takes rejected, List.mem_singleton.mp found⟩

theorem finds_of_mem_typeFindings {target : String} {member : Member} {source : Source}
    (sole : member.sources = [source])
    (found : diagnostic ∈ context.typeFindings target member.parameter source) :
    ∃ finding span, context.MemberFinds target member finding span ∧
      diagnostic = finding.report span := by
  unfold typeFindings at found
  split at found
  next => cases found
  next rejected =>
    have misfit := rejected ∘ (accepts_iff source.type member.parameter.type).mpr
    exact ⟨_, _, .result sole misfit, List.mem_singleton.mp found⟩

theorem finds_of_mem_memberFindings {target : String} {member : Member}
    (found : diagnostic ∈ context.memberFindings target member) :
    ∃ finding span, context.MemberFinds target member finding span ∧
      diagnostic = finding.report span := by
  unfold memberFindings at found
  split at found
  next empty => exact ⟨_, _, .withoutSource empty, List.mem_singleton.mp found⟩
  next source sole =>
    cases source with
    | property read =>
        rcases List.mem_append.mp found with atInput | atResult
        · exact finds_of_mem_inputFindings sole atInput
        · exact finds_of_mem_typeFindings sole atResult
    | expression body => exact finds_of_mem_typeFindings sole found
    | constant value type => exact finds_of_mem_typeFindings sole found
    | declaredDefault type span => cases found
  next several => exact ⟨_, _, .withSources several, List.mem_singleton.mp found⟩

inductive Finds (context : Context) : Plan → Finding → Span → Prop where
  | member {plan : ConstructorPlan} {member : Member} {finding : Finding} {span : Span} :
      member ∈ plan.members →
      context.MemberFinds (context.display plan.target) member finding span →
      Finds context (.construction plan) finding span
  | entryWithoutSource {plan : EnumPlan} {entry : EntryPlan} :
      entry ∈ plan.entries → entry.sources = [] →
      Finds context (.enumeration plan)
        (.entryWithoutSource (context.display plan.target) entry.target) context.mapper.span
  | entryWithSources {plan : EnumPlan} {entry : EntryPlan} :
      entry ∈ plan.entries → 1 < entry.sources.length →
      Finds context (.enumeration plan)
        (.entryWithSources (context.display plan.target) entry.target) context.mapper.span
  | unmappedEntry {plan : EnumPlan} {entry : String} :
      entry ∈ plan.sourceEntries → plan.targetsOf entry = [] →
      context.policy.strictEnums = true →
      Finds context (.enumeration plan)
        (.unmappedEntry (context.display plan.source) entry) context.mapper.span
  | ambiguousEntry {plan : EnumPlan} {entry : String} :
      entry ∈ plan.sourceEntries → plan.targetsOf entry ≠ [] → 1 < plan.directedCount entry →
      Finds context (.enumeration plan)
        (.ambiguousEntry (context.display plan.source) entry) context.mapper.span
  | valueType {plan : ValuePlan} :
      plan.conversion = none →
      Finds context (.value plan)
        (.valueType (context.display plan.source) (context.display plan.target))
        context.mapper.span

theorem finds_of_mem_targetEntryFindings {plan : EnumPlan} {entry : EntryPlan}
    (among : entry ∈ plan.entries)
    (found : diagnostic ∈ context.targetEntryFindings (context.display plan.target) entry) :
    ∃ finding span, context.Finds (.enumeration plan) finding span ∧
      diagnostic = finding.report span := by
  unfold targetEntryFindings at found
  split at found
  next empty => exact ⟨_, _, .entryWithoutSource among empty, List.mem_singleton.mp found⟩
  next => cases found
  next notEmpty notSole =>
    have several : 1 < entry.sources.length := by
      rcases sources : entry.sources with - | ⟨first, - | ⟨second, others⟩⟩
      · exact absurd sources notEmpty
      · exact absurd sources (notSole first)
      · exact Nat.succ_lt_succ (Nat.succ_pos others.length)
    exact ⟨_, _, .entryWithSources among several, List.mem_singleton.mp found⟩

theorem finds_of_mem_sourceEntryFindings {plan : EnumPlan} {entry : String}
    (among : entry ∈ plan.sourceEntries)
    (found : diagnostic ∈ context.sourceEntryFindings (context.display plan.source) plan entry) :
    ∃ finding span, context.Finds (.enumeration plan) finding span ∧
      diagnostic = finding.report span := by
  unfold sourceEntryFindings at found
  split at found
  next unmapped =>
    split at found
    next strict =>
      have nowhere := List.isEmpty_iff.mp unmapped
      exact ⟨_, _, .unmappedEntry among nowhere strict, List.mem_singleton.mp found⟩
    next => cases found
  next mapped =>
    split at found
    next several =>
      have somewhere := mapped ∘ List.isEmpty_iff.mpr
      exact ⟨_, _, .ambiguousEntry among somewhere several, List.mem_singleton.mp found⟩
    next => cases found

theorem finds_of_mem_partFindings {plan : Plan}
    (found : diagnostic ∈ context.partFindings plan) :
    ∃ finding span, context.Finds plan finding span ∧ diagnostic = finding.report span := by
  cases plan with
  | construction plan =>
      obtain ⟨member, among, found⟩ := List.mem_flatMap.mp found
      obtain ⟨finding, span, finds, rfl⟩ := finds_of_mem_memberFindings found
      exact ⟨finding, span, .member among finds, rfl⟩
  | enumeration plan =>
      rcases List.mem_append.mp found with atTarget | atSource
      · obtain ⟨entry, among, found⟩ := List.mem_flatMap.mp atTarget
        exact finds_of_mem_targetEntryFindings among found
      · obtain ⟨entry, among, found⟩ := List.mem_flatMap.mp atSource
        exact finds_of_mem_sourceEntryFindings among found
  | value plan =>
      unfold partFindings at found
      dsimp only at found
      split at found
      next => cases found
      next unrelated =>
        have none := Option.not_isSome_iff_eq_none.mp unrelated
        exact ⟨_, _, .valueType none, List.mem_singleton.mp found⟩

/-- A diagnostic of a review is a finding about a part of the plan, or about a stray. -/
theorem finds_of_mem_review {plan : Plan} (found : diagnostic ∈ context.review plan) :
    (∃ finding span, context.Finds plan finding span ∧ diagnostic = finding.report span) ∨
      ∃ stray ∈ plan.strays,
        diagnostic = (Finding.unknownTarget (context.display plan.target) stray.target).report
          (context.locate stray.span) := by
  rcases List.mem_append.mp found with atPart | atStray
  · exact Or.inl (finds_of_mem_partFindings atPart)
  · obtain ⟨stray, among, rfl⟩ := List.mem_map.mp atStray
    exact Or.inr ⟨stray, among, rfl⟩

end Context

/-! ### Strictness about enums -/

/-- A warning that a source entry is left over, recognized by how it ends. -/
def Diagnostic.isLeftover (diagnostic : Diagnostic) : Bool :=
  diagnostic.isWarning &&
    " is not mapped to any target entry".toList.isSuffixOf diagnostic.message.toList

theorem Diagnostic.isLeftover_of_isError {diagnostic : Diagnostic}
    (isError : diagnostic.isError = true) : diagnostic.isLeftover = false := by
  have severe : diagnostic.severity = .error := of_decide_eq_true isError
  have notWarning : diagnostic.isWarning = false := by
    unfold isWarning
    rw [severe]
    rfl
  unfold isLeftover
  rw [notWarning, Bool.false_and]

namespace Finding

theorem isLeftover_report_unmappedEntry (source entry : String) (span : Span) :
    ((unmappedEntry source entry).report span).isLeftover = true := by
  have ending : " is not mapped to any target entry".toList <:+
      (unmappedEntry source entry).message.toList := by
    refine ⟨("Source " ++ source ++ "." ++ entry).toList, ?_⟩
    rw [← String.toList_append]
    rfl
  unfold Diagnostic.isLeftover
  rw [Bool.and_eq_true]
  exact ⟨rfl, List.isSuffixOf_iff_suffix.mpr ending⟩

theorem isLeftover_report_entryWithSources (target entry : String) (span : Span) :
    ((entryWithSources target entry).report span).isLeftover = false := by
  have ending : " has multiple sources defined".toList <:+
      (entryWithSources target entry).message.toList := by
    refine ⟨("Target " ++ target ++ "." ++ entry).toList, ?_⟩
    rw [← String.toList_append]
    rfl
  rw [← Bool.not_eq_true]
  intro leftover
  have other := List.isSuffixOf_iff_suffix.mp (Bool.and_eq_true_iff.mp leftover).2
  rcases List.suffix_or_suffix_of_suffix ending other with within | within
  · revert within
    decide
  · revert within
    decide

end Finding

namespace Context

variable {context : Context}

def withStrictEnums (context : Context) (strict : Bool) : Context :=
  { context with policy := { context.policy with strictEnums := strict } }

theorem filter_memberFindings (target : String) (member : Member) :
    (context.memberFindings target member).filter (!·.isLeftover) =
      context.memberFindings target member := by
  rw [List.filter_eq_self]
  intro diagnostic found
  obtain ⟨finding, span, finds, rfl⟩ := finds_of_mem_memberFindings found
  rw [Diagnostic.isLeftover_of_isError (decide_eq_true finds.severity_eq)]
  rfl

theorem filter_targetEntryFindings (target : String) (entry : EntryPlan) :
    (context.targetEntryFindings target entry).filter (!·.isLeftover) =
      context.targetEntryFindings target entry := by
  unfold targetEntryFindings
  split
  · rfl
  · rfl
  · simp [Finding.isLeftover_report_entryWithSources]

theorem filter_strays (target : String) (strays : List Stray) :
    (strays.map (context.strayFinding target)).filter (!·.isLeftover) =
      strays.map (context.strayFinding target) := by
  rw [List.filter_eq_self]
  intro diagnostic found
  obtain ⟨stray, -, rfl⟩ := List.mem_map.mp found
  rfl

theorem filter_sourceEntryFindings (source : String) (plan : EnumPlan) (entry : String) :
    ((context.withStrictEnums true).sourceEntryFindings source plan entry).filter
        (!·.isLeftover) =
      (context.withStrictEnums false).sourceEntryFindings source plan entry := by
  unfold sourceEntryFindings withStrictEnums
  dsimp only
  split
  · simp [Finding.isLeftover_report_unmappedEntry]
  · split
    · rfl
    · rfl

theorem filter_review (plan : Plan) :
    ((context.withStrictEnums true).review plan).filter (!·.isLeftover) =
      (context.withStrictEnums false).review plan := by
  unfold review
  rw [List.filter_append, filter_strays]
  apply congrArg (· ++ _)
  cases plan with
  | construction plan =>
      change List.filter _ (List.flatMap _ _) = _
      rw [List.filter_flatMap]
      simp only [filter_memberFindings]
      rfl
  | enumeration plan =>
      change List.filter _ (List.flatMap _ _ ++ List.flatMap _ _) = _
      rw [List.filter_append, List.filter_flatMap, List.filter_flatMap]
      simp only [filter_targetEntryFindings, filter_sourceEntryFindings]
      rfl
  | value plan =>
      change List.filter _ (if plan.conversion.isSome then _ else _) =
        if plan.conversion.isSome then _ else _
      split
      · rfl
      · rfl

end Context

/-! ### Unknown targets -/

/-- An error about a target that does not exist, recognized by its wording. Other errors
end in names, which may contain anything, so the ending alone would not do. -/
def Diagnostic.isUnknownTarget (diagnostic : Diagnostic) : Bool :=
  diagnostic.isError && "Target ".toList.isPrefixOf diagnostic.message.toList &&
    " does not exist on the target".toList.isSuffixOf diagnostic.message.toList

theorem prefix_toList_append {beginning front : String} (rest : String)
    (begins : beginning.toList <+: front.toList) :
    beginning.toList <+: (front ++ rest).toList := by
  rw [String.toList_append]
  exact begins.trans (List.prefix_append _ _)

theorem suffix_toList_append (front ending : String) :
    ending.toList <:+ (front ++ ending).toList := by
  rw [String.toList_append]
  exact List.suffix_append _ _

namespace Diagnostic

variable {diagnostic : Diagnostic}

theorem isUnknownTarget_iff :
    diagnostic.isUnknownTarget = true ↔
      diagnostic.isError = true ∧ "Target ".toList <+: diagnostic.message.toList ∧
        " does not exist on the target".toList <:+ diagnostic.message.toList := by
  unfold isUnknownTarget
  rw [Bool.and_eq_true, Bool.and_eq_true, List.isPrefixOf_iff_prefix,
    List.isSuffixOf_iff_suffix, and_assoc]

theorem isUnknownTarget_of_beginning {beginning : String}
    (begins : beginning.toList <+: diagnostic.message.toList)
    (notWithin : ¬"Target ".toList <+: beginning.toList)
    (notAround : ¬beginning.toList <+: "Target ".toList) :
    diagnostic.isUnknownTarget = false := by
  rw [← Bool.not_eq_true, isUnknownTarget_iff]
  intro unknown
  obtain ⟨-, alsoBegins, -⟩ := unknown
  rcases List.prefix_or_prefix_of_prefix begins alsoBegins with around | within
  · exact notAround around
  · exact notWithin within

theorem isUnknownTarget_of_ending {ending : String}
    (ends : ending.toList <:+ diagnostic.message.toList)
    (notWithin : ¬" does not exist on the target".toList <:+ ending.toList)
    (notAround : ¬ending.toList <:+ " does not exist on the target".toList) :
    diagnostic.isUnknownTarget = false := by
  rw [← Bool.not_eq_true, isUnknownTarget_iff]
  intro unknown
  obtain ⟨-, -, alsoEnds⟩ := unknown
  rcases List.suffix_or_suffix_of_suffix ends alsoEnds with around | within
  · exact notAround around
  · exact notWithin within

end Diagnostic

namespace Finding

def opening : Finding → String
  | adapterInput _ _ _ _ _ | memberType _ _ _ _ _ | valueType _ _ => "Type mismatch: "
  | unmappedEntry _ _ | ambiguousEntry _ _ => "Source "
  | _ => "Target "

theorem opening_prefix_message (finding : Finding) :
    finding.opening.toList <+: finding.message.toList := by
  unfold message
  cases finding with
  | adapterInput callee target member expected found =>
      iterate 7 refine prefix_toList_append _ ?_
      exact List.prefix_refl _
  | memberType target member expected automatic found =>
      iterate 8 refine prefix_toList_append _ ?_
      exact (by decide : "Type mismatch: ".toList <+: "Type mismatch: target ".toList)
  | valueType source target =>
      iterate 3 refine prefix_toList_append _ ?_
      exact (by decide : "Type mismatch: ".toList <+: "Type mismatch: cannot map ".toList)
  | _ =>
      iterate 4 refine prefix_toList_append _ ?_
      exact List.prefix_refl _

def isUnknownTarget : Finding → Bool
  | unknownTarget _ _ => true
  | _ => false

/-- The wording of a finding tells whether it is about such a target. -/
theorem isUnknownTarget_report (finding : Finding) (span : Span) :
    (finding.report span).isUnknownTarget = finding.isUnknownTarget := by
  have begins := finding.opening_prefix_message
  have ofMismatch (opens : finding.opening = "Type mismatch: ") :
      (finding.report span).isUnknownTarget = false := by
    rw [opens] at begins
    exact Diagnostic.isUnknownTarget_of_beginning begins (by decide) (by decide)
  cases finding with
  | memberWithoutSource target member =>
      have ends : " has no source defined".toList <:+
          (memberWithoutSource target member).message.toList := suffix_toList_append _ _
      exact Diagnostic.isUnknownTarget_of_ending ends (by decide) (by decide)
  | memberWithSources target member =>
      have ends : " has multiple sources defined".toList <:+
          (memberWithSources target member).message.toList := suffix_toList_append _ _
      exact Diagnostic.isUnknownTarget_of_ending ends (by decide) (by decide)
  | adapterInput callee target member expected found => exact ofMismatch rfl
  | memberType target member expected automatic found => exact ofMismatch rfl
  | entryWithoutSource target entry =>
      have ends : " has no source defined".toList <:+
          (entryWithoutSource target entry).message.toList := suffix_toList_append _ _
      exact Diagnostic.isUnknownTarget_of_ending ends (by decide) (by decide)
  | entryWithSources target entry => rfl
  | unmappedEntry source entry => rfl
  | ambiguousEntry source entry =>
      have ends : " is mapped to multiple target entries".toList <:+
          (ambiguousEntry source entry).message.toList := suffix_toList_append _ _
      exact Diagnostic.isUnknownTarget_of_ending ends (by decide) (by decide)
  | valueType source target => exact ofMismatch rfl
  | unknownTarget target name =>
      have ends : " does not exist on the target".toList <:+
          (unknownTarget target name).message.toList := suffix_toList_append _ _
      exact Diagnostic.isUnknownTarget_iff.mpr ⟨rfl, begins, ends⟩

end Finding

namespace Context

variable {context : Context} {diagnostic : Diagnostic}

theorem isUnknownTarget_of_mem_partFindings {plan : Plan}
    (found : diagnostic ∈ context.partFindings plan) : diagnostic.isUnknownTarget = false := by
  obtain ⟨finding, span, finds, rfl⟩ := finds_of_mem_partFindings found
  rw [Finding.isUnknownTarget_report]
  cases finds with
  | member _ finds => cases finds <;> rfl
  | _ => rfl

/-- A review reports one error about an unknown target for each stray, in their order. -/
theorem filter_isUnknownTarget_review (plan : Plan) :
    (context.review plan).filter (·.isUnknownTarget) =
      plan.strays.map (context.strayFinding (context.display plan.target)) := by
  have ofParts : (context.partFindings plan).filter (·.isUnknownTarget) = [] := by
    rw [List.filter_eq_nil_iff]
    intro diagnostic found
    rw [isUnknownTarget_of_mem_partFindings found]
    exact Bool.false_ne_true
  have ofStrays : ∀ diagnostic ∈ plan.strays.map
      (context.strayFinding (context.display plan.target)), diagnostic.isUnknownTarget = true := by
    rw [List.forall_mem_map]
    intro stray _
    exact Finding.isUnknownTarget_report _ _
  unfold review
  rw [List.filter_append, ofParts, List.nil_append, List.filter_eq_self]
  exact ofStrays

end Context

end MappingPlan
