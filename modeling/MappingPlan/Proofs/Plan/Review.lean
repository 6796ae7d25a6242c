/-
When a review finds an error. Every finding about a constructor plan is one, so such
a plan is valid exactly if each of its members has one source that is fit for it
and no directive is left over.
-/

import MappingPlan.Resolution

set_option autoImplicit false

namespace MappingPlan

/-- A value of one type may be stored in a place of another, by widening only where
the policy lets it. -/
def Policy.Accepts (policy : Policy) (found expected : Ty) : Prop :=
  found.conversion? expected = some .identity ∨
    policy.implicitConversions = true ∧
      ∃ narrow wide, found.conversion? expected = some (.widening narrow wide)

theorem Policy.accepts_of_identity {policy : Policy} {found expected : Ty}
    (stored : found.conversion? expected = some .identity) : policy.Accepts found expected :=
  Or.inl stored

theorem Policy.not_accepts_of_none {policy : Policy} {found expected : Ty}
    (misfit : found.conversion? expected = none) : ¬policy.Accepts found expected := by
  unfold Accepts
  rw [misfit]
  simp only [reduceCtorEq, exists_false, and_false, or_false, not_false_eq_true]

theorem Log.hasErrors_eq_false_iff (log : Log) :
    log.hasErrors = false ↔ ∀ diagnostic ∈ log, diagnostic.severity ≠ .error := by
  unfold hasErrors
  rw [List.any_eq_false]
  simp only [Diagnostic.isError, decide_eq_true_eq, ne_eq]

theorem Log.hasErrors_append (first second : Log) :
    Log.hasErrors (first ++ second) = (first.hasErrors || second.hasErrors) :=
  List.any_append

theorem Log.hasErrors_flatMap {Part : Type} (parts : List Part) (findings : Part → Log)
    (Fine : Part → Prop) (fine : ∀ part, (findings part).hasErrors = false ↔ Fine part) :
    Log.hasErrors (parts.flatMap findings) = false ↔ ∀ part ∈ parts, Fine part := by
  unfold Log.hasErrors at fine ⊢
  rw [List.any_flatMap, List.any_eq_false]
  apply forall₂_congr
  intro part _
  rw [Bool.not_eq_true]
  exact fine part

theorem Resolved.plan?_isSome_iff (resolved : Resolved) :
    resolved.plan?.isSome = true ↔ resolved.findings.hasErrors = false := by
  unfold Resolved.plan? Resolved.isValid
  cases resolved.findings.hasErrors <;> simp

namespace Context

variable {context : Context}

theorem accepts_iff (found expected : Ty) :
    context.accepts found expected = true ↔ context.policy.Accepts found expected := by
  unfold accepts Policy.Accepts
  cases found.conversion? expected with
  | none => simp
  | some conversion => cases conversion <;> simp

/-- What a source produces is fit for a slot, and what it reads is fit for what it
passes through. A declared default is fit by declaration. -/
def SourceFits (context : Context) (slot : Ty) : Source → Prop
  | .property read =>
      (∀ input, read.adapter.bind (·.input?) = some input →
        context.policy.Accepts read.type input) ∧
      context.policy.Accepts read.result slot
  | .expression body => context.policy.Accepts body.result slot
  | .constant _ type => context.policy.Accepts type slot
  | .declaredDefault _ _ => True

theorem inputFindings_of_fit {target member : String} {read : PropertyRead}
    (fits : ∀ adapter expected, read.adapter = some adapter → adapter.input? = some expected →
      context.policy.Accepts read.type expected) :
    context.inputFindings target member read = [] := by
  unfold inputFindings
  split
  next => rfl
  next adapter through =>
    split
    next => rfl
    next expected takes =>
      rw [if_pos ((accepts_iff _ _).mpr (fits adapter expected through takes))]

theorem inputFindings_of_misfit {target member : String} {read : PropertyRead}
    {adapter : Adapter} {expected : Ty} (through : read.adapter = some adapter)
    (takes : adapter.input? = some expected)
    (rejected : ¬context.policy.Accepts read.type expected) :
    context.inputFindings target member read =
      [(Finding.adapterInput (context.callee adapter) target member
        (context.display expected) (context.display read.type)).report
          (context.locate read.span)] := by
  rw [← accepts_iff] at rejected
  simp only [inputFindings, through, takes, if_neg rejected]

theorem inputFindings_hasErrors_iff (target member : String) (read : PropertyRead) :
    Log.hasErrors (context.inputFindings target member read) = false ↔
      ∀ input, read.adapter.bind (·.input?) = some input →
        context.policy.Accepts read.type input := by
  constructor
  · intro clean input taken
    obtain ⟨adapter, through, takes⟩ := Option.bind_eq_some_iff.mp taken
    refine Classical.byContradiction fun rejected => ?_
    rw [inputFindings_of_misfit through takes rejected] at clean
    cases clean
  · intro accepted
    rw [inputFindings_of_fit]
    · rfl
    · intro adapter expected through takes
      exact accepted expected (Option.bind_eq_some_iff.mpr ⟨adapter, through, takes⟩)

theorem typeFindings_hasErrors_iff (target : String) (parameter : Parameter)
    (source : Source) :
    Log.hasErrors (context.typeFindings target parameter source) = false ↔
      context.policy.Accepts source.type parameter.type := by
  unfold typeFindings
  rw [← accepts_iff]
  split
  next accepted => simp [Log.hasErrors, accepted]
  next rejected =>
    simp [Log.hasErrors, Finding.report, Finding.severity, Diagnostic.isError, rejected]

theorem sourceFindings_hasErrors_iff (target : String) (parameter : Parameter)
    (source : Source) :
    Log.hasErrors (context.sourceFindings target parameter source) = false ↔
      context.SourceFits parameter.type source := by
  cases source with
  | property read =>
      unfold sourceFindings SourceFits
      rw [Log.hasErrors_append, Bool.or_eq_false_iff, inputFindings_hasErrors_iff,
        typeFindings_hasErrors_iff]
      rfl
  | expression body => exact typeFindings_hasErrors_iff target parameter (.expression body)
  | constant value type =>
      exact typeFindings_hasErrors_iff target parameter (.constant value type)
  | declaredDefault type span => exact ⟨fun _ => trivial, fun _ => rfl⟩

/-- A member has exactly one source, which is fit for it. -/
def MemberFits (context : Context) (member : Member) : Prop :=
  ∃ source, member.sources = [source] ∧ context.SourceFits member.parameter.type source

theorem memberFindings_hasErrors_iff (target : String) (member : Member) :
    Log.hasErrors (context.memberFindings target member) = false ↔
      context.MemberFits member := by
  unfold memberFindings MemberFits
  cases member.sources with
  | nil => simp [Log.hasErrors, Finding.report, Finding.severity, Diagnostic.isError]
  | cons first others =>
      cases others with
      | nil => simp [sourceFindings_hasErrors_iff]
      | cons second more =>
          simp [Log.hasErrors, Finding.report, Finding.severity, Diagnostic.isError]

theorem targetEntryFindings_hasErrors_iff (target : String) (entry : EntryPlan) :
    Log.hasErrors (context.targetEntryFindings target entry) = false ↔ entry.sources ≠ [] := by
  unfold targetEntryFindings
  split
  next empty =>
    simp [Log.hasErrors, Finding.report, Finding.severity, Diagnostic.isError, empty]
  next only one => simp [Log.hasErrors, one]
  next notEmpty _ =>
    simp [Log.hasErrors, Finding.report, Finding.severity, Diagnostic.isError]
    exact notEmpty

theorem sourceEntryFindings_hasErrors_iff (source : String) (plan : EnumPlan)
    (entry : String) :
    Log.hasErrors (context.sourceEntryFindings source plan entry) = false ↔
      plan.targetsOf entry = [] ∨ plan.directedCount entry ≤ 1 := by
  unfold sourceEntryFindings
  cases targets : plan.targetsOf entry with
  | nil =>
      rw [List.isEmpty_nil, if_pos rfl]
      split <;> simp [Log.hasErrors, Finding.report, Finding.severity, Diagnostic.isError]
  | cons first others =>
      rw [List.isEmpty_cons, if_neg Bool.false_ne_true]
      split
      next several =>
        simp [Log.hasErrors, Finding.report, Finding.severity, Diagnostic.isError, several]
      next atMostOne => simp [Log.hasErrors, Nat.le_of_not_lt atMostOne]

theorem strays_hasErrors_iff (target : String) (strays : List Stray) :
    Log.hasErrors (strays.map (context.strayFinding target)) = false ↔ strays = [] := by
  cases strays with
  | nil => exact ⟨fun _ => rfl, fun _ => rfl⟩
  | cons first others =>
      constructor
      · intro impossible
        cases impossible
      · intro impossible
        cases impossible

theorem review_construction_hasErrors_iff (plan : ConstructorPlan) :
    (context.review (.construction plan)).hasErrors = false ↔
      (∀ member ∈ plan.members, context.MemberFits member) ∧ plan.strays = [] := by
  unfold review partFindings
  rw [Log.hasErrors_append, Bool.or_eq_false_iff, strays_hasErrors_iff]
  exact and_congr (Log.hasErrors_flatMap _ _ _ (memberFindings_hasErrors_iff _)) Iff.rfl

theorem review_enumeration_hasErrors_iff (plan : EnumPlan) :
    (context.review (.enumeration plan)).hasErrors = false ↔
      ((∀ entry ∈ plan.entries, entry.sources ≠ []) ∧
        ∀ entry ∈ plan.sourceEntries,
          plan.targetsOf entry = [] ∨ plan.directedCount entry ≤ 1) ∧
      plan.strays = [] := by
  unfold review partFindings
  rw [Log.hasErrors_append, Bool.or_eq_false_iff, strays_hasErrors_iff, Log.hasErrors_append,
    Bool.or_eq_false_iff]
  refine and_congr (and_congr ?_ ?_) Iff.rfl
  · exact Log.hasErrors_flatMap _ _ _ (targetEntryFindings_hasErrors_iff _)
  · exact Log.hasErrors_flatMap _ _ _ (sourceEntryFindings_hasErrors_iff _ plan)

theorem review_value_hasErrors_iff (plan : ValuePlan) :
    (context.review (.value plan)).hasErrors = false ↔
      plan.conversion.isSome = true ∧ plan.strays = [] := by
  unfold review partFindings
  rw [Log.hasErrors_append, Bool.or_eq_false_iff, strays_hasErrors_iff]
  apply and_congr _ Iff.rfl
  dsimp only
  split
  next converts => simp [Log.hasErrors, converts]
  next unrelated =>
    simp [Log.hasErrors, Finding.report, Finding.severity, Diagnostic.isError, unrelated]

end Context

end MappingPlan
