/-
How a resolution fails. Each stage fails for reasons of its own, and a resolution fails as
the first stage that does: the body is read, the form of the target is found, and then
the directives are read in order, as sources of values or as routes between entries. The
choice of a constructor never fails.
-/

import MappingPlan.Proofs.Resolution.Enumeration
import MappingPlan.Proofs.Source.Unreadable

set_option autoImplicit false

namespace MappingPlan

theorem Definition.isEnum_iff (definition : Definition) :
    definition.isEnum = true ↔ ∃ entries, definition.body = .enumBody entries := by
  unfold isEnum
  cases definition.body with
  | enumBody entries => exact ⟨fun _ => ⟨entries, rfl⟩, fun _ => rfl⟩
  | classBody constructors properties => simp
  | mapperBody source target entryPoints => simp

inductive Assignment.RouteFails (source target : Definition) (assignment : Assignment) :
    Failure → Prop where
  | inapplicable :
      (∀ entry, assignment.directive ≠ .entry entry) →
      RouteFails source target assignment
        ⟨.inapplicable assignment.directive.keyword target.name, assignment.span⟩
  | unknownEntry {entry : EntryRef} :
      assignment.directive = .entry entry → entry.name ∉ source.entries →
      RouteFails source target assignment ⟨.unknownEntry source.name entry.name, entry.span⟩

theorem Assignment.toRoute_eq_error_iff {source target : Definition} {assignment : Assignment}
    {failure : Failure} :
    assignment.toRoute source target = .error failure ↔
      assignment.RouteFails source target failure := by
  constructor
  · intro failed
    unfold toRoute at failed
    split at failed
    next entry isEntry =>
      split at failed
      next => cases failed
      next absent =>
        obtain rfl := Except.error.inj failed
        exact .unknownEntry isEntry fun member => absent (List.contains_iff_mem.mpr member)
    next notEntry =>
      obtain rfl := Except.error.inj failed
      exact .inapplicable notEntry
  · intro fails
    unfold toRoute
    cases fails with
    | inapplicable notEntry =>
        split
        next entry isEntry => exact absurd isEntry (notEntry entry)
        next => rfl
    | unknownEntry isEntry absent =>
        rw [isEntry]
        exact if_neg fun known => absent (List.contains_iff_mem.mp known)

namespace Context

variable {context : Context} {failure : Failure}

def BodyFails (context : Context) (failure : Failure) : Prop :=
  ∃ body, context.mapper.body = some body ∧ (Reading.body body []).1 = .error failure

theorem assignments_eq_error_iff :
    context.mapper.assignments = .error failure ↔ context.BodyFails failure := by
  unfold Mapper.assignments BodyFails
  cases context.mapper.body with
  | none => simp
  | some body =>
      simp only [Option.some.injEq, exists_eq_left']
      cases Reading.body body [] with
      | mk ending collected =>
          cases ending with
          | ok => exact ⟨nofun, nofun⟩
          | error reported =>
              simp only [Except.error.injEq]

inductive TargetFails (context : Context) : Failure → Prop where
  | unsupported :
      context.mapper.target.isScalar = false → context.mapper.target.reference? = none →
      TargetFails context
        (context.failure (.unsupportedTarget (context.display context.mapper.target)))
  | unregistered {id : TypeId} :
      context.mapper.target.reference? = some id → context.types.definition? id = none →
      TargetFails context (context.failure (.unknownType id))
  | mapper {target : Definition} {source result : Ty} {entryPoints : List EntryPoint} :
      context.target? = some target → target.body = .mapperBody source result entryPoints →
      TargetFails context (context.failure (.unsupportedTarget target.name))
  | noVisibleConstructor {target : Definition} {constructors : List Constructor}
      {properties : List Property} :
      context.target? = some target → target.body = .classBody constructors properties →
      (∀ constructor ∈ constructors, constructor.isVisible = false) →
      TargetFails context (context.failure (.noVisibleConstructor target.name))

theorem target?_eq_some_iff {target : Definition} :
    context.target? = some target ↔
      ∃ id, context.mapper.target.reference? = some id ∧
        context.types.definition? id = some target :=
  Option.bind_eq_some_iff

theorem visibleConstructors_eq_nil_iff {target : Definition} {constructors : List Constructor}
    {properties : List Property} (isClass : target.body = .classBody constructors properties) :
    target.visibleConstructors = [] ↔
      ∀ constructor ∈ constructors, constructor.isVisible = false := by
  rw [Definition.visibleConstructors_of_class isClass]
  simp only [List.filter_eq_nil_iff, Bool.not_eq_true]

theorem targetForm_of_declared {target : Definition} (declared : context.target? = some target) :
    context.targetForm =
      match target.body with
      | .enumBody _ => .ok (.enumeration target)
      | .mapperBody _ _ _ => .error (context.failure (.unsupportedTarget target.name))
      | .classBody _ _ =>
          match target.visibleConstructors with
          | [] => .error (context.failure (.noVisibleConstructor target.name))
          | constructors => .ok (.construction target constructors) := by
  obtain ⟨id, referenced, found⟩ := target?_eq_some_iff.mp declared
  unfold targetForm
  dsimp only
  rw [isScalar_of_declared declared, if_neg Bool.false_ne_true, referenced]
  dsimp only
  rewrite [found]
  rfl

theorem targetForm_eq_error_iff :
    context.targetForm = .error failure ↔ context.TargetFails failure := by
  constructor
  · intro failed
    unfold targetForm at failed
    dsimp only at failed
    split at failed
    next => cases failed
    next notScalar =>
      split at failed
      next unreferenced =>
        obtain rfl := Except.error.inj failed
        exact .unsupported (Bool.eq_false_iff.mpr notScalar) unreferenced
      next id referenced =>
        split at failed
        next absent =>
          obtain rfl := Except.error.inj failed
          exact .unregistered referenced absent
        next target found =>
          have declared := target?_eq_some_iff.mpr ⟨id, referenced, found⟩
          split at failed
          next => cases failed
          next isMapper =>
            obtain rfl := Except.error.inj failed
            exact .mapper declared isMapper
          next isClass =>
            split at failed
            next none =>
              obtain rfl := Except.error.inj failed
              exact .noVisibleConstructor declared isClass
                ((visibleConstructors_eq_nil_iff isClass).mp none)
            next => cases failed
  · intro fails
    cases fails with
    | unsupported notScalar unreferenced =>
        unfold targetForm
        dsimp only
        rw [notScalar, if_neg Bool.false_ne_true, unreferenced]
    | unregistered referenced absent =>
        unfold targetForm
        dsimp only
        rw [isScalar_of_reference? referenced, if_neg Bool.false_ne_true, referenced]
        dsimp only
        rw [absent]
    | mapper declared isMapper =>
        rw [targetForm_of_declared declared, isMapper]
    | noVisibleConstructor declared isClass hidden =>
        rw [targetForm_of_declared declared, isClass]
        dsimp only
        rw [(visibleConstructors_eq_nil_iff isClass).mpr hidden]

/-- A single value, or a class: what directives that stand for sources can fill. -/
def TakesSources (context : Context) : Prop :=
  context.mapper.target.isScalar = true ∨
    ∃ target constructors properties, context.target? = some target ∧
      target.body = .classBody constructors properties

theorem targetForm_of_isEnum {target : Definition} (declared : context.target? = some target)
    (isEnum : target.isEnum = true) : context.targetForm = .ok (.enumeration target) := by
  obtain ⟨entries, body⟩ := target.isEnum_iff.mp isEnum
  rw [targetForm_of_declared declared, body]

theorem not_targetFails_of_isEnum {target : Definition}
    (declared : context.target? = some target) (isEnum : target.isEnum = true)
    (other : Failure) : ¬context.TargetFails other := by
  rw [← targetForm_eq_error_iff, targetForm_of_isEnum declared isEnum]
  exact nofun

theorem sourceEnum_eq_error_iff {target : Definition} :
    context.sourceEnum target = .error failure ↔
      (∀ source, context.source? = some source → source.isEnum = false) ∧
        failure = context.failure
          (.enumSourceRequired target.name (context.display context.mapper.source)) := by
  unfold sourceEnum
  cases kept : context.source?.filter (·.isEnum) with
  | some source =>
      obtain ⟨declared, isEnum⟩ := Option.filter_eq_some_iff.mp kept
      constructor
      · intro impossible
        cases impossible
      · intro both
        rw [both.1 source declared] at isEnum
        cases isEnum
  | none =>
      have noEnum : ∀ source, context.source? = some source → source.isEnum = false := by
        intro source declared
        rw [declared, Option.filter_eq_none_iff] at kept
        exact Bool.eq_false_iff.mpr (kept source rfl)
      dsimp only
      rw [Except.error.injEq, eq_comm]
      exact (and_iff_right noEnum).symm

theorem sourceEnum_eq_ok_iff {source target : Definition} :
    context.sourceEnum target = .ok source ↔
      context.source? = some source ∧ source.isEnum = true := by
  constructor
  · intro found
    obtain ⟨declared, isEnum⟩ := sourceEnum_eq_ok found
    exact ⟨declared, source.isEnum_iff.mpr isEnum⟩
  · intro both
    unfold sourceEnum
    rw [both.1, Option.filter_some, if_pos both.2]

theorem enumPlan_eq_error_iff {target : Definition} {assignments : List Assignment} :
    context.enumPlan target assignments = .error failure ↔
      context.sourceEnum target = .error failure ∨
        ∃ source, context.sourceEnum target = .ok source ∧
          ∃ before offending after, assignments = before ++ offending :: after ∧
            (∀ assignment ∈ before, ∀ other,
              ¬Assignment.RouteFails source target assignment other) ∧
            offending.RouteFails source target failure := by
  have routable (source : Definition) (assignment : Assignment) :
      (∃ route, assignment.toRoute source target = .ok route) ↔
        ∀ other, ¬assignment.RouteFails source target other := by
    simp only [exists_eq_ok_iff, ne_eq, Assignment.toRoute_eq_error_iff]
  unfold enumPlan
  rw [bind_eq_error_iff]
  refine or_congr_right (exists_congr fun source => and_congr_right fun _ => ?_)
  rw [bind_pure_eq_error_iff, mapM_eq_error_iff]
  simp only [routable, Assignment.toRoute_eq_error_iff]

/-! ### All stages -/

/-- The choice among the candidates for a target never fails. -/
theorem exists_settle {assignments : List Assignment} {candidates : Candidates}
    (assembled : context.assemble assignments = .ok candidates) :
    ∃ settled, context.settle candidates = .ok settled := by
  obtain ⟨form, formed, fills⟩ := fills_of_assemble assembled
  cases fills with
  | value => exact ⟨_, rfl⟩
  | enumeration => exact ⟨_, rfl⟩
  | @construction target constructors contributions contributed =>
      obtain ⟨chosen, -, choice, atChosen, -⟩ :=
        ConstructorPlan.choose?_map (.refl (context.constructorPlan contributions)) _
          (visible_of_targetForm formed)
      simp only [settle, choose, atChosen]
      exact ⟨_, rfl⟩

theorem resolve_eq_error_iff_stages :
    context.resolve = .error failure ↔
      context.mapper.assignments = .error failure ∨
        ∃ assignments, context.mapper.assignments = .ok assignments ∧
          context.assemble assignments = .error failure := by
  unfold resolve plan
  rw [bind_eq_error_iff, bind_eq_error_iff]
  constructor
  · intro either
    rcases either with (unread | ⟨assignments, read, failed⟩) | ⟨_, -, impossible⟩
    · exact Or.inl unread
    · rcases bind_eq_error_iff.mp failed with unassembled | ⟨candidates, assembled, unsettled⟩
      · exact Or.inr ⟨assignments, read, unassembled⟩
      · obtain ⟨settled, success⟩ := exists_settle assembled
        rw [success] at unsettled
        cases unsettled
    · cases impossible
  · intro either
    rcases either with unread | ⟨assignments, read, unassembled⟩
    · exact Or.inl (Or.inl unread)
    · exact Or.inl (Or.inr ⟨assignments, read, bind_eq_error_iff.mpr (Or.inl unassembled)⟩)

theorem assemble_eq_error_iff {assignments : List Assignment} :
    context.assemble assignments = .error failure ↔
      context.TargetFails failure ∨
        (∀ other, ¬context.TargetFails other) ∧
          (context.TakesSources ∧ context.contributions assignments = .error failure ∨
            ∃ target, context.target? = some target ∧ target.isEnum = true ∧
              context.enumPlan target assignments = .error failure) := by
  unfold assemble
  rw [bind_eq_error_iff, targetForm_eq_error_iff]
  apply or_congr_right
  simp only [← targetForm_eq_error_iff]
  constructor
  · intro stages
    obtain ⟨form, formed, failed⟩ := stages
    refine ⟨fun _ => by rw [formed]; exact nofun, ?_⟩
    rcases targetForm_cases formed with ⟨scalar, rfl⟩ | ⟨target, declared, ofKind⟩
    · exact Or.inl ⟨Or.inl scalar, bind_pure_eq_error_iff.mp failed⟩
    · rcases ofKind with ⟨isEnum, rfl⟩ | ⟨⟨constructors, properties, isClass⟩, -, rfl⟩
      · exact Or.inr ⟨target, declared, target.isEnum_iff.mpr isEnum,
          bind_pure_eq_error_iff.mp failed⟩
      · exact Or.inl ⟨Or.inr ⟨target, constructors, properties, declared, isClass⟩,
          bind_pure_eq_error_iff.mp failed⟩
  · intro both
    obtain ⟨fine, either⟩ := both
    cases formed : context.targetForm with
    | error other => exact absurd formed (fine other)
    | ok form =>
        refine ⟨form, rfl, ?_⟩
        rcases either with ⟨takes, failed⟩ | ⟨target, declared, isEnum, failed⟩
        · rcases takes with scalar | ⟨target, constructors, properties, declared, isClass⟩
          · rcases targetForm_cases formed with ⟨-, rfl⟩ | ⟨target, declared, -⟩
            · exact bind_pure_eq_error_iff.mpr failed
            · rw [isScalar_of_declared declared] at scalar
              cases scalar
          · obtain rfl := targetForm_of_class declared isClass formed
            exact bind_pure_eq_error_iff.mpr failed
        · rw [targetForm_of_isEnum declared isEnum] at formed
          obtain rfl := Except.ok.inj formed
          exact bind_pure_eq_error_iff.mpr failed

/-- How a resolution fails: as its first stage that fails, and among the directives as the
first that does. -/
inductive Fails (context : Context) : Failure → Prop where
  | body {failure : Failure} : context.BodyFails failure → Fails context failure
  | target {assignments : List Assignment} {failure : Failure} :
      context.mapper.assignments = .ok assignments → context.TargetFails failure →
      Fails context failure
  | source {before after : List Assignment} {offending : Assignment} {failure : Failure} :
      context.mapper.assignments = .ok (before ++ offending :: after) →
      (∀ other, ¬context.TargetFails other) → context.TakesSources →
      (∀ assignment ∈ before, ¬context.Unreadable assignment.directive) →
      context.SourceFails offending failure → Fails context failure
  | enumSource {assignments : List Assignment} {target : Definition} :
      context.mapper.assignments = .ok assignments →
      context.target? = some target → target.isEnum = true →
      (∀ source, context.source? = some source → source.isEnum = false) →
      Fails context
        (context.failure
          (.enumSourceRequired target.name (context.display context.mapper.source)))
  | route {source target : Definition} {before after : List Assignment}
      {offending : Assignment} {failure : Failure} :
      context.mapper.assignments = .ok (before ++ offending :: after) →
      context.target? = some target → target.isEnum = true →
      context.source? = some source → source.isEnum = true →
      (∀ assignment ∈ before, ∀ other,
        ¬Assignment.RouteFails source target assignment other) →
      offending.RouteFails source target failure → Fails context failure

theorem resolve_eq_error_iff_fails :
    context.resolve = .error failure ↔ context.Fails failure := by
  rw [resolve_eq_error_iff_stages]
  constructor
  · intro either
    rcases either with unread | ⟨assignments, read, failed⟩
    · exact .body (assignments_eq_error_iff.mp unread)
    · rcases assemble_eq_error_iff.mp failed with
        unformed | ⟨formed, ⟨takes, failed⟩ | ⟨target, declared, isEnum, failed⟩⟩
      · exact .target read unformed
      · obtain ⟨before, offending, after, rfl, fine, fails⟩ :=
          (contributions_eq_error_iff (Mapper.singleLevel_of_assignments read)).mp failed
        exact .source read formed takes fine fails
      · rcases enumPlan_eq_error_iff.mp failed with
          noSource | ⟨source, found, before, offending, after, rfl, fine, fails⟩
        · obtain ⟨noEnum, rfl⟩ := sourceEnum_eq_error_iff.mp noSource
          exact .enumSource read declared isEnum noEnum
        · obtain ⟨sourceDeclared, sourceIsEnum⟩ := sourceEnum_eq_ok_iff.mp found
          exact .route read declared isEnum sourceDeclared sourceIsEnum fine fails
  · intro fails
    cases fails with
    | body unread => exact Or.inl (assignments_eq_error_iff.mpr unread)
    | target read unformed =>
        exact Or.inr ⟨_, read, assemble_eq_error_iff.mpr (Or.inl unformed)⟩
    | source read formed takes fine fails =>
        have failed :=
          (contributions_eq_error_iff (Mapper.singleLevel_of_assignments read)).mpr
            ⟨_, _, _, rfl, fine, fails⟩
        exact Or.inr ⟨_, read, assemble_eq_error_iff.mpr (Or.inr ⟨formed, Or.inl ⟨takes, failed⟩⟩)⟩
    | @enumSource assignments target read declared isEnum noEnum =>
        have noSource : context.sourceEnum target = .error _ :=
          sourceEnum_eq_error_iff.mpr ⟨noEnum, rfl⟩
        have failed : context.enumPlan target assignments = .error _ :=
          enumPlan_eq_error_iff.mpr (Or.inl noSource)
        exact Or.inr ⟨_, read, assemble_eq_error_iff.mpr (Or.inr
          ⟨not_targetFails_of_isEnum declared isEnum, Or.inr ⟨_, declared, isEnum, failed⟩⟩)⟩
    | @route source target before after offending _ read declared isEnum sourceDeclared
        sourceIsEnum fine fails =>
        have failed : context.enumPlan target (before ++ offending :: after) = .error _ :=
          enumPlan_eq_error_iff.mpr (Or.inr
            ⟨source, sourceEnum_eq_ok_iff.mpr ⟨sourceDeclared, sourceIsEnum⟩,
              before, offending, after, rfl, fine, fails⟩)
        exact Or.inr ⟨_, read, assemble_eq_error_iff.mpr (Or.inr
          ⟨not_targetFails_of_isEnum declared isEnum, Or.inr ⟨_, declared, isEnum, failed⟩⟩)⟩

/-! ### What success rules out -/

theorem readable_of_resolve {resolved : Resolved} {assignments : List Assignment}
    (success : context.resolve = .ok resolved) (takes : context.TakesSources)
    (read : context.mapper.assignments = .ok assignments) :
    ∀ assignment ∈ assignments, ¬context.Unreadable assignment.directive := by
  obtain ⟨_, form, candidates, also, formed, fills, -, -⟩ := stages_of_resolve success
  obtain rfl := Except.ok.inj (read.symm.trans also)
  have single := Mapper.singleLevel_of_assignments read
  have contributed : ∃ contributions, context.contributions assignments = .ok contributions := by
    cases fills with
    | value contributed => exact ⟨_, contributed⟩
    | construction contributed => exact ⟨_, contributed⟩
    | enumeration =>
        rcases takes with scalar | ⟨target, constructors, properties, declared, isClass⟩
        · rcases targetForm_cases formed with ⟨-, impossible⟩ | ⟨target, declared, -⟩
          · cases impossible
          · rw [isScalar_of_declared declared] at scalar
            cases scalar
        · cases targetForm_of_class declared isClass formed
  intro assignment member
  have own := (exists_mapM_eq_ok_iff context.contribution assignments).mp contributed
  exact (exists_contribution_iff (single assignment member)).mp (own assignment member)

theorem routed_of_resolve {resolved : Resolved} {assignments : List Assignment}
    {target : Definition} (success : context.resolve = .ok resolved)
    (declared : context.target? = some target) (isEnum : target.isEnum = true)
    (read : context.mapper.assignments = .ok assignments) :
    ∃ source, context.source? = some source ∧ source.isEnum = true ∧
      ∀ assignment ∈ assignments, ∃ entry, assignment.directive = .entry entry ∧
        entry.name ∈ source.entries := by
  obtain ⟨entries, body⟩ := target.isEnum_iff.mp isEnum
  obtain ⟨_, plan, also, planned, -, -⟩ := enumeration_of_resolve declared body success
  obtain rfl := Except.ok.inj (read.symm.trans also)
  obtain ⟨source, routes, sourceDeclared, sourceIsEnum, routed, -⟩ := enumPlan_eq_ok planned
  refine ⟨source, sourceDeclared, source.isEnum_iff.mpr sourceIsEnum, ?_⟩
  intro assignment member
  have own := (exists_mapM_eq_ok_iff _ assignments).mp ⟨routes, routed⟩
  obtain ⟨route, success⟩ := own assignment member
  obtain ⟨entry, named, known, -⟩ := Assignment.toRoute_eq_ok success
  exact ⟨entry, named, known⟩

/-- A resolution fails exactly if the body is rejected, or the target has no form, or a
directive about a value or a class is unreadable, or, for an enum, the source is no enum
or a directive is no route from one of its entries. It fails as the first stage that
does, and there at the first directive. -/
theorem resolve_eq_error_iff (context : Context) :
    ((∃ failure, context.resolve = .error failure) ↔
      (∃ failure, context.BodyFails failure) ∨
      (∃ failure, context.TargetFails failure) ∨
      (context.TakesSources ∧ ∃ assignments, context.mapper.assignments = .ok assignments ∧
        ∃ assignment ∈ assignments, context.Unreadable assignment.directive) ∨
      ∃ target, context.target? = some target ∧ target.isEnum = true ∧
        ((∀ source, context.source? = some source → source.isEnum = false) ∨
          ∃ assignments, context.mapper.assignments = .ok assignments ∧
            ∃ assignment ∈ assignments,
              (∀ entry, assignment.directive ≠ .entry entry) ∨
              ∃ source entry, context.source? = some source ∧ source.isEnum = true ∧
                assignment.directive = .entry entry ∧ entry.name ∉ source.entries)) ∧
    ∀ failure, context.resolve = .error failure ↔ context.Fails failure := by
  refine ⟨⟨?_, ?_⟩, fun _ => resolve_eq_error_iff_fails⟩
  · intro failed
    obtain ⟨failure, failed⟩ := failed
    cases resolve_eq_error_iff_fails.mp failed with
    | body unread => exact Or.inl ⟨failure, unread⟩
    | target _ unformed => exact Or.inr (Or.inl ⟨failure, unformed⟩)
    | @source before after offending _ read _ takes _ fails =>
        refine Or.inr (Or.inr (Or.inl ⟨takes, _, read, offending, ?_, ?_⟩))
        · exact List.mem_append_right _ List.mem_cons_self
        · exact exists_sourceFails_iff.mp ⟨failure, fails⟩
    | enumSource _ declared isEnum noEnum =>
        exact Or.inr (Or.inr (Or.inr ⟨_, declared, isEnum, Or.inl noEnum⟩))
    | @route source target before after offending _ read declared isEnum sourceDeclared
        sourceIsEnum _ fails =>
        refine Or.inr (Or.inr (Or.inr ⟨target, declared, isEnum, Or.inr ⟨_, read, offending,
          List.mem_append_right _ List.mem_cons_self, ?_⟩⟩))
        cases fails with
        | inapplicable notEntry => exact Or.inl notEntry
        | unknownEntry named absent =>
            exact Or.inr ⟨source, _, sourceDeclared, sourceIsEnum, named, absent⟩
  · intro conditions
    cases success : context.resolve with
    | error failure => exact ⟨failure, rfl⟩
    | ok resolved =>
        exfalso
        obtain ⟨assignments, form, -, read, formed, -, -, -⟩ := stages_of_resolve success
        rcases conditions with ⟨failure, unread⟩ | ⟨failure, unformed⟩ |
          ⟨takes, _, also, assignment, member, unreadable⟩ |
          ⟨target, declared, isEnum, unrouted⟩
        · rw [assignments_eq_error_iff.mpr unread] at read
          cases read
        · rw [targetForm_eq_error_iff.mpr unformed] at formed
          cases formed
        · exact readable_of_resolve success takes also assignment member unreadable
        · obtain ⟨source, sourceDeclared, sourceIsEnum, routed⟩ :=
            routed_of_resolve success declared isEnum read
          rcases unrouted with noEnum | ⟨_, also, assignment, member, wrong⟩
          · rw [noEnum source sourceDeclared] at sourceIsEnum
            cases sourceIsEnum
          · obtain rfl := Except.ok.inj (read.symm.trans also)
            obtain ⟨entry, named, known⟩ := routed assignment member
            rcases wrong with notEntry | ⟨other, named', otherDeclared, -, alsoNamed, absent⟩
            · exact notEntry entry named
            · obtain rfl := Option.some.inj (sourceDeclared.symm.trans otherDeclared)
              obtain rfl := Directive.entry.inj (named.symm.trans alsoNamed)
              exact absent known

end Context

end MappingPlan
