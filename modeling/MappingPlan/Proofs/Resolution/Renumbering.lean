/-
Resolutions under other numbers. Numbers are compared, looked up and shown by what is declared
under them, and nothing else is done with them. So a mapper under other numbers is resolved to
the same plan under these, for the same reason and with the same diagnostics. The order of the
declarations decides which type has which number and nothing else, so it changes no more.
-/

import MappingPlan.Proofs.Catalog.Reordered
import MappingPlan.Proofs.Plan.Renumbered
import MappingPlan.Proofs.Resolution.Construction

set_option autoImplicit false

namespace MappingPlan

def TargetForm.renumbered (number : TypeId → TypeId) : TargetForm → TargetForm
  | value type => .value (type.renumbered number)
  | enumeration target => .enumeration (target.renumbered number)
  | construction target constructors =>
      .construction (target.renumbered number) (constructors.map (·.renumbered number))

def Candidates.renumbered (number : TypeId → TypeId) : Candidates → Candidates
  | single plan => .single (plan.renumbered number)
  | constructors plans => .constructors (plans.map (·.renumbered number))

theorem LiteralValue.type_renumbered (number : TypeId → TypeId) (value : LiteralValue) :
    value.type.renumbered number = value.type := by
  cases value <;> rfl

namespace ConstructorPlan

variable (number : TypeId → TypeId)

theorem choose?_renumbered (plans : List ConstructorPlan) :
    choose? (plans.map (·.renumbered number)) =
      (choose? plans).map fun chosen => (chosen.1.renumbered number, chosen.2) := by
  cases chose : choose? plans with
  | none =>
      rw [choose?_eq_none_iff.mp chose]
      rfl
  | some result =>
      obtain ⟨index, found, atIndex⟩ := choose?_eq_some_iff.mp chose
      refine choose?_map_eq_some_iff.mpr ⟨index, result.1, found, rfl, ?_⟩
      simp only [explicitCount_renumbered]
      exact atIndex

end ConstructorPlan

namespace Context

variable {number : TypeId → TypeId} {context : Context} {others : TypeLookup}
  (renumbers : context.types.Renumbers number others)

include renumbers

theorem source?_renumbered :
    (context.renumbered number others).source? = context.source?.map (·.renumbered number) :=
  renumbers.declared? context.mapper.source

theorem targetForm_renumbered :
    (context.renumbered number others).targetForm =
      context.targetForm.map (·.renumbered number) := by
  have shown := display_renumbered renumbers context.mapper.target
  unfold targetForm
  simp only [renumbered, Mapper.renumbered, Ty.isScalar_renumbered,
    Ty.reference?_renumbered] at shown ⊢
  by_cases scalar : context.mapper.target.isScalar
  · rw [if_pos scalar, if_pos scalar]
    rfl
  · rw [if_neg scalar, if_neg scalar, shown]
    cases context.mapper.target.reference? with
    | none => rfl
    | some id =>
        simp only [Option.map_some, renumbers.definition?]
        cases found : context.types.definition? id with
        | none =>
            rw [renumbers.undeclared id found]
            rfl
        | some definition =>
            simp only [Option.map_some, Definition.visibleConstructors_renumbered]
            obtain ⟨own, name, body⟩ := definition
            cases body with
            | enumBody entries => rfl
            | mapperBody source target entryPoints => rfl
            | classBody constructors properties =>
                dsimp only [Definition.renumbered, DefinitionBody.renumbered]
                cases Definition.visibleConstructors
                    ⟨own, name, .classBody constructors properties⟩ with
                | nil => rfl
                | cons first rest => rfl

theorem entryCall_renumbered (delegate : Delegate) :
    (context.renumbered number others).entryCall (delegate.renumbered number) =
      (context.entryCall delegate).map (·.renumbered number) := by
  unfold entryCall
  simp only [renumbered, Delegate.renumbered, renumbers.definition?]
  cases found : context.types.definition? delegate.mapper with
  | none =>
      rw [renumbers.undeclared delegate.mapper found]
      rfl
  | some definition =>
      simp only [Option.map_some, Definition.isMapper_renumbered,
        Definition.entryPoint?_renumbered]
      by_cases isMapper : definition.isMapper
      · rw [if_pos isMapper, if_pos isMapper]
        cases definition.entryPoint? delegate.kind <;> rfl
      · rw [if_neg isMapper, if_neg isMapper]
        rfl

omit renumbers in
theorem read_renumbered (member : MemberRef) (adapter : Option Adapter) :
    (member.renumbered number).read (adapter.map (·.renumbered number)) =
      (member.read adapter).map (·.renumbered number) := by
  unfold MemberRef.read
  simp only [MemberRef.renumbered, Ty.reference?_renumbered]
  cases member.owner.reference? <;> rfl

omit renumbers in
theorem wrappedMember_renumbered (base : Directive) (wrapper : Wrapper) (span : Span) :
    (base.renumbered number).wrappedMember wrapper span =
      (base.wrappedMember wrapper span).map (·.renumbered number) := by
  cases base <;> rfl

omit renumbers in
theorem readProperty_renumbered (member : MemberRef) (adapter : Option Adapter) :
    ((member.renumbered number).read (adapter.map (·.renumbered number)) >>= fun read =>
        pure (Source.property read)) =
      (member.read adapter >>= fun read => pure (Source.property read)).map
        (·.renumbered number) := by
  rw [read_renumbered]
  apply map_bind_of_commutes
  intro read
  rfl

theorem explicitSource_renumbered (assignment : Assignment) :
    (context.renumbered number others).explicitSource (assignment.renumbered number) =
      (context.explicitSource assignment).map (·.renumbered number) := by
  obtain ⟨target, directive, span⟩ := assignment
  unfold explicitSource
  cases directive with
  | property source =>
      exact readProperty_renumbered source none
  | constant value =>
      change Except.ok (Source.constant value value.type) = Except.ok (Source.constant value _)
      rw [Literal.type, LiteralValue.type_renumbered]
  | expression body => rfl
  | transform base closure =>
      change ((base.renumbered number).wrappedMember .transform span >>= _) = _
      rw [wrappedMember_renumbered]
      apply map_bind_of_commutes
      intro member
      exact readProperty_renumbered member (some (.closure closure))
  | via base delegate =>
      change ((base.renumbered number).wrappedMember .via span >>= _) = _
      rw [wrappedMember_renumbered]
      apply map_bind_of_commutes
      intro member
      rw [entryCall_renumbered renumbers]
      apply map_bind_of_commutes
      intro call
      exact readProperty_renumbered member (some (.mapper call))
  | entry source =>
      have shown := display_renumbered renumbers context.mapper.target
      simp only [Assignment.renumbered, Directive.renumbered, renumbered, Mapper.renumbered]
        at shown ⊢
      rw [shown]
      rfl

theorem contribution_renumbered (assignment : Assignment) :
    (context.renumbered number others).contribution (assignment.renumbered number) =
      (context.contribution assignment).map (·.renumbered number) := by
  unfold contribution
  rw [explicitSource_renumbered renumbers]
  apply map_bind_of_commutes
  intro source
  rfl

theorem contributions_renumbered (assignments : List Assignment) :
    (context.renumbered number others).contributions (assignments.map (·.renumbered number)) =
      (context.contributions assignments).map (·.map (·.renumbered number)) :=
  mapM_map_of_commutes (contribution_renumbered renumbers) assignments

theorem mappersFor_renumbered (source target : Ty) :
    ((context.renumbered number others).mappersFor (source.renumbered number)
        (target.renumbered number)).Perm
      ((context.mappersFor source target).map (·.renumbered number)) := by
  have direct := renumbers.mappersBetween source target
  have sameEmpty : (others.mappersBetween (source.renumbered number)
      (target.renumbered number)).isEmpty =
        (context.types.mappersBetween source target).isEmpty := by
    rw [direct.isEmpty_eq, List.isEmpty_map]
  unfold mappersFor
  simp only [renumbered, sameEmpty, Ty.isNullable_renumbered, Ty.core_renumbered]
  split
  · exact renumbers.mappersBetween source target.core
  · exact direct

theorem onlyMapper?_renumbered (source target : Ty) :
    (context.renumbered number others).onlyMapper? (source.renumbered number)
        (target.renumbered number) =
      (context.onlyMapper? source target).map (·.renumbered number) := by
  rw [onlyMapper?_eq, onlyMapper?_eq, sole?_of_perm (mappersFor_renumbered renumbers source target),
    sole?_map]

theorem onlyCall?_renumbered (source target : Ty) (kind : EntryPointKind) :
    (context.renumbered number others).onlyCall? (source.renumbered number)
        (target.renumbered number) kind =
      (context.onlyCall? source target kind).map (·.renumbered number) := by
  unfold onlyCall?
  rw [onlyMapper?_renumbered renumbers]
  cases context.onlyMapper? source target with
  | none => rfl
  | some mapper =>
      simp only [Option.map_some, Option.bind_eq_bind, Option.bind_some,
        Definition.entryPoint?_renumbered]
      cases mapper.entryPoint? kind <;> rfl

theorem nestedCall?_renumbered (source target : Ty) :
    (context.renumbered number others).nestedCall? (source.renumbered number)
        (target.renumbered number) =
      (context.nestedCall? source target).map (·.renumbered number) := by
  unfold nestedCall?
  rw [onlyCall?_renumbered renumbers, Ty.element?_renumbered, Ty.element?_renumbered]
  cases context.onlyCall? source target .map with
  | some call => rfl
  | none =>
      cases source.element? with
      | none => rfl
      | some sourceElement =>
          cases target.element? with
          | none => rfl
          | some targetElement => exact onlyCall?_renumbered renumbers sourceElement targetElement _

theorem automaticSource?_renumbered (name : String) (type : Ty) :
    (context.renumbered number others).automaticSource? name (type.renumbered number) =
      (context.automaticSource? name type).map (·.renumbered number) := by
  unfold automaticSource?
  rw [source?_renumbered renumbers]
  cases context.source? with
  | none => rfl
  | some source =>
      simp only [Option.map_some, Option.bind_eq_bind, Option.bind_some,
        Definition.property?_renumbered]
      cases source.property? name with
      | none => rfl
      | some property =>
          have sameFit := Ty.assignableTo_renumbered renumbers.distinct property.type type
          have sameCall := nestedCall?_renumbered renumbers property.type type
          simp only [Option.map_some, Option.bind_some, Property.renumbered, sameFit, sameCall]
          by_cases nested : context.policy.nestedMappers && !property.type.assignableTo type
          · simp only [renumbered, nested]
            cases context.nestedCall? property.type type <;> rfl
          · simp only [renumbered, nested]
            rfl

/-! ### Plans -/

theorem fallback?_renumbered (parameter : Parameter) :
    (context.renumbered number others).fallback? (parameter.renumbered number) =
      (context.fallback? parameter).map (·.renumbered number) := by
  have automatic := automaticSource?_renumbered renumbers parameter.name parameter.type
  unfold fallback?
  simp only [Parameter.renumbered, automatic]
  cases context.automaticSource? parameter.name parameter.type with
  | some source => rfl
  | none =>
      by_cases kept : parameter.hasDefault && context.policy.defaultArguments
      · simp only [renumbered, kept]
        rfl
      · simp only [renumbered, kept]
        rfl

theorem member_renumbered (contributions : List Contribution) (parameter : Parameter) :
    (context.renumbered number others).member (contributions.map (·.renumbered number))
        (parameter.renumbered number) =
      (context.member contributions parameter).renumbered number := by
  have offered : ((contributions.map (·.renumbered number)).filter
        (·.target = (parameter.renumbered number).name)).map (·.source) =
      ((contributions.filter (·.target = parameter.name)).map (·.source)).map
        (·.renumbered number) := by
    rw [List.filter_map, List.map_map, List.map_map]
    rfl
  unfold member Member.renumbered
  rw [offered, fallback?_renumbered renumbers]
  cases (contributions.filter (·.target = parameter.name)).map (·.source) with
  | nil => cases context.fallback? parameter <;> rfl
  | cons first rest => rfl

omit renumbers in
theorem strays_renumbered (kept : String → Bool) (contributions : List Contribution) :
    ((contributions.map (·.renumbered number)).filter (fun offered => kept offered.target)).map
        (·.toStray) =
      ((contributions.filter (fun offered => kept offered.target)).map (·.toStray)).map
        (·.renumbered number) := by
  rw [List.filter_map, List.map_map, List.map_map]
  rfl

theorem constructorPlan_renumbered (contributions : List Contribution)
    (constructor : Constructor) :
    (context.renumbered number others).constructorPlan (contributions.map (·.renumbered number))
        (constructor.renumbered number) =
      (context.constructorPlan contributions constructor).renumbered number := by
  have members : (constructor.renumbered number).parameters.map
        ((context.renumbered number others).member (contributions.map (·.renumbered number))) =
      (constructor.parameters.map (context.member contributions)).map (·.renumbered number) := by
    simp only [Constructor.renumbered, List.map_map]
    apply List.map_congr_left
    intro parameter _
    exact member_renumbered renumbers contributions parameter
  have unknown : ∀ name, ((constructor.renumbered number).parameter? name).isNone =
      (constructor.parameter? name).isNone := by
    intro name
    rw [Constructor.parameter?_renumbered, Option.isNone_map]
  have strays := @strays_renumbered number
    (fun name => (constructor.parameter? name).isNone) contributions
  unfold constructorPlan ConstructorPlan.renumbered
  rw [members]
  simp only [unknown]
  rw [strays]
  rfl

theorem valuePlan_renumbered (type : Ty) (contributions : List Contribution) :
    (context.renumbered number others).valuePlan (type.renumbered number)
        (contributions.map (·.renumbered number)) =
      (context.valuePlan type contributions).renumbered number := by
  have sameConversion :=
    Ty.conversion?_renumbered renumbers.distinct context.mapper.source type
  have strays : (contributions.map (·.renumbered number)).map (·.toStray) =
      (contributions.map (·.toStray)).map (·.renumbered number) := by
    rw [List.map_map, List.map_map]
    rfl
  unfold valuePlan ValuePlan.renumbered
  simp only [renumbered, Mapper.renumbered, sameConversion, strays]

omit renumbers in
theorem toRoute_renumbered (source target : Definition) (assignment : Assignment) :
    (assignment.renumbered number).toRoute (source.renumbered number) (target.renumbered number) =
      assignment.toRoute source target := by
  obtain ⟨name, directive, span⟩ := assignment
  cases directive with
  | entry entry =>
      simp only [Assignment.renumbered, Directive.renumbered, Assignment.toRoute,
        EntryRef.renumbered, Definition.hasEntry_renumbered]
      rfl
  | _ => rfl

theorem sourceEnum_renumbered (target : Definition) :
    (context.renumbered number others).sourceEnum (target.renumbered number) =
      (context.sourceEnum target).map (·.renumbered number) := by
  have shown := display_renumbered renumbers context.mapper.source
  unfold sourceEnum
  rw [source?_renumbered renumbers]
  simp only [renumbered, Mapper.renumbered] at shown ⊢
  rw [shown]
  cases context.source? with
  | none => rfl
  | some source =>
      simp only [Option.map_some, Option.filter_some, Definition.isEnum_renumbered]
      by_cases isEnum : source.isEnum
      · rw [if_pos isEnum, if_pos isEnum]
        rfl
      · rw [if_neg isEnum, if_neg isEnum]
        rfl

omit renumbers in
theorem ofRoutes_renumbered (source : Definition) (routes : List Route) (target : String) :
    EntryPlan.ofRoutes (source.renumbered number) routes target =
      EntryPlan.ofRoutes source routes target := by
  unfold EntryPlan.ofRoutes Definition.entriesNamed
  rw [Definition.entries_renumbered]

theorem enumPlan_renumbered (target : Definition) (assignments : List Assignment) :
    (context.renumbered number others).enumPlan (target.renumbered number)
        (assignments.map (·.renumbered number)) =
      (context.enumPlan target assignments).map (·.renumbered number) := by
  unfold enumPlan
  rw [sourceEnum_renumbered renumbers]
  apply map_bind_of_commutes
  intro source
  have sameRoutes : (assignments.map (·.renumbered number)).mapM
        (Assignment.toRoute (source.renumbered number) (target.renumbered number)) =
      assignments.mapM (Assignment.toRoute source target) := by
    rw [List.mapM_map]
    congr 1
    funext assignment
    exact toRoute_renumbered source target assignment
  rw [sameRoutes]
  cases assignments.mapM (Assignment.toRoute source target) with
  | error failure => rfl
  | ok routes =>
      have entries : (EntryPlan.ofRoutes (source.renumbered number) routes) =
          EntryPlan.ofRoutes source routes := funext (ofRoutes_renumbered source routes)
      have unnumbered : ∀ route : Route, route.toStray.renumbered number = route.toStray :=
        fun _ => rfl
      change Except.ok _ = Except.ok _
      simp only [EnumPlan.renumbered, Definition.entries_renumbered,
        Definition.hasEntry_renumbered, entries, List.map_map, Function.comp_def, unnumbered]
      rfl

theorem assemble_renumbered (assignments : List Assignment) :
    (context.renumbered number others).assemble (assignments.map (·.renumbered number)) =
      (context.assemble assignments).map (·.renumbered number) := by
  unfold assemble
  rw [targetForm_renumbered renumbers]
  apply map_bind_of_commutes
  intro form
  cases form with
  | value type =>
      simp only [TargetForm.renumbered]
      rw [contributions_renumbered renumbers]
      apply map_bind_of_commutes
      intro contributions
      rw [valuePlan_renumbered renumbers]
      rfl
  | enumeration target =>
      simp only [TargetForm.renumbered]
      rw [enumPlan_renumbered renumbers]
      apply map_bind_of_commutes
      intro plan
      rfl
  | construction target constructors =>
      simp only [TargetForm.renumbered]
      rw [contributions_renumbered renumbers]
      apply map_bind_of_commutes
      intro contributions
      have plans : (constructors.map (·.renumbered number)).map
            ((context.renumbered number others).constructorPlan
              (contributions.map (·.renumbered number))) =
          (constructors.map (context.constructorPlan contributions)).map
            (·.renumbered number) := by
        rw [List.map_map, List.map_map]
        apply List.map_congr_left
        intro constructor _
        exact constructorPlan_renumbered renumbers contributions constructor
      rw [plans]
      rfl

theorem choose_renumbered (plans : List ConstructorPlan) :
    (context.renumbered number others).choose (plans.map (·.renumbered number)) =
      (context.choose plans).map fun chosen => (chosen.1.renumbered number, chosen.2) := by
  have shown := display_renumbered renumbers context.mapper.target
  unfold choose
  rw [ConstructorPlan.choose?_renumbered]
  simp only [renumbered, Mapper.renumbered] at shown ⊢
  rw [shown]
  cases ConstructorPlan.choose? plans <;> rfl

theorem settle_renumbered (candidates : Candidates) :
    (context.renumbered number others).settle (candidates.renumbered number) =
      (context.settle candidates).map fun settled =>
        (settled.1.renumbered number, settled.2) := by
  cases candidates with
  | single plan => rfl
  | constructors plans =>
      simp only [Candidates.renumbered, settle]
      rw [choose_renumbered renumbers]
      apply map_bind_of_commutes
      intro chosen
      rfl

theorem plan_renumbered :
    (context.renumbered number others).plan =
      context.plan.map fun settled => (settled.1.renumbered number, settled.2) := by
  have assigned := Mapper.assignments_renumbered number context.mapper
  unfold plan
  simp only [renumbered] at assigned ⊢
  rw [assigned]
  apply map_bind_of_commutes
  intro assignments
  have assembled := assemble_renumbered renumbers assignments
  simp only [renumbered] at assembled
  rw [assembled]
  apply map_bind_of_commutes
  exact settle_renumbered renumbers

/-- Numbers are opaque to resolution: a mapper under other numbers comes out as the same
plan under these, chosen for the same reason and reviewed alike, or fails as before. -/
theorem resolve_renumbered :
    (context.renumbered number others).resolve = context.resolve.map (·.renumbered number) := by
  unfold resolve
  rw [plan_renumbered renumbers]
  apply map_bind_of_commutes
  intro settled
  have reviewed := review_renumbered renumbers settled.1
  dsimp only
  rw [reviewed]
  rfl

end Context

/-! ### Declarations in another order -/

def Catalog.roadDeclarations : List Declaration :=
  roadSteps.filterMap fun
    | .declare declaration => some declaration
    | .abandon => none

namespace Context

/-- Declarations that all succeed do so in every order, once the numbers that they have in
the one order are exchanged for those of the other; the draft closes in both orders or in
neither. Every mapper, with its numbers exchanged, is then resolved to the same plan under
these numbers, with the same choice and the same findings, or fails alike, and is reported
alike. -/
theorem resolve_reordered {before after : List Declaration} (order : after.Perm before)
    (lasts : before.length < 2 ^ 32) (complete : Draft.AllDeclared before) :
    let number := Declaration.renumbering before after
    let reordered := Draft.reordered before after
    let draft := (Draft.empty.run (before.map .declare)).2
    let other := (Draft.empty.run (reordered.map .declare)).2
    Draft.AllDeclared reordered ∧
      (∀ declaration id, Draft.empty.Declares (before.map .declare) declaration id →
        Draft.empty.Declares (reordered.map .declare) (declaration.renumbered number)
          (number id)) ∧
      (∀ id, (∀ declaration, ¬ Draft.empty.Declares (before.map .declare) declaration id) →
        number id = id) ∧
      ((∃ catalog, draft.close = .ok catalog) ↔ ∃ catalog, other.close = .ok catalog) ∧
      ∀ catalog others, draft.close = .ok catalog → other.close = .ok others →
        ∀ (policy : Policy) (mapper : Mapper),
          let outcome := (Context.mk catalog.lookup policy mapper).resolve
          let moved := (Context.mk others.lookup policy (mapper.renumbered number)).resolve
          moved = outcome.map (·.renumbered number) ∧
            Outcome.diagnostics moved = Outcome.diagnostics outcome := by
  intro number reordered draft other
  have renumbers : Draft.Renumbers number draft other :=
    Draft.renumbers_reordered order lasts complete
  have coherent : draft.Coherent := Draft.run_coherent Draft.coherent_empty _
  have otherCoherent : other.Coherent := Draft.run_coherent Draft.coherent_empty _
  refine ⟨Draft.allDeclared_reordered order complete,
    fun _ _ declares => Draft.declares_reordered order lasts complete declares, ?_,
    renumbers.close_iff coherent otherCoherent, ?_⟩
  · intro id undeclared
    apply renumbers.undeclared
    rw [Draft.find?_definitions lasts complete, Option.map_eq_none_iff,
      Option.eq_none_iff_forall_ne_some]
    intro declaration found
    exact undeclared declaration ((Draft.declares_iff lasts complete declaration id).mpr found)
  · intro catalog others closed othersClosed policy mapper outcome moved
    have lookups := renumbers.lookup ⟨_, closed⟩ ⟨_, othersClosed⟩ closed othersClosed
    have exchanged : moved = outcome.map (·.renumbered number) :=
      @resolve_renumbered number ⟨catalog.lookup, policy, mapper⟩ others.lookup lookups
    refine ⟨exchanged, ?_⟩
    rw [exchanged]
    cases outcome <;> rfl

/-- The other way round the class that is filled comes before the one that is read. Its
mapper still widens what it reads. -/
theorem reporting_reordered :
    Draft.AllDeclared Catalog.roadDeclarations ∧
      ∃ others moved,
        (Draft.empty.run ((Draft.reordered Catalog.roadDeclarations
          Catalog.roadDeclarations.reverse).map .declare)).2.close = .ok others ∧
        (Context.mk others.lookup .standard
          (reporting.mapper.renumbered
            (Declaration.renumbering Catalog.roadDeclarations
              Catalog.roadDeclarations.reverse))).resolve = .ok moved ∧
        moved.plan.source = .named ⟨2⟩ ∧ moved.plan.target = .named ⟨1⟩ ∧
        moved.isValid = true := by
  have order := List.reverse_perm Catalog.roadDeclarations
  have complete : Draft.AllDeclared Catalog.roadDeclarations := by decide
  obtain ⟨-, -, -, closes, resolves⟩ := resolve_reordered order (by decide) complete
  have closed : (Draft.empty.run (Catalog.roadDeclarations.map .declare)).2.close =
    .ok Catalog.road := rfl
  obtain ⟨others, othersClosed⟩ := closes.mp ⟨_, closed⟩
  obtain ⟨exchanged, -⟩ := resolves _ others closed othersClosed .standard reporting.mapper
  have resolved : (Context.mk Catalog.road.lookup .standard reporting.mapper).resolve = .ok _ := rfl
  rw [resolved] at exchanged
  exact ⟨complete, others, _, othersClosed, exchanged, rfl, rfl, rfl⟩

end Context

end MappingPlan
