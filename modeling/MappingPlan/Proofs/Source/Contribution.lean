/-
What the members of a target are given. Each contribution keeps the target of its assignment,
so the sources offered to a member come from the assignments to it, in their order; all of
them count as explicit, and a member that none is offered to has no explicit source. Discovery
chooses a mapper only if it is the only one there is to choose, so in which order mappers are
found is to no purpose.
-/

import MappingPlan.Plan
import MappingPlan.Proofs.Parts

set_option autoImplicit false

namespace MappingPlan

def sole? {Value : Type} : List Value → Option Value
  | [only] => some only
  | _ => none

section Sole

variable {Value Exchanged : Type}

theorem sole?_of_perm {left right : List Value} (same : left.Perm right) :
    sole? left = sole? right := by
  match left, same with
  | [], same => rw [same.nil_eq]
  | [only], same => rw [List.singleton_perm.mp same]
  | first :: second :: rest, same =>
      have length := same.length_eq
      match right, length with
      | _ :: _ :: _, _ => rfl

theorem sole?_eq_some_iff {values : List Value} {only : Value} :
    sole? values = some only ↔ values = [only] := by
  match values with
  | [] => simp [sole?]
  | [_] => simp [sole?]
  | _ :: _ :: _ => simp [sole?]

theorem sole?_map (exchange : Value → Exchanged) (values : List Value) :
    sole? (values.map exchange) = (sole? values).map exchange := by
  match values with
  | [] => rfl
  | [only] => rfl
  | first :: second :: rest => rfl

end Sole

namespace Context

/-- The mappers that discovery has to choose from: those between two types and, if there
are none, those to what the target holds besides null. -/
def mappersFor (context : Context) (source target : Ty) : List Definition :=
  if (context.types.mappersBetween source target).isEmpty && target.isNullable then
    context.types.mappersBetween source target.core
  else context.types.mappersBetween source target

theorem onlyMapper?_eq (context : Context) (source target : Ty) :
    context.onlyMapper? source target = sole? (context.mappersFor source target) := by
  unfold onlyMapper?
  extract_lets direct mappers
  change _ = sole? mappers
  clear_value mappers
  rcases mappers with - | ⟨only, - | ⟨second, rest⟩⟩
  · rfl
  · rfl
  · rfl

/-- The only mapper is listed between the source and the target, or what it holds besides
null. -/
theorem listed_of_onlyMapper? {context : Context} {source target : Ty} {mapper : Definition}
    (only : context.onlyMapper? source target = some mapper) :
    mapper ∈ context.types.mappersBetween source target ∨
      mapper ∈ context.types.mappersBetween source target.core := by
  rw [onlyMapper?_eq, sole?_eq_some_iff] at only
  have listed := only ▸ List.mem_singleton_self mapper
  unfold mappersFor at listed
  split at listed
  · exact Or.inr listed
  · exact Or.inl listed

end Context

/-- The sources that contributions offer to a member of a given name. -/
def offered (contributions : List Contribution) (name : String) : List Source :=
  (contributions.filter (·.target = name)).map (·.source)

namespace Context

variable {context : Context}

theorem contribution_eq_ok_iff {assignment : Assignment} {contribution : Contribution} :
    context.contribution assignment = .ok contribution ↔
      contribution.target = assignment.target ∧ contribution.span = assignment.span ∧
        context.explicitSource assignment = .ok contribution.source := by
  unfold Context.contribution
  rw [bind_eq_ok_iff]
  constructor
  · intro stages
    obtain ⟨source, found, same⟩ := stages
    obtain rfl := Except.ok.inj same
    exact ⟨rfl, rfl, found⟩
  · intro fields
    obtain ⟨sameTarget, sameSpan, found⟩ := fields
    refine ⟨contribution.source, found, ?_⟩
    rw [← sameTarget, ← sameSpan]
    rfl

theorem contribution_target (assignment : Assignment) (contribution : Contribution)
    (read : context.contribution assignment = .ok contribution) :
    contribution.target = assignment.target :=
  (contribution_eq_ok_iff.mp read).1

theorem contributions_map_target {assignments : List Assignment}
    {contributions : List Contribution}
    (contributed : context.contributions assignments = .ok contributions) :
    contributions.map (·.target) = assignments.map (·.target) :=
  map_name_of_mapM contribution_target contributed

/-- The sources offered to a member come from the assignments to it, in their order. -/
theorem offered_forall₂ {assignments : List Assignment} {contributions : List Contribution}
    (contributed : context.contributions assignments = .ok contributions) (name : String) :
    List.Forall₂ (fun assignment source => context.explicitSource assignment = .ok source)
      (assignments.filter (·.target = name)) (offered contributions name) := by
  have ofPart := filter_of_mapM contribution_target contributed (· = name)
  refine List.forall₂_map_right_iff.mpr (ofPart.imp ?_)
  intro assignment contribution read
  exact (contribution_eq_ok_iff.mp read).2.2

inductive Reads (context : Context) : Directive → Source → Prop where
  | property {member : MemberRef} {read : PropertyRead} :
      member.read none = .ok read → Reads context (.property member) (.property read)
  | constant {value : Literal} : Reads context (.constant value) (.constant value value.type)
  | expression {body : Closure} : Reads context (.expression body) (.expression body)
  | transform {member : MemberRef} {closure : Closure} {read : PropertyRead} :
      member.read (some (.closure closure)) = .ok read →
      Reads context (.transform (.property member) closure) (.property read)
  | via {member : MemberRef} {delegate : Delegate} {call : EntryCall} {read : PropertyRead} :
      context.entryCall delegate = .ok call → member.read (some (.mapper call)) = .ok read →
      Reads context (.via (.property member) delegate) (.property read)

theorem wrappedMember_eq_ok_iff {base : Directive} {wrapper : Wrapper} {span : Span}
    {member : MemberRef} :
    base.wrappedMember wrapper span = .ok member ↔ base = .property member := by
  cases base <;> simp [Directive.wrappedMember]

theorem reads_of_explicitSource {assignment : Assignment} {source : Source}
    (success : context.explicitSource assignment = .ok source) :
    context.Reads assignment.directive source := by
  unfold explicitSource at success
  cases directive : assignment.directive with
  | property member =>
      rw [directive] at success
      obtain ⟨read, found, same⟩ := bind_eq_ok_iff.mp success
      obtain rfl := Except.ok.inj same
      exact .property found
  | constant value =>
      rw [directive] at success
      obtain rfl := Except.ok.inj success
      exact .constant
  | expression body =>
      rw [directive] at success
      obtain rfl := Except.ok.inj success
      exact .expression
  | transform base closure =>
      rw [directive] at success
      obtain ⟨member, wrapped, success⟩ := bind_eq_ok_iff.mp success
      obtain ⟨read, found, same⟩ := bind_eq_ok_iff.mp success
      obtain rfl := Except.ok.inj same
      obtain rfl := wrappedMember_eq_ok_iff.mp wrapped
      exact .transform found
  | via base delegate =>
      rw [directive] at success
      obtain ⟨member, wrapped, success⟩ := bind_eq_ok_iff.mp success
      obtain ⟨call, called, success⟩ := bind_eq_ok_iff.mp success
      obtain ⟨read, found, same⟩ := bind_eq_ok_iff.mp success
      obtain rfl := Except.ok.inj same
      obtain rfl := wrappedMember_eq_ok_iff.mp wrapped
      exact .via called found
  | entry entry =>
      rw [directive] at success
      cases success

theorem read_eq_ok {member : MemberRef} {adapter : Option Adapter} {read : PropertyRead}
    (success : member.read adapter = .ok read) :
    ∃ owner, member.owner.reference? = some owner ∧
      read =
        { getter := ⟨owner, member.name⟩
          type := member.type
          isAutomatic := false
          adapter
          span := member.span } := by
  unfold MemberRef.read at success
  split at success
  next => cases success
  next owner declared => exact ⟨owner, declared, (Except.ok.inj success).symm⟩

theorem Reads.isExplicit {directive : Directive} {source : Source}
    (reads : context.Reads directive source) : source.isExplicit = true := by
  cases reads with
  | constant => rfl
  | expression => rfl
  | property found | transform found | via _ found =>
      obtain ⟨_, -, rfl⟩ := read_eq_ok found
      rfl

theorem isExplicit_of_offered {assignments : List Assignment}
    {contributions : List Contribution}
    (contributed : context.contributions assignments = .ok contributions) {name : String}
    {source : Source} (member : source ∈ offered contributions name) :
    source.isExplicit = true := by
  obtain ⟨assignment, -, found⟩ := exists_left_of_mem (offered_forall₂ contributed name) member
  exact (reads_of_explicitSource found).isExplicit

def namedProperty? (context : Context) (name : String) : Option Property :=
  context.source?.bind (·.property? name)

/-- The mapper call that discovery puts between a property and a slot. -/
def discovered? (context : Context) (type slot : Ty) : Option EntryCall :=
  if context.policy.nestedMappers && !type.assignableTo slot then
    context.nestedCall? type slot
  else none

def automaticRead (context : Context) (property : Property) (slot : Ty) : PropertyRead where
  getter := property.getter
  type := property.type
  isAutomatic := true
  adapter := (context.discovered? property.type slot).map .mapper

theorem automaticSource?_eq (name : String) (slot : Ty) :
    context.automaticSource? name slot =
      (context.namedProperty? name).map fun property =>
        .property (context.automaticRead property slot) := by
  unfold automaticSource? namedProperty?
  cases context.source? with
  | none => rfl
  | some definition =>
      rw [Option.bind_eq_bind, Option.bind_some, Option.bind_some]
      cases definition.property? name <;> rfl

theorem fallback?_eq (parameter : Parameter) :
    context.fallback? parameter =
      match context.namedProperty? parameter.name with
      | some property => some (.property (context.automaticRead property parameter.type))
      | none =>
          if parameter.hasDefault && context.policy.defaultArguments then
            some (.declaredDefault parameter.type context.mapper.span)
          else none := by
  unfold fallback?
  rw [automaticSource?_eq]
  cases context.namedProperty? parameter.name <;> rfl

theorem isExplicit_of_fallback? {parameter : Parameter} {source : Source}
    (found : context.fallback? parameter = some source) : source.isExplicit = false := by
  rw [fallback?_eq] at found
  split at found
  · obtain rfl := Option.some.inj found
    rfl
  · split at found
    · obtain rfl := Option.some.inj found
      rfl
    · cases found

/-! ### Members -/

theorem member_sources (contributions : List Contribution) (parameter : Parameter) :
    (context.member contributions parameter).sources =
      if (offered contributions parameter.name).isEmpty then
        (context.fallback? parameter).toList
      else offered contributions parameter.name := rfl

inductive Sourced (context : Context) (assignments : List Assignment) (parameter : Parameter) :
    Source → Prop where
  | directed {assignment : Assignment} {source : Source} :
      assignment ∈ assignments → assignment.target = parameter.name →
      context.Reads assignment.directive source → Sourced context assignments parameter source
  | named {property : Property} :
      context.namedProperty? parameter.name = some property →
      Sourced context assignments parameter
        (.property (context.automaticRead property parameter.type))
  | byDefault :
      parameter.hasDefault = true → context.policy.defaultArguments = true →
      Sourced context assignments parameter
        (.declaredDefault parameter.type context.mapper.span)

theorem sourced_of_member {assignments : List Assignment} {contributions : List Contribution}
    (contributed : context.contributions assignments = .ok contributions)
    {parameter : Parameter} {source : Source}
    (among : source ∈ (context.member contributions parameter).sources) :
    context.Sourced assignments parameter source := by
  rw [member_sources] at among
  split at among
  next =>
    have found := Option.mem_toList.mp among
    rw [fallback?_eq] at found
    split at found
    next property isProperty =>
      obtain rfl := Option.some.inj found
      exact .named isProperty
    next =>
      split at found
      next both =>
        obtain ⟨hasDefault, allowed⟩ := Bool.and_eq_true_iff.mp both
        obtain rfl := Option.some.inj found
        exact .byDefault hasDefault allowed
      next => cases found
  next =>
    obtain ⟨assignment, toMember, found⟩ :=
      exists_left_of_mem (offered_forall₂ contributed parameter.name) among
    obtain ⟨written, named⟩ := List.mem_filter.mp toMember
    exact .directed written (of_decide_eq_true named) (reads_of_explicitSource found)

/-- The explicit sources of a member are those that contributions offer to it. -/
theorem filter_isExplicit_member {assignments : List Assignment}
    {contributions : List Contribution}
    (contributed : context.contributions assignments = .ok contributions)
    (parameter : Parameter) :
    (context.member contributions parameter).sources.filter (·.isExplicit) =
      offered contributions parameter.name := by
  rw [member_sources]
  cases sources : offered contributions parameter.name with
  | nil =>
      rw [List.isEmpty_nil, if_pos rfl, List.filter_eq_nil_iff]
      intro source found
      rw [isExplicit_of_fallback? (Option.mem_toList.mp found)]
      exact Bool.false_ne_true
  | cons first others =>
      rw [List.isEmpty_cons, if_neg Bool.false_ne_true, List.filter_eq_self, ← sources]
      exact fun source found => isExplicit_of_offered contributed found

theorem member_isExplicit {assignments : List Assignment} {contributions : List Contribution}
    (contributed : context.contributions assignments = .ok contributions)
    (parameter : Parameter) :
    (context.member contributions parameter).isExplicit =
      !(offered contributions parameter.name).isEmpty := by
  unfold Member.isExplicit
  rw [← filter_isExplicit_member contributed, Bool.eq_iff_iff, List.any_eq_true,
    Bool.not_eq_true', List.isEmpty_eq_false_iff_exists_mem]
  simp only [List.mem_filter]

theorem members_map_parameter (contributions : List Contribution) (constructor : Constructor) :
    (context.constructorPlan contributions constructor).members.map (·.parameter) =
      constructor.parameters := by
  unfold constructorPlan
  rw [List.map_map]
  exact List.map_id _

/-- How many members of a plan directives fill follows from the contributions alone. -/
theorem explicitCount_constructorPlan {assignments : List Assignment}
    {contributions : List Contribution}
    (contributed : context.contributions assignments = .ok contributions)
    (constructor : Constructor) :
    (context.constructorPlan contributions constructor).explicitCount =
      constructor.parameters.countP fun parameter =>
        !(offered contributions parameter.name).isEmpty := by
  unfold ConstructorPlan.explicitCount constructorPlan
  rw [List.countP_map]
  exact List.countP_congr fun parameter _ => by
    rw [Function.comp_apply, member_isExplicit contributed]

end Context

end MappingPlan
