/-
Where directives come from. A body is a tree of nodes, and what is collected from it is made
of these: the members, entries, literals and closures of a directive stand in the body, and
the mapper that it calls is referred to there. An assignment copies spans out of the body: its
own is that of its outermost call, and a mapper that it calls stands where the call of the
mapper, or the reference to it, does.
-/

import MappingPlan.Proofs.Directive.Collected

set_option autoImplicit false

namespace MappingPlan

inductive Expr.PartOf (node : Expr) : Expr → Prop where
  | self : PartOf node node
  | receiver {call : Call} {receiver : Expr} :
      call.receiver = some receiver → PartOf node receiver → PartOf node (.call call)
  | argument {call : Call} {argument : Expr} :
      argument ∈ call.arguments → PartOf node argument → PartOf node (.call call)
  | statement {closure : Closure} {statement : Expr} :
      statement ∈ closure.body → PartOf node statement → PartOf node (.closure closure)
  | returned {value : Expr} {span : Span} :
      PartOf node value → PartOf node (.returned value span)

namespace Expr

theorem PartOf.trans {node part whole : Expr} (inner : node.PartOf part)
    (outer : part.PartOf whole) : node.PartOf whole := by
  induction outer with
  | self => exact inner
  | receiver received _ ih => exact .receiver received ih
  | argument among _ ih => exact .argument among ih
  | statement among _ ih => exact .statement among ih
  | returned _ ih => exact .returned ih

theorem unwrapped_partOf : ∀ expression : Expr, expression.unwrapped.PartOf expression
  | .returned value _ => .returned value.unwrapped_partOf
  | .call _ => .self
  | .member _ => .self
  | .entry _ => .self
  | .literal _ => .self
  | .closure _ => .self
  | .mapper _ => .self

end Expr

namespace Directive

def nodes : Directive → List Expr
  | property source => [.member source]
  | constant value => [.literal value]
  | expression body => [.closure body]
  | transform base closure => .closure closure :: base.nodes
  | via base _ => base.nodes
  | entry source => [.entry source]

def delegates : Directive → List Delegate
  | transform base _ => base.delegates
  | via base delegate => delegate :: base.delegates
  | _ => []

/-- What the directive holds on to stands in the body, and every mapper that it calls is
referred to there. -/
structure DrawnFrom (body : Expr) (directive : Directive) : Prop where
  nodes : ∀ node ∈ directive.nodes, node.PartOf body
  delegates : ∀ delegate ∈ directive.delegates, ∃ reference : MapperRef,
    (Expr.mapper reference).PartOf body ∧ reference.mapper = delegate.mapper

variable {body : Expr}

theorem drawnFrom_property {source : MemberRef} (within : (Expr.member source).PartOf body) :
    (property source).DrawnFrom body where
  nodes := List.forall_mem_singleton.mpr within
  delegates := nofun

theorem DrawnFrom.transform {base : Directive} {closure : Closure} (drawn : base.DrawnFrom body)
    (within : (Expr.closure closure).PartOf body) :
    (Directive.transform base closure).DrawnFrom body where
  nodes := List.forall_mem_cons.mpr ⟨within, drawn.nodes⟩
  delegates := drawn.delegates

theorem DrawnFrom.via {base : Directive} {delegate : Delegate} (drawn : base.DrawnFrom body)
    {reference : MapperRef} (within : (Expr.mapper reference).PartOf body)
    (same : reference.mapper = delegate.mapper) : (Directive.via base delegate).DrawnFrom body where
  nodes := drawn.nodes
  delegates := List.forall_mem_cons.mpr ⟨⟨reference, within, same⟩, drawn.delegates⟩

end Directive

namespace Reading

variable {body : Expr} {call : Call} (within : (Expr.call call).PartOf body)

include within

theorem partOf_of_arguments {argument : Expr} (sole : call.arguments = [argument]) :
    argument.PartOf body :=
  Expr.PartOf.trans (.argument (sole ▸ List.mem_singleton_self argument) .self) within

theorem drawnFrom_of_invocation {directive : Directive} (read : invocation call = .ok directive) :
    directive.DrawnFrom body := by
  obtain ⟨_, _, _, -, received, sole, rfl⟩ := invocation_eq_ok_iff.mp read
  have referred := Expr.PartOf.trans (.receiver received .self) within
  exact (Directive.drawnFrom_property (partOf_of_arguments within sole)).via referred rfl

theorem drawnFrom_of_plain {assignment : Assignment} (read : plain call = .ok assignment) :
    assignment.directive.DrawnFrom body := by
  unfold plain at read
  split at read
  · obtain ⟨_, _, _, -, sole, rfl, ⟨source, rfl, rfl⟩ | ⟨inner, rfl, invoked⟩⟩ :=
      property_eq_ok_iff.mp read
    · exact Directive.drawnFrom_property (partOf_of_arguments within sole)
    · exact drawnFrom_of_invocation (partOf_of_arguments within sole) invoked
  · obtain ⟨_, _, -, sole, rfl⟩ := constant_eq_ok read
    exact ⟨List.forall_mem_singleton.mpr (partOf_of_arguments within sole), nofun⟩
  · obtain ⟨_, _, -, sole, rfl⟩ := expression_eq_ok read
    exact ⟨List.forall_mem_singleton.mpr (partOf_of_arguments within sole), nofun⟩
  · obtain ⟨_, _, -, sole, rfl⟩ := entry_eq_ok read
    exact ⟨List.forall_mem_singleton.mpr (partOf_of_arguments within sole), nofun⟩
  · cases read

theorem drawnFrom_of_attach {wrapper : Wrapper} {base assignment : Assignment}
    (drawn : base.directive.DrawnFrom body)
    (attached : attach wrapper call base = .ok assignment) :
    assignment.directive.DrawnFrom body := by
  obtain ⟨source, _, isProperty, wrapping, rfl⟩ := attach_eq_ok_iff.mp attached
  rw [isProperty] at drawn
  rcases wrapped_eq_ok wrapping with ⟨_, sole, rfl⟩ | ⟨_, sole, rfl⟩
  · exact drawn.transform (partOf_of_arguments within sole)
  · exact drawn.via (partOf_of_arguments within sole) rfl

omit within in
theorem partOf_of_block {members : List Expr} (read : block body = .ok members) :
    ∀ member ∈ members, member.PartOf body := by
  obtain ⟨call, closure, unwrapped, -, sole, rfl⟩ := block_eq_ok_iff.mp read
  intro member among
  have callWithin : (Expr.call call).PartOf body := unwrapped ▸ body.unwrapped_partOf
  exact Expr.PartOf.trans (.statement among .self) (partOf_of_arguments callWithin sole)

end Reading

/-! ### What a body gives its assignments -/

structure Expr.Gives (body : Expr) (holds : Assignment → Prop) : Prop where
  plain : ∀ call assignment, (Expr.call call).PartOf body →
    Reading.plain call = .ok assignment → holds assignment
  attach : ∀ wrapper call base assignment, (Expr.call call).PartOf body → holds base →
    Reading.attach wrapper call base = .ok assignment → holds assignment

theorem Expr.Gives.keeps {body : Expr} {holds : Assignment → Prop} (gives : body.Gives holds)
    {statement : Expr} (within : statement.PartOf body) {edit : Reading.Edit}
    (found : Reading.statementEdit statement = .ok edit) : edit.Keeps holds := by
  have unwrappedWithin := statement.unwrapped_partOf.trans within
  cases Reading.statementEdit_eq_ok_iff.mp found with
  | reference _ => exact Reading.Edit.keeps_skip
  | plain unwrapped read =>
      rw [unwrapped] at unwrappedWithin
      exact Reading.Edit.keeps_add (gives.plain _ _ unwrappedWithin read)
  | chained unwrapped _ received read attached =>
      rw [unwrapped] at unwrappedWithin
      have innerWithin := Expr.PartOf.trans (.receiver received .self) unwrappedWithin
      have ofInner := gives.plain _ _ innerWithin read
      exact Reading.Edit.keeps_add (gives.attach _ _ _ _ unwrappedWithin ofInner attached)
  | separate unwrapped _ _ =>
      rw [unwrapped] at unwrappedWithin
      apply Reading.Edit.keeps_wrap
      intro base assignment ofBase attached
      exact gives.attach _ _ _ _ unwrappedWithin ofBase attached

namespace Mapper

variable {mapper : Mapper} {collected : List Assignment}

theorem forall_assignments {holds : Expr → Assignment → Prop}
    (gives : ∀ body : Expr, body.Gives (holds body)) (read : mapper.assignments = .ok collected) :
    ∀ assignment ∈ collected, ∃ body, mapper.body = some body ∧ holds body assignment := by
  obtain ⟨members, isBlock, readBlock⟩ := assignments_eq_ok read
  unfold written at isBlock
  cases given : mapper.body with
  | none =>
      rw [given] at isBlock
      obtain rfl := Except.ok.inj isBlock
      obtain ⟨-, rfl⟩ := Prod.mk.inj readBlock
      exact nofun
  | some body =>
      rw [given] at isBlock
      have kept : ∀ assignment ∈ (Reading.statements members []).2, holds body assignment := by
        refine Reading.forall_statements ?_ nofun
        intro statement among edit found
        exact (gives body).keeps (Reading.partOf_of_block isBlock statement among) found
      rw [readBlock] at kept
      intro assignment member
      exact ⟨body, rfl, kept assignment member⟩

/-- What a mapper's assignments say is drawn from its body. -/
theorem drawnFrom_of_assignments (read : mapper.assignments = .ok collected) :
    ∀ assignment ∈ collected, ∃ body, mapper.body = some body ∧
      assignment.directive.DrawnFrom body := by
  apply forall_assignments _ read
  intro body
  refine ⟨?_, ?_⟩
  · intro call assignment within made
    exact Reading.drawnFrom_of_plain within made
  · intro wrapper call base assignment within ofBase attached
    exact Reading.drawnFrom_of_attach within ofBase attached

end Mapper

/-! ### Locations -/

def Expr.Shows (body : Expr) (span : Span) : Prop :=
  ∃ node : Expr, node.PartOf body ∧ node.span = span

/-- The places that belong to a mapper: where it is declared, and those of the nodes of its
body. -/
inductive Mapper.Located (mapper : Mapper) : Span → Prop where
  | whole : Located mapper mapper.span
  | node {body node : Expr} :
      mapper.body = some body → node.PartOf body → Located mapper node.span

theorem Mapper.located_of_shows {mapper : Mapper} {body : Expr} {span : Span}
    (given : mapper.body = some body) (shown : body.Shows span) : mapper.Located span := by
  obtain ⟨node, within, rfl⟩ := shown
  exact .node given within

structure Assignment.LocatedIn (body : Expr) (assignment : Assignment) : Prop where
  own : body.Shows assignment.span
  delegates : ∀ delegate ∈ assignment.directive.delegates, body.Shows delegate.span

namespace Reading

variable {body : Expr} {call : Call} (within : (Expr.call call).PartOf body)

include within

theorem shows_of_call : body.Shows call.span := ⟨_, within, rfl⟩

theorem locatedIn_of_undelegated {assignment : Assignment} (atCall : assignment.span = call.span)
    (undelegated : assignment.directive.delegates = []) : assignment.LocatedIn body where
  own := atCall ▸ shows_of_call within
  delegates := by
    rw [undelegated]
    exact nofun

theorem shows_of_invocation {directive : Directive} (read : invocation call = .ok directive) :
    ∀ delegate ∈ directive.delegates, body.Shows delegate.span := by
  obtain ⟨_, _, _, -, -, -, rfl⟩ := invocation_eq_ok_iff.mp read
  exact List.forall_mem_singleton.mpr (shows_of_call within)

theorem locatedIn_of_plain {assignment : Assignment} (read : plain call = .ok assignment) :
    assignment.LocatedIn body := by
  unfold plain at read
  split at read
  · obtain ⟨_, _, _, -, sole, rfl, ⟨source, rfl, rfl⟩ | ⟨inner, rfl, invoked⟩⟩ :=
      property_eq_ok_iff.mp read
    · exact locatedIn_of_undelegated within rfl rfl
    · exact ⟨shows_of_call within, shows_of_invocation (partOf_of_arguments within sole) invoked⟩
  · obtain ⟨_, _, -, -, rfl⟩ := constant_eq_ok read
    exact locatedIn_of_undelegated within rfl rfl
  · obtain ⟨_, _, -, -, rfl⟩ := expression_eq_ok read
    exact locatedIn_of_undelegated within rfl rfl
  · obtain ⟨_, _, -, -, rfl⟩ := entry_eq_ok read
    exact locatedIn_of_undelegated within rfl rfl
  · cases read

/-- A wrapped assignment moves to the wrapper. It was a property before, so what it calls is
referred to in the wrapper. -/
theorem locatedIn_of_attach {wrapper : Wrapper} {base assignment : Assignment}
    (attached : attach wrapper call base = .ok assignment) : assignment.LocatedIn body := by
  obtain ⟨source, _, -, wrapping, rfl⟩ := attach_eq_ok_iff.mp attached
  rcases wrapped_eq_ok wrapping with ⟨_, -, rfl⟩ | ⟨reference, sole, rfl⟩
  · exact locatedIn_of_undelegated within rfl rfl
  · refine ⟨shows_of_call within, List.forall_mem_singleton.mpr ?_⟩
    exact ⟨.mapper reference, partOf_of_arguments within sole, rfl⟩

end Reading

structure Mapper.Locates (mapper : Mapper) (assignment : Assignment) : Prop where
  own : mapper.Located assignment.span
  nodes : ∀ node ∈ assignment.directive.nodes, mapper.Located node.span
  delegates : ∀ delegate ∈ assignment.directive.delegates, mapper.Located delegate.span

theorem Mapper.locates_of_assignments {mapper : Mapper} {collected : List Assignment}
    (read : mapper.assignments = .ok collected) :
    ∀ assignment ∈ collected, mapper.Locates assignment := by
  have gives (body : Expr) : body.Gives (Assignment.LocatedIn body) := by
    refine ⟨?_, ?_⟩
    · intro call assignment within made
      exact Reading.locatedIn_of_plain within made
    · intro wrapper call base assignment within _ attached
      exact Reading.locatedIn_of_attach within attached
  intro assignment among
  obtain ⟨body, given, located⟩ := forall_assignments gives read assignment among
  obtain ⟨other, alsoGiven, drawn⟩ := drawnFrom_of_assignments read assignment among
  obtain rfl := Option.some.inj (given.symm.trans alsoGiven)
  refine ⟨located_of_shows given located.own, ?_, ?_⟩
  · intro node held
    exact .node given (drawn.nodes node held)
  · intro delegate called
    exact located_of_shows given (located.delegates delegate called)

end MappingPlan
