/-
What holds of every list of assignments that statements collect. A wrapper stands around
a property and around nothing else, and this survives statements that fail. After
statements that succeed there is one assignment for each that makes one of its own: a
wrapper around an earlier assignment takes one out and puts one back.
-/

import MappingPlan.Proofs.Directive.StatementOrder

set_option autoImplicit false

namespace MappingPlan

namespace Directive

def base? : Directive → Option Directive
  | transform base _ => some base
  | via base _ => some base
  | _ => none

/-- Whatever the directive wraps is a property. -/
def SingleLevel (directive : Directive) : Prop :=
  ∀ base, directive.base? = some base → ∃ source, base = .property source

end Directive

/-- The statements of a mapper's block. A mapper without a body has none. -/
def Mapper.written (mapper : Mapper) : Except Failure (List Expr) :=
  match mapper.body with
  | none => .ok []
  | some body => Reading.block body

def CallOf.isDirective (call : Call) : Bool :=
  match Keyword.ofText? call.name with
  | some .property | some .constant | some .expression | some .fromEnumEntry => true
  | some .transform | some .via => true
  | _ => false

/-- A wrapper with a member in front of it, and so around an earlier assignment. -/
def CallOf.wrapsEarlier (call : Call) : Bool :=
  call.wrapper?.isSome &&
    match call.receiver with
    | some (.member _) => true
    | _ => false

namespace Reading

variable {collected result : List Assignment}

def assigns (statement : Expr) : Bool :=
  match statement.unwrapped with
  | .call node => node.isDirective && !node.wrapsEarlier
  | _ => false

/-- Whatever holds of all assignments before the edit does so after it, also where it
fails. -/
def Edit.Keeps (holds : Assignment → Prop) (edit : Edit) : Prop :=
  ∀ collected, (∀ assignment ∈ collected, holds assignment) →
    ∀ assignment ∈ (edit.apply collected).2, holds assignment

section Keeps

variable {holds : Assignment → Prop}

theorem Edit.keeps_skip : Edit.skip.Keeps holds := fun _ before => before

theorem Edit.keeps_add {assignment : Assignment} (added : holds assignment) :
    (Edit.add assignment).Keeps holds :=
  fun _ before => List.forall_mem_append.mpr ⟨before, List.forall_mem_singleton.mpr added⟩

theorem Edit.keeps_wrap {target : String} {wrapper : Wrapper} {call : Call}
    (attaches : ∀ base assignment, holds base → attach wrapper call base = .ok assignment →
      holds assignment) : (Edit.wrap target wrapper call).Keeps holds := by
  intro collected before
  dsimp only [apply]
  split
  next => exact before
  next base others taken =>
    obtain ⟨-, front, back, rfl, rfl, -⟩ := takeLast?_eq_some taken
    obtain ⟨inFront, rest⟩ := List.forall_mem_append.mp before
    obtain ⟨ofBase, inBack⟩ := List.forall_mem_cons.mp rest
    have remaining := List.forall_mem_append.mpr ⟨inFront, inBack⟩
    split
    next assignment attached =>
      refine List.forall_mem_append.mpr ⟨remaining, List.forall_mem_singleton.mpr ?_⟩
      exact attaches base assignment ofBase attached
    next => exact remaining

/-- What the edit of each statement keeps, the statements keep, up to the first that
fails. -/
theorem forall_statements {members : List Expr}
    (each : ∀ statement ∈ members, ∀ edit, statementEdit statement = .ok edit → edit.Keeps holds)
    (before : ∀ assignment ∈ collected, holds assignment) :
    ∀ assignment ∈ (statements members collected).2, holds assignment := by
  induction members generalizing collected with
  | nil => exact before
  | cons head rest ih =>
      obtain ⟨atHead, atRest⟩ := List.forall_mem_cons.mp each
      have between : ∀ assignment ∈ (Reading.statement head collected).2, holds assignment := by
        rw [statement_eq]
        cases found : statementEdit head with
        | error failure => exact before
        | ok edit => exact atHead edit found collected before
      rw [statements_cons]
      cases read : Reading.statement head collected with
      | mk ending others =>
          rw [read] at between
          cases ending with
          | ok => exact ih atRest between
          | error failure => exact between

end Keeps

theorem singleLevel_of_attach {wrapper : Wrapper} {call : Call} {base assignment : Assignment}
    (attached : attach wrapper call base = .ok assignment) :
    assignment.directive.SingleLevel := by
  obtain ⟨source, _, -, wrapping, rfl⟩ := attach_eq_ok_iff.mp attached
  intro inner around
  rcases wrapped_eq_ok wrapping with ⟨_, -, rfl⟩ | ⟨_, -, rfl⟩
  · exact ⟨source, (Option.some.inj around).symm⟩
  · exact ⟨source, (Option.some.inj around).symm⟩

theorem singleLevel_of_invocation {call : Call} {directive : Directive}
    (read : invocation call = .ok directive) : directive.SingleLevel := by
  obtain ⟨_, _, source, -, -, -, rfl⟩ := invocation_eq_ok_iff.mp read
  intro base around
  exact ⟨source, (Option.some.inj around).symm⟩

theorem singleLevel_of_plain {call : Call} {assignment : Assignment}
    (read : plain call = .ok assignment) : assignment.directive.SingleLevel := by
  unfold plain at read
  split at read
  · obtain ⟨_, _, _, -, -, rfl, ⟨source, -, rfl⟩ | ⟨inner, -, invoked⟩⟩ :=
      property_eq_ok_iff.mp read
    · exact nofun
    · exact singleLevel_of_invocation invoked
  · obtain ⟨_, _, -, -, rfl⟩ := constant_eq_ok read
    exact nofun
  · obtain ⟨_, _, -, -, rfl⟩ := expression_eq_ok read
    exact nofun
  · obtain ⟨_, _, -, -, rfl⟩ := entry_eq_ok read
    exact nofun
  · cases read

theorem singleLevel_of_statementEdit {statement : Expr} {assignment : Assignment}
    (found : statementEdit statement = .ok (.add assignment)) :
    assignment.directive.SingleLevel := by
  cases statementEdit_eq_ok_iff.mp found with
  | plain _ read => exact singleLevel_of_plain read
  | chained _ _ _ _ attached => exact singleLevel_of_attach attached

theorem singleLevel_statements (members : List Expr)
    (before : ∀ assignment ∈ collected, assignment.directive.SingleLevel) :
    ∀ assignment ∈ (statements members collected).2, assignment.directive.SingleLevel := by
  apply forall_statements _ before
  intro statement _ edit found
  cases edit with
  | skip => exact Edit.keeps_skip
  | add assignment => exact Edit.keeps_add (singleLevel_of_statementEdit found)
  | wrap target wrapper call =>
      apply Edit.keeps_wrap
      intro base assignment _ attached
      exact singleLevel_of_attach attached

/-! ### One assignment for each statement that makes one -/

def Edit.isAddition : Edit → Bool
  | add _ => true
  | _ => false

theorem Edit.length_apply {edit : Edit} (applied : edit.apply collected = (.ok (), result)) :
    result.length = collected.length + if edit.isAddition then 1 else 0 := by
  cases edit with
  | skip =>
      obtain ⟨-, rfl⟩ := Prod.mk.inj applied
      rfl
  | add assignment =>
      obtain ⟨-, rfl⟩ := Prod.mk.inj applied
      exact List.length_append
  | wrap target wrapper call =>
      obtain ⟨base, others, assignment, taken, -, rfl⟩ := apply_wrap_eq_ok_iff.mp applied
      obtain ⟨-, front, back, rfl, rfl, -⟩ := takeLast?_eq_some taken
      simp only [List.length_append, List.length_cons, List.length_nil, isAddition,
        Bool.false_eq_true, if_false]
      omega

theorem isDirective_of_plain {call : Call} {assignment : Assignment}
    (read : plain call = .ok assignment) : call.isDirective = true := by
  unfold plain at read
  unfold CallOf.isDirective
  split at read
  next named => rw [named]
  next named => rw [named]
  next named => rw [named]
  next named => rw [named]
  next => cases read

theorem isDirective_of_named {call : Call} {wrapper : Wrapper}
    (named : call.name = wrapper.keyword.text) : call.isDirective = true := by
  unfold CallOf.isDirective
  rw [Keyword.ofText?_eq_some_iff.mpr named]
  cases wrapper <;> rfl

theorem assigns_eq {statement : Expr} {edit : Edit}
    (found : statementEdit statement = .ok edit) : assigns statement = edit.isAddition := by
  unfold assigns
  cases statementEdit_eq_ok_iff.mp found with
  | reference unwrapped =>
      rw [unwrapped]
      rfl
  | plain unwrapped read =>
      rw [unwrapped]
      dsimp only [CallOf.wrapsEarlier]
      rw [isDirective_of_plain read, wrapper?_of_plain read]
      rfl
  | chained unwrapped named received _ _ =>
      rw [unwrapped]
      dsimp only [CallOf.wrapsEarlier]
      rw [isDirective_of_named named, received, Bool.and_false]
      rfl
  | separate unwrapped named received =>
      rw [unwrapped]
      dsimp only [CallOf.wrapsEarlier]
      rw [isDirective_of_named named, CallOf.wrapper?_eq_some_iff.mpr named, received]
      rfl

theorem length_of_statement {statement : Expr}
    (read : Reading.statement statement collected = (.ok (), result)) :
    result.length = collected.length + if assigns statement then 1 else 0 := by
  obtain ⟨edit, found, applied⟩ := (statement_eq_ok_iff statement collected result).mp read
  rw [assigns_eq found]
  exact Edit.length_apply applied

theorem length_of_statements {members : List Expr}
    (read : statements members collected = (.ok (), result)) :
    result.length = collected.length + members.countP assigns := by
  induction members generalizing collected with
  | nil =>
      obtain ⟨-, rfl⟩ := Prod.mk.inj read
      rfl
  | cons head rest ih =>
      obtain ⟨between, readHead, readRest⟩ := statements_cons_eq_ok_iff.mp read
      rw [ih readRest, length_of_statement readHead, List.countP_cons]
      omega

end Reading

namespace Mapper

variable {mapper : Mapper} {collected : List Assignment}

theorem assignments_eq_ok (read : mapper.assignments = .ok collected) :
    ∃ members, mapper.written = .ok members ∧
      Reading.statements members [] = (.ok (), collected) := by
  unfold written
  cases given : mapper.body with
  | none =>
      unfold assignments at read
      rw [given] at read
      obtain rfl := Except.ok.inj read
      exact ⟨[], rfl, rfl⟩
  | some body =>
      cases block : Reading.block body with
      | error failure =>
          unfold assignments Reading.body at read
          rw [given] at read
          dsimp only at read
          rw [block] at read
          cases read
      | ok members => exact ⟨members, block, (assignments_eq_ok_iff given block).mp read⟩

theorem singleLevel_of_assignments (read : mapper.assignments = .ok collected) :
    ∀ assignment ∈ collected, assignment.directive.SingleLevel := by
  obtain ⟨members, -, readBlock⟩ := assignments_eq_ok read
  have kept : ∀ assignment ∈ (Reading.statements members []).2,
      assignment.directive.SingleLevel := Reading.singleLevel_statements members nofun
  rw [readBlock] at kept
  exact kept

theorem length_of_assignments (read : mapper.assignments = .ok collected) :
    ∃ members, mapper.written = .ok members ∧
      collected.length = members.countP Reading.assigns := by
  obtain ⟨members, written, readBlock⟩ := assignments_eq_ok read
  refine ⟨members, written, ?_⟩
  have length := Reading.length_of_statements readBlock
  rw [List.length_nil, Nat.zero_add] at length
  exact length

end Mapper

end MappingPlan
