/-
Mappers under other numbers. Reading a body never looks at a number, so it reads the same
assignments, with the numbers in them exchanged, and fails the same way.
-/

import MappingPlan.Proofs.Catalog.Renumbered
import MappingPlan.Proofs.Directive.Edit

set_option autoImplicit false

namespace MappingPlan

def MemberRef.renumbered (number : TypeId → TypeId) (member : MemberRef) : MemberRef :=
  { member with
    owner := member.owner.renumbered number
    type := member.type.renumbered number }

def EntryRef.renumbered (number : TypeId → TypeId) (entry : EntryRef) : EntryRef :=
  { entry with owner := entry.owner.renumbered number }

def MapperRef.renumbered (number : TypeId → TypeId) (reference : MapperRef) : MapperRef :=
  { reference with mapper := number reference.mapper }

mutual

def Expr.renumbered (number : TypeId → TypeId) : Expr → Expr
  | .call node => .call (node.renumbered number)
  | .member node => .member (node.renumbered number)
  | .entry node => .entry (node.renumbered number)
  | .literal node => .literal node
  | .closure node => .closure (node.renumbered number)
  | .mapper node => .mapper (node.renumbered number)
  | .returned value span => .returned (value.renumbered number) span

def CallOf.renumbered (number : TypeId → TypeId) : Call → Call
  | ⟨name, receiver, arguments, span⟩ =>
      ⟨name, Expr.renumberedReceiver number receiver, Expr.renumberedMembers number arguments, span⟩

def ClosureOf.renumbered (number : TypeId → TypeId) : Closure → Closure
  | ⟨parameter, result, body, span⟩ =>
      ⟨parameter.map (·.renumbered number), result.renumbered number,
        Expr.renumberedMembers number body, span⟩

def Expr.renumberedReceiver (number : TypeId → TypeId) : Option Expr → Option Expr
  | none => none
  | some receiver => some (receiver.renumbered number)

def Expr.renumberedMembers (number : TypeId → TypeId) : List Expr → List Expr
  | [] => []
  | head :: rest => head.renumbered number :: Expr.renumberedMembers number rest

end

def Mapper.renumbered (number : TypeId → TypeId) (mapper : Mapper) : Mapper :=
  { mapper with
    source := mapper.source.renumbered number
    target := mapper.target.renumbered number
    body := mapper.body.map (·.renumbered number) }

variable (number : TypeId → TypeId)

namespace Expr

theorem renumberedReceiver_eq_map (receiver : Option Expr) :
    renumberedReceiver number receiver = receiver.map (·.renumbered number) := by
  cases receiver <;> rfl

theorem renumberedMembers_eq_map (members : List Expr) :
    renumberedMembers number members = members.map (·.renumbered number) := by
  induction members with
  | nil => rfl
  | cons head rest ih => rw [renumberedMembers, ih, List.map_cons]

theorem kind_renumbered (expression : Expr) :
    (expression.renumbered number).kind = expression.kind := by
  cases expression <;> rfl

theorem unwrapped_renumbered :
    ∀ expression : Expr,
      (expression.renumbered number).unwrapped = expression.unwrapped.renumbered number
  | .returned value _ => unwrapped_renumbered value
  | .call _ => rfl
  | .member _ => rfl
  | .entry _ => rfl
  | .literal _ => rfl
  | .closure _ => rfl
  | .mapper _ => rfl

end Expr

theorem CallOf.renumbered_eq (call : Call) :
    call.renumbered number =
      { call with
        receiver := call.receiver.map (·.renumbered number)
        arguments := call.arguments.map (·.renumbered number) } := by
  obtain ⟨name, receiver, arguments, span⟩ := call
  rw [renumbered, Expr.renumberedReceiver_eq_map, Expr.renumberedMembers_eq_map]

theorem ClosureOf.renumbered_eq (closure : Closure) :
    closure.renumbered number =
      { closure with
        parameter := closure.parameter.map (·.renumbered number)
        result := closure.result.renumbered number
        body := closure.body.map (·.renumbered number) } := by
  obtain ⟨parameter, result, body, span⟩ := closure
  rw [renumbered, Expr.renumberedMembers_eq_map]

theorem ClosureOf.parameter_renumbered (closure : Closure) :
    (closure.renumbered number).parameter = closure.parameter.map (·.renumbered number) := by
  rw [renumbered_eq]

theorem ClosureOf.result_renumbered (closure : Closure) :
    (closure.renumbered number).result = closure.result.renumbered number := by
  rw [renumbered_eq]

theorem ClosureOf.span_renumbered (closure : Closure) :
    (closure.renumbered number).span = closure.span := by
  rw [renumbered_eq]

theorem CallOf.span_renumbered (call : Call) : (call.renumbered number).span = call.span := by
  rw [renumbered_eq]

theorem Expr.span_renumbered (expression : Expr) :
    (expression.renumbered number).span = expression.span := by
  cases expression with
  | call node => exact node.span_renumbered number
  | closure node => exact node.span_renumbered number
  | _ => rfl

/-! ### Directives -/

def Delegate.renumbered (delegate : Delegate) : Delegate :=
  { delegate with mapper := number delegate.mapper }

def Directive.renumbered : Directive → Directive
  | property source => .property (source.renumbered number)
  | constant value => .constant value
  | expression body => .expression (body.renumbered number)
  | transform base closure => .transform base.renumbered (closure.renumbered number)
  | via base delegate => .via base.renumbered (delegate.renumbered number)
  | entry source => .entry (source.renumbered number)

def Assignment.renumbered (assignment : Assignment) : Assignment :=
  { assignment with directive := assignment.directive.renumbered number }

namespace CallOf

variable (call : Call)

theorem name_renumbered : (call.renumbered number).name = call.name := by
  rw [renumbered_eq]

theorem receiver_renumbered :
    (call.renumbered number).receiver = call.receiver.map (·.renumbered number) := by
  rw [renumbered_eq]

theorem wrapper?_renumbered : (call.renumbered number).wrapper? = call.wrapper? := by
  unfold wrapper?
  rw [name_renumbered]

theorem unexpected_renumbered : (call.renumbered number).unexpected = call.unexpected := by
  unfold unexpected
  rw [name_renumbered, span_renumbered]

theorem soleArgument_renumbered (keyword : Keyword) :
    (call.renumbered number).soleArgument keyword =
      (call.soleArgument keyword).map (·.renumbered number) := by
  rw [renumbered_eq]
  unfold soleArgument
  match call.arguments with
  | [] => rfl
  | [argument] => rfl
  | first :: second :: rest =>
      simp only [List.map_cons, List.length_cons, List.length_map]
      rfl

theorem targetMember_renumbered (keyword : Keyword) :
    (call.renumbered number).targetMember keyword = call.targetMember keyword := by
  unfold targetMember
  rw [receiver_renumbered, span_renumbered]
  cases call.receiver with
  | none => rfl
  | some receiver =>
      cases receiver with
      | member member => rfl
      | call inner =>
          simp only [Option.map_some, Expr.renumbered, Expr.kind, Expr.span, span_renumbered]
      | closure closure =>
          simp only [Option.map_some, Expr.renumbered, Expr.kind, Expr.span,
            ClosureOf.span_renumbered]
      | _ => rfl

theorem targetEntry_renumbered :
    (call.renumbered number).targetEntry = call.targetEntry := by
  unfold targetEntry
  rw [receiver_renumbered, span_renumbered]
  cases call.receiver with
  | none => rfl
  | some receiver => cases receiver <;> rfl

end CallOf

theorem wrongArgument_renumbered (keyword : Keyword) (expected : Operand) (found : Expr) :
    wrongArgument keyword expected (found.renumbered number) =
      wrongArgument keyword expected found := by
  unfold wrongArgument
  rw [Expr.kind_renumbered, Expr.span_renumbered]

namespace Reading

variable (call : Call)

theorem delegation_renumbered (kind : EntryPointKind) (mapper : TypeId) :
    delegation (call.renumbered number) kind (number mapper) =
      (delegation call kind mapper).map (·.renumbered number) := by
  unfold delegation
  rw [CallOf.soleArgument_renumbered, CallOf.span_renumbered]
  apply map_bind_of_commutes
  intro argument
  cases argument with
  | member source => rfl
  | _ => exact congrArg Except.error (wrongArgument_renumbered number _ _ _)

theorem invocation_renumbered :
    invocation (call.renumbered number) = (invocation call).map (·.renumbered number) := by
  have sameName := CallOf.name_renumbered number call
  by_cases named : ∃ kind : EntryPointKind, call.name = kind.keyword.text
  · obtain ⟨kind, named⟩ := named
    rw [invocation_of_named named, invocation_of_named (sameName.trans named),
      CallOf.receiver_renumbered, CallOf.span_renumbered]
    cases call.receiver with
    | none => rfl
    | some receiver =>
        cases receiver with
        | mapper reference => exact delegation_renumbered number call kind reference.mapper
        | _ => rfl
  · rw [invocation_of_unnamed named, invocation_of_unnamed (by rwa [sameName]),
      CallOf.unexpected_renumbered]
    rfl

theorem property_renumbered :
    property (call.renumbered number) = (property call).map (·.renumbered number) := by
  unfold property
  rw [CallOf.targetMember_renumbered, CallOf.soleArgument_renumbered, CallOf.span_renumbered]
  cases call.targetMember .property with
  | error failure => rfl
  | ok target =>
      apply map_bind_of_commutes
      intro argument
      cases argument with
      | member source => rfl
      | call inner =>
          change (invocation (inner.renumbered number) >>= _) = _
          rw [invocation_renumbered]
          apply map_bind_of_commutes
          intro directive
          rfl
      | _ => exact congrArg Except.error (wrongArgument_renumbered number _ _ _)

theorem constant_renumbered :
    constant (call.renumbered number) = (constant call).map (·.renumbered number) := by
  unfold constant
  rw [CallOf.targetMember_renumbered, CallOf.soleArgument_renumbered, CallOf.span_renumbered]
  cases call.targetMember .constant with
  | error failure => rfl
  | ok target =>
      apply map_bind_of_commutes
      intro argument
      cases argument with
      | literal value => rfl
      | _ => exact congrArg Except.error (wrongArgument_renumbered number _ _ _)

theorem expression_renumbered :
    expression (call.renumbered number) = (expression call).map (·.renumbered number) := by
  unfold expression
  rw [CallOf.targetMember_renumbered, CallOf.soleArgument_renumbered, CallOf.span_renumbered]
  cases call.targetMember .expression with
  | error failure => rfl
  | ok target =>
      apply map_bind_of_commutes
      intro argument
      cases argument with
      | closure body => rfl
      | _ => exact congrArg Except.error (wrongArgument_renumbered number _ _ _)

theorem entry_renumbered :
    entry (call.renumbered number) = (entry call).map (·.renumbered number) := by
  unfold entry
  rw [CallOf.targetEntry_renumbered, CallOf.soleArgument_renumbered, CallOf.span_renumbered]
  cases call.targetEntry with
  | error failure => rfl
  | ok target =>
      apply map_bind_of_commutes
      intro argument
      cases argument with
      | entry source => rfl
      | _ => exact congrArg Except.error (wrongArgument_renumbered number _ _ _)

theorem plain_renumbered :
    plain (call.renumbered number) = (plain call).map (·.renumbered number) := by
  unfold plain
  rw [CallOf.name_renumbered, CallOf.unexpected_renumbered, property_renumbered,
    constant_renumbered, expression_renumbered, entry_renumbered]
  cases Keyword.ofText? call.name with
  | none => rfl
  | some keyword => cases keyword <;> rfl

theorem takeLast?_renumbered (target : String) (collected : List Assignment) :
    takeLast? target (collected.map (·.renumbered number)) =
      (takeLast? target collected).map fun taken =>
        (taken.1.renumbered number, taken.2.map (·.renumbered number)) := by
  induction collected with
  | nil => rfl
  | cons head rest ih =>
      rw [List.map_cons, takeLast?, takeLast?, ih]
      cases takeLast? target rest with
      | some taken => rfl
      | none =>
          change (if head.target = target then _ else _) =
            Option.map _ (if head.target = target then _ else _)
          by_cases same : head.target = target
          · rw [if_pos same, if_pos same]
            rfl
          · rw [if_neg same, if_neg same]
            rfl

theorem wrapped_renumbered (wrapper : Wrapper) (base : Directive) :
    wrapped wrapper (call.renumbered number) (base.renumbered number) =
      (wrapped wrapper call base).map (·.renumbered number) := by
  unfold wrapped
  rw [CallOf.soleArgument_renumbered]
  apply map_bind_of_commutes
  intro argument
  cases wrapper with
  | transform =>
      cases argument with
      | closure closure => rfl
      | _ => exact congrArg Except.error (wrongArgument_renumbered number _ _ _)
  | via =>
      cases argument with
      | mapper reference => rfl
      | _ => exact congrArg Except.error (wrongArgument_renumbered number _ _ _)

theorem attach_renumbered (wrapper : Wrapper) (base : Assignment) :
    attach wrapper (call.renumbered number) (base.renumbered number) =
      (attach wrapper call base).map (·.renumbered number) := by
  obtain ⟨target, directive, span⟩ := base
  unfold attach
  rw [CallOf.span_renumbered]
  cases directive with
  | property source =>
      change (wrapped wrapper (call.renumbered number)
        ((Directive.property source).renumbered number) >>= _) = _
      rw [wrapped_renumbered]
      apply map_bind_of_commutes
      intro directive
      rfl
  | _ => rfl

/-! ### Statements and bodies -/

def Edit.renumbered : Edit → Edit
  | skip => .skip
  | add assignment => .add (assignment.renumbered number)
  | wrap target wrapper call => .wrap target wrapper (call.renumbered number)

def renumbered (read : Except Failure Unit × List Assignment) :
    Except Failure Unit × List Assignment :=
  (read.1, read.2.map (·.renumbered number))

theorem wrapperEdit_renumbered (wrapper : Wrapper) :
    wrapperEdit wrapper (call.renumbered number) =
      (wrapperEdit wrapper call).map (·.renumbered number) := by
  unfold wrapperEdit
  rw [CallOf.receiver_renumbered, CallOf.span_renumbered]
  cases call.receiver with
  | none => rfl
  | some receiver =>
      cases receiver with
      | call inner =>
          simp only [Option.map_some, Expr.renumbered, CallOf.wrapper?_renumbered]
          cases inner.wrapper? with
          | some nested => rfl
          | none =>
              have attached : (plain (inner.renumbered number) >>=
                  attach wrapper (call.renumbered number)) =
                    (plain inner >>= attach wrapper call).map (·.renumbered number) := by
                rw [plain_renumbered]
                exact map_bind_of_commutes fun base => attach_renumbered number call wrapper base
              rw [attached]
              cases plain inner >>= attach wrapper call <;> rfl
      | closure closure =>
          simp only [Option.map_some, Expr.renumbered, Expr.kind, Expr.span,
            ClosureOf.renumbered_eq]
          rfl
      | _ => rfl

theorem statementEdit_renumbered (statement : Expr) :
    statementEdit (statement.renumbered number) =
      (statementEdit statement).map (·.renumbered number) := by
  unfold statementEdit
  rw [Expr.unwrapped_renumbered]
  cases statement.unwrapped with
  | call node =>
      simp only [Expr.renumbered, CallOf.wrapper?_renumbered]
      cases node.wrapper? with
      | some wrapper => exact wrapperEdit_renumbered number node wrapper
      | none =>
          rw [plain_renumbered]
          cases plain node <;> rfl
  | closure closure =>
      simp only [Expr.renumbered, Expr.kind, Expr.span, ClosureOf.renumbered_eq]
      rfl
  | _ => rfl

theorem Edit.apply_renumbered (edit : Edit) (collected : List Assignment) :
    (edit.renumbered number).apply (collected.map (·.renumbered number)) =
      Reading.renumbered number (edit.apply collected) := by
  cases edit with
  | skip => rfl
  | add assignment => simp only [renumbered, apply, Reading.renumbered, List.map_append]; rfl
  | wrap target wrapper call =>
      simp only [renumbered, apply, takeLast?_renumbered, CallOf.span_renumbered]
      cases takeLast? target collected with
      | none => rfl
      | some taken =>
          simp only [Option.map_some, attach_renumbered]
          cases attach wrapper call taken.1 with
          | ok assignment => simp only [Reading.renumbered, List.map_append]; rfl
          | error failure => rfl

theorem statement_renumbered (statement : Expr) (collected : List Assignment) :
    Reading.statement (statement.renumbered number) (collected.map (·.renumbered number)) =
      renumbered number (Reading.statement statement collected) := by
  rw [statement_eq, statement_eq, statementEdit_renumbered]
  cases statementEdit statement with
  | ok edit => exact edit.apply_renumbered number collected
  | error failure => rfl

theorem statements_renumbered (members : List Expr) (collected : List Assignment) :
    statements (members.map (·.renumbered number)) (collected.map (·.renumbered number)) =
      renumbered number (statements members collected) := by
  induction members generalizing collected with
  | nil => rfl
  | cons head rest ih =>
      rw [List.map_cons, statements, statements, statement_renumbered]
      cases Reading.statement head collected with
      | mk ending others =>
          cases ending with
          | ok => exact ih others
          | error failure => rfl

theorem block_renumbered (body : Expr) :
    block (body.renumbered number) = (block body).map (·.map (·.renumbered number)) := by
  unfold block
  rw [Expr.unwrapped_renumbered]
  cases body.unwrapped with
  | call node =>
      simp only [Expr.renumbered, CallOf.name_renumbered, CallOf.unexpected_renumbered]
      cases Keyword.ofText? node.name with
      | none => rfl
      | some keyword =>
          cases keyword with
          | mapping =>
              dsimp only
              rw [CallOf.soleArgument_renumbered]
              apply map_bind_of_commutes
              intro argument
              cases argument with
              | closure block =>
                  simp only [Expr.renumbered, ClosureOf.renumbered_eq]
                  rfl
              | _ => exact congrArg Except.error (wrongArgument_renumbered number _ _ _)
          | _ => rfl
  | closure closure =>
      simp only [Expr.renumbered, Expr.kind, Expr.span, ClosureOf.renumbered_eq]
      rfl
  | _ => rfl

end Reading

theorem Mapper.assignments_renumbered (mapper : Mapper) :
    (mapper.renumbered number).assignments =
      mapper.assignments.map (·.map (·.renumbered number)) := by
  obtain ⟨name, source, target, body, span⟩ := mapper
  cases body with
  | none => rfl
  | some body =>
      have read := Reading.block_renumbered number body
      simp only [renumbered, assignments, Option.map_some, Reading.body, read]
      cases Reading.block body with
      | error failure => rfl
      | ok members =>
          have collected := Reading.statements_renumbered number members []
          simp only [Except.map, List.map_nil] at collected ⊢
          rw [collected]
          cases Reading.statements members [] with
          | mk ending others => cases ending <;> rfl

end MappingPlan
