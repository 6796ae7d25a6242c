/-
Why and where a body is rejected. Reading fails for causes of its own, which no later stage
of a resolution shares but the wrapper around no property, and each failure is located at
a node of the body.
-/

import MappingPlan.Proofs.Directive.Nodes
import MappingPlan.Proofs.Directive.Remainder

set_option autoImplicit false

namespace MappingPlan

/-- The causes for which a body is rejected. -/
def Cause.isOfBody : Cause → Bool
  | .unexpectedCall _ | .unexpectedExpression _ | .malformed _ _ => true
  | .nothingToWrap _ _ | .invalidWrapBase _ _ | .nestedWrap _ _ => true
  | _ => false

structure Failure.OfBody (body : Expr) (failure : Failure) : Prop where
  cause : failure.cause.isOfBody = true
  located : ∃ node : Expr, node.PartOf body ∧ node.span = failure.span

namespace Reading

variable {body : Expr} {call : Call} (within : (Expr.call call).PartOf body)

include within

theorem ofBody_at {cause : Cause} (ofBody : cause.isOfBody = true) :
    Failure.OfBody body ⟨cause, call.span⟩ :=
  ⟨ofBody, .call call, within, rfl⟩

theorem ofBody_wrongArgument {argument : Expr} (sole : call.arguments = [argument])
    (keyword : Keyword) (expected : Operand) :
    Failure.OfBody body (wrongArgument keyword expected argument) :=
  ⟨rfl, argument, partOf_of_arguments within sole, rfl⟩

theorem failsWithin_soleArgument (keyword : Keyword) :
    FailsWithin (Failure.OfBody body) (call.soleArgument keyword) := by
  unfold CallOf.soleArgument
  split
  · exact .ok _
  · exact .error (ofBody_at within rfl)

theorem failsWithin_targetMember (keyword : Keyword) :
    FailsWithin (Failure.OfBody body) (call.targetMember keyword) := by
  unfold CallOf.targetMember
  split
  next => exact .ok _
  next other _ received =>
    exact .error ⟨rfl, other, Expr.PartOf.trans (.receiver received .self) within, rfl⟩
  next => exact .error (ofBody_at within rfl)

theorem failsWithin_targetEntry : FailsWithin (Failure.OfBody body) call.targetEntry := by
  unfold CallOf.targetEntry
  split
  · exact .ok _
  · exact .error (ofBody_at within rfl)

/-- Whatever is made of the sole argument, it is made or the argument is at fault. -/
theorem failsWithin_argument {Result : Type} {keyword : Keyword}
    {next : Expr → Except Failure Result}
    (each : ∀ argument, call.arguments = [argument] →
      FailsWithin (Failure.OfBody body) (next argument)) :
    FailsWithin (Failure.OfBody body) (call.soleArgument keyword >>= next) := by
  refine (failsWithin_soleArgument within keyword).bind fun argument sole => ?_
  exact each argument (CallOf.soleArgument_eq_ok_iff.mp sole)

theorem failsWithin_delegation (kind : EntryPointKind) (mapper : TypeId) :
    FailsWithin (Failure.OfBody body) (delegation call kind mapper) := by
  refine failsWithin_argument within fun argument sole => ?_
  cases argument with
  | member source => exact .ok _
  | _ => exact .error (ofBody_wrongArgument within sole _ _)

theorem failsWithin_invocation : FailsWithin (Failure.OfBody body) (invocation call) := by
  by_cases named : ∃ kind : EntryPointKind, call.name = kind.keyword.text
  · obtain ⟨kind, named⟩ := named
    rw [invocation_of_named named]
    split
    · exact failsWithin_delegation within kind _
    · exact .error (ofBody_at within rfl)
  · rw [invocation_of_unnamed named]
    exact .error (ofBody_at within rfl)

theorem failsWithin_property : FailsWithin (Failure.OfBody body) (property call) := by
  refine (failsWithin_targetMember within .property).bind fun target _ => ?_
  refine failsWithin_argument within fun argument sole => ?_
  cases argument with
  | member source => exact .ok _
  | call inner =>
      exact (failsWithin_invocation (partOf_of_arguments within sole)).bind fun _ _ => .ok _
  | _ => exact .error (ofBody_wrongArgument within sole _ _)

theorem failsWithin_constant : FailsWithin (Failure.OfBody body) (constant call) := by
  refine (failsWithin_targetMember within .constant).bind fun target _ => ?_
  refine failsWithin_argument within fun argument sole => ?_
  cases argument with
  | literal value => exact .ok _
  | _ => exact .error (ofBody_wrongArgument within sole _ _)

theorem failsWithin_expression : FailsWithin (Failure.OfBody body) (expression call) := by
  refine (failsWithin_targetMember within .expression).bind fun target _ => ?_
  refine failsWithin_argument within fun argument sole => ?_
  cases argument with
  | closure body => exact .ok _
  | _ => exact .error (ofBody_wrongArgument within sole _ _)

theorem failsWithin_entry : FailsWithin (Failure.OfBody body) (entry call) := by
  refine (failsWithin_targetEntry within).bind fun target _ => ?_
  refine failsWithin_argument within fun argument sole => ?_
  cases argument with
  | entry source => exact .ok _
  | _ => exact .error (ofBody_wrongArgument within sole _ _)

theorem failsWithin_plain : FailsWithin (Failure.OfBody body) (plain call) := by
  unfold plain
  split
  · exact failsWithin_property within
  · exact failsWithin_constant within
  · exact failsWithin_expression within
  · exact failsWithin_entry within
  · exact .error (ofBody_at within rfl)

theorem failsWithin_wrapped (wrapper : Wrapper) (base : Directive) :
    FailsWithin (Failure.OfBody body) (wrapped wrapper call base) := by
  refine failsWithin_argument within fun argument sole => ?_
  cases wrapper with
  | transform =>
      cases argument with
      | closure closure => exact .ok _
      | _ => exact .error (ofBody_wrongArgument within sole _ _)
  | via =>
      cases argument with
      | mapper reference => exact .ok _
      | _ => exact .error (ofBody_wrongArgument within sole _ _)

theorem failsWithin_attach (wrapper : Wrapper) (base : Assignment) :
    FailsWithin (Failure.OfBody body) (attach wrapper call base) := by
  unfold attach
  dsimp only
  split
  · exact (failsWithin_wrapped within wrapper _).bind fun _ _ => .ok _
  · split
    · exact .error (ofBody_at within rfl)
    · exact .error (ofBody_at within rfl)

/-- A wrapper fails at itself, at what stands in front of it, or at its argument. -/
theorem failsWithin_wrapping (wrapper : Wrapper) (collected : List Assignment) :
    FailsWithin (Failure.OfBody body) (wrapping wrapper call collected).1 := by
  unfold wrapping
  split
  next inner received =>
    split
    · exact .error (ofBody_at within rfl)
    · have innerWithin := Expr.PartOf.trans (.receiver received .self) within
      exact (failsWithin_plain innerWithin).bind fun base _ =>
        failsWithin_attach within wrapper base
  next =>
    split
    · exact failsWithin_attach within wrapper _
    · exact .error (ofBody_at within rfl)
  next other _ _ received =>
    exact .error ⟨rfl, other, Expr.PartOf.trans (.receiver received .self) within, rfl⟩
  next => exact .error (ofBody_at within rfl)

theorem failsWithin_call (collected : List Assignment) :
    FailsWithin (Failure.OfBody body) (Reading.call call collected).1 := by
  unfold Reading.call
  split
  · exact failsWithin_wrapping within _ collected
  · exact failsWithin_plain within

omit within in
theorem failsWithin_statement {statement : Expr} (within : statement.PartOf body)
    (collected : List Assignment) :
    FailsWithin (Failure.OfBody body) (Reading.statement statement collected).1 := by
  have unwrappedWithin := statement.unwrapped_partOf.trans within
  unfold Reading.statement
  split
  next => exact .ok ()
  next node unwrapped =>
    rw [unwrapped] at unwrappedWithin
    have fails := failsWithin_call unwrappedWithin collected
    cases read : Reading.call node collected with
    | mk ending others =>
        rw [read] at fails
        cases ending with
        | ok assignment => exact .ok ()
        | error failure => exact .error (fails failure rfl)
  next => exact .error ⟨rfl, _, unwrappedWithin, rfl⟩

omit within in
theorem failsWithin_block (body : Expr) : FailsWithin (Failure.OfBody body) (block body) := by
  have unwrappedWithin := body.unwrapped_partOf
  unfold block
  split
  next node unwrapped =>
    rw [unwrapped] at unwrappedWithin
    split
    · refine failsWithin_argument unwrappedWithin fun argument sole => ?_
      cases argument with
      | closure closure => exact .ok _
      | _ => exact .error (ofBody_wrongArgument unwrappedWithin sole _ _)
    · exact .error (ofBody_at unwrappedWithin rfl)
  next => exact .error ⟨rfl, _, unwrappedWithin, rfl⟩

omit within in
theorem failsWithin_body (body : Expr) (collected : List Assignment) :
    FailsWithin (Failure.OfBody body) (Reading.body body collected).1 := by
  intro failure failed
  rcases body_eq_error_iff.mp (Prod.ext failed rfl) with
    ⟨noBlock, -⟩ | ⟨before, offending, after, reached, written, -, fails⟩
  · exact failsWithin_block body failure noBlock
  · have inBody := partOf_of_block written offending
      (List.mem_append_right before List.mem_cons_self)
    exact failsWithin_statement inBody reached failure (congrArg Prod.fst fails)

end Reading

end MappingPlan
