/-
What a statement does to the assignments collected before it. Which edit a statement
stands for is decided by the statement alone; only a wrapper around an earlier
assignment then looks at the list.
-/

import MappingPlan.Proofs.Directive.Shape

set_option autoImplicit false

namespace MappingPlan

namespace Reading

inductive Edit where
  | skip
  | add (assignment : Assignment)
  | wrap (target : String) (wrapper : Wrapper) (call : Call)

namespace Edit

def apply (edit : Edit) (collected : List Assignment) :
    Except Failure Unit × List Assignment :=
  match edit with
  | skip => (.ok (), collected)
  | add assignment => (.ok (), collected ++ [assignment])
  | wrap target wrapper call =>
      match takeLast? target collected with
      | none => (.error ⟨.nothingToWrap wrapper target, call.span⟩, collected)
      | some (base, others) =>
          match attach wrapper call base with
          | .ok assignment => (.ok (), others ++ [assignment])
          | .error failure => (.error failure, others)

def target? : Edit → Option String
  | skip => none
  | add assignment => some assignment.target
  | wrap target _ _ => some target

end Edit

def wrapperEdit (wrapper : Wrapper) (call : Call) : Except Failure Edit :=
  match call.receiver with
  | some (.member member) => .ok (.wrap member.name wrapper call)
  | some (.call inner) =>
      match inner.wrapper? with
      | some nested => .error ⟨.nestedWrap wrapper nested.keyword, call.span⟩
      | none => (plain inner >>= attach wrapper call).map .add
  | some other => .error ⟨.malformed wrapper.keyword (.notWrappable other.kind), other.span⟩
  | none => .error ⟨.nothingToWrap wrapper "", call.span⟩

def statementEdit (statement : Expr) : Except Failure Edit :=
  match statement.unwrapped with
  | .mapper _ => .ok .skip
  | .call node =>
      match node.wrapper? with
      | some wrapper => wrapperEdit wrapper node
      | none => (plain node).map .add
  | other => .error ⟨.unexpectedExpression other.kind, other.span⟩

def applyFound (found : Except Failure Edit) (collected : List Assignment) :
    Except Failure Unit × List Assignment :=
  match found with
  | .ok edit => edit.apply collected
  | .error failure => (.error failure, collected)

def collect (read : Except Failure Assignment × List Assignment) :
    Except Failure Unit × List Assignment :=
  match read with
  | (.ok assignment, others) => (.ok (), others ++ [assignment])
  | (.error failure, others) => (.error failure, others)

theorem collect_eq_applyFound (read : Except Failure Assignment) (collected : List Assignment) :
    collect (read, collected) = applyFound (read.map .add) collected := by
  cases read with
  | ok assignment => rfl
  | error failure => rfl

theorem collect_wrapping (wrapper : Wrapper) (call : Call) (collected : List Assignment) :
    collect (wrapping wrapper call collected) =
      applyFound (wrapperEdit wrapper call) collected := by
  unfold wrapping wrapperEdit
  cases call.receiver with
  | none => rfl
  | some receiver =>
      cases receiver with
      | member member =>
          dsimp only [applyFound, Edit.apply]
          cases takeLast? member.name collected with
          | none => rfl
          | some taken =>
              dsimp only
              cases attach wrapper call taken.1 with
              | ok assignment => rfl
              | error failure => rfl
      | call inner =>
          dsimp only
          cases inner.wrapper? with
          | some nested => rfl
          | none => exact collect_eq_applyFound _ collected
      | _ => rfl

/-- Reading a statement is finding its edit and applying it. -/
theorem statement_eq (statement : Expr) (collected : List Assignment) :
    Reading.statement statement collected =
      applyFound (statementEdit statement) collected := by
  unfold Reading.statement statementEdit
  cases statement.unwrapped with
  | call node =>
      change collect (call node collected) = _
      unfold call
      dsimp only
      cases node.wrapper? with
      | none => exact collect_eq_applyFound (plain node) collected
      | some wrapper => exact collect_wrapping wrapper node collected
  | _ => rfl

theorem statement_eq_ok_iff (statement : Expr) (collected result : List Assignment) :
    Reading.statement statement collected = (.ok (), result) ↔
      ∃ edit, statementEdit statement = .ok edit ∧ edit.apply collected = (.ok (), result) := by
  rw [statement_eq]
  cases statementEdit statement with
  | ok edit =>
      constructor
      · intro applied
        exact ⟨edit, rfl, applied⟩
      · intro found
        obtain ⟨_, same, applied⟩ := found
        obtain rfl := Except.ok.inj same
        exact applied
  | error failure =>
      constructor
      · intro impossible
        cases impossible
      · intro found
        obtain ⟨_, impossible, -⟩ := found
        cases impossible

theorem map_eq_ok {read : Except Failure Assignment} {edit : Edit}
    (success : read.map .add = .ok edit) :
    ∃ assignment, read = .ok assignment ∧ edit = .add assignment := by
  cases read with
  | ok assignment => exact ⟨assignment, rfl, (Except.ok.inj success).symm⟩
  | error failure => cases success

/-- The edit that a statement stands for. -/
inductive EditOf (statement : Expr) : Edit → Prop where
  | reference {reference : MapperRef} :
      statement.unwrapped = .mapper reference → EditOf statement .skip
  | plain {call : Call} {assignment : Assignment} :
      statement.unwrapped = .call call → Reading.plain call = .ok assignment →
      EditOf statement (.add assignment)
  | chained {call inner : Call} {wrapper : Wrapper} {base assignment : Assignment} :
      statement.unwrapped = .call call → call.name = wrapper.keyword.text →
      call.receiver = some (.call inner) → Reading.plain inner = .ok base →
      attach wrapper call base = .ok assignment → EditOf statement (.add assignment)
  | separate {call : Call} {wrapper : Wrapper} {member : MemberRef} :
      statement.unwrapped = .call call → call.name = wrapper.keyword.text →
      call.receiver = some (.member member) → EditOf statement (.wrap member.name wrapper call)

theorem statementEdit_eq_ok_iff {statement : Expr} {edit : Edit} :
    statementEdit statement = .ok edit ↔ EditOf statement edit := by
  constructor
  · intro found
    unfold statementEdit at found
    split at found
    next reference unwrapped =>
      obtain rfl := Except.ok.inj found
      exact .reference unwrapped
    next call unwrapped =>
      split at found
      next wrapper named =>
        have spelled := CallOf.wrapper?_eq_some_iff.mp named
        unfold wrapperEdit at found
        split at found
        next member received =>
          obtain rfl := Except.ok.inj found
          exact .separate unwrapped spelled received
        next inner received =>
          split at found
          next => cases found
          next =>
            obtain ⟨assignment, read, rfl⟩ := map_eq_ok found
            obtain ⟨base, read, attached⟩ := bind_eq_ok_iff.mp read
            exact .chained unwrapped spelled received read attached
        next => cases found
        next => cases found
      next =>
        obtain ⟨assignment, read, rfl⟩ := map_eq_ok found
        exact .plain unwrapped read
    next => cases found
  · intro editOf
    unfold statementEdit wrapperEdit
    cases editOf with
    | reference unwrapped => rw [unwrapped]
    | plain unwrapped read =>
        rw [unwrapped]
        dsimp only
        rw [wrapper?_of_plain read, read]
        rfl
    | chained unwrapped spelled received read attached =>
        rw [unwrapped]
        dsimp only
        rw [CallOf.wrapper?_eq_some_iff.mpr spelled, received]
        dsimp only
        rw [wrapper?_of_plain read, read]
        exact congrArg (Except.map Edit.add) attached
    | separate unwrapped spelled received =>
        rw [unwrapped]
        dsimp only
        rw [CallOf.wrapper?_eq_some_iff.mpr spelled, received]

/-! ### What a statement addresses -/

def namedTarget? : Expr → Option String
  | .member member => some member.name
  | .entry entry => some entry.name
  | _ => none

def front? (call : Call) : Option String := call.receiver.bind namedTarget?

/-- The name that a call is about: the target in front of it, or in front of the call that
it wraps. -/
def subject? (call : Call) : Option String :=
  match call.receiver with
  | some (.call inner) => front? inner
  | _ => front? call

def addressee? (statement : Expr) : Option String :=
  match statement.unwrapped with
  | .call node => subject? node
  | _ => none

theorem front?_of_targetMember {call : Call} {keyword : Keyword} {target : String}
    (found : call.targetMember keyword = .ok target) : front? call = some target := by
  unfold CallOf.targetMember at found
  unfold front?
  split at found
  next member received =>
    rw [received]
    exact congrArg some (Except.ok.inj found)
  next => cases found
  next => cases found

theorem front?_of_targetEntry {call : Call} {target : String}
    (found : call.targetEntry = .ok target) : front? call = some target := by
  unfold CallOf.targetEntry at found
  unfold front?
  split at found
  next entry received =>
    rw [received]
    exact congrArg some (Except.ok.inj found)
  next => cases found

theorem front?_of_plain {call : Call} {assignment : Assignment}
    (success : plain call = .ok assignment) : front? call = some assignment.target := by
  unfold plain at success
  split at success
  · obtain ⟨target, _, _, found, -, rfl, -⟩ := property_eq_ok_iff.mp success
    exact front?_of_targetMember found
  · obtain ⟨target, _, found, -, rfl⟩ := constant_eq_ok success
    exact front?_of_targetMember found
  · obtain ⟨target, _, found, -, rfl⟩ := expression_eq_ok success
    exact front?_of_targetMember found
  · obtain ⟨target, _, found, -, rfl⟩ := entry_eq_ok success
    exact front?_of_targetEntry found
  · cases success

theorem subject?_of_plain {call : Call} {assignment : Assignment}
    (success : plain call = .ok assignment) : subject? call = some assignment.target := by
  have atFront := front?_of_plain success
  unfold subject?
  split
  next inner received =>
    unfold front? at atFront
    rw [received] at atFront
    cases atFront
  next => exact atFront

/-- A statement is about the target that its edit changes. -/
theorem addressee?_eq {statement : Expr} {edit : Edit}
    (found : statementEdit statement = .ok edit) : addressee? statement = edit.target? := by
  unfold addressee?
  cases statementEdit_eq_ok_iff.mp found with
  | reference unwrapped =>
      rw [unwrapped]
      rfl
  | plain unwrapped read =>
      rw [unwrapped]
      exact subject?_of_plain read
  | chained unwrapped _ received read attached =>
      rw [unwrapped]
      dsimp only [subject?]
      rw [received]
      dsimp only
      rw [front?_of_plain read]
      exact congrArg some (attach_target attached).symm
  | separate unwrapped _ received =>
      rw [unwrapped]
      dsimp only [subject?, front?]
      rw [received]
      rfl

end Reading

end MappingPlan
