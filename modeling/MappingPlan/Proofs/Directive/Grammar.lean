/-
The grammar of mapper bodies. It says which statements may stand behind others: a wrapper
around an earlier assignment depends on what stands before it, and there only on the last
statement about its target; nothing else does. A body is read without failure exactly if it
is in the grammar.
-/

import MappingPlan.Proofs.Directive.Spelling

set_option autoImplicit false

namespace MappingPlan

namespace Reading

def latestAbout? (name : String) (statements : List Expr) : Option Expr :=
  statements.reverse.find? (addressee? · = some name)

def ReadsProperty (statement : Expr) : Prop :=
  ∃ call, statement.unwrapped = .call call ∧ call.ReadsProperty

/-- The last statement about the target reads a source property straight into it. -/
def LatestReads (name : String) (statements : List Expr) : Prop :=
  ∃ latest, latestAbout? name statements = some latest ∧ ReadsProperty latest

/-- A statement that may stand behind others: it refers to a mapper, or makes an assignment,
or wraps a property, written in front of it or read by the last statement about the member
in front of it. -/
inductive Admitted (before : List Expr) (statement : Expr) : Prop where
  | reference {reference : MapperRef} :
      statement.unwrapped = .mapper reference → Admitted before statement
  | assigns {call : Call} :
      statement.unwrapped = .call call → call.Assigns → Admitted before statement
  | chained {call inner : Call} {wrapper : Wrapper} :
      statement.unwrapped = .call call → call.Wraps wrapper →
      call.receiver = some (.call inner) → inner.ReadsProperty → Admitted before statement
  | separate {call : Call} {wrapper : Wrapper} {member : MemberRef} :
      statement.unwrapped = .call call → call.Wraps wrapper →
      call.receiver = some (.member member) → LatestReads member.name before →
      Admitted before statement

/-- A body is a call of a block, and every statement of the block may stand behind those
before it. -/
def WellFormed (body : Expr) : Prop :=
  ∃ (call : Call) (block : Closure), body.unwrapped = .call call ∧
    call.name = Keyword.mapping.text ∧ call.arguments = [.closure block] ∧
    ∀ front statement back, block.body = front ++ statement :: back → Admitted front statement

variable {call : Call} {statement : Expr} {before : List Expr}
  {collected result : List Assignment}

/-- The last assignment to the target can be wrapped. -/
def Wrappable (name : String) (collected : List Assignment) : Prop :=
  ∃ base others source, takeLast? name collected = some (base, others) ∧
    base.directive = .property source

theorem exists_apply_wrap_iff {name : String} {wrapper : Wrapper} :
    (∃ result, (Edit.wrap name wrapper call).apply collected = (.ok (), result)) ↔
      Wrappable name collected ∧ call.arguments.map Expr.kind = [wrapper.operand] := by
  simp only [Edit.apply_wrap_eq_ok_iff]
  constructor
  · intro applied
    obtain ⟨_, base, others, assignment, taken, attached, -⟩ := applied
    obtain ⟨⟨source, isProperty⟩, operand⟩ := exists_attach_iff.mp ⟨assignment, attached⟩
    exact ⟨⟨base, others, source, taken, isProperty⟩, operand⟩
  · intro both
    obtain ⟨⟨base, others, source, taken, isProperty⟩, operand⟩ := both
    obtain ⟨assignment, attached⟩ := exists_attach_iff.mpr ⟨⟨source, isProperty⟩, operand⟩
    exact ⟨_, base, others, assignment, taken, attached, rfl⟩

theorem admitted_of_statement
    (history : ∀ name, Wrappable name collected ↔ LatestReads name before)
    (read : Reading.statement statement collected = (.ok (), result)) :
    Admitted before statement := by
  obtain ⟨edit, found, applied⟩ := (statement_eq_ok_iff statement collected result).mp read
  cases statementEdit_eq_ok_iff.mp found with
  | reference unwrapped => exact .reference unwrapped
  | plain unwrapped read => exact .assigns unwrapped (exists_plain_iff.mp ⟨_, read⟩)
  | chained unwrapped named received read attached =>
      obtain ⟨isProperty, operand⟩ := exists_attach_iff.mp ⟨_, attached⟩
      exact .chained unwrapped ⟨named, operand⟩ received ((readsProperty_iff read).mpr isProperty)
  | @separate _ _ member unwrapped named received =>
      obtain ⟨wrappable, operand⟩ := exists_apply_wrap_iff.mp ⟨result, applied⟩
      exact .separate unwrapped ⟨named, operand⟩ received ((history member.name).mp wrappable)

theorem exists_statement_of_admitted
    (history : ∀ name, Wrappable name collected ↔ LatestReads name before)
    (admitted : Admitted before statement) :
    ∃ result, Reading.statement statement collected = (.ok (), result) := by
  simp only [statement_eq_ok_iff, statementEdit_eq_ok_iff]
  rw [exists_comm]
  cases admitted with
  | reference unwrapped => exact ⟨.skip, collected, .reference unwrapped, rfl⟩
  | assigns unwrapped assigns =>
      obtain ⟨assignment, read⟩ := exists_plain_iff.mpr assigns
      exact ⟨.add assignment, _, .plain unwrapped read, rfl⟩
  | chained unwrapped wraps received reads =>
      obtain ⟨base, read⟩ := exists_plain_iff.mpr (.property reads)
      have isProperty := (readsProperty_iff read).mp reads
      obtain ⟨assignment, attached⟩ := exists_attach_iff.mpr ⟨isProperty, wraps.argument⟩
      exact ⟨.add assignment, _, .chained unwrapped wraps.named received read attached, rfl⟩
  | @separate call wrapper member unwrapped wraps received latest =>
      obtain ⟨result, applied⟩ :=
        exists_apply_wrap_iff.mpr ⟨(history member.name).mpr latest, wraps.argument⟩
      exact ⟨_, result, .separate unwrapped wraps.named received, applied⟩

/-! ### What a statement leaves to be wrapped -/

theorem latestAbout?_append (name : String) (before : List Expr) (statement : Expr) :
    latestAbout? name (before ++ [statement]) =
      if addressee? statement = some name then some statement else latestAbout? name before := by
  unfold latestAbout?
  rw [List.reverse_append, List.reverse_singleton, List.singleton_append, List.find?_cons]
  by_cases addressed : addressee? statement = some name
  · simp only [addressed, decide_true, if_true]
  · simp only [addressed, decide_false, if_false]

theorem latestReads_append (name : String) (before : List Expr) (statement : Expr) :
    LatestReads name (before ++ [statement]) ↔
      if addressee? statement = some name then ReadsProperty statement
      else LatestReads name before := by
  unfold LatestReads
  rw [latestAbout?_append]
  split
  · simp only [Option.some.injEq, exists_eq_left']
  · rfl

theorem Wrappable.of_filter {name : String} {alike : List Assignment}
    (same : alike.filter (·.target = name) = collected.filter (·.target = name))
    (wrappable : Wrappable name collected) : Wrappable name alike := by
  obtain ⟨base, others, source, taken, isProperty⟩ := wrappable
  obtain ⟨alsoOthers, alsoTaken, -⟩ := Edit.takeLast?_congr taken same
  exact ⟨base, alsoOthers, source, alsoTaken, isProperty⟩

/-- What was just put at the end is what is taken out. -/
theorem wrappable_append_iff {assignment : Assignment} :
    Wrappable assignment.target (collected ++ [assignment]) ↔
      ∃ source, assignment.directive = .property source := by
  unfold Wrappable
  simp only [takeLast?_append_same, Option.some.injEq, Prod.mk.injEq]
  constructor
  · intro wrappable
    obtain ⟨_, _, source, ⟨rfl, -⟩, isProperty⟩ := wrappable
    exact ⟨source, isProperty⟩
  · intro isProperty
    obtain ⟨source, isProperty⟩ := isProperty
    exact ⟨assignment, collected, source, ⟨rfl, rfl⟩, isProperty⟩

theorem readsProperty_iff_of_statementEdit {edit : Edit}
    (found : statementEdit statement = .ok edit) :
    ReadsProperty statement ↔
      ∃ assignment source, edit = .add assignment ∧ assignment.directive = .property source := by
  constructor
  · intro reads
    obtain ⟨call, unwrapped, reads⟩ := reads
    obtain ⟨assignment, read⟩ := exists_plain_iff.mpr (.property reads)
    obtain ⟨source, isProperty⟩ := (readsProperty_iff read).mp reads
    rw [statementEdit_eq_ok_iff.mpr (.plain unwrapped read)] at found
    exact ⟨assignment, source, (Except.ok.inj found).symm, isProperty⟩
  · intro added
    obtain ⟨assignment, source, rfl, isProperty⟩ := added
    cases statementEdit_eq_ok_iff.mp found with
    | plain unwrapped read =>
        exact ⟨_, unwrapped, (readsProperty_iff read).mpr ⟨source, isProperty⟩⟩
    | chained _ _ _ _ attached => exact absurd isProperty (not_property_of_attach attached source)

/-- A statement about a target leaves its last assignment to be wrapped if it reads a
property straight into it. -/
theorem wrappable_of_addressed {name : String}
    (read : Reading.statement statement collected = (.ok (), result))
    (addressed : addressee? statement = some name) :
    Wrappable name result ↔ ReadsProperty statement := by
  obtain ⟨edit, found, applied⟩ := (statement_eq_ok_iff statement collected result).mp read
  rw [readsProperty_iff_of_statementEdit found]
  rw [addressee?_eq found] at addressed
  cases edit with
  | skip => cases addressed
  | add assignment =>
      obtain ⟨-, rfl⟩ := Prod.mk.inj applied
      obtain rfl := Option.some.inj addressed
      rw [wrappable_append_iff]
      simp only [Edit.add.injEq, exists_and_left, exists_eq_left']
  | wrap target wrapper call =>
      obtain rfl := Option.some.inj addressed
      obtain ⟨base, others, assignment, taken, attached, rfl⟩ :=
        Edit.apply_wrap_eq_ok_iff.mp applied
      have sameTarget : assignment.target = target :=
        (attach_target attached).trans (takeLast?_eq_some taken).1
      rw [← sameTarget, wrappable_append_iff]
      refine iff_of_false ?_ nofun
      intro isProperty
      obtain ⟨source, isProperty⟩ := isProperty
      exact not_property_of_attach attached source isProperty

/-- What can be wrapped follows the statements: if it is told by the last statement about
each target before a statement, then so it is after it. -/
theorem history_step (history : ∀ name, Wrappable name collected ↔ LatestReads name before)
    (read : Reading.statement statement collected = (.ok (), result)) (name : String) :
    Wrappable name result ↔ LatestReads name (before ++ [statement]) := by
  rw [latestReads_append]
  split
  next addressed => exact wrappable_of_addressed read addressed
  next elsewhere =>
    have unchanged := filter_of_statement read elsewhere
    rw [← history name]
    exact ⟨.of_filter unchanged.symm, .of_filter unchanged⟩

theorem forall_cons_split_iff {Element : Type} {holds : List Element → Element → Prop}
    {head : Element} {rest : List Element} :
    (∀ front middle back, head :: rest = front ++ middle :: back → holds front middle) ↔
      holds [] head ∧
        ∀ front middle back, rest = front ++ middle :: back → holds (head :: front) middle := by
  constructor
  · intro each
    refine ⟨each [] head rest rfl, ?_⟩
    intro front middle back split
    exact each (head :: front) middle back (by rw [split]; rfl)
  · intro both front middle back split
    cases front with
    | nil =>
        obtain ⟨rfl, -⟩ := List.cons.inj split
        exact both.1
    | cons first others =>
        obtain ⟨rfl, inRest⟩ := List.cons.inj split
        exact both.2 others middle back inRest

theorem statements_isOk_iff (members : List Expr)
    (history : ∀ name, Wrappable name collected ↔ LatestReads name before) :
    (statements members collected).1 = .ok () ↔
      ∀ front statement back, members = front ++ statement :: back →
        Admitted (before ++ front) statement := by
  induction members generalizing before collected with
  | nil =>
      refine iff_of_true rfl ?_
      intro front statement back split
      exact absurd split.symm (List.append_ne_nil_of_right_ne_nil _ (List.cons_ne_nil _ _))
  | cons head rest ih =>
      rw [forall_cons_split_iff, List.append_nil, statements_cons]
      cases read : Reading.statement head collected with
      | mk ending between =>
          cases ending with
          | ok =>
              rw [and_iff_right (admitted_of_statement history read)]
              have after := ih (history_step history read)
              simp only [List.append_assoc, List.singleton_append] at after
              exact after
          | error failure =>
              refine iff_of_false nofun fun both => ?_
              obtain ⟨result, success⟩ := exists_statement_of_admitted history both.1
              rw [read] at success
              cases success

theorem history_nil (name : String) : Wrappable name [] ↔ LatestReads name [] := by
  refine iff_of_false ?_ ?_
  · intro wrappable
    obtain ⟨_, _, _, impossible, -⟩ := wrappable
    cases impossible
  · intro latest
    obtain ⟨_, impossible, -⟩ := latest
    cases impossible

/-- With nothing collected before, a body is read without failure exactly if it is well
formed. -/
theorem body_isOk_iff_wellFormed (body : Expr) :
    (Reading.body body []).1 = .ok () ↔ WellFormed body := by
  unfold Reading.body
  constructor
  · intro success
    cases found : block body with
    | error failure =>
        rw [found] at success
        cases success
    | ok members =>
        rw [found] at success
        obtain ⟨call, closure, unwrapped, named, sole, rfl⟩ := block_eq_ok_iff.mp found
        exact ⟨call, closure, unwrapped, named, sole,
          (statements_isOk_iff closure.body history_nil).mp success⟩
  · intro wellFormed
    obtain ⟨call, closure, unwrapped, named, sole, admitted⟩ := wellFormed
    rw [block_eq_ok_iff.mpr ⟨call, closure, unwrapped, named, sole, rfl⟩]
    exact (statements_isOk_iff closure.body history_nil).mpr admitted

def levelRead : Expr :=
  .call
    { name := "property"
      receiver := some (.member ⟨.named ⟨3⟩, "level", .string, .unknown⟩)
      arguments := [.member ⟨.named ⟨2⟩, "level", .primitive .int, .unknown⟩] }

def levelWrapped : Expr :=
  .call
    { name := "transform"
      receiver := some (.member ⟨.named ⟨3⟩, "level", .string, .unknown⟩)
      arguments := [.closure { result := .string }] }

def returnedBody : Expr :=
  .returned
    (.call
      { name := "mapping"
        arguments := [.closure { body := [levelRead, .returned levelWrapped .unknown] }] })
    .unknown

/-- A block that is handed back is read, and so is a wrapper that is a statement of its own and
handed back itself. -/
example : (Reading.body returnedBody []).1 = .ok () := rfl

end Reading

end MappingPlan
