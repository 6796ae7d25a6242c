/-
Spellings of a wrapped directive. A wrapper may take the directive as its receiver or
follow it as a statement of its own, and a property may be passed through another
mapper by a wrapper or by a call of that mapper. Spellings of one directive are read
alike: what was collected differs in locations at most, and locations never decide how
a later statement is read.
-/

import MappingPlan.Proofs.Directive.StatementOrder

set_option autoImplicit false

namespace MappingPlan

def Directive.unlocated : Directive → Directive
  | via base delegate => via base { delegate with span := .unknown }
  | other => other

def Assignment.unlocated (assignment : Assignment) : Assignment :=
  ⟨assignment.target, assignment.directive.unlocated, .unknown⟩

structure Relay where
  target : String
  source : MemberRef
  mapper : TypeId
  kind : EntryPointKind

namespace Relay

/-- What every spelling of a relay is read to, up to locations. -/
def assignment (relay : Relay) : Assignment where
  target := relay.target
  directive := .via (.property relay.source) { mapper := relay.mapper, kind := relay.kind }

/-- The calls that spell a relay: a property of a mapper call, and a wrapper around a
property. The member in front counts by its name alone. A mapper reference that is
called counts by its mapper, and one that is passed along also says whether it is meant
for lists. -/
inductive Spelled (relay : Relay) : Call → Prop where
  | direct (member : MemberRef) (reference : MapperRef) (inner outer : Span) :
      member.name = relay.target → reference.mapper = relay.mapper →
      Spelled relay
        { name := Keyword.property.text
          receiver := some (.member member)
          arguments :=
            [.call
              { name := relay.kind.keyword.text
                receiver := some (.mapper reference)
                arguments := [.member relay.source]
                span := inner }]
          span := outer }
  | chained (member : MemberRef) (reference : MapperRef) (inner outer : Span) :
      member.name = relay.target → reference.delegate.mapper = relay.mapper →
      reference.delegate.kind = relay.kind →
      Spelled relay
        { name := Keyword.via.text
          receiver :=
            some (.call
              { name := Keyword.property.text
                receiver := some (.member member)
                arguments := [.member relay.source]
                span := inner })
          arguments := [.mapper reference]
          span := outer }

end Relay

theorem unlocated_comp :
    Assignment.unlocated ∘ Assignment.unlocated = Assignment.unlocated := by
  funext assignment
  obtain ⟨target, directive, span⟩ := assignment
  cases directive <;> rfl

namespace Reading

variable {wrapper : Wrapper} {base : Assignment}

theorem takeLast?_append_same (collected : List Assignment) (base : Assignment) :
    takeLast? base.target (collected ++ [base]) = some (base, collected) := by
  induction collected with
  | nil => simp only [List.nil_append, takeLast?, if_true]
  | cons head rest ih => simp only [List.cons_append, takeLast?, ih]

theorem statement_of_plain {call : Call} (read : plain call = .ok base)
    (collected : List Assignment) :
    statement (.call call) collected = (.ok (), collected ++ [base]) := by
  rw [statement_eq]
  simp only [statementEdit, Expr.unwrapped, wrapper?_of_plain read, read]
  rfl

theorem statements_singleton (last : Expr) (collected : List Assignment) :
    statements [last] collected = statement last collected := by
  simp only [statements]
  split
  next same => exact same.symm
  next same => exact same.symm

/-- Attaching looks at the argument and the location of a wrapper, not at what it stands
behind. -/
theorem attach_receiver (wrap : Call) (receiver : Option Expr) (base : Assignment) :
    attach wrapper { wrap with receiver } base = attach wrapper wrap base := rfl

theorem statementEdit_of_wrapper {wrap : Call} (wraps : wrap.wrapper? = some wrapper)
    (receiver : Option Expr) :
    statementEdit (.call { wrap with receiver }) = wrapperEdit wrapper { wrap with receiver } := by
  have still : CallOf.wrapper? { wrap with receiver } = some wrapper := wraps
  simp only [statementEdit, Expr.unwrapped, still]

/-- A wrapper reads the same whether the directive stands in front of it or is the
statement before it. -/
theorem statement_wrapping {call wrap : Call} {member : MemberRef}
    (read : plain call = .ok base) (wraps : wrap.wrapper? = some wrapper)
    (named : member.name = base.target) (collected : List Assignment) :
    statement (.call { wrap with receiver := some (.call call) }) collected =
      statements [.call call, .call { wrap with receiver := some (.member member) }] collected := by
  have taken : takeLast? member.name (collected ++ [base]) = some (base, collected) := by
    rw [named, takeLast?_append_same]
  have after :
      statements [.call call, .call { wrap with receiver := some (.member member) }] collected =
        statement (.call { wrap with receiver := some (.member member) })
          (collected ++ [base]) := by
    rw [← statements_singleton, statements, statement_of_plain read]
  rw [after, statement_eq, statement_eq, statementEdit_of_wrapper wraps,
    statementEdit_of_wrapper wraps]
  simp only [wrapperEdit, wrapper?_of_plain read, read, applyFound, Edit.apply, taken,
    attach_receiver]
  change applyFound ((attach wrapper wrap base).map .add) collected = _
  cases attach wrapper wrap base with
  | ok assignment => rfl
  | error failure => rfl

theorem invocation_relay (relay : Relay) (reference : MapperRef)
    (called : reference.mapper = relay.mapper) (span : Span) :
    invocation
        { name := relay.kind.keyword.text
          receiver := some (.mapper reference)
          arguments := [.member relay.source]
          span } =
      .ok (.via (.property relay.source) ⟨relay.mapper, relay.kind, span⟩) := by
  rw [← called]
  exact invocation_eq_ok_iff.mpr ⟨relay.kind, reference, relay.source, rfl, rfl, rfl, rfl⟩

/-- Every spelling of a relay adds one assignment, and the same one up to locations. -/
theorem statement_of_spelled {relay : Relay} {call : Call} (spelled : relay.Spelled call)
    (collected : List Assignment) :
    ∃ assignment, statement (.call call) collected = (.ok (), collected ++ [assignment]) ∧
      assignment.unlocated = relay.assignment := by
  cases spelled with
  | direct member reference inner outer named called =>
      have invoked := invocation_relay relay reference called inner
      refine ⟨⟨member.name, .via (.property relay.source) ⟨relay.mapper, relay.kind, inner⟩,
        outer⟩, ?_, ?_⟩
      · apply statement_of_plain
        change (invocation _ >>= fun directive =>
          pure (Assignment.mk member.name directive outer)) = _
        rw [invoked]
        rfl
      · rw [named]
        rfl
  | chained member reference inner outer named passed sameKind =>
      refine ⟨⟨member.name, .via (.property relay.source) reference.delegate, outer⟩, rfl, ?_⟩
      simp only [Assignment.unlocated, Directive.unlocated, named, passed, sameKind]
      rfl

/-- No spelling of a relay can be wrapped again. -/
theorem wrapperEdit_of_spelled {relay : Relay} {call : Call} (spelled : relay.Spelled call)
    (wrapper : Wrapper) (wrap : Call) :
    wrapperEdit wrapper { wrap with receiver := some (.call call) } =
      .error ⟨.nestedWrap wrapper .via, wrap.span⟩ := by
  cases spelled with
  | direct member reference inner outer named called =>
      have invoked := invocation_relay relay reference called inner
      change ((invocation _ >>= fun directive =>
        pure (Assignment.mk member.name directive outer)) >>=
          attach wrapper { wrap with receiver := some _ }).map Edit.add = _
      rw [invoked]
      rfl
  | chained member reference inner outer named passed sameKind => rfl

/-! ### Reading without locations -/

def unlocated (read : Except Failure Unit × List Assignment) :
    Except Failure Unit × List Assignment :=
  (read.1, read.2.map .unlocated)

theorem takeLast?_unlocated (target : String) (collected : List Assignment) :
    takeLast? target (collected.map .unlocated) =
      (takeLast? target collected).map fun taken =>
        (taken.1.unlocated, taken.2.map .unlocated) := by
  induction collected with
  | nil => rfl
  | cons head rest ih =>
      rw [List.map_cons, takeLast?, takeLast?, ih]
      cases takeLast? target rest with
      | some taken => rfl
      | none =>
          by_cases same : head.target = target
          · have sameUnlocated : head.unlocated.target = target := same
            simp only [Option.map_none, if_pos same, if_pos sameUnlocated, Option.map_some]
          · have differs : head.unlocated.target ≠ target := same
            simp only [Option.map_none, if_neg same, if_neg differs]

/-- Attaching looks at the kind of the directive in front, and keeps what it reads. -/
theorem attach_unlocated (wrapper : Wrapper) (call : Call) (base : Assignment) :
    attach wrapper call base.unlocated = attach wrapper call base := by
  obtain ⟨target, directive, span⟩ := base
  cases directive <;> rfl

theorem apply_unlocated (edit : Edit) (collected : List Assignment) :
    unlocated (edit.apply (collected.map .unlocated)) = unlocated (edit.apply collected) := by
  cases edit with
  | skip => simp only [Edit.apply, unlocated, List.map_map, unlocated_comp]
  | add assignment =>
      simp only [Edit.apply, unlocated, List.map_append, List.map_map, unlocated_comp]
  | wrap target wrapper call =>
      simp only [Edit.apply, takeLast?_unlocated]
      cases takeLast? target collected with
      | none => simp only [Option.map_none, unlocated, List.map_map, unlocated_comp]
      | some taken =>
          simp only [Option.map_some, attach_unlocated]
          cases attach wrapper call taken.1 with
          | ok assignment =>
              simp only [unlocated, List.map_append, List.map_map, unlocated_comp]
          | error failure => simp only [unlocated, List.map_map, unlocated_comp]

theorem statement_unlocated (member : Expr) (collected : List Assignment) :
    unlocated (statement member (collected.map .unlocated)) =
      unlocated (statement member collected) := by
  rw [statement_eq, statement_eq]
  cases statementEdit member with
  | ok edit => exact apply_unlocated edit collected
  | error failure => simp only [applyFound, unlocated, List.map_map, unlocated_comp]

inductive Respelled : Expr → Expr → Prop where
  | kept (member : Expr) : Respelled member member
  | relay {relay : Relay} {first second : Call} :
      relay.Spelled first → relay.Spelled second → Respelled (.call first) (.call second)
  | wrapped {relay : Relay} {first second : Call} {wrapper : Wrapper} (wrap : Call) :
      relay.Spelled first → relay.Spelled second → wrap.wrapper? = some wrapper →
      Respelled (.call { wrap with receiver := some (.call first) })
        (.call { wrap with receiver := some (.call second) })
  | returned {first second : Expr} (firstSpan secondSpan : Span) :
      Respelled first second →
      Respelled (.returned first firstSpan) (.returned second secondSpan)

theorem statement_respelled {first second : Expr} (respelled : Respelled first second)
    (collected : List Assignment) :
    unlocated (statement first collected) = unlocated (statement second collected) := by
  induction respelled with
  | kept member => rfl
  | relay firstSpelled secondSpelled =>
      obtain ⟨atFirst, readFirst, sameFirst⟩ := statement_of_spelled firstSpelled collected
      obtain ⟨atSecond, readSecond, sameSecond⟩ := statement_of_spelled secondSpelled collected
      simp only [readFirst, readSecond, unlocated, List.map_append, List.map_cons, List.map_nil,
        sameFirst, sameSecond]
  | wrapped wrap firstSpelled secondSpelled wraps =>
      rw [statement_eq, statement_eq, statementEdit_of_wrapper wraps,
        statementEdit_of_wrapper wraps, wrapperEdit_of_spelled firstSpelled,
        wrapperEdit_of_spelled secondSpelled]
  | returned _ _ _ ih => exact ih

theorem statements_respelled {members others : List Expr}
    (respelled : List.Forall₂ Respelled members others) {left right : List Assignment}
    (same : left.map Assignment.unlocated = right.map .unlocated) :
    unlocated (statements members left) = unlocated (statements others right) := by
  induction respelled generalizing left right with
  | nil => simp only [statements, unlocated, same]
  | @cons first second rest others atHead _ ih =>
      have sameHead : unlocated (statement first left) = unlocated (statement second right) := by
        rw [← statement_unlocated first, same, statement_unlocated first,
          statement_respelled atHead]
      rw [statements_cons, statements_cons]
      cases readFirst : statement first left with
      | mk ending between =>
          cases readSecond : statement second right with
          | mk otherEnding otherBetween =>
              rw [readFirst, readSecond] at sameHead
              obtain ⟨sameEnding, sameBetween⟩ := Prod.mk.inj sameHead
              dsimp only at sameEnding
              subst sameEnding
              cases ending with
              | ok => exact ih sameBetween
              | error failure => exact sameHead

end Reading

/-- A body with relays spelled differently is read to the same assignments up to locations,
or fails the same way. -/
theorem Mapper.assignments_respelled {mapper : Mapper} {body : Expr}
    (given : mapper.body = some body) {members others : List Expr}
    (written : Reading.block body = .ok members)
    (respelled : List.Forall₂ Reading.Respelled members others) :
    Lockstep Eq (fun left right => left.map Assignment.unlocated = right.map .unlocated)
      mapper.assignments
      (Mapper.assignments { mapper with body := some (Reading.withBlock others body) }) := by
  have nothing : ([] : List Assignment).map Assignment.unlocated = [].map .unlocated := rfl
  have same := Reading.statements_respelled respelled nothing
  obtain ⟨sameEnding, sameCollected⟩ := Prod.mk.inj same
  rw [assignments_of_block given written,
    assignments_of_block rfl (Reading.block_withBlock written others), ← sameEnding]
  cases (Reading.statements members []).1 with
  | ok => exact .ok sameCollected
  | error failure => exact .error rfl

end MappingPlan
