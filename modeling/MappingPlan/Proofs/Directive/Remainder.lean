/-
What reading leaves where it fails. A body that is no block leaves everything. A statement
that fails adds nothing, and takes something away in one case only: a wrapper around an
earlier assignment has taken it out before it is found that the two do not go together.
-/

import MappingPlan.Proofs.Directive.StatementOrder

set_option autoImplicit false

namespace MappingPlan

namespace Reading

variable {collected left : List Assignment} {statement : Expr} {failure : Failure}

def WrapsEarlier (name : String) (statement : Expr) : Prop :=
  ∃ (call : Call) (wrapper : Wrapper) (member : MemberRef), statement.unwrapped = .call call ∧
    call.name = wrapper.keyword.text ∧ call.receiver = some (.member member) ∧
    member.name = name

/-- What a statement that fails leaves of the assignments that it finds. -/
inductive LeftBy (statement : Expr) (collected : List Assignment) : List Assignment → Prop where
  | everything :
      (∀ name, WrapsEarlier name statement →
        ∀ assignment ∈ collected, assignment.target ≠ name) →
      LeftBy statement collected collected
  | withoutLast {name : String} {last : Assignment} {front back : List Assignment} :
      WrapsEarlier name statement → collected = front ++ last :: back → last.target = name →
      (∀ assignment ∈ back, assignment.target ≠ name) →
      LeftBy statement collected (front ++ back)

theorem LeftBy.sublist (leftBy : LeftBy statement collected left) : left.Sublist collected := by
  cases leftBy with
  | everything _ => exact List.Sublist.refl collected
  | withoutLast _ split _ _ =>
      rw [split]
      exact List.Sublist.append_left (List.sublist_cons_self _ _) _

theorem LeftBy.eq_of_not_wrapsEarlier (leftBy : LeftBy statement collected left)
    (wrapsNone : ∀ name, ¬WrapsEarlier name statement) : left = collected := by
  cases leftBy with
  | everything _ => rfl
  | withoutLast wraps _ _ _ => exact absurd wraps (wrapsNone _)

theorem wrapsEarlier_iff {name : String} :
    WrapsEarlier name statement ↔
      ∃ wrapper call, statementEdit statement = .ok (.wrap name wrapper call) := by
  constructor
  · intro wraps
    obtain ⟨call, wrapper, member, unwrapped, named, received, rfl⟩ := wraps
    exact ⟨wrapper, call, statementEdit_eq_ok_iff.mpr (.separate unwrapped named received)⟩
  · intro wraps
    obtain ⟨wrapper, call, found⟩ := wraps
    cases statementEdit_eq_ok_iff.mp found with
    | @separate _ _ member unwrapped named received =>
        exact ⟨call, wrapper, member, unwrapped, named, received, rfl⟩

theorem leftBy_of_statement
    (failed : Reading.statement statement collected = (.error failure, left)) :
    LeftBy statement collected left := by
  rw [statement_eq] at failed
  cases found : statementEdit statement with
  | error early =>
      rw [found] at failed
      obtain ⟨-, rfl⟩ := Prod.mk.inj failed
      refine .everything fun name wraps => ?_
      obtain ⟨_, _, impossible⟩ := wrapsEarlier_iff.mp wraps
      rw [found] at impossible
      cases impossible
  | ok edit =>
      rw [found] at failed
      cases edit with
      | skip => cases failed
      | add assignment => cases failed
      | wrap target wrapper call =>
          dsimp only [applyFound, Edit.apply] at failed
          split at failed
          next absent =>
            obtain ⟨-, rfl⟩ := Prod.mk.inj failed
            refine .everything fun name wraps => ?_
            obtain ⟨_, _, also⟩ := wrapsEarlier_iff.mp wraps
            obtain ⟨rfl, -, -⟩ := Edit.wrap.inj (Except.ok.inj (found.symm.trans also))
            exact (takeLast?_eq_none_iff target collected).mp absent
          next base others taken =>
            split at failed
            next => cases failed
            next =>
              obtain ⟨-, rfl⟩ := Prod.mk.inj failed
              obtain ⟨same, front, back, split, rfl, absent⟩ := takeLast?_eq_some taken
              exact .withoutLast (wrapsEarlier_iff.mpr ⟨wrapper, call, found⟩) split same absent

/-- Statements fail as the first that does, on what those before it have collected. -/
theorem statements_eq_error_iff {members : List Expr} :
    statements members collected = (.error failure, left) ↔
      ∃ before offending after reached, members = before ++ offending :: after ∧
        statements before collected = (.ok (), reached) ∧
        Reading.statement offending reached = (.error failure, left) := by
  induction members generalizing collected with
  | nil =>
      refine iff_of_false nofun ?_
      intro split
      obtain ⟨before, offending, after, _, empty, -⟩ := split
      exact absurd empty.symm (List.append_ne_nil_of_right_ne_nil _ (List.cons_ne_nil _ _))
  | cons head rest ih =>
      rw [statements_cons]
      constructor
      · intro failed
        cases read : Reading.statement head collected with
        | mk ending between =>
            rw [read] at failed
            cases ending with
            | error early =>
                obtain ⟨same, rfl⟩ := Prod.mk.inj failed
                obtain rfl := Except.error.inj same
                exact ⟨[], head, rest, collected, rfl, rfl, read⟩
            | ok =>
                obtain ⟨before, offending, after, reached, rfl, readBefore, fails⟩ :=
                  ih.mp failed
                exact ⟨head :: before, offending, after, reached, rfl,
                  statements_cons_eq_ok_iff.mpr ⟨between, read, readBefore⟩, fails⟩
      · intro split
        obtain ⟨before, offending, after, reached, split, readBefore, fails⟩ := split
        cases before with
        | nil =>
            obtain ⟨rfl, -⟩ := List.cons.inj split
            obtain ⟨-, rfl⟩ := Prod.mk.inj readBefore
            rw [fails]
        | cons first others =>
            obtain ⟨rfl, inRest⟩ := List.cons.inj split
            obtain ⟨between, readHead, readOthers⟩ := statements_cons_eq_ok_iff.mp readBefore
            rw [readHead]
            exact ih.mpr ⟨others, offending, after, reached, inRest, readOthers, fails⟩

/-- A body fails because it is no block, or as the first statement of its block that does. -/
theorem body_eq_error_iff {body : Expr} :
    Reading.body body collected = (.error failure, left) ↔
      (block body = .error failure ∧ left = collected) ∨
        ∃ before offending after reached, block body = .ok (before ++ offending :: after) ∧
          statements before collected = (.ok (), reached) ∧
          Reading.statement offending reached = (.error failure, left) := by
  unfold Reading.body
  cases block body with
  | error early =>
      simp only [Prod.mk.injEq, Except.error.injEq, reduceCtorEq, false_and, exists_false,
        or_false, @eq_comm _ collected]
  | ok members =>
      dsimp only
      rw [statements_eq_error_iff]
      simp only [Except.ok.injEq, reduceCtorEq, false_and, false_or]

/-- A body that fails is no block, and leaves everything collected before, or a first
statement of its block fails on what those before it have collected. That statement adds
nothing, and leaves everything unless it is a wrapper around an earlier assignment to the
member in front of it: then the last such assignment is gone, and the others keep their
order. -/
theorem left_of_failed_body {body : Expr}
    (failed : Reading.body body collected = (.error failure, left)) :
    (block body = .error failure ∧ left = collected) ∨
      ∃ before offending after reached, block body = .ok (before ++ offending :: after) ∧
        statements before collected = (.ok (), reached) ∧
        Reading.statement offending reached = (.error failure, left) ∧
        LeftBy offending reached left ∧ left.Sublist reached ∧
        ((∀ name, ¬WrapsEarlier name offending) → left = reached) := by
  rcases body_eq_error_iff.mp failed with
    noBlock | ⟨before, offending, after, reached, written, readBefore, fails⟩
  · exact Or.inl noBlock
  · have leftBy := leftBy_of_statement fails
    exact Or.inr ⟨before, offending, after, reached, written, readBefore, fails, leftBy,
      leftBy.sublist, leftBy.eq_of_not_wrapsEarlier⟩

def depthRead : Expr :=
  .call
    { name := "property"
      receiver := some (.member ⟨.named ⟨3⟩, "depth", .primitive .long, .unknown⟩)
      arguments := [.member ⟨.named ⟨2⟩, "depth", .primitive .int, .unknown⟩] }

def scaleFixed : Expr :=
  .call
    { name := "constant"
      receiver := some (.member ⟨.named ⟨3⟩, "scale", .string, .unknown⟩)
      arguments := [.literal { value := .string "cm" }] }

def depthHalfWrapped : Expr :=
  .call
    { name := "transform"
      receiver := some (.member ⟨.named ⟨3⟩, "depth", .primitive .long, .unknown⟩) }

def halfWrappedBody : Expr :=
  .call
    { name := "mapping"
      arguments := [.closure { body := [depthRead, scaleFixed, depthHalfWrapped] }] }

/-- The depth was taken out to be wrapped, and the scale is what is left. -/
theorem halfWrappedBody_left :
    ∃ failure left before offending after reached,
      Reading.body halfWrappedBody [] = (.error failure, left) ∧
      left.map (·.target) = ["scale"] ∧
      block halfWrappedBody = .ok (before ++ offending :: after) ∧
      statements before [] = (.ok (), reached) ∧ LeftBy offending reached left := by
  have failed : Reading.body halfWrappedBody [] = (.error _, _) := rfl
  rcases left_of_failed_body failed with
    ⟨impossible, -⟩ | ⟨before, offending, after, reached, written, readBefore, -, leftBy, -⟩
  · cases impossible
  · exact ⟨_, _, before, offending, after, reached, failed, rfl, written, readBefore, leftBy⟩

end Reading

end MappingPlan
