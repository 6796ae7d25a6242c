/-
The order of statements. An edit leaves the assignments to all other targets alone,
and what it does to those of its own target depends on them alone. So two neighbouring
statements that are not about the same target may change places: the list collected
changes, but its part for each target does not.
-/

import MappingPlan.Proofs.Directive.Edit
import MappingPlan.Proofs.Parts

set_option autoImplicit false

namespace MappingPlan

namespace Reading

variable {collected others result : List Assignment}

/-- Taking the last assignment to a target out leaves the assignments to others alone. -/
theorem filter_of_takeLast? {target : String} {found : Assignment}
    (taken : takeLast? target collected = some (found, others)) :
    collected.filter (·.target = target) = others.filter (·.target = target) ++ [found] ∧
      ∀ name, name ≠ target →
        others.filter (·.target = name) = collected.filter (·.target = name) := by
  obtain ⟨same, before, after, rfl, rfl, absent⟩ := takeLast?_eq_some taken
  constructor
  · have noneLater : after.filter (·.target = target) = [] := by
      simp only [List.filter_eq_nil_iff, decide_eq_true_eq]
      exact absent
    simp only [List.filter_append, List.filter_cons, same, noneLater, decide_true, if_true,
      List.append_nil]
  · intro name different
    have elsewhere : found.target ≠ name := fun atName => different (atName.symm.trans same)
    simp only [List.filter_append, List.filter_cons, elsewhere, decide_false, Bool.false_eq_true,
      if_false]

theorem filter_append_of_ne {assignment : Assignment} {name : String}
    (elsewhere : assignment.target ≠ name) :
    (collected ++ [assignment]).filter (·.target = name) =
      collected.filter (·.target = name) := by
  simp only [List.filter_append, List.filter_cons, elsewhere, decide_false, Bool.false_eq_true,
    if_false, List.filter_nil, List.append_nil]

namespace Edit

variable {edit : Edit}

theorem apply_wrap_eq_ok_iff {target : String} {wrapper : Wrapper} {call : Call} :
    (wrap target wrapper call).apply collected = (.ok (), result) ↔
      ∃ base others assignment, takeLast? target collected = some (base, others) ∧
        attach wrapper call base = .ok assignment ∧ result = others ++ [assignment] := by
  dsimp only [apply]
  constructor
  · intro applied
    split at applied
    next => cases applied
    next base others taken =>
      split at applied
      next assignment attached =>
        obtain ⟨-, rfl⟩ := Prod.mk.inj applied
        exact ⟨base, others, assignment, taken, attached, rfl⟩
      next => cases applied
  · intro stages
    obtain ⟨base, others, assignment, taken, attached, rfl⟩ := stages
    rw [taken]
    dsimp only
    rw [attached]

theorem filter_of_ne (applied : edit.apply collected = (.ok (), result)) {name : String}
    (different : edit.target? ≠ some name) :
    result.filter (·.target = name) = collected.filter (·.target = name) := by
  cases edit with
  | skip =>
      obtain ⟨-, rfl⟩ := Prod.mk.inj applied
      rfl
  | add assignment =>
      obtain ⟨-, rfl⟩ := Prod.mk.inj applied
      exact filter_append_of_ne fun same => different (congrArg some same)
  | wrap target wrapper call =>
      obtain ⟨base, others, assignment, taken, attached, rfl⟩ := apply_wrap_eq_ok_iff.mp applied
      have elsewhere : name ≠ target := fun same => different (congrArg some same.symm)
      have sameTarget : assignment.target = target :=
        (attach_target attached).trans (takeLast?_eq_some taken).1
      rw [filter_append_of_ne fun same => elsewhere (same.symm.trans sameTarget)]
      exact (filter_of_takeLast? taken).2 name elsewhere

/-- From any two lists with the same assignments to a target the same one is taken, and the
same ones are left. -/
theorem takeLast?_congr {target : String} {base : Assignment}
    (taken : takeLast? target collected = some (base, others)) {alike : List Assignment}
    (same : alike.filter (·.target = target) = collected.filter (·.target = target)) :
    ∃ alsoOthers, takeLast? target alike = some (base, alsoOthers) ∧
      alsoOthers.filter (·.target = target) = others.filter (·.target = target) := by
  rw [(filter_of_takeLast? taken).1] at same
  cases alsoTaken : takeLast? target alike with
  | none =>
      have empty : alike.filter (·.target = target) = [] := by
        simp only [List.filter_eq_nil_iff, decide_eq_true_eq]
        exact (takeLast?_eq_none_iff target alike).mp alsoTaken
      rw [empty] at same
      exact absurd same.symm (List.append_ne_nil_of_right_ne_nil _ (List.cons_ne_nil base []))
  | some found =>
      obtain ⟨alsoBase, alsoOthers⟩ := found
      rw [(filter_of_takeLast? alsoTaken).1] at same
      obtain ⟨sameOthers, sameBase⟩ := List.append_inj' same rfl
      obtain rfl := List.singleton_inj.mp sameBase
      exact ⟨alsoOthers, rfl, sameOthers⟩

/-- An edit does the same to any two lists with the same assignments to its target. -/
theorem apply_congr (applied : edit.apply collected = (.ok (), result))
    {alike : List Assignment}
    (same : ∀ name, edit.target? = some name →
      alike.filter (·.target = name) = collected.filter (·.target = name)) :
    ∃ also, edit.apply alike = (.ok (), also) ∧
      ∀ name, edit.target? = some name →
        also.filter (·.target = name) = result.filter (·.target = name) := by
  cases edit with
  | skip => exact ⟨alike, rfl, nofun⟩
  | add assignment =>
      obtain ⟨-, rfl⟩ := Prod.mk.inj applied
      refine ⟨alike ++ [assignment], rfl, ?_⟩
      intro name own
      rw [List.filter_append, List.filter_append, same name own]
  | wrap target wrapper call =>
      obtain ⟨base, others, assignment, taken, attached, rfl⟩ := apply_wrap_eq_ok_iff.mp applied
      obtain ⟨alsoOthers, alsoTaken, sameOthers⟩ := takeLast?_congr taken (same target rfl)
      refine ⟨alsoOthers ++ [assignment],
        apply_wrap_eq_ok_iff.mpr ⟨base, alsoOthers, assignment, alsoTaken, attached, rfl⟩, ?_⟩
      intro name own
      obtain rfl := Option.some.inj own
      rw [List.filter_append, List.filter_append, sameOthers]

end Edit

variable {first : Expr}

theorem filter_of_statement (read : Reading.statement first collected = (.ok (), result))
    {name : String} (different : addressee? first ≠ some name) :
    result.filter (·.target = name) = collected.filter (·.target = name) := by
  obtain ⟨edit, found, applied⟩ := (statement_eq_ok_iff first collected result).mp read
  rw [addressee?_eq found] at different
  exact Edit.filter_of_ne applied different

theorem statement_congr (read : Reading.statement first collected = (.ok (), result))
    {alike : List Assignment}
    (same : ∀ name, addressee? first = some name →
      alike.filter (·.target = name) = collected.filter (·.target = name)) :
    ∃ also, Reading.statement first alike = (.ok (), also) ∧
      ∀ name, addressee? first = some name →
        also.filter (·.target = name) = result.filter (·.target = name) := by
  obtain ⟨edit, found, applied⟩ := (statement_eq_ok_iff first collected result).mp read
  rw [addressee?_eq found] at same ⊢
  obtain ⟨also, alsoApplied, sameOwn⟩ := Edit.apply_congr applied same
  exact ⟨also, (statement_eq_ok_iff first alike also).mpr ⟨edit, found, alsoApplied⟩, sameOwn⟩

theorem statement_sameParts (read : Reading.statement first collected = (.ok (), result))
    {alike : List Assignment} (same : SameParts Assignment.target alike collected) :
    ∃ also, Reading.statement first alike = (.ok (), also) ∧
      SameParts Assignment.target also result := by
  obtain ⟨also, alsoRead, sameOwn⟩ := statement_congr read fun name _ => same name
  refine ⟨also, alsoRead, ?_⟩
  intro name
  by_cases own : addressee? first = some name
  · exact sameOwn name own
  · rw [filter_of_statement alsoRead own, filter_of_statement read own]
    exact same name

/-- Two statements that are not about the same target may change places. -/
theorem statement_swap {second : Expr} {between : List Assignment}
    (readFirst : Reading.statement first collected = (.ok (), between))
    (readSecond : Reading.statement second between = (.ok (), result))
    (apart : ∀ name, addressee? first = some name → addressee? second ≠ some name) :
    ∃ alsoBetween also, Reading.statement second collected = (.ok (), alsoBetween) ∧
      Reading.statement first alsoBetween = (.ok (), also) ∧
      SameParts Assignment.target also result := by
  have apart' : ∀ name, addressee? second = some name → addressee? first ≠ some name :=
    fun name atSecond atFirst => apart name atFirst atSecond
  have unseen : ∀ name, addressee? second = some name →
      collected.filter (·.target = name) = between.filter (·.target = name) :=
    fun name own => (filter_of_statement readFirst (apart' name own)).symm
  obtain ⟨alsoBetween, secondRead, sameSecond⟩ := statement_congr readSecond unseen
  have untouched : ∀ name, addressee? first = some name →
      alsoBetween.filter (·.target = name) = collected.filter (·.target = name) :=
    fun name own => filter_of_statement secondRead (apart name own)
  obtain ⟨also, firstRead, sameFirst⟩ := statement_congr readFirst untouched
  refine ⟨alsoBetween, also, secondRead, firstRead, ?_⟩
  intro name
  by_cases ownFirst : addressee? first = some name
  · rw [sameFirst name ownFirst, filter_of_statement readSecond (apart name ownFirst)]
  · rw [filter_of_statement firstRead ownFirst]
    by_cases ownSecond : addressee? second = some name
    · exact sameSecond name ownSecond
    · rw [filter_of_statement secondRead ownSecond, filter_of_statement readSecond ownSecond,
        filter_of_statement readFirst ownFirst]

/-! ### Runs of statements -/

theorem statements_cons (first : Expr) (rest : List Expr) (collected : List Assignment) :
    statements (first :: rest) collected =
      match Reading.statement first collected with
      | (.ok (), between) => statements rest between
      | (.error failure, between) => (.error failure, between) := rfl

theorem statements_cons_eq_ok_iff {rest : List Expr} :
    statements (first :: rest) collected = (.ok (), result) ↔
      ∃ between, Reading.statement first collected = (.ok (), between) ∧
        statements rest between = (.ok (), result) := by
  rw [statements_cons]
  cases Reading.statement first collected with
  | mk ending between =>
      constructor
      · intro read
        cases ending with
        | ok => exact ⟨between, rfl, read⟩
        | error failure => cases read
      · intro stages
        obtain ⟨_, same, readRest⟩ := stages
        obtain ⟨rfl, rfl⟩ := Prod.mk.inj same
        exact readRest

theorem statements_sameParts {rest : List Expr}
    (read : statements rest collected = (.ok (), result))
    {alike : List Assignment} (same : SameParts Assignment.target alike collected) :
    ∃ also, statements rest alike = (.ok (), also) ∧ SameParts Assignment.target also result := by
  induction rest generalizing collected alike with
  | nil =>
      obtain ⟨-, rfl⟩ := Prod.mk.inj read
      exact ⟨alike, rfl, same⟩
  | cons head tail ih =>
      obtain ⟨between, readHead, readTail⟩ := statements_cons_eq_ok_iff.mp read
      obtain ⟨alsoBetween, alsoHead, sameBetween⟩ := statement_sameParts readHead same
      obtain ⟨also, alsoTail, sameResult⟩ := ih readTail sameBetween
      exact ⟨also, statements_cons_eq_ok_iff.mpr ⟨alsoBetween, alsoHead, alsoTail⟩, sameResult⟩

/-- Neighbours anywhere in a run may change places if they are not about the same target. -/
theorem statements_swap {before after : List Expr} {first second : Expr}
    (apart : ∀ name, addressee? first = some name → addressee? second ≠ some name)
    (read : statements (before ++ first :: second :: after) collected = (.ok (), result)) :
    ∃ also, statements (before ++ second :: first :: after) collected = (.ok (), also) ∧
      SameParts Assignment.target also result := by
  induction before generalizing collected with
  | nil =>
      obtain ⟨_, readFirst, read⟩ := statements_cons_eq_ok_iff.mp read
      obtain ⟨_, readSecond, readAfter⟩ := statements_cons_eq_ok_iff.mp read
      obtain ⟨alsoBetween, swapped, secondRead, firstRead, sameParts⟩ :=
        statement_swap readFirst readSecond apart
      obtain ⟨also, afterRead, sameResult⟩ := statements_sameParts readAfter sameParts
      refine ⟨also, ?_, sameResult⟩
      exact statements_cons_eq_ok_iff.mpr ⟨alsoBetween, secondRead,
        statements_cons_eq_ok_iff.mpr ⟨swapped, firstRead, afterRead⟩⟩
  | cons head tail ih =>
      obtain ⟨between, readHead, readTail⟩ := statements_cons_eq_ok_iff.mp read
      obtain ⟨also, readSwapped, sameResult⟩ := ih readTail
      exact ⟨also, statements_cons_eq_ok_iff.mpr ⟨between, readHead, readSwapped⟩, sameResult⟩

def withBlock (members : List Expr) : Expr → Expr
  | .returned value span => .returned (withBlock members value) span
  | .call node =>
      .call
        { node with
          arguments := node.arguments.map fun argument =>
            match argument with
            | .closure block => .closure { block with body := members }
            | other => other }
  | other => other

theorem unwrapped_withBlock (members : List Expr) :
    ∀ body : Expr, (withBlock members body).unwrapped = withBlock members body.unwrapped
  | .returned value _ => unwrapped_withBlock members value
  | .call _ => rfl
  | .member _ => rfl
  | .entry _ => rfl
  | .literal _ => rfl
  | .closure _ => rfl
  | .mapper _ => rfl

theorem block_withBlock {body : Expr} {written : List Expr} (found : block body = .ok written)
    (members : List Expr) : block (withBlock members body) = .ok members := by
  obtain ⟨call, closure, unwrapped, named, sole, -⟩ := block_eq_ok_iff.mp found
  have other : (withBlock members body).unwrapped =
      .call { call with arguments := [.closure { closure with body := members }] } := by
    rw [unwrapped_withBlock, unwrapped]
    dsimp only [withBlock]
    rw [sole]
    rfl
  exact block_eq_ok_iff.mpr ⟨_, _, other, named, rfl, rfl⟩

end Reading

namespace Mapper

variable {mapper : Mapper} {body : Expr} {members : List Expr} {collected : List Assignment}

theorem assignments_of_block (given : mapper.body = some body)
    (written : Reading.block body = .ok members) :
    mapper.assignments =
      (Reading.statements members []).1.map fun _ => (Reading.statements members []).2 := by
  unfold assignments Reading.body
  rw [given]
  dsimp only
  rw [written]
  dsimp only
  cases Reading.statements members [] with
  | mk ending collected =>
      cases ending with
      | ok => rfl
      | error failure => rfl

theorem assignments_eq_ok_iff (given : mapper.body = some body)
    (written : Reading.block body = .ok members) :
    mapper.assignments = .ok collected ↔
      Reading.statements members [] = (.ok (), collected) := by
  rw [assignments_of_block given written]
  cases Reading.statements members [] with
  | mk ending collected =>
      cases ending with
      | ok => simp only [Except.map, Except.ok.injEq, Prod.mk.injEq, true_and]
      | error failure => simp only [Except.map, reduceCtorEq, Prod.mk.injEq, false_and]

/-- Swapping neighbours in a body that are not about the same target gives a body that is
read as well, to a list with the same parts. -/
theorem assignments_swap (given : mapper.body = some body)
    {before after : List Expr} {first second : Expr}
    (written : Reading.block body = .ok (before ++ first :: second :: after))
    (apart : ∀ name, Reading.addressee? first = some name →
      Reading.addressee? second ≠ some name)
    (read : mapper.assignments = .ok collected) :
    ∃ also,
      Mapper.assignments
        { mapper with
          body := some (Reading.withBlock (before ++ second :: first :: after) body) } =
        .ok also ∧ SameParts Assignment.target also collected := by
  have swappedBlock := Reading.block_withBlock written (before ++ second :: first :: after)
  have readBlock := (assignments_eq_ok_iff given written).mp read
  obtain ⟨also, readSwapped, sameParts⟩ := Reading.statements_swap apart readBlock
  exact ⟨also, (assignments_eq_ok_iff rfl swappedBlock).mpr readSwapped, sameParts⟩

end Mapper

end MappingPlan
