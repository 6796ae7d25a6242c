/-
The shapes of calls. Every kind of directive is a call by its keyword, with a receiver of one
kind and exactly one argument of another, and a wrapper takes one argument of its own kind.
A call is read without failure exactly if it has such a shape.
-/

import MappingPlan.Directive
import MappingPlan.Proofs.Lockstep

set_option autoImplicit false

namespace MappingPlan

def Wrapper.operand : Wrapper → ExprKind
  | transform => .closure
  | via => .mapper

namespace CallOf

structure Shaped (keyword : Keyword) (receiver argument : ExprKind) (call : Call) : Prop where
  named : call.name = keyword.text
  receiver : call.receiver.map Expr.kind = some receiver
  argument : call.arguments.map Expr.kind = [argument]

/-- A call that reads a source property straight into a target member. -/
abbrev ReadsProperty : Call → Prop := Shaped .property .member .member

inductive Assigns (call : Call) : Prop where
  | property : call.ReadsProperty → Assigns call
  | invocation {inner : Call} {kind : EntryPointKind} :
      call.Shaped .property .member .call → call.arguments = [.call inner] →
      inner.Shaped kind.keyword .mapper .member → Assigns call
  | constant : call.Shaped .constant .member .literal → Assigns call
  | expression : call.Shaped .expression .member .closure → Assigns call
  | entry : call.Shaped .fromEnumEntry .entry .entry → Assigns call

structure Wraps (wrapper : Wrapper) (call : Call) : Prop where
  named : call.name = wrapper.keyword.text
  argument : call.arguments.map Expr.kind = [wrapper.operand]

variable {call : Call}

theorem soleArgument_eq_ok_iff {keyword : Keyword} {argument : Expr} :
    call.soleArgument keyword = .ok argument ↔ call.arguments = [argument] := by
  unfold soleArgument
  split
  next sole given => rw [given, Except.ok.injEq, List.singleton_inj]
  next arguments others =>
    constructor
    · intro impossible
      cases impossible
    · intro sole
      exact absurd sole (others argument)

theorem exists_soleArgument_iff {keyword : Keyword} {kind : ExprKind} :
    (∃ argument, call.soleArgument keyword = .ok argument ∧ argument.kind = kind) ↔
      call.arguments.map Expr.kind = [kind] := by
  simp only [soleArgument_eq_ok_iff, List.map_eq_singleton_iff]

theorem exists_targetMember_iff {keyword : Keyword} :
    (∃ target, call.targetMember keyword = .ok target) ↔
      call.receiver.map Expr.kind = some .member := by
  unfold targetMember
  cases call.receiver with
  | none => simp
  | some receiver => cases receiver <;> simp [Expr.kind]

theorem exists_targetEntry_iff :
    (∃ target, call.targetEntry = .ok target) ↔ call.receiver.map Expr.kind = some .entry := by
  unfold targetEntry
  cases call.receiver with
  | none => simp
  | some receiver => cases receiver <;> simp [Expr.kind]

theorem wrapper?_eq_some_iff {wrapper : Wrapper} :
    call.wrapper? = some wrapper ↔ call.name = wrapper.keyword.text := by
  unfold wrapper?
  rw [Option.bind_eq_some_iff, ← Keyword.ofText?_eq_some_iff]
  constructor
  · intro found
    obtain ⟨keyword, spelled, wraps⟩ := found
    cases keyword <;> cases wraps <;> exact spelled
  · intro spelled
    exact ⟨_, spelled, by cases wrapper <;> rfl⟩

end CallOf

namespace Reading

variable {call : Call}

/-- A step that takes one kind of argument succeeds exactly on a call with one such
argument and no other. -/
theorem exists_argument_iff {Result : Type} {keyword : Keyword} {kind : ExprKind}
    {next : Expr → Except Failure Result}
    (takes : ∀ argument, (∃ result, next argument = .ok result) ↔ argument.kind = kind) :
    (∃ result, (call.soleArgument keyword >>= next) = .ok result) ↔
      call.arguments.map Expr.kind = [kind] := by
  rw [exists_bind_eq_ok_iff]
  simp only [takes]
  exact CallOf.exists_soleArgument_iff

/-- An assignment is read from a target and an argument, each of its own kind. -/
theorem exists_assignment_iff {target : Except Failure String} {hasTarget : Prop}
    (targeted : (∃ name, target = .ok name) ↔ hasTarget) {keyword : Keyword} {kind : ExprKind}
    {next : String → Expr → Except Failure Assignment}
    (takes : ∀ name argument, (∃ result, next name argument = .ok result) ↔ argument.kind = kind) :
    (∃ assignment,
        (target >>= fun name => call.soleArgument keyword >>= next name) = .ok assignment) ↔
      hasTarget ∧ call.arguments.map Expr.kind = [kind] := by
  rw [exists_bind_eq_ok_iff, ← targeted, ← exists_and_right]
  exact exists_congr fun name => and_congr_right fun _ => exists_argument_iff (takes name)

theorem exists_constant_iff :
    (∃ assignment, constant call = .ok assignment) ↔
      call.receiver.map Expr.kind = some .member ∧ call.arguments.map Expr.kind = [.literal] := by
  apply exists_assignment_iff CallOf.exists_targetMember_iff
  intro name argument
  cases argument with
  | literal value => exact iff_of_true ⟨_, rfl⟩ rfl
  | _ => exact iff_of_false (fun ⟨_, impossible⟩ => nomatch impossible) nofun

theorem exists_expression_iff :
    (∃ assignment, expression call = .ok assignment) ↔
      call.receiver.map Expr.kind = some .member ∧ call.arguments.map Expr.kind = [.closure] := by
  apply exists_assignment_iff CallOf.exists_targetMember_iff
  intro name argument
  cases argument with
  | closure body => exact iff_of_true ⟨_, rfl⟩ rfl
  | _ => exact iff_of_false (fun ⟨_, impossible⟩ => nomatch impossible) nofun

theorem exists_entry_iff :
    (∃ assignment, entry call = .ok assignment) ↔
      call.receiver.map Expr.kind = some .entry ∧ call.arguments.map Expr.kind = [.entry] := by
  apply exists_assignment_iff CallOf.exists_targetEntry_iff
  intro name argument
  cases argument with
  | entry source => exact iff_of_true ⟨_, rfl⟩ rfl
  | _ => exact iff_of_false (fun ⟨_, impossible⟩ => nomatch impossible) nofun

theorem constant_eq_ok {assignment : Assignment} (read : constant call = .ok assignment) :
    ∃ target value, call.targetMember .constant = .ok target ∧
      call.arguments = [.literal value] ∧ assignment = ⟨target, .constant value, call.span⟩ := by
  obtain ⟨target, found, read⟩ := bind_eq_ok_iff.mp read
  obtain ⟨argument, sole, read⟩ := bind_eq_ok_iff.mp read
  rw [CallOf.soleArgument_eq_ok_iff] at sole
  split at read
  next value => exact ⟨target, value, found, sole, (Except.ok.inj read).symm⟩
  next => cases read

theorem expression_eq_ok {assignment : Assignment} (read : expression call = .ok assignment) :
    ∃ target body, call.targetMember .expression = .ok target ∧
      call.arguments = [.closure body] ∧ assignment = ⟨target, .expression body, call.span⟩ := by
  obtain ⟨target, found, read⟩ := bind_eq_ok_iff.mp read
  obtain ⟨argument, sole, read⟩ := bind_eq_ok_iff.mp read
  rw [CallOf.soleArgument_eq_ok_iff] at sole
  split at read
  next body => exact ⟨target, body, found, sole, (Except.ok.inj read).symm⟩
  next => cases read

theorem entry_eq_ok {assignment : Assignment} (read : entry call = .ok assignment) :
    ∃ target source, call.targetEntry = .ok target ∧
      call.arguments = [.entry source] ∧ assignment = ⟨target, .entry source, call.span⟩ := by
  obtain ⟨target, found, read⟩ := bind_eq_ok_iff.mp read
  obtain ⟨argument, sole, read⟩ := bind_eq_ok_iff.mp read
  rw [CallOf.soleArgument_eq_ok_iff] at sole
  split at read
  next source => exact ⟨target, source, found, sole, (Except.ok.inj read).symm⟩
  next => cases read

def delegation (call : Call) (kind : EntryPointKind) (mapper : TypeId) :
    Except Failure Directive := do
  match ← call.soleArgument kind.keyword with
  | .member source => pure (.via (.property source) ⟨mapper, kind, call.span⟩)
  | other => throw (wrongArgument kind.keyword .sourceProperty other)

theorem invocation_of_named {kind : EntryPointKind} (named : call.name = kind.keyword.text) :
    invocation call =
      match call.receiver with
      | some (.mapper reference) => delegation call kind reference.mapper
      | _ => .error ⟨.malformed kind.keyword .mapperReceiver, call.span⟩ := by
  unfold invocation
  rw [Keyword.ofText?_eq_some_iff.mpr named]
  cases call.receiver with
  | none => cases kind <;> rfl
  | some receiver => cases receiver <;> cases kind <;> rfl

theorem invocation_of_unnamed
    (unnamed : ¬∃ kind : EntryPointKind, call.name = kind.keyword.text) :
    invocation call = .error call.unexpected := by
  unfold invocation
  dsimp only
  split
  next named => exact absurd ⟨.map, Keyword.ofText?_eq_some_iff.mp named⟩ unnamed
  next named => exact absurd ⟨.mapList, Keyword.ofText?_eq_some_iff.mp named⟩ unnamed
  next => rfl

theorem delegation_eq_ok_iff {kind : EntryPointKind} {mapper : TypeId} {directive : Directive} :
    delegation call kind mapper = .ok directive ↔
      ∃ source, call.arguments = [.member source] ∧
        directive = .via (.property source) ⟨mapper, kind, call.span⟩ := by
  unfold delegation
  simp only [bind_eq_ok_iff, CallOf.soleArgument_eq_ok_iff]
  constructor
  · intro read
    obtain ⟨argument, sole, read⟩ := read
    split at read
    next source => exact ⟨source, sole, (Except.ok.inj read).symm⟩
    next => cases read
  · intro stages
    obtain ⟨source, sole, rfl⟩ := stages
    exact ⟨_, sole, rfl⟩

theorem invocation_eq_ok_iff {directive : Directive} :
    invocation call = .ok directive ↔
      ∃ (kind : EntryPointKind) (reference : MapperRef) (source : MemberRef),
        call.name = kind.keyword.text ∧ call.receiver = some (.mapper reference) ∧
          call.arguments = [.member source] ∧
          directive = .via (.property source) ⟨reference.mapper, kind, call.span⟩ := by
  constructor
  · intro read
    by_cases named : ∃ kind : EntryPointKind, call.name = kind.keyword.text
    · obtain ⟨kind, named⟩ := named
      rw [invocation_of_named named] at read
      split at read
      next reference received =>
        obtain ⟨source, sole, same⟩ := delegation_eq_ok_iff.mp read
        exact ⟨kind, reference, source, named, received, sole, same⟩
      next => cases read
    · rw [invocation_of_unnamed named] at read
      cases read
  · intro stages
    obtain ⟨kind, reference, source, named, received, sole, same⟩ := stages
    rw [invocation_of_named named, received]
    exact delegation_eq_ok_iff.mpr ⟨source, sole, same⟩

theorem exists_invocation_iff :
    (∃ directive, invocation call = .ok directive) ↔
      ∃ kind : EntryPointKind, call.Shaped kind.keyword .mapper .member := by
  simp only [invocation_eq_ok_iff]
  constructor
  · intro read
    obtain ⟨_, kind, reference, source, named, received, sole, -⟩ := read
    exact ⟨kind, named, by rw [received]; rfl, by rw [sole]; rfl⟩
  · intro shaped
    obtain ⟨kind, shaped⟩ := shaped
    obtain ⟨receiver, received, isMapper⟩ := Option.map_eq_some_iff.mp shaped.receiver
    obtain ⟨argument, sole, isMember⟩ := List.map_eq_singleton_iff.mp shaped.argument
    cases receiver with
    | mapper reference =>
        cases argument with
        | member source => exact ⟨_, kind, reference, source, shaped.named, received, sole, rfl⟩
        | _ => cases isMember
    | _ => cases isMapper

theorem property_eq_ok_iff {assignment : Assignment} :
    property call = .ok assignment ↔
      ∃ name argument directive, call.targetMember .property = .ok name ∧
        call.arguments = [argument] ∧ assignment = ⟨name, directive, call.span⟩ ∧
        ((∃ source, argument = .member source ∧ directive = .property source) ∨
          ∃ inner, argument = .call inner ∧ invocation inner = .ok directive) := by
  constructor
  · intro read
    obtain ⟨name, found, read⟩ := bind_eq_ok_iff.mp read
    obtain ⟨argument, sole, read⟩ := bind_eq_ok_iff.mp read
    rw [CallOf.soleArgument_eq_ok_iff] at sole
    dsimp only at read
    split at read
    next source =>
      exact ⟨name, _, _, found, sole, (Except.ok.inj read).symm, Or.inl ⟨source, rfl, rfl⟩⟩
    next inner =>
      obtain ⟨directive, invoked, same⟩ := bind_eq_ok_iff.mp read
      exact ⟨name, _, directive, found, sole, (Except.ok.inj same).symm,
        Or.inr ⟨inner, rfl, invoked⟩⟩
    next => cases read
  · intro stages
    obtain ⟨name, argument, directive, found, sole, rfl, operand⟩ := stages
    refine bind_eq_ok_iff.mpr ⟨name, found, ?_⟩
    refine bind_eq_ok_iff.mpr ⟨argument, CallOf.soleArgument_eq_ok_iff.mpr sole, ?_⟩
    rcases operand with ⟨source, rfl, rfl⟩ | ⟨inner, rfl, invoked⟩
    · rfl
    · exact bind_eq_ok_iff.mpr ⟨directive, invoked, rfl⟩

theorem exists_property_iff :
    (∃ assignment, property call = .ok assignment) ↔
      call.receiver.map Expr.kind = some .member ∧
        (call.arguments.map Expr.kind = [.member] ∨
          ∃ (inner : Call) (kind : EntryPointKind), call.arguments = [.call inner] ∧
            inner.Shaped kind.keyword .mapper .member) := by
  rw [← @CallOf.exists_targetMember_iff call .property]
  constructor
  · intro read
    obtain ⟨assignment, read⟩ := read
    obtain ⟨name, argument, directive, found, sole, -, operand⟩ := property_eq_ok_iff.mp read
    refine ⟨⟨name, found⟩, ?_⟩
    rcases operand with ⟨source, rfl, -⟩ | ⟨inner, rfl, invoked⟩
    · exact Or.inl (by rw [sole]; rfl)
    · obtain ⟨kind, shaped⟩ := exists_invocation_iff.mp ⟨directive, invoked⟩
      exact Or.inr ⟨inner, kind, sole, shaped⟩
  · intro both
    obtain ⟨⟨name, found⟩, isMember | ⟨inner, kind, sole, shaped⟩⟩ := both
    · obtain ⟨argument, sole, isMember⟩ := List.map_eq_singleton_iff.mp isMember
      cases argument with
      | member source =>
          exact ⟨_, property_eq_ok_iff.mpr
            ⟨name, _, _, found, sole, rfl, Or.inl ⟨source, rfl, rfl⟩⟩⟩
      | _ => cases isMember
    · obtain ⟨directive, invoked⟩ := exists_invocation_iff.mpr ⟨kind, shaped⟩
      exact ⟨_, property_eq_ok_iff.mpr
        ⟨name, _, directive, found, sole, rfl, Or.inr ⟨inner, rfl, invoked⟩⟩⟩

/-! ### Calls that make an assignment -/

theorem plain_of_named {keyword : Keyword} (named : call.name = keyword.text) :
    plain call =
      match keyword with
      | .property => property call
      | .constant => constant call
      | .expression => expression call
      | .fromEnumEntry => entry call
      | _ => .error call.unexpected := by
  unfold plain
  rw [Keyword.ofText?_eq_some_iff.mpr named]
  cases keyword <;> rfl

theorem wrapper?_of_plain {assignment : Assignment}
    (read : plain call = .ok assignment) : call.wrapper? = none := by
  unfold plain at read
  unfold CallOf.wrapper?
  split at read
  next named => rw [named]; rfl
  next named => rw [named]; rfl
  next named => rw [named]; rfl
  next named => rw [named]; rfl
  next => cases read

theorem exists_plain_iff : (∃ assignment, plain call = .ok assignment) ↔ call.Assigns := by
  constructor
  · intro read
    obtain ⟨assignment, read⟩ := read
    unfold plain at read
    split at read
    next named =>
      have spelled := Keyword.ofText?_eq_some_iff.mp named
      obtain ⟨received, isMember | ⟨inner, kind, sole, shaped⟩⟩ :=
        exists_property_iff.mp ⟨assignment, read⟩
      · exact .property ⟨spelled, received, isMember⟩
      · exact .invocation ⟨spelled, received, by rw [sole]; rfl⟩ sole shaped
    next named =>
      obtain ⟨received, sole⟩ := exists_constant_iff.mp ⟨assignment, read⟩
      exact .constant ⟨Keyword.ofText?_eq_some_iff.mp named, received, sole⟩
    next named =>
      obtain ⟨received, sole⟩ := exists_expression_iff.mp ⟨assignment, read⟩
      exact .expression ⟨Keyword.ofText?_eq_some_iff.mp named, received, sole⟩
    next named =>
      obtain ⟨received, sole⟩ := exists_entry_iff.mp ⟨assignment, read⟩
      exact .entry ⟨Keyword.ofText?_eq_some_iff.mp named, received, sole⟩
    next => cases read
  · intro assigns
    cases assigns with
    | property shaped =>
        rw [plain_of_named shaped.named]
        exact exists_property_iff.mpr ⟨shaped.receiver, Or.inl shaped.argument⟩
    | invocation shaped sole invoked =>
        rw [plain_of_named shaped.named]
        exact exists_property_iff.mpr ⟨shaped.receiver, Or.inr ⟨_, _, sole, invoked⟩⟩
    | constant shaped =>
        rw [plain_of_named shaped.named]
        exact exists_constant_iff.mpr ⟨shaped.receiver, shaped.argument⟩
    | expression shaped =>
        rw [plain_of_named shaped.named]
        exact exists_expression_iff.mpr ⟨shaped.receiver, shaped.argument⟩
    | entry shaped =>
        rw [plain_of_named shaped.named]
        exact exists_entry_iff.mpr ⟨shaped.receiver, shaped.argument⟩

/-- Of the calls that make an assignment, only those that read a property directly make one
that can be wrapped. -/
theorem readsProperty_iff {assignment : Assignment} (read : plain call = .ok assignment) :
    call.ReadsProperty ↔ ∃ source, assignment.directive = .property source := by
  constructor
  · intro shaped
    rw [plain_of_named shaped.named] at read
    obtain ⟨name, argument, directive, -, sole, rfl, ⟨source, -, rfl⟩ | ⟨inner, rfl, -⟩⟩ :=
      property_eq_ok_iff.mp read
    · exact ⟨source, rfl⟩
    · have isMember := shaped.argument
      rw [sole] at isMember
      cases isMember
  · intro isProperty
    obtain ⟨source, isProperty⟩ := isProperty
    cases exists_plain_iff.mp ⟨assignment, read⟩ with
    | property shaped => exact shaped
    | invocation shaped sole _ =>
        rw [plain_of_named shaped.named] at read
        obtain ⟨name, argument, directive, -, alsoSole, rfl, ⟨_, rfl, -⟩ | ⟨inner, rfl, invoked⟩⟩ :=
          property_eq_ok_iff.mp read
        · rw [sole] at alsoSole
          cases alsoSole
        · obtain ⟨_, _, _, -, -, -, rfl⟩ := invocation_eq_ok_iff.mp invoked
          cases isProperty
    | constant shaped =>
        rw [plain_of_named shaped.named] at read
        obtain ⟨_, _, -, -, rfl⟩ := constant_eq_ok read
        cases isProperty
    | expression shaped =>
        rw [plain_of_named shaped.named] at read
        obtain ⟨_, _, -, -, rfl⟩ := expression_eq_ok read
        cases isProperty
    | entry shaped =>
        rw [plain_of_named shaped.named] at read
        obtain ⟨_, _, -, -, rfl⟩ := entry_eq_ok read
        cases isProperty

/-! ### Wrapping -/

theorem exists_wrapped_iff {wrapper : Wrapper} (base : Directive) :
    (∃ directive, wrapped wrapper call base = .ok directive) ↔
      call.arguments.map Expr.kind = [wrapper.operand] := by
  apply exists_argument_iff
  intro argument
  cases wrapper with
  | transform =>
      cases argument with
      | closure closure => exact iff_of_true ⟨_, rfl⟩ rfl
      | _ => exact iff_of_false (fun ⟨_, impossible⟩ => nomatch impossible) nofun
  | via =>
      cases argument with
      | mapper reference => exact iff_of_true ⟨_, rfl⟩ rfl
      | _ => exact iff_of_false (fun ⟨_, impossible⟩ => nomatch impossible) nofun

theorem wrapped_eq_ok {wrapper : Wrapper} {base directive : Directive}
    (read : wrapped wrapper call base = .ok directive) :
    (∃ closure, call.arguments = [.closure closure] ∧ directive = .transform base closure) ∨
      ∃ reference, call.arguments = [.mapper reference] ∧
        directive = .via base reference.delegate := by
  obtain ⟨argument, sole, read⟩ := bind_eq_ok_iff.mp read
  rw [CallOf.soleArgument_eq_ok_iff] at sole
  cases wrapper with
  | transform =>
      cases argument with
      | closure closure => exact Or.inl ⟨closure, sole, (Except.ok.inj read).symm⟩
      | _ => cases read
  | via =>
      cases argument with
      | mapper reference => exact Or.inr ⟨reference, sole, (Except.ok.inj read).symm⟩
      | _ => cases read

theorem attach_eq_ok_iff {wrapper : Wrapper} {base assignment : Assignment} :
    attach wrapper call base = .ok assignment ↔
      ∃ source directive, base.directive = .property source ∧
        wrapped wrapper call (.property source) = .ok directive ∧
        assignment = ⟨base.target, directive, call.span⟩ := by
  unfold attach
  dsimp only
  split
  next source isProperty =>
    rw [isProperty]
    constructor
    · intro attached
      obtain ⟨directive, wrapping, same⟩ := bind_eq_ok_iff.mp attached
      exact ⟨source, directive, rfl, wrapping, (Except.ok.inj same).symm⟩
    · intro stages
      obtain ⟨_, directive, same, wrapping, rfl⟩ := stages
      obtain rfl := Directive.property.inj same
      exact bind_eq_ok_iff.mpr ⟨directive, wrapping, rfl⟩
  next notProperty =>
    constructor
    · intro attached
      split at attached <;> cases attached
    · intro stages
      obtain ⟨source, _, isProperty, -⟩ := stages
      exact absurd isProperty (notProperty source)

theorem exists_attach_iff {wrapper : Wrapper} {base : Assignment} :
    (∃ assignment, attach wrapper call base = .ok assignment) ↔
      (∃ source, base.directive = .property source) ∧
        call.arguments.map Expr.kind = [wrapper.operand] := by
  simp only [attach_eq_ok_iff]
  constructor
  · intro attached
    obtain ⟨_, source, directive, isProperty, wrapping, -⟩ := attached
    exact ⟨⟨source, isProperty⟩, (exists_wrapped_iff _).mp ⟨directive, wrapping⟩⟩
  · intro both
    obtain ⟨⟨source, isProperty⟩, operand⟩ := both
    obtain ⟨directive, wrapping⟩ := (exists_wrapped_iff (.property source)).mpr operand
    exact ⟨_, source, directive, isProperty, wrapping, rfl⟩

theorem attach_target {wrapper : Wrapper} {base assignment : Assignment}
    (attached : attach wrapper call base = .ok assignment) :
    assignment.target = base.target := by
  obtain ⟨_, _, -, -, rfl⟩ := attach_eq_ok_iff.mp attached
  rfl

/-- What a wrapper makes cannot be wrapped again. -/
theorem not_property_of_attach {wrapper : Wrapper} {base assignment : Assignment}
    (attached : attach wrapper call base = .ok assignment) (source : MemberRef) :
    assignment.directive ≠ .property source := by
  obtain ⟨_, _, -, wrapping, rfl⟩ := attach_eq_ok_iff.mp attached
  rcases wrapped_eq_ok wrapping with ⟨_, -, rfl⟩ | ⟨_, -, rfl⟩
  · exact nofun
  · exact nofun

theorem block_eq_ok_iff {body : Expr} {members : List Expr} :
    block body = .ok members ↔
      ∃ (call : Call) (closure : Closure), body.unwrapped = .call call ∧
        call.name = Keyword.mapping.text ∧ call.arguments = [.closure closure] ∧
        closure.body = members := by
  constructor
  · intro found
    unfold block at found
    split at found
    next node unwrapped =>
      split at found
      next named =>
        obtain ⟨argument, sole, found⟩ := bind_eq_ok_iff.mp found
        rw [CallOf.soleArgument_eq_ok_iff] at sole
        split at found
        next closure =>
          exact ⟨node, closure, unwrapped, Keyword.ofText?_eq_some_iff.mp named, sole,
            Except.ok.inj found⟩
        next => cases found
      next => cases found
    next => cases found
  · intro stages
    obtain ⟨call, closure, unwrapped, named, sole, rfl⟩ := stages
    unfold block
    rw [unwrapped]
    dsimp only
    rw [Keyword.ofText?_eq_some_iff.mpr named]
    exact bind_eq_ok_iff.mpr ⟨_, CallOf.soleArgument_eq_ok_iff.mpr sole, rfl⟩

end Reading

end MappingPlan
