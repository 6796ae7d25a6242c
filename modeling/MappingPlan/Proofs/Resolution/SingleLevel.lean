/-
One level of wrapping. Whatever bodies are read, and however they fail, a wrapper that was
collected stands around a property; a longer chain of wrappers is rejected at its outermost
call. So the stages after reading never find a wrapper around anything else, and as little do
they run out of constructors to choose from.
-/

import MappingPlan.Proofs.Directive.Rejection
import MappingPlan.Proofs.Resolution.Failing

set_option autoImplicit false

namespace MappingPlan

inductive CallOf.WrapChain : Nat → Call → Prop where
  | last {call : Call} {wrapper : Wrapper} :
      call.name = wrapper.keyword.text → WrapChain 1 call
  | link {length : Nat} {call inner : Call} {wrapper : Wrapper} :
      call.name = wrapper.keyword.text → call.receiver = some (.call inner) →
      WrapChain length inner → WrapChain (length + 1) call

theorem CallOf.WrapChain.exists_wrapper {length : Nat} {call : Call}
    (chain : call.WrapChain length) : ∃ wrapper : Wrapper, call.name = wrapper.keyword.text := by
  cases chain with
  | last named => exact ⟨_, named⟩
  | link named _ _ => exact ⟨_, named⟩

theorem Directive.singleLevel_iff (directive : Directive) :
    directive.SingleLevel ↔
      directive.isWrapper = false ∨ ∃ source, directive.base? = some (.property source) := by
  unfold SingleLevel
  cases directive <;> simp [base?, isWrapper]

namespace Reading

/-- Read bodies one after another into one list, whether they fail or not. -/
def bodies (written : List Expr) (collected : List Assignment) : List Assignment :=
  written.foldl (fun collected body => (Reading.body body collected).2) collected

theorem singleLevel_body (body : Expr) {collected : List Assignment}
    (before : ∀ assignment ∈ collected, assignment.directive.SingleLevel) :
    ∀ assignment ∈ (Reading.body body collected).2, assignment.directive.SingleLevel := by
  unfold Reading.body
  split
  · exact singleLevel_statements _ before
  · exact before

theorem singleLevel_bodies (written : List Expr) {collected : List Assignment}
    (before : ∀ assignment ∈ collected, assignment.directive.SingleLevel) :
    ∀ assignment ∈ bodies written collected, assignment.directive.SingleLevel := by
  induction written generalizing collected with
  | nil => exact before
  | cons head rest ih => exact ih (singleLevel_body head before)

/-- A statement that is rejected for a wrapper around a wrapper, named by the call and the
one in front of it, and that leaves everything collected as it is. -/
def RejectsNesting (call : Call) (statement : Expr) : Prop :=
  ∃ (wrapper nested : Wrapper) (inner : Call),
    call.name = wrapper.keyword.text ∧ call.receiver = some (.call inner) ∧
      inner.name = nested.keyword.text ∧
      ∀ (body : Expr) (front back : List Expr) (collected reached : List Assignment),
        block body = .ok (front ++ statement :: back) →
        statements front collected = (.ok (), reached) →
        Reading.body body collected =
          (.error ⟨.nestedWrap wrapper nested.keyword, call.span⟩, reached)

theorem statement_of_nested {call inner : Call} {wrapper nested : Wrapper} {statement : Expr}
    (unwrapped : statement.unwrapped = .call call) (named : call.name = wrapper.keyword.text)
    (received : call.receiver = some (.call inner))
    (innerNamed : inner.name = nested.keyword.text) (collected : List Assignment) :
    Reading.statement statement collected =
      (.error ⟨.nestedWrap wrapper nested.keyword, call.span⟩, collected) := by
  rw [statement_eq]
  unfold statementEdit wrapperEdit
  rw [unwrapped]
  dsimp only
  rw [CallOf.wrapper?_eq_some_iff.mpr named, received]
  dsimp only
  rw [CallOf.wrapper?_eq_some_iff.mpr innerNamed]
  rfl

theorem rejectsNesting_of_wrapChain {length : Nat} {call : Call} (long : 2 ≤ length)
    (chain : call.WrapChain length) {statement : Expr}
    (unwrapped : statement.unwrapped = .call call) : RejectsNesting call statement := by
  cases chain with
  | last _ => exact absurd long (by decide)
  | @link _ _ inner wrapper named received rest =>
      obtain ⟨nested, innerNamed⟩ := rest.exists_wrapper
      refine ⟨wrapper, nested, inner, named, received, innerNamed, ?_⟩
      intro body front back collected reached written readFront
      exact body_eq_error_iff.mpr (Or.inr ⟨front, statement, back, reached, written, readFront,
        statement_of_nested unwrapped named received innerNamed reached⟩)

end Reading

namespace Context

/-- Of a resolution, no stage after the reading of the body meets a wrapper around no
property, and none after the form of the target misses a constructor. -/
structure FailsEarly (context : Context) : Prop where
  wrappedMember : ∀ assignments, context.mapper.assignments = .ok assignments →
    ∀ assignment ∈ assignments, ∀ base, assignment.directive.base? = some base →
      ∀ wrapper span, ∃ member, base.wrappedMember wrapper span = .ok member
  choose : ∀ assignments plans, context.assemble assignments = .ok (.constructors plans) →
    ∃ chosen, context.choose plans = .ok chosen
  invalidWrapBase : ∀ wrapper found span,
    context.resolve = .error ⟨.invalidWrapBase wrapper found, span⟩ ↔
      context.mapper.assignments = .error ⟨.invalidWrapBase wrapper found, span⟩
  noVisibleConstructor : ∀ target span,
    context.resolve = .error ⟨.noVisibleConstructor target, span⟩ ↔
      (∃ assignments, context.mapper.assignments = .ok assignments) ∧
        context.targetForm = .error ⟨.noVisibleConstructor target, span⟩

theorem exists_choose {context : Context} {assignments : List Assignment}
    {plans : List ConstructorPlan}
    (assembled : context.assemble assignments = .ok (.constructors plans)) :
    ∃ chosen, context.choose plans = .ok chosen := by
  obtain ⟨settled, success⟩ := exists_settle assembled
  obtain ⟨chosen, success, -⟩ := bind_eq_ok_iff.mp success
  exact ⟨chosen, success⟩

theorem assignments_eq_error_of_invalidWrapBase {context : Context} {wrapper : Wrapper}
    {found : Keyword} {span : Span}
    (failed : context.resolve = .error ⟨.invalidWrapBase wrapper found, span⟩) :
    context.mapper.assignments = .error ⟨.invalidWrapBase wrapper found, span⟩ := by
  cases resolve_eq_error_iff_fails.mp failed with
  | body unread => exact assignments_eq_error_iff.mpr unread
  | target _ unformed => cases unformed
  | source _ _ _ _ fails =>
      cases fails with
      | delegate _ uncalled => cases uncalled
  | route _ _ _ _ _ _ fails => cases fails

theorem targetForm_eq_error_of_noVisibleConstructor {context : Context} {target : String}
    {span : Span} (failed : context.resolve = .error ⟨.noVisibleConstructor target, span⟩) :
    (∃ assignments, context.mapper.assignments = .ok assignments) ∧
      context.targetForm = .error ⟨.noVisibleConstructor target, span⟩ := by
  cases resolve_eq_error_iff_fails.mp failed with
  | body unread =>
      obtain ⟨body, -, rejected⟩ := unread
      have ofBody := Reading.failsWithin_body body [] _ rejected
      cases ofBody.cause
  | target read unformed => exact ⟨⟨_, read⟩, targetForm_eq_error_iff.mpr unformed⟩
  | source _ _ _ _ fails =>
      cases fails with
      | delegate _ uncalled => cases uncalled
  | route _ _ _ _ _ _ fails => cases fails

theorem failsEarly (context : Context) : context.FailsEarly where
  wrappedMember := by
    intro assignments read assignment among base wraps wrapper span
    obtain ⟨source, rfl⟩ := Mapper.singleLevel_of_assignments read assignment among base wraps
    exact ⟨source, rfl⟩
  choose := fun _ _ assembled => exists_choose assembled
  invalidWrapBase := by
    intro wrapper found span
    constructor
    · exact assignments_eq_error_of_invalidWrapBase
    · intro unread
      exact resolve_eq_error_iff_stages.mpr (Or.inl unread)
  noVisibleConstructor := by
    intro target span
    constructor
    · exact targetForm_eq_error_of_noVisibleConstructor
    · intro both
      obtain ⟨⟨assignments, read⟩, unformed⟩ := both
      have unassembled : context.assemble assignments =
          .error ⟨.noVisibleConstructor target, span⟩ :=
        assemble_eq_error_iff.mpr (Or.inl (targetForm_eq_error_iff.mp unformed))
      exact resolve_eq_error_iff_stages.mpr (Or.inr ⟨assignments, read, unassembled⟩)

end Context

/-- Wrapping has one level. Whatever bodies are read into one list, and whichever of them
fail, what is collected is no wrapper or a wrapper of a property. A statement that is a chain
of two wrapping calls or more is rejected at its outermost call. So a resolution finds
nothing else wrapped after the body is read, and no empty list of constructors after the
form of the target is found. -/
theorem single_level_wrapping :
    (∀ written : List Expr, ∀ assignment ∈ Reading.bodies written [],
      assignment.directive.isWrapper = false ∨
        ∃ source, assignment.directive.base? = some (.property source)) ∧
    (∀ (length : Nat) (call : Call) (statement : Expr), 2 ≤ length →
      call.WrapChain length → statement.unwrapped = .call call →
      Reading.RejectsNesting call statement) ∧
    ∀ context : Context, context.FailsEarly := by
  refine ⟨?_, ?_, Context.failsEarly⟩
  · intro written assignment among
    have singleLevel := Reading.singleLevel_bodies written (by simp) assignment among
    exact (Directive.singleLevel_iff assignment.directive).mp singleLevel
  · intro length call statement long chain unwrapped
    exact Reading.rejectsNesting_of_wrapChain long chain unwrapped

def depthOnce : Call :=
  { name := "transform"
    receiver := some Reading.depthRead
    arguments := [.closure { parameter := some (.primitive .int), result := .primitive .long }] }

def depthTwice : Call := { name := "transform", receiver := some (.call depthOnce) }

def depthThrice : Call :=
  { name := "via", receiver := some (.call depthTwice), span := .atPosition 4 9 }

def thriceWrappedBody : Expr :=
  .call
    { name := "mapping"
      arguments := [.closure
        { body := [Reading.depthRead, Reading.scaleFixed, .returned (.call depthThrice) {}] }] }

/-- A mapper whose body wraps a constant. -/
def rescaling : Context where
  types := Catalog.road.lookup
  policy := .standard
  mapper :=
    { name := "rescaling"
      source := .named ⟨2⟩
      target := .named ⟨3⟩
      body := some (.call
        { name := "mapping"
          arguments := [.closure
            { body := [.call
                { name := "transform"
                  receiver := some Reading.scaleFixed
                  span := .atPosition 3 5 }] }] }) }

theorem depthThrice_wrapChain : depthThrice.WrapChain 3 := by
  have outermost : depthThrice.name = Wrapper.via.keyword.text := rfl
  have between : depthTwice.name = Wrapper.transform.keyword.text := rfl
  have innermost : depthOnce.name = Wrapper.transform.keyword.text := rfl
  exact .link outermost rfl (.link between rfl (.last innermost))

/-- The statements before the chain stay collected, a further body is still read, and of
the mapper that wraps a constant the resolution gives the failure of its body. -/
theorem thriceWrappedBody_rejected :
    (∃ wrapper nested reached, Reading.body thriceWrappedBody [] =
        (.error ⟨.nestedWrap wrapper nested, .atPosition 4 9⟩, reached) ∧
      reached.map (·.target) = ["depth", "scale"]) ∧
    (∀ assignment ∈ Reading.bodies [thriceWrappedBody, Reading.halfWrappedBody] [],
      assignment.directive.isWrapper = false ∨
        ∃ source, assignment.directive.base? = some (.property source)) ∧
    rescaling.resolve = .error ⟨.invalidWrapBase .transform .constant, .atPosition 3 5⟩ := by
  obtain ⟨collected, rejected, early⟩ := single_level_wrapping
  refine ⟨?_, collected _, ?_⟩
  · obtain ⟨wrapper, nested, _, -, -, -, fails⟩ :=
      rejected 3 depthThrice (.returned (.call depthThrice) {}) (by decide)
        depthThrice_wrapChain rfl
    exact ⟨wrapper, nested.keyword, _,
      fails thriceWrappedBody [Reading.depthRead, Reading.scaleFixed] [] [] _ rfl rfl, rfl⟩
  · exact ((early rescaling).invalidWrapBase .transform .constant _).mpr rfl

end MappingPlan
