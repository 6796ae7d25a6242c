/-
Directives, and how a mapper body is read into them. A body is a block of statements, each of
which adds one assignment of a directive to a target member, or wraps an earlier one, or only
names a mapper. What was read before a failing statement stays read, and an assignment taken
out to be wrapped does not come back when the wrapping fails.

A failure is a cause and the location of the offending node; the wording is a function of the
cause, and the causes are those of all stages of a resolution. A log is the list of diagnostics
in the order they were reported; everything that reports appends to one.
-/

import MappingPlan.Catalog.Definition

set_option autoImplicit false

namespace MappingPlan

structure Delegate where
  mapper : TypeId
  kind : EntryPointKind
  span : Span := .unknown
  deriving DecidableEq

def MapperRef.delegate (reference : MapperRef) : Delegate :=
  ⟨reference.mapper, if reference.forList then .mapList else .map, reference.span⟩

inductive Directive where
  | property (source : MemberRef)
  | constant (value : Literal)
  | expression (body : Closure)
  | transform (base : Directive) (closure : Closure)
  | via (base : Directive) (delegate : Delegate)
  | entry (source : EntryRef)

inductive Wrapper where
  | transform
  | via
  deriving DecidableEq

namespace Wrapper

def keyword : Wrapper → Keyword
  | transform => .transform
  | via => .via

def ofKeyword? : Keyword → Option Wrapper
  | .transform => some transform
  | .via => some via
  | _ => none

end Wrapper

namespace Directive

def keyword : Directive → Keyword
  | property _ => .property
  | constant _ => .constant
  | expression _ => .expression
  | transform _ _ => .transform
  | via _ _ => .via
  | entry _ => .fromEnumEntry

def isWrapper : Directive → Bool
  | transform _ _ | via _ _ => true
  | _ => false

end Directive

structure Assignment where
  target : String
  directive : Directive
  span : Span := .unknown

/-! ### Diagnostics and failures -/

inductive Severity where
  | error
  | warning
  deriving DecidableEq

def Severity.text : Severity → String
  | .error => "error"
  | .warning => "warning"

structure Diagnostic where
  severity : Severity
  message : String
  span : Span
  deriving DecidableEq

namespace Diagnostic

def isError (diagnostic : Diagnostic) : Bool := diagnostic.severity = .error

def isWarning (diagnostic : Diagnostic) : Bool := diagnostic.severity = .warning

def text (diagnostic : Diagnostic) : String :=
  s!"{diagnostic.severity.text} at {diagnostic.span.text}: {diagnostic.message}"

end Diagnostic

abbrev Log := List Diagnostic

namespace Log

def errors (log : Log) : List Diagnostic := log.filter Diagnostic.isError

def warnings (log : Log) : List Diagnostic := log.filter Diagnostic.isWarning

def hasErrors (log : Log) : Bool := log.any Diagnostic.isError

def report (log : Log) (diagnostic : Diagnostic) : Log := log ++ [diagnostic]

def reportAll (log : Log) (reported : List Diagnostic) : Log :=
  reported.foldl report log

theorem reportAll_eq_append (log : Log) (reported : List Diagnostic) :
    log.reportAll reported = log ++ reported := by
  induction reported generalizing log with
  | nil => exact (List.append_nil log).symm
  | cons head rest ih =>
      change (log ++ [head]).reportAll rest = log ++ head :: rest
      rw [ih, List.append_assoc, List.singleton_append]

end Log

inductive Operand where
  | block
  | sourceProperty
  | literal
  | closure
  | mapperReference
  | sourceEntry
  deriving DecidableEq

def Operand.text : Operand → String
  | .block => "a block"
  | .sourceProperty => "a source property"
  | .literal => "a literal"
  | .closure => "a closure"
  | .mapperReference => "a mapper reference"
  | .sourceEntry => "a source enum entry"

inductive Fault where
  | argumentCount (found : Nat)
  | argument (expected : Operand) (found : ExprKind)
  | missingTarget
  | target (found : ExprKind)
  | entryReceiver
  | mapperReceiver
  | notWrappable (found : ExprKind)
  | undeclaredOwner (member : String)
  deriving DecidableEq

def Fault.text : Fault → String
  | .argumentCount found => s!"expected exactly one argument, found {found}"
  | .argument expected found => s!"expected {expected.text}, found {found.text}"
  | .missingTarget => "missing target member"
  | .target found => s!"expected a target member, found {found.text}"
  | .entryReceiver => "expected a target enum entry as receiver"
  | .mapperReceiver => "expected a mapper as receiver"
  | .notWrappable found => s!"cannot wrap a {found.text}"
  | .undeclaredOwner member => s!"'{member}' is not a member of a declared type"

inductive Cause where
  | unexpectedCall (name : String)
  | unexpectedExpression (found : ExprKind)
  | malformed (keyword : Keyword) (fault : Fault)
  | nothingToWrap (wrapper : Wrapper) (target : String)
  | invalidWrapBase (wrapper : Wrapper) (found : Keyword)
  | nestedWrap (wrapper : Wrapper) (inner : Keyword)
  | notAMapper (type : String)
  | missingEntryPoint (mapper : String) (kind : EntryPointKind)
  | unknownType (id : TypeId)
  | unsupportedTarget (target : String)
  | noVisibleConstructor (target : String)
  | enumSourceRequired (target found : String)
  | unknownEntry (owner entry : String)
  | inapplicable (keyword : Keyword) (target : String)
  deriving DecidableEq

def Cause.text : Cause → String
  | .unexpectedCall name => s!"Unexpected call '{name}'"
  | .unexpectedExpression found => s!"Unexpected {found.text} in mapping block"
  | .malformed keyword fault => s!"Malformed '{keyword.text}' directive: {fault.text}"
  | .nothingToWrap wrapper target =>
      s!"'{wrapper.keyword.text}' on target '{target}' has no preceding directive to wrap"
  | .invalidWrapBase wrapper found =>
      s!"'{wrapper.keyword.text}' can only wrap a property directive, found '{found.text}'"
  | .nestedWrap wrapper inner =>
      s!"'{wrapper.keyword.text}' cannot wrap '{inner.text}': " ++
        "only a single transform or via is supported"
  | .notAMapper type => s!"Type {type} is not a mapper"
  | .missingEntryPoint mapper kind => s!"Mapper {mapper} has no '{kind.text}' entry point"
  | .unknownType id => s!"Unknown type {id.text}"
  | .unsupportedTarget target =>
      s!"Cannot map to {target}: only classes, enums, primitives and strings are supported"
  | .noVisibleConstructor target => s!"Class {target} has no visible constructor"
  | .enumSourceRequired target found =>
      s!"Enum {target} can only be mapped from an enum, found {found}"
  | .unknownEntry owner entry => s!"Enum {owner} has no entry '{entry}'"
  | .inapplicable keyword target => s!"'{keyword.text}' cannot be used when mapping to {target}"

structure Failure where
  cause : Cause
  span : Span
  deriving DecidableEq

namespace Failure

def message (failure : Failure) : String :=
  s!"{failure.cause.text} at {failure.span.text}"

def toDiagnostic (failure : Failure) : Diagnostic :=
  ⟨.error, failure.message, failure.span⟩

end Failure

/-! ### Reading a body -/

namespace CallOf

def unexpected (call : Call) : Failure := ⟨.unexpectedCall call.name, call.span⟩

def soleArgument (call : Call) (keyword : Keyword) : Except Failure Expr :=
  match call.arguments with
  | [argument] => .ok argument
  | arguments => .error ⟨.malformed keyword (.argumentCount arguments.length), call.span⟩

def targetMember (call : Call) (keyword : Keyword) : Except Failure String :=
  match call.receiver with
  | some (.member member) => .ok member.name
  | some other => .error ⟨.malformed keyword (.target other.kind), other.span⟩
  | none => .error ⟨.malformed keyword .missingTarget, call.span⟩

def targetEntry (call : Call) : Except Failure String :=
  match call.receiver with
  | some (.entry entry) => .ok entry.name
  | _ => .error ⟨.malformed .fromEnumEntry .entryReceiver, call.span⟩

def wrapper? (call : Call) : Option Wrapper :=
  (Keyword.ofText? call.name).bind Wrapper.ofKeyword?

end CallOf

def wrongArgument (keyword : Keyword) (expected : Operand) (found : Expr) : Failure :=
  ⟨.malformed keyword (.argument expected found.kind), found.span⟩

namespace Reading

/-- A call of another mapper in place of a source property. How the mapper itself
is referred to does not matter; the call says which entry point is meant. -/
def invocation (call : Call) : Except Failure Directive := do
  let kind ← match Keyword.ofText? call.name with
    | some .map => pure EntryPointKind.map
    | some .mapList => pure EntryPointKind.mapList
    | _ => throw call.unexpected
  let mapper ← match call.receiver with
    | some (.mapper reference) => pure reference.mapper
    | _ => throw ⟨.malformed kind.keyword .mapperReceiver, call.span⟩
  match ← call.soleArgument kind.keyword with
  | .member source => pure (.via (.property source) ⟨mapper, kind, call.span⟩)
  | other => throw (wrongArgument kind.keyword .sourceProperty other)

def property (call : Call) : Except Failure Assignment := do
  let target ← call.targetMember .property
  let directive ← match ← call.soleArgument .property with
    | .member source => pure (.property source)
    | .call inner => invocation inner
    | other => throw (wrongArgument .property .sourceProperty other)
  pure ⟨target, directive, call.span⟩

def constant (call : Call) : Except Failure Assignment := do
  let target ← call.targetMember .constant
  match ← call.soleArgument .constant with
  | .literal value => pure ⟨target, .constant value, call.span⟩
  | other => throw (wrongArgument .constant .literal other)

def expression (call : Call) : Except Failure Assignment := do
  let target ← call.targetMember .expression
  match ← call.soleArgument .expression with
  | .closure body => pure ⟨target, .expression body, call.span⟩
  | other => throw (wrongArgument .expression .closure other)

def entry (call : Call) : Except Failure Assignment := do
  let target ← call.targetEntry
  match ← call.soleArgument .fromEnumEntry with
  | .entry source => pure ⟨target, .entry source, call.span⟩
  | other => throw (wrongArgument .fromEnumEntry .sourceEntry other)

def plain (call : Call) : Except Failure Assignment :=
  match Keyword.ofText? call.name with
  | some .property => property call
  | some .constant => constant call
  | some .expression => expression call
  | some .fromEnumEntry => entry call
  | _ => .error call.unexpected

/-- Take the last assignment to a target out of a list. -/
def takeLast? (target : String) : List Assignment → Option (Assignment × List Assignment)
  | [] => none
  | head :: rest =>
      match takeLast? target rest with
      | some (found, others) => some (found, head :: others)
      | none => if head.target = target then some (head, rest) else none

theorem takeLast?_eq_none_iff (target : String) (collected : List Assignment) :
    takeLast? target collected = none ↔
      ∀ assignment ∈ collected, assignment.target ≠ target := by
  induction collected with
  | nil => simp [takeLast?]
  | cons head rest ih =>
      cases later : takeLast? target rest with
      | some found => simp [takeLast?, later, ← ih]
      | none =>
          have absent := ih.mp later
          by_cases same : head.target = target
          · simp [takeLast?, later, same]
          · simpa [takeLast?, later, same] using absent

/-- What is taken out is the last assignment to the target, and the others keep
their order. -/
theorem takeLast?_eq_some {target : String} {collected others : List Assignment}
    {found : Assignment} (taken : takeLast? target collected = some (found, others)) :
    found.target = target ∧ ∃ before after,
      collected = before ++ found :: after ∧ others = before ++ after ∧
        ∀ assignment ∈ after, assignment.target ≠ target := by
  induction collected generalizing others with
  | nil => cases taken
  | cons head rest ih =>
      cases later : takeLast? target rest with
      | some result =>
          rcases result with ⟨last, remaining⟩
          simp only [takeLast?, later, Option.some.injEq, Prod.mk.injEq] at taken
          obtain ⟨rfl, rfl⟩ := taken
          obtain ⟨same, before, after, split, left, absent⟩ := ih later
          exact ⟨same, head :: before, after, by rw [split]; rfl, by rw [left]; rfl, absent⟩
      | none =>
          by_cases same : head.target = target
          · simp only [takeLast?, later, if_pos same, Option.some.injEq,
              Prod.mk.injEq] at taken
            obtain ⟨rfl, rfl⟩ := taken
            exact ⟨same, [], rest, rfl, rfl, (takeLast?_eq_none_iff target rest).mp later⟩
          · simp only [takeLast?, later, if_neg same] at taken
            cases taken

def wrapped (wrapper : Wrapper) (call : Call) (base : Directive) :
    Except Failure Directive := do
  let argument ← call.soleArgument wrapper.keyword
  match wrapper, argument with
  | .transform, .closure closure => pure (.transform base closure)
  | .transform, other => throw (wrongArgument .transform .closure other)
  | .via, .mapper reference => pure (.via base reference.delegate)
  | .via, other => throw (wrongArgument .via .mapperReference other)

/-- Wrap an assignment. Only one that reads a property directly can be wrapped. -/
def attach (wrapper : Wrapper) (call : Call) (base : Assignment) :
    Except Failure Assignment := do
  match base.directive with
  | .property _ => pure ()
  | inner =>
      if inner.isWrapper then throw ⟨.nestedWrap wrapper inner.keyword, call.span⟩
      else throw ⟨.invalidWrapBase wrapper inner.keyword, call.span⟩
  let directive ← wrapped wrapper call base.directive
  pure ⟨base.target, directive, call.span⟩

/-- Read a wrapper call: around the assignment in front of it, or around the last
one to the member in front of it. Gives the assignment and those that remain. -/
def wrapping (wrapper : Wrapper) (call : Call) (collected : List Assignment) :
    Except Failure Assignment × List Assignment :=
  match call.receiver with
  | some (.call inner) =>
      match inner.wrapper? with
      | some nested => (.error ⟨.nestedWrap wrapper nested.keyword, call.span⟩, collected)
      | none => (plain inner >>= attach wrapper call, collected)
  | some (.member member) =>
      match takeLast? member.name collected with
      | some (base, others) => (attach wrapper call base, others)
      | none => (.error ⟨.nothingToWrap wrapper member.name, call.span⟩, collected)
  | some other =>
      (.error ⟨.malformed wrapper.keyword (.notWrappable other.kind), other.span⟩, collected)
  | none => (.error ⟨.nothingToWrap wrapper "", call.span⟩, collected)

def call (call : Call) (collected : List Assignment) :
    Except Failure Assignment × List Assignment :=
  match call.wrapper? with
  | some wrapper => wrapping wrapper call collected
  | none => (plain call, collected)

def statement (statement : Expr) (collected : List Assignment) :
    Except Failure Unit × List Assignment :=
  match statement.unwrapped with
  | .mapper _ => (.ok (), collected)
  | .call node =>
      match call node collected with
      | (.ok assignment, others) => (.ok (), others ++ [assignment])
      | (.error failure, others) => (.error failure, others)
  | other => (.error ⟨.unexpectedExpression other.kind, other.span⟩, collected)

def statements : List Expr → List Assignment → Except Failure Unit × List Assignment
  | [], collected => (.ok (), collected)
  | head :: rest, collected =>
      match statement head collected with
      | (.ok (), collected) => statements rest collected
      | (.error failure, collected) => (.error failure, collected)

def block (body : Expr) : Except Failure (List Expr) :=
  match body.unwrapped with
  | .call node =>
      match Keyword.ofText? node.name with
      | some .mapping => do
          match ← node.soleArgument .mapping with
          | .closure block => pure block.body
          | other => throw (wrongArgument .mapping .block other)
      | _ => .error node.unexpected
  | other => .error ⟨.unexpectedExpression other.kind, other.span⟩

def body (body : Expr) (collected : List Assignment) :
    Except Failure Unit × List Assignment :=
  match block body with
  | .ok members => statements members collected
  | .error failure => (.error failure, collected)

end Reading

def Mapper.assignments (mapper : Mapper) : Except Failure (List Assignment) :=
  match mapper.body with
  | none => .ok []
  | some body =>
      match Reading.body body [] with
      | (.ok (), collected) => .ok collected
      | (.error failure, _) => .error failure

end MappingPlan
