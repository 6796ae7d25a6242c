/-
Resolution: from a mapper to a reviewed plan, or to the failure that stopped it. The review
says everything wrong or doubtful about a plan, part by part in the order of the plan, and
the strays at the end; what is said of one member or entry never hides what is said of
another. Each mapper is resolved on its own; a batch appends what it reports to one log.
-/

import MappingPlan.Plan

set_option autoImplicit false

namespace MappingPlan

inductive Finding where
  | memberWithoutSource (target member : String)
  | memberWithSources (target member : String)
  | adapterInput (callee target member expected found : String)
  | memberType (target member expected : String) (automatic : Bool) (found : String)
  | entryWithoutSource (target entry : String)
  | entryWithSources (target entry : String)
  | unmappedEntry (source entry : String)
  | ambiguousEntry (source entry : String)
  | valueType (source target : String)
  | unknownTarget (target name : String)
  deriving DecidableEq

namespace Finding

/-- Several sources of an entry, and a source entry that is left over, are allowed. -/
def severity : Finding → Severity
  | entryWithSources _ _ | unmappedEntry _ _ => .warning
  | _ => .error

def message : Finding → String
  | memberWithoutSource target member => s!"Target {target}::{member} has no source defined"
  | memberWithSources target member =>
      s!"Target {target}::{member} has multiple sources defined"
  | adapterInput callee target member expected found =>
      s!"Type mismatch: {callee} for target {target}::{member} " ++
        s!"expects a value of type {expected} but receives {found}"
  | memberType target member expected automatic found =>
      s!"Type mismatch: target {target}::{member} of type {expected} " ++
        (if automatic then "automatically resolved" else "resolved") ++
        s!" from a value of type {found}"
  | entryWithoutSource target entry => s!"Target {target}.{entry} has no source defined"
  | entryWithSources target entry => s!"Target {target}.{entry} has multiple sources defined"
  | unmappedEntry source entry => s!"Source {source}.{entry} is not mapped to any target entry"
  | ambiguousEntry source entry =>
      s!"Source {source}.{entry} is mapped to multiple target entries"
  | valueType source target => s!"Type mismatch: cannot map {source} to {target}"
  | unknownTarget target name => s!"Target {target}::{name} does not exist on the target"

def report (finding : Finding) (span : Span) : Diagnostic :=
  ⟨finding.severity, finding.message, span⟩

end Finding

namespace Context

/-- A value of one type is fit for a place of another, by widening only where the
policy lets it. -/
def accepts (context : Context) (found expected : Ty) : Bool :=
  match found.conversion? expected with
  | some .identity => true
  | some (.widening _ _) => context.policy.implicitConversions
  | none => false

/-- Where a finding about a node of the body is shown. -/
def locate (context : Context) (span : Span) : Span := span.orElse context.mapper.span

def callee (context : Context) : Adapter → String
  | .closure _ => Keyword.transform.text
  | .mapper call => context.types.nameOf call.mapper ++ "." ++ call.kind.text

def inputFindings (context : Context) (target member : String) (read : PropertyRead) :
    List Diagnostic :=
  match read.adapter with
  | none => []
  | some adapter =>
      match adapter.input? with
      | none => []
      | some expected =>
          if context.accepts read.type expected then [] else
            [(Finding.adapterInput (context.callee adapter) target member
              (context.display expected) (context.display read.type)).report
                (context.locate read.span)]

def typeFindings (context : Context) (target : String) (parameter : Parameter)
    (source : Source) : List Diagnostic :=
  if context.accepts source.type parameter.type then [] else
    [(Finding.memberType target parameter.name (context.display parameter.type)
      source.isAutomatic (context.display source.type)).report (context.locate source.span)]

/-- A declared default is fit by declaration. -/
def sourceFindings (context : Context) (target : String) (parameter : Parameter) :
    Source → List Diagnostic
  | .declaredDefault _ _ => []
  | .property read =>
      context.inputFindings target parameter.name read ++
        context.typeFindings target parameter (.property read)
  | source => context.typeFindings target parameter source

/-- A member needs exactly one source. Of several, the second is shown. -/
def memberFindings (context : Context) (target : String) (member : Member) :
    List Diagnostic :=
  match member.sources with
  | [] =>
      [(Finding.memberWithoutSource target member.parameter.name).report context.mapper.span]
  | [source] => context.sourceFindings target member.parameter source
  | _ :: second :: _ =>
      [(Finding.memberWithSources target member.parameter.name).report
        (context.locate second.span)]

def targetEntryFindings (context : Context) (target : String) (entry : EntryPlan) :
    List Diagnostic :=
  match entry.sources with
  | [] => [(Finding.entryWithoutSource target entry.target).report context.mapper.span]
  | [_] => []
  | _ => [(Finding.entryWithSources target entry.target).report context.mapper.span]

/-- A source entry should map to something, and directives must not disagree on what
it becomes. -/
def sourceEntryFindings (context : Context) (source : String) (plan : EnumPlan)
    (entry : String) : List Diagnostic :=
  if (plan.targetsOf entry).isEmpty then
    if context.policy.strictEnums then
      [(Finding.unmappedEntry source entry).report context.mapper.span]
    else []
  else if 1 < plan.directedCount entry then
    [(Finding.ambiguousEntry source entry).report context.mapper.span]
  else []

def strayFinding (context : Context) (target : String) (stray : Stray) : Diagnostic :=
  (Finding.unknownTarget target stray.target).report (context.locate stray.span)

def partFindings (context : Context) : Plan → List Diagnostic
  | .construction plan =>
      plan.members.flatMap (context.memberFindings (context.display plan.target))
  | .enumeration plan =>
      plan.entries.flatMap (context.targetEntryFindings (context.display plan.target)) ++
        plan.sourceEntries.flatMap
          (context.sourceEntryFindings (context.display plan.source) plan)
  | .value plan =>
      if plan.conversion.isSome then [] else
        [(Finding.valueType (context.display plan.source) (context.display plan.target)).report
          context.mapper.span]

def review (context : Context) (plan : Plan) : Log :=
  context.partFindings plan ++
    plan.strays.map (context.strayFinding (context.display plan.target))

end Context

/-! ### Resolved mappers -/

structure Resolved where
  plan : Plan
  choice : Option Choice
  findings : Log

namespace Resolved

/-- Nothing was found that forbids carrying out the plan. -/
def isValid (resolved : Resolved) : Bool := !resolved.findings.hasErrors

def plan? (resolved : Resolved) : Option Plan :=
  if resolved.isValid then some resolved.plan else none

end Resolved

namespace Context

/-- The body is read before the target is looked at. -/
def plan (context : Context) : Except Failure (Plan × Option Choice) := do
  let assignments ← context.mapper.assignments
  let candidates ← context.assemble assignments
  context.settle candidates

def resolve (context : Context) : Except Failure Resolved := do
  let (plan, choice) ← context.plan
  pure ⟨plan, choice, context.review plan⟩

end Context

abbrev Outcome := Except Failure Resolved

namespace Outcome

def diagnostics : Outcome → List Diagnostic
  | .ok resolved => resolved.findings
  | .error failure => [failure.toDiagnostic]

end Outcome

structure Resolver where
  types : TypeLookup
  policy : Policy := .standard

namespace Resolver

def resolve (resolver : Resolver) (mapper : Mapper) (log : Log) : Outcome × Log :=
  let outcome := (Context.mk resolver.types resolver.policy mapper).resolve
  (outcome, log.reportAll (Outcome.diagnostics outcome))

def resolveAll (resolver : Resolver) : List Mapper → Log → List Outcome × Log
  | [], log => ([], log)
  | mapper :: rest, log =>
      let (outcome, log) := resolver.resolve mapper log
      let (outcomes, log) := resolver.resolveAll rest log
      (outcome :: outcomes, log)

end Resolver

end MappingPlan
