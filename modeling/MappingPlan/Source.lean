/-
Sources: where the value of one target member comes from. What a source can be depends on
the declared types, on the mapper, and on the switches of a policy, which say how much a
mapper may leave unsaid. A member without a directive reads the property of the same name,
through another mapper if the types differ and one mapper fits. The member that a directive
reads is taken at its word: its owner has to be a declared type, but need not be the type the
mapper reads from.
-/

import MappingPlan.Directive

set_option autoImplicit false

namespace MappingPlan

structure Policy where
  /-- A parameter without a source keeps its declared default. -/
  defaultArguments : Bool := true
  /-- Source entries that reach no target entry are reported. -/
  strictEnums : Bool := true
  /-- A member takes a value that widens to its type. -/
  implicitConversions : Bool := true
  /-- A property found by name may pass through another mapper. -/
  nestedMappers : Bool := true
  deriving DecidableEq

namespace Policy

def standard : Policy := {}

def strict : Policy :=
  { defaultArguments := false, implicitConversions := false, nestedMappers := false }

def lenient : Policy := { strictEnums := false }

end Policy

structure Context where
  types : TypeLookup
  policy : Policy
  mapper : Mapper

namespace Context

def source? (context : Context) : Option Definition :=
  context.types.declared? context.mapper.source

def target? (context : Context) : Option Definition :=
  context.types.declared? context.mapper.target

def display (context : Context) (type : Ty) : String := context.types.display type

def failure (context : Context) (cause : Cause) : Failure := ⟨cause, context.mapper.span⟩

end Context

structure EntryCall where
  mapper : TypeId
  kind : EntryPointKind
  parameter : Ty
  result : Ty
  deriving DecidableEq

inductive Adapter where
  | closure (body : Closure)
  | mapper (call : EntryCall)

namespace Adapter

def input? : Adapter → Option Ty
  | closure body => body.parameter
  | mapper call => some call.parameter

def result : Adapter → Ty
  | closure body => body.result
  | mapper call => call.result

end Adapter

structure PropertyRead where
  getter : Getter
  type : Ty
  isAutomatic : Bool
  adapter : Option Adapter := none
  span : Span := .unknown

namespace PropertyRead

def result (read : PropertyRead) : Ty :=
  match read.adapter with
  | some adapter => adapter.result
  | none => read.type

end PropertyRead

inductive Source where
  | property (read : PropertyRead)
  | expression (body : Closure)
  | constant (value : Literal) (type : Ty)
  | declaredDefault (type : Ty) (span : Span)

namespace Source

def type : Source → Ty
  | property read => read.result
  | expression body => body.result
  | constant _ type => type
  | declaredDefault type _ => type

def isAutomatic : Source → Bool
  | property read => read.isAutomatic
  | declaredDefault _ _ => true
  | _ => false

def isExplicit (source : Source) : Bool := !source.isAutomatic

def span : Source → Span
  | property read => read.span
  | expression body => body.span
  | constant value _ => value.span
  | declaredDefault _ span => span

end Source

structure Contribution where
  target : String
  source : Source
  span : Span

namespace Context

/-- The only mapper between two types. If there is none and the target admits null,
the only mapper to what it holds otherwise. -/
def onlyMapper? (context : Context) (source target : Ty) : Option Definition :=
  let direct := context.types.mappersBetween source target
  let mappers :=
    if direct.isEmpty && target.isNullable then
      context.types.mappersBetween source target.core
    else direct
  match mappers with
  | [mapper] => some mapper
  | _ => none

def onlyCall? (context : Context) (source target : Ty) (kind : EntryPointKind) :
    Option EntryCall := do
  let mapper ← context.onlyMapper? source target
  let point ← mapper.entryPoint? kind
  pure ⟨mapper.id, kind, point.parameter, point.result⟩

/-- The mapper call that takes one type to another, on the whole value or else on
the elements of a list. -/
def nestedCall? (context : Context) (source target : Ty) : Option EntryCall :=
  (context.onlyCall? source target .map).or <| do
    let sourceElement ← source.element?
    let targetElement ← target.element?
    context.onlyCall? sourceElement targetElement .mapList

def automaticSource? (context : Context) (name : String) (type : Ty) : Option Source := do
  let source ← context.source?
  let property ← source.property? name
  let call :=
    if context.policy.nestedMappers && !property.type.assignableTo type then
      context.nestedCall? property.type type
    else none
  pure <| .property
    { getter := property.getter
      type := property.type
      isAutomatic := true
      adapter := call.map .mapper }

end Context

def Definition.entriesNamed (definition : Definition) (name : String) : List String :=
  definition.entries.filter (· = name)

def MemberRef.read (member : MemberRef) (adapter : Option Adapter) :
    Except Failure PropertyRead :=
  match member.owner.reference? with
  | none => .error ⟨.malformed .property (.undeclaredOwner member.name), member.span⟩
  | some owner =>
      .ok
        { getter := ⟨owner, member.name⟩
          type := member.type
          isAutomatic := false
          adapter
          span := member.span }

def Directive.wrappedMember (base : Directive) (wrapper : Wrapper) (span : Span) :
    Except Failure MemberRef :=
  match base with
  | .property source => .ok source
  | other => .error ⟨.invalidWrapBase wrapper other.keyword, span⟩

namespace Context

def entryCall (context : Context) (delegate : Delegate) : Except Failure EntryCall :=
  match context.types.definition? delegate.mapper with
  | none => .error ⟨.unknownType delegate.mapper, delegate.span⟩
  | some definition =>
      if definition.isMapper then
        match definition.entryPoint? delegate.kind with
        | none => .error ⟨.missingEntryPoint definition.name delegate.kind, delegate.span⟩
        | some point => .ok ⟨definition.id, delegate.kind, point.parameter, point.result⟩
      else .error ⟨.notAMapper definition.name, delegate.span⟩

/-- The source that an assignment stands for. Enum entries are no values, so they
fill no member. -/
def explicitSource (context : Context) (assignment : Assignment) :
    Except Failure Source :=
  match assignment.directive with
  | .property source => do
      let read ← source.read none
      pure (.property read)
  | .constant value => .ok (.constant value value.type)
  | .expression body => .ok (.expression body)
  | .transform base closure => do
      let member ← base.wrappedMember .transform assignment.span
      let read ← member.read (some (.closure closure))
      pure (.property read)
  | .via base delegate => do
      let member ← base.wrappedMember .via assignment.span
      let call ← context.entryCall delegate
      let read ← member.read (some (.mapper call))
      pure (.property read)
  | .entry _ =>
      .error
        ⟨.inapplicable .fromEnumEntry (context.display context.mapper.target),
          assignment.span⟩

def contribution (context : Context) (assignment : Assignment) :
    Except Failure Contribution := do
  let source ← context.explicitSource assignment
  pure ⟨assignment.target, source, assignment.span⟩

def contributions (context : Context) (assignments : List Assignment) :
    Except Failure (List Contribution) :=
  assignments.mapM context.contribution

end Context

end MappingPlan
