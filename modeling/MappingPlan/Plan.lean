/-
Plans: where every part of the target comes from. The form of a target says what has to be
filled to produce a value of its type. A plan may have parts without a source or with several;
whether it may be carried out is a matter of review.

Directives come first: a member that a directive fills is never filled automatically, and a
directive about a target that does not exist is kept as a stray. Of several constructor plans
the only primary one is chosen; without one the plan that directives fill the most of is, the
first declared if several do.
-/

import MappingPlan.Source

set_option autoImplicit false

namespace MappingPlan

inductive TargetForm where
  | value (type : Ty)
  | enumeration (target : Definition)
  | construction (target : Definition) (constructors : List Constructor)

namespace TargetForm

def size : TargetForm → Nat
  | value _ => 1
  | enumeration target => target.entries.length
  | construction _ constructors => constructors.length

end TargetForm

namespace Context

def targetForm (context : Context) : Except Failure TargetForm :=
  let target := context.mapper.target
  if target.isScalar then .ok (.value target) else
    match target.reference? with
    | none => .error (context.failure (.unsupportedTarget (context.display target)))
    | some id =>
        match context.types.definition? id with
        | none => .error (context.failure (.unknownType id))
        | some definition =>
            match definition.body with
            | .enumBody _ => .ok (.enumeration definition)
            | .mapperBody _ _ _ =>
                .error (context.failure (.unsupportedTarget definition.name))
            | .classBody _ _ =>
                match definition.visibleConstructors with
                | [] => .error (context.failure (.noVisibleConstructor definition.name))
                | constructors => .ok (.construction definition constructors)

end Context

structure Stray where
  target : String
  source : Option Source
  span : Span

structure Member where
  parameter : Parameter
  sources : List Source

namespace Member

def isExplicit (member : Member) : Bool := member.sources.any Source.isExplicit

end Member

structure ConstructorPlan where
  target : Ty
  source : Ty
  constructor : Constructor
  members : List Member
  strays : List Stray

namespace ConstructorPlan

/-- The number of members that a directive fills, however many do. -/
def explicitCount (plan : ConstructorPlan) : Nat := plan.members.countP Member.isExplicit

def member? (plan : ConstructorPlan) (name : String) : Option Member :=
  plan.members.find? (·.parameter.name = name)

end ConstructorPlan

structure EntryPlan where
  target : String
  sources : List String
  explicit : List String
  deriving DecidableEq

namespace EntryPlan

def isExplicit (plan : EntryPlan) : Bool := !plan.explicit.isEmpty

end EntryPlan

structure EnumPlan where
  target : Ty
  source : Ty
  entries : List EntryPlan
  sourceEntries : List String
  strays : List Stray

namespace EnumPlan

def entry? (plan : EnumPlan) (target : String) : Option EntryPlan :=
  plan.entries.find? (·.target = target)

def targetsOf (plan : EnumPlan) (source : String) : List String :=
  (plan.entries.filter (·.sources.contains source)).map (·.target)

def directedCount (plan : EnumPlan) (source : String) : Nat :=
  plan.entries.countP (·.explicit.contains source)

/-- The target entry that a source entry becomes: the first one a directive names it
for, and otherwise the first one it maps to. -/
def targetOf? (plan : EnumPlan) (source : String) : Option String :=
  let directed := plan.entries.find? (·.explicit.contains source)
  let mapped := plan.entries.find? (·.sources.contains source)
  (directed.or mapped).map (·.target)

end EnumPlan

structure ValuePlan where
  target : Ty
  source : Ty
  conversion : Option Conversion
  strays : List Stray

inductive Plan where
  | construction (plan : ConstructorPlan)
  | enumeration (plan : EnumPlan)
  | value (plan : ValuePlan)

namespace Plan

def source : Plan → Ty
  | construction plan => plan.source
  | enumeration plan => plan.source
  | value plan => plan.source

def target : Plan → Ty
  | construction plan => plan.target
  | enumeration plan => plan.target
  | value plan => plan.target

def strays : Plan → List Stray
  | construction plan => plan.strays
  | enumeration plan => plan.strays
  | value plan => plan.strays

end Plan

/-! ### Assembly -/

namespace Contribution

def toStray (contribution : Contribution) : Stray :=
  ⟨contribution.target, some contribution.source, contribution.span⟩

end Contribution

structure Route where
  target : String
  entry : String
  span : Span
  deriving DecidableEq

def Assignment.toRoute (source target : Definition) (assignment : Assignment) :
    Except Failure Route :=
  match assignment.directive with
  | .entry entry =>
      if source.hasEntry entry.name then .ok ⟨assignment.target, entry.name, assignment.span⟩
      else .error ⟨.unknownEntry source.name entry.name, entry.span⟩
  | other => .error ⟨.inapplicable other.keyword target.name, assignment.span⟩

namespace Route

def toStray (route : Route) : Stray := ⟨route.target, none, route.span⟩

end Route

/-- The sources of a target entry: those that routes name, each once, and after them
the entry of the same name. -/
def EntryPlan.ofRoutes (source : Definition) (routes : List Route) (target : String) :
    EntryPlan :=
  let explicit := ((routes.filter (·.target = target)).map (·.entry)).eraseDups
  ⟨target, (explicit ++ source.entriesNamed target).eraseDups, explicit⟩

inductive Candidates where
  | single (plan : Plan)
  | constructors (plans : List ConstructorPlan)

namespace Context

def fallback? (context : Context) (parameter : Parameter) : Option Source :=
  (context.automaticSource? parameter.name parameter.type).or <|
    if parameter.hasDefault && context.policy.defaultArguments then
      some (.declaredDefault parameter.type context.mapper.span)
    else none

def member (context : Context) (contributions : List Contribution)
    (parameter : Parameter) : Member :=
  let explicit :=
    (contributions.filter (·.target = parameter.name)).map (·.source)
  ⟨parameter, if explicit.isEmpty then (context.fallback? parameter).toList else explicit⟩

def constructorPlan (context : Context) (contributions : List Contribution)
    (constructor : Constructor) : ConstructorPlan where
  target := context.mapper.target
  source := context.mapper.source
  constructor := constructor
  members := constructor.parameters.map (context.member contributions)
  strays :=
    (contributions.filter fun contribution =>
      (constructor.parameter? contribution.target).isNone).map (·.toStray)

def sourceEnum (context : Context) (target : Definition) : Except Failure Definition :=
  match context.source?.filter (·.isEnum) with
  | some source => .ok source
  | none =>
      .error <| context.failure <|
        .enumSourceRequired target.name (context.display context.mapper.source)

def enumPlan (context : Context) (target : Definition) (assignments : List Assignment) :
    Except Failure EnumPlan := do
  let source ← context.sourceEnum target
  let routes ← assignments.mapM (Assignment.toRoute source target)
  pure
    { target := context.mapper.target
      source := context.mapper.source
      entries := target.entries.map (EntryPlan.ofRoutes source routes)
      sourceEntries := source.entries
      strays := (routes.filter fun route => !target.hasEntry route.target).map (·.toStray) }

/-- A single value has no members, so every contribution is a stray. -/
def valuePlan (context : Context) (type : Ty) (contributions : List Contribution) :
    ValuePlan where
  target := type
  source := context.mapper.source
  conversion := context.mapper.source.conversion? type
  strays := contributions.map (·.toStray)

def assemble (context : Context) (assignments : List Assignment) :
    Except Failure Candidates := do
  match ← context.targetForm with
  | .value type =>
      let contributions ← context.contributions assignments
      pure (.single (.value (context.valuePlan type contributions)))
  | .enumeration target =>
      let plan ← context.enumPlan target assignments
      pure (.single (.enumeration plan))
  | .construction _ constructors =>
      let contributions ← context.contributions assignments
      pure (.constructors (constructors.map (context.constructorPlan contributions)))

end Context

/-! ### The choice among constructors -/

inductive Choice where
  | only
  | primary
  | mostExplicit (count : Nat)
  deriving DecidableEq

namespace ConstructorPlan

def mostExplicit (best : ConstructorPlan) : List ConstructorPlan → ConstructorPlan
  | [] => best
  | next :: rest =>
      if best.explicitCount < next.explicitCount then next.mostExplicit rest
      else best.mostExplicit rest

def choose? : List ConstructorPlan → Option (ConstructorPlan × Choice)
  | [] => none
  | [plan] => some (plan, .only)
  | first :: others =>
      match (first :: others).filter (·.constructor.isPrimary) with
      | [plan] => some (plan, .primary)
      | _ =>
          let best := first.mostExplicit others
          some (best, .mostExplicit best.explicitCount)

end ConstructorPlan

namespace Context

def choose (context : Context) (candidates : List ConstructorPlan) :
    Except Failure (ConstructorPlan × Choice) :=
  match ConstructorPlan.choose? candidates with
  | some chosen => .ok chosen
  | none =>
      .error (context.failure (.noVisibleConstructor (context.display context.mapper.target)))

def settle (context : Context) : Candidates → Except Failure (Plan × Option Choice)
  | .single plan => .ok (plan, none)
  | .constructors plans => do
      let (plan, choice) ← context.choose plans
      pure (.construction plan, some choice)

end Context

end MappingPlan
