/-
What a declared type is: a class with properties and constructors, an enum with entries, or
a mapper with entry points. All parts are in declaration order, and none is there where the
kind of type has no such parts. A resolution sees declared types only through the two
questions of a lookup, so it depends on their answers alone.
-/

import MappingPlan.Expr

set_option autoImplicit false

namespace MappingPlan

structure Parameter where
  name : String
  type : Ty
  hasDefault : Bool := false
  deriving DecidableEq

structure Constructor where
  index : Nat
  parameters : List Parameter
  isPrimary : Bool
  isVisible : Bool
  deriving DecidableEq

namespace Constructor

def parameter? (constructor : Constructor) (name : String) : Option Parameter :=
  constructor.parameters.find? (·.name = name)

end Constructor

structure Getter where
  owner : TypeId
  name : String
  deriving DecidableEq

structure Property where
  name : String
  type : Ty
  getter : Getter
  deriving DecidableEq

inductive EntryPointKind where
  | map
  | mapList
  deriving DecidableEq

namespace EntryPointKind

def keyword : EntryPointKind → Keyword
  | map => .map
  | mapList => .mapList

def text (kind : EntryPointKind) : String := kind.keyword.text

end EntryPointKind

structure EntryPoint where
  kind : EntryPointKind
  parameter : Ty
  result : Ty
  deriving DecidableEq

namespace EntryPoint

def single (source target : Ty) : EntryPoint := ⟨.map, source, target⟩

def elementwise (source target : Ty) : EntryPoint := ⟨.mapList, .list source, .list target⟩

end EntryPoint

inductive DefinitionBody where
  | classBody (constructors : List Constructor) (properties : List Property)
  | enumBody (entries : List String)
  | mapperBody (source target : Ty) (entryPoints : List EntryPoint)
  deriving DecidableEq

structure Definition where
  id : TypeId
  name : String
  body : DefinitionBody
  deriving DecidableEq

namespace Definition

def isEnum (definition : Definition) : Bool :=
  match definition.body with
  | .enumBody _ => true
  | _ => false

def isMapper (definition : Definition) : Bool :=
  match definition.body with
  | .mapperBody _ _ _ => true
  | _ => false

def constructors (definition : Definition) : List Constructor :=
  match definition.body with
  | .classBody constructors _ => constructors
  | _ => []

def properties (definition : Definition) : List Property :=
  match definition.body with
  | .classBody _ properties => properties
  | _ => []

def entries (definition : Definition) : List String :=
  match definition.body with
  | .enumBody entries => entries
  | _ => []

def entryPoints (definition : Definition) : List EntryPoint :=
  match definition.body with
  | .mapperBody _ _ entryPoints => entryPoints
  | _ => []

def visibleConstructors (definition : Definition) : List Constructor :=
  definition.constructors.filter (·.isVisible)

def primary? (definition : Definition) : Option Constructor :=
  definition.constructors.find? (·.isPrimary)

def property? (definition : Definition) (name : String) : Option Property :=
  definition.properties.find? (·.name = name)

def hasEntry (definition : Definition) (name : String) : Bool :=
  definition.entries.contains name

def entryPoint? (definition : Definition) (kind : EntryPointKind) : Option EntryPoint :=
  definition.entryPoints.find? (·.kind = kind)

/-- The types a definition mentions: constructor parameters before properties; the
source and target of a mapper before its entry points. -/
def mentions (definition : Definition) : List Ty :=
  match definition.body with
  | .classBody constructors properties =>
      constructors.flatMap (fun constructor => constructor.parameters.map (·.type)) ++
        properties.map (·.type)
  | .enumBody _ => []
  | .mapperBody source target entryPoints =>
      source :: target :: entryPoints.flatMap (fun point => [point.parameter, point.result])

def firstUnknown? (known : TypeId → Bool) (definition : Definition) : Option TypeId :=
  (definition.mentions.filterMap Ty.mentioned?).find? (fun id => !known id)

end Definition

structure TypeLookup where
  definition? : TypeId → Option Definition
  /-- The mappers whose entry point for one value has exactly this parameter and
  result. -/
  mappersBetween : Ty → Ty → List Definition

namespace TypeLookup

/-- The definition behind a type, seen through one level of nullability. -/
def declared? (types : TypeLookup) (type : Ty) : Option Definition :=
  type.reference?.bind types.definition?

def entryPoint? (types : TypeLookup) (mapper : TypeId) (kind : EntryPointKind) :
    Option EntryPoint :=
  (types.definition? mapper).bind (·.entryPoint? kind)

/-- The name a declared type is shown by: the declared one, or its number. -/
def nameOf (types : TypeLookup) (id : TypeId) : String :=
  match types.definition? id with
  | some definition => definition.name
  | none => id.text

def display (types : TypeLookup) (type : Ty) : String := type.render types.nameOf

end TypeLookup

end MappingPlan
