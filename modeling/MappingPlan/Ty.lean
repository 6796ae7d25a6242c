/-
Static types of the values a mapper moves: primitives, strings, references to declared
types, lists, types that also admit null, the type of every value, and the type of the null
literal. A type has exactly one written form.

A value of one type reaches a slot of another as it is, or through one implicit widening of
a primitive. Lists convert only by identity of their elements, so a widening never happens
inside a list.
-/

set_option autoImplicit false

namespace MappingPlan

structure TypeId where
  number : UInt32
  deriving DecidableEq

namespace TypeId

def text (id : TypeId) : String := "t" ++ toString id.number.toNat

end TypeId

inductive Primitive where
  | bool
  | byte
  | short
  | int
  | long
  | float
  | double
  | char
  deriving DecidableEq

namespace Primitive

def text : Primitive → String
  | bool => "Boolean"
  | byte => "Byte"
  | short => "Short"
  | int => "Int"
  | long => "Long"
  | float => "Float"
  | double => "Double"
  | char => "Char"

/-- The implicit widening steps. They are not transitive: a byte never widens to
a double although an int does. -/
def widensTo : Primitive → Primitive → Bool
  | byte, short | byte, int | byte, long => true
  | short, int | short, long => true
  | int, long | int, double => true
  | float, double => true
  | _, _ => false

end Primitive

inductive Ty where
  | primitive (kind : Primitive)
  | string
  | named (id : TypeId)
  | list (element : Ty)
  /-- The type or null. Wrapping twice is expressible and differs from once. -/
  | nullable (inner : Ty)
  | any
  | null
  deriving DecidableEq

namespace Ty

def orNull : Ty → Ty
  | nullable inner => nullable inner
  | type => nullable type

/-- Strip one level of nullability. -/
def core : Ty → Ty
  | nullable inner => inner
  | type => type

def isNullable : Ty → Bool
  | nullable _ => true
  | _ => false

def isPrimitive : Ty → Bool
  | primitive _ => true
  | _ => false

def isString : Ty → Bool
  | string => true
  | _ => false

def isScalar (type : Ty) : Bool := type.core.isPrimitive || type.core.isString

def reference? (type : Ty) : Option TypeId :=
  match type.core with
  | named id => some id
  | _ => none

def element? (type : Ty) : Option Ty :=
  match type.core with
  | list element => some element
  | _ => none

/-- The declared type that occurs at any depth of a type. There is at most one. -/
def mentioned? : Ty → Option TypeId
  | named id => some id
  | list element => element.mentioned?
  | nullable inner => inner.mentioned?
  | _ => none

def render (name : TypeId → String) : Ty → String
  | primitive kind => kind.text
  | string => "String"
  | named id => name id
  | list element => "List<" ++ element.render name ++ ">"
  | nullable inner => inner.render name ++ "?"
  | any => "Any"
  | null => "Nothing?"

def text (type : Ty) : String := type.render TypeId.text

end Ty

/-! ### Conversions -/

inductive Conversion where
  | identity
  | widening (source target : Primitive)
  deriving DecidableEq

namespace Ty

/-- The conversion from a type to the type of a slot, if there is one. A nullable
slot takes null and whatever its inner type takes; a nullable value never
reaches a slot that does not admit null. -/
def conversion? (source : Ty) : Ty → Option Conversion
  | any => some .identity
  | nullable inner =>
      if source = nullable inner then some .identity else
        match source with
        | null => some .identity
        | nullable value => value.conversion? inner
        | value => value.conversion? inner
  | list element =>
      if source = list element then some .identity else
        match source with
        | list value =>
            if value.conversion? element = some .identity then some .identity else none
        | _ => none
  | primitive slot =>
      match source with
      | primitive value =>
          if value = slot then some .identity
          else if value.widensTo slot then some (.widening value slot)
          else none
      | _ => none
  | target => if source = target then some .identity else none

def assignableTo (source target : Ty) : Bool :=
  source.conversion? target = some .identity

end Ty

end MappingPlan
