/-
Mappers as their authors wrote them: the words of the language, literals with their types
and written form, and the expressions of a body, each with its location. Every call in a body
that means something is named by a keyword. The all-zero span stands for a node without a
location of its own.
-/

import MappingPlan.Decimal
import MappingPlan.Ty

set_option autoImplicit false

namespace MappingPlan

structure Span where
  start : UInt64 := 0
  stop : UInt64 := 0
  line : UInt64 := 0
  column : UInt64 := 0
  deriving DecidableEq

namespace Span

def unknown : Span := {}

def atPosition (line column : UInt64) : Span := { line, column }

/-- Where a finding about a node is shown: at the node, or at `fallback` if the
node has no location. -/
def orElse (span fallback : Span) : Span :=
  if span = unknown then fallback else span

def text (span : Span) : String :=
  s!"line {span.line.toNat}, column {span.column.toNat}"

end Span

inductive Keyword where
  | mapping
  | property
  | constant
  | expression
  | transform
  | via
  | fromEnumEntry
  | map
  | mapList
  deriving DecidableEq

namespace Keyword

def text : Keyword → String
  | mapping => "mapping"
  | property => "property"
  | constant => "constant"
  | expression => "expression"
  | transform => "transform"
  | via => "via"
  | fromEnumEntry => "fromEnumEntry"
  | map => "map"
  | mapList => "mapList"

def ofText? : String → Option Keyword
  | "mapping" => some mapping
  | "property" => some property
  | "constant" => some constant
  | "expression" => some expression
  | "transform" => some transform
  | "via" => some via
  | "fromEnumEntry" => some fromEnumEntry
  | "map" => some map
  | "mapList" => some mapList
  | _ => none

theorem ofText?_text (keyword : Keyword) : ofText? keyword.text = some keyword := by
  cases keyword <;> rfl

theorem ofText?_eq_some_iff {text : String} {keyword : Keyword} :
    ofText? text = some keyword ↔ text = keyword.text := by
  constructor
  · intro found
    unfold ofText? at found
    split at found <;> cases found <;> rfl
  · intro same
    rw [same, ofText?_text]

end Keyword

inductive LiteralValue where
  | null
  | bool (value : Bool)
  | int (value : Int32)
  | long (value : Int64)
  | float (word : UInt32)
  | double (word : UInt64)
  | char (value : Char)
  | string (value : String)
  deriving DecidableEq

namespace LiteralValue

def type : LiteralValue → Ty
  | null => .null
  | bool _ => .primitive .bool
  | int _ => .primitive .int
  | long _ => .primitive .long
  | float _ => .primitive .float
  | double _ => .primitive .double
  | char _ => .primitive .char
  | string _ => .string

/-- Longs end in `L` and single-precision numbers in `f`; quoted text is not
escaped. -/
def text : LiteralValue → String
  | null => "null"
  | bool value => if value then "true" else "false"
  | int value => toString value.toInt
  | long value => toString value.toInt ++ "L"
  | float word => (Decimal.Format.single.read word.toNat).text ++ "f"
  | double word => (Decimal.Format.double.read word.toNat).text
  | char value => "'" ++ value.toString ++ "'"
  | string value => "\"" ++ value ++ "\""

end LiteralValue

structure Literal where
  value : LiteralValue
  span : Span := .unknown
  deriving DecidableEq

namespace Literal

def type (literal : Literal) : Ty := literal.value.type

end Literal

structure MemberRef where
  owner : Ty
  name : String
  type : Ty
  span : Span := .unknown
  deriving DecidableEq

structure EntryRef where
  owner : Ty
  name : String
  span : Span := .unknown
  deriving DecidableEq

structure MapperRef where
  mapper : TypeId
  forList : Bool := false
  span : Span := .unknown
  deriving DecidableEq

/-- A closure over expressions `α`. Outside the block of a mapper its body is
carried along unread. -/
structure ClosureOf (α : Type) where
  parameter : Option Ty := none
  result : Ty := .any
  body : List α := []
  span : Span := .unknown

structure CallOf (α : Type) where
  name : String
  receiver : Option α := none
  arguments : List α := []
  span : Span := .unknown

inductive Expr where
  | call (node : CallOf Expr)
  | member (node : MemberRef)
  | entry (node : EntryRef)
  | literal (node : Literal)
  | closure (node : ClosureOf Expr)
  | mapper (node : MapperRef)
  | returned (value : Expr) (span : Span)

abbrev Call := CallOf Expr

abbrev Closure := ClosureOf Expr

inductive ExprKind where
  | call
  | member
  | entry
  | literal
  | closure
  | mapper
  | returned
  deriving DecidableEq

def ExprKind.text : ExprKind → String
  | .call => "call"
  | .member => "member reference"
  | .entry => "enum entry reference"
  | .literal => "literal"
  | .closure => "closure"
  | .mapper => "mapper reference"
  | .returned => "return"

namespace Expr

def kind : Expr → ExprKind
  | call _ => .call
  | member _ => .member
  | entry _ => .entry
  | literal _ => .literal
  | closure _ => .closure
  | mapper _ => .mapper
  | returned _ _ => .returned

def span : Expr → Span
  | call node => node.span
  | member node => node.span
  | entry node => node.span
  | literal node => node.span
  | closure node => node.span
  | mapper node => node.span
  | returned _ span => span

/-- The expression under any number of returns. -/
def unwrapped : Expr → Expr
  | returned value _ => value.unwrapped
  | expression => expression

end Expr

/-- A mapper as written: what it converts into what, and the body that says how.
Without a body every member is found automatically. -/
structure Mapper where
  name : String
  source : Ty
  target : Ty
  body : Option Expr := none
  span : Span := .unknown

end MappingPlan
