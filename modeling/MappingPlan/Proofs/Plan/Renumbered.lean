/-
Plans under other numbers, and what a review finds about them. A finding shows types by
their text, so a plan and the same plan under other numbers are reviewed to the same
diagnostics.
-/

import MappingPlan.Proofs.Directive.Renumbered
import MappingPlan.Resolution

set_option autoImplicit false

namespace MappingPlan

variable (number : TypeId → TypeId)

def EntryCall.renumbered (call : EntryCall) : EntryCall :=
  { call with
    mapper := number call.mapper
    parameter := call.parameter.renumbered number
    result := call.result.renumbered number }

def Adapter.renumbered : Adapter → Adapter
  | closure body => .closure (body.renumbered number)
  | mapper call => .mapper (call.renumbered number)

def PropertyRead.renumbered (read : PropertyRead) : PropertyRead :=
  { read with
    getter := read.getter.renumbered number
    type := read.type.renumbered number
    adapter := read.adapter.map (·.renumbered number) }

def Source.renumbered : Source → Source
  | property read => .property (read.renumbered number)
  | expression body => .expression (body.renumbered number)
  | constant value type => .constant value (type.renumbered number)
  | declaredDefault type span => .declaredDefault (type.renumbered number) span

def Contribution.renumbered (contribution : Contribution) : Contribution :=
  { contribution with source := contribution.source.renumbered number }

def Stray.renumbered (stray : Stray) : Stray :=
  { stray with source := stray.source.map (·.renumbered number) }

def Member.renumbered (member : Member) : Member where
  parameter := member.parameter.renumbered number
  sources := member.sources.map (·.renumbered number)

def ConstructorPlan.renumbered (plan : ConstructorPlan) : ConstructorPlan where
  target := plan.target.renumbered number
  source := plan.source.renumbered number
  constructor := plan.constructor.renumbered number
  members := plan.members.map (·.renumbered number)
  strays := plan.strays.map (·.renumbered number)

def EnumPlan.renumbered (plan : EnumPlan) : EnumPlan :=
  { plan with
    target := plan.target.renumbered number
    source := plan.source.renumbered number
    strays := plan.strays.map (·.renumbered number) }

def ValuePlan.renumbered (plan : ValuePlan) : ValuePlan :=
  { plan with
    target := plan.target.renumbered number
    source := plan.source.renumbered number
    strays := plan.strays.map (·.renumbered number) }

def Plan.renumbered : Plan → Plan
  | construction plan => .construction (plan.renumbered number)
  | enumeration plan => .enumeration (plan.renumbered number)
  | value plan => .value (plan.renumbered number)

/-- The resolution with the numbers in its plan exchanged. There are none in the reason of
the choice or in what was found. -/
def Resolved.renumbered (resolved : Resolved) : Resolved :=
  { resolved with plan := resolved.plan.renumbered number }

namespace Source

variable (source : Source)

theorem type_renumbered : (source.renumbered number).type = source.type.renumbered number := by
  cases source with
  | property read =>
      obtain ⟨getter, type, isAutomatic, adapter, span⟩ := read
      cases adapter with
      | none => rfl
      | some adapter =>
          cases adapter with
          | closure body => exact body.result_renumbered number
          | mapper call => rfl
  | expression body => exact body.result_renumbered number
  | _ => rfl

theorem span_renumbered : (source.renumbered number).span = source.span := by
  cases source with
  | expression body => exact body.span_renumbered number
  | _ => rfl

theorem isAutomatic_renumbered : (source.renumbered number).isAutomatic = source.isAutomatic := by
  cases source <;> rfl

end Source

theorem Adapter.input?_renumbered (adapter : Adapter) :
    (adapter.renumbered number).input? = adapter.input?.map (·.renumbered number) := by
  cases adapter with
  | closure body => exact body.parameter_renumbered number
  | mapper call => rfl

theorem Member.isExplicit_renumbered (member : Member) :
    (member.renumbered number).isExplicit = member.isExplicit := by
  unfold isExplicit renumbered
  rw [List.any_map]
  congr 1
  funext source
  simp only [Function.comp_apply, Source.isExplicit, Source.isAutomatic_renumbered]

theorem ConstructorPlan.explicitCount_renumbered (plan : ConstructorPlan) :
    (plan.renumbered number).explicitCount = plan.explicitCount := by
  unfold explicitCount renumbered
  rw [List.countP_map]
  congr 1
  funext member
  exact member.isExplicit_renumbered number

theorem Plan.target_renumbered (plan : Plan) :
    (plan.renumbered number).target = plan.target.renumbered number := by
  cases plan <;> rfl

theorem Plan.strays_renumbered (plan : Plan) :
    (plan.renumbered number).strays = plan.strays.map (·.renumbered number) := by
  cases plan <;> rfl

namespace Context

def renumbered (others : TypeLookup) (context : Context) : Context where
  types := others
  policy := context.policy
  mapper := context.mapper.renumbered number

variable {number} {context : Context} {others : TypeLookup}
  (renumbers : context.types.Renumbers number others)

include renumbers

theorem display_renumbered (type : Ty) :
    (context.renumbered number others).display (type.renumbered number) = context.display type :=
  renumbers.display type

theorem accepts_renumbered (found expected : Ty) :
    (context.renumbered number others).accepts (found.renumbered number)
        (expected.renumbered number) =
      context.accepts found expected := by
  unfold accepts
  rw [Ty.conversion?_renumbered renumbers.distinct]
  rfl

theorem callee_renumbered (adapter : Adapter) :
    (context.renumbered number others).callee (adapter.renumbered number) =
      context.callee adapter := by
  cases adapter with
  | closure body => rfl
  | mapper call =>
      unfold callee Adapter.renumbered EntryCall.renumbered
      exact congrArg (· ++ "." ++ call.kind.text) (renumbers.nameOf call.mapper)

theorem inputFindings_renumbered (target member : String) (read : PropertyRead) :
    (context.renumbered number others).inputFindings target member (read.renumbered number) =
      context.inputFindings target member read := by
  obtain ⟨getter, type, isAutomatic, adapter, span⟩ := read
  cases adapter with
  | none => rfl
  | some adapter =>
      simp only [inputFindings, PropertyRead.renumbered, Option.map_some,
        Adapter.input?_renumbered, callee_renumbered renumbers]
      cases adapter.input? with
      | none => rfl
      | some expected =>
          simp only [Option.map_some, accepts_renumbered renumbers,
            display_renumbered renumbers]
          rfl

theorem typeFindings_renumbered (target : String) (parameter : Parameter) (source : Source) :
    (context.renumbered number others).typeFindings target (parameter.renumbered number)
        (source.renumbered number) =
      context.typeFindings target parameter source := by
  simp only [typeFindings, Parameter.renumbered, Source.type_renumbered,
    Source.span_renumbered, Source.isAutomatic_renumbered, accepts_renumbered renumbers,
    display_renumbered renumbers]
  rfl

theorem sourceFindings_renumbered (target : String) (parameter : Parameter) (source : Source) :
    (context.renumbered number others).sourceFindings target (parameter.renumbered number)
        (source.renumbered number) =
      context.sourceFindings target parameter source := by
  cases source with
  | property read =>
      have atInput := inputFindings_renumbered renumbers target parameter.name read
      have atType := typeFindings_renumbered renumbers target parameter (.property read)
      exact congrArg₂ List.append atInput atType
  | expression body => exact typeFindings_renumbered renumbers target parameter (.expression body)
  | constant value type =>
      exact typeFindings_renumbered renumbers target parameter (.constant value type)
  | declaredDefault type span => rfl

theorem memberFindings_renumbered (target : String) (member : Member) :
    (context.renumbered number others).memberFindings target (member.renumbered number) =
      context.memberFindings target member := by
  obtain ⟨parameter, sources⟩ := member
  match sources with
  | [] => rfl
  | [source] => exact sourceFindings_renumbered renumbers target parameter source
  | first :: second :: rest =>
      simp only [memberFindings, Member.renumbered, List.map_cons, Source.span_renumbered]
      rfl

theorem partFindings_renumbered (plan : Plan) :
    (context.renumbered number others).partFindings (plan.renumbered number) =
      context.partFindings plan := by
  cases plan with
  | construction plan =>
      simp only [partFindings, Plan.renumbered, ConstructorPlan.renumbered,
        display_renumbered renumbers, List.flatMap_map, memberFindings_renumbered renumbers]
  | enumeration plan =>
      simp only [partFindings, Plan.renumbered, EnumPlan.renumbered,
        display_renumbered renumbers]
      rfl
  | value plan =>
      simp only [partFindings, Plan.renumbered, ValuePlan.renumbered,
        display_renumbered renumbers]
      rfl

theorem review_renumbered (plan : Plan) :
    (context.renumbered number others).review (plan.renumbered number) = context.review plan := by
  unfold review
  rw [partFindings_renumbered renumbers, Plan.target_renumbered, Plan.strays_renumbered,
    display_renumbered renumbers, List.map_map]
  rfl

end Context

end MappingPlan
