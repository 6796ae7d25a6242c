/-
Types and definitions under other numbers, and lookups that answer the same under them.
Everything that is asked about a type has the same answer with the numbers exchanged, as long
as no two types come to share one. Such lookups find the same definitions and the same
mappers, and show every type by the same text.
-/

import Mathlib.Logic.Function.Basic
import MappingPlan.Catalog.Draft
import MappingPlan.Proofs.Ty.Layers

set_option autoImplicit false

namespace MappingPlan

namespace Ty

/-- The type with every declared type in it under its other number. -/
def renumbered (number : TypeId → TypeId) : Ty → Ty
  | named id => .named (number id)
  | list element => .list (element.renumbered number)
  | nullable inner => .nullable (inner.renumbered number)
  | type => type

variable (number : TypeId → TypeId)

theorem core_renumbered (type : Ty) :
    (type.renumbered number).core = type.core.renumbered number := by
  cases type <;> rfl

theorem isNullable_renumbered (type : Ty) :
    (type.renumbered number).isNullable = type.isNullable := by
  cases type <;> rfl

theorem isScalar_renumbered (type : Ty) :
    (type.renumbered number).isScalar = type.isScalar := by
  unfold isScalar
  rw [core_renumbered]
  cases type.core <;> rfl

theorem reference?_renumbered (type : Ty) :
    (type.renumbered number).reference? = type.reference?.map number := by
  unfold reference?
  rw [core_renumbered]
  cases type.core <;> rfl

theorem element?_renumbered (type : Ty) :
    (type.renumbered number).element? = type.element?.map (·.renumbered number) := by
  unfold element?
  rw [core_renumbered]
  cases type.core <;> rfl

theorem mentioned?_renumbered (type : Ty) :
    (type.renumbered number).mentioned? = type.mentioned?.map number := by
  induction type with
  | list element ih => exact ih
  | nullable inner ih => exact ih
  | _ => rfl

theorem render_renumbered (name : TypeId → String) (type : Ty) :
    (type.renumbered number).render name = type.render (fun id => name (number id)) := by
  induction type with
  | list element ih => simp only [renumbered, render, ih]
  | nullable inner ih => simp only [renumbered, render, ih]
  | _ => rfl

variable {number}

theorem renumbered_injective (distinct : Function.Injective number) :
    Function.Injective (renumbered number) := by
  intro first second same
  induction first generalizing second with
  | named id =>
      cases second with
      | named other => rw [distinct (named.inj same)]
      | _ => cases same
  | list element ih =>
      cases second with
      | list other => rw [ih (list.inj same)]
      | _ => cases same
  | nullable inner ih =>
      cases second with
      | nullable other => rw [ih (nullable.inj same)]
      | _ => cases same
  | _ => cases second <;> first | exact same | cases same

theorem renumbered_inj (distinct : Function.Injective number) {first second : Ty} :
    first.renumbered number = second.renumbered number ↔ first = second :=
  (renumbered_injective distinct).eq_iff

theorem renumbered_eq_null_iff (type : Ty) : type.renumbered number = .null ↔ type = .null := by
  cases type <;> simp [renumbered]

/-- Whether types convert does not depend on their numbers. -/
theorem conversion?_renumbered (distinct : Function.Injective number) (source target : Ty) :
    (source.renumbered number).conversion? (target.renumbered number) =
      source.conversion? target := by
  induction target generalizing source with
  | any => rfl
  | nullable inner ih =>
      change (source.renumbered number).conversion? (.nullable (inner.renumbered number)) = _
      rw [conversion?_into_nullable, conversion?_into_nullable, core_renumbered, ih]
      simp only [renumbered_eq_null_iff]
  | list element ih =>
      change (source.renumbered number).conversion? (.list (element.renumbered number)) = _
      cases source with
      | list value => simp only [renumbered, conversion?, ih, list.injEq, renumbered_inj distinct]
      | _ => rfl
  | named id =>
      change (source.renumbered number).conversion? (.named (number id)) = _
      cases source with
      | named other => simp only [renumbered, conversion?, named.injEq, distinct.eq_iff]
      | _ => rfl
  | _ => cases source <;> rfl

theorem assignableTo_renumbered (distinct : Function.Injective number) (source target : Ty) :
    (source.renumbered number).assignableTo (target.renumbered number) =
      source.assignableTo target := by
  unfold assignableTo
  rw [conversion?_renumbered distinct]

end Ty

/-! ### Definitions -/

def Parameter.renumbered (number : TypeId → TypeId) (parameter : Parameter) : Parameter :=
  { parameter with type := parameter.type.renumbered number }

def Constructor.renumbered (number : TypeId → TypeId) (constructor : Constructor) : Constructor :=
  { constructor with parameters := constructor.parameters.map (·.renumbered number) }

def Getter.renumbered (number : TypeId → TypeId) (getter : Getter) : Getter :=
  { getter with owner := number getter.owner }

def Property.renumbered (number : TypeId → TypeId) (property : Property) : Property :=
  { property with
    type := property.type.renumbered number
    getter := property.getter.renumbered number }

def EntryPoint.renumbered (number : TypeId → TypeId) (point : EntryPoint) : EntryPoint :=
  { point with
    parameter := point.parameter.renumbered number
    result := point.result.renumbered number }

def DefinitionBody.renumbered (number : TypeId → TypeId) : DefinitionBody → DefinitionBody
  | classBody constructors properties =>
      .classBody (constructors.map (·.renumbered number)) (properties.map (·.renumbered number))
  | enumBody entries => .enumBody entries
  | mapperBody source target entryPoints =>
      .mapperBody (source.renumbered number) (target.renumbered number)
        (entryPoints.map (·.renumbered number))

def Definition.renumbered (number : TypeId → TypeId) (definition : Definition) : Definition where
  id := number definition.id
  name := definition.name
  body := definition.body.renumbered number

theorem Constructor.parameter?_renumbered (number : TypeId → TypeId) (constructor : Constructor)
    (name : String) :
    (constructor.renumbered number).parameter? name =
      (constructor.parameter? name).map (·.renumbered number) := by
  unfold parameter? renumbered
  rw [List.find?_map]
  rfl

namespace Definition

variable (number : TypeId → TypeId) (definition : Definition)

theorem isEnum_renumbered : (definition.renumbered number).isEnum = definition.isEnum := by
  obtain ⟨id, name, body⟩ := definition
  cases body <;> rfl

theorem isMapper_renumbered : (definition.renumbered number).isMapper = definition.isMapper := by
  obtain ⟨id, name, body⟩ := definition
  cases body <;> rfl

theorem constructors_renumbered :
    (definition.renumbered number).constructors =
      definition.constructors.map (·.renumbered number) := by
  obtain ⟨id, name, body⟩ := definition
  cases body <;> rfl

theorem properties_renumbered :
    (definition.renumbered number).properties =
      definition.properties.map (·.renumbered number) := by
  obtain ⟨id, name, body⟩ := definition
  cases body <;> rfl

theorem entries_renumbered : (definition.renumbered number).entries = definition.entries := by
  obtain ⟨id, name, body⟩ := definition
  cases body <;> rfl

theorem entryPoints_renumbered :
    (definition.renumbered number).entryPoints =
      definition.entryPoints.map (·.renumbered number) := by
  obtain ⟨id, name, body⟩ := definition
  cases body <;> rfl

theorem visibleConstructors_renumbered :
    (definition.renumbered number).visibleConstructors =
      definition.visibleConstructors.map (·.renumbered number) := by
  unfold visibleConstructors
  rw [constructors_renumbered, List.filter_map]
  rfl

theorem property?_renumbered (name : String) :
    (definition.renumbered number).property? name =
      (definition.property? name).map (·.renumbered number) := by
  unfold property?
  rw [properties_renumbered, List.find?_map]
  rfl

theorem entryPoint?_renumbered (kind : EntryPointKind) :
    (definition.renumbered number).entryPoint? kind =
      (definition.entryPoint? kind).map (·.renumbered number) := by
  unfold entryPoint?
  rw [entryPoints_renumbered, List.find?_map]
  rfl

theorem hasEntry_renumbered (name : String) :
    (definition.renumbered number).hasEntry name = definition.hasEntry name := by
  unfold hasEntry
  rw [entries_renumbered]

theorem mentions_renumbered :
    (definition.renumbered number).mentions =
      definition.mentions.map (·.renumbered number) := by
  obtain ⟨id, name, body⟩ := definition
  cases body with
  | classBody constructors properties =>
      simp only [renumbered, DefinitionBody.renumbered, mentions, List.map_append,
        List.map_flatMap, List.flatMap_map, List.map_map, Constructor.renumbered]
      rfl
  | enumBody entries => rfl
  | mapperBody source target entryPoints =>
      simp only [renumbered, DefinitionBody.renumbered, mentions, List.map_cons,
        List.map_flatMap, List.flatMap_map]
      rfl

theorem firstUnknown?_renumbered {known others : TypeId → Bool}
    (same : ∀ id, others (number id) = known id) :
    (definition.renumbered number).firstUnknown? others =
      (definition.firstUnknown? known).map number := by
  have mentioned : (definition.mentions.map (·.renumbered number)).filterMap Ty.mentioned? =
      (definition.mentions.filterMap Ty.mentioned?).map number := by
    rw [List.filterMap_map, List.map_filterMap]
    congr 1
    funext type
    exact type.mentioned?_renumbered number
  unfold firstUnknown?
  rw [mentions_renumbered, mentioned, List.find?_map]
  simp only [Function.comp_def, same]

end Definition

def ConstructorOutline.renumbered (number : TypeId → TypeId) (outline : ConstructorOutline) :
    ConstructorOutline :=
  { outline with parameters := outline.parameters.map (·.renumbered number) }

def DeclarationBody.renumbered (number : TypeId → TypeId) : DeclarationBody → DeclarationBody
  | classBody properties constructors =>
      .classBody (properties.map fun property => (property.1, property.2.renumbered number))
        (constructors.map (·.renumbered number))
  | enumBody entries => .enumBody entries
  | mapperBody source target entryPoints =>
      .mapperBody (source.renumbered number) (target.renumbered number)
        (entryPoints.map (·.renumbered number))

def Declaration.renumbered (number : TypeId → TypeId) (declaration : Declaration) :
    Declaration :=
  { declaration with body := declaration.body.renumbered number }

namespace Declaration

variable (number : TypeId → TypeId) (declaration : Declaration)

theorem toDefinition_renumbered (id : TypeId) :
    (declaration.renumbered number).toDefinition (number id) =
      (declaration.toDefinition id).renumbered number := by
  obtain ⟨name, body⟩ := declaration
  cases body with
  | classBody properties constructors =>
      simp only [renumbered, DeclarationBody.renumbered, toDefinition, Definition.renumbered,
        DefinitionBody.renumbered, List.map_map, List.mapIdx_eq_zipIdx_map, List.zipIdx_map]
      rfl
  | enumBody entries => rfl
  | mapperBody source target entryPoints => rfl

theorem repeatedParameter?_renumbered (outline : ConstructorOutline) :
    (outline.renumbered number).repeatedParameter? = outline.repeatedParameter? := by
  unfold ConstructorOutline.repeatedParameter? ConstructorOutline.renumbered
  rw [List.map_map]
  rfl

theorem fault?_renumbered : (declaration.renumbered number).fault? = declaration.fault? := by
  obtain ⟨name, body⟩ := declaration
  cases body with
  | classBody properties constructors =>
      simp only [renumbered, DeclarationBody.renumbered, fault?, List.map_map, List.countP_map,
        List.findSome?_map, Function.comp_def, repeatedParameter?_renumbered]
      rfl
  | enumBody entries => rfl
  | mapperBody source target entryPoints =>
      simp only [renumbered, DeclarationBody.renumbered, fault?, List.map_map]
      rfl

end Declaration

namespace TypeLookup

/-- Two lookups of the same types under different numbers. What is not declared goes by
the same number in both. -/
structure Renumbers (number : TypeId → TypeId) (types others : TypeLookup) : Prop where
  distinct : Function.Injective number
  definition? : ∀ id,
    others.definition? (number id) = (types.definition? id).map (·.renumbered number)
  mappersBetween : ∀ source target,
    (others.mappersBetween (source.renumbered number) (target.renumbered number)).Perm
      ((types.mappersBetween source target).map (·.renumbered number))
  undeclared : ∀ id, types.definition? id = none → number id = id

namespace Renumbers

variable {number : TypeId → TypeId} {types others : TypeLookup}

theorem declared? (renumbers : Renumbers number types others) (type : Ty) :
    others.declared? (type.renumbered number) =
      (types.declared? type).map (·.renumbered number) := by
  unfold TypeLookup.declared?
  rw [Ty.reference?_renumbered]
  cases type.reference? with
  | none => rfl
  | some id => exact renumbers.definition? id

theorem nameOf (renumbers : Renumbers number types others) (id : TypeId) :
    others.nameOf (number id) = types.nameOf id := by
  unfold TypeLookup.nameOf
  rw [renumbers.definition?]
  cases found : types.definition? id with
  | some definition => rfl
  | none => exact congrArg TypeId.text (renumbers.undeclared id found)

theorem display (renumbers : Renumbers number types others) (type : Ty) :
    others.display (type.renumbered number) = types.display type := by
  unfold TypeLookup.display
  rw [Ty.render_renumbered, funext renumbers.nameOf]

end Renumbers

end TypeLookup

end MappingPlan
