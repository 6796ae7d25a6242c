/-
Which mapper call discovery puts between a property and a member, said without the search:
the only mapper that takes the one type to the other or to what the other is besides null,
and for lists the only one that takes the elements. A call of the whole value always fits;
a call for lists does not fit a list that may be null.
-/

import MappingPlan.Proofs.Catalog.Scan
import MappingPlan.Proofs.Plan.Review
import MappingPlan.Proofs.Source.Contribution
import MappingPlan.Proofs.Ty.Preorder

set_option autoImplicit false

namespace MappingPlan

theorem eq_singleton_iff_of_nodup {Value : Type} {values : List Value} (distinct : values.Nodup)
    (only : Value) : values = [only] ↔ only ∈ values ∧ ∀ other ∈ values, other = only := by
  constructor
  · intro same
    subst same
    exact ⟨List.mem_singleton_self only, fun _ => List.mem_singleton.mp⟩
  · intro sole
    apply List.perm_singleton.mp
    rw [List.perm_ext_iff_of_nodup distinct (List.nodup_singleton only)]
    intro other
    rw [List.mem_singleton]
    exact ⟨sole.2 other, fun same => same ▸ sole.1⟩

def Ty.IsListOf (type element : Ty) : Prop :=
  type = .list element ∨ type = .nullable (.list element)

theorem Ty.element?_eq_some_iff (type element : Ty) :
    type.element? = some element ↔ type.IsListOf element := by
  unfold element? IsListOf
  cases type with
  | list inner => simp [core]
  | nullable inner => cases inner <;> simp [core]
  | _ => simp [core]

namespace Catalog

variable {catalog : Catalog} {source target : Ty} {mapper : Definition}

/-- A registered mapper with an entry point for one value from the one type to the other. -/
def Maps (catalog : Catalog) (mapper : Definition) (source target : Ty) : Prop :=
  ∃ id, catalog.definition? id = some mapper ∧ mapper.isMapper = true ∧
    ∃ point, mapper.entryPoint? .map = some point ∧
      point.parameter = source ∧ point.result = target

def OnlyMapper (catalog : Catalog) (source target : Ty) (mapper : Definition) : Prop :=
  catalog.Maps mapper source target ∧ ∀ other, catalog.Maps other source target → other = mapper

/-- The only mapper between two types or, if there is none and the target admits null, the
only one to what the target is besides null. -/
def Reaches (catalog : Catalog) (source target : Ty) (mapper : Definition) : Prop :=
  catalog.OnlyMapper source target mapper ∨
    (∀ other, ¬catalog.Maps other source target) ∧
      ∃ inner, target = .nullable inner ∧ catalog.OnlyMapper source inner mapper

theorem IsBuilt.mappersBetween_eq_singleton_iff (built : catalog.IsBuilt) :
    catalog.mappersBetween source target = [mapper] ↔ catalog.OnlyMapper source target mapper := by
  rw [eq_singleton_iff_of_nodup (built.nodup_mappersBetween source target)]
  simp only [built.mem_mappersBetween_iff_entryPoint?]
  rfl

theorem IsBuilt.mappersBetween_isEmpty_iff (built : catalog.IsBuilt) :
    (catalog.mappersBetween source target).isEmpty = true ↔
      ∀ other, ¬catalog.Maps other source target := by
  rw [List.isEmpty_iff, List.eq_nil_iff_forall_not_mem]
  simp only [built.mem_mappersBetween_iff_entryPoint?]
  rfl

end Catalog

namespace Context

variable {context : Context} {catalog : Catalog} {source target : Ty} {mapper : Definition}

section

variable (built : catalog.IsBuilt) (types : context.types = catalog.lookup)

include built types

theorem onlyMapper?_eq_some_iff :
    context.onlyMapper? source target = some mapper ↔ catalog.Reaches source target mapper := by
  rw [onlyMapper?_eq, sole?_eq_some_iff]
  unfold mappersFor Catalog.Reaches
  rw [types]
  change (if (catalog.mappersBetween source target).isEmpty && target.isNullable then
    catalog.mappersBetween source target.core else catalog.mappersBetween source target) = _ ↔ _
  by_cases empty : (catalog.mappersBetween source target).isEmpty = true
  · have unmapped := built.mappersBetween_isEmpty_iff.mp empty
    have notDirect : ¬catalog.OnlyMapper source target mapper := fun only => unmapped mapper only.1
    rw [or_iff_right notDirect, and_iff_right unmapped, empty, Bool.true_and]
    cases target with
    | nullable inner =>
        simp only [Ty.nullable.injEq, exists_eq_left']
        exact built.mappersBetween_eq_singleton_iff
    | _ =>
        refine iff_of_false (notDirect ∘ built.mappersBetween_eq_singleton_iff.mp) ?_
        simp only [reduceCtorEq, false_and, exists_false, not_false_eq_true]
  · have mapped : ¬∀ other, ¬catalog.Maps other source target :=
      empty ∘ built.mappersBetween_isEmpty_iff.mpr
    rw [Bool.not_eq_true] at empty
    rw [empty, Bool.false_and, if_neg Bool.false_ne_true, built.mappersBetween_eq_singleton_iff,
      or_iff_left fun both => mapped both.1]

theorem onlyCall?_eq_some_iff (kind : EntryPointKind) (call : EntryCall) :
    context.onlyCall? source target kind = some call ↔
      ∃ mapper point, catalog.Reaches source target mapper ∧
        mapper.entryPoint? kind = some point ∧
        call = ⟨mapper.id, kind, point.parameter, point.result⟩ := by
  unfold onlyCall?
  simp only [Option.bind_eq_bind, Option.bind_eq_some_iff, onlyMapper?_eq_some_iff built types,
    Option.pure_def, Option.some.injEq, @eq_comm _ call, exists_and_left]

end

end Context

namespace Catalog

variable {catalog : Catalog} {source target : Ty} {mapper : Definition}

/-- The mapper found is registered, takes the one type, and gives the other or the other
without null. -/
theorem Reaches.exists_point (reaches : catalog.Reaches source target mapper) :
    ∃ id point, catalog.definition? id = some mapper ∧ mapper.entryPoint? .map = some point ∧
      point.parameter = source ∧ point.result.conversion? target = some .identity := by
  rcases reaches with only | ⟨-, inner, rfl, only⟩
  · obtain ⟨id, found, -, point, atMap, takes, gives⟩ := only.1
    exact ⟨id, point, found, atMap, takes, gives ▸ Ty.conversion?_self _⟩
  · obtain ⟨id, found, -, point, atMap, takes, gives⟩ := only.1
    exact ⟨id, point, found, atMap, takes, gives ▸ Ty.conversion?_nullable_self _⟩

theorem Reaches.registered (built : catalog.IsBuilt)
    (reaches : catalog.Reaches source target mapper) :
    catalog.definition? mapper.id = some mapper := by
  obtain ⟨id, -, found, -⟩ := reaches.exists_point
  rw [built.ownId found]
  exact found

end Catalog

namespace Context

variable {context : Context} {catalog : Catalog} {source target : Ty}

section

variable (built : catalog.IsBuilt) (types : context.types = catalog.lookup)

include built types

theorem onlyCall?_map_eq_none_iff :
    context.onlyCall? source target .map = none ↔
      ∀ mapper, ¬catalog.Reaches source target mapper := by
  rw [Option.eq_none_iff_forall_ne_some]
  constructor
  · intro uncalled mapper reaches
    obtain ⟨id, point, -, atMap, -⟩ := reaches.exists_point
    exact uncalled _ ((onlyCall?_eq_some_iff built types .map _).mpr
      ⟨mapper, point, reaches, atMap, rfl⟩)
  · intro unreached call called
    obtain ⟨mapper, point, reaches, -⟩ := (onlyCall?_eq_some_iff built types .map call).mp called
    exact unreached mapper reaches

/-- Discovery finds the call of the whole value, or else that for lists. -/
theorem nestedCall?_eq_some_iff (call : EntryCall) :
    context.nestedCall? source target = some call ↔
      (∃ mapper point, catalog.Reaches source target mapper ∧
        mapper.entryPoint? .map = some point ∧
        call = ⟨mapper.id, .map, point.parameter, point.result⟩) ∨
      (∀ mapper, ¬catalog.Reaches source target mapper) ∧
        ∃ sourceElement targetElement, source.IsListOf sourceElement ∧
          target.IsListOf targetElement ∧
          ∃ mapper point, catalog.Reaches sourceElement targetElement mapper ∧
            mapper.entryPoint? .mapList = some point ∧
            call = ⟨mapper.id, .mapList, point.parameter, point.result⟩ := by
  unfold nestedCall?
  rw [Option.or_eq_some_iff, onlyCall?_eq_some_iff built types,
    onlyCall?_map_eq_none_iff built types]
  simp only [Option.bind_eq_bind, Option.bind_eq_some_iff, Ty.element?_eq_some_iff,
    onlyCall?_eq_some_iff built types, exists_and_left]

/-- What a call records is what the entry point of a registered mapper declares. -/
theorem exists_point_of_nestedCall? {call : EntryCall}
    (found : context.nestedCall? source target = some call) :
    ∃ mapper point, catalog.definition? call.mapper = some mapper ∧
      mapper.entryPoint? call.kind = some point ∧
      call.parameter = point.parameter ∧ call.result = point.result := by
  rcases (nestedCall?_eq_some_iff built types call).mp found with
    ⟨mapper, point, reaches, atKind, rfl⟩ | ⟨-, _, _, -, -, mapper, point, reaches, atKind, rfl⟩
  · exact ⟨mapper, point, reaches.registered built, atKind, rfl, rfl⟩
  · exact ⟨mapper, point, reaches.registered built, atKind, rfl, rfl⟩

/-- A call of the whole value takes what is there and gives what fits. -/
theorem conversion?_of_nestedCall?_map {call : EntryCall}
    (found : context.nestedCall? source target = some call) (single : call.kind = .map) :
    call.parameter = source ∧ call.result.conversion? target = some .identity := by
  rcases (nestedCall?_eq_some_iff built types call).mp found with
    ⟨mapper, point, reaches, atMap, rfl⟩ | ⟨-, _, _, -, -, _, _, -, -, rfl⟩
  · obtain ⟨_, other, -, alsoAtMap, takes, gives⟩ := reaches.exists_point
    obtain rfl := Option.some.inj (atMap.symm.trans alsoAtMap)
    exact ⟨takes, gives⟩
  · cases single

theorem exists_nestedCall?_map_iff {id : TypeId} {mapper : Definition}
    (registered : catalog.definition? id = some mapper) :
    (∃ call, context.nestedCall? source target = some call ∧ call.mapper = id ∧
      call.kind = .map) ↔ catalog.Reaches source target mapper := by
  simp only [nestedCall?_eq_some_iff built types]
  constructor
  · intro found
    obtain ⟨_, ⟨other, point, reaches, -, rfl⟩ | ⟨-, _, _, -, -, _, _, -, -, rfl⟩, rfl, single⟩ :=
      found
    · exact Option.some.inj ((reaches.registered built).symm.trans registered) ▸ reaches
    · cases single
  · intro reaches
    obtain ⟨_, point, -, atMap, -⟩ := reaches.exists_point
    exact ⟨_, Or.inl ⟨mapper, point, reaches, atMap, rfl⟩, built.ownId registered, rfl⟩

theorem exists_nestedCall?_mapList_iff {id : TypeId} {mapper : Definition}
    (registered : catalog.definition? id = some mapper) :
    (∃ call, context.nestedCall? source target = some call ∧ call.mapper = id ∧
      call.kind = .mapList) ↔
      (∀ other, ¬catalog.Reaches source target other) ∧
        ∃ sourceElement targetElement, source.IsListOf sourceElement ∧
          target.IsListOf targetElement ∧
          catalog.Reaches sourceElement targetElement mapper ∧
          ∃ point, mapper.entryPoint? .mapList = some point := by
  simp only [nestedCall?_eq_some_iff built types]
  constructor
  · intro found
    obtain ⟨_, ⟨_, _, -, -, rfl⟩ | ⟨unreached, _, _, ofList, toList, other, point, reaches,
      atList, rfl⟩, rfl, elementwise⟩ := found
    · cases elementwise
    · obtain rfl := Option.some.inj ((reaches.registered built).symm.trans registered)
      exact ⟨unreached, _, _, ofList, toList, reaches, point, atList⟩
  · intro discovered
    obtain ⟨unreached, _, _, ofList, toList, reaches, point, atList⟩ := discovered
    exact ⟨_, Or.inr ⟨unreached, _, _, ofList, toList, mapper, point, reaches, atList, rfl⟩,
      built.ownId registered, rfl⟩

end

end Context

/-- The entry points of a mapper take its source to its target, or lists of the one to lists
of the other. -/
def Definition.IsUniform (definition : Definition) : Prop :=
  ∀ source target points, definition.body = .mapperBody source target points →
    ∀ point ∈ points, point = .single source target ∨ point = .elementwise source target

theorem Definition.IsUniform.elementwise {mapper : Definition} (uniform : mapper.IsUniform)
    {single elementwise : EntryPoint} (atMap : mapper.entryPoint? .map = some single)
    (atList : mapper.entryPoint? .mapList = some elementwise) :
    elementwise.parameter = .list single.parameter ∧
      elementwise.result = .list single.result := by
  obtain ⟨id, name, body⟩ := mapper
  cases body with
  | mapperBody source target points =>
      have singleKind := List.find?_some atMap
      have elementwiseKind := List.find?_some atList
      rcases uniform source target points rfl single (List.mem_of_find?_eq_some atMap) with
        rfl | rfl
      · rcases uniform source target points rfl elementwise (List.mem_of_find?_eq_some atList) with
          rfl | rfl
        · cases elementwiseKind
        · exact ⟨rfl, rfl⟩
      · cases singleKind
  | _ => cases atMap

/-- A list of elements that fit fits where a list of the element or null is wanted. -/
theorem Ty.IsListOf.conversion?_of_element {type element inner : Ty}
    (isList : type.IsListOf element) (stored : inner.conversion? element = some .identity) :
    (Ty.list inner).conversion? type = some .identity := by
  have elementwise : (Ty.list inner).conversion? (.list element) = some .identity := by
    rw [← assignableTo_iff, list_assignableTo_list, assignableTo_iff]
    exact stored
  rcases isList with rfl | rfl
  · exact elementwise
  · rw [conversion?_into_nullable, if_neg nofun]
    exact elementwise

namespace Context

variable {context : Context} {catalog : Catalog} {source target : Ty}

/-- If the entry points of mappers agree, a call for lists takes lists of what the elements
are, and gives a list that fits. -/
theorem conversion?_of_nestedCall?_mapList (built : catalog.IsBuilt)
    (types : context.types = catalog.lookup)
    (uniform : ∀ id definition, catalog.definition? id = some definition → definition.IsUniform)
    {call : EntryCall} (found : context.nestedCall? source target = some call)
    (elementwise : call.kind = .mapList) :
    ∃ element, source.IsListOf element ∧ call.parameter = .list element ∧
      call.result.conversion? target = some .identity := by
  rcases (nestedCall?_eq_some_iff built types call).mp found with
    ⟨_, _, -, -, rfl⟩ | ⟨-, element, _, ofList, toList, mapper, point, reaches, atList, rfl⟩
  · cases elementwise
  · obtain ⟨id, single, registered, atMap, takes, gives⟩ := reaches.exists_point
    obtain ⟨takesLists, givesLists⟩ := (uniform id mapper registered).elementwise atMap atList
    refine ⟨element, ofList, ?_, ?_⟩
    · rw [takesLists, takes]
    · rw [givesLists]
      exact toList.conversion?_of_element gives

end Context

/-! ### What a review finds about a call -/

def Property.readThrough (property : Property) (call? : Option EntryCall) : PropertyRead where
  getter := property.getter
  type := property.type
  isAutomatic := true
  adapter := call?.map .mapper

namespace Context

variable {context : Context} {property : Property} {call : EntryCall} {parameter : Parameter}

theorem memberFindings_readThrough (target : String)
    (fits : call.result.conversion? parameter.type = some .identity) :
    context.memberFindings target ⟨parameter, [.property (property.readThrough (some call))]⟩ =
      context.inputFindings target parameter.name (property.readThrough (some call)) := by
  have noMisfit : context.typeFindings target parameter
      (.property (property.readThrough (some call))) = [] :=
    if_pos ((accepts_iff _ _).mpr (Policy.accepts_of_identity fits))
  change _ ++ _ = _
  rw [noMisfit, List.append_nil]

theorem memberFindings_of_fit (target : String)
    (takes : property.type.conversion? call.parameter = some .identity)
    (fits : call.result.conversion? parameter.type = some .identity) :
    context.memberFindings target ⟨parameter, [.property (property.readThrough (some call))]⟩ =
      [] := by
  rw [memberFindings_readThrough target fits]
  exact if_pos ((accepts_iff _ _).mpr (Policy.accepts_of_identity takes))

theorem memberFindings_of_misfit (target : String)
    (refuses : property.type.conversion? call.parameter = none)
    (fits : call.result.conversion? parameter.type = some .identity) :
    context.memberFindings target ⟨parameter, [.property (property.readThrough (some call))]⟩ =
      [(Finding.adapterInput (context.callee (.mapper call)) target parameter.name
        (context.display call.parameter) (context.display property.type)).report
          context.mapper.span] := by
  rw [memberFindings_readThrough target fits]
  exact if_neg (Policy.not_accepts_of_none refuses ∘ (accepts_iff _ _).mp)

section

variable {catalog : Catalog} {slot : Ty} (built : catalog.IsBuilt)
  (types : context.types = catalog.lookup)

include built types

theorem memberFindings_of_map
    (found : context.nestedCall? property.type parameter.type = some call)
    (single : call.kind = .map) (reviewer : Context) (target : String) :
    reviewer.memberFindings target ⟨parameter, [.property (property.readThrough (some call))]⟩ =
      [] := by
  obtain ⟨takes, gives⟩ := conversion?_of_nestedCall?_map built types found single
  refine memberFindings_of_fit target ?_ gives
  rw [takes]
  exact Ty.conversion?_self property.type

/-- No list that may be null is taken for a list. -/
theorem memberFindings_of_mapList
    (uniform : ∀ id definition, catalog.definition? id = some definition → definition.IsUniform)
    (found : context.nestedCall? property.type parameter.type = some call)
    (elementwise : call.kind = .mapList) (reviewer : Context) (target : String) :
    reviewer.memberFindings target ⟨parameter, [.property (property.readThrough (some call))]⟩ =
      if property.type.isNullable then
        [(Finding.adapterInput (reviewer.callee (.mapper call)) target parameter.name
          (reviewer.display call.parameter) (reviewer.display property.type)).report
            reviewer.mapper.span]
      else [] := by
  obtain ⟨element, isList, takes, gives⟩ :=
    conversion?_of_nestedCall?_mapList built types uniform found elementwise
  rcases isList with plain | orNull
  · have notNullable : property.type.isNullable = false := by rw [plain]; rfl
    rw [notNullable, if_neg Bool.false_ne_true]
    refine memberFindings_of_fit target ?_ gives
    rw [plain, takes]
    exact Ty.conversion?_self (.list element)
  · have isNullable : property.type.isNullable = true := by rw [orNull]; rfl
    rw [isNullable, if_pos rfl]
    refine memberFindings_of_misfit target ?_ gives
    rw [orNull, takes]
    rfl

end

/-! ### Discovery -/

theorem discovered?_of_assignable {type slot : Ty} (assignable : type.assignableTo slot = true) :
    context.discovered? type slot = none := by
  unfold discovered?
  rw [assignable, Bool.not_true, Bool.and_false]
  exact if_neg Bool.false_ne_true

theorem discovered?_of_not_assignable (enabled : context.policy.nestedMappers = true)
    {type slot : Ty} (notAssignable : type.assignableTo slot = false) :
    context.discovered? type slot = context.nestedCall? type slot := by
  unfold discovered?
  rw [enabled, notAssignable]
  rfl

theorem nestedCall?_of_discovered? {type slot : Ty}
    (discovered : context.discovered? type slot = some call) :
    context.nestedCall? type slot = some call := by
  unfold discovered? at discovered
  split at discovered
  next => exact discovered
  next => cases discovered

/-- A property found by name is read as it is if it is assignable. If not, it is read through
the mapper that reaches the member, which is never complained of under any policy, or, if
none does and both are lists, through the one that reaches its elements, if that can be
called for lists. Recorded are the types of the entry point that is called. If the entry
points of all mappers agree, a call for lists is complained of exactly if the property may be
null, and then once. -/
theorem discovery_of_built {catalog : Catalog} (built : catalog.IsBuilt)
    (types : context.types = catalog.lookup) (enabled : context.policy.nestedMappers = true)
    {source : Definition} (declared : context.source? = some source) {name : String}
    (named : source.property? name = some property) (slot : Ty) :
    ∃ call? : Option EntryCall,
      context.automaticSource? name slot = some (.property (property.readThrough call?)) ∧
      (property.type.assignableTo slot = true → call? = none) ∧
      (property.type.assignableTo slot = false →
        ∀ id mapper, catalog.definition? id = some mapper →
          ((∃ call, call? = some call ∧ call.mapper = id ∧ call.kind = .map) ↔
            catalog.Reaches property.type slot mapper) ∧
          ((∃ call, call? = some call ∧ call.mapper = id ∧ call.kind = .mapList) ↔
            (∀ other, ¬catalog.Reaches property.type slot other) ∧
              ∃ element slotElement, property.type.IsListOf element ∧
                slot.IsListOf slotElement ∧ catalog.Reaches element slotElement mapper ∧
                ∃ point, mapper.entryPoint? .mapList = some point)) ∧
      ∀ call, call? = some call →
        (∃ mapper point, catalog.definition? call.mapper = some mapper ∧
          mapper.entryPoint? call.kind = some point ∧
          call.parameter = point.parameter ∧ call.result = point.result) ∧
        ∀ (reviewer : Context) (target : String) (parameter : Parameter),
          parameter.type = slot →
          let findings := reviewer.memberFindings target
            ⟨parameter, [.property (property.readThrough call?)]⟩
          (call.kind = .map → findings = []) ∧
          ((∀ id definition, catalog.definition? id = some definition → definition.IsUniform) →
            call.kind = .mapList →
            findings = if property.type.isNullable then
              [(Finding.adapterInput (reviewer.callee (.mapper call)) target parameter.name
                (reviewer.display call.parameter) (reviewer.display property.type)).report
                  reviewer.mapper.span]
            else []) := by
  have namedProperty : context.namedProperty? name = some property := by
    unfold namedProperty?
    rw [declared]
    exact named
  refine ⟨context.discovered? property.type slot, ?_, discovered?_of_assignable, ?_, ?_⟩
  · rw [automaticSource?_eq, namedProperty]
    rfl
  · intro notAssignable id mapper registered
    rw [discovered?_of_not_assignable enabled notAssignable]
    exact ⟨exists_nestedCall?_map_iff built types registered,
      exists_nestedCall?_mapList_iff built types registered⟩
  · intro call discovered
    have found := nestedCall?_of_discovered? discovered
    refine ⟨exists_point_of_nestedCall? built types found, ?_⟩
    intro reviewer target parameter sameType
    subst sameType
    rw [discovered]
    constructor
    · intro single
      exact memberFindings_of_map built types found single reviewer target
    · intro uniform elementwise
      exact memberFindings_of_mapList built types uniform found elementwise reviewer target

/-- Colors, paints, a mapper from the ones to the others, and a car of one color and, it may
be, of several. -/
def garageSteps : List Draft.Step :=
  [.declare ⟨"Color", .enumBody ["RED"]⟩,
    .declare ⟨"Paint", .enumBody ["RED"]⟩,
    .declare ⟨"Painting", .mapperBody (.named ⟨0⟩) (.named ⟨1⟩)
      [.single (.named ⟨0⟩) (.named ⟨1⟩), .elementwise (.named ⟨0⟩) (.named ⟨1⟩)]⟩,
    .declare ⟨"Car", .classBody
      [("color", .named ⟨0⟩), ("others", .nullable (.list (.named ⟨0⟩)))] []⟩]

def garage : Catalog :=
  let draft := (Draft.empty.run garageSteps).2
  ⟨draft.definitions, draft.names, .ofDefinitions draft.definitions.values⟩

theorem garage_isBuilt : garage.IsBuilt := ⟨garageSteps, rfl⟩

theorem garage_isUniform (id : TypeId) (definition : Definition)
    (found : garage.definition? id = some definition) : definition.IsUniform := by
  have stored := (garage_isBuilt.mem_values_iff definition).mpr ⟨id, found⟩
  change definition ∈ [_, _, _, _] at stored
  simp only [List.mem_cons, List.not_mem_nil, or_false] at stored
  intro source target points body point among
  rcases stored with rfl | rfl | rfl | rfl
  · cases body
  · cases body
  · obtain ⟨rfl, rfl, rfl⟩ := DefinitionBody.mapperBody.inj body
    exact List.mem_pair.mp among
  · cases body

def car : Definition where
  id := ⟨3⟩
  name := "Car"
  body := .classBody [] [⟨"color", .named ⟨0⟩, ⟨⟨3⟩, "color"⟩⟩,
    ⟨"others", .nullable (.list (.named ⟨0⟩)), ⟨⟨3⟩, "others"⟩⟩]

/-- A car painted over. -/
def painting : Context where
  types := garage.lookup
  policy := .standard
  mapper := { name := "Paintwork", source := .named ⟨3⟩, target := .any }

/-- The color goes through the mapper into what may be a paint; the other colors go through
it for lists, which takes no list that may be null. -/
theorem painting_discovery :
    (∃ read call,
      painting.automaticSource? "color" (.nullable (.named ⟨1⟩)) = some (.property read) ∧
        read.adapter = some (.mapper call) ∧ call.mapper = ⟨2⟩ ∧ call.kind = .map ∧
        ∀ reviewer : Context, reviewer.memberFindings "Van"
          ⟨⟨"color", .nullable (.named ⟨1⟩), false⟩, [.property read]⟩ = []) ∧
      ∃ read call,
        painting.automaticSource? "others" (.list (.nullable (.named ⟨1⟩))) =
            some (.property read) ∧
          read.adapter = some (.mapper call) ∧ call.mapper = ⟨2⟩ ∧ call.kind = .mapList ∧
          ∀ reviewer : Context, (reviewer.memberFindings "Van"
            ⟨⟨"others", .list (.nullable (.named ⟨1⟩)), false⟩, [.property read]⟩).length = 1 := by
  have types : painting.types = garage.lookup := rfl
  have enabled : painting.policy.nestedMappers = true := rfl
  have declared : painting.source? = some car := rfl
  have registered : garage.definition? ⟨2⟩ = some _ := rfl
  have mapped : painting.onlyMapper? (.named ⟨0⟩) (.nullable (.named ⟨1⟩)) = some _ := rfl
  have reaches := (onlyMapper?_eq_some_iff garage_isBuilt types).mp mapped
  constructor
  · have color : car.property? "color" = some _ := rfl
    obtain ⟨call?, found, -, through, called⟩ := discovery_of_built garage_isBuilt types enabled
      declared color (.nullable (.named ⟨1⟩))
    obtain ⟨call, attached, calls, single⟩ := (through rfl ⟨2⟩ _ registered).1.mpr reaches
    subst attached
    refine ⟨_, call, found, rfl, calls, single, ?_⟩
    intro reviewer
    exact ((called call rfl).2 reviewer "Van" _ rfl).1 single
  · have others : car.property? "others" = some _ := rfl
    have unmapped : painting.onlyCall? (.nullable (.list (.named ⟨0⟩)))
      (.list (.nullable (.named ⟨1⟩))) .map = none := rfl
    have unreached := (onlyCall?_map_eq_none_iff garage_isBuilt types).mp unmapped
    obtain ⟨call?, found, -, through, called⟩ := discovery_of_built garage_isBuilt types enabled
      declared others (.list (.nullable (.named ⟨1⟩)))
    obtain ⟨call, attached, calls, elementwise⟩ := (through rfl ⟨2⟩ _ registered).2.mpr
      ⟨unreached, _, _, Or.inr rfl, Or.inl rfl, reaches, _, rfl⟩
    subst attached
    refine ⟨_, call, found, rfl, calls, elementwise, ?_⟩
    intro reviewer
    have complaint := ((called call rfl).2 reviewer "Van"
      ⟨"others", .list (.nullable (.named ⟨1⟩)), false⟩ rfl).2 garage_isUniform elementwise
    exact congrArg List.length complaint

end Context

end MappingPlan
