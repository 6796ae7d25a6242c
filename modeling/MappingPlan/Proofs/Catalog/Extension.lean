/-
Catalogs with further declarations. What was declared before stays as it is, so whatever
speaks of earlier declarations only is shown and looked up as before, and a review comes to
the same where more types are declared than the plan mentions. Between two types only a
further mapper of exactly their signature makes a difference.
-/

import MappingPlan.Proofs.Catalog.Closing
import MappingPlan.Proofs.Catalog.Index
import MappingPlan.Resolution

set_option autoImplicit false

namespace MappingPlan

namespace TypeLookup

/-- Everything that occurs in the type is declared. -/
def Knows (types : TypeLookup) (type : Ty) : Prop :=
  ∀ id, type.Occurs id → ∃ definition, types.definition? id = some definition

/-- What is declared in the one lookup is declared in the other just the same. -/
def Extends (types others : TypeLookup) : Prop :=
  ∀ id definition, types.definition? id = some definition →
    others.definition? id = some definition

/-- Every definition is declared under its own number, what it uses is declared as well, and
so is every mapper that is found between two types. -/
structure Closed (types : TypeLookup) : Prop where
  ownId : ∀ id definition, types.definition? id = some definition → definition.id = id
  knows : ∀ id definition, types.definition? id = some definition →
    ∀ type, definition.Uses type → types.Knows type
  mappers : ∀ source target, ∀ mapper ∈ types.mappersBetween source target,
    types.definition? mapper.id = some mapper

variable {types others : TypeLookup}

theorem Knows.of_reference? {type : Ty} (known : types.Knows type) {id : TypeId}
    (referenced : type.reference? = some id) :
    ∃ definition, types.definition? id = some definition := by
  apply known
  unfold Ty.reference? at referenced
  cases type with
  | named other =>
      obtain rfl := Option.some.inj referenced
      exact .named
  | nullable inner =>
      cases inner with
      | named other =>
          obtain rfl := Option.some.inj referenced
          exact .nullable .named
      | _ => cases referenced
  | _ => cases referenced

namespace Extends

theorem definition?_eq (wider : types.Extends others) {id : TypeId}
    (declared : ∃ definition, types.definition? id = some definition) :
    others.definition? id = types.definition? id := by
  obtain ⟨definition, found⟩ := declared
  rw [found, wider id definition found]

theorem nameOf (wider : types.Extends others) {id : TypeId}
    (declared : ∃ definition, types.definition? id = some definition) :
    others.nameOf id = types.nameOf id := by
  unfold TypeLookup.nameOf
  rw [wider.definition?_eq declared]

theorem display (wider : types.Extends others) {type : Ty} (known : types.Knows type) :
    others.display type = types.display type := by
  unfold TypeLookup.display
  induction type with
  | named id => exact wider.nameOf (known id .named)
  | list element ih =>
      unfold Ty.render
      rw [ih fun id occurs => known id (.list occurs)]
  | nullable inner ih =>
      unfold Ty.render
      rw [ih fun id occurs => known id (.nullable occurs)]
  | _ => rfl

theorem declared? (wider : types.Extends others) {type : Ty} (known : types.Knows type) :
    others.declared? type = types.declared? type := by
  unfold TypeLookup.declared?
  cases referenced : type.reference? with
  | none => rfl
  | some id => exact wider.definition?_eq (known.of_reference? referenced)

end Extends

end TypeLookup

namespace Draft

theorem run_append (draft : Draft) (steps more : List Step) :
    draft.run (steps ++ more) =
      ((draft.run steps).1 ++ ((draft.run steps).2.run more).1,
        ((draft.run steps).2.run more).2) := by
  induction steps generalizing draft with
  | nil => rfl
  | cons head rest ih => rw [List.cons_append, run_cons, run_cons, ih, List.cons_append]

theorem Declares.append {draft : Draft} {steps : List Step} {declaration : Declaration}
    {id : TypeId} (declares : draft.Declares steps declaration id) (more : List Step) :
    draft.Declares (steps ++ more) declaration id := by
  unfold Declares history at declares ⊢
  rw [run_append, List.zip_append (length_run draft steps).symm]
  exact List.mem_append_left _ declares

/-- Further declarations leave the earlier ones in place, as long as the numbers last. -/
theorem find?_append {steps more : List Step} (lasts : (steps ++ more).length < 2 ^ 32)
    {id : TypeId} {definition : Definition}
    (found : (Draft.empty.run steps).2.definitions.find? id = some definition) :
    (Draft.empty.run (steps ++ more)).2.definitions.find? id = some definition := by
  have lastsBefore : steps.length < 2 ^ 32 := by
    rw [List.length_append] at lasts
    omega
  obtain ⟨declaration, declares, same⟩ :=
    (find?_definitions_iff lastsBefore id definition).mp found
  exact (find?_definitions_iff lasts id definition).mpr ⟨declaration, declares.append more, same⟩

end Draft

/-! ### Catalogs -/

namespace Catalog

theorem extends_of_append {steps more : List Draft.Step}
    (lasts : (steps ++ more).length < 2 ^ 32) {catalog extended : Catalog}
    (closed : (Draft.empty.run steps).2.close = .ok catalog)
    (extendedClosed : (Draft.empty.run (steps ++ more)).2.close = .ok extended) :
    catalog.lookup.Extends extended.lookup := by
  intro id definition found
  rw [Draft.close_eq_ok closed] at found
  rw [Draft.close_eq_ok extendedClosed]
  exact Draft.find?_append lasts found

variable {catalog extended : Catalog}

theorem IsBuilt.knows (built : catalog.IsBuilt) {id : TypeId} {definition : Definition}
    (found : catalog.lookup.definition? id = some definition) {type : Ty}
    (uses : definition.Uses type) : catalog.lookup.Knows type := by
  obtain ⟨steps, closed⟩ := built
  have coherent := Draft.run_coherent Draft.coherent_empty steps
  have referenceClosed :=
    (Draft.closeVisiting_isOk_iff coherent (List.Perm.refl _)).mp ⟨catalog, closed⟩
  intro reference occurs
  have same := Draft.closeVisiting_eq_ok closed
  unfold lookup definition? at found ⊢
  rw [same] at found ⊢
  exact referenceClosed id definition found type uses reference occurs

theorem IsBuilt.closed (built : catalog.IsBuilt) : catalog.lookup.Closed where
  ownId := fun _ _ found => built.ownId found
  knows := fun _ _ found _ uses => built.knows found uses
  mappers := by
    intro source target mapper listed
    obtain ⟨id, found, -⟩ := (built.mem_mappersBetween_iff source target mapper).mp listed
    rw [built.ownId found]
    exact found

/-- Unless a further mapper has their signature, the mappers between two types are the
same. -/
theorem mappersBetween_perm (built : catalog.IsBuilt) (extendedBuilt : extended.IsBuilt)
    (wider : catalog.lookup.Extends extended.lookup) {source target : Ty}
    (absent : ∀ id mapper, catalog.definition? id = none →
      extended.definition? id = some mapper → mapper.signature? ≠ some (source, target)) :
    (extended.mappersBetween source target).Perm (catalog.mappersBetween source target) := by
  apply (List.perm_ext_iff_of_nodup (extendedBuilt.nodup_mappersBetween source target)
    (built.nodup_mappersBetween source target)).mpr
  intro mapper
  rw [built.mem_mappersBetween_iff, extendedBuilt.mem_mappersBetween_iff]
  constructor
  · intro listed
    obtain ⟨id, found, signature⟩ := listed
    cases before : catalog.definition? id with
    | none => exact absurd signature (absent id mapper before found)
    | some definition =>
        have same := wider id definition before
        obtain rfl := Option.some.inj (same.symm.trans found)
        exact ⟨id, before, signature⟩
  · intro listed
    obtain ⟨id, found, signature⟩ := listed
    exact ⟨id, wider id mapper found, signature⟩

end Catalog

/-! ### Reviews of plans -/

def Adapter.types : Adapter → List Ty
  | closure body => body.result :: body.parameter.toList
  | mapper call => [.named call.mapper, call.parameter, call.result]

def Source.types : Source → List Ty
  | property read => read.type :: (read.adapter.map Adapter.types).getD []
  | expression body => [body.result]
  | constant _ type => [type]
  | declaredDefault type _ => [type]

def Member.types (member : Member) : List Ty :=
  member.parameter.type :: member.sources.flatMap Source.types

def Plan.types : Plan → List Ty
  | construction plan => plan.target :: plan.members.flatMap Member.types
  | enumeration plan => [plan.target, plan.source]
  | value plan => [plan.target, plan.source]

theorem Source.type_mem_types (source : Source) : source.type ∈ source.types := by
  cases source with
  | property read =>
      obtain ⟨getter, type, isAutomatic, adapter, span⟩ := read
      cases adapter with
      | none => exact List.mem_cons_self
      | some adapter =>
          apply List.mem_cons_of_mem
          cases adapter with
          | closure body => exact List.mem_cons_self
          | mapper call => exact List.mem_cons_of_mem _ (List.mem_cons_of_mem _ List.mem_cons_self)
  | _ => exact List.mem_singleton_self _

theorem Adapter.input_mem_types {adapter : Adapter} {input : Ty}
    (given : adapter.input? = some input) : input ∈ adapter.types := by
  cases adapter with
  | closure body => exact List.mem_cons_of_mem _ (Option.mem_toList.mpr given)
  | mapper call =>
      obtain rfl := Option.some.inj given
      exact List.mem_cons_of_mem _ List.mem_cons_self

theorem Plan.target_mem_types (plan : Plan) : plan.target ∈ plan.types := by
  cases plan <;> exact List.mem_cons_self

namespace Context

def withTypes (context : Context) (others : TypeLookup) : Context :=
  { context with types := others }

variable {context : Context} {others : TypeLookup} (wider : context.types.Extends others)

include wider

theorem display_withTypes {type : Ty} (known : context.types.Knows type) :
    (context.withTypes others).display type = context.display type :=
  wider.display known

theorem callee_withTypes {adapter : Adapter}
    (known : ∀ type ∈ adapter.types, context.types.Knows type) :
    (context.withTypes others).callee adapter = context.callee adapter := by
  cases adapter with
  | closure body => rfl
  | mapper call =>
      have declared := known (.named call.mapper) List.mem_cons_self call.mapper .named
      exact congrArg (· ++ "." ++ call.kind.text) (wider.nameOf declared)

theorem inputFindings_withTypes (target member : String) {read : PropertyRead}
    (known : ∀ type ∈ (Source.property read).types, context.types.Knows type) :
    (context.withTypes others).inputFindings target member read =
      context.inputFindings target member read := by
  obtain ⟨knownRead, knownAdapter⟩ := List.forall_mem_cons.mp known
  unfold inputFindings
  cases adapted : read.adapter with
  | none => rfl
  | some adapter =>
      rw [adapted] at knownAdapter
      dsimp only
      cases given : adapter.input? with
      | none => rfl
      | some input =>
          dsimp only
          rw [callee_withTypes wider knownAdapter, display_withTypes wider knownRead,
            display_withTypes wider (knownAdapter input (Adapter.input_mem_types given))]
          rfl

theorem typeFindings_withTypes (target : String) {parameter : Parameter} {source : Source}
    (knownSlot : context.types.Knows parameter.type)
    (known : ∀ type ∈ source.types, context.types.Knows type) :
    (context.withTypes others).typeFindings target parameter source =
      context.typeFindings target parameter source := by
  unfold typeFindings
  rw [display_withTypes wider knownSlot,
    display_withTypes wider (known source.type source.type_mem_types)]
  rfl

theorem memberFindings_withTypes (target : String) {member : Member}
    (known : ∀ type ∈ member.types, context.types.Knows type) :
    (context.withTypes others).memberFindings target member =
      context.memberFindings target member := by
  obtain ⟨parameter, sources⟩ := member
  obtain ⟨knownSlot, knownSources⟩ := List.forall_mem_cons.mp known
  match sources with
  | [] => rfl
  | [source] =>
      have knownSource : ∀ type ∈ source.types, context.types.Knows type := fun type mentioned =>
        knownSources type (List.mem_flatMap.mpr ⟨source, List.mem_cons_self, mentioned⟩)
      have atType := typeFindings_withTypes wider target knownSlot knownSource
      cases source with
      | property read =>
          have atInput := inputFindings_withTypes wider target parameter.name knownSource
          exact congrArg₂ List.append atInput atType
      | declaredDefault type span => rfl
      | expression body => exact atType
      | constant value type => exact atType
  | first :: second :: rest => rfl

/-- A plan that mentions declared types only is reviewed to the same diagnostics. -/
theorem review_withTypes {plan : Plan}
    (known : ∀ type ∈ plan.types, context.types.Knows type) :
    (context.withTypes others).review plan = context.review plan := by
  have parts : (context.withTypes others).partFindings plan = context.partFindings plan := by
    cases plan with
    | construction plan =>
        obtain ⟨knownTarget, knownMembers⟩ := List.forall_mem_cons.mp known
        unfold partFindings
        dsimp only
        rw [display_withTypes wider knownTarget]
        apply List.flatMap_congr
        intro member among
        apply memberFindings_withTypes wider
        exact fun type mentioned =>
          knownMembers type (List.mem_flatMap.mpr ⟨member, among, mentioned⟩)
    | enumeration plan =>
        obtain ⟨knownTarget, knownSource⟩ := List.forall_mem_cons.mp known
        unfold partFindings
        dsimp only
        rw [display_withTypes wider knownTarget,
          display_withTypes wider (knownSource _ List.mem_cons_self)]
        rfl
    | value plan =>
        obtain ⟨knownTarget, knownSource⟩ := List.forall_mem_cons.mp known
        unfold partFindings
        dsimp only
        rw [display_withTypes wider knownTarget,
          display_withTypes wider (knownSource _ List.mem_cons_self)]
        rfl
  unfold review
  rw [parts, display_withTypes wider (known _ plan.target_mem_types)]
  rfl

end Context

end MappingPlan
