/-
Resolutions in catalogs with further declarations. A resolution looks up what its mapper
mentions and, for each member that a property is found for, the mappers of a few signatures.
Whatever else is declared makes no difference to it.
-/

import MappingPlan.Proofs.Catalog.Extension
import MappingPlan.Proofs.Directive.Nodes
import MappingPlan.Proofs.Resolution.Construction
import MappingPlan.Proofs.Resolution.Enumeration

set_option autoImplicit false

namespace MappingPlan

def Expr.types : Expr → List Ty
  | member node => [node.owner, node.type]
  | entry node => [node.owner]
  | closure node => node.result :: node.parameter.toList
  | mapper node => [.named node.mapper]
  | _ => []

inductive Mapper.Mentions (mapper : Mapper) : Ty → Prop where
  | source : Mentions mapper mapper.source
  | target : Mentions mapper mapper.target
  | node {body node : Expr} {type : Ty} :
      mapper.body = some body → node.PartOf body → type ∈ node.types → Mentions mapper type

structure Directive.Known (types : TypeLookup) (directive : Directive) : Prop where
  nodes : ∀ node ∈ directive.nodes, ∀ type ∈ node.types, types.Knows type
  delegates : ∀ delegate ∈ directive.delegates, types.Knows (.named delegate.mapper)

theorem Mapper.known_of_assignments {mapper : Mapper} {types : TypeLookup}
    (known : ∀ type, mapper.Mentions type → types.Knows type) {assignments : List Assignment}
    (read : mapper.assignments = .ok assignments) :
    ∀ assignment ∈ assignments, assignment.directive.Known types := by
  intro assignment member
  obtain ⟨body, given, drawn⟩ := mapper.drawnFrom_of_assignments read assignment member
  constructor
  · intro node held type written
    exact known type (.node given (drawn.nodes node held) written)
  · intro delegate called
    obtain ⟨reference, within, same⟩ := drawn.delegates delegate called
    rw [← same]
    exact known _ (.node given within List.mem_cons_self)

namespace Ty

def signatures (source target : Ty) : List Signature :=
  (source, target) :: if target.isNullable then [(source, target.core)] else []

/-- The signatures that discovery looks for between a property and a slot, on the whole
value and on the elements of a list. -/
def sought (property slot : Ty) : List Signature :=
  property.signatures slot ++
    match property.element?, slot.element? with
    | some element, some slotElement => element.signatures slotElement
    | _, _ => []

end Ty

namespace Context

variable {context : Context} {others : TypeLookup}

section Discovery

variable {source target : Ty}

theorem onlyMapper?_withTypes
    (same : ∀ signature ∈ source.signatures target,
      (others.mappersBetween signature.1 signature.2).Perm
        (context.types.mappersBetween signature.1 signature.2)) :
    (context.withTypes others).onlyMapper? source target = context.onlyMapper? source target := by
  obtain ⟨direct, toCore⟩ := List.forall_mem_cons.mp same
  have order : ((context.withTypes others).mappersFor source target).Perm
      (context.mappersFor source target) := by
    unfold mappersFor withTypes
    rw [direct.isEmpty_eq]
    split
    next fallsBack =>
      rw [Bool.and_eq_true] at fallsBack
      rw [if_pos fallsBack.2] at toCore
      exact toCore _ List.mem_cons_self
    next => exact direct
  rw [onlyMapper?_eq, onlyMapper?_eq, sole?_of_perm order]

theorem onlyCall?_withTypes
    (same : ∀ signature ∈ source.signatures target,
      (others.mappersBetween signature.1 signature.2).Perm
        (context.types.mappersBetween signature.1 signature.2)) (kind : EntryPointKind) :
    (context.withTypes others).onlyCall? source target kind =
      context.onlyCall? source target kind := by
  unfold onlyCall?
  rw [onlyMapper?_withTypes same]

/-- What discovery finds depends on the mappers of the signatures that it looks for. -/
theorem discovered?_withTypes
    (same : ∀ signature ∈ source.sought target,
      (others.mappersBetween signature.1 signature.2).Perm
        (context.types.mappersBetween signature.1 signature.2)) :
    (context.withTypes others).discovered? source target = context.discovered? source target := by
  obtain ⟨whole, elements⟩ := List.forall_mem_append.mp same
  have nested : (context.withTypes others).nestedCall? source target =
      context.nestedCall? source target := by
    unfold nestedCall?
    rw [onlyCall?_withTypes whole]
    cases ofSource : source.element? with
    | none => rfl
    | some element =>
        cases ofTarget : target.element? with
        | none => rfl
        | some targetElement =>
            rw [ofSource, ofTarget] at elements
            simp only [Option.bind_eq_bind, Option.bind_some]
            rw [onlyCall?_withTypes elements]
  unfold discovered?
  rw [nested]
  rfl

end Discovery

section Wider

variable (wider : context.types.Extends others)

include wider

theorem entryCall_withTypes {delegate : Delegate}
    (known : context.types.Knows (.named delegate.mapper)) :
    (context.withTypes others).entryCall delegate = context.entryCall delegate := by
  unfold entryCall withTypes
  rw [wider.definition?_eq (known delegate.mapper .named)]

theorem explicitSource_withTypes (knownTarget : context.types.Knows context.mapper.target)
    {assignment : Assignment} (known : assignment.directive.Known context.types) :
    (context.withTypes others).explicitSource assignment = context.explicitSource assignment := by
  unfold explicitSource
  cases directive : assignment.directive with
  | via base delegate =>
      rw [directive] at known
      dsimp only
      rw [entryCall_withTypes wider (known.delegates delegate List.mem_cons_self)]
  | entry source =>
      dsimp only
      rw [show (context.withTypes others).mapper = context.mapper from rfl,
        display_withTypes wider knownTarget]
  | _ => rfl

theorem contributions_withTypes (knownTarget : context.types.Knows context.mapper.target)
    {assignments : List Assignment}
    (known : ∀ assignment ∈ assignments, assignment.directive.Known context.types) :
    (context.withTypes others).contributions assignments = context.contributions assignments := by
  apply mapM_congr
  intro assignment member
  unfold contribution
  rw [explicitSource_withTypes wider knownTarget (known assignment member)]

theorem namedProperty?_withTypes (knownSource : context.types.Knows context.mapper.source)
    (name : String) :
    (context.withTypes others).namedProperty? name = context.namedProperty? name := by
  have sameSource : (context.withTypes others).source? = context.source? :=
    wider.declared? knownSource
  unfold namedProperty?
  rw [sameSource]

theorem member_withTypes (knownSource : context.types.Knows context.mapper.source)
    {parameter : Parameter}
    (sameDiscovery : ∀ property, context.namedProperty? parameter.name = some property →
      (context.withTypes others).discovered? property.type parameter.type =
        context.discovered? property.type parameter.type)
    (contributions : List Contribution) :
    (context.withTypes others).member contributions parameter =
      context.member contributions parameter := by
  have sameFallback :
      (context.withTypes others).fallback? parameter = context.fallback? parameter := by
    rw [fallback?_eq, fallback?_eq, namedProperty?_withTypes wider knownSource]
    cases named : context.namedProperty? parameter.name with
    | none => rfl
    | some property =>
        dsimp only
        unfold automaticRead
        rw [sameDiscovery property named]
  unfold member
  rw [sameFallback]

theorem targetForm_withTypes (knownTarget : context.types.Knows context.mapper.target) :
    (context.withTypes others).targetForm = context.targetForm := by
  have shown := display_withTypes wider knownTarget
  unfold targetForm
  dsimp only
  rw [show (context.withTypes others).mapper = context.mapper from rfl, shown]
  split
  next => rfl
  next =>
    cases referenced : context.mapper.target.reference? with
    | none => rfl
    | some id =>
        have same : (context.withTypes others).types.definition? id =
            context.types.definition? id :=
          wider.definition?_eq (knownTarget.of_reference? referenced)
        dsimp only
        rw [same]
        rfl

theorem enumPlan_withTypes (knownSource : context.types.Knows context.mapper.source)
    (target : Definition) (assignments : List Assignment) :
    (context.withTypes others).enumPlan target assignments =
      context.enumPlan target assignments := by
  have sameSource : (context.withTypes others).source? = context.source? :=
    wider.declared? knownSource
  have sameEnum : (context.withTypes others).sourceEnum target = context.sourceEnum target := by
    unfold sourceEnum
    rw [sameSource, show (context.withTypes others).mapper = context.mapper from rfl,
      display_withTypes wider knownSource]
    rfl
  unfold enumPlan
  rw [sameEnum]
  rfl

omit wider in
/-- Where a property has the name of a parameter that a mapper may fill, discovery finds the
same mappers for the two. -/
def SameDiscovery (context : Context) (others : TypeLookup) : Prop :=
  ∀ source target, context.source? = some source → context.target? = some target →
    ∀ property ∈ source.properties, ∀ constructor ∈ target.visibleConstructors,
      ∀ parameter ∈ constructor.parameters, property.name = parameter.name →
        ∀ signature ∈ property.type.sought parameter.type,
          (others.mappersBetween signature.1 signature.2).Perm
            (context.types.mappersBetween signature.1 signature.2)

theorem constructorPlan_withTypes (knownSource : context.types.Knows context.mapper.source)
    (sameDiscovery : context.SameDiscovery others) {target : Definition}
    (declared : context.target? = some target) {constructor : Constructor}
    (visible : constructor ∈ target.visibleConstructors) (contributions : List Contribution) :
    (context.withTypes others).constructorPlan contributions constructor =
      context.constructorPlan contributions constructor := by
  have members : constructor.parameters.map
        ((context.withTypes others).member contributions) =
      constructor.parameters.map (context.member contributions) := by
    apply List.map_congr_left
    intro parameter among
    apply member_withTypes wider knownSource
    intro property named
    obtain ⟨source, isSource, found⟩ := Option.bind_eq_some_iff.mp named
    have sameName := List.find?_some found
    exact discovered?_withTypes (sameDiscovery source target isSource declared property
      (List.mem_of_find?_eq_some found) constructor visible parameter among
      (of_decide_eq_true sameName))
  unfold constructorPlan
  rw [members]
  rfl

theorem assemble_withTypes (known : ∀ type, context.mapper.Mentions type → context.types.Knows type)
    (sameDiscovery : context.SameDiscovery others) {assignments : List Assignment}
    (read : context.mapper.assignments = .ok assignments) :
    (context.withTypes others).assemble assignments = context.assemble assignments := by
  have knownSource := known _ .source
  have knownTarget := known _ .target
  have contributed := contributions_withTypes wider knownTarget
    (Mapper.known_of_assignments known read)
  unfold assemble
  rw [targetForm_withTypes wider knownTarget]
  cases formed : context.targetForm with
  | error failure => rfl
  | ok form =>
      rcases targetForm_cases formed with ⟨-, rfl⟩ | ⟨target, declared, cases⟩
      · change ((context.withTypes others).contributions assignments >>= _) = _
        rw [contributed]
        rfl
      · rcases cases with ⟨-, rfl⟩ | ⟨-, -, rfl⟩
        · change ((context.withTypes others).enumPlan target assignments >>= _) = _
          rw [enumPlan_withTypes wider knownSource]
          rfl
        · have plans : ∀ contributions, target.visibleConstructors.map
                ((context.withTypes others).constructorPlan contributions) =
              target.visibleConstructors.map (context.constructorPlan contributions) := by
            intro contributions
            apply List.map_congr_left
            intro constructor visible
            exact constructorPlan_withTypes wider knownSource sameDiscovery declared visible
              contributions
          change ((context.withTypes others).contributions assignments >>= _) = _
          rw [contributed]
          simp only [plans]
          rfl

theorem plan_withTypes (known : ∀ type, context.mapper.Mentions type → context.types.Knows type)
    (sameDiscovery : context.SameDiscovery others) :
    (context.withTypes others).plan = context.plan := by
  unfold plan
  rw [show (context.withTypes others).mapper = context.mapper from rfl]
  cases read : context.mapper.assignments with
  | error failure => rfl
  | ok assignments =>
      have sameChoice : ∀ candidates, (context.withTypes others).settle candidates =
          context.settle candidates := by
        intro candidates
        unfold settle choose
        rw [show (context.withTypes others).mapper = context.mapper from rfl,
          display_withTypes wider (known _ .target)]
        rfl
      change ((context.withTypes others).assemble assignments >>= _) = _
      rw [assemble_withTypes wider known sameDiscovery read]
      simp only [sameChoice]
      rfl

end Wider

/-! ### Plans mention what is declared -/

section Mentioned

variable (closed : context.types.Closed)
  (known : ∀ type, context.mapper.Mentions type → context.types.Knows type)

include closed

theorem knows_of_entryPoint? {id : TypeId} {definition : Definition}
    (found : context.types.definition? id = some definition) {kind : EntryPointKind}
    {point : EntryPoint} (ofKind : definition.entryPoint? kind = some point) :
    ∀ type ∈ [.named definition.id, point.parameter, point.result],
      context.types.Knows type := by
  have among := List.mem_of_find?_eq_some ofKind
  have own : context.types.Knows (.named definition.id) := by
    intro other occurs
    cases occurs
    rw [closed.ownId id definition found]
    exact ⟨definition, found⟩
  refine List.forall_mem_cons.mpr ⟨own, List.forall_mem_cons.mpr ⟨?_, ?_⟩⟩
  · exact closed.knows id definition found _ (.input among)
  · exact List.forall_mem_singleton.mpr (closed.knows id definition found _ (.result among))

theorem knows_of_onlyCall? {source target : Ty} {kind : EntryPointKind} {call : EntryCall}
    (found : context.onlyCall? source target kind = some call) :
    ∀ type ∈ (Adapter.mapper call).types, context.types.Knows type := by
  unfold onlyCall? at found
  obtain ⟨mapper, only, found⟩ := Option.bind_eq_some_iff.mp found
  obtain ⟨point, ofKind, same⟩ := Option.bind_eq_some_iff.mp found
  obtain rfl := Option.some.inj same
  have declared : context.types.definition? mapper.id = some mapper := by
    rcases listed_of_onlyMapper? only with listed | listed
    · exact closed.mappers _ _ mapper listed
    · exact closed.mappers _ _ mapper listed
  exact knows_of_entryPoint? closed declared ofKind

theorem knows_of_discovered? {source target : Ty} {call : EntryCall}
    (found : context.discovered? source target = some call) :
    ∀ type ∈ (Adapter.mapper call).types, context.types.Knows type := by
  unfold discovered? nestedCall? at found
  split at found
  · rcases Option.or_eq_some_iff.mp found with whole | ⟨-, elementwise⟩
    · exact knows_of_onlyCall? closed whole
    · obtain ⟨_, -, elementwise⟩ := Option.bind_eq_some_iff.mp elementwise
      obtain ⟨_, -, elementwise⟩ := Option.bind_eq_some_iff.mp elementwise
      exact knows_of_onlyCall? closed elementwise
  · cases found

theorem knows_of_automaticRead {name : String} {property : Property} (slot : Ty)
    (named : context.namedProperty? name = some property) :
    ∀ type ∈ (Source.property (context.automaticRead property slot)).types,
      context.types.Knows type := by
  obtain ⟨definition, isSource, ofName⟩ := Option.bind_eq_some_iff.mp named
  obtain ⟨id, -, declared⟩ := Option.bind_eq_some_iff.mp isSource
  have knownProperty := closed.knows id definition declared _
    (.property (List.mem_of_find?_eq_some ofName))
  refine List.forall_mem_cons.mpr ⟨knownProperty, ?_⟩
  unfold automaticRead
  cases discovered : context.discovered? property.type slot with
  | none => exact nofun
  | some call => exact knows_of_discovered? closed discovered

omit closed in
theorem types_of_read {member : MemberRef} {adapter : Option Adapter} {read : PropertyRead}
    (success : member.read adapter = .ok read) :
    (Source.property read).types = member.type :: (adapter.map Adapter.types).getD [] := by
  obtain ⟨_, -, rfl⟩ := read_eq_ok success
  rfl

omit closed in
theorem knows_literal (value : Literal) : context.types.Knows value.type := by
  intro id occurs
  obtain ⟨value, span⟩ := value
  cases value <;> cases occurs

theorem knows_of_reads {directive : Directive} (known : directive.Known context.types)
    {source : Source} (reads : context.Reads directive source) :
    ∀ type ∈ source.types, context.types.Knows type := by
  cases reads with
  | @property member read found =>
      have onNode := known.nodes _ List.mem_cons_self
      rw [types_of_read found]
      exact List.forall_mem_singleton.mpr (onNode _ (List.mem_cons_of_mem _ List.mem_cons_self))
  | @constant value => exact List.forall_mem_singleton.mpr (knows_literal value)
  | @expression body =>
      have onNode := known.nodes _ List.mem_cons_self
      exact List.forall_mem_singleton.mpr (onNode _ List.mem_cons_self)
  | @transform member closure read found =>
      obtain ⟨onClosure, onMember⟩ := List.forall_mem_cons.mp known.nodes
      rw [types_of_read found]
      refine List.forall_mem_cons.mpr ⟨?_, onClosure⟩
      exact onMember _ List.mem_cons_self _ (List.mem_cons_of_mem _ List.mem_cons_self)
  | @via member delegate call read called found =>
      have onMember := known.nodes _ List.mem_cons_self
      rw [types_of_read found]
      refine List.forall_mem_cons.mpr
        ⟨onMember _ (List.mem_cons_of_mem _ List.mem_cons_self), ?_⟩
      unfold entryCall at called
      split at called
      next => cases called
      next definition declared =>
        split at called
        next =>
          split at called
          next => cases called
          next point ofKind =>
            obtain rfl := Except.ok.inj called
            exact knows_of_entryPoint? closed declared ofKind
        next => cases called

theorem knows_of_member {assignments : List Assignment}
    (known : ∀ assignment ∈ assignments, assignment.directive.Known context.types)
    {contributions : List Contribution}
    (contributed : context.contributions assignments = .ok contributions)
    {parameter : Parameter} (knownSlot : context.types.Knows parameter.type) :
    ∀ type ∈ (context.member contributions parameter).types, context.types.Knows type := by
  refine List.forall_mem_cons.mpr ⟨knownSlot, ?_⟩
  intro type mentioned
  obtain ⟨source, among, mentioned⟩ := List.mem_flatMap.mp mentioned
  cases sourced_of_member contributed among with
  | directed written _ reads => exact knows_of_reads closed (known _ written) reads type mentioned
  | named isProperty => exact knows_of_automaticRead closed _ isProperty type mentioned
  | byDefault _ _ =>
      obtain rfl := List.mem_singleton.mp mentioned
      exact knownSlot

include known

/-- A plan that a mapper is resolved to mentions declared types only, if the mapper does. -/
theorem knows_of_resolve {resolved : Resolved} (success : context.resolve = .ok resolved) :
    ∀ type ∈ resolved.plan.types, context.types.Knows type := by
  have knownEnds : ∀ type ∈ [context.mapper.target, context.mapper.source],
      context.types.Knows type := by
    refine List.forall_mem_cons.mpr ⟨known _ .target, ?_⟩
    exact List.forall_mem_singleton.mpr (known _ .source)
  obtain ⟨assignments, read, planned⟩ := planned_of_resolve success
  have knownAssignments := Mapper.known_of_assignments known read
  generalize resolved.plan = plan at planned ⊢
  cases planned with
  | value _ _ => exact knownEnds
  | enumeration _ _ planned =>
      obtain ⟨_, _, -, -, -, rfl⟩ := enumPlan_eq_ok planned
      exact knownEnds
  | @construction target _ _ declared _ isVisible contributed =>
      refine List.forall_mem_cons.mpr ⟨known _ .target, ?_⟩
      intro type mentioned
      obtain ⟨member, among, mentioned⟩ := List.mem_flatMap.mp mentioned
      obtain ⟨parameter, written, rfl⟩ := List.mem_map.mp among
      obtain ⟨id, -, found⟩ := Option.bind_eq_some_iff.mp declared
      have knownSlot := closed.knows id target found _
        (.parameter (List.mem_of_mem_filter isVisible) written)
      exact knows_of_member closed knownAssignments contributed knownSlot type mentioned

end Mentioned

/-! ### Catalogs with further declarations -/

/-- What is declared besides does not matter to a mapper that mentions nothing of it, as
long as discovery finds the same mappers. -/
theorem resolve_withTypes (closed : context.types.Closed)
    (known : ∀ type, context.mapper.Mentions type → context.types.Knows type)
    (wider : context.types.Extends others) (sameDiscovery : context.SameDiscovery others) :
    (context.withTypes others).resolve = context.resolve := by
  rw [resolve_eq, resolve_eq, plan_withTypes wider known sameDiscovery]
  cases planned : context.plan with
  | error failure => simp only [Except.map]
  | ok settled =>
      have success := resolve_eq context
      rw [planned] at success
      have reviewed := review_withTypes wider (knows_of_resolve closed known success)
      simp only [Except.map, reviewed]

end Context

namespace Catalog

def Adds (catalog extended : Catalog) (further : Definition) : Prop :=
  ∃ id, catalog.definition? id = none ∧ extended.definition? id = some further

end Catalog

namespace Context

/-- Further declarations do not interfere with a mapper that mentions nothing of them, if no
further mapper has a signature that discovery looks for between a property and a parameter
of its name. Further classes and enums never interfere. -/
theorem resolve_of_append {steps more : List Draft.Step}
    (lasts : (steps ++ more).length < 2 ^ 32) {catalog extended : Catalog}
    (closed : (Draft.empty.run steps).2.close = .ok catalog)
    (extendedClosed : (Draft.empty.run (steps ++ more)).2.close = .ok extended)
    (policy : Policy) {mapper : Mapper}
    (known : ∀ type, mapper.Mentions type → catalog.lookup.Knows type) :
    ((∀ source target, catalog.lookup.declared? mapper.source = some source →
        catalog.lookup.declared? mapper.target = some target →
        ∀ property ∈ source.properties, ∀ constructor ∈ target.visibleConstructors,
          ∀ parameter ∈ constructor.parameters, property.name = parameter.name →
            ∀ further, catalog.Adds extended further →
              ∀ signature ∈ property.type.sought parameter.type,
                further.signature? ≠ some signature) →
      (Context.mk extended.lookup policy mapper).resolve =
        (Context.mk catalog.lookup policy mapper).resolve) ∧
    ((∀ further, catalog.Adds extended further → further.isMapper = false) →
      (Context.mk extended.lookup policy mapper).resolve =
        (Context.mk catalog.lookup policy mapper).resolve) := by
  have built : catalog.IsBuilt := ⟨steps, closed⟩
  have extendedBuilt : extended.IsBuilt := ⟨steps ++ more, extendedClosed⟩
  have wider := Catalog.extends_of_append lasts closed extendedClosed
  have undisturbed (sameDiscovery :
      (Context.mk catalog.lookup policy mapper).SameDiscovery extended.lookup) :
      (Context.mk extended.lookup policy mapper).resolve =
        (Context.mk catalog.lookup policy mapper).resolve :=
    @resolve_withTypes ⟨catalog.lookup, policy, mapper⟩ extended.lookup built.closed known wider
      sameDiscovery
  constructor
  · intro unrelated
    apply undisturbed
    intro source target isSource isTarget property ofSource constructor visible parameter
      ofTarget sameName signature sought
    apply Catalog.mappersBetween_perm built extendedBuilt wider
    intro id further new found
    exact unrelated source target isSource isTarget property ofSource constructor visible
      parameter ofTarget sameName further ⟨id, new, found⟩ signature sought
  · intro noMapper
    apply undisturbed
    intro source target _ _ property _ constructor _ parameter _ _ signature _
    apply Catalog.mappersBetween_perm built extendedBuilt wider
    intro id further new found signed
    have notMapper := noMapper further ⟨id, new, found⟩
    rw [Definition.isMapper_of_signature? signed] at notMapper
    cases notMapper

def labelSteps : List Draft.Step :=
  [.declare ⟨"Label", .classBody [("text", .string)] []⟩,
    .declare ⟨"Labelling", .mapperBody (.primitive .int) .string
      [.single (.primitive .int) .string]⟩]

theorem reporting_known :
    ∀ type, reporting.mapper.Mentions type → Catalog.road.lookup.Knows type := by
  have declared : ∀ type ∈ [Ty.named ⟨2⟩, .named ⟨3⟩, .string, .any],
      Catalog.road.lookup.Knows type := by
    intro type listed id occurs
    simp only [List.mem_cons, List.not_mem_nil, or_false] at listed
    rcases listed with rfl | rfl | rfl | rfl <;> cases occurs <;> exact ⟨_, rfl⟩
  intro type mentions
  apply declared
  cases mentions with
  | source => decide
  | target => decide
  | node given within written =>
      obtain rfl := Option.some.inj given
      cases within with
      | self => cases written
      | receiver received _ => cases received
      | argument among within =>
          obtain rfl := List.mem_singleton.mp among
          cases within with
          | self =>
              obtain rfl := List.mem_singleton.mp written
              decide
          | statement among within =>
              obtain rfl := List.mem_singleton.mp among
              cases within with
              | self => cases written
              | receiver received within =>
                  obtain rfl := Option.some.inj received
                  cases within
                  rcases List.mem_pair.mp written with rfl | rfl <;> decide
              | argument among within =>
                  obtain rfl := List.mem_singleton.mp among
                  cases within
                  cases written

/-- A mapper to a text is none of those that are looked for between two numbers. -/
theorem reporting_of_append :
    ∃ extended, (Draft.empty.run (Catalog.roadSteps ++ labelSteps)).2.close = .ok extended ∧
      (∃ further, Catalog.road.Adds extended further ∧ further.isMapper = true) ∧
      (Context.mk extended.lookup .standard reporting.mapper).resolve = reporting.resolve := by
  have extendedClosed : (Draft.empty.run (Catalog.roadSteps ++ labelSteps)).2.close = .ok _ := rfl
  have furtherSignatures :
      ∀ entry ∈ (Draft.empty.run (Catalog.roadSteps ++ labelSteps)).2.definitions.entries,
        Catalog.road.definition? entry.1 = none →
          entry.2.signature? ≠ some (.primitive .int, .primitive .long) := by
    decide
  obtain ⟨undisturbed, -⟩ := resolve_of_append (by decide)
    (show (Draft.empty.run Catalog.roadSteps).2.close = .ok Catalog.road from rfl) extendedClosed
    .standard reporting_known
  refine ⟨_, extendedClosed, ⟨_, ⟨⟨6⟩, rfl, rfl⟩, rfl⟩, undisturbed ?_⟩
  intro source target isSource isTarget property ofSource constructor visible parameter ofTarget
    sameName further added signature sought
  obtain rfl := Option.some.inj isSource
  obtain rfl := Option.some.inj isTarget
  obtain rfl : property = ⟨"level", .primitive .int, ⟨⟨2⟩, "level"⟩⟩ :=
    List.mem_singleton.mp ofSource
  obtain rfl := List.mem_singleton.mp visible
  obtain ⟨id, new, found⟩ := added
  have entered := Table.mem_of_findEntry found
  rcases List.mem_pair.mp ofTarget with rfl | rfl
  · obtain rfl : signature = (.primitive .int, .primitive .long) := List.mem_singleton.mp sought
    exact furtherSignatures _ entered new
  · exact absurd sameName (by decide)

end Context

end MappingPlan
