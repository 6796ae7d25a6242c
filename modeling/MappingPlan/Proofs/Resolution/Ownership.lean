/-
Whose members a plan reads. What is found by name belongs to the source of the mapper, but a
reference in the body is taken at its word: a plan reads of other types just what its body
does, and of an entry reference only the name is looked at.
-/

import MappingPlan.Proofs.Directive.Nodes
import MappingPlan.Proofs.Resolution.Construction
import MappingPlan.Proofs.Resolution.Enumeration

set_option autoImplicit false

namespace MappingPlan

def Directive.reads? : Directive → Option MemberRef
  | property source => some source
  | transform base _ => base.reads?
  | via base _ => base.reads?
  | _ => none

theorem Directive.mem_nodes_of_reads? {directive : Directive} {reference : MemberRef}
    (reads : directive.reads? = some reference) : Expr.member reference ∈ directive.nodes := by
  induction directive with
  | property source =>
      obtain rfl := Option.some.inj reads
      exact List.mem_singleton_self _
  | transform base _ ih => exact List.mem_cons_of_mem _ (ih reads)
  | via base _ ih => exact ih reads
  | _ => cases reads

def Definition.Owns (definition : Definition) (getter : Getter) (type : Ty) : Prop :=
  ∃ property ∈ definition.properties, property.getter = getter ∧ property.type = type

structure MemberRef.LeadsTo (reference : MemberRef) (read : PropertyRead) : Prop where
  owner : reference.owner.reference? = some read.getter.owner
  name : read.getter.name = reference.name
  type : read.type = reference.type

def Definition.OwnsReferent (definition : Definition) (reference : MemberRef) : Prop :=
  ∃ owner, reference.owner.reference? = some owner ∧
    definition.Owns ⟨owner, reference.name⟩ reference.type

theorem MemberRef.LeadsTo.owns_iff {reference : MemberRef} {read : PropertyRead}
    (leads : reference.LeadsTo read) (definition : Definition) :
    definition.Owns read.getter read.type ↔ definition.OwnsReferent reference := by
  obtain ⟨owner, name, type⟩ := leads
  have getter : read.getter = ⟨read.getter.owner, reference.name⟩ := by rw [← name]
  rw [type, getter]
  constructor
  · intro owns
    exact ⟨_, owner, owns⟩
  · intro owns
    obtain ⟨other, found, owns⟩ := owns
    obtain rfl := Option.some.inj (owner.symm.trans found)
    exact owns

theorem MemberRef.leadsTo_of_read {member : MemberRef} {adapter : Option Adapter}
    {read : PropertyRead} (success : member.read adapter = .ok read) : member.LeadsTo read := by
  obtain ⟨_, declared, rfl⟩ := Context.read_eq_ok success
  exact ⟨declared, rfl, rfl⟩

namespace Context

variable {context : Context} {assignments : List Assignment}

/-- The property read is one that the source of the mapper declares. -/
def IsOwn (context : Context) (read : PropertyRead) : Prop :=
  ∃ source, context.source? = some source ∧ source.Owns read.getter read.type

def IsOwnReferent (context : Context) (reference : MemberRef) : Prop :=
  ∃ source, context.source? = some source ∧ source.OwnsReferent reference

theorem isOwn_iff {reference : MemberRef} {read : PropertyRead}
    (leads : reference.LeadsTo read) : context.IsOwn read ↔ context.IsOwnReferent reference := by
  unfold IsOwn IsOwnReferent
  simp only [leads.owns_iff]

/-- A directive that reads a member becomes a property read where it says, and any other
becomes none. -/
theorem Reads.cases_reads? {directive : Directive} {source : Source}
    (reads : context.Reads directive source) :
    (∃ reference read, directive.reads? = some reference ∧ source = .property read ∧
        reference.LeadsTo read) ∨
      directive.reads? = none ∧ ∀ read, source ≠ .property read := by
  cases reads with
  | property found => exact Or.inl ⟨_, _, rfl, rfl, MemberRef.leadsTo_of_read found⟩
  | transform found => exact Or.inl ⟨_, _, rfl, rfl, MemberRef.leadsTo_of_read found⟩
  | via _ found => exact Or.inl ⟨_, _, rfl, rfl, MemberRef.leadsTo_of_read found⟩
  | constant => exact Or.inr ⟨rfl, nofun⟩
  | expression => exact Or.inr ⟨rfl, nofun⟩

section Members

variable {contributions : List Contribution}
  (contributed : context.contributions assignments = .ok contributions)

include contributed

/-- A property read for a member was found by name in the source, or an assignment to the
member says where to read it. -/
theorem property_of_member {parameter : Parameter} {read : PropertyRead}
    (among : Source.property read ∈ (context.member contributions parameter).sources) :
    (read.isAutomatic = true ∧ context.IsOwn read) ∨
      read.isAutomatic = false ∧
        ∃ assignment ∈ assignments, assignment.target = parameter.name ∧
          ∃ reference, assignment.directive.reads? = some reference ∧ reference.LeadsTo read := by
  cases sourced_of_member contributed among with
  | @directed assignment _ written named reads =>
      have explicitly : read.isAutomatic = false := by
        simpa only [Source.isExplicit, Source.isAutomatic, Bool.not_eq_true'] using
          reads.isExplicit
      refine Or.inr ⟨explicitly, assignment, written, named, ?_⟩
      rcases reads.cases_reads? with ⟨reference, other, reads, same, leads⟩ | ⟨-, noRead⟩
      · obtain rfl := Source.property.inj same
        exact ⟨reference, reads, leads⟩
      · exact absurd rfl (noRead read)
  | @named property isProperty =>
      obtain ⟨source, isSource, ofName⟩ := Option.bind_eq_some_iff.mp isProperty
      exact Or.inl ⟨rfl, source, isSource, property, List.mem_of_find?_eq_some ofName, rfl, rfl⟩

/-- What an assignment to a member reads is read for the member. -/
theorem exists_property_of_assignment {parameter : Parameter} {assignment : Assignment}
    (written : assignment ∈ assignments) (named : assignment.target = parameter.name)
    {reference : MemberRef} (reads : assignment.directive.reads? = some reference) :
    ∃ read, Source.property read ∈ (context.member contributions parameter).sources ∧
      reference.LeadsTo read := by
  have toMember : assignment ∈ assignments.filter (·.target = parameter.name) :=
    List.mem_filter.mpr ⟨written, decide_eq_true named⟩
  obtain ⟨source, isOffered, found⟩ :=
    exists_right_of_mem (offered_forall₂ contributed parameter.name) toMember
  rcases (reads_of_explicitSource found).cases_reads? with
    ⟨other, read, alsoReads, rfl, leads⟩ | ⟨noReference, -⟩
  · obtain rfl := Option.some.inj (reads.symm.trans alsoReads)
    refine ⟨read, ?_, leads⟩
    rw [member_sources, if_neg]
    · exact isOffered
    · exact List.isEmpty_eq_false_iff_exists_mem.mpr ⟨_, isOffered⟩ ▸ Bool.false_ne_true
  · rw [noReference] at reads
    cases reads

end Members

/-- The plan reads only properties that the source of the mapper declares. -/
def ReadsOwn (context : Context) (plan : ConstructorPlan) : Prop :=
  ∀ member ∈ plan.members, ∀ read, Source.property read ∈ member.sources → context.IsOwn read

theorem readsOwn_constructorPlan_iff {contributions : List Contribution}
    (contributed : context.contributions assignments = .ok contributions)
    (constructor : Constructor) :
    context.ReadsOwn (context.constructorPlan contributions constructor) ↔
      ∀ assignment ∈ assignments, assignment.target ∈ constructor.parameters.map (·.name) →
        ∀ reference, assignment.directive.reads? = some reference →
          context.IsOwnReferent reference := by
  unfold ReadsOwn constructorPlan
  rw [List.forall_mem_map]
  constructor
  · intro own assignment written named reference reads
    obtain ⟨parameter, declared, named⟩ := List.mem_map.mp named
    obtain ⟨read, among, leads⟩ :=
      exists_property_of_assignment contributed written named.symm reads
    exact (isOwn_iff leads).mp (own parameter declared read among)
  · intro own parameter declared read among
    rcases property_of_member contributed among with
      ⟨-, found⟩ | ⟨-, assignment, written, named, reference, reads, leads⟩
    · exact found
    · have isParameter : assignment.target ∈ constructor.parameters.map (·.name) := by
        rw [named]
        exact List.mem_map_of_mem declared
      exact (isOwn_iff leads).mpr (own assignment written isParameter reference reads)

/-! ### Resolutions -/

/-- What is read automatically is a property of the source, by its getter and with its type.
What is read otherwise is read where a reference in the body says, so the plan reads only
what the source declares exactly if the references that fill its members do. The entries of
the source enum that are mapped explicitly are those that entry references have the names
of, whichever enum the references are to. -/
theorem reads_of_resolve {resolved : Resolved} (success : context.resolve = .ok resolved) :
    ∃ assignments, context.mapper.assignments = .ok assignments ∧
      (∀ plan, resolved.plan = .construction plan →
        (∀ member ∈ plan.members, ∀ read, Source.property read ∈ member.sources →
          (read.isAutomatic = true ∧ context.IsOwn read) ∨
          (read.isAutomatic = false ∧
            ∃ assignment ∈ assignments, assignment.target = member.parameter.name ∧
              ∃ reference body, assignment.directive.reads? = some reference ∧
                reference.LeadsTo read ∧ context.mapper.body = some body ∧
                (Expr.member reference).PartOf body)) ∧
        (context.ReadsOwn plan ↔
          ∀ assignment ∈ assignments,
            assignment.target ∈ plan.constructor.parameters.map (·.name) →
              ∀ reference, assignment.directive.reads? = some reference →
                context.IsOwnReferent reference)) ∧
      ∀ plan, resolved.plan = .enumeration plan →
        ∃ source, context.source? = some source ∧ ∀ entry ∈ plan.entries, ∀ name,
          (name ∈ entry.explicit → name ∈ source.entries) ∧
          (name ∈ entry.explicit ↔
            ∃ assignment ∈ assignments, assignment.target = entry.target ∧
              ∃ reference, assignment.directive = .entry reference ∧ reference.name = name) := by
  obtain ⟨assignments, read, planned⟩ := planned_of_resolve success
  refine ⟨assignments, read, ?_⟩
  generalize resolved.plan = plan at planned ⊢
  cases planned with
  | value _ _ => exact ⟨nofun, nofun⟩
  | enumeration _ _ planned =>
      refine ⟨nofun, ?_⟩
      intro _ samePlan
      obtain rfl := Plan.enumeration.inj samePlan
      obtain ⟨source, routes, isSource, -, routed, rfl⟩ := enumPlan_eq_ok planned
      refine ⟨source, isSource, ?_⟩
      intro entry isEntry name
      obtain ⟨target, -, rfl⟩ := List.mem_map.mp isEntry
      rw [EntryPlan.mem_explicit_iff, map_pair_of_mapM routed]
      exact ⟨mem_entries_of_mem_directedPairs routed, mem_directedPairs_iff⟩
  | @construction _ constructor _ _ _ _ contributed =>
      refine ⟨?_, nofun⟩
      intro _ samePlan
      obtain rfl := Plan.construction.inj samePlan
      refine ⟨?_, readsOwn_constructorPlan_iff contributed constructor⟩
      intro member isMember propertyRead among
      obtain ⟨parameter, -, rfl⟩ := List.mem_map.mp isMember
      rcases property_of_member contributed among with
        automatic | ⟨explicitly, assignment, written, named, reference, reads, leads⟩
      · exact Or.inl automatic
      · obtain ⟨body, given, drawn⟩ :=
          context.mapper.drawnFrom_of_assignments read assignment written
        have within := drawn.nodes _ (Directive.mem_nodes_of_reads? reads)
        exact Or.inr ⟨explicitly, assignment, written, named, reference, body, reads, leads,
          given, within⟩

/-- A mapper whose body only gives a text reads nothing that is not its own. -/
theorem reporting_readsOwn :
    ∃ resolved plan, reporting.resolve = .ok resolved ∧ resolved.plan = .construction plan ∧
      reporting.ReadsOwn plan := by
  have success : reporting.resolve = .ok _ := rfl
  obtain ⟨assignments, read, constructs, -⟩ := reads_of_resolve success
  obtain rfl := Except.ok.inj read
  obtain ⟨-, readsOwn⟩ := constructs _ rfl
  refine ⟨_, _, success, rfl, readsOwn.mpr ?_⟩
  intro assignment written _ reference reads
  obtain rfl := List.mem_singleton.mp written
  cases reads

/-- The declarations of two classes with one text each and of a class that is made from a
text, and of three enums. -/
def bureauSteps : List Draft.Step :=
  [.declare ⟨"Person", .classBody [("name", .string)] []⟩,
    .declare ⟨"Company", .classBody [("title", .string)] []⟩,
    .declare ⟨"Badge", .classBody [] [⟨.primary, [⟨"label", .string, false⟩]⟩]⟩,
    .declare ⟨"Color", .enumBody ["RED", "GREEN"]⟩,
    .declare ⟨"Paint", .enumBody ["RED", "BLUE"]⟩,
    .declare ⟨"Shade", .enumBody ["DARK", "GREEN"]⟩]

def bureau : Catalog :=
  let draft := (Draft.empty.run bureauSteps).2
  ⟨draft.definitions, draft.names, .ofDefinitions draft.definitions.values⟩

/-- A mapper from a person whose body reads the title of a company. -/
def badging : Context where
  types := bureau.lookup
  policy := .standard
  mapper :=
    { name := "badging"
      source := .named ⟨0⟩
      target := .named ⟨2⟩
      body := some (.call
        { name := "mapping"
          arguments := [.closure
            { body := [.call
                { name := "property"
                  receiver := some (.member ⟨.named ⟨2⟩, "label", .string, .unknown⟩)
                  arguments := [.member ⟨.named ⟨1⟩, "title", .string, .unknown⟩] }] }] }) }

/-- A mapper from a color whose body names the red of the paints. -/
def shading : Context where
  types := bureau.lookup
  policy := .standard
  mapper :=
    { name := "shading"
      source := .named ⟨3⟩
      target := .named ⟨5⟩
      body := some (.call
        { name := "mapping"
          arguments := [.closure
            { body := [.call
                { name := "fromEnumEntry"
                  receiver := some (.entry ⟨.named ⟨5⟩, "DARK", .unknown⟩)
                  arguments := [.entry ⟨.named ⟨4⟩, "RED", .unknown⟩] }] }] }) }

/-- The plans of both are valid: the title of a company is read of a person, and the red of
the colors is mapped because a directive names that of the paints. -/
theorem foreign_references_valid :
    bureau.IsBuilt ∧
      (∃ resolved plan member read, badging.resolve = .ok resolved ∧ resolved.plan?.isSome = true ∧
        resolved.plan = .construction plan ∧ member ∈ plan.members ∧
        Source.property read ∈ member.sources ∧ ¬ badging.IsOwn read) ∧
      ∃ assignments resolved plan entry, shading.mapper.assignments = .ok assignments ∧
        shading.resolve = .ok resolved ∧ resolved.plan?.isSome = true ∧
        resolved.plan = .enumeration plan ∧ entry ∈ plan.entries ∧ "RED" ∈ entry.explicit ∧
        ∀ assignment ∈ assignments, ∀ reference, assignment.directive = .entry reference →
          reference.owner ≠ shading.mapper.source := by
  refine ⟨⟨bureauSteps, rfl⟩, ?_, ?_⟩
  · refine ⟨_, _, _, _, rfl, rfl, rfl, List.mem_cons_self, List.mem_cons_self, ?_⟩
    intro own
    obtain ⟨source, isSource, property, declared, sameGetter, -⟩ := own
    obtain rfl := Option.some.inj isSource
    obtain rfl := List.mem_singleton.mp declared
    cases sameGetter
  · refine ⟨_, _, _, _, rfl, rfl, rfl, rfl, List.mem_cons_self, List.mem_cons_self, ?_⟩
    intro assignment written reference names
    obtain rfl := List.mem_singleton.mp written
    obtain rfl := Directive.entry.inj names
    exact nofun

end Context

end MappingPlan
