/-
Findings about types that do not fit each other. They are the ones that are worded as a
mismatch, each shows a type next to one that does not accept it, and where the names of
declared types are legible the two are shown by different texts.
-/

import MappingPlan.Proofs.Catalog.Naming
import MappingPlan.Proofs.Plan.Findings
import MappingPlan.Proofs.Resolution.Extension
import MappingPlan.Proofs.Ty.Layers

set_option autoImplicit false

namespace MappingPlan

/-- A diagnostic about types, recognized by its wording. -/
def Diagnostic.isMismatch (diagnostic : Diagnostic) : Bool :=
  "Type mismatch: ".toList.isPrefixOf diagnostic.message.toList

namespace Diagnostic

variable {diagnostic : Diagnostic} {beginning : String}

theorem isMismatch_of_beginning
    (begins : "Type mismatch: ".toList <+: diagnostic.message.toList) :
    diagnostic.isMismatch = true :=
  List.isPrefixOf_iff_prefix.mpr begins

theorem not_isMismatch_of_beginning (begins : beginning.toList <+: diagnostic.message.toList)
    (notWithin : ¬"Type mismatch: ".toList <+: beginning.toList)
    (notAround : ¬beginning.toList <+: "Type mismatch: ".toList) :
    diagnostic.isMismatch = false := by
  rw [← Bool.not_eq_true]
  intro mismatch
  rcases List.prefix_or_prefix_of_prefix begins (List.isPrefixOf_iff_prefix.mp mismatch) with
    around | within
  · exact notAround around
  · exact notWithin within

end Diagnostic

namespace Finding

def contrast? : Finding → Option (String × String)
  | adapterInput _ _ _ expected found => some (found, expected)
  | memberType _ _ expected _ found => some (found, expected)
  | valueType source target => some (source, target)
  | _ => none

/-- The wording of a finding tells whether it shows such types. -/
theorem isMismatch_report (finding : Finding) (span : Span) :
    (finding.report span).isMismatch = finding.contrast?.isSome := by
  have begins := finding.opening_prefix_message
  have ofMismatch (opens : finding.opening = "Type mismatch: ") :
      (finding.report span).isMismatch = true := by
    rw [opens] at begins
    exact Diagnostic.isMismatch_of_beginning begins
  have ofOther {opening : String} (opens : finding.opening = opening)
      (other : opening = "Target " ∨ opening = "Source ") :
      (finding.report span).isMismatch = false := by
    rw [opens] at begins
    rcases other with rfl | rfl
    · exact Diagnostic.not_isMismatch_of_beginning begins (by decide) (by decide)
    · exact Diagnostic.not_isMismatch_of_beginning begins (by decide) (by decide)
  cases finding with
  | adapterInput callee target member expected found => exact ofMismatch rfl
  | memberType target member expected automatic found => exact ofMismatch rfl
  | valueType source target => exact ofMismatch rfl
  | unmappedEntry source entry => exact ofOther rfl (Or.inr rfl)
  | ambiguousEntry source entry => exact ofOther rfl (Or.inr rfl)
  | _ => exact ofOther rfl (Or.inl rfl)

end Finding

namespace Context

variable {context : Context} {diagnostic : Diagnostic}

/-- If the diagnostic shows two types, they are among the given ones and the second does not
accept the first. -/
def Opposes (context : Context) (types : List Ty) (diagnostic : Diagnostic) : Prop :=
  ∃ finding span, diagnostic = Finding.report finding span ∧
    ∀ texts, finding.contrast? = some texts →
      ∃ found ∈ types, ∃ expected ∈ types, ¬context.policy.Accepts found expected ∧
        texts = (context.display found, context.display expected)

theorem Opposes.mono {types others : List Ty} (opposes : context.Opposes types diagnostic)
    (among : ∀ type ∈ types, type ∈ others) : context.Opposes others diagnostic := by
  obtain ⟨finding, span, reported, shows⟩ := opposes
  refine ⟨finding, span, reported, ?_⟩
  intro texts contrast
  obtain ⟨found, foundAmong, expected, expectedAmong, misfit⟩ := shows texts contrast
  exact ⟨found, among found foundAmong, expected, among expected expectedAmong, misfit⟩

theorem opposes_of_no_contrast {finding : Finding} (none : finding.contrast? = none)
    (types : List Ty) (span : Span) : context.Opposes types (finding.report span) := by
  refine ⟨finding, span, rfl, ?_⟩
  intro texts contrast
  rw [none] at contrast
  cases contrast

theorem opposes_of_contrast {finding : Finding} {found expected : Ty}
    (contrast : finding.contrast? = some (context.display found, context.display expected))
    (misfit : ¬context.policy.Accepts found expected) {types : List Ty}
    (foundAmong : found ∈ types) (expectedAmong : expected ∈ types) (span : Span) :
    context.Opposes types (finding.report span) := by
  refine ⟨finding, span, rfl, ?_⟩
  intro texts shown
  obtain rfl := Option.some.inj (contrast.symm.trans shown)
  exact ⟨found, foundAmong, expected, expectedAmong, misfit, rfl⟩

theorem opposes_of_memberFinds {target : String} {member : Member} {finding : Finding}
    {span : Span} (finds : context.MemberFinds target member finding span) :
    context.Opposes member.types (finding.report span) := by
  have mentioned {source : Source} (sole : member.sources = [source]) :
      ∀ type ∈ source.types, type ∈ member.types := by
    intro type among
    have atMember : source ∈ member.sources := sole ▸ List.mem_singleton_self source
    exact List.mem_cons_of_mem _ (List.mem_flatMap.mpr ⟨source, atMember, among⟩)
  cases finds with
  | withoutSource _ => exact opposes_of_no_contrast rfl _ _
  | withSources _ => exact opposes_of_no_contrast rfl _ _
  | @input read adapter expected sole through takes misfit =>
      refine opposes_of_contrast rfl misfit (mentioned sole _ List.mem_cons_self) ?_ _
      apply mentioned sole
      apply List.mem_cons_of_mem
      rw [through]
      exact Adapter.input_mem_types takes
  | @result source sole misfit =>
      have shown := mentioned sole _ source.type_mem_types
      exact opposes_of_contrast rfl misfit shown List.mem_cons_self _

/-- The findings about a plan that a resolution comes to show types that it is about. -/
theorem opposes_of_planned {assignments : List Assignment} {plan : Plan}
    (planned : context.Planned assignments plan) (found : diagnostic ∈ context.review plan) :
    context.Opposes plan.types diagnostic := by
  rcases finds_of_mem_review found with ⟨finding, span, finds, rfl⟩ | ⟨stray, -, rfl⟩
  · cases finds with
    | member among finds =>
        refine (opposes_of_memberFinds finds).mono ?_
        intro type mentioned
        exact List.mem_cons_of_mem _ (List.mem_flatMap.mpr ⟨_, among, mentioned⟩)
    | valueType unrelated =>
        cases planned with
        | value _ _ =>
            exact opposes_of_contrast rfl (Policy.not_accepts_of_none unrelated)
              (List.mem_cons_of_mem _ List.mem_cons_self) List.mem_cons_self _
    | _ => exact opposes_of_no_contrast rfl _ _
  · exact opposes_of_no_contrast rfl _ _

def ShowsDifference (context : Context) (diagnostic : Diagnostic) : Prop :=
  ∃ finding span found expected, diagnostic = Finding.report finding span ∧
    finding.contrast? = some (context.display found, context.display expected) ∧
    context.display found ≠ context.display expected

theorem Opposes.showsDifference {types : List Ty} (opposes : context.Opposes types diagnostic)
    (mismatch : diagnostic.isMismatch = true)
    (apart : ∀ found ∈ types, ∀ expected ∈ types,
      context.display found = context.display expected → found = expected) :
    context.ShowsDifference diagnostic := by
  obtain ⟨finding, span, rfl, shows⟩ := opposes
  rw [Finding.isMismatch_report] at mismatch
  obtain ⟨texts, contrast⟩ := Option.isSome_iff_exists.mp mismatch
  obtain ⟨found, foundAmong, expected, expectedAmong, misfit, rfl⟩ := shows texts contrast
  refine ⟨finding, span, found, expected, rfl, contrast, ?_⟩
  intro same
  obtain rfl := apart found foundAmong expected expectedAmong same
  exact misfit (Policy.accepts_of_identity found.conversion?_self)

def narrowReporting : Context := { reporting with policy := .strict }

end Context

namespace Catalog

/-- Types are told apart by their written forms, those that admit null twice included. What
a catalog shows tells types apart that mention declared types only, as long as no name of a
declared type ends like another type or is a word for one; and no finding of a resolution
that is worded as a mismatch of such types shows the same text twice. -/
theorem display_unambiguous :
    Function.Injective Ty.text ∧
    ∀ catalog : Catalog, catalog.IsBuilt → catalog.IsLegible →
      (∀ first second, catalog.lookup.Knows first → catalog.lookup.Knows second →
        catalog.lookup.display first = catalog.lookup.display second → first = second) ∧
      ∀ context : Context, context.types = catalog.lookup →
        ∀ resolved, context.resolve = .ok resolved →
          (∀ type ∈ resolved.plan.types, catalog.lookup.Knows type) →
          ∀ diagnostic ∈ resolved.findings, diagnostic.isMismatch = true →
            context.ShowsDifference diagnostic := by
  refine ⟨Ty.text_injective, ?_⟩
  intro catalog built legible
  have apart := fun first second => @IsBuilt.display_inj catalog built legible first second
  refine ⟨apart, ?_⟩
  intro context sameTypes resolved success known diagnostic found mismatch
  obtain ⟨assignments, -, planned⟩ := Context.planned_of_resolve success
  rw [Context.findings_of_resolve success] at found
  refine (Context.opposes_of_planned planned found).showsDifference mismatch ?_
  intro foundType foundAmong expected expectedAmong same
  unfold Context.display at same
  rw [sameTypes] at same
  exact apart foundType expected (known foundType foundAmong) (known expected expectedAmong) same

theorem road_isLegible : road.IsLegible := by
  have names : ∀ entry ∈ road.definitions.entries, Ty.Legible entry.2.name := by decide
  intro id definition found
  exact names (id, definition) (Table.mem_of_findEntry found)

/-- Without widening a level does not fit its place, and the two types have two texts. -/
theorem road_display :
    road.IsBuilt ∧ road.IsLegible ∧ ∃ resolved, Context.narrowReporting.resolve = .ok resolved ∧
      ∃ diagnostic ∈ resolved.findings, diagnostic.isMismatch = true ∧
        Context.narrowReporting.ShowsDifference diagnostic := by
  obtain ⟨-, shown⟩ := display_unambiguous
  obtain ⟨-, differ⟩ := shown road road_isBuilt road_isLegible
  have success : Context.narrowReporting.resolve = .ok _ := rfl
  have known :=
    @Context.knows_of_resolve Context.narrowReporting road_isBuilt.closed
      Context.reporting_known _ success
  have mismatch : Diagnostic.isMismatch
      ((Finding.memberType "Report" "level" "Long" true "Int").report .unknown) = true := by
    decide
  exact ⟨road_isBuilt, road_isLegible, _, success, _, .head _, mismatch,
    differ Context.narrowReporting rfl _ success known _ (.head _) mismatch⟩

end Catalog

end MappingPlan
