/-
What fits what. Every type fits itself and itself or null, and no value is widened on its way
into a list. Types are seen under layers of nullability: a bare type, one that does not admit
null by itself, under some number of layers. A conversion strips the layers of the slot from
the value one by one, so what it comes to depends on the two numbers of layers and on the two
bare types alone.
-/

import Mathlib.Logic.Function.Iterate
import MappingPlan.Ty

set_option autoImplicit false

namespace MappingPlan

namespace Ty

theorem conversion?_self (type : Ty) : type.conversion? type = some .identity := by
  cases type with
  | string => rfl
  | any => rfl
  | null => rfl
  | primitive kind =>
      unfold conversion?
      exact if_pos rfl
  | named id =>
      unfold conversion?
      exact if_pos rfl
  | list element =>
      unfold conversion?
      exact if_pos rfl
  | nullable inner =>
      unfold conversion?
      exact if_pos rfl

/-- A place that admits null takes null, and what is left of any other type without its
own nullability. -/
theorem conversion?_into_nullable (source inner : Ty) :
    source.conversion? (.nullable inner) =
      if source = .null then some .identity else source.core.conversion? inner := by
  by_cases same : source = .nullable inner
  · subst same
    rw [conversion?_self, if_neg nofun]
    exact (conversion?_self inner).symm
  · cases source with
    | null => rfl
    | _ =>
        rw [if_neg nofun]
        exact if_neg same

theorem conversion?_nullable_self (type : Ty) :
    type.conversion? (.nullable type) = some .identity := by
  induction type with
  | null => rfl
  | nullable inner ih =>
      rw [conversion?_into_nullable, if_neg nofun]
      exact ih
  | _ =>
      rw [conversion?_into_nullable, if_neg nofun]
      exact conversion?_self _

theorem conversion?_list_ne_widening (source element : Ty) (narrow wide : Primitive) :
    source.conversion? (.list element) ≠ some (.widening narrow wide) := by
  unfold conversion?
  split
  · exact nofun
  · split
    · split <;> exact nofun
    · exact nofun

theorem conversion?_ne_widening {source slot element : Ty} (isList : slot.element? = some element)
    (narrow wide : Primitive) : source.conversion? slot ≠ some (.widening narrow wide) := by
  have core : slot.core = .list element := by
    unfold element? at isList
    split at isList
    next same => rw [same, Option.some.inj isList]
    next => cases isList
  cases slot with
  | nullable inner =>
      obtain rfl : inner = .list element := core
      rw [conversion?_into_nullable]
      split
      · exact nofun
      · exact conversion?_list_ne_widening _ element narrow wide
  | list _ =>
      obtain rfl := list.inj core
      exact conversion?_list_ne_widening source _ narrow wide
  | _ => cases core

end Ty

namespace Primitive

def wideningSteps : List (Primitive × Primitive) :=
  [(byte, short), (byte, int), (byte, long), (short, int), (short, long),
    (int, long), (int, double), (float, double)]

theorem widensTo_iff_mem (narrow wide : Primitive) :
    narrow.widensTo wide = true ↔ (narrow, wide) ∈ wideningSteps := by
  cases narrow <;> cases wide <;> decide

theorem ne_of_widensTo {narrow wide : Primitive} (widens : narrow.widensTo wide = true) :
    narrow ≠ wide := by
  intro same
  subst same
  cases narrow <;> cases widens

end Primitive

namespace Ty

/-! ### Layers -/

theorem exists_layers (type : Ty) :
    ∃ layers bare, bare.isNullable = false ∧ type = nullable^[layers] bare := by
  induction type with
  | nullable inner ih =>
      obtain ⟨layers, bare, isBare, rfl⟩ := ih
      exact ⟨layers + 1, bare, isBare, (Function.iterate_succ_apply' nullable layers bare).symm⟩
  | _ => exact ⟨0, _, rfl, rfl⟩

variable {value slot : Ty}

theorem core_of_bare (isBare : value.isNullable = false) : value.core = value := by
  cases value with
  | nullable _ => cases isBare
  | _ => rfl

/-- Each layer of the slot takes null, and strips a layer from the value if it has one. -/
theorem conversion?_layers (isBare : value.isNullable = false) (slot : Ty)
    (layers slotLayers : Nat) :
    (nullable^[layers] value).conversion? (nullable^[slotLayers] slot) =
      if value = .null ∧ layers < slotLayers then some .identity
      else (nullable^[layers - slotLayers] value).conversion? slot := by
  induction slotLayers generalizing layers with
  | zero =>
      rw [if_neg fun both => Nat.not_lt_zero layers both.2]
      rfl
  | succ slotLayers ih =>
      rw [Function.iterate_succ_apply', conversion?_into_nullable]
      cases layers with
      | zero =>
          rw [Function.iterate_zero_apply, core_of_bare isBare, Nat.zero_sub]
          by_cases isNull : value = .null
          · rw [if_pos isNull, if_pos ⟨isNull, Nat.succ_pos slotLayers⟩]
          · have stripped := ih 0
            rw [if_neg fun both => isNull both.1, Nat.zero_sub] at stripped
            rw [if_neg isNull, if_neg fun both => isNull both.1]
            exact stripped
      | succ layers =>
          rw [Function.iterate_succ_apply', if_neg nofun, Nat.add_sub_add_right]
          simp only [Nat.add_lt_add_iff_right]
          exact ih layers

/-- A value that may be null reaches no slot that does not admit null. -/
theorem conversion?_nullable_bare (inner : Ty) (isBare : slot.isNullable = false)
    (notAny : slot ≠ .any) : (nullable inner).conversion? slot = none := by
  cases slot with
  | any => exact absurd rfl notAny
  | nullable _ => cases isBare
  | _ => rfl

theorem conversion?_list_eq_identity_iff (value slotElement : Ty) :
    value.conversion? (.list slotElement) = some .identity ↔
      value = .list slotElement ∨
        ∃ element, value = .list element ∧ element.assignableTo slotElement = true := by
  unfold conversion?
  by_cases same : value = .list slotElement
  · rw [if_pos same]
    exact ⟨fun _ => Or.inl same, fun _ => rfl⟩
  · rw [if_neg same, or_iff_right same]
    cases value with
    | list element =>
        simp only [list.injEq, exists_eq_left', assignableTo, decide_eq_true_eq,
          ite_eq_left_iff, reduceCtorEq, imp_false, not_not]
    | _ => simp only [reduceCtorEq, false_and, exists_false]

theorem conversion?_primitive_eq_identity_iff (value : Ty) (wide : Primitive) :
    value.conversion? (.primitive wide) = some .identity ↔ value = .primitive wide := by
  cases value with
  | primitive narrow =>
      unfold conversion?
      dsimp only
      rw [primitive.injEq]
      by_cases same : narrow = wide
      · simp only [same, if_true]
      · rw [if_neg same, iff_false_right same]
        split <;> simp only [Option.some.injEq, reduceCtorEq, not_false_eq_true]
  | _ => simp [conversion?]

theorem conversion?_primitive_eq_widening_iff (value : Ty) (slot narrow wide : Primitive) :
    value.conversion? (.primitive slot) = some (.widening narrow wide) ↔
      value = .primitive narrow ∧ slot = wide ∧ narrow.widensTo wide = true := by
  cases value with
  | primitive kind =>
      unfold conversion?
      dsimp only
      rw [primitive.injEq]
      constructor
      · intro found
        split at found
        next => cases found
        next =>
          split at found
          next widens =>
            obtain ⟨rfl, rfl⟩ := Conversion.widening.inj (Option.some.inj found)
            exact ⟨rfl, rfl, widens⟩
          next => cases found
      · intro widens
        obtain ⟨rfl, rfl, widens⟩ := widens
        rw [if_neg (Primitive.ne_of_widensTo widens), if_pos widens]
  | _ => simp [conversion?]

/-- Between bare types a value is stored as it is in a slot for everything, in one of its
own type, and, as a list, in one for lists that take its elements. -/
theorem conversion?_bare_eq_identity_iff (isBare : slot.isNullable = false) :
    value.conversion? slot = some .identity ↔
      slot = .any ∨ value = slot ∨
        ∃ element slotElement, value = .list element ∧ slot = .list slotElement ∧
          element.assignableTo slotElement = true := by
  cases slot with
  | any => simp only [conversion?, true_or]
  | nullable _ => cases isBare
  | list slotElement =>
      rw [conversion?_list_eq_identity_iff]
      simp
  | primitive wide =>
      rw [conversion?_primitive_eq_identity_iff]
      simp
  | _ => simp [conversion?]

/-- Between bare types only a primitive is ever widened, and only by one of the steps. -/
theorem conversion?_bare_eq_widening_iff (isBare : slot.isNullable = false)
    (narrow wide : Primitive) :
    value.conversion? slot = some (.widening narrow wide) ↔
      value = .primitive narrow ∧ slot = .primitive wide ∧
        (narrow, wide) ∈ Primitive.wideningSteps := by
  rw [← Primitive.widensTo_iff_mem]
  cases slot with
  | primitive kind => rw [conversion?_primitive_eq_widening_iff, primitive.injEq]
  | nullable _ => cases isBare
  | list slotElement =>
      exact iff_of_false (conversion?_list_ne_widening value slotElement narrow wide) nofun
  | _ => simp [conversion?]

/-- A value under some layers is stored as it is in a slot under others. -/
def StoredAsIs (layers : Nat) (value : Ty) (slotLayers : Nat) (slot : Ty) : Prop :=
  slot = .any ∨
    layers ≤ slotLayers ∧
      (value = slot ∨ value = .null ∧ layers < slotLayers ∨
        ∃ element slotElement, value = .list element ∧ slot = .list slotElement ∧
          element.assignableTo slotElement = true)

/-- A value under some layers is widened on its way into a slot under others. -/
def Widened (layers : Nat) (value : Ty) (slotLayers : Nat) (slot : Ty)
    (narrow wide : Primitive) : Prop :=
  layers ≤ slotLayers ∧ value = .primitive narrow ∧ slot = .primitive wide ∧
    (narrow, wide) ∈ Primitive.wideningSteps

section

variable (bareValue : value.isNullable = false) (bareSlot : slot.isNullable = false)
  (layers slotLayers : Nat)

include bareValue bareSlot

/-- A slot for everything takes everything. Any other takes no value with more layers than
it has, takes null if it has more layers itself, and goes by the bare types if not. -/
theorem conversion?_layers_cases :
    slot = .any ∧
        (nullable^[layers] value).conversion? (nullable^[slotLayers] slot) = some .identity ∨
      slot ≠ .any ∧
        (slotLayers < layers ∧
            (nullable^[layers] value).conversion? (nullable^[slotLayers] slot) = none ∨
          layers ≤ slotLayers ∧
            ((value = .null ∧ layers < slotLayers) ∧
                (nullable^[layers] value).conversion? (nullable^[slotLayers] slot) =
                  some .identity ∨
              ¬(value = .null ∧ layers < slotLayers) ∧
                (nullable^[layers] value).conversion? (nullable^[slotLayers] slot) =
                  value.conversion? slot)) := by
  rw [conversion?_layers bareValue]
  by_cases isAny : slot = .any
  · subst isAny
    refine Or.inl ⟨rfl, ?_⟩
    split <;> rfl
  · refine Or.inr ⟨isAny, ?_⟩
    by_cases takesNull : value = .null ∧ layers < slotLayers
    · exact Or.inr ⟨Nat.le_of_lt takesNull.2, Or.inl ⟨takesNull, if_pos takesNull⟩⟩
    · rw [if_neg takesNull]
      rcases Nat.lt_or_ge slotLayers layers with beyond | within
      · obtain ⟨left, remaining⟩ := Nat.exists_eq_succ_of_ne_zero (Nat.sub_ne_zero_of_lt beyond)
        refine Or.inl ⟨beyond, ?_⟩
        rw [remaining, Function.iterate_succ_apply']
        exact conversion?_nullable_bare _ bareSlot isAny
      · refine Or.inr ⟨within, Or.inr ⟨takesNull, ?_⟩⟩
        rw [Nat.sub_eq_zero_of_le within]
        rfl

theorem conversion?_eq_identity_iff :
    (nullable^[layers] value).conversion? (nullable^[slotLayers] slot) = some .identity ↔
      StoredAsIs layers value slotLayers slot := by
  unfold StoredAsIs
  rcases conversion?_layers_cases bareValue bareSlot layers slotLayers with
    ⟨isAny, taken⟩ | ⟨notAny, ⟨beyond, refused⟩ | ⟨within, ⟨isNull, taken⟩ | ⟨notNull, bare⟩⟩⟩
  · exact iff_of_true taken (Or.inl isAny)
  · rw [refused, or_iff_right notAny]
    exact iff_of_false nofun fun both => Nat.not_le_of_lt beyond both.1
  · exact iff_of_true taken (Or.inr ⟨within, Or.inr (Or.inl isNull)⟩)
  · rw [bare, conversion?_bare_eq_identity_iff bareSlot, or_iff_right notAny,
      or_iff_right notAny, and_iff_right within, or_iff_right notNull]

theorem conversion?_eq_widening_iff (narrow wide : Primitive) :
    (nullable^[layers] value).conversion? (nullable^[slotLayers] slot) =
        some (.widening narrow wide) ↔
      Widened layers value slotLayers slot narrow wide := by
  unfold Widened
  rcases conversion?_layers_cases bareValue bareSlot layers slotLayers with
    ⟨rfl, taken⟩ | ⟨-, ⟨beyond, refused⟩ | ⟨within, ⟨⟨rfl, -⟩, taken⟩ | ⟨-, bare⟩⟩⟩
  · rw [taken]
    exact iff_of_false nofun nofun
  · rw [refused]
    exact iff_of_false nofun fun both => Nat.not_le_of_lt beyond both.1
  · rw [taken]
    exact iff_of_false nofun nofun
  · rw [bare, conversion?_bare_eq_widening_iff bareSlot, and_iff_right within]

end

/-- Every type is a bare one under layers of nullability, and between two such types the
conversion is settled by the layers and the bare types: the value is stored as it is in a
slot for everything, and otherwise, where the slot has as many layers, in one of its own
type, or as null in one with more layers, or as a list in one that takes its elements;
it is widened by one of the steps between primitives, and so never inside a list; and in
every other case it does not fit. -/
theorem conversion?_closed_form :
    (∀ type : Ty, ∃ layers bare, bare.isNullable = false ∧ type = nullable^[layers] bare) ∧
    ∀ (layers slotLayers : Nat) (value slot : Ty),
      value.isNullable = false → slot.isNullable = false →
      ((nullable^[layers] value).conversion? (nullable^[slotLayers] slot) = some .identity ↔
        StoredAsIs layers value slotLayers slot) ∧
      (∀ narrow wide,
        (nullable^[layers] value).conversion? (nullable^[slotLayers] slot) =
            some (.widening narrow wide) ↔
          Widened layers value slotLayers slot narrow wide) ∧
      ((nullable^[layers] value).conversion? (nullable^[slotLayers] slot) = none ↔
        ¬StoredAsIs layers value slotLayers slot ∧
          ∀ narrow wide, ¬Widened layers value slotLayers slot narrow wide) := by
  refine ⟨exists_layers, ?_⟩
  intro layers slotLayers value slot bareValue bareSlot
  have asIs := conversion?_eq_identity_iff bareValue bareSlot layers slotLayers
  have widened := conversion?_eq_widening_iff bareValue bareSlot layers slotLayers
  refine ⟨asIs, widened, ?_⟩
  rw [← asIs]
  simp only [← widened]
  cases (nullable^[layers] value).conversion? (nullable^[slotLayers] slot) with
  | none => exact iff_of_true rfl ⟨nofun, nofun⟩
  | some conversion =>
      refine iff_of_false nofun ?_
      cases conversion with
      | identity => exact fun both => both.1 rfl
      | widening narrow wide => exact fun both => both.2 narrow wide rfl

/-- What may be an integer or null is widened under a second layer, and null is taken by a
layer more, but not by as many. -/
theorem integer_or_null_conversions :
    (primitive .int).isNullable = false ∧ (primitive .long).isNullable = false ∧
      Ty.null.isNullable = false ∧
      (nullable (primitive .int)).conversion? (nullable (nullable (primitive .long))) =
        some (.widening .int .long) ∧
      (nullable null).conversion? (nullable (nullable (primitive .int))) = some .identity ∧
      (nullable null).conversion? (nullable (primitive .int)) = none := by
  refine ⟨rfl, rfl, rfl, ?_, ?_, ?_⟩
  · have widened := (conversion?_closed_form.2 1 2 (primitive .int) (primitive .long) rfl rfl).2.1
    exact (widened .int .long).mpr ⟨by decide, rfl, rfl, by decide⟩
  · have asIs := (conversion?_closed_form.2 1 2 null (primitive .int) rfl rfl).1
    exact asIs.mpr (Or.inr ⟨by decide, Or.inr (Or.inl ⟨rfl, by decide⟩)⟩)
  · have unfit := (conversion?_closed_form.2 1 1 null (primitive .int) rfl rfl).2.2
    refine unfit.mpr ⟨?_, nofun⟩
    rintro (impossible | ⟨-, impossible | ⟨-, impossible⟩ | ⟨_, _, impossible, -⟩⟩)
    · cases impossible
    · cases impossible
    · exact Nat.lt_irrefl 1 impossible
    · cases impossible

end Ty

end MappingPlan
