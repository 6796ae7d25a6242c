/-
Assignability as an order on types. A value that reaches one slot and from there another,
not converted at both, reaches the other at once. Two types take each other's values
exactly if they differ only in layers of nullability around the type of every value, which
takes null by itself.
-/

import MappingPlan.Proofs.Ty.Layers

set_option autoImplicit false

namespace MappingPlan

namespace Ty

theorem assignableTo_iff (value slot : Ty) :
    value.assignableTo slot = true ↔ value.conversion? slot = some .identity :=
  decide_eq_true_iff

theorem assignableTo_refl (type : Ty) : type.assignableTo type = true :=
  (assignableTo_iff type type).mpr (conversion?_self type)

/-- Null apart, a value reaches a slot as what is left of it without a layer reaches what
is left of the slot. -/
theorem conversion?_core_core {value slot : Ty} {conversion : Conversion}
    (notNull : value ≠ .null) (reaches : value.conversion? slot = some conversion) :
    value.core.conversion? slot.core = some conversion := by
  cases slot with
  | any => exact reaches
  | nullable inner =>
      rw [conversion?_into_nullable, if_neg notNull] at reaches
      exact reaches
  | _ =>
      cases value with
      | nullable inner => cases reaches
      | _ => exact reaches

theorem eq_null_of_conversion? {value : Ty} {conversion : Conversion}
    (reaches : value.conversion? .null = some conversion) : value = .null := by
  unfold conversion? at reaches
  split at reaches
  next same => exact same
  next => cases reaches

theorem exists_element_of_conversion? {value element : Ty} {conversion : Conversion}
    (reaches : value.conversion? (.list element) = some conversion) :
    conversion = .identity ∧
      ∃ inner, value = .list inner ∧ inner.assignableTo element = true := by
  cases conversion with
  | widening narrow wide => exact absurd reaches (conversion?_list_ne_widening _ _ narrow wide)
  | identity =>
      rcases (conversion?_list_eq_identity_iff value element).mp reaches with same | elementwise
      · exact ⟨rfl, element, same, assignableTo_refl element⟩
      · exact ⟨rfl, elementwise⟩

theorem exists_primitive_of_conversion? {value : Ty} {kind : Primitive}
    {conversion : Conversion} (reaches : value.conversion? (.primitive kind) = some conversion) :
    ∃ narrow, value = .primitive narrow ∧ (conversion = .identity → narrow = kind) := by
  cases conversion with
  | identity =>
      have same := (conversion?_primitive_eq_identity_iff value kind).mp reaches
      exact ⟨kind, same, fun _ => rfl⟩
  | widening narrow wide =>
      have widened := (conversion?_primitive_eq_widening_iff value kind narrow wide).mp reaches
      exact ⟨narrow, widened.1, nofun⟩

/-- A value that reaches a slot through another reaches it at once, unless it is widened on
both ways. If it is widened on one of them, it is widened the same way at once, or, being
null, not at all. -/
theorem conversion?_trans {value middle slot : Ty} {first second : Conversion}
    (enters : value.conversion? middle = some first)
    (leaves : middle.conversion? slot = some second)
    (once : first = .identity ∨ second = .identity) :
    ∃ conversion, value.conversion? slot = some conversion ∧
      (conversion = .identity ∨ conversion = first ∨ conversion = second) := by
  induction slot generalizing value middle first second with
  | any => exact ⟨.identity, rfl, Or.inl rfl⟩
  | nullable inner ih =>
      rw [conversion?_into_nullable]
      by_cases isNull : value = .null
      · exact ⟨.identity, if_pos isNull, Or.inl rfl⟩
      · have middleNotNull : middle ≠ .null := by
          intro same
          rw [same] at enters
          exact isNull (eq_null_of_conversion? enters)
        rw [conversion?_into_nullable, if_neg middleNotNull] at leaves
        rw [if_neg isNull]
        exact ih (conversion?_core_core isNull enters) leaves once
  | list element ih =>
      obtain ⟨-, second, rfl, leavesElement⟩ := exists_element_of_conversion? leaves
      obtain ⟨-, first, rfl, entersElement⟩ := exists_element_of_conversion? enters
      obtain ⟨conversion, reaches, kept⟩ := ih ((assignableTo_iff _ _).mp entersElement)
        ((assignableTo_iff _ _).mp leavesElement) (Or.inl rfl)
      obtain rfl : conversion = .identity := by simpa only [or_self] using kept
      have elementwise := (conversion?_list_eq_identity_iff (.list first) element).mpr
        (Or.inr ⟨first, rfl, (assignableTo_iff _ _).mpr reaches⟩)
      exact ⟨.identity, elementwise, Or.inl rfl⟩
  | primitive kind =>
      obtain ⟨through, rfl, stays⟩ := exists_primitive_of_conversion? leaves
      obtain ⟨narrow, rfl, entersSame⟩ := exists_primitive_of_conversion? enters
      rcases once with storedFirst | storedSecond
      · obtain rfl := entersSame storedFirst
        exact ⟨second, leaves, Or.inr (Or.inr rfl)⟩
      · obtain rfl := stays storedSecond
        exact ⟨first, enters, Or.inr (Or.inl rfl)⟩
  | _ =>
      unfold conversion? at leaves
      split at leaves
      next same =>
        subst same
        exact ⟨first, enters, Or.inr (Or.inl rfl)⟩
      next => cases leaves

theorem assignableTo_trans {value middle slot : Ty} (enters : value.assignableTo middle = true)
    (leaves : middle.assignableTo slot = true) : value.assignableTo slot = true := by
  rw [assignableTo_iff] at enters leaves ⊢
  obtain ⟨conversion, reaches, kept⟩ := conversion?_trans enters leaves (Or.inl rfl)
  obtain rfl : conversion = .identity := by simpa only [or_self] using kept
  exact reaches

/-- The type with no layer of nullability left around the type of every value, at any
depth. -/
def absorbed : Ty → Ty
  | nullable inner => if inner.absorbed = any then any else nullable inner.absorbed
  | list element => list element.absorbed
  | type => type

theorem any_assignableTo_nullable (inner : Ty) :
    any.assignableTo (nullable inner) = any.assignableTo inner := by
  unfold assignableTo
  rw [conversion?_into_nullable, if_neg nofun]
  rfl

theorem assignableTo_any (type : Ty) : type.assignableTo any = true := rfl

theorem nullable_assignableTo_nullable (value slot : Ty) :
    (nullable value).assignableTo (nullable slot) = value.assignableTo slot := by
  unfold assignableTo
  rw [conversion?_into_nullable, if_neg nofun]
  rfl

theorem list_assignableTo_list (value slot : Ty) :
    (list value).assignableTo (list slot) = value.assignableTo slot := by
  rw [Bool.eq_iff_iff, assignableTo_iff, conversion?_list_eq_identity_iff]
  constructor
  · intro taken
    rcases taken with same | ⟨element, same, fits⟩
    · rw [list.inj same]
      exact assignableTo_refl slot
    · rw [list.inj same]
      exact fits
  · intro fits
    exact Or.inr ⟨value, rfl, fits⟩

theorem assignableTo_absorbed (type : Ty) :
    type.assignableTo type.absorbed = true ∧ type.absorbed.assignableTo type = true := by
  induction type with
  | list element ih =>
      unfold absorbed
      rw [list_assignableTo_list, list_assignableTo_list]
      exact ih
  | nullable inner ih =>
      unfold absorbed
      split
      next isAny =>
        rw [any_assignableTo_nullable]
        exact ⟨assignableTo_any _, isAny ▸ ih.2⟩
      next =>
        rw [nullable_assignableTo_nullable, nullable_assignableTo_nullable]
        exact ih
  | _ => exact ⟨assignableTo_refl _, assignableTo_refl _⟩

theorem absorbed_of_any_assignableTo {type : Ty} (takesAll : any.assignableTo type = true) :
    type.absorbed = any := by
  induction type with
  | any => rfl
  | nullable inner ih =>
      rw [any_assignableTo_nullable] at takesAll
      exact if_pos (ih takesAll)
  | _ => cases takesAll

theorem absorbed_eq_of_mutual {left right : Ty} (forth : left.assignableTo right = true)
    (back : right.assignableTo left = true) : left.absorbed = right.absorbed := by
  induction left generalizing right with
  | any => exact (absorbed_of_any_assignableTo forth).symm
  | nullable inner ih =>
      cases right with
      | any => exact absorbed_of_any_assignableTo back
      | nullable other =>
          rw [nullable_assignableTo_nullable] at forth back
          unfold absorbed
          rw [ih forth back]
      | _ => cases forth
  | list element ih =>
      obtain ⟨-, other, rfl, backElement⟩ :=
        exists_element_of_conversion? ((assignableTo_iff _ _).mp back)
      rw [list_assignableTo_list] at forth
      exact congrArg list (ih forth backElement)
  | _ =>
      have same := (conversion?_bare_eq_identity_iff rfl).mp ((assignableTo_iff _ _).mp back)
      simp only [reduceCtorEq, false_and, and_false, exists_false, or_false, false_or] at same
      rw [same]

theorem assignableTo_of_absorbed_eq {left right : Ty} (same : left.absorbed = right.absorbed) :
    left.assignableTo right = true := by
  have out := (assignableTo_absorbed left).1
  have back := (assignableTo_absorbed right).2
  exact assignableTo_trans out (same ▸ back)

theorem mutually_assignable_iff (left right : Ty) :
    (left.assignableTo right = true ∧ right.assignableTo left = true) ↔
      left.absorbed = right.absorbed := by
  constructor
  · intro both
    exact absorbed_eq_of_mutual both.1 both.2
  · intro same
    exact ⟨assignableTo_of_absorbed_eq same, assignableTo_of_absorbed_eq same.symm⟩

/-- Assignability is a preorder, a conversion may follow it or come before it, and the types
that it holds between both ways are those that are one type once no nullability is left
around the type of every value. -/
theorem assignability_preorder :
    (∀ type : Ty, type.assignableTo type = true) ∧
    (∀ value middle slot : Ty, value.assignableTo middle = true →
      middle.assignableTo slot = true → value.assignableTo slot = true) ∧
    (∀ value middle slot : Ty, value.assignableTo middle = true →
      middle.conversion? slot ≠ none → value.conversion? slot ≠ none) ∧
    (∀ value middle slot : Ty, value.conversion? middle ≠ none →
      middle.assignableTo slot = true → value.conversion? slot ≠ none) ∧
    ∀ left right : Ty,
      (left.assignableTo right = true ∧ right.assignableTo left = true) ↔
        left.absorbed = right.absorbed := by
  refine ⟨assignableTo_refl, fun _ _ _ => assignableTo_trans, ?_, ?_, mutually_assignable_iff⟩
  · intro value middle slot stored converts
    rw [Option.ne_none_iff_exists'] at converts ⊢
    obtain ⟨second, leaves⟩ := converts
    obtain ⟨conversion, reaches, -⟩ :=
      conversion?_trans ((assignableTo_iff value middle).mp stored) leaves (Or.inl rfl)
    exact ⟨conversion, reaches⟩
  · intro value middle slot converts stored
    rw [Option.ne_none_iff_exists'] at converts ⊢
    obtain ⟨first, enters⟩ := converts
    obtain ⟨conversion, reaches, -⟩ :=
      conversion?_trans enters ((assignableTo_iff middle slot).mp stored) (Or.inr rfl)
    exact ⟨conversion, reaches⟩

/-- Null and an integer go by way of what may be an integer, where only the integer is
widened, and lists of everything take null as an element without saying so. -/
theorem optional_integers_between :
    null.assignableTo (nullable (primitive .int)) = true ∧
      (nullable (primitive .int)).conversion? (nullable (primitive .long)) ≠ none ∧
      null.conversion? (nullable (primitive .long)) ≠ none ∧
      (primitive .int).conversion? (nullable (primitive .long)) ≠ none ∧
      (primitive .int).conversion? any ≠ none ∧
      (list null).assignableTo (list any) = true ∧
      (list any).assignableTo (list (nullable (nullable any))) = true := by
  obtain ⟨-, transitive, followed, preceded, exchange⟩ := assignability_preorder
  have toOptional : null.assignableTo (nullable (primitive .int)) = true := rfl
  have widened : (nullable (primitive .int)).conversion? (nullable (primitive .long)) ≠ none :=
    nofun
  have widenedInto : (primitive .int).conversion? (primitive .long) ≠ none := nofun
  refine ⟨toOptional, widened, followed _ _ _ toOptional widened,
    preceded _ _ _ widenedInto rfl, preceded _ _ _ widenedInto rfl, ?_, ?_⟩
  · exact transitive (list null) (list (nullable any)) (list any) rfl rfl
  · exact ((exchange (list any) (list (nullable (nullable any)))).mpr rfl).1

end Ty

end MappingPlan
