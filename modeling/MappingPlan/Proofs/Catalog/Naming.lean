/-
Types are told apart by their written forms. The last character of a written form tells a
list, which ends in a bracket, and a type that admits null, which ends in a question mark,
from all others; what stands before it is the written form of a smaller type. The one
exception is the type of the null literal, which is written as if a type "Nothing" admitted
null, so nothing else may be written that way.

A declaration of a name that is taken is rejected, so every definition is found by its name,
however long the run was; and where no name can be taken for something else, a text that a
catalog shows stands for one type only.
-/

import Mathlib.Data.List.Basic
import Mathlib.Logic.Function.Basic
import MappingPlan.Proofs.Catalog.Extension

set_option autoImplicit false

namespace MappingPlan

namespace Ty

def words : List String :=
  ["Boolean", "Byte", "Short", "Int", "Long", "Float", "Double", "Char", "String", "Any",
    "Nothing"]

/-- A name that cannot be taken for the end of a list or of a type that admits null, nor for
one of the words. An opening bracket in it would do no harm. -/
structure Legible (name : String) : Prop where
  unclosed : '>' ∉ name.toList
  unmarked : '?' ∉ name.toList
  noWord : name ∉ words

instance (name : String) : Decidable (Legible name) :=
  decidable_of_iff ('>' ∉ name.toList ∧ '?' ∉ name.toList ∧ name ∉ words)
    ⟨fun parts => ⟨parts.1, parts.2.1, parts.2.2⟩,
      fun legible => ⟨legible.unclosed, legible.unmarked, legible.noWord⟩⟩

def ending? (text : String) : Option Char :=
  text.toList.getLast?.filter fun last => last = '>' ∨ last = '?'

def mark? : Ty → Option Char
  | list _ => some '>'
  | nullable _ | null => some '?'
  | _ => none

theorem ending?_append_bracket (text : String) : ending? (text ++ ">") = some '>' := by
  unfold ending?
  rw [String.toList_append]
  change Option.filter _ (text.toList ++ ['>']).getLast? = _
  rw [List.getLast?_concat]
  rfl

theorem ending?_append_question (text : String) : ending? (text ++ "?") = some '?' := by
  unfold ending?
  rw [String.toList_append]
  change Option.filter _ (text.toList ++ ['?']).getLast? = _
  rw [List.getLast?_concat]
  rfl

theorem Legible.ending? {name : String} (legible : Legible name) : Ty.ending? name = none := by
  unfold Ty.ending?
  rw [Option.filter_eq_none_iff]
  intro last found marked
  have member := List.mem_of_getLast? found
  rcases of_decide_eq_true marked with rfl | rfl
  · exact legible.unclosed member
  · exact legible.unmarked member

def leaves : List Ty :=
  [.primitive .bool, .primitive .byte, .primitive .short, .primitive .int, .primitive .long,
    .primitive .float, .primitive .double, .primitive .char, .string, .any]

theorem mark?_eq_none_iff (type : Ty) :
    type.mark? = none ↔ type ∈ leaves ∨ ∃ id, type = .named id := by
  cases type with
  | primitive kind => cases kind <;> simp [mark?, leaves]
  | _ => simp [mark?, leaves]

theorem render_of_leaf (name : TypeId → String) {type : Ty} (leaf : type ∈ leaves) :
    type.render name = type.text := by
  cases type with
  | named id => simp [leaves] at leaf
  | list element => simp [leaves] at leaf
  | nullable inner => simp [leaves] at leaf
  | _ => rfl

theorem render_null (name : TypeId → String) : null.render name = "Nothing" ++ "?" := by
  change "Nothing?" = "Nothing" ++ "?"
  decide

theorem text_mem_words : ∀ type ∈ leaves, type.text ∈ words := by decide

theorem text_leaf_ne_nothing : ∀ type ∈ leaves, type.text ≠ "Nothing" := by decide

theorem ending?_text_leaf : ∀ type ∈ leaves, ending? type.text = none := by decide

theorem text_leaf_inj : ∀ first ∈ leaves, ∀ second ∈ leaves,
    first.text = second.text → first = second := by decide

/-! ### Written forms -/

section

variable {name : TypeId → String} {known : TypeId → Prop}
  (legible : ∀ id, known id → Legible (name id))

include legible

theorem ending?_render {type : Ty} (mentioned : ∀ id, type.mentioned? = some id → known id) :
    ending? (type.render name) = type.mark? := by
  cases marked : type.mark? with
  | none =>
      rcases type.mark?_eq_none_iff.mp marked with leaf | ⟨id, rfl⟩
      · rw [render_of_leaf name leaf]
        exact ending?_text_leaf type leaf
      · exact (legible id (mentioned id rfl)).ending?
  | some mark =>
      cases type with
      | list element => exact (ending?_append_bracket _).trans marked
      | nullable inner => exact (ending?_append_question _).trans marked
      | null => exact (ending?_append_question "Nothing").trans marked
      | _ => cases marked

theorem mark?_eq_of_render_eq {first second : Ty}
    (firstMentioned : ∀ id, first.mentioned? = some id → known id)
    (secondMentioned : ∀ id, second.mentioned? = some id → known id)
    (same : first.render name = second.render name) : first.mark? = second.mark? := by
  rw [← ending?_render legible firstMentioned, ← ending?_render legible secondMentioned, same]

theorem render_ne_nothing {type : Ty} (mentioned : ∀ id, type.mentioned? = some id → known id) :
    type.render name ≠ "Nothing" := by
  intro same
  have unmarked : type.mark? = none := by
    rw [← ending?_render legible mentioned, same]
    decide
  rcases type.mark?_eq_none_iff.mp unmarked with leaf | ⟨id, rfl⟩
  · rw [render_of_leaf name leaf] at same
    exact text_leaf_ne_nothing type leaf same
  · have noWord := (legible id (mentioned id rfl)).noWord
    have isName : name id = "Nothing" := same
    rw [isName] at noWord
    exact noWord (by decide)

theorem name_ne_leaf {type : Ty} (leaf : type ∈ leaves) {id : TypeId} (idKnown : known id) :
    name id ≠ type.render name := by
  intro same
  rw [render_of_leaf name leaf] at same
  have noWord := (legible id idKnown).noWord
  rw [same] at noWord
  exact noWord (text_mem_words type leaf)

variable (distinct : ∀ id other, known id → known other → name id = name other → id = other)

include distinct

theorem eq_of_render_eq_of_unmarked {first second : Ty}
    (firstMentioned : ∀ id, first.mentioned? = some id → known id)
    (secondMentioned : ∀ id, second.mentioned? = some id → known id)
    (firstUnmarked : first.mark? = none) (secondUnmarked : second.mark? = none)
    (same : first.render name = second.render name) : first = second := by
  rcases first.mark?_eq_none_iff.mp firstUnmarked with firstLeaf | ⟨id, rfl⟩
  · rcases second.mark?_eq_none_iff.mp secondUnmarked with secondLeaf | ⟨other, rfl⟩
    · rw [render_of_leaf name firstLeaf, render_of_leaf name secondLeaf] at same
      exact text_leaf_inj first firstLeaf second secondLeaf same
    · exact absurd same.symm (name_ne_leaf legible firstLeaf (secondMentioned other rfl))
  · rcases second.mark?_eq_none_iff.mp secondUnmarked with secondLeaf | ⟨other, rfl⟩
    · exact absurd same (name_ne_leaf legible secondLeaf (firstMentioned id rfl))
    · exact congrArg named
        (distinct id other (firstMentioned id rfl) (secondMentioned other rfl) same)

/-- Where names are legible and no two types share one, types with one written form are one
type. -/
theorem eq_of_render_eq {first second : Ty}
    (firstMentioned : ∀ id, first.mentioned? = some id → known id)
    (secondMentioned : ∀ id, second.mentioned? = some id → known id)
    (same : first.render name = second.render name) : first = second := by
  have marks := mark?_eq_of_render_eq legible firstMentioned secondMentioned same
  induction first generalizing second with
  | list element ih =>
      cases second with
      | list other =>
          have inner := (String.append_left_inj ">").mp same
          have elements := (String.append_right_inj "List<").mp inner
          exact congrArg list (@ih other firstMentioned secondMentioned elements
            (mark?_eq_of_render_eq legible firstMentioned secondMentioned elements))
      | _ => cases marks
  | nullable inner ih =>
      cases second with
      | nullable other =>
          have inners := (String.append_left_inj "?").mp same
          exact congrArg nullable (@ih other firstMentioned secondMentioned inners
            (mark?_eq_of_render_eq legible firstMentioned secondMentioned inners))
      | null =>
          have nothing := (String.append_left_inj "?").mp (same.trans (render_null name))
          exact absurd nothing (render_ne_nothing legible firstMentioned)
      | _ => cases marks
  | null =>
      cases second with
      | null => rfl
      | nullable other =>
          have nothing := (String.append_left_inj "?").mp (same.symm.trans (render_null name))
          exact absurd nothing (render_ne_nothing legible secondMentioned)
      | _ => cases marks
  | _ =>
      exact eq_of_render_eq_of_unmarked legible distinct firstMentioned secondMentioned rfl
        marks.symm same

end

theorem toList_text (id : TypeId) : id.text.toList = 't' :: Nat.toDigits 10 id.number.toNat := by
  unfold TypeId.text
  rw [String.toList_append]
  exact congrArg ('t' :: ·) Nat.toList_repr

/-- A number is shown by a small letter and digits, and no word begins with a small letter. -/
theorem legible_text (id : TypeId) : Legible id.text := by
  have plain (char : Char) (notLetter : char ≠ 't') (notDigit : char.isDigit = false) :
      char ∉ id.text.toList := by
    rw [toList_text, List.mem_cons, not_or]
    refine ⟨notLetter, ?_⟩
    intro member
    have isDigit := Nat.isDigit_of_mem_toDigits (by decide) (by decide) member
    exact Bool.noConfusion (isDigit.symm.trans notDigit)
  refine ⟨plain '>' (by decide) (by decide), plain '?' (by decide) (by decide), ?_⟩
  intro isWord
  have noSmallLetter : ∀ word ∈ words, word.toList.head? ≠ some 't' := by decide
  apply noSmallLetter id.text isWord
  rw [toList_text]
  rfl

theorem textOf_injective : Function.Injective TypeId.text := by
  intro id other same
  have letters := congrArg String.toList same
  rw [toList_text, toList_text] at letters
  have numbers := congrArg (Nat.ofDigitChars 10 · 0) (List.cons.inj letters).2
  rw [Nat.ofDigitChars_toDigits (by decide) (by decide),
    Nat.ofDigitChars_toDigits (by decide) (by decide)] at numbers
  exact congrArg TypeId.mk (UInt32.toNat_inj.mp numbers)

theorem text_injective : Function.Injective text := by
  intro first second same
  exact @eq_of_render_eq TypeId.text (fun _ => True) (fun id _ => legible_text id)
    (fun _ _ _ _ shared => textOf_injective shared) first second (fun _ _ => trivial)
    (fun _ _ => trivial) same

end Ty

/-! ### Declared names -/

namespace Draft

variable {draft : Draft}

/-- Every definition that is stored is entered by its name. -/
def Named (draft : Draft) : Prop :=
  ∀ id definition, draft.definitions.find? id = some definition →
    draft.names.find? definition.name = some id

theorem named_empty : Draft.empty.Named := by
  intro id definition impossible
  cases impossible

theorem Named.step (named : draft.Named) (step : Step) : (draft.step step).2.Named := by
  rcases draft.step_cases step with
    ⟨declaration, rfl, accepted, stepped⟩ | ⟨ending, -, stepped⟩
  · have nameFree := (rejection?_eq_none_iff.mp accepted).2
    rw [stepped]
    intro id definition found
    have entered : (if id = ⟨draft.next⟩ then some (declaration.toDefinition ⟨draft.next⟩)
        else draft.definitions.find? id) = some definition :=
      (Table.find?_insert _ _ _ _).symm.trans found
    refine (Table.find?_insert _ _ _ _).trans ?_
    by_cases same : id = ⟨draft.next⟩
    · rw [if_pos same] at entered
      obtain rfl := Option.some.inj entered
      rw [same]
      exact if_pos rfl
    · rw [if_neg same] at entered
      have earlier := named id definition entered
      have otherName : definition.name ≠ declaration.name := by
        intro sameName
        rw [sameName, nameFree] at earlier
        cases earlier
      exact (if_neg otherName).trans earlier
  · rw [stepped]
    exact named

theorem Named.run (named : draft.Named) (steps : List Step) : (draft.run steps).2.Named := by
  induction steps generalizing draft with
  | nil => exact named
  | cons head rest ih => exact ih (named.step head)

end Draft

namespace Catalog

variable {catalog : Catalog}

theorem IsBuilt.idOf?_name (built : catalog.IsBuilt) {id : TypeId} {definition : Definition}
    (found : catalog.definition? id = some definition) :
    catalog.idOf? definition.name = some id := by
  obtain ⟨steps, closed⟩ := built
  have named := Draft.named_empty.run steps
  rw [Draft.close_eq_ok closed] at found ⊢
  exact named id definition found

theorem IsBuilt.id_eq_of_name_eq (built : catalog.IsBuilt) {id other : TypeId}
    {definition otherDefinition : Definition}
    (found : catalog.definition? id = some definition)
    (otherFound : catalog.definition? other = some otherDefinition)
    (same : definition.name = otherDefinition.name) : id = other := by
  have byName := built.idOf?_name found
  rw [same, built.idOf?_name otherFound] at byName
  exact (Option.some.inj byName).symm

/-- Every declared type has a name that cannot be taken for the text of another type. -/
def IsLegible (catalog : Catalog) : Prop :=
  ∀ id definition, catalog.definition? id = some definition → Ty.Legible definition.name

theorem nameOf_lookup {id : TypeId} {definition : Definition}
    (found : catalog.definition? id = some definition) :
    catalog.lookup.nameOf id = definition.name := by
  unfold TypeLookup.nameOf
  dsimp only [lookup]
  rw [found]

/-- What a catalog shows for types of which it knows everything tells them apart. -/
theorem IsBuilt.display_inj (built : catalog.IsBuilt) (legible : catalog.IsLegible)
    {first second : Ty} (firstKnown : catalog.lookup.Knows first)
    (secondKnown : catalog.lookup.Knows second)
    (same : catalog.lookup.display first = catalog.lookup.display second) : first = second := by
  refine @Ty.eq_of_render_eq catalog.lookup.nameOf
    (fun id => ∃ definition, catalog.definition? id = some definition) ?_ ?_ first second ?_ ?_ same
  · intro id declared
    obtain ⟨definition, found⟩ := declared
    rw [nameOf_lookup found]
    exact legible id definition found
  · intro id other declared otherDeclared sameName
    obtain ⟨definition, found⟩ := declared
    obtain ⟨otherDefinition, otherFound⟩ := otherDeclared
    rw [nameOf_lookup found, nameOf_lookup otherFound] at sameName
    exact built.id_eq_of_name_eq found otherFound sameName
  · intro id mentioned
    exact firstKnown id ((Ty.mentioned?_eq_some_iff first id).mp mentioned)
  · intro id mentioned
    exact secondKnown id ((Ty.mentioned?_eq_some_iff second id).mp mentioned)

end Catalog

end MappingPlan
