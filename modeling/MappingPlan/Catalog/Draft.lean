/-
A catalog under construction. A declaration becomes a definition under a number; it is at
fault on its own if it repeats a name it must not repeat. Every declaration takes the next
number, also one that fails or is abandoned, and a declaration that fails leaves nothing else
behind. Closing a draft checks that every type mentioned is declared.
-/

import MappingPlan.Catalog

set_option autoImplicit false

namespace MappingPlan

inductive DeclarationError where
  | duplicateTypeName (name : String)
  | duplicateProperty (type property : String)
  | duplicateParameter (type parameter : String)
  | duplicateEntry (type entry : String)
  | severalPrimaries (type : String)
  | duplicateEntryPoint (mapper : String) (kind : EntryPointKind)
  | unknownReference (owner : String) (reference : TypeId)
  deriving DecidableEq

def DeclarationError.message : DeclarationError → String
  | duplicateTypeName name => s!"Duplicate type name: {name}"
  | duplicateProperty type property => s!"Duplicate property '{property}' on type {type}"
  | duplicateParameter type parameter =>
      s!"Duplicate parameter '{parameter}' in constructor of {type}"
  | duplicateEntry type entry => s!"Duplicate entry '{entry}' in enum {type}"
  | severalPrimaries type => s!"More than one primary constructor on type {type}"
  | duplicateEntryPoint mapper kind =>
      s!"Duplicate entry point '{kind.text}' on mapper {mapper}"
  | unknownReference owner reference =>
      s!"Type {owner} references unknown type {reference.text}"

def firstRepeat? {α : Type} [DecidableEq α] : (seen : List α) → List α → Option α
  | _, [] => none
  | seen, head :: rest => if head ∈ seen then some head else firstRepeat? (head :: seen) rest

theorem firstRepeat?_eq_none_iff {α : Type} [DecidableEq α] (seen members : List α) :
    firstRepeat? seen members = none ↔
      members.Nodup ∧ ∀ member ∈ members, member ∉ seen := by
  induction members generalizing seen with
  | nil => simp [firstRepeat?]
  | cons head rest ih =>
      by_cases known : head ∈ seen
      · simp [firstRepeat?, known]
      · grind [firstRepeat?]

inductive ConstructorRole where
  | primary
  | secondary
  | hidden
  deriving DecidableEq

structure ConstructorOutline where
  role : ConstructorRole
  parameters : List Parameter
  deriving DecidableEq

inductive DeclarationBody where
  | classBody (properties : List (String × Ty)) (constructors : List ConstructorOutline)
  | enumBody (entries : List String)
  | mapperBody (source target : Ty) (entryPoints : List EntryPoint)
  deriving DecidableEq

structure Declaration where
  name : String
  body : DeclarationBody
  deriving DecidableEq

namespace ConstructorOutline

def toConstructor (outline : ConstructorOutline) (index : Nat) : Constructor where
  index := index
  parameters := outline.parameters
  isPrimary := outline.role = .primary
  isVisible := outline.role ≠ .hidden

def repeatedParameter? (outline : ConstructorOutline) : Option String :=
  firstRepeat? [] (outline.parameters.map (·.name))

end ConstructorOutline

namespace Declaration

def toDefinition (declaration : Declaration) (id : TypeId) : Definition where
  id := id
  name := declaration.name
  body :=
    match declaration.body with
    | .classBody properties constructors =>
        .classBody (constructors.mapIdx fun index outline => outline.toConstructor index)
          (properties.map fun (name, type) => ⟨name, type, ⟨id, name⟩⟩)
    | .enumBody entries => .enumBody entries
    | .mapperBody source target entryPoints => .mapperBody source target entryPoints

/-- The fault of a declaration on its own, whatever else is declared. A class is
searched for a repeated property, then for a second primary constructor, then
for a repeated parameter. -/
def fault? (declaration : Declaration) : Option DeclarationError :=
  match declaration.body with
  | .classBody properties constructors =>
      match firstRepeat? [] (properties.map (·.1)) with
      | some property => some (.duplicateProperty declaration.name property)
      | none =>
          if 1 < constructors.countP (·.role = .primary) then
            some (.severalPrimaries declaration.name)
          else
            (constructors.findSome? (·.repeatedParameter?)).map
              (.duplicateParameter declaration.name)
  | .enumBody entries =>
      (firstRepeat? [] entries).map (.duplicateEntry declaration.name)
  | .mapperBody _ _ entryPoints =>
      (firstRepeat? [] (entryPoints.map (·.kind))).map (.duplicateEntryPoint declaration.name)

end Declaration

/-! ### Drafts -/

structure Draft where
  next : UInt32 := 0
  definitions : Table TypeId Definition := {}
  names : Table String TypeId := {}
  deriving DecidableEq

namespace Draft

def empty : Draft := {}

def reserve (draft : Draft) : TypeId × Draft :=
  (⟨draft.next⟩, { draft with next := draft.next + 1 })

/-- Why a declaration cannot enter the draft: a fault of its own, or else a name
that is taken. -/
def rejection? (draft : Draft) (declaration : Declaration) : Option DeclarationError :=
  match declaration.fault? with
  | some fault => some fault
  | none =>
      if draft.names.contains declaration.name then
        some (.duplicateTypeName declaration.name)
      else none

def store (draft : Draft) (definition : Definition) : Draft :=
  { draft with
    definitions := draft.definitions.insert definition.id definition
    names := draft.names.insert definition.name definition.id }

def declare (draft : Draft) (declaration : Declaration) :
    Except DeclarationError TypeId × Draft :=
  let (id, numbered) := draft.reserve
  match draft.rejection? declaration with
  | some error => (.error error, numbered)
  | none => (.ok id, numbered.store (declaration.toDefinition id))

inductive Step where
  | declare (declaration : Declaration)
  | abandon
  deriving DecidableEq

inductive Ending where
  | declared
  | abandoned
  | rejected (error : DeclarationError)
  deriving DecidableEq

/-- Take one step. Every step takes a number, however it ends. -/
def step (draft : Draft) : Step → (TypeId × Ending) × Draft
  | .abandon =>
      let (id, numbered) := draft.reserve
      ((id, .abandoned), numbered)
  | .declare declaration =>
      match draft.declare declaration with
      | (.ok id, declared) => ((id, .declared), declared)
      | (.error error, numbered) => ((⟨draft.next⟩, .rejected error), numbered)

/-- Take steps in order. A rejected declaration does not stop the later ones. -/
def run (draft : Draft) : List Step → List (TypeId × Ending) × Draft
  | [] => ([], draft)
  | head :: rest =>
      let (ending, draft) := draft.step head
      let (endings, draft) := draft.run rest
      (ending :: endings, draft)

def knows (draft : Draft) (id : TypeId) : Bool := draft.definitions.contains id

/-- The first definition, in the order visited, that mentions an unknown type. -/
def dangling? (known : TypeId → Bool) (visited : List Definition) :
    Option DeclarationError :=
  visited.findSome? fun definition =>
    (definition.firstUnknown? known).map (.unknownReference definition.name)

/-- Close the draft. Types may mention each other and themselves in any order. -/
def close (draft : Draft) : Except DeclarationError Catalog :=
  match dangling? draft.knows draft.definitions.values with
  | some error => .error error
  | none =>
      .ok ⟨draft.definitions, draft.names, .ofDefinitions draft.definitions.values⟩

end Draft

end MappingPlan
