/-
Computations that may fail, alone and side by side. A traversal succeeds exactly
when every element does, and fails as the first element that does. Two computations
run in lockstep if both fail or both succeed, with related failures and related
results; a chain of steps is in lockstep if each of its steps is.
-/

import Mathlib.Data.List.Forall2

set_option autoImplicit false

namespace MappingPlan

variable {Error Value Result : Type}

theorem exists_eq_ok_iff {action : Except Error Value} :
    (∃ value, action = .ok value) ↔ ∀ failure, action ≠ .error failure := by
  cases action with
  | ok value =>
      constructor
      · intro _ failure impossible
        cases impossible
      · intro _
        exact ⟨value, rfl⟩
  | error failure =>
      constructor
      · intro success
        obtain ⟨_, impossible⟩ := success
        cases impossible
      · intro fine
        exact absurd rfl (fine failure)

theorem bind_eq_ok_iff {action : Except Error Value} {next : Value → Except Error Result}
    {result : Result} :
    (action >>= next) = .ok result ↔ ∃ value, action = .ok value ∧ next value = .ok result := by
  constructor
  · intro success
    cases reached : action with
    | error failure =>
        rw [reached] at success
        cases success
    | ok value =>
        rw [reached] at success
        exact ⟨value, rfl, success⟩
  · intro stages
    obtain ⟨value, reached, success⟩ := stages
    rw [reached]
    exact success

theorem exists_bind_eq_ok_iff {action : Except Error Value} {next : Value → Except Error Result} :
    (∃ result, (action >>= next) = .ok result) ↔
      ∃ value, action = .ok value ∧ ∃ result, next value = .ok result := by
  simp only [bind_eq_ok_iff]
  rw [exists_comm]
  simp only [exists_and_left]

theorem bind_eq_error_iff {action : Except Error Value}
    {next : Value → Except Error Result} {failure : Error} :
    (action >>= next) = .error failure ↔
      action = .error failure ∨ ∃ value, action = .ok value ∧ next value = .error failure := by
  cases action with
  | error early =>
      constructor
      · intro failed
        exact Or.inl (congrArg Except.error (Except.error.inj failed))
      · intro either
        rcases either with failed | ⟨_, impossible, -⟩
        · exact congrArg Except.error (Except.error.inj failed)
        · cases impossible
  | ok value =>
      constructor
      · intro failed
        exact Or.inr ⟨value, rfl, failed⟩
      · intro either
        rcases either with impossible | ⟨_, same, failed⟩
        · cases impossible
        · obtain rfl := Except.ok.inj same
          exact failed

/-- A last step that only makes a result adds no failure. -/
theorem bind_pure_eq_error_iff {action : Except Error Value} {next : Value → Result}
    {failure : Error} :
    (action >>= fun value => pure (next value)) = .error failure ↔ action = .error failure := by
  rw [bind_eq_error_iff]
  refine or_iff_left ?_
  intro impossible
  obtain ⟨_, -, impossible⟩ := impossible
  cases impossible

/-- If a step commutes with an exchange of values, so does a chain that ends in it. -/
theorem map_bind_of_commutes {Other Exchanged : Type} {action : Except Error Value}
    {exchange : Value → Other} {next : Value → Except Error Result}
    {nextOther : Other → Except Error Exchanged} {after : Result → Exchanged}
    (commutes : ∀ value, nextOther (exchange value) = (next value).map after) :
    (action.map exchange >>= nextOther) = (action >>= next).map after := by
  cases action with
  | ok value => exact commutes value
  | error failure => rfl

theorem mapM_map_of_commutes {Other Exchanged : Type} {exchange : Value → Other}
    {step : Value → Except Error Result} {stepOther : Other → Except Error Exchanged}
    {after : Result → Exchanged}
    (commutes : ∀ value, stepOther (exchange value) = (step value).map after)
    (elements : List Value) :
    (elements.map exchange).mapM stepOther = (elements.mapM step).map (·.map after) := by
  induction elements with
  | nil => rfl
  | cons head rest ih =>
      rw [List.map_cons, List.mapM_cons, List.mapM_cons, commutes]
      apply map_bind_of_commutes
      intro first
      rw [ih]
      apply map_bind_of_commutes
      intro others
      rfl

theorem mapM_congr {step other : Value → Except Error Result} {elements : List Value}
    (same : ∀ element ∈ elements, step element = other element) :
    elements.mapM step = elements.mapM other := by
  induction elements with
  | nil => rfl
  | cons head rest ih =>
      obtain ⟨atHead, atRest⟩ := List.forall_mem_cons.mp same
      rw [List.mapM_cons, List.mapM_cons, atHead, ih atRest]

theorem mapM_eq_ok_iff (step : Value → Except Error Result) (elements : List Value)
    (results : List Result) :
    elements.mapM step = .ok results ↔
      List.Forall₂ (fun element result => step element = .ok result) elements results := by
  induction elements generalizing results with
  | nil =>
      rw [List.mapM_nil, List.forall₂_nil_left_iff]
      exact ⟨fun success => (Except.ok.inj success).symm, fun empty => empty ▸ rfl⟩
  | cons head rest ih =>
      rw [List.mapM_cons, bind_eq_ok_iff, List.forall₂_cons_left_iff]
      constructor
      · intro stages
        obtain ⟨first, atHead, success⟩ := stages
        obtain ⟨others, atRest, equal⟩ := bind_eq_ok_iff.mp success
        exact ⟨first, others, atHead, (ih others).mp atRest, (Except.ok.inj equal).symm⟩
      · intro stages
        obtain ⟨first, others, atHead, atRest, rfl⟩ := stages
        exact ⟨first, atHead, bind_eq_ok_iff.mpr ⟨others, (ih others).mpr atRest, rfl⟩⟩

theorem exists_mapM_eq_ok_iff (step : Value → Except Error Result) (elements : List Value) :
    (∃ results, elements.mapM step = .ok results) ↔
      ∀ element ∈ elements, ∃ result, step element = .ok result := by
  simp only [mapM_eq_ok_iff]
  induction elements with
  | nil =>
      constructor
      · intro _ element absent
        cases absent
      · intro _
        exact ⟨[], .nil⟩
  | cons head rest ih =>
      rw [List.forall_mem_cons, ← ih]
      constructor
      · intro success
        obtain ⟨results, related⟩ := success
        obtain ⟨first, others, atHead, atRest, -⟩ := List.forall₂_cons_left_iff.mp related
        exact ⟨⟨first, atHead⟩, others, atRest⟩
      · intro both
        obtain ⟨⟨first, atHead⟩, others, atRest⟩ := both
        exact ⟨first :: others, .cons atHead atRest⟩

/-- A traversal fails as the first element that fails, whatever comes after it. -/
theorem mapM_eq_error_iff (step : Value → Except Error Result) (elements : List Value)
    (failure : Error) :
    elements.mapM step = .error failure ↔
      ∃ before offending after, elements = before ++ offending :: after ∧
        (∀ element ∈ before, ∃ result, step element = .ok result) ∧
        step offending = .error failure := by
  induction elements with
  | nil =>
      constructor
      · intro impossible
        cases impossible
      · intro split
        obtain ⟨before, offending, after, empty, -, -⟩ := split
        exact absurd empty.symm (List.append_ne_nil_of_right_ne_nil _ (List.cons_ne_nil _ _))
  | cons head rest ih =>
      rw [List.mapM_cons, bind_eq_error_iff]
      constructor
      · intro either
        rcases either with atHead | ⟨first, atHead, failed⟩
        · exact ⟨[], head, rest, rfl, nofun, atHead⟩
        · rcases bind_eq_error_iff.mp failed with inRest | ⟨_, -, impossible⟩
          · obtain ⟨before, offending, after, rfl, fine, fails⟩ := ih.mp inRest
            exact ⟨head :: before, offending, after, rfl,
              List.forall_mem_cons.mpr ⟨⟨first, atHead⟩, fine⟩, fails⟩
          · cases impossible
      · intro split
        obtain ⟨before, offending, after, equal, fine, fails⟩ := split
        cases before with
        | nil =>
            obtain ⟨rfl, -⟩ := List.cons.inj equal
            exact Or.inl fails
        | cons first others =>
            obtain ⟨rfl, sameRest⟩ := List.cons.inj equal
            obtain ⟨⟨result, atHead⟩, fineOthers⟩ := List.forall_mem_cons.mp fine
            have inRest := ih.mpr ⟨others, offending, after, sameRest, fineOthers, fails⟩
            exact Or.inr ⟨result, atHead, bind_eq_error_iff.mpr (Or.inl inRest)⟩

theorem exists_left_of_mem {relation : Value → Result → Prop} {elements : List Value}
    {results : List Result} (related : List.Forall₂ relation elements results)
    {result : Result} (member : result ∈ results) :
    ∃ element ∈ elements, relation element result := by
  induction related with
  | nil => cases member
  | @cons first _ rest _ atHead _ ih =>
      rcases List.mem_cons.mp member with same | later
      · exact ⟨first, List.mem_cons_self, same ▸ atHead⟩
      · obtain ⟨element, found, atElement⟩ := ih later
        exact ⟨element, List.mem_cons_of_mem first found, atElement⟩

theorem exists_right_of_mem {relation : Value → Result → Prop} {elements : List Value}
    {results : List Result} (related : List.Forall₂ relation elements results)
    {element : Value} (member : element ∈ elements) :
    ∃ result ∈ results, relation element result :=
  exists_left_of_mem related.flip member

theorem exists_of_mem_mapM {step : Value → Except Error Result} {elements : List Value}
    {results : List Result} (success : elements.mapM step = .ok results) {result : Result}
    (member : result ∈ results) : ∃ element ∈ elements, step element = .ok result :=
  exists_left_of_mem ((mapM_eq_ok_iff step elements results).mp success) member

def FailsWithin (kind : Error → Prop) (action : Except Error Value) : Prop :=
  ∀ failure, action = .error failure → kind failure

namespace FailsWithin

variable {kind : Error → Prop} {action : Except Error Value}

theorem ok (value : Value) : FailsWithin kind (.ok value) := by
  intro failure impossible
  cases impossible

theorem error {failure : Error} (ofKind : kind failure) :
    FailsWithin kind (.error failure : Except Error Value) := by
  intro reported same
  obtain rfl := Except.error.inj same
  exact ofKind

theorem bind {next : Value → Except Error Result} (first : FailsWithin kind action)
    (later : ∀ value, action = .ok value → FailsWithin kind (next value)) :
    FailsWithin kind (action >>= next) := by
  intro failure failed
  rcases bind_eq_error_iff.mp failed with early | ⟨value, reached, late⟩
  · exact first failure early
  · exact later value reached failure late

end FailsWithin

/-! ### Two computations -/

variable {Left Right NextLeft NextRight : Type}

/-- Both computations fail, or both succeed. -/
inductive Lockstep (failures : Error → Error → Prop) (results : Left → Right → Prop) :
    Except Error Left → Except Error Right → Prop where
  | ok {left : Left} {right : Right} :
      results left right → Lockstep failures results (.ok left) (.ok right)
  | error {left right : Error} :
      failures left right → Lockstep failures results (.error left) (.error right)

namespace Lockstep

variable {failures : Error → Error → Prop} {results : Left → Right → Prop}
  {left : Except Error Left} {right : Except Error Right}

theorem refl {results : Left → Left → Prop} {action : Except Error Left}
    (sameFailure : ∀ failure, failures failure failure)
    (sameResult : ∀ result, action = .ok result → results result result) :
    Lockstep failures results action action := by
  cases action with
  | error failure => exact .error (sameFailure failure)
  | ok result => exact .ok (sameResult result rfl)

theorem bind {nextResults : NextLeft → NextRight → Prop}
    {nextLeft : Left → Except Error NextLeft} {nextRight : Right → Except Error NextRight}
    (first : Lockstep failures results left right)
    (next : ∀ {leftResult rightResult}, results leftResult rightResult →
      Lockstep failures nextResults (nextLeft leftResult) (nextRight rightResult)) :
    Lockstep failures nextResults (left >>= nextLeft) (right >>= nextRight) := by
  cases first with
  | ok related => exact next related
  | error related => exact .error related

theorem imp {alsoFailures : Error → Error → Prop} {alsoResults : Left → Right → Prop}
    (lockstep : Lockstep failures results left right)
    (failed : ∀ {leftFailure rightFailure}, failures leftFailure rightFailure →
      alsoFailures leftFailure rightFailure)
    (succeeded : ∀ {leftResult rightResult}, results leftResult rightResult →
      alsoResults leftResult rightResult) :
    Lockstep alsoFailures alsoResults left right := by
  cases lockstep with
  | ok related => exact .ok (succeeded related)
  | error related => exact .error (failed related)

theorem mapM {elements : Left → Left → Prop} {results : Right → Right → Prop}
    {step : Left → Except Error Right} {atLeft atRight : List Left}
    (related : List.Forall₂ elements atLeft atRight)
    (each : ∀ {leftElement rightElement}, elements leftElement rightElement →
      Lockstep failures results (step leftElement) (step rightElement)) :
    Lockstep failures (List.Forall₂ results) (atLeft.mapM step) (atRight.mapM step) := by
  induction related with
  | nil => exact .ok .nil
  | cons atHead _ ih =>
      rw [List.mapM_cons, List.mapM_cons]
      apply (each atHead).bind
      intro _ _ first
      apply ih.bind
      intro _ _ others
      exact .ok (.cons first others)

/-- Two computations in lockstep with the same third one, by what failures and results
look like, are in lockstep with each other. -/
theorem of_common {Look View : Type} {look : Error → Look} {view : Left → View}
    {common left right : Except Error Left}
    (toLeft : Lockstep (fun first second => look first = look second)
      (fun first second => view first = view second) common left)
    (toRight : Lockstep (fun first second => look first = look second)
      (fun first second => view first = view second) common right) :
    Lockstep (fun first second => look first = look second)
      (fun first second => view first = view second) left right := by
  cases toLeft with
  | ok atLeft =>
      cases toRight with
      | ok atRight => exact .ok (atLeft.symm.trans atRight)
  | error atLeft =>
      cases toRight with
      | error atRight => exact .error (atLeft.symm.trans atRight)

/-- Computations of which each succeeds if the other does are in lockstep as soon as
their results are related, however they fail. -/
theorem of_results (sameSuccess : (∃ result, left = .ok result) ↔ ∃ result, right = .ok result)
    (related : ∀ leftResult rightResult, left = .ok leftResult → right = .ok rightResult →
      results leftResult rightResult) :
    Lockstep (fun _ _ => True) results left right := by
  cases left with
  | ok leftResult =>
      obtain ⟨rightResult, rfl⟩ := sameSuccess.mp ⟨leftResult, rfl⟩
      exact .ok (related leftResult rightResult rfl rfl)
  | error leftFailure =>
      cases right with
      | error rightFailure => exact .error trivial
      | ok rightResult =>
          obtain ⟨_, impossible⟩ := sameSuccess.mpr ⟨rightResult, rfl⟩
          cases impossible

theorem isOk_iff (lockstep : Lockstep failures results left right) :
    (∃ result, left = .ok result) ↔ ∃ result, right = .ok result := by
  cases lockstep with
  | ok related => exact ⟨fun _ => ⟨_, rfl⟩, fun _ => ⟨_, rfl⟩⟩
  | error related =>
      constructor <;>
        · intro success
          obtain ⟨result, impossible⟩ := success
          cases impossible

theorem of_ok {leftResult : Left} {rightResult : Right}
    (lockstep : Lockstep failures results (.ok leftResult) (.ok rightResult)) :
    results leftResult rightResult := by
  cases lockstep with
  | ok related => exact related

theorem eq_ok (lockstep : Lockstep failures results left right) :
    Lockstep failures
      (fun leftResult rightResult =>
        left = .ok leftResult ∧ right = .ok rightResult ∧ results leftResult rightResult)
      left right := by
  cases lockstep with
  | ok related => exact .ok ⟨rfl, rfl, related⟩
  | error related => exact .error related

theorem error_iff (lockstep : Lockstep Eq results left right) (failure : Error) :
    left = .error failure ↔ right = .error failure := by
  cases lockstep with
  | ok related => constructor <;> intro impossible <;> cases impossible
  | error same =>
      rw [Except.error.injEq, Except.error.injEq, same]

end Lockstep

end MappingPlan
