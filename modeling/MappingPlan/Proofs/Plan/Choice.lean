/-
The choice among constructor plans. It depends only on which of them are primary and how many
members directives fill in each. A plan on its own is chosen; so is the only primary one among
several; otherwise the one with the most members that directives fill is, and of several such
plans the first. There is one place, within the list, that the choice can fall on, and only an
empty list leaves nothing to choose.
-/

import Mathlib.Data.List.Basic
import MappingPlan.Plan
import MappingPlan.Proofs.Lockstep

set_option autoImplicit false

namespace MappingPlan

/-! ### The first of the greatest -/

variable {Element Origin : Type}

/-- No element scores higher, and none before it as high. -/
def FirstMost (score : Element → Nat) (elements : List Element) (chosen : Element) : Prop :=
  ∃ before after, elements = before ++ chosen :: after ∧
    (∀ other ∈ before, score other < score chosen) ∧
    ∀ other ∈ after, score other ≤ score chosen

namespace FirstMost

variable {score : Element → Nat} {elements : List Element} {chosen : Element}

theorem mem (most : FirstMost score elements chosen) : chosen ∈ elements := by
  obtain ⟨before, after, rfl, -, -⟩ := most
  exact List.mem_append_right before List.mem_cons_self

theorem le_chosen (most : FirstMost score elements chosen) {other : Element}
    (member : other ∈ elements) : score other ≤ score chosen := by
  obtain ⟨before, after, rfl, lower, atMost⟩ := most
  rcases List.mem_append.mp member with early | late
  · exact Nat.le_of_lt (lower other early)
  · rcases List.mem_cons.mp late with same | later
    · exact Nat.le_of_eq (congrArg score same)
    · exact atMost other later

theorem cons_of_lt {head next : Element} {rest : List Element}
    (most : FirstMost score (next :: rest) chosen) (improves : score head < score next) :
    FirstMost score (head :: next :: rest) chosen := by
  have below : score head < score chosen :=
    Nat.lt_of_lt_of_le improves (most.le_chosen List.mem_cons_self)
  obtain ⟨before, after, split, lower, atMost⟩ := most
  exact ⟨head :: before, after, congrArg (head :: ·) split,
    List.forall_mem_cons.mpr ⟨below, lower⟩, atMost⟩

theorem insert_of_le {head next : Element} {rest : List Element}
    (most : FirstMost score (head :: rest) chosen) (noBetter : score next ≤ score head) :
    FirstMost score (head :: next :: rest) chosen := by
  obtain ⟨before, after, split, lower, atMost⟩ := most
  cases before with
  | nil =>
      obtain ⟨rfl, rfl⟩ := List.cons.inj split
      exact ⟨[], next :: rest, rfl, lower, List.forall_mem_cons.mpr ⟨noBetter, atMost⟩⟩
  | cons first others =>
      obtain ⟨rfl, rfl⟩ := List.cons.inj split
      obtain ⟨below, lowerOthers⟩ := List.forall_mem_cons.mp lower
      have alsoBelow : score next < score chosen := Nat.lt_of_le_of_lt noBetter below
      exact ⟨head :: next :: others, after, rfl,
        List.forall_mem_cons.mpr ⟨below, List.forall_mem_cons.mpr ⟨alsoBelow, lowerOthers⟩⟩,
        atMost⟩

theorem of_map {origins : List Origin} {make : Origin → Element}
    (most : FirstMost score (origins.map make) chosen) :
    ∃ origin, make origin = chosen ∧
      FirstMost (fun other => score (make other)) origins origin := by
  obtain ⟨before, after, split, lower, atMost⟩ := most
  obtain ⟨front, back, rfl, rfl, rest⟩ := List.map_eq_append_iff.mp split
  obtain ⟨origin, others, rfl, rfl, rfl⟩ := List.map_eq_cons_iff.mp rest
  exact ⟨origin, rfl, front, others, rfl, List.forall_mem_map.mp lower,
    List.forall_mem_map.mp atMost⟩

/-- Where places increase, the first of the greatest has the least place of them. -/
theorem lt_or_place_le {place : Element → Nat} (most : FirstMost score elements chosen)
    (ordered : elements.Pairwise (place · < place ·)) {other : Element}
    (member : other ∈ elements) :
    score other < score chosen ∨ score other = score chosen ∧ place chosen ≤ place other := by
  have atMost := most.le_chosen member
  obtain ⟨before, after, rfl, lower, -⟩ := most
  rcases List.mem_append.mp member with early | late
  · exact Or.inl (lower other early)
  · have placed : place chosen ≤ place other := by
      rcases List.mem_cons.mp late with same | later
      · exact Nat.le_of_eq (congrArg place same.symm)
      · exact Nat.le_of_lt
          (List.rel_of_pairwise_cons (List.pairwise_append.mp ordered).2.1 later)
    rcases Nat.lt_or_eq_of_le atMost with less | equal
    · exact Or.inl less
    · exact Or.inr ⟨equal, placed⟩

end FirstMost

theorem ConstructorPlan.firstMost_mostExplicit (best : ConstructorPlan)
    (others : List ConstructorPlan) :
    FirstMost explicitCount (best :: others) (best.mostExplicit others) := by
  induction others generalizing best with
  | nil => exact ⟨[], [], rfl, nofun, nofun⟩
  | cons next rest ih =>
      unfold mostExplicit
      split
      next improves => exact (ih next).cons_of_lt improves
      next noBetter => exact (ih best).insert_of_le (Nat.le_of_not_lt noBetter)

inductive ChosenBy (isPrimary : Element → Bool) (score : Element → Nat)
    (elements : List Element) (chosen : Element) : Choice → Prop where
  | only : elements = [chosen] → ChosenBy isPrimary score elements chosen .only
  | primary : elements.length ≠ 1 → elements.filter isPrimary = [chosen] →
      ChosenBy isPrimary score elements chosen .primary
  | mostExplicit : elements.length ≠ 1 → elements.countP isPrimary ≠ 1 →
      FirstMost score elements chosen →
      ChosenBy isPrimary score elements chosen (.mostExplicit (score chosen))

theorem ConstructorPlan.chosenBy_of_choose? {candidates : List ConstructorPlan}
    {chosen : ConstructorPlan} {choice : Choice}
    (chose : choose? candidates = some (chosen, choice)) :
    ChosenBy (·.constructor.isPrimary) explicitCount candidates chosen choice := by
  unfold choose? at chose
  split at chose
  · cases chose
  · obtain ⟨rfl, rfl⟩ := Prod.mk.inj (Option.some.inj chose)
    exact .only rfl
  next first others several =>
    have notSingle : (first :: others).length ≠ 1 := by
      intro single
      exact several (List.length_eq_zero_iff.mp (Nat.succ.inj single))
    split at chose
    next primary sole =>
      obtain ⟨rfl, rfl⟩ := Prod.mk.inj (Option.some.inj chose)
      exact .primary notSingle sole
    next notSole =>
      obtain ⟨rfl, rfl⟩ := Prod.mk.inj (Option.some.inj chose)
      refine .mostExplicit notSingle ?_ (firstMost_mostExplicit first others)
      rw [List.countP_eq_length_filter]
      intro single
      obtain ⟨primary, sole⟩ := List.length_eq_one_iff.mp single
      exact notSole primary sole

/-- A choice among elements made from others is one among those others. -/
theorem ChosenBy.of_map {isPrimary : Element → Bool} {score : Element → Nat}
    {origins : List Origin} {make : Origin → Element} {chosen : Element} {choice : Choice}
    (reason : ChosenBy isPrimary score (origins.map make) chosen choice) :
    ∃ origin, make origin = chosen ∧
      ChosenBy (fun other => isPrimary (make other)) (fun other => score (make other))
        origins origin choice := by
  cases reason with
  | only single =>
      obtain ⟨origin, rfl, rfl⟩ := List.map_eq_singleton_iff.mp single
      exact ⟨origin, rfl, .only rfl⟩
  | primary several sole =>
      rw [List.length_map] at several
      rw [List.filter_map] at sole
      obtain ⟨origin, soleOrigin, rfl⟩ := List.map_eq_singleton_iff.mp sole
      exact ⟨origin, rfl, .primary several soleOrigin⟩
  | mostExplicit several noSole most =>
      rw [List.length_map] at several
      rw [List.countP_map] at noSole
      obtain ⟨origin, rfl, mostOrigin⟩ := most.of_map
      exact ⟨origin, rfl, .mostExplicit several noSole mostOrigin⟩

/-! ### Places -/

/-- The place that a choice among elements falls on, and why. Of one element there is no
choice, and only a sole primary element is preferred; otherwise it is the first place with
the greatest score. -/
inductive ChosenAt (isPrimary : Element → Bool) (score : Element → Nat)
    (elements : List Element) : Nat → Choice → Prop where
  | only : elements.length = 1 → ChosenAt isPrimary score elements 0 .only
  | primary {index : Nat} {element : Element} :
      1 < elements.length → elements.countP isPrimary = 1 →
      elements[index]? = some element → isPrimary element = true →
      ChosenAt isPrimary score elements index .primary
  | mostExplicit {index : Nat} {element : Element} :
      1 < elements.length → elements.countP isPrimary ≠ 1 →
      elements[index]? = some element →
      (∀ other ∈ elements, score other ≤ score element) →
      (∀ (earlier : Nat) (other : Element), earlier < index →
        elements[earlier]? = some other → score other < score element) →
      ChosenAt isPrimary score elements index (.mostExplicit (score element))

/-- What holds of one element holds at one place. -/
theorem place_eq_of_countP {holds : Element → Bool} {elements : List Element}
    (atMostOne : elements.countP holds ≤ 1) {index other : Nat} {element sibling : Element}
    (found : elements[index]? = some element) (does : holds element = true)
    (alsoFound : elements[other]? = some sibling) (alsoDoes : holds sibling = true) :
    index = other := by
  induction elements generalizing index other with
  | nil => cases found
  | cons head rest ih =>
      have noneLater (atHead : holds head = true) {later : Nat} {another : Element}
          (inRest : rest[later]? = some another) : holds another ≠ true := by
        intro alsoHolds
        have more : 0 < rest.countP holds :=
          List.countP_pos_iff.mpr ⟨another, List.mem_of_getElem? inRest, alsoHolds⟩
        rw [List.countP_cons_of_pos atHead] at atMostOne
        omega
      cases index with
      | zero =>
          cases other with
          | zero => rfl
          | succ other =>
              obtain rfl := Option.some.inj found
              exact absurd alsoDoes (noneLater does alsoFound)
      | succ index =>
          cases other with
          | zero =>
              obtain rfl := Option.some.inj alsoFound
              exact absurd does (noneLater alsoDoes found)
          | succ other =>
              have fewer := (List.sublist_cons_self head rest).countP_le (p := holds)
              exact congrArg Nat.succ (ih (Nat.le_trans fewer atMostOne) found alsoFound)

section

variable {isPrimary : Element → Bool} {score : Element → Nat} {elements : List Element}
  {chosen : Element} {index other : Nat} {choice otherChoice : Choice}

/-- There is no second place for a choice, and no second reason. -/
theorem ChosenAt.unique (atIndex : ChosenAt isPrimary score elements index choice)
    (atOther : ChosenAt isPrimary score elements other otherChoice) :
    index = other ∧ choice = otherChoice := by
  cases atIndex with
  | only single =>
      cases atOther with
      | only _ => exact ⟨rfl, rfl⟩
      | primary several _ _ _ => omega
      | mostExplicit several _ _ _ _ => omega
  | primary several sole found does =>
      cases atOther with
      | only single => omega
      | primary _ _ alsoFound alsoDoes =>
          exact ⟨place_eq_of_countP (Nat.le_of_eq sole) found does alsoFound alsoDoes, rfl⟩
      | mostExplicit _ notSole _ _ _ => exact absurd sole notSole
  | @mostExplicit _ element several notSole found atMost lower =>
      cases atOther with
      | only single => omega
      | primary _ sole _ _ => exact absurd sole notSole
      | @mostExplicit _ sibling _ _ alsoFound alsoAtMost alsoLower =>
          have notAbove := atMost sibling (List.mem_of_getElem? alsoFound)
          have notBelow := alsoAtMost element (List.mem_of_getElem? found)
          rcases Nat.lt_trichotomy index other with before | rfl | after
          · have below := alsoLower index element before found
            omega
          · obtain rfl := Option.some.inj (found.symm.trans alsoFound)
            exact ⟨rfl, rfl⟩
          · have below := lower other sibling after alsoFound
            omega

theorem FirstMost.exists_place (most : FirstMost score elements chosen) :
    ∃ index, elements[index]? = some chosen ∧
      ∀ (earlier : Nat) (other : Element), earlier < index → elements[earlier]? = some other →
        score other < score chosen := by
  obtain ⟨before, after, rfl, lower, -⟩ := most
  refine ⟨before.length, ?_, ?_⟩
  · rw [List.getElem?_append_right (Nat.le_refl _), Nat.sub_self]
    rfl
  · intro earlier other isEarlier found
    rw [List.getElem?_append_left isEarlier] at found
    exact lower other (List.mem_of_getElem? found)

theorem ChosenBy.exists_place (reason : ChosenBy isPrimary score elements chosen choice) :
    ∃ index, elements[index]? = some chosen ∧
      ChosenAt isPrimary score elements index choice := by
  have several (notSingle : elements.length ≠ 1) (among : chosen ∈ elements) :
      1 < elements.length := by
    have someElement := List.length_pos_of_mem among
    omega
  cases reason with
  | only single =>
      refine ⟨0, ?_, .only ?_⟩
      · rw [single]
        rfl
      · rw [single]
        rfl
  | primary notSingle sole =>
      have kept : chosen ∈ elements.filter isPrimary := sole ▸ List.mem_singleton_self chosen
      obtain ⟨among, does⟩ := List.mem_filter.mp kept
      obtain ⟨index, found⟩ := List.mem_iff_getElem?.mp among
      have single : elements.countP isPrimary = 1 := by
        rw [List.countP_eq_length_filter, sole]
        rfl
      exact ⟨index, found, .primary (several notSingle among) single found does⟩
  | mostExplicit notSingle notSole most =>
      obtain ⟨index, found, lower⟩ := most.exists_place
      have atMost : ∀ other ∈ elements, score other ≤ score chosen :=
        fun _ => most.le_chosen
      exact ⟨index, found,
        .mostExplicit (several notSingle most.mem) notSole found atMost lower⟩

theorem ChosenAt.map_iff {origins : List Origin} {make : Origin → Element} :
    ChosenAt isPrimary score (origins.map make) index choice ↔
      ChosenAt (fun origin => isPrimary (make origin)) (fun origin => score (make origin))
        origins index choice := by
  constructor
  · intro placed
    cases placed with
    | only single => exact .only (by rwa [List.length_map] at single)
    | primary several sole found does =>
        rw [List.length_map] at several
        rw [List.countP_map] at sole
        rw [List.getElem?_map] at found
        obtain ⟨origin, foundOrigin, rfl⟩ := Option.map_eq_some_iff.mp found
        exact .primary several sole foundOrigin does
    | mostExplicit several notSole found atMost lower =>
        rw [List.length_map] at several
        rw [List.countP_map] at notSole
        rw [List.getElem?_map] at found
        obtain ⟨origin, foundOrigin, rfl⟩ := Option.map_eq_some_iff.mp found
        refine .mostExplicit several notSole foundOrigin (List.forall_mem_map.mp atMost) ?_
        intro earlier other before foundOther
        exact lower earlier (make other) before (by rw [List.getElem?_map, foundOther]; rfl)
  · intro placed
    have several (more : 1 < origins.length) : 1 < (origins.map make).length := by
      rwa [List.length_map]
    have made {place : Nat} {origin : Origin} (found : origins[place]? = some origin) :
        (origins.map make)[place]? = some (make origin) := by
      rw [List.getElem?_map, found]
      rfl
    cases placed with
    | only single => exact .only (by rwa [List.length_map])
    | primary more sole found does =>
        exact .primary (several more) (by rwa [List.countP_map]) (made found) does
    | mostExplicit more notSole found atMost lower =>
        refine .mostExplicit (several more) (by rwa [List.countP_map]) (made found)
          (List.forall_mem_map.mpr atMost) ?_
        intro earlier other before foundOther
        rw [List.getElem?_map] at foundOther
        obtain ⟨sibling, foundSibling, rfl⟩ := Option.map_eq_some_iff.mp foundOther
        exact lower earlier sibling before foundSibling

end

/-! ### Choices among plans -/

namespace ConstructorPlan

variable {candidates : List ConstructorPlan} {chosen : ConstructorPlan} {choice : Choice}

theorem choose?_eq_none_iff : choose? candidates = none ↔ candidates = [] := by
  rcases candidates with - | ⟨first, - | ⟨second, others⟩⟩
  · exact iff_of_true rfl rfl
  · exact iff_of_false nofun nofun
  · refine iff_of_false ?_ nofun
    unfold choose?
    dsimp only
    split <;> exact nofun

theorem choose?_eq_some_iff :
    choose? candidates = some (chosen, choice) ↔
      ∃ index, candidates[index]? = some chosen ∧
        ChosenAt (·.constructor.isPrimary) explicitCount candidates index choice := by
  constructor
  · intro chose
    exact (chosenBy_of_choose? chose).exists_place
  · intro placed
    obtain ⟨index, found, atIndex⟩ := placed
    cases chose : choose? candidates with
    | none =>
        rw [choose?_eq_none_iff.mp chose] at found
        cases found
    | some result =>
        obtain ⟨other, otherChoice⟩ := result
        obtain ⟨place, alsoFound, atPlace⟩ := (chosenBy_of_choose? chose).exists_place
        obtain ⟨rfl, rfl⟩ := atIndex.unique atPlace
        obtain rfl := Option.some.inj (found.symm.trans alsoFound)
        rfl

/-- A choice among plans made from something else depends on how they rank alone. -/
theorem choose?_map_eq_some_iff {origins : List Origin} {plan : Origin → ConstructorPlan} :
    choose? (origins.map plan) = some (chosen, choice) ↔
      ∃ index origin, origins[index]? = some origin ∧ plan origin = chosen ∧
        ChosenAt (fun origin => (plan origin).constructor.isPrimary)
          (fun origin => (plan origin).explicitCount) origins index choice := by
  simp only [choose?_eq_some_iff, ChosenAt.map_iff, List.getElem?_map, Option.map_eq_some_iff]
  constructor
  · intro placed
    obtain ⟨index, ⟨origin, found, made⟩, atIndex⟩ := placed
    exact ⟨index, origin, found, made, atIndex⟩
  · intro placed
    obtain ⟨index, origin, found, made, atIndex⟩ := placed
    exact ⟨index, ⟨origin, found, made⟩, atIndex⟩

structure SameRank (left right : Constructor → ConstructorPlan) : Prop where
  isPrimary : ∀ constructor,
    (left constructor).constructor.isPrimary = (right constructor).constructor.isPrimary
  explicitCount : ∀ constructor,
    (left constructor).explicitCount = (right constructor).explicitCount

theorem SameRank.refl (plans : Constructor → ConstructorPlan) : SameRank plans plans :=
  ⟨fun _ => rfl, fun _ => rfl⟩

theorem choose?_map {left right : Constructor → ConstructorPlan} (rank : SameRank left right)
    (constructors : List Constructor) (someConstructor : constructors ≠ []) :
    ∃ chosen ∈ constructors, ∃ choice,
      choose? (constructors.map left) = some (left chosen, choice) ∧
        choose? (constructors.map right) = some (right chosen, choice) := by
  cases chose : choose? (constructors.map left) with
  | none => exact absurd (List.map_eq_nil_iff.mp (choose?_eq_none_iff.mp chose)) someConstructor
  | some result =>
      obtain ⟨plan, choice⟩ := result
      obtain ⟨index, chosen, found, rfl, atIndex⟩ := choose?_map_eq_some_iff.mp chose
      simp only [rank.isPrimary, rank.explicitCount] at atIndex
      have atRight := choose?_map_eq_some_iff.mpr ⟨index, chosen, found, rfl, atIndex⟩
      exact ⟨chosen, List.mem_of_getElem? found, choice, rfl, atRight⟩

theorem explicitCount_eq_length (plan : ConstructorPlan) :
    plan.explicitCount =
      (plan.members.filter fun member =>
        ∃ source ∈ member.sources, source.isAutomatic = false).length := by
  unfold explicitCount
  rw [List.countP_eq_length_filter]
  apply congrArg List.length
  apply List.filter_congr
  intro member _
  unfold Member.isExplicit
  rw [Bool.eq_iff_iff, List.any_eq_true, decide_eq_true_eq]
  simp only [Source.isExplicit, Bool.not_eq_true']

end ConstructorPlan

inductive Candidates.Related (related : Plan → Plan → Prop) : Candidates → Candidates → Prop where
  | single {left right : Plan} :
      related left right → Related related (.single left) (.single right)
  | constructors {left right : Constructor → ConstructorPlan}
      (rank : ConstructorPlan.SameRank left right) (constructors : List Constructor)
      (someConstructor : constructors ≠ [])
      (pairwise : ∀ constructor,
        related (.construction (left constructor)) (.construction (right constructor))) :
      Related related (.constructors (constructors.map left))
        (.constructors (constructors.map right))

theorem Context.settle_lockstep {failures : Failure → Failure → Prop}
    {related : Plan → Plan → Prop} (leftContext rightContext : Context)
    {left right : Candidates} (candidates : Candidates.Related related left right) :
    Lockstep failures (fun left right => related left.1 right.1 ∧ left.2 = right.2)
      (leftContext.settle left) (rightContext.settle right) := by
  cases candidates with
  | single plans => exact .ok ⟨plans, rfl⟩
  | @constructors left right rank constructors someConstructor pairwise =>
      obtain ⟨chosen, -, choice, atLeft, atRight⟩ :=
        ConstructorPlan.choose?_map rank constructors someConstructor
      simp only [settle, choose, atLeft, atRight]
      exact .ok ⟨pairwise chosen, rfl⟩

namespace Context

variable {context : Context} {candidates : List ConstructorPlan}

theorem choose_eq_error_iff {failure : Failure} :
    context.choose candidates = .error failure ↔
      candidates = [] ∧
        failure =
          context.failure (.noVisibleConstructor (context.display context.mapper.target)) := by
  rw [← ConstructorPlan.choose?_eq_none_iff]
  unfold choose
  cases ConstructorPlan.choose? candidates with
  | none => rw [Except.error.injEq, eq_comm, and_iff_right rfl]
  | some result => exact iff_of_false nofun nofun

theorem choose_eq_ok_iff {chosen : ConstructorPlan} {choice : Choice} :
    context.choose candidates = .ok (chosen, choice) ↔
      ∃ index, candidates[index]? = some chosen ∧
        ChosenAt (·.constructor.isPrimary) ConstructorPlan.explicitCount candidates index
          choice := by
  rw [← ConstructorPlan.choose?_eq_some_iff]
  unfold choose
  cases ConstructorPlan.choose? candidates with
  | none => exact iff_of_false nofun nofun
  | some result => rw [Except.ok.injEq, Option.some.injEq]

/-- Of any plans a choice fails exactly if there are none. Otherwise there is one place that
it falls on, within the list, and it gives the plan there and why: the place of the only
plan, or that of the sole primary one, or else the first at which directives fill the most
members. A member that several directives fill counts once. -/
theorem choose_position (context : Context) (candidates : List ConstructorPlan) :
    (∀ failure, context.choose candidates = .error failure ↔
      candidates = [] ∧
        failure =
          context.failure (.noVisibleConstructor (context.display context.mapper.target))) ∧
    (∀ chosen choice, context.choose candidates = .ok (chosen, choice) ↔
      ∃ index, candidates[index]? = some chosen ∧
        ChosenAt (·.constructor.isPrimary) ConstructorPlan.explicitCount candidates index
          choice) ∧
    (candidates ≠ [] → ∃ index choice, index < candidates.length ∧
      ChosenAt (·.constructor.isPrimary) ConstructorPlan.explicitCount candidates index choice ∧
      ∀ other otherChoice,
        ChosenAt (·.constructor.isPrimary) ConstructorPlan.explicitCount candidates other
          otherChoice →
        other = index ∧ otherChoice = choice) ∧
    ∀ plan : ConstructorPlan, plan.explicitCount =
      (plan.members.filter fun member =>
        ∃ source ∈ member.sources, source.isAutomatic = false).length := by
  refine ⟨fun _ => choose_eq_error_iff, fun _ _ => choose_eq_ok_iff, ?_,
    ConstructorPlan.explicitCount_eq_length⟩
  intro someCandidate
  cases chose : context.choose candidates with
  | error failure => exact absurd (choose_eq_error_iff.mp chose).1 someCandidate
  | ok result =>
      obtain ⟨chosen, choice⟩ := result
      obtain ⟨index, found, atIndex⟩ := choose_eq_ok_iff.mp chose
      obtain ⟨within, -⟩ := List.getElem?_eq_some_iff.mp found
      exact ⟨index, choice, within, atIndex, fun _ _ atOther => atOther.unique atIndex⟩

def unitPlan (index : Nat) (isPrimary : Bool) (sources : List Source) : ConstructorPlan where
  target := .any
  source := .any
  constructor := ⟨index, [⟨"unit", .string, false⟩], isPrimary, true⟩
  members := [⟨⟨"unit", .string, false⟩, sources⟩]
  strays := []

def unitGiven : Source := .constant { value := .string "mm" } .string

/-- Two primary plans leave it to the directives. A member that is filled twice ties with one
that is filled once, and the earlier of the two plans is called. -/
example :
    (ConstructorPlan.choose?
        [unitPlan 0 true [], unitPlan 1 false [unitGiven, unitGiven],
          unitPlan 2 true [unitGiven]]).map
      (fun (plan, choice) => (plan.constructor.index, choice)) = some (1, .mostExplicit 1) := rfl

end Context

end MappingPlan
