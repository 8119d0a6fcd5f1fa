import Mathlib.Data.List.Forall2

/-!
# Lists in step

Attributes, the occurrences of a walk and the members of a class are lists in
step: each element of the one is related to the element at the same place of
the other.  What is found by its sort on the one side is then found on the
other, at the same place.
-/

namespace WireLayout

variable {First Second : Type} {related : First → Second → Prop}
  {firsts : List First} {seconds : List Second} {ofFirst : First → Prop}
  {ofSecond : Second → Prop}

/--
What holds of an element on one side exactly when it does on the other
holds of all alike.
-/
theorem forall_mem_iff_of_forall₂
    (sides : List.Forall₂ related firsts seconds)
    (agree : ∀ first second, related first second →
      (ofFirst first ↔ ofSecond second)) :
    (∀ first ∈ firsts, ofFirst first) ↔
      ∀ second ∈ seconds, ofSecond second := by
  induction sides with
  | nil => simp
  | cons pair _ ih =>
      rw [List.forall_mem_cons, List.forall_mem_cons, agree _ _ pair, ih]

/--
What holds of an element on one side exactly when it does on the other
holds of some alike.
-/
theorem exists_mem_iff_of_forall₂
    (sides : List.Forall₂ related firsts seconds)
    (agree : ∀ first second, related first second →
      (ofFirst first ↔ ofSecond second)) :
    (∃ first ∈ firsts, ofFirst first) ↔
      ∃ second ∈ seconds, ofSecond second := by
  induction sides with
  | nil => simp
  | cons pair _ ih =>
      rw [List.exists_mem_cons_iff, List.exists_mem_cons_iff,
        agree _ _ pair, ih]

theorem exists_left_of_forall₂
    {second : Second}
    (sides : List.Forall₂ related firsts seconds)
    (member : second ∈ seconds) :
    ∃ first ∈ firsts, related first second := by
  induction sides with
  | nil => cases member
  | cons pair _ ih =>
      rcases List.mem_cons.mp member with rfl | member
      · exact ⟨_, List.mem_cons_self, pair⟩
      · rcases ih member with ⟨first, among, pair⟩
        exact ⟨first, List.mem_cons_of_mem _ among, pair⟩

theorem exists_right_of_forall₂
    {first : First}
    (sides : List.Forall₂ related firsts seconds)
    (member : first ∈ firsts) :
    ∃ second ∈ seconds, related first second :=
  exists_left_of_forall₂ (List.Forall₂.flip sides) member

/-- The first of a sort is at the same place on both sides. -/
theorem findIdx?_eq_of_forall₂
    (isFirst : First → Bool) (isSecond : Second → Bool)
    (sides : List.Forall₂ related firsts seconds)
    (agree : ∀ first second, related first second →
      isFirst first = isSecond second) :
    firsts.findIdx? isFirst = seconds.findIdx? isSecond := by
  induction sides with
  | nil => rfl
  | cons pair _ ih =>
      rw [List.findIdx?_cons, List.findIdx?_cons, agree _ _ pair, ih]

/--
The first of a sort is at a place where there is one, while there is none
before.
-/
theorem findIdx?_eq_some_iff_getElem?
    {Value : Type} {values : List Value} {isSought : Value → Bool}
    {place : Nat} :
    values.findIdx? isSought = some place ↔
      (∃ value, values[place]? = some value ∧ isSought value = true) ∧
        ∀ (earlier : Nat) (other : Value), earlier < place →
          values[earlier]? = some other →
          ¬ isSought other = true := by
  rw [List.findIdx?_eq_some_iff_getElem]
  constructor
  · rintro ⟨bound, holds, first⟩
    refine ⟨⟨values[place], List.getElem?_eq_getElem bound, holds⟩, ?_⟩
    intro earlier other before located
    rcases List.getElem?_eq_some_iff.mp located with ⟨_, rfl⟩
    exact first earlier before
  · rintro ⟨⟨value, located, holds⟩, first⟩
    rcases List.getElem?_eq_some_iff.mp located with ⟨bound, rfl⟩
    refine ⟨bound, holds, ?_⟩
    intro earlier before
    exact first earlier _ before
      (List.getElem?_eq_getElem (Nat.lt_trans before bound))

/-- The first ones of a sort on both sides are related. -/
theorem rel_find?_of_forall₂
    (isFirst : First → Bool) (isSecond : Second → Bool)
    (sides : List.Forall₂ related firsts seconds)
    (agree : ∀ first second, related first second →
      isFirst first = isSecond second) :
    Option.Rel related (firsts.find? isFirst) (seconds.find? isSecond) := by
  induction sides with
  | nil => exact .none
  | cons pair _ ih =>
      rw [List.find?_cons, List.find?_cons, agree _ _ pair]
      split
      · exact .some pair
      · exact ih

theorem rel_or_of_rel
    {first otherFirst : Option First} {second otherSecond : Option Second}
    (pair : Option.Rel related first second)
    (otherPair : Option.Rel related otherFirst otherSecond) :
    Option.Rel related (first.or otherFirst) (second.or otherSecond) := by
  cases pair with
  | some pair => exact .some pair
  | none => exact otherPair

theorem exists_left_of_rel
    {first : Option First} {second : Second}
    (pair : Option.Rel related first (some second)) :
    ∃ value, first = some value ∧ related value second := by
  cases pair with
  | some pair => exact ⟨_, rfl, pair⟩

theorem exists_right_of_rel
    {first : First} {second : Option Second}
    (pair : Option.Rel related (some first) second) :
    ∃ value, second = some value ∧ related first value := by
  cases pair with
  | some pair => exact ⟨_, rfl, pair⟩

theorem eq_none_iff_of_rel
    {first : Option First} {second : Option Second}
    (pair : Option.Rel related first second) :
    first = none ↔ second = none := by
  cases pair with
  | some pair => simp
  | none => simp

/-- Lists that are in step with one list are in step with each other. -/
theorem forall₂_of_forall₂_of_forall₂
    {Third : Type} {otherRelated : First → Third → Prop} {thirds : List Third}
    (sides : List.Forall₂ related firsts seconds)
    (otherSides : List.Forall₂ otherRelated firsts thirds) :
    List.Forall₂
      (fun second third => ∃ first,
        related first second ∧ otherRelated first third)
      seconds thirds := by
  induction sides generalizing thirds with
  | nil =>
      cases otherSides
      exact .nil
  | cons pair _ ih =>
      cases otherSides with
      | cons otherPair otherSides =>
          exact .cons ⟨_, pair, otherPair⟩ (ih otherSides)

/-- What is in step with a list in two parts has two parts in step with them. -/
theorem exists_append_of_forall₂
    {front back : List First}
    (sides : List.Forall₂ related (front ++ back) seconds) :
    ∃ left right, seconds = left ++ right ∧ List.Forall₂ related front left ∧
      List.Forall₂ related back right := by
  refine ⟨seconds.take front.length, seconds.drop front.length,
    (List.take_append_drop ..).symm, ?_, ?_⟩
  · exact (List.forall₂_take_append _ _ _ sides.flip).flip
  · exact (List.forall₂_drop_append _ _ _ sides.flip).flip

/-- At a place of the one side there is what is related to it on the other. -/
theorem exists_getElem?_of_forall₂
    {place : Nat} {first : First}
    (sides : List.Forall₂ related firsts seconds)
    (located : firsts[place]? = some first) :
    ∃ second, seconds[place]? = some second ∧ related first second := by
  rcases List.getElem?_eq_some_iff.mp located with ⟨bound, rfl⟩
  have otherBound : place < seconds.length := sides.length_eq ▸ bound
  exact ⟨seconds[place], List.getElem?_eq_getElem otherBound,
    sides.get bound otherBound⟩

end WireLayout
