import Mathlib.Data.List.Perm.Basic

/-!
# Outcomes of checks

The checks of this library end in a value or in a fault, and are combined one
after the other.  This module says once what a combination can come to: a
sequence of checks succeeds exactly when every check does, and otherwise ends
in the fault of the first check that fails.  No later proof unfolds how
outcomes are combined.
-/

namespace WireLayout.Outcome

variable {Refusal Value Result : Type}

/--
Two steps succeed exactly when the first does and the second does on its value.
-/
theorem bind_eq_ok_iff
    {first : Except Refusal Value}
    {second : Value → Except Refusal Result}
    {result : Result} :
    (first >>= second) = .ok result ↔
      ∃ value, first = .ok value ∧ second value = .ok result := by
  cases first with
  | error fault => simp [bind, Except.bind]
  | ok value => simp [bind, Except.bind]

/--
Two steps fail exactly when the first does, or the second does on its value.
-/
theorem bind_eq_error_iff
    {first : Except Refusal Value}
    {second : Value → Except Refusal Result}
    {fault : Refusal} :
    (first >>= second) = .error fault ↔
      first = .error fault ∨
        ∃ value, first = .ok value ∧ second value = .error fault := by
  cases first with
  | error fault => simp [bind, Except.bind]
  | ok value => simp [bind, Except.bind]

/-- Two second steps that agree on the value of the first come to the same. -/
theorem bind_congr
    {first : Except Refusal Value}
    {second other : Value → Except Refusal Result}
    (same : ∀ value, first = .ok value → second value = other value) :
    (first >>= second) = (first >>= other) := by
  cases first with
  | error fault => rfl
  | ok value => exact same value rfl

/-- Renaming the result of two steps renames that of the second. -/
theorem map_bind
    {Renamed : Type}
    {rename : Result → Renamed}
    {first : Except Refusal Value}
    {second : Value → Except Refusal Result} :
    (first >>= second).map rename =
      first >>= fun value => (second value).map rename := by
  cases first with
  | error fault => rfl
  | ok value => rfl

/-- A step after a renamed result is a step that renames first. -/
theorem bind_map
    {Renamed : Type}
    {rename : Value → Renamed}
    {first : Except Refusal Value}
    {second : Renamed → Except Refusal Result} :
    first.map rename >>= second =
      first >>= fun value => second (rename value) := by
  cases first with
  | error fault => rfl
  | ok value => rfl

/--
Outcomes that are the same after renaming stay so after second steps that come
to the same on values with one name.
-/
theorem bind_eq_of_map_eq
    {Other Renamed : Type} {rename : Value → Renamed}
    {renameOther : Other → Renamed} {first : Except Refusal Value}
    {other : Except Refusal Other} {second : Value → Except Refusal Result}
    {otherSecond : Other → Except Refusal Result}
    (same : first.map rename = other.map renameOther)
    (agree : ∀ value otherValue, rename value = renameOther otherValue →
      second value = otherSecond otherValue) :
    (first >>= second) = (other >>= otherSecond) := by
  cases first with
  | error fault =>
      cases other with
      | error otherFault => exact congrArg Except.error (Except.error.inj same)
      | ok otherValue => cases same
  | ok value =>
      cases other with
      | error otherFault => cases same
      | ok otherValue => exact agree value otherValue (Except.ok.inj same)

theorem map_eq_ok_iff
    {rename : Value → Result}
    {outcome : Except Refusal Value}
    {result : Result} :
    outcome.map rename = .ok result ↔
      ∃ value, outcome = .ok value ∧ rename value = result := by
  cases outcome with
  | error fault => simp [Except.map]
  | ok value => simp [Except.map]

theorem exists_map_eq_ok_iff
    {rename : Value → Result}
    {outcome : Except Refusal Value} :
    (∃ result, outcome.map rename = .ok result) ↔
      ∃ value, outcome = .ok value := by
  cases outcome with
  | error fault => simp [Except.map]
  | ok value => simp [Except.map]

theorem map_eq_error_iff
    {rename : Value → Result}
    {outcome : Except Refusal Value}
    {fault : Refusal} :
    outcome.map rename = .error fault ↔ outcome = .error fault := by
  cases outcome with
  | error other => simp [Except.map]
  | ok value => simp [Except.map]

theorem mapError_eq_ok_iff
    {Renamed : Type}
    {rename : Refusal → Renamed}
    {outcome : Except Refusal Value}
    {value : Value} :
    outcome.mapError rename = .ok value ↔ outcome = .ok value := by
  cases outcome with
  | error fault => simp [Except.mapError]
  | ok value => simp [Except.mapError]

theorem mapError_eq_error_iff
    {Renamed : Type}
    {rename : Refusal → Renamed}
    {outcome : Except Refusal Value}
    {renamed : Renamed} :
    outcome.mapError rename = .error renamed ↔
      ∃ fault, outcome = .error fault ∧ rename fault = renamed := by
  cases outcome with
  | error fault => simp [Except.mapError]
  | ok value => simp [Except.mapError]

/-- A check of every element succeeds exactly when it succeeds on each. -/
theorem forM_eq_ok_iff
    {check : Value → Except Refusal Unit}
    {values : List Value} :
    values.forM check = .ok () ↔
      ∀ value ∈ values, check value = .ok () := by
  induction values with
  | nil => simp [pure, Except.pure]
  | cons value rest ih =>
      rw [List.forM_eq_forM] at ih ⊢
      rw [List.forM_cons, bind_eq_ok_iff, List.forall_mem_cons, ← ih]
      constructor
      · rintro ⟨_, passed⟩
        exact passed
      · intro passed
        exact ⟨(), passed⟩

/--
An element that is in a relation to those before it is the head or
one of the rest.
-/
theorem exists_split_cons_iff
    {related : List Value → Value → Prop}
    {head : Value}
    {rest : List Value} :
    (∃ before value after,
      head :: rest = before ++ value :: after ∧ related before value) ↔
      related [] head ∨
        ∃ before value after, rest = before ++ value :: after ∧
          related (head :: before) value := by
  constructor
  · rintro ⟨before, value, after, split, holds⟩
    cases before with
    | nil =>
        rcases List.cons.inj split with ⟨rfl, rfl⟩
        exact Or.inl holds
    | cons first before =>
        rcases List.cons.inj split with ⟨rfl, rfl⟩
        exact Or.inr ⟨before, value, after, rfl, holds⟩
  · rintro (holds | ⟨before, value, after, rfl, holds⟩)
    · exact ⟨[], head, rest, rfl, holds⟩
    · exact ⟨head :: before, value, after, rfl, holds⟩

/--
The first element that fails, with all before it passing, is the head or
one of the rest.
-/
theorem exists_first_cons_iff
    {passes fails : Value → Prop}
    {head : Value}
    {rest : List Value} :
    (∃ before value after, head :: rest = before ++ value :: after ∧
        (∀ earlier ∈ before, passes earlier) ∧ fails value) ↔
      fails head ∨ passes head ∧ ∃ before value after,
        rest = before ++ value :: after ∧
        (∀ earlier ∈ before, passes earlier) ∧ fails value := by
  rw [exists_split_cons_iff]
  constructor
  · rintro (⟨_, failed⟩ | ⟨before, value, after, split, passed, failed⟩)
    · exact Or.inl failed
    · rw [List.forall_mem_cons] at passed
      exact Or.inr ⟨passed.1, before, value, after, split, passed.2, failed⟩
  · rintro (failed | ⟨passed, before, value, after, split, earlier, failed⟩)
    · exact Or.inl ⟨List.forall_mem_nil _, failed⟩
    · exact Or.inr
        ⟨before, value, after, split,
          List.forall_mem_cons.mpr ⟨passed, earlier⟩, failed⟩

/-- Of two lists in step, the first elements that fail are at the same place. -/
theorem exists_first_iff_of_forall₂
    {Other : Type}
    {related : Value → Other → Prop}
    {passes fails : Value → Prop}
    {otherPasses otherFails : Other → Prop}
    {values : List Value} {others : List Other}
    (sides : List.Forall₂ related values others)
    (passAlike : ∀ value other, related value other →
      (passes value ↔ otherPasses other))
    (failAlike : ∀ value other, related value other →
      (fails value ↔ otherFails other)) :
    (∃ before value after, values = before ++ value :: after ∧
        (∀ earlier ∈ before, passes earlier) ∧ fails value) ↔
      ∃ before other after, others = before ++ other :: after ∧
        (∀ earlier ∈ before, otherPasses earlier) ∧ otherFails other := by
  induction sides with
  | nil => simp
  | cons pair _ ih =>
      rw [exists_first_cons_iff, exists_first_cons_iff, passAlike _ _ pair,
        failAlike _ _ pair, ih]

/--
A check of every element ends in the fault of the first element that fails.
-/
theorem forM_eq_error_iff
    {check : Value → Except Refusal Unit}
    {values : List Value}
    {fault : Refusal} :
    values.forM check = .error fault ↔
      ∃ before value after,
        values = before ++ value :: after ∧
          (∀ earlier ∈ before, check earlier = .ok ()) ∧
          check value = .error fault := by
  induction values with
  | nil => simp [pure, Except.pure]
  | cons head rest ih =>
      rw [List.forM_eq_forM] at ih ⊢
      rw [List.forM_cons, bind_eq_error_iff, exists_first_cons_iff, ih]
      refine or_congr_right ⟨?_, ?_⟩
      · rintro ⟨_, passed, later⟩
        exact ⟨passed, later⟩
      · rintro ⟨passed, later⟩
        exact ⟨(), passed, later⟩

/--
A step on every element yields the results of the elements in their order.
-/
theorem mapM_eq_ok_iff
    {step : Value → Except Refusal Result}
    {values : List Value}
    {results : List Result} :
    values.mapM step = .ok results ↔
      List.Forall₂ (fun value result => step value = .ok result) values
        results := by
  induction values generalizing results with
  | nil => simp [pure, Except.pure, eq_comm]
  | cons value rest ih =>
      rw [List.mapM_cons, bind_eq_ok_iff, List.forall₂_cons_left_iff]
      constructor
      · rintro ⟨result, yielded, remaining⟩
        rcases bind_eq_ok_iff.mp remaining with ⟨others, followed, equality⟩
        exact ⟨result, others, yielded, ih.mp followed,
          (Except.ok.inj equality).symm⟩
      · rintro ⟨result, others, yielded, followed, rfl⟩
        exact ⟨result, yielded,
          bind_eq_ok_iff.mpr ⟨others, ih.mpr followed, rfl⟩⟩

/--
Renaming the result of a step on every element renames each of the results.
-/
theorem mapM_map
    {Renamed : Type}
    {rename : Result → Renamed}
    {step : Value → Except Refusal Result}
    {values : List Value} :
    values.mapM (fun value => (step value).map rename) =
      (values.mapM step).map (List.map rename) := by
  induction values with
  | nil => rfl
  | cons value rest ih =>
      rw [List.mapM_cons, List.mapM_cons, ih, map_bind, bind_map]
      simp only [map_bind, bind_map]
      rfl

/-- A step on every element of a permuted list yields permuted results. -/
theorem exists_perm_of_mapM_eq_ok
    {step : Value → Except Refusal Result}
    {values otherValues : List Value}
    {results : List Result}
    (permuted : values.Perm otherValues)
    (yielded : values.mapM step = .ok results) :
    ∃ otherResults,
      otherValues.mapM step = .ok otherResults ∧ results.Perm otherResults := by
  rcases List.perm_comp_forall₂ permuted.symm (mapM_eq_ok_iff.mp yielded) with
    ⟨otherResults, otherYielded, back⟩
  exact ⟨otherResults, mapM_eq_ok_iff.mpr otherYielded, back.symm⟩

/--
A step on every element ends in the fault of the first element that fails.
-/
theorem mapM_eq_error_iff
    {step : Value → Except Refusal Result}
    {values : List Value}
    {fault : Refusal} :
    values.mapM step = .error fault ↔
      ∃ before value after,
        values = before ++ value :: after ∧
          (∀ earlier ∈ before, ∃ result, step earlier = .ok result) ∧
          step value = .error fault := by
  induction values with
  | nil => simp [pure, Except.pure]
  | cons head rest ih =>
      rw [List.mapM_cons, bind_eq_error_iff, exists_first_cons_iff, ← ih]
      refine or_congr_right ⟨?_, ?_⟩
      · rintro ⟨result, passed, later⟩
        rcases bind_eq_error_iff.mp later with failed | ⟨_, _, impossible⟩
        · exact ⟨⟨result, passed⟩, failed⟩
        · cases impossible
      · rintro ⟨⟨result, passed⟩, failed⟩
        exact ⟨result, passed, bind_eq_error_iff.mpr (Or.inl failed)⟩

/-- A step on every element ends in the fault of an element. -/
theorem exists_of_mapM_eq_error
    {step : Value → Except Refusal Result}
    {values : List Value}
    {fault : Refusal}
    (failed : values.mapM step = .error fault) :
    ∃ value ∈ values, step value = .error fault := by
  rcases mapM_eq_error_iff.mp failed with ⟨before, value, after, rfl, _, failed⟩
  exact ⟨value, List.mem_append_right _ List.mem_cons_self, failed⟩

/-- A step on every element succeeds exactly when it succeeds on each. -/
theorem exists_mapM_eq_ok_iff
    {step : Value → Except Refusal Result}
    {values : List Value} :
    (∃ results, values.mapM step = .ok results) ↔
      ∀ value ∈ values, ∃ result, step value = .ok result := by
  constructor
  · rintro ⟨results, yielded⟩ value among
    rcases List.mem_iff_getElem.mp among with ⟨place, bound, rfl⟩
    have sides := mapM_eq_ok_iff.mp yielded
    exact ⟨_, sides.get bound (sides.length_eq ▸ bound)⟩
  · intro each
    cases outcome : values.mapM step with
    | ok results => exact ⟨results, rfl⟩
    | error fault =>
        rcases exists_of_mapM_eq_error outcome with ⟨value, among, failed⟩
        rcases each value among with ⟨result, succeeded⟩
        cases failed.symm.trans succeeded

end WireLayout.Outcome
