/-!
# Sets of names

A set of names is kept as the list of its members in ascending order of their
code points.  The list of a set is therefore determined by its members, and
printing a set needs no sorting.
-/

namespace WireLayout

/-- Names in ascending order without repetition. -/
structure NameSet where
  names : List String := []
  ascending : names.Pairwise (· < ·) := by simp
  deriving Repr

namespace NameSet

/-- The set without members. -/
def empty : NameSet := {}

/--
Puts a name at its place in an ascending list, unless it is there already.
-/
def place (name : String) : List String → List String
  | [] => [name]
  | first :: rest =>
      if name < first then name :: first :: rest
      else if name = first then first :: rest
      else first :: place name rest

/-- The members of a list after a name has been put at its place. -/
@[simp]
theorem mem_place {name other : String} {names : List String} :
    other ∈ place name names ↔ other = name ∨ other ∈ names := by
  induction names with
  | nil => simp [place]
  | cons first rest ih =>
      simp only [place]
      split
      · simp
      · split
        · next equality =>
            subst equality
            simp
        · simp only [List.mem_cons, ih]
          constructor
          · rintro (equality | equality | member)
            · exact Or.inr (Or.inl equality)
            · exact Or.inl equality
            · exact Or.inr (Or.inr member)
          · rintro (equality | equality | member)
            · exact Or.inr (Or.inl equality)
            · exact Or.inl equality
            · exact Or.inr (Or.inr member)

/-- Putting a name at its place keeps a list ascending. -/
theorem pairwise_place {name : String} {names : List String}
    (ascending : names.Pairwise (· < ·)) :
    (place name names).Pairwise (· < ·) := by
  induction names with
  | nil => simp [place]
  | cons first rest ih =>
      have later := List.pairwise_cons.1 ascending
      simp only [place]
      split
      · next below =>
          refine List.pairwise_cons.2 ⟨?_, ascending⟩
          intro other member
          rcases List.mem_cons.1 member with equality | member
          · exact equality ▸ below
          · exact String.lt_trans below (later.1 other member)
      · next notBelow =>
          split
          · exact ascending
          · next different =>
              refine List.pairwise_cons.2 ⟨?_, ih later.2⟩
              intro other member
              rcases mem_place.1 member with equality | member
              · subst equality
                exact Std.lt_of_le_of_ne (String.not_lt.1 notBelow)
                  (Ne.symm different)
              · exact later.1 other member

/-- A name that is in an ascending list already has its place there. -/
theorem place_of_mem {name : String} {names : List String}
    (ascending : names.Pairwise (· < ·)) (present : name ∈ names) :
    place name names = names := by
  induction names with
  | nil => cases present
  | cons first rest ih =>
      have later := List.pairwise_cons.1 ascending
      rcases List.mem_cons.1 present with equality | member
      · subst equality
        simp [place]
      · have above := later.1 name member
        have notBelow : ¬ name < first := String.lt_asymm above
        have different : name ≠ first := by
          intro equality
          exact String.lt_irrefl first (equality ▸ above)
        simp [place, notBelow, different, ih later.2 member]

/-- A set with one more member. -/
def insert (set : NameSet) (name : String) : NameSet :=
  ⟨place name set.names, pairwise_place set.ascending⟩

/-- The set of the names in a list. -/
def ofList (names : List String) : NameSet :=
  names.foldl insert empty

/-- The members of two sets together. -/
def union (left right : NameSet) : NameSet :=
  right.names.foldl insert left

/-- Whether a name is a member of a set. -/
def contains (set : NameSet) (name : String) : Bool :=
  set.names.contains name

instance : Membership String NameSet where
  mem set name := name ∈ set.names

instance (name : String) (set : NameSet) : Decidable (name ∈ set) :=
  inferInstanceAs (Decidable (name ∈ set.names))

instance : DecidableEq NameSet := fun left right =>
  if equality : left.names = right.names then
    isTrue (by
      cases left
      cases right
      simp only at equality
      subst equality
      rfl)
  else isFalse fun same => equality (congrArg names same)

theorem mem_iff {name : String} {set : NameSet} :
    name ∈ set ↔ name ∈ set.names :=
  Iff.rfl

@[simp]
theorem mem_insert {name other : String} {set : NameSet} :
    other ∈ set.insert name ↔ other = name ∨ other ∈ set := by
  simp only [mem_iff, insert, mem_place]

/-- A member makes no difference to a set. -/
theorem insert_of_mem {name : String} {set : NameSet} (present : name ∈ set) :
    set.insert name = set := by
  cases set with
  | mk names ascending => simp only [insert, place_of_mem ascending present]

theorem mem_foldl_insert {other : String} {names : List String}
    {set : NameSet} :
    other ∈ names.foldl insert set ↔ other ∈ set ∨ other ∈ names := by
  induction names generalizing set with
  | nil => simp
  | cons first rest ih =>
      rw [List.foldl_cons, ih, mem_insert, List.mem_cons]
      constructor
      · rintro ((equality | member) | member)
        · exact Or.inr (Or.inl equality)
        · exact Or.inl member
        · exact Or.inr (Or.inr member)
      · rintro (member | equality | member)
        · exact Or.inl (Or.inr member)
        · exact Or.inl (Or.inl equality)
        · exact Or.inr member

@[simp]
theorem mem_ofList {other : String} {names : List String} :
    other ∈ ofList names ↔ other ∈ names := by
  rw [ofList, mem_foldl_insert]
  simp [mem_iff, empty]

@[simp]
theorem mem_union {other : String} {left right : NameSet} :
    other ∈ left.union right ↔ other ∈ left ∨ other ∈ right := by
  rw [union, mem_foldl_insert, ← mem_iff]

@[simp]
theorem contains_eq_true {name : String} {set : NameSet} :
    set.contains name = true ↔ name ∈ set := by
  simp [contains, mem_iff]

end NameSet

end WireLayout
