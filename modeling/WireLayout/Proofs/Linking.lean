import WireLayout.Discriminant
import WireLayout.Proofs.Members

/-!
# Links to discriminants

A member under a condition is linked with its discriminant, which is looked up
among all members by name: it is the first of the name that the composite
itself declares, or else the first of the name.  Linking succeeds exactly when
every member can be linked, and leaves everything but discriminants and
condition values as it is.
-/

namespace WireLayout

/-! ## Looking up discriminants -/

/-- The first member of a sort, and its place. -/
structure IsFirstAt (members : List Member) (sought : Member → Prop)
    (place : Nat) (holder : Member) : Prop where
  located : members[place]? = some holder
  holds : sought holder
  first : ∀ (earlier : Nat) (other : Member), earlier < place →
    members[earlier]? = some other →
    ¬ sought other

/--
The discriminant of a name, and its place: what the composite itself
declares comes first.
-/
inductive IsDiscriminantAt (members : List Member) (name : String) (place : Nat)
    (holder : Member) : Prop where
  | own
      (first :
        IsFirstAt members (fun member => member.visit = 0 ∧ member.name = name)
          place holder)
  | spliced
      (noOwn : ∀ member ∈ members, ¬ (member.visit = 0 ∧ member.name = name))
      (first :
        IsFirstAt members (fun member => member.name = name) place holder)

section Discriminants

variable {members : List Member} {name : String} {place : Nat} {holder : Member}

theorem findIdx?_eq_some_iff_isFirstAt
    {isSought : Member → Bool} {sought : Member → Prop}
    (decides : ∀ member, isSought member = true ↔ sought member) :
    members.findIdx? isSought = some place ↔
      ∃ holder, IsFirstAt members sought place holder := by
  simp only [findIdx?_eq_some_iff_getElem?, decides]
  constructor
  · rintro ⟨⟨holder, located, holds⟩, first⟩
    exact ⟨holder, located, holds, first⟩
  · rintro ⟨holder, located, holds, first⟩
    exact ⟨⟨holder, located, holds⟩, first⟩

theorem findDiscriminant_eq_some_iff :
    findDiscriminant members name = some place ↔
      ∃ holder, IsDiscriminantAt members name place holder := by
  have ownAt := @findIdx?_eq_some_iff_isFirstAt members place
    (fun member => member.visit == 0 && member.name == name) _ fun member => by
      rw [Bool.and_eq_true, beq_iff_eq, beq_iff_eq]
  have anyAt := @findIdx?_eq_some_iff_isFirstAt members place
    (fun member => member.name == name) _ fun member => beq_iff_eq
  rw [findDiscriminant]
  cases own :
      members.findIdx? fun member =>
        member.visit == 0 && member.name == name with
  | some ownPlace =>
      rw [own] at ownAt
      constructor
      · intro found
        rcases ownAt.mp found with ⟨holder, first⟩
        exact ⟨holder, .own first⟩
      · rintro ⟨holder, isDiscriminant⟩
        cases isDiscriminant with
        | own first => exact ownAt.mpr ⟨holder, first⟩
        | spliced noOwn first =>
            rcases List.findIdx?_eq_some_iff_getElem.mp own with
              ⟨bound, holds, _⟩
            rw [Bool.and_eq_true, beq_iff_eq, beq_iff_eq] at holds
            exact absurd holds (noOwn _ (List.getElem_mem bound))
  | none =>
      have noOwn : ∀ member ∈ members,
          ¬ (member.visit = 0 ∧ member.name = name) := by
        simpa using own
      constructor
      · intro found
        rcases anyAt.mp found with ⟨holder, first⟩
        exact ⟨holder, .spliced noOwn first⟩
      · rintro ⟨holder, isDiscriminant⟩
        cases isDiscriminant with
        | own first =>
            exact absurd first.holds
              (noOwn holder (List.mem_of_getElem? first.located))
        | spliced _ first => exact anyAt.mpr ⟨holder, first⟩

theorem IsDiscriminantAt.located
    (isDiscriminant : IsDiscriminantAt members name place holder) :
    members[place]? = some holder := by
  cases isDiscriminant with
  | own first => exact first.located
  | spliced noOwn first => exact first.located

theorem isDiscriminantAt_iff :
    IsDiscriminantAt members name place holder ↔
      findDiscriminant members name = some place ∧
        members[place]? = some holder := by
  constructor
  · intro isDiscriminant
    exact ⟨findDiscriminant_eq_some_iff.mpr ⟨holder, isDiscriminant⟩,
      isDiscriminant.located⟩
  · rintro ⟨found, located⟩
    rcases findDiscriminant_eq_some_iff.mp found with ⟨other, isDiscriminant⟩
    have same := isDiscriminant.located.symm.trans located
    rcases Option.some.inj same with rfl
    exact isDiscriminant

/-- A look-up finds a place for every name that a member has. -/
theorem findDiscriminant_eq_none_iff :
    findDiscriminant members name = none ↔
      ∀ member ∈ members, member.name ≠ name := by
  rw [findDiscriminant]
  split
  · next place own =>
      rcases List.findIdx?_eq_some_iff_getElem.mp own with ⟨bound, holds, _⟩
      rw [Bool.and_eq_true, beq_iff_eq, beq_iff_eq] at holds
      constructor
      · intro missing
        cases missing
      · intro unnamed
        exact absurd holds.2 (unnamed _ (List.getElem_mem bound))
  · simp

end Discriminants

/--
The discriminant of a name: a member of the composite itself, otherwise
any of the name.
-/
def Member.discriminantAmong (members : List Member)
    (name : String) : Option Member :=
  (members.find? fun member => member.visit == 0 && member.name == name).or
    (members.find? fun member => member.name == name)

theorem Member.discriminantAmong_eq_bind (members : List Member)
    (name : String) :
    Member.discriminantAmong members name =
      (findDiscriminant members name).bind fun place => members[place]? := by
  rw [Member.discriminantAmong, findDiscriminant,
    List.find?_eq_bind_findIdx?_getElem?, List.find?_eq_bind_findIdx?_getElem?]
  split
  · next place found =>
      rcases List.findIdx?_eq_some_iff_getElem.mp found with ⟨bound, _⟩
      rw [found, Option.bind_some, List.getElem?_eq_getElem bound,
        Option.some_or]
  · next missing => rw [missing, Option.bind_none, Option.none_or]

theorem Member.name_of_discriminantAmong_eq_some
    {members : List Member} {name : String} {holder : Member}
    (found : Member.discriminantAmong members name = some holder) :
    holder.name = name := by
  rw [Member.discriminantAmong, Option.or_eq_some_iff] at found
  rcases found with own | ⟨_, any⟩
  · have holds := List.find?_some own
    simp only [Bool.and_eq_true, beq_iff_eq] at holds
    exact holds.2
  · simpa using List.find?_some any

theorem lt_length_of_findDiscriminant_eq_some
    {members : List Member} {name : String} {place : Nat}
    (found : findDiscriminant members name = some place) :
    place < members.length := by
  rcases findDiscriminant_eq_some_iff.mp found with ⟨holder, isDiscriminant⟩
  exact (List.getElem?_eq_some_iff.mp isDiscriminant.located).1

/--
The place of a discriminant is the place of a member, and that member is
the discriminant.
-/
theorem exists_of_findDiscriminant_eq_some
    {members : List Member} {name : String} {place : Nat}
    (found : findDiscriminant members name = some place) :
    ∃ holder, members[place]? = some holder ∧
      Member.discriminantAmong members name = some holder := by
  have bound := lt_length_of_findDiscriminant_eq_some found
  refine ⟨members[place], List.getElem?_eq_getElem bound, ?_⟩
  rw [Member.discriminantAmong_eq_bind, found, Option.bind_some,
    List.getElem?_eq_getElem bound]

theorem Member.exists_of_discriminantAmong_eq_some
    {members : List Member} {name : String} {holder : Member}
    (found : Member.discriminantAmong members name = some holder) :
    ∃ place, findDiscriminant members name = some place ∧
      members[place]? = some holder := by
  rw [Member.discriminantAmong_eq_bind, Option.bind_eq_some_iff] at found
  exact found

theorem Member.discriminantAmong_eq_none_iff
    {members : List Member} {name : String} :
    Member.discriminantAmong members name = none ↔
      findDiscriminant members name = none := by
  rw [Member.discriminantAmong_eq_bind]
  constructor
  · intro missing
    cases found : findDiscriminant members name with
    | none => rfl
    | some place =>
        rw [found, Option.bind_some, List.getElem?_eq_none_iff] at missing
        exact absurd (lt_length_of_findDiscriminant_eq_some found)
          (Nat.not_lt.mpr missing)
  · intro nowhere
    rw [nowhere, Option.bind_none]

/-! ## Values of conditions -/

theorem Enumeration.conditionValue_eq_ok_iff
    {enumeration : Enumeration} {owner attr text name : String} :
    enumeration.conditionValue owner attr text = .ok name ↔
      ∃ value, enumeration.find? (.ofText text) = some value ∧
        value.name = name := by
  rw [conditionValue]
  split
  · next value selected => simp [selected]
  · next unselected => simp [unselected]

theorem Enumeration.conditionValue_eq_error_iff
    {enumeration : Enumeration} {owner attr text : String}
    {fault : CompileFault} :
    enumeration.conditionValue owner attr text = .error fault ↔
      enumeration.find? (.ofText text) = none ∧
        fault = .dangling ⟨owner, attr, text, .conditionValue⟩ := by
  rw [conditionValue]
  split
  · next value selected => simp [selected]
  · next unselected => simp [unselected, eq_comm]

/-- What a condition on a discriminant of a type requires of its value. -/
inductive MemberCondition.Requires (schema : Schema) (typeName : String)
    (condition : MemberCondition) : Option String → Prop where
  | value {enumeration text value}
      (found : schema.enumeration? typeName = some enumeration)
      (given : condition.value = some text)
      (selected : enumeration.find? (.ofText text) = some value) :
      Requires schema typeName condition (some value.name)
  | nothing {enumeration}
      (found : schema.enumeration? typeName = some enumeration)
      (absent : condition.value = none) :
      Requires schema typeName condition none
  | uninterpreted
      (missing : schema.enumeration? typeName = none)
      (presence : condition.operation = .has) :
      Requires schema typeName condition condition.value

/-- What a comparison for equality requires is a value of an enumeration. -/
theorem MemberCondition.Requires.exists_enumeration
    {schema : Schema} {typeName : String} {condition : MemberCondition}
    {value : Option String}
    (requires : condition.Requires schema typeName value)
    (equality : condition.isEquality = true) :
    ∃ enumeration, schema.enumeration? typeName = some enumeration ∧
      ∀ name, value = some name →
        name ∈ enumeration.values.map EnumerationValue.name := by
  cases requires with
  | @value enumeration text value found given selected =>
      refine ⟨enumeration, found, ?_⟩
      intro name same
      rcases Option.some.inj same with rfl
      exact List.mem_map_of_mem (List.mem_of_find?_eq_some selected)
  | @nothing enumeration found absent =>
      refine ⟨enumeration, found, ?_⟩
      intro name same
      cases same
  | uninterpreted missing presence => simp [isEquality, presence] at equality

/-- What is wrong with a condition on a discriminant of a type. -/
inductive MemberCondition.Fails (schema : Schema) (typeName owner attr : String)
    (condition : MemberCondition) : CompileFault → Prop where
  | notEnumeration
      (missing : schema.enumeration? typeName = none)
      (compared : condition.operation = .equals) :
      Fails schema typeName owner attr condition
        (.notEnumeration owner attr condition.discriminant typeName)
  | unselected {enumeration text}
      (found : schema.enumeration? typeName = some enumeration)
      (given : condition.value = some text)
      (unselected : enumeration.find? (.ofText text) = none) :
      Fails schema typeName owner attr condition
        (.dangling ⟨owner, attr, text, .conditionValue⟩)

theorem Member.requires_of_requiredValue_eq_ok
    {schema : Schema} {owner : String} {member : Member}
    {condition : MemberCondition} {typeName : String} {value : Option String}
    (required :
      member.requiredValue schema owner condition typeName = .ok value) :
    condition.Requires schema typeName value := by
  rw [requiredValue] at required
  split at required
  · next enumeration found =>
      split at required
      · next text given =>
          cases outcome : enumeration.conditionValue owner member.name text with
          | error fault =>
              rw [outcome] at required
              cases required
          | ok name =>
              rw [outcome] at required
              rcases Except.ok.inj required with rfl
              rcases Enumeration.conditionValue_eq_ok_iff.mp outcome with
                ⟨value, selected, rfl⟩
              exact .value found given selected
      · next absent =>
          rcases Except.ok.inj required with rfl
          exact .nothing found absent
  · cases required
  · next missing presence =>
      rcases Except.ok.inj required with rfl
      exact .uninterpreted missing presence

theorem Member.requiredValue_eq_error_iff
    {schema : Schema} {owner : String} {member : Member}
    {condition : MemberCondition} {typeName : String} {fault : CompileFault} :
    member.requiredValue schema owner condition typeName = .error fault ↔
      condition.Fails schema typeName owner member.name fault := by
  constructor
  · intro failed
    rw [requiredValue] at failed
    split at failed
    · next enumeration found =>
        split at failed
        · next text given =>
            cases outcome :
                enumeration.conditionValue owner member.name text with
            | error fault =>
                rw [outcome] at failed
                rcases Except.error.inj failed with rfl
                rcases Enumeration.conditionValue_eq_error_iff.mp outcome with
                  ⟨unselected, rfl⟩
                exact .unselected found given unselected
            | ok name =>
                rw [outcome] at failed
                cases failed
        · cases failed
    · next missing compared =>
        rcases Except.error.inj failed with rfl
        exact .notEnumeration missing compared
    · cases failed
  · intro fails
    cases fails with
    | notEnumeration missing compared => rw [requiredValue, missing, compared]
    | @unselected enumeration text found given unselected =>
        have failed : enumeration.conditionValue owner member.name text =
            .error (.dangling ⟨owner, member.name, text, .conditionValue⟩) :=
          Enumeration.conditionValue_eq_error_iff.mpr ⟨unselected, rfl⟩
        rw [requiredValue, found]
        simp only [given, failed]
        rfl

/-! ## Linked members -/

/-- A member linked with the discriminant of its condition. -/
inductive Member.Links (schema : Schema) (members : List Member)
    (member : Member) : Member → Prop where
  | unconditional
      (free : member.condition = none) :
      Links schema members member member
  | conditional {condition place holder value}
      (conditioned : member.condition = some condition)
      (found : findDiscriminant members condition.discriminant = some place)
      (located : members[place]? = some holder)
      (requires : condition.Requires schema holder.typeName value) :
      Links schema members member
        { member with
          discriminant := some place
          condition := some { condition with value := value } }

/-- A member without its condition and without the link to its discriminant. -/
def Member.unconditioned (member : Member) : Member :=
  { member with condition := none, discriminant := none }

/--
Linking changes nothing about a member but its condition and its discriminant.
-/
theorem Member.Links.unconditioned_eq
    {schema : Schema} {members : List Member} {member linked : Member}
    (links : member.Links schema members linked) :
    linked.unconditioned = member.unconditioned := by
  cases links with
  | unconditional free => rfl
  | conditional conditioned found located requires => rfl

/-- Why a member cannot be linked with the discriminant of its condition. -/
inductive Member.Unlinkable (schema : Schema) (owner : String)
    (members : List Member) (member : Member) : CompileFault → Prop where
  | undiscriminated {condition}
      (conditioned : member.condition = some condition)
      (missing :
        Member.discriminantAmong members condition.discriminant = none) :
      Unlinkable schema owner members member
        (.dangling ⟨owner, member.name, condition.discriminant, .condition⟩)
  | fails {condition holder fault}
      (conditioned : member.condition = some condition)
      (found :
        Member.discriminantAmong members condition.discriminant = some holder)
      (fails : condition.Fails schema holder.typeName owner member.name fault) :
      Unlinkable schema owner members member fault

theorem Member.links_of_linkDiscriminant_eq_ok
    {schema : Schema} {owner : String} {members : List Member}
    {member linked : Member}
    (links : member.linkDiscriminant schema owner members = .ok linked) :
    member.Links schema members linked := by
  rw [linkDiscriminant] at links
  split at links
  · next free =>
      rcases Except.ok.inj links with rfl
      exact .unconditional free
  · next condition conditioned =>
      split at links
      · cases links
      · next place found =>
          rcases exists_of_findDiscriminant_eq_some found with
            ⟨holder, located, _⟩
          simp only [located, Option.map_some, Option.getD_some] at links
          rcases Outcome.bind_eq_ok_iff.mp links with ⟨value, required, result⟩
          rcases Except.ok.inj result with rfl
          exact .conditional conditioned found located
            (requires_of_requiredValue_eq_ok required)

theorem Member.linkDiscriminant_eq_error_iff
    {schema : Schema} {owner : String} {members : List Member} {member : Member}
    {fault : CompileFault} :
    member.linkDiscriminant schema owner members = .error fault ↔
      member.Unlinkable schema owner members fault := by
  constructor
  · intro failed
    rw [linkDiscriminant] at failed
    split at failed
    · cases failed
    · next condition conditioned =>
        split at failed
        · next missing =>
            rcases Except.error.inj failed with rfl
            exact .undiscriminated conditioned
              (Member.discriminantAmong_eq_none_iff.mpr missing)
        · next place found =>
            rcases exists_of_findDiscriminant_eq_some found with
              ⟨holder, located, among⟩
            simp only [located, Option.map_some, Option.getD_some] at failed
            rcases Outcome.bind_eq_error_iff.mp failed with
              failed | ⟨_, _, impossible⟩
            · exact .fails conditioned among
                (requiredValue_eq_error_iff.mp failed)
            · cases impossible
  · intro unlinkable
    cases unlinkable with
    | @undiscriminated condition conditioned missing =>
        have nowhere := Member.discriminantAmong_eq_none_iff.mp missing
        simp only [linkDiscriminant, conditioned, nowhere]
    | @fails condition holder fault conditioned among fails =>
        rcases exists_of_discriminantAmong_eq_some among with
          ⟨place, found, located⟩
        have failed := requiredValue_eq_error_iff.mpr fails
        simp only [linkDiscriminant, conditioned, found, located,
          Option.map_some, Option.getD_some]
        exact Outcome.bind_eq_error_iff.mpr (Or.inl failed)

/-- Linking stops at the first member that cannot be linked. -/
theorem toExcept_linkDiscriminants (schema : Schema) (owner : String)
    (members : List Member) :
    (linkDiscriminants schema owner members).toExcept =
      members.mapM (Member.linkDiscriminant schema owner members) := by
  have from_ (rest : List Member) :
      (linkDiscriminantsFrom schema owner members rest).toExcept =
        rest.mapM (Member.linkDiscriminant schema owner members) := by
    induction rest with
    | nil => rfl
    | cons member rest ih =>
        rw [List.mapM_cons, ← ih, linkDiscriminantsFrom]
        cases member.linkDiscriminant schema owner members with
        | error fault => rfl
        | ok linked =>
            simp only [Linking.toExcept]
            cases (linkDiscriminantsFrom schema owner members rest).fault with
            | none => rfl
            | some fault => rfl
  exact from_ members

theorem forall₂_links_of_linkDiscriminants_eq_ok
    {schema : Schema} {owner : String} {members linked : List Member}
    (links : (linkDiscriminants schema owner members).toExcept = .ok linked) :
    List.Forall₂ (Member.Links schema members) members linked := by
  rw [toExcept_linkDiscriminants, Outcome.mapM_eq_ok_iff] at links
  refine links.imp ?_
  intro member other
  exact Member.links_of_linkDiscriminant_eq_ok

theorem exists_of_linkDiscriminants_eq_error
    {schema : Schema} {owner : String} {members : List Member}
    {fault : CompileFault}
    (failed :
      (linkDiscriminants schema owner members).toExcept = .error fault) :
    ∃ member ∈ members, member.Unlinkable schema owner members fault := by
  rw [toExcept_linkDiscriminants] at failed
  rcases Outcome.exists_of_mapM_eq_error failed with ⟨member, among, failed⟩
  exact ⟨member, among, Member.linkDiscriminant_eq_error_iff.mp failed⟩

/-- No member of linked members was one that cannot be linked. -/
theorem not_unlinkable_of_linkDiscriminants_eq_ok
    {schema : Schema} {owner : String} {members linked : List Member}
    {member : Member} {fault : CompileFault}
    (links : (linkDiscriminants schema owner members).toExcept = .ok linked)
    (among : member ∈ members) :
    ¬ member.Unlinkable schema owner members fault := by
  intro unlinkable
  rw [toExcept_linkDiscriminants, Outcome.mapM_eq_ok_iff] at links
  have failed := Member.linkDiscriminant_eq_error_iff.mpr unlinkable
  rcases exists_right_of_forall₂ links among with ⟨other, _, succeeded⟩
  cases failed.symm.trans succeeded

end WireLayout
