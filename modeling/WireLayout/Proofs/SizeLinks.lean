import WireLayout.Proofs.Members

/-!
# Where size links lead

A member whose size is in a field is linked with the first member of that name
on its own visit, and a member that is such a field is linked back with the
first one whose size it holds.  So the links of a composition follow from the
visits, names and sizes of its members.

No link leads from one visit to another.  A block of members whose visits
occur nowhere else is therefore linked as it would be alone, up to the place
where it begins.
-/

namespace WireLayout

/-! ## The links of a list of members -/

/--
The place of the field that holds the size of a member, if its
size is in a field.
-/
def Member.sizePlace (members : List Member) (member : Member) : Option Nat :=
  match member.size with
  | .literal _ => none
  | .field reference =>
      members.findIdx? fun other =>
        other.visit == member.visit && other.name == reference

/-- The links of members are those that their sizes ask for. -/
structure AreSized (members : List Member) : Prop where
  sizeField : ∀ member ∈ members, member.sizeField = member.sizePlace members
  sizedMember : ∀ place member, members[place]? = some member →
    member.sizedMember =
      members.findIdx? fun other => other.sizeField == some place

/--
A member agrees with one of some visits earlier in all that its size
link depends on.
-/
structure Member.Agrees (visits : Nat) (member moved : Member) : Prop where
  visit : moved.visit = member.visit + visits
  name : moved.name = member.name
  size : moved.size = member.size

theorem Member.Agrees.sizePlace_eq
    {visits : Nat} {member moved : Member} {members others : List Member}
    (agrees : member.Agrees visits moved)
    (sides : List.Forall₂ (Member.Agrees visits) members others) :
    moved.sizePlace others = member.sizePlace members := by
  rw [sizePlace, sizePlace, agrees.size]
  cases member.size with
  | literal count => rfl
  | field reference =>
      refine (findIdx?_eq_of_forall₂ _ _ sides ?_).symm
      intro first second pair
      rw [pair.visit, pair.name, agrees.visit, Bool.eq_iff_iff]
      simp

theorem Member.eq_sizePlace_of_sizeTarget_eq_ok
    {owner : String} {members : List Member} {member : Member}
    {target : Option Nat}
    (found : member.sizeTarget owner members = .ok target) :
    target = member.sizePlace members := by
  rw [sizeTarget] at found
  rw [sizePlace]
  cases sized : member.size with
  | literal count =>
      rw [sized] at found
      exact (Except.ok.inj found).symm
  | field reference =>
      simp only [sized] at found ⊢
      split at found
      · next place located =>
          rw [located]
          exact (Except.ok.inj found).symm
      · cases found

theorem eq_withSizeLinks_of_linkSizes_eq_ok
    {owner : String} {members linked : List Member}
    (links : linkSizes owner members = .ok linked) :
    linked =
      withSizeLinks (members.map (Member.sizePlace members)) members := by
  rcases Outcome.bind_eq_ok_iff.mp links with ⟨targets, found, result⟩
  rcases Except.ok.inj result with rfl
  rw [Outcome.mapM_eq_ok_iff] at found
  have targets_eq : members.map (Member.sizePlace members) = targets := by
    rw [← List.forall₂_eq_eq_eq, List.forall₂_map_left_iff]
    refine found.imp ?_
    intro member target located
    exact (Member.eq_sizePlace_of_sizeTarget_eq_ok located).symm
  rw [targets_eq]

theorem getElem?_withSizeLinks (targets : List (Option Nat))
    (members : List Member) (place : Nat) :
    (withSizeLinks targets members)[place]? = members[place]?.map fun member =>
      { member with
        sizeField := (targets[place]?).join
        sizedMember :=
          targets.findIdx? fun target => target == some place } := by
  rw [withSizeLinks, List.getElem?_map, List.getElem?_zipIdx, Option.map_map,
    Nat.zero_add]
  rfl

/-- Each member is linked with its own target. -/
theorem map_sizeField_withSizeLinks
    {targets : List (Option Nat)} {members : List Member}
    (sameLength : targets.length = members.length) :
    (withSizeLinks targets members).map Member.sizeField = targets := by
  apply List.ext_getElem?
  intro place
  rw [List.getElem?_map, getElem?_withSizeLinks, Option.map_map]
  by_cases bound : place < members.length
  · rw [List.getElem?_eq_getElem bound,
      List.getElem?_eq_getElem (sameLength ▸ bound)]
    rfl
  · rw [List.getElem?_eq_none_iff.mpr (by omega),
      List.getElem?_eq_none_iff.mpr (by omega)]
    rfl

/-- Links change nothing that they depend on. -/
theorem forall₂_agrees_withSizeLinks (targets : List (Option Nat))
    (members : List Member) :
    List.Forall₂ (Member.Agrees 0) members (withSizeLinks targets members) := by
  have same := map_unlinked_withSizeLinks targets members
  rw [← List.forall₂_eq_eq_eq, List.forall₂_map_left_iff,
    List.forall₂_map_right_iff] at same
  refine same.flip.imp ?_
  intro member linked unlinked
  have visit := congrArg Member.visit unlinked
  have name := congrArg Member.name unlinked
  have size := congrArg Member.size unlinked
  exact ⟨visit, name, size⟩

/-- Linked members have the links that their sizes ask for. -/
theorem areSized_of_linkSizes_eq_ok
    {owner : String} {members linked : List Member}
    (links : linkSizes owner members = .ok linked) :
    AreSized linked := by
  rcases eq_withSizeLinks_of_linkSizes_eq_ok links with rfl
  have agree :=
    forall₂_agrees_withSizeLinks
      (members.map (Member.sizePlace members)) members
  constructor
  · intro linked among
    rcases List.mem_iff_getElem?.mp among with ⟨place, located⟩
    rw [getElem?_withSizeLinks, List.getElem?_map,
      Option.map_eq_some_iff] at located
    rcases located with ⟨member, own, rfl⟩
    rw [own, Option.map_some, Option.join_some]
    -- The place was found before the members were linked; it is found again
    -- among the linked ones.
    have agrees : member.Agrees 0
        { member with
          sizeField := member.sizePlace members
          sizedMember :=
            (members.map (Member.sizePlace members)).findIdx? fun target =>
            target == some place } :=
      ⟨rfl, rfl, rfl⟩
    exact (agrees.sizePlace_eq agree).symm
  · intro place linked located
    rw [getElem?_withSizeLinks, Option.map_eq_some_iff] at located
    rcases located with ⟨member, _, rfl⟩
    have sameLength :
        (members.map (Member.sizePlace members)).length = members.length := by
      rw [List.length_map]
    have fields := map_sizeField_withSizeLinks sameLength
    have targets :=
      congrArg (List.findIdx? fun target => target == some place) fields
    rw [List.findIdx?_map] at targets
    exact targets.symm

theorem areSized_of_compose_eq_ok
    {schema : Schema} {settings : Settings} {language : Language}
    {root : String} {composition : Composition}
    (composed : compose schema settings language root = .ok composition) :
    AreSized composition.members := by
  rcases compose_eq_ok composed with ⟨_, _, _, _, _, _, _, links⟩
  exact areSized_of_linkSizes_eq_ok links

namespace AreSized

variable {members : List Member}

theorem exists_of_sizeField_eq_some
    {member : Member} {link : Nat}
    (sized : AreSized members)
    (among : member ∈ members)
    (linked : member.sizeField = some link) :
    ∃ holder, members[link]? = some holder ∧ holder.visit = member.visit := by
  rw [sized.sizeField member among, Member.sizePlace] at linked
  split at linked
  · cases linked
  · next reference _ =>
      rcases List.findIdx?_eq_some_iff_getElem.mp linked with ⟨bound, holds, _⟩
      rw [Bool.and_eq_true, beq_iff_eq] at holds
      exact ⟨members[link], List.getElem?_eq_getElem bound, holds.1⟩

/-- A link of a member leads to a member of its own visit. -/
theorem exists_of_link
    {place link : Nat} {member : Member}
    (sized : AreSized members)
    (located : members[place]? = some member)
    (linked : member.sizeField = some link ∨ member.sizedMember = some link) :
    ∃ other, members[link]? = some other ∧ other.visit = member.visit := by
  rcases linked with forward | backward
  · exact sized.exists_of_sizeField_eq_some
      (List.mem_of_getElem? located) forward
  · rw [sized.sizedMember place member located] at backward
    rcases List.findIdx?_eq_some_iff_getElem.mp backward with ⟨bound, holds, _⟩
    rw [beq_iff_eq] at holds
    rcases sized.exists_of_sizeField_eq_some (List.getElem_mem bound) holds with
      ⟨holder, holderLocated, sameVisit⟩
    rcases Option.some.inj (located.symm.trans holderLocated) with rfl
    exact ⟨members[link], List.getElem?_eq_getElem bound, sameVisit.symm⟩

end AreSized

/-! ## Blocks of visits -/

/--
The first of a sort is in the middle of a list, where there is none of
it on either side.
-/
theorem findIdx?_append_append
    {Value : Type} {before block after : List Value} {holds : Value → Bool}
    (notBefore : ∀ value ∈ before, holds value = false)
    (notAfter : ∀ value ∈ after, holds value = false) :
    (before ++ block ++ after).findIdx? holds =
      (block.findIdx? holds).map fun place => place + before.length := by
  rw [List.findIdx?_append, List.findIdx?_append,
    List.findIdx?_eq_none_iff.mpr notBefore,
    List.findIdx?_eq_none_iff.mpr notAfter, Option.none_or, Option.map_none,
    Option.or_none]

theorem getElem?_append_append
    {Value : Type} {before block after : List Value} {place : Nat}
    {value : Value}
    (located : block[place]? = some value) :
    (before ++ block ++ after)[place + before.length]? = some value := by
  have bound := (List.getElem?_eq_some_iff.mp located).1
  rw [List.append_assoc, List.getElem?_append_right (by omega),
    List.getElem?_append_left (by omega), Nat.add_sub_cancel, located]

/--
A block of members, with the visits of it that are not visits of what
stands around it.
-/
structure IsBlock (inside : Nat → Prop)
    (before block after : List Member) : Prop where
  within : ∀ member ∈ block, inside member.visit
  outside : ∀ member ∈ before ++ after, ¬ inside member.visit

namespace IsBlock

variable {inside : Nat → Prop} {before block after : List Member}

theorem inside_iff
    {place : Nat} {member : Member}
    (isBlock : IsBlock inside before block after)
    (located : (before ++ block ++ after)[place]? = some member) :
    inside member.visit ↔
      before.length ≤ place ∧ place < before.length + block.length := by
  rw [List.append_assoc] at located
  by_cases early : place < before.length
  · rw [List.getElem?_append_left early] at located
    have member_ := List.mem_append_left after (List.mem_of_getElem? located)
    exact iff_of_false (isBlock.outside member member_) (by omega)
  · rw [List.getElem?_append_right (by omega)] at located
    by_cases late : before.length + block.length ≤ place
    · rw [List.getElem?_append_right (by omega)] at located
      have member_ :=
        List.mem_append_right before (List.mem_of_getElem? located)
      exact iff_of_false (isBlock.outside member member_) (by omega)
    · rw [List.getElem?_append_left (by omega)] at located
      exact iff_of_true (isBlock.within member (List.mem_of_getElem? located))
        (by omega)

/-- No link leads into a block or out of it. -/
theorem link_iff
    {place link : Nat} {member : Member}
    (isBlock : IsBlock inside before block after)
    (sized : AreSized (before ++ block ++ after))
    (located : (before ++ block ++ after)[place]? = some member)
    (linked : member.sizeField = some link ∨ member.sizedMember = some link) :
    (before.length ≤ link ∧ link < before.length + block.length) ↔
      (before.length ≤ place ∧ place < before.length + block.length) := by
  rcases sized.exists_of_link located linked with
    ⟨other, otherLocated, sameVisit⟩
  rw [← isBlock.inside_iff located, ← isBlock.inside_iff otherLocated,
    sameVisit]

/--
The field that holds the size of a member of a block is found in the block.
-/
theorem sizePlace_eq
    {member : Member}
    (isBlock : IsBlock inside before block after)
    (among : member ∈ block) :
    member.sizePlace (before ++ block ++ after) =
      (member.sizePlace block).map fun place => place + before.length := by
  have elsewhere (other : Member) (around : other ∈ before ++ after) :
      other.visit ≠ member.visit := by
    intro same
    apply isBlock.outside other around
    rw [same]
    exact isBlock.within member among
  rw [Member.sizePlace, Member.sizePlace]
  cases member.size with
  | literal count => rfl
  | field reference =>
      apply findIdx?_append_append
      · intro other early
        simp [elsewhere other (List.mem_append_left _ early)]
      · intro other late
        simp [elsewhere other (List.mem_append_right _ late)]

/-- The members of a block have their sizes where they would have them alone. -/
theorem forall₂_sizeField
    {visits : Nat} {alone : List Member}
    (isBlock : IsBlock inside before block after)
    (sized : AreSized (before ++ block ++ after))
    (aloneSized : AreSized alone)
    (sides : List.Forall₂ (Member.Agrees visits) alone block) :
    List.Forall₂
      (fun own moved =>
        moved.sizeField = own.sizeField.map fun link => link + before.length)
      alone block := by
  have among := (List.forall₂_and_left _ _).mpr ⟨fun _ member => member, sides⟩
  have among :=
    (List.forall₂_and_left _ _).mpr ⟨fun _ member => member, among.flip⟩
  refine among.flip.imp ?_
  rintro own moved ⟨inBlock, inAlone, agrees⟩
  have inWhole : moved ∈ before ++ block ++ after :=
    List.mem_append_left _ (List.mem_append_right _ inBlock)
  rw [sized.sizeField moved inWhole, isBlock.sizePlace_eq inBlock,
    aloneSized.sizeField own inAlone, agrees.sizePlace_eq sides]

theorem sizeField_ne
    {place : Nat} {member moved : Member}
    (isBlock : IsBlock inside before block after)
    (sized : AreSized (before ++ block ++ after))
    (around : member ∈ before ++ after)
    (located : block[place]? = some moved) :
    member.sizeField ≠ some (place + before.length) := by
  intro linked
  have among : member ∈ before ++ block ++ after := by
    rcases List.mem_append.mp around with early | late
    · exact List.mem_append_left _ (List.mem_append_left _ early)
    · exact List.mem_append_right _ late
  rcases sized.exists_of_sizeField_eq_some among linked with
    ⟨holder, held, sameVisit⟩
  have bound : place + before.length < before.length + block.length := by
    have inBlock := (List.getElem?_eq_some_iff.mp located).1
    omega
  apply isBlock.outside member around
  rw [← sameVisit]
  exact (isBlock.inside_iff held).mpr ⟨by omega, bound⟩

/--
A block of members has the links of members that agree with it and stand alone.
-/
theorem links_eq
    {visits place : Nat} {alone : List Member} {own moved : Member}
    (isBlock : IsBlock inside before block after)
    (sized : AreSized (before ++ block ++ after))
    (aloneSized : AreSized alone)
    (sides : List.Forall₂ (Member.Agrees visits) alone block)
    (ownLocated : alone[place]? = some own)
    (located : block[place]? = some moved) :
    moved.sizeField = own.sizeField.map (fun link => link + before.length) ∧
      moved.sizedMember =
        own.sizedMember.map fun link => link + before.length := by
  have fields := isBlock.forall₂_sizeField sized aloneSized sides
  have sizeField :
      moved.sizeField = own.sizeField.map fun link => link + before.length := by
    rcases exists_getElem?_of_forall₂ fields ownLocated with
      ⟨same, sameLocated, field⟩
    rcases Option.some.inj (located.symm.trans sameLocated) with rfl
    exact field
  have around (member : Member) (among : member ∈ before ++ after) :
      (member.sizeField == some (place + before.length)) = false :=
    beq_false_of_ne (isBlock.sizeField_ne sized among located)
  -- Whose size a member holds is seen from the links of the others to it.
  have first :
      alone.findIdx? (fun other => other.sizeField == some place) =
        block.findIdx?
          (fun other => other.sizeField == some (place + before.length)) := by
    apply findIdx?_eq_of_forall₂ _ _ fields
    intro first second field
    rw [field]
    cases first.sizeField <;> simp
  refine ⟨sizeField, ?_⟩
  rw [sized.sizedMember _ moved (getElem?_append_append located),
    aloneSized.sizedMember place own ownLocated, first]
  exact findIdx?_append_append
    (fun member early => around member (List.mem_append_left _ early))
    (fun member late => around member (List.mem_append_right _ late))

end IsBlock

end WireLayout
