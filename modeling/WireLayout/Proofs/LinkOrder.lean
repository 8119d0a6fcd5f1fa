import WireLayout.Proofs.Selection

/-!
# Linking members in order

All members of a list are linked exactly if each of them can be: a member of
the list has the name that its condition gives, and the first such member, one
that the composite declares before any other, has a type that the condition
fits.  Otherwise the members before the first that cannot be linked are linked
as ever, and it and those after it are left as they are.

Linking writes each member over the one it was, into the list that the next
look-up goes through.  The look-ups do not see it: they read names, visits and
types, and none of them is written.
-/

namespace WireLayout

/-! ## What can be linked -/

/-- A condition can be put to a discriminant of a type. -/
structure MemberCondition.Fits (schema : Schema) (typeName : String)
    (condition : MemberCondition) : Prop where
  enumerated : condition.operation = .equals →
    ∃ enumeration, schema.enumeration? typeName = some enumeration
  selects : ∀ enumeration text,
    schema.enumeration? typeName = some enumeration →
    condition.value = some text →
    ∃ value, enumeration.find? (.ofText text) = some value

/--
The discriminant of a member is there, if it has a condition, and the
condition fits it.
-/
structure Member.IsLinkable (schema : Schema) (members : List Member)
    (member : Member) : Prop where
  occurs : ∀ condition, member.condition = some condition →
    ∃ other ∈ members, other.name = condition.discriminant
  fits : ∀ condition place holder, member.condition = some condition →
    IsDiscriminantAt members condition.discriminant place holder →
      condition.Fits schema holder.typeName

/--
What linking makes of a member: a member without a condition is left as it is,
and any other gets the place of its discriminant, and the name of the selected
value for the text that selects it.
-/
structure Member.IsLinkOf (schema : Schema) (members : List Member)
    (member linked : Member) : Prop where
  frame : linked.unconditioned = member.unconditioned
  unconditional : member.condition = none → linked = member
  conditional : ∀ condition, member.condition = some condition →
    ∃ place holder value,
      IsDiscriminantAt members condition.discriminant place holder ∧
      condition.Requires schema holder.typeName value ∧
      linked.discriminant = some place ∧
      linked.condition = some { condition with value := value }
  declared : ∀ condition place holder enumeration text,
    member.condition = some condition →
    IsDiscriminantAt members condition.discriminant place holder →
    schema.enumeration? holder.typeName = some enumeration →
    condition.value = some text →
      ∃ value ∈ enumeration.values,
        linked.condition = some { condition with value := some value.name }

section Linkable

variable {schema : Schema} {owner : String} {members : List Member}
  {member linked : Member}

theorem MemberCondition.fits_iff
    {typeName attr : String} {condition : MemberCondition} :
    condition.Fits schema typeName ↔
      ∀ fault, ¬ condition.Fails schema typeName owner attr fault := by
  constructor
  · intro fits fault fails
    cases fails with
    | notEnumeration missing compared =>
        rcases fits.enumerated compared with ⟨enumeration, found⟩
        cases missing.symm.trans found
    | unselected found given unselected =>
        rcases fits.selects _ _ found given with ⟨value, selected⟩
        cases unselected.symm.trans selected
  · intro faultless
    constructor
    · intro compared
      cases found : schema.enumeration? typeName with
      | none => exact absurd (.notEnumeration found compared) (faultless _)
      | some enumeration => exact ⟨enumeration, rfl⟩
    · intro enumeration text found given
      cases selected : enumeration.find? (.ofText text) with
      | none => exact absurd (.unselected found given selected) (faultless _)
      | some value => exact ⟨value, rfl⟩

/-- A member can be linked exactly if nothing is wrong with it. -/
theorem Member.isLinkable_iff :
    member.IsLinkable schema members ↔
      ∀ fault, ¬ member.Unlinkable schema owner members fault := by
  constructor
  · intro linkable fault unlinkable
    cases unlinkable with
    | undiscriminated conditioned missing =>
        rcases linkable.occurs _ conditioned with ⟨other, among, named⟩
        have nowhere := Member.discriminantAmong_eq_none_iff.mp missing
        exact findDiscriminant_eq_none_iff.mp nowhere other among named
    | fails conditioned among fails =>
        rcases Member.exists_of_discriminantAmong_eq_some among with
          ⟨place, found, located⟩
        have fits :=
          linkable.fits _ place _ conditioned
            (isDiscriminantAt_iff.mpr ⟨found, located⟩)
        exact MemberCondition.fits_iff.mp fits _ fails
  · intro faultless
    constructor
    · intro condition conditioned
      by_contra! unnamed
      have nowhere := findDiscriminant_eq_none_iff.mpr unnamed
      have missing := Member.discriminantAmong_eq_none_iff.mpr nowhere
      exact faultless _ (.undiscriminated conditioned missing)
    · intro condition place holder conditioned isDiscriminant
      rcases isDiscriminantAt_iff.mp isDiscriminant with ⟨found, located⟩
      apply (@MemberCondition.fits_iff schema owner holder.typeName member.name
        condition).mpr
      intro fault fails
      have among :
          Member.discriminantAmong members condition.discriminant =
            some holder := by
        rw [Member.discriminantAmong_eq_bind, found, Option.bind_some, located]
      exact faultless fault (.fails conditioned among fails)

/--
What a text requires of a discriminant with an enumeration is a
value declared there.
-/
theorem MemberCondition.Requires.exists_declared
    {typeName text : String} {condition : MemberCondition}
    {value : Option String} {enumeration : Enumeration}
    (requires : condition.Requires schema typeName value)
    (found : schema.enumeration? typeName = some enumeration)
    (given : condition.value = some text) :
    ∃ declared ∈ enumeration.values, value = some declared.name := by
  cases requires with
  | @value other _ declared otherFound _ selected =>
      rcases Option.some.inj (otherFound.symm.trans found) with rfl
      exact ⟨declared, List.mem_of_find?_eq_some selected, rfl⟩
  | nothing _ absent => cases absent.symm.trans given
  | uninterpreted missing _ => cases missing.symm.trans found

theorem Member.Links.isLinkOf
    (links : member.Links schema members linked) :
    member.IsLinkOf schema members linked := by
  cases links with
  | unconditional free =>
      constructor
      · rfl
      · intro _
        rfl
      · intro condition conditioned
        cases free.symm.trans conditioned
      · intro condition place holder enumeration text conditioned
        cases free.symm.trans conditioned
  | @conditional condition place holder value conditioned found located
      requires =>
      have isDiscriminant := isDiscriminantAt_iff.mpr ⟨found, located⟩
      constructor
      · rfl
      · intro free
        cases free.symm.trans conditioned
      · intro other otherConditioned
        rcases Option.some.inj (conditioned.symm.trans otherConditioned) with
          rfl
        exact ⟨place, holder, value, isDiscriminant, requires, rfl, rfl⟩
      · intro other otherPlace otherHolder enumeration text otherConditioned
          otherDiscriminant typed given
        rcases Option.some.inj (conditioned.symm.trans otherConditioned) with
          rfl
        rcases isDiscriminantAt_iff.mp otherDiscriminant with
          ⟨otherFound, otherLocated⟩
        rcases Option.some.inj (found.symm.trans otherFound) with rfl
        rcases Option.some.inj (located.symm.trans otherLocated) with rfl
        rcases requires.exists_declared typed given with ⟨declared, among, rfl⟩
        exact ⟨declared, among, rfl⟩

end Linkable

/-! ## How far linking comes -/

/--
Where linking stops: at a member with a fault, with the members
before it linked.
-/
structure StopsAt (schema : Schema) (owner : String)
    (members rest : List Member) (linking : Linking) (fault : CompileFault)
    (front after linked : List Member) (member : Member) : Prop where
  split : rest = front ++ member :: after
  linkable : ∀ earlier ∈ front, earlier.IsLinkable schema members
  links : List.Forall₂ (Member.IsLinkOf schema members) front linked
  unlinkable : member.Unlinkable schema owner members fault
  left : linking.members = linked ++ member :: after

section Order

variable {schema : Schema} {owner : String} {members : List Member}

theorem Member.isLinkable_of_linkDiscriminant_eq_ok
    {member linked : Member}
    (outcome : member.linkDiscriminant schema owner members = .ok linked) :
    member.IsLinkable schema members := by
  apply (@Member.isLinkable_iff schema owner members member).mpr
  intro fault unlinkable
  cases outcome.symm.trans (Member.linkDiscriminant_eq_error_iff.mpr unlinkable)

/-- Either all members are linked, or linking stops at one of them. -/
theorem linkDiscriminantsFrom_spec (rest : List Member) :
    ((linkDiscriminantsFrom schema owner members rest).fault = none ∧
        (∀ member ∈ rest, member.IsLinkable schema members) ∧
        List.Forall₂ (Member.IsLinkOf schema members) rest
          (linkDiscriminantsFrom schema owner members rest).members) ∨
      ∃ fault front member after linked,
        (linkDiscriminantsFrom schema owner members rest).fault = some fault ∧
          StopsAt schema owner members rest
            (linkDiscriminantsFrom schema owner members rest) fault
            front after linked member := by
  induction rest with
  | nil =>
      left
      exact ⟨rfl, List.forall_mem_nil _, .nil⟩
  | cons head rest ih =>
      rw [linkDiscriminantsFrom]
      cases outcome : head.linkDiscriminant schema owner members with
      | error fault =>
          right
          refine ⟨fault, [], head, rest, [], rfl, ?_⟩
          exact {
            split := rfl
            linkable := List.forall_mem_nil _
            links := .nil
            unlinkable := Member.linkDiscriminant_eq_error_iff.mp outcome
            left := rfl }
      | ok linkedHead =>
          have linkable := Member.isLinkable_of_linkDiscriminant_eq_ok outcome
          have link := (Member.links_of_linkDiscriminant_eq_ok outcome).isLinkOf
          rcases ih with ⟨faultless, others, links⟩ |
            ⟨fault, front, member, after, linked, stopped, stops⟩
          · left
            exact ⟨faultless, List.forall_mem_cons.mpr ⟨linkable, others⟩,
              .cons link links⟩
          · right
            refine ⟨fault, head :: front, member, after, linkedHead :: linked,
              stopped, ?_⟩
            exact {
              split := congrArg (List.cons head) stops.split
              linkable := List.forall_mem_cons.mpr ⟨linkable, stops.linkable⟩
              links := .cons link stops.links
              unlinkable := stops.unlinkable
              left := congrArg (List.cons linkedHead) stops.left }

theorem fault_linkDiscriminants_eq_none_iff :
    (linkDiscriminants schema owner members).fault = none ↔
      ∀ member ∈ members, member.IsLinkable schema members := by
  rw [linkDiscriminants]
  rcases linkDiscriminantsFrom_spec members with ⟨faultless, linkable, _⟩ |
    ⟨fault, front, member, after, linked, stopped, stops⟩
  · exact iff_of_true faultless linkable
  · apply iff_of_false
    · intro faultless
      cases stopped.symm.trans faultless
    · intro linkable
      have among : member ∈ members := by
        rw [stops.split]
        exact List.mem_append_right _ List.mem_cons_self
      exact Member.isLinkable_iff.mp (linkable member among) fault
        stops.unlinkable

end Order

/-! ## Linking in place -/

/--
Links the members at places, one after the other, each among the members
as they are then.
-/
def linkInPlace (schema : Schema) (owner : String) :
    List Nat → List Member → Linking
  | [], members => ⟨members, none⟩
  | place :: places, members =>
      match members[place]? with
      | none => linkInPlace schema owner places members
      | some member =>
          match member.linkDiscriminant schema owner members with
          | .error fault => ⟨members, some fault⟩
          | .ok linked =>
              linkInPlace schema owner places (members.set place linked)

section InPlace

variable {schema : Schema} {owner : String} {members others : List Member}

theorem findDiscriminant_map_unconditioned (members : List Member)
    (name : String) :
    findDiscriminant (members.map Member.unconditioned) name =
      findDiscriminant members name := by
  simp only [findDiscriminant, List.findIdx?_map, Function.comp_def,
    Member.unconditioned]

theorem map_typeName_at_map_unconditioned (members : List Member)
    (place : Nat) :
    (members.map Member.unconditioned)[place]?.map Member.typeName =
      members[place]?.map Member.typeName := by
  rw [List.getElem?_map, Option.map_map]
  rfl

/-- A member is linked alike whatever is linked among the members around it. -/
theorem Member.linkDiscriminant_eq_of_map_unconditioned_eq
    (alike : others.map Member.unconditioned = members.map Member.unconditioned)
    (member : Member) :
    member.linkDiscriminant schema owner others =
      member.linkDiscriminant schema owner members := by
  have sameTypes (place : Nat) :
      others[place]?.map Member.typeName =
        members[place]?.map Member.typeName := by
    rw [← map_typeName_at_map_unconditioned, alike,
      map_typeName_at_map_unconditioned]
  rw [linkDiscriminant, linkDiscriminant]
  cases member.condition with
  | none => rfl
  | some condition =>
      have samePlace : findDiscriminant others condition.discriminant =
          findDiscriminant members condition.discriminant := by
        rw [← findDiscriminant_map_unconditioned, alike,
          findDiscriminant_map_unconditioned]
      simp only [samePlace, sameTypes]

/--
The members before a place are linked already, and they are alike with what
they were: from there on linking in place does what linking among the
original members does.
-/
theorem linkInPlace_append
    (linked rest : List Member)
    (alike :
      (linked ++ rest).map Member.unconditioned =
        members.map Member.unconditioned) :
    linkInPlace schema owner (List.range' linked.length rest.length)
        (linked ++ rest) =
      ⟨linked ++ (linkDiscriminantsFrom schema owner members rest).members,
        (linkDiscriminantsFrom schema owner members rest).fault⟩ := by
  induction rest generalizing linked with
  | nil => rfl
  | cons head rest ih =>
      have located : (linked ++ head :: rest)[linked.length]? = some head := by
        rw [List.getElem?_append_right (Nat.le_refl _), Nat.sub_self,
          List.getElem?_cons_zero]
      have sameStep :=
        @Member.linkDiscriminant_eq_of_map_unconditioned_eq schema owner _ _
          alike head
      rw [List.length_cons, List.range'_succ, linkInPlace,
        linkDiscriminantsFrom, located]
      simp only [sameStep]
      cases outcome : head.linkDiscriminant schema owner members with
      | error fault => rfl
      | ok linkedHead =>
          have written : (linked ++ head :: rest).set linked.length linkedHead =
              linked ++ [linkedHead] ++ rest := by
            rw [List.set_append_right _ _ (Nat.le_refl _), Nat.sub_self,
              List.set_cons_zero, List.append_cons]
          have stillAlike :
              (linked ++ [linkedHead] ++ rest).map Member.unconditioned =
              members.map Member.unconditioned := by
            have frame :=
              (Member.links_of_linkDiscriminant_eq_ok outcome).unconditioned_eq
            rw [← alike]
            simp [frame]
          have next := ih (linked ++ [linkedHead]) stillAlike
          rw [List.length_append, List.length_singleton] at next
          simp only [written, next]
          simp only [List.append_assoc, List.singleton_append]

theorem linkInPlace_eq_linkDiscriminants (members : List Member) :
    linkInPlace schema owner (List.range members.length) members =
      linkDiscriminants schema owner members := by
  rw [List.range_eq_range']
  exact linkInPlace_append [] members rfl

end InPlace

/-! ## What linking does -/

/--
Linking succeeds exactly if every member can be linked, and makes of each what
it should.  Where it fails, it stops at the first member that cannot be linked,
with the fault of that member: those before it are linked as ever, and it and
the others are left.  The look-up finds the first own member of a name, or else
the first of the name, and no link depends on others made before.
-/
theorem linkDiscriminants_in_order (schema : Schema) (owner : String)
    (members : List Member) :
    ((linkDiscriminants schema owner members).fault = none ↔
        ∀ member ∈ members, member.IsLinkable schema members) ∧
      ((linkDiscriminants schema owner members).fault = none →
        List.Forall₂ (Member.IsLinkOf schema members) members
          (linkDiscriminants schema owner members).members) ∧
      (∀ fault, (linkDiscriminants schema owner members).fault = some fault →
        ∃ front member after linked,
        StopsAt schema owner members members
          (linkDiscriminants schema owner members) fault front after linked
          member) ∧
      (∀ others, others.map Member.unconditioned =
        members.map Member.unconditioned →
        ∀ member : Member, member.linkDiscriminant schema owner others =
          member.linkDiscriminant schema owner members) ∧
      linkInPlace schema owner (List.range members.length) members =
        linkDiscriminants schema owner members := by
  refine ⟨fault_linkDiscriminants_eq_none_iff, ?_, ?_, ?_,
    linkInPlace_eq_linkDiscriminants members⟩
  · intro faultless
    rcases linkDiscriminantsFrom_spec members with ⟨_, _, links⟩ |
      ⟨fault, front, member, after, linked, stopped, _⟩
    · exact links
    · cases faultless.symm.trans stopped
  · intro fault failed
    rcases linkDiscriminantsFrom_spec members with ⟨faultless, _, _⟩ |
      ⟨other, front, member, after, linked, stopped, stops⟩
    · cases faultless.symm.trans failed
    · rcases Option.some.inj (stopped.symm.trans failed) with rfl
      exact ⟨front, member, after, linked, stops⟩
  · intro others alike member
    exact Member.linkDiscriminant_eq_of_map_unconditioned_eq alike member

/-- The members of a composite are linked, and one of them by itself is not. -/
theorem linkDiscriminants_in_order_numbered :
    ∃ kind payload stray linkedKind linkedPayload fault front member
      after linked,
      (linkDiscriminants .numbered "Choice" [kind, payload]).members =
          [linkedKind, linkedPayload] ∧
        payload.condition = some ⟨"kind", .equals, some "1"⟩ ∧
        payload.IsLinkOf .numbered [kind, payload] linkedPayload ∧
        StopsAt .numbered "Choice" [stray] [stray]
          (linkDiscriminants .numbered "Choice" [stray])
          fault front after linked member := by
  rcases exists_compose_numbered with
    ⟨composition, kind, payload, composed, members, typeName, conditioned,
      found, reached⟩
  rw [members] at found reached
  have step : payload.linkDiscriminant .numbered "Choice" [kind, payload] = _ :=
    Member.linkDiscriminant_eq_of_enumeration?_eq_some conditioned found rfl
      (typeName ▸ enumeration?_numbered)
  rw [Selector.ofText_eq_number_iff.mpr isNumeral_one] at step
  have linkable : ∀ member ∈ [kind, payload],
      member.IsLinkable .numbered [kind, payload] := by
    rw [List.forall_mem_cons, List.forall_mem_singleton]
    constructor
    · exact Member.isLinkable_iff.mpr (reached kind List.mem_cons_self)
    · exact Member.isLinkable_of_linkDiscriminant_eq_ok step
  have whole := linkDiscriminants_in_order .numbered "Choice" [kind, payload]
  have links := whole.2.1 (whole.1.mpr linkable)
  rcases List.forall₂_cons_left_iff.mp links with
    ⟨linkedKind, _, _, links, isLinkedKind⟩
  rcases List.forall₂_cons_left_iff.mp links with
    ⟨linkedPayload, _, link, noMore, rfl⟩
  rcases List.forall₂_nil_left_iff.mp noMore with rfl
  have alone :=
    linkDiscriminants_in_order .numbered "Choice"
      [{ payload with name := "stray" }]
  cases outcome : (linkDiscriminants .numbered "Choice"
      [{ payload with name := "stray" }]).fault with
  | none =>
      have strayLinkable := alone.1.mp outcome _ List.mem_cons_self
      rcases strayLinkable.occurs _ conditioned with ⟨other, among, named⟩
      rcases List.mem_singleton.mp among with rfl
      have apart : "stray" ≠ "kind" := by decide
      exact absurd named apart
  | some fault =>
      rcases alone.2.2.1 fault outcome with
        ⟨front, member, after, linked, stops⟩
      exact ⟨kind, payload, _, linkedKind, linkedPayload, fault, front, member,
        after, linked, isLinkedKind, conditioned, link, stops⟩

end WireLayout
