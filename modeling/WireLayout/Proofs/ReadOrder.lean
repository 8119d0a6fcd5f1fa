import WireLayout.Proofs.Variants

/-!
# Reading order

A member under a condition is flagged if it is read before its discriminant.
The flag is set on the walk, from the names of the members met so far: it says
that none of them has the name of the discriminant.  Which member the
discriminant is turns out later, when members are linked.

The two agree where the discriminant is the first member of its name.  But a
member that the composite itself declares is preferred to those of the same
name that are spliced in.  Where one of the latter comes first, a member
between the two is not flagged, and yet is read before its discriminant.
-/

namespace WireLayout

/-! ## What the flag says -/

/-- The name of the discriminant of a member's condition. -/
def Member.discriminantName (member : Member) : Option String :=
  member.condition.map MemberCondition.discriminant

/--
Whether a member is under a condition whose discriminant is not
among some names.
-/
def Member.misses (member : Member) (names : List String) : Bool :=
  member.discriminantName.any fun name => !names.contains name

/--
A member under a condition misses its discriminant unless that is
among the names.
-/
theorem Member.misses_eq_false_iff
    {member : Member} {condition : MemberCondition} {names : List String}
    (conditioned : member.condition = some condition) :
    member.misses names = false ↔ condition.discriminant ∈ names := by
  simp [misses, discriminantName, conditioned]

/--
Each member is flagged exactly if it misses its discriminant among
those before it.
-/
def AreFlagged (members : List Member) : Prop :=
  ∀ (place : Nat) (member : Member), members[place]? = some member →
    member.readBefore = member.misses ((members.take place).map Member.name)

/--
Two members agree in their names, the names of their discriminants,
and their flags.
-/
structure Member.FlaggedAlike (member other : Member) : Prop where
  name : other.name = member.name
  discriminantName : other.discriminantName = member.discriminantName
  readBefore : other.readBefore = member.readBefore

/-- Flags stay right when nothing changes that they depend on. -/
theorem AreFlagged.of_forall₂
    {members others : List Member}
    (flagged : AreFlagged members)
    (sides : List.Forall₂ Member.FlaggedAlike members others) :
    AreFlagged others := by
  have names : others.map Member.name = members.map Member.name := by
    rw [← List.forall₂_eq_eq_eq, List.forall₂_map_left_iff,
      List.forall₂_map_right_iff]
    exact sides.flip.imp fun _ _ alike => alike.name
  intro place other located
  rcases exists_getElem?_of_forall₂ sides.flip located with
    ⟨member, memberLocated, alike⟩
  rw [alike.readBefore, flagged place member memberLocated, Member.misses,
    Member.misses, alike.discriminantName, List.map_take, List.map_take, names]

/-! ## Flags on the walk -/

/-- An occurrence is resolved after the names of those before it. -/
theorem exists_resolve_of_resolveOccurrences_eq_ok
    {context : WalkContext} {earlier : List String}
    {occurrences : List Occurrence} {resolved : List TypedMember} {place : Nat}
    {typed : TypedMember}
    (yielded : resolveOccurrences context earlier occurrences = .ok resolved)
    (located : resolved[place]? = some typed) :
    ∃ occurrence : Occurrence, occurrence.resolve context
      (earlier ++ (resolved.take place).map fun other => other.member.name) =
        .ok typed := by
  induction occurrences generalizing earlier resolved place with
  | nil =>
      rcases Except.ok.inj yielded with rfl
      cases located
  | cons occurrence rest ih =>
      rcases Outcome.bind_eq_ok_iff.mp yielded with ⟨first, resolves, remaining⟩
      rcases Outcome.bind_eq_ok_iff.mp remaining with ⟨others, later, result⟩
      rcases Except.ok.inj result with rfl
      cases place with
      | zero =>
          rcases Option.some.inj located with rfl
          exact ⟨occurrence, by simpa using resolves⟩
      | succ place =>
          rcases ih later located with ⟨other, otherResolves⟩
          have name : first.member.name = occurrence.step.attr.displayName := by
            rcases Occurrence.resolve_eq_ok_iff.mp resolves with
              ⟨_, _, _, _, _, rfl⟩
            rfl
          exact ⟨other, by simpa [name] using otherResolves⟩

/-- An occurrence is flagged by the names before it. -/
theorem Occurrence.readBefore_of_resolve_eq_ok
    {context : WalkContext} {earlier : List String} {occurrence : Occurrence}
    {typed : TypedMember}
    (resolves : occurrence.resolve context earlier = .ok typed) :
    typed.member.readBefore = typed.member.misses earlier := by
  rcases resolve_eq_ok_iff.mp resolves with ⟨kind, size, _, _, _, rfl⟩
  simp only [Member.misses, Member.discriminantName, Occurrence.member,
    Attribute.memberCondition, Option.map_map, Option.any_map]
  rfl

theorem areFlagged_of_resolveOccurrences_eq_ok
    {context : WalkContext} {occurrences : List Occurrence}
    {resolved : List TypedMember}
    (yielded : resolveOccurrences context [] occurrences = .ok resolved) :
    AreFlagged (resolved.map TypedMember.member) := by
  intro place member located
  rw [List.getElem?_map, Option.map_eq_some_iff] at located
  rcases located with ⟨typed, typedLocated, rfl⟩
  rcases exists_resolve_of_resolveOccurrences_eq_ok yielded typedLocated with
    ⟨occurrence, resolves⟩
  rw [Occurrence.readBefore_of_resolve_eq_ok resolves, List.nil_append,
    ← List.map_take, List.map_map]
  rfl

/--
The members of a composition are flagged by the names of those before them.
-/
theorem areFlagged_of_compose_eq_ok
    {schema : Schema} {settings : Settings} {language : Language}
    {root : String} {composition : Composition}
    (composed : compose schema settings language root = .ok composition) :
    AreFlagged composition.members := by
  rcases compose_eq_ok composed with ⟨_, _, _, _, _, _, yielded, links⟩
  have same := map_unlinked_of_linkSizes_eq_ok links
  rw [← List.forall₂_eq_eq_eq, List.forall₂_map_left_iff,
    List.forall₂_map_right_iff] at same
  refine (areFlagged_of_resolveOccurrences_eq_ok yielded).of_forall₂
    (same.flip.imp ?_)
  intro member linked unlinked
  have name := congrArg Member.name unlinked
  have discriminantName := congrArg Member.discriminantName unlinked
  have readBefore := congrArg Member.readBefore unlinked
  exact ⟨name, discriminantName, readBefore⟩

/-! ## Flags and links -/

theorem Member.Links.flaggedAlike
    {schema : Schema} {members : List Member} {member linked : Member}
    (links : member.Links schema members linked) :
    member.FlaggedAlike linked := by
  cases links with
  | unconditional free => exact ⟨rfl, rfl, rfl⟩
  | conditional conditioned found located requires =>
      exact ⟨rfl, by rw [discriminantName, discriminantName, conditioned]; rfl,
        rfl⟩

/-- A member that is linked has the place at which its discriminant is found. -/
theorem Member.Links.discriminant_eq
    {schema : Schema} {members : List Member} {member linked : Member}
    {condition : MemberCondition}
    (links : member.Links schema members linked)
    (conditioned : linked.condition = some condition) :
    linked.discriminant = findDiscriminant members condition.discriminant := by
  cases links with
  | unconditional free => cases free.symm.trans conditioned
  | conditional _ found located requires =>
      rcases Option.some.inj conditioned with rfl
      exact found.symm

/--
Before a discriminant its name is only that of members spliced in, if of any.
-/
theorem visits_of_findDiscriminant_eq_some
    {members : List Member} {name : String} {place earlier : Nat}
    {holder other : Member}
    (found : findDiscriminant members name = some place)
    (located : members[place]? = some holder)
    (before : earlier < place)
    (otherLocated : members[earlier]? = some other)
    (named : other.name = name) :
    holder.visit = 0 ∧ other.visit ≠ 0 := by
  cases isDiscriminantAt_iff.mpr ⟨found, located⟩ with
  | own first =>
      constructor
      · exact first.holds.1
      · intro own
        exact first.first earlier other before otherLocated ⟨own, named⟩
  | spliced noOwn first =>
      exact absurd named (first.first earlier other before otherLocated)

namespace ClassModel

variable {schema : Schema} {settings : Settings} {language : Language}
  {root : String} {model : ClassModel}

theorem areFlagged_of_build_eq_ok
    (built : ClassModel.build schema settings language root = .ok model) :
    AreFlagged model.members := by
  rcases exists_of_build_eq_ok built with ⟨composition, composed, links, _⟩
  have links := forall₂_links_of_linkDiscriminants_eq_ok links
  exact (areFlagged_of_compose_eq_ok composed).of_forall₂
    (links.imp fun _ _ link => link.flaggedAlike)

/--
Every member under a condition is linked with what is found under the
discriminant's name.
-/
theorem discriminant_eq_of_build_eq_ok
    {member : Member} {condition : MemberCondition}
    (built : ClassModel.build schema settings language root = .ok model)
    (among : member ∈ model.members)
    (conditioned : member.condition = some condition) :
    ∃ target holder, member.discriminant = some target ∧
      findDiscriminant model.members condition.discriminant = some target ∧
      model.members[target]? = some holder ∧
      holder.name = condition.discriminant := by
  rcases exists_of_build_eq_ok built with ⟨composition, composed, links, _⟩
  have links := forall₂_links_of_linkDiscriminants_eq_ok links
  rcases exists_left_of_forall₂ links among with ⟨original, _, link⟩
  have linked := link.discriminant_eq conditioned
  rw [← findDiscriminant_eq_of_forall₂_links links] at linked
  cases link with
  | unconditional free => cases free.symm.trans conditioned
  | @conditional _ target _ _ _ _ _ _ =>
      have found :
          findDiscriminant model.members condition.discriminant = some target :=
        linked.symm
      rcases exists_of_findDiscriminant_eq_some found with
        ⟨holder, located, among⟩
      exact ⟨target, holder, rfl, found, located,
        Member.name_of_discriminantAmong_eq_some among⟩

/--
A member under a condition is left without a flag exactly if its discriminant
comes before it, or the composite declares the discriminant itself and a member
spliced in before has the same name.
-/
theorem readBefore_eq_false_iff
    {place : Nat} {member : Member} {condition : MemberCondition}
    (built : ClassModel.build schema settings language root = .ok model)
    (located : model.members[place]? = some member)
    (conditioned : member.condition = some condition) :
    ∃ target holder,
      member.discriminant = some target ∧ model.members[target]? = some holder ∧
      (member.readBefore = false ↔
        target < place ∨
          (holder.visit = 0 ∧ ∃ earlier other, earlier < place ∧
            model.members[earlier]? = some other ∧ other.name = holder.name ∧
            other.visit ≠ 0)) := by
  rcases discriminant_eq_of_build_eq_ok built (List.mem_of_getElem? located)
      conditioned with
    ⟨target, holder, linked, found, holderLocated, named⟩
  refine ⟨target, holder, linked, holderLocated, ?_⟩
  rw [areFlagged_of_build_eq_ok built place member located,
    Member.misses_eq_false_iff conditioned, named]
  constructor
  · intro earlierNamed
    rcases List.mem_map.mp earlierNamed with ⟨other, taken, otherNamed⟩
    rcases List.mem_take_iff_getElem.mp taken with ⟨earlier, bound, rfl⟩
    have otherLocated : model.members[earlier]? = some model.members[earlier] :=
      List.getElem?_eq_getElem (by omega)
    by_cases before : target < place
    · exact Or.inl before
    · have visits := visits_of_findDiscriminant_eq_some found holderLocated
        (by omega : earlier < target) otherLocated otherNamed
      exact Or.inr
        ⟨visits.1, earlier, _, by omega, otherLocated, otherNamed, visits.2⟩
  · have earlier_named (earlier : Nat) (other : Member)
        (before : earlier < place)
        (otherLocated : model.members[earlier]? = some other)
        (otherNamed : other.name = condition.discriminant) :
        condition.discriminant ∈
          (model.members.take place).map Member.name := by
      rw [← otherNamed]
      refine List.mem_map_of_mem (List.mem_of_getElem? (i := earlier) ?_)
      rw [List.getElem?_take_of_lt before, otherLocated]
    rintro (before | ⟨_, earlier, other, before, otherLocated, otherNamed, _⟩)
    · exact earlier_named target holder before holderLocated named
    · exact earlier_named earlier other before otherLocated otherNamed

end ClassModel

/--
A layout with a discriminant at its end, and another one of the same name
spliced in before.
-/
def Schema.shadowedLayout : List Attribute :=
  [.inlining "Header",
    { (Attribute.named "payload" "byte").withCondition "kind" (.name "A") with
      disposition := some .filling },
    .named "kind" "Kind"]

/--
A composite with this layout, the one that it inlines, and the enumeration.
-/
def Schema.shadowed : Schema where
  entries := [
    ("Kind",
      .enumeration { size := 1, values := [{ name := "A", number := 0 }] }),
    ("Header", .composite { layout := [.named "kind" "Kind"] }),
    ("Late", .composite { layout := shadowedLayout })]
  distinct := by decide

theorem exists_build_shadowed :
    ∃ model member,
      ClassModel.build .shadowed .standard .java "Late" = .ok model ∧
      model.members[2]? = some member ∧
      member.condition = some ⟨"kind", .equals, some "A"⟩ ∧
      member.discriminant = some 3 ∧ member.readBefore = false := by
  have computed :
      (ClassModel.build .shadowed .standard .java "Late").map (fun model =>
      (model.members[2]?).map fun member =>
        (member.condition, member.discriminant, member.readBefore)) =
      .ok (some (some ⟨"kind", .equals, some "A"⟩, some 3, false)) := by cbv
  rcases Outcome.map_eq_ok_iff.mp computed with ⟨model, built, fields⟩
  rcases Option.map_eq_some_iff.mp fields with ⟨member, located, fields⟩
  simp only [Prod.mk.injEq] at fields
  exact ⟨model, member, built, located, fields⟩

theorem readBefore_eq_false_shadowed :
    ∃ model member target holder,
      ClassModel.build .shadowed .standard .java "Late" = .ok model ∧
        model.members[2]? = some member ∧
        member.condition = some ⟨"kind", .equals, some "A"⟩ ∧
        member.discriminant = some target ∧
        model.members[target]? = some holder ∧
        (member.readBefore = false ↔
          target < 2 ∨
            (holder.visit = 0 ∧ ∃ earlier other, earlier < 2 ∧
              model.members[earlier]? = some other ∧ other.name = holder.name ∧
              other.visit ≠ 0)) := by
  rcases exists_build_shadowed with
    ⟨model, member, built, located, conditioned, _⟩
  rcases ClassModel.readBefore_eq_false_iff built located conditioned with
    ⟨target, holder, linked, holderLocated, agrees⟩
  exact ⟨model, member, target, holder, built, located, conditioned, linked,
    holderLocated, agrees⟩

/-- A member whose discriminant comes after it may be left without a flag. -/
theorem readBefore_shadowed_not_iff :
    ∃ model member target,
      ClassModel.build .shadowed .standard .java "Late" = .ok model ∧
      model.members[2]? = some member ∧
      member.condition = some ⟨"kind", .equals, some "A"⟩ ∧
      member.discriminant = some target ∧
      ¬ (member.readBefore = false ↔ target < 2) := by
  rcases exists_build_shadowed with
    ⟨model, member, built, located, conditioned, linked, unflagged⟩
  exact ⟨model, member, 3, built, located, conditioned,
    linked, by simp [unflagged]⟩

end WireLayout
