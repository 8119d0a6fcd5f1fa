import WireLayout.Proofs.Flattening
import WireLayout.Proofs.SizeLinks

/-!
# What a composite that is not generated leaves behind

A composite that is excluded from generation is dissolved wherever it is
inlined.  All that is lost are its slots: where a composite can be flattened
with and without the exclusion, its members are the same in the same order, but
for the slots of the excluded type.

Those that remain differ only in what they say of the way to them, which
leads through fewer slots, and their size links follow the fields to
their new places.
-/

namespace WireLayout

/-! ## Places among what is kept -/

section Places

variable {Value : Type} {keeps holds : Value → Bool} {values : List Value}
  {place : Nat} {value : Value}

/-- The place of a value among those of a list that are kept. -/
def placeAmong (keeps : Value → Bool) (values : List Value)
    (place : Nat) : Nat :=
  (values.take place).countP keeps

theorem placeAmong_cons_succ :
    placeAmong keeps (value :: values) (place + 1) =
      placeAmong keeps values place + if keeps value then 1 else 0 := by
  rw [placeAmong, List.take_succ_cons, List.countP_cons, placeAmong]

/-- What is kept is found at its place among what is kept. -/
theorem getElem?_filter_placeAmong
    (located : values[place]? = some value)
    (kept : keeps value = true) :
    (values.filter keeps)[placeAmong keeps values place]? = some value := by
  induction values generalizing place with
  | nil => simp at located
  | cons head rest ih =>
      cases place with
      | zero =>
          rw [List.getElem?_cons_zero, Option.some.injEq] at located
          subst located
          simp [placeAmong, kept]
      | succ place =>
          rw [List.getElem?_cons_succ] at located
          rw [placeAmong_cons_succ, List.filter_cons]
          split
          · exact ih located
          · exact ih located

/--
The first of a sort, if it is kept, is the first of that sort
among what is kept.
-/
theorem findIdx?_filter_eq_some
    (first : values.findIdx? holds = some place)
    (located : values[place]? = some value)
    (kept : keeps value = true) :
    (values.filter keeps).findIdx? holds =
      some (placeAmong keeps values place) := by
  induction values generalizing place with
  | nil => simp at located
  | cons head rest ih =>
      rw [List.findIdx?_cons] at first
      split at first
      · next found =>
          rcases Option.some.inj first with rfl
          rw [List.getElem?_cons_zero, Option.some.injEq] at located
          subst located
          simp [placeAmong, kept, List.findIdx?_cons, found]
      · next missed =>
          rcases Option.map_eq_some_iff.mp first with ⟨before, later, rfl⟩
          rw [List.getElem?_cons_succ] at located
          rw [placeAmong_cons_succ, List.filter_cons]
          split
          · rw [List.findIdx?_cons, if_neg missed, ih later located]
            rfl
          · exact ih later located

end Places

/-! ## Settings with one more excluded type -/

/-- The settings under which one more type is excluded. -/
def Settings.excluding (settings : Settings) (typeName : String) : Settings :=
  { settings with excludedTypes := settings.excludedTypes.insert typeName }

theorem Settings.generates_excluding (settings : Settings)
    (typeName name : String) :
    (settings.excluding typeName).generates name =
      (settings.generates name && !(name == typeName)) := by
  have contains : (settings.excludedTypes.insert typeName).contains name =
      (name == typeName || settings.excludedTypes.contains name) := by
    rw [Bool.eq_iff_iff]
    simp
  rw [generates, generates, excluding, contains, Bool.not_or, Bool.and_comm]

/-- Attributes have the kinds they had, but for those whose slots are lost. -/
theorem Attribute.kind?_excluding
    {attr : Attribute} {settings : Settings} {typeName : String}
    {siblings : List Attribute}
    (kept : (attr.isInlined && attr.typeName == typeName) = false) :
    attr.kind? (settings.excluding typeName) siblings =
      attr.kind? settings siblings := by
  have generates :
      (attr.isInlined &&
        (settings.excluding typeName).generates attr.typeName) =
        (attr.isInlined && settings.generates attr.typeName) := by
    rw [Settings.generates_excluding]
    revert kept
    cases attr.isInlined <;> cases attr.typeName == typeName <;> simp
  simp only [kind?, generates]
  rfl

/-! ## Members without the way to them -/

/-- A member is the slot of an inlined composite of a type. -/
def Member.isSlotOf (typeName : String) (member : Member) : Bool :=
  member.isAggregate && member.typeName == typeName

/--
A member without its size links and without what depends on the slots on the
way to it or before it: by which of them it is grouped, whether it is or is
inherited from the super-class, and whether it is read before its discriminant.
-/
def Member.ungrouped (member : Member) : Member :=
  { member with
    readBefore := false
    aggregateName := none
    aggregateClass := none
    isSuper := false
    isInherited := false
    isInline := false
    sizeField := none
    sizedMember := none }

/--
Two members that show the same attribute with the same kind, type and size
on the same visit.
-/
theorem Member.agrees_of_ungrouped_eq
    {member other : Member}
    (same : other.ungrouped = member.ungrouped) : member.Agrees 0 other := by
  have visit := congrArg Member.visit same
  have name := congrArg Member.name same
  have size := congrArg Member.size same
  exact ⟨visit, name, size⟩

section Occurrences

variable {schema : Schema} {settings : Settings} {language : Language}
  {root typeName : String} {layout : List Attribute} {occurrence : Occurrence}
  {member other : Member}

theorem Occurrence.ungrouped_member_excluding
    (earlier otherEarlier : List String) (kind : Kind) (size : Size) :
    (occurrence.member
      (.of schema (settings.excluding typeName) language root layout)
      otherEarlier kind size).ungrouped =
      (occurrence.member (.of schema settings language root layout) earlier kind
        size).ungrouped :=
  rfl

theorem Occurrence.Yields.isSlotOf_eq
    {context : WalkContext}
    (yields : occurrence.Yields context member) :
    member.isSlotOf typeName =
      occurrence.isRemoved fun name => name == typeName := by
  rcases yields with ⟨_, _, _, _, _, same⟩
  have isAggregate : member.isAggregate = occurrence.step.attr.isInlined := by
    simpa only [Member.unlinked, Occurrence.member]
      using congrArg Member.isAggregate same
  have named : member.typeName = occurrence.step.attr.typeName := by
    simpa only [Member.unlinked, Occurrence.member]
      using congrArg Member.typeName same
  rw [Member.isSlotOf, isRemoved, isAggregate, named]

/--
What an occurrence yields that is not lost is the same with the exclusion.
-/
theorem Occurrence.Yields.ungrouped_eq
    (yields :
      occurrence.Yields (.of schema settings language root layout) member)
    (otherYields :
      occurrence.Yields
        (.of schema (settings.excluding typeName) language root layout) other)
    (kept : occurrence.isRemoved (fun name => name == typeName) = false) :
    other.ungrouped = member.ungrouped := by
  rcases yields with ⟨earlier, kind, size, classified, sized, same⟩
  rcases otherYields with
    ⟨otherEarlier, otherKind, otherSize, otherClassified, otherSized, otherSame⟩
  have sameKind : kind = otherKind := by
    have kinds := otherClassified
    rw [show WalkContext.settings
      (.of schema (settings.excluding typeName) language root layout) =
      settings.excluding typeName from rfl,
        Attribute.kind?_excluding kept] at kinds
    exact Option.some.inj (classified.symm.trans kinds)
  have sameSize : size = otherSize :=
    Except.ok.inj (sized.symm.trans otherSized)
  subst sameKind sameSize
  calc
    other.ungrouped = other.unlinked.ungrouped := rfl
    _ = member.unlinked.ungrouped := by
      rw [same, otherSame, ungrouped_member_excluding earlier]
    _ = member.ungrouped := rfl

end Occurrences

/-! ## Size links among the members that remain -/

section Links

variable {keeps : Member → Bool} {members : List Member}
  {member holder : Member} {link : Nat}

theorem Member.sizePlace_filter_eq_none
    (unsized : member.sizePlace members = none) :
    member.sizePlace (members.filter keeps) = none := by
  rw [sizePlace] at unsized ⊢
  cases sized : member.size with
  | literal count => rfl
  | field reference =>
      rw [sized, List.findIdx?_eq_none_iff] at unsized
      exact List.findIdx?_eq_none_iff.mpr fun other among =>
        unsized other (List.mem_filter.mp among).1

/--
The field of a size is the first of its name on its visit, and stays
so if it is kept.
-/
theorem Member.sizePlace_filter_eq_some
    (sized : member.sizePlace members = some link)
    (located : members[link]? = some holder)
    (kept : keeps holder = true) :
    member.sizePlace (members.filter keeps) =
      some (placeAmong keeps members link) := by
  rw [sizePlace] at sized ⊢
  split at sized
  · cases sized
  · exact findIdx?_filter_eq_some sized located kept

end Links

/-- The place of a member when the slots of a type are lost. -/
def placeWithout (typeName : String) (members : List Member)
    (place : Nat) : Nat :=
  placeAmong (fun member => !member.isSlotOf typeName) members place

/--
What a member becomes when the slots of a type are lost.  The field of its size
is the same one, at its new place, unless it was lost.
-/
structure Member.Remains (typeName : String) (members : List Member)
    (member kept : Member) : Prop where
  shows : kept.ungrouped = member.ungrouped
  unsized : member.sizeField = none → kept.sizeField = none
  sized : ∀ link, member.sizeField = some link →
    ∃ holder, members[link]? = some holder ∧
      (holder.isSlotOf typeName = false →
        kept.sizeField = some (placeWithout typeName members link))

/-! ## Compositions with and without an exclusion -/

section Compositions

variable {schema : Schema} {settings : Settings} {language : Language}
  {root typeName : String} {composition other : Composition}

/--
The walk with an exclusion meets the same occurrences, but for the
slots that are lost.
-/
theorem Walks.occurrences_excluding
    {frame : Frame} {lastVisit last otherLast : Nat} {steps : List Step}
    {occurrences others : List Occurrence}
    (walk : Walks schema settings frame lastVisit steps occurrences last)
    (otherWalk :
      Walks schema (settings.excluding typeName) frame lastVisit steps others
        otherLast) :
    others =
      occurrences.filter fun occurrence => !occurrence.isRemoved fun name =>
        name == typeName := by
  have traversed := otherWalk.traverse_eq
  rw [traverse_eq_removing (settings.generates_excluding typeName),
    walk.traverse_eq] at traversed
  exact (congrArg Traversal.occurrences traversed).symm

/-- The members that are not lost show the same with the exclusion. -/
theorem forall₂_ungrouped_of_compose_eq_ok
    (composed : compose schema settings language root = .ok composition)
    (otherComposed :
      compose schema (settings.excluding typeName) language root = .ok other) :
    List.Forall₂ (fun member kept => kept.ungrouped = member.ungrouped)
      (composition.members.filter fun member => !member.isSlotOf typeName)
      other.members := by
  rcases compose_eq_ok composed with
    ⟨layout, occurrences, _, _, found, walk, yielded, links⟩
  rcases compose_eq_ok otherComposed with
    ⟨_, others, _, _, otherFound, otherWalk, otherYielded, otherLinks⟩
  rcases Option.some.inj (found.symm.trans otherFound) with rfl
  rcases walk.occurrences_excluding otherWalk with rfl
  have yields :
      List.Forall₂
        (Occurrence.Yields (.of schema settings language root layout))
        (occurrences.filter fun occurrence => !occurrence.isRemoved fun name =>
          name == typeName)
        (composition.members.filter fun member =>
          !member.isSlotOf typeName) := by
    refine List.rel_filter ?_ (forall₂_yields yielded links)
    intro occurrence member pair
    simp only [pair.isSlotOf_eq]
  have among := (List.forall₂_and_left _ _).mpr ⟨fun _ inWalk => inWalk, yields⟩
  have sides :=
    forall₂_of_forall₂_of_forall₂ among (forall₂_yields otherYielded otherLinks)
  refine sides.imp ?_
  rintro member kept ⟨occurrence, ⟨inWalk, pair⟩, otherPair⟩
  exact pair.ungrouped_eq otherPair
    (by simpa using (List.mem_filter.mp inWalk).2)

/-- Of the members those remain that are not lost, with their size links. -/
theorem forall₂_remains_of_compose_eq_ok
    (composed : compose schema settings language root = .ok composition)
    (otherComposed :
      compose schema (settings.excluding typeName) language root = .ok other) :
    List.Forall₂ (Member.Remains typeName composition.members)
      (composition.members.filter fun member => !member.isSlotOf typeName)
      other.members := by
  have sized := areSized_of_compose_eq_ok composed
  have otherSized := areSized_of_compose_eq_ok otherComposed
  have shown := forall₂_ungrouped_of_compose_eq_ok composed otherComposed
  have agree := shown.imp fun _ _ same => Member.agrees_of_ungrouped_eq same
  have among := (List.forall₂_and_left _ _).mpr ⟨fun _ inKept => inKept, shown⟩
  have bothAmong :=
    (List.forall₂_and_left _ _).mpr ⟨fun _ inOther => inOther, among.flip⟩
  refine bothAmong.flip.imp ?_
  rintro member kept ⟨inOther, inKept, same⟩
  have inMembers := (List.mem_filter.mp inKept).1
  have link_eq : member.sizeField = member.sizePlace composition.members :=
    sized.sizeField member inMembers
  have keptLink_eq : kept.sizeField = member.sizePlace
      (composition.members.filter fun member => !member.isSlotOf typeName) := by
    rw [otherSized.sizeField kept inOther,
      (Member.agrees_of_ungrouped_eq same).sizePlace_eq agree]
  refine ⟨same, ?_, ?_⟩
  · intro unsized
    rw [keptLink_eq]
    exact Member.sizePlace_filter_eq_none (link_eq.symm.trans unsized)
  · intro link linked
    rcases sized.exists_of_sizeField_eq_some inMembers linked with
      ⟨holder, located, _⟩
    refine ⟨holder, located, fun notLost => ?_⟩
    rw [keptLink_eq]
    exact Member.sizePlace_filter_eq_some (link_eq.symm.trans linked) located
      (by simp [notLost])

/--
Where a composite can be flattened with and without an exclusion, its members
with it are those without it, in the same order, but for the slots of the
excluded type.  They show the same, and are linked with the same fields of
their sizes, unless these were slots of the excluded type.
-/
theorem compose_excluding
    (composed : compose schema settings language root = .ok composition)
    (otherComposed :
      compose schema (settings.excluding typeName) language root = .ok other) :
    List.Forall₂ (Member.Remains typeName composition.members)
        (composition.members.filter fun member => !member.isSlotOf typeName)
        other.members ∧
      ∀ place member, composition.members[place]? = some member →
        member.isSlotOf typeName = false →
          ∃ kept,
            other.members[placeWithout typeName composition.members place]? =
              some kept ∧
            member.Remains typeName composition.members kept := by
  have remains := forall₂_remains_of_compose_eq_ok composed otherComposed
  refine ⟨remains, ?_⟩
  intro place member located notLost
  exact exists_getElem?_of_forall₂ remains
    (getElem?_filter_placeAmong located (by simp [notLost]))

end Compositions

/--
A composite with a counted field, behind a composite without fields
that it inlines.
-/
def Schema.counted : Schema where
  entries := [
    ("Mark", .composite { layout := [] }),
    ("Block", .composite { layout := [
      .inlining "Mark",
      { Attribute.named "count" "byte" with size := some (.literal 1) },
      { Attribute.named "items" "byte" with size := some (.field "count") }] })]
  distinct := by decide

/--
The slot is lost, and the counted field is linked with its count
one place earlier.
-/
theorem compose_excluding_counted :
    ∃ composition other,
      compose .counted (.dissolving "Body") .java "Block" = .ok composition ∧
      compose .counted ((Settings.dissolving "Body").excluding "Mark") .java
        "Block" = .ok other ∧
      List.Forall₂ (Member.Remains "Mark" composition.members)
        (composition.members.filter fun member => !member.isSlotOf "Mark")
        other.members ∧
      (∀ place member, composition.members[place]? = some member →
        member.isSlotOf "Mark" = false →
          ∃ kept,
            other.members[placeWithout "Mark" composition.members place]? =
              some kept ∧
            member.Remains "Mark" composition.members kept) ∧
      composition.members.map (fun member => (member.name, member.sizeField)) =
        [("mark", none), ("count", none), ("items", some 1)] ∧
      other.members.map (fun member => (member.name, member.sizeField)) =
        [("count", none), ("items", some 0)] := by
  have computed :
      (compose .counted (.dissolving "Body") .java "Block").map
        (fun composition =>
      composition.members.map fun member => (member.name, member.sizeField)) =
      .ok [("mark", none), ("count", none), ("items", some 1)] := by cbv
  have otherComputed :
      (compose .counted ((Settings.dissolving "Body").excluding "Mark") .java
        "Block").map
        (fun composition => composition.members.map fun member =>
          (member.name, member.sizeField)) =
      .ok [("count", none), ("items", some 0)] := by cbv
  rcases Outcome.map_eq_ok_iff.mp computed with ⟨composition, composed, members⟩
  rcases Outcome.map_eq_ok_iff.mp otherComputed with
    ⟨other, otherComposed, otherMembers⟩
  have remains := compose_excluding composed otherComposed
  exact ⟨composition, other, composed, otherComposed, remains.1, remains.2,
    members, otherMembers⟩

end WireLayout
