import WireLayout.Proofs.Flattening
import WireLayout.Proofs.Linking
import WireLayout.Proofs.SizeLinks

/-!
# Splicing

What an inlined attribute contributes to a composite does not depend on the
composite.  The walk below it is the walk of its own composite, begun later and
further down; so the composition of the inlining composite has, in place of
the attribute, a copy of the composition of the inlined one.

The copy is complete: of its members only the links and what tells where they
stand are different, and links to size fields lead within the copy to where
they lead within the original.  So do links to discriminants, unless the name
of a discriminant stands for several members of the larger composition.
-/

namespace WireLayout

/-! ## Walks further down -/

/--
The occurrence that one of a walk is after some visits and below some
inlined attributes.
-/
def Occurrence.below (via : List Step) (visits : Nat)
    (occurrence : Occurrence) : Occurrence :=
  { occurrence with
    visit := occurrence.visit + visits, via := via ++ occurrence.via }

/--
The visit that one of a walk is after some visits and below some
inlined attributes.
-/
def Frame.below (path : List String) (via : List Step) (visits : Nat)
    (frame : Frame) : Frame :=
  { frame with
    visit := frame.visit + visits
    path := path ++ frame.path
    via := via ++ frame.via }

section Below

variable {schema : Schema} {settings : Settings} {path : List String}
  {via : List Step} {visits : Nat}

theorem Frame.descend_below (frame : Frame) (step : Step)
    (layout : List Attribute) (visit : Nat) :
    (frame.below path via visits).descend step layout (visit + visits) =
      (frame.descend step layout visit).below path via visits := by
  simp only [descend, below, List.append_assoc]

theorem Frame.slot_below (frame : Frame) (step : Step) :
    (frame.below path via visits).slot settings step =
      (frame.slot settings step).map (Occurrence.below via visits) := by
  rw [slot, slot]
  split <;> rfl

/--
The visit of an inlined composite is that of a root, begun later
and further down.
-/
theorem Frame.descend_eq_below_root (frame : Frame) (step : Step)
    (layout : List Attribute) (visit : Nat) :
    frame.descend step layout visit =
      (Frame.root step.attr.typeName layout).below frame.path
        (frame.via ++ [step]) visit := by
  simp only [descend, root, below, Nat.zero_add, List.append_nil]

/-- A walk further down is a walk that could be made alone. -/
theorem Walks.exists_alone
    {frame : Frame} {lastVisit last : Nat} {steps : List Step}
    {occurrences : List Occurrence}
    (walk :
      Walks schema settings (frame.below path via visits) (lastVisit + visits)
        steps occurrences last) :
    ∃ own ownLast, Walks schema settings frame lastVisit steps own ownLast ∧
      occurrences = own.map (Occurrence.below via visits) ∧
      last = ownLast + visits := by
  generalize lower : frame.below path via visits = moved at walk
  generalize begun : lastVisit + visits = movedVisit at walk
  induction walk generalizing frame lastVisit with
  | done =>
      subst begun
      exact ⟨[], lastVisit, .done, rfl, rfl⟩
  | constant constant later ih =>
      rcases ih lower begun with ⟨own, ownLast, ownWalk, same, sameLast⟩
      exact ⟨own, ownLast, .constant constant ownWalk, same, sameLast⟩
  | @inlined moved movedVisit step steps layout block middle occurrences last
      inlined found fresh inner later innerIH laterIH =>
      subst lower begun
      have innerFrame :
          (frame.descend step layout (lastVisit + 1)).below path via visits =
            (frame.below path via visits).descend step layout
              (lastVisit + visits + 1) := by
        rw [← Frame.descend_below, Nat.add_right_comm]
      rcases innerIH innerFrame (Nat.add_right_comm ..) with
        ⟨ownBlock, ownMiddle, ownInner, rfl, rfl⟩
      rcases laterIH rfl rfl with ⟨ownLater, ownLast, ownLaterWalk, rfl, rfl⟩
      have ownFresh : step.attr.typeName ∉ frame.path :=
        fun onPath => fresh (List.mem_append_right path onPath)
      refine ⟨_, ownLast, .inlined inlined found ownFresh ownInner ownLaterWalk,
        ?_, rfl⟩
      rw [Frame.slot_below, List.map_append, List.map_append]
  | plain notConstant notInlined later ih =>
      subst lower
      rcases ih rfl begun with ⟨own, ownLast, ownWalk, rfl, sameLast⟩
      exact ⟨_, ownLast, .plain notConstant notInlined ownWalk, rfl, sameLast⟩

end Below

/-! ## Walks that splice -/

/--
Where a walk meets an inlined step: a walk of the composite alone, moved below
the step, whose visits are those from the first to the last one given.  All
else is of other visits and was not reached through the step.
-/
structure IsSplice (schema : Schema) (settings : Settings) (frame : Frame)
    (step : Step) (layout : List Attribute) (first last : Nat)
    (before own after : List Occurrence) : Prop where
  found : schema.layout? step.attr.typeName = some layout
  alone : ∃ ownLast,
    Walks schema settings (.root step.attr.typeName layout) 0 (stepsOf layout)
      own ownLast ∧ last = ownLast + first
  otherVisits : ∀ occurrence ∈ before ++ frame.slot settings step ++ after,
    occurrence.visit < first ∨ last < occurrence.visit
  elsewhere : ∀ occurrence ∈ before ++ frame.slot settings step ++ after,
    ¬ frame.via ++ [step] <+: occurrence.via

/--
The occurrences of a splice: the slot of the step, and the moved
walk right after it.
-/
def Frame.splice (frame : Frame) (settings : Settings) (step : Step)
    (first : Nat) (own : List Occurrence) : List Occurrence :=
  frame.slot settings step ++
    own.map (Occurrence.below (frame.via ++ [step]) first)

section Splice

variable {schema : Schema} {settings : Settings} {frame : Frame}
  {lastVisit last : Nat} {step : Step} {steps : List Step}
  {occurrences : List Occurrence}

theorem Frame.mem_slot_apart
    {occurrence : Occurrence}
    (inSlot : occurrence ∈ frame.slot settings step) (other : Step) :
    occurrence.visit = frame.visit ∧
      ¬ frame.via ++ [other] <+: occurrence.via := by
  rcases Frame.mem_slot.mp inSlot with ⟨_, rfl⟩
  refine ⟨rfl, ?_⟩
  intro longer
  simpa [Frame.occurrence] using longer.length_le

/--
What comes before a splice may be more, if it is of earlier visits and
not below the step.
-/
theorem IsSplice.prepend
    {layout : List Attribute} {first spliceLast : Nat}
    {before own after front : List Occurrence}
    (isSplice :
      IsSplice schema settings frame step layout first spliceLast before
        own after)
    (earlier : ∀ occurrence ∈ front, occurrence.visit < first)
    (elsewhere :
      ∀ occurrence ∈ front, ¬ frame.via ++ [step] <+: occurrence.via) :
    IsSplice schema settings frame step layout first spliceLast
      (front ++ before) own after := by
  refine ⟨isSplice.found, isSplice.alone, ?_, ?_⟩
  · simp only [List.append_assoc]
    intro occurrence among
    rcases List.mem_append.mp among with inFront | among
    · exact Or.inl (earlier occurrence inFront)
    · exact isSplice.otherVisits occurrence (by simpa using among)
  · simp only [List.append_assoc]
    intro occurrence among
    rcases List.mem_append.mp among with inFront | among
    · exact elsewhere occurrence inFront
    · exact isSplice.elsewhere occurrence (by simpa using among)

/-- A walk meets each of its inlined steps as a splice. -/
theorem Walks.exists_isSplice
    (walk : Walks schema settings frame lastVisit steps occurrences last)
    (started : frame.visit ≤ lastVisit)
    (distinct : steps.Nodup)
    (member : step ∈ steps)
    (inlined : step.attr.disposition = some .inlined) :
    ∃ layout first spliceLast before own after, lastVisit < first ∧
      occurrences = before ++ frame.splice settings step first own ++ after ∧
      IsSplice schema settings frame step layout first spliceLast before own
        after := by
  induction walk with
  | done => cases member
  | constant constant later ih =>
      rcases List.nodup_cons.mp distinct with ⟨_, distinct⟩
      rcases List.mem_cons.mp member with rfl | member
      · simp [constant] at inlined
      · exact ih started distinct member
  | @inlined frame lastVisit head steps layout block middle occurrences last
      headInlined found fresh inner later innerIH laterIH =>
      rcases List.nodup_cons.mp distinct with ⟨absent, distinct⟩
      have innerRange := inner.lastVisit_le
      rcases List.mem_cons.mp member with rfl | member
      · -- The step itself: its block is a walk of its composite, and the
        -- rest comes later.
        have moved : Walks schema settings
            ((Frame.root step.attr.typeName layout).below frame.path
              (frame.via ++ [step]) (lastVisit + 1)) (0 + (lastVisit + 1))
            (stepsOf layout) block middle := by
          rw [Nat.zero_add, ← Frame.descend_eq_below_root]
          exact inner
        rcases moved.exists_alone with ⟨own, ownLast, ownWalk, rfl, rfl⟩
        refine ⟨layout, lastVisit + 1, _, [], own, occurrences, by omega, ?_,
          ⟨found, ⟨ownLast, ownWalk, rfl⟩, ?_, ?_⟩⟩
        · rw [Frame.splice, List.nil_append, List.append_assoc]
        · intro occurrence among
          rcases List.mem_append.mp among with inSlot | inLater
          · have own := (Frame.mem_slot_apart inSlot step).1
            exact Or.inl (by omega)
          · rcases later.visit_cases inLater with own | ⟨above, _⟩
            · exact Or.inl (by omega)
            · exact Or.inr above
        · intro occurrence among
          rcases List.mem_append.mp among with inSlot | inLater
          · exact (Frame.mem_slot_apart inSlot step).2
          · exact later.not_prefix_of_not_mem absent inLater
      · -- A later step: what the head contributes comes before its splice.
        rcases laterIH (by omega) distinct member with
          ⟨innerLayout, first, spliceLast, before, own, after, begun, rfl,
            isSplice⟩
        have different : head ≠ step := fun same => absent (same ▸ member)
        refine ⟨innerLayout, first, spliceLast,
          frame.slot settings head ++ block ++ before, own,
          after, by omega, by simp only [List.append_assoc],
          isSplice.prepend ?_ ?_⟩
        · intro occurrence among
          rcases List.mem_append.mp among with inSlot | inBlock
          · have own := (Frame.mem_slot_apart inSlot step).1
            omega
          · have range := inner.visit_bounds inBlock
            omega
        · intro occurrence among
          rcases List.mem_append.mp among with inSlot | inBlock
          · exact (Frame.mem_slot_apart inSlot step).2
          · have below : frame.via ++ [head] <+: occurrence.via :=
              inner.flattens.via_prefix (List.mem_map_of_mem inBlock)
            exact not_prefix_of_prefix_of_ne below different
  | @plain frame lastVisit head steps occurrences last _ notInlined later ih =>
      rcases List.nodup_cons.mp distinct with ⟨absent, distinct⟩
      rcases List.mem_cons.mp member with rfl | member
      · exact absurd inlined notInlined
      · rcases ih started distinct member with
          ⟨layout, first, spliceLast, before, own, after, begun, rfl, isSplice⟩
        refine ⟨layout, first, spliceLast, [frame.occurrence head] ++ before,
          own, after, begun, rfl, isSplice.prepend ?_ ?_⟩
        · intro occurrence among
          rcases List.mem_singleton.mp among with rfl
          show frame.visit < first
          omega
        · intro occurrence among longer
          rcases List.mem_singleton.mp among with rfl
          simpa [Frame.occurrence] using longer.length_le

end Splice

/-! ## Members of splices -/

/--
A member without what depends on where it stands: its links, its visit, and how
it was reached.  There remain its kind, names, comment, types, size,
signedness, condition and sort key, and whether it is final, conditional, an
aggregate or reserved.
-/
def Member.placeless (member : Member) : Member :=
  { member with
    discriminant := none
    readBefore := false
    aggregateName := none
    aggregateClass := none
    isSuper := false
    isInherited := false
    isInline := false
    sizeField := none
    sizedMember := none
    visit := 0 }

namespace Occurrence.Yields

variable {schema : Schema} {settings : Settings} {language : Language}
  {root otherRoot : String} {layout otherLayout : List Attribute}
  {via : List Step} {visits : Nat} {occurrence : Occurrence}
  {member moved : Member}

/--
Further down, and below another composite, an occurrence yields the same
but for its place.
-/
theorem placeless_eq
    (yields :
      occurrence.Yields (.of schema settings language root layout) member)
    (below : (occurrence.below via visits).Yields
      (.of schema settings language otherRoot otherLayout) moved) :
    moved.placeless = member.placeless := by
  rcases yields with ⟨earlier, kind, size, classified, sized, same⟩
  rcases below with
    ⟨otherEarlier, otherKind, otherSize, otherClassified, otherSized, otherSame⟩
  have sameKind : kind = otherKind :=
    Option.some.inj (classified.symm.trans otherClassified)
  have sameSize : size = otherSize :=
    Except.ok.inj (sized.symm.trans otherSized)
  subst sameKind sameSize
  -- The two walks come to the attribute after different names, on different
  -- visits and ways.
  calc
    moved.placeless = moved.unlinked.placeless := rfl
    _ = member.unlinked.placeless := by
      rw [same, otherSame]
      rfl
    _ = member.placeless := rfl

theorem agrees
    (yields :
      occurrence.Yields (.of schema settings language root layout) member)
    (below : (occurrence.below via visits).Yields
      (.of schema settings language otherRoot otherLayout) moved) :
    member.Agrees visits moved := by
  have placeless := yields.placeless_eq below
  have name := congrArg Member.name placeless
  have size := congrArg Member.size placeless
  refine ⟨?_, name, size⟩
  rw [yields.visit_eq, below.visit_eq]
  rfl

end Occurrence.Yields

/--
A member that is a copy of one of another composition, with the place where
the copy begins.
-/
structure Member.IsCopy (start : Nat) (own moved : Member) : Prop where
  placeless : moved.placeless = own.placeless
  sizeField : moved.sizeField = own.sizeField.map fun place => place + start
  sizedMember :
    moved.sizedMember = own.sizedMember.map fun place => place + start

theorem Member.IsCopy.name_eq
    {start : Nat} {own moved : Member}
    (copy : own.IsCopy start moved) :
    moved.name = own.name := by
  have name := congrArg Member.name copy.placeless
  exact name

theorem Member.IsCopy.condition_eq
    {start : Nat} {own moved : Member}
    (copy : own.IsCopy start moved) :
    moved.condition = own.condition := by
  have condition := congrArg Member.condition copy.placeless
  exact condition

namespace IsSplice

variable {schema : Schema} {settings : Settings} {language : Language}
  {root : String} {rootLayout layout : List Attribute} {step : Step}
  {first last : Nat} {before own after : List Occurrence}
  {whole part : Composition}

theorem exists_compose_eq_ok
    (isSplice :
      IsSplice schema settings (.root root rootLayout) step layout first last
        before own after)
    (holds : ∀ occurrence ∈ own.map (Occurrence.below [step] first),
      occurrence.Resolvable schema settings ∧ occurrence.FindsSize settings) :
    ∃ part, compose schema settings language step.attr.typeName = .ok part := by
  rcases isSplice.alone with ⟨ownLast, walk, _⟩
  refine (exists_compose_eq_ok_iff_forall isSplice.found walk).mpr ?_
  intro occurrence among
  have moved := holds _ (List.mem_map_of_mem among)
  exact ⟨⟨moved.1.known, moved.1.named, moved.1.sized⟩, moved.2⟩

theorem visit_bounds
    {visit : Nat} {occurrence : Occurrence}
    (isSplice :
      IsSplice schema settings (.root root rootLayout) step layout first last
        before own after)
    (among : occurrence ∈ own.map (Occurrence.below [step] first))
    (visited : occurrence.visit = visit) :
    first ≤ visit ∧ visit ≤ last := by
  rcases isSplice.alone with ⟨ownLast, walk, rfl⟩
  rcases List.mem_map.mp among with ⟨alone, inOwn, rfl⟩
  have sum : alone.visit + first = visit := visited
  rcases walk.visit_cases inOwn with atRoot | ⟨_, bounded⟩
  · have zero : alone.visit = 0 := atRoot
    omega
  · omega

/--
The members of a splice are a block, in step with the members of the
composite alone.
-/
theorem exists_isBlock
    (isSplice :
      IsSplice schema settings (.root root rootLayout) step layout first last
        before own after)
    (yields :
      List.Forall₂
        (Occurrence.Yields (.of schema settings language root rootLayout))
        (before ++
          (Frame.root root rootLayout).splice settings step first own ++ after)
        whole.members)
    (ownYields :
      List.Forall₂
        (Occurrence.Yields
          (.of schema settings language step.attr.typeName layout)) own
        part.members) :
    ∃ front block back, whole.members = front ++ block ++ back ∧
      front.length =
        (before ++ (Frame.root root rootLayout).slot settings step).length ∧
      IsBlock (fun visit => first ≤ visit ∧ visit ≤ last) front block back ∧
      List.Forall₂ (fun member moved => moved.placeless = member.placeless ∧
        member.Agrees first moved) part.members block := by
  rw [Frame.splice, ← List.append_assoc] at yields
  rcases exists_append_of_forall₂ yields with
    ⟨upToBlock, back, split, upTo, backYields⟩
  rcases exists_append_of_forall₂ upTo with
    ⟨front, block, rfl, frontYields, blockYields⟩
  refine ⟨front, block, back, split, frontYields.length_eq.symm, ⟨?_, ?_⟩, ?_⟩
  · intro member inBlock
    rcases exists_left_of_forall₂ blockYields inBlock with
      ⟨occurrence, among, pair⟩
    exact isSplice.visit_bounds among pair.visit_eq.symm
  · intro member around
    have aroundYields := List.rel_append frontYields backYields
    rcases exists_left_of_forall₂ aroundYields around with
      ⟨occurrence, among, pair⟩
    rw [pair.visit_eq]
    rcases isSplice.otherVisits occurrence among with early | late
    · omega
    · omega
  · have moved := List.forall₂_map_left_iff.mp blockYields
    refine (forall₂_of_forall₂_of_forall₂ ownYields moved).imp ?_
    rintro member copy ⟨occurrence, ownPair, pair⟩
    exact ⟨ownPair.placeless_eq pair, ownPair.agrees pair⟩

end IsSplice

/-! ## Discriminants of copies -/

theorem map_name_of_findDiscriminant_eq_some
    {members : List Member} {name : String} {place : Nat}
    (found : findDiscriminant members name = some place) :
    (members[place]?).map Member.name = some name := by
  rcases exists_of_findDiscriminant_eq_some found with ⟨holder, located, among⟩
  rw [located, Option.map_some, Member.name_of_discriminantAmong_eq_some among]

/-- The members of a list are copied from some place on in another list. -/
def AreCopied (start : Nat) (members others : List Member) : Prop :=
  ∀ place own, members[place]? = some own →
    ∃ moved, others[place + start]? = some moved ∧ own.IsCopy start moved

/-- A block that agrees with members that stand alone is a copy of them. -/
theorem IsBlock.areCopied
    {inside : Nat → Prop} {front block back members : List Member}
    {visits : Nat}
    (isBlock : IsBlock inside front block back)
    (sized : AreSized (front ++ block ++ back))
    (ownSized : AreSized members)
    (sides :
      List.Forall₂
        (fun own moved => moved.placeless = own.placeless ∧
          own.Agrees visits moved) members block) :
    AreCopied front.length members (front ++ block ++ back) := by
  intro place own located
  rcases exists_getElem?_of_forall₂ sides located with
    ⟨moved, movedLocated, placeless, _⟩
  have agreeing := sides.imp fun _ _ pair => pair.2
  rcases isBlock.links_eq sized ownSized agreeing located movedLocated with
    ⟨sizeField, sizedMember⟩
  exact ⟨moved, getElem?_append_append movedLocated, placeless, sizeField,
    sizedMember⟩

namespace AreCopied

variable {schema : Schema} {start : Nat} {members others : List Member}

/-- A name that one member has stands for that member, and for its copy. -/
theorem findDiscriminant_eq
    {name : String} {place otherPlace : Nat}
    (copied : AreCopied start members others)
    (found : findDiscriminant members name = some place)
    (otherFound : findDiscriminant others name = some otherPlace)
    (unique : ∃! holder : Nat, (others[holder]?).map Member.name = some name) :
    otherPlace = place + start := by
  have named := map_name_of_findDiscriminant_eq_some found
  rcases Option.map_eq_some_iff.mp named with ⟨own, located, ownName⟩
  rcases copied place own located with ⟨moved, movedLocated, copy⟩
  refine unique.unique (map_name_of_findDiscriminant_eq_some otherFound) ?_
  rw [movedLocated, Option.map_some, copy.name_eq, ownName]

/-- A member and its copy are linked with a discriminant and its copy. -/
theorem discriminant_eq
    {own moved linkedOwn linkedMoved : Member}
    (copied : AreCopied start members others)
    (copy : own.IsCopy start moved)
    (ownFree : own.discriminant = none)
    (movedFree : moved.discriminant = none)
    (link : own.Links schema members linkedOwn)
    (movedLink : moved.Links schema others linkedMoved)
    (unique : ∀ condition, linkedOwn.condition = some condition →
      ∃! holder : Nat,
        (others[holder]?).map Member.name = some condition.discriminant) :
    linkedMoved.discriminant =
      linkedOwn.discriminant.map fun holder => holder + start := by
  have sameCondition := copy.condition_eq
  cases link with
  | unconditional free =>
      cases movedLink with
      | unconditional _ =>
          rw [ownFree, movedFree]
          rfl
      | conditional conditioned =>
          rw [sameCondition, free] at conditioned
          cases conditioned
  | @conditional condition place holder value conditioned found located
      requires =>
      cases movedLink with
      | unconditional free =>
          rw [sameCondition, conditioned] at free
          cases free
      | @conditional movedCondition movedPlace movedHolder movedValue
          movedConditioned movedFound movedLocated movedRequires =>
          rw [sameCondition, conditioned] at movedConditioned
          rcases Option.some.inj movedConditioned with rfl
          have sole := unique { condition with value := value } rfl
          rw [copied.findDiscriminant_eq found movedFound sole]
          rfl

/-- Linked members are linked with discriminants as their linked copies are. -/
theorem exists_linked
    {owner otherOwner : String} {linkedMembers linkedOthers : List Member}
    {place : Nat} {own : Member}
    (copied : AreCopied start members others)
    (free : ∀ member ∈ members, member.discriminant = none)
    (othersFree : ∀ member ∈ others, member.discriminant = none)
    (links :
      (linkDiscriminants schema owner members).toExcept = .ok linkedMembers)
    (otherLinks :
      (linkDiscriminants schema otherOwner others).toExcept = .ok linkedOthers)
    (located : linkedMembers[place]? = some own)
    (unique : ∀ condition, own.condition = some condition →
      ∃! holder : Nat,
        (others[holder]?).map Member.name = some condition.discriminant) :
    ∃ moved, linkedOthers[place + start]? = some moved ∧
      moved.discriminant =
        own.discriminant.map fun holder => holder + start := by
  have linkedEach := forall₂_links_of_linkDiscriminants_eq_ok links
  have otherLinkedEach := forall₂_links_of_linkDiscriminants_eq_ok otherLinks
  rcases exists_getElem?_of_forall₂ linkedEach.flip located with
    ⟨original, originalLocated, link⟩
  rcases copied place original originalLocated with ⟨copy, copyLocated, isCopy⟩
  rcases exists_getElem?_of_forall₂ otherLinkedEach copyLocated with
    ⟨moved, movedLocated, movedLink⟩
  refine ⟨moved, movedLocated, ?_⟩
  exact copied.discriminant_eq isCopy
    (free original (List.mem_of_getElem? originalLocated))
    (othersFree copy (List.mem_of_getElem? copyLocated)) link movedLink unique

end AreCopied

/-! ## Copies in compositions -/

/-- An appearance below an inlined attribute. -/
def Appearance.below (step : Step) (entry : Appearance) : Appearance :=
  { entry with via := step :: entry.via }

/--
From some place on, right after the slot of an inlined attribute, a
composition shows what another one shows, and nothing else of what was reached
through the attribute.
-/
def Composition.ShowsAt (schema : Schema) (settings : Settings) (root : String)
    (step : Step) (whole part : Composition) (start : Nat) : Prop :=
  ∃ before own after,
    let entries := before ++ Appearance.slot settings [] root step ++
      own.map (Appearance.below step) ++ after
    IsFlattening schema settings root entries ∧
      List.Forall₂ (Appearance.IsShownBy schema settings) entries
        whole.members ∧
      IsFlattening schema settings step.attr.typeName own ∧
      List.Forall₂ (Appearance.IsShownBy schema settings) own part.members ∧
      start = (before ++ Appearance.slot settings [] root step).length ∧
      ∀ entry ∈ before ++ Appearance.slot settings [] root step ++ after,
        ¬ [step] <+: entry.via

/--
Where a walk meets an inlined step, its composition shows that of the
composite alone.
-/
theorem IsSplice.showsAt
    {schema : Schema} {settings : Settings} {language : Language}
    {root : String} {rootLayout layout : List Attribute} {step : Step}
    {first last rootLast ownLast : Nat} {before own after : List Occurrence}
    {whole part : Composition}
    (isSplice :
      IsSplice schema settings (.root root rootLayout) step layout first last
        before own after)
    (found : schema.layout? root = some rootLayout)
    (walk :
      Walks schema settings (.root root rootLayout) 0 (stepsOf rootLayout)
        (before ++
          (Frame.root root rootLayout).splice settings step first own ++ after)
        rootLast)
    (ownWalk :
      Walks schema settings (.root step.attr.typeName layout) 0 (stepsOf layout)
        own ownLast)
    (composed : compose schema settings language root = .ok whole)
    (partComposed :
      compose schema settings language step.attr.typeName = .ok part) :
    whole.ShowsAt schema settings root step part
      (before ++ (Frame.root root rootLayout).slot settings step).length := by
  have slot :
      ((Frame.root root rootLayout).slot settings step).map
        Occurrence.appearance = Appearance.slot settings [] root step :=
    Frame.map_appearance_slot _ settings step
  have below :
      (own.map (Occurrence.below [step] first)).map Occurrence.appearance =
        (own.map Occurrence.appearance).map (Appearance.below step) := by
    rw [List.map_map, List.map_map]
    rfl
  have entries :
      (before ++ (Frame.root root rootLayout).splice settings step first own ++
        after).map Occurrence.appearance =
      before.map Occurrence.appearance ++
        Appearance.slot settings [] root step ++
        (own.map Occurrence.appearance).map (Appearance.below step) ++
        after.map Occurrence.appearance := by
    rw [← slot, ← below]
    simp only [Frame.splice, List.map_append, List.append_assoc]
    rfl
  have flattening := walk.flattens.isFlattening found
  have shown :=
    walk.forall₂_isShownBy found
      (walk.forall₂_yields_of_compose_eq_ok found composed)
  have ownShown := ownWalk.forall₂_isShownBy isSplice.found
    (ownWalk.forall₂_yields_of_compose_eq_ok isSplice.found partComposed)
  rw [entries] at flattening shown
  refine ⟨_, _, _, flattening, shown,
    ownWalk.flattens.isFlattening isSplice.found, ownShown, ?_, ?_⟩
  · rw [← slot, ← List.map_append, List.length_map]
  · intro entry among
    rw [← slot, ← List.map_append, ← List.map_append] at among
    rcases List.mem_map.mp among with ⟨occurrence, elsewhere, rfl⟩
    exact isSplice.elsewhere occurrence elsewhere

/--
What a composition has in place of an inlined attribute: a copy of the
composition of the inlined composite, which begins at some place.
-/
structure Composition.HasCopy (schema : Schema) (settings : Settings)
    (root : String) (step : Step) (whole part : Composition)
    (start : Nat) : Prop where
  /--
  The copy is all that was reached through the attribute, and follows its slot.
  -/
  placed : whole.ShowsAt schema settings root step part start
  /--
  Its members are those of the inlined composite, at their places, with
  their size links.
  -/
  copied : AreCopied start part.members whole.members
  /-- No size link leads into the copy or out of it. -/
  apart : ∀ place link member, whole.members[place]? = some member →
    (member.sizeField = some link ∨ member.sizedMember = some link) →
      ((start ≤ link ∧ link < start + part.members.length) ↔
        (start ≤ place ∧ place < start + part.members.length))
  /-- Discriminants that no other member shares a name with are linked alike. -/
  linked : ∀ linkedWhole linkedPart,
    (linkDiscriminants schema root whole.members).toExcept = .ok linkedWhole →
    (linkDiscriminants schema step.attr.typeName part.members).toExcept =
        .ok linkedPart →
      ∀ place own, linkedPart[place]? = some own →
        (∀ condition, own.condition = some condition →
          ∃! holder : Nat,
            (whole.members[holder]?).map Member.name =
              some condition.discriminant) →
        ∃ moved, linkedWhole[place + start]? = some moved ∧
          moved.discriminant = own.discriminant.map fun holder => holder + start

/--
In place of every inlined attribute of its layout a composition has a copy of
the composition of the inlined composite, which can be flattened alone.
-/
theorem exists_hasCopy_of_compose_eq_ok
    {schema : Schema} {settings : Settings} {language : Language}
    {root : String} {layout : List Attribute} {position : Nat}
    {attr : Attribute} {whole : Composition}
    (composed : compose schema settings language root = .ok whole)
    (found : schema.layout? root = some layout)
    (declared : layout[position]? = some attr)
    (inlined : attr.isInlined = true) :
    ∃ part start, compose schema settings language attr.typeName = .ok part ∧
      whole.HasCopy schema settings root ⟨position, attr⟩ part start := by
  rcases compose_eq_ok composed with
    ⟨same, occurrences, last, resolved, sameFound, walk, yielded, links⟩
  rcases Option.some.inj (found.symm.trans sameFound) with rfl
  have member : (⟨position, attr⟩ : Step) ∈ stepsOf layout :=
    mem_stepsOf.mpr declared
  rcases walk.exists_isSplice (Nat.le_refl _) (nodup_stepsOf layout) member
    (Attribute.isInlined_iff.mp inlined) with
    ⟨inner, first, spliceLast, before, own, after, _, rfl, isSplice⟩
  rcases isSplice.alone with ⟨ownLast, ownWalk, _⟩
  -- What flattening asks of an occurrence does not depend on where it stands.
  have holds :=
    (exists_compose_eq_ok_iff_forall found walk).mp ⟨whole, composed⟩
  have partHolds (occurrence : Occurrence)
      (among :
        occurrence ∈ own.map (Occurrence.below [⟨position, attr⟩] first)) :=
    holds occurrence (List.mem_append_left _ (List.mem_append_right _
      (List.mem_append_right _ among)))
  rcases @IsSplice.exists_compose_eq_ok _ _ language _ _ _ _ _ _ _ _ _ isSplice
      partHolds with
    ⟨part, partComposed⟩
  have yields := walk.forall₂_yields_of_compose_eq_ok found composed
  have partYields :=
    ownWalk.forall₂_yields_of_compose_eq_ok isSplice.found partComposed
  rcases isSplice.exists_isBlock yields partYields with
    ⟨front, block, back, split, frontLength, isBlock, sides⟩
  have sized : AreSized (front ++ block ++ back) :=
    split ▸ areSized_of_compose_eq_ok composed
  have copied : AreCopied front.length part.members whole.members := by
    rw [split]
    exact isBlock.areCopied sized (areSized_of_compose_eq_ok partComposed) sides
  refine ⟨part, front.length, partComposed, ?_, copied, ?_, ?_⟩
  · rw [frontLength]
    exact isSplice.showsAt found walk ownWalk composed partComposed
  · intro place link member located linked
    rw [split] at located
    rw [sides.length_eq]
    exact isBlock.link_iff sized located linked
  · intro linkedWhole linkedPart links partLinks place own located unique
    exact copied.exists_linked
      (fun member => discriminant_eq_none_of_compose_eq_ok partComposed)
      (fun member => discriminant_eq_none_of_compose_eq_ok composed)
      partLinks links located unique

/--
A layout with a count, and with what it counts, which is present only
along with a count.
-/
def Schema.frameLayout : List Attribute :=
  [.named "count" "byte",
    { Attribute.named "payload" "byte" with
      size := some (.field "count")
      condition := some "count"
      conditionOperation := some .has }]

/-- A composite that inlines one with this layout twice. -/
def Schema.paired : Schema where
  entries := [
    ("Frame", .composite { layout := frameLayout }),
    ("Pair", .composite { layout := [.inlining "Frame", .inlining "Frame"] })]
  distinct := by decide

/--
The second of the two inlined attributes has its own copy, with
its own size link.
-/
theorem hasCopy_paired :
    ∃ whole, compose .paired .standard .java "Pair" = .ok whole ∧
      whole.members.map (fun member => (member.name, member.sizeField)) =
        [("frame", none), ("count", none), ("payload", some 1),
          ("frame", none), ("count", none), ("payload", some 4)] ∧
      ∃ part start, compose .paired .standard .java "Frame" = .ok part ∧
        whole.HasCopy .paired .standard "Pair" ⟨1, .inlining "Frame"⟩ part
          start := by
  have found :
      Schema.paired.layout? "Pair" =
        some [.inlining "Frame", .inlining "Frame"] := by cbv
  have fields : (compose .paired .standard .java "Pair").map (fun whole =>
      whole.members.map fun member => (member.name, member.sizeField)) =
        .ok [("frame", none), ("count", none), ("payload", some 1),
          ("frame", none), ("count", none), ("payload", some 4)] := by cbv
  rcases Outcome.map_eq_ok_iff.mp fields with ⟨whole, composed, members⟩
  have second :
      [Attribute.inlining "Frame", .inlining "Frame"][1]? =
        some (.inlining "Frame") :=
    rfl
  exact ⟨whole, composed, members,
    exists_hasCopy_of_compose_eq_ok composed found second rfl⟩

end WireLayout
