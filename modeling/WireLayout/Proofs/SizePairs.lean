import WireLayout.Proofs.Flattening
import WireLayout.Proofs.Linking
import WireLayout.Proofs.SizeLinks

/-!
# Pairs of members and their sizes

Once all visits of a composite are through, one pass over the members links
each of them that has its size in a field with that field, and the field with
the first member that takes its size from it.  The field is the first of its
name which the same visit emits, however often its name or its composite occurs
elsewhere.  The pass writes nothing but these links, and its look-ups do not
see them, so that the links are the same as if all of them were made at once.

Nothing else can fail by then: there is no composition exactly if some size
is in a field that is not emitted on its visit, and the first such size is
the one reported.
-/

namespace WireLayout

/-! ## Linking in place -/

/--
Writes a link to the member at a place, and one back to its target if that
has none so far.
-/
def writeSizeLink (place target : Nat) (members : List Member) : List Member :=
  (members.modify place fun member =>
    { member with sizeField := some target }).modify target fun holder =>
    { holder with sizedMember := holder.sizedMember.or (some place) }

/--
Links the members at places, one after the other, each among the members
as they are then.
-/
def linkSizesInPlace (owner : String) :
    List Nat → List Member → Except CompileFault (List Member)
  | [], members => .ok members
  | place :: places, members =>
      match members[place]? with
      | none => linkSizesInPlace owner places members
      | some member =>
          match member.sizeTarget owner members with
          | .error fault => .error fault
          | .ok none => linkSizesInPlace owner places members
          | .ok (some target) =>
              linkSizesInPlace owner places (writeSizeLink place target members)

section InPlace

variable {owner : String} {members others : List Member} {member other : Member}

/--
The field of a size is found alike whatever is linked among the members around.
-/
theorem Member.sizeTarget_eq_of_unlinked_eq
    (same : other.unlinked = member.unlinked)
    (alike : others.map Member.unlinked = members.map Member.unlinked) :
    other.sizeTarget owner others = member.sizeTarget owner members := by
  have erased (member : Member) (members : List Member) :
      member.unlinked.sizeTarget owner (members.map Member.unlinked) =
        member.sizeTarget owner members := by
    simp only [sizeTarget, unlinked, List.findIdx?_map, Function.comp_def]
  rw [← erased, same, alike, erased]

/-- A linked member still asks for the field it asked for before. -/
theorem exists_sizeTarget_withSizeLinks
    {place : Nat}
    (targets : List (Option Nat))
    (located : members[place]? = some member) :
    ∃ linked, (withSizeLinks targets members)[place]? = some linked ∧
      linked.sizeTarget owner (withSizeLinks targets members) =
        member.sizeTarget owner members := by
  rw [getElem?_withSizeLinks, located, Option.map_some]
  refine ⟨_, rfl, ?_⟩
  exact Member.sizeTarget_eq_of_unlinked_eq rfl
    (map_unlinked_withSizeLinks targets members)

theorem withSizeLinks_nil (members : List Member) :
    withSizeLinks [] members = members.map Member.unlinked := by
  apply List.ext_getElem?
  intro place
  rw [getElem?_withSizeLinks, List.getElem?_map]
  rfl

/-- The target of a place among targets that are followed by one more. -/
theorem join_getElem?_append_singleton
    (targets : List (Option Nat)) (target : Option Nat) (place : Nat) :
    ((targets ++ [target])[place]?).join =
      if place = targets.length then target else (targets[place]?).join := by
  rcases Nat.lt_trichotomy place targets.length with before | rfl | after
  · rw [List.getElem?_append_left before, if_neg before.ne]
  · rw [List.getElem?_concat_length, if_pos rfl]
    rfl
  · rw [List.getElem?_eq_none_iff.mpr (by simp; omega),
      List.getElem?_eq_none_iff.mpr after.le, if_neg after.ne']

/-- A member that asks for no field adds no links. -/
theorem withSizeLinks_append_none (targets : List (Option Nat))
    (members : List Member) :
    withSizeLinks (targets ++ [none]) members =
      withSizeLinks targets members := by
  apply List.ext_getElem?
  intro place
  have unasked :
      (targets ++ [none]).findIdx? (fun target => target == some place) =
        targets.findIdx? fun target => target == some place := by
    simp [List.findIdx?_append]
  have target :
      ((targets ++ [none])[place]?).join = (targets[place]?).join := by
    rw [join_getElem?_append_singleton]
    split
    · next last =>
        rw [last, List.getElem?_eq_none_iff.mpr (Nat.le_refl _),
          Option.join_none]
    · rfl
  rw [getElem?_withSizeLinks, getElem?_withSizeLinks, unasked, target]

/--
The next link is written as if it had been made together with those before it.
-/
theorem writeSizeLink_withSizeLinks
    (targets : List (Option Nat)) (target : Nat) (members : List Member) :
    writeSizeLink targets.length target (withSizeLinks targets members) =
      withSizeLinks (targets ++ [some target]) members := by
  apply List.ext_getElem?
  intro place
  have holds :
      (targets ++ [some target]).findIdx? (fun asked => asked == some place) =
        (targets.findIdx? fun asked => asked == some place).or
        (if target = place then some targets.length else none) := by
    by_cases here : target = place <;> simp [List.findIdx?_append, here]
  rw [writeSizeLink, List.getElem?_modify, List.getElem?_modify,
    getElem?_withSizeLinks, getElem?_withSizeLinks, holds,
    join_getElem?_append_singleton]
  cases members[place]? with
  | none => rfl
  | some member =>
      by_cases linked : targets.length = place
      · by_cases linkedBack : target = place
        · simp [linked, linkedBack]
        · simp [linked, linkedBack]
      · by_cases linkedBack : target = place
        · simp [linked, Ne.symm linked, linkedBack]
        · simp [linked, Ne.symm linked, linkedBack]

/--
The members before a place are linked already, with the given targets: from
there on linking in place makes the links that the other members ask for.
-/
theorem linkSizesInPlace_append
    {done rest : List Member} {targets : List (Option Nat)}
    (split : members = done ++ rest)
    (reached : targets.length = done.length) :
    linkSizesInPlace owner (List.range' targets.length rest.length)
        (withSizeLinks targets members) =
      (rest.mapM (Member.sizeTarget owner members)).map fun later =>
        withSizeLinks (targets ++ later) members := by
  induction rest generalizing done targets with
  | nil => simp [linkSizesInPlace, pure, Except.pure, Except.map]
  | cons head rest ih =>
      have onward : members = (done ++ [head]) ++ rest := by
        rw [split, List.append_assoc, List.singleton_append]
      have sized (target : Option Nat) :
          (targets ++ [target]).length = (done ++ [head]).length := by
        rw [List.length_append, List.length_append, reached,
          List.length_singleton, List.length_singleton]
      have located : members[targets.length]? = some head := by
        rw [split, reached, List.getElem?_append_right (Nat.le_refl _),
          Nat.sub_self, List.getElem?_cons_zero]
      rcases @exists_sizeTarget_withSizeLinks owner _ _ _ targets located with
        ⟨linked, linkedLocated, asked⟩
      -- What the head asks for is next, after the targets of the
      -- members before it.
      have later (target : Option Nat) :
          linkSizesInPlace owner (List.range' (targets.length + 1) rest.length)
              (withSizeLinks (targets ++ [target]) members) =
            (rest.mapM (Member.sizeTarget owner members)).map fun later =>
              withSizeLinks (targets ++ target :: later) members := by
        have reachedNext := ih onward (sized target)
        rw [List.length_append, List.length_singleton] at reachedNext
        simpa only [List.append_assoc, List.singleton_append] using reachedNext
      rw [List.length_cons, List.range'_succ, linkSizesInPlace, linkedLocated,
        List.mapM_cons]
      simp only [asked]
      cases head.sizeTarget owner members with
      | error fault => rfl
      | ok target =>
          cases target with
          | none =>
              simp only
              rw [← withSizeLinks_append_none, later]
              cases rest.mapM (Member.sizeTarget owner members) with
              | error fault => rfl
              | ok others => rfl
          | some target =>
              simp only
              rw [writeSizeLink_withSizeLinks, later]
              cases rest.mapM (Member.sizeTarget owner members) with
              | error fault => rfl
              | ok others => rfl

/-- Linking one member after the other is linking all of them at once. -/
theorem linkSizesInPlace_eq_linkSizes
    (fresh : members.map Member.unlinked = members) :
    linkSizesInPlace owner (List.range members.length) members =
      linkSizes owner members := by
  have whole := @linkSizesInPlace_append owner members [] members [] rfl rfl
  rw [withSizeLinks_nil, fresh, List.length_nil,
    ← List.range_eq_range'] at whole
  rw [whole]
  rfl

end InPlace

/-! ## Attributes on a way -/

/-- An attribute of a name that appears at the end of a way. -/
def Appearance.IsOnWay (via : List Step) (name : String)
    (entry : Appearance) : Prop :=
  entry.via = via ∧ entry.step.attr.displayName = name

instance (via : List Step) (name : String) (entry : Appearance) :
    Decidable (entry.IsOnWay via name) :=
  inferInstanceAs (Decidable (_ ∧ _))

/--
The first attribute of a name that appears at the end of a way is at a place.
-/
structure IsFirstOnWay (entries : List Appearance) (via : List Step)
    (name : String) (place : Nat) : Prop where
  located : ∃ entry, entries[place]? = some entry ∧ entry.IsOnWay via name
  first : ∀ (earlier : Nat) (other : Appearance), earlier < place →
    entries[earlier]? = some other → ¬ other.IsOnWay via name

/--
The size of an attribute is in a field which does not appear at the end
of the same way.
-/
structure Appearance.LacksSize (entries : List Appearance) (reference : String)
    (entry : Appearance) : Prop where
  asks : entry.step.attr.sizeReference = some reference
  missing : ∀ other ∈ entries, ¬ other.IsOnWay entry.via reference

/--
How a member is linked with the field of its size, and with a member
whose size it holds.
-/
structure Member.IsPaired (entries : List Appearance) (members : List Member)
    (place : Nat) (entry : Appearance) (member : Member) : Prop where
  /-- It is linked with a field exactly if its size is in one. -/
  linked : (∃ target, member.sizeField = some target) ↔
    ∃ reference, member.size = .field reference
  /-- The field is the first of the name that its own visit has emitted. -/
  target : ∀ target, member.sizeField = some target → ∃ reference,
    member.size = .field reference ∧
      IsFirstOnWay entries entry.via reference target
  /-- It is linked back exactly if a member is linked with it. -/
  linkedBack : (∃ sized, member.sizedMember = some sized) ↔
    ∃ other ∈ members, other.sizeField = some place
  /-- The member it is linked back with is the first of those. -/
  sized : ∀ sized, member.sizedMember = some sized → ∃ other,
    IsFirstAt members (fun member => member.sizeField = some place) sized other

section Ways

variable {entries : List Appearance} {via : List Step} {name : String}
  {place : Nat}

theorem findIdx?_isOnWay_eq_some_iff :
    entries.findIdx? (fun entry => decide (entry.IsOnWay via name)) =
        some place ↔
      IsFirstOnWay entries via name place := by
  simp only [findIdx?_eq_some_iff_getElem?, decide_eq_true_eq]
  exact ⟨fun isFirst => ⟨isFirst.1, isFirst.2⟩,
    fun isFirst => ⟨isFirst.1, isFirst.2⟩⟩

theorem findIdx?_isOnWay_eq_none_iff :
    entries.findIdx? (fun entry => decide (entry.IsOnWay via name)) = none ↔
      ∀ entry ∈ entries, ¬ entry.IsOnWay via name := by
  simp only [List.findIdx?_eq_none_iff, decide_eq_false_iff_not]

theorem exists_isFirstOnWay_iff :
    (∃ place, IsFirstOnWay entries via name place) ↔
      ∃ entry ∈ entries, entry.IsOnWay via name := by
  simp only [← findIdx?_isOnWay_eq_some_iff, ← Option.isSome_iff_exists,
    List.findIdx?_isSome, List.any_eq_true, decide_eq_true_eq]

end Ways

/-! ## Links back -/

namespace AreSized

variable {members : List Member} {place : Nat} {member : Member}

/-- A member is linked back with the first member that is linked with it. -/
theorem sizedMember_eq_some_iff
    {link : Nat}
    (sized : AreSized members)
    (located : members[place]? = some member) :
    member.sizedMember = some link ↔
      ∃ other, IsFirstAt members (fun member => member.sizeField = some place)
        link other := by
  rw [sized.sizedMember place member located]
  exact findIdx?_eq_some_iff_isFirstAt fun other => beq_iff_eq

theorem exists_sizedMember_eq_some_iff
    (sized : AreSized members)
    (located : members[place]? = some member) :
    (∃ link, member.sizedMember = some link) ↔
      ∃ other ∈ members, other.sizeField = some place := by
  rw [sized.sizedMember place member located, ← Option.isSome_iff_exists,
    List.findIdx?_isSome, List.any_eq_true]
  simp only [beq_iff_eq]

end AreSized

/-! ## Sizes on walks -/

section Walked

variable {schema : Schema} {settings : Settings} {context : WalkContext}
  {frame : Frame} {lastVisit last : Nat} {steps : List Step}
  {occurrences : List Occurrence} {members : List Member}
  {occurrence : Occurrence} {member : Member}

/--
What is looked up among the members of a visit is looked up at the end
of the way to it.
-/
theorem Walks.findIdx?_isOnWay_eq
    (walk : Walks schema settings frame lastVisit steps occurrences last)
    (started : frame.visit ≤ lastVisit)
    (distinct : steps.Nodup)
    (yields : List.Forall₂ (Occurrence.Yields context) occurrences members)
    (among : occurrence ∈ occurrences)
    (pair : occurrence.Yields context member)
    (reference : String) :
    (occurrences.map Occurrence.appearance).findIdx?
        (fun entry => decide (entry.IsOnWay occurrence.via reference)) =
      members.findIdx? fun other =>
        other.visit == member.visit && other.name == reference := by
  rw [List.findIdx?_map]
  refine findIdx?_eq_of_forall₂ _ _
    ((List.forall₂_and_left _ _).mpr ⟨fun _ among => among, yields⟩) ?_
  rintro other otherMember ⟨otherAmong, otherPair⟩
  have sameVisit := walk.visit_eq_iff started distinct otherAmong among
  rw [Bool.eq_iff_iff, Function.comp_apply, decide_eq_true_eq, Bool.and_eq_true,
    beq_iff_eq, beq_iff_eq, otherPair.visit_eq, pair.visit_eq,
    otherPair.name_eq, sameVisit]
  rfl

/-- A member is not linked where its attribute lacks the field of its size. -/
theorem Walks.sizeTarget_eq_error_iff
    {owner : String} {fault : CompileFault}
    (walk : Walks schema settings frame lastVisit steps occurrences last)
    (started : frame.visit ≤ lastVisit)
    (distinct : steps.Nodup)
    (yields : List.Forall₂ (Occurrence.Yields context) occurrences members)
    (among : occurrence ∈ occurrences)
    (pair : occurrence.Yields context member) :
    member.sizeTarget owner members = .error fault ↔
      ∃ reference,
        occurrence.appearance.LacksSize (occurrences.map Occurrence.appearance)
            reference ∧
          fault =
            .dangling ⟨owner, occurrence.step.attr.displayName, reference,
              .size⟩ := by
  rw [Member.sizeTarget_eq_error_iff]
  refine exists_congr fun reference => ?_
  rw [pair.size_eq_field_iff, pair.name_eq, ← and_assoc,
    ← walk.findIdx?_isOnWay_eq started distinct yields among pair reference,
    findIdx?_isOnWay_eq_none_iff]
  exact and_congr_left fun _ =>
    ⟨fun lacks => ⟨lacks.1, lacks.2⟩, fun lacks => ⟨lacks.1, lacks.2⟩⟩

/--
A member is linked with the first field of the name at the end of the way to
it.
-/
theorem Walks.sizeField_eq_some_iff
    {target : Nat}
    (walk : Walks schema settings frame lastVisit steps occurrences last)
    (started : frame.visit ≤ lastVisit)
    (distinct : steps.Nodup)
    (yields : List.Forall₂ (Occurrence.Yields context) occurrences members)
    (sized : AreSized members)
    (among : occurrence ∈ occurrences)
    (pair : occurrence.Yields context member)
    (memberAmong : member ∈ members) :
    member.sizeField = some target ↔
      ∃ reference, member.size = .field reference ∧
        IsFirstOnWay (occurrences.map Occurrence.appearance) occurrence.via
          reference target := by
  rw [sized.sizeField member memberAmong, Member.sizePlace]
  cases member.size with
  | literal count => simp
  | field reference =>
      simp only [Size.field.injEq, exists_eq_left']
      rw [← walk.findIdx?_isOnWay_eq started distinct yields among pair
        reference, findIdx?_isOnWay_eq_some_iff]

/--
Linked members are in pairs, where no attribute lacks the field of its size.
-/
theorem Walks.isPaired
    {place : Nat}
    (walk : Walks schema settings frame lastVisit steps occurrences last)
    (started : frame.visit ≤ lastVisit)
    (distinct : steps.Nodup)
    (yields : List.Forall₂ (Occurrence.Yields context) occurrences members)
    (sized : AreSized members)
    (located : occurrences[place]? = some occurrence)
    (memberLocated : members[place]? = some member)
    (finds : ∀ reference,
      ¬ occurrence.appearance.LacksSize (occurrences.map Occurrence.appearance)
        reference) :
    member.IsPaired (occurrences.map Occurrence.appearance) members place
      occurrence.appearance := by
  rcases exists_getElem?_of_forall₂ yields located with
    ⟨same, sameLocated, pair⟩
  rcases Option.some.inj (memberLocated.symm.trans sameLocated) with rfl
  have linked (target : Nat) :=
    @Walks.sizeField_eq_some_iff _ _ _ _ _ _ _ _ _ _ _ target walk started
      distinct yields sized (List.mem_of_getElem? located) pair
    (List.mem_of_getElem? memberLocated)
  have found (reference : String) (asks : member.size = .field reference) :
      ∃ target,
        IsFirstOnWay (occurrences.map Occurrence.appearance) occurrence.via
          reference target := by
    rw [exists_isFirstOnWay_iff]
    by_contra missing
    exact finds reference ⟨pair.size_eq_field_iff.mp asks,
      fun other among onWay => missing ⟨other, among, onWay⟩⟩
  constructor
  · simp only [linked]
    constructor
    · rintro ⟨target, reference, asks, _⟩
      exact ⟨reference, asks⟩
    · rintro ⟨reference, asks⟩
      rcases found reference asks with ⟨target, first⟩
      exact ⟨target, reference, asks, first⟩
  · exact fun target => (linked target).mp
  · exact sized.exists_sizedMember_eq_some_iff memberLocated
  · exact fun link => (sized.sizedMember_eq_some_iff memberLocated).mp

end Walked

/-! ## Compositions -/

/--
All visits of a composite are through: they have met attributes, each at
the end of its way, and have emitted a member for each of them.
-/
inductive Emits (schema : Schema) (settings : Settings) (language : Language)
    (root : String) : List Appearance → List Member → Prop where
  | visited {layout occurrences last resolved}
      (found : schema.layout? root = some layout)
      (walk :
        Walks schema settings (.root root layout) 0 (stepsOf layout)
          occurrences last)
      (yielded :
        resolveOccurrences (.of schema settings language root layout) []
          occurrences =
        .ok resolved) :
      Emits schema settings language root
        (occurrences.map Occurrence.appearance)
        (resolved.map TypedMember.member)

namespace Emits

variable {schema : Schema} {settings : Settings} {language : Language}
  {root : String} {entries : List Appearance} {emitted : List Member}

/-- Members are emitted without links. -/
theorem map_unlinked_eq
    (emits : Emits schema settings language root entries emitted) :
    emitted.map Member.unlinked = emitted := by
  cases emits with
  | @visited layout occurrences last resolved found walk yielded =>
      rw [List.map_map]
      apply List.map_congr_left
      intro typed among
      rcases exists_left_of_forall₂
          (forall₂_of_resolveOccurrences_eq_ok yielded) among with
        ⟨occurrence, _, names, resolves⟩
      rcases Occurrence.resolve_eq_ok_iff.mp resolves with
        ⟨kind, size, _, _, _, rfl⟩
      exact Occurrence.unlinked_member ..

/-- Once the visits are through, linking is all that is left. -/
theorem map_members_compose
    (emits : Emits schema settings language root entries emitted) :
    (compose schema settings language root).map Composition.members =
      linkSizes root emitted := by
  cases emits with
  | @visited layout occurrences last resolved found walk yielded =>
      have resolves {Result : Type} (step : List TypedMember →
          Except CompileFault Result) :
          Except.ok resolved >>= step = step resolved := rfl
      simp only [compose, found, walk.traverse_eq, yielded, Outcome.map_bind,
        resolves]
      cases linkSizes root (resolved.map TypedMember.member) with
      | error fault => rfl
      | ok members => rfl

/-- A member is not linked where its attribute lacks the field of its size. -/
theorem forall₂_sizeTarget
    (emits : Emits schema settings language root entries emitted) :
    List.Forall₂
      (fun entry member => ∀ fault,
        member.sizeTarget root emitted = .error fault ↔
        ∃ reference, entry.LacksSize entries reference ∧
          fault =
            .dangling ⟨root, entry.step.attr.displayName, reference, .size⟩)
      entries emitted := by
  cases emits with
  | @visited layout occurrences last resolved found walk yielded =>
      have yields := forall₂_yields_of_resolveOccurrences_eq_ok yielded
      rw [List.forall₂_map_left_iff]
      refine ((List.forall₂_and_left _ _).mpr
        ⟨fun _ among => among, yields⟩).imp ?_
      rintro occurrence member ⟨among, pair⟩ fault
      exact walk.sizeTarget_eq_error_iff (Nat.le_refl _) (nodup_stepsOf layout)
        yields among pair

/-- Linking stops at the first attribute that lacks the field of its size. -/
theorem linkSizes_eq_error_iff
    {fault : CompileFault}
    (emits : Emits schema settings language root entries emitted) :
    linkSizes root emitted = .error fault ↔
      ∃ before entry after, entries = before ++ entry :: after ∧
        (∀ earlier ∈ before, ∀ reference,
          ¬ earlier.LacksSize entries reference) ∧
        ∃ reference, entry.LacksSize entries reference ∧
          fault =
            .dangling ⟨root, entry.step.attr.displayName, reference,
              .size⟩ := by
  have stops : linkSizes root emitted = .error fault ↔
      emitted.mapM (Member.sizeTarget root emitted) = .error fault := by
    rw [linkSizes, Outcome.bind_eq_error_iff]
    refine or_iff_left ?_
    rintro ⟨_, _, impossible⟩
    cases impossible
  rw [stops, Outcome.mapM_eq_error_iff]
  refine (Outcome.exists_first_iff_of_forall₂ emits.forall₂_sizeTarget ?_
    ?_).symm
  · intro entry member fails
    cases outcome : member.sizeTarget root emitted with
    | error fault =>
        rcases (fails fault).mp outcome with ⟨reference, lacks, _⟩
        exact iff_of_false (fun finds => finds reference lacks) (by simp)
    | ok target =>
        refine iff_of_true ?_ ⟨target, rfl⟩
        intro reference lacks
        cases outcome.symm.trans ((fails _).mpr ⟨reference, lacks, rfl⟩)
  · intro entry member fails
    exact (fails fault).symm

theorem not_lacksSize_of_linkSizes_eq_ok
    {members : List Member} {entry : Appearance} {reference : String}
    (emits : Emits schema settings language root entries emitted)
    (links : linkSizes root emitted = .ok members)
    (among : entry ∈ entries) :
    ¬ entry.LacksSize entries reference := by
  intro lacks
  rcases exists_right_of_forall₂ emits.forall₂_sizeTarget among with
    ⟨member, memberAmong, fails⟩
  have failed := (fails _).mpr ⟨reference, lacks, rfl⟩
  rcases Outcome.bind_eq_ok_iff.mp links with ⟨targets, found, _⟩
  rcases Outcome.exists_mapM_eq_ok_iff.mp ⟨targets, found⟩ member
      memberAmong with
    ⟨target, succeeded⟩
  cases failed.symm.trans succeeded

theorem linkSizes_eq_ok_of_compose_eq_ok
    {composition : Composition}
    (emits : Emits schema settings language root entries emitted)
    (composed : compose schema settings language root = .ok composition) :
    linkSizes root emitted = .ok composition.members := by
  rw [← emits.map_members_compose, composed]
  rfl

theorem compose_eq_error_iff
    {fault : CompileFault}
    (emits : Emits schema settings language root entries emitted) :
    compose schema settings language root = .error fault ↔
      linkSizes root emitted = .error fault := by
  rw [← emits.map_members_compose, Outcome.map_eq_error_iff]

theorem exists_compose_eq_error_iff
    (emits : Emits schema settings language root entries emitted) :
    (∃ fault, compose schema settings language root = .error fault) ↔
      ∃ entry ∈ entries, ∃ reference, entry.LacksSize entries reference := by
  simp only [emits.compose_eq_error_iff]
  cases outcome : linkSizes root emitted with
  | error fault =>
      rcases emits.linkSizes_eq_error_iff.mp outcome with
        ⟨before, entry, after, split, _, reference, lacks, _⟩
      have among : entry ∈ entries := by
        rw [split]
        exact List.mem_append_right _ List.mem_cons_self
      exact iff_of_true ⟨fault, rfl⟩ ⟨entry, among, reference, lacks⟩
  | ok members =>
      refine iff_of_false (by simp) ?_
      rintro ⟨entry, among, reference, lacks⟩
      exact emits.not_lacksSize_of_linkSizes_eq_ok outcome among lacks

theorem isFlattening
    (emits : Emits schema settings language root entries emitted) :
    IsFlattening schema settings root entries := by
  cases emits with
  | visited found walk yielded => exact walk.flattens.isFlattening found

/-- The members that come of it are in pairs. -/
theorem isPaired_of_compose_eq_ok
    {composition : Composition} {place : Nat} {entry : Appearance}
    {member : Member}
    (emits : Emits schema settings language root entries emitted)
    (composed : compose schema settings language root = .ok composition)
    (located : entries[place]? = some entry)
    (memberLocated : composition.members[place]? = some member) :
    member.IsPaired entries composition.members place entry := by
  have links := emits.linkSizes_eq_ok_of_compose_eq_ok composed
  have finds (reference : String) : ¬ entry.LacksSize entries reference :=
    emits.not_lacksSize_of_linkSizes_eq_ok links (List.mem_of_getElem? located)
  cases emits with
  | @visited layout occurrences last resolved found walk yielded =>
      have yields := forall₂_yields yielded links
      rw [List.getElem?_map, Option.map_eq_some_iff] at located
      rcases located with ⟨occurrence, located, rfl⟩
      exact walk.isPaired (Nat.le_refl _) (nodup_stepsOf layout) yields
        (areSized_of_compose_eq_ok composed) located memberLocated finds

end Emits

theorem exists_emits_of_compose_eq_ok
    {schema : Schema} {settings : Settings} {language : Language}
    {root : String} {composition : Composition}
    (composed : compose schema settings language root = .ok composition) :
    ∃ entries emitted, Emits schema settings language root entries emitted := by
  rcases compose_eq_ok composed with ⟨_, _, _, _, found, walk, yielded, _⟩
  exact ⟨_, _, .visited found walk yielded⟩

/--
Linking is the last step of flattening a composite, and changes nothing but
links.  Each member whose size is in a field is linked with the first field of
that name which its own visit has emitted, and each field back with the first
member linked with it.

Flattening fails at this step exactly if some size is in a field that the same
visit has not emitted, and then names the first such size.
-/
theorem compose_pairs_sizes
    (schema : Schema) (settings : Settings) (language : Language)
    (root : String) :
    (∀ composition, compose schema settings language root = .ok composition →
      ∃ entries emitted, Emits schema settings language root entries emitted ∧
        List.Forall₂ (Appearance.IsShownBy schema settings) entries
          composition.members ∧
        composition.members.map Member.unlinked = emitted ∧
        ∀ place entry (member : Member), entries[place]? = some entry →
          composition.members[place]? = some member →
            member.IsPaired entries composition.members place entry) ∧
      ∀ entries emitted, Emits schema settings language root entries emitted →
        IsFlattening schema settings root entries ∧
        (compose schema settings language root).map Composition.members =
            linkSizesInPlace root (List.range emitted.length) emitted ∧
          ((∃ fault, compose schema settings language root = .error fault) ↔
            ∃ entry ∈ entries, ∃ reference, entry.LacksSize entries reference) ∧
          ∀ fault, compose schema settings language root = .error fault →
            ∃ before entry after, entries = before ++ entry :: after ∧
              (∀ earlier ∈ before, ∀ reference,
                ¬ earlier.LacksSize entries reference) ∧
              ∃ reference, entry.LacksSize entries reference ∧
                fault =
                  .dangling ⟨root, entry.step.attr.displayName, reference,
                    .size⟩ := by
  constructor
  · intro composition composed
    rcases exists_emits_of_compose_eq_ok composed with ⟨entries, emitted, emits⟩
    have links := emits.linkSizes_eq_ok_of_compose_eq_ok composed
    refine ⟨entries, emitted, emits,
      emits.isFlattening.forall₂_isShownBy composed, ?_, ?_⟩
    · rw [map_unlinked_of_linkSizes_eq_ok links, emits.map_unlinked_eq]
    · intro place entry member located memberLocated
      exact emits.isPaired_of_compose_eq_ok composed located memberLocated
  · intro entries emitted emits
    refine ⟨emits.isFlattening, ?_, emits.exists_compose_eq_error_iff, ?_⟩
    · rw [linkSizesInPlace_eq_linkSizes emits.map_unlinked_eq,
        emits.map_members_compose]
    · intro fault failed
      exact emits.linkSizes_eq_error_iff.mp
        (emits.compose_eq_error_iff.mp failed)

/-- A payload whose size is in the count before it. -/
def Attribute.countedPayload : Attribute :=
  { Attribute.named "payload" "byte" with size := some (.field "count") }

/-- A count that is a constant, which is not emitted, before a payload. -/
def Schema.blindLayout : List Attribute :=
  [{ Attribute.named "count" "byte" with
      disposition := some .constant
      value := some (.number 1) },
    .countedPayload]

/--
A composite that inlines a count and a payload twice, and one with
a constant count.
-/
def Schema.metered : Schema where
  entries := [
    ("Frame",
      .composite { layout := [.named "count" "byte", .countedPayload] }),
    ("Pair", .composite { layout := [.inlining "Frame", .inlining "Frame"] }),
    ("Blind", .composite { layout := blindLayout })]
  distinct := by decide

theorem exists_compose_metered :
    ∃ composition, compose .metered .standard .java "Pair" = .ok composition ∧
      (composition.members.map fun member =>
        (member.name, member.sizeField, member.sizedMember)) =
        [("frame", none, none), ("count", none, some 2),
          ("payload", some 1, none), ("frame", none, none),
          ("count", none, some 5), ("payload", some 4, none)] := by
  apply Outcome.map_eq_ok_iff.mp
  cbv

theorem compose_metered_eq_error :
    compose .metered .standard .java "Blind" =
      .error (.dangling ⟨"Blind", "payload", "count", .size⟩) := by cbv

theorem exists_emits_metered :
    ∃ entries emitted,
      Emits .metered .standard .java "Blind" entries emitted := by
  have found :
      Schema.metered.layout? "Blind" = some Schema.blindLayout := by cbv
  have free : (traverse .metered .standard (.root "Blind" Schema.blindLayout) 0
      (stepsOf Schema.blindLayout)).fault = none := by cbv
  have resolves :
      (resolveOccurrences
        (.of .metered .standard .java "Blind" Schema.blindLayout) []
        (traverse .metered .standard (.root "Blind" Schema.blindLayout) 0
          (stepsOf Schema.blindLayout)).occurrences).map List.length =
        .ok 1 := by cbv
  rcases Outcome.map_eq_ok_iff.mp resolves with ⟨resolved, yielded, _⟩
  exact ⟨_, _, .visited found (walks_of_fault_eq_none free) yielded⟩

/--
Each payload is linked with its own count, and a constant count is no
field to link with.
-/
theorem compose_pairs_sizes_metered :
    (∃ entries composition,
      compose .metered .standard .java "Pair" = .ok composition ∧
      (composition.members.map fun member =>
        (member.name, member.sizeField, member.sizedMember)) =
        [("frame", none, none), ("count", none, some 2),
          ("payload", some 1, none), ("frame", none, none),
          ("count", none, some 5), ("payload", some 4, none)] ∧
      ∀ place entry (member : Member), entries[place]? = some entry →
        composition.members[place]? = some member →
          member.IsPaired entries composition.members place entry) ∧
      ∃ entries emitted,
        Emits .metered .standard .java "Blind" entries emitted ∧
        compose .metered .standard .java "Blind" =
          .error (.dangling ⟨"Blind", "payload", "count", .size⟩) ∧
        ∃ entry ∈ entries, ∃ reference, entry.LacksSize entries reference := by
  constructor
  · rcases exists_compose_metered with ⟨composition, composed, fields⟩
    rcases (compose_pairs_sizes .metered .standard .java "Pair").1 composition
        composed with
      ⟨entries, _, _, _, _, paired⟩
    exact ⟨entries, composition, composed, fields, paired⟩
  · rcases exists_emits_metered with ⟨entries, emitted, emits⟩
    rcases (compose_pairs_sizes .metered .standard .java "Blind").2 entries
        emitted emits with
      ⟨_, _, fails, _⟩
    exact ⟨entries, emitted, emits, compose_metered_eq_error,
      fails.mp ⟨_, compose_metered_eq_error⟩⟩

end WireLayout
