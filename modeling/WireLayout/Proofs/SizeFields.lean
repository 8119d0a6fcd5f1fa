import WireLayout.Proofs.Flattening
import WireLayout.Proofs.SizeLinks

/-!
# Size fields

An attribute is a size field by its kind, which is decided in its layout, and
by its links, which are made among the members of a visit.  The kind asks
whether a sibling names the attribute as its size, unless the disposition of
the attribute decides its kind first.  The links ask the same of members
only: they pass over siblings that contribute none, and lead to the first
member of a name.

So the two agree for an attribute whose disposition leaves its kind open, which
comes first under its name, and which a sibling that contributes names if any
sibling does.  An attribute that names itself as its size stays out of account.
-/

namespace WireLayout

/-! ## Kinds -/

namespace Attribute

/--
Whether the disposition of an attribute decides its kind, whatever
its siblings name.
-/
def isPredisposed (attr : Attribute) (settings : Settings) : Bool :=
  attr.isVariadic || attr.isFilling ||
    (attr.isInlined && settings.generates attr.typeName)

/-- The attributes of a layout that contribute members. -/
def contributing (settings : Settings)
    (layout : List Attribute) : List Attribute :=
  layout.filter fun attr => attr.contributes settings

theorem isSizeField_iff
    {attr : Attribute} {siblings : List Attribute} :
    attr.isSizeField siblings = true ↔
      ∃ sibling ∈ siblings, sibling.sizeReference = some attr.displayName := by
  rw [isSizeField, List.any_eq_true]
  simp only [beq_iff_eq]

/-- What contributors name is named in the whole layout. -/
theorem isSizeField_of_contributing
    {attr : Attribute} {settings : Settings} {layout : List Attribute}
    (named : attr.isSizeField (contributing settings layout) = true) :
    attr.isSizeField layout = true := by
  rcases isSizeField_iff.mp named with ⟨sibling, inContributing, asks⟩
  exact isSizeField_iff.mpr
    ⟨sibling, (List.mem_filter.mp inContributing).1, asks⟩

/--
Under a name without the flags suffix the type and the size make
one of four kinds.
-/
theorem kindBySize_mem_of_isFlagsType_eq_false
    {attr : Attribute} {settings : Settings}
    (unmarked : settings.isFlagsType attr.typeName = false) :
    attr.kindBySize settings ∈ [Kind.simple, .buffer, .array, .custom] := by
  rw [kindBySize, unmarked, if_neg Bool.false_ne_true]
  split
  · simp
  · split
    · simp
    · split <;> simp
    · split
      · simp
      · split <;> simp

theorem kindBySize_ne_sizeField (attr : Attribute) (settings : Settings) :
    attr.kindBySize settings ≠ .sizeField := by
  cases marked : settings.isFlagsType attr.typeName with
  | true => simp [kindBySize, marked]
  | false =>
      intro same
      have among := kindBySize_mem_of_isFlagsType_eq_false marked
      simp [same] at among

/--
A disposition that decides the kind makes a collection or a value of the type.
-/
theorem kind?_of_isPredisposed_eq_true
    {attr : Attribute} {settings : Settings} {siblings : List Attribute}
    (decided : attr.isPredisposed settings = true) :
    ∃ kind ∈ [Kind.varArray, .fillArray, .custom],
      attr.kind? settings siblings = some kind := by
  cases disposed : attr.disposition with
  | none =>
      simp [isPredisposed, isVariadic, isFilling, isInlined,
        disposed] at decided
  | some disposition =>
      cases disposition with
      | variadic => simp [kind?, disposed]
      | filling => simp [kind?, disposed]
      | inlined =>
          have generated : settings.generates attr.typeName = true := by
            simpa [isPredisposed, isVariadic, isFilling, isInlined, disposed]
              using decided
          simp [kind?, isInlined, disposed, generated]
      | constant =>
          simp [isPredisposed, isVariadic, isFilling, isInlined,
            disposed] at decided
      | unknown =>
          simp [isPredisposed, isVariadic, isFilling, isInlined,
            disposed] at decided

/--
Where the disposition leaves the kind open, siblings decide, and then the
type and the size.
-/
theorem kind?_of_isPredisposed_eq_false
    {attr : Attribute} {settings : Settings} {siblings : List Attribute}
    (known : attr.disposition ≠ some .unknown)
    (undecided : attr.isPredisposed settings = false) :
    attr.kind? settings siblings =
      some (if attr.isSizeField siblings then .sizeField
        else attr.kindBySize settings) := by
  rw [isPredisposed, Bool.or_eq_false_iff, Bool.or_eq_false_iff] at undecided
  rcases undecided with ⟨⟨notVariadic, notFilling⟩, notGenerated⟩
  rw [kind?]
  split
  · next variadic => simp [isVariadic, variadic] at notVariadic
  · next filling => simp [isFilling, filling] at notFilling
  · next unknown => exact absurd unknown known
  · rw [notGenerated]
    cases attr.isSizeField siblings <;> rfl

/--
An attribute is a size field for a sibling, unless its disposition
decides otherwise.
-/
theorem kind?_eq_sizeField_iff
    {attr : Attribute} {settings : Settings} {siblings : List Attribute}
    (known : attr.disposition ≠ some .unknown) :
    attr.kind? settings siblings = some .sizeField ↔
      attr.isPredisposed settings = false ∧
        attr.isSizeField siblings = true := by
  cases decided : attr.isPredisposed settings with
  | true =>
      rcases @kind?_of_isPredisposed_eq_true attr settings siblings decided with
        ⟨kind, among, classified⟩
      have other : kind ≠ .sizeField := by
        rintro rfl
        simp at among
      simp [classified, other]
  | false =>
      rw [kind?_of_isPredisposed_eq_false known decided]
      cases attr.isSizeField siblings with
      | true => simp
      | false => simp [kindBySize_ne_sizeField]

end Attribute

/-! ## Links -/

/--
No member before a place is of the same visit and of the same name
as the one there.
-/
def IsFirstOfName (members : List Member) (place : Nat)
    (member : Member) : Prop :=
  ∀ (earlier : Nat) (other : Member), earlier < place →
    members[earlier]? = some other →
    other.visit = member.visit → other.name ≠ member.name

/--
Another member of the same visit takes its size from the member at a place.
-/
def HoldsSize (members : List Member) (place : Nat) (member : Member) : Prop :=
  ∃ (other : Nat) (sized : Member),
    other ≠ place ∧ members[other]? = some sized ∧
    sized.visit = member.visit ∧ sized.sizeField = some place

namespace AreSized

variable {members : List Member} {place : Nat} {holder : Member}

/--
A member is linked with the first member of its visit that has the
name it asks for.
-/
theorem sizeField_eq_some_iff
    {member : Member}
    (sized : AreSized members)
    (located : members[place]? = some holder)
    (among : member ∈ members) :
    member.sizeField = some place ↔
      member.size = .field holder.name ∧ member.visit = holder.visit ∧
        IsFirstOfName members place holder := by
  rcases List.getElem?_eq_some_iff.mp located with ⟨bound, rfl⟩
  rw [sized.sizeField member among, Member.sizePlace]
  cases member.size with
  | literal count => simp
  | field reference =>
      simp only [List.findIdx?_eq_some_iff_getElem, Bool.and_eq_true,
        beq_iff_eq, Size.field.injEq]
      constructor
      · rintro ⟨_, ⟨sameVisit, rfl⟩, first⟩
        refine ⟨rfl, sameVisit.symm, ?_⟩
        intro earlier other before otherLocated otherVisit otherName
        rcases List.getElem?_eq_some_iff.mp otherLocated with ⟨_, rfl⟩
        exact first earlier before ⟨otherVisit.trans sameVisit, otherName⟩
      · rintro ⟨rfl, sameVisit, first⟩
        refine ⟨bound, ⟨sameVisit.symm, rfl⟩, ?_⟩
        rintro earlier before ⟨otherVisit, otherName⟩
        have otherLocated : members[earlier]? = some members[earlier] :=
          List.getElem?_eq_getElem (by omega)
        exact first earlier _ before otherLocated (otherVisit.trans sameVisit)
          otherName

/-- A member that does not ask for its own name is not linked with itself. -/
theorem sizeField_ne_own_place
    (sized : AreSized members)
    (located : members[place]? = some holder)
    (apart : holder.size ≠ .field holder.name) :
    holder.sizeField ≠ some place := by
  intro linked
  have among := List.mem_of_getElem? located
  exact apart ((sized.sizeField_eq_some_iff located among).mp linked).1

/-- A member is linked back with a member that takes its size from it. -/
theorem exists_of_sizedMember_eq_some
    {link : Nat}
    (sized : AreSized members)
    (located : members[place]? = some holder)
    (linked : holder.sizedMember = some link) :
    ∃ other, members[link]? = some other ∧ other.sizeField = some place := by
  rw [sized.sizedMember place holder located] at linked
  rcases List.findIdx?_eq_some_iff_getElem.mp linked with ⟨bound, holds, _⟩
  exact ⟨members[link], List.getElem?_eq_getElem bound, beq_iff_eq.mp holds⟩

theorem sizedMember_ne_own_place
    (sized : AreSized members)
    (located : members[place]? = some holder)
    (apart : holder.size ≠ .field holder.name) :
    holder.sizedMember ≠ some place := by
  intro linked
  rcases sized.exists_of_sizedMember_eq_some located linked with
    ⟨other, otherLocated, field⟩
  rcases Option.some.inj (located.symm.trans otherLocated) with rfl
  exact sized.sizeField_ne_own_place located apart field

/--
Other members take their sizes from the first member of the name they ask for.
-/
theorem holdsSize_iff
    (sized : AreSized members)
    (located : members[place]? = some holder)
    (apart : holder.size ≠ .field holder.name) :
    HoldsSize members place holder ↔
      IsFirstOfName members place holder ∧
        ∃ member ∈ members,
          member.visit = holder.visit ∧ member.size = .field holder.name := by
  constructor
  · rintro ⟨other, member, _, otherLocated, sameVisit, field⟩
    have among := List.mem_of_getElem? otherLocated
    rcases (sized.sizeField_eq_some_iff located among).mp field with
      ⟨asks, _, first⟩
    exact ⟨first, member, among, sameVisit, asks⟩
  · rintro ⟨first, member, among, sameVisit, asks⟩
    have field :=
      (sized.sizeField_eq_some_iff located among).mpr ⟨asks, sameVisit, first⟩
    rcases List.mem_iff_getElem?.mp among with ⟨other, otherLocated⟩
    refine ⟨other, member, ?_, otherLocated, sameVisit, field⟩
    rintro rfl
    rcases Option.some.inj (located.symm.trans otherLocated) with rfl
    exact apart asks

/--
A member is linked back with another one exactly if another one takes
its size from it.
-/
theorem exists_sizedMember_iff
    (sized : AreSized members)
    (located : members[place]? = some holder)
    (apart : holder.size ≠ .field holder.name) :
    (∃ other, other ≠ place ∧ holder.sizedMember = some other) ↔
      HoldsSize members place holder := by
  constructor
  · rintro ⟨other, different, linked⟩
    rcases sized.exists_of_sizedMember_eq_some located linked with
      ⟨member, otherLocated, field⟩
    have among := List.mem_of_getElem? otherLocated
    have sameVisit := ((sized.sizeField_eq_some_iff located among).mp field).2.1
    exact ⟨other, member, different, otherLocated, sameVisit, field⟩
  · rintro ⟨other, member, _, otherLocated, _, field⟩
    cases linked : holder.sizedMember with
    | some link =>
        refine ⟨link, ?_, rfl⟩
        rintro rfl
        exact sized.sizedMember_ne_own_place located apart linked
    | none =>
        rw [sized.sizedMember place holder located,
          List.findIdx?_eq_none_iff] at linked
        have unlinked := linked member (List.mem_of_getElem? otherLocated)
        simp [field] at unlinked

end AreSized

/-! ## Kinds and links -/

/--
How the kind and the size links of a member go with what the attributes
of a layout name.
-/
structure Member.AgreesOnSizes (settings : Settings) (layout : List Attribute)
    (attr : Attribute) (members : List Member) (place : Nat)
    (member : Member) : Prop where
  /--
  It is a size field for a sibling, unless its disposition decides otherwise.
  -/
  kind : member.kind = .sizeField ↔
    attr.isPredisposed settings = false ∧ attr.isSizeField layout = true
  /--
  It holds the size of another member if it is the first to which a
  contributor can refer.
  -/
  forward : HoldsSize members place member ↔
    IsFirstOfName members place member ∧
      attr.isSizeField (Attribute.contributing settings layout) = true
  /-- It is linked back exactly if it holds the size of another member. -/
  backward : (∃ other, other ≠ place ∧ member.sizedMember = some other) ↔
    HoldsSize members place member
  /-- It does not hold its own size. -/
  apart : member.sizeField ≠ some place ∧ member.sizedMember ≠ some place
  /-- Its kind and its links agree where neither decides by itself. -/
  agree : attr.isPredisposed settings = false →
    IsFirstOfName members place member →
    (attr.isSizeField layout = true →
      attr.isSizeField (Attribute.contributing settings layout) = true) →
    (member.kind = .sizeField ↔ HoldsSize members place member)

/-- The kind of a member is that of its attribute in the layout. -/
theorem Occurrence.Yields.kind_eq_sizeField_iff
    {context : WalkContext} {occurrence : Occurrence} {member : Member}
    (pair : occurrence.Yields context member) :
    member.kind = .sizeField ↔
      occurrence.step.attr.isPredisposed context.settings = false ∧
        occurrence.step.attr.isSizeField occurrence.layout = true := by
  rcases pair with ⟨_, kind, _, classified, _, same⟩
  have sameKind : member.kind = kind := by
    simpa only [Member.unlinked, Occurrence.member]
      using congrArg Member.kind same
  have known : occurrence.step.attr.disposition ≠ some .unknown := by
    intro unknown
    cases (Attribute.kind?_eq_none_iff.mpr unknown).symm.trans classified
  rw [sameKind, ← Attribute.kind?_eq_sizeField_iff known, classified,
    Option.some.injEq]

/--
A member of its visit asks for an occurrence's name exactly if a
contributor does.
-/
theorem Occurrence.Yields.exists_asks_iff
    {schema : Schema} {settings : Settings} {context : WalkContext}
    {frame : Frame} {lastVisit last : Nat} {occurrences : List Occurrence}
    {members : List Member} {occurrence : Occurrence} {member : Member}
    (pair : occurrence.Yields context member)
    (walk :
      Walks schema settings frame lastVisit (stepsOf frame.layout)
        occurrences last)
    (started : frame.visit ≤ lastVisit)
    (yields : List.Forall₂ (Occurrence.Yields context) occurrences members)
    (among : occurrence ∈ occurrences) :
    (∃ other ∈ members,
      other.visit = member.visit ∧ other.size = .field member.name) ↔
      occurrence.step.attr.isSizeField
          (Attribute.contributing settings occurrence.layout) =
        true := by
  have onVisit : (∃ other ∈ members, other.visit = member.visit ∧
        other.size = .field member.name) ↔
      ∃ other ∈ occurrences, other.visit = occurrence.visit ∧
        other.step.attr.sizeReference =
          some occurrence.step.attr.displayName := by
    refine (exists_mem_iff_of_forall₂ yields ?_).symm
    intro other otherMember otherPair
    rw [otherPair.size_eq_field_iff, otherPair.visit_eq, pair.visit_eq,
      pair.name_eq]
  rw [onVisit, walk.exists_same_visit_iff started among fun step =>
    step.attr.sizeReference = some occurrence.step.attr.displayName,
      Attribute.isSizeField_iff]
  constructor
  · rintro ⟨step, declared, contributes, asks⟩
    have inLayout := attr_mem_of_mem_stepsOf declared
    exact ⟨step.attr, List.mem_filter.mpr ⟨inLayout, contributes⟩, asks⟩
  · rintro ⟨sibling, inContributing, asks⟩
    rcases List.mem_filter.mp inContributing with ⟨inLayout, contributes⟩
    rcases exists_mem_stepsOf inLayout with ⟨step, declared, rfl⟩
    exact ⟨step, declared, contributes, asks⟩

/--
In a flattening the kind of a member and its size links agree as far as they
can, except for an attribute that names itself as its size.
-/
theorem agreesOnSizes_of_compose_eq_ok
    {schema : Schema} {settings : Settings} {language : Language}
    {root : String} {composition : Composition} {entries : List Appearance}
    {entry : Appearance} {place : Nat}
    (composed : compose schema settings language root = .ok composition)
    (flattening : IsFlattening schema settings root entries)
    (located : entries[place]? = some entry)
    (notOwn :
      entry.step.attr.sizeReference ≠ some entry.step.attr.displayName) :
    ∃ layout member, schema.layout? entry.owner = some layout ∧
      composition.members[place]? = some member ∧
      entry.IsShownBy schema settings member ∧
      member.AgreesOnSizes settings layout entry.step.attr composition.members
        place := by
  have shown := flattening.forall₂_isShownBy composed
  have sized := areSized_of_compose_eq_ok composed
  rcases exists_getElem?_of_forall₂ shown located with
    ⟨member, memberLocated, shows⟩
  rcases compose_eq_ok composed with
    ⟨rootLayout, occurrences, last, resolved, found, walk, yielded, links⟩
  have yields := forall₂_yields yielded links
  rcases flattening.unique (walk.flattens.isFlattening found) with rfl
  rw [List.getElem?_map, Option.map_eq_some_iff] at located
  rcases located with ⟨occurrence, occurrenceLocated, rfl⟩
  have among := List.mem_of_getElem? occurrenceLocated
  have owner := walk.layout?_owner found among
  rcases exists_getElem?_of_forall₂ yields occurrenceLocated with
    ⟨same, sameLocated, pair⟩
  rcases Option.some.inj (memberLocated.symm.trans sameLocated) with rfl
  refine ⟨occurrence.layout, member, owner, memberLocated, shows, ?_⟩
  have apart : member.size ≠ .field member.name := by
    rw [Ne, pair.size_eq_field_iff, pair.name_eq]
    exact notOwn
  have kind := pair.kind_eq_sizeField_iff
  have forward : HoldsSize composition.members place member ↔
      IsFirstOfName composition.members place member ∧
        occurrence.step.attr.isSizeField
          (Attribute.contributing settings occurrence.layout) = true := by
    rw [sized.holdsSize_iff memberLocated apart,
      pair.exists_asks_iff walk (Nat.le_refl _) yields among]
  refine ⟨kind, forward, sized.exists_sizedMember_iff memberLocated apart,
    ⟨sized.sizeField_ne_own_place memberLocated apart,
      sized.sizedMember_ne_own_place memberLocated apart⟩, ?_⟩
  intro undecided first contributed
  rw [kind, forward]
  constructor
  · rintro ⟨_, named⟩
    exact ⟨first, contributed named⟩
  · rintro ⟨_, named⟩
    exact ⟨undecided, Attribute.isSizeField_of_contributing named⟩

/-- An attribute that names itself as its size is linked with itself. -/
example :
    let own := { Attribute.named "own" "byte" with size := some (.field "own") }
    (compose (.ofList [("Block", .composite { layout := [own] })]) .standard
      .java "Block").map
      (fun composition => composition.members.map fun member =>
        (member.kind, member.sizeField, member.sizedMember)) =
      .ok [(.sizeField, some 0, some 0)] := by cbv

/--
A layout of sizes: one in a field that fills the remaining data, one of a
constant, and one in a field whose name occurs twice.
-/
def Schema.measuringLayout : List Attribute :=
  [{ Attribute.named "rest" "byte" with disposition := some .filling },
    { Attribute.named "data" "byte" with size := some (.field "rest") },
    { Attribute.named "count" "byte" with size := some (.literal 1) },
    { Attribute.named "LIMIT" "byte" with
      disposition := some .constant
      size := some (.field "count")
      value := some (.number 1) },
    { Attribute.named "length" "byte" with size := some (.literal 1) },
    { Attribute.named "length" "byte" with size := some (.literal 1) },
    { Attribute.named "body" "byte" with size := some (.field "length") }]

/-- A composite with this layout. -/
def Schema.measuring : Schema where
  entries := [("Block", .composite { layout := measuringLayout })]
  distinct := by decide

theorem exists_compose_measuring :
    ∃ composition,
      compose .measuring .standard .java "Block" = .ok composition ∧
      (composition.members.map fun member =>
        (member.kind, member.sizeField, member.sizedMember, member.visit)) =
        [(.fillArray, none, some 1, 0), (.buffer, some 0, none, 0),
          (.sizeField, none, none, 0), (.sizeField, none, some 5, 0),
          (.sizeField, none, none, 0), (.buffer, some 3, none, 0)] := by
  apply Outcome.map_eq_ok_iff.mp
  cbv

/--
The first of two fields of one name is a size field, and holds the size
of another member.
-/
theorem agreesOnSizes_measuring :
    ∃ composition entries member attr,
      compose .measuring .standard .java "Block" = .ok composition ∧
        IsFlattening .measuring .standard "Block" entries ∧
        (entries[3]?).map (fun entry => entry.step.attr) = some attr ∧
        attr.sizeReference ≠ some attr.displayName ∧
        composition.members[3]? = some member ∧
        member.AgreesOnSizes .standard Schema.measuringLayout attr
          composition.members 3 := by
  rcases exists_compose_measuring with ⟨composition, composed, _⟩
  have flattens :
      Flattens .measuring .standard [] "Block"
        (stepsOf Schema.measuringLayout) _ :=
    .plain (by decide) (by decide)
      (.plain (by decide) (by decide)
        (.plain (by decide) (by decide)
          (.constant (by decide)
            (.plain (by decide) (by decide)
              (.plain (by decide) (by decide)
                (.plain (by decide) (by decide) .done))))))
  have found :
      Schema.measuring.layout? "Block" = some Schema.measuringLayout := by cbv
  have flattening := flattens.isFlattening found
  rcases agreesOnSizes_of_compose_eq_ok composed flattening
    (List.getElem?_cons_succ.trans (List.getElem?_cons_succ.trans
      (List.getElem?_cons_succ.trans List.getElem?_cons_zero))) (by decide) with
    ⟨layout, member, owner, located, _, agrees⟩
  rcases Option.some.inj (found.symm.trans owner) with rfl
  exact ⟨composition, _, member, _, composed, flattening, rfl, by decide,
    located, agrees⟩

/--
Kinds and links may differ: a field that fills the remaining data may
hold a size, and a size field may be named only by a constant, or come
second under its name.
-/
theorem agreesOnSizes_measuring_not_iff :
    ∃ composition rest count length,
      compose .measuring .standard .java "Block" = .ok composition ∧
        composition.members[0]? = some rest ∧ rest.kind = .fillArray ∧
        HoldsSize composition.members 0 rest ∧
        composition.members[2]? = some count ∧ count.kind = .sizeField ∧
        count.sizedMember = none ∧ ¬ HoldsSize composition.members 2 count ∧
        composition.members[4]? = some length ∧ length.kind = .sizeField ∧
        length.sizedMember = none ∧
        ¬ HoldsSize composition.members 4 length := by
  rcases exists_compose_measuring with ⟨composition, composed, fields⟩
  have located (place : Nat) := congrArg (fun list => list[place]?) fields
  simp only [List.getElem?_map] at located
  have links : composition.members.map Member.sizeField =
      [none, some 0, none, none, none, some 3] := by
    have projected := congrArg (List.map fun field => field.2.1) fields
    rwa [List.map_map] at projected
  have unheld (place : Nat) (member : Member)
      (absent : some place ∉ [none, some 0, none, none, none, some 3]) :
      ¬ HoldsSize composition.members place member := by
    rintro ⟨other, sized, _, otherLocated, _, linked⟩
    apply absent
    have among :=
      List.mem_map_of_mem (f := Member.sizeField)
        (List.mem_of_getElem? otherLocated)
    rw [linked] at among
    rwa [links] at among
  rcases Option.map_eq_some_iff.mp (located 0) with
    ⟨rest, restLocated, restFields⟩
  rcases Option.map_eq_some_iff.mp (located 1) with
    ⟨data, dataLocated, dataFields⟩
  rcases Option.map_eq_some_iff.mp (located 2) with
    ⟨count, countLocated, countFields⟩
  rcases Option.map_eq_some_iff.mp (located 4) with
    ⟨length, lengthLocated, lengthFields⟩
  simp only [Prod.mk.injEq] at restFields dataFields countFields lengthFields
  refine ⟨composition, rest, count, length, composed, restLocated, restFields.1,
    ?_, countLocated, countFields.1, countFields.2.2.1,
    unheld 2 count (by decide), lengthLocated, lengthFields.1,
    lengthFields.2.2.1, unheld 4 length (by decide)⟩
  exact ⟨1, data, by decide, dataLocated,
    dataFields.2.2.2.trans restFields.2.2.2.symm, dataFields.2.1⟩

end WireLayout
