import WireLayout.Proofs.Flattening
import WireLayout.Proofs.TaggedValues

/-!
# The numbers of visits

Every way down from a composite, through one inlined attribute after the
other, is a visit of its own, also where several ways lead to the same
composite.  The visits are numbered in pre-order: a visit comes before those
below it, and what one attribute leads to comes before what a later attribute
of the same layout leads to.

A member of a composition carries the number of the visit on which
its attribute was met.  So two members have the same number exactly if one way
led to both, and the members of one number are the contributing attributes of
one layout, in their order.
-/

namespace WireLayout

/-! ## Ways in pre-order -/

/--
The ways of the visits that the remaining attributes of a composite
begin, in the order in which they begin, where some inlined attributes
led to the composite.
-/
inductive WaysBelow (schema : Schema) : List Step → List Step →
    List (List Step) → Prop where
  | done {via} :
      WaysBelow schema via [] []
  | passed {via step steps ways}
      (notInlined : step.attr.disposition ≠ some .inlined)
      (later : WaysBelow schema via steps ways) :
      WaysBelow schema via (step :: steps) ways
  | inlined {via step steps layout below ways}
      (inlined : step.attr.disposition = some .inlined)
      (found : schema.layout? step.attr.typeName = some layout)
      (inner : WaysBelow schema (via ++ [step]) (stepsOf layout) below)
      (later : WaysBelow schema via steps ways) :
      WaysBelow schema via (step :: steps) ((via ++ [step]) :: (below ++ ways))

/--
One way is before another in pre-order: it is the beginning of the other, or
where they part, it goes through the earlier attribute.
-/
def Precedes : List Step → List Step → Prop :=
  List.Lex fun step other => step.position < other.position

theorem Precedes.ne {way other : List Step} (before : Precedes way other) :
    way ≠ other := by
  apply List.Lex.to_ne
  apply before.imp
  intro step next earlier same
  rw [same] at earlier
  exact Nat.lt_irrefl _ earlier

/-- A way is before those that go on from it. -/
theorem precedes_append_cons (via path : List Step) (step : Step) :
    Precedes via (via ++ step :: path) := by
  have longer : Precedes (via ++ []) (via ++ step :: path) :=
    List.Lex.append_left
      (fun step other : Step => step.position < other.position) .nil via
  rwa [List.append_nil] at longer

/-- What goes through an attribute is before what goes through a later one. -/
theorem precedes_of_position_lt
    {step other : Step}
    (via path rest : List Step)
    (earlier : step.position < other.position) :
    Precedes (via ++ step :: path) (via ++ other :: rest) :=
  List.Lex.append_left (fun step other : Step => step.position < other.position)
    (.rel earlier) via

namespace WaysBelow

variable {schema : Schema} {via : List Step} {steps : List Step}
  {ways : List (List Step)}

/--
The visits begun are those to which a remaining inlined attribute
leads, and no others.
-/
theorem mem_iff
    {way : List Step}
    (below : WaysBelow schema via steps ways) :
    way ∈ ways ↔
      ∃ step ∈ steps, step.attr.disposition = some .inlined ∧
        ∃ path inner, way = via ++ step :: path ∧
          schema.Descends step.attr.typeName path inner := by
  induction below with
  | done => simp
  | passed notInlined _ ih => simp [ih, notInlined]
  | @inlined via step steps layout below ways inlined found _ _ innerIH
      laterIH =>
      have first :
          (way = via ++ [step] ∨ way ∈ below) ↔
            ∃ path inner, way = via ++ step :: path ∧
              schema.Descends step.attr.typeName path inner := by
        rw [innerIH]
        constructor
        · rintro (rfl | ⟨next, member, nextInlined, path, inner, rfl, rest⟩)
          · exact ⟨[], step.attr.typeName, rfl, .here⟩
          · exact ⟨next :: path, inner, by simp,
              .into found member nextInlined rest⟩
        · rintro ⟨path, inner, rfl, descends⟩
          cases descends with
          | here => exact Or.inl rfl
          | @into _ _ next path _ outerFound member nextInlined rest =>
              rcases Option.some.inj (found.symm.trans outerFound) with rfl
              exact Or.inr
                ⟨next, member, nextInlined, path, inner, by simp, rest⟩
      simp only [List.mem_cons, List.mem_append, exists_eq_or_imp, laterIH,
        inlined, true_and, ← first, or_assoc]

theorem exists_of_mem
    {way : List Step}
    (below : WaysBelow schema via steps ways)
    (member : way ∈ ways) :
    ∃ step ∈ steps, ∃ path, way = via ++ step :: path := by
  rcases below.mem_iff.mp member with ⟨step, among, _, path, _, same, _⟩
  exact ⟨step, among, path, same⟩

/-- The visits begun are in pre-order. -/
theorem pairwise_precedes
    (below : WaysBelow schema via steps ways)
    (ordered :
      steps.Pairwise fun step other => step.position < other.position) :
    ways.Pairwise Precedes := by
  induction below with
  | done => exact List.Pairwise.nil
  | passed _ _ ih => exact ih (List.pairwise_cons.mp ordered).2
  | @inlined via step steps layout below ways _ _ inner later innerIH laterIH =>
      rcases List.pairwise_cons.mp ordered with ⟨first, ordered⟩
      -- What lies below the attribute goes through it, and what follows
      -- through a later one.
      have apart (path : List Step) (way : List Step) (member : way ∈ ways) :
          Precedes (via ++ step :: path) way := by
        rcases later.exists_of_mem member with ⟨other, among, rest, rfl⟩
        exact precedes_of_position_lt via path rest (first other among)
      apply List.pairwise_cons.mpr
      constructor
      · intro way member
        rcases List.mem_append.mp member with inBelow | inLater
        · rcases inner.exists_of_mem inBelow with ⟨next, _, path, rfl⟩
          exact precedes_append_cons (via ++ [step]) path next
        · exact apart [] way inLater
      · apply List.pairwise_append.mpr
        refine ⟨innerIH (pairwise_stepsOf layout), laterIH ordered, ?_⟩
        intro way inBelow other inLater
        rcases inner.exists_of_mem inBelow with ⟨next, _, path, rfl⟩
        rw [List.append_assoc, List.singleton_append]
        exact apart (next :: path) other inLater

end WaysBelow

/--
What it means for a list of ways to number the visits of a composite and
of all below it.
-/
structure NumbersVisits (schema : Schema) (root : String)
    (ways : List (List Step)) : Prop where
  /--
  The visit of the composite itself is first, and those of its inlined
  attributes follow.
  -/
  preorder : ∃ layout below, schema.layout? root = some layout ∧
    WaysBelow schema [] (stepsOf layout) below ∧ ways = [] :: below
  /-- Every way down is numbered, and nothing else is. -/
  mem_iff : ∀ way, way ∈ ways ↔ ∃ inner, schema.Descends root way inner
  /-- The numbers go up in pre-order. -/
  sorted : ways.Pairwise Precedes
  /-- No way is numbered twice. -/
  nodup : ways.Nodup

theorem WaysBelow.numbersVisits
    {schema : Schema} {root : String} {layout : List Attribute}
    {below : List (List Step)}
    (ways : WaysBelow schema [] (stepsOf layout) below)
    (found : schema.layout? root = some layout) :
    NumbersVisits schema root ([] :: below) := by
  have sorted : ([] :: below).Pairwise Precedes := by
    apply List.pairwise_cons.mpr
    refine ⟨?_, ways.pairwise_precedes (pairwise_stepsOf layout)⟩
    intro way member
    rcases ways.exists_of_mem member with ⟨step, _, path, rfl⟩
    exact precedes_append_cons [] path step
  constructor
  · exact ⟨layout, below, found, ways, rfl⟩
  · intro way
    rw [List.mem_cons, ways.mem_iff]
    constructor
    · rintro (rfl | ⟨step, member, inlined, path, inner, rfl, rest⟩)
      · exact ⟨root, .here⟩
      · exact ⟨inner, .into found member inlined rest⟩
    · rintro ⟨inner, descends⟩
      cases descends with
      | here => exact Or.inl rfl
      | @into _ _ step path _ outerFound member inlined rest =>
          rcases Option.some.inj (found.symm.trans outerFound) with rfl
          exact Or.inr ⟨step, member, inlined, path, inner, rfl, rest⟩
  · exact sorted
  · exact sorted.imp Precedes.ne

/-- A way has one number only. -/
theorem NumbersVisits.getElem?_eq_some_iff
    {schema : Schema} {root : String} {ways : List (List Step)}
    {visit other : Nat} {way : List Step}
    (numbers : NumbersVisits schema root ways)
    (numbered : ways[visit]? = some way) :
    ways[other]? = some way ↔ other = visit := by
  constructor
  · intro same
    have inRange := (List.getElem?_eq_some_iff.mp same).1
    exact (List.getElem?_inj inRange numbers.nodup).mp
      (same.trans numbered.symm)
  · rintro rfl
    exact numbered

/-! ## What a walk numbers -/

/--
An occurrence carries the number of the visit to which its way belongs: the
visit of a frame, or one of those that began after a number.
-/
def Frame.Numbers (frame : Frame) (lastVisit : Nat) (ways : List (List Step))
    (occurrence : Occurrence) : Prop :=
  occurrence.visit = frame.visit ∧ occurrence.via = frame.via ∨
    ∃ place, occurrence.visit = lastVisit + 1 + place ∧
      ways[place]? = some occurrence.via

/--
A walk counts the visits that it begins, and gives them their
numbers in pre-order.
-/
theorem Walks.exists_waysBelow
    {schema : Schema} {settings : Settings} {frame : Frame}
    {lastVisit last : Nat} {steps : List Step} {occurrences : List Occurrence}
    (walk : Walks schema settings frame lastVisit steps occurrences last) :
    ∃ ways, WaysBelow schema frame.via steps ways ∧
      last = lastVisit + ways.length ∧
      ∀ occurrence ∈ occurrences, frame.Numbers lastVisit ways occurrence := by
  induction walk with
  | done => exact ⟨[], .done, rfl, by simp⟩
  | constant constant _ ih =>
      rcases ih with ⟨ways, below, count, numbered⟩
      exact ⟨ways, .passed (by simp [constant]) below, count, numbered⟩
  | @inlined frame lastVisit step steps layout block middle occurrences last
      inlined found _ _ _ innerIH laterIH =>
      rcases innerIH with ⟨inner, innerBelow, rfl, innerNumbered⟩
      rcases laterIH with ⟨later, laterBelow, rfl, laterNumbered⟩
      refine ⟨_, .inlined inlined found innerBelow laterBelow, ?_, ?_⟩
      · simp only [List.length_cons, List.length_append]
        omega
      · intro occurrence member
        rcases List.mem_append.mp member with inSlot | member
        · rcases Frame.mem_slot.mp inSlot with ⟨_, rfl⟩
          exact Or.inl ⟨rfl, rfl⟩
        · rcases List.mem_append.mp member with inBlock | inLater
          · rcases innerNumbered occurrence inBlock with
              ⟨visit, via⟩ | ⟨place, visit, way⟩
            · exact Or.inr ⟨0, visit, congrArg some via.symm⟩
            · refine Or.inr ⟨place + 1, by omega, ?_⟩
              rw [List.getElem?_cons_succ,
                List.getElem?_append_left (List.getElem?_eq_some_iff.mp way).1]
              exact way
          · rcases laterNumbered occurrence inLater with
              own | ⟨place, visit, way⟩
            · exact Or.inl own
            · refine Or.inr ⟨inner.length + place + 1, by omega, ?_⟩
              rw [List.getElem?_cons_succ,
                List.getElem?_append_right (Nat.le_add_right _ _),
                Nat.add_sub_cancel_left]
              exact way
  | plain _ notInlined _ ih =>
      rcases ih with ⟨ways, below, count, numbered⟩
      refine ⟨ways, .passed notInlined below, count, ?_⟩
      exact List.forall_mem_cons.mpr ⟨Or.inl ⟨rfl, rfl⟩, numbered⟩

/--
A walk of a whole composite numbers its visits from that of the composite,
which is visit 0.
-/
theorem Walks.exists_numbersVisits
    {schema : Schema} {settings : Settings} {root : String}
    {layout : List Attribute} {occurrences : List Occurrence} {last : Nat}
    (walk :
      Walks schema settings (.root root layout) 0 (stepsOf layout)
        occurrences last)
    (found : schema.layout? root = some layout) :
    ∃ ways, NumbersVisits schema root ways ∧ last + 1 = ways.length ∧
      ∀ occurrence ∈ occurrences,
        ways[occurrence.visit]? = some occurrence.via := by
  rcases walk.exists_waysBelow with ⟨below, ways, rfl, numbered⟩
  refine ⟨[] :: below, ways.numbersVisits found, by simp, ?_⟩
  intro occurrence member
  rcases numbered occurrence member with ⟨visit, via⟩ | ⟨place, visit, way⟩
  · rw [visit, via]
    rfl
  · rw [visit, Nat.zero_add, Nat.add_comm, List.getElem?_cons_succ]
    exact way

/-! ## The attributes of one way -/

namespace Flattens

variable {schema : Schema} {settings : Settings} {via : List Step}
  {owner : String} {steps : List Step} {entries : List Appearance}

/-- Where no way begins with some way, that way has no attributes. -/
theorem filter_via_eq_nil
    {way : List Step}
    (apart : ∀ entry ∈ entries, ¬ way <+: entry.via) :
    entries.filter (fun entry => entry.via = way) = [] := by
  apply List.filter_eq_nil_iff.mpr
  intro entry member same
  rw [decide_eq_true_eq] at same
  exact apart entry member (same ▸ List.prefix_rfl)

/--
The attributes of a composite itself are in its flattening in their order.
-/
theorem filter_own
    (flattens : Flattens schema settings via owner steps entries) :
    entries.filter (fun entry => entry.via = via) =
      (steps.filter fun step => step.attr.contributes settings).map
        (Appearance.mk via owner) := by
  induction flattens with
  | done => rfl
  | constant constant _ ih =>
      rw [List.filter_cons, Attribute.contributes_constant constant]
      exact ih
  | @inlined via owner step steps layout block entries inlined _ inner _ _
      laterIH =>
      have slotKept : (Appearance.slot settings via owner step).filter
          (fun entry => entry.via = via) =
            Appearance.slot settings via owner step := by
        apply List.filter_eq_self.mpr
        intro entry member
        rcases Appearance.mem_slot.mp member with ⟨_, rfl⟩
        exact decide_eq_true rfl
      have blockGone : block.filter (fun entry => entry.via = via) = [] := by
        apply List.filter_eq_nil_iff.mpr
        intro entry member same
        rw [decide_eq_true_eq] at same
        have below := (inner.via_prefix member).length_le
        simp [same] at below
      rw [List.filter_append, List.filter_append, slotKept, blockGone,
        List.nil_append, laterIH, List.filter_cons,
        Attribute.contributes_inlined inlined, Appearance.slot]
      split
      · rfl
      · rfl
  | @plain via owner step steps entries notConstant notInlined _ ih =>
      rw [List.filter_cons, List.filter_cons,
        Attribute.contributes_plain notConstant notInlined, ih]
      simp

/--
The attributes of one way are those of the composite to which it
leads, in their order.
-/
theorem filter_way
    {layout inside : List Attribute} {path : List Step} {inner : String}
    (flattens : Flattens schema settings via owner (stepsOf layout) entries)
    (found : schema.layout? owner = some layout)
    (descends : schema.Descends owner path inner)
    (innerFound : schema.layout? inner = some inside) :
    entries.filter (fun entry => entry.via = via ++ path) =
      ((stepsOf inside).filter fun step => step.attr.contributes settings).map
        (Appearance.mk (via ++ path) inner) := by
  induction descends generalizing via layout entries with
  | here =>
      rcases Option.some.inj (found.symm.trans innerFound) with rfl
      rw [List.append_nil]
      exact flattens.filter_own
  | @into outer outerLayout step path inner outerFound member inlined _ ih =>
      rcases Option.some.inj (found.symm.trans outerFound) with rfl
      rcases flattens.spliced_of_mem (nodup_stepsOf _) member inlined with
        ⟨layout, before, block, after, stepFound, rfl, inBlock, apart⟩
      have longer : via ++ [step] <+: via ++ step :: path :=
        (List.prefix_append_right_inj via).mpr (List.prefix_append [step] path)
      have outside (others : List Appearance)
          (among : others ⊆ before ++ after) :
          others.filter (fun entry => entry.via = via ++ step :: path) =
            [] := by
        apply filter_via_eq_nil
        intro entry inOthers below
        exact apart entry (among inOthers) (longer.trans below)
      have slotGone : (Appearance.slot settings via outer step).filter
          (fun entry => entry.via = via ++ step :: path) = [] := by
        apply filter_via_eq_nil
        intro entry inSlot below
        rcases Appearance.mem_slot.mp inSlot with ⟨_, rfl⟩
        simpa using below.length_le
      have inside := ih inBlock stepFound innerFound
      rw [List.append_assoc, List.singleton_append] at inside
      rw [List.filter_append, List.filter_append, List.filter_append, slotGone,
        inside, outside before (List.subset_append_left _ _),
        outside after (List.subset_append_right _ _)]
      simp

end Flattens

/-! ## Members and their visits -/

/--
How the members of a flattened composite tell the visits on which their
attributes were met.
-/
structure TellsVisits (schema : Schema) (settings : Settings) (root : String)
    (ways : List (List Step)) (entries : List Appearance)
    (members : List Member) : Prop where
  /--
  Each member shows what appears at its place, and has the number
  of the way to it.
  -/
  numbered : List.Forall₂
    (fun entry member => entry.IsShownBy schema settings member ∧
      ways[member.visit]? = some entry.via) entries members
  /--
  Two members have the same number exactly if they were met on the same visit.
  -/
  visit_eq_iff : ∀ entry member otherEntry otherMember,
    (entry, member) ∈ entries.zip members →
      (otherEntry, otherMember) ∈ entries.zip members →
      (member.visit = otherMember.visit ↔ entry.via = otherEntry.via)
  /--
  The members of a visit are the contributing attributes of its layout, as
  it declares them.
  -/
  declared : ∀ visit way owner layout,
    ways[visit]? = some way → schema.Descends root way owner →
      schema.layout? owner = some layout →
      List.Forall₂
        (fun step => Appearance.IsShownBy schema settings ⟨way, owner, step⟩)
        ((stepsOf layout).filter fun step => step.attr.contributes settings)
        (members.filter fun member => member.visit == visit)
  /--
  Those of visit 0 are the contributing attributes that the composite
  declares itself.
  -/
  own : ∀ layout, schema.layout? root = some layout →
    List.Forall₂
      (fun step => Appearance.IsShownBy schema settings ⟨[], root, step⟩)
      ((stepsOf layout).filter fun step => step.attr.contributes settings)
      (members.filter fun member => member.visit == 0)

/-- Members that have the numbers of their ways tell the visits. -/
theorem NumbersVisits.tellsVisits
    {schema : Schema} {settings : Settings} {root : String}
    {layout : List Attribute} {ways : List (List Step)}
    {entries : List Appearance} {members : List Member}
    (numbers : NumbersVisits schema root ways)
    (found : schema.layout? root = some layout)
    (flattens : Flattens schema settings [] root (stepsOf layout) entries)
    (numbered : List.Forall₂
      (fun entry member => entry.IsShownBy schema settings member ∧
        ways[member.visit]? = some entry.via) entries members) :
    TellsVisits schema settings root ways entries members := by
  have declared (visit : Nat) (way : List Step) (owner : String)
      (inside : List Attribute) (visited : ways[visit]? = some way)
      (descends : schema.Descends root way owner)
      (innerFound : schema.layout? owner = some inside) :
      List.Forall₂
        (fun step => Appearance.IsShownBy schema settings ⟨way, owner, step⟩)
        ((stepsOf inside).filter fun step => step.attr.contributes settings)
        (members.filter fun member => member.visit == visit) := by
    have kept := List.rel_filter
      (p := fun entry : Appearance => decide (entry.via = way))
      (q := fun member : Member => member.visit == visit)
      (by
        rintro entry member ⟨_, way⟩
        have only :=
          @numbers.getElem?_eq_some_iff _ _ _ _ member.visit _ visited
        rw [way, Option.some.injEq] at only
        simpa using only)
      numbered
    rw [← List.nil_append way, flattens.filter_way found descends innerFound,
      List.forall₂_map_left_iff, List.nil_append] at kept
    exact kept.imp fun _ _ both => both.1
  constructor
  · exact numbered
  · intro entry member otherEntry otherMember paired otherPaired
    have way := (List.forall₂_zip numbered paired).2
    have otherWay := (List.forall₂_zip numbered otherPaired).2
    rw [← numbers.getElem?_eq_some_iff otherWay, way, Option.some.injEq]
  · exact declared
  · intro own ownFound
    rcases numbers.preorder with ⟨_, _, _, _, rfl⟩
    exact declared 0 [] root own rfl .here ownFound

end WireLayout
