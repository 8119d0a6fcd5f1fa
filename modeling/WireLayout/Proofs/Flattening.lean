import WireLayout.Proofs.Members

/-!
# Flattenings

A flattening is the list of the attributes of a composite after its inlined
composites have been replaced by their layouts, each attribute with the way
that led to it.  It is defined by recursion over layouts, with one rule for
each thing an attribute can be, and without visits, paths of names or faults.

A composition that comes about lists exactly the flattening of its composite.
There is only one flattening, it has every contributing attribute below the
composite once for each way to it, and what one inlined attribute stands for is
contiguous in it.
-/

namespace WireLayout

/--
An attribute that appears in a flattening: the inlined attributes that
led to it, the composite that declares it, and its entry in the layout
of that composite.
-/
structure Appearance where
  via : List Step
  owner : String
  step : Step
  deriving DecidableEq, Repr

/-- Where an occurrence of a walk appears. -/
def Occurrence.appearance (occurrence : Occurrence) : Appearance :=
  ⟨occurrence.via, occurrence.owner, occurrence.step⟩

@[simp]
theorem Occurrence.appearance_step (occurrence : Occurrence) :
    occurrence.appearance.step = occurrence.step := rfl

/--
The appearance of an inlined attribute itself, where its composite is
generated.
-/
def Appearance.slot (settings : Settings) (via : List Step) (owner : String)
    (step : Step) : List Appearance :=
  if settings.generates step.attr.typeName then [⟨via, owner, step⟩] else []

theorem Appearance.mem_slot
    {settings : Settings} {via : List Step} {owner : String} {step : Step}
    {entry : Appearance} :
    entry ∈ slot settings via owner step ↔
      settings.generates step.attr.typeName = true ∧
        entry = ⟨via, owner, step⟩ := by
  simp [slot]

/--
The flattening of the remaining attributes of a composite that was reached
through some inlined attributes.

A constant contributes nothing.  An inlined attribute contributes its slot, if
its composite is generated, and the flattening of its composite right after it.
Every other attribute contributes itself.
-/
inductive Flattens (schema : Schema) (settings : Settings) :
    List Step → String → List Step → List Appearance → Prop where
  | done {via owner} :
      Flattens schema settings via owner [] []
  | constant {via owner step steps entries}
      (constant : step.attr.disposition = some .constant)
      (later : Flattens schema settings via owner steps entries) :
      Flattens schema settings via owner (step :: steps) entries
  | inlined {via owner step steps layout block entries}
      (inlined : step.attr.disposition = some .inlined)
      (found : schema.layout? step.attr.typeName = some layout)
      (inner :
        Flattens schema settings (via ++ [step]) step.attr.typeName
          (stepsOf layout) block)
      (later : Flattens schema settings via owner steps entries) :
      Flattens schema settings via owner (step :: steps)
        (Appearance.slot settings via owner step ++ (block ++ entries))
  | plain {via owner step steps entries}
      (notConstant : step.attr.disposition ≠ some .constant)
      (notInlined : step.attr.disposition ≠ some .inlined)
      (later : Flattens schema settings via owner steps entries) :
      Flattens schema settings via owner (step :: steps)
        (⟨via, owner, step⟩ :: entries)

/-- The way from a composite down to another one, through inlined attributes. -/
inductive Schema.Descends (schema : Schema) : String → List Step → String →
    Prop where
  | here {name} :
      Descends schema name [] name
  | into {outer layout step path inner}
      (found : schema.layout? outer = some layout)
      (member : step ∈ stepsOf layout)
      (inlined : step.attr.disposition = some .inlined)
      (rest : Descends schema step.attr.typeName path inner) :
      Descends schema outer (step :: path) inner

/--
An entry in the layout of a composite that contributes a field of its own.
-/
def Schema.Contributes (schema : Schema) (settings : Settings) (owner : String)
    (step : Step) : Prop :=
  ∃ layout, schema.layout? owner = some layout ∧ step ∈ stepsOf layout ∧
    step.attr.contributes settings = true

/-! ## Walks and flattenings -/

theorem Frame.map_appearance_slot (frame : Frame) (settings : Settings)
    (step : Step) :
    (frame.slot settings step).map Occurrence.appearance =
      Appearance.slot settings frame.via frame.owner step := by
  rw [slot, Appearance.slot]
  split
  · rfl
  · rfl

/-- What a walk to the end meets is the flattening of its steps. -/
theorem Walks.flattens
    {schema : Schema} {settings : Settings} {frame : Frame}
    {lastVisit last : Nat} {steps : List Step} {occurrences : List Occurrence}
    (walk : Walks schema settings frame lastVisit steps occurrences last) :
    Flattens schema settings frame.via frame.owner steps
      (occurrences.map Occurrence.appearance) := by
  induction walk with
  | done => exact .done
  | constant constant _ ih => exact .constant constant ih
  | @inlined frame lastVisit step steps layout block middle occurrences last
      inlined found _ _ _ innerIH laterIH =>
      rw [List.map_append, List.map_append, Frame.map_appearance_slot]
      exact .inlined inlined found innerIH laterIH
  | plain notConstant notInlined _ ih => exact .plain notConstant notInlined ih

/-- Nothing lies below two attributes of one composite at once. -/
theorem not_prefix_of_prefix_of_ne
    {via longer : List Step} {step other : Step}
    (below : via ++ [step] <+: longer)
    (different : step ≠ other) :
    ¬ via ++ [other] <+: longer := by
  intro belowOther
  rcases below with ⟨_, rfl⟩
  rcases belowOther with ⟨_, same⟩
  simp only [List.append_assoc, List.append_cancel_left_eq,
    List.singleton_append] at same
  exact different (List.cons.inj same).1.symm

namespace Flattens

variable {schema : Schema} {settings : Settings} {via : List Step}
  {owner : String} {steps : List Step} {entries : List Appearance}

/-- There is at most one flattening. -/
theorem unique
    {others : List Appearance}
    (flattens : Flattens schema settings via owner steps entries)
    (again : Flattens schema settings via owner steps others) :
    entries = others := by
  induction flattens generalizing others with
  | done =>
      cases again
      rfl
  | constant constant _ ih =>
      cases again with
      | constant _ later => exact ih later
      | inlined inlined => simp [constant] at inlined
      | plain notConstant => exact absurd constant notConstant
  | inlined inlined found _ _ innerIH laterIH =>
      cases again with
      | constant constant => simp [inlined] at constant
      | inlined _ foundAgain inner later =>
          rcases Option.some.inj (found.symm.trans foundAgain) with rfl
          rw [innerIH inner, laterIH later]
      | plain _ notInlined => exact absurd inlined notInlined
  | plain notConstant notInlined _ ih =>
      cases again with
      | constant constant => exact absurd constant notConstant
      | inlined inlined => exact absurd inlined notInlined
      | plain _ _ later => rw [ih later]

/--
Below a composite lie its own attributes and what lies below those
that it inlines.
-/
theorem below_iff
    {layout : List Attribute} {entry : Appearance}
    (found : schema.layout? owner = some layout) :
    (∃ path, entry.via = via ++ path ∧ schema.Descends owner path entry.owner ∧
        schema.Contributes settings entry.owner entry.step) ↔
      (∃ step ∈ stepsOf layout, step.attr.contributes settings = true ∧
          entry = ⟨via, owner, step⟩) ∨
        ∃ step ∈ stepsOf layout, step.attr.disposition = some .inlined ∧
          ∃ path, entry.via = via ++ step :: path ∧
            schema.Descends step.attr.typeName path entry.owner ∧
            schema.Contributes settings entry.owner entry.step := by
  rcases entry with ⟨entryVia, entryOwner, entryStep⟩
  constructor
  · rintro ⟨path, through, descends, contributes⟩
    cases descends with
    | here =>
        rcases contributes with ⟨own, ownFound, member, contributes⟩
        rcases Option.some.inj (found.symm.trans ownFound) with rfl
        rw [List.append_nil] at through
        exact Or.inl ⟨entryStep, member, contributes, by rw [← through]⟩
    | into outerFound member inlined rest =>
        rcases Option.some.inj (found.symm.trans outerFound) with rfl
        exact Or.inr ⟨_, member, inlined, _, through, rest, contributes⟩
  · rintro (⟨step, member, contributes, same⟩ | ⟨step, member, inlined, path,
      through, rest⟩)
    · cases same
      exact ⟨[], (List.append_nil via).symm, .here, layout, found, member,
        contributes⟩
    · exact ⟨step :: path, through, .into found member inlined rest.1, rest.2⟩

/--
A flattening has the contributing attributes themselves, and what lies below
the inlined ones, and nothing else.
-/
theorem mem_iff
    {entry : Appearance}
    (flattens : Flattens schema settings via owner steps entries) :
    entry ∈ entries ↔
      (∃ step ∈ steps,
        step.attr.contributes settings = true ∧ entry = ⟨via, owner, step⟩) ∨
        ∃ step ∈ steps, step.attr.disposition = some .inlined ∧
          ∃ path, entry.via = via ++ step :: path ∧
            schema.Descends step.attr.typeName path entry.owner ∧
            schema.Contributes settings entry.owner entry.step := by
  induction flattens with
  | done => simp
  | @constant _ _ step _ _ constant _ ih =>
      have silent : step.attr.contributes settings = false :=
        Attribute.contributes_constant constant
      simp [ih, constant, silent]
  | @inlined via owner step steps layout block entries inlined found _ _ innerIH
      laterIH =>
      have contributes :
          step.attr.contributes settings =
            settings.generates step.attr.typeName :=
        Attribute.contributes_inlined inlined
      rw [← below_iff found] at innerIH
      simp only [List.append_assoc, List.singleton_append] at innerIH
      simp only [List.mem_append, List.mem_cons, exists_eq_or_imp,
        Appearance.mem_slot, innerIH, laterIH, contributes, inlined, true_and]
      rw [← or_assoc]
      exact or_or_or_comm
  | @plain _ _ step _ _ notConstant notInlined _ ih =>
      have contributes : step.attr.contributes settings = true :=
        Attribute.contributes_plain notConstant notInlined
      simp [ih, notInlined, contributes, or_assoc]

/--
A flattening of a whole composite has what lies below the composite,
and nothing else.
-/
theorem mem_iff_below
    {layout : List Attribute} {entry : Appearance}
    (flattens : Flattens schema settings via owner (stepsOf layout) entries)
    (found : schema.layout? owner = some layout) :
    entry ∈ entries ↔
      ∃ path, entry.via = via ++ path ∧ schema.Descends owner path entry.owner ∧
        schema.Contributes settings entry.owner entry.step := by
  rw [flattens.mem_iff, below_iff found]

/--
All that appears in a flattening was reached through what the flattening was
reached through.
-/
theorem via_prefix
    {entry : Appearance}
    (flattens : Flattens schema settings via owner steps entries)
    (member : entry ∈ entries) :
    via <+: entry.via := by
  rcases flattens.mem_iff.mp member with
    ⟨step, _, _, rfl⟩ | ⟨step, _, _, path, through, _⟩
  · exact List.prefix_rfl
  · rw [through]
    exact List.prefix_append _ _

/--
What was reached through an inlined attribute lies below no other attribute.
-/
theorem not_prefix_of_not_mem
    {step : Step} {entry : Appearance}
    (flattens : Flattens schema settings via owner steps entries)
    (absent : step ∉ steps)
    (member : entry ∈ entries) :
    ¬ via ++ [step] <+: entry.via := by
  rintro ⟨rest, through⟩
  rcases flattens.mem_iff.mp member with
    ⟨other, _, _, rfl⟩ | ⟨other, among, _, path, below, _⟩
  · simpa using congrArg List.length through
  · rw [below, List.append_assoc, List.singleton_append] at through
    rcases List.cons.inj (List.append_cancel_left through) with ⟨rfl, _⟩
    exact absent among

/-- An attribute that does not remain does not appear itself. -/
theorem not_mem_of_not_mem
    {step : Step}
    (flattens : Flattens schema settings via owner steps entries)
    (absent : step ∉ steps) :
    ⟨via, owner, step⟩ ∉ entries := by
  intro member
  rcases flattens.mem_iff.mp member with
    ⟨other, among, _, same⟩ | ⟨_, _, _, _, through, _⟩
  · cases same
    exact absent among
  · simpa using congrArg List.length through

theorem nodup
    (flattens : Flattens schema settings via owner steps entries)
    (distinct : steps.Nodup) :
    entries.Nodup := by
  induction flattens with
  | done => exact List.nodup_nil
  | constant _ _ ih => exact ih (List.nodup_cons.mp distinct).2
  | @inlined via owner step steps layout block entries _ _ inner later innerIH
      laterIH =>
      rcases List.nodup_cons.mp distinct with ⟨absent, distinct⟩
      have slotNodup : (Appearance.slot settings via owner step).Nodup := by
        rw [Appearance.slot]
        split
        · exact List.nodup_singleton _
        · exact List.nodup_nil
      have blockApart : List.Disjoint block entries := by
        intro entry inBlock inEntries
        exact later.not_prefix_of_not_mem absent inEntries
          (inner.via_prefix inBlock)
      have slotApart : List.Disjoint (Appearance.slot settings via owner step)
          (block ++ entries) := by
        intro entry inSlot inRest
        rcases Appearance.mem_slot.mp inSlot with ⟨_, rfl⟩
        rcases List.mem_append.mp inRest with inBlock | inEntries
        · exact absurd (inner.via_prefix inBlock).length_le (by simp)
        · exact later.not_mem_of_not_mem absent inEntries
      exact slotNodup.append
        ((innerIH (nodup_stepsOf layout)).append (laterIH distinct) blockApart)
        slotApart
  | @plain via owner step steps entries _ _ later ih =>
      rcases List.nodup_cons.mp distinct with ⟨absent, distinct⟩
      exact List.nodup_cons.mpr ⟨later.not_mem_of_not_mem absent, ih distinct⟩

/--
What one of the remaining inlined attributes stands for is contiguous: its
slot, if it has one, and right after it the flattening of its composite.
Nothing else was reached through it.
-/
theorem spliced_of_mem
    {step : Step}
    (flattens : Flattens schema settings via owner steps entries)
    (distinct : steps.Nodup)
    (member : step ∈ steps)
    (inlined : step.attr.disposition = some .inlined) :
    ∃ layout before block after,
      schema.layout? step.attr.typeName = some layout ∧
        entries = before ++ Appearance.slot settings via owner step ++
          block ++ after ∧
        Flattens schema settings (via ++ [step]) step.attr.typeName
          (stepsOf layout) block ∧
        ∀ entry ∈ before ++ after, ¬ via ++ [step] <+: entry.via := by
  induction flattens with
  | done => cases member
  | constant constant later ih =>
      rcases List.nodup_cons.mp distinct with ⟨_, distinct⟩
      rcases List.mem_cons.mp member with rfl | member
      · simp [constant] at inlined
      · exact ih distinct member
  | @inlined via owner head steps layout block entries headInlined found inner
      later _ laterIH =>
      rcases List.nodup_cons.mp distinct with ⟨absent, distinct⟩
      rcases List.mem_cons.mp member with rfl | member
      · refine ⟨layout, [], block, entries, found, by simp, inner, ?_⟩
        intro entry inEntries
        exact later.not_prefix_of_not_mem absent inEntries
      · rcases laterIH distinct member with
          ⟨innerLayout, before, innerBlock, after, innerFound, rfl,
            innerFlattens, apart⟩
        refine ⟨innerLayout,
          Appearance.slot settings via owner head ++ block ++ before,
          innerBlock, after, innerFound, by simp, innerFlattens, ?_⟩
        intro entry among below
        simp only [List.append_assoc, List.mem_append] at among
        rcases among with inSlot | inHeadBlock | among
        · rcases Appearance.mem_slot.mp inSlot with ⟨_, rfl⟩
          exact absurd below.length_le (by simp)
        · have different : head ≠ step := fun same => absent (same ▸ member)
          exact not_prefix_of_prefix_of_ne (inner.via_prefix inHeadBlock)
            different below
        · exact apart entry (List.mem_append.mpr among) below
  | @plain via owner head steps entries _ notInlined later ih =>
      rcases List.nodup_cons.mp distinct with ⟨absent, distinct⟩
      rcases List.mem_cons.mp member with rfl | member
      · exact absurd inlined notInlined
      · rcases ih distinct member with
          ⟨layout, before, block, after, found, rfl, inner, apart⟩
        refine ⟨layout, ⟨via, owner, head⟩ :: before, block, after,
          found, by simp, inner, ?_⟩
        intro entry among below
        rcases List.mem_cons.mp among with rfl | among
        · exact absurd below.length_le (by simp)
        · exact apart entry among below

/--
What an inlined attribute anywhere below a composite stands for is contiguous
in the flattening of the composite, once for each way to it.
-/
theorem spliced
    {layout inside : List Attribute} {path : List Step} {inner : String}
    {step : Step}
    (flattens : Flattens schema settings via owner (stepsOf layout) entries)
    (found : schema.layout? owner = some layout)
    (descends : schema.Descends owner path inner)
    (innerFound : schema.layout? inner = some inside)
    (member : step ∈ stepsOf inside)
    (inlined : step.attr.disposition = some .inlined) :
    ∃ layout before block after,
      schema.layout? step.attr.typeName = some layout ∧
        entries = before ++ Appearance.slot settings (via ++ path) inner step ++
          block ++ after ∧
        Flattens schema settings (via ++ path ++ [step]) step.attr.typeName
          (stepsOf layout) block ∧
        ∀ entry ∈ before ++ after, ¬ via ++ path ++ [step] <+: entry.via := by
  induction descends generalizing via layout entries with
  | here =>
      rcases Option.some.inj (found.symm.trans innerFound) with rfl
      rw [List.append_nil]
      exact flattens.spliced_of_mem (nodup_stepsOf _) member inlined
  | @into outer outerLayout first path inner outerFound firstMember
      firstInlined _ ih =>
      rcases Option.some.inj (found.symm.trans outerFound) with rfl
      rcases flattens.spliced_of_mem (nodup_stepsOf _) firstMember
          firstInlined with
        ⟨firstLayout, before, block, after, firstFound, rfl, inFirst, apart⟩
      rcases ih inFirst firstFound innerFound with
        ⟨target, beforeInner, blockInner, afterInner, targetFound, rfl,
          inTarget, apartInner⟩
      simp only [List.append_assoc, List.cons_append,
        List.nil_append] at inTarget apartInner ⊢
      refine ⟨target,
        before ++ (Appearance.slot settings via outer first ++ beforeInner),
        blockInner, afterInner ++ after, targetFound, by simp, inTarget, ?_⟩
      intro entry among below
      have belowFirst : via ++ [first] <+: entry.via := by
        refine List.IsPrefix.trans ?_ below
        rw [List.prefix_append_right_inj]
        exact List.prefix_append [first] _
      simp only [List.append_assoc, List.mem_append] at among
      rcases among with
        inBefore | inSlot | inBeforeInner | inAfterInner | inAfter
      · exact apart entry (List.mem_append_left _ inBefore) belowFirst
      · rcases Appearance.mem_slot.mp inSlot with ⟨_, rfl⟩
        exact absurd belowFirst.length_le (by simp)
      · exact apartInner entry (List.mem_append_left _ inBeforeInner) below
      · exact apartInner entry (List.mem_append_right _ inAfterInner) below
      · exact apart entry (List.mem_append_right _ inAfter) belowFirst

end Flattens

/-! ## Visits and ways -/

namespace Walks

variable {schema : Schema} {settings : Settings} {frame : Frame}
  {lastVisit last : Nat} {steps : List Step} {occurrences : List Occurrence}
  {occurrence other : Occurrence}

theorem not_prefix_of_not_mem
    {step : Step}
    (walk : Walks schema settings frame lastVisit steps occurrences last)
    (absent : step ∉ steps)
    (among : occurrence ∈ occurrences) :
    ¬ frame.via ++ [step] <+: occurrence.via :=
  walk.flattens.not_prefix_of_not_mem absent (List.mem_map_of_mem among)

theorem visit_eq_iff_of_own
    (walk : Walks schema settings frame lastVisit steps occurrences last)
    (started : frame.visit ≤ lastVisit)
    (own : occurrence.visit = frame.visit ∧ occurrence.via = frame.via)
    (otherAmong : other ∈ occurrences) :
    occurrence.visit = other.visit ↔ occurrence.via = other.via := by
  rw [own.1, own.2, eq_comm, walk.visit_eq_own_iff started otherAmong, eq_comm]

/--
Two occurrences of a walk are of one visit exactly if one way led
to both of them.
-/
theorem visit_eq_iff
    (walk : Walks schema settings frame lastVisit steps occurrences last)
    (started : frame.visit ≤ lastVisit)
    (distinct : steps.Nodup)
    (among : occurrence ∈ occurrences)
    (otherAmong : other ∈ occurrences) :
    occurrence.visit = other.visit ↔ occurrence.via = other.via := by
  induction walk generalizing occurrence other with
  | done => cases among
  | constant _ _ ih =>
      exact ih started (List.nodup_cons.mp distinct).2 among otherAmong
  | @inlined frame lastVisit step steps layout block middle occurrences last
      inlined found fresh inner later innerIH laterIH =>
      rcases List.nodup_cons.mp distinct with ⟨absent, distinct⟩
      have innerRange := inner.lastVisit_le
      have whole := Walks.inlined inlined found fresh inner later
      have slotOwn {occurrence : Occurrence}
          (inSlot : occurrence ∈ frame.slot settings step) :
          occurrence.visit = frame.visit ∧ occurrence.via = frame.via := by
        rcases Frame.mem_slot.mp inSlot with ⟨_, rfl⟩
        exact ⟨rfl, rfl⟩
      -- The visits of the block are over before later ones begin, and its ways
      -- go through the step.
      have apart {occurrence other : Occurrence} (inBlock : occurrence ∈ block)
          (inLater : other ∈ occurrences) :
          occurrence.visit ≠ other.visit ∧ occurrence.via ≠ other.via := by
        have range := inner.visit_bounds inBlock
        have below : frame.via ++ [step] <+: occurrence.via :=
          inner.flattens.via_prefix (List.mem_map_of_mem inBlock)
        constructor
        · rcases later.visit_cases inLater with own | ⟨above, _⟩
          · omega
          · omega
        · intro same
          exact later.not_prefix_of_not_mem absent inLater (same ▸ below)
      have split (occurrence : Occurrence)
          (among :
            occurrence ∈ frame.slot settings step ++ (block ++ occurrences)) :
          occurrence ∈ frame.slot settings step ∨ occurrence ∈ block ∨
            occurrence ∈ occurrences := by
        rwa [List.mem_append, List.mem_append] at among
      rcases split occurrence among with inSlot | inBlock | inLater
      · exact whole.visit_eq_iff_of_own started (slotOwn inSlot) otherAmong
      · rcases split other otherAmong with
          otherInSlot | otherInBlock | otherInLater
        · rw [eq_comm,
            whole.visit_eq_iff_of_own started (slotOwn otherInSlot) among,
            eq_comm]
        · exact innerIH (Nat.le_refl _) (nodup_stepsOf layout) inBlock
            otherInBlock
        · exact iff_of_false (apart inBlock otherInLater).1
            (apart inBlock otherInLater).2
      · rcases split other otherAmong with
          otherInSlot | otherInBlock | otherInLater
        · rw [eq_comm,
            whole.visit_eq_iff_of_own started (slotOwn otherInSlot) among,
            eq_comm]
        · exact iff_of_false (apart otherInBlock inLater).1.symm
            (apart otherInBlock inLater).2.symm
        · exact laterIH (by omega) distinct inLater otherInLater
  | @plain frame lastVisit step steps occurrences last notConstant notInlined
      later ih =>
      have whole := Walks.plain notConstant notInlined later
      rcases List.mem_cons.mp among with rfl | among
      · exact whole.visit_eq_iff_of_own started ⟨rfl, rfl⟩ otherAmong
      · rcases List.mem_cons.mp otherAmong with rfl | otherAmong
        · rw [eq_comm,
            whole.visit_eq_iff_of_own started ⟨rfl, rfl⟩
              (List.mem_cons_of_mem _ among), eq_comm]
        · exact ih started (List.nodup_cons.mp distinct).2 among otherAmong

end Walks

/-! ## Flattened composites -/

/-- What it means for a list to be the flattening of a composite. -/
structure IsFlattening (schema : Schema) (settings : Settings) (root : String)
    (entries : List Appearance) : Prop where
  /-- It is what the rules yield for the layout, and they yield nothing else. -/
  determined : ∃ layout, schema.layout? root = some layout ∧
    ∀ others, Flattens schema settings [] root (stepsOf layout) others ↔
      others = entries
  /-- Nothing is duplicated. -/
  nodup : entries.Nodup
  /-- Nothing is lost, and nothing is made up. -/
  mem_iff : ∀ entry, entry ∈ entries ↔
    schema.Descends root entry.via entry.owner ∧
      schema.Contributes settings entry.owner entry.step
  /--
  What an inlined attribute stands for is contiguous, once for each way to it.
  -/
  spliced : ∀ path inner inside step, schema.Descends root path inner →
    schema.layout? inner = some inside → step ∈ stepsOf inside →
      step.attr.disposition = some .inlined →
        ∃ layout before block after,
          schema.layout? step.attr.typeName = some layout ∧
            entries = before ++ Appearance.slot settings path inner step ++
              block ++ after ∧
            Flattens schema settings (path ++ [step]) step.attr.typeName
              (stepsOf layout) block ∧
            ∀ entry ∈ before ++ after, ¬ path ++ [step] <+: entry.via

theorem Flattens.isFlattening
    {schema : Schema} {settings : Settings} {root : String}
    {layout : List Attribute} {entries : List Appearance}
    (flattens : Flattens schema settings [] root (stepsOf layout) entries)
    (found : schema.layout? root = some layout) :
    IsFlattening schema settings root entries := by
  constructor
  · refine ⟨layout, found, ?_⟩
    intro others
    constructor
    · exact fun again => again.unique flattens
    · rintro rfl
      exact flattens
  · exact flattens.nodup (nodup_stepsOf layout)
  · intro entry
    simpa using flattens.mem_iff_below found
  · intro path inner inside step descends innerFound member inlined
    simpa only [List.nil_append]
      using flattens.spliced found descends innerFound member inlined

theorem IsFlattening.unique
    {schema : Schema} {settings : Settings} {root : String}
    {entries others : List Appearance}
    (flattening : IsFlattening schema settings root entries)
    (again : IsFlattening schema settings root others) :
    entries = others := by
  rcases flattening.determined with ⟨layout, found, exactly⟩
  rcases again.determined with ⟨otherLayout, otherFound, otherExactly⟩
  rcases Option.some.inj (found.symm.trans otherFound) with rfl
  exact (otherExactly entries).mp ((exactly entries).mpr rfl)

/-- A member is the field that an attribute declares where it appears. -/
structure Appearance.IsShownBy (schema : Schema) (settings : Settings)
    (entry : Appearance) (member : Member) : Prop where
  name : member.name = entry.step.attr.displayName
  typeName : member.typeName = entry.step.attr.typeName
  kind : ∃ layout, schema.layout? entry.owner = some layout ∧
    layout[entry.step.position]? = some entry.step.attr ∧
    entry.step.attr.kind? settings layout = some member.kind
  size :
    entry.step.attr.resolvedSize schema settings entry.owner = .ok member.size
  signedness : member.signedness = entry.step.attr.resolvedSignedness schema
  condition : member.condition = entry.step.attr.memberCondition
  sortKey : member.sortKey = entry.step.attr.sortKey
  comment : member.comment = entry.step.attr.comment
  isAggregate : member.isAggregate = entry.step.attr.isInlined
  isReserved : member.isReserved = entry.step.attr.isReserved
  isOwn : member.visit = 0 ↔ entry.via = []

/-- The member of an occurrence shows the attribute where it occurs. -/
theorem Occurrence.Yields.isShownBy
    {context : WalkContext} {occurrence : Occurrence} {member : Member}
    (yields : occurrence.Yields context member)
    (found : context.schema.layout? occurrence.owner = some occurrence.layout)
    (declared : occurrence.step ∈ stepsOf occurrence.layout)
    (own : occurrence.visit = 0 ↔ occurrence.via = []) :
    occurrence.appearance.IsShownBy context.schema context.settings member := by
  have sameVisit := yields.visit_eq
  rcases yields with ⟨earlier, kind, size, classified, sized, same⟩
  have sameKind : member.kind = kind := congrArg Member.kind same
  have sameSize : member.size = size := congrArg Member.size same
  constructor
  · simpa only [Occurrence.appearance_step, Member.unlinked, Occurrence.member]
      using congrArg Member.name same
  · simpa only [Occurrence.appearance_step, Member.unlinked, Occurrence.member]
      using congrArg Member.typeName same
  · rw [sameKind]
    exact ⟨occurrence.layout, found, mem_stepsOf.mp declared, classified⟩
  · rw [sameSize]
    exact sized
  · simpa only [Occurrence.appearance_step, Member.unlinked, Occurrence.member]
      using congrArg Member.signedness same
  · simpa only [Occurrence.appearance_step, Member.unlinked, Occurrence.member]
      using congrArg Member.condition same
  · simpa only [Occurrence.appearance_step, Member.unlinked, Occurrence.member]
      using congrArg Member.sortKey same
  · simpa only [Occurrence.appearance_step, Member.unlinked, Occurrence.member]
      using congrArg Member.comment same
  · simpa only [Occurrence.appearance_step, Member.unlinked, Occurrence.member]
      using congrArg Member.isAggregate same
  · simpa only [Occurrence.appearance_step, Member.unlinked, Occurrence.member]
      using congrArg Member.isReserved same
  · rw [sameVisit]
    exact own

/--
What a walk from a composite meets is shown by the members that it yields.
-/
theorem Walks.forall₂_isShownBy
    {schema : Schema} {settings : Settings} {language : Language}
    {root : String} {layout : List Attribute} {occurrences : List Occurrence}
    {last : Nat} {members : List Member}
    (walk :
      Walks schema settings (.root root layout) 0 (stepsOf layout)
        occurrences last)
    (found : schema.layout? root = some layout)
    (yields :
      List.Forall₂
        (Occurrence.Yields (.of schema settings language root layout))
        occurrences members) :
    List.Forall₂ (Appearance.IsShownBy schema settings)
      (occurrences.map Occurrence.appearance) members := by
  have placed (occurrence : Occurrence) (member : occurrence ∈ occurrences) :
      schema.layout? occurrence.owner = some occurrence.layout ∧
        occurrence.step ∈ stepsOf occurrence.layout ∧
        (occurrence.visit = 0 ↔ occurrence.via = []) :=
    ⟨walk.layout?_owner found member,
      (walk.mem_stepsOf_and_contributes (Nat.le_refl _) member).1,
      walk.visit_eq_zero_iff member⟩
  rw [List.forall₂_map_left_iff]
  refine ((List.forall₂_and_left _ _).mpr ⟨placed, yields⟩).imp ?_
  rintro occurrence member ⟨⟨ownFound, declared, own⟩, yields⟩
  exact yields.isShownBy ownFound declared own

/-- The members of a composition show any flattening of its composite. -/
theorem IsFlattening.forall₂_isShownBy
    {schema : Schema} {settings : Settings} {language : Language}
    {root : String} {entries : List Appearance} {composition : Composition}
    (flattening : IsFlattening schema settings root entries)
    (composed : compose schema settings language root = .ok composition) :
    List.Forall₂ (Appearance.IsShownBy schema settings) entries
      composition.members := by
  rcases compose_eq_ok composed with
    ⟨layout, occurrences, last, resolved, found, walk, yielded, links⟩
  rw [flattening.unique (walk.flattens.isFlattening found)]
  exact walk.forall₂_isShownBy found (forall₂_yields yielded links)

/--
The members of a composition are the flattening of its composite, in order: one
member for each attribute that appears, and none besides.
-/
theorem compose_isFlattening
    {schema : Schema} {settings : Settings} {language : Language}
    {root : String} {composition : Composition}
    (composed : compose schema settings language root = .ok composition) :
    ∃ entries, IsFlattening schema settings root entries ∧
      List.Forall₂ (Appearance.IsShownBy schema settings) entries
        composition.members := by
  rcases compose_eq_ok composed with
    ⟨layout, occurrences, last, resolved, found, walk, yielded, links⟩
  have flattening := walk.flattens.isFlattening found
  exact ⟨occurrences.map Occurrence.appearance, flattening,
    flattening.forall₂_isShownBy composed⟩

/--
A composite that inlines another one twice, once directly and once below
a dissolved one.
-/
def Schema.layered : Schema where
  entries := [
    ("Mosaic",
      .composite { layout := [.named "id" "byte", .named "amount" "byte"] }),
    ("EntityBody",
      .composite { layout := [.named "version" "byte", .inlining "Mosaic"] }),
    ("Transfer",
      .composite { layout := [.inlining "EntityBody", .inlining "Mosaic"] })]
  distinct := by decide

/-- Settings under which one composite is dissolved. -/
def Settings.dissolving (name : String) : Settings :=
  { Settings.standard with
    excludedTypes := ⟨[name], List.pairwise_singleton _ name⟩ }

/-- The composite is flattened, with the other one spliced in on both ways. -/
theorem isFlattening_layered :
    ∃ composition,
      compose .layered (.dissolving "EntityBody") .java "Transfer" =
        .ok composition ∧
      ∃ entries,
        IsFlattening .layered (.dissolving "EntityBody") "Transfer" entries ∧
        List.Forall₂
          (Appearance.IsShownBy .layered (.dissolving "EntityBody")) entries
          composition.members := by
  have found : Schema.layered.layout? "Transfer" =
      some [.inlining "EntityBody", .inlining "Mosaic"] := by cbv
  have walked : ∃ occurrences last,
      Walks .layered (.dissolving "EntityBody")
        (.root "Transfer" [.inlining "EntityBody", .inlining "Mosaic"]) 0
        (stepsOf [.inlining "EntityBody", .inlining "Mosaic"])
          occurrences last ∧
      occurrences.map (fun occurrence => occurrence.step.attr) =
        [.named "version" "byte", .inlining "Mosaic", .named "id" "byte",
          .named "amount" "byte", .inlining "Mosaic", .named "id" "byte",
          .named "amount" "byte"] := by
    refine ⟨_, _, walks_of_fault_eq_none ?_, ?_⟩
    · cbv
    · cbv
  rcases walked with ⟨occurrences, last, walk, met⟩
  have plain :
      ∀ attr ∈ occurrences.map (fun occurrence => occurrence.step.attr),
      attr.disposition ≠ some .unknown ∧ attr.sizeReference = none ∧
        (attr.typeName = "byte" ∨ attr.typeName ∈ Schema.layered.names) := by
    rw [met]
    decide
  have success : ∃ composition,
      compose .layered (.dissolving "EntityBody") .java "Transfer" =
        .ok composition := by
    refine (exists_compose_eq_ok_iff_forall found walk).mpr ?_
    intro occurrence member
    rcases plain _ (List.mem_map_of_mem member) with ⟨known, unsized, declared⟩
    refine ⟨⟨known, ?_, Or.inr declared⟩, ?_⟩
    · simp [unsized]
    · simp [Occurrence.FindsSize, unsized]
  rcases success with ⟨composition, composed⟩
  exact ⟨composition, composed, compose_isFlattening composed⟩

end WireLayout
