import WireLayout.Composition
import WireLayout.Proofs.Validity

/-!
# Walks that come to their end

The walk of a composite descends into inlined composites and numbers its visits
as it goes.  A walk that nothing stops is described here by a derivation with
one rule for each thing a step can be.  What is proved about such walks is
proved by induction on this derivation.

Two facts follow at once.  Below a visit that is well grounded in a valid
schema no walk is stopped.  And the occurrences of one visit are exactly the
contributing attributes of its layout, in their order.
-/

namespace WireLayout

/-! ## The steps of a layout -/

/--
An attribute contributes a field of its own: no constant, and no
composite that dissolves.
-/
def Attribute.contributes (attr : Attribute) (settings : Settings) : Bool :=
  !attr.isConstant && (!attr.isInlined || settings.generates attr.typeName)

theorem Attribute.isInlined_iff {attr : Attribute} :
    attr.isInlined = true ↔ attr.disposition = some .inlined :=
  beq_iff_eq

theorem Attribute.contributes_constant {attr : Attribute} {settings : Settings}
    (constant : attr.disposition = some .constant) :
    attr.contributes settings = false := by
  simp [contributes, isConstant, constant]

theorem Attribute.contributes_inlined {attr : Attribute} {settings : Settings}
    (inlined : attr.disposition = some .inlined) :
    attr.contributes settings = settings.generates attr.typeName := by
  simp [contributes, isConstant, isInlined, inlined]

theorem Attribute.contributes_plain {attr : Attribute} {settings : Settings}
    (notConstant : attr.disposition ≠ some .constant)
    (notInlined : attr.disposition ≠ some .inlined) :
    attr.contributes settings = true := by
  simp [contributes, isConstant, isInlined, notConstant, notInlined]

theorem mem_stepsOf {layout : List Attribute} {step : Step} :
    step ∈ stepsOf layout ↔ layout[step.position]? = some step.attr := by
  rcases step with ⟨position, attr⟩
  simp only [stepsOf, List.mem_map, Prod.exists, Step.mk.injEq]
  constructor
  · rintro ⟨other, place, member, rfl, rfl⟩
    exact List.mem_zipIdx_iff_getElem?.mp member
  · intro found
    exact ⟨attr, position, List.mem_zipIdx_iff_getElem?.mpr found, rfl, rfl⟩

theorem attr_mem_of_mem_stepsOf {layout : List Attribute} {step : Step}
    (member : step ∈ stepsOf layout) : step.attr ∈ layout :=
  List.mem_of_getElem? (mem_stepsOf.mp member)

theorem exists_mem_stepsOf {layout : List Attribute} {attr : Attribute}
    (member : attr ∈ layout) : ∃ step ∈ stepsOf layout, step.attr = attr := by
  rcases List.mem_iff_getElem?.mp member with ⟨position, found⟩
  exact ⟨⟨position, attr⟩, mem_stepsOf.mpr found, rfl⟩

theorem nodup_stepsOf (layout : List Attribute) : (stepsOf layout).Nodup := by
  have positions : ((stepsOf layout).map Step.position).Nodup := by
    have same :
        (stepsOf layout).map Step.position = layout.zipIdx.map Prod.snd := by
      rw [stepsOf, List.map_map]
      rfl
    rw [same, List.zipIdx_map_snd]
    exact List.nodup_range'
  exact List.Nodup.of_map Step.position positions

/-! ## One step of a traversal -/

/--
The occurrence of an inlined attribute itself, where its composite is
generated.
-/
def Frame.slot (frame : Frame) (settings : Settings)
    (step : Step) : List Occurrence :=
  if settings.generates step.attr.typeName then [frame.occurrence step] else []

theorem Frame.mem_slot
    {frame : Frame} {settings : Settings} {step : Step}
    {occurrence : Occurrence} :
    occurrence ∈ frame.slot settings step ↔
      settings.generates step.attr.typeName = true ∧
        occurrence = frame.occurrence step := by
  simp [slot]

section Traversal

variable {schema : Schema} {settings : Settings} {frame : Frame}
  {lastVisit : Nat} {step : Step} {steps : List Step}

theorem traverse_nil :
    traverse schema settings frame lastVisit [] = ⟨[], lastVisit, none⟩ := by
  rw [traverse]

theorem traverse_constant (constant : step.attr.disposition = some .constant) :
    traverse schema settings frame lastVisit (step :: steps) =
      traverse schema settings frame lastVisit steps := by
  rw [traverse, constant]

theorem traverse_plain
    (notConstant : step.attr.disposition ≠ some .constant)
    (notInlined : step.attr.disposition ≠ some .inlined) :
    traverse schema settings frame lastVisit (step :: steps) =
      .meeting [frame.occurrence step]
        (traverse schema settings frame lastVisit steps) := by
  rw [traverse]
  split
  · contradiction
  · contradiction
  · rfl

theorem traverse_missing
    (inlined : step.attr.disposition = some .inlined)
    (missing : schema.layout? step.attr.typeName = none) :
    traverse schema settings frame lastVisit (step :: steps) =
      .meeting (frame.slot settings step)
        (.stopped lastVisit
          (.dangling ⟨frame.owner, step.attr.displayName, step.attr.typeName,
            .type⟩)) := by
  rw [traverse, inlined]
  simp only
  split
  · rfl
  · next other found => simp [missing] at found

theorem traverse_circular {layout : List Attribute}
    (inlined : step.attr.disposition = some .inlined)
    (found : schema.layout? step.attr.typeName = some layout)
    (repeated : step.attr.typeName ∈ frame.path) :
    traverse schema settings frame lastVisit (step :: steps) =
      .meeting (frame.slot settings step) (.stopped lastVisit
        (.schema (.circular (frame.path ++ [step.attr.typeName])))) := by
  rw [traverse, inlined]
  simp only [dif_pos repeated]
  split
  · next missing => simp [missing] at found
  · rfl

/--
An inlined attribute of another composite is met if that is generated,
and then followed.
-/
theorem traverse_inlined {layout : List Attribute}
    (inlined : step.attr.disposition = some .inlined)
    (found : schema.layout? step.attr.typeName = some layout)
    (fresh : step.attr.typeName ∉ frame.path) :
    traverse schema settings frame lastVisit (step :: steps) =
      let inner := traverse schema settings
        (frame.descend step layout (lastVisit + 1)) (lastVisit + 1)
        (stepsOf layout)
      .meeting (frame.slot settings step)
        (match inner.fault with
        | some _ => inner
        | none => .meeting inner.occurrences
            (traverse schema settings frame inner.lastVisit steps)) := by
  rw [traverse, inlined]
  simp only [dif_neg fresh]
  split
  · next missing => simp [missing] at found
  · next other same =>
      rcases Option.some.inj (found.symm.trans same) with rfl
      rfl
end Traversal

/-! ## What a traversal meets -/

/--
An attribute of a visit, or of one to which inlined attributes
lead down from it.
-/
inductive Frame.Meets (schema : Schema) : Frame → Occurrence → Prop where
  | own {frame step}
      (declared : step ∈ stepsOf frame.layout)
      (notConstant : step.attr.disposition ≠ some .constant) :
      Meets schema frame (frame.occurrence step)
  | deeper {frame step layout visit occurrence}
      (declared : step ∈ stepsOf frame.layout)
      (inlined : step.attr.disposition = some .inlined)
      (found : schema.layout? step.attr.typeName = some layout)
      (inner :
        Meets schema (frame.descend step layout (visit + 1)) occurrence) :
      Meets schema frame occurrence

/--
Whether or not a traversal is stopped, it meets attributes of its visit
and of those below.
-/
theorem Frame.meets_of_mem_traverse
    {schema : Schema} {settings : Settings} {frame : Frame} {lastVisit : Nat}
    {steps : List Step} {occurrence : Occurrence}
    (declared : steps ⊆ stepsOf frame.layout)
    (met :
      occurrence ∈
        (traverse schema settings frame lastVisit steps).occurrences) :
    frame.Meets schema occurrence := by
  have slot {frame : Frame} {step : Step} {steps : List Step}
      (inlined : step.attr.disposition = some .inlined)
      (declared : step :: steps ⊆ stepsOf frame.layout)
      (inSlot : occurrence ∈ frame.slot settings step) :
        frame.Meets schema occurrence := by
    rcases Frame.mem_slot.mp inSlot with ⟨_, rfl⟩
    exact .own (declared List.mem_cons_self) (by simp [inlined])
  induction frame, lastVisit, steps using traverse.induct schema settings with
  | case1 frame lastVisit =>
      rw [traverse_nil] at met
      cases met
  | case2 frame lastVisit step steps constant ih =>
      rw [traverse_constant constant] at met
      exact ih (List.subset_of_cons_subset declared) met
  | case3 frame lastVisit step steps inlined typeName missing =>
      rw [traverse_missing inlined missing] at met
      simp only [Traversal.meeting, Traversal.stopped, List.append_nil] at met
      exact slot inlined declared met
  | case4 frame lastVisit step steps inlined typeName layout found repeated =>
      rw [traverse_circular inlined found repeated] at met
      simp only [Traversal.meeting, Traversal.stopped, List.append_nil] at met
      exact slot inlined declared met
  | case5 frame lastVisit step steps inlined typeName layout found fresh inner
      innerIH laterIH =>
      have inside (inBlock : occurrence ∈ inner.occurrences) :
          frame.Meets schema occurrence :=
        .deeper (declared List.mem_cons_self) inlined found
          (innerIH (List.Subset.refl _) inBlock)
      rw [traverse_inlined inlined found fresh] at met
      simp only [Traversal.meeting, List.mem_append] at met
      rcases met with inSlot | met
      · exact slot inlined declared inSlot
      · split at met
        · exact inside met
        · rcases List.mem_append.mp met with inBlock | inLater
          · exact inside inBlock
          · exact laterIH (List.subset_of_cons_subset declared) inLater
  | case6 frame lastVisit step steps notConstant notInlined ih =>
      rw [traverse_plain notConstant notInlined] at met
      rcases List.mem_cons.mp met with rfl | met
      · exact .own (declared List.mem_cons_self) notConstant
      · exact ih (List.subset_of_cons_subset declared) met

/-! ## Traversals under other settings -/

/--
Whether an occurrence is the slot of a composite that is removed from
those generated.
-/
def Occurrence.isRemoved (occurrence : Occurrence)
    (removes : String → Bool) : Bool :=
  occurrence.step.attr.isInlined && removes occurrence.step.attr.typeName

namespace Traversal

/-- A traversal without the slots of the composites that are removed. -/
def removing (removes : String → Bool) (traversal : Traversal) : Traversal :=
  { traversal with
    occurrences :=
      traversal.occurrences.filter fun occurrence =>
        !occurrence.isRemoved removes }

theorem removing_meeting
    (removes : String → Bool) (occurrences : List Occurrence)
    (later : Traversal) :
    (meeting occurrences later).removing removes =
      meeting
        (occurrences.filter fun occurrence => !occurrence.isRemoved removes)
        (later.removing removes) := by
  simp only [meeting, removing, List.filter_append]

/-- Without removals a traversal is what it was. -/
theorem removing_none (traversal : Traversal) :
    traversal.removing (fun _ => false) = traversal := by
  simp [removing, Occurrence.isRemoved]

end Traversal

theorem Frame.slot_eq_filter
    {settings other : Settings} {removes : String → Bool} {frame : Frame}
    {step : Step}
    (fewer :
      ∀ name, other.generates name = (settings.generates name && !removes name))
    (inlined : step.attr.disposition = some .inlined) :
    frame.slot other step =
      (frame.slot settings step).filter fun occurrence =>
        !occurrence.isRemoved removes := by
  rw [slot, slot, fewer]
  cases settings.generates step.attr.typeName <;>
    cases gone : removes step.attr.typeName <;>
    simp [Occurrence.isRemoved, occurrence,
      Attribute.isInlined_iff.mpr inlined, gone]

/--
Generating fewer composites removes their slots from a traversal.  The visits
keep their numbers, and what stops the traversal does so all the same.
-/
theorem traverse_eq_removing
    {schema : Schema} {settings other : Settings} {removes : String → Bool}
    {frame : Frame} {lastVisit : Nat} {steps : List Step}
    (fewer : ∀ name,
      other.generates name = (settings.generates name && !removes name)) :
    traverse schema other frame lastVisit steps =
      (traverse schema settings frame lastVisit steps).removing removes := by
  induction frame, lastVisit, steps using traverse.induct schema settings with
  | case1 frame lastVisit =>
      rw [traverse_nil, traverse_nil, Traversal.removing, List.filter_nil]
  | case2 frame lastVisit step steps constant ih =>
      rw [traverse_constant constant, traverse_constant constant, ih]
  | case3 frame lastVisit step steps inlined typeName missing =>
      rw [traverse_missing inlined missing, traverse_missing inlined missing,
        Traversal.removing_meeting, Frame.slot_eq_filter fewer inlined]
      rfl
  | case4 frame lastVisit step steps inlined typeName layout found repeated =>
      rw [traverse_circular inlined found repeated,
        traverse_circular inlined found repeated, Traversal.removing_meeting,
        Frame.slot_eq_filter fewer inlined]
      rfl
  | case5 frame lastVisit step steps inlined typeName layout found fresh inner
      innerIH laterIH =>
      simp only [inner] at innerIH laterIH
      rw [traverse_inlined inlined found fresh,
        traverse_inlined inlined found fresh, Traversal.removing_meeting,
        Frame.slot_eq_filter fewer inlined, innerIH]
      simp only [Traversal.removing]
      split
      · rfl
      · simp only [laterIH, Traversal.meeting, Traversal.removing,
          List.filter_append]
  | case6 frame lastVisit step steps notConstant notInlined ih =>
      have plain : step.attr.isInlined = false := beq_false_of_ne notInlined
      have kept : (frame.occurrence step).isRemoved removes = false := by
        simp [Occurrence.isRemoved, Frame.occurrence, plain]
      rw [traverse_plain notConstant notInlined,
        traverse_plain notConstant notInlined, Traversal.removing_meeting, ih,
        List.filter_singleton]
      simp [kept]

/-! ## Derivations of walks -/

/--
A walk of the remaining steps of a visit that comes to its end, with the number
of the last visit before it, the occurrences it meets, and the number of the
last visit after it.
-/
inductive Walks (schema : Schema) (settings : Settings) :
    Frame → Nat → List Step → List Occurrence → Nat → Prop where
  | done {frame lastVisit} :
      Walks schema settings frame lastVisit [] [] lastVisit
  | constant {frame lastVisit step steps occurrences last}
      (constant : step.attr.disposition = some .constant)
      (later : Walks schema settings frame lastVisit steps occurrences last) :
      Walks schema settings frame lastVisit (step :: steps) occurrences last
  | inlined {frame lastVisit step steps layout block middle occurrences last}
      (inlined : step.attr.disposition = some .inlined)
      (found : schema.layout? step.attr.typeName = some layout)
      (fresh : step.attr.typeName ∉ frame.path)
      (inner :
        Walks schema settings (frame.descend step layout (lastVisit + 1))
          (lastVisit + 1) (stepsOf layout) block middle)
      (later : Walks schema settings frame middle steps occurrences last) :
      Walks schema settings frame lastVisit (step :: steps)
        (frame.slot settings step ++ (block ++ occurrences)) last
  | plain {frame lastVisit step steps occurrences last}
      (notConstant : step.attr.disposition ≠ some .constant)
      (notInlined : step.attr.disposition ≠ some .inlined)
      (later : Walks schema settings frame lastVisit steps occurrences last) :
      Walks schema settings frame lastVisit (step :: steps)
        (frame.occurrence step :: occurrences) last

/-- A traversal that nothing stops is a walk to the end. -/
theorem walks_of_fault_eq_none
    {schema : Schema} {settings : Settings} {frame : Frame} {lastVisit : Nat}
    {steps : List Step}
    (free : (traverse schema settings frame lastVisit steps).fault = none) :
    Walks schema settings frame lastVisit steps
      (traverse schema settings frame lastVisit steps).occurrences
      (traverse schema settings frame lastVisit steps).lastVisit := by
  induction frame, lastVisit, steps using traverse.induct schema settings with
  | case1 frame lastVisit =>
      rw [traverse_nil]
      exact .done
  | case2 frame lastVisit step steps constant ih =>
      rw [traverse_constant constant] at free ⊢
      exact .constant constant (ih free)
  | case3 frame lastVisit step steps inlined typeName missing =>
      rw [traverse_missing inlined missing] at free
      cases free
  | case4 frame lastVisit step steps inlined typeName layout found repeated =>
      rw [traverse_circular inlined found repeated] at free
      cases free
  | case5 frame lastVisit step steps inlined typeName layout found fresh inner
      innerIH laterIH =>
      rw [traverse_inlined inlined found fresh] at free ⊢
      simp only [Traversal.meeting] at free ⊢
      cases outcome : inner.fault with
      | some fault =>
          simp only [inner] at outcome
          simp [outcome] at free
      | none =>
          have walked := innerIH outcome
          simp only [inner] at outcome walked laterIH
          simp only [outcome] at free ⊢
          exact .inlined inlined found fresh walked (laterIH free)
  | case6 frame lastVisit step steps notConstant notInlined ih =>
      rw [traverse_plain notConstant notInlined] at free ⊢
      exact .plain notConstant notInlined (ih free)

theorem Walks.traverse_eq
    {schema : Schema} {settings : Settings} {frame : Frame}
    {lastVisit last : Nat} {steps : List Step} {occurrences : List Occurrence}
    (walk : Walks schema settings frame lastVisit steps occurrences last) :
    traverse schema settings frame lastVisit steps =
      ⟨occurrences, last, none⟩ := by
  induction walk with
  | done => exact traverse_nil
  | constant constant _ ih => rw [traverse_constant constant, ih]
  | inlined inlined found fresh _ _ innerIH laterIH =>
      rw [traverse_inlined inlined found fresh, innerIH]
      simp only [laterIH, Traversal.meeting]
  | plain notConstant notInlined _ ih =>
      rw [traverse_plain notConstant notInlined, ih]
      rfl

/-! ## Walks in valid schemas -/

/--
The visit of a composite's layout to which every composite on its path leads.
-/
structure Frame.Grounded (schema : Schema) (frame : Frame) : Prop where
  found : schema.layout? frame.owner = some frame.layout
  leads : ∀ name ∈ frame.path,
    Relation.ReflTransGen schema.Inlines name frame.owner

/--
An inlined step of a layout leads from its composite to the
composite of its type.
-/
theorem inlines_of_mem_stepsOf
    {schema : Schema} {owner : String} {layout : List Attribute} {step : Step}
    (found : schema.layout? owner = some layout)
    (member : step ∈ stepsOf layout)
    (inlined : step.attr.disposition = some .inlined) :
    schema.Inlines owner step.attr.typeName :=
  ⟨layout, found, step.attr, attr_mem_of_mem_stepsOf member,
    Attribute.isInlined_iff.mpr inlined, rfl⟩

theorem Frame.Grounded.root
    {schema : Schema} {name : String} {layout : List Attribute}
    (found : schema.layout? name = some layout) :
    (Frame.root name layout).Grounded schema := by
  refine ⟨found, ?_⟩
  intro other member
  rcases List.mem_singleton.mp member with rfl
  exact .refl

/-- The visit of a composite that is inlined on a grounded visit is grounded. -/
theorem Frame.Grounded.descend
    {schema : Schema} {frame : Frame} {step : Step} {layout : List Attribute}
    {visit : Nat}
    (grounded : frame.Grounded schema)
    (member : step ∈ stepsOf frame.layout)
    (inlined : step.attr.disposition = some .inlined)
    (found : schema.layout? step.attr.typeName = some layout) :
    (frame.descend step layout visit).Grounded schema := by
  have inlines := inlines_of_mem_stepsOf grounded.found member inlined
  refine ⟨found, ?_⟩
  intro name onPath
  rcases List.mem_append.mp onPath with above | last
  · exact (grounded.leads name above).tail inlines
  · rcases List.mem_singleton.mp last with rfl
    exact .refl

/-- On a grounded visit of a valid schema nothing stops a traversal. -/
theorem Frame.Grounded.fault_traverse
    {schema : Schema} {settings : Settings} {byteType : String}
    {frame : Frame} {lastVisit : Nat} {steps : List Step}
    (wellFormed : schema.WellFormed byteType)
    (grounded : frame.Grounded schema)
    (declared : steps ⊆ stepsOf frame.layout) :
    (traverse schema settings frame lastVisit steps).fault = none := by
  induction frame, lastVisit, steps using traverse.induct schema settings with
  | case1 frame lastVisit => rw [traverse_nil]
  | case2 frame lastVisit step steps constant ih =>
      rw [traverse_constant constant]
      exact ih grounded (List.subset_of_cons_subset declared)
  | case3 frame lastVisit step steps inlined typeName missing =>
      have member := attr_mem_of_mem_stepsOf (declared List.mem_cons_self)
      rcases wellFormed.inlinedComposites _ _ grounded.found _ member
        (Attribute.isInlined_iff.mpr inlined) with ⟨inner, found⟩
      exact absurd (missing.symm.trans found) (by simp)
  | case4 frame lastVisit step steps inlined typeName layout found repeated =>
      have inlines :=
        inlines_of_mem_stepsOf grounded.found
          (declared List.mem_cons_self) inlined
      have closed :=
        Relation.TransGen.tail' (grounded.leads typeName repeated) inlines
      exact absurd closed (wellFormed.acyclic typeName)
  | case5 frame lastVisit step steps inlined typeName layout found fresh inner
      innerIH laterIH =>
      have below :
          (frame.descend step layout (lastVisit + 1)).Grounded schema :=
        grounded.descend (declared List.mem_cons_self) inlined found
      have innerFree := innerIH below (List.Subset.refl _)
      have laterFree := laterIH grounded (List.subset_of_cons_subset declared)
      simp only [inner] at innerFree laterFree
      rw [traverse_inlined inlined found fresh]
      simp only [Traversal.meeting, innerFree, laterFree]
  | case6 frame lastVisit step steps notConstant notInlined ih =>
      rw [traverse_plain notConstant notInlined]
      exact ih grounded (List.subset_of_cons_subset declared)

/-! ## Visits -/

/-- The occurrence of another step on the same visit. -/
def Occurrence.beside (occurrence : Occurrence) (step : Step) : Occurrence :=
  { occurrence with step := step }

namespace Walks

variable {schema : Schema} {settings : Settings} {frame : Frame}
  {lastVisit last : Nat} {steps : List Step} {occurrences : List Occurrence}

theorem lastVisit_le
    (walk : Walks schema settings frame lastVisit steps occurrences last) :
    lastVisit ≤ last := by
  induction walk with
  | done => exact Nat.le_refl _
  | constant _ _ ih => exact ih
  | inlined _ _ _ _ _ innerIH laterIH => omega
  | plain _ _ _ ih => exact ih

/--
What a walk meets is a contributing step of the visit itself, or belongs to a
later visit below one of its inlined steps.
-/
theorem mem_cases
    (walk : Walks schema settings frame lastVisit steps occurrences last)
    {occurrence : Occurrence} (member : occurrence ∈ occurrences) :
    (∃ step ∈ steps, step.attr.contributes settings = true ∧
        occurrence = frame.occurrence step) ∨
      (lastVisit < occurrence.visit ∧ occurrence.visit ≤ last ∧
        ∃ step ∈ steps, step.attr.disposition = some .inlined ∧
          frame.via ++ [step] <+: occurrence.via) := by
  induction walk with
  | done => cases member
  | constant constant later ih =>
      rcases ih member with
        ⟨step, among, rest⟩ | ⟨above, below, step, among, rest⟩
      · exact Or.inl ⟨step, List.mem_cons_of_mem _ among, rest⟩
      · exact Or.inr ⟨above, below, step, List.mem_cons_of_mem _ among, rest⟩
  | @inlined frame lastVisit step steps layout block middle occurrences last
      inlined found fresh inner later innerIH laterIH =>
      have innerRange := inner.lastVisit_le
      have laterRange := later.lastVisit_le
      rcases List.mem_append.mp member with slot | member
      · rcases Frame.mem_slot.mp slot with ⟨generated, rfl⟩
        refine Or.inl ⟨step, List.mem_cons_self, ?_, rfl⟩
        rw [Attribute.contributes_inlined inlined, generated]
      · rcases List.mem_append.mp member with blockMember | laterMember
        · refine Or.inr ?_
          rcases innerIH blockMember with
            ⟨other, _, _, rfl⟩ | ⟨above, below, other, _, _, extends_⟩
          · simp only [Frame.occurrence, Frame.descend]
            exact ⟨by omega, by omega, step, List.mem_cons_self, inlined,
              List.prefix_rfl⟩
          · refine ⟨by omega, by omega, step, List.mem_cons_self, inlined, ?_⟩
            exact (List.prefix_append _ _).trans extends_
        · rcases laterIH laterMember with
            ⟨other, among, rest⟩ | ⟨above, below, other, among, rest⟩
          · exact Or.inl ⟨other, List.mem_cons_of_mem _ among, rest⟩
          · exact Or.inr
              ⟨by omega, below, other, List.mem_cons_of_mem _ among, rest⟩
  | @plain frame lastVisit step steps occurrences last notConstant notInlined
      later ih =>
      rcases List.mem_cons.mp member with rfl | member
      · exact Or.inl ⟨step, List.mem_cons_self,
          Attribute.contributes_plain notConstant notInlined, rfl⟩
      · rcases ih member with
          ⟨other, among, rest⟩ | ⟨above, below, other, among, rest⟩
        · exact Or.inl ⟨other, List.mem_cons_of_mem _ among, rest⟩
        · exact Or.inr ⟨above, below, other, List.mem_cons_of_mem _ among, rest⟩

/-- An occurrence is of the visit itself, or of one that begins on the walk. -/
theorem visit_cases
    (walk : Walks schema settings frame lastVisit steps occurrences last)
    {occurrence : Occurrence} (member : occurrence ∈ occurrences) :
    occurrence.visit = frame.visit ∨
      (lastVisit < occurrence.visit ∧ occurrence.visit ≤ last) := by
  rcases walk.mem_cases member with ⟨step, _, _, rfl⟩ | ⟨above, below, _⟩
  · exact Or.inl rfl
  · exact Or.inr ⟨above, below⟩

/-- On a walk from a visit that begins with it all visits are of the walk. -/
theorem visit_bounds
    {step : Step} {layout : List Attribute}
    (walk :
      Walks schema settings (frame.descend step layout (lastVisit + 1))
        (lastVisit + 1) (stepsOf layout) occurrences last)
    {occurrence : Occurrence} (member : occurrence ∈ occurrences) :
    lastVisit < occurrence.visit ∧ occurrence.visit ≤ last := by
  have range := walk.lastVisit_le
  rcases walk.visit_cases member with own | ⟨above, below⟩
  · simp only [Frame.descend] at own
    omega
  · omega

theorem filter_eq_nil
    {visit : Nat} {others : List Occurrence}
    (apart : ∀ occurrence ∈ others, occurrence.visit ≠ visit) :
    others.filter (fun occurrence => occurrence.visit == visit) = [] := by
  rw [List.filter_eq_nil_iff]
  intro occurrence member
  rw [beq_iff_eq]
  exact apart occurrence member

/--
The occurrences of the visit itself are its contributing steps, in their order.
-/
theorem filter_own_visit
    (walk : Walks schema settings frame lastVisit steps occurrences last)
    (started : frame.visit ≤ lastVisit) :
    occurrences.filter (fun occurrence => occurrence.visit == frame.visit) =
      (steps.filter fun step => step.attr.contributes settings).map
        frame.occurrence := by
  induction walk with
  | done => rfl
  | constant constant _ ih =>
      rw [List.filter_cons, Attribute.contributes_constant constant]
      exact ih started
  | @inlined frame lastVisit step steps layout block middle occurrences last
      inlined found fresh inner later innerIH laterIH =>
      have innerRange := inner.lastVisit_le
      have blockEmpty :
          block.filter (fun occurrence => occurrence.visit == frame.visit) =
            [] := by
        apply filter_eq_nil
        intro occurrence member same
        have above := (inner.visit_bounds member).1
        omega
      have slotKept : (frame.slot settings step).filter
          (fun occurrence => occurrence.visit == frame.visit) =
            frame.slot settings step := by
        rw [Frame.slot]
        split <;> simp [Frame.occurrence]
      rw [List.filter_append, List.filter_append, slotKept, blockEmpty,
        List.nil_append, laterIH (by omega), List.filter_cons,
        Attribute.contributes_inlined inlined, Frame.slot]
      split
      · rfl
      · rfl
  | @plain frame lastVisit step steps occurrences last notConstant notInlined
      later ih =>
      rw [List.filter_cons, List.filter_cons,
        Attribute.contributes_plain notConstant notInlined, ih started]
      simp [Frame.occurrence]

/--
On a walk of a whole layout this holds beside every occurrence of
the visit itself.
-/
theorem filter_visit_of_own
    (walk :
      Walks schema settings frame lastVisit (stepsOf frame.layout)
        occurrences last)
    (started : frame.visit ≤ lastVisit)
    {occurrence : Occurrence} (member : occurrence ∈ occurrences)
    (own : occurrence.visit = frame.visit) :
    occurrences.filter (fun other => other.visit == occurrence.visit) =
      ((stepsOf occurrence.layout).filter fun step =>
        step.attr.contributes settings).map
        occurrence.beside := by
  have kept := walk.filter_own_visit started
  have among :
      occurrence ∈
        occurrences.filter (fun other => other.visit == frame.visit) := by
    simpa [own] using member
  rw [kept] at among
  rcases List.mem_map.mp among with ⟨step, _, rfl⟩
  exact kept

/--
The occurrences of a later visit are the contributing steps of its
layout, in their order.
-/
theorem filter_later_visit
    (walk : Walks schema settings frame lastVisit steps occurrences last)
    (started : frame.visit ≤ lastVisit)
    {occurrence : Occurrence} (member : occurrence ∈ occurrences)
    (later : occurrence.visit ≠ frame.visit) :
    occurrences.filter (fun other => other.visit == occurrence.visit) =
      ((stepsOf occurrence.layout).filter fun step =>
        step.attr.contributes settings).map
        occurrence.beside := by
  induction walk with
  | done => cases member
  | constant _ _ ih => exact ih started member later
  | @inlined frame lastVisit step steps layout block middle occurrences last
      inlined found fresh inner remaining innerIH laterIH =>
      have innerRange := inner.lastVisit_le
      have slotEmpty : (frame.slot settings step).filter
          (fun other => other.visit == occurrence.visit) = [] := by
        apply filter_eq_nil
        intro other inSlot same
        rcases Frame.mem_slot.mp inSlot with ⟨_, rfl⟩
        exact later same.symm
      rw [List.filter_append, List.filter_append, slotEmpty, List.nil_append]
      -- The visits of the block end before those of the remaining steps begin.
      rcases List.mem_append.mp member with inSlot | member
      · rcases Frame.mem_slot.mp inSlot with ⟨_, rfl⟩
        exact absurd rfl later
      · rcases List.mem_append.mp member with blockMember | laterMember
        · have laterEmpty : occurrences.filter
              (fun other => other.visit == occurrence.visit) = [] := by
            apply filter_eq_nil
            intro other otherMember same
            have range := inner.visit_bounds blockMember
            rcases remaining.visit_cases otherMember with own | ⟨above, _⟩
            · exact later (same.symm.trans own)
            · omega
          rw [laterEmpty, List.append_nil]
          by_cases own : occurrence.visit = lastVisit + 1
          · exact inner.filter_visit_of_own (Nat.le_refl _) blockMember own
          · exact innerIH (Nat.le_refl _) blockMember own
        · have blockEmpty : block.filter
              (fun other => other.visit == occurrence.visit) = [] := by
            apply filter_eq_nil
            intro other otherMember same
            have range := inner.visit_bounds otherMember
            rcases remaining.visit_cases laterMember with own | ⟨above, _⟩
            · exact later own
            · omega
          rw [blockEmpty, List.nil_append]
          exact laterIH (by omega) laterMember later
  | @plain frame lastVisit step steps occurrences last notConstant notInlined
      remaining ih =>
      have headDropped : (frame.occurrence step).visit ≠ occurrence.visit :=
        fun same => later same.symm
      rcases List.mem_cons.mp member with rfl | member
      · exact absurd rfl later
      · rw [List.filter_cons_of_neg (by simpa using headDropped)]
        exact ih started member later

/--
A walk of a whole layout meets of every visit the contributing
attributes of its layout.
-/
theorem filter_visit
    (walk :
      Walks schema settings frame lastVisit (stepsOf frame.layout)
        occurrences last)
    (started : frame.visit ≤ lastVisit)
    {occurrence : Occurrence} (member : occurrence ∈ occurrences) :
    occurrences.filter (fun other => other.visit == occurrence.visit) =
      ((stepsOf occurrence.layout).filter fun step =>
        step.attr.contributes settings).map
        occurrence.beside := by
  by_cases own : occurrence.visit = frame.visit
  · exact walk.filter_visit_of_own started member own
  · exact walk.filter_later_visit started member own

/--
On its own visit an occurrence has beside it the contributing
attributes of its layout.
-/
theorem exists_same_visit_iff
    (walk :
      Walks schema settings frame lastVisit (stepsOf frame.layout)
        occurrences last)
    (started : frame.visit ≤ lastVisit)
    {occurrence : Occurrence} (member : occurrence ∈ occurrences)
    (holds : Step → Prop) :
    (∃ other ∈ occurrences, other.visit = occurrence.visit ∧ holds other.step) ↔
      ∃ step ∈ stepsOf occurrence.layout,
        step.attr.contributes settings = true ∧ holds step := by
  have visited := walk.filter_visit started member
  constructor
  · rintro ⟨other, among, same, held⟩
    have kept :
        other ∈ occurrences.filter fun other =>
          other.visit == occurrence.visit := by
      simpa using ⟨among, same⟩
    rw [visited] at kept
    rcases List.mem_map.mp kept with ⟨step, declared, rfl⟩
    rcases List.mem_filter.mp declared with ⟨declared, contributes⟩
    exact ⟨step, declared, contributes, held⟩
  · rintro ⟨step, declared, contributes, held⟩
    have kept : occurrence.beside step ∈
        occurrences.filter fun other => other.visit == occurrence.visit := by
      rw [visited]
      exact List.mem_map_of_mem (List.mem_filter.mpr ⟨declared, contributes⟩)
    exact ⟨_, (List.mem_filter.mp kept).1, rfl, held⟩

/--
What a walk of a whole layout meets is a contributing attribute of its own
layout.
-/
theorem mem_stepsOf_and_contributes
    (walk :
      Walks schema settings frame lastVisit (stepsOf frame.layout)
        occurrences last)
    (started : frame.visit ≤ lastVisit)
    {occurrence : Occurrence} (member : occurrence ∈ occurrences) :
    occurrence.step ∈ stepsOf occurrence.layout ∧
      occurrence.step.attr.contributes settings = true := by
  have own :
      occurrence ∈ occurrences.filter fun other =>
        other.visit == occurrence.visit := by
    simpa using member
  rw [walk.filter_visit started member] at own
  rcases List.mem_map.mp own with ⟨step, kept, same⟩
  rcases List.mem_filter.mp kept with ⟨declared, contributes⟩
  have sameStep : occurrence.step = step := (congrArg Occurrence.step same).symm
  rw [sameStep]
  exact ⟨declared, contributes⟩

theorem layout?_owner
    (walk : Walks schema settings frame lastVisit steps occurrences last)
    (found : schema.layout? frame.owner = some frame.layout)
    {occurrence : Occurrence} (member : occurrence ∈ occurrences) :
    schema.layout? occurrence.owner = some occurrence.layout := by
  induction walk with
  | done => cases member
  | constant _ _ ih => exact ih found member
  | inlined _ layoutFound _ _ _ innerIH laterIH =>
      rcases List.mem_append.mp member with slot | member
      · rcases Frame.mem_slot.mp slot with ⟨_, rfl⟩
        exact found
      · rcases List.mem_append.mp member with blockMember | laterMember
        · exact innerIH layoutFound blockMember
        · exact laterIH found laterMember
  | plain _ _ _ ih =>
      rcases List.mem_cons.mp member with rfl | member
      · exact found
      · exact ih found member

/--
What a walk meets is of the visit itself exactly if nothing but the way
to it led there.
-/
theorem visit_eq_own_iff
    (walk : Walks schema settings frame lastVisit steps occurrences last)
    (started : frame.visit ≤ lastVisit)
    {occurrence : Occurrence} (member : occurrence ∈ occurrences) :
    occurrence.visit = frame.visit ↔ occurrence.via = frame.via := by
  rcases walk.mem_cases member with
    ⟨step, _, _, rfl⟩ | ⟨above, _, step, _, _, longer⟩
  · exact iff_of_true rfl rfl
  · have different : occurrence.via ≠ frame.via := by
      intro same
      rw [same] at longer
      simpa using longer.length_le
    exact iff_of_false (by omega) different

/-- The visit of the root is the one that is reached through nothing. -/
theorem visit_eq_zero_iff
    {name : String} {layout : List Attribute}
    (walk : Walks schema settings (.root name layout) 0 steps occurrences last)
    {occurrence : Occurrence} (member : occurrence ∈ occurrences) :
    occurrence.visit = 0 ↔ occurrence.via = [] :=
  walk.visit_eq_own_iff (Nat.le_refl _) member

end Walks

end WireLayout
