import WireLayout.Proofs.Building

/-!
# Where members come from

A member says how the attribute that it shows was reached: whether it is the
super-class or is inherited from it, by which generated composite it is
grouped, and which one declares it.  All of this follows from the way of
inlined attributes that leads to it, and from which of them is the entry of the
super-class: the first inlined composite in the root's own layout that is
generated.

That entry is an entry of the layout, so the same composite inlined
elsewhere is no super-class.  What belongs to the super-class is contiguous:
its slot, and right after it all that is inherited.  The class's own members
are what is left.
-/

namespace WireLayout

/-! ## The entry of the super-class -/

/-- The entry of a layout whose composite becomes the super-class. -/
structure IsSuperEntry (settings : Settings) (layout : List Attribute)
    (step : Step) : Prop where
  enabled : settings.useSuperClass = true
  declared : step ∈ stepsOf layout
  inlined : step.attr.disposition = some .inlined
  generated : settings.generates step.attr.typeName = true
  first : ∀ earlier ∈ stepsOf layout, earlier.position < step.position →
    earlier.attr.disposition = some .inlined →
      settings.generates earlier.attr.typeName = false

theorem superClassPosition?_eq_some_iff
    {settings : Settings} {layout : List Attribute} {step : Step}
    (declared : step ∈ stepsOf layout) :
    superClassPosition? settings layout = some step.position ↔
      IsSuperEntry settings layout step := by
  have located := mem_stepsOf.mp declared
  rcases List.getElem?_eq_some_iff.mp located with ⟨bound, content⟩
  rw [superClassPosition?]
  split
  · next enabled =>
      rw [List.findIdx?_eq_some_iff_getElem]
      constructor
      · rintro ⟨_, chosen, earlier⟩
        rw [content, Bool.and_eq_true, Attribute.isInlined_iff] at chosen
        refine ⟨enabled, declared, chosen.1, chosen.2, ?_⟩
        intro other among before inlined
        rcases List.getElem?_eq_some_iff.mp (mem_stepsOf.mp among) with
          ⟨_, otherContent⟩
        have passed := earlier other.position before
        rw [otherContent] at passed
        simpa [Attribute.isInlined_iff.mpr inlined] using passed
      · intro entry
        refine ⟨bound, ?_, ?_⟩
        · rw [content, Bool.and_eq_true, Attribute.isInlined_iff]
          exact ⟨entry.inlined, entry.generated⟩
        · intro place before
          rw [Bool.and_eq_true, Attribute.isInlined_iff, not_and,
            Bool.not_eq_true]
          have placeBound : place < layout.length := by omega
          exact entry.first ⟨place, layout[place]⟩
            (mem_stepsOf.mpr (List.getElem?_eq_getElem placeBound)) before
  · next disabled =>
      exact iff_of_false (by simp) fun entry => disabled entry.enabled

/-- A layout has one entry of the super-class at most. -/
theorem IsSuperEntry.unique
    {settings : Settings} {layout : List Attribute} {step other : Step}
    (entry : IsSuperEntry settings layout step)
    (otherEntry : IsSuperEntry settings layout other) :
    step = other := by
  have place := (superClassPosition?_eq_some_iff entry.declared).mpr entry
  have otherPlace :=
    (superClassPosition?_eq_some_iff otherEntry.declared).mpr otherEntry
  have samePlace : step.position = other.position :=
    Option.some.inj (place.symm.trans otherPlace)
  have located := mem_stepsOf.mp entry.declared
  rw [samePlace, mem_stepsOf.mp otherEntry.declared] at located
  exact congrArg₂ Step.mk samePlace (Option.some.inj located).symm

/-! ## What a member says of its way -/

namespace WalkContext

variable {schema : Schema} {settings : Settings} {language : Language}
  {root : String} {layout : List Attribute} {via : List Step}

theorem isSuperStep_iff
    {step : Step}
    (declared : step ∈ stepsOf layout) :
    (WalkContext.of schema settings language root layout).isSuperStep step =
        true ↔
      IsSuperEntry settings layout step := by
  rw [← superClassPosition?_eq_some_iff declared]
  exact beq_iff_eq

theorem isInherited_iff
    (declared : ∀ first ∈ via.head?, first ∈ stepsOf layout) :
    (WalkContext.of schema settings language root layout).isInherited via =
        true ↔
      ∃ first rest,
        via = first :: rest ∧ IsSuperEntry settings layout first := by
  cases via with
  | nil => simp [isInherited]
  | cons first rest =>
      simp [isInherited, isSuperStep_iff (declared first rfl)]

theorem aggregateName_eq_some_iff
    {context : WalkContext} {name : String} :
    context.aggregateName via = some name ↔
      ∃ before step after, via = before ++ step :: after ∧
        (∀ earlier ∈ before,
          context.settings.generates earlier.attr.typeName = false) ∧
        context.settings.generates step.attr.typeName = true ∧
        step.attr.displayName = name := by
  rw [aggregateName, Option.map_eq_some_iff]
  simp only [List.find?_eq_some_iff_append]
  constructor
  · rintro ⟨step, ⟨generated, before, after, split, dissolved⟩, named⟩
    exact ⟨before, step, after, split, by simpa using dissolved,
      generated, named⟩
  · rintro ⟨before, step, after, split, dissolved, generated, named⟩
    exact ⟨step,
      ⟨generated, before, after, split, by simpa using dissolved⟩, named⟩

theorem isSome_aggregateName_iff
    {context : WalkContext} :
    (context.aggregateName via).isSome = true ↔
      ∃ step ∈ via, context.settings.generates step.attr.typeName = true := by
  rw [aggregateName, Option.isSome_map, List.find?_isSome]

theorem aggregateClass_eq_some_iff
    {context : WalkContext} {typeName : String} :
    context.aggregateClass via = some typeName ↔
      ∃ before last, via = before ++ [last] ∧
        context.settings.generates last.attr.typeName = true ∧
        last.attr.typeName = typeName := by
  cases ends : via.getLast? with
  | none => simp [aggregateClass, List.getLast?_eq_none_iff.mp ends]
  | some last =>
      rcases List.getLast?_eq_some_iff.mp ends with ⟨before, rfl⟩
      simp only [aggregateClass, ends]
      constructor
      · intro same
        split at same
        · next generated =>
            exact ⟨before, last, rfl, generated, Option.some.inj same⟩
        · cases same
      · rintro ⟨_, _, split, generated, rfl⟩
        rcases List.append_inj' split rfl with ⟨_, single⟩
        rcases List.singleton_inj.mp single with rfl
        rw [if_pos generated]

end WalkContext

/-- What a member says about the way to the attribute that it shows. -/
structure Appearance.IsTracedBy (settings : Settings) (layout : List Attribute)
    (entry : Appearance) (member : Member) : Prop where
  isSuper : member.isSuper = true ↔
    entry.via = [] ∧ IsSuperEntry settings layout entry.step
  isInherited : member.isInherited = true ↔
    ∃ first rest, entry.via = first :: rest ∧ IsSuperEntry settings layout first
  /--
  The first composite on the way that is generated, by the name of its slot.
  -/
  aggregateName : ∀ name, member.aggregateName = some name ↔
    ∃ before step after, entry.via = before ++ step :: after ∧
      (∀ earlier ∈ before, settings.generates earlier.attr.typeName = false) ∧
      settings.generates step.attr.typeName = true ∧
      step.attr.displayName = name
  /-- The last composite on the way, if it is generated. -/
  aggregateClass : ∀ typeName, member.aggregateClass = some typeName ↔
    ∃ before last, entry.via = before ++ [last] ∧
      settings.generates last.attr.typeName = true ∧
      last.attr.typeName = typeName
  isInline : member.isInline = true ↔
    member.isSuper = false ∧ member.isInherited = false ∧
    ∃ step ∈ entry.via, settings.generates step.attr.typeName = true

/-- Linking with discriminants does not change what a member says of its way. -/
theorem Appearance.IsTracedBy.of_unconditioned_eq
    {settings : Settings} {layout : List Attribute} {entry : Appearance}
    {member other : Member}
    (traced : entry.IsTracedBy settings layout member)
    (same : other.unconditioned = member.unconditioned) :
    entry.IsTracedBy settings layout other := by
  have unconditioned : entry.IsTracedBy settings layout member.unconditioned :=
    ⟨traced.isSuper, traced.isInherited, traced.aggregateName,
      traced.aggregateClass, traced.isInline⟩
  rw [← same] at unconditioned
  exact ⟨unconditioned.isSuper, unconditioned.isInherited,
    unconditioned.aggregateName, unconditioned.aggregateClass,
    unconditioned.isInline⟩

theorem Occurrence.Yields.isTracedBy
    {schema : Schema} {settings : Settings} {language : Language}
    {root : String} {layout : List Attribute} {occurrence : Occurrence}
    {member : Member}
    (yields :
      occurrence.Yields (.of schema settings language root layout) member)
    (own : occurrence.visit = 0 ↔ occurrence.via = [])
    (declared : occurrence.via = [] → occurrence.step ∈ stepsOf layout)
    (firstDeclared : ∀ first ∈ occurrence.via.head?, first ∈ stepsOf layout) :
    occurrence.appearance.IsTracedBy settings layout member := by
  rcases yields with ⟨earlier, kind, size, _, _, same⟩
  have isSuper :
      member.isSuper =
        (WalkContext.of schema settings language root layout).isSuper
          occurrence :=
    congrArg Member.isSuper same
  have isInherited :
      member.isInherited =
        (WalkContext.of schema settings language root layout).isInherited
          occurrence.via :=
    congrArg Member.isInherited same
  have aggregateName :
      member.aggregateName =
        (WalkContext.of schema settings language root layout).aggregateName
          occurrence.via :=
    congrArg Member.aggregateName same
  have aggregateClass :
      member.aggregateClass =
        (WalkContext.of schema settings language root layout).aggregateClass
          occurrence.via :=
    congrArg Member.aggregateClass same
  have isInline :
      member.isInline =
        (!member.isSuper && !member.isInherited &&
          member.aggregateName.isSome) := by
    rw [isSuper, isInherited, aggregateName]
    exact congrArg Member.isInline same
  constructor
  · rw [isSuper, WalkContext.isSuper, Bool.and_eq_true, beq_iff_eq, own]
    exact and_congr_right fun atRoot =>
      WalkContext.isSuperStep_iff (declared atRoot)
  · rw [isInherited]
    exact WalkContext.isInherited_iff firstDeclared
  · intro name
    rw [aggregateName]
    exact WalkContext.aggregateName_eq_some_iff
  · intro typeName
    rw [aggregateClass]
    exact WalkContext.aggregateClass_eq_some_iff
  · rw [isInline, aggregateName, Bool.and_eq_true, Bool.and_eq_true,
      Bool.not_eq_true', Bool.not_eq_true',
      WalkContext.isSome_aggregateName_iff, and_assoc]
    rfl

/--
What a walk from a composite meets is traced by the members that it yields.
-/
theorem Walks.forall₂_isTracedBy
    {schema : Schema} {settings : Settings} {language : Language}
    {root : String} {layout : List Attribute} {occurrences : List Occurrence}
    {last : Nat} {members : List Member}
    (walk :
      Walks schema settings (.root root layout) 0 (stepsOf layout)
        occurrences last)
    (yields :
      List.Forall₂
        (Occurrence.Yields (.of schema settings language root layout))
        occurrences members) :
    List.Forall₂ (Appearance.IsTracedBy settings layout)
      (occurrences.map Occurrence.appearance) members := by
  rw [List.forall₂_map_left_iff]
  refine ((List.forall₂_and_left _ _).mpr ⟨fun _ among => among, yields⟩).imp ?_
  rintro occurrence member ⟨among, yields⟩
  refine yields.isTracedBy (walk.visit_eq_zero_iff among) ?_ ?_
  · intro atRoot
    rcases walk.mem_cases among with
      ⟨step, declared, _, rfl⟩ | ⟨_, _, step, _, _, below⟩
    · exact declared
    · rw [atRoot] at below
      exact absurd below.length_le (by simp)
  · intro first begins
    rcases walk.mem_cases among with
      ⟨step, _, _, rfl⟩ | ⟨_, _, step, declared, _, below⟩
    · simp [Frame.occurrence, Frame.root] at begins
    · rcases below with ⟨rest, through⟩
      have same : step = first := by simpa [← through, Frame.root] using begins
      exact same ▸ declared

/-! ## The block of the super-class -/

/--
The members of a class that belong to its super-class, and those in
front and behind.
-/
structure IsSuperBlock (members front : List Member) (slot : Member)
    (inherited back : List Member) : Prop where
  split : members = front ++ slot :: (inherited ++ back)
  slot : slot.isSuper = true
  inherited : ∀ member ∈ inherited,
    member.isSuper = false ∧ member.isInherited = true
  apart : ∀ member ∈ front ++ back,
    member.isSuper = false ∧ member.isInherited = false

namespace IsSuperBlock

variable {members front inherited back : List Member} {slot : Member}

/-- There is one slot of a super-class. -/
theorem countP_isSuper
    (block : IsSuperBlock members front slot inherited back) :
    members.countP Member.isSuper = 1 := by
  have none (others : List Member) (plain : ∀ member ∈ others,
      member.isSuper = false) : others.countP Member.isSuper = 0 := by
    simpa [List.countP_eq_zero] using plain
  rw [block.split, List.countP_append, List.countP_cons, List.countP_append,
    if_pos block.slot,
    none front fun member among =>
      (block.apart member (List.mem_append_left _ among)).1,
    none inherited fun member among => (block.inherited member among).1,
    none back fun member among =>
      (block.apart member (List.mem_append_right _ among)).1]

/-- The own members of a class are those around the block. -/
theorem filter_own
    (block : IsSuperBlock members front slot inherited back) :
    members.filter (fun member => !member.isSuper && !member.isInherited) =
      front ++ back := by
  have kept :
      (front ++ back).filter
        (fun member => !member.isSuper && !member.isInherited) =
        front ++ back := by
    rw [List.filter_eq_self]
    intro member among
    simp [block.apart member among]
  have dropped :
      inherited.filter (fun member => !member.isSuper && !member.isInherited) =
        [] := by
    rw [List.filter_eq_nil_iff]
    intro member among
    simp [block.inherited member among]
  rw [List.filter_append] at kept
  rw [block.split, List.filter_append, List.filter_cons, List.filter_append,
    dropped]
  simpa [block.slot] using kept

end IsSuperBlock

section Blocks

variable {schema : Schema} {settings : Settings} {root : String}
  {layout : List Attribute} {entries : List Appearance} {members : List Member}
  {step : Step}

/--
What appears outside of the super-class is not its slot and was not
reached through it.
-/
theorem IsSuperEntry.not_super
    {entry : Appearance}
    (isEntry : IsSuperEntry settings layout step)
    (descends : schema.Descends root entry.via entry.owner)
    (other : entry ≠ ⟨[], root, step⟩)
    (apart : ¬ [step] <+: entry.via) :
    ¬ (entry.via = [] ∧ IsSuperEntry settings layout entry.step) ∧
      ¬ ∃ first rest,
        entry.via = first :: rest ∧ IsSuperEntry settings layout first := by
  rcases entry with ⟨via, owner, own⟩
  constructor
  · rintro ⟨atRoot, entry⟩
    rcases isEntry.unique entry with rfl
    subst atRoot
    cases descends
    exact other rfl
  · rintro ⟨first, rest, through, entry⟩
    rcases isEntry.unique entry with rfl
    exact apart ⟨rest, through.symm⟩

/--
The members of a class with a super-class are a block of that and what
stands around it.
-/
theorem IsSuperEntry.exists_isSuperBlock
    (isEntry : IsSuperEntry settings layout step)
    (found : schema.layout? root = some layout)
    (flattening : IsFlattening schema settings root entries)
    (traced :
      List.Forall₂ (Appearance.IsTracedBy settings layout) entries members) :
    ∃ front slot inherited back,
      IsSuperBlock members front slot inherited back := by
  rcases flattening.spliced [] root layout step .here found isEntry.declared
      isEntry.inlined with
    ⟨_, before, block, after, _, split, inner, apart⟩
  rw [Appearance.slot, if_pos isEntry.generated, List.append_assoc,
    List.append_assoc, List.singleton_append] at split
  subst split
  have absent := (List.nodup_cons.mp (List.nodup_middle.mp flattening.nodup)).1
  rcases exists_append_of_forall₂ traced with
    ⟨front, _, rfl, frontTraced, slotOnTraced⟩
  rcases List.forall₂_cons_left_iff.mp slotOnTraced with
    ⟨slot, _, slotTraced, restTraced, rfl⟩
  rcases exists_append_of_forall₂ restTraced with
    ⟨inherited, back, rfl, innerTraced, backTraced⟩
  have around (entry : Appearance) (member : Member)
      (outside : entry ∈ before ++ after)
      (trace : entry.IsTracedBy settings layout member) :
      member.isSuper = false ∧ member.isInherited = false := by
    have besides : entry ∈ before ++ (block ++ after) := by
      rcases List.mem_append.mp outside with inFront | behind
      · exact List.mem_append_left _ inFront
      · exact List.mem_append_right _ (List.mem_append_right _ behind)
    have among : entry ∈ before ++ ⟨[], root, step⟩ :: (block ++ after) :=
      List.perm_middle.mem_iff.mpr (List.mem_cons_of_mem _ besides)
    have other : entry ≠ ⟨[], root, step⟩ := fun same => absent (same ▸ besides)
    have neither :=
      isEntry.not_super ((flattening.mem_iff entry).mp among).1 other
        (apart entry outside)
    rw [← Bool.not_eq_true, ← Bool.not_eq_true, trace.isSuper,
      trace.isInherited]
    exact neither
  refine ⟨front, slot, inherited, back, rfl, ?_, ?_, ?_⟩
  · exact slotTraced.isSuper.mpr ⟨rfl, isEntry⟩
  · intro member among
    rcases exists_left_of_forall₂ innerTraced among with ⟨entry, inBlock, trace⟩
    rcases inner.via_prefix inBlock with ⟨rest, through⟩
    have through : entry.via = step :: rest := through.symm
    refine ⟨?_, trace.isInherited.mpr ⟨step, rest, through, isEntry⟩⟩
    rw [← Bool.not_eq_true, trace.isSuper, through]
    simp
  · intro member among
    rcases exists_left_of_forall₂ (List.rel_append frontTraced backTraced)
        among with
      ⟨entry, outside, trace⟩
    exact around entry member outside trace

/-- Without an entry of the super-class no member belongs to one. -/
theorem not_super_of_forall_not_isSuperEntry
    (none : ∀ step, ¬ IsSuperEntry settings layout step)
    (traced :
      List.Forall₂ (Appearance.IsTracedBy settings layout) entries members) :
    ∀ member ∈ members,
      member.isSuper = false ∧ member.isInherited = false := by
  intro member among
  rcases exists_left_of_forall₂ traced among with ⟨entry, _, trace⟩
  rw [← Bool.not_eq_true, ← Bool.not_eq_true, trace.isSuper, trace.isInherited]
  exact ⟨fun super => none _ super.2,
    fun ⟨first, _, _, super⟩ => none first super⟩

end Blocks

/-! ## Compositions and classes -/

/--
Members that trace a flattening, the super-class of which, if there is
one, is a block.
-/
structure AreTraced (settings : Settings) (layout : List Attribute)
    (entries : List Appearance) (members : List Member) : Prop where
  each : List.Forall₂ (Appearance.IsTracedBy settings layout) entries members
  single : ∀ step, IsSuperEntry settings layout step →
    members.countP Member.isSuper = 1
  block : ∀ step, IsSuperEntry settings layout step →
    ∃ front slot inherited back, IsSuperBlock members front slot inherited back
  none : (∀ step, ¬ IsSuperEntry settings layout step) →
    ∀ member ∈ members, member.isSuper = false ∧ member.isInherited = false

theorem IsFlattening.areTraced
    {schema : Schema} {settings : Settings} {root : String}
    {layout : List Attribute} {entries : List Appearance}
    {members : List Member}
    (flattening : IsFlattening schema settings root entries)
    (found : schema.layout? root = some layout)
    (traced :
      List.Forall₂ (Appearance.IsTracedBy settings layout) entries members) :
    AreTraced settings layout entries members := by
  refine ⟨traced, ?_, ?_, ?_⟩
  · intro step isEntry
    rcases isEntry.exists_isSuperBlock found flattening traced with
      ⟨_, _, _, _, block⟩
    exact block.countP_isSuper
  · intro step isEntry
    exact isEntry.exists_isSuperBlock found flattening traced
  · intro none
    exact not_super_of_forall_not_isSuperEntry none traced

/-- The members of a class trace what those of its composition do. -/
theorem ClassModel.forall₂_isTracedBy
    {schema : Schema} {settings : Settings} {language : Language}
    {root : String} {layout : List Attribute} {entries : List Appearance}
    {composition : Composition} {model : ClassModel}
    (composed : compose schema settings language root = .ok composition)
    (built : ClassModel.build schema settings language root = .ok model)
    (traced :
      List.Forall₂ (Appearance.IsTracedBy settings layout) entries
        composition.members) :
    List.Forall₂ (Appearance.IsTracedBy settings layout) entries
      model.members := by
  rcases exists_of_build_eq_ok built with ⟨other, otherComposed, links, _⟩
  rcases Except.ok.inj (composed.symm.trans otherComposed) with rfl
  have sides := forall₂_of_forall₂_of_forall₂ traced.flip
    (forall₂_links_of_linkDiscriminants_eq_ok links)
  refine sides.imp ?_
  rintro entry linked ⟨member, trace, link⟩
  exact Appearance.IsTracedBy.of_unconditioned_eq trace link.unconditioned_eq

/--
The members of a composition say of each attribute that appears how it was
reached.  If the layout has an entry of the super-class, exactly one member is
its slot, what is inherited follows it, and the own members of the class are
all others.  Otherwise all members are own members.
-/
theorem compose_areTraced
    {schema : Schema} {settings : Settings} {language : Language}
    {root : String} {composition : Composition}
    (composed : compose schema settings language root = .ok composition) :
    ∃ layout entries, schema.layout? root = some layout ∧
      IsFlattening schema settings root entries ∧
      List.Forall₂ (Appearance.IsShownBy schema settings) entries
        composition.members ∧
      AreTraced settings layout entries composition.members ∧
      ∀ model, ClassModel.build schema settings language root = .ok model →
        AreTraced settings layout entries model.members ∧
          (∀ step, IsSuperEntry settings layout step →
            ∃ front slot inherited back,
            IsSuperBlock model.members front slot inherited back ∧
              model.ownMembers = front ++ back) ∧
          ((∀ step, ¬ IsSuperEntry settings layout step) →
            model.ownMembers = model.members) := by
  rcases compose_eq_ok composed with
    ⟨layout, occurrences, last, _, found, walk, yielded, links⟩
  have flattening := walk.flattens.isFlattening found
  have traced := walk.forall₂_isTracedBy (forall₂_yields yielded links)
  refine ⟨layout, _, found, flattening, flattening.forall₂_isShownBy composed,
    flattening.areTraced found traced, ?_⟩
  intro model built
  have modelTraced := flattening.areTraced found
    (ClassModel.forall₂_isTracedBy composed built traced)
  refine ⟨modelTraced, ?_, ?_⟩
  · intro step isEntry
    rcases modelTraced.block step isEntry with
      ⟨front, slot, inherited, back, block⟩
    exact ⟨front, slot, inherited, back, block, block.filter_own⟩
  · intro none
    rw [ClassModel.ownMembers, List.filter_eq_self]
    intro member among
    simp [modelTraced.none none member among]

/--
A composite that inlines another one below a dissolved one, and then as
its super-class.
-/
def Schema.regrouped : Schema where
  entries := [
    ("Mosaic", .composite { layout :=
      [{ Attribute.named "id" "byte" with size := some (.literal 8) }] }),
    ("EntityBody", .composite { layout := [.inlining "Mosaic"] }),
    ("Transfer",
      .composite { layout := [.inlining "EntityBody", .inlining "Mosaic"] })]
  distinct := by decide

/-- The class of the composite is built. -/
theorem exists_build_regrouped :
    ∃ model,
      ClassModel.build .regrouped (.dissolving "EntityBody") .java "Transfer" =
        .ok model := by
  have valid :
      Schema.regrouped.validate (Settings.dissolving "EntityBody").byteType =
        .ok () := by
    cbv
  have found : Schema.regrouped.layout? "Transfer" =
      some [.inlining "EntityBody", .inlining "Mosaic"] := by cbv
  have walked : ∃ occurrences last,
      Walks .regrouped (.dissolving "EntityBody")
        (.root "Transfer" [.inlining "EntityBody", .inlining "Mosaic"]) 0
        (stepsOf [.inlining "EntityBody", .inlining "Mosaic"])
          occurrences last ∧
      occurrences.map (fun occurrence => occurrence.step.attr) =
        [.inlining "Mosaic",
          { Attribute.named "id" "byte" with size := some (.literal 8) },
          .inlining "Mosaic",
          { Attribute.named "id" "byte" with size := some (.literal 8) }] := by
    refine ⟨_, _, walks_of_fault_eq_none ?_, ?_⟩
    · cbv
    · cbv
  rcases walked with ⟨occurrences, last, walk, met⟩
  have plain :
      ∀ attr ∈ occurrences.map (fun occurrence => occurrence.step.attr),
        attr.disposition ≠ some .unknown ∧ attr.sizeReference = none ∧
        attr.condition = none := by
    rw [met]
    decide
  refine ClassModel.exists_build_eq_ok (Schema.validate_eq_ok_iff.mp valid)
    (walk.flattens.isFlattening found) ?_
  intro entry among fault
  rcases List.mem_map.mp among with ⟨occurrence, inWalk, rfl⟩
  rcases plain _ (List.mem_map_of_mem inWalk) with
    ⟨known, unsized, unconditional⟩
  refine Appearance.not_refused known unsized fun name conditioned => ?_
  cases unconditional.symm.trans conditioned

/--
The class has the composite as its super-class once, by the second
entry of its layout.
-/
theorem compose_areTraced_regrouped :
    ∃ composition model,
      compose .regrouped (.dissolving "EntityBody") .java "Transfer" =
          .ok composition ∧
        ClassModel.build .regrouped (.dissolving "EntityBody") .java
          "Transfer" = .ok model ∧
        IsSuperEntry (.dissolving "EntityBody")
          [.inlining "EntityBody", .inlining "Mosaic"] ⟨1, .inlining "Mosaic"⟩ ∧
        composition.members.countP Member.isSuper = 1 ∧
        ∃ front slot inherited back,
          IsSuperBlock model.members front slot inherited back ∧
          model.ownMembers = front ++ back := by
  rcases exists_build_regrouped with ⟨model, built⟩
  rcases ClassModel.exists_of_build_eq_ok built with ⟨composition, composed, _⟩
  have located : Schema.regrouped.layout? "Transfer" =
      some [.inlining "EntityBody", .inlining "Mosaic"] := by cbv
  have isEntry : IsSuperEntry (.dissolving "EntityBody")
      [.inlining "EntityBody", .inlining "Mosaic"] ⟨1, .inlining "Mosaic"⟩ :=
    ⟨by decide, by decide, by decide, by decide, by decide⟩
  rcases compose_areTraced composed with
    ⟨layout, entries, found, _, _, traced, classes⟩
  rcases Option.some.inj (located.symm.trans found) with rfl
  exact ⟨composition, model, composed, built, isEntry, traced.single _ isEntry,
    (classes model built).2.1 _ isEntry⟩

end WireLayout
