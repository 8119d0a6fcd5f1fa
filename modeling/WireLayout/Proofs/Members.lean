import WireLayout.Proofs.Pairing
import WireLayout.Proofs.Walk

/-!
# The members of a flattened composite

Flattening a composite takes three steps, each of which can fail: the walk, the
resolution of each occurrence to a member, and the links between members and
the fields that hold their sizes.  Here each step is described by when it
succeeds and with what, and the whole is put together from them.

Links change nothing else about members, so that every member of a composition
still is what its occurrence was resolved to.
-/

namespace WireLayout

/-! ## Resolution -/

theorem Attribute.checkSizeReference_eq_ok_iff
    {attr : Attribute} {owner : String} {siblings : List Attribute} :
    attr.checkSizeReference owner siblings = .ok () ↔
      ∀ reference, attr.sizeReference = some reference →
        ∃ sibling ∈ siblings, sibling.displayName = reference := by
  rw [checkSizeReference]
  split
  · next unsized => simp [unsized]
  · next reference referred =>
      simp only [referred, Option.some.injEq, forall_eq']
      split
      · next named => simpa using named
      · next unnamed => simpa using unnamed

/-- A size is found exactly when it is declared, or else the type is known. -/
theorem Attribute.exists_resolvedSize_eq_ok_iff
    {attr : Attribute} {schema : Schema} {settings : Settings}
    {owner : String} :
    (∃ size, attr.resolvedSize schema settings owner = .ok size) ↔
      attr.size.isSome = true ∨ attr.typeName = settings.byteType ∨
        attr.typeName ∈ schema.names := by
  rw [resolvedSize]
  split
  · next size declared => simp [declared]
  · next undeclared =>
      rw [undeclared]
      split
      · next bytes => simp_all [Settings.isByteType]
      · next notBytes =>
          split
          · next descriptor found =>
              have known := Schema.mem_names_of_find? found
              simp [known]
          · next missing =>
              have unknown := Schema.find?_eq_none_iff.mp missing
              simp_all [Settings.isByteType]

theorem Attribute.resolvedSize_eq_field_iff
    {attr : Attribute} {schema : Schema} {settings : Settings}
    {owner reference : String} :
    attr.resolvedSize schema settings owner = .ok (.field reference) ↔
      attr.sizeReference = some reference := by
  rw [resolvedSize, sizeReference]
  cases attr.size with
  | some size => cases size <;> simp
  | none =>
      simp only [reduceCtorEq, iff_false]
      split
      · simp
      · split <;> simp

/-- An attribute has a kind unless its disposition is not known. -/
theorem Attribute.kind?_eq_none_iff
    {attr : Attribute} {settings : Settings} {siblings : List Attribute} :
    attr.kind? settings siblings = none ↔ attr.disposition = some .unknown := by
  rw [kind?]
  split
  · next disposition => simp [disposition]
  · next disposition => simp [disposition]
  · next disposition => simp [disposition]
  · next known =>
      refine iff_of_false ?_ known
      split
      · simp
      · split <;> simp

/--
An occurrence is resolved exactly when it has a kind and a size that
refers to a sibling.
-/
theorem Occurrence.resolve_eq_ok_iff
    {context : WalkContext} {earlier : List String} {occurrence : Occurrence}
    {typed : TypedMember} :
    occurrence.resolve context earlier = .ok typed ↔
      ∃ kind size,
        occurrence.step.attr.kind? context.settings occurrence.layout =
            some kind ∧
          occurrence.step.attr.checkSizeReference occurrence.owner
            occurrence.layout = .ok () ∧
          occurrence.step.attr.resolvedSize context.schema context.settings
              occurrence.owner =
            .ok size ∧
          typed = ⟨occurrence.member context earlier kind size,
            occurrence.targetType context kind size⟩ := by
  rw [resolve]
  cases classified :
      occurrence.step.attr.kind? context.settings occurrence.layout with
  | none => simp [Outcome.bind_eq_ok_iff]
  | some kind =>
      simp only [Outcome.bind_eq_ok_iff, Option.some.injEq]
      constructor
      · rintro ⟨_, same, _, checked, size, sized, result⟩
        rcases Except.ok.inj same with rfl
        exact ⟨kind, size, rfl, checked, sized, (Except.ok.inj result).symm⟩
      · rintro ⟨_, size, rfl, checked, sized, rfl⟩
        exact ⟨kind, rfl, (), checked, size, sized, rfl⟩

/--
An occurrence is not resolved for want of a kind, of a sibling for its
size, or of a size.
-/
theorem Occurrence.resolve_eq_error
    {context : WalkContext} {earlier : List String} {occurrence : Occurrence}
    {fault : CompileFault}
    (failed : occurrence.resolve context earlier = .error fault) :
    (occurrence.step.attr.disposition = some .unknown ∧
        fault =
          .unclassified occurrence.owner occurrence.step.attr.displayName) ∨
      occurrence.step.attr.checkSizeReference occurrence.owner
          occurrence.layout =
        .error fault ∨
      occurrence.step.attr.resolvedSize context.schema context.settings
          occurrence.owner =
        .error fault := by
  rw [resolve] at failed
  cases classified :
      occurrence.step.attr.kind? context.settings occurrence.layout with
  | none =>
      have unknown := Attribute.kind?_eq_none_iff.mp classified
      simp only [classified, Outcome.bind_eq_error_iff] at failed
      rcases failed with same | ⟨_, impossible, _⟩
      · exact Or.inl ⟨unknown, (Except.error.inj same).symm⟩
      · cases impossible
  | some kind =>
      simp only [classified, Outcome.bind_eq_error_iff] at failed
      rcases failed with
        impossible | ⟨_, _, unchecked | ⟨_, _, unsized | ⟨_, _, impossible⟩⟩⟩
      · cases impossible
      · exact Or.inr (Or.inl unchecked)
      · exact Or.inr (Or.inr unsized)
      · cases impossible

/--
What it takes for an occurrence to be resolved: a kind, a size, and a
sibling that it names.
-/
structure Occurrence.Resolvable (schema : Schema) (settings : Settings)
    (occurrence : Occurrence) : Prop where
  known : occurrence.step.attr.disposition ≠ some .unknown
  named : ∀ reference, occurrence.step.attr.sizeReference = some reference →
    ∃ sibling ∈ occurrence.layout, sibling.displayName = reference
  sized : occurrence.step.attr.size.isSome = true ∨
    occurrence.step.attr.typeName = settings.byteType ∨
    occurrence.step.attr.typeName ∈ schema.names

/--
An occurrence is resolved exactly when it can be, whatever was met before it.
-/
theorem Occurrence.exists_resolve_eq_ok_iff
    {context : WalkContext} {earlier : List String} {occurrence : Occurrence} :
    (∃ typed, occurrence.resolve context earlier = .ok typed) ↔
      occurrence.Resolvable context.schema context.settings := by
  constructor
  · rintro ⟨typed, resolves⟩
    rcases resolve_eq_ok_iff.mp resolves with
      ⟨kind, size, classified, checked, sized, _⟩
    constructor
    · intro unknown
      rw [Attribute.kind?_eq_none_iff.mpr unknown] at classified
      cases classified
    · exact Attribute.checkSizeReference_eq_ok_iff.mp checked
    · exact Attribute.exists_resolvedSize_eq_ok_iff.mp ⟨size, sized⟩
  · intro resolvable
    have checked :
        occurrence.step.attr.checkSizeReference occurrence.owner
          occurrence.layout = .ok () :=
      Attribute.checkSizeReference_eq_ok_iff.mpr resolvable.named
    rcases Attribute.exists_resolvedSize_eq_ok_iff.mpr resolvable.sized with
      ⟨size, sized⟩
    cases classified :
        occurrence.step.attr.kind? context.settings occurrence.layout with
    | none =>
        exact absurd (Attribute.kind?_eq_none_iff.mp classified)
          resolvable.known
    | some kind =>
        exact ⟨_,
          resolve_eq_ok_iff.mpr ⟨kind, size, classified, checked, sized, rfl⟩⟩

theorem forall₂_of_resolveOccurrences_eq_ok
    {context : WalkContext} {earlier : List String}
    {occurrences : List Occurrence} {resolved : List TypedMember}
    (yielded : resolveOccurrences context earlier occurrences = .ok resolved) :
    List.Forall₂
      (fun occurrence typed => ∃ names,
        occurrence.resolve context names = .ok typed)
      occurrences resolved := by
  induction occurrences generalizing earlier resolved with
  | nil =>
      rcases Except.ok.inj yielded with rfl
      exact .nil
  | cons occurrence rest ih =>
      rcases Outcome.bind_eq_ok_iff.mp yielded with ⟨typed, first, remaining⟩
      rcases Outcome.bind_eq_ok_iff.mp remaining with ⟨others, later, result⟩
      rcases Except.ok.inj result with rfl
      exact .cons ⟨earlier, first⟩ (ih later)

/-- Occurrences are resolved exactly when each of them can be. -/
theorem exists_resolveOccurrences_eq_ok_iff
    {context : WalkContext} {earlier : List String}
    {occurrences : List Occurrence} :
    (∃ resolved,
      resolveOccurrences context earlier occurrences = .ok resolved) ↔
      ∀ occurrence ∈ occurrences,
        occurrence.Resolvable context.schema context.settings := by
  induction occurrences generalizing earlier with
  | nil => simp [resolveOccurrences]
  | cons occurrence rest ih =>
      have first :=
        @Occurrence.exists_resolve_eq_ok_iff context earlier occurrence
      have later := @ih (earlier ++ [occurrence.step.attr.displayName])
      rw [List.forall_mem_cons, ← first, ← later]
      simp only [resolveOccurrences, Outcome.bind_eq_ok_iff]
      constructor
      · rintro ⟨_, typed, first, others, later, _⟩
        exact ⟨⟨typed, first⟩, others, later⟩
      · rintro ⟨⟨typed, first⟩, others, later⟩
        exact ⟨_, typed, first, others, later, rfl⟩

/--
Occurrences that each are resolved alike, after a change, are
resolved alike together.
-/
theorem map_resolveOccurrences_eq
    {Changed : Type} {context other : WalkContext}
    {change otherChange : TypedMember → Changed} {occurrences : List Occurrence}
    (same : ∀ occurrence ∈ occurrences, ∀ earlier,
      (occurrence.resolve context earlier).map change =
        (occurrence.resolve other earlier).map otherChange)
    (earlier : List String) :
    (resolveOccurrences context earlier occurrences).map (List.map change) =
      (resolveOccurrences other earlier occurrences).map
        (List.map otherChange) := by
  induction occurrences generalizing earlier with
  | nil => rfl
  | cons occurrence rest ih =>
      simp only [resolveOccurrences, Outcome.map_bind]
      refine Outcome.bind_eq_of_map_eq
        (same occurrence List.mem_cons_self earlier) ?_
      intro typed otherTyped first
      refine Outcome.bind_eq_of_map_eq
        (ih (fun later among => same later (List.mem_cons_of_mem _ among)) _) ?_
      intro typeds otherTypeds later
      exact congrArg Except.ok (congrArg₂ List.cons first later)

theorem exists_of_resolveOccurrences_eq_error
    {context : WalkContext} {earlier : List String}
    {occurrences : List Occurrence} {fault : CompileFault}
    (failed : resolveOccurrences context earlier occurrences = .error fault) :
    ∃ occurrence ∈ occurrences, ∃ names,
      occurrence.resolve context names = .error fault := by
  induction occurrences generalizing earlier with
  | nil => cases failed
  | cons occurrence rest ih =>
      rcases Outcome.bind_eq_error_iff.mp failed with first | ⟨_, _, failed⟩
      · exact ⟨occurrence, List.mem_cons_self, earlier, first⟩
      · rcases Outcome.bind_eq_error_iff.mp failed with
          later | ⟨_, _, impossible⟩
        · rcases ih later with ⟨other, member, names, failed⟩
          exact ⟨other, List.mem_cons_of_mem _ member, names, failed⟩
        · cases impossible

/-! ## Links to size fields -/

/-- A member without its links to and from size fields. -/
def Member.unlinked (member : Member) : Member :=
  { member with sizeField := none, sizedMember := none }

/-- A size refers to a field of the same visit, if it refers to any. -/
def Member.FindsSize (members : List Member) (member : Member) : Prop :=
  ∀ reference, member.size = .field reference →
    ∃ other ∈ members, other.visit = member.visit ∧ other.name = reference

/--
A member finds the field of its size exactly when there is one on its visit.
-/
theorem Member.exists_sizeTarget_eq_ok_iff
    {owner : String} {members : List Member} {member : Member} :
    (∃ target, member.sizeTarget owner members = .ok target) ↔
      member.FindsSize members := by
  rw [sizeTarget, FindsSize]
  cases member.size with
  | literal count => simp
  | field reference =>
      simp only [Size.field.injEq, forall_eq']
      split
      · next place found =>
          have some_ : (members.findIdx? fun other =>
              other.visit == member.visit && other.name == reference).isSome =
                true := by
            rw [found]
            rfl
          rw [List.findIdx?_isSome, List.any_eq_true] at some_
          simpa using some_
      · next missing =>
          rw [List.findIdx?_eq_none_iff] at missing
          refine iff_of_false (by simp) ?_
          rintro ⟨other, among, same, named⟩
          simpa [same, named] using missing other among

/--
A member fails to be linked where its size is in a field of which
its visit has none.
-/
theorem Member.sizeTarget_eq_error_iff
    {owner : String} {members : List Member} {member : Member}
    {fault : CompileFault} :
    member.sizeTarget owner members = .error fault ↔
      ∃ reference, member.size = .field reference ∧
        (members.findIdx? fun other =>
          other.visit == member.visit && other.name == reference) = none ∧
        fault = .dangling ⟨owner, member.name, reference, .size⟩ := by
  rw [sizeTarget]
  cases member.size with
  | literal count => simp
  | field reference =>
      simp only [Size.field.injEq, exists_eq_left']
      split
      · next place found => simp [found]
      · next missing => simp [missing, eq_comm]

/-- Links change nothing but the links. -/
theorem map_unlinked_withSizeLinks (targets : List (Option Nat))
    (members : List Member) :
    (withSizeLinks targets members).map Member.unlinked =
      members.map Member.unlinked := by
  rw [withSizeLinks, List.map_map]
  generalize 0 = start
  induction members generalizing start with
  | nil => rfl
  | cons member rest ih =>
      rw [List.zipIdx_cons, List.map_cons, List.map_cons, ih (start + 1)]
      rfl

theorem map_unlinked_of_linkSizes_eq_ok
    {owner : String} {members linked : List Member}
    (links : linkSizes owner members = .ok linked) :
    linked.map Member.unlinked = members.map Member.unlinked := by
  rcases Outcome.bind_eq_ok_iff.mp links with ⟨targets, _, result⟩
  rcases Except.ok.inj result with rfl
  exact map_unlinked_withSizeLinks targets members

/--
Members are linked exactly when all of them find the fields of their sizes.
-/
theorem exists_linkSizes_eq_ok_iff
    {owner : String} {members : List Member} :
    (∃ linked, linkSizes owner members = .ok linked) ↔
      ∀ member ∈ members, member.FindsSize members := by
  simp only [← @Member.exists_sizeTarget_eq_ok_iff owner]
  rw [← Outcome.exists_mapM_eq_ok_iff]
  constructor
  · rintro ⟨linked, links⟩
    rcases Outcome.bind_eq_ok_iff.mp links with ⟨targets, found, _⟩
    exact ⟨targets, found⟩
  · rintro ⟨targets, found⟩
    exact ⟨_, Outcome.bind_eq_ok_iff.mpr ⟨targets, found, rfl⟩⟩

theorem exists_of_linkSizes_eq_error
    {owner : String} {members : List Member} {fault : CompileFault}
    (failed : linkSizes owner members = .error fault) :
    ∃ member ∈ members, ¬ member.FindsSize members ∧ ∃ reference,
      member.size = .field reference ∧
        fault = .dangling ⟨owner, member.name, reference, .size⟩ := by
  rcases Outcome.bind_eq_error_iff.mp failed with failed | ⟨_, _, impossible⟩
  · rcases Outcome.exists_of_mapM_eq_error failed with ⟨member, among, failed⟩
    rcases Member.sizeTarget_eq_error_iff.mp failed with
      ⟨reference, sized, _, named⟩
    refine ⟨member, among, ?_, reference, sized, named⟩
    intro finds
    rcases Member.exists_sizeTarget_eq_ok_iff.mpr finds with ⟨target, found⟩
    cases failed.symm.trans found
  · cases impossible

/-! ## Compositions -/

@[simp]
theorem Occurrence.unlinked_member
    (context : WalkContext) (earlier : List String) (occurrence : Occurrence)
    (kind : Kind)
    (size : Size) :
    (occurrence.member context earlier kind size).unlinked =
      occurrence.member context earlier kind size := by
  simp only [Member.unlinked, Occurrence.member]

/-- A member is what an occurrence resolves to, links apart. -/
def Occurrence.Yields (context : WalkContext) (occurrence : Occurrence)
    (member : Member) : Prop :=
  ∃ earlier kind size,
    occurrence.step.attr.kind? context.settings occurrence.layout = some kind ∧
      occurrence.step.attr.resolvedSize context.schema context.settings
          occurrence.owner =
        .ok size ∧
      member.unlinked = occurrence.member context earlier kind size

theorem Occurrence.Yields.name_eq
    {context : WalkContext} {occurrence : Occurrence} {member : Member}
    (yields : occurrence.Yields context member) :
    member.name = occurrence.step.attr.displayName := by
  rcases yields with ⟨_, _, _, _, _, same⟩
  simpa only [Member.unlinked, Occurrence.member]
    using congrArg Member.name same

theorem Occurrence.Yields.visit_eq
    {context : WalkContext} {occurrence : Occurrence} {member : Member}
    (yields : occurrence.Yields context member) :
    member.visit = occurrence.visit := by
  rcases yields with ⟨_, _, _, _, _, same⟩
  simpa only [Member.unlinked, Occurrence.member]
    using congrArg Member.visit same

theorem Occurrence.Yields.discriminant_eq
    {context : WalkContext} {occurrence : Occurrence} {member : Member}
    (yields : occurrence.Yields context member) :
    member.discriminant = none := by
  rcases yields with ⟨_, _, _, _, _, same⟩
  simpa only [Member.unlinked, Occurrence.member]
    using congrArg Member.discriminant same

/-- A member takes its size from the field from which its attribute does. -/
theorem Occurrence.Yields.size_eq_field_iff
    {context : WalkContext} {occurrence : Occurrence} {member : Member}
    {reference : String}
    (yields : occurrence.Yields context member) :
    member.size = .field reference ↔
      occurrence.step.attr.sizeReference = some reference := by
  rcases yields with ⟨_, _, size, _, sized, same⟩
  have sameSize : member.size = size := by
    simpa only [Member.unlinked, Occurrence.member]
      using congrArg Member.size same
  rw [sameSize, ← Attribute.resolvedSize_eq_field_iff, sized]
  simp

/-- What occurrences yield does not depend on links. -/
theorem forall₂_yields_map_unlinked_iff
    {context : WalkContext} {occurrences : List Occurrence}
    {members : List Member} :
    List.Forall₂ (Occurrence.Yields context) occurrences
        (members.map Member.unlinked) ↔
      List.Forall₂ (Occurrence.Yields context) occurrences members :=
  List.forall₂_map_right_iff

theorem forall₂_yields_of_resolveOccurrences_eq_ok
    {context : WalkContext} {earlier : List String}
    {occurrences : List Occurrence} {resolved : List TypedMember}
    (yielded : resolveOccurrences context earlier occurrences = .ok resolved) :
    List.Forall₂ (Occurrence.Yields context) occurrences
      (resolved.map TypedMember.member) := by
  rw [List.forall₂_map_right_iff]
  refine (forall₂_of_resolveOccurrences_eq_ok yielded).imp ?_
  rintro occurrence typed ⟨earlier, resolves⟩
  rcases Occurrence.resolve_eq_ok_iff.mp resolves with
    ⟨kind, size, classified, _, sized, rfl⟩
  exact ⟨earlier, kind, size, classified, sized, Occurrence.unlinked_member ..⟩

/-- Resolved and linked occurrences yield their members. -/
theorem forall₂_yields
    {context : WalkContext} {owner : String} {occurrences : List Occurrence}
    {resolved : List TypedMember} {members : List Member}
    (yielded : resolveOccurrences context [] occurrences = .ok resolved)
    (links : linkSizes owner (resolved.map TypedMember.member) = .ok members) :
    List.Forall₂ (Occurrence.Yields context) occurrences members := by
  have each := forall₂_yields_of_resolveOccurrences_eq_ok yielded
  rw [← forall₂_yields_map_unlinked_iff] at each
  rw [← forall₂_yields_map_unlinked_iff, map_unlinked_of_linkSizes_eq_ok links]
  exact each

/--
The field that holds the size of an occurrence is one that its
siblings contribute.
-/
def Occurrence.FindsSize (settings : Settings)
    (occurrence : Occurrence) : Prop :=
  ∀ reference, occurrence.step.attr.sizeReference = some reference →
    ∃ step ∈ stepsOf occurrence.layout,
      step.attr.contributes settings = true ∧ step.attr.displayName = reference

/--
A member of a walk finds the field of its size exactly when its
occurrence does.
-/
theorem Occurrence.Yields.findsSize_iff
    {schema : Schema} {settings : Settings} {context : WalkContext}
    {frame : Frame} {lastVisit last : Nat} {occurrences : List Occurrence}
    {members : List Member} {occurrence : Occurrence} {member : Member}
    (pair : occurrence.Yields context member)
    (walk :
      Walks schema settings frame lastVisit (stepsOf frame.layout)
        occurrences last)
    (started : frame.visit ≤ lastVisit)
    (yields : List.Forall₂ (Occurrence.Yields context) occurrences members)
    (among : occurrence ∈ occurrences) :
    member.FindsSize members ↔ occurrence.FindsSize settings := by
  refine forall_congr' fun reference => ?_
  rw [pair.size_eq_field_iff]
  refine imp_congr_right fun _ => ?_
  rw [← walk.exists_same_visit_iff started among fun step =>
    step.attr.displayName = reference]
  refine (exists_mem_iff_of_forall₂ yields ?_).symm
  intro other otherMember otherPair
  rw [pair.visit_eq, otherPair.visit_eq, otherPair.name_eq]

/--
The members of a walk find the fields of their sizes exactly when
its occurrences do.
-/
theorem forall_findsSize_iff
    {schema : Schema} {settings : Settings} {context : WalkContext}
    {frame : Frame} {lastVisit last : Nat} {occurrences : List Occurrence}
    {members : List Member}
    (walk :
      Walks schema settings frame lastVisit (stepsOf frame.layout)
        occurrences last)
    (started : frame.visit ≤ lastVisit)
    (yields : List.Forall₂ (Occurrence.Yields context) occurrences members) :
    (∀ member ∈ members, member.FindsSize members) ↔
      ∀ occurrence ∈ occurrences, occurrence.FindsSize settings := by
  have sides := (List.forall₂_and_left _ _).mpr ⟨fun _ among => among, yields⟩
  refine (forall_mem_iff_of_forall₂ sides ?_).symm
  rintro occurrence member ⟨among, pair⟩
  exact (pair.findsSize_iff walk started yields among).symm

/-- What is flattened is resolved and linked along a walk to the end. -/
theorem compose_eq_ok
    {schema : Schema} {settings : Settings} {language : Language}
    {root : String} {composition : Composition}
    (composed : compose schema settings language root = .ok composition) :
    ∃ layout occurrences last resolved,
      schema.layout? root = some layout ∧
        Walks schema settings (.root root layout) 0 (stepsOf layout)
          occurrences last ∧
        resolveOccurrences (.of schema settings language root layout) []
            occurrences =
          .ok resolved ∧
        linkSizes root (resolved.map TypedMember.member) =
          .ok composition.members := by
  rw [compose] at composed
  split at composed
  · cases composed
  · next layout found =>
      rcases Outcome.bind_eq_ok_iff.mp composed with
        ⟨resolved, yielded, composed⟩
      cases outcome :
          (traverse schema settings (.root root layout) 0
            (stepsOf layout)).fault with
      | some fault =>
          simp only [outcome] at composed
          cases composed
      | none =>
          simp only [outcome] at composed
          rcases Outcome.bind_eq_ok_iff.mp composed with
            ⟨members, links, result⟩
          rcases Except.ok.inj result with rfl
          exact ⟨layout, _, _, resolved, found, walks_of_fault_eq_none outcome,
            yielded, links⟩

/-- No member of a composition is linked with a discriminant yet. -/
theorem discriminant_eq_none_of_compose_eq_ok
    {schema : Schema} {settings : Settings} {language : Language}
    {root : String} {composition : Composition} {member : Member}
    (composed : compose schema settings language root = .ok composition)
    (among : member ∈ composition.members) :
    member.discriminant = none := by
  rcases compose_eq_ok composed with ⟨_, _, _, _, _, _, yielded, links⟩
  rcases exists_left_of_forall₂ (forall₂_yields yielded links) among with
    ⟨_, _, yields⟩
  exact yields.discriminant_eq

/-- What a walk from a composite meets yields the members of its composition. -/
theorem Walks.forall₂_yields_of_compose_eq_ok
    {schema : Schema} {settings : Settings} {language : Language}
    {root : String} {layout : List Attribute} {occurrences : List Occurrence}
    {last : Nat} {composition : Composition}
    (walk :
      Walks schema settings (.root root layout) 0 (stepsOf layout)
        occurrences last)
    (found : schema.layout? root = some layout)
    (composed : compose schema settings language root = .ok composition) :
    List.Forall₂ (Occurrence.Yields (.of schema settings language root layout))
      occurrences
      composition.members := by
  rcases compose_eq_ok composed with
    ⟨_, _, _, _, sameFound, sameWalk, yielded, links⟩
  rcases Option.some.inj (found.symm.trans sameFound) with rfl
  have sameOccurrences :=
    congrArg Traversal.occurrences
      (walk.traverse_eq.symm.trans sameWalk.traverse_eq)
  simp only at sameOccurrences
  rw [sameOccurrences]
  exact forall₂_yields yielded links

section Walked

variable {schema : Schema} {settings : Settings} {language : Language}
  {root : String} {layout : List Attribute} {occurrences : List Occurrence}
  {last : Nat}

/--
Along a walk to the end a composite is flattened exactly when all is
resolved and linked.
-/
theorem exists_compose_eq_ok_iff
    (found : schema.layout? root = some layout)
    (walk :
      Walks schema settings (.root root layout) 0 (stepsOf layout)
        occurrences last) :
    (∃ composition, compose schema settings language root = .ok composition) ↔
      ∃ resolved members,
        resolveOccurrences (.of schema settings language root layout) []
          occurrences =
            .ok resolved ∧
          linkSizes root (resolved.map TypedMember.member) = .ok members := by
  simp only [compose, found, walk.traverse_eq, Outcome.bind_eq_ok_iff]
  constructor
  · rintro ⟨composition, resolved, yielded, members, links, _⟩
    exact ⟨resolved, members, yielded, links⟩
  · rintro ⟨resolved, members, yielded, links⟩
    exact ⟨_, resolved, yielded, members, links, rfl⟩

/--
Along a walk to the end a composite is flattened exactly when every attribute
that is met can be resolved, and finds its size among the fields that its
siblings contribute.
-/
theorem exists_compose_eq_ok_iff_forall
    (found : schema.layout? root = some layout)
    (walk :
      Walks schema settings (.root root layout) 0 (stepsOf layout)
        occurrences last) :
    (∃ composition, compose schema settings language root = .ok composition) ↔
      ∀ occurrence ∈ occurrences,
        occurrence.Resolvable schema settings ∧
          occurrence.FindsSize settings := by
  rw [exists_compose_eq_ok_iff found walk]
  constructor
  · rintro ⟨resolved, members, yielded, links⟩ occurrence member
    have resolvable :=
      exists_resolveOccurrences_eq_ok_iff.mp ⟨resolved, yielded⟩
    have yields := forall₂_yields_of_resolveOccurrences_eq_ok yielded
    have finds := exists_linkSizes_eq_ok_iff.mp ⟨members, links⟩
    exact ⟨resolvable occurrence member,
      (forall_findsSize_iff walk (Nat.le_refl _) yields).mp finds
        occurrence member⟩
  · intro holds
    have resolvable (occurrence : Occurrence)
        (member : occurrence ∈ occurrences) :=
      (holds occurrence member).1
    rcases (@exists_resolveOccurrences_eq_ok_iff
        (.of schema settings language root layout) [] occurrences).mpr
      resolvable with
      ⟨resolved, yielded⟩
    have yields := forall₂_yields_of_resolveOccurrences_eq_ok yielded
    have finds := (forall_findsSize_iff walk (Nat.le_refl _) yields).mpr
      fun occurrence member => (holds occurrence member).2
    rcases exists_linkSizes_eq_ok_iff.mpr finds with ⟨members, links⟩
    exact ⟨resolved, members, yielded, links⟩

/--
Along a walk to the end flattening fails where an occurrence is not
resolved or not linked.
-/
theorem compose_eq_error
    {fault : CompileFault}
    (found : schema.layout? root = some layout)
    (walk :
      Walks schema settings (.root root layout) 0 (stepsOf layout)
        occurrences last)
    (failed : compose schema settings language root = .error fault) :
    resolveOccurrences (.of schema settings language root layout) []
      occurrences =
        .error fault ∨
      ∃ resolved,
        resolveOccurrences (.of schema settings language root layout) []
          occurrences =
            .ok resolved ∧
          linkSizes root (resolved.map TypedMember.member) = .error fault := by
  simp only [compose, found, walk.traverse_eq,
    Outcome.bind_eq_error_iff] at failed
  rcases failed with failed | ⟨resolved, yielded, failed | ⟨_, _, impossible⟩⟩
  · exact Or.inl failed
  · exact Or.inr ⟨resolved, yielded, failed⟩
  · cases impossible

end Walked

end WireLayout
