import WireLayout.Proofs.Cosmetics
import WireLayout.Proofs.Imports
import WireLayout.Proofs.Provenance

/-!
# What a super-class decides

The settings say whether the first inlined composite of a class becomes its
super-class.  If it does, what it declares is inherited, and otherwise it is
grouped like what any other inlined composite declares.  Nothing else depends
on it: with super-classes and without them a composite is refused for the same
reason, or has the same members in the same order, with the same links,
variants and imports.

The class of the super-class is imported either way, because its slot is a
member either way.
-/

namespace WireLayout

/-! ## Settings with and without super-classes -/

/-- The settings with super-classes or without them. -/
def Settings.extending (settings : Settings) (enabled : Bool) : Settings :=
  { settings with useSuperClass := enabled }

@[simp]
theorem Settings.generates_extending (settings : Settings) (enabled : Bool)
    (name : String) :
    (settings.extending enabled).generates name = settings.generates name := rfl

theorem Attribute.kind?_extending
    (attr : Attribute) (settings : Settings) (enabled : Bool)
    (siblings : List Attribute) :
    attr.kind? (settings.extending enabled) siblings =
      attr.kind? settings siblings := rfl

theorem constructorVariants_extending
    (schema : Schema) (settings : Settings) (enabled : Bool)
    (members : List Member) :
    constructorVariants schema (settings.extending enabled) members =
      constructorVariants schema settings members := rfl

/-- A walk does not depend on super-classes. -/
theorem traverse_extending
    (schema : Schema) (settings : Settings) (enabled : Bool) (frame : Frame)
    (lastVisit : Nat)
    (steps : List Step) :
    traverse schema (settings.extending enabled) frame lastVisit steps =
      traverse schema settings frame lastVisit steps := by
  have fewer (name : String) : (settings.extending enabled).generates name =
      (settings.generates name && !(fun _ => false) name) := by
    simp
  rw [traverse_eq_removing fewer, Traversal.removing_none]

/-! ## Members and models without super-classes -/

/--
A member of a class without a super-class: what would be inherited is
grouped instead.
-/
def Member.detached (member : Member) : Member :=
  { member with
    isSuper := false
    isInherited := false
    isInline := member.isInline || member.isInherited }

/-- A member with its type in a class without a super-class. -/
def TypedMember.detached (typed : TypedMember) : TypedMember :=
  { typed with member := typed.member.detached }

/-- A composition without its super-class. -/
def Composition.detached (composition : Composition) : Composition :=
  { composition with
    members := composition.members.map Member.detached
    superClass := none }

/-- The model of a composite without its super-class. -/
def ClassModel.detached (model : ClassModel) : ClassModel :=
  { model with
    superClass := none
    members := model.members.map Member.detached }

/-- Whether members are inherited or grouped is cosmetic. -/
theorem Member.isCosmetic_detached : IsCosmetic detached := by
  constructor <;> intros <;> rfl

/-! ## Ways from the root -/

/-- A visit to which a way leads that begins in the layout of the root. -/
structure Frame.BeginsIn (layout : List Attribute) (frame : Frame) : Prop where
  own : frame.visit = 0 → frame.via = []
  start : frame.via = [] → frame.layout = layout
  first : ∀ step ∈ frame.via.head?, step ∈ stepsOf layout

theorem Frame.BeginsIn.root (name : String) (layout : List Attribute) :
    (Frame.root name layout).BeginsIn layout :=
  ⟨fun _ => rfl, fun _ => rfl, by simp [Frame.root]⟩

theorem Frame.BeginsIn.descend
    {layout inner : List Attribute} {frame : Frame} {step : Step} {visit : Nat}
    (begins : frame.BeginsIn layout)
    (declared : step ∈ stepsOf frame.layout) :
    (frame.descend step inner (visit + 1)).BeginsIn layout := by
  refine ⟨fun impossible => ?_, fun impossible => ?_, fun first among => ?_⟩
  · cases impossible
  · simp [Frame.descend] at impossible
  · cases through : frame.via with
    | nil =>
        have same :
            step = first := by simpa [Frame.descend, through] using among
        exact same ▸ begins.start through ▸ declared
    | cons head rest =>
        have same :
            head = first := by simpa [Frame.descend, through] using among
        exact begins.first first (by simp [through, same])

/--
What is met below the root was reached by a way that begins in the
layout of the root.
-/
theorem Frame.Meets.beginsIn
    {schema : Schema} {layout : List Attribute} {frame : Frame}
    {occurrence : Occurrence}
    (meets : frame.Meets schema occurrence)
    (begins : frame.BeginsIn layout) :
    (occurrence.visit = 0 → occurrence.via = []) ∧
      ∀ first ∈ occurrence.via.head?, first ∈ stepsOf layout := by
  induction meets with
  | own _ _ => exact ⟨begins.own, begins.first⟩
  | deeper declared _ _ _ ih => exact ih (begins.descend declared)

/-! ## Members -/

section Members

variable (schema : Schema) (settings : Settings) (language : Language)
  (root : String) {layout : List Attribute} {occurrence : Occurrence}

theorem WalkContext.aggregateName_eq_none_of_isSuper
    (context : WalkContext)
    (own : occurrence.visit = 0 → occurrence.via = [])
    (super : context.isSuper occurrence = true) :
    context.aggregateName occurrence.via = none := by
  have atRoot : occurrence.visit = 0 := by
    simp only [isSuper, Bool.and_eq_true, beq_iff_eq] at super
    exact super.1
  rw [own atRoot]
  rfl

/--
What is inherited was reached through a composite that is generated:
the super-class.
-/
theorem WalkContext.isSome_aggregateName_of_isInherited
    {via : List Step}
    (first : ∀ step ∈ via.head?, step ∈ stepsOf layout)
    (inherited :
      (WalkContext.of schema settings language root layout).isInherited via =
        true) :
    ((WalkContext.of schema settings language root layout).aggregateName
      via).isSome = true := by
  rcases (isInherited_iff first).mp inherited with ⟨slot, rest, rfl, entry⟩
  exact isSome_aggregateName_iff.mpr ⟨slot, List.mem_cons_self, entry.generated⟩

/--
What is grouped at all is what is grouped beside the super-class,
or is inherited.
-/
theorem WalkContext.isSome_aggregateName_eq
    (context : WalkContext)
    (own : occurrence.visit = 0 → occurrence.via = [])
    (through : context.isInherited occurrence.via = true →
      (context.aggregateName occurrence.via).isSome = true) :
    (context.aggregateName occurrence.via).isSome =
      (!context.isSuper occurrence && !context.isInherited occurrence.via &&
          (context.aggregateName occurrence.via).isSome ||
        context.isInherited occurrence.via) := by
  cases inherited : context.isInherited occurrence.via with
  | true => simp [through inherited]
  | false =>
      cases super : context.isSuper occurrence with
      | true => simp [context.aggregateName_eq_none_of_isSuper own super]
      | false => simp

theorem WalkContext.isSuper_extending_false :
    (WalkContext.of schema (settings.extending false) language root
      layout).isSuper occurrence =
      false := by
  simp [isSuper, isSuperStep, WalkContext.of, superClassPosition?,
    Settings.extending]

theorem WalkContext.isInherited_extending_false {via : List Step} :
    (WalkContext.of schema (settings.extending false) language root
      layout).isInherited via =
      false := by
  cases via with
  | nil => rfl
  | cons step rest =>
      simp [isInherited, isSuperStep, WalkContext.of, superClassPosition?,
        Settings.extending]

/--
Without super-classes the member of an occurrence is detached, and
the same otherwise.
-/
theorem Occurrence.member_extending_false
    (own : occurrence.visit = 0 → occurrence.via = [])
    (first : ∀ step ∈ occurrence.via.head?, step ∈ stepsOf layout)
    (earlier : List String) (kind : Kind) (size : Size) :
    occurrence.member
        (.of schema (settings.extending false) language root layout) earlier
        kind size =
      (occurrence.member
        (.of schema (settings.extending true) language root layout) earlier kind
        size).detached := by
  simp only [member, Member.detached, WalkContext.isSuper_extending_false,
    WalkContext.isInherited_extending_false, Bool.not_false, Bool.true_and]
  rw [← WalkContext.isSome_aggregateName_eq _ own
    (WalkContext.isSome_aggregateName_of_isInherited _ _ _ _ first)]
  rfl

/--
Without super-classes an occurrence is resolved to the detached member, or
refused likewise.
-/
theorem Occurrence.resolve_extending_false
    (own : occurrence.visit = 0 → occurrence.via = [])
    (first : ∀ step ∈ occurrence.via.head?, step ∈ stepsOf layout)
    (earlier : List String) :
    occurrence.resolve
        (.of schema (settings.extending false) language root layout) earlier =
      (occurrence.resolve
        (.of schema (settings.extending true) language root layout) earlier).map
        TypedMember.detached := by
  have member :=
    member_extending_false schema settings language root own first earlier
  simp only [WalkContext.of] at member ⊢
  rw [resolve, resolve]
  simp only [Attribute.kind?_extending]
  cases occurrence.step.attr.kind? settings occurrence.layout with
  | none => rfl
  | some kind =>
      simp only [Outcome.map_bind, member]
      rfl

end Members

/-! ## Compositions and classes -/

section Classes

variable (schema : Schema) (settings : Settings) (language : Language)
  (root : String)

/--
Without super-classes a composite is flattened to the detached composition.
-/
theorem compose_extending_false :
    compose schema (settings.extending false) language root =
      (compose schema (settings.extending true) language root).map
        Composition.detached := by
  rw [compose, compose]
  cases schema.layout? root with
  | none => rfl
  | some layout =>
      simp only [Outcome.map_bind, traverse_extending]
      let walked :=
        traverse schema settings (.root root layout) 0 (stepsOf layout)
      have resolves (occurrence : Occurrence)
          (met : occurrence ∈ walked.occurrences) (earlier : List String) :
          (occurrence.resolve
            (.of schema (settings.extending false) language root layout)
            earlier).map id =
            (occurrence.resolve
              (.of schema (settings.extending true) language root layout)
              earlier).map TypedMember.detached := by
        have way :=
          (Frame.meets_of_mem_traverse (List.Subset.refl _) met).beginsIn
            (.root root layout)
        rw [Except.map_id, id]
        exact occurrence.resolve_extending_false schema settings language root
          way.1 way.2 earlier
      refine Outcome.bind_eq_of_map_eq
        (map_resolveOccurrences_eq resolves []) ?_
      intro resolved attached same
      rw [List.map_id] at same
      subst same
      cases walked.fault with
      | some fault => rfl
      | none =>
          have members :
              (attached.map TypedMember.detached).map TypedMember.member =
                (attached.map TypedMember.member).map Member.detached := by
            simp only [List.map_map]
            rfl
          simp only [members, Member.isCosmetic_detached.linkSizes_map,
            Outcome.map_bind, Outcome.bind_map, List.foldl_map]
          rfl

/--
A composite has the same class with super-classes and without them, or is
refused with the same fault, except that without them there is no super-class,
and what would be inherited is grouped.
-/
theorem ClassModel.build_extending_false :
    ClassModel.build schema (settings.extending false) language root =
      (ClassModel.build schema (settings.extending true) language root).map
        ClassModel.detached := by
  rw [build, build, compose_extending_false]
  split
  · simp only [Outcome.map_bind, Outcome.bind_map]
    refine Outcome.bind_congr fun composition composed => ?_
    simp only [Composition.detached,
      Member.isCosmetic_detached.linkDiscriminants_map, Outcome.bind_map,
      Option.map_none]
    refine Outcome.bind_congr fun members _ => congrArg Except.ok ?_
    have variants :
        WireLayout.constructorVariants schema (settings.extending false)
          (members.map Member.detached) =
          WireLayout.constructorVariants schema (settings.extending true)
            members := by
      rw [constructorVariants_extending, constructorVariants_extending,
        Member.isCosmetic_detached.constructorVariants_map]
    cases super : composition.superClass with
    | none => simp only [variants, Option.map_none, detached]
    | some base =>
        simp only [variants, Option.map_some,
          insert_classImport_eq_imports composed super, detached]
  · rfl

end Classes

end WireLayout
