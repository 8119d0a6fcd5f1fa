import WireLayout.Proofs.Imports
import WireLayout.Proofs.Variants

/-!
# What a class depends on

A composite involves the composites that it inlines at any depth, itself among
them, and the types of their attributes, constants apart.  Building its class
looks up no other name, so schemas that agree on the names involved build the
same class of it, or refuse it with the same fault.

Every look-up is of the type of an attribute that the walk has met, or of the
root.  The walk is followed through its own recursion, since what it meets
before it is stopped counts as well.
-/

namespace WireLayout

/-! ## Names involved in a composite -/

/-- A name that the class of a composite can depend on. -/
inductive Schema.Involves (schema : Schema)
    (root : String) : String → Prop where
  | composite {name}
      (reaches : Relation.ReflTransGen schema.Inlines root name) :
      Involves schema root name
  | type {owner layout attr}
      (reaches : Relation.ReflTransGen schema.Inlines root owner)
      (found : schema.layout? owner = some layout)
      (member : attr ∈ layout)
      (notConstant : attr.isConstant = false) :
      Involves schema root attr.typeName

/-- Two schemas hold the same descriptor for a name, or both hold none. -/
def Schema.AgreesAt (schema other : Schema) (name : String) : Prop :=
  schema.find? name = other.find? name

/-- What the visits below a composite inline or hold is involved in it. -/
theorem Frame.Grounded.involves
    {schema : Schema} {root : String} {frame : Frame} {step : Step}
    (grounded : frame.Grounded schema)
    (onPath : root ∈ frame.path)
    (member : step ∈ stepsOf frame.layout)
    (notConstant : step.attr.disposition ≠ some .constant) :
    schema.Involves root step.attr.typeName := by
  refine .type (grounded.leads root onPath) grounded.found
    (attr_mem_of_mem_stepsOf member) ?_
  simpa [Attribute.isConstant] using notConstant

/-! ## Look-ups of one name -/

namespace Schema.AgreesAt

variable {schema other : Schema} {settings : Settings} {language : Language}
  {name : String} {attr : Attribute}

theorem category?_eq (agrees : schema.AgreesAt other name) :
    schema.category? name = other.category? name := by
  rw [category?, category?, agrees]

theorem layout?_eq (agrees : schema.AgreesAt other name) :
    schema.layout? name = other.layout? name := by
  rw [layout?, layout?, agrees]

theorem enumeration?_eq (agrees : schema.AgreesAt other name) :
    schema.enumeration? name = other.enumeration? name := by
  rw [enumeration?, enumeration?, agrees]

theorem className_eq (agrees : schema.AgreesAt other name)
    (language : Language) :
    language.className schema name = language.className other name := by
  rw [Language.className, Language.className, agrees.category?_eq]

theorem resolvedSize_eq (agrees : schema.AgreesAt other attr.typeName)
    (owner : String) :
    attr.resolvedSize schema settings owner =
      attr.resolvedSize other settings owner := by
  rw [Attribute.resolvedSize, Attribute.resolvedSize, agrees]

theorem fixedWidth_eq (agrees : schema.AgreesAt other attr.typeName) :
    attr.fixedWidth schema = attr.fixedWidth other := by
  rw [Attribute.fixedWidth, Attribute.fixedWidth, agrees]

theorem resolvedSignedness_eq (agrees : schema.AgreesAt other attr.typeName) :
    attr.resolvedSignedness schema = attr.resolvedSignedness other := by
  rw [Attribute.resolvedSignedness, Attribute.resolvedSignedness, agrees]

theorem attributeType_eq
    (agrees : schema.AgreesAt other attr.typeName) (kind : Kind) (size : Size) :
    language.attributeType schema settings attr kind size =
      language.attributeType other settings attr kind size := by
  simp only [Language.attributeType, agrees.className_eq, agrees.fixedWidth_eq,
    agrees.resolvedSignedness_eq]

end Schema.AgreesAt

/-! ## Walks -/

section Walks

variable {schema other : Schema} {settings : Settings} {root : String}
  {frame : Frame} {lastVisit : Nat} {steps : List Step}

/-- Schemas that agree on what a composite involves walk alike below it. -/
theorem traverse_eq_of_agreesAt
    (agrees : ∀ name, schema.Involves root name → schema.AgreesAt other name)
    (grounded : frame.Grounded schema)
    (onPath : root ∈ frame.path)
    (declared : steps ⊆ stepsOf frame.layout) :
    traverse schema settings frame lastVisit steps =
      traverse other settings frame lastVisit steps := by
  induction frame, lastVisit, steps using traverse.induct schema settings with
  | case1 frame lastVisit => rw [traverse_nil, traverse_nil]
  | case2 frame lastVisit step steps constant ih =>
      rw [traverse_constant constant, traverse_constant constant]
      exact ih grounded onPath (List.subset_of_cons_subset declared)
  | case3 frame lastVisit step steps inlined typeName missing =>
      have involved :=
        grounded.involves onPath (declared List.mem_cons_self)
          (by simp [inlined])
      have otherMissing := (agrees _ involved).layout?_eq.symm.trans missing
      rw [traverse_missing inlined missing,
        traverse_missing inlined otherMissing]
  | case4 frame lastVisit step steps inlined typeName layout found repeated =>
      have involved :=
        grounded.involves onPath (declared List.mem_cons_self)
          (by simp [inlined])
      have otherFound := (agrees _ involved).layout?_eq.symm.trans found
      rw [traverse_circular inlined found repeated,
        traverse_circular inlined otherFound repeated]
  | case5 frame lastVisit step steps inlined typeName layout found fresh inner
      innerIH laterIH =>
      have member := declared List.mem_cons_self
      have involved := grounded.involves onPath member (by simp [inlined])
      have otherFound := (agrees _ involved).layout?_eq.symm.trans found
      have below :=
        innerIH (grounded.descend member inlined found)
          (List.mem_append_left _ onPath) (List.Subset.refl _)
      have later :=
        laterIH grounded onPath (List.subset_of_cons_subset declared)
      simp only [inner] at below later
      rw [traverse_inlined inlined found fresh,
        traverse_inlined inlined otherFound fresh]
      simp only [← below, later]
  | case6 frame lastVisit step steps notConstant notInlined ih =>
      rw [traverse_plain notConstant notInlined,
        traverse_plain notConstant notInlined,
        ih grounded onPath (List.subset_of_cons_subset declared)]

/--
The types of all that a walk meets are involved, whether or not it is stopped.
-/
theorem Frame.Meets.involves
    {occurrence : Occurrence}
    (meets : frame.Meets schema occurrence)
    (grounded : frame.Grounded schema)
    (onPath : root ∈ frame.path) :
    schema.Involves root occurrence.step.attr.typeName := by
  induction meets with
  | own declared notConstant =>
      exact grounded.involves onPath declared notConstant
  | deeper declared inlined found _ ih =>
      exact ih (grounded.descend declared inlined found)
        (List.mem_append_left _ onPath)

end Walks

/-! ## Members -/

section Members

variable {schema other : Schema} {settings : Settings} {language : Language}
  {root : String} {layout : List Attribute}

/-- What an occurrence resolves to depends on nothing but its own type. -/
theorem Occurrence.resolve_eq_of_agreesAt
    {earlier : List String} {occurrence : Occurrence}
    (agrees : schema.AgreesAt other occurrence.step.attr.typeName) :
    occurrence.resolve (.of schema settings language root layout) earlier =
      occurrence.resolve (.of other settings language root layout) earlier := by
  simp only [resolve, member, targetType, WalkContext.of,
    agrees.resolvedSize_eq, agrees.attributeType_eq, agrees.category?_eq,
    agrees.className_eq, agrees.resolvedSignedness_eq]
  -- What is left of the contexts is read off the settings and the
  -- super-class alone.
  rfl

theorem resolveOccurrences_eq_of_agreesAt
    {earlier : List String} {occurrences : List Occurrence}
    (agrees : ∀ occurrence ∈ occurrences,
      schema.AgreesAt other occurrence.step.attr.typeName) :
    resolveOccurrences (.of schema settings language root layout) earlier
        occurrences =
      resolveOccurrences (.of other settings language root layout) earlier
        occurrences := by
  induction occurrences generalizing earlier with
  | nil => rfl
  | cons occurrence rest ih =>
      rw [resolveOccurrences, resolveOccurrences,
        Occurrence.resolve_eq_of_agreesAt
          (agrees occurrence List.mem_cons_self),
        ih fun later among => agrees later (List.mem_cons_of_mem _ among)]

/-- Schemas that agree on what a composite involves flatten it alike. -/
theorem compose_eq_of_agreesAt
    (agrees : ∀ name, schema.Involves root name → schema.AgreesAt other name) :
    compose schema settings language root =
      compose other settings language root := by
  have agreesRoot := agrees root (.composite .refl)
  rw [compose, compose, ← agreesRoot.layout?_eq]
  cases found : schema.layout? root with
  | none => rfl
  | some layout =>
      have grounded := Frame.Grounded.root found
      have onPath : root ∈ (Frame.root root layout).path :=
        List.mem_singleton_self root
      have walked :
          traverse schema settings (.root root layout) 0 (stepsOf layout) =
            traverse other settings (.root root layout) 0 (stepsOf layout) :=
        traverse_eq_of_agreesAt agrees grounded onPath (List.Subset.refl _)
      have agreesMet (occurrence : Occurrence)
          (met : occurrence ∈
            (traverse schema settings (.root root layout) 0
              (stepsOf layout)).occurrences) :
          schema.AgreesAt other occurrence.step.attr.typeName :=
        agrees _
          ((Frame.meets_of_mem_traverse (List.Subset.refl _) met).involves
            grounded onPath)
      simp only [← walked, resolveOccurrences_eq_of_agreesAt agreesMet,
        agreesRoot.className_eq]
      rfl

/--
What a member is linked with depends on nothing but the types of the members.
-/
theorem linkDiscriminants_eq_of_agreesAt
    {owner : String} {members : List Member}
    (agrees : ∀ member ∈ members, schema.AgreesAt other member.typeName) :
    (linkDiscriminants schema owner members).toExcept =
      (linkDiscriminants other owner members).toExcept := by
  have each : Member.linkDiscriminant schema owner members =
      Member.linkDiscriminant other owner members := by
    funext member
    rw [Member.linkDiscriminant, Member.linkDiscriminant]
    split
    · rfl
    · next condition conditioned =>
        split
        · rfl
        · next place found =>
            rcases exists_of_findDiscriminant_eq_some found with
              ⟨holder, located, _⟩
            have same :=
              (agrees holder (List.mem_of_getElem? located)).enumeration?_eq
            simp only [located, Option.map_some, Option.getD_some,
              Member.requiredValue, same]
  rw [toExcept_linkDiscriminants, toExcept_linkDiscriminants, each]

/--
The variants of linked members depend on nothing but the types of the members.
-/
theorem constructorVariants_eq_of_agreesAt
    {members : List Member}
    (linked : AreLinked schema members)
    (agrees : ∀ member ∈ members, schema.AgreesAt other member.typeName) :
    constructorVariants schema settings members =
      constructorVariants other settings members := by
  have each (place : Nat) (gating : place ∈ gatingDiscriminants members) :
      variantsOf schema settings members place =
        variantsOf other settings members place := by
    rcases mem_gatingDiscriminants_iff.mp gating with ⟨member, among, gated⟩
    rcases linked member among place gated with ⟨_, holder, _, isGated⟩
    have located := isGated.located
    have same := (agrees holder (List.mem_of_getElem? located)).enumeration?_eq
    simp only [variantsOf, located, Option.map_some, Option.getD_some, same]
  rw [constructorVariants, constructorVariants]
  split
  · rfl
  · exact List.flatMap_congr each

end Members

/-! ## Classes -/

section Classes

variable {schema other : Schema} {settings : Settings} {language : Language}
  {root : String}

/-- The types of the members of a composition are involved in its composite. -/
theorem involves_of_compose_eq_ok
    {composition : Composition} {member : Member}
    (composed : compose schema settings language root = .ok composition)
    (among : member ∈ composition.members) :
    schema.Involves root member.typeName := by
  rcases compose_eq_ok composed with
    ⟨layout, occurrences, _, _, found, walk, yielded, links⟩
  rcases exists_left_of_forall₂ (forall₂_yields yielded links) among with
    ⟨occurrence, met, _, _, _, _, _, same⟩
  have typeName : member.typeName = occurrence.step.attr.typeName :=
    congrArg Member.typeName same
  have onTraversal :
      occurrence ∈
        (traverse schema settings (.root root layout) 0
          (stepsOf layout)).occurrences := by
    rw [walk.traverse_eq]
    exact met
  rw [typeName]
  exact (Frame.meets_of_mem_traverse (List.Subset.refl _) onTraversal).involves
    (Frame.Grounded.root found) (List.mem_singleton_self root)

/--
The classes of the super-classes of a composition depend on what
is involved in it.
-/
theorem superClass_eq_of_agreesAt
    {composition : Composition}
    (composed : compose schema settings language root = .ok composition)
    (agrees :
      ∀ member ∈ composition.members, schema.AgreesAt other member.typeName) :
    composition.superClass.map (fun typeName =>
        (⟨typeName, language.className schema typeName⟩ : SuperClass)) =
      composition.superClass.map fun typeName =>
        ⟨typeName, language.className other typeName⟩ := by
  refine Option.map_congr fun base super => ?_
  rcases exists_slot_of_superClass_eq_some composed super with
    ⟨slot, among, _, rfl⟩
  rw [(agrees slot among).className_eq]

/--
Schemas that agree on what a composite involves build
the same class of it, or none.
-/
theorem ClassModel.build_eq_of_agreesAt
    (agrees : ∀ name, schema.Involves root name → schema.AgreesAt other name) :
    ClassModel.build schema settings language root =
      ClassModel.build other settings language root := by
  have agreesRoot := agrees root (.composite .refl)
  have found : schema.find? root = other.find? root := agreesRoot
  rw [build, build, ← compose_eq_of_agreesAt agrees, ← found]
  split
  · refine Outcome.bind_congr fun composition composed => ?_
    have agreesMembers (member : Member)
        (among : member ∈ composition.members) :
        schema.AgreesAt other member.typeName :=
      agrees _ (involves_of_compose_eq_ok composed among)
    rw [← linkDiscriminants_eq_of_agreesAt agreesMembers]
    refine Outcome.bind_congr fun members links => ?_
    have linkedEach := forall₂_links_of_linkDiscriminants_eq_ok links
    have agreesLinked (linked : Member) (among : linked ∈ members) :
        schema.AgreesAt other linked.typeName := by
      rcases exists_left_of_forall₂ linkedEach among with
        ⟨member, inMembers, link⟩
      rw [link.typeName_eq]
      exact agreesMembers member inMembers
    simp only [superClass_eq_of_agreesAt composed agreesMembers,
      agreesRoot.className_eq,
      constructorVariants_eq_of_agreesAt (areLinked_of_forall₂_links linkedEach)
        agreesLinked]
  · rfl

/--
The class of a composite depends on the names that the composite involves
alone: schemas that agree on them build the same class, or fail with the same
fault.  So it does not matter what is declared for any other name, and whether
it is declared at all.
-/
theorem ClassModel.build_depends_on_involved
    (schema : Schema) (settings : Settings) (language : Language)
    (root : String) :
    (∀ other : Schema,
      (∀ name, schema.Involves root name → schema.AgreesAt other name) →
        ClassModel.build other settings language root =
          ClassModel.build schema settings language root) ∧
      ∀ name descriptor, ¬ schema.Involves root name →
        ClassModel.build (schema.insert name descriptor) settings
            language root =
          ClassModel.build schema settings language root := by
  constructor
  · intro other agrees
    exact (build_eq_of_agreesAt agrees).symm
  · intro name descriptor uninvolved
    refine (build_eq_of_agreesAt fun involvedName involved => ?_).symm
    have different : involvedName ≠ name :=
      fun same => uninvolved (same ▸ involved)
    rw [Schema.AgreesAt, Schema.find?_insert, if_neg different]

end Classes

/--
A composite that inlines another one and has a constant of an enumeration.
-/
def Schema.stamped : Schema where
  entries := [
    ("Code",
      .enumeration { size := 1, values := [{ name := "STAMP", number := 7 }] }),
    ("Header", .composite { layout :=
      [{ Attribute.named "version" "byte" with size := some (.literal 1) }] }),
    ("Stamp", .composite { layout := [
      .inlining "Header",
      { Attribute.named "CODE" "Code" with
        disposition := some .constant
        value := some (.name "STAMP") }] })]
  distinct := by decide

/--
The same composite in a schema that lacks the enumeration and has its
entries in other order.
-/
def Schema.restamped : Schema where
  entries := [
    ("Stamp", .composite { layout := [
      .inlining "Header",
      { Attribute.named "CODE" "Code" with
        disposition := some .constant
        value := some (.name "STAMP") }] }),
    ("Header", .composite { layout :=
      [{ Attribute.named "version" "byte" with size := some (.literal 1) }] })]
  distinct := by decide

theorem eq_or_eq_of_reaches_stamped
    {owner : String}
    (reaches : Relation.ReflTransGen Schema.stamped.Inlines "Stamp" owner) :
    owner = "Stamp" ∨ owner = "Header" := by
  induction reaches with
  | refl => exact Or.inl rfl
  | tail _ inlines ih =>
      rcases inlines with ⟨layout, found, attr, member, inlined, rfl⟩
      have declared : ∀ layout, Schema.stamped.layout? "Stamp" = some layout ∨
          Schema.stamped.layout? "Header" = some layout →
            ∀ attr ∈ layout, attr.isInlined = true →
            attr.typeName = "Header" := by
        rintro layout (found | found)
        · rcases Option.some.inj found with rfl
          decide
        · rcases Option.some.inj found with rfl
          decide
      rcases ih with rfl | rfl
      · exact Or.inr (declared layout (Or.inl found) attr member inlined)
      · exact Or.inr (declared layout (Or.inr found) attr member inlined)

/-- Of the constant nothing is involved. -/
theorem mem_of_involves_stamped
    {name : String}
    (involved : Schema.stamped.Involves "Stamp" name) :
    name ∈ ["Stamp", "Header", "byte"] := by
  cases involved with
  | composite reaches =>
      rcases eq_or_eq_of_reaches_stamped reaches with rfl | rfl
      · decide
      · decide
  | @type owner layout attr reaches found member notConstant =>
      revert attr
      rcases eq_or_eq_of_reaches_stamped reaches with rfl | rfl
      · rcases Option.some.inj found with rfl
        decide
      · rcases Option.some.inj found with rfl
        decide

/--
The class is the same without the enumeration of the constant, or with
anything in its place.
-/
theorem ClassModel.build_stamped :
    (∃ model, ClassModel.build .stamped .standard .java "Stamp" = .ok model ∧
      model.members.map Member.name = ["header", "version"]) ∧
      (∀ name, Schema.stamped.Involves "Stamp" name →
        Schema.stamped.AgreesAt .restamped name) ∧
      ¬ Schema.stamped.Involves "Stamp" "Code" ∧
      ClassModel.build .restamped .standard .java "Stamp" =
        ClassModel.build .stamped .standard .java "Stamp" ∧
      ∀ descriptor,
        ClassModel.build (Schema.stamped.insert "Code" descriptor) .standard
          .java "Stamp" =
        ClassModel.build .stamped .standard .java "Stamp" := by
  have agrees (name : String)
      (involved : Schema.stamped.Involves "Stamp" name) :
      Schema.stamped.AgreesAt .restamped name := by
    have each : ∀ name ∈ ["Stamp", "Header", "byte"],
        Schema.stamped.find? name = Schema.restamped.find? name := by decide
    exact each name (mem_of_involves_stamped involved)
  have uninvolved : ¬ Schema.stamped.Involves "Stamp" "Code" := by
    intro involved
    exact absurd (mem_of_involves_stamped involved) (by decide)
  have names : (ClassModel.build .stamped .standard .java "Stamp").map
      (fun model => model.members.map Member.name) =
        .ok ["header", "version"] := by cbv
  have depends :=
    ClassModel.build_depends_on_involved .stamped .standard .java "Stamp"
  exact ⟨Outcome.map_eq_ok_iff.mp names, agrees, uninvolved,
    depends.1 .restamped agrees,
    fun descriptor => depends.2 "Code" descriptor uninvolved⟩

end WireLayout
