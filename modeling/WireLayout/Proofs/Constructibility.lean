import WireLayout.Proofs.Variants

/-!
# Constructibility

Where an enumeration has values, its gating member has variants.  A class has
no variant at all exactly if some of its members are compared for equality, and
only with members of enumerations that have no values: such a comparison asks
for no value, and the class cannot be constructed.

A variant without a value stands for the values that no member requires.  It
leaves out the members that require some value of its discriminant.  A member
that is compared with the discriminant, but requires no value of it, is given
in this variant, and left out in all others.
-/

namespace WireLayout

section Linked

variable {schema : Schema} {settings : Settings} {members : List Member}

/-- A gating member has no variants exactly if its enumeration has no values. -/
theorem variantsOf_eq_nil_iff
    {place : Nat} {holder : Member} {enumeration : Enumeration}
    (gate : IsGate schema members place holder enumeration) :
    variantsOf schema settings members place = [] ↔
      enumeration.values = [] := by
  rw [List.eq_nil_iff_forall_not_mem]
  simp only [mem_variantsOf_iff gate.located gate.typed]
  constructor
  · intro none_
    cases values : enumeration.values with
    | nil => rfl
    | cons first rest =>
        have listed :
            first.name ∈ enumeration.values.map EnumerationValue.name := by
          rw [values]
          exact List.mem_cons_self
        -- The first value has a variant of its own, or else one without a
        -- value covers it.
        by_cases required : first.name ∈ requiredValues members place
        · exact absurd (Or.inl ⟨first.name, listed, required, rfl⟩) (none_ _)
        · exact absurd (Or.inr ⟨⟨first.name, listed, required⟩, rfl⟩) (none_ _)
  · intro values variant among
    rw [values] at among
    rcases among with ⟨name, listed, _⟩ | ⟨⟨name, listed, _⟩, _⟩
    · cases listed
    · cases listed

/--
Linked members have no variants exactly if gating members exist
and have no values.
-/
theorem constructorVariants_eq_nil_iff_of_areLinked
    (linked : AreLinked schema members) :
    constructorVariants schema settings members = [] ↔
      (∃ place, IsGating members place) ∧
        ∀ place, IsGating members place → ∃ holder enumeration,
          members[place]? = some holder ∧
            schema.enumeration? holder.typeName = some enumeration ∧
            enumeration.values = [] := by
  by_cases free : ∀ place, ¬ IsGating members place
  · rw [constructorVariants_of_not_gating free]
    refine iff_of_false (List.cons_ne_nil _ _) ?_
    rintro ⟨⟨place, gating⟩, _⟩
    exact free place gating
  · rcases not_forall_not.mp free with ⟨place, gating⟩
    rw [constructorVariants_of_gating gating, List.flatMap_eq_nil_iff]
    constructor
    · intro empty
      refine ⟨⟨place, gating⟩, ?_⟩
      intro place gating
      rcases exists_isGate linked gating with ⟨holder, enumeration, gate⟩
      have noVariants := empty place (mem_gatingDiscriminants_iff.mpr gating)
      exact ⟨holder, enumeration, gate.located, gate.typed,
        (variantsOf_eq_nil_iff gate).mp noVariants⟩
    · rintro ⟨_, valueless⟩ place among
      have gating := mem_gatingDiscriminants_iff.mp among
      rcases exists_isGate linked gating with ⟨holder, enumeration, gate⟩
      rcases valueless place gating with
        ⟨same, sameEnumeration, located, typed, values⟩
      rcases Option.some.inj (gate.located.symm.trans located) with rfl
      rcases Option.some.inj (gate.typed.symm.trans typed) with rfl
      exact (variantsOf_eq_nil_iff gate).mpr values

end Linked

namespace ClassModel

variable {schema : Schema} {settings : Settings} {language : Language}
  {root : String} {model : ClassModel}

theorem areLinked_of_build_eq_ok
    (built : ClassModel.build schema settings language root = .ok model) :
    AreLinked schema model.members := by
  rcases exists_of_build_eq_ok built with ⟨composition, _, links, _⟩
  exact areLinked_of_forall₂_links
    (forall₂_links_of_linkDiscriminants_eq_ok links)

theorem constructorVariants_eq_of_build_eq_ok
    (built : ClassModel.build schema settings language root = .ok model) :
    model.constructorVariants =
      WireLayout.constructorVariants schema settings model.members := by
  rcases exists_of_build_eq_ok built with ⟨_, _, _, variants⟩
  exact variants

/--
A class cannot be constructed exactly if comparisons for equality occur in it,
and only with members whose enumerations have no values.
-/
theorem constructorVariants_eq_nil_iff
    (built : ClassModel.build schema settings language root = .ok model) :
    model.constructorVariants = [] ↔
      (∃ place, IsGating model.members place) ∧
        ∀ place, IsGating model.members place → ∃ holder enumeration,
          model.members[place]? = some holder ∧
            schema.enumeration? holder.typeName = some enumeration ∧
            enumeration.values = [] := by
  rw [constructorVariants_eq_of_build_eq_ok built]
  exact constructorVariants_eq_nil_iff_of_areLinked
    (areLinked_of_build_eq_ok built)

end ClassModel

/--
A composite with a comparison that asks for no value of an
enumeration of some values.
-/
def Schema.choosing (values : List EnumerationValue) : Schema where
  entries := [
    ("Kind", .enumeration { size := 1, values := values }),
    ("Choice", .composite { layout := [
      .named "kind" "Kind",
      { Attribute.named "payload" "byte" with
        disposition := some .filling
        condition := some "kind" }] })]
  distinct := by simp

theorem exists_build_choosing_nil :
    ∃ model, ClassModel.build (.choosing []) .standard .java "Choice" =
        .ok model ∧
      model.constructorVariants = [] := by
  apply Outcome.map_eq_ok_iff.mp
  cbv

theorem isGating_choosing_nil :
    ∃ model, ClassModel.build (.choosing []) .standard .java "Choice" =
        .ok model ∧
      ∃ place, IsGating model.members place := by
  rcases exists_build_choosing_nil with ⟨model, built, empty⟩
  exact ⟨model, built,
    ((ClassModel.constructorVariants_eq_nil_iff built).mp empty).1⟩

/--
With an enumeration without values the class cannot be constructed, but the
schema is valid.
-/
theorem constructorVariants_choosing_nil :
    (Schema.choosing []).validate Settings.standard.byteType = .ok () ∧
      ∃ model, ClassModel.build (.choosing []) .standard .java "Choice" =
          .ok model ∧
        model.constructorVariants = [] :=
  ⟨by cbv, exists_build_choosing_nil⟩

/-! ## Variants without a value -/

/--
What the arguments are of a variant that gives no value to the
discriminant at a place.
-/
structure ConstructorVariant.LeavesOpen (variant : ConstructorVariant)
    (members : List Member) (place : Nat) : Prop where
  /-- Nothing is forced. -/
  forced : ∀ argument ∈ variant.arguments, argument.forcedValue = none
  /--
  What is compared with the discriminant is left out exactly if it
  requires a value.
  -/
  gated : ∀ argument ∈ variant.arguments, ∀ member,
    members[argument.place]? = some member →
    member.isGatedBy place = true →
      (argument.conditionProvide = false ↔
        (member.condition.bind MemberCondition.value).isSome = true)
  /-- Everything else is given. -/
  free : ∀ argument ∈ variant.arguments, ∀ member,
    members[argument.place]? = some member →
    member.isGatedBy place = false → argument.conditionProvide = true

theorem leavesOpen_constructorVariant
    (settings : Settings) (members : List Member) (place : Nat) :
    (constructorVariant settings members (some place) none).LeavesOpen members
      place := by
  constructor
  · intro argument among
    rcases exists_of_mem_arguments among with ⟨_, _, _, rfl⟩
    simp [constructorArgument]
  · intro argument among member located gated
    rcases exists_of_mem_arguments among with ⟨same, own, sameLocated, rfl⟩
    rcases Option.some.inj (located.symm.trans sameLocated) with rfl
    cases value : member.condition.bind MemberCondition.value with
    | none => simp [constructorArgument, isExcluded, value]
    | some required => simp [constructorArgument, isExcluded, gated, value]
  · intro argument among member located free
    rcases exists_of_mem_arguments among with ⟨same, own, sameLocated, rfl⟩
    rcases Option.some.inj (located.symm.trans sameLocated) with rfl
    simp [constructorArgument, isExcluded, free]

/--
A variant with a discriminant but without a value belongs to the one
gating member of that name, and leaves out just the members that require
some value of it.
-/
theorem ClassModel.leavesOpen_of_mem_constructorVariants
    {schema : Schema} {settings : Settings} {language : Language}
    {root name : String} {model : ClassModel} {variant : ConstructorVariant}
    (built : ClassModel.build schema settings language root = .ok model)
    (among : variant ∈ model.constructorVariants)
    (keyed : variant.discriminant = some name)
    (valueless : variant.value = none) :
    ∃ place holder,
      IsGating model.members place ∧ model.members[place]? = some holder ∧
      holder.name = name ∧
      (∀ other otherHolder, IsGating model.members other →
        model.members[other]? = some otherHolder → otherHolder.name = name →
        other = place) ∧
      variant.LeavesOpen model.members place := by
  have linked := areLinked_of_build_eq_ok built
  rw [constructorVariants_eq_of_build_eq_ok built] at among
  by_cases free : ∀ place, ¬ IsGating model.members place
  · rw [constructorVariants_of_not_gating free, List.mem_singleton] at among
    rw [among] at keyed
    cases keyed
  · rcases not_forall_not.mp free with ⟨any, anyGating⟩
    rcases exists_isGate_of_mem_constructorVariants linked anyGating among with
      ⟨place, holder, enumeration, gating, gate, own⟩
    have named := discriminant_of_mem_variantsOf gate.located gate.typed own
    have holderName : holder.name = name :=
      Option.some.inj (named.symm.trans keyed)
    refine ⟨place, holder, gating, gate.located, holderName, ?_, ?_⟩
    · intro other otherHolder otherGating otherLocated otherName
      exact place_eq_of_name_eq linked otherGating otherLocated gating
        gate.located (otherName.trans holderName.symm)
    · rcases (mem_variantsOf_iff gate.located gate.typed).mp own with
        ⟨_, _, _, rfl⟩ | ⟨_, rfl⟩
      · cases valueless
      · exact leavesOpen_constructorVariant settings model.members place

theorem exists_build_choosing_one :
    ∃ model variant,
      ClassModel.build (.choosing [⟨"A", 0, ""⟩]) .standard .java "Choice" =
        .ok model ∧
      model.constructorVariants = [variant] ∧
      variant =
        ⟨some "kind", none,
          [⟨0, "kind", true, none⟩, ⟨1, "payload", true, none⟩]⟩ ∧
      (model.members[1]?).map (fun member => member.isGatedBy 0) =
        some true := by
  have computed :
      (ClassModel.build (.choosing [⟨"A", 0, ""⟩]) .standard .java "Choice").map
        (fun model =>
          (model.constructorVariants,
            (model.members[1]?).map fun member => member.isGatedBy 0)) =
        .ok
          ([⟨some "kind", none,
            [⟨0, "kind", true, none⟩, ⟨1, "payload", true, none⟩]⟩],
            some true) := by cbv
  rcases Outcome.map_eq_ok_iff.mp computed with ⟨model, built, same⟩
  rcases Prod.mk.inj same with ⟨variants, gated⟩
  exact ⟨model, _, built, variants, rfl, gated⟩

theorem leavesOpen_choosing_one :
    ∃ model variant place,
      ClassModel.build (.choosing [⟨"A", 0, ""⟩]) .standard .java "Choice" =
          .ok model ∧
        variant ∈ model.constructorVariants ∧
        variant.discriminant = some "kind" ∧
        variant.value = none ∧ variant.LeavesOpen model.members place := by
  rcases exists_build_choosing_one with
    ⟨model, variant, built, variants, rfl, _⟩
  have among := variants ▸ List.mem_singleton_self _
  rcases ClassModel.leavesOpen_of_mem_constructorVariants built among rfl
      rfl with
    ⟨place, _, _, _, _, _, leavesOpen⟩
  exact ⟨model, _, place, built, among, rfl, rfl, leavesOpen⟩

/--
With one value the variant without a value gives what is compared with
the discriminant.
-/
theorem conditionProvide_choosing_one :
    ∃ model variant argument member,
      ClassModel.build (.choosing [⟨"A", 0, ""⟩]) .standard .java "Choice" =
          .ok model ∧
        variant ∈ model.constructorVariants ∧
        variant.discriminant = some "kind" ∧
        variant.value = none ∧ argument ∈ variant.arguments ∧
        model.members[argument.place]? = some member ∧
        member.isGatedBy 0 = true ∧
        argument.conditionProvide = true := by
  rcases exists_build_choosing_one with
    ⟨model, variant, built, variants, rfl, gated⟩
  rcases Option.map_eq_some_iff.mp gated with ⟨member, located, gated⟩
  exact ⟨model, _, ⟨1, "payload", true, none⟩, member, built,
    variants ▸ List.mem_singleton_self _, rfl, rfl, by decide, located,
    gated, rfl⟩

end WireLayout
