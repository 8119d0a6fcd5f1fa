import WireLayout.Proofs.Constructibility
import WireLayout.Proofs.ReadOrder

/-!
# Arguments by name

The arguments of a variant are looked up by name, like its discriminant.  The
discriminant is the first member of its name that the composite itself
declares, if there is one, but the argument is that of the first parameter of
the name, wherever it was declared.

So the discriminant's name leads to the argument that the variant forces,
unless the composite declares the discriminant itself and a parameter of the
same name is spliced in before it.  That one shadows the forced argument, and
nothing is forced on it.
-/

namespace WireLayout

/-! ## Looking up arguments -/

section Arguments

variable {settings : Settings} {members : List Member} {place : Nat}
  {holder : Member} {discriminant : Option Nat} {value : Option String}
  {name : String}

theorem find?_zipIdx_eq_some_iff_isFirstAt
    {isSought : Member → Bool} {sought : Member → Prop}
    (decides : ∀ member, isSought member = true ↔ sought member) :
    members.zipIdx.find? (fun entry => isSought entry.1) =
        some (holder, place) ↔
      IsFirstAt members sought place holder := by
  rw [List.find?_eq_some_iff_getElem]
  constructor
  · rintro ⟨holds, index, bound, same, first⟩
    rw [List.getElem_zipIdx, Nat.zero_add] at same
    rcases Prod.mk.inj same with ⟨rfl, rfl⟩
    refine ⟨List.getElem?_eq_getElem _, (decides _).mp holds, ?_⟩
    intro earlier other before located soughtToo
    rcases List.getElem?_eq_some_iff.mp located with ⟨_, rfl⟩
    have unsought := first earlier before
    rw [List.getElem_zipIdx, (decides _).mpr soughtToo] at unsought
    cases unsought
  · rintro ⟨located, holds, first⟩
    rcases List.getElem?_eq_some_iff.mp located with ⟨bound, rfl⟩
    refine ⟨(decides _).mpr holds, place, by rwa [List.length_zipIdx], ?_, ?_⟩
    · rw [List.getElem_zipIdx, Nat.zero_add]
    · intro earlier before
      have unsought :=
        first earlier _ before
          (List.getElem?_eq_getElem (Nat.lt_trans before bound))
      rw [List.getElem_zipIdx, Bool.not_eq_true', Bool.eq_false_iff, Ne,
        decides]
      exact unsought

/-- There is a first member of a sort, no later than any other one. -/
theorem exists_isFirstAt_le
    {sought : Member → Prop}
    (located : members[place]? = some holder)
    (holds : sought holder) :
    ∃ first firstPlace,
      firstPlace ≤ place ∧ IsFirstAt members sought firstPlace first := by
  classical
  cases found : members.findIdx? fun member => decide (sought member) with
  | none =>
      have unsought :=
        List.findIdx?_eq_none_iff.mp found holder (List.mem_of_getElem? located)
      exact absurd holds (of_decide_eq_false unsought)
  | some firstPlace =>
      rcases (findIdx?_eq_some_iff_isFirstAt fun member =>
          decide_eq_true_iff).mp found with
        ⟨first, isFirst⟩
      refine ⟨first, firstPlace, Nat.not_lt.mp ?_, isFirst⟩
      intro before
      exact isFirst.first place holder before located holds

/--
An argument is found for the first parameter of its name, and for no other.
-/
theorem argument?_constructorVariant_eq_some_iff
    {argument : ConstructorArgument} :
    (constructorVariant settings members discriminant value).argument? name =
        some argument ↔
      ∃ first firstPlace,
        IsFirstAt members
          (fun member => member.isParameter settings = true ∧
            member.name = name) firstPlace first ∧
        argument =
          constructorArgument discriminant value (first, firstPlace) := by
  have decides (member : Member) :
      decide (member.isParameter settings = true ∧
        (member.name == name) = true) = true ↔
        member.isParameter settings = true ∧ member.name = name := by
    rw [decide_eq_true_eq, beq_iff_eq]
  rw [ConstructorVariant.argument?, constructorVariant, List.find?_map,
    parameters, List.find?_filter, Option.map_eq_some_iff]
  constructor
  · rintro ⟨⟨first, firstPlace⟩, found, rfl⟩
    exact ⟨first, firstPlace,
      (find?_zipIdx_eq_some_iff_isFirstAt decides).mp found, rfl⟩
  · rintro ⟨first, firstPlace, isFirst, rfl⟩
    exact ⟨(first, firstPlace),
      (find?_zipIdx_eq_some_iff_isFirstAt decides).mpr isFirst, rfl⟩

/-- A member that is a parameter has an argument. -/
theorem mem_arguments_of_isParameter
    (located : members[place]? = some holder)
    (parameter : holder.isParameter settings = true) :
    constructorArgument discriminant value (holder, place) ∈
      (constructorVariant settings members discriminant value).arguments := by
  refine List.mem_map_of_mem (List.mem_filter.mpr ⟨?_, parameter⟩)
  exact List.mem_zipIdx_iff_getElem?.mpr located

/--
A parameter of the same name is spliced in before a discriminant that the
composite itself declares.
-/
structure IsShadowed (settings : Settings) (members : List Member) (place : Nat)
    (holder : Member) : Prop where
  own : holder.visit = 0
  spliced : ∃ (earlier : Nat) (other : Member), earlier < place ∧
    members[earlier]? = some other ∧ other.isParameter settings = true ∧
    other.name = holder.name ∧ other.visit ≠ 0

/-- A discriminant that is not shadowed is the first parameter of its name. -/
theorem isFirstAt_of_not_isShadowed
    (found : findDiscriminant members holder.name = some place)
    (located : members[place]? = some holder)
    (parameter : holder.isParameter settings = true)
    (free : ¬ IsShadowed settings members place holder) :
    IsFirstAt members
      (fun member => member.isParameter settings = true ∧
        member.name = holder.name)
      place holder := by
  refine ⟨located, ⟨parameter, rfl⟩, ?_⟩
  rintro earlier other before otherLocated ⟨otherParameter, named⟩
  have visits :=
    visits_of_findDiscriminant_eq_some found located before otherLocated named
  exact free ⟨visits.1, earlier, other, before, otherLocated, otherParameter,
    named, visits.2⟩

/-- A shadowed discriminant comes after the first parameter of its name. -/
theorem IsShadowed.exists_isFirstAt
    (shadowed : IsShadowed settings members place holder) :
    ∃ first firstPlace, firstPlace < place ∧ IsFirstAt members
      (fun member => member.isParameter settings = true ∧
        member.name = holder.name)
      firstPlace first := by
  rcases shadowed.spliced with
    ⟨earlier, other, before, located, parameter, named, _⟩
  have sought : other.isParameter settings = true ∧ other.name = holder.name :=
    ⟨parameter, named⟩
  rcases @exists_isFirstAt_le members earlier other
    (fun member => member.isParameter settings = true ∧
      member.name = holder.name) located sought
    with ⟨first, firstPlace, upTo, isFirst⟩
  exact ⟨first, firstPlace, Nat.lt_of_le_of_lt upTo before, isFirst⟩

/--
The look-up of a discriminant's name leads to its own argument
unless it is shadowed.
-/
theorem argument?_eq_some_iff_not_isShadowed
    (found : findDiscriminant members holder.name = some place)
    (located : members[place]? = some holder)
    (parameter : holder.isParameter settings = true) :
    (constructorVariant settings members discriminant value).argument?
      holder.name =
        some (constructorArgument discriminant value (holder, place)) ↔
      ¬ IsShadowed settings members place holder := by
  rw [argument?_constructorVariant_eq_some_iff]
  constructor
  · rintro ⟨first, firstPlace, isFirst, same⟩ shadowed
    have samePlace : place = firstPlace :=
      congrArg ConstructorArgument.place same
    rcases shadowed.spliced with
      ⟨earlier, other, before, otherLocated, otherParameter, named, _⟩
    exact isFirst.first earlier other (samePlace ▸ before) otherLocated
      ⟨otherParameter, named⟩
  · intro free
    exact ⟨holder, place,
      isFirstAt_of_not_isShadowed found located parameter free, rfl⟩

end Arguments

/-! ## Arguments of classes -/

/-- A variant with a discriminant belongs to a gating member of that name. -/
theorem exists_isGate_of_discriminant_eq_some
    {schema : Schema} {settings : Settings} {members : List Member}
    {variant : ConstructorVariant} {name : String}
    (linked : AreLinked schema members)
    (among : variant ∈ constructorVariants schema settings members)
    (keyed : variant.discriminant = some name) :
    ∃ place holder enumeration, IsGating members place ∧
      IsGate schema members place holder enumeration ∧ holder.name = name ∧
      variant ∈ variantsOf schema settings members place := by
  by_cases free : ∀ place, ¬ IsGating members place
  · rw [constructorVariants_of_not_gating free, List.mem_singleton] at among
    rw [among] at keyed
    cases keyed
  · rcases not_forall_not.mp free with ⟨any, anyGating⟩
    rcases exists_isGate_of_mem_constructorVariants linked anyGating among with
      ⟨place, holder, enumeration, gating, gate, own⟩
    have named := discriminant_of_mem_variantsOf gate.located gate.typed own
    exact ⟨place, holder, enumeration, gating, gate,
      Option.some.inj (named.symm.trans keyed), own⟩

/-- A gating member is found under its name. -/
theorem findDiscriminant_eq_of_isGating
    {schema : Schema} {members : List Member} {place : Nat} {holder : Member}
    (linked : AreLinked schema members)
    (gating : IsGating members place)
    (located : members[place]? = some holder) :
    findDiscriminant members holder.name = some place := by
  rcases gating with ⟨member, among, gated⟩
  rcases linked member among place gated with
    ⟨condition, same, enumeration, isGated⟩
  rcases Option.some.inj (located.symm.trans isGated.located) with rfl
  rw [isGated.name_eq]
  exact isGated.found

/--
A variant of a discriminant that is a parameter has an argument for it, on
which its value is forced.  The name of the discriminant leads to this
argument, unless it is shadowed.  Then the name leads to the argument of a
parameter before it, on which nothing is forced.
-/
theorem ClassModel.argument?_of_discriminant_eq_some
    {schema : Schema} {settings : Settings} {language : Language}
    {root name : String} {model : ClassModel} {variant : ConstructorVariant}
    (built : ClassModel.build schema settings language root = .ok model)
    (among : variant ∈ model.constructorVariants)
    (keyed : variant.discriminant = some name) :
    ∃ place holder,
      IsGating model.members place ∧ model.members[place]? = some holder ∧
      holder.name = name ∧ findDiscriminant model.members name = some place ∧
      (holder.isParameter settings = true →
        ∃ forced ∈ variant.arguments,
          forced.place = place ∧ forced.forcedValue = variant.value ∧
          (variant.argument? name = some forced ↔
            ¬ IsShadowed settings model.members place holder) ∧
          (IsShadowed settings model.members place holder →
            ∃ other, variant.argument? name = some other ∧ other.place < place ∧
              other.forcedValue = none)) := by
  have linked := areLinked_of_build_eq_ok built
  rw [constructorVariants_eq_of_build_eq_ok built] at among
  rcases exists_isGate_of_discriminant_eq_some linked among keyed with
    ⟨place, holder, enumeration, gating, gate, rfl, own⟩
  have found := findDiscriminant_eq_of_isGating linked gating gate.located
  refine ⟨place, holder, gating, gate.located, rfl, found, ?_⟩
  intro parameter
  obtain ⟨value, rfl⟩ : ∃ value,
      variant =
        constructorVariant settings model.members (some place) value := by
    rcases (mem_variantsOf_iff gate.located gate.typed).mp own with
      ⟨_, _, _, same⟩ | ⟨_, same⟩
    · exact ⟨_, same⟩
    · exact ⟨_, same⟩
  refine ⟨_, mem_arguments_of_isParameter gate.located parameter, rfl, ?_,
    argument?_eq_some_iff_not_isShadowed found gate.located parameter, ?_⟩
  · simp [constructorArgument, constructorVariant]
  · intro shadowed
    rcases shadowed.exists_isFirstAt with ⟨first, firstPlace, before, isFirst⟩
    refine ⟨_, argument?_constructorVariant_eq_some_iff.mpr
      ⟨first, firstPlace, isFirst, rfl⟩, before, ?_⟩
    simp [constructorArgument, before.ne']

/--
A composite that declares a discriminant after it has inlined another
one of the name.
-/
def Schema.redeclaring : Schema where
  entries := [
    ("Kind",
      .enumeration { size := 1, values := [{ name := "A", number := 0 }] }),
    ("Header", .composite { layout := [.named "kind" "Kind"] }),
    ("Record", .composite { layout := [
      .inlining "Header",
      .named "kind" "Kind",
      { (Attribute.named "payload" "byte").withCondition "kind" (.name "A") with
        disposition := some .filling }] })]
  distinct := by decide

theorem exists_variant_redeclaring :
    ∃ model variant holder,
      ClassModel.build .redeclaring .standard .java "Record" = .ok model ∧
      variant ∈ model.constructorVariants ∧ variant.discriminant = some "kind" ∧
      variant.value = some "A" ∧
      (variant.argument? "kind").map
          (fun argument => (argument.place, argument.forcedValue)) =
        some (1, none) ∧
      IsGating model.members 2 ∧
      findDiscriminant model.members "kind" = some 2 ∧
      model.members[2]? = some holder ∧
      holder.isParameter .standard = true := by
  have computed :
      (ClassModel.build .redeclaring .standard .java "Record").map (fun model =>
      (model.constructorVariants.map fun variant =>
        (variant.discriminant, variant.value,
          (variant.argument? "kind").map fun argument =>
          (argument.place, argument.forcedValue)),
        gatingPlaces model.members, findDiscriminant model.members "kind",
        (model.members[2]?).map fun holder => holder.isParameter .standard)) =
      .ok ([(some "kind", some "A", some (1, none))], [2], some 2,
        some true) := by cbv
  rcases Outcome.map_eq_ok_iff.mp computed with ⟨model, built, fields⟩
  simp only [Prod.mk.injEq] at fields
  rcases fields with ⟨variants, places, found, parameter⟩
  rcases List.map_eq_singleton_iff.mp variants with ⟨variant, only, fields⟩
  rcases Option.map_eq_some_iff.mp parameter with ⟨holder, located, parameter⟩
  simp only [Prod.mk.injEq] at fields
  have gating : 2 ∈ gatingPlaces model.members :=
    places ▸ List.mem_singleton_self 2
  exact ⟨model, variant, holder, built, only ▸ List.mem_singleton_self variant,
    fields.1, fields.2.1, fields.2.2, mem_gatingPlaces_iff.mp gating, found,
    located, parameter⟩

/--
The discriminant of the class has its forced argument, which its name leads
to if it is free.
-/
theorem argument?_redeclaring :
    ∃ model variant holder forced,
      ClassModel.build .redeclaring .standard .java "Record" = .ok model ∧
      variant ∈ model.constructorVariants ∧ variant.discriminant = some "kind" ∧
      model.members[2]? = some holder ∧ forced ∈ variant.arguments ∧
      forced.place = 2 ∧
      forced.forcedValue = some "A" ∧
      (variant.argument? "kind" = some forced ↔
        ¬ IsShadowed .standard model.members 2 holder) := by
  rcases exists_variant_redeclaring with
    ⟨model, variant, holder, built, among, keyed, value, _, _, foundAt, located,
      parameter⟩
  rcases ClassModel.argument?_of_discriminant_eq_some built among keyed with
    ⟨place, same, _, sameLocated, _, found, arguments⟩
  rcases Option.some.inj (foundAt.symm.trans found) with rfl
  rcases Option.some.inj (located.symm.trans sameLocated) with rfl
  rcases arguments parameter with
    ⟨forced, inArguments, atPlace, forcedValue, leads, _⟩
  exact ⟨model, variant, holder, forced, built, among, keyed, located,
    inArguments, atPlace, forcedValue.trans value, leads⟩

/--
The name of a discriminant may lead to an argument on which nothing is forced.
-/
theorem argument?_redeclaring_ne_forced :
    ∃ model variant place holder,
      ClassModel.build .redeclaring .standard .java "Record" = .ok model ∧
      variant ∈ model.constructorVariants ∧ variant.discriminant = some "kind" ∧
      IsGating model.members place ∧
      findDiscriminant model.members "kind" = some place ∧
      model.members[place]? = some holder ∧
      holder.isParameter .standard = true ∧
      ¬ ∃ argument,
        variant.argument? "kind" = some argument ∧ argument.place = place ∧
        argument.forcedValue = variant.value := by
  rcases exists_variant_redeclaring with
    ⟨model, variant, holder, built, among, keyed, value, argument, gating,
      found, located, parameter⟩
  refine ⟨model, variant, 2, holder, built, among, keyed, gating, found,
    located, parameter, ?_⟩
  rintro ⟨forced, leads, atPlace, _⟩
  rw [leads, Option.map_some, atPlace] at argument
  simp at argument

end WireLayout
