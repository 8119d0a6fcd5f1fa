import WireLayout.Proofs.Building

/-!
# What constructor variants cover

The variants of a class are read off its linked members.  A member gates
another one when that one is present only if the first equals some value.
Every value of a gating member's enumeration is covered by exactly one of the
variants of that member, and in this variant just those members are left out
that require another value of it.
-/

namespace WireLayout

/-! ## Linked members -/

namespace Member.Links

variable {schema : Schema} {members : List Member} {member linked : Member}

theorem name_eq (links : member.Links schema members linked) :
    linked.name = member.name := by
  cases links with
  | unconditional free => rfl
  | conditional conditioned found located requires => rfl

theorem visit_eq (links : member.Links schema members linked) :
    linked.visit = member.visit := by
  cases links with
  | unconditional free => rfl
  | conditional conditioned found located requires => rfl

theorem typeName_eq (links : member.Links schema members linked) :
    linked.typeName = member.typeName := by
  cases links with
  | unconditional free => rfl
  | conditional conditioned found located requires => rfl

end Member.Links

/-- Links change nothing about where discriminants are found. -/
theorem findDiscriminant_eq_of_forall₂_links
    {schema : Schema} {members linked : List Member}
    (links : List.Forall₂ (Member.Links schema members) members linked)
    (name : String) :
    findDiscriminant linked name = findDiscriminant members name := by
  have own := findIdx?_eq_of_forall₂
    (fun member => member.visit == 0 && member.name == name)
    (fun member => member.visit == 0 && member.name == name) links ?_
  have any := findIdx?_eq_of_forall₂
    (fun member => member.name == name) (fun member => member.name == name)
    links ?_
  · rw [findDiscriminant, findDiscriminant, own, any]
  · intro member other link
    rw [link.name_eq]
  · intro member other link
    rw [link.name_eq, link.visit_eq]

/--
A member that is compared for equality with the member at a place: that one
has the name that the condition gives, and the required value is a value of
its enumeration.
-/
structure Member.IsGated (schema : Schema) (members : List Member)
    (member : Member) (place : Nat) (condition : MemberCondition)
    (holder : Member) (enumeration : Enumeration) : Prop where
  conditioned : member.condition = some condition
  found : findDiscriminant members condition.discriminant = some place
  located : members[place]? = some holder
  typed : schema.enumeration? holder.typeName = some enumeration
  valued : ∀ name, condition.value = some name →
    name ∈ enumeration.values.map EnumerationValue.name

namespace Member.IsGated

variable {schema : Schema} {members : List Member} {member other : Member}
  {place otherPlace : Nat} {condition otherCondition : MemberCondition}
  {holder otherHolder : Member} {enumeration otherEnumeration : Enumeration}

theorem name_eq
    (gated : member.IsGated schema members place condition holder enumeration) :
    holder.name = condition.discriminant := by
  rcases exists_of_findDiscriminant_eq_some gated.found with
    ⟨same, located, among⟩
  rcases Option.some.inj (gated.located.symm.trans located) with rfl
  exact Member.name_of_discriminantAmong_eq_some among

/-- Members of different places that gate others have different names. -/
theorem place_eq_of_name_eq
    (gated : member.IsGated schema members place condition holder enumeration)
    (otherGated :
      other.IsGated schema members otherPlace otherCondition otherHolder
        otherEnumeration)
    (same : holder.name = otherHolder.name) :
    place = otherPlace := by
  have sameName : condition.discriminant = otherCondition.discriminant := by
    rw [← gated.name_eq, ← otherGated.name_eq, same]
  have found := gated.found
  rw [sameName, otherGated.found] at found
  exact (Option.some.inj found).symm

end Member.IsGated

/--
Linked members: whatever is compared for equality is compared with a value
of an enumeration.
-/
def AreLinked (schema : Schema) (members : List Member) : Prop :=
  ∀ member ∈ members, ∀ place, member.isGatedBy place = true →
    ∃ condition holder enumeration,
      member.IsGated schema members place condition holder enumeration

theorem areLinked_of_forall₂_links
    {schema : Schema} {members linked : List Member}
    (links : List.Forall₂ (Member.Links schema members) members linked) :
    AreLinked schema linked := by
  intro member among place gated
  rcases exists_left_of_forall₂ links among with ⟨original, _, link⟩
  cases link with
  | unconditional free => simp [Member.isGatedBy, free] at gated
  | @conditional condition found holder value conditioned located holderLocated
      requires =>
      simp only [Member.isGatedBy, Bool.and_eq_true, beq_iff_eq,
        Option.some.injEq, Option.any_some] at gated
      rcases gated with ⟨rfl, equality⟩
      rcases exists_getElem?_of_forall₂ links holderLocated with
        ⟨other, otherLocated, otherLink⟩
      rcases requires.exists_enumeration equality with
        ⟨enumeration, typed, valued⟩
      refine ⟨_, other, enumeration, rfl, ?_, otherLocated, ?_, valued⟩
      · rw [findDiscriminant_eq_of_forall₂_links links, located]
      · rw [otherLink.typeName_eq, typed]

theorem exists_isGatedBy_of_isEquality
    {schema : Schema} {members linked : List Member} {member : Member}
    {condition : MemberCondition}
    (links : List.Forall₂ (Member.Links schema members) members linked)
    (among : member ∈ linked)
    (conditioned : member.condition = some condition)
    (equality : condition.isEquality = true) :
    ∃ place, member.isGatedBy place = true := by
  rcases exists_left_of_forall₂ links among with ⟨original, _, link⟩
  cases link with
  | unconditional free => cases free.symm.trans conditioned
  | @conditional originalCondition place holder value originalConditioned found
      located requires =>
      refine ⟨place, ?_⟩
      rcases Option.some.inj conditioned with rfl
      simpa [Member.isGatedBy] using equality

/-! ## Gating members and required values -/

/--
A member at a place gates some member, which is compared with it for equality.
-/
def IsGating (members : List Member) (place : Nat) : Prop :=
  ∃ member ∈ members, member.isGatedBy place = true

theorem mem_gatingPlaces_iff
    {members : List Member} {place : Nat} :
    place ∈ gatingPlaces members ↔ IsGating members place := by
  rw [gatingPlaces, List.mem_filterMap]
  refine exists_congr fun member => and_congr_right fun _ => ?_
  cases linked : member.discriminant with
  | none => simp [Member.isGatedBy, linked]
  | some other =>
      simp only [Option.ite_none_right_eq_some, Option.some.injEq]
      constructor
      · rintro ⟨gated, rfl⟩
        exact gated
      · intro gated
        have same : other = place := by
          simp only [Member.isGatedBy, linked, Bool.and_eq_true, beq_iff_eq,
            Option.some.injEq] at gated
          exact gated.1
        exact ⟨same ▸ gated, same⟩

/-- Collecting places keeps those seen already and adds each other one once. -/
theorem collect_spec (places seen : List Nat) (distinct : seen.Nodup) :
    (places.foldl
      (fun seen place => if seen.contains place then seen else seen ++ [place])
      seen).Nodup ∧
      ∀ place, place ∈ places.foldl
          (fun seen place =>
            if seen.contains place then seen else seen ++ [place]) seen ↔
        place ∈ seen ∨ place ∈ places := by
  induction places generalizing seen with
  | nil => simp [distinct]
  | cons head rest ih =>
      rw [List.foldl_cons]
      split
      · next repeated =>
          have known : head ∈ seen := by simpa using repeated
          refine ⟨(ih seen distinct).1, ?_⟩
          intro place
          rw [(ih seen distinct).2, List.mem_cons]
          constructor
          · rintro (earlier | later)
            · exact Or.inl earlier
            · exact Or.inr (Or.inr later)
          · rintro (earlier | rfl | later)
            · exact Or.inl earlier
            · exact Or.inl known
            · exact Or.inr later
      · next fresh =>
          have unknown : head ∉ seen := by simpa using fresh
          have extended : (seen ++ [head]).Nodup := by
            rw [List.nodup_append_comm]
            exact List.nodup_cons.mpr ⟨unknown, distinct⟩
          refine ⟨(ih _ extended).1, ?_⟩
          intro place
          rw [(ih _ extended).2, List.mem_append, List.mem_singleton,
            List.mem_cons, or_assoc]

theorem nodup_gatingDiscriminants (members : List Member) :
    (gatingDiscriminants members).Nodup :=
  (collect_spec (gatingPlaces members) [] List.nodup_nil).1

theorem mem_gatingDiscriminants_iff
    {members : List Member} {place : Nat} :
    place ∈ gatingDiscriminants members ↔ IsGating members place := by
  rw [gatingDiscriminants,
    (collect_spec (gatingPlaces members) [] List.nodup_nil).2,
    mem_gatingPlaces_iff]
  simp

theorem mem_requiredValues_iff
    {members : List Member} {place : Nat} {name : String} :
    name ∈ requiredValues members place ↔
      ∃ member ∈ members, member.isGatedBy place = true ∧
        member.condition.bind MemberCondition.value = some name := by
  simp [requiredValues, and_assoc]

/-! ## The variants of one discriminant -/

theorem discriminant_constructorVariant
    {settings : Settings} {members : List Member} {place : Nat}
    {holder : Member}
    (value : Option String)
    (located : members[place]? = some holder) :
    (constructorVariant settings members (some place) value).discriminant =
      some holder.name := by
  simp [constructorVariant, located]

theorem mem_variantsOf_iff
    {schema : Schema} {settings : Settings} {members : List Member}
    {place : Nat} {holder : Member} {enumeration : Enumeration}
    {variant : ConstructorVariant}
    (located : members[place]? = some holder)
    (typed : schema.enumeration? holder.typeName = some enumeration) :
    variant ∈ variantsOf schema settings members place ↔
      (∃ name ∈ enumeration.values.map EnumerationValue.name,
          name ∈ requiredValues members place ∧
            variant =
              constructorVariant settings members (some place) (some name)) ∨
        ((∃ name ∈ enumeration.values.map EnumerationValue.name,
            name ∉ requiredValues members place) ∧
          variant = constructorVariant settings members (some place) none) := by
  simp only [variantsOf, located, Option.map_some, Option.getD_some, typed]
  generalize enumeration.values.map EnumerationValue.name = names
  have keyed :
      variant ∈
        (names.filter (requiredValues members place).contains).map
          (fun name =>
            constructorVariant settings members (some place) (some name)) ↔
        ∃ name ∈ names,
          name ∈ requiredValues members place ∧
          variant =
            constructorVariant settings members (some place) (some name) := by
    simp [and_assoc, eq_comm]
  split
  · next all =>
      rw [keyed]
      refine ⟨Or.inl, ?_⟩
      rintro (required | ⟨⟨name, among, absent⟩, _⟩)
      · exact required
      · simp only [List.all_eq_true, List.contains_iff_mem] at all
        exact absurd (all name among) absent
  · next notAll =>
      have open_ : ∃ name ∈ names, name ∉ requiredValues members place := by
        simpa using notAll
      rw [List.mem_append, keyed, List.mem_singleton]
      exact or_congr_right (iff_and_self.mpr fun _ => open_)

theorem discriminant_of_mem_variantsOf
    {schema : Schema} {settings : Settings} {members : List Member}
    {place : Nat} {holder : Member} {enumeration : Enumeration}
    {variant : ConstructorVariant}
    (located : members[place]? = some holder)
    (typed : schema.enumeration? holder.typeName = some enumeration)
    (among : variant ∈ variantsOf schema settings members place) :
    variant.discriminant = some holder.name := by
  rcases (mem_variantsOf_iff located typed).mp among with
    ⟨name, _, _, rfl⟩ | ⟨_, rfl⟩
  · exact discriminant_constructorVariant _ located
  · exact discriminant_constructorVariant _ located

/-- The key of a variant: its discriminant and its value. -/
def ConstructorVariant.key (variant : ConstructorVariant) :
    Option String × Option String :=
  (variant.discriminant, variant.value)

theorem nodup_keys_variantsOf
    {schema : Schema} {settings : Settings} {members : List Member}
    {place : Nat} {holder : Member} {enumeration : Enumeration}
    (located : members[place]? = some holder)
    (typed : schema.enumeration? holder.typeName = some enumeration)
    (distinct : (enumeration.values.map EnumerationValue.name).Nodup) :
    ((variantsOf schema settings members place).map
      ConstructorVariant.key).Nodup := by
  simp only [variantsOf, located, Option.map_some, Option.getD_some, typed]
  generalize enumeration.values.map EnumerationValue.name = names at distinct
  have keys (kept : List String) :
      (kept.map fun name =>
        constructorVariant settings members (some place) (some name)).map
          ConstructorVariant.key =
        kept.map fun name => (some holder.name, some name) := by
    rw [List.map_map]
    apply List.map_congr_left
    intro name _
    simp [ConstructorVariant.key, constructorVariant, located]
  have keyed (kept : List String) (keptDistinct : kept.Nodup) :
      (kept.map fun name => (some holder.name, some name)).Nodup := by
    apply keptDistinct.map
    intro first second same
    simpa using same
  split
  · rw [keys]
    exact keyed _ (distinct.filter _)
  · rw [List.map_append, keys, List.map_singleton, List.nodup_append]
    refine ⟨keyed _ (distinct.filter _), List.nodup_singleton _, ?_⟩
    intro key inKeyed valueless inRest same
    rcases List.mem_map.mp inKeyed with ⟨name, _, rfl⟩
    rcases List.mem_singleton.mp inRest with rfl
    cases congrArg Prod.snd same

/-! ## All variants -/

theorem constructorVariants_of_not_gating
    {schema : Schema} {settings : Settings} {members : List Member}
    (free : ∀ place, ¬ IsGating members place) :
    constructorVariants schema settings members =
      [constructorVariant settings members none none] := by
  have none_ : gatingDiscriminants members = [] := by
    rw [List.eq_nil_iff_forall_not_mem]
    intro place among
    exact free place (mem_gatingDiscriminants_iff.mp among)
  simp only [constructorVariants, none_]

theorem constructorVariants_of_gating
    {schema : Schema} {settings : Settings} {members : List Member}
    {place : Nat}
    (gating : IsGating members place) :
    constructorVariants schema settings members =
      (gatingDiscriminants members).flatMap
        (variantsOf schema settings members) := by
  have among := mem_gatingDiscriminants_iff.mpr gating
  rw [constructorVariants]
  split
  · next none_ =>
      rw [none_] at among
      cases among
  · rfl

/-- The member at the place of a gating member, and its enumeration. -/
structure IsGate (schema : Schema) (members : List Member) (place : Nat)
    (holder : Member) (enumeration : Enumeration) : Prop where
  located : members[place]? = some holder
  typed : schema.enumeration? holder.typeName = some enumeration
  valued : ∀ name ∈ requiredValues members place,
    name ∈ enumeration.values.map EnumerationValue.name

section Linked

variable {schema : Schema} {settings : Settings} {members : List Member}

theorem exists_isGate
    {place : Nat}
    (linked : AreLinked schema members)
    (gating : IsGating members place) :
    ∃ holder enumeration, IsGate schema members place holder enumeration := by
  rcases gating with ⟨member, among, gated⟩
  rcases linked member among place gated with
    ⟨condition, holder, enumeration, isGated⟩
  refine ⟨holder, enumeration, isGated.located, isGated.typed, ?_⟩
  intro name required
  rcases mem_requiredValues_iff.mp required with
    ⟨other, otherAmong, otherGated, valued⟩
  rcases linked other otherAmong place otherGated with
    ⟨otherCondition, otherHolder, otherEnumeration, otherIsGated⟩
  rcases Option.some.inj (isGated.located.symm.trans otherIsGated.located) with
    rfl
  rcases Option.some.inj (isGated.typed.symm.trans otherIsGated.typed) with rfl
  rw [otherIsGated.conditioned, Option.bind_some] at valued
  exact otherIsGated.valued name valued

/-- Gating members of one name are at one place. -/
theorem place_eq_of_name_eq
    {place otherPlace : Nat} {holder otherHolder : Member}
    (linked : AreLinked schema members)
    (gating : IsGating members place)
    (located : members[place]? = some holder)
    (otherGating : IsGating members otherPlace)
    (otherLocated : members[otherPlace]? = some otherHolder)
    (same : holder.name = otherHolder.name) :
    place = otherPlace := by
  rcases gating with ⟨member, among, gated⟩
  rcases otherGating with ⟨other, otherAmong, otherGated⟩
  rcases linked member among place gated with
    ⟨condition, gate, enumeration, isGated⟩
  rcases linked other otherAmong otherPlace otherGated with
    ⟨otherCondition, otherGate, otherEnumeration, otherIsGated⟩
  rcases Option.some.inj (isGated.located.symm.trans located) with rfl
  rcases Option.some.inj (otherIsGated.located.symm.trans otherLocated) with rfl
  exact isGated.place_eq_of_name_eq otherIsGated same

/-- No two variants have the same key. -/
theorem nodup_keys
    (linked : AreLinked schema members)
    (distinct :
      ∀ name enumeration, schema.enumeration? name = some enumeration →
      (enumeration.values.map EnumerationValue.name).Nodup) :
    ((constructorVariants schema settings members).map
      ConstructorVariant.key).Nodup := by
  by_cases free : ∀ place, ¬ IsGating members place
  · rw [constructorVariants_of_not_gating free]
    exact List.nodup_singleton _
  · rcases not_forall_not.mp free with ⟨place, gating⟩
    rw [constructorVariants_of_gating gating, List.map_flatMap,
      List.nodup_flatMap]
    constructor
    · intro place among
      rcases exists_isGate linked (mem_gatingDiscriminants_iff.mp among) with
        ⟨holder, enumeration, gate⟩
      exact nodup_keys_variantsOf gate.located gate.typed
        (distinct _ _ gate.typed)
    · apply (nodup_gatingDiscriminants members).pairwise_of_forall_ne
      intro place among other otherAmong different key inFirst inSecond
      have gating := mem_gatingDiscriminants_iff.mp among
      have otherGating := mem_gatingDiscriminants_iff.mp otherAmong
      rcases exists_isGate linked gating with ⟨holder, enumeration, gate⟩
      rcases exists_isGate linked otherGating with
        ⟨otherHolder, otherEnumeration, otherGate⟩
      rcases List.mem_map.mp inFirst with ⟨variant, variantAmong, rfl⟩
      rcases List.mem_map.mp inSecond with
        ⟨otherVariant, otherVariantAmong, same⟩
      have named :=
        discriminant_of_mem_variantsOf gate.located gate.typed variantAmong
      have otherNamed :=
        discriminant_of_mem_variantsOf otherGate.located otherGate.typed
          otherVariantAmong
      have sameName : otherHolder.name = holder.name := by
        have sameDiscriminant := congrArg Prod.fst same
        simp only [ConstructorVariant.key, named, otherNamed,
          Option.some.injEq] at sameDiscriminant
        exact sameDiscriminant
      exact different
        (place_eq_of_name_eq linked gating gate.located otherGating
          otherGate.located sameName.symm)

/--
A variant covers a value that it has, or, without a value, one that no
member requires.
-/
def ConstructorVariant.Covers (variant : ConstructorVariant)
    (members : List Member) (place : Nat) (name : String) : Prop :=
  variant.value = some name ∨ (variant.value = none ∧
    ∀ member ∈ members, member.isGatedBy place = true →
      member.condition.bind MemberCondition.value ≠ some name)

theorem covers_iff
    {variant : ConstructorVariant} {place : Nat} {name : String} :
    variant.Covers members place name ↔
      variant.value = some name ∨
        (variant.value = none ∧ name ∉ requiredValues members place) := by
  rw [ConstructorVariant.Covers, mem_requiredValues_iff]
  simp

/--
What the arguments of the variant are that covers a value of a discriminant.
-/
structure ConstructorVariant.Suits (variant : ConstructorVariant)
    (members : List Member) (place : Nat) (name : String) : Prop where
  /--
  What requires a value of the discriminant is given exactly if it
  requires this one.
  -/
  gated : ∀ argument ∈ variant.arguments, ∀ member,
    members[argument.place]? = some member →
    member.isGatedBy place = true →
      ∀ required, member.condition.bind MemberCondition.value = some required →
        (argument.conditionProvide = true ↔ required = name)
  /-- What requires no value of the discriminant is given. -/
  free : ∀ argument ∈ variant.arguments, ∀ member,
    members[argument.place]? = some member →
    member.isGatedBy place = false → argument.conditionProvide = true
  /--
  Nothing but the discriminant is forced, and that to the value of the variant.
  -/
  forced : ∀ argument ∈ variant.arguments,
    argument.forcedValue =
      if argument.place = place then variant.value else none

theorem exists_of_mem_arguments
    {discriminant : Option Nat} {value : Option String}
    {argument : ConstructorArgument}
    (among :
      argument ∈
        (constructorVariant settings members discriminant value).arguments) :
    ∃ member place, members[place]? = some member ∧
      argument = constructorArgument discriminant value (member, place) := by
  rcases List.mem_map.mp among with ⟨⟨member, place⟩, inParameters, rfl⟩
  have indexed := (List.mem_filter.mp inParameters).1
  exact ⟨member, place, List.mem_zipIdx_iff_getElem?.mp indexed, rfl⟩

theorem suits_of_covers
    {place : Nat} {name : String} {value : Option String}
    (covers :
      (constructorVariant settings members (some place) value).Covers members
        place name) :
    (constructorVariant settings members (some place) value).Suits members place
      name := by
  constructor
  · intro argument among member located gated required requires
    rcases exists_of_mem_arguments among with ⟨same, own, sameLocated, rfl⟩
    rcases Option.some.inj (located.symm.trans sameLocated) with rfl
    have provided :
        (constructorArgument (some place) value
          (member, own)).conditionProvide = true ↔
          some required = value := by
      simp [constructorArgument, isExcluded, gated, requires]
    rw [provided]
    rcases covers with valued | ⟨valueless, unrequired⟩
    · have valued : value = some name := valued
      rw [valued, Option.some.injEq]
    · have valueless : value = none := valueless
      have requiresOther :=
        unrequired member (List.mem_of_getElem? located) gated
      rw [requires, ne_eq, Option.some.injEq] at requiresOther
      simp [valueless, requiresOther]
  · intro argument among member located free
    rcases exists_of_mem_arguments among with ⟨same, own, sameLocated, rfl⟩
    rcases Option.some.inj (located.symm.trans sameLocated) with rfl
    simp [constructorArgument, isExcluded, free]
  · intro argument among
    rcases exists_of_mem_arguments among with ⟨_, own, _, rfl⟩
    simp [constructorArgument, constructorVariant, eq_comm (a := place)]

/--
Where some member gates another one, every variant is one of a gating member.
-/
theorem exists_isGate_of_mem_constructorVariants
    {place : Nat} {variant : ConstructorVariant}
    (linked : AreLinked schema members)
    (gating : IsGating members place)
    (among : variant ∈ constructorVariants schema settings members) :
    ∃ other holder enumeration, IsGating members other ∧
      IsGate schema members other holder enumeration ∧
      variant ∈ variantsOf schema settings members other := by
  rw [constructorVariants_of_gating gating, List.mem_flatMap] at among
  rcases among with ⟨other, otherAmong, inOther⟩
  have otherGating := mem_gatingDiscriminants_iff.mp otherAmong
  rcases exists_isGate linked otherGating with ⟨holder, enumeration, gate⟩
  exact ⟨other, holder, enumeration, otherGating, gate, inOther⟩

/-- The variants that are keyed on a gating member are those of its place. -/
theorem mem_constructorVariants_and_named_iff
    {place : Nat} {holder : Member} {enumeration : Enumeration}
    {variant : ConstructorVariant}
    (linked : AreLinked schema members)
    (gating : IsGating members place)
    (gate : IsGate schema members place holder enumeration) :
    (variant ∈ constructorVariants schema settings members ∧
        variant.discriminant = some holder.name) ↔
      variant ∈ variantsOf schema settings members place := by
  constructor
  · rintro ⟨among, named⟩
    rcases exists_isGate_of_mem_constructorVariants linked gating among with
      ⟨other, otherHolder, otherEnumeration, otherGating, otherGate, inOther⟩
    have otherNamed :=
      discriminant_of_mem_variantsOf otherGate.located otherGate.typed inOther
    have sameName : otherHolder.name = holder.name :=
      Option.some.inj (otherNamed.symm.trans named)
    have samePlace :=
      place_eq_of_name_eq linked otherGating otherGate.located gating
        gate.located sameName
    exact samePlace ▸ inOther
  · intro inVariants
    refine ⟨?_,
      discriminant_of_mem_variantsOf gate.located gate.typed inVariants⟩
    rw [constructorVariants_of_gating gating, List.mem_flatMap]
    exact ⟨place, mem_gatingDiscriminants_iff.mpr gating, inVariants⟩

theorem suits_of_mem_variantsOf
    {place : Nat} {holder : Member} {enumeration : Enumeration}
    {variant : ConstructorVariant} {name : String}
    (gate : IsGate schema members place holder enumeration)
    (among : variant ∈ variantsOf schema settings members place)
    (covers : variant.Covers members place name) :
    variant.Suits members place name := by
  rcases (mem_variantsOf_iff gate.located gate.typed).mp among with
    ⟨own, _, _, rfl⟩ | ⟨_, rfl⟩
  · exact suits_of_covers covers
  · exact suits_of_covers covers

/--
Every value of a gating member's enumeration is covered by exactly one
of its variants.
-/
theorem existsUnique_mem_variantsOf
    {place : Nat} {holder : Member} {enumeration : Enumeration}
    {value : EnumerationValue}
    (settings : Settings)
    (gate : IsGate schema members place holder enumeration)
    (among : value ∈ enumeration.values) :
    ∃! variant, variant ∈ variantsOf schema settings members place ∧
      variant.Covers members place value.name := by
  have listed : value.name ∈ enumeration.values.map EnumerationValue.name :=
    List.mem_map_of_mem among
  simp only [mem_variantsOf_iff gate.located gate.typed, covers_iff]
  by_cases required : value.name ∈ requiredValues members place
  · refine ⟨constructorVariant settings members (some place) (some value.name),
      ?_, ?_⟩
    · exact ⟨Or.inl ⟨value.name, listed, required, rfl⟩, Or.inl rfl⟩
    · rintro variant ⟨⟨name, _, _, rfl⟩ | ⟨_, rfl⟩, valued | ⟨_, unrequired⟩⟩
      · have sameValue : some name = some value.name := valued
        rw [sameValue]
      · exact absurd required unrequired
      · cases valued
      · exact absurd required unrequired
  · refine ⟨constructorVariant settings members (some place) none, ?_, ?_⟩
    · exact ⟨Or.inr ⟨⟨value.name, listed, required⟩, rfl⟩,
        Or.inr ⟨rfl, required⟩⟩
    · rintro variant
        ⟨⟨name, _, nameRequired, rfl⟩ | ⟨_, rfl⟩, valued | ⟨valueless, _⟩⟩
      · have sameValue : some name = some value.name := valued
        rcases Option.some.inj sameValue with rfl
        exact absurd nameRequired required
      · cases valueless
      · rfl
      · rfl

/--
A value of a gating member is covered by one variant of the class, and
that one suits it.
-/
theorem exists_covers_and_suits
    {place : Nat} {holder : Member} {enumeration : Enumeration}
    {value : EnumerationValue}
    (settings : Settings)
    (linked : AreLinked schema members)
    (gating : IsGating members place)
    (gate : IsGate schema members place holder enumeration)
    (among : value ∈ enumeration.values) :
    ∃ variant,
      (variant ∈ constructorVariants schema settings members ∧
        variant.discriminant = some holder.name ∧
        variant.Covers members place value.name) ∧
      (∀ other ∈ constructorVariants schema settings members,
        other.discriminant = some holder.name →
          other.Covers members place value.name →
          other = variant) ∧
      variant.Suits members place value.name := by
  rcases existsUnique_mem_variantsOf settings gate among with
    ⟨variant, ⟨own, covers⟩, only⟩
  rcases (mem_constructorVariants_and_named_iff linked gating gate).mpr own with
    ⟨inVariants, named⟩
  refine ⟨variant, ⟨inVariants, named, covers⟩, ?_,
    suits_of_mem_variantsOf gate own covers⟩
  intro other otherAmong otherNamed otherCovers
  have otherOwn :=
    (mem_constructorVariants_and_named_iff linked gating gate).mp
      ⟨otherAmong, otherNamed⟩
  exact only other ⟨otherOwn, otherCovers⟩

end Linked

/-! ## Arguments -/

/--
The places of the parameters are those of the members that are
parameters, in their order.
-/
theorem map_snd_parameters (settings : Settings) (members : List Member) :
    (parameters settings members).map Prod.snd =
      (List.range members.length).filter fun place =>
        members[place]?.any fun member => member.isParameter settings := by
  have places : List.range members.length = members.zipIdx.map Prod.snd := by
    rw [List.zipIdx_map_snd, List.range_eq_range']
  rw [places, List.filter_map, parameters]
  apply congrArg
  apply List.filter_congr
  rintro ⟨member, place⟩ indexed
  have located : members[place]? = some member :=
    List.mem_zipIdx_iff_getElem?.mp indexed
  simp [located]

theorem map_place_arguments
    (settings : Settings) (members : List Member) (discriminant : Option Nat)
    (value : Option String) :
    (constructorVariant settings members discriminant value).arguments.map
        ConstructorArgument.place =
      (List.range members.length).filter fun place =>
        members[place]?.any fun member => member.isParameter settings := by
  rw [← map_snd_parameters, constructorVariant, List.map_map]
  rfl

/-- Every variant is made in one way, from some discriminant and some value. -/
theorem exists_of_mem_constructorVariants
    {schema : Schema} {settings : Settings} {members : List Member}
    {variant : ConstructorVariant}
    (linked : AreLinked schema members)
    (among : variant ∈ constructorVariants schema settings members) :
    ∃ discriminant value,
      variant = constructorVariant settings members discriminant value := by
  by_cases free : ∀ place, ¬ IsGating members place
  · rw [constructorVariants_of_not_gating free, List.mem_singleton] at among
    exact ⟨none, none, among⟩
  · rcases not_forall_not.mp free with ⟨place, gating⟩
    rcases exists_isGate_of_mem_constructorVariants linked gating among with
      ⟨other, holder, enumeration, _, gate, inOther⟩
    rcases (mem_variantsOf_iff gate.located gate.typed).mp inOther with
      ⟨name, _, _, same⟩ | ⟨_, same⟩
    · exact ⟨_, _, same⟩
    · exact ⟨_, _, same⟩

/-! ## Classes -/

/-- What the constructor variants of a class are, given its linked members. -/
structure ClassModel.VariantsCover (schema : Schema) (settings : Settings)
    (model : ClassModel) : Prop where
  /--
  The arguments are the members that are parameters, each once and in their
  order.
  -/
  arguments : ∀ variant ∈ model.constructorVariants,
    variant.arguments.map ConstructorArgument.place =
        (List.range model.members.length).filter (fun place =>
          model.members[place]?.any fun member =>
            member.kind != .sizeField &&
              member.name != settings.entitySizeField) ∧
      ∀ argument ∈ variant.arguments, ∃ member,
        model.members[argument.place]? = some member ∧
          argument.name = member.name
  /--
  Without comparisons for equality there is one variant, in which
  everything is given.
  -/
  unkeyed : (∀ member ∈ model.members,
      member.condition.any MemberCondition.isEquality = false) →
    ∃ variant, model.constructorVariants = [variant] ∧
      variant.key = (none, none) ∧
      ∀ argument ∈ variant.arguments,
        argument.conditionProvide = true ∧ argument.forcedValue = none
  /--
  What is compared for equality is compared with a member of the name
  in its condition.
  -/
  gated : ∀ member ∈ model.members, ∀ condition,
    member.condition = some condition →
    condition.isEquality = true →
    ∃ place holder, member.isGatedBy place = true ∧
      model.members[place]? = some holder ∧ holder.name = condition.discriminant
  /-- With comparisons for equality every variant belongs to a gating member. -/
  keyed : (∃ place, IsGating model.members place) →
    ∀ variant ∈ model.constructorVariants,
    ∃ place holder,
      IsGating model.members place ∧ model.members[place]? = some holder ∧
      variant.discriminant = some holder.name
  /-- No two variants have the same key. -/
  distinct : (model.constructorVariants.map ConstructorVariant.key).Nodup
  /--
  Every value of a gating member is covered by one of its variants,
  and no other one.
  -/
  covered : ∀ place, IsGating model.members place → ∃ holder enumeration,
    model.members[place]? = some holder ∧
      schema.enumeration? holder.typeName = some enumeration ∧
      ∀ value ∈ enumeration.values, ∃ variant,
        (variant ∈ model.constructorVariants ∧
          variant.discriminant = some holder.name ∧
          variant.Covers model.members place value.name) ∧
        (∀ other ∈ model.constructorVariants,
          other.discriminant = some holder.name →
          other.Covers model.members place value.name → other = variant) ∧
        variant.Suits model.members place value.name

/--
The constructor variants of every class of a valid schema cover all ways
to construct it.
-/
theorem ClassModel.variantsCover_of_build_eq_ok
    {schema : Schema} {settings : Settings} {language : Language}
    {name : String} {model : ClassModel}
    (valid : schema.validate settings.byteType = .ok ())
    (built : ClassModel.build schema settings language name = .ok model) :
    model.VariantsCover schema settings := by
  have wellFormed := Schema.validate_eq_ok_iff.mp valid
  rcases exists_of_build_eq_ok built with
    ⟨composition, composed, links, variants⟩
  have linkedEach := forall₂_links_of_linkDiscriminants_eq_ok links
  have linked := areLinked_of_forall₂_links linkedEach
  constructor
  · intro variant among
    rw [variants] at among
    rcases exists_of_mem_constructorVariants linked among with
      ⟨discriminant, value, rfl⟩
    constructor
    · exact map_place_arguments settings model.members discriminant value
    · intro argument inArguments
      rcases exists_of_mem_arguments inArguments with
        ⟨member, place, located, rfl⟩
      exact ⟨member, located, rfl⟩
  · intro free
    have notGating (place : Nat) : ¬ IsGating model.members place := by
      rintro ⟨member, among, gated⟩
      simp [Member.isGatedBy, free member among] at gated
    refine ⟨_, variants.trans (constructorVariants_of_not_gating notGating),
      rfl, ?_⟩
    intro argument inArguments
    rcases exists_of_mem_arguments inArguments with ⟨member, place, _, rfl⟩
    exact ⟨rfl, rfl⟩
  · intro member among condition conditioned equality
    rcases exists_isGatedBy_of_isEquality linkedEach among conditioned
        equality with
      ⟨place, gated⟩
    rcases linked member among place gated with
      ⟨same, holder, enumeration, isGated⟩
    rcases Option.some.inj (conditioned.symm.trans isGated.conditioned) with rfl
    exact ⟨place, holder, gated, isGated.located, isGated.name_eq⟩
  · rintro ⟨place, gating⟩ variant among
    rw [variants] at among
    rcases exists_isGate_of_mem_constructorVariants linked gating among with
      ⟨other, holder, enumeration, otherGating, gate, inOther⟩
    exact ⟨other, holder, otherGating, gate.located,
      discriminant_of_mem_variantsOf gate.located gate.typed inOther⟩
  · rw [variants]
    exact nodup_keys linked wellFormed.distinctNames
  · intro place gating
    rcases exists_isGate linked gating with ⟨holder, enumeration, gate⟩
    refine ⟨holder, enumeration, gate.located, gate.typed, ?_⟩
    intro value among
    rw [variants]
    exact exists_covers_and_suits settings linked gating gate among

/--
A layout with two attributes of which at most one is present, as a third one
says.
-/
def Schema.switchedLayout : List Attribute :=
  [.named "kind" "Kind",
    (Attribute.named "address" "byte").withCondition "kind" (.name "ADDRESS"),
    (Attribute.named "mosaic" "byte").withCondition "kind" (.name "MOSAIC")]

/--
A composite with this layout, and the enumeration that tells its cases apart.
-/
def Schema.switched : Schema where
  entries := [
    ("Kind", .enumeration { size := 1, values :=
      [{ name := "ADDRESS", number := 0 }, { name := "MOSAIC", number := 1 },
        { name := "NONE", number := 2 }] }),
    ("Transfer", .composite { layout := switchedLayout })]
  distinct := by decide

/-- The variants of the composite cover all ways to construct it. -/
theorem variantsCover_switched :
    Schema.switched.validate Settings.standard.byteType = .ok () ∧
      ∃ model, ClassModel.build .switched .standard .java "Transfer" =
          .ok model ∧
        model.VariantsCover .switched .standard := by
  have valid :
      Schema.switched.validate Settings.standard.byteType = .ok () := by cbv
  have found :
      Schema.switched.layout? "Transfer" = some Schema.switchedLayout := by cbv
  have typed : Schema.switched.enumeration? "Kind" = some { size := 1, values :=
      [{ name := "ADDRESS", number := 0 }, { name := "MOSAIC", number := 1 },
        { name := "NONE", number := 2 }] } := by cbv
  have flattens :
      Flattens .switched .standard [] "Transfer"
        (stepsOf Schema.switchedLayout) _ :=
    .plain (by decide) (by decide) (.plain (by decide) (by decide)
      (.plain (by decide) (by decide) .done))
  have built : ∃ model,
      ClassModel.build .switched .standard .java "Transfer" = .ok model := by
    apply ClassModel.exists_build_eq_ok (Schema.validate_eq_ok_iff.mp valid)
      (flattens.isFlattening found)
    intro entry among fault
    simp only [List.mem_cons, List.not_mem_nil, or_false] at among
    rcases among with rfl | rfl | rfl
    · apply Appearance.not_refused
      · decide
      · rfl
      · intro name conditioned
        cases conditioned
    · apply Appearance.not_refused
      · decide
      · rfl
      · intro name conditioned
        cases conditioned
        refine ⟨_, _, rfl, typed, ?_⟩
        intro selector given
        cases given
        exact ⟨{ name := "ADDRESS", number := 0 }, by cbv⟩
    · apply Appearance.not_refused
      · decide
      · rfl
      · intro name conditioned
        cases conditioned
        refine ⟨_, _, rfl, typed, ?_⟩
        intro selector given
        cases given
        exact ⟨{ name := "MOSAIC", number := 1 }, by cbv⟩
  rcases built with ⟨model, built⟩
  exact ⟨valid, model, built,
    ClassModel.variantsCover_of_build_eq_ok valid built⟩

end WireLayout
