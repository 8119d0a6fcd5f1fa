import WireLayout.Proofs.Variants

/-!
# Cosmetic changes of members

Sizes and discriminants are linked, and variants are formed, from the names of
members, their kinds, types, sizes, conditions and visits.  A change that
leaves these alone is cosmetic.  It makes no difference whether it is made
before the members are linked or afterwards, and the variants are the same
with and without it.
-/

namespace WireLayout

/--
A change of members that keeps all that links and variants are made
of, and the links.
-/
structure Member.IsCosmetic (change : Member → Member) : Prop where
  kind : ∀ member, (change member).kind = member.kind
  name : ∀ member, (change member).name = member.name
  typeName : ∀ member, (change member).typeName = member.typeName
  size : ∀ member, (change member).size = member.size
  visit : ∀ member, (change member).visit = member.visit
  condition : ∀ member, (change member).condition = member.condition
  discriminant : ∀ member, (change member).discriminant = member.discriminant
  withSizes : ∀ (member : Member) sizeField sizedMember,
    change { member with sizeField := sizeField, sizedMember := sizedMember } =
      { change member with sizeField := sizeField, sizedMember := sizedMember }
  withDiscriminant : ∀ (member : Member) discriminant condition,
    change { member with
      discriminant := discriminant, condition := condition } =
      { change member with
        discriminant := discriminant, condition := condition }

namespace Member.IsCosmetic

variable {schema : Schema} {settings : Settings} {owner : String}
  {change : Member → Member}

theorem name_at
    (cosmetic : IsCosmetic change) (members : List Member) (place : Nat) :
    (members.map change)[place]?.map Member.name =
      members[place]?.map Member.name := by
  rw [List.getElem?_map, Option.map_map]
  exact Option.map_congr fun member _ => cosmetic.name member

theorem typeName_at
    (cosmetic : IsCosmetic change) (members : List Member) (place : Nat) :
    (members.map change)[place]?.map Member.typeName =
      members[place]?.map Member.typeName := by
  rw [List.getElem?_map, Option.map_map]
  exact Option.map_congr fun member _ => cosmetic.typeName member

/-! ## Links -/

theorem sizeTarget_map
    (cosmetic : IsCosmetic change) (members : List Member) (member : Member) :
    (change member).sizeTarget owner (members.map change) =
      member.sizeTarget owner members := by
  simp only [sizeTarget, cosmetic.size, cosmetic.name, cosmetic.visit,
    List.findIdx?_map, Function.comp_def]

/--
Changed members are linked with their sizes as they were before,
or fail likewise.
-/
theorem linkSizes_map
    (cosmetic : IsCosmetic change) (members : List Member) :
    linkSizes owner (members.map change) =
      (linkSizes owner members).map (List.map change) := by
  rw [linkSizes, linkSizes, Outcome.map_bind, List.mapM_map]
  simp only [Function.comp_def, cosmetic.sizeTarget_map]
  refine Outcome.bind_congr fun targets _ => congrArg Except.ok ?_
  rw [withSizeLinks, withSizeLinks, List.zipIdx_map, List.map_map, List.map_map]
  exact List.map_congr_left fun entry _ => (cosmetic.withSizes ..).symm

/--
Members that are the same after a change are linked with their sizes alike.
-/
theorem map_linkSizes_eq
    {members others : List Member}
    (cosmetic : IsCosmetic change)
    (same : members.map change = others.map change) :
    (linkSizes owner members).map (List.map change) =
      (linkSizes owner others).map (List.map change) := by
  rw [← cosmetic.linkSizes_map, same, cosmetic.linkSizes_map]

theorem findDiscriminant_map
    (cosmetic : IsCosmetic change) (members : List Member) (name : String) :
    findDiscriminant (members.map change) name =
      findDiscriminant members name := by
  simp only [findDiscriminant, List.findIdx?_map, Function.comp_def,
    cosmetic.visit, cosmetic.name]

theorem requiredValue_eq
    (cosmetic : IsCosmetic change) (member : Member)
    (condition : MemberCondition)
    (typeName : String) :
    (change member).requiredValue schema owner condition typeName =
      member.requiredValue schema owner condition typeName := by
  rw [requiredValue, requiredValue, cosmetic.name]

theorem linkDiscriminant_map
    (cosmetic : IsCosmetic change) (members : List Member) (member : Member) :
    (change member).linkDiscriminant schema owner (members.map change) =
      (member.linkDiscriminant schema owner members).map change := by
  rw [linkDiscriminant, linkDiscriminant, cosmetic.condition]
  cases member.condition with
  | none => rfl
  | some condition =>
      simp only [cosmetic.findDiscriminant_map, cosmetic.typeName_at]
      cases findDiscriminant members condition.discriminant with
      | none => simp only [cosmetic.name, Except.map]
      | some place =>
          simp only [cosmetic.requiredValue_eq, Outcome.map_bind]
          refine Outcome.bind_congr fun value _ => congrArg Except.ok ?_
          exact (cosmetic.withDiscriminant ..).symm

/--
Changed members are linked with their discriminants as they were before,
or fail likewise.
-/
theorem linkDiscriminants_map
    (cosmetic : IsCosmetic change) (members : List Member) :
    (linkDiscriminants schema owner (members.map change)).toExcept =
      (linkDiscriminants schema owner members).toExcept.map
        (List.map change) := by
  rw [toExcept_linkDiscriminants, toExcept_linkDiscriminants, List.mapM_map,
    ← Outcome.mapM_map]
  simp only [Function.comp_def, cosmetic.linkDiscriminant_map]

/--
Members that are the same after a change are linked with their
discriminants alike.
-/
theorem map_linkDiscriminants_eq
    {members others : List Member}
    (cosmetic : IsCosmetic change)
    (same : members.map change = others.map change) :
    (linkDiscriminants schema owner members).toExcept.map (List.map change) =
      (linkDiscriminants schema owner others).toExcept.map
        (List.map change) := by
  rw [← cosmetic.linkDiscriminants_map, same, cosmetic.linkDiscriminants_map]

/-! ## Variants -/

theorem isGatedBy_eq
    (cosmetic : IsCosmetic change) (member : Member) (place : Nat) :
    (change member).isGatedBy place = member.isGatedBy place := by
  rw [isGatedBy, isGatedBy, cosmetic.discriminant, cosmetic.condition]

theorem requiredValues_map
    (cosmetic : IsCosmetic change) (members : List Member) (place : Nat) :
    requiredValues (members.map change) place =
      requiredValues members place := by
  simp only [requiredValues, List.filter_map, List.filterMap_map,
    Function.comp_def, cosmetic.isGatedBy_eq, cosmetic.condition]

theorem gatingDiscriminants_map
    (cosmetic : IsCosmetic change) (members : List Member) :
    gatingDiscriminants (members.map change) = gatingDiscriminants members := by
  simp only [gatingDiscriminants, gatingPlaces, List.filterMap_map,
    Function.comp_def, cosmetic.isGatedBy_eq, cosmetic.discriminant]

theorem isParameter_eq
    (cosmetic : IsCosmetic change) (member : Member) :
    (change member).isParameter settings = member.isParameter settings := by
  rw [isParameter, isParameter, cosmetic.kind, cosmetic.name]

theorem constructorArgument_map
    (cosmetic : IsCosmetic change) (discriminant : Option Nat)
    (value : Option String)
    (entry : Member × Nat) :
    constructorArgument discriminant value (entry.map change id) =
      constructorArgument discriminant value entry := by
  simp only [constructorArgument, isExcluded, Prod.map, id, cosmetic.name,
    cosmetic.isGatedBy_eq, cosmetic.condition]

theorem constructorVariant_map
    (cosmetic : IsCosmetic change) (members : List Member)
    (discriminant : Option Nat)
    (value : Option String) :
    constructorVariant settings (members.map change) discriminant value =
      constructorVariant settings members discriminant value := by
  have kept : parameters settings (members.map change) =
      (parameters settings members).map (Prod.map change id) := by
    rw [parameters, parameters, List.zipIdx_map, List.filter_map]
    simp only [Function.comp_def, Prod.map, cosmetic.isParameter_eq]
  simp only [constructorVariant, kept, cosmetic.name_at, List.map_map,
    Function.comp_def, cosmetic.constructorArgument_map]

/-- Changed members have the variants that they had before. -/
theorem constructorVariants_map
    (cosmetic : IsCosmetic change) (members : List Member) :
    constructorVariants schema settings (members.map change) =
      constructorVariants schema settings members := by
  have variants : variantsOf schema settings (members.map change) =
      variantsOf schema settings members := by
    funext place
    simp only [variantsOf, cosmetic.typeName_at, cosmetic.requiredValues_map,
      cosmetic.constructorVariant_map]
  rw [constructorVariants, constructorVariants,
    cosmetic.gatingDiscriminants_map, variants, cosmetic.constructorVariant_map]

/-- Members that are the same after a change have the same variants. -/
theorem constructorVariants_eq
    {members others : List Member}
    (cosmetic : IsCosmetic change)
    (same : members.map change = others.map change) :
    constructorVariants schema settings members =
      constructorVariants schema settings others := by
  rw [← cosmetic.constructorVariants_map, same,
    cosmetic.constructorVariants_map]

end Member.IsCosmetic

end WireLayout
