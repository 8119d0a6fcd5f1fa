import WireLayout.Proofs.Building

/-!
# Target types and imports

The target type of a member follows from its kind, its size and the name of its
type, but for the name of an integer, which the member keeps.  It refers to a
generated class if the member is a value of another type, a set of flags, or a
collection of anything but raw bytes.

A class imports what the target types of its members need, and nothing else:
the class of its super-class is among it, because the slot of the super-class
is a member too.
-/

namespace WireLayout

/-! ## Classes and imports of target types -/

attribute [ext] TargetType

namespace Language

variable {language : Language} {schema : Schema} {settings : Settings}

@[simp]
theorem className_builtinType (language : Language) (width : Nat)
    (signedness : Signedness) :
    (language.builtinType width signedness).className = none := by
  cases language <;> rfl

@[simp]
theorem className_listType (language : Language) (element : TargetType)
    (size : Option Size) :
    (language.listType element size).className = element.className := by
  cases language with
  | java => rfl
  | typeScript => rfl
  | python => rfl
  | cpp =>
      cases size with
      | none => rfl
      | some size => cases size <;> rfl

@[simp]
theorem className_bufferType (language : Language) (size : Size) :
    (language.bufferType size).className = none := by
  cases language with
  | java => rfl
  | typeScript => rfl
  | python => rfl
  | cpp => rw [bufferType, className_listType, className_builtinType]

@[simp]
theorem className_flagsType (language : Language) (element : TargetType) :
    (language.flagsType element).className = element.className := by
  cases language <;> rfl

/--
The target type of a value, a set of flags or a collection refers to a
generated class.
-/
theorem className_attributeType
    (attr : Attribute) (kind : Kind) (size : Size) :
    (language.attributeType schema settings attr kind size).className =
      if kind = .custom ∨ kind = .flags ∨
          (kind.isAnyArray = true ∧
            settings.isByteType attr.typeName = false) then
        some (language.className schema attr.typeName)
      else none := by
  cases bytes : settings.isByteType attr.typeName <;>
    cases kind <;>
      simp [attributeType, bytes, Kind.isAnyArray, TargetType.generated]

/-- What an integer type needs does not depend on its width. -/
theorem imports_builtinType
    (language : Language) (width otherWidth : Nat)
    (signedness otherSignedness : Signedness) :
    (language.builtinType width signedness).imports =
      (language.builtinType otherWidth otherSignedness).imports := by
  cases language <;> rfl

/--
What is needed for an attribute depends on its kind, its size and the
name of its type.
-/
theorem imports_attributeType
    {attr other : Attribute} (kind : Kind) (size : Size)
    (sameType : attr.typeName = other.typeName) :
    (language.attributeType schema settings attr kind size).imports =
      (language.attributeType schema settings other kind size).imports := by
  cases kind with
  | simple => exact imports_builtinType ..
  | sizeField => exact imports_builtinType ..
  | _ => simp only [attributeType, sameType]

/--
A type needs what it imports at run time, and the class that it refers to.
-/
theorem mem_requiredImports_iff
    {type : TargetType} {ownerClass name : String} :
    name ∈ language.requiredImports type ownerClass ↔
      name ∈ type.imports ∨ ∃ className, type.className = some className ∧
        className ≠ ownerClass ∧ name = language.classImport className := by
  rw [requiredImports]
  cases type.className with
  | none => simp
  | some className =>
      simp only [Option.some.injEq, exists_eq_left', beq_iff_eq]
      split
      · next own => simp [own]
      · next foreign => simp [foreign, or_comm]

end Language

/-! ## Target types of members -/

/--
The target type of a member: that of an attribute like it, with the
name that it keeps.
-/
def Member.HasType (schema : Schema) (settings : Settings) (language : Language)
    (member : Member) (type : TargetType) : Prop :=
  ∃ attr : Attribute, attr.typeName = member.typeName ∧
    type = language.attributeType schema settings attr member.kind member.size ∧
    type.name = member.generatedType

namespace Member.HasType

variable {schema : Schema} {settings : Settings} {language : Language}
  {member other : Member} {type otherType : TargetType}

/-- A member has one target type. -/
theorem unique
    (hasType : member.HasType schema settings language type)
    (hasOther : member.HasType schema settings language otherType) :
    type = otherType := by
  rcases hasType with ⟨attr, sameType, rfl, named⟩
  rcases hasOther with ⟨otherAttr, otherSameType, rfl, otherNamed⟩
  have same : attr.typeName = otherAttr.typeName :=
    sameType.trans otherSameType.symm
  have sameClass :
      (language.attributeType schema settings attr member.kind
        member.size).className =
        (language.attributeType schema settings otherAttr member.kind
          member.size).className := by
    rw [Language.className_attributeType,
      Language.className_attributeType, same]
  exact TargetType.ext (named.trans otherNamed.symm) sameClass
    (Language.imports_attributeType _ _ same)

/-- Target types do not depend on size links. -/
theorem of_unlinked_eq
    (hasType : member.HasType schema settings language type)
    (same : other.unlinked = member.unlinked) :
    other.HasType schema settings language type := by
  have unlinked :
      member.unlinked.HasType schema settings language type := hasType
  rw [← same] at unlinked
  exact unlinked

/-- Target types do not depend on conditions and links to discriminants. -/
theorem of_unconditioned_eq
    (hasType : member.HasType schema settings language type)
    (same : other.unconditioned = member.unconditioned) :
    other.HasType schema settings language type := by
  have unconditioned :
      member.unconditioned.HasType schema settings language type := hasType
  rw [← same] at unconditioned
  exact unconditioned

/-- The class that a target type refers to is the class of the member's type. -/
theorem className_eq
    {className : String}
    (hasType : member.HasType schema settings language type)
    (refers : type.className = some className) :
    className = language.className schema member.typeName := by
  rcases hasType with ⟨attr, sameType, rfl, _⟩
  rw [Language.className_attributeType, sameType] at refers
  split at refers
  · exact (Option.some.inj refers).symm
  · cases refers

/--
The target type of a value of another type refers to the class of that type.
-/
theorem className_eq_of_custom
    (hasType : member.HasType schema settings language type)
    (custom : member.kind = .custom) :
    type.className = some (language.className schema member.typeName) := by
  rcases hasType with ⟨attr, sameType, rfl, _⟩
  rw [Language.className_attributeType, sameType, if_pos (Or.inl custom)]

end Member.HasType

theorem Occurrence.hasType_of_resolve_eq_ok
    {context : WalkContext} {earlier : List String} {occurrence : Occurrence}
    {typed : TypedMember}
    (resolves : occurrence.resolve context earlier = .ok typed) :
    typed.member.HasType context.schema context.settings context.language
      typed.type := by
  rcases resolve_eq_ok_iff.mp resolves with ⟨kind, size, _, _, _, rfl⟩
  exact ⟨occurrence.step.attr, rfl, rfl, rfl⟩

/-! ## Imports -/

theorem mem_foldl_union_iff
    {Value : Type} {names : Value → NameSet} {values : List Value}
    {set : NameSet} {name : String} :
    name ∈ values.foldl (fun set value => set.union (names value)) set ↔
      name ∈ set ∨ ∃ value ∈ values, name ∈ names value := by
  induction values generalizing set with
  | nil => simp
  | cons value rest ih =>
      rw [List.foldl_cons, ih, NameSet.mem_union, List.exists_mem_cons_iff,
        or_assoc]

section Compose

variable {schema : Schema} {settings : Settings} {language : Language}
  {root : String} {composition : Composition}

/--
Members have their target types, the imports are theirs, and the
super-class has a slot.
-/
theorem exists_types_of_compose_eq_ok
    (composed : compose schema settings language root = .ok composition) :
    ∃ layout resolved, schema.layout? root = some layout ∧
      List.Forall₂ (fun (typed : TypedMember) (member : Member) =>
        member.HasType schema settings language typed.type) resolved
          composition.members ∧
      composition.imports = resolved.foldl
        (fun set typed =>
          set.union
            (language.requiredImports typed.type
              (language.className schema root)))
        NameSet.empty ∧
      composition.superClass =
        ((superClassPosition? settings layout).bind fun position =>
          layout[position]?).map
          Attribute.typeName := by
  rcases compose_eq_ok composed with
    ⟨layout, occurrences, last, _, found, walk, _, _⟩
  simp only [compose, found, walk.traverse_eq,
    Outcome.bind_eq_ok_iff] at composed
  rcases composed with ⟨resolved, yielded, members, links, result⟩
  rcases Except.ok.inj result with rfl
  refine ⟨layout, resolved, found, ?_, rfl, rfl⟩
  have same := map_unlinked_of_linkSizes_eq_ok links
  rw [← List.forall₂_eq_eq_eq, List.forall₂_map_left_iff,
    List.forall₂_map_right_iff, List.forall₂_map_right_iff] at same
  have typed := (List.forall₂_and_left _ _).mpr
    ⟨fun typed among => exists_left_of_forall₂
      (forall₂_of_resolveOccurrences_eq_ok yielded) among, same.flip⟩
  refine typed.imp ?_
  rintro typed member ⟨⟨occurrence, _, _, resolves⟩, unlinked⟩
  exact (Occurrence.hasType_of_resolve_eq_ok resolves).of_unlinked_eq unlinked

theorem exists_hasType_of_compose_eq_ok
    {member : Member}
    (composed : compose schema settings language root = .ok composition)
    (among : member ∈ composition.members) :
    ∃ type, member.HasType schema settings language type := by
  rcases exists_types_of_compose_eq_ok composed with ⟨_, _, _, types, _, _⟩
  rcases exists_left_of_forall₂ types among with ⟨typed, _, hasType⟩
  exact ⟨typed.type, hasType⟩

/--
The imports of a composition are what the target types of its members need.
-/
theorem mem_imports_iff_of_compose_eq_ok
    {name : String}
    (composed : compose schema settings language root = .ok composition) :
    name ∈ composition.imports ↔
      ∃ member ∈ composition.members, ∃ type,
        member.HasType schema settings language type ∧
        name ∈
          language.requiredImports type (language.className schema root) := by
  rcases exists_types_of_compose_eq_ok composed with
    ⟨_, resolved, _, types, imports, _⟩
  have unimported : name ∉ NameSet.empty := by
    simp [NameSet.mem_iff, NameSet.empty]
  rw [imports, mem_foldl_union_iff, or_iff_right unimported]
  refine exists_mem_iff_of_forall₂ types ?_
  intro typed member hasType
  constructor
  · intro needed
    exact ⟨typed.type, hasType, needed⟩
  · rintro ⟨type, hasOther, needed⟩
    rwa [hasType.unique hasOther]

/--
The type of a member is that of an attribute which some composite declares.
-/
theorem exists_attr_of_compose_eq_ok
    {member : Member}
    (composed : compose schema settings language root = .ok composition)
    (among : member ∈ composition.members) :
    ∃ owner layout, schema.layout? owner = some layout ∧
      ∃ attr ∈ layout, attr.typeName = member.typeName := by
  rcases compose_eq_ok composed with
    ⟨layout, occurrences, _, _, found, walk, yielded, links⟩
  rcases exists_left_of_forall₂ (forall₂_yields yielded links) among with
    ⟨occurrence, met, _, _, _, _, _, same⟩
  have declared := walk.mem_stepsOf_and_contributes (Nat.le_refl _) met
  refine ⟨_, _, walk.layout?_owner found met, _,
    attr_mem_of_mem_stepsOf declared.1, ?_⟩
  exact (congrArg Member.typeName same).symm

/--
The super-class of a composition is a generated composite that the
root inlines itself.
-/
theorem exists_step_of_superClass_eq_some
    {base : String}
    (composed : compose schema settings language root = .ok composition)
    (super : composition.superClass = some base) :
    ∃ layout, schema.layout? root = some layout ∧ ∃ step ∈ stepsOf layout,
      step.attr.isInlined = true ∧
        settings.generates step.attr.typeName = true ∧
        step.attr.typeName = base := by
  rcases exists_types_of_compose_eq_ok composed with
    ⟨layout, _, found, _, _, superClass⟩
  rw [super, eq_comm, Option.map_eq_some_iff] at superClass
  rcases superClass with ⟨attr, chosen, named⟩
  rcases Option.bind_eq_some_iff.mp chosen with ⟨position, selected, located⟩
  rw [superClassPosition?] at selected
  split at selected
  · rcases List.findIdx?_eq_some_iff_getElem.mp selected with ⟨bound, holds, _⟩
    rcases Option.some.inj
        ((List.getElem?_eq_getElem bound).symm.trans located) with rfl
    rw [Bool.and_eq_true] at holds
    exact ⟨layout, found, ⟨position, layout[position]⟩, mem_stepsOf.mpr located,
      holds.1, holds.2, named⟩
  · cases selected

/--
The super-class of a composition has a slot, which is a value of its type.
-/
theorem exists_slot_of_superClass_eq_some
    {base : String}
    (composed : compose schema settings language root = .ok composition)
    (super : composition.superClass = some base) :
    ∃ member ∈ composition.members,
      member.kind = .custom ∧ member.typeName = base := by
  rcases exists_step_of_superClass_eq_some composed super with
    ⟨layout, found, step, declared, isInlined, generates, rfl⟩
  rcases compose_eq_ok composed with
    ⟨_, occurrences, _, _, sameFound, walk, yielded, links⟩
  rcases Option.some.inj (found.symm.trans sameFound) with rfl
  have inlined := Attribute.isInlined_iff.mp isInlined
  have contributes : step.attr.contributes settings = true :=
    (Attribute.contributes_inlined inlined).trans generates
  have met : (Frame.root root layout).occurrence step ∈ occurrences := by
    have own := walk.filter_own_visit (Nat.le_refl _)
    have kept :
        step ∈ (stepsOf layout).filter fun step =>
          step.attr.contributes settings :=
      List.mem_filter.mpr ⟨declared, contributes⟩
    exact (List.mem_filter.mp (own ▸ List.mem_map_of_mem kept)).1
  rcases exists_right_of_forall₂ (forall₂_yields yielded links) met with
    ⟨member, among, _, kind, _, classified, _, same⟩
  have kind_eq : member.kind = kind := congrArg Member.kind same
  have custom : step.attr.kind? settings layout = some .custom := by
    simp [Attribute.kind?, inlined, isInlined, generates]
  refine ⟨member, among, ?_, congrArg Member.typeName same⟩
  rw [kind_eq]
  exact Option.some.inj (classified.symm.trans custom)

/--
The class of the super-class is imported for the slot of the
super-class already.
-/
theorem classImport_mem_imports
    {base : String}
    (composed : compose schema settings language root = .ok composition)
    (super : composition.superClass = some base)
    (foreign :
      language.className schema base ≠ language.className schema root) :
    language.classImport (language.className schema base) ∈
      composition.imports := by
  rcases exists_slot_of_superClass_eq_some composed super with
    ⟨slot, among, custom, rfl⟩
  rcases exists_hasType_of_compose_eq_ok composed among with ⟨type, hasType⟩
  refine (mem_imports_iff_of_compose_eq_ok composed).mpr
    ⟨slot, among, type, hasType, ?_⟩
  exact Language.mem_requiredImports_iff.mpr
    (Or.inr ⟨_, hasType.className_eq_of_custom custom, foreign, rfl⟩)

/-- The class of its super-class adds nothing to what a composition imports. -/
theorem insert_classImport_eq_imports
    {base : String}
    (composed : compose schema settings language root = .ok composition)
    (super : composition.superClass = some base) :
    (if language.className schema base == language.className schema root then
        composition.imports
      else
        composition.imports.insert
          (language.classImport (language.className schema base))) =
      composition.imports := by
  split
  · rfl
  · next foreign =>
      rw [beq_iff_eq] at foreign
      exact NameSet.insert_of_mem
        (classImport_mem_imports composed super foreign)

end Compose

namespace ClassModel

variable {schema : Schema} {settings : Settings} {language : Language}
  {root : String} {model : ClassModel}

/-- A class imports what its composition does. -/
theorem exists_imports_of_build_eq_ok
    (built : ClassModel.build schema settings language root = .ok model) :
    model.generatedName = language.className schema root ∧
      ∃ composition, compose schema settings language root = .ok composition ∧
        List.Forall₂
          (fun (own linked : Member) => linked.unconditioned =
            own.unconditioned) composition.members model.members ∧
        model.requiredImports = composition.imports := by
  rw [build] at built
  split at built
  · rcases Outcome.bind_eq_ok_iff.mp built with ⟨composition, composed, built⟩
    rcases Outcome.bind_eq_ok_iff.mp built with ⟨members, links, result⟩
    rcases Except.ok.inj result with rfl
    have sides := (forall₂_links_of_linkDiscriminants_eq_ok links).imp
      fun _ _ link => link.unconditioned_eq
    refine ⟨rfl, composition, composed, sides, ?_⟩
    cases super : composition.superClass with
    | none => rfl
    | some base => exact insert_classImport_eq_imports composed super
  · cases built

theorem exists_hasType_of_build_eq_ok
    {member : Member}
    (built : ClassModel.build schema settings language root = .ok model)
    (among : member ∈ model.members) :
    ∃ type, member.HasType schema settings language type := by
  rcases exists_imports_of_build_eq_ok built with
    ⟨_, composition, composed, sides, _⟩
  rcases exists_left_of_forall₂ sides among with ⟨own, inComposition, same⟩
  rcases exists_hasType_of_compose_eq_ok composed inComposition with
    ⟨type, hasType⟩
  exact ⟨type, hasType.of_unconditioned_eq same⟩

theorem exists_attr_of_build_eq_ok
    {member : Member}
    (built : ClassModel.build schema settings language root = .ok model)
    (among : member ∈ model.members) :
    ∃ owner layout, schema.layout? owner = some layout ∧
      ∃ attr ∈ layout, attr.typeName = member.typeName := by
  rcases exists_imports_of_build_eq_ok built with
    ⟨_, composition, composed, sides, _⟩
  rcases exists_left_of_forall₂ sides among with ⟨own, inComposition, same⟩
  have sameType : member.typeName = own.typeName := by
    simpa only [Member.unconditioned] using congrArg Member.typeName same
  rw [sameType]
  exact exists_attr_of_compose_eq_ok composed inComposition

/-- A class imports exactly what the target types of its members need. -/
theorem mem_requiredImports_iff_of_build_eq_ok
    {name : String}
    (built : ClassModel.build schema settings language root = .ok model) :
    name ∈ model.requiredImports ↔
      ∃ member ∈ model.members, ∃ type,
        member.HasType schema settings language type ∧
        name ∈ language.requiredImports type model.generatedName := by
  rcases exists_imports_of_build_eq_ok built with
    ⟨generatedName, composition, composed, sides, imports⟩
  rw [imports, mem_imports_iff_of_compose_eq_ok composed, generatedName]
  refine exists_mem_iff_of_forall₂ sides ?_
  intro own linked same
  refine exists_congr fun type => and_congr_left' ⟨?_, ?_⟩
  · intro hasType
    exact hasType.of_unconditioned_eq same
  · intro hasType
    exact hasType.of_unconditioned_eq same.symm

end ClassModel

end WireLayout
