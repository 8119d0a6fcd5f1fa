import WireLayout.Proofs.Flattening
import WireLayout.Proofs.Imports

/-!
# Required imports

The types of a target language need some names at run time, and those
that refer to a generated class need that class too.  A class imports
what the target types of its attributes need, wherever they were inlined
from, and nothing else.

It never imports itself: a reference to the class needs no import, and no name
needed at run time looks like the import of a composite's class.
-/

namespace WireLayout

/-! ## Names of target languages -/

namespace Language

variable {language : Language} {schema : Schema} {settings : Settings}

/-- The names that the types of a language need at run time. -/
def runtimeNames : Language → List String
  | .java => ["java.util.List", "java.nio.ByteBuffer", "java.util.EnumSet"]
  | .typeScript => []
  | .python => ["typing.List"]
  | .cpp => ["<cstdint>", "<array>", "<vector>"]

theorem imports_builtinType_subset (language : Language) (width : Nat)
    (signedness : Signedness) :
    (language.builtinType width signedness).imports ⊆
      language.runtimeNames := by
  cases language <;>
    simp [builtinType, TargetType.builtin, TargetType.needing, runtimeNames]

theorem imports_listType_subset
    {element : TargetType} {size : Option Size}
    (known : element.imports ⊆ language.runtimeNames) :
    (language.listType element size).imports ⊆ language.runtimeNames := by
  cases language with
  | java => exact List.append_subset.mpr ⟨known, by simp [runtimeNames]⟩
  | typeScript => exact known
  | python => exact List.append_subset.mpr ⟨known, by simp [runtimeNames]⟩
  | cpp =>
      cases size with
      | none => exact List.append_subset.mpr ⟨known, by simp [runtimeNames]⟩
      | some size =>
          cases size with
          | literal count =>
              exact List.append_subset.mpr ⟨known, by simp [runtimeNames]⟩
          | field reference =>
              exact List.append_subset.mpr ⟨known, by simp [runtimeNames]⟩

theorem imports_bufferType_subset (language : Language) (size : Size) :
    (language.bufferType size).imports ⊆ language.runtimeNames := by
  cases language with
  | java =>
      simp [bufferType, TargetType.builtin, TargetType.needing, runtimeNames]
  | typeScript => exact List.nil_subset _
  | python => exact List.nil_subset _
  | cpp => exact imports_listType_subset (imports_builtinType_subset ..)

theorem imports_flagsType_subset
    {element : TargetType}
    (known : element.imports ⊆ language.runtimeNames) :
    (language.flagsType element).imports ⊆ language.runtimeNames := by
  cases language with
  | java => exact List.append_subset.mpr ⟨known, by simp [runtimeNames]⟩
  | typeScript => exact known
  | python => exact imports_listType_subset known
  | cpp => exact known

/--
All that a target type needs at run time is among the runtime names
of its language.
-/
theorem imports_attributeType_subset (attr : Attribute) (kind : Kind)
    (size : Size) :
    (language.attributeType schema settings attr kind size).imports ⊆
      language.runtimeNames := by
  have bare :
      (TargetType.generated (language.className schema attr.typeName)).imports ⊆
      language.runtimeNames := List.nil_subset _
  have buffer := imports_bufferType_subset language size
  cases kind with
  | simple => exact imports_builtinType_subset ..
  | sizeField => exact imports_builtinType_subset ..
  | buffer => exact buffer
  | array =>
      rw [attributeType]
      split
      · exact buffer
      · exact imports_listType_subset bare
  | fillArray =>
      rw [attributeType]
      split
      · exact buffer
      · exact imports_listType_subset bare
  | varArray =>
      rw [attributeType]
      split
      · exact buffer
      · exact imports_listType_subset bare
  | custom => exact bare
  | flags => exact imports_flagsType_subset bare

theorem classImport_inj {first second : String} :
    language.classImport first = language.classImport second ↔
      first = second := by
  cases language <;> simp [classImport]

/--
What classes of composites end with, if they end with anything, ends
no runtime name.
-/
theorem append_builder_not_mem_runtimeNames
    (root : String)
    (named : language = .java ∨ language = .python) :
    root ++ "Builder" ∉ language.runtimeNames := by
  intro among
  have ends :
      (root ++ "Builder").toList.reverse.take 3 = ['r', 'e', 'd'] := by simp
  have others : ∀ name ∈ language.runtimeNames,
      name.toList.reverse.take 3 ≠ ['r', 'e', 'd'] := by
    rcases named with rfl | rfl
    · decide
    · decide
  exact others _ among ends

/--
No composite has a class whose import is one of the names needed at run time.
-/
theorem classImport_className_not_mem_runtimeNames
    {root : String}
    (composite : schema.category? root = some .composite) :
    language.classImport (language.className schema root) ∉
      language.runtimeNames := by
  have class_ :
      language.className schema root = root ++ language.compositeSuffix := by
    simp only [className, composite]
  rw [class_]
  cases language with
  | java => exact append_builder_not_mem_runtimeNames root (Or.inl rfl)
  | typeScript => exact List.not_mem_nil
  | python => exact append_builder_not_mem_runtimeNames root (Or.inr rfl)
  | cpp =>
      intro among
      have starts :
          (cpp.classImport (root ++ cpp.compositeSuffix)).toList.head? =
            some '"' := by
        simp [classImport]
      have others : ∀ name ∈ cpp.runtimeNames,
          name.toList.head? ≠ some '"' := by decide
      exact others _ among starts

end Language

/-! ## Target types of attributes -/

namespace Appearance

/--
The target type of an attribute, for the kind and the size that a member has.
-/
def targetType (schema : Schema) (settings : Settings) (language : Language)
    (entry : Appearance) (member : Member) : TargetType :=
  language.attributeType schema settings entry.step.attr member.kind member.size

/--
A member has the kind, the size and the target type of an attribute
where it appears.
-/
structure IsTypedBy (schema : Schema) (settings : Settings)
    (language : Language) (entry : Appearance) (member : Member) : Prop where
  name : member.name = entry.step.attr.displayName
  typeName : member.typeName = entry.step.attr.typeName
  kind : ∃ layout, schema.layout? entry.owner = some layout ∧
    entry.step.attr.kind? settings layout = some member.kind
  size :
    entry.step.attr.resolvedSize schema settings entry.owner = .ok member.size
  generatedType :
    member.generatedType =
      (entry.targetType schema settings language member).name
  generatedClassName :
    member.generatedClassName = language.className schema member.typeName

/-- What a class has to import for the target type of an attribute. -/
inductive Needs (schema : Schema) (settings : Settings) (language : Language)
    (ownerClass : String) (entry : Appearance)
    (member : Member) : String → Prop where
  | runtime {name}
      (needed :
        name ∈ (entry.targetType schema settings language member).imports) :
      Needs schema settings language ownerClass entry member name
  | reference {className}
      (refers :
        (entry.targetType schema settings language member).className =
          some className)
      (foreign : className ≠ ownerClass) :
      Needs schema settings language ownerClass entry member
        (language.classImport member.generatedClassName)

section Types

variable {schema : Schema} {settings : Settings} {language : Language}
  {entry : Appearance} {member : Member} {ownerClass name : String}

/-- Typing does not depend on conditions and links. -/
theorem isTypedBy_relinked_iff
    (condition : Option MemberCondition)
    (discriminant sizeField sizedMember : Option Nat) :
    entry.IsTypedBy schema settings language
        { member with
          condition := condition
          discriminant := discriminant
          sizeField := sizeField
          sizedMember := sizedMember } ↔
      entry.IsTypedBy schema settings language member :=
  ⟨fun typed =>
    ⟨typed.name, typed.typeName, typed.kind, typed.size, typed.generatedType,
      typed.generatedClassName⟩,
    fun typed =>
      ⟨typed.name, typed.typeName, typed.kind, typed.size, typed.generatedType,
        typed.generatedClassName⟩⟩

theorem isTypedBy_unconditioned_iff :
    entry.IsTypedBy schema settings language member.unconditioned ↔
      entry.IsTypedBy schema settings language member :=
  isTypedBy_relinked_iff none none member.sizeField member.sizedMember

theorem isTypedBy_unlinked_iff :
    entry.IsTypedBy schema settings language member.unlinked ↔
      entry.IsTypedBy schema settings language member :=
  isTypedBy_relinked_iff member.condition member.discriminant none none

/--
What a class has to import for an attribute
is what it has to import for its member.
-/
theorem IsTypedBy.needs_iff
    (typed : entry.IsTypedBy schema settings language member) :
    entry.Needs schema settings language ownerClass member name ↔
      ∃ type, member.HasType schema settings language type ∧
        name ∈ language.requiredImports type ownerClass := by
  have hasType : member.HasType schema settings language
      (entry.targetType schema settings language member) :=
    ⟨entry.step.attr, typed.typeName.symm, rfl, typed.generatedType.symm⟩
  have class_ {className : String}
      (refers :
        (entry.targetType schema settings language member).className =
          some className) :
      className = member.generatedClassName := by
    rw [typed.generatedClassName]
    exact hasType.className_eq refers
  constructor
  · intro needs
    refine ⟨_, hasType, Language.mem_requiredImports_iff.mpr ?_⟩
    cases needs with
    | runtime needed => exact Or.inl needed
    | reference refers foreign =>
        exact Or.inr ⟨_, refers, foreign, by rw [class_ refers]⟩
  · rintro ⟨type, hasOther, required⟩
    rcases hasType.unique hasOther with rfl
    rcases Language.mem_requiredImports_iff.mp required with
      needed | ⟨className, refers, foreign, rfl⟩
    · exact .runtime needed
    · rw [class_ refers]
      exact .reference refers foreign

/-- The class of a composite needs no import of itself. -/
theorem IsTypedBy.not_needs_own
    {root : String}
    (typed : entry.IsTypedBy schema settings language member)
    (composite : schema.category? root = some .composite) :
    ¬ entry.Needs schema settings language (language.className schema root)
      member (language.classImport (language.className schema root)) := by
  rw [typed.needs_iff]
  rintro ⟨type, ⟨attr, _, rfl, _⟩, required⟩
  rcases Language.mem_requiredImports_iff.mp required with
    needed | ⟨className, _, foreign, same⟩
  · exact Language.classImport_className_not_mem_runtimeNames composite
      (Language.imports_attributeType_subset _ _ _ needed)
  · exact foreign (Language.classImport_inj.mp same).symm

end Types

end Appearance

theorem Occurrence.Yields.isTypedBy
    {context : WalkContext} {occurrence : Occurrence} {member : Member}
    (yields : occurrence.Yields context member)
    (found : context.schema.layout? occurrence.owner = some occurrence.layout) :
    occurrence.appearance.IsTypedBy context.schema context.settings
      context.language member := by
  rcases yields with ⟨earlier, kind, size, classified, sized, same⟩
  rw [← Appearance.isTypedBy_unlinked_iff, same]
  exact ⟨rfl, rfl, ⟨occurrence.layout, found, classified⟩, sized, rfl, rfl⟩

/-! ## Imports of classes -/

namespace ClassModel

variable {schema : Schema} {settings : Settings} {language : Language}
  {root : String} {model : ClassModel}

/--
The members of a class have the target types of the attributes of its
flattening.
-/
theorem forall₂_isTypedBy
    {composition : Composition}
    (composed : compose schema settings language root = .ok composition)
    (sides :
      List.Forall₂
        (fun (own linked : Member) => linked.unconditioned = own.unconditioned)
        composition.members model.members) :
    ∃ entries, IsFlattening schema settings root entries ∧
      List.Forall₂ (Appearance.IsTypedBy schema settings language) entries
        model.members := by
  rcases compose_eq_ok composed with
    ⟨layout, occurrences, last, resolved, found, walk, yielded, links⟩
  have yields := forall₂_yields yielded links
  have typed : List.Forall₂ (fun (occurrence : Occurrence) (member : Member) =>
      occurrence.appearance.IsTypedBy schema settings language member)
      occurrences composition.members := by
    refine ((List.forall₂_and_left _ _).mpr ⟨fun _ among => among, yields⟩).imp
      ?_
    rintro occurrence member ⟨among, pair⟩
    exact pair.isTypedBy (walk.layout?_owner found among)
  refine ⟨_, walk.flattens.isFlattening found, ?_⟩
  rw [List.forall₂_map_left_iff]
  refine (forall₂_of_forall₂_of_forall₂ typed.flip sides).imp ?_
  rintro occurrence linked ⟨own, pair, same⟩
  rwa [← Appearance.isTypedBy_unconditioned_iff, same,
    Appearance.isTypedBy_unconditioned_iff]

/--
A class imports what the target types of its attributes need, and nothing else.
This is what its composition imports, and the class itself is not among it.
-/
theorem requiredImports_of_build_eq_ok
    (built : ClassModel.build schema settings language root = .ok model) :
    ∃ entries composition, IsFlattening schema settings root entries ∧
      compose schema settings language root = .ok composition ∧
      List.Forall₂ (Appearance.IsTypedBy schema settings language) entries
        model.members ∧
      model.requiredImports = composition.imports ∧
      (∀ name, name ∈ model.requiredImports ↔
        ∃ (place : Nat) (entry : Appearance) (member : Member),
          entries[place]? = some entry ∧
          model.members[place]? = some member ∧
          entry.Needs schema settings language model.generatedName
            member name) ∧
      language.classImport model.generatedName ∉ model.requiredImports := by
  rcases exists_imports_of_build_eq_ok built with
    ⟨generatedName, composition, composed, sides, imports⟩
  rcases forall₂_isTypedBy composed sides with ⟨entries, flattening, typed⟩
  have needed (name : String) : name ∈ model.requiredImports ↔
      ∃ (place : Nat) (entry : Appearance) (member : Member),
        entries[place]? = some entry ∧
        model.members[place]? = some member ∧
        entry.Needs schema settings language model.generatedName member
          name := by
    rw [mem_requiredImports_iff_of_build_eq_ok built]
    constructor
    · rintro ⟨member, among, required⟩
      rcases List.mem_iff_getElem?.mp among with ⟨place, memberLocated⟩
      rcases exists_getElem?_of_forall₂ typed.flip memberLocated with
        ⟨entry, located, pair⟩
      exact ⟨place, entry, member, located, memberLocated,
        pair.needs_iff.mpr required⟩
    · rintro ⟨place, entry, member, located, memberLocated, needs⟩
      rcases exists_getElem?_of_forall₂ typed located with
        ⟨same, sameLocated, pair⟩
      rcases Option.some.inj (memberLocated.symm.trans sameLocated) with rfl
      exact ⟨member, List.mem_of_getElem? memberLocated,
        pair.needs_iff.mp needs⟩
  refine ⟨entries, composition, flattening, composed, typed, imports,
    needed, ?_⟩
  rw [needed, generatedName]
  rintro ⟨place, entry, member, located, memberLocated, needs⟩
  rcases exists_getElem?_of_forall₂ typed located with ⟨same, sameLocated, pair⟩
  rcases Option.some.inj (memberLocated.symm.trans sameLocated) with rfl
  rcases compose_eq_ok composed with ⟨layout, _, _, _, found, _, _, _⟩
  rcases Schema.layout?_eq_some_iff.mp found with ⟨type, declared, _⟩
  have composite : schema.category? root = some .composite := by
    rw [Schema.category?, declared]
    rfl
  exact pair.not_needs_own composite needs

end ClassModel

/--
A composite with a super-class that has raw bytes, and a list of
composites like itself.
-/
def Schema.branching : Schema where
  entries := [
    ("Header", .composite { layout := [
      { Attribute.named "data" "byte" with size := some (.literal 32) }] }),
    ("Node", .composite { layout := [
      .inlining "Header",
      { Attribute.named "nodes" "Node" with disposition := some .filling }] })]
  distinct := by decide

/-- The class imports all that it refers to but itself. -/
theorem requiredImports_branching :
    ∃ model entries composition,
      ClassModel.build .branching .standard .java "Node" = .ok model ∧
        model.requiredImports.names =
          ["HeaderBuilder", "java.nio.ByteBuffer", "java.util.List"] ∧
        IsFlattening .branching .standard "Node" entries ∧
        compose .branching .standard .java "Node" = .ok composition ∧
        model.requiredImports = composition.imports ∧
        (∀ name, name ∈ model.requiredImports ↔
          ∃ (place : Nat) (entry : Appearance) (member : Member),
            entries[place]? = some entry ∧
            model.members[place]? = some member ∧
            entry.Needs .branching .standard .java model.generatedName
              member name) ∧
        Language.java.classImport model.generatedName ∉
          model.requiredImports := by
  have computed : (ClassModel.build .branching .standard .java "Node").map
      (fun model => model.requiredImports.names) =
      .ok ["HeaderBuilder", "java.nio.ByteBuffer", "java.util.List"] := by cbv
  rcases Outcome.map_eq_ok_iff.mp computed with ⟨model, built, names⟩
  rcases ClassModel.requiredImports_of_build_eq_ok built with
    ⟨entries, composition, flattening, composed, _, imports, needed, notOwn⟩
  exact ⟨model, entries, composition, built, names, flattening, composed,
    imports, needed, notOwn⟩

end WireLayout
