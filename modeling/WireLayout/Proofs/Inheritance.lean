import WireLayout.Proofs.Closure

/-!
# Inheritance between compiled classes

The super-classes of a compiled schema are classes of that schema, and
following them comes to an end without meeting a class twice.

The super-class of a class is a composite that it inlines itself and that is
generated.  So it is compiled too, and whoever follows super-classes follows
inlined attributes.  A valid schema has no circuits of those.
-/

namespace WireLayout

namespace CompiledSchema

/-- The class that a class extends, found by the name of its super-class. -/
def superClass? (compiled : CompiledSchema) (model : ClassModel) :
    Option ClassModel :=
  model.superClass.bind fun super => compiled.class? super.typeName

/-- A class of a compiled schema extends another one. -/
structure Extends (compiled : CompiledSchema)
    (model base : ClassModel) : Prop where
  isClass : model ∈ compiled.classes
  found : compiled.superClass? model = some base

end CompiledSchema

section Compile

variable {schema : Schema} {settings : Settings} {language : Language}
  {compiled : CompiledSchema} {model base : ClassModel}

/--
A super-class is a generated composite that is inlined, named like its class.
-/
theorem ClassModel.inlines_of_superClass_eq_some
    {super : SuperClass}
    (built : ClassModel.build schema settings language model.name = .ok model)
    (extended : model.superClass = some super) :
    schema.Inlines model.name super.typeName ∧
      settings.generates super.typeName = true ∧
      super.generatedName = language.className schema super.typeName := by
  rcases heading_of_build_eq_ok built with
    ⟨_, _, composition, composed, heading⟩
  rw [extended, eq_comm, Option.map_eq_some_iff] at heading
  rcases heading with ⟨typeName, declared, rfl⟩
  rcases exists_step_of_superClass_eq_some composed declared with
    ⟨layout, found, step, inLayout, inlined, generates, named⟩
  rcases named with rfl
  exact ⟨inlines_of_mem_stepsOf found inLayout
    (Attribute.isInlined_iff.mp inlined), generates, rfl⟩

theorem build_eq_ok_of_mem_classes
    (succeeded :
      compileEntries schema settings language schema.entries = .ok compiled)
    (among : model ∈ compiled.classes) :
    ClassModel.build schema settings language model.name = .ok model := by
  rcases (mem_classes_iff succeeded).mp among with ⟨name, _, built⟩
  rcases (ClassModel.heading_of_build_eq_ok built).1 with rfl
  exact built

/-- Classes are found by their names. -/
theorem class?_eq_some_iff
    {name : String}
    (succeeded :
      compileEntries schema settings language schema.entries = .ok compiled) :
    compiled.class? name = some model ↔
      model ∈ compiled.classes ∧ model.name = name := by
  refine find?_eq_some_iff_of_names ?_
  intro first firstAmong second secondAmong same
  -- Classes of one name are built from the same composite.
  have built := build_eq_ok_of_mem_classes succeeded firstAmong
  rw [same, build_eq_ok_of_mem_classes succeeded secondAmong] at built
  exact (Except.ok.inj built).symm

theorem extends_iff
    (succeeded :
      compileEntries schema settings language schema.entries = .ok compiled) :
    compiled.Extends model base ↔
      model ∈ compiled.classes ∧ base ∈ compiled.classes ∧
        model.superClass.map SuperClass.typeName = some base.name := by
  constructor
  · rintro ⟨isClass, found⟩
    rcases Option.bind_eq_some_iff.mp found with ⟨super, extended, found⟩
    rcases (class?_eq_some_iff succeeded).mp found with ⟨baseIsClass, named⟩
    exact ⟨isClass, baseIsClass, by rw [extended, Option.map_some, named]⟩
  · rintro ⟨isClass, baseIsClass, extended⟩
    rcases Option.map_eq_some_iff.mp extended with ⟨super, extended, named⟩
    refine ⟨isClass, Option.bind_eq_some_iff.mpr ⟨super, extended, ?_⟩⟩
    exact (class?_eq_some_iff succeeded).mpr ⟨baseIsClass, named.symm⟩

/-- Super-classes lead from a composite to one that it inlines. -/
theorem CompiledSchema.Extends.inlines
    (link : compiled.Extends model base)
    (succeeded :
      compileEntries schema settings language schema.entries = .ok compiled) :
    schema.Inlines model.name base.name := by
  rcases (extends_iff succeeded).mp link with ⟨isClass, _, extended⟩
  rcases Option.map_eq_some_iff.mp extended with ⟨super, extended, named⟩
  rw [← named]
  exact (ClassModel.inlines_of_superClass_eq_some
    (build_eq_ok_of_mem_classes succeeded isClass) extended).1

/--
What a class of a well-formed schema has as its super-class is compiled too.
-/
theorem exists_extends_of_superClass_eq_some
    {super : SuperClass}
    (wellFormed : schema.WellFormed settings.byteType)
    (succeeded :
      compileEntries schema settings language schema.entries = .ok compiled)
    (isClass : model ∈ compiled.classes)
    (extended : model.superClass = some super) :
    ∃ base ∈ compiled.classes,
      compiled.Extends model base ∧ base.name = super.typeName ∧
      base.generatedName = super.generatedName := by
  have built := build_eq_ok_of_mem_classes succeeded isClass
  rcases ClassModel.inlines_of_superClass_eq_some built extended with
    ⟨⟨layout, found, attr, inLayout, inlined, named⟩, generates, generatedName⟩
  have isComposite :=
    wellFormed.inlinedComposites _ layout found attr inLayout inlined
  rw [named] at isComposite
  have generated : schema.IsGenerated settings super.typeName :=
    ⟨generates, isComposite⟩
  rcases generated.exists_build_eq_ok succeeded with ⟨base, baseBuilt⟩
  rcases ClassModel.heading_of_build_eq_ok baseBuilt with
    ⟨baseName, baseClass, _⟩
  have baseIsClass := (mem_classes_iff succeeded).mpr ⟨_, generated, baseBuilt⟩
  refine ⟨base, baseIsClass, ?_, baseName, baseClass.trans generatedName.symm⟩
  rw [extends_iff succeeded, extended, baseName]
  exact ⟨isClass, baseIsClass, rfl⟩

/--
The super-class of every class of a compiled schema is a class of that schema,
named alike.  Following super-classes comes to an end, and never returns to
a class already passed.
-/
theorem compile_extends_wellFounded
    (succeeded : compile schema settings language = .ok compiled) :
    (∀ model ∈ compiled.classes, ∀ super, model.superClass = some super →
        ∃ base ∈ compiled.classes,
          compiled.Extends model base ∧ base.name = super.typeName ∧
          base.generatedName = super.generatedName) ∧
      (WellFounded fun base model => compiled.Extends model base) ∧
      ∀ line : List ClassModel, line.IsChain compiled.Extends →
        (line.map ClassModel.name).Nodup := by
  rcases Outcome.bind_eq_ok_iff.mp succeeded with ⟨_, valid, succeeded⟩
  have wellFormed :=
    Schema.validate_eq_ok_iff.mp (Outcome.mapError_eq_ok_iff.mp valid)
  refine ⟨?_, ?_, ?_⟩
  · intro model isClass super
    exact exists_extends_of_superClass_eq_some wellFormed succeeded isClass
  · exact Subrelation.wf (fun link => link.inlines succeeded)
      (InvImage.wf ClassModel.name wellFormed.acyclic.wellFounded)
  · intro line chain
    refine wellFormed.acyclic.nodup_of_isChain ?_
    rw [List.isChain_map]
    exact chain.imp fun _ _ link => link.inlines succeeded

end Compile

/-- Three composites, each of which but the first inlines the one before. -/
def Schema.inheriting : Schema where
  entries := [
    ("Header", .composite { layout :=
      [{ Attribute.named "version" "byte" with size := some (.literal 1) }] }),
    ("Entity", .composite { layout := [.inlining "Header"] }),
    ("Transfer", .composite { layout := [.inlining "Entity"] })]
  distinct := by decide

/-- The last of three classes extends the second, which extends the first. -/
theorem compile_extends_wellFounded_inheriting :
    ∃ compiled, compile .inheriting (.dissolving "Body") .cpp = .ok compiled ∧
      (∀ model ∈ compiled.classes, ∀ super, model.superClass = some super →
        ∃ base ∈ compiled.classes,
          compiled.Extends model base ∧ base.name = super.typeName ∧
          base.generatedName = super.generatedName) ∧
      (WellFounded fun base model => compiled.Extends model base) ∧
      (∀ line : List ClassModel, line.IsChain compiled.Extends →
        (line.map ClassModel.name).Nodup) ∧
      ∃ transfer entity header,
        [transfer, entity, header].IsChain compiled.Extends ∧
        [transfer, entity, header].map ClassModel.name =
          ["Transfer", "Entity", "Header"] := by
  have computed :
      (compile .inheriting (.dissolving "Body") .cpp).map (fun compiled =>
      compiled.classes.map fun model =>
        (model.name, model.superClass.map SuperClass.typeName)) =
      .ok [("Header", none), ("Entity", some "Header"),
        ("Transfer", some "Entity")] := by cbv
  rcases Outcome.map_eq_ok_iff.mp computed with ⟨compiled, succeeded, classes⟩
  have whole := compile_extends_wellFounded succeeded
  refine ⟨compiled, succeeded, whole.1, whole.2.1, whole.2.2, ?_⟩
  rcases List.map_eq_cons_iff.mp classes with
    ⟨header, _, listed, header_eq, classes⟩
  rcases List.map_eq_cons_iff.mp classes with
    ⟨entity, _, rfl, entity_eq, classes⟩
  rcases List.map_eq_singleton_iff.mp classes with ⟨transfer, rfl, transfer_eq⟩
  rcases Prod.mk.inj header_eq with ⟨headerName, _⟩
  rcases Prod.mk.inj entity_eq with ⟨entityName, entityBase⟩
  rcases Prod.mk.inj transfer_eq with ⟨transferName, transferBase⟩
  rcases Outcome.bind_eq_ok_iff.mp succeeded with ⟨_, _, entries⟩
  have entityLink : compiled.Extends entity header :=
    (extends_iff entries).mpr
      ⟨by simp [listed], by simp [listed], by rw [entityBase, headerName]⟩
  have transferLink : compiled.Extends transfer entity :=
    (extends_iff entries).mpr
      ⟨by simp [listed], by simp [listed], by rw [transferBase, entityName]⟩
  refine ⟨transfer, entity, header, ?_, ?_⟩
  · simp [transferLink, entityLink]
  · simp [transferName, entityName, headerName]

end WireLayout
