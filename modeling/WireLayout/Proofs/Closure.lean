import WireLayout.Proofs.Imports
import WireLayout.Proofs.Obstacles

/-!
# References between artifacts

A class refers to the classes of other types through the target types of its
members, and imports them.  Different types have different classes, and a
compiled schema produces the class of each entry but the composites that are
not generated.  A reference to the class of an entry is thus dead exactly when
the entry is such a composite, used like any other type instead of inlined.

Raw bytes need no entry, and without one they have no class.
-/

namespace WireLayout

/-! ## Classes of types -/

namespace Language

theorem className_eq_append (language : Language) (schema : Schema)
    (name : String) :
    language.className schema name = name ++ language.compositeSuffix ∨
      language.className schema name = name ++ language.valueSuffix := by
  rw [className]
  split
  · exact Or.inl rfl
  · exact Or.inr rfl

/--
Classes of composites are told from others by their end, unless all are
named like types.
-/
theorem eq_of_append_compositeSuffix_eq
    {language : Language} {name other : String}
    (same : name ++ language.compositeSuffix = other ++ language.valueSuffix) :
    name = other := by
  cases language with
  | cpp => exact (String.append_left_inj _).mp same
  | _ =>
      have ends := congrArg (fun text : String => text.toList.getLast?) same
      simp [compositeSuffix, valueSuffix] at ends

/-- Different types have different classes. -/
theorem className_injective (language : Language) (schema : Schema) :
    Function.Injective (language.className schema) := by
  intro name other same
  rcases className_eq_append language schema name with ends | ends <;>
    rcases className_eq_append language schema other with
      otherEnds | otherEnds <;>
    rw [ends, otherEnds] at same
  · exact (String.append_left_inj _).mp same
  · exact eq_of_append_compositeSuffix_eq same
  · exact (eq_of_append_compositeSuffix_eq same.symm).symm
  · exact (String.append_left_inj _).mp same

end Language

/-! ## Searches by name -/

/-- Values that are told apart by their names are found by them. -/
theorem find?_eq_some_iff_of_names
    {Value : Type} {nameOf : Value → String} {values : List Value}
    {name : String} {value : Value}
    (apart : ∀ first ∈ values, ∀ second ∈ values, nameOf first = nameOf second →
      first = second) :
    values.find? (fun other => nameOf other == name) = some value ↔
      value ∈ values ∧ nameOf value = name := by
  constructor
  · intro found
    exact ⟨List.mem_of_find?_eq_some
      found, by simpa using List.find?_some found⟩
  · rintro ⟨among, rfl⟩
    have found :
        (values.find? fun other => nameOf other == nameOf value).isSome =
          true :=
      List.find?_isSome.mpr ⟨value, among, by simp⟩
    rcases Option.isSome_iff_exists.mp found with ⟨other, found⟩
    have named :
        nameOf other = nameOf value := by simpa using List.find?_some found
    rw [found, apart other (List.mem_of_find?_eq_some found) value among named]

/-! ## Artifacts of entries -/

section Entries

variable {schema : Schema} {settings : Settings} {language : Language}
  {name : String} {category : Category} {artifact : Artifact}

/--
What an entry of a category is compiled to: its model, or nothing if it
is not generated.
-/
inductive CompilesTo (schema : Schema) (settings : Settings)
    (language : Language)
    (name : String) : Category → Option Artifact → Prop where
  | type {model}
      (built : TypeModel.build schema settings language name = .ok model) :
      CompilesTo schema settings language name .atomic (some (.type model))
  | enumeration {model}
      (built : EnumModel.build schema settings language name = .ok model) :
      CompilesTo schema settings language name .enumeration
        (some (.enumeration model))
  | composite {model}
      (generated : settings.generates name = true)
      (built : ClassModel.build schema settings language name = .ok model) :
      CompilesTo schema settings language name .composite
        (some (.composite model))
  | skipped
      (excluded : settings.generates name = false) :
      CompilesTo schema settings language name .composite none

theorem compileEntry_eq_ok_iff
    {result : Option Artifact} :
    compileEntry schema settings language name category = .ok result ↔
      CompilesTo schema settings language name category result := by
  constructor
  · intro compiles
    cases category with
    | atomic =>
        rcases Outcome.bind_eq_ok_iff.mp compiles with ⟨model, built, same⟩
        rcases Except.ok.inj same with rfl
        exact .type built
    | enumeration =>
        rcases Outcome.bind_eq_ok_iff.mp compiles with ⟨model, built, same⟩
        rcases Except.ok.inj same with rfl
        exact .enumeration built
    | composite =>
        rw [compileEntry] at compiles
        split at compiles
        · next generated =>
            rcases Outcome.bind_eq_ok_iff.mp compiles with ⟨model, built, same⟩
            rcases Except.ok.inj same with rfl
            exact .composite generated built
        · next excluded =>
            rcases Except.ok.inj compiles with rfl
            exact .skipped (by simpa using excluded)
  · intro compiles
    cases compiles with
    | type built => exact Outcome.bind_eq_ok_iff.mpr ⟨_, built, rfl⟩
    | enumeration built => exact Outcome.bind_eq_ok_iff.mpr ⟨_, built, rfl⟩
    | composite generated built =>
        rw [compileEntry, if_pos generated]
        exact Outcome.bind_eq_ok_iff.mpr ⟨_, built, rfl⟩
    | skipped excluded => rw [compileEntry, if_neg (by simp [excluded])]

theorem TypeModel.names_of_build_eq_ok
    {model : TypeModel}
    (built : TypeModel.build schema settings language name = .ok model) :
    model.name = name ∧
      model.generatedName = language.className schema name := by
  rw [build] at built
  split at built
  · rcases Outcome.bind_eq_ok_iff.mp built with ⟨_, _, result⟩
    rcases Except.ok.inj result with rfl
    exact ⟨rfl, rfl⟩
  · cases built

theorem EnumModel.names_of_build_eq_ok
    {model : EnumModel}
    (built : EnumModel.build schema settings language name = .ok model) :
    model.name = name ∧
      model.generatedName = language.className schema name := by
  rw [build] at built
  split at built
  · cases built
  · rcases Outcome.bind_eq_ok_iff.mp built with ⟨_, _, result⟩
    rcases Except.ok.inj result with rfl
    exact ⟨rfl, rfl⟩

/-- An artifact of an entry has the name of the entry and is the class of it. -/
theorem names_of_compileEntry_eq_ok
    (compiles :
      compileEntry schema settings language name category =
        .ok (some artifact)) :
    artifact.name = name ∧
      artifact.generatedName = language.className schema name := by
  cases compileEntry_eq_ok_iff.mp compiles with
  | type built => exact TypeModel.names_of_build_eq_ok built
  | enumeration built => exact EnumModel.names_of_build_eq_ok built
  | composite _ built =>
      have heading := ClassModel.heading_of_build_eq_ok built
      exact ⟨heading.1, heading.2.1⟩

/--
The artifacts that are classes are built from the composites that are
generated.
-/
theorem compileEntry_eq_ok_composite_iff
    {model : ClassModel} :
    compileEntry schema settings language name category =
        .ok (some (.composite model)) ↔
      category = .composite ∧ settings.generates name = true ∧
        ClassModel.build schema settings language name = .ok model := by
  rw [compileEntry_eq_ok_iff]
  constructor
  · intro compiles
    cases compiles with
    | composite generated built => exact ⟨rfl, generated, built⟩
  · rintro ⟨rfl, generated, built⟩
    exact .composite generated built

/--
What is compiled without an artifact is a composite that is not generated.
-/
theorem eq_none_iff_of_compileEntry_eq_ok
    {result : Option Artifact}
    (compiles :
      compileEntry schema settings language name category = .ok result) :
    result = none ↔
      category = .composite ∧ settings.generates name = false := by
  cases compileEntry_eq_ok_iff.mp compiles with
  | type => simp
  | enumeration => simp
  | composite generated => simp [generated]
  | skipped excluded => simp [excluded]

theorem mem_artifacts_iff_of_compileEntries_eq_ok
    {entries : List Entry} {compiled : CompiledSchema}
    (succeeded :
      compileEntries schema settings language entries = .ok compiled) :
    artifact ∈ compiled.artifacts ↔
      ∃ entry ∈ entries,
        compileEntry schema settings language entry.1 entry.2.category =
        .ok (some artifact) := by
  induction entries generalizing compiled with
  | nil =>
      cases succeeded
      simp
  | cons entry rest ih =>
      rcases Outcome.bind_eq_ok_iff.mp succeeded with
        ⟨first, compiles, remaining⟩
      rcases Outcome.bind_eq_ok_iff.mp remaining with ⟨others, later, result⟩
      rw [List.exists_mem_cons_iff, ← ih later, compiles]
      cases first with
      | none =>
          rcases Except.ok.inj result with rfl
          simp
      | some first =>
          rcases Except.ok.inj result with rfl
          simp [eq_comm]

end Entries

/-! ## Classes of a compiled schema -/

/-- Some artifact of a compiled schema is a class. -/
def CompiledSchema.Produces (compiled : CompiledSchema)
    (className : String) : Prop :=
  ∃ artifact ∈ compiled.artifacts, artifact.generatedName = className

/--
A composite that is not generated but dissolves into those that inline it.
-/
def Schema.Dissolves (schema : Schema) (settings : Settings)
    (name : String) : Prop :=
  settings.generates name = false ∧ ∃ layout, schema.layout? name = some layout

/--
The members of a class refer to the class of a type through one of
their target types.
-/
def ClassModel.RefersTo (model : ClassModel) (schema : Schema)
    (settings : Settings) (language : Language)
    (typeName className : String) : Prop :=
  ∃ member ∈ model.members, member.typeName = typeName ∧
    ∃ type, member.HasType schema settings language type ∧
    type.className = some className

theorem ClassModel.RefersTo.className_eq
    {model : ClassModel} {schema : Schema} {settings : Settings}
    {language : Language} {typeName className : String}
    (refers : model.RefersTo schema settings language typeName className) :
    className = language.className schema typeName := by
  rcases refers with ⟨member, _, rfl, type, hasType, named⟩
  exact hasType.className_eq named

section Compile

variable {schema : Schema} {settings : Settings} {language : Language}
  {name : String} {compiled : CompiledSchema}

theorem Schema.category_eq_composite_iff_of_mem_entries
    {descriptor : Descriptor}
    (among : (name, descriptor) ∈ schema.entries) :
    descriptor.category = .composite ↔
      ∃ layout, schema.layout? name = some layout := by
  simp only [layout?_eq_some_iff, find?_eq_some_iff.mpr among]
  cases descriptor <;> simp [Descriptor.category]

theorem Schema.dissolves_iff_of_mem_entries
    {descriptor : Descriptor}
    (among : (name, descriptor) ∈ schema.entries) :
    schema.Dissolves settings name ↔
      descriptor.category = .composite ∧ settings.generates name = false := by
  rw [Dissolves, and_comm, category_eq_composite_iff_of_mem_entries among]

/--
A compiled schema produces the classes of its entries but those that dissolve.
-/
theorem produces_className_iff
    (succeeded :
      compileEntries schema settings language schema.entries = .ok compiled) :
    compiled.Produces (language.className schema name) ↔
      name ∈ schema.names ∧ ¬ schema.Dissolves settings name := by
  simp only [CompiledSchema.Produces,
    mem_artifacts_iff_of_compileEntries_eq_ok succeeded]
  constructor
  · rintro ⟨artifact, ⟨⟨other, descriptor⟩, among, compiles⟩, same⟩
    rw [(names_of_compileEntry_eq_ok compiles).2] at same
    rcases Language.className_injective language schema same with rfl
    refine ⟨List.mem_map_of_mem among, ?_⟩
    rw [Schema.dissolves_iff_of_mem_entries among,
      ← eq_none_iff_of_compileEntry_eq_ok compiles]
    simp
  · rintro ⟨declared, kept⟩
    rcases List.mem_map.mp declared with ⟨⟨_, descriptor⟩, among, rfl⟩
    rcases exists_compileEntry_eq_ok succeeded among with ⟨result, compiles⟩
    rw [Schema.dissolves_iff_of_mem_entries among,
      ← eq_none_iff_of_compileEntry_eq_ok compiles] at kept
    rcases Option.ne_none_iff_exists'.mp kept with ⟨artifact, rfl⟩
    exact ⟨artifact, ⟨_, among, compiles⟩,
      (names_of_compileEntry_eq_ok compiles).2⟩

/--
The classes of a compiled schema are those of the composites that are
generated.
-/
theorem mem_classes_iff
    {model : ClassModel}
    (succeeded :
      compileEntries schema settings language schema.entries = .ok compiled) :
    model ∈ compiled.classes ↔
      ∃ name, schema.IsGenerated settings name ∧
        ClassModel.build schema settings language name = .ok model := by
  have produced : model ∈ compiled.classes ↔
      .composite model ∈ compiled.artifacts := by
    rw [CompiledSchema.classes, List.mem_filterMap]
    constructor
    · rintro ⟨artifact, among, same⟩
      cases artifact with
      | type other => cases same
      | enumeration other => cases same
      | composite other =>
          rcases Option.some.inj same with rfl
          exact among
    · intro among
      exact ⟨_, among, rfl⟩
  simp only [produced, mem_artifacts_iff_of_compileEntries_eq_ok succeeded,
    compileEntry_eq_ok_composite_iff]
  constructor
  · rintro ⟨⟨name, descriptor⟩, among, isComposite, generates, built⟩
    have found :=
      (Schema.category_eq_composite_iff_of_mem_entries among).mp isComposite
    exact ⟨name, ⟨generates, found⟩, built⟩
  · rintro ⟨name, ⟨generates, layout, found⟩, built⟩
    rcases List.mem_map.mp (Schema.mem_names_of_layout? found) with
      ⟨⟨_, descriptor⟩, among, rfl⟩
    have isComposite :=
      (Schema.category_eq_composite_iff_of_mem_entries among).mpr
        ⟨layout, found⟩
    exact ⟨_, among, isComposite, generates, built⟩

/--
Every member of a compiled class has a target type.  The class that a target
type refers to is produced exactly when the type of the member does not
dissolve, raw bytes without an entry apart.  And the class imports nothing but
what the target types need at run time and the classes that they refer to.
-/
theorem compile_produces_references
    {model : ClassModel}
    (succeeded : compile schema settings language = .ok compiled)
    (among : model ∈ compiled.classes) :
    (∀ member ∈ model.members, ∃ type,
      member.HasType schema settings language type) ∧
      (∀ typeName className,
        model.RefersTo schema settings language typeName className →
        (settings.isByteType typeName = true → typeName ∈ schema.names) →
          (compiled.Produces className ↔
            ¬ schema.Dissolves settings typeName)) ∧
      ∀ name ∈ model.requiredImports,
        (∃ member ∈ model.members, ∃ type,
          member.HasType schema settings language type ∧
          name ∈ type.imports) ∨
        ∃ typeName className,
          model.RefersTo schema settings language typeName className ∧
          name = language.classImport className := by
  rcases Outcome.bind_eq_ok_iff.mp succeeded with ⟨_, valid, succeeded⟩
  have wellFormed :=
    Schema.validate_eq_ok_iff.mp (Outcome.mapError_eq_ok_iff.mp valid)
  rcases (mem_classes_iff succeeded).mp among with ⟨root, _, built⟩
  refine ⟨fun member => ClassModel.exists_hasType_of_build_eq_ok built, ?_, ?_⟩
  · intro typeName className refers bytesDeclared
    have declared : typeName ∈ schema.names := by
      rcases refers with ⟨member, inClass, rfl, _⟩
      rcases ClassModel.exists_attr_of_build_eq_ok built inClass with
        ⟨owner, layout, found, attr, inLayout, sameType⟩
      rcases wellFormed.typesDeclared owner layout found attr inLayout with
        bytes | declared
      · exact bytesDeclared (beq_iff_eq.mpr (sameType.symm.trans bytes))
      · exact sameType ▸ declared
    rw [refers.className_eq, produces_className_iff succeeded,
      and_iff_right declared]
  · intro name needed
    rcases (ClassModel.mem_requiredImports_iff_of_build_eq_ok built).mp
        needed with
      ⟨member, inClass, type, hasType, needed⟩
    rcases Language.mem_requiredImports_iff.mp needed with
      atRunTime | ⟨className, refers, _, imported⟩
    · exact Or.inl ⟨member, inClass, type, hasType, atRunTime⟩
    · exact Or.inr
        ⟨_, className, ⟨member, inClass, rfl, type, hasType, refers⟩, imported⟩

end Compile

/-- A composite that holds another one without inlining it. -/
def Schema.holding : Schema where
  entries := [
    ("Body", .composite { layout :=
      [{ Attribute.named "version" "byte" with size := some (.literal 1) }] }),
    ("Block", .composite { layout := [.named "body" "Body"] })]
  distinct := by decide

/--
Only the class of the holder is produced, and it imports the class
of what it holds.
-/
theorem exists_compile_holding :
    ∃ compiled model,
      compile .holding (.dissolving "Body") .java = .ok compiled ∧
      model ∈ compiled.classes ∧
      compiled.artifacts.map Artifact.generatedName = ["BlockBuilder"] ∧
      model.members.map (fun member => (member.kind, member.typeName)) =
        [(.custom, "Body")] ∧
      model.requiredImports.names = ["BodyBuilder"] := by
  have computed :
      (compile .holding (.dissolving "Body") .java).map (fun compiled =>
      (compiled.artifacts.map Artifact.generatedName,
        compiled.classes.map fun model =>
        (model.members.map (fun member => (member.kind, member.typeName)),
          model.requiredImports.names))) =
      .ok (["BlockBuilder"], [([(.custom, "Body")], ["BodyBuilder"])]) := by cbv
  rcases Outcome.map_eq_ok_iff.mp computed with ⟨compiled, succeeded, fields⟩
  rcases Prod.mk.inj fields with ⟨artifacts, classes⟩
  rcases List.map_eq_singleton_iff.mp classes with ⟨model, only, fields⟩
  rcases Prod.mk.inj fields with ⟨members, imports⟩
  exact ⟨compiled, model, succeeded, only ▸ List.mem_singleton_self model,
    artifacts, members, imports⟩

/--
What the class of the holder refers to is produced exactly when it
does not dissolve.
-/
theorem compile_produces_references_holding :
    ∃ compiled model,
      compile .holding (.dissolving "Body") .java = .ok compiled ∧
      model ∈ compiled.classes ∧
      (∀ member ∈ model.members, ∃ type,
        member.HasType .holding (.dissolving "Body") .java type) ∧
      (∀ typeName className,
        model.RefersTo .holding (.dissolving "Body") .java typeName className →
          ((Settings.dissolving "Body").isByteType typeName = true →
            typeName ∈ Schema.holding.names) →
          (compiled.Produces className ↔
            ¬ Schema.holding.Dissolves (.dissolving "Body") typeName)) ∧
      ∀ name ∈ model.requiredImports,
        (∃ member ∈ model.members, ∃ type,
          member.HasType .holding (.dissolving "Body") .java type ∧
            name ∈ type.imports) ∨
        ∃ typeName className,
          model.RefersTo .holding (.dissolving "Body") .java typeName
              className ∧
            name = Language.java.classImport className := by
  rcases exists_compile_holding with ⟨compiled, model, succeeded, among, _⟩
  exact ⟨compiled, model, succeeded, among,
    compile_produces_references succeeded among⟩

/-- A class can refer to a class that is not produced, and import it. -/
theorem compile_holding_not_closed :
    ∃ compiled model,
      compile .holding (.dissolving "Body") .java = .ok compiled ∧
      model ∈ compiled.classes ∧
      ∃ className,
        model.RefersTo .holding (.dissolving "Body") .java "Body" className ∧
        Language.java.classImport className ∈ model.requiredImports ∧
        ¬ compiled.Produces className := by
  rcases exists_compile_holding with
    ⟨compiled, model, succeeded, among, artifacts, members, imports⟩
  rcases List.map_eq_singleton_iff.mp members with ⟨member, only, same⟩
  rcases Prod.mk.inj same with ⟨custom, typed⟩
  have inClass : member ∈ model.members := only ▸ List.mem_singleton_self member
  rcases Outcome.bind_eq_ok_iff.mp succeeded with ⟨_, _, entries⟩
  rcases (mem_classes_iff entries).mp among with ⟨root, _, built⟩
  rcases ClassModel.exists_hasType_of_build_eq_ok built inClass with
    ⟨type, hasType⟩
  have refers :
      type.className = some (Language.java.className .holding "Body") :=
    typed ▸ hasType.className_eq_of_custom custom
  refine ⟨compiled, model, succeeded, among, _,
    ⟨member, inClass, typed, type, hasType, refers⟩, ?_, ?_⟩
  · rw [NameSet.mem_iff, imports]
    decide
  · rintro ⟨artifact, produced, same⟩
    have other : artifact.generatedName ∈ ["BlockBuilder"] :=
      artifacts ▸ List.mem_map_of_mem produced
    rw [same] at other
    exact absurd other (by decide)

end WireLayout
