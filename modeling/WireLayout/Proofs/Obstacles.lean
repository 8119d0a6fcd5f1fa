import WireLayout.Compilation
import WireLayout.Proofs.Building
import WireLayout.Proofs.Selection

/-!
# What stands in the way of a compilation

Validation looks at every composite for itself and lets some schemas through
that cannot be compiled.  What then stands in the way is one of a few things:
an attribute of unknown disposition, a size in a field that is not
contributed, a condition without a discriminant, with a discriminant that has
nothing to compare, or with a value that selects nothing, or a constant of an
enumeration without a number.  Only the composites that are generated count,
with all that they inline.

Each of these obstacles makes compiling a valid schema fail, in every target
language, and a fault is always one of them, the value of a condition apart
that is given by a name which writes a number.  Linking reads such a name
back as the number, so that what its condition selects is not what the name
selects.  Nothing is said of such conditions: where there is none, compiling
fails exactly when there is an obstacle.
-/

namespace WireLayout

/-! ## What a composite inlines -/

/--
A way down from one composite to another is a sequence of inlined attributes.
-/
theorem Schema.exists_descends_iff
    {schema : Schema} {outer inner : String} :
    (∃ path, schema.Descends outer path inner) ↔
      Relation.ReflTransGen schema.Inlines outer inner := by
  constructor
  · rintro ⟨path, descends⟩
    induction descends with
    | here => exact .refl
    | into found member inlined _ ih =>
        exact .head (inlines_of_mem_stepsOf found member inlined) ih
  · intro reaches
    induction reaches using Relation.ReflTransGen.head_induction_on with
    | refl => exact ⟨[], .here⟩
    | head inlines _ ih =>
        rcases inlines with ⟨layout, found, attr, member, inlined, rfl⟩
        rcases exists_mem_stepsOf member with ⟨step, inSteps, rfl⟩
        rcases ih with ⟨path, descends⟩
        exact ⟨step :: path,
          .into found inSteps (Attribute.isInlined_iff.mp inlined) descends⟩

/-- A composite that becomes a class of its own. -/
def Schema.IsGenerated (schema : Schema) (settings : Settings)
    (name : String) : Prop :=
  settings.generates name = true ∧ ∃ layout, schema.layout? name = some layout

/--
An attribute in the layout of a composite that a generated
composite inlines, or is.
-/
structure Schema.IsReached (schema : Schema) (settings : Settings)
    (root owner : String) (layout : List Attribute)
    (attr : Attribute) : Prop where
  generated : schema.IsGenerated settings root
  inlines : Relation.ReflTransGen schema.Inlines root owner
  found : schema.layout? owner = some layout
  member : attr ∈ layout

/-- A constant of an enumeration that a generated composite declares itself. -/
structure Schema.IsReference (schema : Schema) (settings : Settings)
    (owner : String) (attr : Attribute) (enumeration : Enumeration) : Prop where
  generated : settings.generates owner = true
  declared : ∃ layout, schema.layout? owner = some layout ∧ attr ∈ layout
  constant : attr.isConstant = true
  typed : schema.enumeration? attr.typeName = some enumeration

/-- An attribute with a condition in the flattening of a generated composite. -/
structure Appearance.IsConditioned (schema : Schema) (settings : Settings)
    (root : String) (entries : List Appearance) (entry : Appearance)
    (name : String) : Prop where
  generated : schema.IsGenerated settings root
  flattening : IsFlattening schema settings root entries
  member : entry ∈ entries
  conditioned : entry.step.attr.condition = some name

/-- Such an attribute with a selector, and the enumeration it selects from. -/
inductive Appearance.SelectsFrom (schema : Schema) (settings : Settings)
    (root : String) (entries : List Appearance) (entry : Appearance)
    (enumeration : Enumeration) (selector : Selector) : Prop where
  | intro {name holder}
      (conditioned : entry.IsConditioned schema settings root entries name)
      (found : discriminantAmong entries name = some holder)
      (typed :
        schema.enumeration? holder.step.attr.typeName = some enumeration)
      (given : entry.step.attr.conditionValue = some selector)

/--
What stands in the way of compiling a valid schema, with the fault that
reports it.  A condition selects what its selector selects as it is declared.
-/
inductive CompileFault.IsObstacle (schema : Schema) (settings : Settings) :
    CompileFault → Prop where
  | unclassified {root owner layout attr}
      (reached : schema.IsReached settings root owner layout attr)
      (unknown : attr.disposition = some .unknown) :
      IsObstacle schema settings (.unclassified owner attr.displayName)
  | unsized {root owner layout attr reference}
      (reached : schema.IsReached settings root owner layout attr)
      (contributes : attr.contributes settings = true)
      (referred : attr.sizeReference = some reference)
      (absent : ∀ sibling ∈ layout, sibling.displayName = reference →
        sibling.contributes settings = false) :
      IsObstacle schema settings
        (.dangling ⟨root, attr.displayName, reference, .size⟩)
  | undiscriminated {root entries name} {entry : Appearance}
      (conditioned : entry.IsConditioned schema settings root entries name)
      (missing : ∀ other ∈ entries, other.step.attr.displayName ≠ name) :
      IsObstacle schema settings
        (.dangling ⟨root, entry.step.attr.displayName, name, .condition⟩)
  | notEnumeration {root entries name holder} {entry : Appearance}
      (conditioned : entry.IsConditioned schema settings root entries name)
      (found : Appearance.discriminantAmong entries name = some holder)
      (compared : entry.step.attr.operation = .equals)
      (missing : schema.enumeration? holder.step.attr.typeName = none) :
      IsObstacle schema settings
        (.notEnumeration root entry.step.attr.displayName name
          holder.step.attr.typeName)
  | unselected {root entries enumeration} {entry : Appearance}
      {selector : Selector}
      (selects :
        entry.SelectsFrom schema settings root entries enumeration selector)
      (ordinary : selector.IsOrdinary)
      (unselected : enumeration.find? selector = none) :
      IsObstacle schema settings
        (.dangling ⟨root, entry.step.attr.displayName, selector.text,
          .conditionValue⟩)
  | valueless {owner attr enumeration}
      (reference : schema.IsReference settings owner attr enumeration)
      (absent : attr.value = none) :
      IsObstacle schema settings
        (.schema (.constantWithoutValue owner attr.displayName))
  | unnamed {owner attr enumeration name}
      (reference : schema.IsReference settings owner attr enumeration)
      (given : attr.value = some (.name name))
      (absent : ∀ value ∈ enumeration.values, value.name ≠ name) :
      IsObstacle schema settings
        (.dangling ⟨owner, attr.displayName, name, .constant⟩)

/--
The fault of a condition with a selector that is not ordinary, whether it is
reported or not.
-/
inductive CompileFault.ConcernsNumeral (schema : Schema)
    (settings : Settings) : CompileFault → Prop where
  | conditionValue {root entries enumeration} {entry : Appearance}
      {selector : Selector}
      (selects :
        entry.SelectsFrom schema settings root entries enumeration selector)
      (numeral : ¬ selector.IsOrdinary) :
      ConcernsNumeral schema settings
        (.dangling ⟨root, entry.step.attr.displayName, selector.text,
          .conditionValue⟩)

/-- Where every declared selector is ordinary, nothing concerns a numeral. -/
theorem CompileFault.not_concernsNumeral
    {schema : Schema} {settings : Settings} {fault : CompileFault}
    (ordinary : ∀ owner layout, schema.layout? owner = some layout →
      ∀ attr ∈ layout, ∀ selector, attr.conditionValue = some selector →
        selector.IsOrdinary) :
    ¬ fault.ConcernsNumeral schema settings := by
  intro concerns
  cases concerns with
  | @conditionValue root entries enumeration entry selector selects numeral =>
      rcases selects with ⟨conditioned, _, _, given⟩
      have appears :=
        (conditioned.flattening.mem_iff entry).mp conditioned.member
      rcases appears with ⟨_, layout, found, inSteps, _⟩
      have declared := attr_mem_of_mem_stepsOf inSteps
      exact numeral (ordinary _ _ found _ declared _ given)

/-! ## Constants of enumerations -/

theorem mem_composites_iff
    {schema : Schema} {name : String} {type : Composite} :
    (name, type) ∈ schema.composites ↔
      schema.find? name = some (.composite type) := by
  rw [Schema.composites, List.mem_filterMap, Schema.find?_eq_some_iff]
  constructor
  · rintro ⟨⟨other, descriptor⟩, among, same⟩
    cases descriptor with
    | atomic type => cases same
    | enumeration type => cases same
    | composite type =>
        cases same
        exact among
  · intro among
    exact ⟨_, among, rfl⟩

/--
The constants of a type are all those that generated composites declare of it.
-/
theorem mem_constantReferences_iff
    {schema : Schema} {settings : Settings} {typeName owner : String}
    {attr : Attribute} :
    ⟨owner, attr⟩ ∈ constantReferences schema settings typeName ↔
      settings.generates owner = true ∧
        (∃ layout, schema.layout? owner = some layout ∧ attr ∈ layout) ∧
        attr.isConstant = true ∧ attr.typeName = typeName := by
  simp only [constantReferences, List.mem_flatMap, List.mem_filter,
    List.mem_map, Bool.and_eq_true, beq_iff_eq, Prod.exists,
    ConstantReference.mk.injEq, mem_composites_iff, Schema.layout?_eq_some_iff]
  constructor
  · rintro ⟨name, type, ⟨found, generated⟩, other, ⟨member, constant, typed⟩,
      rfl, rfl⟩
    exact ⟨generated, ⟨type.layout, ⟨type, found, rfl⟩, member⟩,
      constant, typed⟩
  · rintro ⟨generated, ⟨layout, ⟨type, found, rfl⟩, member⟩, constant, typed⟩
    exact ⟨owner, type, ⟨found, generated⟩, attr, ⟨member, constant, typed⟩,
      rfl, rfl⟩

/-- Why a constant has no number. -/
inductive Enumeration.LacksNumber (enumeration : Enumeration) (owner : String)
    (attr : Attribute) : CompileFault → Prop where
  | valueless
      (absent : attr.value = none) :
      LacksNumber enumeration owner attr
        (.schema (.constantWithoutValue owner attr.displayName))
  | unnamed {name}
      (given : attr.value = some (.name name))
      (absent : ∀ value ∈ enumeration.values, value.name ≠ name) :
      LacksNumber enumeration owner attr
        (.dangling ⟨owner, attr.displayName, name, .constant⟩)

theorem Enumeration.constantNumber_eq_error_iff
    {enumeration : Enumeration} {owner : String} {attr : Attribute}
    {fault : CompileFault} :
    enumeration.constantNumber owner attr = .error fault ↔
      enumeration.LacksNumber owner attr fault := by
  constructor
  · intro failed
    rw [constantNumber] at failed
    split at failed
    · cases failed
    · next name given =>
        split at failed
        · cases failed
        · next missing =>
            rcases Except.error.inj failed with rfl
            refine .unnamed given ?_
            simpa [named?] using missing
    · next absent =>
        rcases Except.error.inj failed with rfl
        exact .valueless absent
  · intro lacks
    cases lacks with
    | valueless absent => simp only [constantNumber, absent]
    | @unnamed name given absent =>
        have missing : enumeration.named? name = none := by
          simpa [named?] using absent
        simp only [constantNumber, given, missing]

theorem ConstantReference.model_eq_error_iff
    {language : Language} {enumeration : Enumeration}
    {reference : ConstantReference} {fault : CompileFault} :
    reference.model language enumeration = .error fault ↔
      enumeration.LacksNumber reference.owner reference.attr fault := by
  rw [model, Outcome.bind_eq_error_iff, Enumeration.constantNumber_eq_error_iff]
  constructor
  · rintro (lacks | ⟨_, _, impossible⟩)
    · exact lacks
    · cases impossible
  · exact Or.inl

/-- A constant without a number stands in the way. -/
theorem Schema.IsReference.isObstacle
    {schema : Schema} {settings : Settings} {owner : String} {attr : Attribute}
    {enumeration : Enumeration} {fault : CompileFault}
    (reference : schema.IsReference settings owner attr enumeration)
    (lacks : enumeration.LacksNumber owner attr fault) :
    fault.IsObstacle schema settings := by
  cases lacks with
  | valueless absent => exact .valueless reference absent
  | unnamed given absent => exact .unnamed reference given absent

/-! ## Entries -/

section Entries

variable {schema : Schema} {settings : Settings} {language : Language}
  {name : String} {fault : CompileFault}

theorem TypeModel.exists_build_eq_ok
    {type : AtomicType}
    (found : schema.find? name = some (.atomic type)) :
    ∃ model, TypeModel.build schema settings language name = .ok model := by
  cases classified : (type.valueField settings name).kind? settings [] with
  | none =>
      have unknown := Attribute.kind?_eq_none_iff.mp classified
      simp [AtomicType.valueField, Attribute.named] at unknown
  | some kind =>
      simp only [build, found, classified]
      exact ⟨_, rfl⟩

theorem EnumModel.build_eq_error
    {enumeration : Enumeration}
    (found : schema.enumeration? name = some enumeration)
    (failed : EnumModel.build schema settings language name = .error fault) :
    fault.IsObstacle schema settings := by
  simp only [build, found] at failed
  rcases Outcome.bind_eq_error_iff.mp failed with failed | ⟨_, _, impossible⟩
  · rcases Outcome.exists_of_mapM_eq_error failed with
      ⟨⟨owner, attr⟩, among, lacking⟩
    rcases mem_constantReferences_iff.mp among with
      ⟨generated, declared, constant, rfl⟩
    have reference : schema.IsReference settings owner attr enumeration :=
      ⟨generated, declared, constant, found⟩
    exact reference.isObstacle (ConstantReference.model_eq_error_iff.mp lacking)
  · cases impossible

theorem EnumModel.not_lacksNumber_of_build_eq_ok
    {owner : String} {attr : Attribute} {enumeration : Enumeration}
    {model : EnumModel}
    (reference : schema.IsReference settings owner attr enumeration)
    (built :
      EnumModel.build schema settings language attr.typeName = .ok model) :
    ¬ enumeration.LacksNumber owner attr fault := by
  intro lacks
  simp only [build, reference.typed] at built
  rcases Outcome.bind_eq_ok_iff.mp built with ⟨models, modelled, _⟩
  rw [Outcome.mapM_eq_ok_iff] at modelled
  have among :
      ⟨owner, attr⟩ ∈ constantReferences schema settings attr.typeName :=
    mem_constantReferences_iff.mpr
      ⟨reference.generated, reference.declared, reference.constant, rfl⟩
  rcases exists_right_of_forall₂ modelled among with ⟨model, _, succeeded⟩
  cases (ConstantReference.model_eq_error_iff.mpr lacks).symm.trans succeeded

/--
A condition that cannot be met in a generated composite stands in the way,
unless its selector writes a number.
-/
theorem Appearance.Unlinkable.isObstacle_or_concernsNumeral
    {root : String} {entries : List Appearance} {entry : Appearance}
    (unlinkable : entry.Unlinkable schema root entries fault)
    (generated : schema.IsGenerated settings root)
    (flattening : IsFlattening schema settings root entries)
    (among : entry ∈ entries) :
    fault.IsObstacle schema settings ∨
      fault.ConcernsNumeral schema settings := by
  cases unlinkable with
  | undiscriminated conditioned missing =>
      exact .inl
        (.undiscriminated ⟨generated, flattening, among, conditioned⟩ missing)
  | notEnumeration conditioned found compared missing =>
      exact .inl
        (.notEnumeration ⟨generated, flattening, among, conditioned⟩
          found compared missing)
  | @unselected name holder enumeration selector
      conditioned found typed given unselected =>
      have selects :
          entry.SelectsFrom schema settings root entries enumeration selector :=
        .intro ⟨generated, flattening, among, conditioned⟩ found typed given
      by_cases ordinary : selector.IsOrdinary
      · rw [ordinary.ofText_text] at unselected
        exact .inl (.unselected selects ordinary unselected)
      · exact .inr (.conditionValue selects ordinary)

/-- So does an attribute that is refused in a generated composite. -/
theorem Appearance.Refused.isObstacle_or_concernsNumeral
    {root : String} {entries : List Appearance} {entry : Appearance}
    (refused : entry.Refused schema settings root entries fault)
    (generated : schema.IsGenerated settings root)
    (flattening : IsFlattening schema settings root entries)
    (among : entry ∈ entries) :
    fault.IsObstacle schema settings ∨
      fault.ConcernsNumeral schema settings := by
  rcases (flattening.mem_iff entry).mp among with
    ⟨descends, layout, found, inSteps, contributes⟩
  have reached :
      schema.IsReached settings root entry.owner layout entry.step.attr :=
    ⟨generated, Schema.exists_descends_iff.mp ⟨_, descends⟩, found,
      attr_mem_of_mem_stepsOf inSteps⟩
  cases refused with
  | unclassified unknown => exact .inl (.unclassified reached unknown)
  | unsized own referred absent =>
      rcases Option.some.inj (found.symm.trans own) with rfl
      exact .inl (.unsized reached contributes referred absent)
  | unlinkable unlinkable =>
      exact unlinkable.isObstacle_or_concernsNumeral
        generated flattening among

/--
A contributing attribute that a generated composite reaches appears
in its flattening.
-/
theorem Schema.IsReached.exists_mem_entries
    {root owner : String} {layout : List Attribute} {attr : Attribute}
    {entries : List Appearance}
    (reached : schema.IsReached settings root owner layout attr)
    (contributes : attr.contributes settings = true)
    (flattening : IsFlattening schema settings root entries) :
    ∃ entry ∈ entries, entry.owner = owner ∧ entry.step.attr = attr := by
  rcases Schema.exists_descends_iff.mpr reached.inlines with ⟨path, descends⟩
  rcases exists_mem_stepsOf reached.member with ⟨step, inSteps, rfl⟩
  refine ⟨⟨path, owner, step⟩, ?_, rfl, rfl⟩
  exact (flattening.mem_iff _).mpr
    ⟨descends, layout, reached.found, inSteps, contributes⟩

theorem isObstacle_or_concernsNumeral_of_compileEntry_eq_error
    {descriptor : Descriptor}
    (wellFormed : schema.WellFormed settings.byteType)
    (among : (name, descriptor) ∈ schema.entries)
    (failed :
      compileEntry schema settings language name descriptor.category =
        .error fault) :
    fault.IsObstacle schema settings ∨
      fault.ConcernsNumeral schema settings := by
  cases descriptor with
  | atomic type =>
      rcases Outcome.bind_eq_error_iff.mp failed with
        failed | ⟨_, _, impossible⟩
      · rcases TypeModel.exists_build_eq_ok
            (Schema.find?_eq_some_iff.mpr among) with ⟨model, built⟩
        cases built.symm.trans failed
      · cases impossible
  | enumeration type =>
      rcases Outcome.bind_eq_error_iff.mp failed with
        failed | ⟨_, _, impossible⟩
      · have typed := Schema.enumeration?_of_mem_entries among
        exact .inl (EnumModel.build_eq_error typed failed)
      · cases impossible
  | composite type =>
      simp only [compileEntry, Descriptor.category] at failed
      split at failed
      · next generates =>
          rcases Outcome.bind_eq_error_iff.mp failed with
            failed | ⟨_, _, impossible⟩
          · have found := Schema.layout?_of_mem_entries among
            rcases exists_isFlattening wellFormed found with
              ⟨entries, flattening⟩
            rcases ClassModel.exists_refused_of_build_eq_error wellFormed
                flattening failed with
              ⟨entry, inEntries, refused⟩
            exact refused.isObstacle_or_concernsNumeral
              ⟨generates, _, found⟩ flattening inEntries
          · cases impossible
      · cases failed

end Entries

/-! ## Compilations -/

/-- Entries fail to compile with the fault of the first of them that does. -/
theorem compileEntries_eq_error_iff
    {schema : Schema} {settings : Settings} {language : Language}
    {entries : List Entry} {fault : CompileFault} :
    compileEntries schema settings language entries = .error fault ↔
      ∃ before entry after, entries = before ++ entry :: after ∧
        (∀ earlier ∈ before, ∃ result,
          compileEntry schema settings language earlier.1 earlier.2.category =
            .ok result) ∧
        compileEntry schema settings language entry.1 entry.2.category =
          .error fault := by
  induction entries with
  | nil => simp [compileEntries]
  | cons entry rest ih =>
      rw [compileEntries, Outcome.bind_eq_error_iff,
        Outcome.exists_first_cons_iff, ← ih]
      refine or_congr_right ⟨?_, ?_⟩
      · rintro ⟨result, compiles, failed⟩
        rcases Outcome.bind_eq_error_iff.mp failed with
          later | ⟨_, _, impossible⟩
        · exact ⟨⟨result, compiles⟩, later⟩
        · cases impossible
      · rintro ⟨⟨result, compiles⟩, later⟩
        exact ⟨result, compiles, Outcome.bind_eq_error_iff.mpr (Or.inl later)⟩

theorem exists_of_compileEntries_eq_error
    {schema : Schema} {settings : Settings} {language : Language}
    {entries : List Entry} {fault : CompileFault}
    (failed : compileEntries schema settings language entries = .error fault) :
    ∃ entry ∈ entries,
      compileEntry schema settings language entry.1 entry.2.category =
        .error fault := by
  rcases compileEntries_eq_error_iff.mp failed with
    ⟨before, entry, after, rfl, _, failed⟩
  exact ⟨entry, by simp, failed⟩

theorem exists_compileEntry_eq_ok
    {schema : Schema} {settings : Settings} {language : Language}
    {entries : List Entry} {compiled : CompiledSchema} {entry : Entry}
    (succeeded : compileEntries schema settings language entries = .ok compiled)
    (among : entry ∈ entries) :
    ∃ artifact, compileEntry schema settings language entry.1 entry.2.category =
      .ok artifact := by
  induction entries generalizing compiled with
  | nil => cases among
  | cons head rest ih =>
      rcases Outcome.bind_eq_ok_iff.mp succeeded with
        ⟨artifact, first, remaining⟩
      rcases Outcome.bind_eq_ok_iff.mp remaining with ⟨others, later, _⟩
      rcases List.mem_cons.mp among with rfl | among
      · exact ⟨artifact, first⟩
      · exact ih later among

/-- Entries compile if each of them does. -/
theorem exists_compileEntries_eq_ok
    {schema : Schema} {settings : Settings} {language : Language}
    {entries : List Entry}
    (compiles : ∀ entry ∈ entries, ∃ artifact,
      compileEntry schema settings language entry.1 entry.2.category =
        .ok artifact) :
    ∃ compiled,
      compileEntries schema settings language entries = .ok compiled := by
  cases outcome : compileEntries schema settings language entries with
  | ok compiled => exact ⟨compiled, rfl⟩
  | error fault =>
      rcases exists_of_compileEntries_eq_error outcome with
        ⟨entry, among, failed⟩
      rcases compiles entry among with ⟨artifact, succeeded⟩
      cases failed.symm.trans succeeded

section Compile

variable {schema : Schema} {settings : Settings} {language : Language}
  {fault : CompileFault}

theorem compile_eq_compileEntries
    (valid : schema.validate settings.byteType = .ok ()) :
    compile schema settings language =
      compileEntries schema settings language schema.entries := by
  rw [compile, valid]
  rfl

/-- In a compiled schema the class of every generated composite is built. -/
theorem Schema.IsGenerated.exists_build_eq_ok
    {compiled : CompiledSchema} {name : String}
    (generated : schema.IsGenerated settings name)
    (succeeded :
      compileEntries schema settings language schema.entries = .ok compiled) :
    ∃ model, ClassModel.build schema settings language name = .ok model := by
  rcases generated with ⟨generates, layout, found⟩
  rcases Schema.layout?_eq_some_iff.mp found with ⟨type, located, _⟩
  rcases exists_compileEntry_eq_ok succeeded
      (Schema.find?_eq_some_iff.mp located) with
    ⟨artifact, built⟩
  simp only [compileEntry, Descriptor.category, generates, if_true] at built
  rcases Outcome.bind_eq_ok_iff.mp built with ⟨model, built, _⟩
  exact ⟨model, built⟩

theorem EnumModel.exists_build_eq_ok
    {compiled : CompiledSchema} {name : String} {enumeration : Enumeration}
    (found : schema.enumeration? name = some enumeration)
    (succeeded :
      compileEntries schema settings language schema.entries = .ok compiled) :
    ∃ model, EnumModel.build schema settings language name = .ok model := by
  have located := Schema.enumeration?_eq_some_iff.mp found
  rcases exists_compileEntry_eq_ok succeeded
      (Schema.find?_eq_some_iff.mp located) with
    ⟨artifact, built⟩
  rcases Outcome.bind_eq_ok_iff.mp built with ⟨model, built, _⟩
  exact ⟨model, built⟩

/-- Every condition of a generated composite is met in a compiled schema. -/
theorem Appearance.IsConditioned.not_unlinkable
    {compiled : CompiledSchema} {root name : String}
    {entries : List Appearance} {entry : Appearance}
    (conditioned : entry.IsConditioned schema settings root entries name)
    (wellFormed : schema.WellFormed settings.byteType)
    (succeeded :
      compileEntries schema settings language schema.entries = .ok compiled) :
    ¬ entry.Unlinkable schema root entries fault := by
  intro unlinkable
  rcases conditioned.generated.exists_build_eq_ok succeeded with
    ⟨model, built⟩
  exact ClassModel.not_refused_of_build_eq_ok wellFormed
    conditioned.flattening built conditioned.member (.unlinkable unlinkable)

/-- Nothing stands in the way of a schema that is compiled. -/
theorem not_isObstacle_of_compileEntries_eq_ok
    {compiled : CompiledSchema}
    (wellFormed : schema.WellFormed settings.byteType)
    (succeeded :
      compileEntries schema settings language schema.entries = .ok compiled) :
    ¬ fault.IsObstacle schema settings := by
  intro obstacle
  cases obstacle with
  | @unclassified root owner layout attr reached unknown =>
      rcases reached.generated with ⟨_, rootLayout, rootFound⟩
      rcases exists_isFlattening wellFormed rootFound with ⟨entries, flattening⟩
      have contributes : attr.contributes settings = true :=
        Attribute.contributes_plain (by simp [unknown]) (by simp [unknown])
      rcases reached.exists_mem_entries contributes flattening with
        ⟨entry, among, rfl, rfl⟩
      rcases reached.generated.exists_build_eq_ok succeeded with ⟨model, built⟩
      exact ClassModel.not_refused_of_build_eq_ok wellFormed flattening built
        among (.unclassified unknown)
  | @unsized root owner layout attr reference reached contributes referred
      absent =>
      rcases reached.generated with ⟨_, rootLayout, rootFound⟩
      rcases exists_isFlattening wellFormed rootFound with ⟨entries, flattening⟩
      rcases reached.exists_mem_entries contributes flattening with
        ⟨entry, among, rfl, rfl⟩
      rcases reached.generated.exists_build_eq_ok succeeded with ⟨model, built⟩
      exact ClassModel.not_refused_of_build_eq_ok wellFormed flattening built
        among (.unsized reached.found referred absent)
  | undiscriminated conditioned missing =>
      exact conditioned.not_unlinkable wellFormed succeeded
        (.undiscriminated conditioned.conditioned missing)
  | notEnumeration conditioned found compared missing =>
      exact conditioned.not_unlinkable wellFormed succeeded
        (.notEnumeration conditioned.conditioned found compared missing)
  | unselected selects ordinary unselected =>
      rcases selects with ⟨conditioned, found, typed, given⟩
      rw [← ordinary.ofText_text] at unselected
      exact conditioned.not_unlinkable wellFormed succeeded
        (.unselected conditioned.conditioned found typed given unselected)
  | @valueless owner attr enumeration reference absent =>
      rcases EnumModel.exists_build_eq_ok reference.typed succeeded with
        ⟨model, built⟩
      exact EnumModel.not_lacksNumber_of_build_eq_ok reference built
        (.valueless absent)
  | @unnamed owner attr enumeration name reference given absent =>
      rcases EnumModel.exists_build_eq_ok reference.typed succeeded with
        ⟨model, built⟩
      exact EnumModel.not_lacksNumber_of_build_eq_ok reference built
        (.unnamed given absent)

/-- A schema in whose way something stands is not compiled. -/
theorem CompileFault.IsObstacle.exists_compileEntries_eq_error
    (obstacle : fault.IsObstacle schema settings)
    (language : Language)
    (wellFormed : schema.WellFormed settings.byteType) :
    ∃ reported,
      compileEntries schema settings language schema.entries =
        .error reported := by
  cases outcome :
      compileEntries schema settings language schema.entries with
  | error reported => exact ⟨reported, rfl⟩
  | ok compiled =>
      exact absurd obstacle
        (not_isObstacle_of_compileEntries_eq_ok wellFormed outcome)

/-- Where compiling fails, the fault stands in the way. -/
theorem isObstacle_or_concernsNumeral_of_compileEntries_eq_error
    (wellFormed : schema.WellFormed settings.byteType)
    (failed :
      compileEntries schema settings language schema.entries =
        .error fault) :
    fault.IsObstacle schema settings ∨
      fault.ConcernsNumeral schema settings := by
  rcases exists_of_compileEntries_eq_error failed with
    ⟨⟨name, descriptor⟩, among, failed⟩
  exact isObstacle_or_concernsNumeral_of_compileEntry_eq_error
    wellFormed among failed

end Compile

/--
Compiling a valid schema fails when something stands in the way, whatever the
language, and the fault is something that does, unless it concerns a numeral.
Where nothing concerns a numeral, compiling fails exactly when something
stands in the way.
-/
theorem compile_fails_iff_exists_isObstacle
    (schema : Schema) (settings : Settings) (language : Language)
    (valid : schema.validate settings.byteType = .ok ()) :
    ((∃ fault : CompileFault, fault.IsObstacle schema settings) →
      ∃ fault, compile schema settings language = .error fault) ∧
    (∀ fault, compile schema settings language = .error fault →
      fault.IsObstacle schema settings ∨
        fault.ConcernsNumeral schema settings) ∧
    ((∀ fault : CompileFault, ¬ fault.ConcernsNumeral schema settings) →
      ((∃ fault, compile schema settings language = .error fault) ↔
        ∃ fault : CompileFault, fault.IsObstacle schema settings)) := by
  have wellFormed := Schema.validate_eq_ok_iff.mp valid
  rw [compile_eq_compileEntries valid]
  have fails :
      (∃ fault : CompileFault, fault.IsObstacle schema settings) →
        ∃ fault,
          compileEntries schema settings language schema.entries =
            .error fault := by
    rintro ⟨fault, obstacle⟩
    exact obstacle.exists_compileEntries_eq_error language wellFormed
  refine ⟨fails, ?_, ?_⟩
  · intro fault failed
    exact isObstacle_or_concernsNumeral_of_compileEntries_eq_error
      wellFormed failed
  · intro noNumeral
    refine ⟨?_, fails⟩
    rintro ⟨fault, failed⟩
    rcases isObstacle_or_concernsNumeral_of_compileEntries_eq_error
        wellFormed failed with obstacle | numeral
    · exact ⟨fault, obstacle⟩
    · exact absurd numeral (noNumeral fault)

/-- A composite with a constant of an enumeration that is given no value. -/
def Schema.valueless : Schema where
  entries := [
    ("EntityType", .enumeration
      { size := 2, values := [{ name := "TRANSFER", number := 16724 }] }),
    ("Transfer", .composite { layout :=
      [{ Attribute.named "TRANSACTION_TYPE" "EntityType" with
        disposition := some .constant }] })]
  distinct := by decide

/--
Nothing concerns a numeral, and compiling fails for the want of a value, which
stands in the way.
-/
theorem isObstacle_valueless :
    Schema.valueless.validate Settings.standard.byteType = .ok () ∧
      (∀ fault : CompileFault,
        ¬ fault.ConcernsNumeral .valueless .standard) ∧
      ∃ fault : CompileFault, fault.IsObstacle .valueless .standard := by
  have valid :
      Schema.valueless.validate Settings.standard.byteType = .ok () := by cbv
  have failed : compile .valueless .standard .java =
      .error (.schema
        (.constantWithoutValue "Transfer" "TRANSACTION_TYPE")) := by cbv
  have noNumeral (fault : CompileFault) :
      ¬ fault.ConcernsNumeral .valueless .standard := by
    apply CompileFault.not_concernsNumeral
    intro owner layout found attr member selector given
    rcases Schema.layout?_eq_some_iff.mp found with ⟨type, located, rfl⟩
    have among := Schema.find?_eq_some_iff.mp located
    simp only [Schema.valueless, List.mem_cons, Prod.mk.injEq, reduceCtorEq,
      and_false, Descriptor.composite.injEq, List.not_mem_nil, or_false,
      false_or] at among
    rcases among with ⟨rfl, rfl⟩
    rcases List.mem_singleton.mp member with rfl
    cases given
  have outcome :=
    compile_fails_iff_exists_isObstacle .valueless .standard .java valid
  exact ⟨valid, noNumeral, (outcome.2.2 noNumeral).mp ⟨_, failed⟩⟩

/-- A class is built where the discriminants of its composition are linked. -/
theorem ClassModel.map_build_eq
    {schema : Schema} {settings : Settings} {language : Language}
    {name : String} {type : Composite} {composition : Composition}
    (located : schema.find? name = some (.composite type))
    (composed : compose schema settings language name = .ok composition) :
    (ClassModel.build schema settings language name).map (fun _ => ()) =
      (linkDiscriminants schema name composition.members).toExcept.map
        (fun _ => ()) := by
  simp only [build, located]
  cases linked :
      (linkDiscriminants schema name composition.members).toExcept with
  | ok members =>
      exact Outcome.map_eq_ok_iff.mpr ⟨_, Outcome.bind_eq_ok_iff.mpr
        ⟨composition, composed, Outcome.bind_eq_ok_iff.mpr
          ⟨members, linked, rfl⟩⟩, rfl⟩
  | error fault =>
      exact Outcome.map_eq_error_iff.mpr (Outcome.bind_eq_error_iff.mpr
        (.inr ⟨composition, composed, Outcome.bind_eq_error_iff.mpr
          (.inl linked)⟩))

theorem exists_selectsFrom_selecting (values : List EnumerationValue) :
    ∃ entries, ∃ entry : Appearance,
      entry.SelectsFrom (.selecting values) .standard "Choice" entries
        { size := 1, values := values } (.name "1") := by
  have flattens :
      Flattens (.selecting values) .standard [] "Choice"
        (stepsOf Schema.numberedLayout) _ :=
    .plain (by decide) (by decide) (.plain (by decide) (by decide) .done)
  have flattening := flattens.isFlattening rfl
  have generated :
      (Schema.selecting values).IsGenerated .standard "Choice" :=
    ⟨by cbv, _, rfl⟩
  exact ⟨_, _,
    .intro ⟨generated, flattening, .tail _ (.head _), rfl⟩ rfl rfl rfl⟩

section Selecting

variable (values : List EnumerationValue)

/-- The condition is linked with the value of the number 1, if there is one. -/
theorem exists_linkDiscriminants_selecting :
    ∃ composition,
      compose (.selecting values) .standard .java "Choice" =
          .ok composition ∧
        (linkDiscriminants (.selecting values) "Choice"
            composition.members).toExcept.map (fun _ => ()) =
          match ({ size := 1, values := values } : Enumeration).find?
              (.number 1) with
          | some _ => .ok ()
          | none =>
              .error
                (.dangling ⟨"Choice", "payload", "1", .conditionValue⟩) := by
  rcases exists_compose_selecting values with
    ⟨composition, kind, payload, composed, members, typeName, free, named,
      conditioned, found⟩
  have typed : (Schema.selecting values).enumeration? kind.typeName =
      some { size := 1, values := values } := by
    rw [typeName]
    rfl
  have first :
      kind.linkDiscriminant (.selecting values) "Choice"
        composition.members = .ok kind := by
    rw [Member.linkDiscriminant, free]
  have second :
      payload.linkDiscriminant (.selecting values) "Choice"
        composition.members = _ :=
    Member.linkDiscriminant_eq_of_enumeration?_eq_some conditioned found
      (by rw [members]; rfl) typed
  rw [Selector.ofText_eq_number_iff.mpr isNumeral_one, named] at second
  refine ⟨composition, composed, ?_⟩
  rw [linkDiscriminants]
  nth_rewrite 2 [members]
  simp only [linkDiscriminantsFrom, first, second]
  cases Enumeration.find? _ (.number 1) with
  | some value => rfl
  | none => rfl

theorem map_compile_eq_map_build_selecting
    (valid :
      (Schema.selecting values).validate Settings.standard.byteType =
        .ok ()) :
    (compile (.selecting values) .standard .java).map (fun _ => ()) =
      (ClassModel.build (.selecting values) .standard .java "Choice").map
        (fun _ => ()) := by
  have others :
      (compileEntry (.selecting values) .standard .java "Kind"
        .enumeration).map (fun _ => ()) = .ok () := by cbv
  rcases Outcome.map_eq_ok_iff.mp others with ⟨artifact, others, _⟩
  have generates : Settings.standard.generates "Choice" = true := by cbv
  have choice :
      compileEntry (.selecting values) .standard .java "Choice" .composite =
        (ClassModel.build (.selecting values) .standard .java "Choice").map
          (fun model => some (.composite model)) := by
    simp only [compileEntry, generates, if_true]
    rfl
  rw [compile_eq_compileEntries valid]
  cases built :
      ClassModel.build (.selecting values) .standard .java "Choice" with
  | ok model =>
      rw [built] at choice
      have compiles :
          ∃ compiled, compileEntries (.selecting values) .standard .java
            (Schema.selecting values).entries = .ok compiled := by
        apply exists_compileEntries_eq_ok
        intro entry among
        simp only [Schema.selecting, List.mem_cons, List.not_mem_nil,
          or_false] at among
        rcases among with rfl | rfl
        · exact ⟨artifact, others⟩
        · exact ⟨_, choice⟩
      rcases compiles with ⟨compiled, compiles⟩
      rw [compiles]
      rfl
  | error fault =>
      rw [built] at choice
      have failed :
          compileEntries (.selecting values) .standard .java
            (Schema.selecting values).entries = .error fault := by
        rw [compileEntries_eq_error_iff]
        refine ⟨[_], _, [], rfl, ?_, choice⟩
        intro earlier among
        rcases List.mem_singleton.mp among with rfl
        exact ⟨artifact, others⟩
      rw [failed]
      rfl

/-- What compiling comes to does not depend on the names of the values. -/
theorem map_compile_selecting
    (valid :
      (Schema.selecting values).validate Settings.standard.byteType =
        .ok ()) :
    (compile (.selecting values) .standard .java).map (fun _ => ()) =
      match ({ size := 1, values := values } : Enumeration).find?
          (.number 1) with
      | some _ => .ok ()
      | none =>
          .error (.dangling ⟨"Choice", "payload", "1", .conditionValue⟩) := by
  rcases exists_linkDiscriminants_selecting values with
    ⟨composition, composed, links⟩
  rw [map_compile_eq_map_build_selecting values valid, ← links]
  exact ClassModel.map_build_eq rfl composed

end Selecting

/--
Not every fault of a valid schema is an attribute that cannot be classified.
A condition of a name that selects nothing need not make compiling fail, and
one of a name that selects a value can.
-/
theorem compile_valueless_compile_selecting :
    (Schema.valueless.validate Settings.standard.byteType = .ok () ∧
      (∃ enumeration, Schema.valueless.IsReference .standard "Transfer"
        { Attribute.named "TRANSACTION_TYPE" "EntityType" with
          disposition := some .constant } enumeration) ∧
      (∃ fault, compile .valueless .standard .java = .error fault) ∧
      ¬ ∀ fault, compile .valueless .standard .java = .error fault →
        ∃ owner attr, fault = .unclassified owner attr) ∧
    ((Schema.selecting [⟨"A", 1, ""⟩]).validate Settings.standard.byteType =
        .ok () ∧
      (∃ entries enumeration, ∃ entry : Appearance,
        entry.SelectsFrom (.selecting [⟨"A", 1, ""⟩]) .standard "Choice"
          entries enumeration (.name "1") ∧
        enumeration.find? (.name "1") = none) ∧
      ∃ compiled,
        compile (.selecting [⟨"A", 1, ""⟩]) .standard .java =
          .ok compiled) ∧
    ((Schema.selecting [⟨"1", 0, ""⟩]).validate Settings.standard.byteType =
        .ok () ∧
      (∃ entries enumeration value, ∃ entry : Appearance,
        entry.SelectsFrom (.selecting [⟨"1", 0, ""⟩]) .standard "Choice"
          entries enumeration (.name "1") ∧
        enumeration.find? (.name "1") = some value) ∧
      compile (.selecting [⟨"1", 0, ""⟩]) .standard .java =
        .error (.dangling ⟨"Choice", "payload", "1", .conditionValue⟩)) := by
  have unnumberedValid :
      (Schema.selecting [⟨"1", 0, ""⟩]).validate Settings.standard.byteType =
        .ok () := by cbv
  have unnamedValid :
      (Schema.selecting [⟨"A", 1, ""⟩]).validate Settings.standard.byteType =
        .ok () := by cbv
  refine ⟨⟨by cbv, ?_, ?_⟩, ⟨unnamedValid, ?_, ?_⟩,
    ⟨unnumberedValid, ?_, ?_⟩⟩
  · have typed : Schema.valueless.enumeration? "EntityType" =
        some { size := 2, values :=
          [{ name := "TRANSFER", number := 16724 }] } := by cbv
    have found : Schema.valueless.layout? "Transfer" =
        some [{ Attribute.named "TRANSACTION_TYPE" "EntityType" with
          disposition := some .constant }] := by cbv
    have generated : Settings.standard.generates "Transfer" = true := by cbv
    exact ⟨_, generated, ⟨_, found, List.mem_singleton_self _⟩, rfl, typed⟩
  · have failed : compile .valueless .standard .java =
        .error (.schema
          (.constantWithoutValue "Transfer" "TRANSACTION_TYPE")) := by cbv
    refine ⟨⟨_, failed⟩, ?_⟩
    intro always
    rcases always _ failed with ⟨owner, attr, same⟩
    cases same
  · rcases exists_selectsFrom_selecting [⟨"A", 1, ""⟩] with
      ⟨entries, entry, selects⟩
    exact ⟨entries, _, entry, selects, rfl⟩
  · rcases Outcome.map_eq_ok_iff.mp (map_compile_selecting _ unnamedValid) with
      ⟨compiled, compiles, _⟩
    exact ⟨compiled, compiles⟩
  · rcases exists_selectsFrom_selecting [⟨"1", 0, ""⟩] with
      ⟨entries, entry, selects⟩
    exact ⟨entries, _, _, entry, selects, rfl⟩
  · exact Outcome.map_eq_error_iff.mp
      (map_compile_selecting _ unnumberedValid)

end WireLayout
