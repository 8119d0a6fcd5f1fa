import WireLayout.Proofs.ReverseReferences

/-!
# Enumerations and their tags

A tag is a constant of an enumeration's type which a generated composite
declares itself.  The model of the enumeration has its declared values, and
after them one value for each tag: first by the place of the composite in the
schema, then by the place of the constant in its layout.  The value is named
after the composite and has the number that the constant designates.

There is such a model exactly if every tag designates a number, and otherwise
the first one that does not is reported.  Composites that are not generated
have no tags, so they neither add a value nor stand in the way.
-/

namespace WireLayout

/-! ## Tags -/

/--
A constant in a layout, the composite that declares it, and the place of
that in its schema.
-/
structure Tag where
  entry : Nat
  owner : String
  step : Step

namespace Tag

/--
The order of tags: that of their composites, and in one composite
that of its layout.
-/
def Before (tag other : Tag) : Prop :=
  tag.entry < other.entry ∨
    tag.entry = other.entry ∧ tag.step.position < other.step.position

/-- A generated composite of a schema declares a tag of a type. -/
structure IsDeclared (schema : Schema) (settings : Settings) (typeName : String)
    (tag : Tag) : Prop where
  declared : ∃ type,
    schema.entries[tag.entry]? = some (tag.owner, .composite type) ∧
    type.layout[tag.step.position]? = some tag.step.attr
  generated : settings.generates tag.owner = true
  constant : tag.step.attr.isConstant = true
  typed : tag.step.attr.typeName = typeName

/-- The constant of a tag, without its places. -/
def reference (tag : Tag) : ConstantReference :=
  ⟨tag.owner, tag.step.attr⟩

end Tag

/-- The tags of a type, all of them and in order. -/
structure AreTags (schema : Schema) (settings : Settings) (typeName : String)
    (tags : List Tag) : Prop where
  ordered : tags.Pairwise Tag.Before
  mem_iff : ∀ tag, tag ∈ tags ↔ tag.IsDeclared schema settings typeName

/-- The steps of a layout that are constants of a type. -/
def constantSteps (typeName : String) (layout : List Attribute) : List Step :=
  (stepsOf layout).filter fun step =>
    step.attr.isConstant && step.attr.typeName == typeName

namespace Tag

theorem Before.irrefl (tag : Tag) : ¬ tag.Before tag := by
  rintro (before | ⟨_, before⟩)
  · exact Nat.lt_irrefl _ before
  · exact Nat.lt_irrefl _ before

theorem Before.asymm {tag other : Tag} (before : tag.Before other) :
    ¬ other.Before tag := by
  rcases before with before | ⟨same, before⟩
  · rintro (after | ⟨same, _⟩)
    · omega
    · omega
  · rintro (after | ⟨_, after⟩)
    · omega
    · omega

end Tag

/-- There is only one list of the tags of a type. -/
theorem AreTags.unique
    {schema : Schema} {settings : Settings} {typeName : String}
    {tags others : List Tag}
    (areTags : AreTags schema settings typeName tags)
    (again : AreTags schema settings typeName others) :
    tags = others := by
  have distinct {tags : List Tag} (ordered : tags.Pairwise Tag.Before) :
      tags.Nodup := by
    refine ordered.imp ?_
    rintro tag _ before rfl
    exact Tag.Before.irrefl tag before
  have permuted : tags.Perm others := by
    rw [List.perm_ext_iff_of_nodup (distinct areTags.ordered)
      (distinct again.ordered)]
    intro tag
    rw [areTags.mem_iff, again.mem_iff]
  refine permuted.eq_of_pairwise ?_ areTags.ordered again.ordered
  intro tag other _ _ before after
  exact absurd after before.asymm

/-- The tags that an entry of a schema declares. -/
def Entry.tags (settings : Settings) (typeName : String) (index : Nat)
    (entry : Entry) : List Tag :=
  match entry with
  | (owner, .composite type) =>
      if settings.generates owner then
        (constantSteps typeName type.layout).map (Tag.mk index owner)
      else []
  | _ => []

section Tags

variable {schema : Schema} {settings : Settings} {typeName : String}

theorem pairwise_zipIdx {Value : Type} (values : List Value) :
    values.zipIdx.Pairwise fun value other => value.2 < other.2 := by
  refine List.pairwise_map.mp ?_
  rw [List.zipIdx_map_snd]
  exact List.pairwise_lt_range'

theorem pairwise_stepsOf (layout : List Attribute) :
    (stepsOf layout).Pairwise fun step other =>
      step.position < other.position :=
  List.pairwise_map.mpr (pairwise_zipIdx layout)

theorem mem_constantSteps_iff
    {layout : List Attribute} {step : Step} :
    step ∈ constantSteps typeName layout ↔
      layout[step.position]? = some step.attr ∧ step.attr.isConstant = true ∧
        step.attr.typeName = typeName := by
  rw [constantSteps, List.mem_filter, mem_stepsOf, Bool.and_eq_true, beq_iff_eq]

theorem map_attr_constantSteps (layout : List Attribute) :
    (constantSteps typeName layout).map Step.attr =
      layout.filter fun attr =>
        attr.isConstant && attr.typeName == typeName := by
  have attrs : (stepsOf layout).map Step.attr = layout := by
    rw [stepsOf, List.map_map]
    exact List.zipIdx_map_fst 0 layout
  conv_rhs => rw [← attrs, List.filter_map]
  rfl

theorem Entry.mem_tags_iff
    {index : Nat} {entry : Entry} {tag : Tag} :
    tag ∈ entry.tags settings typeName index ↔
      tag.entry = index ∧ (∃ type, entry = (tag.owner, .composite type) ∧
        type.layout[tag.step.position]? = some tag.step.attr) ∧
        settings.generates tag.owner = true ∧ tag.step.attr.isConstant = true ∧
        tag.step.attr.typeName = typeName := by
  rcases entry with ⟨owner, descriptor⟩
  cases descriptor with
  | atomic type => simp [Entry.tags]
  | enumeration type => simp [Entry.tags]
  | composite type =>
      cases generated : settings.generates owner with
      | false =>
          simp only [Entry.tags, generated, Bool.false_eq_true, if_false,
            List.not_mem_nil, false_iff]
          rintro ⟨_, ⟨_, same, _⟩, otherwise, _⟩
          cases same
          cases generated.symm.trans otherwise
      | true =>
          simp only [Entry.tags, generated, if_true, List.mem_map,
            mem_constantSteps_iff]
          constructor
          · rintro ⟨step, ⟨located, constant, typed⟩, rfl⟩
            exact ⟨rfl, ⟨type, rfl, located⟩, generated, constant, typed⟩
          · rintro ⟨rfl, ⟨_, same, located⟩, _, constant, typed⟩
            cases same
            exact ⟨tag.step, ⟨located, constant, typed⟩, rfl⟩

theorem Entry.pairwise_tags
    (index : Nat) (entry : Entry) :
    (entry.tags settings typeName index).Pairwise Tag.Before := by
  rcases entry with ⟨owner, descriptor⟩
  cases descriptor with
  | atomic type => exact List.Pairwise.nil
  | enumeration type => exact List.Pairwise.nil
  | composite type =>
      have steps := (pairwise_stepsOf type.layout).filter fun step =>
        step.attr.isConstant && step.attr.typeName == typeName
      cases generated : settings.generates owner with
      | false => simp [Entry.tags, generated]
      | true =>
          simp only [Entry.tags, generated, if_true]
          exact List.pairwise_map.mpr
            (steps.imp fun before => Or.inr ⟨rfl, before⟩)

/--
The tags of all entries, one entry after the other, are the tags of the type.
-/
theorem areTags_flatMap (schema : Schema) (settings : Settings)
    (typeName : String) :
    AreTags schema settings typeName
      (schema.entries.zipIdx.flatMap fun entry =>
        entry.1.tags settings typeName entry.2) := by
  constructor
  · refine List.pairwise_flatMap.mpr
      ⟨fun entry _ => Entry.pairwise_tags entry.2 entry.1, ?_⟩
    refine (pairwise_zipIdx schema.entries).imp ?_
    intro entry other before tag among otherTag otherAmong
    have index := (Entry.mem_tags_iff.mp among).1
    have otherIndex := (Entry.mem_tags_iff.mp otherAmong).1
    exact Or.inl (by omega)
  · intro tag
    rw [List.mem_flatMap]
    constructor
    · rintro ⟨⟨entry, index⟩, indexed, among⟩
      rcases Entry.mem_tags_iff.mp among with
        ⟨rfl, ⟨type, rfl, located⟩, generated, constant, typed⟩
      exact ⟨⟨type, List.mem_zipIdx_iff_getElem?.mp indexed, located⟩,
        generated, constant, typed⟩
    · rintro ⟨⟨type, declared, located⟩, generated, constant, typed⟩
      refine ⟨((tag.owner, .composite type), tag.entry),
        List.mem_zipIdx_iff_getElem?.mpr declared, ?_⟩
      exact Entry.mem_tags_iff.mpr
        ⟨rfl, ⟨type, rfl, located⟩, generated, constant, typed⟩

/-- An entry has the tags that its composite has by its name. -/
theorem Entry.map_reference_tags
    {entry : Entry}
    (index : Nat)
    (among : entry ∈ schema.entries) :
    (entry.tags settings typeName index).map Tag.reference =
      (schema.tags settings typeName entry.1).map
        (ConstantReference.mk entry.1) := by
  rcases entry with ⟨owner, descriptor⟩
  have found := Schema.find?_eq_some_iff.mpr among
  cases descriptor with
  | atomic type => simp [Entry.tags, Schema.tags, Schema.layout?, found]
  | enumeration type => simp [Entry.tags, Schema.tags, Schema.layout?, found]
  | composite type =>
      cases generated : settings.generates owner with
      | false => simp [Entry.tags, Schema.tags, generated]
      | true =>
          simp only [Entry.tags, Schema.tags, Schema.layout?, found, generated,
            if_true, Option.getD_some, ← map_attr_constantSteps, List.map_map]
          rfl

/-- The constants that a model lists are those of the tags, in their order. -/
theorem map_reference_flatMap (schema : Schema) (settings : Settings)
    (typeName : String) :
    (schema.entries.zipIdx.flatMap fun entry =>
      entry.1.tags settings typeName entry.2).map Tag.reference =
      constantReferences schema settings typeName := by
  have entries : schema.entries.zipIdx.map Prod.fst = schema.entries :=
    List.zipIdx_map_fst ..
  rw [constantReferences_eq_flatMap, Schema.names, ← entries, List.map_map,
    List.flatMap_map, entries, List.map_flatMap]
  refine List.flatMap_congr fun entry indexed => ?_
  exact Entry.map_reference_tags entry.2 (List.mem_of_getElem?
    (List.mem_zipIdx_iff_getElem?.mp indexed))

end Tags

/-! ## Numbers -/

/--
A constant designates a number, or the number of the first value of a name.
-/
inductive Enumeration.Designates (enumeration : Enumeration)
    (attr : Attribute) : Nat → Prop where
  | number {number}
      (given : attr.value = some (.number number)) :
      Designates enumeration attr number
  | name {before value after}
      (given : attr.value = some (.name value.name))
      (split : enumeration.values = before ++ value :: after)
      (first : ∀ earlier ∈ before, earlier.name ≠ value.name) :
      Designates enumeration attr value.number

theorem Enumeration.constantNumber_eq_ok_iff
    {enumeration : Enumeration} {owner : String} {attr : Attribute}
    {number : Nat} :
    enumeration.constantNumber owner attr = .ok number ↔
      enumeration.Designates attr number := by
  constructor
  · intro succeeded
    rw [constantNumber] at succeeded
    split at succeeded
    · next given =>
        rcases Except.ok.inj succeeded with rfl
        exact .number given
    · next name given =>
        split at succeeded
        · next value found =>
            rcases Except.ok.inj succeeded with rfl
            rcases List.find?_eq_some_iff_append.mp found with
              ⟨named, before, after, split, first⟩
            rw [beq_iff_eq] at named
            subst named
            exact .name given split (by simpa using first)
        · cases succeeded
    · cases succeeded
  · intro designates
    cases designates with
    | number given => simp only [constantNumber, given]
    | @name before value after given split first =>
        have found : enumeration.named? value.name = some value := by
          refine List.find?_eq_some_iff_append.mpr
            ⟨beq_self_eq_true _, before, after, split, ?_⟩
          simpa using first
        simp only [constantNumber, given, found]

/-! ## Listed values -/

/-- A value of a model lists a declared value. -/
structure EnumerationValue.IsListedAs (value : EnumerationValue)
    (listed : EnumValueModel) : Prop where
  name : listed.name = value.name
  constantName : listed.constantName = value.name
  number : listed.number = value.number
  comment : listed.comment = Text.trim value.comments
  source : listed.source = .declared

/-- A value of a model lists a tag. -/
structure Tag.IsListedAs (language : Language) (enumeration : Enumeration)
    (tag : Tag) (listed : EnumValueModel) : Prop where
  name : listed.name = tag.owner
  constantName : listed.constantName = language.constantName tag.owner
  number : enumeration.Designates tag.step.attr listed.number
  comment : listed.comment = phrase tag.owner
  source : listed.source = .reverseReference

/--
The values of a model are the declared ones and then those of the tags,
each in their order.
-/
def EnumModel.Lists (language : Language) (enumeration : Enumeration)
    (tags : List Tag) (model : EnumModel) : Prop :=
  ∃ declared tagged, model.values = declared ++ tagged ∧
    List.Forall₂ EnumerationValue.IsListedAs enumeration.values declared ∧
    List.Forall₂ (Tag.IsListedAs language enumeration) tags tagged

theorem Tag.isListedAs_of_model_eq_ok
    {language : Language} {enumeration : Enumeration} {tag : Tag}
    {listed : EnumValueModel}
    (models : tag.reference.model language enumeration = .ok listed) :
    tag.IsListedAs language enumeration listed := by
  rcases Outcome.bind_eq_ok_iff.mp models with ⟨number, succeeded, result⟩
  rcases Except.ok.inj result with rfl
  exact ⟨rfl, rfl, Enumeration.constantNumber_eq_ok_iff.mp succeeded, rfl, rfl⟩

theorem Tag.exists_model_eq_ok_iff
    {language : Language} {enumeration : Enumeration} {tag : Tag} :
    (∃ listed, tag.reference.model language enumeration = .ok listed) ↔
      ∃ number, enumeration.Designates tag.step.attr number := by
  constructor
  · rintro ⟨listed, models⟩
    exact ⟨listed.number, (isListedAs_of_model_eq_ok models).number⟩
  · rintro ⟨number, designates⟩
    have succeeded :
        enumeration.constantNumber tag.owner tag.step.attr = .ok number :=
      Enumeration.constantNumber_eq_ok_iff.mpr designates
    exact ⟨_, Outcome.bind_eq_ok_iff.mpr ⟨number, succeeded, rfl⟩⟩

namespace EnumModel

variable {schema : Schema} {settings : Settings} {language : Language}
  {name : String} {enumeration : Enumeration} {tags : List Tag}

/-- The constants that a model lists are those of the tags of its type. -/
theorem constantReferences_eq_map
    (areTags : AreTags schema settings name tags) :
    constantReferences schema settings name = tags.map Tag.reference := by
  rw [areTags.unique (areTags_flatMap schema settings name),
    map_reference_flatMap]

/-- A model is built, or fails to be, along with the values of its tags. -/
theorem map_values_build
    (found : schema.enumeration? name = some enumeration)
    (areTags : AreTags schema settings name tags) :
    (EnumModel.build schema settings language name).map EnumModel.values =
      (tags.mapM
        (ConstantReference.model language enumeration ∘ Tag.reference)).map
        fun tagged =>
        enumeration.values.map EnumerationValue.model ++ tagged := by
  simp only [build, found, constantReferences_eq_map areTags, List.mapM_map]
  cases tags.mapM
      (ConstantReference.model language enumeration ∘ Tag.reference) with
  | error fault => rfl
  | ok tagged => rfl

theorem exists_build_eq_ok_iff
    (found : schema.enumeration? name = some enumeration)
    (areTags : AreTags schema settings name tags) :
    (∃ model, EnumModel.build schema settings language name = .ok model) ↔
      ∀ tag ∈ tags, ∃ number, enumeration.Designates tag.step.attr number := by
  rw [← @Outcome.exists_map_eq_ok_iff _ _ _ EnumModel.values,
    map_values_build found areTags, Outcome.exists_map_eq_ok_iff,
    Outcome.exists_mapM_eq_ok_iff]
  simp only [Function.comp_apply, Tag.exists_model_eq_ok_iff]

theorem build_eq_error_iff
    {fault : CompileFault}
    (found : schema.enumeration? name = some enumeration)
    (areTags : AreTags schema settings name tags) :
    EnumModel.build schema settings language name = .error fault ↔
      ∃ before tag after, tags = before ++ tag :: after ∧
        (∀ earlier ∈ before, ∃ number,
          enumeration.Designates earlier.step.attr number) ∧
        enumeration.LacksNumber tag.owner tag.step.attr fault := by
  rw [← @Outcome.map_eq_error_iff _ _ _ EnumModel.values,
    map_values_build found areTags, Outcome.map_eq_error_iff,
    Outcome.mapM_eq_error_iff]
  simp only [Function.comp_apply, ConstantReference.model_eq_error_iff,
    Tag.exists_model_eq_ok_iff]
  rfl

theorem lists_of_build_eq_ok
    {model : EnumModel}
    (found : schema.enumeration? name = some enumeration)
    (areTags : AreTags schema settings name tags)
    (built : EnumModel.build schema settings language name = .ok model) :
    model.Lists language enumeration tags := by
  have values := @map_values_build _ _ language _ _ _ found areTags
  rw [built] at values
  rcases Outcome.map_eq_ok_iff.mp values.symm with ⟨tagged, modelled, same⟩
  refine ⟨_, tagged, same.symm, ?_, ?_⟩
  · rw [List.forall₂_map_right_iff, List.forall₂_same]
    intro value _
    exact ⟨rfl, rfl, rfl, rfl, rfl⟩
  · exact (Outcome.mapM_eq_ok_iff.mp modelled).imp fun _ _ =>
      Tag.isListedAs_of_model_eq_ok

/--
There is one list of all tags of an enumeration, in order.  The model of the
enumeration can be built exactly if each of them designates a number, and then
has the declared values and one value for each tag.  Otherwise the first tag
without a number is reported.
-/
theorem build_lists_tags
    (schema : Schema) (settings : Settings) (language : Language)
    (found : schema.enumeration? name = some enumeration) :
    ∃ tags, (∀ others, AreTags schema settings name others ↔ others = tags) ∧
      ((∃ model, EnumModel.build schema settings language name = .ok model) ↔
        ∀ tag ∈ tags, ∃ number, enumeration.Designates tag.step.attr number) ∧
      (∀ model, EnumModel.build schema settings language name = .ok model →
        model.Lists language enumeration tags) ∧
      ∀ fault, EnumModel.build schema settings language name = .error fault ↔
        ∃ before tag after, tags = before ++ tag :: after ∧
          (∀ earlier ∈ before, ∃ number,
            enumeration.Designates earlier.step.attr number) ∧
          enumeration.LacksNumber tag.owner tag.step.attr fault := by
  have areTags := areTags_flatMap schema settings name
  refine ⟨_, ?_, exists_build_eq_ok_iff found areTags, ?_, ?_⟩
  · intro others
    constructor
    · exact fun again => again.unique areTags
    · rintro rfl
      exact areTags
  · intro model built
    exact lists_of_build_eq_ok found areTags built
  · intro fault
    exact build_eq_error_iff found areTags

end EnumModel

/-- A constant of an enumeration of kinds. -/
def Attribute.tagging (name : String) (value : Option Selector) : Attribute :=
  { Attribute.named name "Kind" with
    disposition := some .constant, value := value }

/--
An enumeration that has two values of one name, and three composites
with tags of it.
-/
def Schema.listing : Schema where
  entries := [
    ("Hidden", .composite { layout := [.tagging "HIDDEN_KIND" none] }),
    ("Kind", .enumeration { size := 1, values := [
      { name := "A", number := 1 }, { name := "A", number := 2 },
        { name := "B", number := 3 }] }),
    ("First", .composite { layout := [
      .tagging "FIRST_KIND" (some (.number 7)), .named "kind" "Kind",
      .tagging "OTHER_KIND" (some (.name "A"))] }),
    ("Second",
      .composite { layout := [.tagging "SECOND_KIND" (some (.name "B"))] })]
  distinct := by decide

theorem enumeration?_listing :
    Schema.listing.enumeration? "Kind" = some { size := 1, values := [
      { name := "A", number := 1 }, { name := "A", number := 2 },
      { name := "B", number := 3 }] } := by cbv

/--
The tags are listed in order, unless the one without a value is among them.
-/
theorem build_lists_tags_listing :
    (∃ enumeration tags model,
      Schema.listing.enumeration? "Kind" = some enumeration ∧
      AreTags .listing (.dissolving "Hidden") "Kind" tags ∧
      EnumModel.build .listing (.dissolving "Hidden") .java "Kind" = .ok model ∧
      model.Lists .java enumeration tags ∧
      model.values.map (fun value => (value.name, value.number)) =
        [("A", 1), ("A", 2), ("B", 3), ("First", 7), ("First", 1),
          ("Second", 3)]) ∧
      ∃ enumeration tags tag,
        Schema.listing.enumeration? "Kind" = some enumeration ∧
        AreTags .listing .standard "Kind" tags ∧ tag ∈ tags ∧
        EnumModel.build .listing .standard .java "Kind" =
          .error (.schema (.constantWithoutValue "Hidden" "HIDDEN_KIND")) ∧
        enumeration.LacksNumber tag.owner tag.step.attr
          (.schema (.constantWithoutValue "Hidden" "HIDDEN_KIND")) := by
  constructor
  · have computed :
        (EnumModel.build .listing (.dissolving "Hidden") .java "Kind").map
          (fun model => model.values.map fun value =>
            (value.name, value.number)) =
          .ok [("A", 1), ("A", 2), ("B", 3), ("First", 7), ("First", 1),
            ("Second", 3)] := by cbv
    rcases Outcome.map_eq_ok_iff.mp computed with ⟨model, built, values⟩
    rcases EnumModel.build_lists_tags .listing (.dissolving "Hidden") .java
      enumeration?_listing with ⟨tags, determined, _, lists, _⟩
    exact ⟨_, tags, model, enumeration?_listing, (determined tags).mpr rfl,
      built, lists model built, values⟩
  · have failed :
        EnumModel.build .listing .standard .java "Kind" =
          .error (.schema (.constantWithoutValue "Hidden" "HIDDEN_KIND")) := by
      cbv
    rcases EnumModel.build_lists_tags .listing .standard .java
        enumeration?_listing with
      ⟨tags, determined, _, _, reports⟩
    rcases (reports _).mp failed with ⟨before, tag, after, rfl, _, lacks⟩
    exact ⟨_, _, tag, enumeration?_listing, (determined _).mpr rfl,
      List.mem_append_right _ List.mem_cons_self, failed, lacks⟩

end WireLayout
