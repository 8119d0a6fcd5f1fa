import WireLayout.Model.ClassModel
import WireLayout.Proofs.Flattening
import WireLayout.Proofs.Linking

/-!
# When classes are built

In a valid schema the class of a composite is built unless one of the
attributes that appear in its flattening is refused: because its disposition is
unknown, because the field that holds its size is not one that its siblings
contribute, or because of its condition.  The fault of a class that is not
built says which attribute is refused, and why.
-/

namespace WireLayout

/-! ## Conditions in flattenings -/

namespace Appearance

/--
The discriminant of a name: an attribute of the composite itself, otherwise
any of the name.
-/
def discriminantAmong (entries : List Appearance) (name : String) :
    Option Appearance :=
  (entries.find? fun entry =>
    entry.via.isEmpty && entry.step.attr.displayName == name).or
    (entries.find? fun entry => entry.step.attr.displayName == name)

theorem discriminantAmong_eq_none_iff
    {entries : List Appearance} {name : String} :
    discriminantAmong entries name = none ↔
      ∀ entry ∈ entries, entry.step.attr.displayName ≠ name := by
  rw [discriminantAmong, Option.or_eq_none_iff, List.find?_eq_none,
    List.find?_eq_none]
  constructor
  · rintro ⟨_, unnamed⟩ entry among
    simpa using unnamed entry among
  · intro unnamed
    constructor
    · intro entry among
      simp [unnamed entry among]
    · intro entry among
      simp [unnamed entry among]

/--
Why the condition of an attribute cannot be met in a flattening.

The selector of a condition is read back from its text, as linking does it,
and is not looked up as it is declared.  The two differ only for a name that
writes a number.
-/
inductive Unlinkable (schema : Schema) (root : String)
    (entries : List Appearance) (entry : Appearance) : CompileFault → Prop where
  | undiscriminated {name}
      (conditioned : entry.step.attr.condition = some name)
      (missing : ∀ other ∈ entries, other.step.attr.displayName ≠ name) :
      Unlinkable schema root entries entry
        (.dangling ⟨root, entry.step.attr.displayName, name, .condition⟩)
  | notEnumeration {name holder}
      (conditioned : entry.step.attr.condition = some name)
      (found : discriminantAmong entries name = some holder)
      (compared : entry.step.attr.operation = .equals)
      (missing : schema.enumeration? holder.step.attr.typeName = none) :
      Unlinkable schema root entries entry
        (.notEnumeration root entry.step.attr.displayName name
          holder.step.attr.typeName)
  | unselected {name holder enumeration selector}
      (conditioned : entry.step.attr.condition = some name)
      (found : discriminantAmong entries name = some holder)
      (typed : schema.enumeration? holder.step.attr.typeName = some enumeration)
      (given : entry.step.attr.conditionValue = some selector)
      -- Not `find? selector`, which a name that writes a number tells apart.
      (unselected : enumeration.find? (.ofText selector.text) = none) :
      Unlinkable schema root entries entry
        (.dangling ⟨root, entry.step.attr.displayName, selector.text,
          .conditionValue⟩)

/-- Members and the attributes that they show have the same discriminants. -/
theorem rel_discriminantAmong
    {schema : Schema} {settings : Settings} {entries : List Appearance}
    {members : List Member}
    (shown : List.Forall₂ (IsShownBy schema settings) entries members)
    (name : String) :
    Option.Rel (IsShownBy schema settings) (discriminantAmong entries name)
      (Member.discriminantAmong members name) := by
  apply rel_or_of_rel
  · apply rel_find?_of_forall₂ _ _ shown
    intro entry member shows
    have sameOwn : entry.via.isEmpty = (member.visit == 0) := by
      rw [Bool.eq_iff_iff, List.isEmpty_iff, beq_iff_eq, shows.isOwn]
    rw [shows.name, sameOwn]
  · apply rel_find?_of_forall₂ _ _ shown
    intro entry member shows
    rw [shows.name]

/--
A member cannot be linked exactly where the attribute that it shows
cannot, and why.
-/
theorem IsShownBy.unlinkable_iff
    {schema : Schema} {settings : Settings} {root : String}
    {entries : List Appearance} {members : List Member} {entry : Appearance}
    {member : Member} {fault : CompileFault}
    (shows : entry.IsShownBy schema settings member)
    (shown : List.Forall₂ (IsShownBy schema settings) entries members) :
    member.Unlinkable schema root members fault ↔
      entry.Unlinkable schema root entries fault := by
  constructor
  · intro unlinkable
    cases unlinkable with
    | @undiscriminated condition conditioned missing =>
        rw [shows.condition, Attribute.memberCondition,
          Option.map_eq_some_iff] at conditioned
        rcases conditioned with ⟨name, conditioned, rfl⟩
        have absent :=
          (eq_none_iff_of_rel (rel_discriminantAmong shown name)).mpr missing
        rw [shows.name]
        exact .undiscriminated conditioned
          (discriminantAmong_eq_none_iff.mp absent)
    | @fails condition holder fault conditioned found fails =>
        rw [shows.condition, Attribute.memberCondition,
          Option.map_eq_some_iff] at conditioned
        rcases conditioned with ⟨name, conditioned, rfl⟩
        have pair := rel_discriminantAmong shown name
        rw [found] at pair
        rcases exists_left_of_rel pair with
          ⟨entryHolder, entryFound, holderShows⟩
        rw [shows.name, holderShows.typeName] at fails
        cases fails with
        | notEnumeration missing compared =>
            exact .notEnumeration conditioned entryFound compared missing
        | unselected typed given unselected =>
            rcases Option.map_eq_some_iff.mp given with
              ⟨selector, declared, rfl⟩
            exact .unselected conditioned entryFound typed declared unselected
  · intro unlinkable
    have condition (name : String)
        (conditioned : entry.step.attr.condition = some name) :
        member.condition =
          some ⟨name, entry.step.attr.operation,
            entry.step.attr.conditionValue.map Selector.text⟩ := by
      rw [shows.condition, Attribute.memberCondition, conditioned,
        Option.map_some]
    cases unlinkable with
    | @undiscriminated name conditioned missing =>
        have absent := discriminantAmong_eq_none_iff.mpr missing
        have memberAbsent :=
          (eq_none_iff_of_rel (rel_discriminantAmong shown name)).mp absent
        rw [← shows.name]
        exact .undiscriminated (condition name conditioned) memberAbsent
    | @notEnumeration name holder conditioned found compared missing =>
        have pair := rel_discriminantAmong shown name
        rw [found] at pair
        rcases exists_right_of_rel pair with
          ⟨memberHolder, memberFound, holderShows⟩
        rw [← shows.name, ← holderShows.typeName]
        refine .fails (condition name conditioned) memberFound
          (.notEnumeration ?_ compared)
        rw [holderShows.typeName, missing]
    | @unselected name holder enumeration selector conditioned found typed given
        unselected =>
        have pair := rel_discriminantAmong shown name
        rw [found] at pair
        rcases exists_right_of_rel pair with
          ⟨memberHolder, memberFound, holderShows⟩
        rw [← shows.name]
        refine .fails (condition name conditioned) memberFound
          (.unselected ?_ ?_ unselected)
        · rw [holderShows.typeName, typed]
        · rw [given, Option.map_some]

end Appearance

/-! ## Flattenings of valid schemas -/

section WellFormed

variable {schema : Schema} {settings : Settings} {language : Language}
  {root : String} {entries : List Appearance}

/-- In a valid schema nothing stops the walk of a composite. -/
theorem exists_walks
    {layout : List Attribute}
    (wellFormed : schema.WellFormed settings.byteType)
    (found : schema.layout? root = some layout) :
    ∃ occurrences last,
      Walks schema settings (.root root layout) 0 (stepsOf layout) occurrences
        last := by
  have free :
      (traverse schema settings (.root root layout) 0 (stepsOf layout)).fault =
        none :=
    (Frame.Grounded.root found).fault_traverse wellFormed (List.Subset.refl _)
  exact ⟨_, _, walks_of_fault_eq_none free⟩

theorem exists_isFlattening
    {layout : List Attribute}
    (wellFormed : schema.WellFormed settings.byteType)
    (found : schema.layout? root = some layout) :
    ∃ entries, IsFlattening schema settings root entries := by
  rcases exists_walks wellFormed found with ⟨occurrences, last, walk⟩
  exact ⟨_, walk.flattens.isFlattening found⟩

/-- Why an attribute that appears in a flattening is refused. -/
inductive Appearance.Refused (schema : Schema) (settings : Settings)
    (root : String) (entries : List Appearance)
    (entry : Appearance) : CompileFault → Prop where
  | unclassified
      (unknown : entry.step.attr.disposition = some .unknown) :
      Refused schema settings root entries entry
        (.unclassified entry.owner entry.step.attr.displayName)
  | unsized {layout reference}
      (found : schema.layout? entry.owner = some layout)
      (referred : entry.step.attr.sizeReference = some reference)
      (absent : ∀ sibling ∈ layout, sibling.displayName = reference →
        sibling.contributes settings = false) :
      Refused schema settings root entries entry
        (.dangling ⟨root, entry.step.attr.displayName, reference, .size⟩)
  | unlinkable {fault}
      (unlinkable : entry.Unlinkable schema root entries fault) :
      Refused schema settings root entries entry fault

/--
The walk of a composite with a flattening meets what appears in the flattening.
-/
theorem IsFlattening.exists_walks
    (wellFormed : schema.WellFormed settings.byteType)
    (flattening : IsFlattening schema settings root entries) :
    ∃ layout occurrences last, schema.layout? root = some layout ∧
      Walks schema settings (.root root layout) 0 (stepsOf layout)
        occurrences last ∧
      entries = occurrences.map Occurrence.appearance := by
  rcases flattening.determined with ⟨layout, found, _⟩
  rcases WireLayout.exists_walks wellFormed found with ⟨occurrences, last, walk⟩
  exact ⟨layout, occurrences, last, found, walk,
    flattening.unique (walk.flattens.isFlattening found)⟩

theorem ClassModel.exists_of_build_eq_ok
    {schema : Schema} {settings : Settings} {language : Language}
    {name : String} {model : ClassModel}
    (built : ClassModel.build schema settings language name = .ok model) :
    ∃ composition, compose schema settings language name = .ok composition ∧
      (linkDiscriminants schema name composition.members).toExcept =
        .ok model.members ∧
      model.constructorVariants =
        WireLayout.constructorVariants schema settings model.members := by
  rw [build] at built
  split at built
  · rcases Outcome.bind_eq_ok_iff.mp built with ⟨composition, composed, built⟩
    rcases Outcome.bind_eq_ok_iff.mp built with ⟨members, links, result⟩
    rcases Except.ok.inj result with rfl
    exact ⟨composition, composed, links, rfl⟩
  · cases built

/--
A class has the name of its composite, and the super-class of its composition.
-/
theorem ClassModel.heading_of_build_eq_ok
    {schema : Schema} {settings : Settings} {language : Language}
    {name : String} {model : ClassModel}
    (built : ClassModel.build schema settings language name = .ok model) :
    model.name = name ∧ model.generatedName = language.className schema name ∧
      ∃ composition, compose schema settings language name = .ok composition ∧
        model.superClass = composition.superClass.map fun typeName =>
          ⟨typeName, language.className schema typeName⟩ := by
  rw [build] at built
  split at built
  · rcases Outcome.bind_eq_ok_iff.mp built with ⟨composition, composed, built⟩
    rcases Outcome.bind_eq_ok_iff.mp built with ⟨members, links, result⟩
    rcases Except.ok.inj result with rfl
    exact ⟨rfl, rfl, composition, composed, rfl⟩
  · cases built

/-- An attribute is refused where flattening fails. -/
theorem Walks.exists_refused_of_compose_eq_error
    {layout : List Attribute} {occurrences : List Occurrence} {last : Nat}
    {fault : CompileFault}
    (walk :
      Walks schema settings (.root root layout) 0 (stepsOf layout)
        occurrences last)
    (found : schema.layout? root = some layout)
    (wellFormed : schema.WellFormed settings.byteType)
    (failed : compose schema settings language root = .error fault) :
    ∃ occurrence ∈ occurrences,
      occurrence.appearance.Refused schema settings root entries fault := by
  have owned (occurrence : Occurrence) (among : occurrence ∈ occurrences) :=
    walk.layout?_owner found among
  have declared (occurrence : Occurrence) (among : occurrence ∈ occurrences) :=
    attr_mem_of_mem_stepsOf
      (walk.mem_stepsOf_and_contributes (Nat.le_refl _) among).1
  rcases compose_eq_error found walk failed with
    failed | ⟨resolved, yielded, failed⟩
  · rcases exists_of_resolveOccurrences_eq_error failed with
      ⟨occurrence, among, _, failed⟩
    refine ⟨occurrence, among, ?_⟩
    rcases Occurrence.resolve_eq_error failed with
      ⟨unknown, rfl⟩ | unchecked | unsized
    · exact .unclassified unknown
    · have checked :
          occurrence.step.attr.checkSizeReference occurrence.owner
            occurrence.layout = .ok () :=
        Attribute.checkSizeReference_eq_ok_iff.mpr
          (wellFormed.sizesNamed _ _ (owned _ among) _ (declared _ among))
      cases checked.symm.trans unchecked
    · have typed :=
        wellFormed.typesDeclared _ _ (owned _ among) _ (declared _ among)
      have sized : ∃ size,
          occurrence.step.attr.resolvedSize schema settings occurrence.owner =
          .ok size :=
        Attribute.exists_resolvedSize_eq_ok_iff.mpr (Or.inr typed)
      rcases sized with ⟨size, sized⟩
      cases sized.symm.trans unsized
  · have yields := forall₂_yields_of_resolveOccurrences_eq_ok yielded
    rcases exists_of_linkSizes_eq_error failed with
      ⟨member, inMembers, lacks, reference, sized, rfl⟩
    rcases exists_left_of_forall₂ yields inMembers with
      ⟨occurrence, among, pair⟩
    have referred := pair.size_eq_field_iff.mp sized
    refine ⟨occurrence, among, ?_⟩
    rw [pair.name_eq]
    apply Appearance.Refused.unsized (owned _ among) referred
    intro sibling inLayout named
    rw [Bool.eq_false_iff]
    intro contributes
    apply lacks
    rw [pair.findsSize_iff walk (Nat.le_refl _) yields among]
    intro other same
    rcases Option.some.inj (referred.symm.trans same) with rfl
    rcases exists_mem_stepsOf inLayout with ⟨step, inSteps, rfl⟩
    exact ⟨step, inSteps, contributes, named⟩

/-- An attribute is refused where no class is built. -/
theorem ClassModel.exists_refused_of_build_eq_error
    {fault : CompileFault}
    (wellFormed : schema.WellFormed settings.byteType)
    (flattening : IsFlattening schema settings root entries)
    (failed : ClassModel.build schema settings language root = .error fault) :
    ∃ entry ∈ entries, entry.Refused schema settings root entries fault := by
  rcases flattening.exists_walks wellFormed with
    ⟨layout, occurrences, last, found, walk, rfl⟩
  rcases Schema.layout?_eq_some_iff.mp found with ⟨type, located, rfl⟩
  simp only [build, located] at failed
  rcases Outcome.bind_eq_error_iff.mp failed with
    failed | ⟨composition, composed, failed⟩
  · rcases walk.exists_refused_of_compose_eq_error found wellFormed failed with
      ⟨occurrence, among, refused⟩
    exact ⟨_, List.mem_map_of_mem among, refused⟩
  · rcases Outcome.bind_eq_error_iff.mp failed with failed | ⟨_, _, impossible⟩
    · have shown := flattening.forall₂_isShownBy composed
      rcases exists_of_linkDiscriminants_eq_error failed with
        ⟨member, inMembers, unlinkable⟩
      rcases exists_left_of_forall₂ shown inMembers with ⟨entry, among, shows⟩
      exact ⟨entry, among,
        .unlinkable ((shows.unlinkable_iff shown).mp unlinkable)⟩
    · cases impossible

/-- No attribute is refused where a class is built. -/
theorem ClassModel.not_refused_of_build_eq_ok
    {model : ClassModel} {entry : Appearance} {fault : CompileFault}
    (wellFormed : schema.WellFormed settings.byteType)
    (flattening : IsFlattening schema settings root entries)
    (built : ClassModel.build schema settings language root = .ok model)
    (among : entry ∈ entries) :
    ¬ entry.Refused schema settings root entries fault := by
  rcases flattening.exists_walks wellFormed with
    ⟨layout, occurrences, last, found, walk, rfl⟩
  rcases exists_of_build_eq_ok built with ⟨composition, composed, links, _⟩
  have holds :=
    (exists_compose_eq_ok_iff_forall found walk).mp ⟨composition, composed⟩
  intro refused
  rcases List.mem_map.mp among with ⟨occurrence, inOccurrences, rfl⟩
  cases refused with
  | unclassified unknown =>
      exact (holds occurrence inOccurrences).1.known unknown
  | @unsized layout reference own referred absent =>
      rcases (holds occurrence inOccurrences).2 reference referred with
        ⟨step, inSteps, contributes, named⟩
      have same := own.symm.trans (walk.layout?_owner found inOccurrences)
      rcases Option.some.inj same with rfl
      have silent := absent step.attr (attr_mem_of_mem_stepsOf inSteps) named
      cases silent.symm.trans contributes
  | unlinkable unlinkable =>
      have shown := flattening.forall₂_isShownBy composed
      rcases exists_right_of_forall₂ shown among with ⟨member, inMembers, shows⟩
      exact not_unlinkable_of_linkDiscriminants_eq_ok links inMembers
        ((shows.unlinkable_iff shown).mpr unlinkable)

/--
An attribute without a size in a field is accepted if its condition
selects a value.
-/
theorem Appearance.not_refused
    {entry : Appearance} {fault : CompileFault}
    (known : entry.step.attr.disposition ≠ some .unknown)
    (unsized : entry.step.attr.sizeReference = none)
    (selects : ∀ name, entry.step.attr.condition = some name →
      ∃ holder enumeration,
      discriminantAmong entries name = some holder ∧
        schema.enumeration? holder.step.attr.typeName = some enumeration ∧
        ∀ selector, entry.step.attr.conditionValue = some selector →
          ∃ value, enumeration.find? (.ofText selector.text) = some value) :
    ¬ entry.Refused schema settings root entries fault := by
  intro refused
  cases refused with
  | unclassified unknown => exact known unknown
  | unsized found referred absent => cases unsized.symm.trans referred
  | unlinkable unlinkable =>
      cases unlinkable with
      | @undiscriminated name conditioned missing =>
          rcases selects name conditioned with ⟨holder, _, found, _⟩
          cases (discriminantAmong_eq_none_iff.mpr missing).symm.trans found
      | @notEnumeration name holder conditioned found compared missing =>
          rcases selects name conditioned with
            ⟨other, enumeration, otherFound, typed, _⟩
          rcases Option.some.inj (found.symm.trans otherFound) with rfl
          cases missing.symm.trans typed
      | @unselected name holder enumeration selector conditioned found typed
          given unselected =>
          rcases selects name conditioned with
            ⟨other, same, otherFound, otherTyped, selected⟩
          rcases Option.some.inj (found.symm.trans otherFound) with rfl
          rcases Option.some.inj (typed.symm.trans otherTyped) with rfl
          rcases selected selector given with ⟨value, selected⟩
          cases unselected.symm.trans selected

theorem ClassModel.exists_build_eq_ok
    (wellFormed : schema.WellFormed settings.byteType)
    (flattening : IsFlattening schema settings root entries)
    (accepted : ∀ entry ∈ entries, ∀ fault,
      ¬ entry.Refused schema settings root entries fault) :
    ∃ model, ClassModel.build schema settings language root = .ok model := by
  cases outcome : ClassModel.build schema settings language root with
  | ok model => exact ⟨model, rfl⟩
  | error fault =>
      rcases exists_refused_of_build_eq_error wellFormed flattening outcome with
        ⟨entry, among, refused⟩
      exact absurd refused (accepted entry among fault)

end WellFormed

end WireLayout
