import WireLayout.Proofs.Outcome
import WireLayout.Proofs.Pairing
import WireLayout.Schema.Decode
import WireLayout.Schema.Lemmas

/-!
# Schemas as lists and as mappings

A schema document names its descriptors by a field of each, in a list, or
by the keys of a mapping.  A list and a mapping of the same descriptors
under distinct names describe the same schema, whose entries are the
descriptors in their order.  A list in which a name occurs twice is refused
for the first descriptor whose name has occurred before, so no descriptor
replaces another one.

The forms part only over a tag at a category.  A mapping passes over it, while
a list, which has to set the fields of a descriptor aside until it has met the
name, refuses it.
-/

namespace WireLayout

open WireLayout.Document

/-! ## Declaring entries one after the other -/

namespace Schema

variable {schema result : Schema} {entries : List Entry} {fault : LoadFault}

/-- Entries are declared exactly if they can be listed after those there are. -/
theorem insertDistinct_eq_ok_iff :
    schema.insertDistinct entries = .ok result ↔
      result.entries = schema.entries ++ entries := by
  induction entries generalizing schema with
  | nil =>
      rw [insertDistinct, List.append_nil]
      constructor
      · intro same
        rw [Except.ok.inj same]
      · intro same
        rw [Schema.ext same]
  | cons entry rest ih =>
      rcases entry with ⟨name, descriptor⟩
      rw [insertDistinct]
      split
      · next declared =>
          apply iff_of_false
          · intro impossible
            cases impossible
          · intro same
            have distinct := result.distinct
            rw [same, List.map_append, List.nodup_append] at distinct
            exact distinct.2.2 name (declares_iff.mp declared) name
              List.mem_cons_self rfl
      · next fresh =>
          rw [declares_iff] at fresh
          rw [ih, entries_insert_of_not_mem descriptor fresh, List.append_assoc,
            List.singleton_append]

/-- A fault is that of the first entry whose name is there already. -/
theorem insertDistinct_eq_error_iff :
    schema.insertDistinct entries = .error fault ↔
      ∃ before entry after, entries = before ++ entry :: after ∧
        (schema.names ++ before.map Prod.fst).Nodup ∧
        entry.1 ∈ schema.names ++ before.map Prod.fst ∧
        fault = .duplicate "type" entry.1 := by
  induction entries generalizing schema with
  | nil => simp [insertDistinct]
  | cons entry rest ih =>
      rcases entry with ⟨name, descriptor⟩
      rw [insertDistinct, Outcome.exists_split_cons_iff]
      split
      · next declared =>
          rw [declares_iff] at declared
          constructor
          · intro failed
            cases failed
            left
            simp [declared, schema.nodup_names]
          · rintro (⟨_, _, rfl⟩ | ⟨before, other, after, _, distinct, _⟩)
            · rfl
            · rw [List.nodup_append] at distinct
              exact absurd rfl
                (distinct.2.2 name declared name List.mem_cons_self)
      · next fresh =>
          rw [declares_iff] at fresh
          have extended :
              (schema.insert name descriptor).names =
                schema.names ++ [name] := by
            rw [names_insert, if_neg fresh]
          rw [ih]
          simp only [extended, List.append_assoc, List.singleton_append,
            List.map_cons]
          constructor
          · exact Or.inr
          · rintro (⟨_, repeated, _⟩ | later)
            · rw [List.map_nil, List.append_nil] at repeated
              exact absurd repeated fresh
            · exact later

end Schema

/-! ## Descriptors in documents -/

/-- The entries of a mapping whose keys are texts. -/
def Document.keyed (fields : List (String × Value)) : List (Value × Value) :=
  fields.map fun field => (.text field.1, field.2)

@[simp]
theorem Document.keyed_cons (field : String × Value)
    (fields : List (String × Value)) :
    keyed (field :: fields) = (.text field.1, field.2) :: keyed fields := rfl

@[simp]
theorem Document.keyed_append (fields others : List (String × Value)) :
    keyed (fields ++ others) = keyed fields ++ keyed others :=
  List.map_append

/--
A descriptor in a document: its name, and its fields, those before the place at
which a list writes the name and those after it.
-/
structure WrittenDescriptor where
  name : String
  before : List (String × Value)
  after : List (String × Value)

namespace WrittenDescriptor

/-- The fields that a descriptor has without its name. -/
def fields (written : WrittenDescriptor) : List (String × Value) :=
  written.before ++ written.after

/-- A descriptor as an item of a list, with the name among its fields. -/
def item (written : WrittenDescriptor) : Value :=
  .mapping
    (keyed (written.before ++ ("name", .text written.name) :: written.after))

/-- A descriptor as an entry of a mapping, with the name for its key. -/
def entry (written : WrittenDescriptor) : Value × Value :=
  (.text written.name, .mapping (keyed written.fields))

/-- A descriptor is written as it should be, and declares an entry. -/
structure Declares (written : WrittenDescriptor) (declared : Entry) : Prop where
  named : declared.1 = written.name
  unnamed : ∀ field ∈ written.fields, field.1 ≠ "name"
  decodes : Descriptor.decode (.mapping (keyed written.fields)) = .ok declared.2

/-- The category of a descriptor stands under a tag. -/
def TagsCategory (written : WrittenDescriptor) : Prop :=
  ∃ tag content, ("type", Value.tagged tag content) ∈ written.fields

end WrittenDescriptor

namespace Descriptor

/-! ### Categories -/

theorem decodeCategory_eq_ok_iff
    {value : Value} {category : Category} :
    decodeCategory value = .ok category ↔
      ∃ keyword, value = .text keyword ∧
        categoryNamed keyword = .ok category := by
  cases value with
  | text keyword => simp [decodeCategory]
  | _ => simp [decodeCategory]

/--
A field is the category, which nothing has been so far, or it is kept and
must hold no tag.
-/
theorem splitCategory_text_cons_eq_ok_iff
    {decoder : Decoder Category} {category : Option Category}
    {kept rest : List (Value × Value)} {key : String} {value : Value}
    {result : Option Category × List (Value × Value)} :
    splitCategory decoder category kept ((.text key, value) :: rest) =
        .ok result ↔
      (key = "type" ∧ category = none ∧ ∃ chosen, decoder value = .ok chosen ∧
        splitCategory decoder (some chosen) kept rest = .ok result) ∨
      (key ≠ "type" ∧ value.hasTag = false ∧
        splitCategory decoder category ((.text key, value) :: kept) rest =
          .ok result) := by
  by_cases isType : key = "type"
  · subst isType
    rw [splitCategory]
    cases category with
    | none =>
        simp only [ne_eq, not_true_eq_false, false_and, or_false, true_and]
        exact Outcome.bind_eq_ok_iff
    | some chosen =>
        apply iff_of_false
        · intro taken
          cases taken
        · simp
  · rw [splitCategory]
    · cases hasTag : value.hasTag with
      | true => simp [isType, Value.hasTag]
      | false => simp [isType, Value.hasTag]
    · intro same
      exact isType (Value.text.inj same)

/-- A mapping of a descriptor holds no tag but at its category. -/
theorem eq_type_of_splitCategory_eq_ok
    {category : Option Category} {kept : List (Value × Value)}
    {fields : List (String × Value)}
    {result : Option Category × List (Value × Value)} {field : String × Value}
    (taken :
      splitCategory (fun value => decodeCategory value.untagged) category kept
        (keyed fields) = .ok result)
    (among : field ∈ fields)
    (hasTag : field.2.hasTag = true) :
    ∃ tag content, field = ("type", .tagged tag content) := by
  induction fields generalizing category kept with
  | nil => cases among
  | cons head rest ih =>
      rcases head with ⟨key, value⟩
      rw [keyed_cons, splitCategory_text_cons_eq_ok_iff] at taken
      rcases taken with
        ⟨isType, _, chosen, decoded, remaining⟩ | ⟨_, untagged, remaining⟩
      · rcases List.mem_cons.mp among with rfl | later
        · rcases decodeCategory_eq_ok_iff.mp decoded with ⟨keyword, bare, _⟩
          cases value with
          | tagged tag content => exact ⟨tag, content, Prod.ext isType rfl⟩
          | text keyword => simp [Value.hasTag] at hasTag
          | _ => simp [Value.untagged] at bare
        · exact ih remaining later
      · rcases List.mem_cons.mp among with rfl | later
        · cases hasTag.symm.trans untagged
        · exact ih remaining later

/--
Without a tag the category is read alike in a list, where numbers
are read besides.
-/
theorem splitCategory_decodeNumberedCategory_eq_ok
    {category : Option Category} {kept : List (Value × Value)}
    {fields : List (String × Value)}
    {result : Option Category × List (Value × Value)}
    (untagged : ∀ field ∈ fields, field.2.hasTag = false)
    (taken :
      splitCategory (fun value => decodeCategory value.untagged) category kept
        (keyed fields) = .ok result) :
    splitCategory decodeNumberedCategory category kept (keyed fields) =
      .ok result := by
  induction fields generalizing category kept with
  | nil => exact taken
  | cons head rest ih =>
      rcases head with ⟨key, value⟩
      rw [List.forall_mem_cons] at untagged
      rw [keyed_cons, splitCategory_text_cons_eq_ok_iff] at taken ⊢
      rcases taken with
        ⟨isType, fresh, chosen, decoded, remaining⟩ | ⟨notType, noTag,
          remaining⟩
      · left
        rcases decodeCategory_eq_ok_iff.mp decoded with ⟨keyword, bare, named⟩
        have isText : value = .text keyword := by
          cases value with
          | tagged tag content => simp [Value.hasTag] at untagged
          | _ => exact bare
        have decodedToo : decodeNumberedCategory value = .ok chosen := by
          rw [isText]
          exact named
        exact ⟨isType, fresh, chosen, decodedToo, ih untagged.2 remaining⟩
      · right
        exact ⟨notType, noTag, ih untagged.2 remaining⟩

theorem splitCategory_of_decode_eq_ok
    {entries : List (Value × Value)} {descriptor : Descriptor}
    (decoded : decode (.mapping entries) = .ok descriptor) :
    ∃ category others,
      splitCategory (fun value => decodeCategory value.untagged) none []
          entries =
        .ok (some category, others) ∧
          decodeBody category (.mapping others) = .ok descriptor := by
  rw [decode, decodeEntries] at decoded
  rcases Outcome.bind_eq_ok_iff.mp decoded with
    ⟨⟨category, others⟩, taken, body⟩
  cases category with
  | none => cases body
  | some category => exact ⟨category, others, taken, body⟩

/-! ### Names -/

theorem splitName_text_cons
    (name : Option String) (kept rest : List (Value × Value)) (value : Value)
    {key : String}
    (unnamed : key ≠ "name") :
    splitName name kept ((.text key, value) :: rest) =
      if value.hasTag then .error .nestedTag
      else splitName name ((.text key, value) :: kept) rest := by
  rw [splitName]
  simp only [Value.untagged]

/-- Fields that are set aside until the name is met must not hold a tag. -/
theorem splitName_keyed_append
    {name : Option String} {kept rest : List (Value × Value)}
    {fields : List (String × Value)}
    (unnamed : ∀ field ∈ fields, field.1 ≠ "name") :
    splitName name kept (keyed fields ++ rest) =
      if fields.any fun field => field.2.hasTag then .error .nestedTag
      else splitName name ((keyed fields).reverse ++ kept) rest := by
  induction fields generalizing kept with
  | nil => rfl
  | cons head fields ih =>
      rcases head with ⟨key, value⟩
      rw [List.forall_mem_cons] at unnamed
      rw [keyed_cons, List.cons_append,
        splitName_text_cons name _ _ value unnamed.1, List.any_cons]
      cases hasTag : value.hasTag with
      | true => rfl
      | false =>
          rw [if_neg Bool.false_ne_true, ih unnamed.2, Bool.false_or,
            List.reverse_cons, List.append_assoc, List.singleton_append]

end Descriptor

namespace WrittenDescriptor

variable {written : WrittenDescriptor} {declared : Entry}

/--
The name of an item is taken out, wherever it is written, unless some
field holds a tag.
-/
theorem splitName_item
    (unnamed : ∀ field ∈ written.fields, field.1 ≠ "name") :
    Descriptor.splitName none []
        (keyed
          (written.before ++ ("name", .text written.name) :: written.after)) =
      if written.fields.any fun field => field.2.hasTag then .error .nestedTag
      else .ok (some written.name, keyed written.fields) := by
  rcases List.forall_mem_append.mp unnamed with ⟨unnamedBefore, unnamedAfter⟩
  have step (kept rest : List (Value × Value)) :
      Descriptor.splitName none kept
          ((.text "name", .text written.name) :: rest) =
        Descriptor.splitName (some written.name) kept rest := rfl
  have last (kept : List (Value × Value)) :
      Descriptor.splitName (some written.name) kept (keyed written.after) =
        if written.after.any fun field => field.2.hasTag then .error .nestedTag
        else .ok (some written.name, kept.reverse ++ keyed written.after) := by
    have whole :=
      @Descriptor.splitName_keyed_append (some written.name) kept [] _
        unnamedAfter
    rw [List.append_nil] at whole
    rw [whole, Descriptor.splitName, List.reverse_append, List.reverse_reverse]
  rw [keyed_append, keyed_cons, Descriptor.splitName_keyed_append unnamedBefore,
    step, last, fields, List.any_append, keyed_append]
  cases written.before.any fun field => field.2.hasTag with
  | true => rfl
  | false =>
      rw [if_neg Bool.false_ne_true, List.append_nil, List.reverse_reverse,
        Bool.false_or]

/--
An item of a list is read as the entry that it declares, unless some
field holds a tag.
-/
theorem Declares.decodeNamed_item
    (declares : written.Declares declared) :
    Descriptor.decodeNamed written.item =
      if written.fields.any fun field => field.2.hasTag then .error .nestedTag
      else .ok declared := by
  have taken := splitName_item declares.unnamed
  simp only [Descriptor.decodeNamed, item, Value.untagged, pure_bind, taken]
  cases hasTag : written.fields.any fun field => field.2.hasTag with
  | true => rfl
  | false =>
      have untagged : ∀ field ∈ written.fields, field.2.hasTag = false := by
        simpa using hasTag
      rcases Descriptor.splitCategory_of_decode_eq_ok declares.decodes with
        ⟨category, others, takenToo, body⟩
      have read : Descriptor.decodeEntries Descriptor.decodeNumberedCategory
          (keyed written.fields) = .ok declared.2 := by
        rw [Descriptor.decodeEntries]
        apply Outcome.bind_eq_ok_iff.mpr
        exact ⟨_, Descriptor.splitCategory_decodeNumberedCategory_eq_ok untagged
          takenToo, body⟩
      apply Outcome.bind_eq_ok_iff.mpr
      refine ⟨_, rfl, ?_⟩
      apply Outcome.bind_eq_ok_iff.mpr
      exact ⟨_, read, congrArg Except.ok (Prod.ext declares.named.symm rfl)⟩

/-- The only tag that a descriptor can hold is at its category. -/
theorem Declares.tagsCategory_iff
    (declares : written.Declares declared) :
    written.TagsCategory ↔
      (written.fields.any fun field => field.2.hasTag) = true := by
  rw [List.any_eq_true]
  constructor
  · rintro ⟨tag, content, among⟩
    exact ⟨_, among, rfl⟩
  · rintro ⟨field, among, hasTag⟩
    rcases Descriptor.splitCategory_of_decode_eq_ok declares.decodes with
      ⟨_, _, taken, _⟩
    rcases Descriptor.eq_type_of_splitCategory_eq_ok taken among hasTag with
      ⟨tag, content, rfl⟩
    exact ⟨tag, content, among⟩

theorem Declares.decodeNamed_item_of_not_tagsCategory
    (declares : written.Declares declared)
    (untagged : ¬ written.TagsCategory) :
    Descriptor.decodeNamed written.item = .ok declared := by
  rw [declares.decodeNamed_item,
    if_neg (mt declares.tagsCategory_iff.mpr untagged)]

theorem Declares.decodeNamed_item_of_tagsCategory
    (declares : written.Declares declared)
    (tagged : written.TagsCategory) :
    Descriptor.decodeNamed written.item = .error .nestedTag := by
  rw [declares.decodeNamed_item, if_pos (declares.tagsCategory_iff.mp tagged)]

theorem Declares.decodeKeyed_entry
    (declares : written.Declares declared) :
    Descriptor.decodeKeyed written.entry = .ok declared := by
  apply Outcome.bind_eq_ok_iff.mpr
  exact ⟨_, declares.decodes,
    congrArg Except.ok (Prod.ext declares.named.symm rfl)⟩

end WrittenDescriptor

/-! ## The two forms of a document -/

namespace Schema

/-- A list document of descriptors. -/
def listDocument (written : List WrittenDescriptor) : Value :=
  .sequence (written.map WrittenDescriptor.item)

/-- A mapping document of descriptors. -/
def mappingDocument (written : List WrittenDescriptor) : Value :=
  .mapping (written.map WrittenDescriptor.entry)

section Forms

variable {written : List WrittenDescriptor} {entries : List Entry}

theorem map_fst_eq_of_forall₂_declares
    (declares : List.Forall₂ WrittenDescriptor.Declares written entries) :
    entries.map Prod.fst = written.map WrittenDescriptor.name := by
  induction declares with
  | nil => rfl
  | cons first _ ih => rw [List.map_cons, List.map_cons, first.named, ih]

/--
A mapping document is read, whatever its names, and declares its
descriptors in order.
-/
theorem ofValue_mappingDocument
    (declares : List.Forall₂ WrittenDescriptor.Declares written entries) :
    ofValue (mappingDocument written) = .ok (ofList entries) := by
  have read :
      (written.map WrittenDescriptor.entry).mapM Descriptor.decodeKeyed =
        .ok entries := by
    rw [List.mapM_map, Outcome.mapM_eq_ok_iff]
    exact declares.imp fun _ _ each => each.decodeKeyed_entry
  rw [mappingDocument, ofValue, read]
  rfl

/--
A list document whose categories are without tags comes to what its
entries come to.
-/
theorem ofValue_listDocument
    (declares : List.Forall₂ WrittenDescriptor.Declares written entries)
    (untagged : ∀ descriptor ∈ written, ¬ descriptor.TagsCategory) :
    ofValue (listDocument written) = insertDistinct empty entries := by
  have read :
      (written.map WrittenDescriptor.item).mapM Descriptor.decodeNamed =
        .ok entries := by
    rw [List.mapM_map, Outcome.mapM_eq_ok_iff]
    have both := (List.forall₂_and_left _ _).mpr ⟨untagged, declares⟩
    exact both.imp fun _ _ each =>
      each.2.decodeNamed_item_of_not_tagsCategory each.1
  rw [listDocument, ofValue, read]
  rfl

/-- A list document with a tag at a category is refused for the tag. -/
theorem ofValue_listDocument_of_tagsCategory
    {descriptor : WrittenDescriptor}
    (declares : List.Forall₂ WrittenDescriptor.Declares written entries)
    (among : descriptor ∈ written)
    (tagged : descriptor.TagsCategory) :
    ofValue (listDocument written) = .error (.decoding .nestedTag) := by
  have refused :
      (written.map WrittenDescriptor.item).mapM Descriptor.decodeNamed =
      .error .nestedTag := by
    rw [List.mapM_map]
    cases outcome :
        written.mapM (Descriptor.decodeNamed ∘ WrittenDescriptor.item) with
    | ok read =>
        have sides := Outcome.mapM_eq_ok_iff.mp outcome
        rcases exists_right_of_forall₂ sides among with ⟨entry, _, decoded⟩
        rcases exists_right_of_forall₂ declares among with ⟨_, _, each⟩
        cases decoded.symm.trans (each.decodeNamed_item_of_tagsCategory tagged)
    | error fault =>
        rcases Outcome.exists_of_mapM_eq_error outcome with
          ⟨other, inWritten, failed⟩
        rcases exists_right_of_forall₂ declares inWritten with ⟨_, _, each⟩
        by_cases otherTagged : other.TagsCategory
        · have decoded := each.decodeNamed_item_of_tagsCategory otherTagged
          rw [Except.error.inj (failed.symm.trans decoded)]
        · cases failed.symm.trans
            (each.decodeNamed_item_of_not_tagsCategory otherTagged)
  rw [listDocument, ofValue, refused]
  rfl

/--
A list of descriptors is accepted exactly if their names are distinct, unless a
category stands under a tag, for which the list is refused.  The schema then
has the descriptors for its entries, in their order, and the mapping of them
describes the same schema.  Otherwise the fault is that of the first descriptor
whose name one before it has.
-/
theorem ofValue_listDocument_exactly
    (declares : List.Forall₂ WrittenDescriptor.Declares written entries) :
    ((∀ descriptor ∈ written, ¬ descriptor.TagsCategory) →
        ((∃ schema, ofValue (listDocument written) = .ok schema) ↔
          (written.map WrittenDescriptor.name).Nodup) ∧
        (∀ schema, ofValue (listDocument written) = .ok schema →
          schema.entries = entries ∧
            ofValue (mappingDocument written) = .ok schema) ∧
        (∀ fault, ofValue (listDocument written) = .error fault →
          ∃ before descriptor after, written = before ++ descriptor :: after ∧
            (before.map WrittenDescriptor.name).Nodup ∧
            descriptor.name ∈ before.map WrittenDescriptor.name ∧
            fault = .duplicate "type" descriptor.name)) ∧
      ((∃ descriptor ∈ written, descriptor.TagsCategory) →
        ofValue (listDocument written) = .error (.decoding .nestedTag) ∧
          ofValue (mappingDocument written) = .ok (ofList entries)) := by
  constructor
  · intro untagged
    have names := map_fst_eq_of_forall₂_declares declares
    rw [ofValue_listDocument declares untagged,
      ofValue_mappingDocument declares]
    refine ⟨⟨?_, ?_⟩, ?_, ?_⟩
    · rintro ⟨schema, accepted⟩
      rw [insertDistinct_eq_ok_iff, entries_empty, List.nil_append] at accepted
      rw [← names, ← accepted]
      exact schema.distinct
    · intro distinct
      rw [← names] at distinct
      refine ⟨ofList entries, insertDistinct_eq_ok_iff.mpr ?_⟩
      rw [entries_ofList distinct, entries_empty, List.nil_append]
    · intro schema accepted
      rw [insertDistinct_eq_ok_iff, entries_empty, List.nil_append] at accepted
      have distinct : (entries.map Prod.fst).Nodup := accepted ▸ schema.distinct
      constructor
      · exact accepted
      · rw [Schema.ext ((entries_ofList distinct).trans accepted.symm)]
    · intro fault refused
      rcases insertDistinct_eq_error_iff.mp refused with
        ⟨before, entry, after, split, distinct, repeated, rfl⟩
      rw [split] at declares
      rcases exists_append_of_forall₂ declares.flip with
        ⟨front, back, rfl, frontSides, backSides⟩
      rcases List.forall₂_cons_left_iff.mp backSides with
        ⟨descriptor, rest, here, _, rfl⟩
      have frontNames := map_fst_eq_of_forall₂_declares frontSides.flip
      rw [names_empty, List.nil_append, frontNames] at distinct repeated
      rw [here.named] at repeated ⊢
      exact ⟨front, descriptor, rest, rfl, distinct, repeated, rfl⟩
  · rintro ⟨descriptor, among, tagged⟩
    exact ⟨ofValue_listDocument_of_tagsCategory declares among tagged,
      ofValue_mappingDocument declares⟩

end Forms

end Schema

/-- A type of two bytes, with the name between the fields. -/
def WrittenDescriptor.bare (name : String) : WrittenDescriptor where
  name := name
  before := [("type", .text "byte")]
  after := [("size", .integer 2)]

/-- A type of two bytes, with a tag at the category. -/
def WrittenDescriptor.marked (name : String) : WrittenDescriptor where
  name := name
  before := []
  after := [("type", .tagged "!" (.text "byte")), ("size", .integer 2)]

theorem WrittenDescriptor.declares_bare (name : String) :
    (bare name).Declares (name, .atomic { size := 2 }) := by
  constructor
  · rfl
  · show ∀ field ∈ [("type", Value.text "byte"), ("size", .integer 2)],
      field.1 ≠ "name"
    simp
  · rfl

theorem WrittenDescriptor.declares_marked (name : String) :
    (marked name).Declares (name, .atomic { size := 2 }) := by
  constructor
  · rfl
  · show ∀ field ∈
      [("type", Value.tagged "!" (.text "byte")), ("size", .integer 2)],
      field.1 ≠ "name"
    simp
  · rfl

namespace Schema

/--
Two types of distinct names make a schema, a third of a name that was
there is refused.
-/
theorem ofValue_listDocument_bare :
    (∃ schema, ofValue (listDocument [.bare "A", .bare "B"]) = .ok schema ∧
      schema.names = ["A", "B"] ∧
      ofValue (mappingDocument [.bare "A", .bare "B"]) = .ok schema) ∧
      ¬ ∃ schema, ofValue (listDocument [.bare "A", .bare "B", .bare "A"]) =
        .ok schema := by
  have untagged (name : String) :
      ¬ (WrittenDescriptor.bare name).TagsCategory := by
    rintro ⟨tag, content, among⟩
    simp [WrittenDescriptor.bare, WrittenDescriptor.fields] at among
  have two :=
    (ofValue_listDocument_exactly
      (.cons (WrittenDescriptor.declares_bare "A")
        (.cons (WrittenDescriptor.declares_bare "B") .nil))).1
      (by simp [untagged])
  have three :=
    (ofValue_listDocument_exactly
      (.cons (WrittenDescriptor.declares_bare "A")
        (.cons (WrittenDescriptor.declares_bare "B")
          (.cons (WrittenDescriptor.declares_bare "A") .nil)))).1
      (by simp [untagged])
  constructor
  · rcases two.1.mpr (by decide) with ⟨schema, accepted⟩
    rcases two.2.1 schema accepted with ⟨entries, sameMapping⟩
    refine ⟨schema, accepted, ?_, sameMapping⟩
    rw [names, entries]
    rfl
  · intro accepted
    exact absurd (three.1.mp accepted) (by decide)

/--
A tag at a category makes no difference to a mapping, but a list
is refused for it.
-/
theorem ofValue_listDocument_marked :
    (WrittenDescriptor.marked "A").Declares ("A", .atomic { size := 2 }) ∧
      ([WrittenDescriptor.marked "A"].map WrittenDescriptor.name).Nodup ∧
      (∃ schema, ofValue (mappingDocument [.marked "A"]) = .ok schema) ∧
      ¬ ∃ schema, ofValue (listDocument [.marked "A"]) = .ok schema := by
  have declares := WrittenDescriptor.declares_marked "A"
  refine ⟨declares, by decide,
    ⟨_, ofValue_mappingDocument (.cons declares .nil)⟩, ?_⟩
  rintro ⟨schema, accepted⟩
  have tagged : (WrittenDescriptor.marked "A").TagsCategory :=
    ⟨"!", .text "byte", List.mem_cons_self⟩
  have refused := ofValue_listDocument_of_tagsCategory (.cons declares .nil)
    List.mem_cons_self tagged
  cases refused.symm.trans accepted

end Schema

end WireLayout
