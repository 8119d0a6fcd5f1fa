import WireLayout.Schema.Basic
import WireLayout.Schema.Record
import WireLayout.Text.Blank

/-!
# Reading a schema

A schema document is a list of descriptors that carry their names, or a mapping
from names to descriptors.  In both forms the category of a descriptor stands
under the key `type`, wherever that key is among the others, and decides how
the other keys are read.

The whole document is read before names are compared.  The list form
refuses a name that is declared twice; in the mapping form a document
itself has no key twice.
-/

namespace WireLayout

open WireLayout.Document

mutual

/-- Whether a value of a tag of its own occurs in a value. -/
def Document.Value.hasTag : Value → Bool
  | .sequence items => itemsHaveTag items
  | .mapping entries => entriesHaveTag entries
  | .tagged _ _ => true
  | _ => false

/-- Whether a tag occurs in one of several values. -/
def Document.itemsHaveTag : List Value → Bool
  | [] => false
  | item :: rest => item.hasTag || itemsHaveTag rest

/-- Whether a tag occurs in one of several entries. -/
def Document.entriesHaveTag : List (Value × Value) → Bool
  | [] => false
  | (key, value) :: rest => key.hasTag || value.hasTag || entriesHaveTag rest

end

/-- A value without the tag around it. -/
def Document.Value.untagged : Value → Value
  | .tagged _ content => content
  | other => other

namespace Decoder

/-- Reads a signedness. -/
def signedness : Decoder Signedness :=
  choice
    (fun name =>
      match name with
      | "unsigned" => .ok .unsigned
      | "signed" => .ok .signed
      | _ => .error (.unknownVariant name ["unsigned", "signed"]))
    (numbered [.unsigned, .signed])

/-- Reads a disposition; one that is not known is kept as such. -/
def disposition : Decoder Disposition :=
  choice
    (fun name =>
      match name with
      | "inline" => .ok .inlined
      | "const" => .ok .constant
      | "fill" => .ok .filling
      | "var" => .ok .variadic
      | _ => .ok .unknown)
    (fun number =>
      .ok
        ([Disposition.inlined, .constant, .filling, .variadic][number]?.getD
          .unknown))

/-- Reads a comparison. -/
def conditionOperation : Decoder ConditionOperation :=
  choice
    (fun name =>
      match name with
      | "==" => .ok .equals
      | "equals" => .ok .equals
      | "has" => .ok .has
      | _ => .error (.unknownVariant name ["==", "equals", "has"]))
    (numbered [.equals, .has])

/-- Reads a size: a number, or the name of a field. -/
def size : Decoder Size
  | .integer (.ofNat count) => .ok (.literal count)
  | .text name => .ok (.field name)
  | _ => .error (.noAlternative "AttributeSize")

/-- Reads a selector: a number, or a name. -/
def selector : Decoder Selector
  | .integer (.ofNat number) => .ok (.number number)
  | .text name => .ok (.name name)
  | _ => .error (.noAlternative "Scalar")

end Decoder

/-- The form of an atomic type. -/
def AtomicType.form : RecordForm AtomicType where
  name := "AtomicDef"
  fields := ["size", "signedness", "comments"]
  required := ["size"]
  blank := { size := 0 }
  assign := fun type field value =>
    match field with
    | "size" => return { type with size := ← Decoder.natural value }
    | "signedness" =>
        return { type with signedness := ← Decoder.signedness value }
    | "comments" => return { type with comments := ← Decoder.text value }
    | _ => return type

/-- The form of a value of an enumeration. -/
def EnumerationValue.form : RecordForm EnumerationValue where
  name := "EnumValue"
  fields := ["name", "value", "comments"]
  required := ["name", "value"]
  blank := { name := "", number := 0 }
  assign := fun entry field value =>
    match field with
    | "name" => return { entry with name := ← Decoder.text value }
    | "value" => return { entry with number := ← Decoder.natural value }
    | "comments" => return { entry with comments := ← Decoder.text value }
    | _ => return entry

/-- The form of an enumeration. -/
def Enumeration.form : RecordForm Enumeration where
  name := "EnumDef"
  fields := ["size", "signedness", "values", "is_flags", "comments"]
  required := ["size"]
  blank := { size := 0 }
  assign := fun type field value =>
    match field with
    | "size" => return { type with size := ← Decoder.natural value }
    | "signedness" =>
        return { type with signedness := ← Decoder.signedness value }
    | "values" =>
        return { type with
          values := ← Decoder.list EnumerationValue.form.decode value }
    | "is_flags" => return { type with isFlags := ← Decoder.truth value }
    | "comments" => return { type with comments := ← Decoder.text value }
    | _ => return type

/-- The form of an attribute. -/
def Attribute.form : RecordForm Attribute where
  name := "LayoutAttribute"
  fields := ["name", "type", "disposition", "size", "signedness", "condition",
    "condition_operation", "condition_value", "sort_key", "value", "comments"]
  required := ["type"]
  blank := {}
  assign := fun attr field value =>
    match field with
    | "name" =>
        return { attr with name := ← Decoder.optional Decoder.text value }
    | "type" => return { attr with typeName := ← Decoder.text value }
    | "disposition" =>
        return { attr with
          disposition := ← Decoder.optional Decoder.disposition value }
    | "size" =>
        return { attr with size := ← Decoder.optional Decoder.size value }
    | "signedness" =>
        return { attr with
          signedness := ← Decoder.optional Decoder.signedness value }
    | "condition" =>
        return { attr with condition := ← Decoder.optional Decoder.text value }
    | "condition_operation" =>
        return { attr with
          conditionOperation :=
            ← Decoder.optional Decoder.conditionOperation value }
    | "condition_value" =>
        return { attr with
          conditionValue := ← Decoder.optional Decoder.selector value }
    | "sort_key" =>
        return { attr with sortKey := ← Decoder.optional Decoder.text value }
    | "value" =>
        return { attr with value := ← Decoder.optional Decoder.selector value }
    | "comments" => return { attr with comments := ← Decoder.text value }
    | _ => return attr

/-- The form of a composite. -/
def Composite.form : RecordForm Composite where
  name := "StructDef"
  fields := ["layout", "comments"]
  required := []
  blank := {}
  assign := fun type field value =>
    match field with
    | "layout" =>
        return { type with
          layout := ← Decoder.list Attribute.form.decode value }
    | "comments" => return { type with comments := ← Decoder.text value }
    | _ => return type

namespace Descriptor

/-- Reads the body of a descriptor of a known category. -/
def decodeBody (category : Category) (body : Value) :
    Except DecodeFault Descriptor :=
  match category with
  | .atomic => (AtomicType.form.decode body).map Descriptor.atomic
  | .enumeration => (Enumeration.form.decode body).map Descriptor.enumeration
  | .composite => (Composite.form.decode body).map Descriptor.composite

/-- The category of a keyword. -/
def categoryNamed (keyword : String) : Except DecodeFault Category :=
  match Category.ofKeyword? keyword with
  | some category => .ok category
  | none => .error (.unknownVariant keyword ["byte", "enum", "struct"])

/-- Reads a category that is given by its keyword. -/
def decodeCategory : Decoder Category
  | .text keyword => categoryNamed keyword
  | other => .error (.wrongType other "variant identifier")

/-- Reads a category that is given by its keyword or its number. -/
def decodeNumberedCategory : Decoder Category :=
  Decoder.variantAt categoryNamed
    (Decoder.numbered [.atomic, .enumeration, .composite])

/--
Takes the category out of the entries of a descriptor and keeps the others.
Only the entry of the category itself may hold a tag.
-/
def splitCategory (decoder : Decoder Category) :
    Option Category → List (Value × Value) → List (Value × Value) →
      Except DecodeFault (Option Category × List (Value × Value))
  | category, kept, [] => .ok (category, kept.reverse)
  | category, kept, (key, value) :: rest =>
      match key with
      | .text "type" => do
          if category.isSome then throw (.duplicateField "type")
          let chosen ← decoder value
          splitCategory decoder (some chosen) kept rest
      | _ =>
          if key.hasTag || value.hasTag then .error .nestedTag
          else splitCategory decoder category ((key, value) :: kept) rest

/-- Reads a descriptor from entries among which its category is. -/
def decodeEntries (decoder : Decoder Category)
    (entries : List (Value × Value)) : Except DecodeFault Descriptor := do
  match ← splitCategory decoder none [] entries with
  | (some category, others) => decodeBody category (.mapping others)
  | (none, _) => .error (.missingField "type")

/-- Reads a descriptor without a name. -/
def decode : Decoder Descriptor
  | .mapping entries =>
      decodeEntries (fun value => decodeCategory value.untagged) entries
  | .sequence [] => .error (.missingField "type")
  | .sequence (first :: rest) => do
      let category ← decodeCategory first.untagged
      if itemsHaveTag rest then throw .nestedTag
      decodeBody category (.sequence rest)
  | other => .error (.wrongType other "internally tagged enum TypeDescriptor")

/--
Takes the name out of the entries of a named descriptor and keeps the others.
-/
def splitName :
    Option String → List (Value × Value) → List (Value × Value) →
      Except DecodeFault (Option String × List (Value × Value))
  | name, kept, [] => .ok (name, kept.reverse)
  | name, kept, (key, value) :: rest =>
      match key.untagged with
      | .text "name" => do
          if name.isSome then throw (.duplicateField "name")
          let chosen ← Decoder.text value.untagged
          splitName (some chosen) kept rest
      | .text other =>
          if value.hasTag then .error .nestedTag
          else splitName name ((.text other, value) :: kept) rest
      | other => .error (.wrongType other "field identifier")

/-- Reads a descriptor that carries its name. -/
def decodeNamed (item : Value) : Except DecodeFault Entry := do
  let entries ← match item.untagged with
    | .mapping entries => pure entries
    | .null => pure []
    | other => throw (.wrongType other "struct NamedDescriptor")
  match ← splitName none [] entries with
  | (some name, others) =>
      return (name, ← decodeEntries decodeNumberedCategory others)
  | (none, _) => throw (.missingField "name")

/-- Reads an entry of a mapping from names to descriptors. -/
def decodeKeyed (entry : Value × Value) : Except DecodeFault Entry := do
  match entry.1.untagged with
  | .text name => return (name, ← decode entry.2)
  | other => throw (.wrongType other "a string")

end Descriptor

namespace Schema

/-- Declares entries one after the other, none of them twice. -/
def insertDistinct : Schema → List Entry → Except LoadFault Schema
  | schema, [] => .ok schema
  | schema, (name, descriptor) :: rest =>
      if schema.declares name then .error (.duplicate "type" name)
      else (schema.insert name descriptor).insertDistinct rest

/-- The schema that a document describes. -/
def ofValue (document : Value) : Except LoadFault Schema :=
  match document with
  | .null => .ok empty
  | .sequence items => do
      let entries ← (items.mapM Descriptor.decodeNamed).mapError
        LoadFault.decoding
      insertDistinct empty entries
  | .mapping entries => do
      let entries ← (entries.mapM Descriptor.decodeKeyed).mapError
        LoadFault.decoding
      pure (ofList entries)
  | _ =>
      .error (.structural
        "schema document must be a list or a mapping of type descriptors")

/-- The schema that a text describes; a blank text describes the empty one. -/
def ofText (text : String) : Except LoadFault Schema :=
  if Text.isBlank text then .ok empty
  else do
    let document ← (load text).mapError LoadFault.document
    ofValue document

/-- The schema that octets describe, if they are the UTF-8 form of a text. -/
def ofBytes (bytes : ByteArray) : Except LoadFault Schema :=
  match String.fromUTF8? bytes with
  | some text => ofText text
  | none => .error .unreadable

end Schema

end WireLayout
