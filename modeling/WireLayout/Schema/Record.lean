import WireLayout.Schema.Fault

/-!
# Records in documents

How the parts of a schema are read from values.  A record is a mapping from
the names of its fields or a sequence of the fields in the order of their
declaration.  The fields of a mapping are read in the order in which they are
written, so of several faults the first one is reported; only then is a
missing field noticed.

Fields that a record does not have are passed over.  A field or an alternative
may also be given by its number.
-/

namespace WireLayout

open WireLayout.Document

/-- Reading a value may fail with a decoding fault. -/
abbrev Decoder (α : Type) := Value → Except DecodeFault α

namespace Decoder

/-- Reads a text. -/
def text : Decoder String
  | .text value => .ok value
  | other => .error (.wrongType other "a string")

/-- Reads a natural number. -/
def natural : Decoder Nat
  | .integer value =>
      match value with
      | .ofNat number => .ok number
      | .negSucc _ => .error (.wrongValue (.integer value) "u64")
  | other => .error (.wrongType other "u64")

/-- Reads a truth value. -/
def truth : Decoder Bool
  | .boolean value => .ok value
  | other => .error (.wrongType other "a boolean")

/-- Reads a sequence whose items have a common form. -/
def list {α : Type} (item : Decoder α) : Decoder (List α)
  | .sequence items => items.mapM item
  | other => .error (.wrongType other "a sequence")

/-- Reads a value that may be null. -/
def optional {α : Type} (decoder : Decoder α) : Decoder (Option α)
  | .null => .ok none
  | other => (decoder other).map some

/-- The name or number by which an alternative is given. -/
def variantAt {α : Type} (byName : String → Except DecodeFault α)
    (byNumber : Nat → Except DecodeFault α) : Decoder α
  | .text name => byName name
  | .integer (.ofNat number) => byNumber number
  | other => .error (.wrongType other "variant identifier")

/-- Checks that nothing goes with an alternative. -/
def nothing : Decoder Unit
  | .null => .ok ()
  | .mapping [] => .ok ()
  | other => .error (.wrongType other "unit")

/--
Reads one of several alternatives, given on its own or as the only
key of a mapping.
-/
def choice {α : Type} (byName : String → Except DecodeFault α)
    (byNumber : Nat → Except DecodeFault α) : Decoder α
  | .text name => byName name
  | .mapping [(key, content)] => do
      let chosen ← variantAt byName byNumber key
      nothing content
      pure chosen
  | .mapping entries =>
      .error (.wrongValue (.mapping entries) "map with a single key")
  | other => .error (.wrongType other "string or map")

/-- The alternative of a number, of which there must be enough. -/
def numbered {α : Type} (alternatives : List α) (number : Nat) :
    Except DecodeFault α :=
  match alternatives[number]? with
  | some chosen => .ok chosen
  | none =>
      .error (.wrongValue (.integer number)
        ("variant index 0 <= i < " ++ toString alternatives.length))

end Decoder

/--
The form of a record: its name in messages, its fields in the order of their
declaration, those of them that must be present, the record without any field,
and the reading of a field into it.
-/
structure RecordForm (α : Type) where
  name : String
  fields : List String
  required : List String
  blank : α
  assign : α → String → Decoder α

namespace RecordForm

variable {α : Type}

/--
The field that a key means: a name, or a place in the order of declaration.
-/
def fieldOf? (form : RecordForm α) (key : Value) :
    Except DecodeFault (Option String) :=
  match key with
  | .text name => .ok (if form.fields.contains name then some name else none)
  | .integer (.ofNat number) => .ok form.fields[number]?
  | other => .error (.wrongType other "field identifier")

/-- Reads entries into a record of which some fields have been read already. -/
def readEntries (form : RecordForm α) :
    α → List String → List (Value × Value) →
      Except DecodeFault (α × List String)
  | record, seen, [] => .ok (record, seen)
  | record, seen, (key, value) :: rest => do
      match ← form.fieldOf? key with
      | none => form.readEntries record seen rest
      | some field =>
          if seen.contains field then .error (.duplicateField field)
          else
            let extended ← form.assign record field value
            form.readEntries extended (field :: seen) rest

/-- The number of fields in words. -/
def countWords (count : Nat) : String :=
  toString count ++ (if count = 1 then " element" else " elements")

/--
Reads the items of a sequence into the fields of a record, one after the other.
-/
def readItems (form : RecordForm α) :
    α → Nat → List String → List Value → Except DecodeFault α
  | record, _, [], [] => .ok record
  | _, position, [], items =>
      .error
        (.wrongLength (position + items.length)
          (countWords position ++ " in sequence"))
  | record, position, field :: fields, [] =>
      if form.required.contains field then
        .error (.wrongLength position
          ("struct " ++ form.name ++ " with " ++ countWords form.fields.length))
      else form.readItems record (position + 1) fields []
  | record, position, field :: fields, item :: items => do
      let extended ← form.assign record field item
      form.readItems extended (position + 1) fields items

/-- Reads a record. -/
def decode (form : RecordForm α) : Decoder α
  | .mapping entries => do
      let (record, seen) ← form.readEntries form.blank [] entries
      match form.required.find? fun field => !seen.contains field with
      | some field => .error (.missingField field)
      | none => .ok record
  | .sequence items => form.readItems form.blank 0 form.fields items
  | other => .error (.wrongType other ("struct " ++ form.name))

end RecordForm

end WireLayout
