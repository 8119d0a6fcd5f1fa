import WireLayout.Fault
import WireLayout.Schema.Basic

/-!
# Kinds of attributes

What an attribute is in the data: an integer, a block of bytes, a collection, a
value of another type, a set of flags, or the size of a sibling.  Ten rules
decide, and the first that applies wins.

1. A variadic attribute is a variadic array.
2. A filling attribute is a filling array.
3. An inlined composite that is generated is a value of its own type.
4. An attribute whose name a sibling uses as its size is a size field.
5. A type name with the flags suffix makes a set of flags.
6. A type that is named like a category, or no size, makes a value of the type.
7. A size in a field makes a block of raw bytes, or an array of another type.
8. A literal size makes an array of a type other than raw bytes.
9. Raw bytes up to the width limit make an integer.
10. More raw bytes make a block.

Only a disposition that is not known is left without a kind.
-/

namespace WireLayout

/-- What an attribute is in the data. -/
inductive Kind where
  | simple
  | buffer
  | array
  | custom
  | flags
  | sizeField
  | fillArray
  | varArray
  deriving DecidableEq, Repr

namespace Kind

/-- The name of a kind in lower case. -/
def name : Kind → String
  | .simple => "simple"
  | .buffer => "buffer"
  | .array => "array"
  | .custom => "custom"
  | .flags => "flags"
  | .sizeField => "size_field"
  | .fillArray => "fill_array"
  | .varArray => "var_array"

/-- The name of a kind in a listing. -/
def title : Kind → String
  | .simple => "Simple"
  | .buffer => "Buffer"
  | .array => "Array"
  | .custom => "Custom"
  | .flags => "Flags"
  | .sizeField => "SizeField"
  | .fillArray => "FillArray"
  | .varArray => "VarArray"

/-- Whether a kind is a collection of elements. -/
def isAnyArray : Kind → Bool
  | .array => true
  | .fillArray => true
  | .varArray => true
  | _ => false

/-- Whether values of a kind follow from other values. -/
def isDerived (kind : Kind) : Bool :=
  kind == .sizeField

end Kind

namespace Attribute

/-- Whether some sibling takes its size from an attribute. -/
def isSizeField (attr : Attribute) (siblings : List Attribute) : Bool :=
  siblings.any fun sibling => sibling.sizeReference == some attr.displayName

/-- The kind of an attribute that its type and its size decide. -/
def kindBySize (attr : Attribute) (settings : Settings) : Kind :=
  if settings.isFlagsType attr.typeName then .flags
  else if attr.typeName == Category.composite.keyword ||
      attr.typeName == Category.enumeration.keyword then .custom
  else
    match attr.size with
    | none => .custom
    | some (.field _) =>
        if settings.isByteType attr.typeName then .buffer else .array
    | some (.literal count) =>
        if !settings.isByteType attr.typeName then .array
        else if count ≤ settings.builtinWidthLimit then .simple
        else .buffer

/-- The kind of an attribute among its siblings. -/
def kind? (attr : Attribute) (settings : Settings)
    (siblings : List Attribute) : Option Kind :=
  match attr.disposition with
  | some .variadic => some .varArray
  | some .filling => some .fillArray
  | some .unknown => none
  | _ =>
      if attr.isInlined && settings.generates attr.typeName then some .custom
      else if attr.isSizeField siblings then some .sizeField
      else some (attr.kindBySize settings)

/-- Checks that the field an attribute takes its size from is a sibling. -/
def checkSizeReference (attr : Attribute) (owner : String)
    (siblings : List Attribute) : Except CompileFault Unit :=
  match attr.sizeReference with
  | none => .ok ()
  | some reference =>
      if siblings.any fun sibling => sibling.displayName == reference then
        .ok ()
      else .error (.dangling ⟨owner, attr.displayName, reference, .size⟩)

/--
The size of an attribute: the declared one, otherwise that of its type,
one without either.
-/
def resolvedSize (attr : Attribute) (schema : Schema) (settings : Settings)
    (owner : String) : Except CompileFault Size :=
  match attr.size with
  | some size => .ok size
  | none =>
      if settings.isByteType attr.typeName then .ok (.literal 1)
      else
        match schema.find? attr.typeName with
        | some descriptor => .ok (.literal (descriptor.size.getD 1))
        | none =>
            .error (.dangling ⟨owner, attr.displayName, attr.typeName, .type⟩)

/-- The width in bytes of an attribute that holds a single number. -/
def fixedWidth (attr : Attribute) (schema : Schema) : Option Nat :=
  match attr.size with
  | some (.literal count) => some count
  | some (.field _) => none
  | none => (schema.find? attr.typeName).bind Descriptor.size

/-- The signedness of an attribute, which its type may decide. -/
def resolvedSignedness (attr : Attribute) (schema : Schema) : Signedness :=
  attr.signedness.getD
    (((schema.find? attr.typeName).bind Descriptor.signedness).getD .unsigned)

/-- Whether an attribute of raw bytes counts as an integer. -/
def isBuiltin (attr : Attribute) (settings : Settings) : Bool :=
  settings.isByteType attr.typeName &&
    attr.literalSize.any fun count =>
      decide (count ≤ settings.builtinWidthLimit)

end Attribute

/--
Declared comments without blanks around them, or a phrase where there are none.
-/
def commentOr (declared : String) (otherwise : String) : String :=
  let trimmed := Text.trim declared
  if trimmed.isEmpty then otherwise else trimmed

/-- The comment of an attribute. -/
def Attribute.comment (attr : Attribute) : String :=
  commentOr attr.comments (phrase attr.displayName)

/-- The comment of a type. -/
def typeComment (declared name : String) : String :=
  commentOr declared (phrase (decapitalize name))

/--
The first attribute of a layout that can become the super-class, and its place.
-/
def superClassPosition? (settings : Settings)
    (layout : List Attribute) : Option Nat :=
  if settings.useSuperClass then
    layout.findIdx? fun attr =>
      attr.isInlined && settings.generates attr.typeName
  else none

end WireLayout
