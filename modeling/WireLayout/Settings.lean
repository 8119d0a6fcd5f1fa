import WireLayout.Document.Loading
import WireLayout.Text.Blank
import WireLayout.Text.NameSet

/-!
# Settings

What a compilation can be told: which composites are not generated but
dissolved into those that inline them, whether the first inlined composite
becomes the super-class, which type names mean flags and raw bytes, which field
holds the size of the whole entity, and how wide a field of raw bytes may be to
count as an integer.

Settings are read from a mapping, in which every setting may be missing and
names that are no setting are passed over.  A text is taken from any scalar as
it is written.  An empty scalar stands for an empty list.
-/

namespace WireLayout

open WireLayout.Document

/-- The settings of a compilation. -/
structure Settings where
  excludedTypes : NameSet
  useSuperClass : Bool
  flagsSuffix : String
  byteType : String
  entitySizeField : String
  builtinWidthLimit : Nat
  deriving DecidableEq, Repr

/-- The settings that hold unless others are given. -/
def Settings.standard : Settings where
  excludedTypes :=
    .ofList ["SizePrefixedEntity", "VerifiableEntity", "EntityBody",
      "EmbeddedTransactionHeader", "TransactionHeader"]
  useSuperClass := true
  flagsSuffix := "Flags"
  byteType := "byte"
  entitySizeField := "size"
  builtinWidthLimit := 8

/-- Why settings cannot be read. -/
inductive SettingsFault where
  | document (fault : Fault)
  | wrongForm
  deriving DecidableEq, Repr

/--
The words for a fault of settings; a fault at a place of the text has none.
-/
def SettingsFault.message? : SettingsFault → Option String
  | .document fault => fault.message?
  | .wrongForm => none

namespace Settings

/-- Whether a composite becomes a class of its own. -/
def generates (settings : Settings) (name : String) : Bool :=
  !settings.excludedTypes.contains name

/-- Whether a type name means flags. -/
def isFlagsType (settings : Settings) (typeName : String) : Bool :=
  settings.flagsSuffix.toList.isSuffixOf typeName.toList

/-- Whether a type name means raw bytes. -/
def isByteType (settings : Settings) (typeName : String) : Bool :=
  typeName == settings.byteType

/-- Whether a field of a name holds the size of the whole entity. -/
def isEntitySizeField (settings : Settings) (name : String) : Bool :=
  name == settings.entitySizeField

/-- A setting that a mapping may contain, by its name. -/
inductive Key where
  | excludedTypes
  | useSuperClass
  | flagsSuffix
  | byteType
  | entitySizeField
  | builtinWidthLimit
  deriving DecidableEq, Repr

/-- The setting of a name. -/
def Key.ofName? (name : String) : Option Key :=
  match name with
  | "excluded_types" => some .excludedTypes
  | "use_super_class" => some .useSuperClass
  | "flags_suffix" => some .flagsSuffix
  | "byte_type" => some .byteType
  | "entity_size_field" => some .entitySizeField
  | "builtin_width_limit" => some .builtinWidthLimit
  | _ => none

/-- The node that a node stands for. -/
def target? (tree : Tree) (node : Node) : Option Node :=
  match node with
  | .alias slot => tree.anchoredAt? slot
  | other => some other

/-- The text of a scalar, whatever else it could denote. -/
def text? (tree : Tree) (node : Node) : Option String :=
  match target? tree node with
  | some (.scalar _ text _) => some text
  | _ => none

/-- Whether a node is an empty plain scalar. -/
def isLeftOut (node : Node) : Bool :=
  match node with
  | .scalar _ text style => text.isEmpty && style == .plain
  | _ => false

/-- The texts of a sequence of scalars. -/
def texts? (tree : Tree) (node : Node) : Option (List String) :=
  match target? tree node with
  | some (.sequence _ items) => items.mapM (text? tree)
  | some other => if isLeftOut other then some [] else none
  | none => none

/--
The text of a scalar that may denote a value other than a text, under a
tag of the format.
-/
def unquoted? (tree : Tree) (tag : String) (node : Node) : Option String :=
  match target? tree node with
  | some (.scalar scalarTag text style) =>
      if style == .plain ||
        (style == .literal && scalarTag == some (coreTag tag)) then some text
      else none
  | _ => none

/-- The truth value of a scalar. -/
def truth? (tree : Tree) (node : Node) : Option Bool :=
  (unquoted? tree "bool" node).bind truthNotation

/--
The natural number of a scalar, which has no minus sign, not even before zero.
-/
def natural? (tree : Tree) (node : Node) : Option Nat :=
  match unquoted? tree "int" node with
  | some text =>
      match integerNotation text.toList with
      | some (.ofNat number) =>
          if text.startsWith "-" || !fitsWord number then none else some number
      | _ => none
  | none => none

/-- Settings with one of them read from a node. -/
def assign (tree : Tree) (settings : Settings) (key : Key)
    (node : Node) : Option Settings :=
  match key with
  | .excludedTypes =>
      return { settings with excludedTypes := .ofList (← texts? tree node) }
  | .useSuperClass =>
      return { settings with useSuperClass := ← truth? tree node }
  | .flagsSuffix => return { settings with flagsSuffix := ← text? tree node }
  | .byteType => return { settings with byteType := ← text? tree node }
  | .entitySizeField =>
      return { settings with entitySizeField := ← text? tree node }
  | .builtinWidthLimit =>
      return { settings with builtinWidthLimit := ← natural? tree node }

/-- Reads entries into settings; no setting may be given twice. -/
def readEntries (tree : Tree) :
    Settings → List Key → List (Node × Node) → Option Settings
  | settings, _, [] => some settings
  | settings, seen, (name, value) :: rest => do
      match Key.ofName? (← text? tree name) with
      | none => readEntries tree settings seen rest
      | some key =>
          if seen.contains key then none
          else
            readEntries tree (← assign tree settings key value)
              (key :: seen) rest

/-- The settings of a document. -/
def ofTree (tree : Tree) : Option Settings :=
  match tree.root with
  | none => some standard
  | some root =>
      match target? tree root with
      | some (.mapping _ entries) => readEntries tree standard [] entries
      | some other => if isLeftOut other then some standard else none
      | none => none

/-- The settings of a text; those of a blank text are the standard ones. -/
def ofText (text : String) : Except SettingsFault Settings :=
  if Text.isBlank text then .ok standard
  else
    let tree := Tree.ofText text
    match ofTree tree, tree.ending.fault? with
    | none, _ => .error .wrongForm
    | some _, some fault => .error (.document fault)
    | some settings, none => .ok settings

end Settings

end WireLayout
