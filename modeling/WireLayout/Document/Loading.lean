import WireLayout.Document.Node.Reader
import WireLayout.Document.Scalar

/-!
# From text to values

Loading reads the first document of a text and takes the value of its tree:
aliases are replaced by what they repeat, scalars by what they denote.  The
limits on nesting and on repetition keep a short text from denoting a huge
value or an infinite one.

A document is loaded in reading order, and the first fault on the way counts.
A document that is broken is loaded up to the break, and a further document is
refused only after the first one has been loaded.
-/

namespace WireLayout.Document

/-- Why a text cannot be loaded. -/
inductive Fault where
  | malformed
  | repetition
  | severalDocuments
  deriving DecidableEq, Repr

/-- The words for a fault; a fault at a place of the text has none. -/
def Fault.message? : Fault → Option String
  | .malformed => none
  | .repetition => some "repetition limit exceeded"
  | .severalDocuments =>
      some ("deserializing from YAML containing more than one document " ++
        "is not supported")

/-- The number of collections that may be open around a node. -/
def nestingLimit : Nat := 128

/-- The number of aliases that may be followed for each part of a document. -/
def repetitionLimit : Nat := 100

/-- The value of a scalar without regard to a tag. -/
def untaggedValue (text : String) (style : ScalarStyle) : Option Value :=
  if style == .plain then plainValue text else some (.text text)

/--
The value of a scalar under a tag; one that names no type of the format
makes it a text.
-/
def scalarValue (tag : Option Octets) (text : String)
    (style : ScalarStyle) : Option Value :=
  match tag with
  | none => untaggedValue text style
  | some tag =>
      if tag == coreTag "bool" then (truthNotation text).map Value.boolean
      else if tag == coreTag "int" then (integerValue text.toList).join
      else if tag == coreTag "float" then
        (realNotation text.toList).map Value.real
      else if tag == coreTag "null" then
        (if isNullNotation text then some .null else none)
      else if isOwnTag tag then untaggedValue text style
      else some (.text text)

/--
Puts a value under the tag of its node, if that is a tag of the node's own.
-/
def withOwnTag (tag : Option Octets) (value : Value) : Value :=
  match ownTag? tag with
  | some name => .tagged name value
  | none => value

/-- Loading counts the aliases that it follows. -/
abbrev Loading (α : Type) := StateT Nat (Except Fault) α

/-- The node that a node stands for, counted if it is an alias. -/
def Tree.follow (tree : Tree) (node : Node) : Loading Node := do
  match node with
  | .alias slot =>
      let followed := (← get) + 1
      set followed
      if repetitionLimit * tree.parts < followed then throw .repetition
      else
        match tree.anchoredAt? slot with
        | some target => pure target
        | none => throw .malformed
  | other => pure other

/-- Adds the entries of a mapping one by one; no two keys may agree. -/
def loadEntries (load : Node → Loading Value) :
    List (Value × Value) → List (Node × Node) → Loading (List (Value × Value))
  | loaded, [] => pure loaded.reverse
  | loaded, (keyNode, valueNode) :: rest => do
      let key ← load keyNode
      if loaded.any fun entry => entry.1.agrees key then throw .malformed
      else
        let value ← load valueNode
        loadEntries load ((key, value) :: loaded) rest

/-- The value of a node with room for a number of nested collections. -/
def Tree.nodeValue (tree : Tree) : Nat → Node → Loading Value
  | depth, node => do
      match ← tree.follow node, depth with
      | .scalar tag text style, _ =>
          match scalarValue tag text style with
          | some value => pure (withOwnTag tag value)
          | none => throw .malformed
      | .sequence tag items, depth + 1 =>
          pure
            (withOwnTag tag (.sequence (← items.mapM (nodeValue tree depth))))
      | .mapping tag entries, depth + 1 =>
          pure
            (withOwnTag tag
              (.mapping (← loadEntries (nodeValue tree depth) [] entries)))
      | _, _ => throw .malformed

/-- The value of a tree. -/
def Tree.value (tree : Tree) : Except Fault Value :=
  match tree.root with
  | none => .ok .null
  | some root => (tree.nodeValue nestingLimit root).run' 0

/-- The tree of the first document of a text. -/
def Tree.ofText (text : String) : Tree :=
  .ofTokens (Token.sequence (glyphs text))

/--
What keeps a document that has been read from being the only one of its text.
-/
def Ending.fault? : Ending → Option Fault
  | .last => none
  | .followed => some .severalDocuments
  | .broken => some .malformed

/-- The value of the only document of a text. -/
def load (text : String) : Except Fault Value := do
  let tree := Tree.ofText text
  let value ← tree.value
  match tree.ending.fault? with
  | some fault => throw fault
  | none => pure value

end WireLayout.Document
