/-!
# Tokens of a document

The marks and scalars that a document consists of.  The ends of block
collections, which the text shows by indentation only, are tokens of their own,
and so are the starts of block collections and the mark of a mapping key, which
the text need not show at all.
-/

namespace WireLayout.Document

/-- The octets of a tag, which may spell any text and need not spell one. -/
abbrev Octets := List UInt8

/-- The octets of a text. -/
def octets (text : String) : Octets :=
  text.toUTF8.data.toList

/-- The way in which a scalar is written. -/
inductive ScalarStyle where
  | plain
  | quoted
  | literal
  | folded
  deriving DecidableEq, Repr

/-- A token of a document. -/
inductive Token where
  | version (major minor : Nat)
  | shorthand (handle : String) (expansion : Octets)
  | documentStart
  | documentEnd
  | blockSequence
  | blockMapping
  | blockEnd
  | flowSequence
  | flowSequenceEnd
  | flowMapping
  | flowMappingEnd
  | item
  | separator
  | key
  | value
  | alias (name : String)
  | anchor (name : String)
  | tag (handle : String) (suffix : Octets)
  | scalar (text : String) (style : ScalarStyle)
  | textEnd
  deriving DecidableEq, Repr

end WireLayout.Document
