import WireLayout.Document.Token

/-!
# Nodes of a document

The tree that the notation of a document describes.  A scalar is still its text
and the way it is written, tags are spelled out in full, and an alias names the
slot of the node that it repeats.

A document that is not well formed has a tree as well, of what stands
before the fault.  There a broken node takes the place of the first node,
item or entry that could not be read, and of all that is left of the
collections around it.

Slots are numbered by the anchors before them: an anchor takes the slot whose
number is the count of different names that anchors had until then.  A name
that is used again therefore moves on to a slot which the next new name shares,
and of the nodes of one slot the last to begin is meant.
-/

namespace WireLayout.Document

/-- A node of a document. -/
inductive Node where
  | scalar (tag : Option Octets) (text : String) (style : ScalarStyle)
  | sequence (tag : Option Octets) (items : List Node)
  | mapping (tag : Option Octets) (entries : List (Node × Node))
  | alias (slot : Nat)
  | broken
  deriving Repr, Inhabited

/--
A node that an anchor put into a slot, and the number of parts of the
document before it.
-/
structure AnchoredNode where
  slot : Nat
  order : Nat
  node : Node
  deriving Repr

/--
What comes after a document: nothing, a further document, or a fault in
it or at its end.
-/
inductive Ending where
  | last
  | followed
  | broken
  deriving DecidableEq, Repr

/--
A document as a tree.  It has no root when the text holds no node at all.
`parts` counts scalars, aliases, and the two ends of each collection.
-/
structure Tree where
  root : Option Node
  anchored : List AnchoredNode
  parts : Nat
  ending : Ending
  deriving Repr

/-- The node of a slot that began last. -/
def Tree.anchoredAt? (tree : Tree) (slot : Nat) : Option Node :=
  let candidates := tree.anchored.filter fun entry => entry.slot == slot
  (candidates.foldl (fun best entry =>
    match best with
    | none => some entry
    | some other =>
        if other.order < entry.order then some entry else some other) none).map
    AnchoredNode.node

/-- A tag of the format itself. -/
def coreTag (name : String) : Octets :=
  octets ("tag:yaml.org,2002:" ++ name)

/-- Whether a tag is a node's own, as opposed to one of the format. -/
def isOwnTag (tag : Octets) : Bool :=
  (octets "!").isPrefixOf tag

/--
A tag without the exclamation mark in front of it, unless it consists of
that mark alone.
-/
def withoutMark (tag : Octets) : Octets :=
  if isOwnTag tag && tag.length != 1 then tag.drop 1 else tag

/--
The name of a node's own tag, if it spells a text.  The exclamation mark of the
notation is not part of the name, and a second one makes no other name.
-/
def ownTag? (tag : Option Octets) : Option String :=
  match tag with
  | some tag =>
      if isOwnTag tag then
        String.fromUTF8? ⟨(withoutMark (withoutMark tag)).toArray⟩
      else none
  | none => none

end WireLayout.Document
