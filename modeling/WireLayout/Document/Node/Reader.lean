import WireLayout.Document.Node
import WireLayout.Document.Token.Lexer

/-!
# From tokens to nodes

A recursive reading of the token sequence.  Properties stand before the node
they belong to; a node that is left out is an empty plain scalar; a block
sequence may stand at the column of the mapping key it belongs to, and then has
no start and end of its own.

The token sequence of a text that is not well formed lacks its end.  A token
that is out of place breaks the sequence off as well, so that the two kinds of
fault are one: where no token is left, the text is broken.  Each level of the
recursion is given less fuel than the one around it.
-/

namespace WireLayout.Document

/--
The state of the reading: what is left, what tags and anchors mean,
and what was read.
-/
structure NodeReader where
  tokens : List Token
  shorthands : List (String × Octets)
  names : List (String × Nat)
  anchored : List AnchoredNode
  parts : Nat
  deriving Repr

/-- A step of the reading. -/
abbrev Reading (α : Type) := StateM NodeReader α

namespace Reading

/-- The next token, which stays in place; none where the text is broken. -/
def peek : Reading (Option Token) :=
  return (← get).tokens.head?

/-- Whether the next token is one of some. -/
def nextIs (expected : List Token) : Reading Bool :=
  return (← peek).any expected.contains

/-- Moves past the next token. -/
def skip : Reading Unit :=
  modify fun reader => { reader with tokens := reader.tokens.drop 1 }

/-- Counts a part of the document. -/
def count : Reading Unit :=
  modify fun reader => { reader with parts := reader.parts + 1 }

/-- Breaks the text off in front of the next token. -/
def halt : Reading Unit :=
  modify fun reader => { reader with tokens := [] }

/--
A node that cannot be read: the text breaks off in front of the next token.
-/
def breakOff : Reading Node := do
  halt
  pure .broken

/--
Gives an anchor its slot; the slot is returned with the number of
parts before it.
-/
def openSlot (name : String) : Reading (Nat × Nat) := do
  let reader ← get
  let slot := reader.names.length
  let others := reader.names.filter fun entry => entry.1 != name
  set { reader with names := (name, slot) :: others }
  pure (slot, reader.parts)

/-- Puts a node into the slot that was opened for it, if there is one. -/
def fillSlot (slot : Option (Nat × Nat)) (node : Node) : Reading Node := do
  match slot with
  | some (slot, order) =>
      modify fun reader =>
        { reader with anchored := ⟨slot, order, node⟩ :: reader.anchored }
      pure node
  | none => pure node

/--
The tag in front of a node, in full; a handle without a meaning
breaks the text off.
-/
def tagAhead : Reading (Option Octets) := do
  match ← peek with
  | some (.tag handle suffix) =>
      skip
      if handle.isEmpty then pure (some suffix)
      else
        match (← get).shorthands.find? fun entry => entry.1 == handle with
        | some entry => pure (some (entry.2 ++ suffix))
        | none =>
            halt
            pure none
  | _ => pure none

/-- The anchor in front of a node. -/
def anchorAhead : Reading (Option String) := do
  match ← peek with
  | some (.anchor name) =>
      skip
      pure (some name)
  | _ => pure none

/-- The anchor and the tag in front of a node, which come in either order. -/
def properties : Reading (Option String × Option Octets) := do
  match ← anchorAhead with
  | some name => pure (some name, ← tagAhead)
  | none =>
      let tag ← tagAhead
      pure (← anchorAhead, tag)

/-- A node that is left out in front of the next token. -/
def emptyNode : Reading Node := do
  match ← peek with
  | some _ =>
      count
      pure (.scalar none "" .plain)
  | none => pure .broken

/--
The end of a collection in front of the next token, or a broken
element in its place.
-/
def finish {α : Type} (broken : α) : Reading (List α) := do
  match ← peek with
  | some _ =>
      count
      pure []
  | none => pure [broken]

/--
Moves past the comma in front of an item or entry of a flow collection;
the first has none.
-/
def passSeparator (isFirst : Bool) (last : Token) : Reading Unit := do
  if !isFirst then
    if ← nextIs [.separator] then skip
    else if !(← nextIs [last]) then halt

mutual

/--
Reads a node, in block or flow context, possibly a sequence without a
start of its own.
-/
def node : Nat → Bool → Bool → Reading Node
  | 0, _, _ => breakOff
  | fuel + 1, inBlock, atKey => do
      match ← peek with
      | some (.alias name) =>
          match (← get).names.find? fun entry => entry.1 == name with
          | some entry =>
              skip
              count
              pure (.alias entry.2)
          | none => breakOff
      | _ =>
          let (anchor, tag) ← properties
          match ← peek with
          | none => pure .broken
          | some token =>
              let slot ← match anchor with
                | some name => some <$> openSlot name
                | none => pure none
              match token with
              | .scalar text style =>
                  skip
                  count
                  fillSlot slot (.scalar tag text style)
              | .flowSequence =>
                  skip
                  count
                  fillSlot slot (.sequence tag (← flowItems fuel true))
              | .flowMapping =>
                  skip
                  count
                  fillSlot slot (.mapping tag (← flowEntries fuel true))
              | token =>
                  if atKey && token == .item then
                    count
                    fillSlot slot (.sequence tag (← keyItems fuel))
                  else if inBlock && token == .blockSequence then
                    skip
                    count
                    fillSlot slot (.sequence tag (← blockItems fuel))
                  else if inBlock && token == .blockMapping then
                    skip
                    count
                    fillSlot slot (.mapping tag (← blockEntries fuel))
                  else if anchor.isSome || tag.isSome then
                    count
                    fillSlot slot (.scalar tag "" .plain)
                  else breakOff

/-- Reads the items of a block sequence up to its end. -/
def blockItems : Nat → Reading (List Node)
  | 0 => return [← breakOff]
  | fuel + 1 => do
      match ← peek with
      | some .item =>
          skip
          let item ←
            if ← nextIs [.item, .blockEnd] then emptyNode
            else node fuel true false
          return item :: (← blockItems fuel)
      | some .blockEnd =>
          skip
          count
          pure []
      | _ => return [← breakOff]

/-- Reads the items of a block sequence that stands at the column of its key. -/
def keyItems : Nat → Reading (List Node)
  | 0 => return [← breakOff]
  | fuel + 1 => do
      if ← nextIs [.item] then
        skip
        let item ← if ← nextIs [.item, .key, .value, .blockEnd] then emptyNode
          else node fuel true false
        return item :: (← keyItems fuel)
      else finish .broken

/-- Reads the entries of a block mapping up to its end. -/
def blockEntries : Nat → Reading (List (Node × Node))
  | 0 => return [(← breakOff, .broken)]
  | fuel + 1 => do
      match ← peek with
      | some .key =>
          skip
          let key ←
            if ← nextIs [.key, .value, .blockEnd] then emptyNode
            else node fuel true true
          let value ←
            if ← nextIs [.value] then
              skip
              if ← nextIs [.key, .value, .blockEnd] then emptyNode
              else node fuel true true
            else emptyNode
          return (key, value) :: (← blockEntries fuel)
      | some .blockEnd =>
          skip
          count
          pure []
      | _ => return [(← breakOff, .broken)]

/--
Reads the value of an entry of a flow collection up to a comma or the end.
-/
def flowValue : Nat → Token → Reading Node
  | 0, _ => breakOff
  | fuel + 1, last => do
      if ← nextIs [.value] then
        skip
        if ← nextIs [.separator, last] then emptyNode else node fuel false false
      else emptyNode

/--
Reads the items of a flow sequence up to its end; an item may be a
mapping of one entry.
-/
def flowItems : Nat → Bool → Reading (List Node)
  | 0, _ => return [← breakOff]
  | fuel + 1, isFirst => do
      passSeparator isFirst .flowSequenceEnd
      match ← peek with
      | some .flowSequenceEnd =>
          skip
          count
          pure []
      | some .key =>
          skip
          count
          let key ← if ← nextIs [.value, .separator, .flowSequenceEnd] then
              emptyNode <* skip
            else node fuel false false
          let value ← flowValue fuel .flowSequenceEnd
          let entries := (key, value) :: (← finish (.broken, .broken))
          return .mapping none entries :: (← flowItems fuel false)
      | none => pure [.broken]
      | some _ =>
          let item ← node fuel false false
          return item :: (← flowItems fuel false)

/-- Reads the entries of a flow mapping up to its end. -/
def flowEntries : Nat → Bool → Reading (List (Node × Node))
  | 0, _ => return [(← breakOff, .broken)]
  | fuel + 1, isFirst => do
      passSeparator isFirst .flowMappingEnd
      match ← peek with
      | some .flowMappingEnd =>
          skip
          count
          pure []
      | some .key =>
          skip
          let key ←
            if ← nextIs [.value, .separator, .flowMappingEnd] then emptyNode
            else node fuel false false
          let value ← flowValue fuel .flowMappingEnd
          return (key, value) :: (← flowEntries fuel false)
      | none => pure [(.broken, .broken)]
      | some _ =>
          let key ← node fuel false false
          let value ← emptyNode
          return (key, value) :: (← flowEntries fuel false)

end

/-- Reads a node with fuel for all the tokens that are left. -/
def rootNode : Reading Node := do
  node (3 * (← get).tokens.length + 3) true false

end Reading

/-- The tag handles that need no directive. -/
def standardShorthands : List (String × Octets) :=
  [("!", octets "!"), ("!!", coreTag "")]

/-- The directives in front of a document, and the tokens after them. -/
def directives : Bool → List (String × Octets) → List Token →
    Option (List (String × Octets) × List Token)
  | versioned, shorthands, .version major minor :: rest =>
      if versioned || major != 1 || (minor != 1 && minor != 2) then none
      else directives true shorthands rest
  | versioned, shorthands, .shorthand handle expansion :: rest =>
      if shorthands.any fun entry => entry.1 == handle then none
      else directives versioned ((handle, expansion) :: shorthands) rest
  | _, shorthands, rest => some (shorthands, rest)

/-- Whether a token begins or ends a document. -/
def endsDocument (token : Token) : Bool :=
  match token with
  | .version .. | .shorthand .. | .documentStart | .documentEnd | .textEnd =>
      true
  | _ => false

/-- Reads the content of a document whose start is marked. -/
def markedContent : Reading Node := do
  if (← Reading.peek).any endsDocument then Reading.emptyNode
  else Reading.rootNode

/-- What comes after a document, given the tokens after its root. -/
def Ending.ofTokens (tokens : List Token) : Ending :=
  match tokens with
  | [] => .broken
  | token :: rest =>
      let remaining := if token == .documentEnd then rest else token :: rest
      let others := remaining.dropWhile fun token => token == .documentEnd
      if others == [.textEnd] then .last else .followed

/-- The tree of a document whose content is read from some tokens. -/
def Tree.ofContent (content : Reading Node)
    (shorthands : List (String × Octets)) (tokens : List Token) : Tree :=
  let (root, reader) :=
    content.run ⟨tokens, shorthands ++ standardShorthands, [], [], 0⟩
  ⟨some root, reader.anchored, reader.parts, .ofTokens reader.tokens⟩

/-- The tree of the first document of a token sequence. -/
def Tree.ofTokens (tokens : List Token) : Tree :=
  match tokens with
  | [.textEnd] => ⟨none, [], 1, .last⟩
  | [] => ⟨some .broken, [], 0, .broken⟩
  | first :: _ =>
      if first == .documentEnd || !endsDocument first then
        .ofContent Reading.rootNode [] tokens
      else
        match directives false [] tokens with
        | some (shorthands, .documentStart :: rest) =>
            .ofContent markedContent shorthands rest
        | _ => ⟨some .broken, [], 0, .broken⟩

end WireLayout.Document
