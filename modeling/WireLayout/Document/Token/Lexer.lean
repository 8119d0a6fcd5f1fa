import WireLayout.Document.Token.Folding

/-!
# From glyphs to tokens

The reader of tokens keeps the columns of the open block collections, and for
each flow collection around it the place at which a mapping key may have begun.
Whether a key did begin there shows only at the colon after it; the mark of the
key, and the start of a block mapping if the key stands further in than the
collection around it, are then put in at that place.

A key shows on one line and within 1024 octets.  Where indentation leaves no
other reading, a key that may have begun must be one.

A token that may still turn out to begin a key is not handed on before that is
settled.  A text that is not well formed therefore loses, along with what
follows the fault, the tokens from the first unsettled one on.
-/

namespace WireLayout.Document

/-- A place at which a mapping key may have begun. -/
structure PendingKey where
  required : Bool
  start : Glyph
  position : Nat
  deriving DecidableEq, Repr

/--
Whether a key that may have begun can no longer be one in front of a glyph.
-/
def PendingKey.isStale (key : PendingKey) (glyph : Glyph) : Bool :=
  decide (key.start.line < glyph.line) ||
    decide (key.start.offset + 1024 < glyph.offset)

/--
The state of the reader of tokens; the tokens read so far have the latest
first.
-/
structure Lexer where
  rest : List Glyph
  blocks : List Nat
  keyAllowed : Bool
  pendingKey : Option PendingKey
  outerKeys : List (Option PendingKey)
  tokens : List Token
  count : Nat
  deriving Repr

namespace Lexer

/-- The reader in front of some glyphs. -/
def start (characters : List Glyph) : Lexer :=
  ⟨characters, [], true, none, [], [], 0⟩

/-- Whether the reader is inside a flow collection. -/
def inFlow (lexer : Lexer) : Bool :=
  !lexer.outerKeys.isEmpty

/--
The column of the innermost open block collection, `-1` outside all of them.
-/
def indentation (lexer : Lexer) : Int :=
  match lexer.blocks with
  | [] => -1
  | column :: _ => column

/-- The glyph in front of the reader. -/
def glyph (lexer : Lexer) : Glyph :=
  here lexer.rest

/-- The character at a distance from the reader. -/
def peek (lexer : Lexer) (distance : Nat) : Char :=
  charAt lexer.rest distance

/-- The reader past a number of glyphs. -/
def advance (lexer : Lexer) (length : Nat) : Lexer :=
  { lexer with rest := lexer.rest.drop length }

/-- The reader after one more token. -/
def emit (lexer : Lexer) (token : Token) : Lexer :=
  { lexer with tokens := token :: lexer.tokens, count := lexer.count + 1 }

/--
The reader with tokens put in, in reading order, where `position`
tokens had been read.
-/
def insert (lexer : Lexer) (position : Nat) (added : List Token) : Lexer :=
  let later := lexer.count - position
  { lexer with
    tokens :=
      lexer.tokens.take later ++ added.reverse ++ lexer.tokens.drop later
    count := lexer.count + added.length }

/--
The reader after the blanks, comments and line ends in front of it.  A byte
order mark that stands first on its line is passed over.
-/
def skipBlanksFrom (inFlow : Bool) :
    Bool → Bool → List Glyph → Bool × List Glyph
  | keyAllowed, _, [] => (keyAllowed, [])
  | keyAllowed, inComment, glyph :: rest =>
      if isBreak glyph.char then
        skipBlanksFrom inFlow (keyAllowed || !inFlow) false rest
      else if inComment && !isClosing glyph.char then
        skipBlanksFrom inFlow keyAllowed true rest
      else if glyph.char == ' ' ||
        (glyph.char == '\t' && (inFlow || !keyAllowed)) then
        skipBlanksFrom inFlow keyAllowed false rest
      else if glyph.char == '#' then skipBlanksFrom inFlow keyAllowed true rest
      else if glyph.char == '\ufeff' && glyph.column == 0 then
        skipBlanksFrom inFlow keyAllowed false rest
      else (keyAllowed, glyph :: rest)

/-- The reader in front of the next visible glyph. -/
def skipBlanks (lexer : Lexer) : Lexer :=
  let (keyAllowed, rest) :=
    skipBlanksFrom lexer.inFlow lexer.keyAllowed false lexer.rest
  { lexer with keyAllowed := keyAllowed, rest := rest }

/-- Gives up a possible key that has become stale, unless it had to be one. -/
def expireKey (glyph : Glyph) (pending : Option PendingKey) :
    Option (Option PendingKey) :=
  match pending with
  | none => some none
  | some key =>
      if key.isStale glyph then (if key.required then none else some none)
      else some (some key)

/--
Gives up all possible keys that have become stale, unless one of them
had to be a key.
-/
def expireKeys (lexer : Lexer) : Option Lexer := do
  let pendingKey ← expireKey lexer.glyph lexer.pendingKey
  let outerKeys ← lexer.outerKeys.mapM (expireKey lexer.glyph)
  some { lexer with pendingKey := pendingKey, outerKeys := outerKeys }

/--
The number of tokens that are settled: those before every place where a
key may have begun.
-/
def settled (lexer : Lexer) : Nat :=
  ((lexer.pendingKey :: lexer.outerKeys).filterMap
    (·.map PendingKey.position)).foldl min lexer.count

/-- Gives up all possible keys, unless one of them had to be a key. -/
def dropKeys (lexer : Lexer) : Option Lexer :=
  if (lexer.pendingKey :: lexer.outerKeys).any (·.any PendingKey.required) then
    none
  else
    some { lexer with
      pendingKey := none, outerKeys := lexer.outerKeys.map fun _ => none }

/--
Gives up the possible key of the innermost collection, unless it had to be one.
-/
def dropKey (lexer : Lexer) : Option Lexer :=
  match lexer.pendingKey with
  | some key =>
      if key.required then none else some { lexer with pendingKey := none }
  | none => some lexer

/-- Notes that a key may begin here. -/
def noteKey (lexer : Lexer) : Option Lexer :=
  if lexer.keyAllowed then do
    let required := !lexer.inFlow && lexer.indentation == lexer.glyph.column
    let lexer ← lexer.dropKey
    some { lexer with pendingKey := some ⟨required, lexer.glyph, lexer.count⟩ }
  else some lexer

/-- Closes the block collections that stand further in than a column. -/
def closeBlocks (lexer : Lexer) (column : Int) : Lexer :=
  if lexer.inFlow then lexer
  else
    let closed :=
      lexer.blocks.takeWhile fun (block : Nat) =>
        decide (column < (block : Int))
    { lexer with
      blocks := lexer.blocks.drop closed.length
      tokens := List.replicate closed.length Token.blockEnd ++ lexer.tokens
      count := lexer.count + closed.length }

/-- Whether a block collection opens at a column. -/
def opensBlock (lexer : Lexer) (column : Nat) : Bool :=
  !lexer.inFlow && decide (lexer.indentation < column)

/--
Opens a block collection at the reader's column if it stands further in
than the last one.
-/
def openBlock (lexer : Lexer) (token : Token) : Lexer :=
  let column := lexer.glyph.column
  if lexer.opensBlock column then
    { lexer.emit token with blocks := column :: lexer.blocks }
  else lexer

/-- Reads a mark of a number of characters that is a token on its own. -/
def mark (lexer : Lexer) (length : Nat) (token : Token)
    (keyAllowed : Bool) : Lexer :=
  { (lexer.emit token).advance length with keyAllowed := keyAllowed }

/-- Reads a line that starts or ends a document. -/
def documentMark (lexer : Lexer) (token : Token) : Option Lexer := do
  let lexer ← (lexer.closeBlocks (-1)).dropKey
  some (lexer.mark 3 token false)

/-- Reads the start of a flow collection. -/
def openFlow (lexer : Lexer) (token : Token) : Option Lexer := do
  let lexer ← lexer.noteKey
  some
    ({ lexer with
      pendingKey := none
      outerKeys := lexer.pendingKey :: lexer.outerKeys }.mark 1 token true)

/-- Reads the end of a flow collection. -/
def closeFlow (lexer : Lexer) (token : Token) : Option Lexer := do
  let lexer ← lexer.dropKey
  let outer := match lexer.outerKeys with
    | [] => lexer
    | key :: others => { lexer with pendingKey := key, outerKeys := others }
  some (outer.mark 1 token false)

/-- Reads the comma of a flow collection. -/
def readSeparator (lexer : Lexer) : Option Lexer := do
  let lexer ← lexer.dropKey
  some (lexer.mark 1 .separator true)

/-- Reads the dash of a block sequence. -/
def readItem (lexer : Lexer) : Option Lexer :=
  if !lexer.inFlow && !lexer.keyAllowed then none
  else do
    let lexer ← (lexer.openBlock .blockSequence).dropKey
    some (lexer.mark 1 .item true)

/-- Reads the question mark of a mapping key. -/
def readKey (lexer : Lexer) : Option Lexer :=
  if !lexer.inFlow && !lexer.keyAllowed then none
  else do
    let lexer ← (lexer.openBlock .blockMapping).dropKey
    some (lexer.mark 1 .key (!lexer.inFlow))

/-- Reads the colon of a mapping value. -/
def readValue (lexer : Lexer) : Option Lexer :=
  match lexer.pendingKey with
  | some key =>
      let opens := lexer.opensBlock key.start.column
      let added :=
        if opens then [Token.blockMapping, Token.key] else [Token.key]
      let lexer := { lexer.insert key.position added with
        pendingKey := none
        blocks :=
          if opens then key.start.column :: lexer.blocks else lexer.blocks }
      some (lexer.mark 1 .value false)
  | none =>
      if !lexer.inFlow && !lexer.keyAllowed then none
      else some ((lexer.openBlock .blockMapping).mark 1 .value (!lexer.inFlow))

/-- Whether a character may stand in a name. -/
def isNameChar (character : Char) : Bool :=
  character.isAlphanum || character == '_' || character == '-'

/-- The characters of a run of glyphs. -/
def spelled (characters : List Glyph) : String :=
  String.ofList (characters.map Glyph.char)

/-- Reads the name of an anchor or an alias after its indicator. -/
def readName (lexer : Lexer) (token : String → Token) : Option Lexer := do
  let lexer ← lexer.noteKey
  let name := (lexer.rest.drop 1).takeWhile fun glyph => isNameChar glyph.char
  let next := charAt lexer.rest (name.length + 1)
  if name.isEmpty ||
    !(isGap next || ['?', ':', ',', ']', '\x7d', '%', '@', '`'].contains next)
  then none
  else some (lexer.mark (name.length + 1) (token (spelled name)) false)

/-- Whether a character may stand in a tag. -/
def isTagChar (inBrackets : Bool) (character : Char) : Bool :=
  isNameChar character ||
    [';', '/', '?', ':', '@', '&', '=', '+', '$', '.', '%', '!', '~', '*', '\'',
      '(', ')'].contains character ||
      (inBrackets && [',', '[', ']'].contains character)

/--
The number of octets that follow an octet at the beginning of a character.
-/
def furtherOctets (octet : Nat) : Option Nat :=
  if octet < 0x80 then some 0
  else if octet < 0xc0 then none
  else if octet < 0xe0 then some 1
  else if octet < 0xf0 then some 2
  else if octet < 0xf8 then some 3
  else none

/--
The octets of tag characters, of which a percent sign and two digits write any
octet.  So many of them as its first octet demands make up a character; `due`
counts those that are still to come.
-/
def tagOctetsFrom : Nat → List Char → Option Octets
  | 0, [] => some []
  | _ + 1, [] => none
  | due, '%' :: high :: low :: rest => do
      let octet ← Text.digitsNumber 16 [high, low]
      let left ← match due with
        | 0 => furtherOctets octet
        | left + 1 => if 0x80 ≤ octet ∧ octet < 0xc0 then some left else none
      return UInt8.ofNat octet :: (← tagOctetsFrom left rest)
  | 0, character :: rest =>
      if character == '%' then none
      else (tagOctetsFrom 0 rest).map (UInt8.ofNat character.toNat :: ·)
  | _ + 1, _ :: _ => none

/-- The octets of a run of tag characters; an octet of zero ends them. -/
def tagOctets (characters : List Glyph) : Option Octets :=
  (tagOctetsFrom 0 (characters.map Glyph.char)).map fun octets =>
    octets.takeWhile fun octet => octet != 0

/-- The run of tag characters at the beginning of some glyphs. -/
def tagRun (inBrackets : Bool) (characters : List Glyph) : List Glyph :=
  characters.takeWhile fun glyph => isTagChar inBrackets glyph.char

/--
The length of the handle at the beginning of some glyphs: a name between
exclamation marks.
-/
def handleLength (characters : List Glyph) : Nat :=
  let name := (characters.drop 1).takeWhile fun glyph => isNameChar glyph.char
  if charAt characters (name.length + 1) == '!' then name.length + 2
  else name.length + 1

/-- A tag as a handle and a suffix, and its length in the document. -/
structure TagText where
  handle : String
  suffix : Octets
  length : Nat
  deriving DecidableEq, Repr

/-- Reads a tag in angle brackets. -/
def bracketedTag (characters : List Glyph) : Option TagText := do
  let run := tagRun true (characters.drop 2)
  let suffix ← tagOctets run
  if run.isEmpty || charAt characters (run.length + 2) != '>' then none
  else some ⟨"", suffix, run.length + 3⟩

/-- Reads a tag that begins with a handle or with a single exclamation mark. -/
def shortTag (characters : List Glyph) : Option TagText := do
  let length := handleLength characters
  let handle := spelled (characters.take length)
  if 2 ≤ length && handle.endsWith "!" then
    let run := tagRun false (characters.drop length)
    let suffix ← tagOctets run
    if run.isEmpty then none else some ⟨handle, suffix, length + run.length⟩
  else
    let run := tagRun false (characters.drop 1)
    let suffix ← tagOctets run
    if suffix.isEmpty then some ⟨"", octets "!", run.length + 1⟩
    else some ⟨"!", suffix, run.length + 1⟩

/-- Reads a tag. -/
def readTag (lexer : Lexer) : Option Lexer := do
  let lexer ← lexer.noteKey
  let tag ←
    if lexer.peek 1 == '<' then bracketedTag lexer.rest
    else shortTag lexer.rest
  let next := lexer.peek tag.length
  if isGap next || (lexer.inFlow && next == ',') then
    some (lexer.mark tag.length (.tag tag.handle tag.suffix) false)
  else none

/-- Reads a block scalar. -/
def readBlockScalar (lexer : Lexer) (isFolded : Bool) : Option Lexer := do
  let lexer ← lexer.dropKey
  let scalar ← blockText isFolded lexer.indentation (lexer.rest.drop 1)
  let style := if isFolded then ScalarStyle.folded else ScalarStyle.literal
  some { lexer.emit (.scalar scalar.text style) with
    rest := scalar.rest, keyAllowed := true }

/-- Reads a quoted scalar. -/
def readQuoted (lexer : Lexer) (quote : Char) : Option Lexer := do
  let lexer ← lexer.noteKey
  let characters := lexer.rest.drop 1
  let scalar ←
    if inSight 4 characters then quotedFrom quote .body [] .empty characters
    else none
  some { lexer.emit (.scalar scalar.text .quoted) with
    rest := scalar.rest, keyAllowed := false }

/-- Reads a plain scalar. -/
def readPlain (lexer : Lexer) : Option Lexer := do
  let lexer ← lexer.noteKey
  let margin := (lexer.indentation + 1).toNat
  let scalar ← plainFrom lexer.inFlow margin [] .empty lexer.rest
  some { lexer.emit (.scalar scalar.text .plain) with
    rest := scalar.rest
    keyAllowed := scalar.broken }

/-- The digits of a version number, at most nine, and the glyphs after them. -/
def versionNumber (characters : List Glyph) : Option (Nat × List Glyph) :=
  let digits := characters.takeWhile fun glyph => glyph.char.isDigit
  if 9 < digits.length then none
  else
    (Text.digitsNumber 10 (digits.map Glyph.char)).map fun number =>
      (number, characters.drop digits.length)

/-- Reads the value of a version directive. -/
def versionDirective (characters : List Glyph) :
    Option (Token × List Glyph) := do
  let (major, rest) ← versionNumber (skipSpaces characters)
  if charAt rest 0 != '.' then none
  else
    let (minor, rest) ← versionNumber (rest.drop 1)
    some (.version major minor, rest)

/-- Reads the value of a directive that introduces a tag handle. -/
def shorthandDirective (characters : List Glyph) :
    Option (Token × List Glyph) := do
  let characters := skipSpaces characters
  let length := handleLength characters
  let handle := spelled (characters.take length)
  let after := characters.drop length
  if charAt characters 0 != '!' || !(length == 1 || handle.endsWith "!") ||
      !isSpace (charAt after 0) then none
  else
    let run := tagRun true (skipSpaces after)
    let expansion ← tagOctets run
    let rest := (skipSpaces after).drop run.length
    if run.isEmpty || !isGap (charAt rest 0) then none
    else some (.shorthand handle expansion, rest)

/-- Reads a directive, with its line. -/
def readDirective (lexer : Lexer) : Option Lexer := do
  let lexer ← (lexer.closeBlocks (-1)).dropKey
  let characters := lexer.rest.drop 1
  let name := characters.takeWhile fun glyph => isNameChar glyph.char
  let after := characters.drop name.length
  if !isGap (charAt after 0) then none
  else
    let (token, rest) ←
      if spelled name == "YAML" then versionDirective after
      else if spelled name == "TAG" then shorthandDirective after
      else none
    let rest ← finishLine rest
    some { lexer.emit token with rest := rest, keyAllowed := false }

/-- Ends the token sequence. -/
def finish (lexer : Lexer) : Option Lexer := do
  let lexer ← (lexer.closeBlocks (-1)).dropKeys
  some { lexer.emit .textEnd with rest := [], keyAllowed := false }

/--
Whether a plain scalar may begin with a character, given the
character after it.
-/
def startsPlain (inFlow : Bool) (character next : Char) : Bool :=
  let reserved :=
    ['-', '?', ':', ',', '[', ']', '\x7b', '\x7d', '#', '&', '*', '!', '|', '>',
      '\'', '"', '%', '@', '`']
  !(isGap character || reserved.contains character) ||
    (character == '-' && !isSpace next) ||
    (!inFlow && (character == '?' || character == ':') && !isGap next)

/-- Reads the token in front of the reader. -/
def readToken (lexer : Lexer) : Option Lexer :=
  let character := lexer.peek 0
  let next := lexer.peek 1
  if character == endMark then lexer.finish
  else if lexer.glyph.column == 0 && character == '%' then lexer.readDirective
  else if isDocumentMark '-' lexer.rest then lexer.documentMark .documentStart
  else if isDocumentMark '.' lexer.rest then lexer.documentMark .documentEnd
  else if character == '[' then lexer.openFlow .flowSequence
  else if character == '\x7b' then lexer.openFlow .flowMapping
  else if character == ']' then lexer.closeFlow .flowSequenceEnd
  else if character == '\x7d' then lexer.closeFlow .flowMappingEnd
  else if character == ',' then lexer.readSeparator
  else if character == '-' && isGap next then lexer.readItem
  else if character == '?' && (lexer.inFlow || isGap next) then lexer.readKey
  else if character == ':' && (lexer.inFlow || isGap next) then lexer.readValue
  else if character == '*' then lexer.readName .alias
  else if character == '&' then lexer.readName .anchor
  else if character == '!' then lexer.readTag
  else if character == '|' && !lexer.inFlow then lexer.readBlockScalar false
  else if character == '>' && !lexer.inFlow then lexer.readBlockScalar true
  else if character == '\'' || character == '"' then lexer.readQuoted character
  else if startsPlain lexer.inFlow character next then lexer.readPlain
  else none

/--
One step of the reader: blanks, the collections that end here, and a token.
Four characters decide what token begins at the reader, and the one after a
token shows that it ends there.
-/
def step (lexer : Lexer) : Option Lexer := do
  let lexer ← lexer.skipBlanks.expireKeys
  if !inSight 4 lexer.rest then none
  else
    let lexer ← (lexer.closeBlocks lexer.glyph.column).readToken
    if !inSight 1 lexer.rest then none else lexer.expireKeys

/--
The tokens, latest first, of the steps up to the end of the text, or those that
are settled in front of the first step that fails.
-/
def run : Nat → Lexer → List Token
  | 0, lexer => lexer.tokens
  | fuel + 1, lexer =>
      match lexer.step with
      | none => lexer.tokens.drop (lexer.count - lexer.settled)
      | some next => if next.rest.isEmpty then next.tokens else run fuel next

end Lexer

/--
The tokens of some glyphs.  The sequence ends with the end of the text, or
without it where the text is not well formed.  Each step reads a glyph at
least, so as many steps as there are glyphs suffice.
-/
def Token.sequence (characters : List Glyph) : List Token :=
  (Lexer.run characters.length (Lexer.start characters)).reverse

end WireLayout.Document
