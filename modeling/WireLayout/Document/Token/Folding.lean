import WireLayout.Document.Glyph
import WireLayout.Document.Token
import WireLayout.Text.Digit

/-!
# The text of scalars

A scalar may run over several lines.  Inside plain and quoted scalars a gap
that holds line ends is folded: the blanks around the line ends vanish, a
single line feed becomes a space, and of several line ends all but the first
are kept.  Block scalars keep their lines as they are, less the indentation, or
fold those that begin with neither a space nor a tab.

Each reader walks along the glyphs once and returns the text with the glyphs
that follow it; none is returned for a text that is not well formed.  After a
gap, four characters must be in sight for a text to go on, since they may be
the mark of another document.
-/

namespace WireLayout.Document

/--
The blanks and line ends met since the last visible character, latest first.
-/
inductive Gap where
  | spaces (blanks : List Char)
  | lines (first : Option Char) (further : List Char)
  deriving DecidableEq, Repr

namespace Gap

/-- The gap of no characters. -/
def empty : Gap := .spaces []

/-- Whether a gap holds a line end, escaped or not. -/
def isBroken : Gap → Bool
  | .spaces _ => false
  | .lines _ _ => true

/-- A gap with one more blank or line end. -/
def extend (gap : Gap) (character : Char) : Gap :=
  match gap with
  | .spaces blanks =>
      if isBreak character then .lines (some character) []
      else .spaces (character :: blanks)
  | .lines first further =>
      if isBreak character then .lines first (character :: further)
      else .lines first further

/-- The characters that a gap contributes to a scalar, latest first. -/
def folded : Gap → List Char
  | .spaces blanks => blanks
  | .lines none further => further
  | .lines (some first) further =>
      if first == '\n' then (if further.isEmpty then [' '] else further)
      else further ++ [first]

end Gap

/-- A scalar that has been read, and what follows it. -/
structure ScalarText where
  text : String
  broken : Bool
  rest : List Glyph
  deriving Repr

/-- The text of characters that were collected latest first. -/
def collected (characters : List Char) : String :=
  String.ofList characters.reverse

/-- Whether a character opens, closes or separates flow collections. -/
def isFlowMark (character : Char) : Bool :=
  [',', '[', ']', '\x7b', '\x7d'].contains character

/--
Whether a plain scalar ends before a visible character, given the
character after it.
-/
def endsPlain (inFlow : Bool) (character next : Char) : Bool :=
  (character == ':' && isGap next) || (inFlow && isFlowMark character)

/--
The plain scalar of collected characters, which a gap separates
from what follows.
-/
def plainText (text : List Char) (gap : Gap) (rest : List Glyph) : ScalarText :=
  ⟨collected text, gap.isBroken, rest⟩

/--
Reads a plain scalar.  In block context its further lines are indented by
`margin` columns at least.
-/
def plainFrom (inFlow : Bool) (margin : Nat) :
    List Char → Gap → List Glyph → Option ScalarText
  | text, gap, [] => some (plainText text gap [])
  | text, gap, glyph :: rest =>
      if isSpace glyph.char || isBreak glyph.char then
        if gap.isBroken && decide (glyph.column < margin) &&
          glyph.char == '\t' then none
        else plainFrom inFlow margin text (gap.extend glyph.char) rest
      else if isClosing glyph.char then
        some (plainText text gap (glyph :: rest))
      else if gap != .empty && !inFlow && decide (glyph.column < margin) then
        some (plainText text gap (glyph :: rest))
      else if gap != .empty && !inSight 4 (glyph :: rest) then none
      else if gap != .empty &&
        (isDocumentBoundary (glyph :: rest) || glyph.char == '#') then
        some (plainText text gap (glyph :: rest))
      else if inFlow && glyph.char == ':' &&
          (isFlowMark (charAt rest 0) || charAt rest 0 == '?') then none
      else if endsPlain inFlow glyph.char (charAt rest 0) then
        some (plainText text gap (glyph :: rest))
      else
        plainFrom inFlow margin (glyph.char :: (gap.folded ++ text)) .empty rest

/-- What the reader of a quoted scalar expects next. -/
inductive QuoteState where
  | body
  | escape
  | code (left value : Nat)
  | closing
  deriving DecidableEq, Repr

/-- The character of a one-letter escape. -/
def escapedChar (letter : Char) : Option Char :=
  match letter with
  | '0' => some '\x00'
  | 'a' => some '\x07'
  | 'b' => some '\x08'
  | 't' => some '\t'
  | '\t' => some '\t'
  | 'n' => some '\n'
  | 'v' => some '\x0b'
  | 'f' => some '\x0c'
  | 'r' => some '\r'
  | 'e' => some '\x1b'
  | ' ' => some ' '
  | '"' => some '"'
  | '/' => some '/'
  | '\\' => some '\\'
  | 'N' => some '\u0085'
  | '_' => some '\u00a0'
  | 'L' => some '\u2028'
  | 'P' => some '\u2029'
  | _ => none

/-- The number of hexadecimal digits of an escape that names a code point. -/
def codeLength (letter : Char) : Option Nat :=
  match letter with
  | 'x' => some 2
  | 'u' => some 4
  | 'U' => some 8
  | _ => none

/--
The character of a code point, absent for surrogates and beyond the last plane.
-/
def codeChar (value : Nat) : Option Char :=
  if h : value.isValidChar then some (Char.ofNatAux value h) else none

/-- Reads a quoted scalar after its opening quote. -/
def quotedFrom (quote : Char) :
    QuoteState → List Char → Gap → List Glyph → Option ScalarText
  | .closing, text, _, [] => some ⟨collected text, false, []⟩
  | _, _, _, [] => none
  | state, text, gap, glyph :: rest =>
      match state with
      | .body =>
          if isClosing glyph.char ||
            isDocumentBoundary (glyph :: rest) then none
          else if isSpace glyph.char || isBreak glyph.char then
            quotedFrom quote .body text (gap.extend glyph.char) rest
          else if gap != .empty && !inSight 4 (glyph :: rest) then none
          else
            let text := gap.folded ++ text
            if glyph.char == quote then
              if quote == '"' then some ⟨collected text, false, rest⟩
              else quotedFrom quote .closing text .empty rest
            else if quote == '"' && glyph.char == '\\' then
              quotedFrom quote .escape text .empty rest
            else quotedFrom quote .body (glyph.char :: text) .empty rest
      | .escape =>
          if isBreak glyph.char then
            quotedFrom quote .body text (.lines none []) rest
          else
            match escapedChar glyph.char, codeLength glyph.char with
            | some character, _ =>
                quotedFrom quote .body (character :: text) .empty rest
            | none, some length =>
                quotedFrom quote (.code length 0) text .empty rest
            | none, none => none
      | .code left value =>
          match Text.digitValue glyph.char with
          | none => none
          | some digit =>
              let value := value * 16 + digit
              if left ≤ 1 then
                match codeChar value with
                | some character =>
                    quotedFrom quote .body (character :: text) .empty rest
                | none => none
              else quotedFrom quote (.code (left - 1) value) text .empty rest
      | .closing =>
          if glyph.char == quote then
            quotedFrom quote .body (quote :: text) .empty rest
          else some ⟨collected text, false, glyph :: rest⟩

/-- What becomes of the line ends at the end of a block scalar. -/
inductive Chomping where
  | strip
  | clip
  | keep
  deriving DecidableEq, Repr

/--
The first line of a block scalar: its chomping and the indentation
it states, if any.
-/
structure BlockHeader where
  chomping : Chomping
  indentation : Option Nat
  rest : List Glyph
  deriving Repr

/-- The chomping that a character states. -/
def chompingMark (character : Char) : Option Chomping :=
  match character with
  | '+' => some .keep
  | '-' => some .strip
  | _ => none

/-- The glyphs after spaces and tabs. -/
def skipSpaces (characters : List Glyph) : List Glyph :=
  characters.dropWhile fun glyph => isSpace glyph.char

/-- The glyphs after a comment, if one begins here. -/
def skipComment (characters : List Glyph) : List Glyph :=
  if charAt characters 0 == '#' then
    characters.dropWhile fun glyph =>
      !(isBreak glyph.char || isClosing glyph.char)
  else characters

/-- The glyphs after blanks, a comment and a line end, which must come next. -/
def finishLine (characters : List Glyph) : Option (List Glyph) :=
  let rest := skipComment (skipSpaces characters)
  if isBreak (charAt rest 0) then some (rest.drop 1)
  else if charAt rest 0 == endMark then some rest
  else none

/--
Reads the marks that follow the indicator of a block scalar,
up to the end of its line.
-/
def blockHeader (characters : List Glyph) : Option BlockHeader :=
  let digit (character : Char) : Option Nat :=
    if character.isDigit then some (character.toNat - 48) else none
  let (chomping, indentation, length) :=
    match chompingMark (charAt characters 0), digit (charAt characters 0) with
    | some chomping, _ =>
        match digit (charAt characters 1) with
        | some number => (chomping, some number, 2)
        | none => (chomping, none, 1)
    | none, some number =>
        match chompingMark (charAt characters 1) with
        | some chomping => (chomping, some number, 2)
        | none => (Chomping.clip, some number, 1)
    | none, none => (Chomping.clip, none, 0)
  if indentation == some 0 then none
  else (finishLine (characters.drop length)).map fun rest =>
    ⟨chomping, indentation, rest⟩

/--
The state of a block scalar between two of its glyphs; collected texts have
the latest first.
-/
structure BlockState where
  inLine : Bool
  indentation : Option Nat
  deepest : Nat
  lastBreak : List Char
  emptyLines : List Char
  startedBlank : Bool
  text : List Char
  deriving Repr

/-- The text of a block scalar that ends in a given state. -/
def BlockState.finish (state : BlockState) (chomping : Chomping) : String :=
  match chomping with
  | .strip => collected state.text
  | .clip => collected (state.lastBreak ++ state.text)
  | .keep => collected (state.emptyLines ++ state.lastBreak ++ state.text)

/-- The state after the first character of a line with content. -/
def BlockState.startLine (state : BlockState) (isFolded : Bool)
    (indentation : Nat) (character : Char) : BlockState :=
  let joins :=
    isFolded && state.lastBreak == ['\n'] && !state.startedBlank &&
      !isSpace character
  let joined :=
    if joins then (if state.emptyLines.isEmpty then [' '] else [])
    else state.lastBreak
  { state with
    inLine := true
    indentation := some indentation
    lastBreak := []
    emptyLines := []
    startedBlank := isSpace character
    text := character :: (state.emptyLines ++ joined ++ state.text) }

/--
Reads the lines of a block scalar.  Without a stated indentation its first line
with content decides, though `least` columns at least are needed.
-/
def blockLinesFrom (isFolded : Bool) (chomping : Chomping) (least : Nat) :
    BlockState → List Glyph → Option ScalarText
  | state, [] => some ⟨state.finish chomping, false, []⟩
  | state, glyph :: rest =>
      let finished (state : BlockState) : Option ScalarText :=
        some ⟨state.finish chomping, false, glyph :: rest⟩
      if state.inLine then
        if isBreak glyph.char then
          blockLinesFrom isFolded chomping least
            { state with
              inLine := false, deepest := 0, lastBreak := [glyph.char] } rest
        else if isClosing glyph.char then finished state
        else
          blockLinesFrom isFolded chomping least
            { state with text := glyph.char :: state.text } rest
      else
        let shallow := match state.indentation with
          | none => true
          | some indentation => decide (glyph.column < indentation)
        let deepest := max state.deepest glyph.column
        if shallow && glyph.char == ' ' then
          blockLinesFrom isFolded chomping least
            { state with deepest := deepest } rest
        else if shallow && glyph.char == '\t' then none
        else if isBreak glyph.char then
          blockLinesFrom isFolded chomping least
            { state with
              deepest := deepest, emptyLines := glyph.char :: state.emptyLines }
            rest
        else
          let indentation := state.indentation.getD (max deepest least)
          if glyph.column == indentation && !isClosing glyph.char then
            blockLinesFrom isFolded chomping least
              (state.startLine isFolded indentation glyph.char) rest
          else finished state

/--
Reads a block scalar after its indicator, below a collection at the
column `parent`.
-/
def blockText (isFolded : Bool) (parent : Int) (characters : List Glyph) :
    Option ScalarText := do
  let header ← blockHeader characters
  let indentation :=
    header.indentation.map fun number => (max parent 0).toNat + number
  let least := max (parent + 1).toNat 1
  blockLinesFrom isFolded header.chomping least
    ⟨false, indentation, 0, [], [], false, []⟩ header.rest

end WireLayout.Document
