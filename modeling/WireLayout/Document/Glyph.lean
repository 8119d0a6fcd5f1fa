/-!
# Characters in place

A document is read as a sequence of glyphs: characters that know the line and
the column at which they stand.  The ways of ending a line are made one on the
way in, and a glyph without a character of its own stands after the last one,
so that a reader always has a glyph in front of it.

Control characters other than the tab and the line ends cannot be part of a
document.  A text is taken in by portions, and a portion that holds such a
character is not taken in at all; a glyph that no reader accepts then
stands in its place.
-/

namespace WireLayout.Document

/--
A character together with its place, counted from zero: the octets before it in
the text's UTF-8 form, the line, and the characters before it on that line.
-/
structure Glyph where
  char : Char
  offset : Nat
  line : Nat
  column : Nat
  deriving DecidableEq, Repr

/-- The character that stands for the end; no document contains it. -/
def endMark : Char := '\x00'

/--
The character that stands for what cannot be taken in; no document contains it.
-/
def faultMark : Char := '\x1a'

/-- Whether a character stands for the end or for what cannot be taken in. -/
def isClosing (character : Char) : Bool :=
  character == endMark || character == faultMark

/-- Whether a document may contain a character. -/
def isAdmissible (character : Char) : Bool :=
  let point := character.toNat
  character == '\t' || character == '\n' || character == '\r' ||
    point == 0x85 ||
    (decide (0x20 ≤ point) && decide (point ≤ 0x7e)) ||
    (decide (0xa0 ≤ point) && decide (point ≤ 0xfffd)) ||
    decide (0x10000 ≤ point)

/-- Whether a character ends a line. -/
def isBreak (character : Char) : Bool :=
  character == '\n' || character == '\u2028' || character == '\u2029'

/-- Whether a character is a space or a tab. -/
def isSpace (character : Char) : Bool :=
  character == ' ' || character == '\t'

/-- Whether a character is a space, a tab, a line end or the end. -/
def isGap (character : Char) : Bool :=
  isSpace character || isBreak character || character == endMark

/-- The characters with the line ends of all systems written as a line feed. -/
def unifyBreaks : List Char → List Char
  | [] => []
  | '\r' :: '\n' :: rest => '\n' :: unifyBreaks rest
  | character :: rest =>
      (if character == '\r' || character == '\u0085' then '\n'
        else character) :: unifyBreaks rest

/--
Places characters one after the other from a given place on, and a
closing one after them.
-/
def placed (closing : Char) : Nat → Nat → Nat → List Char → List Glyph
  | offset, line, column, [] => [⟨closing, offset, line, column⟩]
  | offset, line, column, character :: rest =>
      ⟨character, offset, line, column⟩ ::
        (if isBreak character then
          placed closing (offset + character.utf8Size) (line + 1) 0 rest
        else
          placed closing (offset + character.utf8Size) line (column + 1) rest)

/-- The number of octets that a portion of a text has room for. -/
def portionSize : Nat := 16384

/--
The characters of a text that can be taken in, and whether these are all.
`room` octets are left in the portion whose characters so far are given, latest
first; no character is divided.
-/
def takenIn : Nat → List Char → List Char → List Char × Bool
  | _, portion, [] => (portion.reverse, true)
  | room, portion, character :: rest =>
      let size := character.utf8Size
      if room < size then
        let (later, isWhole) :=
          if isAdmissible character then
            takenIn (portionSize - size) [character] rest
          else ([], false)
        (portion.reverse ++ later, isWhole)
      else if isAdmissible character then
        takenIn (room - size) (character :: portion) rest
      else ([], false)

/-- The glyphs of a text. -/
def glyphs (text : String) : List Glyph :=
  let (characters, isWhole) := takenIn portionSize [] text.toList
  placed (if isWhole then endMark else faultMark) 0 0 0 (unifyBreaks characters)

/-- The character at a distance from the first of some glyphs. -/
def charAt (characters : List Glyph) (distance : Nat) : Char :=
  (characters[distance]?.map Glyph.char).getD endMark

/-- The first of some glyphs. -/
def here (characters : List Glyph) : Glyph :=
  characters.headD ⟨endMark, 0, 0, 0⟩

/-- Whether so many of the first glyphs can be taken in. -/
def inSight (length : Nat) (characters : List Glyph) : Bool :=
  (characters.take length).all fun glyph => glyph.char != faultMark

/--
Whether the glyphs begin with three equal characters and a gap at the
start of a line.
-/
def isDocumentMark (mark : Char) (characters : List Glyph) : Bool :=
  (here characters).column == 0 && charAt characters 0 == mark &&
    charAt characters 1 == mark &&
    charAt characters 2 == mark && isGap (charAt characters 3)

/-- Whether the glyphs begin with a line that starts or ends a document. -/
def isDocumentBoundary (characters : List Glyph) : Bool :=
  isDocumentMark '-' characters || isDocumentMark '.' characters

/-- Placing characters yields one glyph for each and one that closes them. -/
@[simp]
theorem length_placed (closing : Char) (offset line column : Nat)
    (characters : List Char) :
    (placed closing offset line column characters).length =
      characters.length + 1 := by
  induction characters generalizing offset line column with
  | nil => rfl
  | cons character rest ih =>
      simp only [placed, List.length_cons]
      split <;> simp [ih]

/-- A text of admissible characters is taken in as a whole. -/
theorem takenIn_of_all_admissible {characters : List Char}
    (admissible : characters.all isAdmissible = true) (room : Nat)
    (portion : List Char) :
    takenIn room portion characters =
      (portion.reverse ++ characters, true) := by
  induction characters generalizing room portion with
  | nil => simp [takenIn]
  | cons character rest ih =>
      simp only [List.all_cons, Bool.and_eq_true] at admissible
      simp only [takenIn, admissible.1, ih admissible.2, if_true]
      split <;> simp

end WireLayout.Document
