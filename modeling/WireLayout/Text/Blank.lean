/-!
# Blank text

A character is blank when Unicode gives it the property White_Space.  Comments
are trimmed by this rule, and a document is empty when it holds nothing else.
-/

namespace WireLayout.Text

/-- The ranges of code points with the property White_Space. -/
def blankRanges : List (Nat × Nat) :=
  [(0x9, 0xd), (0x20, 0x20), (0x85, 0x85), (0xa0, 0xa0), (0x1680, 0x1680),
    (0x2000, 0x200a), (0x2028, 0x2029), (0x202f, 0x202f), (0x205f, 0x205f),
    (0x3000, 0x3000)]

/-- Whether a character has the property White_Space. -/
def isBlankChar (character : Char) : Bool :=
  blankRanges.any fun range =>
    decide (range.1 ≤ character.toNat) && decide (character.toNat ≤ range.2)

/-- Whether a text holds blank characters only. -/
def isBlank (text : String) : Bool :=
  text.toList.all isBlankChar

/-- Removes the blank characters at both ends of a sequence. -/
def trimChars (characters : List Char) : List Char :=
  ((characters.dropWhile isBlankChar).reverse.dropWhile isBlankChar).reverse

/-- Removes the blank characters at both ends of a text. -/
def trim (text : String) : String :=
  String.ofList (trimChars text.toList)

/-- Twenty-five characters are blank. -/
example :
    (blankRanges.map fun range => range.2 + 1 - range.1).sum = 25 := by decide

/-- Trimming leaves nothing of a blank sequence. -/
theorem trimChars_of_all_blank {characters : List Char}
    (blank : characters.all isBlankChar = true) :
    trimChars characters = [] := by
  have dropped : characters.dropWhile isBlankChar = [] := by
    induction characters with
    | nil => rfl
    | cons first rest ih =>
        simp only [List.all_cons, Bool.and_eq_true] at blank
        simp [blank.1, ih blank.2]
  simp [trimChars, dropped]

end WireLayout.Text
