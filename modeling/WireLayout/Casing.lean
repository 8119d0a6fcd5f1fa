import WireLayout.Casing.Table

/-!
# Names in other cases

Schemas name attributes in camel case and types in Pascal case.  Target
languages want other forms: snake case for fields, upper case with underscores
for constants, and plain words for comments.  A word of a name begins at each
upper-case character, where upper case is the Unicode property, and changing
the case of one character may give several.
-/

namespace WireLayout.Casing

/-- Whether a character has the property Uppercase. -/
def isUpper (character : Char) : Bool :=
  if character.toNat < 128 then character.isUpper
  else upperRuns.any fun run => run.covers character.toNat

/--
The counterpart of a character in a pair of tables, or the character itself.
-/
def counterpart (expansions : List (Nat × List Nat)) (shifts : List Shift)
    (character : Char) : List Char :=
  match expansions.find? fun entry => entry.1 == character.toNat with
  | some entry => entry.2.map Char.ofNat
  | none =>
      match shifts.find? fun shift => shift.covers character.toNat with
      | some shift => [Char.ofNat (shift.image character.toNat)]
      | none => [character]

/-- The lower-case form of a character. -/
def lowerChar (character : Char) : List Char :=
  if character.toNat < 128 then [character.toLower]
  else counterpart lowerExpansions lowerShifts character

/-- The upper-case form of a character. -/
def upperChar (character : Char) : List Char :=
  if character.toNat < 128 then [character.toUpper]
  else counterpart raiseExpansions raiseShifts character

/-- Puts an underscore before each upper-case character. -/
def splitTail (characters : List Char) : List Char :=
  characters.flatMap fun character =>
    if isUpper character then ['_', character] else [character]

/--
Puts an underscore before each upper-case character but the first character.
-/
def splitChars : List Char → List Char
  | [] => []
  | first :: rest => first :: splitTail rest

/-- Puts a blank before each upper-case character and lowers it. -/
def phraseTail (characters : List Char) : List Char :=
  characters.flatMap fun character =>
    if isUpper character then ' ' :: lowerChar character else [character]

end WireLayout.Casing

namespace WireLayout

/-- A name with an upper-case first character. -/
def capitalize (name : String) : String :=
  match name.toList with
  | [] => ""
  | first :: rest => String.ofList (Casing.upperChar first ++ rest)

/-- A name with a lower-case first character. -/
def decapitalize (name : String) : String :=
  match name.toList with
  | [] => ""
  | first :: rest => String.ofList (Casing.lowerChar first ++ rest)

/-- A name whose words are set off by underscores, in the case it has. -/
def splitWords (name : String) : String :=
  String.ofList (Casing.splitChars name.toList)

/--
A name in snake case.  Every capital that is not the first character follows an
underscore, so a capital sigma never ends a word here and always becomes the
medial small sigma.
-/
def snakeCase (name : String) : String :=
  String.ofList ((Casing.splitChars name.toList).flatMap Casing.lowerChar)

/-- A name in upper case with underscores between its words. -/
def constantCase (name : String) : String :=
  String.ofList ((Casing.splitChars name.toList).flatMap Casing.upperChar)

/-- The words of a name as a phrase that begins with a capital. -/
def phrase (name : String) : String :=
  match name.toList with
  | [] => ""
  | first :: rest =>
      String.ofList (Casing.upperChar first ++ Casing.phraseTail rest)

end WireLayout
