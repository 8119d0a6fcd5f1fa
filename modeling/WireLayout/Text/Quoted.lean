import WireLayout.Text.Formless

/-!
# Quoted text

The form in which a message shows a string value: between double quotes, with
the usual short escapes, and with every other character that has no visible
form written as its number in lower-case hexadecimal.
-/

namespace WireLayout.Text

/--
The character with which a backslash escapes a given one, where there is
such a short form.
-/
def shortEscape (character : Char) : Option Char :=
  match character with
  | '\x00' => some '0'
  | '\t' => some 't'
  | '\n' => some 'n'
  | '\r' => some 'r'
  | '"' => some '"'
  | '\\' => some '\\'
  | _ => none

/-- The form of one character inside quotes. -/
def quotedChar (character : Char) : List Char :=
  match shortEscape character with
  | some letter => ['\\', letter]
  | none =>
      if isFormless character then
        ['\\', 'u', '\x7b'] ++ Nat.toDigits 16 character.toNat ++ ['\x7d']
      else [character]

/-- A text between double quotes. -/
def quoted (text : String) : String :=
  String.ofList (['"'] ++ text.toList.flatMap quotedChar ++ ['"'])

end WireLayout.Text
