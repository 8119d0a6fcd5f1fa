import WireLayout.Proofs.TaggedValues
import WireLayout.Proofs.Variants

/-!
# Names in other forms and back

Splitting a name into words puts an underscore before each capital after the
first character.  Every capital has one then, so the last underscore before a
capital is always one that was put in, and any name is found again from its
words, even one that has underscores itself.

Snake case and the form of constants give up the case of the letters as well.
What the case of a letter says is then said by the underscore before it, but
for the first letter, and as long as the name has no underscores of its own.
So names of ASCII characters in camel case correspond one to one to texts in
snake case, and such names in Pascal case to texts in the form of constants.

Attributes in camel case with different names therefore have different fields
in a class of the language whose fields are in snake case, and composites in
Pascal case with different names have different constants in an enumeration.
-/

namespace WireLayout

namespace Casing

/-- Takes away each underscore before an upper-case character. -/
def joinTail : List Char → List Char
  | [] => []
  | character :: rest =>
      if character = '_' ∧ rest.head?.any isUpper = true then joinTail rest
      else character :: joinTail rest

/-- The case of a letter. -/
inductive LetterCase where
  | small
  | capital
  deriving DecidableEq, Repr

namespace LetterCase

/-- The other case. -/
def other : LetterCase → LetterCase
  | .small => .capital
  | .capital => .small

/-- Whether a character is an ASCII letter of a case. -/
def holds : LetterCase → Char → Bool
  | .small, character => character.isLower
  | .capital, character => character.isUpper

/-- A character in a case, if it is an ASCII letter. -/
def put : LetterCase → Char → Char
  | .small, character => character.toLower
  | .capital, character => character.toUpper

/-- A name with underscores between its words and all its letters in a case. -/
def write : LetterCase → String → String
  | .small => snakeCase
  | .capital => constantCase

theorem write_small : LetterCase.small.write = snakeCase :=
  rfl

theorem write_capital : LetterCase.capital.write = constantCase :=
  rfl

end LetterCase

/--
Takes away all underscores, raises what follows one, and lowers everything
else.  The case for what comes first is given.
-/
def mixTail : LetterCase → List Char → List Char
  | _, [] => []
  | next, character :: rest =>
      if character = '_' then mixTail .capital rest
      else next.put character :: mixTail .small rest

end Casing

/-- A name without the underscores before its capitals. -/
def joinWords (text : String) : String :=
  match text.toList with
  | [] => ""
  | first :: rest => String.ofList (first :: Casing.joinTail rest)

/--
The words of a text joined without underscores, each but the first
begun with a capital.
-/
def mixedCase (text : String) : String :=
  match text.toList with
  | [] => ""
  | first :: rest => String.ofList (first :: Casing.mixTail .small rest)

/--
A name of ASCII characters without underscores that begins with a
letter of a case.
-/
structure IsMixedCase (initial : Casing.LetterCase) (name : String) : Prop where
  ascii : ∀ character ∈ name.toList, character.toNat < 128
  undivided : '_' ∉ name.toList
  begins : ∃ first ∈ name.toList.head?, initial.holds first = true

/--
A text of ASCII characters whose letters are of one case, and whose words
begin with letters.
-/
structure IsSingleCase (letters : Casing.LetterCase)
    (text : String) : Prop where
  ascii : ∀ character ∈ text.toList, character.toNat < 128
  begins : ∃ first ∈ text.toList.head?, letters.holds first = true
  uniform : ∀ character ∈ text.toList, letters.other.holds character = false
  divided : ∀ before after, text.toList = before ++ '_' :: after →
    ∃ first ∈ after.head?, letters.holds first = true

/-- A name in camel case. -/
abbrev IsCamelCase (name : String) : Prop :=
  IsMixedCase .small name

/-- A name in Pascal case. -/
abbrev IsPascalCase (name : String) : Prop :=
  IsMixedCase .capital name

/-- A text in snake case. -/
abbrev IsSnakeCase (text : String) : Prop :=
  IsSingleCase .small text

/-- A text in the form of constants. -/
abbrev IsConstantCase (text : String) : Prop :=
  IsSingleCase .capital text

namespace Casing

/-! ## Words -/

theorem splitTail_cons_of_isUpper
    {character : Char} (rest : List Char)
    (upper : isUpper character = true) :
    splitTail (character :: rest) = '_' :: character :: splitTail rest := by
  simp [splitTail, upper]

theorem splitTail_cons_of_not_isUpper
    {character : Char} (rest : List Char)
    (plain : isUpper character = false) :
    splitTail (character :: rest) = character :: splitTail rest := by
  simp [splitTail, plain]

/--
A capital is never the first of split characters: an underscore
comes before it.
-/
theorem any_isUpper_head?_splitTail (characters : List Char) :
    (splitTail characters).head?.any isUpper = false := by
  cases characters with
  | nil => rfl
  | cons character rest =>
      cases upper : isUpper character with
      | true =>
          rw [splitTail_cons_of_isUpper rest upper]
          rfl
      | false =>
          rw [splitTail_cons_of_not_isUpper rest upper]
          exact upper

/-- What splitting puts in is what joining takes away. -/
theorem joinTail_splitTail (characters : List Char) :
    joinTail (splitTail characters) = characters := by
  induction characters with
  | nil => rfl
  | cons character rest ih =>
      cases upper : isUpper character with
      | true =>
          have letter : character ≠ '_' := by
            rintro rfl
            cases upper
          rw [splitTail_cons_of_isUpper rest upper, joinTail,
            if_pos ⟨rfl, upper⟩, joinTail, if_neg fun mark => letter mark.1, ih]
      | false =>
          -- The next character is no capital, so this one stays even if it is
          -- an underscore.
          have next := any_isUpper_head?_splitTail rest
          rw [splitTail_cons_of_not_isUpper rest upper, joinTail, next,
            if_neg fun mark => Bool.false_ne_true mark.2, ih]

theorem eq_underscore_or_mem_of_mem_splitTail
    {character : Char} {characters : List Char}
    (among : character ∈ splitTail characters) :
    character = '_' ∨ character ∈ characters := by
  rcases List.mem_flatMap.mp among with ⟨source, member, written⟩
  split at written
  · rcases List.mem_cons.mp written with rfl | last
    · exact Or.inl rfl
    · rw [List.mem_singleton.mp last]
      exact Or.inr member
  · rw [List.mem_singleton.mp written]
    exact Or.inr member

theorem eq_underscore_or_mem_of_mem_splitChars
    {character : Char} {characters : List Char}
    (among : character ∈ splitChars characters) :
    character = '_' ∨ character ∈ characters := by
  cases characters with
  | nil => exact Or.inr among
  | cons first rest =>
      rcases List.mem_cons.mp among with rfl | later
      · exact Or.inr List.mem_cons_self
      · exact (eq_underscore_or_mem_of_mem_splitTail later).imp_right
          (List.mem_cons_of_mem first)

/-! ## Letters -/

theorem isUpper_of_ascii
    {character : Char}
    (ascii : character.toNat < 128) :
    isUpper character = LetterCase.capital.holds character :=
  if_pos ascii

namespace LetterCase

variable {letters : LetterCase} {character : Char}

/-- A character in a case does not tell the case that it had. -/
@[simp]
theorem put_put (letters before : LetterCase) (character : Char) :
    letters.put (before.put character) = letters.put character := by
  cases letters with
  | small =>
      cases before with
      | small => exact Char.toLower_toLower_eq_toLower character
      | capital => exact Char.toLower_toUpper_eq_toLower character
  | capital =>
      cases before with
      | small => exact Char.toUpper_toLower_eq_toUpper character
      | capital => exact Char.toUpper_toUpper_eq_toUpper character

/-- No letter is left in the other case. -/
theorem holds_other_put (letters : LetterCase) (character : Char) :
    letters.other.holds (letters.put character) = false := by
  cases letters with
  | small => exact Char.isUpper_toLower_eq_false character
  | capital => exact Char.isLower_toUpper_eq_false character

theorem put_of_holds_other_eq_false
    (uniform : letters.other.holds character = false) :
    letters.put character = character := by
  cases letters with
  | small => exact Char.toLower_eq_of_not_isUpper (Bool.eq_false_iff.mp uniform)
  | capital =>
      exact Char.toUpper_eq_of_not_isLower (Bool.eq_false_iff.mp uniform)

theorem holds_other_of_holds
    (letter : letters.holds character = true) :
    letters.other.holds character = false := by
  cases letters with
  | small => exact Bool.eq_false_iff.mpr (Char.not_isUpper_of_isLower letter)
  | capital => exact Bool.eq_false_iff.mpr (Char.not_isLower_of_isUpper letter)

theorem put_of_holds
    (letter : letters.holds character = true) :
    letters.put character = character :=
  put_of_holds_other_eq_false (holds_other_of_holds letter)

theorem isAlpha_of_holds
    (letter : letters.holds character = true) :
    character.isAlpha = true := by
  cases letters with
  | small => exact Bool.or_eq_true_iff.mpr (Or.inr letter)
  | capital => exact Bool.or_eq_true_iff.mpr (Or.inl letter)

theorem isAlpha_put (letters : LetterCase) (character : Char) :
    (letters.put character).isAlpha = character.isAlpha := by
  cases letters with
  | small => exact Char.isAlpha_toLower_eq_isAlpha character
  | capital => exact Char.isAlpha_toUpper_eq_isAlpha character

theorem holds_put (letters : LetterCase) (character : Char) :
    letters.holds (letters.put character) = character.isAlpha := by
  cases letters with
  | small => exact Char.isLower_toLower_eq_isAlpha character
  | capital => exact Char.isUpper_toUpper_eq_isAlpha character

theorem put_of_isAlpha_eq_false
    (other : character.isAlpha = false) :
    letters.put character = character := by
  refine put_of_holds_other_eq_false (Bool.eq_false_iff.mpr ?_)
  intro letter
  rw [isAlpha_of_holds letter] at other
  cases other

theorem ne_underscore_of_holds
    (letter : letters.holds character = true) :
    character ≠ '_' := by
  rintro rfl
  cases letters with
  | small => cases letter
  | capital => cases letter

/-- Only an underscore becomes one. -/
theorem put_eq_underscore_iff :
    letters.put character = '_' ↔ character = '_' := by
  constructor
  · intro same
    have other : character.isAlpha = false := by
      rw [← isAlpha_put letters, same]
      rfl
    rwa [put_of_isAlpha_eq_false other] at same
  · rintro rfl
    cases letters with
    | small => rfl
    | capital => rfl

@[simp]
theorem put_underscore (letters : LetterCase) : letters.put '_' = '_' :=
  put_eq_underscore_iff.mpr rfl

theorem toNat_lt_of_isAlpha
    (letter : character.isAlpha = true) :
    character.toNat < 128 := by
  simp only [Char.isAlpha, Char.isUpper, Char.isLower, Char.reduceVal,
    ge_iff_le, UInt32.le_iff_toNat_le, UInt32.reduceToNat, Char.toNat_val,
    Bool.decide_and, Bool.or_eq_true, Bool.and_eq_true,
    decide_eq_true_eq] at letter
  omega

theorem toNat_put_lt
    (letters : LetterCase)
    (ascii : character.toNat < 128) :
    (letters.put character).toNat < 128 := by
  cases letter : character.isAlpha with
  | true =>
      exact toNat_lt_of_isAlpha ((isAlpha_put letters character).trans letter)
  | false => rwa [put_of_isAlpha_eq_false letter]

end LetterCase

/-! ## Tails of names -/

theorem mixTail_mark (next : LetterCase) (rest : List Char) :
    mixTail next ('_' :: rest) = mixTail .capital rest :=
  if_pos rfl

theorem mixTail_cons
    {character : Char} (next : LetterCase) (rest : List Char)
    (unmarked : character ≠ '_') :
    mixTail next (character :: rest) =
      next.put character :: mixTail .small rest :=
  if_neg unmarked

/--
A mixed tail has the characters of a text but the underscores,
each in some case.
-/
theorem exists_of_mem_mixTail
    {character : Char} {characters : List Char} {next : LetterCase}
    (among : character ∈ mixTail next characters) :
    ∃ source ∈ characters, source ≠ '_' ∧
      ∃ letters : LetterCase, character = letters.put source := by
  induction characters generalizing next with
  | nil => cases among
  | cons first rest ih =>
      by_cases mark : first = '_'
      · rw [mark, mixTail_mark] at among
        rcases ih among with ⟨source, member, letter⟩
        exact ⟨source, List.mem_cons_of_mem first member, letter⟩
      · rw [mixTail_cons next rest mark] at among
        rcases List.mem_cons.mp among with rfl | later
        · exact ⟨first, List.mem_cons_self, mark, next, rfl⟩
        · rcases ih later with ⟨source, member, letter⟩
          exact ⟨source, List.mem_cons_of_mem first member, letter⟩

/-- An underscore that comes after another character comes later. -/
theorem exists_split_of_cons_eq
    {character : Char} {rest before after : List Char}
    (unmarked : character ≠ '_')
    (split : character :: rest = before ++ '_' :: after) :
    ∃ shorter, rest = shorter ++ '_' :: after := by
  rcases List.cons_eq_append_iff.mp split with ⟨_, same⟩ | ⟨shorter, _, same⟩
  · exact absurd (List.cons.inj same).1.symm unmarked
  · exact ⟨shorter, same⟩

section Tails

variable {letters : LetterCase} {characters : List Char}

/-- The first character of a tail that is split and put in a case. -/
theorem map_put_splitTail_cons
    {character : Char} (rest : List Char)
    (ascii : character.toNat < 128) :
    (splitTail (character :: rest)).map letters.put =
      if LetterCase.capital.holds character then
        '_' :: letters.put character :: (splitTail rest).map letters.put
      else letters.put character :: (splitTail rest).map letters.put := by
  have upper := isUpper_of_ascii ascii
  cases capital : LetterCase.capital.holds character with
  | true =>
      rw [splitTail_cons_of_isUpper rest (upper.trans capital), List.map_cons,
        List.map_cons, LetterCase.put_underscore, if_pos rfl]
  | false =>
      rw [splitTail_cons_of_not_isUpper rest (upper.trans capital),
        List.map_cons, if_neg Bool.false_ne_true]

/--
The capitals of a name are found again after the underscores, in
whatever case they are.
-/
theorem mixTail_map_put_splitTail
    (ascii : ∀ character ∈ characters, character.toNat < 128)
    (undivided : '_' ∉ characters) :
    mixTail .small ((splitTail characters).map letters.put) = characters := by
  induction characters with
  | nil => rfl
  | cons character rest ih =>
      rcases List.forall_mem_cons.mp ascii with ⟨first, later⟩
      rcases not_or.mp (List.mem_cons.not.mp undivided) with
        ⟨unmarked, undivided⟩
      have unmarkedPut : letters.put character ≠ '_' :=
        LetterCase.put_eq_underscore_iff.not.mpr (Ne.symm unmarked)
      rw [map_put_splitTail_cons rest first]
      split
      · next capital =>
          rw [mixTail_mark, mixTail_cons _ _ unmarkedPut, LetterCase.put_put,
            LetterCase.put_of_holds capital, ih later undivided]
      · next plain =>
          have kept : LetterCase.small.put character = character :=
            LetterCase.put_of_holds_other_eq_false (Bool.eq_false_iff.mpr plain)
          rw [mixTail_cons _ _ unmarkedPut, LetterCase.put_put, kept,
            ih later undivided]

/-- An underscore that splitting puts in is followed by a letter. -/
theorem exists_head?_of_map_put_splitTail
    {before after : List Char}
    (ascii : ∀ character ∈ characters, character.toNat < 128)
    (undivided : '_' ∉ characters)
    (written :
      (splitTail characters).map letters.put = before ++ '_' :: after) :
    ∃ first ∈ after.head?, letters.holds first = true := by
  induction characters generalizing before with
  | nil =>
      have impossible := congrArg List.length written
      simp [splitTail] at impossible
  | cons character rest ih =>
      rcases List.forall_mem_cons.mp ascii with ⟨first, later⟩
      rcases not_or.mp (List.mem_cons.not.mp undivided) with
        ⟨unmarked, undivided⟩
      have unmarkedPut : letters.put character ≠ '_' :=
        LetterCase.put_eq_underscore_iff.not.mpr (Ne.symm unmarked)
      rw [map_put_splitTail_cons rest first] at written
      split at written
      · next capital =>
          rcases List.cons_eq_append_iff.mp written with
            ⟨_, same⟩ | ⟨shorter, _, same⟩
          · rcases (List.cons.inj same).2 with rfl
            refine ⟨letters.put character, rfl, ?_⟩
            rw [LetterCase.holds_put, LetterCase.isAlpha_of_holds capital]
          · rcases exists_split_of_cons_eq unmarkedPut same with ⟨_, same⟩
            exact ih later undivided same
      · rcases exists_split_of_cons_eq unmarkedPut written with ⟨_, same⟩
        exact ih later undivided same

/--
The underscores of a text are put in again, and its letters are in one case
again.
-/
theorem map_put_splitTail_mixTail
    (next : LetterCase)
    (ascii : ∀ character ∈ characters, character.toNat < 128)
    (uniform : ∀ character ∈ characters, letters.other.holds character = false)
    (divided : ∀ before after, characters = before ++ '_' :: after →
      ∃ first ∈ after.head?, letters.holds first = true)
    (begins : next = .capital →
      ∃ first ∈ characters.head?, letters.holds first = true) :
    (splitTail (mixTail next characters)).map letters.put =
      if next = .capital then '_' :: characters else characters := by
  -- The underscore of a word is put in only with its first letter, so the
  -- induction is for a text that comes after one as well.
  induction characters generalizing next with
  | nil =>
      cases next with
      | small => rfl
      | capital =>
          rcases begins rfl with ⟨first, impossible, _⟩
          cases impossible
  | cons character rest ih =>
      rcases List.forall_mem_cons.mp ascii with ⟨first, asciiRest⟩
      rcases List.forall_mem_cons.mp uniform with ⟨own, uniformRest⟩
      have dividedRest (before after : List Char)
          (split : rest = before ++ '_' :: after) : ∃ first ∈ after.head?,
          letters.holds first = true :=
        divided (character :: before) after
          (congrArg (List.cons character) split)
      have onRest (next : LetterCase) :=
        ih next asciiRest uniformRest dividedRest
      have kept : letters.put character = character :=
        LetterCase.put_of_holds_other_eq_false own
      by_cases mark : character = '_'
      · subst mark
        cases next with
        | small =>
            rw [mixTail_mark, onRest .capital fun _ => divided [] rest rfl]
            rfl
        | capital =>
            rcases begins rfl with ⟨_, ⟨⟩, letter⟩
            exact absurd rfl (LetterCase.ne_underscore_of_holds letter)
      · have later := onRest .small fun impossible => by cases impossible
        rw [mixTail_cons next rest mark,
          map_put_splitTail_cons _ (next.toNat_put_lt first),
          LetterCase.put_put, kept, later]
        cases next with
        | small =>
            have plain :
                LetterCase.capital.holds (LetterCase.small.put character) =
                  false :=
              LetterCase.small.holds_other_put character
            rw [plain]
            rfl
        | capital =>
            rcases begins rfl with ⟨_, ⟨⟩, letter⟩
            rw [LetterCase.holds_put, LetterCase.isAlpha_of_holds letter]
            rfl

end Tails

end Casing

/-! ## Names -/

open Casing

/-- Every name is joined again from its words. -/
theorem joinWords_splitWords (name : String) :
    joinWords (splitWords name) = name := by
  rw [joinWords, splitWords, String.toList_ofList]
  cases characters : name.toList with
  | nil => exact (String.toList_eq_nil_iff.mp characters).symm
  | cons first rest =>
      show String.ofList (first :: joinTail (splitTail rest)) = name
      rw [joinTail_splitTail, ← characters, String.ofList_toList]

theorem Casing.LetterCase.toList_write
    {name : String} (letters : LetterCase)
    (ascii : ∀ character ∈ name.toList, character.toNat < 128) :
    (letters.write name).toList = (splitChars name.toList).map letters.put := by
  have asciiWords (character : Char)
      (among : character ∈ splitChars name.toList) : character.toNat < 128 := by
    rcases eq_underscore_or_mem_of_mem_splitChars among with rfl | member
    · decide
    · exact ascii character member
  cases letters with
  | small =>
      rw [write, snakeCase, String.toList_ofList, List.map_eq_flatMap]
      exact List.flatMap_congr fun character among =>
        if_pos (asciiWords character among)
  | capital =>
      rw [write, constantCase, String.toList_ofList, List.map_eq_flatMap]
      exact List.flatMap_congr fun character among =>
        if_pos (asciiWords character among)

section Forms

variable {letters : LetterCase} {name text : String}

/--
A name in mixed case keeps its first letter when it is written in
the case of that.
-/
theorem IsMixedCase.exists_toList_eq
    (mixed : IsMixedCase letters name) :
    ∃ first rest, name.toList = first :: rest ∧ letters.holds first = true ∧
      (∀ character ∈ rest, character.toNat < 128) ∧ '_' ∉ rest ∧
      (letters.write name).toList =
        first :: (splitTail rest).map letters.put := by
  rcases mixed with ⟨ascii, undivided, first, head, letter⟩
  rcases List.head?_eq_some_iff.mp head with ⟨rest, characters⟩
  refine ⟨first, rest, characters, letter, ?_, ?_, ?_⟩
  · intro character among
    exact ascii character (characters ▸ List.mem_cons_of_mem first among)
  · intro among
    exact undivided (characters ▸ List.mem_cons_of_mem first among)
  · rw [letters.toList_write ascii, characters, splitChars, List.map_cons,
      LetterCase.put_of_holds letter]

/-- The first letter of a text in a single case, and the rest of it. -/
theorem IsSingleCase.exists_toList_eq
    (single : IsSingleCase letters text) :
    ∃ first rest, text.toList = first :: rest ∧ letters.holds first = true ∧
      (mixedCase text).toList = first :: mixTail .small rest := by
  rcases single.begins with ⟨first, head, letter⟩
  rcases List.head?_eq_some_iff.mp head with ⟨rest, characters⟩
  refine ⟨first, rest, characters, letter, ?_⟩
  rw [mixedCase, characters]
  exact String.toList_ofList

/-- A name in mixed case is recovered from its form in a single case. -/
theorem mixedCase_write
    (mixed : IsMixedCase letters name) :
    mixedCase (letters.write name) = name := by
  rcases mixed.exists_toList_eq with
    ⟨first, rest, characters, _, ascii, undivided, written⟩
  rw [mixedCase, written]
  show String.ofList
    (first :: mixTail .small ((splitTail rest).map letters.put)) = name
  rw [mixTail_map_put_splitTail ascii undivided, ← characters,
    String.ofList_toList]

theorem mixedCase_snakeCase
    (camel : IsCamelCase name) :
    mixedCase (snakeCase name) = name := by
  rw [← LetterCase.write_small]
  exact mixedCase_write camel

theorem mixedCase_constantCase
    (pascal : IsPascalCase name) :
    mixedCase (constantCase name) = name := by
  rw [← LetterCase.write_capital]
  exact mixedCase_write pascal

/-- The form of a name in a single case shows its words. -/
theorem IsMixedCase.isSingleCase_write
    (mixed : IsMixedCase letters name) :
    IsSingleCase letters (letters.write name) := by
  rcases mixed.exists_toList_eq with
    ⟨first, rest, _, letter, ascii, undivided, written⟩
  have characters := letters.toList_write mixed.ascii
  constructor
  · intro character among
    rw [characters] at among
    rcases List.mem_map.mp among with ⟨source, member, rfl⟩
    rcases eq_underscore_or_mem_of_mem_splitChars member with rfl | member
    · exact letters.toNat_put_lt (by decide)
    · exact letters.toNat_put_lt (mixed.ascii source member)
  · exact ⟨first, by rw [written]; rfl, letter⟩
  · intro character among
    rw [characters] at among
    rcases List.mem_map.mp among with ⟨source, _, rfl⟩
    exact LetterCase.holds_other_put letters source
  · intro before after split
    rw [written] at split
    rcases exists_split_of_cons_eq (LetterCase.ne_underscore_of_holds letter)
        split with ⟨_, same⟩
    exact exists_head?_of_map_put_splitTail ascii undivided same

/-- A text that shows its words is the form of a name in mixed case. -/
theorem IsSingleCase.isMixedCase_mixedCase
    (single : IsSingleCase letters text) :
    IsMixedCase letters (mixedCase text) := by
  rcases single.exists_toList_eq with ⟨first, rest, characters, letter, mixed⟩
  have source {character : Char} (among : character ∈ (mixedCase text).toList) :
      ∃ source ∈ text.toList, source ≠ '_' ∧
        ∃ letters : LetterCase, character = letters.put source := by
    rw [mixed] at among
    rw [characters]
    rcases List.mem_cons.mp among with rfl | later
    · exact ⟨_, List.mem_cons_self, LetterCase.ne_underscore_of_holds letter,
        letters, (LetterCase.put_of_holds letter).symm⟩
    · rcases exists_of_mem_mixTail later with ⟨source, member, letter⟩
      exact ⟨source, List.mem_cons_of_mem first member, letter⟩
  constructor
  · intro character among
    rcases source among with ⟨source, member, _, letters, rfl⟩
    exact letters.toNat_put_lt (single.ascii source member)
  · intro among
    rcases source among with ⟨source, _, unmarked, _, same⟩
    exact unmarked (LetterCase.put_eq_underscore_iff.mp same.symm)
  · exact ⟨first, by rw [mixed]; rfl, letter⟩

/-- A text that shows its words is recovered from the name in mixed case. -/
theorem write_mixedCase
    (single : IsSingleCase letters text) :
    letters.write (mixedCase text) = text := by
  rcases single.exists_toList_eq with ⟨first, rest, characters, letter, mixed⟩
  have ascii := single.ascii
  have uniform := single.uniform
  have divided := single.divided
  rw [characters] at ascii uniform divided
  apply String.toList_injective
  rw [letters.toList_write single.isMixedCase_mixedCase.ascii, mixed,
    splitChars, List.map_cons, LetterCase.put_of_holds letter, characters]
  congr 1
  refine map_put_splitTail_mixTail .small (List.forall_mem_cons.mp ascii).2
    (List.forall_mem_cons.mp uniform).2 ?_ fun impossible => by cases impossible
  intro before after split
  exact divided (first :: before) after (congrArg (List.cons first) split)

end Forms

/-- Names in mixed case correspond to texts in a single case one to one. -/
theorem Casing.LetterCase.bijOn_write (letters : LetterCase) :
    Set.BijOn letters.write {name | IsMixedCase letters name}
      {text | IsSingleCase letters text} := by
  have inverse :
      Set.InvOn mixedCase letters.write {name | IsMixedCase letters name}
        {text | IsSingleCase letters text} :=
    ⟨fun _ mixed => mixedCase_write mixed,
      fun _ single => write_mixedCase single⟩
  apply inverse.bijOn
  · intro name mixed
    exact mixed.isSingleCase_write
  · intro text single
    exact single.isMixedCase_mixedCase

/--
Snake case tells neither an underscore of the name nor the case of
its first letter.
-/
example :
    ["maxFee", "max_fee", "MaxFee"].map snakeCase =
      ["max_fee", "max_fee", "max_fee"] := by
  cbv

/-! ## Fields and constants -/

theorem Occurrence.Yields.fieldName_eq
    {context : WalkContext} {occurrence : Occurrence} {member : Member}
    (yields : occurrence.Yields context member) :
    member.fieldName = context.language.fieldName member.name := by
  rw [yields.name_eq]
  rcases yields with ⟨_, _, _, _, _, same⟩
  simpa only [Member.unlinked, Occurrence.member]
    using congrArg Member.fieldName same

/-- The members of a class have the fields of their names. -/
theorem ClassModel.fieldName_of_build_eq_ok
    {schema : Schema} {settings : Settings} {language : Language}
    {root : String} {model : ClassModel} {member : Member}
    (built : ClassModel.build schema settings language root = .ok model)
    (among : member ∈ model.members) :
    member.fieldName = language.fieldName member.name := by
  rcases exists_of_build_eq_ok built with ⟨composition, composed, links, _⟩
  rcases compose_eq_ok composed with ⟨_, _, _, _, _, _, yielded, sized⟩
  rcases exists_left_of_forall₂ (forall₂_links_of_linkDiscriminants_eq_ok links)
      among with
    ⟨own, ownAmong, linked⟩
  rcases exists_left_of_forall₂ (forall₂_yields yielded sized) ownAmong with
    ⟨_, _, yields⟩
  have same := congrArg Member.fieldName linked.unconditioned_eq
  simp only [Member.unconditioned] at same
  rw [same, yields.fieldName_eq, linked.name_eq]
  rfl

/-- The values for composites have the constants of the names of these. -/
theorem EnumModel.constantName_of_mem_reverseReferences
    {schema : Schema} {settings : Settings} {language : Language}
    {name : String} {model : EnumModel} {value : EnumValueModel}
    (built : EnumModel.build schema settings language name = .ok model)
    (among : value ∈ model.reverseReferences) :
    value.constantName = constantCase value.name := by
  rcases (values_eq_of_build_eq_ok built).1 with ⟨enumeration, found, _⟩
  rcases lists_of_build_eq_ok found (areTags_flatMap schema settings name)
      built with
    ⟨declared, tagged, values, own, tags⟩
  rcases List.mem_filter.mp among with ⟨member, source⟩
  rw [values] at member
  rcases List.mem_append.mp member with member | member
  · rcases exists_left_of_forall₂ own member with ⟨_, _, listed⟩
    rw [listed.source] at source
    cases source
  · rcases exists_left_of_forall₂ tags member with ⟨tag, _, listed⟩
    rw [listed.constantName, listed.name]
    rfl

/--
Every name is recovered from its words.  Names in camel case correspond one to
one to the texts in snake case, and names in Pascal case to those in the form
of constants, and are recovered from them.  So members of a class whose names
are in camel case are recovered from their fields in the language that has
these in snake case, and those of different names have different fields; and so
it is with the values that composites in Pascal case add to an enumeration, and
their constants.
-/
theorem names_are_recovered :
    (Function.LeftInverse joinWords splitWords ∧
      Function.Injective splitWords) ∧
      (Set.BijOn snakeCase {name | IsCamelCase name} {text | IsSnakeCase text} ∧
        ∀ name, IsCamelCase name → mixedCase (snakeCase name) = name) ∧
      (Set.BijOn constantCase {name | IsPascalCase name}
        {text | IsConstantCase text} ∧
        ∀ name, IsPascalCase name → mixedCase (constantCase name) = name) ∧
      (∀ schema settings root model,
        ClassModel.build schema settings .python root = .ok model →
        ∀ member ∈ model.members, IsCamelCase member.name →
          mixedCase member.fieldName = member.name ∧
            ∀ other ∈ model.members, IsCamelCase other.name →
              other.name ≠ member.name →
              other.fieldName ≠ member.fieldName) ∧
      ∀ schema settings language name model,
        EnumModel.build schema settings language name = .ok model →
        ∀ value ∈ model.reverseReferences, IsPascalCase value.name →
          mixedCase value.constantName = value.name ∧
            ∀ other ∈ model.reverseReferences, IsPascalCase other.name →
              other.name ≠ value.name →
              other.constantName ≠ value.constantName := by
  have words : Function.LeftInverse joinWords splitWords := joinWords_splitWords
  refine ⟨⟨words, words.injective⟩, ⟨LetterCase.small.bijOn_write, ?_⟩,
    ⟨LetterCase.capital.bijOn_write, ?_⟩, ?_, ?_⟩
  · intro name camel
    exact mixedCase_snakeCase camel
  · intro name pascal
    exact mixedCase_constantCase pascal
  · intro schema settings root model built member among camel
    have field {member : Member} (among : member ∈ model.members)
        (camel : IsCamelCase member.name) :
          mixedCase member.fieldName = member.name := by
      rw [ClassModel.fieldName_of_build_eq_ok built among]
      exact mixedCase_snakeCase camel
    refine ⟨field among camel, ?_⟩
    intro other otherAmong otherCamel different same
    apply different
    rw [← field otherAmong otherCamel, same, field among camel]
  · intro schema settings language name model built value among pascal
    have constant {value : EnumValueModel}
        (among : value ∈ model.reverseReferences)
        (pascal : IsPascalCase value.name) :
        mixedCase value.constantName = value.name := by
      rw [EnumModel.constantName_of_mem_reverseReferences built among]
      exact mixedCase_constantCase pascal
    refine ⟨constant among pascal, ?_⟩
    intro other otherAmong otherPascal different same
    apply different
    rw [← constant otherAmong otherPascal, same, constant among pascal]

/-- Names that differ in nothing but the case of a letter. -/
def Schema.lettered : Schema where
  entries := [
    ("LockType", .enumeration { size := 1 }),
    ("HashLock", .composite { layout := [
      { Attribute.named "LOCK_TYPE" "LockType" with
        disposition := some .constant, value := some (.number 1) },
      .named "lockId2" "byte", .named "lockID2" "byte"] }),
    ("Hashlock", .composite { layout := [
      { Attribute.named "LOCK_TYPE" "LockType" with
        disposition := some .constant, value := some (.number 2) }] })]
  distinct := by decide

/--
The two attributes have different fields, and the two composites
different constants.
-/
theorem names_are_recovered_lettered :
    joinWords (splitWords "lock_ID__A") = "lock_ID__A" ∧
      (IsCamelCase "lockID2" ∧ mixedCase (snakeCase "lockID2") = "lockID2") ∧
      (IsPascalCase "HashLock" ∧
      mixedCase (constantCase "HashLock") = "HashLock") ∧
      (∃ model, ClassModel.build .lettered .standard .python "HashLock" =
        .ok model ∧
        ∃ member ∈ model.members, ∃ other ∈ model.members,
          IsCamelCase member.name ∧ IsCamelCase other.name ∧
            other.name ≠ member.name ∧
            mixedCase member.fieldName = member.name ∧
            other.fieldName ≠ member.fieldName) ∧
      ∃ model, EnumModel.build .lettered .standard .python "LockType" =
          .ok model ∧
        ∃ value ∈ model.reverseReferences, ∃ other ∈ model.reverseReferences,
          IsPascalCase value.name ∧ IsPascalCase other.name ∧
            other.name ≠ value.name ∧
            mixedCase value.constantName = value.name ∧
              other.constantName ≠ value.constantName := by
  have lockId : IsCamelCase "lockId2" := ⟨by simp, by decide, 'l', rfl, rfl⟩
  have lockID : IsCamelCase "lockID2" := ⟨by simp, by decide, 'l', rfl, rfl⟩
  have hashLock : IsPascalCase "HashLock" := ⟨by simp, by decide, 'H', rfl, rfl⟩
  have hashlock : IsPascalCase "Hashlock" := ⟨by simp, by decide, 'H', rfl, rfl⟩
  rcases names_are_recovered with
    ⟨⟨words, _⟩, ⟨_, snake⟩, ⟨_, constant⟩, fields, constants⟩
  refine ⟨words _, ⟨lockID, snake _ lockID⟩,
    ⟨hashLock, constant _ hashLock⟩, ?_, ?_⟩
  · have computed :
        (ClassModel.build .lettered .standard .python "HashLock").map
          (fun model =>
        model.members.map Member.name) = .ok ["lockId2", "lockID2"] := by cbv
    rcases Outcome.map_eq_ok_iff.mp computed with ⟨model, built, names⟩
    have named (name : String) (among : name ∈ ["lockId2", "lockID2"]) :
        ∃ member ∈ model.members, member.name = name :=
      List.mem_map.mp (names ▸ among)
    rcases named "lockId2" (by decide) with ⟨member, first, firstName⟩
    rcases named "lockID2" (by decide) with ⟨other, second, secondName⟩
    have different : other.name ≠ member.name := by
      rw [firstName, secondName]
      decide
    rw [← firstName] at lockId
    rw [← secondName] at lockID
    have recovered := fields _ _ _ model built member first lockId
    exact ⟨model, built, member, first, other, second, lockId, lockID,
      different, recovered.1, recovered.2 other second lockID different⟩
  · have computed :
        (EnumModel.build .lettered .standard .python "LockType").map
          (fun model =>
        model.reverseReferences.map EnumValueModel.name) =
          .ok ["HashLock", "Hashlock"] := by cbv
    rcases Outcome.map_eq_ok_iff.mp computed with ⟨model, built, names⟩
    have named (name : String) (among : name ∈ ["HashLock", "Hashlock"]) :
        ∃ value ∈ model.reverseReferences, value.name = name :=
      List.mem_map.mp (names ▸ among)
    rcases named "HashLock" (by decide) with ⟨value, first, firstName⟩
    rcases named "Hashlock" (by decide) with ⟨other, second, secondName⟩
    have different : other.name ≠ value.name := by
      rw [firstName, secondName]
      decide
    rw [← firstName] at hashLock
    rw [← secondName] at hashlock
    have recovered := constants _ _ _ _ model built value first hashLock
    exact ⟨model, built, value, first, other, second, hashLock, hashlock,
      different, recovered.1, recovered.2 other second hashlock different⟩

end WireLayout
