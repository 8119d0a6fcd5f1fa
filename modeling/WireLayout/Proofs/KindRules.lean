import WireLayout.Proofs.Bitmasks

/-!
# The rules for kinds

The kind of an attribute is that of the first rule which applies to it, out of
ten.  Here the rules are listed in their order, each with when it applies and
with the kind it makes, and without regard to how a kind is found.

Several rules may apply at once: a field that a sibling asks for may be of a
type of flags, and such a type may come with a size.  The order settles these
cases.  The last rule always applies, so that an attribute is without a kind
only if its disposition is not known.
-/

namespace WireLayout

/-- A rule for the kind of an attribute. -/
inductive Rule where
  | variadic
  | filling
  | inlined
  | asked
  | marked
  | whole
  | measured
  | counted
  | narrow
  | remaining
  deriving DecidableEq, Repr

/-- An attribute takes its size from a field. -/
def Attribute.IsMeasured (attr : Attribute) : Prop :=
  ∃ reference, attr.size = some (.field reference)

/-- An attribute declares its size as a number for which something holds. -/
def Attribute.Counts (attr : Attribute) (holds : Nat → Prop) : Prop :=
  ∃ count, attr.size = some (.literal count) ∧ holds count

namespace Rule

/-- The rules in the order in which they are tried. -/
def all : List Rule :=
  [variadic, filling, inlined, asked, marked, whole, measured, counted, narrow,
    remaining]

/-- When a rule applies to an attribute among its siblings. -/
def Applies (settings : Settings) (siblings : List Attribute)
    (attr : Attribute) : Rule → Prop
  | variadic => attr.disposition = some .variadic
  | filling => attr.disposition = some .filling
  | inlined =>
      attr.disposition = some .inlined ∧ settings.generates attr.typeName = true
  | asked => ∃ sibling ∈ siblings, sibling.size = some (.field attr.displayName)
  | marked => settings.flagsSuffix.toList <:+ attr.typeName.toList
  | whole =>
      attr.typeName = "struct" ∨ attr.typeName = "enum" ∨ attr.size = none
  | measured => attr.IsMeasured
  | counted => attr.Counts (fun _ => True) ∧ attr.typeName ≠ settings.byteType
  | narrow =>
      attr.Counts (· ≤ settings.builtinWidthLimit) ∧
      attr.typeName = settings.byteType
  | remaining => True

/-- The kind that a rule makes of an attribute. -/
def kind (settings : Settings) (attr : Attribute) : Rule → Kind
  | variadic => .varArray
  | filling => .fillArray
  | inlined => .custom
  | asked => .sizeField
  | marked => .flags
  | whole => .custom
  | measured => if attr.typeName = settings.byteType then .buffer else .array
  | counted => .array
  | narrow => .simple
  | remaining => .buffer

/-- A rule applies, and none of those before it does. -/
def IsFirst (settings : Settings) (siblings : List Attribute) (attr : Attribute)
    (rule : Rule) : Prop :=
  rule.Applies settings siblings attr ∧ ∃ before after,
    all = before ++ rule :: after ∧
    ∀ earlier ∈ before, ¬ earlier.Applies settings siblings attr

end Rule

/-- A disposition that does not decide the kind of an attribute of a type. -/
inductive Settings.LeavesOpen (settings : Settings) (typeName : String) :
    Option Disposition → Prop where
  | plain : LeavesOpen settings typeName none
  | constant : LeavesOpen settings typeName (some .constant)
  | dissolved (excluded : settings.generates typeName = false) :
      LeavesOpen settings typeName (some .inlined)

/-! ## Sizes -/

namespace Attribute

variable {attr : Attribute}

theorem sizeReference_eq_some_iff {reference : String} :
    attr.sizeReference = some reference ↔
      attr.size = some (.field reference) := by
  rw [sizeReference]
  cases attr.size with
  | none => simp
  | some size => cases size <;> simp

theorem literalSize_eq_some_iff {count : Nat} :
    attr.literalSize = some count ↔ attr.size = some (.literal count) := by
  rw [literalSize]
  cases attr.size with
  | none => simp
  | some size => cases size <;> simp

theorem isMeasured_iff :
    attr.IsMeasured ↔ attr.sizeReference.isSome = true := by
  simp only [IsMeasured, Option.isSome_iff_exists, sizeReference_eq_some_iff]

theorem counts_iff {holds : Nat → Prop} [DecidablePred holds] :
    attr.Counts holds ↔
      attr.literalSize.any (fun count => decide (holds count)) = true := by
  simp only [Counts, Option.any_eq_true, literalSize_eq_some_iff,
    decide_eq_true_eq]

instance (attr : Attribute) : Decidable attr.IsMeasured :=
  decidable_of_iff _ isMeasured_iff.symm

instance (attr : Attribute) (holds : Nat → Prop) [DecidablePred holds] :
    Decidable (attr.Counts holds) :=
  decidable_of_iff _ counts_iff.symm

theorem isSizeField_iff_exists_size
    {siblings : List Attribute} :
    attr.isSizeField siblings = true ↔
      ∃ sibling ∈ siblings, sibling.size = some (.field attr.displayName) := by
  simp only [isSizeField_iff, sizeReference_eq_some_iff]

end Attribute

/-! ## The first rule -/

namespace Rule

variable {settings : Settings} {siblings : List Attribute} {attr : Attribute}

instance (settings : Settings) (siblings : List Attribute) (attr : Attribute)
    (rule : Rule) :
    Decidable (rule.Applies settings siblings attr) :=
  match rule with
  | variadic => inferInstanceAs (Decidable (_ = _))
  | filling => inferInstanceAs (Decidable (_ = _))
  | inlined => inferInstanceAs (Decidable (_ ∧ _))
  | asked => inferInstanceAs (Decidable (∃ sibling ∈ siblings, _))
  | marked => inferInstanceAs (Decidable (_ <:+ _))
  | whole => inferInstanceAs (Decidable (_ ∨ _ ∨ _))
  | measured => inferInstanceAs (Decidable attr.IsMeasured)
  | counted => inferInstanceAs (Decidable (attr.Counts _ ∧ _))
  | narrow => inferInstanceAs (Decidable (attr.Counts _ ∧ _))
  | remaining => inferInstanceAs (Decidable True)

/-- The first rule that applies. -/
def first (settings : Settings) (siblings : List Attribute)
    (attr : Attribute) : Option Rule :=
  all.find? fun rule => decide (rule.Applies settings siblings attr)

theorem first_eq_some_iff
    {rule : Rule} :
    first settings siblings attr = some rule ↔
      rule.IsFirst settings siblings attr := by
  rw [first, List.find?_eq_some_iff_append, IsFirst]
  simp only [decide_eq_true_eq, Bool.not_eq_true', decide_eq_false_iff_not]

/-- There is one first rule, since the last one always applies. -/
theorem existsUnique_isFirst (settings : Settings) (siblings : List Attribute)
    (attr : Attribute) :
    ∃! rule : Rule, rule.IsFirst settings siblings attr := by
  have applies : (first settings siblings attr).isSome = true := by
    rw [first, List.find?_isSome]
    exact ⟨remaining, by decide, decide_eq_true trivial⟩
  rcases Option.isSome_iff_exists.mp applies with ⟨rule, found⟩
  refine ⟨rule, first_eq_some_iff.mp found, ?_⟩
  intro other isFirst
  exact Option.some.inj ((first_eq_some_iff.mpr isFirst).symm.trans found)

/-- The kind that the first of some rules makes, if one of them applies. -/
def kindAmong (settings : Settings) (siblings : List Attribute)
    (attr : Attribute) (rules : List Rule) : Option Kind :=
  (rules.find? fun rule => decide (rule.Applies settings siblings attr)).map
    (Rule.kind settings attr)

section Among

variable {rule : Rule} {rules : List Rule}

theorem kindAmong_cons_of_applies
    (applies : rule.Applies settings siblings attr) :
    kindAmong settings siblings attr (rule :: rules) =
      some (rule.kind settings attr) := by
  rw [kindAmong, List.find?_cons_of_pos (by simpa using applies),
    Option.map_some]

theorem kindAmong_cons_of_not_applies
    (fails : ¬ rule.Applies settings siblings attr) :
    kindAmong settings siblings attr (rule :: rules) =
      kindAmong settings siblings attr rules := by
  rw [kindAmong, List.find?_cons_of_neg (by simpa using fails), kindAmong]

end Among

theorem applies_remaining : remaining.Applies settings siblings attr := trivial

/--
The rules for a literal size tell elements from raw bytes, and few
bytes from many.
-/
theorem kindAmong_literal
    {count : Nat}
    (sized : attr.size = some (.literal count)) :
    kindAmong settings siblings attr [counted, narrow, remaining] =
      some (if attr.typeName ≠ settings.byteType then .array
        else if count ≤ settings.builtinWidthLimit then .simple
        else .buffer) := by
  by_cases bytes : attr.typeName = settings.byteType
  · have notCounted : ¬ counted.Applies settings siblings attr :=
      fun applies => applies.2 bytes
    rw [kindAmong_cons_of_not_applies notCounted, if_neg (not_not.mpr bytes)]
    by_cases few : count ≤ settings.builtinWidthLimit
    · have applies : narrow.Applies settings siblings attr :=
        ⟨⟨count, sized, few⟩, bytes⟩
      rw [kindAmong_cons_of_applies applies, if_pos few, kind]
    · have notNarrow : ¬ narrow.Applies settings siblings attr := by
        rintro ⟨⟨other, otherSized, otherFew⟩, _⟩
        cases sized.symm.trans otherSized
        exact few otherFew
      rw [kindAmong_cons_of_not_applies notNarrow, if_neg few,
        kindAmong_cons_of_applies applies_remaining, kind]
  · have applies : counted.Applies settings siblings attr :=
      ⟨⟨count, sized, trivial⟩, bytes⟩
    rw [kindAmong_cons_of_applies applies, if_pos bytes, kind]

/-- From the fifth rule on, the type and the size decide. -/
theorem kindAmong_bySize :
    kindAmong settings siblings attr
        [marked, whole, measured, counted, narrow, remaining] =
      some (attr.kindBySize settings) := by
  by_cases flagged : marked.Applies settings siblings attr
  · rw [kindAmong_cons_of_applies flagged, Attribute.kindBySize,
      if_pos (Settings.isFlagsType_iff.mpr flagged), kind]
  · rw [kindAmong_cons_of_not_applies flagged, Attribute.kindBySize,
      if_neg (mt Settings.isFlagsType_iff.mp flagged)]
    by_cases keyword : attr.typeName = "struct" ∨ attr.typeName = "enum"
    · have applies : whole.Applies settings siblings attr :=
        keyword.imp_right Or.inl
      rw [kindAmong_cons_of_applies applies, kind,
        if_pos (by simpa [Category.keyword])]
    · rw [if_neg (by simpa [Category.keyword] using keyword)]
      cases sized : attr.size with
      | none =>
          have applies : whole.Applies settings siblings attr :=
            Or.inr (Or.inr sized)
          rw [kindAmong_cons_of_applies applies, kind]
      | some size =>
          have notWhole : ¬ whole.Applies settings siblings attr := by
            rintro (same | same | unsized)
            · exact keyword (Or.inl same)
            · exact keyword (Or.inr same)
            · cases sized.symm.trans unsized
          rw [kindAmong_cons_of_not_applies notWhole]
          cases size with
          | field reference =>
              have applies : measured.Applies settings siblings attr :=
                ⟨reference, sized⟩
              rw [kindAmong_cons_of_applies applies, kind]
              simp only [Settings.isByteType, beq_iff_eq]
          | literal count =>
              have notMeasured : ¬ measured.Applies settings siblings attr := by
                rintro ⟨reference, otherSized⟩
                cases sized.symm.trans otherSized
              rw [kindAmong_cons_of_not_applies notMeasured,
                kindAmong_literal sized]
              simp only [Settings.isByteType, Bool.not_eq_true',
                beq_eq_false_iff_ne]

/--
From the fourth rule on, a sibling may ask for the attribute, and then
all else decides.
-/
theorem kindAmong_open :
    kindAmong settings siblings attr
        [asked, marked, whole, measured, counted, narrow, remaining] =
      some (if attr.isSizeField siblings then .sizeField
        else attr.kindBySize settings) := by
  by_cases asks : asked.Applies settings siblings attr
  · rw [kindAmong_cons_of_applies asks, kind,
      if_pos (Attribute.isSizeField_iff_exists_size.mpr asks)]
  · rw [kindAmong_cons_of_not_applies asks,
      if_neg (mt Attribute.isSizeField_iff_exists_size.mp asks),
      kindAmong_bySize]

/--
Rules for other dispositions than the one that an attribute has do not apply.
-/
theorem kindAmong_all_of_leavesOpen
    (leaves : settings.LeavesOpen attr.typeName attr.disposition) :
    kindAmong settings siblings attr all =
      some (if attr.isSizeField siblings then .sizeField
        else attr.kindBySize settings) := by
  generalize disposed : attr.disposition = disposition at leaves
  have notVariadic : ¬ variadic.Applies settings siblings attr := by
    rw [Applies, disposed]
    cases leaves <;> simp
  have notFilling : ¬ filling.Applies settings siblings attr := by
    rw [Applies, disposed]
    cases leaves <;> simp
  have notInlined : ¬ inlined.Applies settings siblings attr := by
    rw [Applies, disposed]
    cases leaves with
    | plain => simp
    | constant => simp
    | dissolved excluded => simp [excluded]
  rw [all, kindAmong_cons_of_not_applies notVariadic,
    kindAmong_cons_of_not_applies notFilling,
    kindAmong_cons_of_not_applies notInlined, kindAmong_open]

end Rule

/-! ## Kinds by rules -/

namespace Attribute

variable {attr : Attribute} {settings : Settings} {siblings : List Attribute}

theorem kind?_of_leavesOpen
    (leaves : settings.LeavesOpen attr.typeName attr.disposition) :
    attr.kind? settings siblings =
      some (if attr.isSizeField siblings then .sizeField
        else attr.kindBySize settings) := by
  generalize disposed : attr.disposition = disposition at leaves
  apply kind?_of_isPredisposed_eq_false
  · rw [disposed]
    cases leaves <;> simp
  · cases leaves with
    | plain => simp [isPredisposed, isVariadic, isFilling, isInlined, disposed]
    | constant =>
        simp [isPredisposed, isVariadic, isFilling, isInlined, disposed]
    | dissolved excluded =>
        simp [isPredisposed, isVariadic, isFilling, disposed, excluded]

/--
A kind is found as the rules say, whatever the disposition is among
those that are known.
-/
theorem kind?_eq_kindAmong_all
    (known : attr.disposition ≠ some .unknown) :
    attr.kind? settings siblings =
      Rule.kindAmong settings siblings attr Rule.all := by
  have open_ (leaves : settings.LeavesOpen attr.typeName attr.disposition) :
      attr.kind? settings siblings =
        Rule.kindAmong settings siblings attr Rule.all := by
    rw [kind?_of_leavesOpen leaves, Rule.kindAmong_all_of_leavesOpen leaves]
  cases disposed : attr.disposition with
  | none => exact open_ (disposed ▸ .plain)
  | some disposition =>
      cases disposition with
      | constant => exact open_ (disposed ▸ .constant)
      | unknown => exact absurd disposed known
      | variadic =>
          have applies : Rule.variadic.Applies settings siblings attr :=
            disposed
          rw [Rule.all, Rule.kindAmong_cons_of_applies applies, kind?, disposed,
            Rule.kind]
      | filling =>
          have notVariadic :
              ¬ Rule.variadic.Applies settings siblings attr := by
            simp [Rule.Applies, disposed]
          have applies : Rule.filling.Applies settings siblings attr := disposed
          rw [Rule.all, Rule.kindAmong_cons_of_not_applies notVariadic,
            Rule.kindAmong_cons_of_applies applies, kind?, disposed, Rule.kind]
      | inlined =>
          cases generated : settings.generates attr.typeName with
          | false => exact open_ (disposed ▸ .dissolved generated)
          | true =>
              have notVariadic :
                  ¬ Rule.variadic.Applies settings siblings attr := by
                simp [Rule.Applies, disposed]
              have notFilling :
                  ¬ Rule.filling.Applies settings siblings attr := by
                simp [Rule.Applies, disposed]
              have applies : Rule.inlined.Applies settings siblings attr :=
                ⟨disposed, generated⟩
              rw [Rule.all, Rule.kindAmong_cons_of_not_applies notVariadic,
                Rule.kindAmong_cons_of_not_applies notFilling,
                Rule.kindAmong_cons_of_applies applies, kind?, disposed,
                Rule.kind]
              simp [isInlined, disposed, generated]

/--
An attribute of a known disposition has the kind that the first
rule makes of it.
-/
theorem kind?_eq_some_iff
    {kind : Kind} :
    attr.kind? settings siblings = some kind ↔
      attr.disposition ≠ some .unknown ∧
        ∃ rule : Rule, rule.IsFirst settings siblings attr ∧
        rule.kind settings attr = kind := by
  by_cases unknown : attr.disposition = some .unknown
  · rw [kind?_eq_none_iff.mpr unknown]
    simp [unknown]
  · rw [kind?_eq_kindAmong_all unknown, Rule.kindAmong, ← Rule.first,
      Option.map_eq_some_iff]
    simp only [Rule.first_eq_some_iff, ne_eq, unknown, not_false_eq_true,
      true_and]

/--
An attribute has the kind that the first rule makes of it, and there is one
first rule.  It is without a kind exactly if its disposition is not known.  No
disposition, that of a constant and that of an inlined composite which is
dissolved come to the same.
-/
theorem kind?_follows_rules
    (settings : Settings) (siblings : List Attribute) (attr : Attribute) :
    (∃! rule : Rule, rule.IsFirst settings siblings attr) ∧
      (∀ kind, attr.kind? settings siblings = some kind ↔
        attr.disposition ≠ some .unknown ∧
          ∃ rule : Rule, rule.IsFirst settings siblings attr ∧
            rule.kind settings attr = kind) ∧
      (attr.kind? settings siblings = none ↔ attr.disposition = some .unknown) ∧
      ∀ disposition, settings.LeavesOpen attr.typeName disposition →
        { attr with disposition := disposition }.kind? settings siblings =
          { attr with disposition := none }.kind? settings siblings := by
  refine ⟨Rule.existsUnique_isFirst settings siblings attr,
    fun _ => kind?_eq_some_iff, kind?_eq_none_iff, ?_⟩
  intro disposition leaves
  rw [kind?_of_leavesOpen leaves, kind?_of_leavesOpen Settings.LeavesOpen.plain]
  rfl

end Attribute

/--
A count of a type of flags, which comes with a size, is a size field if a
sibling asks for it.
-/
example :
    let count : Attribute :=
      { Attribute.named "count" "CountFlags" with size := some (.literal 4) }
    let items : Attribute :=
      { Attribute.named "items" "Item" with size := some (.field "count") }
    [(Rule.first .standard [count, items] count),
      (Rule.first .standard [count] count)] =
      [some .asked, some .marked] := by
  decide

end WireLayout
