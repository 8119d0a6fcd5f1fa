import WireLayout.Proofs.Flattening
import WireLayout.Proofs.Linking

/-!
# What conditions select

A condition selects a value of its discriminant's enumeration by a
number or by a name.  A member carries the selector as a text, and
linking reads the text back.

A number is read back as itself, and so is a name, unless it writes a number.
A name that does is read back as the number: the condition then selects the
value that has the number, which need not be the value of that name, and fails
where no value has the number.
-/

namespace WireLayout

/-! ## Digits -/

namespace Text

theorem digitValue_of_isDigit
    {character : Char}
    (isDigit : character.isDigit = true) :
    digitValue character = some (character.toNat - '0'.toNat) ∧
      character.toNat - '0'.toNat < 10 := by
  have range : '0' ≤ character ∧ character ≤ '9' := by
    simpa [Char.isDigit, Char.le_def] using isDigit
  constructor
  · rw [digitValue, if_pos range]
    rfl
  · have bound : character.toNat ≤ 57 := range.2
    have zero : '0'.toNat = 48 := rfl
    omega

/-- Letters are digits only in notations of a radix above ten. -/
theorem not_lt_ten_of_digitValue_eq_some
    {character : Char} {value : Nat}
    (notDigit : character.isDigit = false)
    (valued : digitValue character = some value) :
    ¬ value < 10 := by
  have outside : ¬ ('0' ≤ character ∧ character ≤ '9') := by
    simpa [Char.isDigit, Char.le_def] using notDigit
  rw [digitValue, if_neg outside] at valued
  split at valued
  · next lower =>
      have bound : 97 ≤ character.toNat := lower.1
      have value_eq := Option.some.inj valued
      omega
  · split at valued
    · next upper =>
        have bound : 65 ≤ character.toNat := upper.1
        have value_eq := Option.some.inj valued
        omega
    · cases valued

theorem digitsFrom_eq_some_iff
    {characters : List Char} {number total : Nat} :
    digitsFrom 10 number characters = some total ↔
      (∀ character ∈ characters, character.isDigit = true) ∧
        Nat.ofDigitChars 10 characters number = total := by
  induction characters generalizing number with
  | nil => simp [digitsFrom]
  | cons head rest ih =>
      rw [digitsFrom, List.forall_mem_cons, Nat.ofDigitChars_cons]
      cases isDigit : head.isDigit with
      | true =>
          rcases digitValue_of_isDigit isDigit with ⟨valued, small⟩
          simp only [valued, small, if_true, true_and]
          rw [ih, Nat.mul_comm]
      | false =>
          simp only [Bool.false_eq_true, false_and, iff_false]
          split
          · next value valued =>
              rw [if_neg (not_lt_ten_of_digitValue_eq_some isDigit valued)]
              simp
          · simp

theorem digitsNumber_eq_some_iff
    {characters : List Char} {total : Nat} :
    digitsNumber 10 characters = some total ↔
      characters ≠ [] ∧ (∀ character ∈ characters, character.isDigit = true) ∧
        Nat.ofDigitChars 10 characters 0 = total := by
  rw [digitsNumber, ← digitsFrom_eq_some_iff]
  cases characters with
  | nil => simp
  | cons head rest => simp

end Text

/-! ## Selectors read back -/

/--
A text that writes a number of 64 bits: decimal digits, perhaps with a plus
sign before them.
-/
def IsNumeral (text : String) (number : Nat) : Prop :=
  ∃ digits, (text.toList = digits ∨ text.toList = '+' :: digits) ∧ digits ≠ [] ∧
    (∀ digit ∈ digits, digit.isDigit = true) ∧
    Nat.ofDigitChars 10 digits 0 = number ∧
    number < Decimal.binaryPower 64

theorem isNumeral_toString
    {number : Nat}
    (bounded : number < Decimal.binaryPower 64) :
    IsNumeral (toString number) number := by
  refine ⟨Nat.toDigits 10 number, Or.inl ?_, Nat.toDigits_ne_nil, ?_, ?_,
    bounded⟩
  · rw [Nat.toString_eq_repr, Nat.toList_repr]
  · intro digit among
    exact Nat.isDigit_of_mem_toDigits (by decide) (by decide) among
  · exact Nat.ofDigitChars_toDigits (by decide) (by decide)

namespace Selector

/-- The selector that is read back where a text of another one was written. -/
inductive ReadsBack : Selector → Selector → Prop where
  | number {value} :
      ReadsBack (.number value) (.number value)
  | name {text}
      (ordinary : ∀ number, ¬ IsNumeral text number) :
      ReadsBack (.name text) (.name text)
  | numeral {text number}
      (numeral : IsNumeral text number) :
      ReadsBack (.name text) (.number number)

/-- What is read of a text depends on what remains of it without its sign. -/
theorem ofText_eq
    {text : String} {digits : List Char}
    (written : text.toList = '+' :: digits ∨
      (text.toList = digits ∧ ∀ rest, digits ≠ '+' :: rest)) :
    ofText text =
      match Text.digitsNumber 10 digits with
      | some value =>
          if value < Decimal.binaryPower 64 then .number value else .name text
      | none => .name text := by
  rw [ofText]
  rcases written with signed | ⟨rfl, unsigned⟩
  · rw [signed]
    rfl
  · -- Nothing but the sign is left out, and there is none.
    congr 2
    split
    · next rest signed => exact absurd signed (unsigned rest)
    · rfl

theorem exists_written (text : String) :
    ∃ digits, text.toList = '+' :: digits ∨
      (text.toList = digits ∧ ∀ rest, digits ≠ '+' :: rest) := by
  by_cases signed : ∃ rest, text.toList = '+' :: rest
  · rcases signed with ⟨rest, signed⟩
    exact ⟨rest, Or.inl signed⟩
  · exact ⟨text.toList, Or.inr ⟨rfl, not_exists.mp signed⟩⟩

theorem ofText_eq_number_iff
    {text : String} {number : Nat} :
    ofText text = .number number ↔ IsNumeral text number := by
  constructor
  · intro read
    rcases exists_written text with ⟨digits, written⟩
    rw [ofText_eq written] at read
    split at read
    · next value valued =>
        split at read
        · next bounded =>
            cases read
            rcases Text.digitsNumber_eq_some_iff.mp valued with
              ⟨some_, areDigits, total⟩
            refine ⟨digits, ?_, some_, areDigits, total, bounded⟩
            exact written.symm.imp_left And.left
        · cases read
    · cases read
  · rintro ⟨digits, written, some_, areDigits, total, bounded⟩
    have valued := Text.digitsNumber_eq_some_iff.mpr ⟨some_, areDigits, total⟩
    have unsigned (rest : List Char) : digits ≠ '+' :: rest := by
      rintro rfl
      exact absurd (areDigits '+' List.mem_cons_self) (by decide)
    rw [ofText_eq (written.symm.imp_right fun same => ⟨same, unsigned⟩), valued]
    exact if_pos bounded

theorem eq_of_ofText_eq_name
    {text name : String}
    (read : ofText text = .name name) :
    name = text := by
  rcases exists_written text with ⟨digits, written⟩
  rw [ofText_eq written] at read
  split at read
  · split at read
    · cases read
    · exact (Selector.name.inj read).symm
  · exact (Selector.name.inj read).symm

theorem ofText_eq_name_iff
    {text name : String} :
    ofText text = .name name ↔
      name = text ∧ ∀ number, ¬ IsNumeral text number := by
  constructor
  · intro read
    refine ⟨eq_of_ofText_eq_name read, ?_⟩
    intro number numeral
    cases read.symm.trans (ofText_eq_number_iff.mpr numeral)
  · rintro ⟨rfl, ordinary⟩
    cases read : ofText name with
    | number number =>
        exact absurd (ofText_eq_number_iff.mp read) (ordinary number)
    | name other => rw [eq_of_ofText_eq_name read]

/-- Linking reads a declared selector back. -/
theorem readsBack_iff
    {selector reread : Selector}
    (bounded : ∀ number, selector = .number number →
      number < Decimal.binaryPower 64) :
    selector.ReadsBack reread ↔ ofText selector.text = reread := by
  cases selector with
  | number value =>
      have read : ofText (text (.number value)) = .number value :=
        ofText_eq_number_iff.mpr (isNumeral_toString (bounded value rfl))
      rw [read]
      constructor
      · rintro ⟨⟩
        rfl
      · rintro rfl
        exact .number
  | name text =>
      show ReadsBack (.name text) reread ↔ ofText text = reread
      constructor
      · intro reads
        cases reads with
        | name ordinary => exact ofText_eq_name_iff.mpr ⟨rfl, ordinary⟩
        | numeral numeral => exact ofText_eq_number_iff.mpr numeral
      · intro read
        cases reread with
        | number number => exact .numeral (ofText_eq_number_iff.mp read)
        | name other =>
            rcases ofText_eq_name_iff.mp read with ⟨rfl, ordinary⟩
            exact .name ordinary

/-- A number of 64 bits, or a name that does not write one. -/
inductive IsOrdinary : Selector → Prop where
  | number {value}
      (bounded : value < Decimal.binaryPower 64) :
      IsOrdinary (.number value)
  | name {text}
      (ordinary : ∀ number, ¬ IsNumeral text number) :
      IsOrdinary (.name text)

/-- An ordinary selector is read back as itself. -/
theorem IsOrdinary.ofText_text
    {selector : Selector}
    (ordinary : selector.IsOrdinary) :
    ofText selector.text = selector := by
  cases ordinary with
  | number bounded =>
      exact ofText_eq_number_iff.mpr (isNumeral_toString bounded)
  | name ordinary => exact ofText_eq_name_iff.mpr ⟨rfl, ordinary⟩

end Selector

/-! ## Linking up to a place -/

section Linking

variable {schema : Schema} {owner : String} {members : List Member}

/-- Linking comes past members that can be linked. -/
theorem exists_linkDiscriminantsFrom_append_eq
    {front : List Member} (rest : List Member)
    (linkable : ∀ earlier ∈ front, ∀ fault,
      ¬ earlier.Unlinkable schema owner members fault) :
    ∃ linked, linked.length = front.length ∧
      linkDiscriminantsFrom schema owner members (front ++ rest) =
        ⟨linked ++ (linkDiscriminantsFrom schema owner members rest).members,
          (linkDiscriminantsFrom schema owner members rest).fault⟩ := by
  induction front with
  | nil => exact ⟨[], rfl, rfl⟩
  | cons head front ih =>
      rw [List.forall_mem_cons] at linkable
      rcases ih linkable.2 with ⟨linked, sameLength, linkedRest⟩
      cases outcome : head.linkDiscriminant schema owner members with
      | error fault =>
          exact absurd (Member.linkDiscriminant_eq_error_iff.mp outcome)
            (linkable.1 fault)
      | ok linkedHead =>
          refine ⟨linkedHead :: linked, congrArg Nat.succ sameLength, ?_⟩
          rw [List.cons_append, linkDiscriminantsFrom, outcome]
          simp only [linkedRest, List.cons_append]

/--
A condition with a text is linked with the value that the text selects,
if there is one.
-/
theorem Member.linkDiscriminant_eq_of_enumeration?_eq_some
    {member holder : Member} {name text : String}
    {operation : ConditionOperation} {target : Nat} {enumeration : Enumeration}
    (conditioned : member.condition = some ⟨name, operation, some text⟩)
    (found : findDiscriminant members name = some target)
    (located : members[target]? = some holder)
    (typed : schema.enumeration? holder.typeName = some enumeration) :
    member.linkDiscriminant schema owner members =
      match enumeration.find? (.ofText text) with
      | some value =>
          .ok { member with
            discriminant := some target
            condition := some ⟨name, operation, some value.name⟩ }
      | none =>
          .error (.dangling ⟨owner, member.name, text, .conditionValue⟩) := by
  simp only [linkDiscriminant, conditioned, found, located, Option.map_some,
    Option.getD_some, requiredValue, typed, Enumeration.conditionValue]
  cases enumeration.find? (.ofText text) with
  | some value => rfl
  | none => rfl

theorem Member.not_unlinkable_of_condition_eq_none
    {member : Member} {fault : CompileFault}
    (free : member.condition = none) :
    ¬ member.Unlinkable schema owner members fault := by
  intro unlinkable
  cases unlinkable with
  | undiscriminated conditioned => cases free.symm.trans conditioned
  | fails conditioned => cases free.symm.trans conditioned

/--
Where linking comes to a member, it links the member, or stops with
the member's fault.
-/
theorem linkDiscriminants_at
    {place : Nat} {member : Member}
    (located : members[place]? = some member)
    (reached : ∀ earlier ∈ members.take place, ∀ fault,
      ¬ earlier.Unlinkable schema owner members fault) :
    (∀ linked, member.linkDiscriminant schema owner members = .ok linked →
      (linkDiscriminants schema owner members).members[place]? = some linked) ∧
    (∀ fault, member.linkDiscriminant schema owner members = .error fault →
      (linkDiscriminants schema owner members).members[place]? = some member ∧
        (linkDiscriminants schema owner members).fault = some fault) := by
  rcases List.getElem?_eq_some_iff.mp located with ⟨bound, atPlace⟩
  have split :
      members.take place ++ member :: members.drop (place + 1) = members := by
    rw [← atPlace, ← List.drop_eq_getElem_cons bound, List.take_append_drop]
  rcases exists_linkDiscriminantsFrom_append_eq
      (member :: members.drop (place + 1)) reached with
    ⟨front, sameLength, linking⟩
  rw [List.length_take_of_le (Nat.le_of_lt bound)] at sameLength
  rw [split] at linking
  rw [linkDiscriminants, linking]
  constructor
  · intro linked outcome
    rw [linkDiscriminantsFrom, outcome]
    simp [← sameLength]
  · intro fault outcome
    rw [linkDiscriminantsFrom, outcome]
    simp [← sameLength]

end Linking

/-! ## Conditions of attributes -/

theorem Appearance.IsShownBy.condition_eq
    {schema : Schema} {settings : Settings} {entry : Appearance}
    {member : Member} {name : String} {selector : Selector}
    (shown : entry.IsShownBy schema settings member)
    (conditioned : entry.step.attr.condition = some name)
    (declared : entry.step.attr.conditionValue = some selector) :
    member.condition =
      some ⟨name, entry.step.attr.operation, some selector.text⟩ := by
  rw [shown.condition, Attribute.memberCondition, conditioned, declared]
  rfl

/--
Linking gives the member of an attribute the value that the declared selector,
read back, selects in the enumeration of its discriminant.  It stops at the
member, which it leaves as it is, exactly when there is no such value.
-/
theorem linkDiscriminants_selects
    {schema : Schema} {settings : Settings} {language : Language}
    {root name : String} {composition : Composition} {entries : List Appearance}
    {entry : Appearance} {place target : Nat} {selector : Selector}
    {holder : Member} {enumeration : Enumeration}
    (composed : compose schema settings language root = .ok composition)
    (flattening : IsFlattening schema settings root entries)
    (listed : entries[place]? = some entry)
    (conditioned : entry.step.attr.condition = some name)
    (declared : entry.step.attr.conditionValue = some selector)
    (bounded : ∀ number, selector = .number number →
      number < Decimal.binaryPower 64)
    (found : findDiscriminant composition.members name = some target)
    (located : composition.members[target]? = some holder)
    (typed : schema.enumeration? holder.typeName = some enumeration)
    (reached : ∀ earlier ∈ composition.members.take place, ∀ fault,
      ¬ earlier.Unlinkable schema root composition.members fault) :
    ∃ member reread, composition.members[place]? = some member ∧
      entry.IsShownBy schema settings member ∧ selector.ReadsBack reread ∧
      (∀ value, enumeration.find? reread = some value →
        (linkDiscriminants schema root composition.members).members[place]? =
          some { member with
            discriminant := some target
            condition :=
              some ⟨name, entry.step.attr.operation, some value.name⟩ }) ∧
      (enumeration.find? reread = none ↔
        (linkDiscriminants schema root composition.members).members[place]? =
          some member ∧
          (linkDiscriminants schema root composition.members).fault =
            some
              (.dangling ⟨root, entry.step.attr.displayName, selector.text,
                .conditionValue⟩)) := by
  have shown := flattening.forall₂_isShownBy composed
  rcases exists_getElem?_of_forall₂ shown listed with
    ⟨member, memberLocated, shows⟩
  have step : member.linkDiscriminant schema root composition.members = _ :=
    Member.linkDiscriminant_eq_of_enumeration?_eq_some
      (shows.condition_eq conditioned declared) found located typed
  have outcome := linkDiscriminants_at memberLocated reached
  refine ⟨member, .ofText selector.text, memberLocated, shows,
    (Selector.readsBack_iff bounded).mpr rfl, ?_, ?_⟩
  · intro value selected
    rw [selected] at step
    exact outcome.1 _ step
  · cases selected : enumeration.find? (.ofText selector.text) with
    | none =>
        rw [selected, shows.name] at step
        exact iff_of_true rfl (outcome.2 _ step)
    | some value =>
        rw [selected] at step
        -- A linked member has a discriminant, and the member itself has none.
        refine iff_of_false (by simp) ?_
        rintro ⟨untouched, _⟩
        rw [outcome.1 _ step] at untouched
        have discriminant :=
          congrArg Member.discriminant (Option.some.inj untouched)
        rw [discriminant_eq_none_of_compose_eq_ok composed
          (List.mem_of_getElem? memberLocated)] at discriminant
        cases discriminant

/--
A layout that ends in an attribute which is present for one value
of an enumeration.
-/
def Schema.numberedLayout : List Attribute :=
  [.named "kind" "Kind",
    { (Attribute.named "payload" "byte").withCondition "kind" (.name "1") with
      disposition := some .filling }]

/--
A composite with this layout, and the enumeration, whose values have
numbers for names.
-/
def Schema.numbered : Schema where
  entries := [
    ("Kind", .enumeration { size := 1, values :=
      [{ name := "1", number := 0 }, { name := "0", number := 1 }] }),
    ("Choice", .composite { layout := numberedLayout })]
  distinct := by decide

theorem isNumeral_one : IsNumeral "1" 1 :=
  ⟨['1'], Or.inl rfl, by decide, List.forall_mem_singleton.mpr rfl,
    rfl, by decide⟩

/-- A composite with this layout, and the enumeration with other values. -/
def Schema.selecting (values : List EnumerationValue) : Schema where
  entries := [
    ("Kind", .enumeration { size := 1, values := values }),
    ("Choice", .composite { layout := numberedLayout })]
  distinct := by simp

theorem exists_compose_selecting (values : List EnumerationValue) :
    ∃ composition kind payload,
      compose (.selecting values) .standard .java "Choice" =
          .ok composition ∧
        composition.members = [kind, payload] ∧ kind.typeName = "Kind" ∧
        kind.condition = none ∧ payload.name = "payload" ∧
        payload.condition = some ⟨"kind", .equals, some "1"⟩ ∧
        findDiscriminant composition.members "kind" = some 0 := by
  have fields :
      (compose (.selecting values) .standard .java "Choice").map
        (fun composition => composition.members.map fun member =>
          (member.name, member.visit, member.typeName, member.condition)) =
      .ok [("kind", 0, "Kind", none),
        ("payload", 0, "byte", some ⟨"kind", .equals, some "1"⟩)] := by cbv
  rcases Outcome.map_eq_ok_iff.mp fields with ⟨composition, composed, fields⟩
  rcases List.map_eq_cons_iff.mp fields with
    ⟨kind, rest, members, kindFields, restFields⟩
  rcases List.map_eq_cons_iff.mp restFields with
    ⟨payload, _, rfl, payloadFields, noMore⟩
  rcases List.map_eq_nil_iff.mp noMore with rfl
  simp only [Prod.mk.injEq] at kindFields payloadFields
  refine ⟨composition, kind, payload, composed, members, kindFields.2.2.1,
    kindFields.2.2.2, payloadFields.1, payloadFields.2.2.2, ?_⟩
  simp [findDiscriminant, members, List.findIdx?_cons, kindFields.1,
    kindFields.2.1]

theorem exists_compose_numbered :
    ∃ composition kind payload,
      compose .numbered .standard .java "Choice" = .ok composition ∧
        composition.members = [kind, payload] ∧ kind.typeName = "Kind" ∧
        payload.condition = some ⟨"kind", .equals, some "1"⟩ ∧
        findDiscriminant composition.members "kind" = some 0 ∧
        ∀ earlier ∈ composition.members.take 1, ∀ fault,
          ¬ earlier.Unlinkable .numbered "Choice" composition.members
            fault := by
  have composes := exists_compose_selecting
    [{ name := "1", number := 0 }, { name := "0", number := 1 }]
  rcases composes with
    ⟨composition, kind, payload, composed, members, typeName, free, _,
      conditioned, found⟩
  refine ⟨composition, kind, payload, composed, members, typeName,
    conditioned, found, ?_⟩
  rw [members]
  intro earlier among fault
  rcases List.mem_singleton.mp among with rfl
  exact Member.not_unlinkable_of_condition_eq_none free

theorem enumeration?_numbered :
    Schema.numbered.enumeration? "Kind" = some { size := 1, values :=
      [{ name := "1", number := 0 }, { name := "0", number := 1 }] } := by
  cbv

theorem linkDiscriminants_selects_numbered :
    ∃ composition member reread,
      compose .numbered .standard .java "Choice" = .ok composition ∧
        composition.members[1]? = some member ∧
        Selector.ReadsBack (.name "1") reread ∧
        ∀ value,
          ({ size := 1, values :=
            [{ name := "1", number := 0 }, { name := "0", number := 1 }] } :
            Enumeration).find? reread = some value →
          (linkDiscriminants .numbered "Choice"
            composition.members).members[1]? =
            some { member with
              discriminant := some 0
              condition := some ⟨"kind", .equals, some value.name⟩ } := by
  rcases exists_compose_numbered with
    ⟨composition, kind, payload, composed, members, typeName, conditioned,
      found, reached⟩
  have flattens :
      Flattens .numbered .standard [] "Choice"
        (stepsOf Schema.numberedLayout) _ :=
    .plain (by decide) (by decide) (.plain (by decide) (by decide) .done)
  have flattening := flattens.isFlattening (by cbv)
  have located : composition.members[0]? = some kind := by
    rw [members]
    rfl
  have unbounded (number : Nat)
      (numbered : Selector.name "1" = .number number) :
      number < Decimal.binaryPower 64 := by
    cases numbered
  rcases linkDiscriminants_selects composed flattening
    (List.getElem?_cons_succ.trans List.getElem?_cons_zero) rfl rfl unbounded
    found located
    (typeName ▸ enumeration?_numbered) reached with
    ⟨member, reread, memberLocated, _, reads, linked, _⟩
  exact ⟨composition, member, reread, composed, memberLocated, reads, linked⟩

/--
The condition of the attribute selects the value with the number, and not
that of the name.
-/
theorem linkDiscriminants_numbered_not_named :
    ∃ composition enumeration linked,
      compose .numbered .standard .java "Choice" = .ok composition ∧
        findDiscriminant composition.members "kind" = some 0 ∧
        (composition.members[0]?).map Member.typeName = some "Kind" ∧
        Schema.numbered.enumeration? "Kind" = some enumeration ∧
        (enumeration.find? (.name "1")).map EnumerationValue.name = some "1" ∧
        (linkDiscriminants .numbered "Choice" composition.members).members[1]? =
          some linked ∧
        linked.condition = some ⟨"kind", .equals, some "0"⟩ := by
  rcases exists_compose_numbered with
    ⟨composition, kind, payload, composed, members, typeName, conditioned,
      found, reached⟩
  have step :
      payload.linkDiscriminant .numbered "Choice" composition.members = _ :=
    Member.linkDiscriminant_eq_of_enumeration?_eq_some conditioned found
      (by rw [members]; rfl) (typeName ▸ enumeration?_numbered)
  rw [Selector.ofText_eq_number_iff.mpr isNumeral_one] at step
  refine ⟨composition, _, _, composed, found, ?_, enumeration?_numbered, rfl,
    (linkDiscriminants_at (by rw [members]; rfl) reached).1 _ step, rfl⟩
  rw [members]
  exact congrArg some typeName

end WireLayout
