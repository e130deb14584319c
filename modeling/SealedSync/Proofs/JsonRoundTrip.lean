import SealedSync.Json.Writer
import SealedSync.Proofs.JsonTexts
import SealedSync.Proofs.TextRoundTrip

/-!
# JSON survives being written

The compact text of a value is read back as the value, if all of it is JSON: no part is broken or
cut short, its strings have contents, its keys are strings, and its numerals have the form in which
numerals are written.
-/
namespace SealedSync.Json

/-! ## Strings -/

/-- The unit that a character is read back as. -/
def unitOf (c : Char) : StringUnit :=
  if c.toNat < 0x20 ∧ c ∉ ['\x08', '\x0c', '\n', '\r', '\t'] then .code c.toNat else .char c

theorem hex4?_control : ∀ n < 0x20,
    hex4? '0' '0' (Hex.digit (n / 16)) (Hex.digit (n % 16)) = some n := by decide

theorem enclosed_control {n : Nat} (small : n < 0x20) {rest : Source} {units : List StringUnit}
    (more : Enclosed rest units) :
    Enclosed (some '\\' :: some 'u' :: some '0' :: some '0' :: some (Hex.digit (n / 16)) ::
      some (Hex.digit (n % 16)) :: rest) (.code n :: units) :=
  .code (hex4?_control n small) more

theorem enclosed_escapeChar (c : Char) {rest : Source} {units : List StringUnit}
    (more : Enclosed rest units) :
    Enclosed ((escapeChar c).map some ++ rest) (unitOf c :: units) := by
  by_cases quote : c = '"'
  · subst quote
    exact .short rfl more
  by_cases backslash : c = '\\'
  · subst backslash
    exact .short rfl more
  by_cases short : c ∈ ['\x08', '\x0c', '\n', '\r', '\t']
  · simp only [List.mem_cons, List.not_mem_nil, or_false] at short
    rcases short with rfl | rfl | rfl | rfl | rfl <;> exact .short rfl more
  have escaped : escapeChar c = if c.toNat < 0x20 then
      ['\\', 'u', '0', '0', Hex.digit (c.toNat / 16), Hex.digit (c.toNat % 16)] else [c] := by
    simp only [List.mem_cons, List.not_mem_nil, or_false, not_or] at short
    simp only [escapeChar, quote, backslash, short, if_false]
  rw [escaped]
  by_cases control : c.toNat < 0x20
  · rw [if_pos control, unitOf, if_pos ⟨control, short⟩]
    exact enclosed_control control more
  · rw [if_neg control, unitOf, if_neg (by simp [control])]
    exact .plain quote backslash control more

/-- The units of a written string are those of its characters. -/
theorem enclosed_written (chars : List Char) :
    Enclosed ((chars.flatMap escapeChar).map some) (chars.map unitOf) := by
  induction chars with
  | nil => exact .nil
  | cons c tail ih =>
      rw [List.flatMap_cons, List.map_append]
      exact enclosed_escapeChar c ih

theorem joinUnits_code {n : Nat} (small : n < 0xD800) (rest : List StringUnit) :
    joinUnits (.code n :: rest) = (joinUnits rest).map (Char.ofNat n :: ·) := by
  have single : ¬(0xD800 ≤ n ∧ n < 0xE000) := by omega
  cases rest with
  | nil => simp [joinUnits, single]
  | cons unit tail =>
      cases unit with
      | code low => rw [joinUnits, if_neg (by omega), if_neg (by omega)]
      | char c => simp [joinUnits, single]
      | gap => simp [joinUnits, single]

theorem joinUnits_unitOf (chars : List Char) : joinUnits (chars.map unitOf) = some chars := by
  induction chars with
  | nil => rfl
  | cons c tail ih =>
      rw [List.map_cons]
      by_cases control : c.toNat < 0x20 ∧ c ∉ ['\x08', '\x0c', '\n', '\r', '\t']
      · rw [unitOf, if_pos control, joinUnits_code (by omega), ih, Char.ofNat_toNat]
        rfl
      · rw [unitOf, if_neg control, joinUnits, ih]
        rfl

theorem denotes_quoted (s : String) : Denotes ((quoted s).map some) (text s) := by
  have denotes := Denotes.string (enclosed_written s.toList)
  rw [joinUnits_unitOf, Option.map_some, String.ofList_toList] at denotes
  simpa [quoted, text] using denotes

/-! ## Numerals -/

theorem Numeral.text_eq (n : Numeral) :
    n.text = (if n.negative then ['-'] else []) ++ n.unsigned 'e' := by
  simp only [Numeral.text, Numeral.unsigned, fractionChars, markedExponent, List.append_assoc]

theorem Numeral.Written.isSource {n : Numeral} (written : n.Written) :
    n.IsSource (n.text.map some) :=
  ⟨written, 'e', List.mem_cons_self, congrArg _ n.text_eq⟩

/-! ## Values -/

mutual

/-- All of a value is JSON, and it has a written form of its own. -/
def Legible : Json → Prop
  | .null | .bool _ => True
  | .number n => n.Written
  | .string content => content.isSome = true
  | .array items => items.Legible
  | .object members => members.Legible
  | .broken => False

def Items.Legible : Items → Prop
  | .closed => True
  | .cut => False
  | .item head tail => head.Legible ∧ tail.Legible

def Members.Legible : Members → Prop
  | .closed => True
  | .cut => False
  | .member key value tail =>
      (∃ name, key = Json.text name) ∧ value.Legible ∧ tail.Legible

end

theorem Items.renderChars_cons {head next : Json} {tail : Items} :
    (Items.item head (.item next tail)).renderChars =
      head.renderChars ++ (',' :: (Items.item next tail).renderChars) := rfl

theorem Members.renderChars_cons {name : String} {value : Json} {key other : Json}
    {tail : Members} :
    (Members.member (text name) value (.member key other tail)).renderChars =
      quoted name ++ (':' :: value.renderChars) ++
        (',' :: (Members.member key other tail).renderChars) := rfl

mutual

/-- The compact text of a value is one of its texts. -/
theorem denotes_render : (value : Json) → value.Legible → Denotes (value.renderChars.map some) value
  | .null, _ => .null
  | .bool true, _ => .yes
  | .bool false, _ => .no
  | .number _, written => .number (Numeral.Written.isSource written)
  | .string (some s), _ => denotes_quoted s
  | .array .closed, _ => .emptyArray .nil
  | .array (.item head tail), legible => .array (Items.denoted_render (.item head tail) legible nofun)
  | .object .closed, _ => .emptyObject .nil
  | .object (.member key value tail), legible =>
      .object (Members.denoted_render (.member key value tail) legible nofun)

theorem Items.denoted_render : (items : Items) → items.Legible → items ≠ .closed →
    Items.Denoted (items.renderChars.map some) items
  | .item head .closed, legible, _ => by
      simpa [Items.renderChars] using Items.Denoted.last (denotes_render head legible.1).fills
  | .item head (.item next tail), legible, _ => by
      rw [Items.renderChars_cons]
      simpa using Items.Denoted.more (denotes_render head legible.1).fills
        (Items.denoted_render (.item next tail) legible.2 nofun)
  | .item _ .cut, legible, _ => legible.2.elim
  | .closed, _, unfinished => absurd rfl unfinished

theorem Members.denoted_render : (members : Members) → members.Legible → members ≠ .closed →
    Members.Denoted (members.renderChars.map some) members
  | .member key value .closed, legible, _ => by
      obtain ⟨name, rfl⟩ := legible.1
      simpa [Members.renderChars, scalar, text] using Members.Denoted.last
        (denotes_quoted name).fills (denotes_render value legible.2.1).fills
  | .member key value (.member next other tail), legible, _ => by
      obtain ⟨name, rfl⟩ := legible.1
      rw [Members.renderChars_cons]
      simpa [text] using Members.Denoted.more (denotes_quoted name).fills
        (denotes_render value legible.2.1).fills
        (Members.denoted_render (.member next other tail) legible.2.2 nofun)
  | .member _ _ .cut, legible, _ => legible.2.2.elim
  | .closed, _, unfinished => absurd rfl unfinished

end

theorem denotes_ofText_render {value : Json} (legible : value.Legible) :
    Denotes (.ofText value.render) value := by
  simpa [Source.ofText, render] using denotes_render value legible

theorem isText_render {value : Json} (legible : value.Legible) : IsText value.render value :=
  (denotes_ofText_render legible).fills

/-- Reading the text of a value finds the value and nothing after it. -/
theorem read_render {value : Json} (legible : value.Legible) :
    read (.ofText value.render) = (value, []) :=
  (denotes_ofText_render legible).read

theorem decodeText_render {α : Type} (decode : Decoder α) {value : Json}
    (legible : value.Legible) : decodeText decode value.render = decode value :=
  (denotes_ofText_render legible).fills.decodeSource decode

theorem decodeBytes_encode {α : Type} (decode : Decoder α) (s : String) :
    decodeBytes decode (Utf8.encode s) = decodeText decode s := by
  rw [decodeBytes, Source.ofBytes, Utf8.decode_encode]
  rfl

/-! ## What is written -/

theorem legible_text (s : String) : (text s).Legible := rfl

theorem Members.legible_ofList {members : List (String × Json)}
    (legible : ∀ member ∈ members, member.2.Legible) : (Members.ofList members).Legible := by
  induction members with
  | nil => trivial
  | cons member rest ih =>
      have tail := ih fun other found => legible other (List.mem_cons_of_mem _ found)
      exact ⟨⟨member.1, rfl⟩, legible member List.mem_cons_self, tail⟩

theorem legible_fields {members : List (String × Json)}
    (legible : ∀ member ∈ members, member.2.Legible) : (fields members).Legible :=
  Members.legible_ofList legible

theorem isDigit_digitChar : ∀ n < 10, Digits.isDigit (Nat.digitChar n) = true := by decide

theorem value_digitChar : ∀ n < 10, Digits.value (Nat.digitChar n) = n := by decide

/-- The digits of a number in some base, each taken for its value, stand for the number. -/
theorem foldl_toDigits {base : Nat} (positive : 1 < base) {value : Char → Nat}
    (values : ∀ d < base, value (Nat.digitChar d) = d) (n : Nat) :
    (Nat.toDigits base n).foldl (fun m c => base * m + value c) 0 = n := by
  induction n using Nat.strongRecOn with
  | ind n ih =>
      by_cases single : n < base
      · rw [Nat.toDigits_of_lt_base single]
        simpa using values n single
      · have shorter : n / base < n := Nat.div_lt_self (by omega) positive
        rw [Nat.toDigits_of_base_le positive (by omega), List.foldl_append, ih (n / base) shorter]
        simpa [values (n % base) (Nat.mod_lt _ (by omega))] using Nat.div_add_mod n base

/-- A number is written in the digits of its base. -/
theorem mem_toDigits {base : Nat} (large : 1 < base) (n : Nat) :
    ∀ c ∈ Nat.toDigits base n, ∃ digit < base, c = Nat.digitChar digit := by
  induction n using Nat.strongRecOn with
  | ind n ih =>
      intro c member
      by_cases single : n < base
      · rw [Nat.toDigits_of_lt_base single, List.mem_singleton] at member
        exact ⟨n, single, member⟩
      · rw [Nat.toDigits_of_base_le large (by omega)] at member
        rcases List.mem_append.mp member with early | last
        · exact ih (n / base) (Nat.div_lt_self (by omega) large) c early
        · exact ⟨n % base, Nat.mod_lt n (by omega), List.mem_singleton.mp last⟩

theorem toDigits_decimal (n : Nat) : ∀ c ∈ Nat.toDigits 10 n, Digits.isDigit c = true := by
  intro c member
  obtain ⟨digit, small, rfl⟩ := mem_toDigits (by decide) n c member
  exact isDigit_digitChar digit small

theorem notMem_toDigits {c : Char} (other : Digits.isDigit c = false) (n : Nat) : c ∉ Nat.toDigits 10 n :=
  fun member => Bool.false_ne_true (other.symm.trans (toDigits_decimal n c member))

theorem digitChar_ne_zero : ∀ n < 10, 0 < n → Nat.digitChar n ≠ '0' := by decide

theorem toDigits_head {n : Nat} (positive : 0 < n) (rest : List Char) :
    Nat.toDigits 10 n ≠ '0' :: rest := by
  induction n using Nat.strongRecOn generalizing rest with
  | ind n ih =>
      intro same
      by_cases single : n < 10
      · rw [Nat.toDigits_of_lt_base single] at same
        exact digitChar_ne_zero n single positive (List.cons.inj same).1
      · rw [Nat.toDigits_of_base_le (by omega) (by omega)] at same
        obtain ⟨c, more, begins⟩ := List.exists_cons_of_ne_nil (Nat.toDigits_ne_nil (n := n / 10))
        rw [begins] at same
        obtain rfl : c = '0' := (List.cons.inj same).1
        exact ih (n / 10) (by omega) (by omega) more begins

theorem toNat_toDigits (n : Nat) : Digits.toNat (Nat.toDigits 10 n) = n :=
  foldl_toDigits (by decide) value_digitChar n

theorem written_ofNat (n : Nat) : (Numeral.ofNat n).Written where
  whole := toDigits_decimal n
  whole_ne_nil := Nat.toDigits_ne_nil
  no_leading_zero := by
    intro c rest same
    rcases Nat.eq_zero_or_pos n with rfl | positive
    · simp [Numeral.ofNat] at same
    · exact toDigits_head positive _ same
  fraction := by simp [Numeral.ofNat]
  exponent := by simp [Numeral.ofNat]

theorem legible_nat (n : Nat) : (nat n).Legible := written_ofNat n

theorem value_ofNat {n : Nat} (small : n < Numeral.wordLimit) :
    (Numeral.ofNat n).value = some (.integer n) := by
  have magnitude : Digits.toNat (Numeral.ofNat n).whole = n := toNat_toDigits n
  have plain : ((Numeral.ofNat n).fraction.isEmpty && (Numeral.ofNat n).exponent.isEmpty) = true :=
    rfl
  have positive : (Numeral.ofNat n).negative = false := rfl
  simp [Numeral.value, magnitude, plain, positive, small]

/-- A number below the limit is decoded as itself. -/
theorem decodeNat_nat {limit n : Nat} {expected : String} (small : n < limit)
    (word : limit ≤ Numeral.wordLimit) : decodeNat limit expected (nat n) = .ok n := by
  have value := value_ofNat (Nat.lt_of_lt_of_le small word)
  simp [decodeNat, nat, value, small]

end SealedSync.Json
