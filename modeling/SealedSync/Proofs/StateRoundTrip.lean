import SealedSync.Proofs.JsonRoundTrip
import SealedSync.Proofs.Recall
import SealedSync.Proofs.RecordRoundTrip

/-!
# The local state survives being saved

The state file holds indented JSON. Space between the parts of a value is passed over, so the indented
text is read back as the value, just as the compact text is. The text of an instant is read back as the
instant. So a state that was saved is the state that is loaded.
-/
namespace SealedSync

namespace Json

/-! ## Indented values -/

theorem blank_spaces (n : Nat) : Blank ((List.replicate n ' ').map some) := by
  induction n with
  | zero => exact .nil
  | succ n ih => exact .cons (by decide) ih

theorem blank_newLine (level : Nat) : Blank ((newLine level).map some) :=
  .cons (by decide) (blank_spaces (2 * level))

/-- A value may follow the space behind a colon. -/
theorem Denotes.fills_spaced {source : Source} {value : Json} (denotes : Denotes source value)
    {after : Source} (last : Blank after) : Fills (some ' ' :: (source ++ after)) value :=
  .between (.cons (by decide) .nil) denotes last

/-- A value may follow a line break. -/
theorem Denotes.fills_line {source : Source} {value : Json} (denotes : Denotes source value)
    (level : Nat) {after : Source} (last : Blank after) :
    Fills ((newLine level).map some ++ (source ++ after)) value :=
  .between (blank_newLine level) denotes last

mutual

/-- The indented text of a value is one of its texts. -/
theorem denotes_indent : (value : Json) → value.Legible → (level : Nat) →
    Denotes ((value.indentChars level).map some) value
  | .null, _, _ => .null
  | .bool true, _, _ => .yes
  | .bool false, _, _ => .no
  | .number _, written, _ => .number (Numeral.Written.isSource written)
  | .string (some s), _, _ => denotes_quoted s
  | .array .closed, _, _ => .emptyArray .nil
  | .array (.item head tail), legible, level =>
      .array (Items.denoted_indent (.item head tail) legible level nofun)
  | .object .closed, _, _ => .emptyObject .nil
  | .object (.member key value tail), legible, level =>
      .object (Members.denoted_indent (.member key value tail) legible level nofun)

theorem Items.denoted_indent : (items : Items) → items.Legible → (level : Nat) →
    items ≠ .closed → Items.Denoted ((items.indentChars level).map some) items
  | .item head .closed, legible, level, _ => by
      have fills := (denotes_indent head legible.1 (level + 1)).fills_line (level + 1)
        (blank_newLine level)
      simpa [Items.indentChars] using Items.Denoted.last fills
  | .item head (.item next tail), legible, level, _ => by
      have line : (Items.item head (.item next tail)).indentChars level =
        newLine (level + 1) ++ head.indentChars (level + 1) ++
          (',' :: (Items.item next tail).indentChars level) := rfl
      have fills := (denotes_indent head legible.1 (level + 1)).fills_line (level + 1) .nil
      rw [line]
      simpa using Items.Denoted.more fills
        (Items.denoted_indent (.item next tail) legible.2 level nofun)
  | .item _ .cut, legible, _, _ => legible.2.elim
  | .closed, _, _, unfinished => absurd rfl unfinished

theorem Members.denoted_indent : (members : Members) → members.Legible → (level : Nat) →
    members ≠ .closed → Members.Denoted ((members.indentChars level).map some) members
  | .member key value .closed, legible, level, _ => by
      obtain ⟨name, rfl⟩ := legible.1
      have named := (denotes_quoted name).fills_line (level + 1) .nil
      have fills := (denotes_indent value legible.2.1 (level + 1)).fills_spaced (blank_newLine level)
      simpa [Members.indentChars, scalar, text] using Members.Denoted.last named fills
  | .member key value (.member next other tail), legible, level, _ => by
      obtain ⟨name, rfl⟩ := legible.1
      have line : (Members.member (text name) value (.member next other tail)).indentChars level =
        newLine (level + 1) ++ quoted name ++ (':' :: ' ' :: value.indentChars (level + 1)) ++
          (',' :: (Members.member next other tail).indentChars level) := rfl
      have named := (denotes_quoted name).fills_line (level + 1) .nil
      have fills := (denotes_indent value legible.2.1 (level + 1)).fills_spaced .nil
      rw [line]
      simpa [text] using Members.Denoted.more named fills
        (Members.denoted_indent (.member next other tail) legible.2.2 level nofun)
  | .member _ _ .cut, legible, _, _ => legible.2.2.elim
  | .closed, _, _, unfinished => absurd rfl unfinished

end

theorem decodeText_renderIndented {α : Type} (decode : Decoder α) {value : Json}
    (legible : value.Legible) : decodeText decode value.renderIndented = decode value := by
  have denotes := denotes_indent value legible 0
  have source : (value.indentChars 0).map some = Source.ofText value.renderIndented := by
    simp [Source.ofText, renderIndented]
  rw [source] at denotes
  exact denotes.fills.decodeSource decode

end Json

/-! ## Instants -/

namespace Digits

theorem toList_padded (width n : Nat) : (padded width n).toList =
    List.replicate (width - (Nat.toDigits 10 n).length) '0' ++ Nat.toDigits 10 n :=
  String.toList_ofList

theorem toNat_append_zeros (k : Nat) (digits : List Char) :
    toNat (List.replicate k '0' ++ digits) = toNat digits := by
  induction k with
  | zero => rfl
  | succ k ih => exact ih

/-- Zeros in front do not change what digits stand for. -/
theorem toNat_padded (width n : Nat) : toNat (padded width n).toList = n := by
  rw [toList_padded, toNat_append_zeros, Json.toNat_toDigits]

theorem isDigit_padded {width n : Nat} : ∀ c ∈ (padded width n).toList, isDigit c = true := by
  intro c member
  rw [toList_padded] at member
  rcases List.mem_append.mp member with zero | digit
  · rw [(List.mem_replicate.mp zero).2]
    decide
  · exact Json.toDigits_decimal n c digit

theorem length_padded {width n : Nat} (positive : 0 < width) (fits : n < Nat.pow 10 width) :
    (padded width n).toList.length = width := by
  have short := (Nat.length_toDigits_le_iff (by decide) positive).mpr fits
  rw [toList_padded, List.length_append, List.length_replicate]
  omega

theorem padded_ne_nil (width n : Nat) : (padded width n).toList ≠ [] := by
  rw [toList_padded]
  exact List.append_ne_nil_of_right_ne_nil _ Nat.toDigits_ne_nil

theorem padded_head (width n : Nat) (rest : List Char) :
    ∃ c tail, (padded width n).toList ++ rest = c :: tail ∧ isDigit c = true := by
  obtain ⟨c, tail, begins⟩ := List.exists_cons_of_ne_nil (padded_ne_nil width n)
  exact ⟨c, tail ++ rest, by rw [begins, List.cons_append],
    isDigit_padded c (by rw [begins]; exact List.mem_cons_self)⟩

end Digits

namespace Instant

theorem trimStart_visible {c : Char} (visible : Blank.isBlank c = false) (rest : List Char) :
    Blank.trimStart (c :: rest) = c :: rest :=
  List.dropWhile_cons_of_neg (by simp [visible])

theorem isBlank_of_isDigit {c : Char} (digit : Digits.isDigit c = true) :
    Blank.isBlank c = false := by
  have among := Json.mem_digits_of_isDigit digit
  simp only [List.mem_cons, List.not_mem_nil, or_false] at among
  rcases among with rfl | rfl | rfl | rfl | rfl | rfl | rfl | rfl | rfl | rfl <;> decide

/-- Digits are read up to the most there may be, or up to what is none. -/
theorem readDigits_append (most : Nat) {digits rest : List Char}
    (decimal : ∀ c ∈ digits, Digits.isDigit c = true) (some_digit : digits ≠ [])
    (fits : digits.length ≤ most)
    (ends : digits.length = most ∨ ∀ c tail, rest = c :: tail → Digits.isDigit c = false) :
    readDigits most (digits ++ rest) = some (Digits.toNat digits, rest) := by
  have stops : (rest.take (most - digits.length)).takeWhile Digits.isDigit = [] := by
    rcases ends with full | other
    · rw [full, Nat.sub_self]
      rfl
    · cases rest with
      | nil => simp
      | cons c tail =>
          cases most - digits.length with
          | zero => rfl
          | succ k => exact List.takeWhile_cons_of_neg (by simp [other c tail rfl])
  have found : ((digits ++ rest).take most).takeWhile Digits.isDigit = digits := by
    rw [List.take_append, List.take_of_length_le fits, List.takeWhile_append_of_pos decimal, stops,
      List.append_nil]
  rw [readDigits, found, List.drop_left, if_neg (by simpa using some_digit)]

/-- A number of two digits is read. -/
theorem readNumber_padded {n : Nat} (small : n < 100) (rest : List Char) :
    readNumber 2 ((Digits.padded 2 n).toList ++ rest) = some (n, rest) := by
  obtain ⟨c, tail, begins, digit⟩ := Digits.padded_head 2 n rest
  have length : (Digits.padded 2 n).toList.length = 2 := Digits.length_padded (by decide) small
  have read : readDigits 2 ((Digits.padded 2 n).toList ++ rest) =
      some (Digits.toNat (Digits.padded 2 n).toList, rest) :=
    readDigits_append 2 Digits.isDigit_padded (Digits.padded_ne_nil 2 n) (by omega) (.inl length)
  rw [Digits.toNat_padded] at read
  rw [readNumber, begins, trimStart_visible (isBlank_of_isDigit digit), ← begins]
  exact read

theorem expect_self {c : Char} (visible : Blank.isBlank c = false) (rest : List Char) :
    expect c (c :: rest) = some rest := by
  rw [expect, trimStart_visible visible]
  exact if_pos rfl

section Year

variable {rest : List Char}

theorem readYear_padded {n : Nat} (small : n < 10000) :
    readYear ((Digits.padded 4 n).toList ++ rest) = some ((n : Int), rest) := by
  obtain ⟨c, tail, begins, digit⟩ := Digits.padded_head 4 n rest
  have length : (Digits.padded 4 n).toList.length = 4 := Digits.length_padded (by decide) small
  have read : readDigits 4 ((Digits.padded 4 n).toList ++ rest) =
      some (Digits.toNat (Digits.padded 4 n).toList, rest) :=
    readDigits_append 4 Digits.isDigit_padded (Digits.padded_ne_nil 4 n) (by omega) (.inl length)
  rw [Digits.toNat_padded, begins] at read
  have minus : c ≠ '-' := by
    rintro rfl
    exact absurd digit (by decide)
  have plus : c ≠ '+' := by
    rintro rfl
    exact absurd digit (by decide)
  rw [readYear, begins, trimStart_visible (isBlank_of_isDigit digit)]
  split
  · rename_i same
    exact absurd (List.cons.inj same).1 minus
  · rename_i same
    exact absurd (List.cons.inj same).1 plus
  · rw [read]
    rfl

variable (ends : ∀ c tail, rest = c :: tail → Digits.isDigit c = false) (n : Nat)

include ends

theorem readDigits_padded : readDigits ((Digits.padded 4 n).toList ++ rest).length
    ((Digits.padded 4 n).toList ++ rest) = some (n, rest) := by
  have read := readDigits_append ((Digits.padded 4 n).toList ++ rest).length Digits.isDigit_padded
    (Digits.padded_ne_nil 4 n) (by simp) (.inr ends)
  rwa [Digits.toNat_padded] at read

theorem readYear_minus :
    readYear ('-' :: ((Digits.padded 4 n).toList ++ rest)) = some (-(n : Int), rest) := by
  rw [readYear, trimStart_visible (by decide)]
  simp only [readDigits_padded ends n, Option.map_some]

theorem readYear_plus :
    readYear ('+' :: ((Digits.padded 4 n).toList ++ rest)) = some ((n : Int), rest) := by
  rw [readYear, trimStart_visible (by decide)]
  simp only [readDigits_padded ends n, Option.map_some]

end Year

theorem readYear_yearText (year : Int) (rest : List Char) :
    readYear ((yearText year).toList ++ '-' :: rest) = some (year, '-' :: rest) := by
  have ends : ∀ c tail, '-' :: rest = c :: tail → Digits.isDigit c = false := by
    intro c tail same
    obtain rfl := (List.cons.inj same).1
    decide
  rw [yearText]
  split
  · rename_i within
    rw [readYear_padded (by omega), Int.toNat_of_nonneg within.1]
  · have minus : "-".toList = ['-'] := rfl
    have plus : "+".toList = ['+'] := rfl
    rw [String.toList_append, List.append_assoc]
    split
    · have value : -(year.natAbs : Int) = year := by omega
      rw [minus, List.singleton_append, readYear_minus ends, value]
    · have value : (year.natAbs : Int) = year := by omega
      rw [plus, List.singleton_append, readYear_plus ends, value]

theorem readFraction_padded {places n : Nat} (positive : 0 < places) (few : places ≤ 9)
    (fits : n < Nat.pow 10 places) {rest : List Char}
    (ends : ∀ c tail, rest = c :: tail → Digits.isDigit c = false) :
    readFraction ('.' :: ((Digits.padded places n).toList ++ rest)) =
      some (n * Nat.pow 10 (9 - places), rest) := by
  have length : (Digits.padded places n).toList.length = places := Digits.length_padded positive fits
  have tail : rest.takeWhile Digits.isDigit = [] ∧ rest.dropWhile Digits.isDigit = rest := by
    cases rest with
    | nil => exact ⟨rfl, rfl⟩
    | cons c tail =>
        have other : ¬Digits.isDigit c = true := by simp [ends c tail rfl]
        exact ⟨List.takeWhile_cons_of_neg other, List.dropWhile_cons_of_neg other⟩
  have taken : ((Digits.padded places n).toList ++ rest).takeWhile Digits.isDigit =
      (Digits.padded places n).toList := by
    rw [List.takeWhile_append_of_pos Digits.isDigit_padded, tail.1, List.append_nil]
  have dropped : ((Digits.padded places n).toList ++ rest).dropWhile Digits.isDigit = rest := by
    rw [List.dropWhile_append_of_pos Digits.isDigit_padded, tail.2]
  have kept : (Digits.padded places n).toList.take 9 = (Digits.padded places n).toList :=
    List.take_of_length_le (by omega)
  have some_digit : ¬(Digits.padded places n).toList.isEmpty = true := by
    simpa using Digits.padded_ne_nil places n
  simp only [readFraction, taken, dropped, kept, if_neg some_digit, Digits.toNat_padded, length]

/-- A fraction of a second is read, however many decimals it is written with. -/
theorem readFraction_fractionText {nanosecond : Nat} (small : nanosecond < 1000000000)
    (rest : List Char) :
    readFraction ((fractionText nanosecond).toList ++ 'Z' :: rest) =
      some (nanosecond, 'Z' :: rest) := by
  have ends : ∀ c tail, 'Z' :: rest = c :: tail → Digits.isDigit c = false := by
    intro c tail same
    obtain rfl := (List.cons.inj same).1
    decide
  -- The decimals that are left out are zeros.
  have written (places n : Nat) (positive : 0 < places) (few : places ≤ 9)
      (whole : n * Nat.pow 10 (9 - places) = nanosecond) (fits : n < Nat.pow 10 places) :
      readFraction (("." ++ Digits.padded places n).toList ++ 'Z' :: rest) =
        some (nanosecond, 'Z' :: rest) := by
    have point : ".".toList = ['.'] := rfl
    rw [← whole, String.toList_append, point, List.append_assoc, List.singleton_append]
    exact readFraction_padded positive few fits ends
  rw [fractionText]
  split
  · rename_i zero
    rw [zero]
    rfl
  split
  · rename_i thousandths
    exact written 3 (nanosecond / 1000000) (by decide) (by decide)
      (Nat.div_mul_cancel (Nat.dvd_of_mod_eq_zero thousandths))
      (Nat.div_lt_of_lt_mul small)
  split
  · rename_i millionths
    exact written 6 (nanosecond / 1000) (by decide) (by decide)
      (Nat.div_mul_cancel (Nat.dvd_of_mod_eq_zero millionths))
      (Nat.div_lt_of_lt_mul small)
  · exact written 9 nanosecond (by decide) (by decide) (Nat.mul_one nanosecond) small

theorem behind_zero {t : CivilTime} (hour : t.hour < 24) (minute : t.minute < 60) :
    t.behind 0 = t := by
  have first : ((t.hour * 60 + t.minute : Nat) - 0 : Int).emod 1440 = (t.hour * 60 + t.minute : Nat) := by
    rw [Int.sub_zero]
    exact Int.emod_eq_of_lt (by omega) (by omega)
  have hours : (t.hour * 60 + t.minute) / 60 = t.hour := by omega
  have minutes : (t.hour * 60 + t.minute) % 60 = t.minute := by omega
  simp only [CivilTime.behind, first, Int.toNat_natCast, hours, minutes]
  rw [if_neg (by omega), if_neg (by omega)]

theorem toList_text (instant : Instant) : instant.text.toList =
    (yearText instant.val.year).toList ++ '-' :: ((Digits.padded 2 instant.val.month).toList ++
      '-' :: ((Digits.padded 2 instant.val.day).toList ++
        'T' :: ((Digits.padded 2 instant.val.hour).toList ++
          ':' :: ((Digits.padded 2 instant.val.minute).toList ++
            ':' :: ((Digits.padded 2 instant.val.second).toList ++
              ((fractionText instant.val.nanosecond).toList ++ ['Z'])))))) := by
  simp [text]

theorem bind_found {α β : Type} {first : Option α} {a : α} {next : α → Option β}
    (found : first = some a) : (first >>= next) = next a := by
  rw [found]
  rfl

/-- The text of an instant is read back as the instant. -/
theorem read_text (instant : Instant) : read instant.text.toList = some instant := by
  obtain ⟨-, ⟨-, month⟩, ⟨-, day⟩, hour, minute, second, nanosecond⟩ := instant.property
  have last : instant.val.day < 100 := by
    have most : Calendar.daysInMonth instant.val.year instant.val.month ≤ 31 := by
      unfold Calendar.daysInMonth
      split
      · split <;> omega
      · split <;> omega
    omega
  have same : instant.val.behind 0 = instant.val := behind_zero hour minute
  have valid : (instant.val.behind 0).Valid := by
    rw [same]
    exact instant.property
  have zone : readOffset (Blank.trimStart ['Z']) = some (0, []) := rfl
  rw [toList_text, read, bind_found (readYear_yearText _ _)]
  dsimp only
  rw [bind_found (expect_self rfl _),
    bind_found (readNumber_padded (Nat.lt_of_le_of_lt month (by decide)) _)]
  dsimp only
  rw [bind_found (expect_self rfl _), bind_found (readNumber_padded last _)]
  dsimp only
  rw [if_pos (Or.inl rfl), bind_found (rfl : some (_ : List Char) = some _),
    bind_found (readNumber_padded (Nat.lt_trans hour (by decide)) _)]
  dsimp only
  rw [bind_found (expect_self rfl _), bind_found (readNumber_padded (Nat.lt_trans minute (by decide)) _)]
  dsimp only
  rw [bind_found (expect_self rfl _),
    bind_found (readNumber_padded (Nat.lt_of_le_of_lt second (by decide)) _)]
  dsimp only
  rw [bind_found (readFraction_fractionText nanosecond _)]
  dsimp only
  rw [bind_found zone]
  dsimp only
  rw [dif_pos valid, if_pos ⟨instant.property, by decide, rfl⟩]
  exact congrArg some (Subtype.ext same)

end Instant

/-! ## States -/

namespace Json

theorem legible_optional {α : Type} {write : α → Json} (legible : ∀ a, (write a).Legible)
    (value : Option α) : (Json.optional write value).Legible := by
  cases value with
  | none => trivial
  | some a => exact legible a

/-- An optional value that is not written like a missing one is read back. -/
theorem decodeOptional_optional {α : Type} {write : α → Json} {decode : Decoder α}
    (present : ∀ a, write a ≠ .null) (decoded : ∀ a, decode (write a) = .ok a) (value : Option α) :
    decodeOptional decode (Json.optional write value) = .ok value := by
  cases value with
  | none => rfl
  | some a =>
      show decodeOptional decode (write a) = _
      unfold decodeOptional
      split
      · rename_i null
        exact absurd null (present a)
      · rw [decoded]
        rfl

end Json

namespace LocalState

theorem decodeInstant_text (instant : Instant) :
    decodeInstant (.text instant.text) = .ok instant := by
  have text : Json.decodeStringAs "an RFC 3339 formatted date and time string"
    (.text instant.text) = .ok instant.text := rfl
  simp only [decodeInstant, text, bind, Except.bind, Instant.read_text]
  rfl

theorem decode_toJson (state : LocalState) : decode state.toJson = .ok state := by
  have present (s : String) : Json.text s ≠ .null := nofun
  have decoded (s : String) : Json.decodeString (.text s) = .ok s := rfl
  have lastSyncId := Json.readField_none "last_sync_id"
    (Json.decodeOptional_optional present decoded state.lastSyncId)
  have indexFingerprint := Json.readField_none "index_fingerprint"
    (Json.decodeOptional_optional present decoded state.indexFingerprint)
  have lastSyncAt := Json.readField_none "last_sync_at"
    (Json.decodeOptional_optional (fun _ => present _) decodeInstant_text state.lastSyncAt)
  show ofMembers (.ofList [("last_sync_id", _), ("index_fingerprint", _), ("last_sync_at", _)]) = _
  simp only [ofMembers, Json.Members.fold_cons, Json.Members.fold_nil, Draft.read, bind, Except.bind,
    pure, Except.pure, lastSyncId, indexFingerprint, lastSyncAt]
  rfl

theorem legible_toJson (state : LocalState) : state.toJson.Legible := by
  refine Json.legible_fields fun member found => ?_
  simp only [List.mem_cons, List.not_mem_nil, or_false] at found
  rcases found with rfl | rfl | rfl <;> exact Json.legible_optional (fun _ => Json.legible_text _) _

/-- What a saved state stands for is the state. -/
theorem ofBytes_contents (state : LocalState) : ofBytes (StateFile.contents state) = state := by
  rw [ofBytes, StateFile.contents, Json.decodeBytes_encode,
    Json.decodeText_renderIndented decode state.legible_toJson, decode_toJson]

theorem exists_ne (old : LocalState) : ∃ state, state ≠ old := by
  by_cases empty : old = .empty
  · exact ⟨⟨some "", none, none⟩, by rw [empty]; decide⟩
  · exact ⟨.empty, fun same => empty same.symm⟩

end LocalState

end SealedSync
