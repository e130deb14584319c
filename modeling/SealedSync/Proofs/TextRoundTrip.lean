import SealedSync.Text.Base64

/-!
# Texts survive being written as bytes

A text that is written in UTF-8 is read back without a gap, and a byte sequence that is written in
base64 is read back whole.
-/
namespace SealedSync.Utf8

theorem toNat_ofNat {n : Nat} (small : n < 256) : (UInt8.ofNat n).toNat = n := by
  simp [Nat.mod_eq_of_lt small]

/-- A byte that a character in progress can take. -/
theorem decodeFrom_continue {p : Partial} {n : Nat} {rest : List UInt8} (small : n < 256)
    (low : p.low.toNat ≤ n) (high : n ≤ p.high.toNat) :
    decodeFrom (some p) (UInt8.ofNat n :: rest) =
      if p.owed = 1 then some (Char.ofNat (p.value * 64 + (n - 0x80))) :: decodeFrom none rest
      else decodeFrom (some ⟨p.value * 64 + (n - 0x80), p.owed - 1, 0x80, 0xBF⟩) rest := by
  have within : p.low ≤ UInt8.ofNat n ∧ UInt8.ofNat n ≤ p.high := by
    simp only [UInt8.le_iff_toNat_le, toNat_ofNat small]
    exact ⟨low, high⟩
  rw [decodeFrom, if_pos within, toNat_ofNat small]

theorem lead_ofNat {n : Nat} (small : n < 256) :
    lead (UInt8.ofNat n) =
      if n < 0x80 then .character (Char.ofNat n)
      else if n < 0xC2 then .gap
      else if n < 0xE0 then .started ⟨n - 0xC0, 1, 0x80, 0xBF⟩
      else if n = 0xE0 then .started ⟨0, 2, 0xA0, 0xBF⟩
      else if n = 0xED then .started ⟨13, 2, 0x80, 0x9F⟩
      else if n < 0xF0 then .started ⟨n - 0xE0, 2, 0x80, 0xBF⟩
      else if n = 0xF0 then .started ⟨0, 3, 0x90, 0xBF⟩
      else if n < 0xF4 then .started ⟨n - 0xF0, 3, 0x80, 0xBF⟩
      else if n = 0xF4 then .started ⟨4, 3, 0x80, 0x8F⟩
      else .gap := by
  simp only [lead, UInt8.lt_iff_toNat_lt, ← UInt8.toNat_inj, toNat_ofNat small, UInt8.reduceToNat]

theorem decodeFrom_started {b : UInt8} {p : Partial} {rest : List UInt8}
    (started : lead b = .started p) : decodeFrom none (b :: rest) = decodeFrom (some p) rest := by
  rw [decodeFrom, started]

theorem decodeFrom_owed_one (v : Nat) (rest : List UInt8) :
    decodeFrom (some ⟨v / 64, 1, 0x80, 0xBF⟩) (UInt8.ofNat (v % 0x40 + 0x80) :: rest) =
      some (Char.ofNat v) :: decodeFrom none rest := by
  rw [decodeFrom_continue (by omega) (by simp) (by simp; omega), if_pos rfl]
  rw [show v / 64 * 64 + (v % 0x40 + 0x80 - 0x80) = v by omega]

theorem decodeFrom_owed_two {v : Nat} {low high : UInt8} (rest : List UInt8)
    (above : low.toNat ≤ v / 64 % 0x40 + 0x80) (below : v / 64 % 0x40 + 0x80 ≤ high.toNat) :
    decodeFrom (some ⟨v / 4096, 2, low, high⟩)
        (UInt8.ofNat (v / 64 % 0x40 + 0x80) :: UInt8.ofNat (v % 0x40 + 0x80) :: rest) =
      some (Char.ofNat v) :: decodeFrom none rest := by
  rw [decodeFrom_continue (by omega) above below, if_neg (by simp)]
  rw [show v / 4096 * 64 + (v / 64 % 0x40 + 0x80 - 0x80) = v / 64 by omega]
  exact decodeFrom_owed_one v rest

theorem decodeFrom_owed_three {v : Nat} {low high : UInt8} (rest : List UInt8)
    (above : low.toNat ≤ v / 4096 % 0x40 + 0x80) (below : v / 4096 % 0x40 + 0x80 ≤ high.toNat) :
    decodeFrom (some ⟨v / 262144, 3, low, high⟩)
        (UInt8.ofNat (v / 4096 % 0x40 + 0x80) :: UInt8.ofNat (v / 64 % 0x40 + 0x80) ::
          UInt8.ofNat (v % 0x40 + 0x80) :: rest) =
      some (Char.ofNat v) :: decodeFrom none rest := by
  rw [decodeFrom_continue (by omega) above below, if_neg (by simp)]
  rw [show v / 262144 * 64 + (v / 4096 % 0x40 + 0x80 - 0x80) = v / 4096 by omega]
  exact decodeFrom_owed_two rest (by simp) (by simp; omega)

theorem lead_two {v : Nat} (above : 0x7F < v) (below : v ≤ 0x7FF) :
    lead (UInt8.ofNat (v / 64 % 0x20 + 0xC0)) = .started ⟨v / 64, 1, 0x80, 0xBF⟩ := by
  rw [lead_ofNat (by omega), if_neg (by omega), if_neg (by omega), if_pos (by omega)]
  simp only [Lead.started.injEq, Partial.mk.injEq, and_true]
  omega

/-- The first of three bytes admits the second one of every character that is no surrogate. -/
theorem lead_three {v : Nat} (above : 0x7FF < v) (below : v ≤ 0xFFFF)
    (valid : v < 0xD800 ∨ 0xDFFF < v) :
    ∃ low high, lead (UInt8.ofNat (v / 4096 % 0x10 + 0xE0)) = .started ⟨v / 4096, 2, low, high⟩ ∧
      low.toNat ≤ v / 64 % 0x40 + 0x80 ∧ v / 64 % 0x40 + 0x80 ≤ high.toNat := by
  rw [lead_ofNat (by omega), if_neg (by omega), if_neg (by omega), if_neg (by omega)]
  split
  · exact ⟨0xA0, 0xBF, by simp; omega, by simp; omega, by simp; omega⟩
  · split
    · exact ⟨0x80, 0x9F, by simp; omega, by simp, by simp; omega⟩
    · rw [if_pos (by omega)]
      exact ⟨0x80, 0xBF, by simp; omega, by simp, by simp; omega⟩

theorem lead_four {v : Nat} (above : 0xFFFF < v) (below : v < 0x110000) :
    ∃ low high, lead (UInt8.ofNat (v / 262144 % 0x08 + 0xF0)) =
        .started ⟨v / 262144, 3, low, high⟩ ∧
      low.toNat ≤ v / 4096 % 0x40 + 0x80 ∧ v / 4096 % 0x40 + 0x80 ≤ high.toNat := by
  rw [lead_ofNat (by omega), if_neg (by omega), if_neg (by omega), if_neg (by omega),
    if_neg (by omega), if_neg (by omega), if_neg (by omega)]
  split
  · exact ⟨0x90, 0xBF, by simp; omega, by simp; omega, by simp; omega⟩
  · split
    · exact ⟨0x80, 0xBF, by simp; omega, by simp, by simp; omega⟩
    · rw [if_pos (by omega)]
      exact ⟨0x80, 0x8F, by simp; omega, by simp, by simp; omega⟩

/-- The bytes of the character with a code point. -/
def codeBytes (v : Nat) : List UInt8 :=
  if v ≤ 0x7F then [UInt8.ofNat v]
  else if v ≤ 0x7FF then [UInt8.ofNat (v / 64 % 0x20 + 0xC0), UInt8.ofNat (v % 0x40 + 0x80)]
  else if v ≤ 0xFFFF then [UInt8.ofNat (v / 4096 % 0x10 + 0xE0),
    UInt8.ofNat (v / 64 % 0x40 + 0x80), UInt8.ofNat (v % 0x40 + 0x80)]
  else [UInt8.ofNat (v / 262144 % 0x08 + 0xF0), UInt8.ofNat (v / 4096 % 0x40 + 0x80),
    UInt8.ofNat (v / 64 % 0x40 + 0x80), UInt8.ofNat (v % 0x40 + 0x80)]

theorem encodeChar_eq (c : Char) : String.utf8EncodeChar c = codeBytes c.toNat := rfl

theorem decodeFrom_codeBytes {v : Nat} (valid : v < 0xD800 ∨ (0xDFFF < v ∧ v < 0x110000))
    (rest : List UInt8) :
    decodeFrom none (codeBytes v ++ rest) = some (Char.ofNat v) :: decodeFrom none rest := by
  unfold codeBytes
  split
  · rw [List.singleton_append, decodeFrom, lead_ofNat (by omega), if_pos (by omega)]
  · split
    · rename_i above below
      have started := lead_two (Nat.lt_of_not_le above) below
      simp only [List.cons_append, List.nil_append, decodeFrom_started started]
      exact decodeFrom_owed_one v rest
    · split
      · rename_i above below
        obtain ⟨low, high, started, first, last⟩ :=
          lead_three (Nat.lt_of_not_le above) below (by omega)
        simp only [List.cons_append, List.nil_append, decodeFrom_started started]
        exact decodeFrom_owed_two rest first last
      · rename_i above
        obtain ⟨low, high, started, first, last⟩ :=
          lead_four (Nat.lt_of_not_le above) (by omega)
        simp only [List.cons_append, List.nil_append, decodeFrom_started started]
        exact decodeFrom_owed_three rest first last

/-- Reading the bytes of a text finds its characters and no gap. -/
theorem decode_encode (text : String) : decode (encode text) = text.toList.map some := by
  unfold decode encode
  induction text.toList with
  | nil => rfl
  | cons c rest ih =>
      have valid : c.toNat < 0xD800 ∨ (0xDFFF < c.toNat ∧ c.toNat < 0x110000) := c.valid
      rw [List.flatMap_cons, encodeChar_eq, decodeFrom_codeBytes valid, ih, List.map_cons,
        Char.ofNat_toNat]

theorem encode_inj {s t : String} : encode s = encode t ↔ s = t := by
  constructor
  · intro same
    have chars := congrArg decode same
    rw [decode_encode, decode_encode] at chars
    exact String.toList_inj.mp ((List.map_inj_right fun _ _ => Option.some.inj).mp chars)
  · rintro rfl
    rfl

end SealedSync.Utf8

namespace SealedSync.Base64

/-- The byte of a symbol of the standard form. -/
def symbolByte (n : Nat) : UInt8 := UInt8.ofNat (Alphabet.standard.symbol n).toNat

theorem encodeChar_symbol : ∀ n < 64,
    String.utf8EncodeChar (Alphabet.standard.symbol n) = [symbolByte n] := by decide

theorem value?_symbolByte : ∀ n < 64, value? (symbolByte n) = some n := by decide

theorem symbolByte_ne_pad : ∀ n < 64, symbolByte n ≠ pad := by decide

theorem symbolAt_symbolByte {n : Nat} (small : n < 64) (offset : Nat) :
    symbolAt (symbolByte n) offset = .ok n := by
  rw [symbolAt, value?_symbolByte n small]

/-- The bytes of the padded standard form. -/
def encodeBytes : List UInt8 → List UInt8
  | [] => []
  | [a] => [symbolByte (a.toNat / 4), symbolByte (a.toNat % 4 * 16), pad, pad]
  | [a, b] =>
      [symbolByte (a.toNat / 4), symbolByte (a.toNat % 4 * 16 + b.toNat / 16),
        symbolByte (b.toNat % 16 * 4), pad]
  | a :: b :: c :: rest =>
      symbolByte (a.toNat / 4) :: symbolByte (a.toNat % 4 * 16 + b.toNat / 16) ::
        symbolByte (b.toNat % 16 * 4 + c.toNat / 64) :: symbolByte (c.toNat % 64) ::
          encodeBytes rest

theorem utf8_encode (bytes : List UInt8) : Utf8.encode (encode bytes) = encodeBytes bytes := by
  unfold encode Utf8.encode
  rw [String.toList_ofList]
  have pads : String.utf8EncodeChar '=' = [pad] := by decide
  induction bytes using encodeBytes.induct with
  | case1 => rfl
  | case2 a =>
      have := a.toNat_lt
      simp only [encodeChars, encodeBytes, List.flatMap_cons, List.flatMap_nil, pads,
        List.cons_append, List.nil_append, encodeChar_symbol (a.toNat / 4) (by omega),
        encodeChar_symbol (a.toNat % 4 * 16) (by omega)]
  | case3 a b =>
      have := a.toNat_lt
      have := b.toNat_lt
      simp only [encodeChars, encodeBytes, List.flatMap_cons, List.flatMap_nil, pads,
        List.cons_append, List.nil_append, encodeChar_symbol (a.toNat / 4) (by omega),
        encodeChar_symbol (a.toNat % 4 * 16 + b.toNat / 16) (by omega),
        encodeChar_symbol (b.toNat % 16 * 4) (by omega)]
  | case4 a b c rest ih =>
      have := a.toNat_lt
      have := b.toNat_lt
      have := c.toNat_lt
      simp only [encodeChars, encodeBytes, List.flatMap_cons, List.cons_append, List.nil_append,
        encodeChar_symbol (a.toNat / 4) (by omega),
        encodeChar_symbol (a.toNat % 4 * 16 + b.toNat / 16) (by omega),
        encodeChar_symbol (b.toNat % 16 * 4 + c.toNat / 64) (by omega),
        encodeChar_symbol (c.toNat % 64) (by omega), ih]

theorem readLast_symbol {n : Nat} (small : n < 64) (start index : Nat) (rest : List UInt8) :
    readLast start index 0 (symbolByte n :: rest) = do
      let (symbols, padded) ← readLast start (index + 1) 0 rest
      return ((symbolByte n, n) :: symbols, padded) := by
  rw [readLast, if_neg (symbolByte_ne_pad n small), if_neg (by omega),
    symbolAt_symbolByte small]
  rfl

theorem readLast_pad {start index padded : Nat} (late : 2 ≤ index) (rest : List UInt8) :
    readLast start index padded (pad :: rest) =
      readLast start (index + 1) (padded + 1) rest := by
  rw [readLast, if_pos rfl, if_neg (by omega)]

theorem decodeLast_two {a b : Nat} (ha : a < 64) (hb : b < 64) (even : b % 16 = 0) (start : Nat) :
    decodeLast start [symbolByte a, symbolByte b, pad, pad] =
      .ok [UInt8.ofNat (a * 4 + b / 16)] := by
  rw [decodeLast, readLast_symbol ha, readLast_symbol hb, readLast_pad (by omega),
    readLast_pad (by omega)]
  simp [readLast, even, bind, Except.bind, pure, Except.pure]

theorem decodeLast_three {a b c : Nat} (ha : a < 64) (hb : b < 64) (hc : c < 64)
    (even : c % 4 = 0) (start : Nat) :
    decodeLast start [symbolByte a, symbolByte b, symbolByte c, pad] =
      .ok [UInt8.ofNat (a * 4 + b / 16), UInt8.ofNat (b % 16 * 16 + c / 4)] := by
  rw [decodeLast, readLast_symbol ha, readLast_symbol hb, readLast_symbol hc,
    readLast_pad (by omega)]
  simp [readLast, even, bind, Except.bind, pure, Except.pure]

theorem decodeLast_four {a b c d : Nat} (ha : a < 64) (hb : b < 64) (hc : c < 64) (hd : d < 64)
    (start : Nat) :
    decodeLast start [symbolByte a, symbolByte b, symbolByte c, symbolByte d] =
      .ok [UInt8.ofNat (a * 4 + b / 16), UInt8.ofNat (b % 16 * 16 + c / 4),
        UInt8.ofNat (c % 4 * 64 + d)] := by
  rw [decodeLast, readLast_symbol ha, readLast_symbol hb, readLast_symbol hc, readLast_symbol hd]
  simp [readLast, bind, Except.bind, pure, Except.pure]

theorem ofNat_first (a b : UInt8) :
    UInt8.ofNat (a.toNat / 4 * 4 + (a.toNat % 4 * 16 + b.toNat / 16) / 16) = a := by
  have := b.toNat_lt
  rw [show a.toNat / 4 * 4 + (a.toNat % 4 * 16 + b.toNat / 16) / 16 = a.toNat by omega,
    UInt8.ofNat_toNat]

theorem ofNat_second (a b c : UInt8) :
    UInt8.ofNat ((a.toNat % 4 * 16 + b.toNat / 16) % 16 * 16 +
      (b.toNat % 16 * 4 + c.toNat / 64) / 4) = b := by
  have := b.toNat_lt
  have := c.toNat_lt
  rw [show (a.toNat % 4 * 16 + b.toNat / 16) % 16 * 16 + (b.toNat % 16 * 4 + c.toNat / 64) / 4 =
    b.toNat by omega, UInt8.ofNat_toNat]

theorem ofNat_third (b c : UInt8) :
    UInt8.ofNat ((b.toNat % 16 * 4 + c.toNat / 64) % 4 * 64 + c.toNat % 64) = c := by
  have := c.toNat_lt
  rw [show (b.toNat % 16 * 4 + c.toNat / 64) % 4 * 64 + c.toNat % 64 = c.toNat by omega,
    UInt8.ofNat_toNat]

theorem decodeGroups_encodeBytes (bytes : List UInt8) (start : Nat) :
    decodeGroups start (encodeBytes bytes) = .ok bytes := by
  induction bytes using encodeBytes.induct generalizing start with
  | case1 => rfl
  | case2 a =>
      have := a.toNat_lt
      have first : UInt8.ofNat (a.toNat / 4 * 4 + a.toNat % 4 * 16 / 16) = a := by
        simpa using ofNat_first a 0
      rw [encodeBytes, decodeGroups, decodeLast_two (by omega) (by omega) (by omega), first]
      simp
  | case3 a b =>
      have := a.toNat_lt
      have := b.toNat_lt
      have second : UInt8.ofNat ((a.toNat % 4 * 16 + b.toNat / 16) % 16 * 16 +
          b.toNat % 16 * 4 / 4) = b := by
        simpa using ofNat_second a b 0
      rw [encodeBytes, decodeGroups, decodeLast_three (by omega) (by omega) (by omega) (by omega),
        ofNat_first, second]
      simp
  | case4 a b c rest ih =>
      have := a.toNat_lt
      have := b.toNat_lt
      have := c.toNat_lt
      rw [encodeBytes]
      cases read : encodeBytes rest with
      | nil =>
          have ended : rest = [] := by
            have same := ih 0
            rw [read] at same
            exact (Except.ok.inj same).symm
          rw [decodeGroups, decodeLast_four (by omega) (by omega) (by omega) (by omega),
            ofNat_first, ofNat_second, ofNat_third, ended]
          simp
      | cons e tail =>
          rw [decodeGroups, symbolAt_symbolByte (by omega), symbolAt_symbolByte (by omega),
            symbolAt_symbolByte (by omega), symbolAt_symbolByte (by omega), ← read, ih]
          simp only [bind, Except.bind, pure, Except.pure, ofNat_first, ofNat_second, ofNat_third]

theorem length_encodeBytes (bytes : List UInt8) : (encodeBytes bytes).length % 4 = 0 := by
  induction bytes using encodeBytes.induct with
  | case1 => rfl
  | case2 a => simp [encodeBytes]
  | case3 a b => simp [encodeBytes]
  | case4 a b c rest ih =>
      simp only [encodeBytes, List.length_cons]
      omega

/-- Reading the standard form of a byte sequence finds the sequence. -/
theorem decode_encode (bytes : List UInt8) : decode (encode bytes) = .ok bytes := by
  rw [decode, utf8_encode, decodeBytes, strayLast?, if_neg (by simp [length_encodeBytes])]
  exact decodeGroups_encodeBytes bytes 0

end SealedSync.Base64
