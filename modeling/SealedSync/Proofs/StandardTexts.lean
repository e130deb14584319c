import SealedSync.Proofs.BundleDocument

/-!
# Texts in standard form

The padded standard form of bytes is described here by its shape alone: groups of four symbols, the last of
which may be padded and then has no bits to spare. Such texts and no others are read as bytes, each as bytes of
its own. So a key has one text, every other text is refused for its form or for its length, and sealed data
differ as soon as the texts of nonce or ciphertext do.
-/
namespace SealedSync

namespace Base64

/-- The symbols of the standard form, each at the place of the number that it stands for. -/
def symbols : List Char :=
  ['A', 'B', 'C', 'D', 'E', 'F', 'G', 'H', 'I', 'J', 'K', 'L', 'M',
    'N', 'O', 'P', 'Q', 'R', 'S', 'T', 'U', 'V', 'W', 'X', 'Y', 'Z',
    'a', 'b', 'c', 'd', 'e', 'f', 'g', 'h', 'i', 'j', 'k', 'l', 'm',
    'n', 'o', 'p', 'q', 'r', 's', 't', 'u', 'v', 'w', 'x', 'y', 'z',
    '0', '1', '2', '3', '4', '5', '6', '7', '8', '9', '+', '/']

/-- The characters are the standard form of so many bytes. A last group that stands for one byte or for two is
filled up with padding, and the bits that its last symbol has to spare are zero. -/
inductive Canonical : Nat → List Char → Prop where
  | nil : Canonical 0 []
  | one {i j : Nat} {a b : Char} (first : symbols[i]? = some a) (second : symbols[j]? = some b)
      (spare : j % 16 = 0) : Canonical 1 [a, b, '=', '=']
  | two {i j k : Nat} {a b c : Char} (first : symbols[i]? = some a) (second : symbols[j]? = some b)
      (third : symbols[k]? = some c) (spare : k % 4 = 0) : Canonical 2 [a, b, c, '=']
  | more {i j k l n : Nat} {a b c d : Char} {rest : List Char} (first : symbols[i]? = some a)
      (second : symbols[j]? = some b) (third : symbols[k]? = some c) (fourth : symbols[l]? = some d)
      (behind : Canonical n rest) : Canonical (n + 3) (a :: b :: c :: d :: rest)

theorem symbols_eq : symbols = (List.range 64).map Alphabet.standard.symbol := by decide

theorem getElem?_symbols {n : Nat} (small : n < 64) :
    symbols[n]? = some (Alphabet.standard.symbol n) := by
  rw [symbols_eq, List.getElem?_map, List.getElem?_range small]
  rfl

theorem eq_symbol_of_getElem? {n : Nat} {c : Char} (found : symbols[n]? = some c) :
    n < 64 ∧ c = Alphabet.standard.symbol n := by
  have small : n < 64 := by
    have within := (List.getElem?_eq_some_iff.mp found).1
    rwa [symbols_eq, List.length_map, List.length_range] at within
  exact ⟨small, Option.some.inj (found.symm.trans (getElem?_symbols small))⟩

/-- A symbol is one byte of the text. -/
theorem utf8EncodeChar_of_getElem? {n : Nat} {c : Char} (found : symbols[n]? = some c) :
    n < 64 ∧ String.utf8EncodeChar c = [symbolByte n] := by
  obtain ⟨small, rfl⟩ := eq_symbol_of_getElem? found
  exact ⟨small, encodeChar_symbol n small⟩

theorem canonical_encodeChars (bytes : List UInt8) :
    Canonical bytes.length (encodeChars .standard ['='] bytes) := by
  induction bytes using encodeBytes.induct with
  | case1 => exact .nil
  | case2 a =>
      have := a.toNat_lt
      exact .one (getElem?_symbols (by omega)) (getElem?_symbols (by omega)) (by omega)
  | case3 a b =>
      have := a.toNat_lt
      have := b.toNat_lt
      exact .two (getElem?_symbols (by omega)) (getElem?_symbols (by omega))
        (getElem?_symbols (by omega)) (by omega)
  | case4 a b c rest ih =>
      have := a.toNat_lt
      have := b.toNat_lt
      have := c.toNat_lt
      exact .more (getElem?_symbols (by omega)) (getElem?_symbols (by omega))
        (getElem?_symbols (by omega)) (getElem?_symbols (by omega)) ih

/-- From the symbols of each group the bytes are put together that are written in them. -/
theorem Canonical.exists_encodeBytes {n : Nat} {chars : List Char} (canonical : Canonical n chars) :
    ∃ bytes : List UInt8, bytes.length = n ∧
      chars.flatMap String.utf8EncodeChar = encodeBytes bytes := by
  have pads : String.utf8EncodeChar '=' = [pad] := by decide
  induction canonical with
  | nil => exact ⟨[], rfl, rfl⟩
  | one first second spare =>
      obtain ⟨small, byte⟩ := utf8EncodeChar_of_getElem? first
      obtain ⟨small', byte'⟩ := utf8EncodeChar_of_getElem? second
      refine ⟨[_], rfl, .trans ?_ (encodeBytes_one small small' spare).symm⟩
      simp [byte, byte', pads]
  | two first second third spare =>
      obtain ⟨smallA, byteA⟩ := utf8EncodeChar_of_getElem? first
      obtain ⟨smallB, byteB⟩ := utf8EncodeChar_of_getElem? second
      obtain ⟨smallC, byteC⟩ := utf8EncodeChar_of_getElem? third
      refine ⟨[_, _], rfl, .trans ?_ (encodeBytes_two smallA smallB smallC spare).symm⟩
      simp [byteA, byteB, byteC, pads]
  | more first second third fourth _ ih =>
      obtain ⟨smallA, byteA⟩ := utf8EncodeChar_of_getElem? first
      obtain ⟨smallB, byteB⟩ := utf8EncodeChar_of_getElem? second
      obtain ⟨smallC, byteC⟩ := utf8EncodeChar_of_getElem? third
      obtain ⟨smallD, byteD⟩ := utf8EncodeChar_of_getElem? fourth
      obtain ⟨bytes, length, behind⟩ := ih
      refine ⟨_ :: _ :: _ :: bytes, by simp [length],
        .trans ?_ (encodeBytes_three smallA smallB smallC smallD bytes).symm⟩
      simp [byteA, byteB, byteC, byteD, behind]

/-- A text has the standard form exactly if it is read as bytes. -/
theorem canonical_iff {text : String} {n : Nat} :
    Canonical n text.toList ↔ ∃ bytes, decode text = .ok bytes ∧ bytes.length = n := by
  simp only [decode_eq_ok]
  constructor
  · intro canonical
    obtain ⟨bytes, length, same⟩ := canonical.exists_encodeBytes
    refine ⟨bytes, Utf8.encode_inj.mp ?_, length⟩
    rw [utf8_encode]
    exact same
  · rintro ⟨bytes, rfl, rfl⟩
    rw [encode, String.toList_ofList]
    exact canonical_encodeChars bytes

theorem encode_inj {bytes bytes' : List UInt8} : encode bytes = encode bytes' ↔ bytes = bytes' := by
  refine ⟨fun same => ?_, congrArg encode⟩
  have read := decode_encode bytes
  rw [same, decode_encode] at read
  exact (Except.ok.inj read).symm

end Base64

namespace Key

open Base64 (Canonical)

theorem ofBytes_eq_error {bytes : List UInt8} {e : CryptoError} :
    ofBytes bytes = .error e ↔ bytes.length ≠ 32 ∧ e = .invalidKeyLength 32 bytes.length := by
  unfold ofBytes FixedBytes.ofList?
  by_cases length : bytes.length = 32
  · simp [length]
  · simp [length, size, eq_comm]

/-- A text of the standard form is a key's text or has the wrong length. -/
theorem ofBase64_eq_invalidKeyLength {text : String} {n : Nat} :
    ofBase64 text = .error (.invalidKeyLength 32 n) ↔ n ≠ 32 ∧ Canonical n text.toList := by
  rw [Base64.canonical_iff]
  unfold ofBase64
  cases Base64.decode text with
  | error fault => simp
  | ok bytes =>
      simp only [ofBytes_eq_error, Except.ok.injEq, exists_eq_left']
      constructor
      · rintro ⟨wrong, same⟩
        cases same
        exact ⟨wrong, rfl⟩
      · rintro ⟨wrong, rfl⟩
        exact ⟨wrong, rfl⟩

theorem ofBase64_eq_encoding {text : String} :
    (∃ reason, ofBase64 text = .error (.encoding reason)) ↔ ∀ n, ¬Canonical n text.toList := by
  simp only [Base64.canonical_iff]
  unfold ofBase64
  cases Base64.decode text with
  | error fault => simp
  | ok bytes => simp [ofBytes_eq_error]

theorem exists_toBase64_iff {text : String} :
    (∃ key : Key, text = key.toBase64) ↔ Canonical 32 text.toList := by
  rw [Base64.canonical_iff]
  simp only [Base64.decode_eq_ok]
  constructor
  · rintro ⟨key, rfl⟩
    exact ⟨key.bytes.val, rfl, key.bytes.property⟩
  · rintro ⟨bytes, rfl, length⟩
    exact ⟨⟨⟨bytes, length⟩⟩, rfl⟩

end Key

namespace Envelope

/-- The JSON value gives sealed data by the texts of its nonce and its ciphertext. -/
inductive Gives (nonce ciphertext : String) : Json → Prop where
  | object {members : Json.Members} (first : members.values "nonce" = [.text nonce])
      (second : members.values "ciphertext" = [.text ciphertext]) :
      Gives nonce ciphertext (.object members)
  | array : Gives nonce ciphertext (.list [.text nonce, .text ciphertext])

theorem Written.gives {e : Envelope} {value : Json} (written : Written e value) :
    Gives (Base64.encode e.nonce.val) (Base64.encode e.ciphertext) value := by
  cases written with
  | object _ _ nonce ciphertext => exact .object nonce ciphertext
  | array => exact .array

theorem Gives.unique {nonce ciphertext nonce' ciphertext' : String} {value : Json}
    (gives : Gives nonce ciphertext value) (others : Gives nonce' ciphertext' value) :
    nonce = nonce' ∧ ciphertext = ciphertext' := by
  cases gives with
  | object first second =>
      cases others with
      | object first' second' =>
          have nonces := first.symm.trans first'
          have ciphertexts := second.symm.trans second'
          simp only [Json.text, List.cons.injEq, Json.string.injEq, Option.some.injEq,
            and_true] at nonces ciphertexts
          exact ⟨nonces, ciphertexts⟩
  | array =>
      cases others
      exact ⟨rfl, rfl⟩

/-- What is decoded was given by the standard texts of its nonce and its ciphertext. -/
theorem eq_encode_of_decoded {value : Json} {nonce ciphertext : String} {e : Envelope}
    (gives : Gives nonce ciphertext value) (decoded : decode value = .ok e) :
    nonce = Base64.encode e.nonce.val ∧ ciphertext = Base64.encode e.ciphertext :=
  gives.unique (decode_eq_ok.mp decoded).gives

/-- Sealed data are the same exactly if the texts of nonce and ciphertext are. -/
theorem eq_iff_texts {value value' : Json} {nonce ciphertext nonce' ciphertext' : String}
    {e e' : Envelope} (gives : Gives nonce ciphertext value) (decoded : decode value = .ok e)
    (gives' : Gives nonce' ciphertext' value') (decoded' : decode value' = .ok e') :
    e = e' ↔ nonce = nonce' ∧ ciphertext = ciphertext' := by
  obtain ⟨rfl, rfl⟩ := eq_encode_of_decoded gives decoded
  obtain ⟨rfl, rfl⟩ := eq_encode_of_decoded gives' decoded'
  obtain ⟨n, c⟩ := e
  obtain ⟨n', c'⟩ := e'
  rw [Base64.encode_inj, Base64.encode_inj, Envelope.mk.injEq, Subtype.ext_iff]

theorem thorough_decode : Json.Thorough decode := by
  intro value e decoded
  cases decode_eq_ok.mp decoded with
  | object _ intact => exact intact
  | array => rfl

theorem decodeText_toJson (e : Envelope) : Json.decodeText decode e.toJson.render = .ok e := by
  rw [Json.decodeText_render _ e.legible_toJson, decode_toJson]

end Envelope

/-- A text is read as a key exactly if it is the text of this key. Any other text is refused: as no base64 if
it has not the standard form, and for its length, which is named, if it is the standard form of more or fewer
bytes. Sealed data are decoded from their JSON form, and from two texts the same data are decoded only where
both texts give the nonce in the same characters, and the ciphertext too. -/
theorem one_text_for_key_and_envelope :
    (∀ text : String,
      (∀ key : Key, Key.ofBase64 text = .ok key ↔ text = key.toBase64) ∧
      ((∃ key : Key, text = key.toBase64) ↔ Base64.Canonical 32 text.toList) ∧
      ((∃ reason, Key.ofBase64 text = .error (.encoding reason)) ↔
        ∀ n, ¬Base64.Canonical n text.toList) ∧
      ∀ n, Key.ofBase64 text = .error (.invalidKeyLength 32 n) ↔
        n ≠ 32 ∧ Base64.Canonical n text.toList) ∧
    (∀ e : Envelope, Json.decodeText Envelope.decode e.toJson.render = .ok e) ∧
    ∀ {text text' : String} {value value' : Json} {nonce ciphertext nonce' ciphertext' : String}
      {e e' : Envelope},
      Json.Holds (.ofText text) value → Envelope.Gives nonce ciphertext value →
      Json.Holds (.ofText text') value' → Envelope.Gives nonce' ciphertext' value' →
      Json.decodeText Envelope.decode text = .ok e → Json.decodeText Envelope.decode text' = .ok e' →
      (e = e' ↔ nonce = nonce' ∧ ciphertext = ciphertext') := by
  refine ⟨fun text => ⟨fun key => Key.ofBase64_eq_ok, Key.exists_toBase64_iff,
    Key.ofBase64_eq_encoding, fun n => Key.ofBase64_eq_invalidKeyLength⟩,
    Envelope.decodeText_toJson, ?_⟩
  intro text text' value value' nonce ciphertext nonce' ciphertext' e e' holds gives holds' gives'
    decoded decoded'
  obtain ⟨_, same, read⟩ := (Json.decodeSource_eq_ok_iff Envelope.thorough_decode).mp decoded
  obtain ⟨_, same', read'⟩ := (Json.decodeSource_eq_ok_iff Envelope.thorough_decode).mp decoded'
  obtain rfl := same.found.symm.trans holds.found
  obtain rfl := same'.found.symm.trans holds'.found
  exact Envelope.eq_iff_texts gives read gives' read'

/-- A nonce of zeros with one byte of ciphertext, in object form and in array form. -/
theorem one_text_for_zeros :
    let e : Envelope := ⟨⟨List.replicate 12 0, rfl⟩, [255]⟩
    let inOrder : Json := .list [.text "AAAAAAAAAAAAAAAA", .text "/w=="]
    Json.Holds (.ofText e.toJson.render) e.toJson ∧
    Envelope.Gives "AAAAAAAAAAAAAAAA" "/w==" e.toJson ∧
    Json.Holds (.ofText inOrder.render) inOrder ∧
    Envelope.Gives "AAAAAAAAAAAAAAAA" "/w==" inOrder ∧
    Json.decodeText Envelope.decode e.toJson.render = .ok e ∧
    Json.decodeText Envelope.decode inOrder.render = .ok e ∧
    (e = e ↔ "AAAAAAAAAAAAAAAA" = "AAAAAAAAAAAAAAAA" ∧ "/w==" = "/w==") := by
  intro e inOrder
  have ordered : inOrder.Legible := ⟨Json.legible_text _, Json.legible_text _, trivial⟩
  have holds := Json.holds_render e.legible_toJson
  have gives : Envelope.Gives "AAAAAAAAAAAAAAAA" "/w==" e.toJson := .object rfl rfl
  have decoded : Json.decodeText Envelope.decode inOrder.render = .ok e := by
    rw [Json.decodeText_render _ ordered]
    exact Envelope.decode_eq_ok.mpr .array
  exact ⟨holds, gives, Json.holds_render ordered, .array,
    one_text_for_key_and_envelope.2.1 e, decoded,
    one_text_for_key_and_envelope.2.2 holds gives (Json.holds_render ordered) .array
      (one_text_for_key_and_envelope.2.1 e) decoded⟩

end SealedSync
