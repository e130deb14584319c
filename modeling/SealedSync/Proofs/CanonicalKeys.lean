import SealedSync.Proofs.FilePlaces
import SealedSync.Proofs.RecordRoundTrip

/-!
# The one text of a key

Of all texts only the padded standard form of a byte sequence is read as that sequence. So a key has one
text, and whatever else stands in its place is refused.
-/
namespace SealedSync

namespace Base64

/-- The ranges of bytes that stand for numbers are told apart by the numbers. -/
theorem value?_eq_some {b : UInt8} {n : Nat} : value? b = some n ↔
    n < 26 ∧ b.toNat = n + 65 ∨ 26 ≤ n ∧ n < 52 ∧ b.toNat = n + 71 ∨
      52 ≤ n ∧ n < 62 ∧ b.toNat + 4 = n ∨ n = 62 ∧ b.toNat = 43 ∨ n = 63 ∧ b.toNat = 47 := by
  simp only [value?, UInt8.le_iff_toNat_le, ← UInt8.toNat_inj, UInt8.reduceToNat]
  repeat' split
  all_goals
    simp only [Option.some.injEq, reduceCtorEq, false_iff]
    omega

/-- The number of a byte names the byte. -/
theorem eq_symbolByte_of_value {b : UInt8} {n : Nat} (read : value? b = some n) :
    n < 64 ∧ b = symbolByte n := by
  have small : n < 64 := by
    have ranges := value?_eq_some.mp read
    omega
  have byte := value?_eq_some.mp (value?_symbolByte n small)
  have ranges := value?_eq_some.mp read
  exact ⟨small, UInt8.toNat_inj.mp (by omega)⟩

theorem symbolAt_eq_ok {b : UInt8} {offset n : Nat} (read : symbolAt b offset = .ok n) :
    n < 64 ∧ b = symbolByte n := by
  unfold symbolAt at read
  split at read
  · rename_i found
    cases read
    exact eq_symbolByte_of_value found
  · cases read

/-- Three bytes are written in the four symbols that they are read from. -/
theorem encodeBytes_three {a b c d : Nat} (ha : a < 64) (hb : b < 64) (hc : c < 64) (hd : d < 64)
    (rest : List UInt8) :
    encodeBytes (UInt8.ofNat (a * 4 + b / 16) :: UInt8.ofNat (b % 16 * 16 + c / 4) ::
        UInt8.ofNat (c % 4 * 64 + d) :: rest) =
      symbolByte a :: symbolByte b :: symbolByte c :: symbolByte d :: encodeBytes rest := by
  rw [encodeBytes, Utf8.toNat_ofNat (by omega), Utf8.toNat_ofNat (by omega),
    Utf8.toNat_ofNat (by omega)]
  rw [show (a * 4 + b / 16) / 4 = a by omega,
    show (a * 4 + b / 16) % 4 * 16 + (b % 16 * 16 + c / 4) / 16 = b by omega,
    show (b % 16 * 16 + c / 4) % 16 * 4 + (c % 4 * 64 + d) / 64 = c by omega,
    show (c % 4 * 64 + d) % 64 = d by omega]

theorem encodeBytes_two {a b c : Nat} (ha : a < 64) (hb : b < 64) (hc : c < 64) (even : c % 4 = 0) :
    encodeBytes [UInt8.ofNat (a * 4 + b / 16), UInt8.ofNat (b % 16 * 16 + c / 4)] =
      [symbolByte a, symbolByte b, symbolByte c, pad] := by
  rw [encodeBytes, Utf8.toNat_ofNat (by omega), Utf8.toNat_ofNat (by omega)]
  rw [show (a * 4 + b / 16) / 4 = a by omega,
    show (a * 4 + b / 16) % 4 * 16 + (b % 16 * 16 + c / 4) / 16 = b by omega,
    show (b % 16 * 16 + c / 4) % 16 * 4 = c by omega]

theorem encodeBytes_one {a b : Nat} (ha : a < 64) (hb : b < 64) (even : b % 16 = 0) :
    encodeBytes [UInt8.ofNat (a * 4 + b / 16)] = [symbolByte a, symbolByte b, pad, pad] := by
  rw [encodeBytes, Utf8.toNat_ofNat (by omega)]
  rw [show (a * 4 + b / 16) / 4 = a by omega, show (a * 4 + b / 16) % 4 * 16 = b by omega]

/-- What is read of the last group: its symbols, and nothing but padding after them. -/
theorem readLast_eq_ok {start index padded count : Nat} {group : List UInt8}
    {symbols : List (UInt8 × Nat)} (read : readLast start index padded group = .ok (symbols, count)) :
    (∀ s ∈ symbols, s.2 < 64) ∧ padded ≤ count ∧ (0 < padded → symbols = []) ∧
      group = symbols.map (fun s => symbolByte s.2) ++ List.replicate (count - padded) pad := by
  induction group generalizing index padded symbols with
  | nil =>
      cases read
      simp
  | cons b rest ih =>
      rw [readLast] at read
      split at read
      · rename_i padding
        split at read
        · cases read
        · obtain ⟨small, more, ended, rfl⟩ := ih read
          obtain rfl := ended (Nat.succ_pos _)
          obtain rfl := padding
          refine ⟨small, by omega, fun _ => rfl, ?_⟩
          rw [show count - padded = count - (padded + 1) + 1 by omega, List.replicate_succ]
          rfl
      · split at read
        · cases read
        · rename_i unpadded
          obtain ⟨n, first, read⟩ := Except.bind_eq_ok.mp read
          obtain ⟨⟨others, found⟩, later, same⟩ := Except.bind_eq_ok.mp read
          cases same
          obtain ⟨below, rfl⟩ := symbolAt_eq_ok first
          obtain ⟨small, more, -, rfl⟩ := ih later
          exact ⟨List.forall_mem_cons.mpr ⟨below, small⟩, more, fun padding => absurd padding unpadded, rfl⟩

/-- A last group is the one that its bytes are written in. -/
theorem eq_encodeBytes_of_decodeLast {start : Nat} {group bytes : List UInt8}
    (short : group.length ≤ 4) (read : decodeLast start group = .ok bytes) :
    group = encodeBytes bytes := by
  obtain ⟨⟨symbols, count⟩, found, read⟩ := Except.bind_eq_ok.mp read
  obtain ⟨small, -, -, rfl⟩ := readLast_eq_ok found
  simp only [List.length_append, List.length_map, List.length_replicate, Nat.sub_zero] at short read ⊢
  split at read
  · cases read
  · rename_i padded
    -- The number of symbols tells how many bytes there are and how much padding.
    match symbols with
    | [] =>
        dsimp only at read
        split at read
        · rename_i nothing
          cases read
          exact List.isEmpty_iff.mp nothing
        · cases read
    | [_] => cases read
    | [(_, a), (_, b)] =>
        simp only [List.length_cons, List.length_nil] at short padded
        obtain rfl : count = 2 := by omega
        simp only [List.forall_mem_cons] at small
        dsimp only at read
        split at read
        · rename_i even
          cases read
          exact (encodeBytes_one small.1 small.2.1 even).symm
        · cases read
    | [(_, a), (_, b), (_, c)] =>
        simp only [List.length_cons, List.length_nil] at short padded
        obtain rfl : count = 1 := by omega
        simp only [List.forall_mem_cons] at small
        dsimp only at read
        split at read
        · rename_i even
          cases read
          exact (encodeBytes_two small.1 small.2.1 small.2.2.1 even).symm
        · cases read
    | (_, a) :: (_, b) :: (_, c) :: (_, d) :: more =>
        simp only [List.length_cons] at short
        obtain rfl : count = 0 := by omega
        obtain rfl : more = [] := List.length_eq_zero_iff.mp (by omega)
        simp only [List.forall_mem_cons] at small
        cases read
        exact (encodeBytes_three small.1 small.2.1 small.2.2.1 small.2.2.2.1 []).symm

/-- Only the standard form of some bytes is read as those bytes. -/
theorem eq_encodeBytes_of_decodeGroups {start : Nat} {group bytes : List UInt8}
    (read : decodeGroups start group = .ok bytes) : group = encodeBytes bytes := by
  induction start, group using decodeGroups.induct generalizing bytes with
  | case1 start a b c d e rest ih =>
      rw [decodeGroups] at read
      obtain ⟨k, first, read⟩ := Except.bind_eq_ok.mp read
      obtain ⟨l, second, read⟩ := Except.bind_eq_ok.mp read
      obtain ⟨m, third, read⟩ := Except.bind_eq_ok.mp read
      obtain ⟨n, fourth, read⟩ := Except.bind_eq_ok.mp read
      obtain ⟨others, later, same⟩ := Except.bind_eq_ok.mp read
      cases same
      obtain ⟨hk, rfl⟩ := symbolAt_eq_ok first
      obtain ⟨hl, rfl⟩ := symbolAt_eq_ok second
      obtain ⟨hm, rfl⟩ := symbolAt_eq_ok third
      obtain ⟨hn, rfl⟩ := symbolAt_eq_ok fourth
      rw [ih later, encodeBytes_three hk hl hm hn]
  | case2 start group short =>
      have length : group.length ≤ 4 := by
        refine Nat.le_of_not_lt fun long => ?_
        rcases group with _ | ⟨a, _ | ⟨b, _ | ⟨c, _ | ⟨d, _ | ⟨e, rest⟩⟩⟩⟩⟩
        case cons.cons.cons.cons.cons => exact short a b c d e rest rfl
        all_goals exact absurd long (by simp)
      rw [decodeGroups.eq_def] at read
      split at read
      · rename_i a b c d e rest
        exact absurd rfl (short a b c d e rest)
      · exact eq_encodeBytes_of_decodeLast length read

/-- A byte sequence is read from its padded standard form and from no other text. -/
theorem decode_eq_ok {text : String} {bytes : List UInt8} :
    decode text = .ok bytes ↔ text = encode bytes := by
  constructor
  · intro read
    unfold decode decodeBytes at read
    split at read
    · cases read
    · rw [← Utf8.encode_inj, utf8_encode]
      exact eq_encodeBytes_of_decodeGroups read
  · rintro rfl
    exact decode_encode bytes

end Base64

namespace Key

/-- A key has one text. -/
theorem ofBase64_eq_ok {text : String} {key : Key} : ofBase64 text = .ok key ↔ text = key.toBase64 := by
  constructor
  · intro read
    unfold ofBase64 at read
    split at read
    · rename_i bytes decoded
      unfold ofBytes FixedBytes.ofList? at read
      split at read
      · rename_i found
        split at found
        · cases found
          cases read
          exact Base64.decode_eq_ok.mp decoded
        · cases found
      · cases read
    · cases read
  · rintro rfl
    exact ofBase64_toBase64 key

end Key

end SealedSync
