import SealedSync.KeyBundle
import SealedSync.Proofs.Cutting
import SealedSync.Proofs.JsonRoundTrip

/-!
# What the texts of errors tell

A text that is quoted in a message can be read back from it, and so can the name of an entry and what was
wrong with its key, and the place at which the reader stopped. Whoever sees the message knows as much as
whoever sees the error.
-/
namespace SealedSync

/-! ## Quoted text -/

namespace Hex

/-- The number that a run of digits stands for. -/
def toNat (digits : List Char) : Nat := digits.foldl (fun n c => 16 * n + (value? c).getD 0) 0

theorem value?_digitChar : ∀ n < 16, (value? (Nat.digitChar n)).getD 0 = n := by decide

theorem toNat_toDigits (n : Nat) : toNat (Nat.toDigits 16 n) = n :=
  Json.foldl_toDigits (by decide) value?_digitChar n

theorem digitChar_ne_brace : ∀ n < 16, Nat.digitChar n ≠ '\x7d' := by decide

theorem ne_brace_of_mem (n : Nat) : ∀ c ∈ Nat.toDigits 16 n, c ≠ '\x7d' := by
  intro c member
  obtain ⟨digit, small, rfl⟩ := Json.mem_toDigits (by decide) n c member
  exact digitChar_ne_brace digit small

end Hex

namespace Quoted

/-- Reads one character of a quoted text, and what follows it. -/
def unescape : List Char → Option (Char × List Char)
  | [] => none
  | '\\' :: 'u' :: '\x7b' :: rest =>
      some (Char.ofNat (Hex.toNat (rest.takeWhile (· != '\x7d'))),
        (rest.dropWhile (· != '\x7d')).drop 1)
  | '\\' :: '0' :: rest => some ('\x00', rest)
  | '\\' :: 't' :: rest => some ('\t', rest)
  | '\\' :: 'r' :: rest => some ('\r', rest)
  | '\\' :: 'n' :: rest => some ('\n', rest)
  | '\\' :: c :: rest => some (c, rest)
  | c :: rest => some (c, rest)

theorem unescape_plain {c : Char} (plain : c ≠ '\\') (rest : List Char) :
    unescape (c :: rest) = some (c, rest) := by
  unfold unescape
  split <;> simp_all

theorem unescape_codePoint (c : Char) (rest : List Char) :
    unescape (codePoint c ++ rest) = some (c, rest) := by
  have written : codePoint c ++ rest =
      '\\' :: 'u' :: '\x7b' :: (Nat.toDigits 16 c.toNat ++ '\x7d' :: rest) := by
    simp [codePoint, Hex.ofNat]
  have digits : ∀ d ∈ Nat.toDigits 16 c.toNat, (d != '\x7d') = true := fun d member =>
    bne_iff_ne.mpr (Hex.ne_brace_of_mem c.toNat d member)
  rw [written, unescape, List.takeWhile_append_of_pos digits, List.dropWhile_append_of_pos digits]
  simp [Hex.toNat_toDigits]

/-- The characters that have an escape of their own. -/
def named : List Char := ['\x00', '\t', '\r', '\n', '"', '\\']

theorem unescape_named {c : Char} (listed : c ∈ named) (rest : List Char) :
    unescape (escapeChar c ++ rest) = some (c, rest) := by
  simp only [named, List.mem_cons, List.not_mem_nil, or_false] at listed
  rcases listed with rfl | rfl | rfl | rfl | rfl | rfl <;> rfl

theorem escapeChar_unnamed {c : Char} (unlisted : c ∉ named) :
    escapeChar c = if Visible.isVisible c then [c] else codePoint c := by
  simp only [named, List.mem_cons, List.not_mem_nil, or_false, not_or] at unlisted
  obtain ⟨null, tab, back, line, mark, slash⟩ := unlisted
  rw [escapeChar, if_neg null, if_neg tab, if_neg back, if_neg line, if_neg mark, if_neg slash]

/-- A character is read back from its quoted form, whatever follows it. -/
theorem unescape_escapeChar (c : Char) (rest : List Char) :
    unescape (escapeChar c ++ rest) = some (c, rest) := by
  by_cases listed : c ∈ named
  · exact unescape_named listed rest
  · rw [escapeChar_unnamed listed]
    split
    · apply unescape_plain
      rintro rfl
      exact listed (by decide)
    · exact unescape_codePoint c rest

/-- No character is quoted as the mark at the end. -/
theorem escapeChar_ne_mark (c : Char) (rest : List Char) : escapeChar c ++ rest ≠ ['"'] := by
  intro same
  have read := unescape_escapeChar c rest
  rw [same] at read
  obtain ⟨rfl, rfl⟩ : '"' = c ∧ [] = rest := by simpa [unescape] using read
  exact absurd same (by decide)

theorem escape_inj {text other : List Char}
    (same : text.flatMap escapeChar ++ ['"'] = other.flatMap escapeChar ++ ['"']) : text = other := by
  induction text generalizing other with
  | nil =>
      cases other with
      | nil => rfl
      | cons d more =>
          rw [List.flatMap_nil, List.flatMap_cons, List.append_assoc] at same
          exact absurd same.symm (escapeChar_ne_mark d _)
  | cons c rest ih =>
      cases other with
      | nil =>
          rw [List.flatMap_nil, List.flatMap_cons, List.append_assoc] at same
          exact absurd same (escapeChar_ne_mark c _)
      | cons d more =>
          rw [List.flatMap_cons, List.flatMap_cons, List.append_assoc, List.append_assoc] at same
          have read := unescape_escapeChar c (rest.flatMap escapeChar ++ ['"'])
          rw [same, unescape_escapeChar] at read
          obtain ⟨rfl, later⟩ := Prod.mk.inj (Option.some.inj read)
          rw [ih later.symm]

/-- Different texts are quoted differently. -/
theorem quote_inj {text other : String} (same : quote text = quote other) : text = other := by
  have chars : text.toList.flatMap escapeChar ++ ['"'] = other.toList.flatMap escapeChar ++ ['"'] :=
    (List.cons.inj (String.ofList_inj.mp same)).2
  exact String.toList_inj.mp (escape_inj chars)

end Quoted

/-! ## Keys of entries -/

/-- Nothing that follows a colon and a space begins with an `i`. -/
def Unannounced : List Char → Bool
  | ':' :: ' ' :: 'i' :: _ => false
  | _ :: rest => Unannounced rest
  | [] => true

namespace Unannounced

theorem of_notMem {chars : List Char} (absent : 'i' ∉ chars) : Unannounced chars = true := by
  fun_induction Unannounced chars with
  | case1 rest => simp at absent
  | case2 c rest other ih => exact ih fun member => absent (List.mem_cons_of_mem c member)
  | case3 => rfl

theorem append_announced (before after : List Char) :
    Unannounced (before ++ ':' :: ' ' :: 'i' :: after) = false := by
  induction before with
  | nil => rfl
  | cons c rest ih =>
      unfold Unannounced
      split
      · rfl
      · rename_i same
        obtain ⟨-, rfl⟩ := List.cons.inj same
        exact ih
      · rename_i same
        cases same

/-- After a colon and a space nothing of the kind comes again. -/
theorem eq_nil {between m n : List Char} (last : Unannounced ('i' :: m) = true)
    (same : ':' :: ' ' :: 'i' :: m = between ++ ':' :: ' ' :: 'i' :: n) : between = [] := by
  match between with
  | [] => rfl
  | [c] => simp at same
  | c :: d :: rest =>
      have tail : 'i' :: m = rest ++ ':' :: ' ' :: 'i' :: n :=
        (List.cons.inj (List.cons.inj same).2).2
      rw [tail, append_announced] at last
      cases last

end Unannounced

/-- A name and what is said of it are told apart, if that begins with an `i` and goes on otherwise. -/
theorem label_inj {name other m n : List Char} (last : Unannounced ('i' :: m) = true)
    (ends : Unannounced ('i' :: n) = true)
    (same : name ++ ':' :: ' ' :: 'i' :: m = other ++ ':' :: ' ' :: 'i' :: n) :
    name = other ∧ m = n := by
  rcases List.append_eq_append_iff.mp same with ⟨between, rfl, rest⟩ | ⟨between, rfl, rest⟩
  · obtain rfl := Unannounced.eq_nil last rest
    exact ⟨(List.append_nil name).symm, by simpa using rest⟩
  · obtain rfl := Unannounced.eq_nil ends rest
    exact ⟨List.append_nil other, by simpa using rest.symm⟩

namespace Key

/-- What may be wrong with a text that is to be a key: it is not base64, or it is too long or too short. -/
inductive Complaint : CryptoError → Prop where
  | encoding (fault : Base64.Fault) :
      Complaint (.encoding s!"key is not valid base64: {fault.message}")
  | length (actual : Nat) : Complaint (.invalidKeyLength size actual)

theorem complaint_of_error {text : String} {e : CryptoError} (failed : ofBase64 text = .error e) :
    Complaint e := by
  unfold ofBase64 ofBytes at failed
  split at failed
  · split at failed
    · cases failed
    · exact Except.error.inj failed ▸ .length _
  · exact Except.error.inj failed ▸ .encoding _

theorem letter_notMem_toDigits (n : Nat) : 'i' ∉ Nat.toDigits 10 n :=
  Json.notMem_toDigits (by decide) n

theorem message_encoding (fault : Base64.Fault) :
    (CryptoError.encoding s!"key is not valid base64: {fault.message}").message =
      "invalid encoding: key is not valid base64: " ++ fault.message := by
  show "invalid encoding: " ++ ("key is not valid base64: " ++ fault.message) = _
  rw [← String.append_assoc]
  rfl

theorem message_length (actual : Nat) : (CryptoError.invalidKeyLength size actual).message =
    "invalid key length: expected 32 bytes, got " ++ actual.repr := rfl

theorem unannounced_fault (fault : Base64.Fault) :
    Unannounced ("nvalid encoding: key is not valid base64: ".toList ++ fault.message.toList) = true := by
  cases fault with
  | symbol byte offset =>
      have text : (Base64.Fault.symbol byte offset).message =
          "Invalid symbol " ++ byte.toNat.repr ++ ", offset " ++ offset.repr ++ "." := rfl
      simp only [text, String.toList_append, Nat.toList_repr, List.append_assoc]
      show Unannounced (Nat.toDigits 10 byte.toNat ++ (", offset ".toList ++ _)) = true
      apply Unannounced.of_notMem
      simp [letter_notMem_toDigits]
  | length count =>
      have text : (Base64.Fault.length count).message = "Invalid input length: " ++ count.repr := rfl
      simp only [text, String.toList_append, Nat.toList_repr]
      show Unannounced (':' :: ' ' :: Nat.toDigits 10 count) = true
      apply Unannounced.of_notMem
      simp [letter_notMem_toDigits]
  | lastSymbol byte offset =>
      have text : (Base64.Fault.lastSymbol byte offset).message =
          "Invalid last symbol " ++ byte.toNat.repr ++ ", offset " ++ offset.repr ++ "." := rfl
      simp only [text, String.toList_append, Nat.toList_repr, List.append_assoc]
      show Unannounced (Nat.toDigits 10 byte.toNat ++ (", offset ".toList ++ _)) = true
      apply Unannounced.of_notMem
      simp [letter_notMem_toDigits]
  | padding => rfl

/-- The complaint begins with an `i`, and none of its parts does. -/
theorem Complaint.unannounced {e : CryptoError} (complaint : Complaint e) :
    ∃ rest, e.message.toList = 'i' :: rest ∧ Unannounced ('i' :: rest) = true := by
  cases complaint with
  | encoding fault =>
      refine ⟨"nvalid encoding: key is not valid base64: ".toList ++ fault.message.toList, ?_, ?_⟩
      · rw [message_encoding, String.toList_append]
        rfl
      · exact unannounced_fault fault
  | length actual =>
      refine ⟨"nvalid key length: expected 32 bytes, got ".toList ++ Nat.toDigits 10 actual, ?_, ?_⟩
      · rw [message_length, String.toList_append, Nat.toList_repr]
        rfl
      · show Unannounced (Nat.toDigits 10 actual) = true
        exact Unannounced.of_notMem (letter_notMem_toDigits actual)

theorem message_encoding_ne (fault : Base64.Fault) (actual : Nat) :
    (CryptoError.encoding s!"key is not valid base64: {fault.message}").message ≠
      (CryptoError.invalidKeyLength size actual).message := by
  rw [message_encoding, message_length, ne_eq, ← String.toList_inj, String.toList_append,
    String.toList_append]
  intro same
  have eighth : some 'e' = some 'k' := congrArg (fun chars => chars[8]?) same
  cases eighth

/-- The text of a complaint tells the complaint. -/
theorem Complaint.message_inj {e f : CryptoError} (complaint : Complaint e) (other : Complaint f)
    (same : e.message = f.message) : e = f := by
  cases complaint with
  | encoding fault =>
      cases other with
      | encoding fault' =>
          rw [message_encoding, message_encoding, String.append_right_inj] at same
          rw [same]
      | length actual => exact absurd same (message_encoding_ne fault actual)
  | length actual =>
      cases other with
      | encoding fault' => exact absurd same.symm (message_encoding_ne fault' actual)
      | length actual' =>
          rw [message_length, message_length, String.append_right_inj, ← String.toList_inj,
            Nat.toList_repr, Nat.toList_repr] at same
          have numbers := congrArg Digits.toNat same
          rw [Json.toNat_toDigits, Json.toNat_toDigits] at numbers
          rw [numbers]

end Key

namespace KeyBundle

/-- The error for an entry that is no key. -/
def entryError (name : String) (complaint : CryptoError) : SyncError :=
  .malformed s!"key bundle entry {name}: {complaint.message}"

theorem message_entryError (name : String) (complaint : CryptoError) :
    (entryError name complaint).message =
      "malformed remote record: key bundle entry " ++ (name ++ (": " ++ complaint.message)) := by
  show "malformed remote record: " ++ ("key bundle entry " ++ name ++ ": " ++ complaint.message) = _
  simp only [String.append_assoc]
  rw [← String.append_assoc]
  rfl

/-- The error for an entry tells its name and what is wrong with its key. -/
theorem entryError_inj {name other : String} {e f : CryptoError} (complaint : Key.Complaint e)
    (complains : Key.Complaint f) (same : (entryError name e).message = (entryError other f).message) :
    name = other ∧ e = f := by
  obtain ⟨m, begins, last⟩ := complaint.unannounced
  obtain ⟨n, starts, ends⟩ := complains.unannounced
  rw [message_entryError, message_entryError, String.append_right_inj, ← String.toList_inj] at same
  simp only [String.toList_append, begins, starts] at same
  obtain ⟨names, rest⟩ := label_inj last ends same
  have messages : e.message = f.message := String.toList_inj.mp (by rw [begins, starts, rest])
  exact ⟨String.toList_inj.mp names, complaint.message_inj complains messages⟩

end KeyBundle

/-! ## What the reader adds -/

namespace Json.Place

theorem space_notMem_toDigits (n : Nat) : ' ' ∉ Nat.toDigits 10 n :=
  Json.notMem_toDigits (by decide) n

/-- A number at the end, after a space, is told apart from what stands before it. -/
theorem number_inj {front other : List Char} {m n : Nat}
    (same : front ++ ' ' :: Nat.toDigits 10 m = other ++ ' ' :: Nat.toDigits 10 n) :
    front = other ∧ m = n := by
  obtain ⟨fronts, digits⟩ :=
    (Split.append_mark_inj (space_notMem_toDigits m) (space_notMem_toDigits n)).mp same
  refine ⟨fronts, ?_⟩
  rw [← Json.toNat_toDigits m, digits, Json.toNat_toDigits]

theorem toList_text (p : Json.Place) : p.text.toList =
    " at line".toList ++ ' ' :: Nat.toDigits 10 p.line ++
      (" column".toList ++ ' ' :: Nat.toDigits 10 p.column) := by
  have written : p.text = " at line " ++ p.line.repr ++ " column " ++ p.column.repr := rfl
  simp [written]

/-- The place is told at the end of a message, whatever stands before it. -/
theorem append_text_inj {text other : String} {p q : Json.Place} :
    text ++ p.text = other ++ q.text ↔ text = other ∧ p = q := by
  constructor
  · intro same
    rw [← String.toList_inj, String.toList_append, String.toList_append, toList_text, toList_text] at same
    simp only [← List.append_assoc] at same
    obtain ⟨lines, column⟩ := number_inj same
    obtain ⟨words, line⟩ := number_inj (List.append_cancel_right lines)
    refine ⟨String.toList_inj.mp (List.append_cancel_right words), ?_⟩
    obtain ⟨l, c⟩ := p
    obtain rfl : l = q.line := line
    obtain rfl : c = q.column := column
    rfl
  · rintro ⟨rfl, rfl⟩
    rfl

end Json.Place

namespace DecodeError

theorem remarked_inj {e f : DecodeError} {r s : Json.Remark} :
    e.remarked r = f.remarked s ↔ e.words r.fault = f.words s.fault ∧ r.place = s.place :=
  Json.Place.append_text_inj

/-- A misplaced text is quoted, so it is told as a whole. -/
theorem misplaced_inj {text other expected fault cause : String}
    (same : (invalidType (.string text) expected).words fault =
      (invalidType (.string other) expected).words cause) : text = other := by
  have written (text fault : String) : (invalidType (.string text) expected).words fault =
      "invalid type: string " ++ (Quoted.quote text ++ (", expected " ++ expected)) := by
    show "invalid type: " ++ ("string " ++ Quoted.quote text) ++ ", expected " ++ expected = _
    simp only [String.append_assoc]
    rw [← String.append_assoc]
    rfl
  rw [written, written, String.append_right_inj, String.append_left_inj] at same
  exact Quoted.quote_inj same

end DecodeError

end SealedSync
