import SealedSync.Http.Backend
import SealedSync.Proofs.Cutting
import SealedSync.Proofs.TextRoundTrip

/-!
# Segments behind a base

A URL of the web that ends in a slash is continued by segments. What was read of the base is read
again in front of them, and encoded segments are kept as they are, unless they are made of dots:
no path that was read holds such a segment.
-/
namespace SealedSync

namespace Http.Url

/-- A character that stands for itself in a segment and ends nothing. -/
def isPlain (c : Char) : Bool :=
  0x20 < c.toNat ∧ c.toNat < 0x7F ∧ c ∉ ['/', ':', '\\'] ++ pathSet

/-- A plain character neither is dropped from a text nor ends a part of it. -/
theorem isPlain_apart {c : Char} (plain : isPlain c = true) :
    0x20 < c.toNat ∧ ∀ d ∈ ['/', ':', '\\', '#', '?'], c ≠ d := by
  have marks : ∀ d ∈ ['/', ':', '\\', '#', '?'], d ∈ ['/', ':', '\\'] ++ pathSet := by
    simp [pathSet, querySet]
  simp only [isPlain, decide_eq_true_eq] at plain
  exact ⟨plain.1, fun d member same => plain.2.2 (same ▸ marks d member)⟩

theorem isSeparator_of_isPlain {c : Char} (plain : isPlain c = true) :
    isSeparator true c = false := by
  have apart := (isPlain_apart plain).2
  simp [isSeparator, apart]

end Http.Url

namespace Percent

open Http.Url (isPlain isPlain_apart undotted pathSet)

theorem plain_encodeByte : ∀ n < 256, (encodeByte (UInt8.ofNat n)).all isPlain = true := by
  decide +kernel

theorem plain_encode {text : String} {c : Char} (member : c ∈ (encode text).toList) :
    isPlain c = true := by
  rw [encode, String.toList_ofList] at member
  obtain ⟨b, _, member⟩ := List.mem_flatMap.mp member
  have plain := plain_encodeByte b.toNat b.toNat_lt
  rw [UInt8.ofNat_toNat] at plain
  exact List.all_eq_true.mp plain c member

/-- A slash in a name does not end a segment. -/
theorem slash_notMem_encode (text : String) : '/' ∉ (encode text).toList := fun slash =>
  (isPlain_apart (plain_encode slash)).2 '/' (by decide) rfl

/-- Plain characters are not encoded again. -/
theorem encodeBeyond_plain {text : List Char} (plain : ∀ c ∈ text, isPlain c = true) :
    encodeBeyond pathSet text = String.ofList text := by
  unfold encodeBeyond
  congr 1
  induction text with
  | nil => rfl
  | cons c text ih =>
      have kept := plain c List.mem_cons_self
      simp only [isPlain, List.mem_append, decide_eq_true_eq, not_or] at kept
      rw [List.flatMap_cons, if_pos ⟨Nat.le_of_lt kept.1, kept.2.1, kept.2.2.2⟩,
        ih fun d member => plain d (List.mem_cons_of_mem c member), List.singleton_append]

/-- Escapes hold upper-case digits, and a dot is not escaped. -/
theorem escape_digits : ∀ n < 256, isUnreserved (UInt8.ofNat n) = false →
    Hex.digitUpper (n / 16) ≠ '%' ∧ Hex.digitUpper (n % 16) ∉ ['%', 'e'] ∧
      (Hex.digitUpper (n / 16) = '2' → Hex.digitUpper (n % 16) ≠ 'E') := by
  decide +kernel

theorem unreserved_ne : ∀ n < 256, isUnreserved (UInt8.ofNat n) = true → Char.ofNat n ≠ '%' := by
  decide +kernel

theorem undotted_cons {c : Char} (other : c ≠ '%') (rest : List Char) :
    undotted (c :: rest) = c :: undotted rest := by
  rw [undotted]
  · exact fun _ escape _ => other escape
  · exact fun _ escape _ => other escape

theorem undotted_encodeByte (b : UInt8) (rest : List Char) :
    undotted (encodeByte b ++ rest) = encodeByte b ++ undotted rest := by
  unfold encodeByte
  cases unreserved : isUnreserved b with
  | true =>
      have other := unreserved_ne b.toNat b.toNat_lt (by rwa [UInt8.ofNat_toNat])
      exact undotted_cons other rest
  | false =>
      obtain ⟨high, low, apart⟩ := escape_digits b.toNat b.toNat_lt (by rwa [UInt8.ofNat_toNat])
      simp only [List.mem_cons, List.not_mem_nil, or_false, not_or] at low
      simp only [Bool.false_eq_true, if_false, escape, List.cons_append, List.nil_append]
      rw [undotted, undotted_cons high, undotted_cons low.1]
      · intro _ _ same
        exact low.2 (List.cons.inj (List.cons.inj same).2).1
      · intro _ _ same
        exact apart (List.cons.inj same).1 (List.cons.inj (List.cons.inj same).2).1

theorem undotted_encode (text : String) :
    undotted (encode text).toList = (encode text).toList := by
  rw [encode, String.toList_ofList]
  induction Utf8.encode text with
  | nil => rfl
  | cons b bytes ih => rw [List.flatMap_cons, undotted_encodeByte, ih]

theorem digits_read : ∀ n < 256,
    Hex.decodeChars [Hex.digitUpper (n / 16), Hex.digitUpper (n % 16)] =
      some [UInt8.ofNat n] := by
  decide +kernel

theorem unreserved_byte : ∀ n < 256, isUnreserved (UInt8.ofNat n) = true →
    String.utf8EncodeChar (Char.ofNat n) = [UInt8.ofNat n] := by
  decide +kernel

theorem decodeChars_encodeByte (b : UInt8) (rest : List Char) :
    decodeChars (encodeByte b ++ rest) = b :: decodeChars rest := by
  unfold encodeByte
  cases unreserved : isUnreserved b with
  | true =>
      have other := unreserved_ne b.toNat b.toNat_lt (by rwa [UInt8.ofNat_toNat])
      have byte := unreserved_byte b.toNat b.toNat_lt (by rwa [UInt8.ofNat_toNat])
      simp only [if_true, List.singleton_append]
      rw [decodeChars, byte, UInt8.ofNat_toNat, List.singleton_append]
      exact fun _ _ _ escape _ => other escape
  | false =>
      have read := digits_read b.toNat b.toNat_lt
      simp only [Bool.false_eq_true, if_false, escape, List.cons_append, List.nil_append]
      rw [decodeChars, read, UInt8.ofNat_toNat]
      rfl

theorem decodeChars_encode (text : String) :
    decodeChars (encode text).toList = Utf8.encode text := by
  rw [encode, String.toList_ofList]
  induction Utf8.encode text with
  | nil => rfl
  | cons b bytes ih => rw [List.flatMap_cons, decodeChars_encodeByte, ih]

theorem encode_injective {text other : String} (same : encode text = encode other) :
    text = other := by
  rw [← Utf8.encode_inj, ← decodeChars_encode, ← decodeChars_encode, same]

/-- What is left of a text without an escape is the text. -/
theorem encodeBeyond_unescaped (set text : List Char)
    (unescaped : '%' ∉ (encodeBeyond set text).toList) :
    (encodeBeyond set text).toList = text := by
  rw [encodeBeyond, String.toList_ofList] at unescaped ⊢
  induction text with
  | nil => rfl
  | cons c text ih =>
      rw [List.flatMap_cons, List.mem_append, not_or] at unescaped
      rw [List.flatMap_cons, ih unescaped.2]
      split at unescaped
      · rw [if_pos (by assumption), List.singleton_append]
      · obtain ⟨b, member⟩ := List.exists_mem_of_ne_nil _ (String.utf8EncodeChar_ne_nil (c := c))
        exact absurd (List.mem_flatMap.mpr ⟨b, member, List.mem_cons_self⟩) unescaped.1

theorem slash_notMem_escape : ∀ n < 256, '/' ∉ escape (UInt8.ofNat n) := by decide +kernel

theorem slash_notMem_encodeBeyond (set : List Char) {text : List Char} (free : '/' ∉ text) :
    '/' ∉ (encodeBeyond set text).toList := by
  rw [encodeBeyond, String.toList_ofList, List.mem_flatMap]
  rintro ⟨c, member, held⟩
  split at held
  · exact free (List.mem_singleton.mp held ▸ member)
  · obtain ⟨b, _, escaped⟩ := List.mem_flatMap.mp held
    exact slash_notMem_escape b.toNat b.toNat_lt (by rwa [UInt8.ofNat_toNat])

end Percent

namespace Http.Url

theorem pathText_toList (segments : List String) :
    (pathText (.segments segments)).toList = segments.flatMap fun s => '/' :: s.toList := by
  simp [pathText, String.toList_join, List.flatMap_map]

theorem pathText_append (front segments : List String) :
    pathText (.segments (front ++ segments)) =
      pathText (.segments front) ++ pathText (.segments segments) := by
  rw [← String.toList_inj, String.toList_append, pathText_toList, pathText_toList, pathText_toList,
    List.flatMap_append]

/-- Paths of the same text have the same segments. -/
theorem pathText_injective {segments others : List String}
    (free : ∀ s ∈ segments, '/' ∉ s.toList) (othersFree : ∀ s ∈ others, '/' ∉ s.toList)
    (same : pathText (.segments segments) = pathText (.segments others)) : segments = others := by
  have cut {list : List String} (free : ∀ s ∈ list, '/' ∉ s.toList) :
      Split.pieces (· == '/') (pathText (.segments list)).toList =
        [] :: list.map String.toList := by
    have segmentsFree : ∀ s ∈ list.map String.toList, ∀ c ∈ s, (c == '/') = false := by
      intro s member c inside
      obtain ⟨t, listed, rfl⟩ := List.mem_map.mp member
      exact beq_false_of_ne fun slash => free t listed (slash ▸ inside)
    rw [pathText_toList, ← List.flatMap_map]
    exact Split.pieces_segments rfl segmentsFree []
  have lists : segments.map String.toList = others.map String.toList := by
    have pieces := congrArg (fun text => Split.pieces (· == '/') text.toList) same
    simp only [cut free, cut othersFree] at pieces
    exact (List.cons.inj pieces).2
  exact (List.map_inj_right fun _ _ => String.toList_inj.mp).mp lists

/-- A segment of a path that was read: it is not made of dots and holds no slash. -/
def IsResolved (segment : String) : Prop :=
  segment ∉ [".", ".."] ∧ '/' ∉ segment.toList

theorem isResolved_encodeBeyond {segment : List Char} (free : '/' ∉ segment)
    (double : undotted segment ≠ ['.', '.']) (single : undotted segment ≠ ['.']) :
    IsResolved (Percent.encodeBeyond pathSet segment) := by
  refine ⟨fun dots => ?_, Percent.slash_notMem_encodeBeyond pathSet free⟩
  have kept := Percent.encodeBeyond_unescaped pathSet segment
  rcases List.mem_cons.mp dots with dot | dots
  · rw [dot] at kept
    exact single (kept (by decide) ▸ rfl)
  · rw [List.mem_singleton.mp dots] at kept
    exact double (kept (by decide) ▸ rfl)

namespace Trail

/-- The segments after one that is not the last. -/
def pass (done : List String) (segment : List Char) : List String :=
  if undotted segment = ['.', '.'] then leave done
  else if undotted segment = ['.'] then done
  else Percent.encodeBeyond pathSet segment :: done

theorem walk_append (t : Trail) (front : List (List Char)) {rest : List (List Char)}
    (more : rest ≠ []) :
    walk false t (front ++ rest) = walk false { t with done := front.foldl pass t.done } rest := by
  induction front generalizing t with
  | nil => rfl
  | cons segment front ih =>
      have inside : (front ++ rest).isEmpty = false := by simp [more]
      rw [List.cons_append, walk, inside, List.foldl_cons, pass]
      split
      · rw [ih]
        rfl
      · split
        · rw [ih]
          rfl
        · rw [ih]
          rfl

/-- Segments that are not made of dots are added in their order. -/
theorem walk_kept (t : Trail) {segments : List (List Char)}
    (plain : ∀ s ∈ segments, undotted s ≠ ['.', '.'] ∧ undotted s ≠ ['.']) :
    (walk false t segments).done =
      (segments.map (Percent.encodeBeyond pathSet)).reverse ++ t.done := by
  induction segments generalizing t with
  | nil => rfl
  | cons segment rest ih =>
      obtain ⟨double, single⟩ := plain segment List.mem_cons_self
      rw [walk, if_neg double, if_neg single,
        ih _ fun s member => plain s (List.mem_cons_of_mem segment member)]
      simp [push]

theorem undotted_encode_ne {part : String} (other : part ∉ [".", ".."]) :
    undotted (Percent.encode part).toList ≠ ['.', '.'] ∧
      undotted (Percent.encode part).toList ≠ ['.'] := by
  rw [Percent.undotted_encode]
  simp only [List.mem_cons, List.not_mem_nil, or_false, not_or] at other
  refine ⟨fun double => other.2 ?_, fun single => other.1 ?_⟩
  · exact Percent.encode_injective ((String.toList_inj.mp double).trans (by decide : ".." = _))
  · exact Percent.encode_injective ((String.toList_inj.mp single).trans (by decide : "." = _))

/-- Encoded segments are kept as they are, unless they are made of dots. -/
theorem walk_encoded (t : Trail) {parts : List String}
    (others : ∀ part ∈ parts, part ∉ [".", ".."]) :
    (walk false t ((parts.map Percent.encode).map String.toList)).done =
      (parts.map Percent.encode).reverse ++ t.done := by
  have undotted : ∀ s ∈ (parts.map Percent.encode).map String.toList,
      undotted s ≠ ['.', '.'] ∧ undotted s ≠ ['.'] := by
    intro s member
    simp only [List.map_map, List.mem_map, Function.comp_apply] at member
    obtain ⟨part, listed, rfl⟩ := member
    exact undotted_encode_ne (others part listed)
  have kept (part : String) :
      Percent.encodeBeyond pathSet (Percent.encode part).toList = Percent.encode part := by
    rw [Percent.encodeBeyond_plain fun c => Percent.plain_encode, String.ofList_toList]
  rw [walk_kept t undotted]
  simp only [List.map_map, Function.comp_def, kept]

theorem walk_ne_nil (t : Trail) {segments : List (List Char)} (nonempty : segments ≠ []) :
    (walk false t segments).done ≠ [] := by
  induction segments generalizing t with
  | nil => exact absurd rfl nonempty
  | cons segment rest ih =>
      cases rest with
      | nil =>
          rw [walk]
          split
          · exact List.cons_ne_nil _ _
          · split
            · exact List.cons_ne_nil _ _
            · exact List.cons_ne_nil _ _
      | cons next rest =>
          rw [walk]
          split
          · exact ih _ (List.cons_ne_nil next rest)
          · split
            · exact ih _ (List.cons_ne_nil next rest)
            · exact ih _ (List.cons_ne_nil next rest)

theorem mem_of_mem_leave {done : List String} {s : String} (member : s ∈ leave done) :
    s ∈ done := by
  cases done with
  | nil => exact member
  | cons last front =>
      rw [leave] at member
      split at member
      · exact member
      · exact List.mem_cons_of_mem last member

theorem walk_resolved {t : Trail} {segments : List (List Char)}
    (resolved : ∀ s ∈ t.done, IsResolved s) (free : ∀ s ∈ segments, '/' ∉ s) :
    ∀ s ∈ (walk false t segments).done, IsResolved s := by
  induction segments generalizing t with
  | nil => exact resolved
  | cons segment rest ih =>
      have restFree := fun s member => free s (List.mem_cons_of_mem segment member)
      have ended {list : List String} (listed : ∀ s ∈ list, IsResolved s) :
          ∀ s ∈ (if rest.isEmpty then [""] else []) ++ list, IsResolved s := by
        intro s member
        rcases List.mem_append.mp member with empty | member
        · split at empty
          · rw [List.mem_singleton.mp empty]
            exact ⟨by decide, by decide⟩
          · exact absurd empty List.not_mem_nil
        · exact listed s member
      rw [walk]
      split
      · exact ih (ended fun s member => resolved s (mem_of_mem_leave member)) restFree
      · split
        · exact ih (ended resolved) restFree
        · rename_i double single
          refine ih (fun s member => ?_) restFree
          rcases List.mem_cons.mp member with rfl | member
          · exact isResolved_encodeBeyond (free segment List.mem_cons_self) double single
          · exact resolved s member

end Trail

end Http.Url

end SealedSync
