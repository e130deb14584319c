import SealedSync.Proofs.JsonParts

/-!
# The texts of JSON values

Which sources are JSON is said here without reading them: values are put together from their parts, with blanks
around each value and each key. Reading finds the value of each such source and stops right behind it, and
whatever is read as a whole value is one of these sources. So a value that nobody looks at is passed over whole.
-/
namespace SealedSync.Json

/-! ## Values -/

mutual

/-- The source is the value, from the first character of it to the last. -/
inductive Denotes : Source → Json → Prop where
  | null : Denotes [some 'n', some 'u', some 'l', some 'l'] .null
  | yes : Denotes [some 't', some 'r', some 'u', some 'e'] (.bool true)
  | no : Denotes [some 'f', some 'a', some 'l', some 's', some 'e'] (.bool false)
  | number {n : Numeral} {source : Source} (numeral : n.IsSource source) :
      Denotes source (.number n)
  | string {inside : Source} {units : List StringUnit} (enclosed : Enclosed inside units) :
      Denotes (some '"' :: (inside ++ [some '"'])) (.string ((joinUnits units).map String.ofList))
  | emptyArray {blank : Source} (space : Blank blank) :
      Denotes (some '[' :: (blank ++ [some ']'])) (.array .closed)
  | array {inside : Source} {items : Items} (listed : Items.Denoted inside items) :
      Denotes (some '[' :: inside) (.array items)
  | emptyObject {blank : Source} (space : Blank blank) :
      Denotes (some '\x7b' :: (blank ++ [some '\x7d'])) (.object .closed)
  | object {inside : Source} {members : Members} (listed : Members.Denoted inside members) :
      Denotes (some '\x7b' :: inside) (.object members)

/-- The source is the value between blanks. -/
inductive Fills : Source → Json → Prop where
  | between {before core after : Source} {value : Json} (first : Blank before)
      (denotes : Denotes core value) (last : Blank after) : Fills (before ++ (core ++ after)) value

/-- The source is a list of items up to the bracket that closes it. -/
inductive Items.Denoted : Source → Items → Prop where
  | last {source : Source} {head : Json} (fills : Fills source head) :
      Items.Denoted (source ++ [some ']']) (.item head .closed)
  | more {source behind : Source} {head : Json} {tail : Items} (fills : Fills source head)
      (listed : Items.Denoted behind tail) :
      Items.Denoted (source ++ some ',' :: behind) (.item head tail)

/-- The source is a list of members up to the brace that closes it. Any string is a key. -/
inductive Members.Denoted : Source → Members → Prop where
  | last {key source : Source} {content : Option String} {value : Json}
      (named : Fills key (.string content)) (fills : Fills source value) :
      Members.Denoted (key ++ some ':' :: (source ++ [some '\x7d']))
        (.member (.string content) value .closed)
  | more {key source behind : Source} {content : Option String} {value : Json} {tail : Members}
      (named : Fills key (.string content)) (fills : Fills source value)
      (listed : Members.Denoted behind tail) :
      Members.Denoted (key ++ some ':' :: (source ++ some ',' :: behind))
        (.member (.string content) value tail)

end

/-- The text is JSON, and this is its value. -/
def IsText (text : String) (value : Json) : Prop := Fills (.ofText text) value

mutual

theorem Denotes.intact : ∀ {source : Source} {value : Json}, Denotes source value → value.intact = true
  | _, _, .null | _, _, .yes | _, _, .no | _, _, .number _ | _, _, .string _ => rfl
  | _, _, .emptyArray _ | _, _, .emptyObject _ => rfl
  | _, _, .array listed => listed.intact
  | _, _, .object listed => listed.intact

theorem Fills.intact : ∀ {source : Source} {value : Json}, Fills source value → value.intact = true
  | _, _, .between _ denotes _ => denotes.intact

theorem Items.Denoted.intact : ∀ {source : Source} {items : Items}, Items.Denoted source items →
    items.intact = true
  | _, _, .last fills => by simp [Items.intact, fills.intact]
  | _, _, .more fills listed => by simp [Items.intact, fills.intact, listed.intact]

theorem Members.Denoted.intact : ∀ {source : Source} {members : Members},
    Members.Denoted source members → members.intact = true
  | _, _, .last _ fills => by simp [Members.intact, isString, fills.intact]
  | _, _, .more _ fills listed => by
      simp [Members.intact, isString, fills.intact, listed.intact]

end

/-! ## Texts are read -/

theorem Denotes.length_pos {source : Source} {value : Json} (denotes : Denotes source value) :
    0 < source.length := by
  cases denotes with
  | number numeral =>
      obtain ⟨written, mark, -, rfl⟩ := numeral
      have digits := List.length_pos_iff.mpr written.whole_ne_nil
      simp only [Numeral.unsigned, List.length_map, List.length_append]
      omega
  | _ => exact Nat.succ_pos _

/-- A value begins with a character that is neither blank nor the end of a list. -/
theorem Denotes.head {source : Source} {value : Json} (denotes : Denotes source value) :
    ∃ c tail, source = some c :: tail ∧ isSpace c = false ∧ c ≠ ']' ∧ c ≠ '\x7d' := by
  cases denotes with
  | number numeral =>
      rename_i n
      obtain ⟨written, mark, -, rfl⟩ := numeral
      obtain ⟨c, tail, whole⟩ := List.exists_cons_of_ne_nil written.whole_ne_nil
      have among := mem_digits_of_isDigit (written.whole c (by simp [whole]))
      cases n.negative with
      | true => exact ⟨_, _, rfl, by decide, by decide, by decide⟩
      | false =>
          refine ⟨c, _, by rw [Numeral.unsigned, whole]; rfl, ?_⟩
          simp only [List.mem_cons, List.not_mem_nil, or_false] at among
          rcases among with rfl | rfl | rfl | rfl | rfl | rfl | rfl | rfl | rfl | rfl <;> decide
  | _ => exact ⟨_, _, rfl, by decide, by decide, by decide⟩

theorem Fills.head {source : Source} {value : Json} (fills : Fills source value) :
    ∃ c tail, (∀ rest, skipSpace (source ++ rest) = some c :: (tail ++ rest)) ∧
      c ≠ ']' ∧ c ≠ '\x7d' := by
  obtain ⟨first, denotes, last⟩ := fills
  rename_i after
  obtain ⟨c, tail, rfl, visible, bracket, brace⟩ := denotes.head
  refine ⟨c, tail ++ after, fun rest => ?_, bracket, brace⟩
  rw [List.append_assoc, first.skipSpace_append]
  simpa using skipSpace_cons visible _

theorem Items.Denoted.head {source : Source} {items : Items} (listed : Items.Denoted source items)
    (rest : Source) : ∃ c tail, skipSpace (source ++ rest) = some c :: tail ∧ c ≠ ']' := by
  cases listed with
  | last fills =>
      obtain ⟨c, tail, begins, bracket, -⟩ := fills.head
      exact ⟨c, _, by rw [List.append_assoc, begins], bracket⟩
  | more fills _ =>
      obtain ⟨c, tail, begins, bracket, -⟩ := fills.head
      exact ⟨c, _, by rw [List.append_assoc, begins], bracket⟩

theorem Members.Denoted.head {source : Source} {members : Members}
    (listed : Members.Denoted source members) (rest : Source) :
    ∃ c tail, skipSpace (source ++ rest) = some c :: tail ∧ c ≠ '\x7d' := by
  cases listed with
  | last named _ =>
      obtain ⟨c, tail, begins, -, brace⟩ := named.head
      exact ⟨c, _, by rw [List.append_assoc, begins], brace⟩
  | more named _ _ =>
      obtain ⟨c, tail, begins, -, brace⟩ := named.head
      exact ⟨c, _, by rw [List.append_assoc, begins], brace⟩

theorem readValue_digit {c : Char} (digit : Digits.isDigit c = true) (fuel : Nat) (rest : Source) :
    readValue (fuel + 1) (some c :: rest) = readNumeral false (some c :: rest) := by
  have among := mem_digits_of_isDigit digit
  simp only [List.mem_cons, List.not_mem_nil, or_false] at among
  rcases among with rfl | rfl | rfl | rfl | rfl | rfl | rfl | rfl | rfl | rfl <;> rfl

theorem readValue_numeral {n : Numeral} {source rest : Source} (numeral : n.IsSource source)
    (ends : Stops rest) (fuel : Nat) : readValue (fuel + 1) (source ++ rest) = (.number n, rest) := by
  obtain ⟨written, mark, marks, rfl⟩ := numeral
  have read := readNumeral_append written marks ends
  cases sign : n.negative with
  | true =>
      rw [sign] at read
      exact read
  | false =>
      rw [sign] at read
      obtain ⟨c, tail, whole⟩ := List.exists_cons_of_ne_nil written.whole_ne_nil
      have digit := written.whole c (by simp [whole])
      simp only [Numeral.unsigned, whole] at read ⊢
      exact (readValue_digit digit fuel _).trans read

section Skipped

variable {source other : Source}

/-- Whatever space comes before a value, the value is read. -/
theorem readValue_skip (same : skipSpace source = skipSpace other) (fuel : Nat) :
    readValue fuel source = readValue fuel other := by
  cases fuel with
  | zero => rfl
  | succ fuel => rw [readValue, readValue, same]

theorem readItems_skip (same : skipSpace source = skipSpace other) (fuel : Nat) :
    readItems fuel source = readItems fuel other := by
  cases fuel with
  | zero => rfl
  | succ fuel => rw [readItems, readItems, readValue_skip same]

theorem readMembers_skip (same : skipSpace source = skipSpace other) (fuel : Nat) :
    readMembers fuel source = readMembers fuel other := by
  cases fuel with
  | zero => rfl
  | succ fuel => rw [readMembers, readMembers, readValue_skip same]

end Skipped

section Steps

variable {fuel : Nat} {source inner afterKey after more rest : Source} {c : Char}

theorem readItems_last {head : Json} (read : readValue fuel source = (head, after))
    (bracket : skipSpace after = some ']' :: rest) :
    readItems (fuel + 1) source = (.item head .closed, rest) := by
  simp only [readItems, read, bracket]

theorem readItems_more {head : Json} {tail : Items} (read : readValue fuel source = (head, after))
    (comma : skipSpace after = some ',' :: more) (next : readItems fuel more = (tail, rest)) :
    readItems (fuel + 1) source = (.item head tail, rest) := by
  simp only [readItems, read, comma, next]

variable {content : Option String} {value : Json}
  (read : readValue fuel source = (.string content, afterKey))
  (colon : skipSpace afterKey = some ':' :: inner) (next : readValue fuel inner = (value, after))

include read colon next

theorem readMembers_last (brace : skipSpace after = some '\x7d' :: rest) :
    readMembers (fuel + 1) source = (.member (.string content) value .closed, rest) := by
  simp only [readMembers, read, isString, colon, next, brace]

theorem readMembers_more {tail : Members} (comma : skipSpace after = some ',' :: more)
    (last : readMembers fuel more = (tail, rest)) :
    readMembers (fuel + 1) source = (.member (.string content) value tail, rest) := by
  simp only [readMembers, read, isString, colon, next, comma, last]

omit read colon next

theorem readValue_array {items : Items} (begins : skipSpace source = some c :: more) (item : c ≠ ']')
    (read : readItems fuel source = (items, rest)) :
    readValue (fuel + 1) (some '[' :: source) = (.array items, rest) := by
  have bracket : skipSpace (some '[' :: source) = some '[' :: source := rfl
  have same := readItems_skip (skipSpace_skipSpace source) fuel
  rw [begins, read] at same
  simp only [readValue, bracket, begins]
  split
  · rename_i closing
    exact absurd (Option.some.inj (List.cons.inj closing).1) item
  · rw [same]

theorem readValue_object {members : Members} (begins : skipSpace source = some c :: more)
    (member : c ≠ '\x7d') (read : readMembers fuel source = (members, rest)) :
    readValue (fuel + 1) (some '\x7b' :: source) = (.object members, rest) := by
  have brace : skipSpace (some '\x7b' :: source) = some '\x7b' :: source := rfl
  have same := readMembers_skip (skipSpace_skipSpace source) fuel
  rw [begins, read] at same
  simp only [readValue, brace, begins]
  split
  · rename_i closing
    exact absurd (Option.some.inj (List.cons.inj closing).1) member
  · rw [same]

theorem readValue_emptyArray (closed : skipSpace source = some ']' :: rest) :
    readValue (fuel + 1) (some '[' :: source) = (.array .closed, rest) := by
  have bracket : skipSpace (some '[' :: source) = some '[' :: source := rfl
  simp only [readValue, bracket, closed]

theorem readValue_emptyObject (closed : skipSpace source = some '\x7d' :: rest) :
    readValue (fuel + 1) (some '\x7b' :: source) = (.object .closed, rest) := by
  have brace : skipSpace (some '\x7b' :: source) = some '\x7b' :: source := rfl
  simp only [readValue, brace, closed]

theorem readValue_string {inside : Source} {units : List StringUnit} (enclosed : Enclosed inside units) :
    readValue (fuel + 1) (some '"' :: (inside ++ some '"' :: rest)) =
      (.string ((joinUnits units).map String.ofList), rest) := by
  have read : readString (inside ++ some '"' :: rest) =
      (.string ((joinUnits units).map String.ofList), rest) := by
    rw [readString, enclosed.readUnits]
  exact read

end Steps

mutual

/-- A value is read up to its end, with fuel for twice its length. -/
theorem Denotes.readValue : ∀ {source : Source} {value : Json}, Denotes source value →
    ∀ {fuel : Nat} {rest : Source}, 2 * source.length ≤ fuel → Stops rest →
      readValue fuel (source ++ rest) = (value, rest)
  | _, _, .null, _ + 1, _, _, _ => rfl
  | _, _, .yes, _ + 1, _, _, _ => rfl
  | _, _, .no, _ + 1, _, _, _ => rfl
  | _, _, .number numeral, fuel + 1, _, _, ends => readValue_numeral numeral ends fuel
  | _, _, .string enclosed, _ + 1, rest, _, _ => by
      simpa using readValue_string enclosed
  | _, _, .emptyArray space, _ + 1, rest, _, _ =>
      readValue_emptyArray (space.skipSpace_closing (by decide) rest)
  | _, _, .array listed, fuel + 1, rest, enough, _ => by
      obtain ⟨c, tail, begins, bracket⟩ := listed.head rest
      exact readValue_array begins bracket (listed.readItems (by simp at enough; omega))
  | _, _, .emptyObject space, _ + 1, rest, _, _ =>
      readValue_emptyObject (space.skipSpace_closing (by decide) rest)
  | _, _, .object listed, fuel + 1, rest, enough, _ => by
      obtain ⟨c, tail, begins, brace⟩ := listed.head rest
      exact readValue_object begins brace (listed.readMembers (by simp at enough; omega))
  | source, _, denotes, 0, _, enough, _ => by
      have := denotes.length_pos
      omega

/-- Of what follows a value only blanks may have been left. -/
theorem Fills.readValue : ∀ {source : Source} {value : Json}, Fills source value →
    ∀ {fuel : Nat} {rest : Source}, 2 * source.length ≤ fuel → Stops rest →
      ∃ after, readValue fuel (source ++ rest) = (value, after) ∧ skipSpace after = skipSpace rest
  | _, _, @Fills.between before core after _ first denotes last, fuel, rest, enough, ends => by
      refine ⟨after ++ rest, ?_, last.skipSpace_append rest⟩
      simp only [List.length_append] at enough
      have skipped := readValue_skip (first.skipSpace_append (core ++ (after ++ rest))) fuel
      have read := denotes.readValue (show 2 * _ ≤ fuel by omega) (last.stops ends)
      simpa using skipped.trans read

theorem Items.Denoted.readItems : ∀ {source : Source} {items : Items}, Items.Denoted source items →
    ∀ {fuel : Nat} {rest : Source}, 2 * source.length ≤ fuel →
      readItems fuel (source ++ rest) = (items, rest)
  | _, _, .last fills, fuel + 1, rest, enough => by
      simp only [List.length_append, List.length_cons, List.length_nil] at enough
      obtain ⟨after, read, skipped⟩ := fills.readValue (show 2 * _ ≤ fuel by omega)
        (stops_mark (c := ']') (by decide) rest)
      rw [List.append_assoc]
      exact readItems_last read skipped
  | _, _, .more fills listed, fuel + 1, rest, enough => by
      simp only [List.length_append, List.length_cons] at enough
      obtain ⟨after, read, skipped⟩ := fills.readValue (show 2 * _ ≤ fuel by omega)
        (stops_mark (c := ',') (by decide) _)
      rw [List.append_assoc]
      exact readItems_more read skipped (listed.readItems (by omega))
  | _, _, .last _, 0, _, enough => by simp at enough
  | _, _, .more _ _, 0, _, enough => by simp at enough

theorem Members.Denoted.readMembers : ∀ {source : Source} {members : Members},
    Members.Denoted source members → ∀ {fuel : Nat} {rest : Source}, 2 * source.length ≤ fuel →
      readMembers fuel (source ++ rest) = (members, rest)
  | _, _, .last named fills, fuel + 1, rest, enough => by
      simp only [List.length_append, List.length_cons, List.length_nil] at enough
      obtain ⟨afterKey, read, colon⟩ := named.readValue (show 2 * _ ≤ fuel by omega)
        (stops_mark (c := ':') (by decide) _)
      obtain ⟨after, next, skipped⟩ := fills.readValue (show 2 * _ ≤ fuel by omega)
        (stops_mark (c := '\x7d') (by decide) rest)
      simp only [List.append_assoc, List.cons_append]
      exact readMembers_last read colon next skipped
  | _, _, .more named fills listed, fuel + 1, rest, enough => by
      simp only [List.length_append, List.length_cons] at enough
      obtain ⟨afterKey, read, colon⟩ := named.readValue (show 2 * _ ≤ fuel by omega)
        (stops_mark (c := ':') (by decide) _)
      obtain ⟨after, next, skipped⟩ := fills.readValue (show 2 * _ ≤ fuel by omega)
        (stops_mark (c := ',') (by decide) _)
      simp only [List.append_assoc, List.cons_append]
      exact readMembers_more read colon next skipped (listed.readMembers (by omega))
  | _, _, .last _ _, 0, _, enough => by simp at enough
  | _, _, .more _ _ _, 0, _, enough => by simp at enough

end

theorem Denotes.read {source : Source} {value : Json} (denotes : Denotes source value) :
    read source = (value, []) := by
  have found := denotes.readValue (show _ ≤ 2 * source.length + 2 by omega) stops_nil
  rwa [List.append_nil] at found

theorem Fills.read {source : Source} {value : Json} (fills : Fills source value) :
    ∃ after, read source = (value, after) ∧ skipSpace after = [] := by
  obtain ⟨after, found, skipped⟩ :=
    fills.readValue (show _ ≤ 2 * source.length + 2 by omega) stops_nil
  rw [List.append_nil] at found
  exact ⟨after, found, skipped⟩

/-- From a text of a value is decoded what is decoded from the value. -/
theorem Fills.decodeSource {α : Type} {source : Source} {value : Json} (fills : Fills source value)
    (decode : Decoder α) : decodeSource decode source = decode value := by
  obtain ⟨after, found, nothing⟩ := fills.read
  rw [Json.decodeSource, found]
  show (do
    let a ← decode value
    if (skipSpace after).isEmpty then return a else throw DecodeError.notJson) = _
  rw [nothing]
  cases decode value <;> rfl

theorem Denotes.fills {source : Source} {value : Json} (denotes : Denotes source value) :
    Fills source value := by
  simpa using Fills.between .nil denotes .nil

/-! ## What is read is a text -/

mutual

/-- The source did not break off inside of the value. -/
def unbroken : Json → Bool
  | .null | .bool _ | .number _ | .string _ => true
  | .array items => items.unbroken
  | .object members => members.unbroken
  | .broken => false

def Items.unbroken : Items → Bool
  | .closed => true
  | .cut => false
  | .item head tail => head.unbroken && tail.unbroken

def Members.unbroken : Members → Bool
  | .closed => true
  | .cut => false
  | .member _ value tail => value.unbroken && tail.unbroken

end

mutual

theorem unbroken_of_intact : ∀ {value : Json}, value.intact = true → value.unbroken = true
  | .null, _ | .bool _, _ | .number _, _ | .string _, _ => rfl
  | .array _, intact => Items.unbroken_of_intact intact
  | .object _, intact => Members.unbroken_of_intact intact

theorem Items.unbroken_of_intact : ∀ {items : Items}, items.intact = true → items.unbroken = true
  | .closed, _ => rfl
  | .item _ _, intact => by
      obtain ⟨head, tail⟩ := Bool.and_eq_true_iff.mp intact
      exact Bool.and_eq_true_iff.mpr ⟨Json.unbroken_of_intact head, Items.unbroken_of_intact tail⟩

theorem Members.unbroken_of_intact : ∀ {members : Members}, members.intact = true →
    members.unbroken = true
  | .closed, _ => rfl
  | .member _ _ _, intact => by
      obtain ⟨named, tail⟩ := Bool.and_eq_true_iff.mp intact
      obtain ⟨-, value⟩ := Bool.and_eq_true_iff.mp named
      exact Bool.and_eq_true_iff.mpr ⟨Json.unbroken_of_intact value, Members.unbroken_of_intact tail⟩

end

/-- Values, items and members that are read whole, with this much fuel, come first in the source. -/
structure ReadsTexts (fuel : Nat) : Prop where
  value : ∀ {source rest : Source} {value : Json}, readValue fuel source = (value, rest) →
    value.unbroken = true →
      ∃ before core, Blank before ∧ Denotes core value ∧ source = before ++ (core ++ rest)
  items : ∀ {source rest : Source} {items : Items}, readItems fuel source = (items, rest) →
    items.unbroken = true → ∃ inside, Items.Denoted inside items ∧ source = inside ++ rest
  members : ∀ {source rest : Source} {members : Members},
    readMembers fuel source = (members, rest) → members.unbroken = true →
      ∃ inside, Members.Denoted inside members ∧ source = inside ++ rest

namespace ReadsTexts

variable {fuel : Nat} {source rest : Source} (reads : ReadsTexts fuel)

theorem exists_string {value : Json} (read : readString source = (value, rest))
    (unbroken : value.unbroken = true) :
    ∃ core, Denotes (some '"' :: core) value ∧ source = core ++ rest := by
  unfold readString at read
  split at read
  · rename_i units after found
    cases read
    obtain ⟨inside, enclosed, rfl⟩ := enclosed_of_readUnits found
    exact ⟨_, .string enclosed, by simp⟩
  · cases read
    cases unbroken

theorem exists_number {negative : Bool} {value : Json}
    (read : readNumeral negative source = (value, rest)) (unbroken : value.unbroken = true) :
    ∃ core, Denotes (((if negative then ['-'] else []).map some) ++ core) value ∧
      source = core ++ rest := by
  have whole : value ≠ .broken := by
    rintro rfl
    cases unbroken
  obtain ⟨n, rfl, rfl, written, mark, marks, rfl⟩ := exists_numeral_of_readNumeral read whole
  exact ⟨_, .number ⟨written, mark, marks, by rw [List.map_append]⟩, rfl⟩

include reads

theorem value_visible {value : Json} (read : readValue (fuel + 1) source = (value, rest))
    (unbroken : value.unbroken = true) :
    ∃ core, Denotes core value ∧ skipSpace source = core ++ rest := by
  rw [readValue] at read
  generalize skipSpace source = visible at read ⊢
  split at read
  · cases read
    exact ⟨_, .null, rfl⟩
  · cases read
    exact ⟨_, .yes, rfl⟩
  · cases read
    exact ⟨_, .no, rfl⟩
  · obtain ⟨core, denotes, rfl⟩ := exists_string read unbroken
    exact ⟨_, denotes, rfl⟩
  · obtain ⟨core, denotes, rfl⟩ := exists_number read unbroken
    exact ⟨_, denotes, rfl⟩
  · rename_i tail
    obtain ⟨blank, space, same⟩ := exists_blank tail
    split at read
    · rename_i closed
      cases read
      rw [closed] at same
      exact ⟨_, .emptyArray space, by simp [same]⟩
    · obtain ⟨rfl, rfl⟩ := Prod.mk.inj read
      rw [readItems_skip (skipSpace_skipSpace tail)] at unbroken ⊢
      obtain ⟨inside, listed, same⟩ := reads.items rfl unbroken
      exact ⟨_, .array listed, congrArg (some '[' :: ·) same⟩
  · rename_i tail
    obtain ⟨blank, space, same⟩ := exists_blank tail
    split at read
    · rename_i closed
      cases read
      rw [closed] at same
      exact ⟨_, .emptyObject space, by simp [same]⟩
    · obtain ⟨rfl, rfl⟩ := Prod.mk.inj read
      rw [readMembers_skip (skipSpace_skipSpace tail)] at unbroken ⊢
      obtain ⟨inside, listed, same⟩ := reads.members rfl unbroken
      exact ⟨_, .object listed, congrArg (some '\x7b' :: ·) same⟩
  · split at read
    · obtain ⟨core, denotes, same⟩ := exists_number read unbroken
      exact ⟨core, denotes, same⟩
    · cases read
      cases unbroken
  · cases read
    cases unbroken

theorem value_succ {value : Json} (read : readValue (fuel + 1) source = (value, rest))
    (unbroken : value.unbroken = true) :
    ∃ before core, Blank before ∧ Denotes core value ∧ source = before ++ (core ++ rest) := by
  obtain ⟨core, denotes, visible⟩ := reads.value_visible read unbroken
  obtain ⟨blank, space, same⟩ := exists_blank source
  exact ⟨blank, core, space, denotes, visible ▸ same⟩

/-- A value and the blanks behind it, up to what comes next. -/
theorem fills_of_value {after more : Source} {value : Json}
    (read : readValue fuel source = (value, after)) (unbroken : value.unbroken = true)
    (next : skipSpace after = more) : ∃ inside, Fills inside value ∧ source = inside ++ more := by
  obtain ⟨before, core, first, denotes, rfl⟩ := reads.value read unbroken
  obtain ⟨blank, last, same⟩ := exists_blank after
  refine ⟨_, .between first denotes last, ?_⟩
  rw [← next]
  simpa using same

theorem items_succ {items : Items} (read : readItems (fuel + 1) source = (items, rest))
    (unbroken : items.unbroken = true) : ∃ inside, Items.Denoted inside items ∧ source = inside ++ rest := by
  rw [readItems] at read
  dsimp only at read
  generalize first : readValue fuel source = found at read
  obtain ⟨head, afterHead⟩ := found
  dsimp only at read
  split at read
  · rename_i tail comma
    obtain ⟨rfl, rfl⟩ := Prod.mk.inj read
    obtain ⟨headWhole, tailWhole⟩ := Bool.and_eq_true_iff.mp unbroken
    obtain ⟨inside, fills, rfl⟩ := reads.fills_of_value first headWhole comma
    obtain ⟨behind, listed, same⟩ := reads.items rfl tailWhole
    exact ⟨_, .more fills listed, by rw [List.append_assoc, List.cons_append, ← same]⟩
  · rename_i bracket
    cases read
    obtain ⟨headWhole, -⟩ := Bool.and_eq_true_iff.mp unbroken
    obtain ⟨inside, fills, rfl⟩ := reads.fills_of_value first headWhole bracket
    exact ⟨_, .last fills, by simp⟩
  · cases read
    simp [Items.unbroken] at unbroken

theorem members_succ {members : Members} (read : readMembers (fuel + 1) source = (members, rest))
    (unbroken : members.unbroken = true) :
    ∃ inside, Members.Denoted inside members ∧ source = inside ++ rest := by
  rw [readMembers] at read
  dsimp only at read
  generalize first : readValue fuel source = found at read
  obtain ⟨key, afterKey⟩ := found
  dsimp only at read
  split at read
  · rename_i tail named colon
    obtain ⟨content, rfl⟩ : ∃ content, key = .string content := by
      cases key with
      | string content => exact ⟨content, rfl⟩
      | _ => cases named
    obtain ⟨keySource, fillsKey, rfl⟩ := reads.fills_of_value first rfl colon
    generalize second : readValue fuel tail = found at read
    obtain ⟨value, afterValue⟩ := found
    dsimp only at read
    split at read
    · rename_i comma
      obtain ⟨rfl, rfl⟩ := Prod.mk.inj read
      obtain ⟨valueWhole, tailWhole⟩ := Bool.and_eq_true_iff.mp unbroken
      obtain ⟨inside, fills, rfl⟩ := reads.fills_of_value second valueWhole comma
      obtain ⟨behind, listed, same⟩ := reads.members rfl tailWhole
      refine ⟨_, .more fillsKey fills listed, ?_⟩
      simp only [List.append_assoc, List.cons_append, ← same]
    · rename_i brace
      cases read
      obtain ⟨valueWhole, -⟩ := Bool.and_eq_true_iff.mp unbroken
      obtain ⟨inside, fills, rfl⟩ := reads.fills_of_value second valueWhole brace
      exact ⟨_, .last fillsKey fills, by simp⟩
    · cases read
      simp [Members.unbroken] at unbroken
  · cases read
    simp [Members.unbroken] at unbroken

end ReadsTexts

theorem readsTexts (fuel : Nat) : ReadsTexts fuel := by
  induction fuel with
  | zero =>
      constructor
      · intro _ _ _ read unbroken
        cases read
        cases unbroken
      · intro _ _ _ read unbroken
        cases read
        cases unbroken
      · intro _ _ _ read unbroken
        cases read
        cases unbroken
  | succ fuel ih => exact ⟨ih.value_succ, ih.items_succ, ih.members_succ⟩

/-- What is read without a break and with nothing behind it is a text of what is read. -/
theorem fills_read {source : Source} (unbroken : (read source).1.unbroken = true)
    (alone : skipSpace (read source).2 = []) : Fills source (read source).1 := by
  obtain ⟨inside, fills, same⟩ := (readsTexts _).fills_of_value rfl unbroken alone
  rw [List.append_nil] at same
  rw [← same] at fills
  exact fills

/-- The sources of a value are those that are read as the value with nothing behind it. -/
theorem fills_iff {source : Source} {value : Json} :
    Fills source value ↔
      (read source).1 = value ∧ skipSpace (read source).2 = [] ∧ value.intact = true := by
  constructor
  · intro fills
    obtain ⟨after, found, nothing⟩ := fills.read
    rw [found]
    exact ⟨rfl, nothing, fills.intact⟩
  · rintro ⟨rfl, alone, intact⟩
    exact fills_read (unbroken_of_intact intact) alone

end SealedSync.Json
