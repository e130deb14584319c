import SealedSync.Json.Decode

/-!
# The parts of JSON texts

Blanks, strings and numerals, each with the sources that it is written in. Reading takes such a part off the
front of a source and stops behind it, and whatever it takes is such a part. A gap may stand inside a string and
nowhere else.
-/
namespace SealedSync.Json

/-! ## Blanks -/

/-- Nothing but blanks. -/
inductive Blank : Source → Prop where
  | nil : Blank []
  | cons {c : Char} {rest : Source} (space : isSpace c = true) (more : Blank rest) :
      Blank (some c :: rest)

theorem skipSpace_cons {c : Char} (visible : isSpace c = false) (rest : Source) :
    skipSpace (some c :: rest) = some c :: rest := by
  rw [skipSpace, if_neg (by simp [visible])]

theorem Blank.skipSpace_append {blank : Source} (space : Blank blank) (rest : Source) :
    skipSpace (blank ++ rest) = skipSpace rest := by
  induction space with
  | nil => rfl
  | cons space _ ih =>
      rw [List.cons_append, skipSpace, if_pos space]
      exact ih

theorem Blank.skipSpace_closing {blank : Source} (space : Blank blank) {c : Char}
    (visible : isSpace c = false) (rest : Source) :
    skipSpace (blank ++ [some c] ++ rest) = some c :: rest := by
  rw [List.append_assoc, space.skipSpace_append]
  exact skipSpace_cons visible rest

/-- What is skipped are blanks. -/
theorem exists_blank (source : Source) : ∃ blank, Blank blank ∧ source = blank ++ skipSpace source := by
  induction source with
  | nil => exact ⟨[], .nil, rfl⟩
  | cons unit rest ih =>
      cases unit with
      | none => exact ⟨[], .nil, rfl⟩
      | some c =>
          cases space : isSpace c with
          | false => exact ⟨[], .nil, (skipSpace_cons space rest).symm⟩
          | true =>
              obtain ⟨blank, blanks, same⟩ := ih
              refine ⟨some c :: blank, .cons space blanks, ?_⟩
              rw [skipSpace, if_pos space, List.cons_append, ← same]

theorem isSpace_of_skipSpace {source rest : Source} {c : Char}
    (skipped : skipSpace source = some c :: rest) : isSpace c = false := by
  induction source with
  | nil => cases skipped
  | cons head tail ih =>
      cases head with
      | none => cases skipped
      | some d =>
          rw [skipSpace] at skipped
          split at skipped
          · exact ih skipped
          · rename_i visible
            cases skipped
            exact Bool.eq_false_iff.mpr visible

theorem skipSpace_skipSpace (source : Source) : skipSpace (skipSpace source) = skipSpace source := by
  cases skipped : skipSpace source with
  | nil => rfl
  | cons head rest =>
      cases head with
      | none => rfl
      | some c => exact skipSpace_cons (isSpace_of_skipSpace skipped) rest

/-! ## Strings -/

/-- What stands between the quotes of a string, unit by unit. -/
inductive Enclosed : Source → List StringUnit → Prop where
  | nil : Enclosed [] []
  | plain {c : Char} {rest : Source} {units : List StringUnit} (quote : c ≠ '"')
      (backslash : c ≠ '\\') (visible : ¬c.toNat < 0x20) (more : Enclosed rest units) :
      Enclosed (some c :: rest) (.char c :: units)
  | short {letter c : Char} {rest : Source} {units : List StringUnit}
      (escape : shortEscape? letter = some c) (more : Enclosed rest units) :
      Enclosed (some '\\' :: some letter :: rest) (.char c :: units)
  | code {a b c d : Char} {n : Nat} {rest : Source} {units : List StringUnit}
      (digits : hex4? a b c d = some n) (more : Enclosed rest units) :
      Enclosed (some '\\' :: some 'u' :: some a :: some b :: some c :: some d :: rest)
        (.code n :: units)
  | gap {rest : Source} {units : List StringUnit} (more : Enclosed rest units) :
      Enclosed (none :: rest) (.gap :: units)

theorem readUnits_plain {c : Char} (quote : c ≠ '"') (backslash : c ≠ '\\')
    (visible : ¬c.toNat < 0x20) (rest : Source) :
    readUnits (some c :: rest) = (readUnits rest).map fun found => (.char c :: found.1, found.2) := by
  rw [readUnits]
  · rw [if_neg (by simp [visible, backslash])]
    cases readUnits rest <;> rfl
  · simpa using quote
  · intros
    contradiction
  · intros
    contradiction

theorem readUnits_short {letter c : Char} (escape : shortEscape? letter = some c) (rest : Source) :
    readUnits (some '\\' :: some letter :: rest) =
      (readUnits rest).map fun found => (.char c :: found.1, found.2) := by
  have other : letter ≠ 'u' := by
    rintro rfl
    simp [shortEscape?] at escape
  rw [readUnits]
  · rw [escape]
    cases readUnits rest <;> rfl
  · intros
    contradiction

theorem readUnits_code {a b c d : Char} {n : Nat} (digits : hex4? a b c d = some n) (rest : Source) :
    readUnits (some '\\' :: some 'u' :: some a :: some b :: some c :: some d :: rest) =
      (readUnits rest).map fun found => (.code n :: found.1, found.2) := by
  rw [readUnits, digits]
  cases readUnits rest <;> rfl

/-- The units of a string are read up to its closing quote. -/
theorem Enclosed.readUnits {inside : Source} {units : List StringUnit} (enclosed : Enclosed inside units)
    (rest : Source) : readUnits (inside ++ some '"' :: rest) = some (units, rest) := by
  induction enclosed with
  | nil => rfl
  | plain quote backslash visible _ ih =>
      rw [List.cons_append, readUnits_plain quote backslash visible, ih]
      rfl
  | short escape _ ih =>
      rw [List.cons_append, List.cons_append, readUnits_short escape, ih]
      rfl
  | code digits _ ih =>
      simp only [List.cons_append]
      rw [readUnits_code digits, ih]
      rfl
  | gap _ ih =>
      rw [List.cons_append, Json.readUnits, ih]
      rfl

theorem readUnits_more {tail rest : Source} {unit : StringUnit} {units : List StringUnit}
    (read : (do
      let (units, rest) ← readUnits tail
      return (unit :: units, rest)) = some (units, rest)) :
    ∃ others, readUnits tail = some (others, rest) ∧ units = unit :: others := by
  simp only [Option.bind_eq_bind, Option.bind_eq_some_iff, Option.pure_def, Option.some.injEq,
    Prod.mk.injEq] at read
  obtain ⟨⟨others, after⟩, read, rfl, rfl⟩ := read
  exact ⟨others, read, rfl⟩

theorem enclosed_of_readUnits {source rest : Source} {units : List StringUnit}
    (read : readUnits source = some (units, rest)) :
    ∃ inside, Enclosed inside units ∧ source = inside ++ some '"' :: rest := by
  induction source using readUnits.induct generalizing units with
  | case1 => cases read
  | case2 tail =>
      simp only [readUnits, Option.some.injEq, Prod.mk.injEq] at read
      obtain ⟨rfl, rfl⟩ := read
      exact ⟨[], .nil, rfl⟩
  | case3 a b c d tail ih =>
      rw [readUnits] at read
      obtain ⟨n, digits, more⟩ := Option.bind_eq_some_iff.mp read
      obtain ⟨others, found, rfl⟩ := readUnits_more more
      obtain ⟨inside, enclosed, rfl⟩ := ih found
      exact ⟨_, .code digits enclosed, rfl⟩
  | case4 e tail short ih =>
      rw [readUnits] at read
      · obtain ⟨c, escape, more⟩ := Option.bind_eq_some_iff.mp read
        obtain ⟨others, found, rfl⟩ := readUnits_more more
        obtain ⟨inside, enclosed, rfl⟩ := ih found
        exact ⟨_, .short escape enclosed, rfl⟩
      · exact short
  | case5 c tail quote unicode escape refused =>
      rw [readUnits] at read
      · rw [if_pos refused] at read
        cases read
      · exact quote
      · exact unicode
      · exact escape
  | case6 c tail quote unicode escape plain ih =>
      rw [readUnits] at read
      · rw [if_neg plain] at read
        obtain ⟨others, found, rfl⟩ := readUnits_more read
        obtain ⟨inside, enclosed, rfl⟩ := ih found
        rw [not_or] at plain
        exact ⟨_, .plain quote plain.2 plain.1 enclosed, rfl⟩
      · exact quote
      · exact unicode
      · exact escape
  | case7 tail ih =>
      rw [readUnits] at read
      obtain ⟨others, found, rfl⟩ := readUnits_more read
      obtain ⟨inside, enclosed, rfl⟩ := ih found
      exact ⟨_, .gap enclosed, rfl⟩

/-! ## Numerals -/

/-- The form in which numerals are written: digits without a leading zero, and an exponent that has
digits after its sign. -/
structure Numeral.Written (n : Numeral) : Prop where
  whole : ∀ c ∈ n.whole, Digits.isDigit c = true
  whole_ne_nil : n.whole ≠ []
  no_leading_zero : ∀ c rest, n.whole ≠ '0' :: c :: rest
  fraction : ∀ c ∈ n.fraction, Digits.isDigit c = true
  exponent : n.exponent ≠ [] → ∃ sign digits, sign ∈ [[], ['+'], ['-']] ∧ digits ≠ [] ∧
    (∀ c ∈ digits, Digits.isDigit c = true) ∧ n.exponent = sign ++ digits

/-- The characters of a fraction with its point, if there is one. -/
def fractionChars (fraction : List Char) : List Char :=
  if fraction.isEmpty then [] else '.' :: fraction

/-- The characters of an exponent with its mark, if there is one. -/
def markedExponent (mark : Char) (exponent : List Char) : List Char :=
  if exponent.isEmpty then [] else mark :: exponent

/-- The characters of a numeral behind its sign. -/
def Numeral.unsigned (n : Numeral) (mark : Char) : List Char :=
  n.whole ++ (fractionChars n.fraction ++ markedExponent mark n.exponent)

/-- What follows a numeral does not go on with it. -/
def Stops (rest : Source) : Prop :=
  ∀ c tail, rest = some c :: tail → Digits.isDigit c = false ∧ c ≠ '.' ∧ c ≠ 'e' ∧ c ≠ 'E'

theorem stops_nil : Stops [] := nofun

theorem stops_mark {c : Char} (mark : c ∈ [',', ']', '\x7d', ':']) (rest : Source) :
    Stops (some c :: rest) := by
  intro d tail same
  obtain rfl : c = d := Option.some.inj (List.cons.inj same).1
  simp only [List.mem_cons, List.not_mem_nil, or_false] at mark
  rcases mark with rfl | rfl | rfl | rfl <;> decide

theorem Blank.stops {blank rest : Source} (space : Blank blank) (ends : Stops rest) :
    Stops (blank ++ rest) := by
  cases space with
  | nil => exact ends
  | @cons c _ space _ =>
      intro d tail same
      obtain rfl : c = d := Option.some.inj (List.cons.inj same).1
      simp only [isSpace, Bool.or_eq_true, beq_iff_eq] at space
      rcases space with ((rfl | rfl) | rfl) | rfl <;> decide

theorem takeDigits_append {digits : List Char} {rest : Source}
    (decimal : ∀ c ∈ digits, Digits.isDigit c = true)
    (ends : ∀ c tail, rest = some c :: tail → Digits.isDigit c = false) :
    takeDigits (digits.map some ++ rest) = (digits, rest) := by
  induction digits with
  | nil =>
      cases rest with
      | nil => rfl
      | cons found tail =>
          cases found with
          | none => rfl
          | some c =>
              show takeDigits (some c :: tail) = _
              rw [takeDigits, if_neg (by simp [ends c tail rfl])]
  | cons c tail ih =>
      have next := ih fun d member => decimal d (List.mem_cons_of_mem _ member)
      rw [List.map_cons, List.cons_append, takeDigits, if_pos (decimal c List.mem_cons_self), next]

/-- The digits that are taken come first in the source. -/
theorem eq_append_of_takeDigits {source rest : Source} {digits : List Char}
    (read : takeDigits source = (digits, rest)) :
    source = digits.map some ++ rest ∧ ∀ c ∈ digits, Digits.isDigit c = true := by
  induction source generalizing digits with
  | nil =>
      cases read
      simp
  | cons head tail ih =>
      cases head with
      | none =>
          cases read
          simp
      | some c =>
          rw [takeDigits] at read
          split at read
          · rename_i digit
            obtain ⟨rfl, rfl⟩ := Prod.mk.inj read
            obtain ⟨same, decimal⟩ := ih rfl
            exact ⟨congrArg (some c :: ·) same, List.forall_mem_cons.mpr ⟨digit, decimal⟩⟩
          · cases read
            simp

theorem readWhole_append {n : Numeral} {rest : Source} (written : n.Written)
    (ends : ∀ c tail, rest = some c :: tail → Digits.isDigit c = false) :
    readWhole (n.whole.map some ++ rest) = some (n.whole, rest) := by
  rw [readWhole, takeDigits_append written.whole ends]
  split
  · rename_i same
    exact absurd (congrArg Prod.fst same) written.whole_ne_nil
  · rename_i same
    exact absurd (congrArg Prod.fst same) (written.no_leading_zero _ _)
  · rfl

theorem eq_append_of_readWhole {source rest : Source} {digits : List Char}
    (read : readWhole source = some (digits, rest)) :
    source = digits.map some ++ rest ∧ (∀ c ∈ digits, Digits.isDigit c = true) ∧ digits ≠ [] ∧
      ∀ c more, digits ≠ '0' :: c :: more := by
  unfold readWhole at read
  split at read
  · cases read
  · cases read
  · rename_i nonempty plain
    rw [Option.some.injEq] at read
    obtain ⟨same, decimal⟩ := eq_append_of_takeDigits read
    refine ⟨same, decimal, ?_, ?_⟩
    · rintro rfl
      exact nonempty _ read
    · rintro c more rfl
      exact plain _ _ _ read

theorem readFraction_append {fraction : List Char} {rest : Source}
    (decimal : ∀ c ∈ fraction, Digits.isDigit c = true)
    (ends : ∀ c tail, rest = some c :: tail → Digits.isDigit c = false ∧ c ≠ '.') :
    readFraction ((fractionChars fraction).map some ++ rest) = some (fraction, rest) := by
  cases fraction with
  | nil =>
      show readFraction rest = _
      unfold readFraction
      split
      · exact absurd rfl (ends _ _ rfl).2
      · rfl
  | cons c tail =>
      have taken := takeDigits_append decimal fun c tail same => (ends c tail same).1
      show readFraction (some '.' :: ((c :: tail).map some ++ rest)) = _
      rw [readFraction, taken]

theorem eq_append_of_readFraction {source rest : Source} {digits : List Char}
    (read : readFraction source = some (digits, rest)) :
    source = (fractionChars digits).map some ++ rest ∧ ∀ c ∈ digits, Digits.isDigit c = true := by
  unfold readFraction at read
  split at read
  · split at read
    · cases read
    · rename_i nonempty
      rw [Option.some.injEq] at read
      obtain ⟨rfl, decimal⟩ := eq_append_of_takeDigits read
      refine ⟨?_, decimal⟩
      cases digits with
      | nil => exact absurd read (nonempty _)
      | cons c more => rfl
  · cases read
    simp [fractionChars]

theorem mem_digits_of_isDigit {c : Char} (digit : Digits.isDigit c = true) :
    c ∈ ['0', '1', '2', '3', '4', '5', '6', '7', '8', '9'] := by
  have bounds : '0' ≤ c ∧ c ≤ '9' := by simpa [Digits.isDigit] using digit
  have low : 48 ≤ c.toNat := bounds.1
  have high : c.toNat ≤ 57 := bounds.2
  rw [← Char.ofNat_toNat c]
  have among : c.toNat ∈ [48, 49, 50, 51, 52, 53, 54, 55, 56, 57] := by
    simp only [List.mem_cons, List.not_mem_nil, or_false]
    omega
  exact List.mem_map_of_mem (f := Char.ofNat) among

theorem readSignedDigits_append {sign digits : List Char} {rest : Source}
    (signed : sign ∈ [[], ['+'], ['-']]) (some_digit : digits ≠ [])
    (decimal : ∀ c ∈ digits, Digits.isDigit c = true)
    (ends : ∀ c tail, rest = some c :: tail → Digits.isDigit c = false) :
    readSignedDigits ((sign ++ digits).map some ++ rest) = some (sign ++ digits, rest) := by
  have taken := takeDigits_append decimal ends
  obtain ⟨c, tail, rfl⟩ := List.exists_cons_of_ne_nil some_digit
  simp only [List.mem_cons, List.not_mem_nil, or_false] at signed
  rcases signed with rfl | rfl | rfl
  · have digit := decimal c List.mem_cons_self
    have plus : c ≠ '+' := by
      rintro rfl
      exact absurd digit (by decide)
    have minus : c ≠ '-' := by
      rintro rfl
      exact absurd digit (by decide)
    show readSignedDigits (some c :: (tail.map some ++ rest)) = _
    have taken : takeDigits (some c :: (tail.map some ++ rest)) = (c :: tail, rest) := taken
    rw [readSignedDigits]
    · simp only [taken]
    · intro _ same
      exact plus (Option.some.inj (List.cons.inj same).1)
    · intro _ same
      exact minus (Option.some.inj (List.cons.inj same).1)
  · show readSignedDigits (some '+' :: ((c :: tail).map some ++ rest)) = _
    simp only [readSignedDigits, taken]
  · show readSignedDigits (some '-' :: ((c :: tail).map some ++ rest)) = _
    simp only [readSignedDigits, taken]

theorem eq_append_of_readSignedDigits {source rest : Source} {exponent : List Char}
    (read : readSignedDigits source = some (exponent, rest)) :
    source = exponent.map some ++ rest ∧ exponent ≠ [] ∧
      ∃ sign digits, sign ∈ [[], ['+'], ['-']] ∧ digits ≠ [] ∧
        (∀ c ∈ digits, Digits.isDigit c = true) ∧ exponent = sign ++ digits := by
  unfold readSignedDigits at read
  dsimp only at read
  split at read
  · cases read
  · rename_i digits after nonempty taken
    obtain ⟨rfl, rfl⟩ := Prod.mk.inj (Option.some.inj read)
    obtain ⟨same, decimal⟩ := eq_append_of_takeDigits taken
    have some_digit : digits ≠ [] := fun same => nonempty same
    clear read taken
    revert same
    split
    · rintro rfl
      exact ⟨rfl, by simp, ['+'], digits, by simp, some_digit, decimal, rfl⟩
    · rintro rfl
      exact ⟨rfl, by simp, ['-'], digits, by simp, some_digit, decimal, rfl⟩
    · rintro rfl
      exact ⟨rfl, some_digit, [], digits, by simp, some_digit, decimal, rfl⟩

theorem readExponent_append {n : Numeral} {rest : Source} {mark : Char} (written : n.Written)
    (marks : mark ∈ ['e', 'E']) (ends : Stops rest) :
    readExponent ((markedExponent mark n.exponent).map some ++ rest) = some (n.exponent, rest) := by
  by_cases none : n.exponent = []
  · rw [none]
    show readExponent rest = _
    unfold readExponent
    split
    · exact absurd rfl (ends _ _ rfl).2.2.1
    · exact absurd rfl (ends _ _ rfl).2.2.2
    · rfl
  · obtain ⟨sign, digits, signed, some_digit, decimal, same⟩ := written.exponent none
    have marked : markedExponent mark n.exponent = mark :: n.exponent := by
      simp [markedExponent, none]
    have read := readSignedDigits_append signed some_digit decimal fun c tail same =>
      (ends c tail same).1
    rw [marked, same]
    simp only [List.mem_cons, List.not_mem_nil, or_false] at marks
    rcases marks with rfl | rfl <;> exact read

theorem eq_append_of_readExponent {source rest : Source} {exponent : List Char}
    (read : readExponent source = some (exponent, rest)) :
    (∃ mark ∈ ['e', 'E'], source = (markedExponent mark exponent).map some ++ rest) ∧
      (exponent ≠ [] → ∃ sign digits, sign ∈ [[], ['+'], ['-']] ∧ digits ≠ [] ∧
        (∀ c ∈ digits, Digits.isDigit c = true) ∧ exponent = sign ++ digits) := by
  unfold readExponent at read
  split at read
  · obtain ⟨rfl, nonempty, parts⟩ := eq_append_of_readSignedDigits read
    exact ⟨⟨'e', by simp, by simp [markedExponent, nonempty]⟩, fun _ => parts⟩
  · obtain ⟨rfl, nonempty, parts⟩ := eq_append_of_readSignedDigits read
    exact ⟨⟨'E', by simp, by simp [markedExponent, nonempty]⟩, fun _ => parts⟩
  · cases read
    exact ⟨⟨'e', by simp, rfl⟩, fun nonempty => absurd rfl nonempty⟩

theorem stops_exponent {n : Numeral} {rest : Source} {mark : Char} (marks : mark ∈ ['e', 'E'])
    (ends : Stops rest) :
    ∀ c tail, (markedExponent mark n.exponent).map some ++ rest = some c :: tail →
      Digits.isDigit c = false ∧ c ≠ '.' := by
  intro c tail same
  unfold markedExponent at same
  split at same
  · exact ⟨(ends c tail same).1, (ends c tail same).2.1⟩
  · obtain rfl : mark = c := Option.some.inj (List.cons.inj same).1
    simp only [List.mem_cons, List.not_mem_nil, or_false] at marks
    rcases marks with rfl | rfl <;> decide

theorem stops_fraction {n : Numeral} {rest : Source} {mark : Char} (marks : mark ∈ ['e', 'E'])
    (ends : Stops rest) :
    ∀ c tail, (fractionChars n.fraction).map some ++
        ((markedExponent mark n.exponent).map some ++ rest) = some c :: tail →
      Digits.isDigit c = false := by
  intro c tail same
  unfold fractionChars at same
  split at same
  · exact (stops_exponent marks ends c tail same).1
  · obtain rfl : '.' = c := Option.some.inj (List.cons.inj same).1
    decide

/-- A numeral is read up to its end. -/
theorem readNumeral_append {n : Numeral} {rest : Source} {mark : Char} (written : n.Written)
    (marks : mark ∈ ['e', 'E']) (ends : Stops rest) :
    readNumeral n.negative ((n.unsigned mark).map some ++ rest) = (.number n, rest) := by
  simp only [Numeral.unsigned, List.map_append, List.append_assoc]
  rw [readNumeral, readWhole_append written (stops_fraction marks ends)]
  simp only [Option.bind_eq_bind, Option.bind_some,
    readFraction_append written.fraction (stops_exponent marks ends),
    readExponent_append written marks ends]
  rfl

/-- What is read as a numeral is written as one. -/
theorem exists_numeral_of_readNumeral {negative : Bool} {source rest : Source} {value : Json}
    (read : readNumeral negative source = (value, rest)) (unbroken : value ≠ .broken) :
    ∃ n : Numeral, value = .number n ∧ n.negative = negative ∧ n.Written ∧
      ∃ mark ∈ ['e', 'E'], source = (n.unsigned mark).map some ++ rest := by
  unfold readNumeral at read
  dsimp only at read
  generalize same : (readWhole source >>= _) = found at read
  cases found with
  | none =>
      cases read
      exact absurd rfl unbroken
  | some found =>
      obtain rfl : found = (value, rest) := read
      obtain ⟨⟨whole, afterWhole⟩, readWhole, more⟩ := Option.bind_eq_some_iff.mp same
      obtain ⟨⟨fraction, afterFraction⟩, readFraction, more⟩ := Option.bind_eq_some_iff.mp more
      obtain ⟨⟨exponent, after⟩, readExponent, last⟩ := Option.bind_eq_some_iff.mp more
      obtain ⟨rfl, rfl⟩ := Prod.mk.inj (Option.some.inj last)
      obtain ⟨rfl, decimal, nonempty, plain⟩ := eq_append_of_readWhole readWhole
      obtain ⟨rfl, decimalFraction⟩ := eq_append_of_readFraction readFraction
      obtain ⟨⟨mark, marks, rfl⟩, parts⟩ := eq_append_of_readExponent readExponent
      exact ⟨⟨negative, whole, fraction, exponent⟩, rfl, rfl,
        ⟨decimal, nonempty, plain, decimalFraction, parts⟩, mark, marks,
        by simp [Numeral.unsigned]⟩

/-- The characters of a numeral. The mark of its exponent may be a capital letter. -/
def Numeral.IsSource (n : Numeral) (source : Source) : Prop :=
  n.Written ∧ ∃ mark ∈ ['e', 'E'],
    source = ((if n.negative then ['-'] else []) ++ n.unsigned mark).map some

end SealedSync.Json
