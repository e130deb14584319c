import Mathlib.Data.List.Basic
import SealedSync.Proofs.BundleDocument
import SealedSync.Proofs.Cutting
import SealedSync.Proofs.SealedBundle
import SealedSync.Proofs.StateRoundTrip

/-!
# What a fingerprint tells of an index

The text behind a fingerprint has a line for each entry: the name, a colon and the time to two places.
Neither a colon nor the end of a line is in a time, so each line ends where it must; but both may be in
a name. Two indexes are therefore told by the same text if they agree, and otherwise only if a name of
the one hides whole lines of the other. An index with several entries never has a text for itself.
-/
namespace SealedSync

namespace CollectionIndex

/-! ## Times -/

/-- The text ends neither a name nor a line. -/
def IsInline (text : String) : Prop := ∀ c ∈ text.toList, c ≠ ':' ∧ c ≠ '\n'

instance (text : String) : Decidable (IsInline text) :=
  List.decidableBAll (fun c => c ≠ ':' ∧ c ≠ '\n') text.toList

theorem IsInline.append {text other : String} (first : IsInline text) (second : IsInline other) :
    IsInline (text ++ other) := by
  intro c member
  rw [String.toList_append] at member
  exact (List.mem_append.mp member).elim (first c) (second c)

theorem isInline_of_digits {text : String} (digits : ∀ c ∈ text.toList, Digits.isDigit c = true) :
    IsInline text := by
  intro c member
  refine ⟨?_, ?_⟩
  · rintro rfl
    exact absurd (digits _ member) (by decide)
  · rintro rfl
    exact absurd (digits _ member) (by decide)

theorem isInline_twoPlaces (x : Binary64) : IsInline x.twoPlaces := by
  have sign : IsInline (if x.isNegative then "-" else "") := by split <;> decide
  have whole (n : Nat) : IsInline (toString n) :=
    isInline_of_digits fun c member => Json.toDigits_decimal n c (by simpa using member)
  have places (n : Nat) : IsInline (Digits.padded 2 n) := isInline_of_digits Digits.isDigit_padded
  unfold Binary64.twoPlaces
  split
  · decide
  · simp only
    split
    · exact sign.append (by decide)
    · exact ((sign.append (whole _)).append (by decide)).append (places _)

/-! ## Lines -/

/-- An entry as its line tells it. -/
def told (entry : String × Binary64) : String × String := (entry.1, entry.2.twoPlaces)

/-- The text of some entries. -/
def textOf (entries : List (String × Binary64)) : String := String.join (entries.map fingerprintLine)

theorem textOf_cons (entry : String × Binary64) (entries : List (String × Binary64)) :
    textOf (entry :: entries) = fingerprintLine entry ++ textOf entries := by
  simp [textOf]

theorem toList_fingerprintLine (entry : String × Binary64) : (fingerprintLine entry).toList =
    entry.1.toList ++ ':' :: (entry.2.twoPlaces.toList ++ ['\n']) := by
  simp [fingerprintLine]

theorem textOf_cons_ne_nil (entry : String × Binary64) (entries : List (String × Binary64)) :
    textOf (entry :: entries) ≠ textOf [] := by
  intro same
  have line := congrArg String.toList same
  simp [textOf, toList_fingerprintLine] at line

theorem fingerprintLine_eq_iff {x y : String × Binary64} :
    fingerprintLine x = fingerprintLine y ↔ told x = told y := by
  have clear (entry : String × Binary64) : ':' ∉ entry.2.twoPlaces.toList ++ ['\n'] := by
    intro member
    rcases List.mem_append.mp member with member | member
    · exact (isInline_twoPlaces entry.2 _ member).1 rfl
    · exact absurd member (by decide)
  rw [← String.toList_inj, toList_fingerprintLine, toList_fingerprintLine,
    Split.append_mark_inj (clear x) (clear y), List.append_cancel_right_eq, String.toList_inj,
    String.toList_inj, told, told, Prod.mk.injEq]

/-- What follows the name of an entry breaks the line only at its end. -/
theorem break_notMem {time : Binary64} {inner rest : List Char} (more : rest ≠ [])
    (split : ':' :: (time.twoPlaces.toList ++ ['\n']) = inner ++ rest) : '\n' ∉ inner := by
  obtain rfl | ⟨front, c, rfl⟩ := List.eq_nil_or_concat' rest
  · exact absurd rfl more
  · rw [← List.cons_append, ← List.append_assoc] at split
    have before : ':' :: time.twoPlaces.toList = inner ++ front := (List.append_inj' split rfl).1
    intro member
    have early : '\n' ∈ ':' :: time.twoPlaces.toList := before ▸ List.mem_append_left front member
    rcases List.mem_cons.mp early with colon | inside
    · exact absurd colon (by decide)
    · exact (isInline_twoPlaces time _ inside).2 rfl

/-- A line that begins another one and is not all of it ends within the name. -/
theorem name_of_line_begins {x y : String × Binary64} {rest : List Char} (more : rest ≠ [])
    (same : (fingerprintLine y).toList = (fingerprintLine x).toList ++ rest) :
    ∃ name, y.1 = fingerprintLine x ++ name ∧ rest = (fingerprintLine (name, y.2)).toList := by
  have split : (fingerprintLine x).toList ++ rest =
      y.1.toList ++ ':' :: (y.2.twoPlaces.toList ++ ['\n']) :=
    same.symm.trans (toList_fingerprintLine y)
  rcases List.append_eq_append_iff.mp split with ⟨name, front, rfl⟩ | ⟨inner, front, back⟩
  · refine ⟨String.ofList name, ?_, ?_⟩
    · rw [← String.toList_inj, front, String.toList_append, String.toList_ofList]
    · rw [toList_fingerprintLine, String.toList_ofList]
  · obtain rfl | ⟨inner, c, rfl⟩ := List.eq_nil_or_concat' inner
    · refine ⟨"", ?_, ?_⟩
      · rw [← String.toList_inj, String.append_empty, front, List.append_nil]
      · rw [toList_fingerprintLine, String.toList_empty, List.nil_append, back, List.nil_append]
    · -- The line ends in a break, and what follows the other name would have one before its end.
      rw [toList_fingerprintLine, ← List.cons_append, ← List.append_assoc,
        ← List.append_assoc] at front
      obtain rfl : '\n' = c := (List.cons.inj (List.append_inj' front rfl).2).1
      exact absurd (List.mem_append_right inner List.mem_cons_self) (break_notMem more back)

/-- If one text begins with two lines, the lines tell the same or the one ends within the name of the
other. -/
theorem lines_meet {x y : String × Binary64} {text other : List Char}
    (same : (fingerprintLine x).toList ++ text = (fingerprintLine y).toList ++ other) :
    (told x = told y ∧ text = other) ∨
      (∃ name, y.1 = fingerprintLine x ++ name ∧
        text = (fingerprintLine (name, y.2)).toList ++ other) ∨
      ∃ name, x.1 = fingerprintLine y ++ name ∧
        other = (fingerprintLine (name, x.2)).toList ++ text := by
  rcases List.append_eq_append_iff.mp same with ⟨more, line, rfl⟩ | ⟨more, line, rfl⟩
  · by_cases all : more = []
    · subst all
      rw [List.append_nil, String.toList_inj] at line
      exact .inl ⟨(fingerprintLine_eq_iff.mp line).symm, rfl⟩
    · obtain ⟨name, hidden, rfl⟩ := name_of_line_begins all line
      exact .inr (.inl ⟨name, hidden, rfl⟩)
  · by_cases all : more = []
    · subst all
      rw [List.append_nil, String.toList_inj] at line
      exact .inl ⟨fingerprintLine_eq_iff.mp line, rfl⟩
    · obtain ⟨name, hidden, rfl⟩ := name_of_line_begins all line
      exact .inr (.inr ⟨name, hidden, rfl⟩)

/-! ## Texts -/

/-- The same lines in the same order, where a name may hide lines that belong to entries of the other
list. -/
inductive SameLines : List (String × Binary64) → List (String × Binary64) → Prop where
  | done : SameLines [] []
  | alike {x y : String × Binary64} {xs ys : List (String × Binary64)} (same : told x = told y)
      (rest : SameLines xs ys) : SameLines (x :: xs) (y :: ys)
  | hidden {x y : String × Binary64} {xs ys : List (String × Binary64)} {name : String}
      (begins : y.1 = fingerprintLine x ++ name) (rest : SameLines xs ((name, y.2) :: ys)) :
      SameLines (x :: xs) (y :: ys)
  | hides {x y : String × Binary64} {xs ys : List (String × Binary64)} {name : String}
      (begins : x.1 = fingerprintLine y ++ name) (rest : SameLines ((name, x.2) :: xs) ys) :
      SameLines (x :: xs) (y :: ys)

/-- One list of entries passes for another: behind entries that are told alike, the line of its next
entry begins the name of the other's, and what is left of both has the same lines. -/
inductive PassesFor : List (String × Binary64) → List (String × Binary64) → Prop where
  | hidden {x y : String × Binary64} {xs ys : List (String × Binary64)} {name : String}
      (begins : y.1 = fingerprintLine x ++ name) (rest : SameLines xs ((name, y.2) :: ys)) :
      PassesFor (x :: xs) (y :: ys)
  | behind {x y : String × Binary64} {xs ys : List (String × Binary64)} (same : told x = told y)
      (passes : PassesFor xs ys) : PassesFor (x :: xs) (y :: ys)

variable {xs ys : List (String × Binary64)}

theorem SameLines.symm (same : SameLines xs ys) : SameLines ys xs := by
  induction same with
  | done => exact .done
  | alike same _ ih => exact .alike same.symm ih
  | hidden begins _ ih => exact .hides begins ih
  | hides begins _ ih => exact .hidden begins ih

/-- A name that hides a line goes on with a line of its own. -/
theorem fingerprintLine_hiding {x y : String × Binary64} {name : String}
    (begins : y.1 = fingerprintLine x ++ name) :
    fingerprintLine y = fingerprintLine x ++ fingerprintLine (name, y.2) := by
  simp only [fingerprintLine, begins, String.append_assoc]

theorem SameLines.textOf_eq (same : SameLines xs ys) : textOf xs = textOf ys := by
  induction same with
  | done => rfl
  | alike same _ ih => rw [textOf_cons, textOf_cons, fingerprintLine_eq_iff.mpr same, ih]
  | hidden begins _ ih =>
      rw [textOf_cons, ih, textOf_cons, textOf_cons, fingerprintLine_hiding begins,
        String.append_assoc]
  | hides begins _ ih =>
      rw [textOf_cons, textOf_cons, ← ih, textOf_cons, fingerprintLine_hiding begins,
        String.append_assoc]

/-- Every line that is met takes an entry from one of the lists. -/
theorem sameLines_of_textOf_eq {xs ys : List (String × Binary64)} (same : textOf xs = textOf ys) :
    SameLines xs ys := by
  match xs, ys with
  | [], [] => exact .done
  | [], y :: ys => exact absurd same.symm (textOf_cons_ne_nil y ys)
  | x :: xs, [] => exact absurd same (textOf_cons_ne_nil x xs)
  | x :: xs, y :: ys =>
      rw [textOf_cons, textOf_cons, ← String.toList_inj, String.toList_append,
        String.toList_append] at same
      rcases lines_meet same with ⟨alike, rest⟩ | ⟨name, begins, rest⟩ | ⟨name, begins, rest⟩
      · exact .alike alike (sameLines_of_textOf_eq (String.toList_inj.mp rest))
      · refine .hidden begins (sameLines_of_textOf_eq ?_)
        rw [textOf_cons, ← String.toList_inj, String.toList_append, rest]
      · refine .hides begins (sameLines_of_textOf_eq ?_)
        rw [textOf_cons, ← String.toList_inj, String.toList_append, rest]
  termination_by xs.length + ys.length

theorem textOf_eq_iff : textOf xs = textOf ys ↔ SameLines xs ys :=
  ⟨sameLines_of_textOf_eq, SameLines.textOf_eq⟩

theorem sameLines_of_told (alike : xs.map told = ys.map told) : SameLines xs ys := by
  induction xs generalizing ys with
  | nil =>
      obtain rfl : ys = [] := List.map_eq_nil_iff.mp alike.symm
      exact .done
  | cons x xs ih =>
      obtain ⟨y, ys, rfl, same, rest⟩ := List.map_eq_cons_iff.mp alike.symm
      exact .alike same.symm (ih rest.symm)

theorem PassesFor.sameLines (passes : PassesFor xs ys) : SameLines xs ys := by
  induction passes with
  | hidden begins rest => exact .hidden begins rest
  | behind same _ ih => exact .alike same ih

theorem PassesFor.not_told (passes : PassesFor xs ys) : xs.map told ≠ ys.map told := by
  induction passes with
  | @hidden x y xs ys name begins rest =>
      intro alike
      have names : x.1 = y.1 := (Prod.mk.inj (List.cons.inj alike).1).1
      have length := congrArg (fun text => text.toList.length) (names.trans begins)
      simp [toList_fingerprintLine] at length
  | behind same passes ih => exact fun alike => ih (List.cons.inj alike).2

/-- Lists with the same lines are told alike up to where the name of one begins to hide lines of the
other. -/
theorem sameLines_iff :
    SameLines xs ys ↔ xs.map told = ys.map told ∨ PassesFor xs ys ∨ PassesFor ys xs := by
  constructor
  · intro same
    induction same with
    | done => exact .inl rfl
    | alike same rest ih =>
        rcases ih with all | passes | passes
        · exact .inl (by rw [List.map_cons, List.map_cons, same, all])
        · exact .inr (.inl (.behind same passes))
        · exact .inr (.inr (.behind same.symm passes))
    | hidden begins rest ih => exact .inr (.inl (.hidden begins rest))
    | hides begins rest ih => exact .inr (.inr (.hidden begins rest.symm))
  · rintro (alike | passes | passes)
    · exact sameLines_of_told alike
    · exact passes.sameLines
    · exact passes.sameLines.symm

/-- Several entries pass for a single one, whose name hides all lines but the last. -/
theorem passesFor_single (several : 2 ≤ xs.length) : ∃ entry, PassesFor xs [entry] := by
  obtain ⟨x, more, rfl⟩ : ∃ x more, xs = x :: more :=
    List.exists_cons_of_ne_nil fun none => by simp [none] at several
  obtain rfl | ⟨front, last, rfl⟩ := List.eq_nil_or_concat' more
  · simp at several
  · refine ⟨(fingerprintLine x ++ (textOf front ++ last.1), last.2), .hidden rfl ?_⟩
    rw [← textOf_eq_iff]
    simp [textOf, fingerprintLine, String.append_assoc]

/-! ## Indexes -/

/-- The entries of an index as their lines tell them. -/
def rounded (index : CollectionIndex) : NameMap String :=
  ⟨KeyBundle.mapEntries Binary64.twoPlaces index.entries.entries,
    KeyBundle.ascending_mapEntries _ index.entries.ascending⟩

/-- Two indexes have the same names, each with the same time to two places. -/
def Agrees (index other : CollectionIndex) : Prop :=
  ∀ name, (index.modified? name).map Binary64.twoPlaces =
    (other.modified? name).map Binary64.twoPlaces

/-- The index passes for another one. -/
def Mimics (index other : CollectionIndex) : Prop :=
  PassesFor index.entries.entries other.entries.entries

/-- A name that holds what ends a line: a colon, a time to two places and a line break. -/
def HoldsLine (name : String) : Prop :=
  ∃ front time rest, name = front ++ ":" ++ Binary64.twoPlaces time ++ "\n" ++ rest

variable {index other : CollectionIndex}

theorem agrees_iff : index.Agrees other ↔
    index.entries.entries.map told = other.entries.entries.map told := by
  have found (index : CollectionIndex) (name : String) :
      index.rounded.get? name = (index.modified? name).map Binary64.twoPlaces :=
    NameMap.lookup_mapEntries Binary64.twoPlaces index.entries.entries name
  have same : index.rounded = other.rounded ↔ index.Agrees other := by
    simp only [NameMap.eq_iff_get?, found, Agrees]
  rw [← same]
  exact ⟨congrArg NameMap.entries, fun alike => NameMap.ext alike⟩

theorem PassesFor.holdsLine (passes : PassesFor xs ys) : ∃ y ∈ ys, HoldsLine y.1 := by
  induction passes with
  | @hidden x y xs ys name begins rest => exact ⟨y, List.mem_cons_self, x.1, x.2, name, begins⟩
  | behind same passes ih =>
      obtain ⟨y, member, holds⟩ := ih
      exact ⟨y, List.mem_cons_of_mem _ member, holds⟩

/-- The bytes of two indexes are the same if the indexes agree, and otherwise only if one of them passes
for the other; then the other has a name that holds what ends a line. Every index with several entries
passes for one with a single entry. -/
theorem fingerprintText_eq_iff (index other : CollectionIndex) :
    (Utf8.encode index.fingerprintText = Utf8.encode other.fingerprintText ↔
        index.Agrees other ∨ index.Mimics other ∨ other.Mimics index) ∧
      (index.Mimics other → ¬index.Agrees other ∧ ∃ name ∈ other.names, HoldsLine name) ∧
      (2 ≤ index.size → ∃ single : CollectionIndex, single.size = 1 ∧ index.Mimics single) := by
  refine ⟨?_, fun passes => ⟨?_, ?_⟩, fun several => ?_⟩
  · rw [Utf8.encode_inj, agrees_iff]
    exact textOf_eq_iff.trans sameLines_iff
  · rw [agrees_iff]
    exact passes.not_told
  · obtain ⟨entry, member, holds⟩ := passes.holdsLine
    exact ⟨entry.1, List.mem_map_of_mem member, holds⟩
  · obtain ⟨entry, passes⟩ := passesFor_single several
    exact ⟨.ofList [entry], rfl, passes⟩

/-- Two collections, and one whose name hides the line of the first of them. -/
def twoLines : CollectionIndex := .ofList [("a", .ofNat 1), ("b", .ofNat 2)]

def hiddenLine : CollectionIndex := .ofList [("a:1.00\nb", .ofNat 2)]

theorem hidden_line_unnoticed :
    Utf8.encode twoLines.fingerprintText = Utf8.encode hiddenLine.fingerprintText ∧
      twoLines.fingerprint = hiddenLine.fingerprint ∧ ¬twoLines.Agrees hiddenLine := by
  have same : twoLines.fingerprintText = hiddenLine.fingerprintText := by decide +kernel
  refine ⟨congrArg Utf8.encode same, ?_, fun agrees => ?_⟩
  · rw [fingerprint, fingerprint, same]
  · exact absurd (agrees "a") (by decide +kernel)

end CollectionIndex

end SealedSync
