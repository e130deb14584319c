import SealedSync.Proofs.Cutting
import SealedSync.Proofs.FilePlaces
import SealedSync.StateFile

/-!
# The temporary file of a path

A path ends in a name, with nothing behind it but separators and single dots, or it ends in no name
and then nothing can be written there. The temporary path leads through the same directories to a name
of its own, which is the name of the path itself if that has the extension of temporary files already.
-/
namespace SealedSync

open Simulation

namespace Split

variable {isSeparator : Char → Bool}

theorem words_cut (front : List Char) {c : Char} (separates : isSeparator c = true)
    (rest : List Char) :
    words isSeparator (front ++ c :: rest) = words isSeparator front ++ words isSeparator rest := by
  rw [words, pieces_cut front separates, List.filter_append]
  rfl

theorem words_free {text : List Char} (free : ∀ c ∈ text, isSeparator c = false)
    (nonempty : text ≠ []) : words isSeparator text = [text] := by
  rw [words, pieces_free free, List.filter_cons_of_pos (by simpa using nonempty)]
  rfl

end Split

namespace StateFile

/-- The names that a text leads through. -/
def namesOf (text : List Char) : List String :=
  (Split.words (· == '/') text).map String.ofList

theorem namesOf_cut (front rest : List Char) :
    namesOf (front ++ '/' :: rest) = namesOf front ++ namesOf rest := by
  rw [namesOf, Split.words_cut front rfl, List.map_append]
  rfl

theorem head?_dropSeparators (reversed : List Char) :
    (dropSeparators reversed).head? ≠ some '/' := by
  fun_induction dropSeparators reversed with
  | case1 rest ih => exact ih
  | case2 rest ih => exact ih
  | case3 path separated dotted =>
      intro head
      obtain ⟨rest, rfl⟩ := List.head?_eq_some_iff.mp head
      exact separated rest rfl

/-- Separators and single dots behind a path lead nowhere else. -/
theorem namesOf_dropSeparators (reversed : List Char) :
    ∃ rest, (∀ n ∈ rest, n = ".") ∧
      namesOf reversed.reverse = namesOf (dropSeparators reversed).reverse ++ rest := by
  fun_induction dropSeparators reversed with
  | case1 rest ih =>
      obtain ⟨tail, dots, names⟩ := ih
      refine ⟨tail, dots, ?_⟩
      rw [List.reverse_cons, namesOf_cut, names]
      exact List.append_nil _
  | case2 rest ih =>
      obtain ⟨tail, dots, names⟩ := ih
      refine ⟨tail ++ ["."], fun n member => ?_, ?_⟩
      · rcases List.mem_append.mp member with member | member
        · exact dots n member
        · exact List.mem_singleton.mp member
      · have behind : namesOf rest.reverse = namesOf ('/' :: rest).reverse := by
          rw [List.reverse_cons, namesOf_cut]
          exact (List.append_nil _).symm
        rw [List.reverse_cons, List.reverse_cons, List.append_assoc, List.singleton_append,
          namesOf_cut, behind, names, List.append_assoc]
        rfl
  | case3 path separated dotted => exact ⟨[], by simp, (List.append_nil _).symm⟩

theorem mem_of_mem_stem {name : List Char} {c : Char} (member : c ∈ stem name) : c ∈ name := by
  unfold stem at member
  split at member
  · exact member
  · exact member
  · rename_i dot before _ cut
    have behind : c ∈ name.dropWhile (· != '.') := cut ▸ List.mem_cons_of_mem dot member
    exact (List.dropWhile_sublist _).subset behind

/-- A path without separators and single dots at its end. -/
def trimmed (path : String) : String :=
  String.ofList (dropSeparators path.toList.reverse).reverse

/-- A path leads through directories to a name, and then nowhere else. -/
structure EndsIn (path : String) (front : List String) (name : String) (rest : List String) :
    Prop where
  names : Files.names path = front ++ name :: rest
  dots : ∀ n ∈ rest, n = "."
  proper : name ∉ [".", ".."]

/-- A name behind a directory is the last one. -/
theorem namesOf_directory (reversed : List Char) {piece : List Char} (free : '/' ∉ piece)
    (nonempty : piece ≠ []) :
    namesOf ((reversed.dropWhile (· != '/')).reverse ++ piece) =
      namesOf (reversed.dropWhile (· != '/')).reverse ++ [String.ofList piece] := by
  have single : namesOf piece = [String.ofList piece] := by
    have unseparated : ∀ c ∈ piece, (c == '/') = false := fun c member =>
      beq_false_of_ne fun same => free (same ▸ member)
    rw [namesOf, Split.words_free unseparated nonempty]
    rfl
  have head := List.head?_dropWhile_not (· != '/') reversed
  cases cut : reversed.dropWhile (· != '/') with
  | nil => exact single
  | cons c rest =>
      rw [cut] at head
      obtain rfl : c = '/' := by simpa using head
      rw [List.reverse_cons, List.append_assoc, List.singleton_append, namesOf_cut, namesOf_cut,
        single, List.append_assoc]
      rfl

/-- The last name of a path and the directories in front of it, both reversed. -/
def lastName (path : String) : List Char :=
  (dropSeparators path.toList.reverse).takeWhile (· != '/')

def directory (path : String) : List Char :=
  (dropSeparators path.toList.reverse).dropWhile (· != '/')

theorem slash_notMem_lastName (path : String) : '/' ∉ lastName path := fun member =>
  absurd (List.all_eq_true.mp List.all_takeWhile '/' member) (by decide)

theorem dropSeparators_eq (path : String) :
    (dropSeparators path.toList.reverse).reverse =
      (directory path).reverse ++ (lastName path).reverse := by
  rw [directory, lastName, ← List.reverse_append, List.takeWhile_append_dropWhile]

theorem names_eq (path : String) : ∃ rest, (∀ n ∈ rest, n = ".") ∧
    Files.names path = namesOf ((directory path).reverse ++ (lastName path).reverse) ++ rest := by
  obtain ⟨rest, dots, names⟩ := namesOf_dropSeparators path.toList.reverse
  rw [List.reverse_reverse, dropSeparators_eq] at names
  exact ⟨rest, dots, names⟩

/-- Nothing is left of a path whose last name is empty. -/
theorem directory_eq_nil (empty : lastName path = []) : directory path = [] := by
  have head := head?_dropSeparators path.toList.reverse
  cases cut : dropSeparators path.toList.reverse with
  | nil => rw [directory, cut]; rfl
  | cons c below =>
      rw [cut] at head
      have slash : c = '/' := by
        rw [lastName, cut] at empty
        simpa [List.takeWhile_cons] using empty
      exact absurd (congrArg some slash) head

/-- A path of no proper name ends in dots, if in anything. -/
theorem last_of_nameless
    (nameless : lastName path = [] ∨ lastName path = ['.'] ∨ lastName path = ['.', '.']) :
    ∀ last, (Files.names path).getLast? = some last → last ∈ [".", ".."] := by
  intro last found
  obtain ⟨rest, dots, names⟩ := names_eq path
  have dotted : ∀ n ∈ rest, n ∈ [".", ".."] := fun n member =>
    dots n member ▸ List.mem_cons_self
  have ending {front : List String} {dot : String} (proper : dot ∈ [".", ".."])
      (names : Files.names path = front ++ [dot] ++ rest) : last ∈ [".", ".."] := by
    have behind : (dot :: rest).getLast? = some last := by
      rw [names, List.append_assoc, List.getLast?_append] at found
      simpa [List.getLast?_cons] using found
    rcases List.mem_cons.mp (List.mem_of_getLast? behind) with rfl | member
    · exact proper
    · exact dotted last member
  rcases nameless with empty | single | double
  · rw [names, empty, directory_eq_nil empty] at found
    exact dotted last (List.mem_of_getLast? found)
  · rw [single, directory, namesOf_directory _ (by decide) (by decide)] at names
    exact ending (by decide) names
  · rw [double, directory, namesOf_directory _ (by decide) (by decide)] at names
    exact ending (by decide) names

/-- A path of a proper name ends in it. -/
theorem endsIn_lastName
    (named : ¬(lastName path = [] ∨ lastName path = ['.'] ∨ lastName path = ['.', '.'])) :
    ∃ rest, EndsIn path (namesOf (directory path).reverse) (String.ofList (lastName path).reverse)
      rest := by
  obtain ⟨rest, dots, names⟩ := names_eq path
  have free : '/' ∉ (lastName path).reverse := by simpa using slash_notMem_lastName path
  have nonempty : (lastName path).reverse ≠ [] := by simpa using (not_or.mp named).1
  refine ⟨rest, ?_, dots, fun member => named (.inr ?_)⟩
  · rw [names, directory, namesOf_directory _ free nonempty, List.append_assoc]
    rfl
  · have reversed : (lastName path).reverse = ['.'] ∨ (lastName path).reverse = ['.', '.'] := by
      simpa [← String.toList_inj] using member
    rcases reversed with single | double
    · exact .inl (by simpa using congrArg List.reverse single)
    · exact .inr (by simpa using congrArg List.reverse double)

/-- A name with the extension of temporary files behind the directories of a path. -/
theorem endsIn_extended (path : String) :
    EndsIn (String.ofList ((directory path).reverse ++ (stem (lastName path)).reverse ++
        ['.', 't', 'm', 'p'])) (namesOf (directory path).reverse)
      (String.ofList ((stem (lastName path)).reverse ++ ['.', 't', 'm', 'p'])) [] := by
  have free : '/' ∉ (stem (lastName path)).reverse ++ ['.', 't', 'm', 'p'] := by
    simp only [List.mem_append, List.mem_reverse, not_or]
    exact ⟨fun member => slash_notMem_lastName path (mem_of_mem_stem member), by decide⟩
  refine ⟨?_, by simp, fun member => ?_⟩
  · rw [Files.names, String.toList_ofList, List.append_assoc]
    exact namesOf_directory _ free (by simp)
  · have lengths : (stem (lastName path)).length + 4 = 1 ∨ (stem (lastName path)).length + 4 = 2 := by
      have short : (stem (lastName path)).reverse ++ ['.', 't', 'm', 'p'] = ['.'] ∨
          (stem (lastName path)).reverse ++ ['.', 't', 'm', 'p'] = ['.', '.'] := by
        simpa [← String.toList_inj] using member
      exact short.imp (fun same => by simpa using congrArg List.length same)
        fun same => by simpa using congrArg List.length same
    omega

/-- The temporary path ends in no name, or it leads to a name in the directory of the path. -/
theorem temporaryPath_cases (path : String) :
    (∀ last, (Files.names (temporaryPath path)).getLast? = some last → last ∈ [".", ".."]) ∨
      ∃ front name rest other, EndsIn path front name rest ∧
        EndsIn (temporaryPath path) front other [] ∧
        (temporaryPath path = trimmed path ↔ other = name) := by
  by_cases nameless : lastName path = [] ∨ lastName path = ['.'] ∨ lastName path = ['.', '.']
  · left
    have kept : temporaryPath path = path := if_pos nameless
    rw [kept]
    exact last_of_nameless nameless
  · by_cases dotted : (lastName path).dropWhile (· != '.') = ['.', '.'] ∧
        dropSeparators path.toList.reverse = path.toList.reverse
    · left
      have above : temporaryPath path = String.ofList ((directory path).reverse ++ ['.', '.']) :=
        (if_neg nameless).trans (if_pos dotted)
      intro last found
      rw [above, Files.names, String.toList_ofList] at found
      change (namesOf ((directory path).reverse ++ ['.', '.'])).getLast? = some last at found
      rw [directory, namesOf_directory _ (by decide) (by decide), List.getLast?_concat] at found
      cases found
      decide
    · right
      have beside : temporaryPath path = String.ofList ((directory path).reverse ++
          (stem (lastName path)).reverse ++ ['.', 't', 'm', 'p']) := by
        rw [← List.reverse_append]
        exact (if_neg nameless).trans (if_neg dotted)
      obtain ⟨rest, ends⟩ := endsIn_lastName nameless
      refine ⟨_, _, rest, _, ends, beside ▸ endsIn_extended path, ?_⟩
      rw [beside, trimmed, dropSeparators_eq, ← String.toList_inj, ← String.toList_inj]
      simp only [String.toList_ofList, List.append_assoc, List.append_cancel_left_eq]

end StateFile

end SealedSync
