import SealedSync.Text.Split

/-!
# Punycode

A label with letters beyond ASCII has a form in ASCII: its ASCII letters, then one number for each
other letter. The letters are inserted in the order of their code points, and the number tells how
many pairs of a code point and a place are passed over since the last insertion. Numbers are written
in base thirty-six, lowest digit first; the threshold that marks a last digit adapts to the numbers
before. A form that is read has to hold a code point behind each of its numbers.
-/
namespace SealedSync.Punycode

def digit (n : Nat) : Char := if n < 26 then Char.ofNat (97 + n) else Char.ofNat (22 + n)

/-- The digit at a place is the last one if it is below this. -/
def threshold (bias place : Nat) : Nat := max 1 (min 26 (36 * place - bias))

theorem threshold_pos (bias place : Nat) : 0 < threshold bias place :=
  Nat.le_max_left 1 _

/-- The digits of a number from a place on. -/
def digits (bias place n : Nat) : List Char :=
  let t := threshold bias place
  if n < t then [digit n]
  else digit (t + (n - t) % (36 - t)) :: digits bias (place + 1) ((n - t) / (36 - t))
termination_by n
decreasing_by
  have pos := threshold_pos bias place
  exact Nat.lt_of_le_of_lt (Nat.div_le_self _ _) (by omega)

/-- The bias that fits numbers about as large as the given one. -/
def settle (bias n : Nat) : Nat :=
  if 455 < n then settle (bias + 36) (n / 35) else bias + 36 * n / (n + 38)
termination_by n
decreasing_by exact Nat.div_lt_self (by omega) (by decide)

/-- The bias after a number, with which the given count of letters is reached. -/
def adapt (first : Bool) (n count : Nat) : Nat :=
  let n := if first then n / 700 else n / 2
  settle 0 (n + n / count)

def isAscii (c : Char) : Bool := c.toNat < 128

/-- The letters beyond ASCII in the order of insertion, each as its code point and the number of
letters that are in front of it by then. -/
def insertions (label : List Char) : List (Nat × Nat) :=
  let later := label.zipIdx.filter fun c => !isAscii c.1
  (later.mergeSort fun c d => c.1.toNat ≤ d.1.toNat).map fun c =>
    (c.1.toNat, (label.take c.2).countP fun d => d.toNat ≤ c.1.toNat)

/-- The numbers of insertions; `code` and `place` are where the search goes on, in a label of
`count` letters. -/
def encodeInsertions (bias code place count : Nat) (first : Bool) : List (Nat × Nat) → List Char
  | [] => []
  | (c, p) :: rest =>
      let n := (c - code) * (count + 1) + p - place
      digits bias 1 n ++
        encodeInsertions (adapt first n (count + 1)) c (p + 1) (count + 1) false rest

def encode (label : List Char) : List Char :=
  let ascii := label.filter isAscii
  ascii ++ (if ascii.isEmpty then [] else ['-']) ++
    encodeInsertions 72 128 0 ascii.length true (insertions label)

def digitValue? (c : Char) : Option Nat :=
  if 'a' ≤ c ∧ c ≤ 'z' then some (c.toNat - 97)
  else if 'A' ≤ c ∧ c ≤ 'Z' then some (c.toNat - 65)
  else if '0' ≤ c ∧ c ≤ '9' then some (c.toNat - 22)
  else none

/-- Reads the digits of a number from a place on, each counting `weight`, and adds them to what is
known of it. Numbers and weights have thirty-two bits. -/
def readDigits (bias place weight known : Nat) :
    (text : List Char) → Option (Nat × { rest : List Char // rest.length < text.length })
  | [] => none
  | c :: rest =>
      match digitValue? c with
      | none => none
      | some d =>
          let t := threshold bias place
          let known := known + d * weight
          if Nat.pow 2 32 ≤ known then none
          else if d < t then some (known, ⟨rest, Nat.lt_succ_self _⟩)
          else if Nat.pow 2 32 ≤ weight * (36 - t) then none
          else
            match readDigits bias (place + 1) (weight * (36 - t)) known rest with
            | none => none
            | some (n, ⟨rest, shorter⟩) => some (n, ⟨rest, Nat.lt_succ_of_lt shorter⟩)

/-- Inserts the letters that numbers stand for; `code` and `place` are where the search goes on. -/
def insertLetters (bias code place : Nat) (label : List Char) : List Char → Option (List Char)
  | [] => some label
  | c :: rest =>
      match readDigits bias 1 1 place (c :: rest) with
      | none => none
      | some (n, rest) =>
          let count := label.length + 1
          let code := code + n / count
          if code.isValidChar then
            insertLetters (adapt (place = 0) (n - place) count) code (n % count + 1)
              (label.insertIdx (n % count) (Char.ofNat code)) rest.val
          else none
termination_by text => text.length
decreasing_by exact rest.property

/-- The label of a form: its ASCII letters are those before the last hyphen. -/
def decode? (text : List Char) : Option (List Char) :=
  let (last, front) := Split.before (· == '-') text.reverse
  let ascii := (front.drop 1).reverse
  if !ascii.all isAscii then none
  else if ascii.isEmpty then insertLetters 72 128 0 [] text
  else insertLetters 72 128 0 ascii last.reverse

end SealedSync.Punycode
