import SealedSync.Number.Binary64
import SealedSync.Text.Blank

/-!
# Decimal text of a binary number

Fixed notation has two places, rounded from the exact value with a tie going to the even digit.
Reading takes a sign, digits with an optional point, an optional exponent, and the names of the
values that have no digits; the number nearest to the text is the answer.
-/
namespace SealedSync

def Digits.isDigit (c : Char) : Bool := '0' ≤ c && c ≤ '9'

def Digits.value (c : Char) : Nat := c.toNat - 48

/-- The number that a run of decimal digits stands for. -/
def Digits.toNat (digits : List Char) : Nat := digits.foldl (fun n c => 10 * n + Digits.value c) 0

/-- A number in decimal with at least `width` digits. -/
def Digits.padded (width n : Nat) : String :=
  let digits := Nat.toDigits 10 n
  String.ofList (List.replicate (width - digits.length) '0' ++ digits)

namespace Binary64

/-- The text with two places. -/
def twoPlaces (x : Binary64) : String :=
  if x.isNaN then "NaN"
  else
    let sign := if x.isNegative then "-" else ""
    if x.isInfinite then sign ++ "inf"
    else
      let hundredths := roundDiv (x.numerator * 100) x.denominator
      sign ++ toString (hundredths / 100) ++ "." ++ Digits.padded 2 (hundredths % 100)

/-- Why a text is not a number. -/
inductive ReadFault where
  | empty
  | invalid
  deriving DecidableEq, Repr

def ReadFault.message : ReadFault → String
  | .empty => "cannot parse float from empty string"
  | .invalid => "invalid float literal"

/-- The exponent after its mark: a sign and at least one digit, and nothing else. -/
def readExponent (text : List Char) : Option Int :=
  let (negative, digits) := match text with
    | '-' :: rest => (true, rest)
    | '+' :: rest => (false, rest)
    | rest => (false, rest)
  if digits.isEmpty || !digits.all Digits.isDigit then none
  else if negative then some (-(Digits.toNat digits : Int)) else some (Digits.toNat digits : Int)

/-- Digits with an optional point, then an optional exponent. -/
def readDigits (negative : Bool) (text : List Char) : Option Binary64 :=
  let whole := text.takeWhile Digits.isDigit
  let rest := text.dropWhile Digits.isDigit
  let (fraction, rest) := match rest with
    | '.' :: rest => (rest.takeWhile Digits.isDigit, rest.dropWhile Digits.isDigit)
    | rest => ([], rest)
  if whole.isEmpty && fraction.isEmpty then none
  else
    let number := fun (exponent : Int) =>
      ofDecimal negative (Digits.toNat (whole ++ fraction)) (exponent - fraction.length)
    match rest with
    | [] => some (number 0)
    | mark :: rest => if mark = 'e' ∨ mark = 'E' then (readExponent rest).map number else none

def readUnsigned (negative : Bool) (text : List Char) : Option Binary64 :=
  let name := text.map Char.toLower
  if name = ['i', 'n', 'f'] ∨ name = ['i', 'n', 'f', 'i', 'n', 'i', 't', 'y'] then
    some (infinity negative)
  else if name = ['n', 'a', 'n'] then some nan
  else readDigits negative text

/-- The number nearest to a decimal text. -/
def read (text : List Char) : Except ReadFault Binary64 :=
  let number := match text with
    | '-' :: rest => readUnsigned true rest
    | '+' :: rest => readUnsigned false rest
    | rest => readUnsigned false rest
  match text, number with
  | [], _ => .error .empty
  | _, some x => .ok x
  | _, none => .error .invalid

end Binary64

end SealedSync
