import SealedSync.Number.Shortest
import SealedSync.Number.Decimal

/-!
# JSON numerals

A numeral keeps its digits as written. It is read as an integer when it has neither point nor
exponent and fits sixty-four bits, and as a binary number otherwise. The binary number comes from
the leading digits that fit an unsigned word and one product or quotient with a power of ten, so it
is close to the numeral but not always the nearest number.
-/
namespace SealedSync.Json

/-- The parts of a numeral: an empty fraction means no point, an empty exponent means no mark. -/
structure Numeral where
  negative : Bool
  whole : List Char
  fraction : List Char
  exponent : List Char
  deriving DecidableEq, Repr

/-- What a numeral says. -/
inductive Number where
  | integer (i : Int)
  | floating (x : Binary64)
  deriving DecidableEq, Repr

namespace Numeral

def wordLimit : Nat := Nat.pow 2 64

def exponentLimit : Nat := Nat.pow 2 31

/-- Extends a significand by digits while it fits a word, and counts the digits left over. -/
def takeDigits : Nat → List Char → Nat × Nat
  | significand, [] => (significand, 0)
  | significand, c :: rest =>
      let next := 10 * significand + Digits.value c
      if next < wordLimit then takeDigits next rest else (significand, rest.length + 1)

/-- The sign and the digits of an exponent. -/
def exponentParts (n : Numeral) : Bool × List Char :=
  match n.exponent with
  | '-' :: digits => (true, digits)
  | '+' :: digits => (false, digits)
  | digits => (false, digits)

def powerOfTen (e : Nat) : Binary64 := Binary64.ofNat (Nat.pow 10 e)

/-- Scales a number by a power of ten with one rounding, or with more where the power is below the
least one that has a value of its own. The fuel is one more than the steps the exponent allows. -/
def scaleBy : Nat → Binary64 → Int → Option Binary64
  | 0, _, _ => none
  | fuel + 1, x, e =>
      if e.natAbs ≤ 308 then
        if 0 ≤ e then
          let y := x.mul (powerOfTen e.natAbs)
          if y.isInfinite then none else some y
        else some (x.div (powerOfTen e.natAbs))
      else if x.isZero then some x
      else if 0 ≤ e then none
      else scaleBy fuel (x.div (powerOfTen 308)) (e + 308)

/-- The binary number of a significand and a power of ten, if it is in range. -/
def assemble (negative : Bool) (significand : Nat) (e : Int) : Option Binary64 :=
  (scaleBy (e.natAbs / 308 + 1) (Binary64.ofNat significand) e).map fun x =>
    if negative then x.neg else x

/-- Keeps an exponent within thirty-two bits. -/
def saturate (e : Int) : Int := max (-(exponentLimit : Int)) (min e ((exponentLimit : Int) - 1))

def floating (n : Numeral) : Option Binary64 :=
  let (head, dropped) := takeDigits 0 n.whole
  let (significand, left) := takeDigits head n.fraction
  let exponent : Int := (dropped : Int) - ((n.fraction.length - left : Nat) : Int)
  let (down, digits) := n.exponentParts
  let power := Digits.toNat digits
  if exponentLimit ≤ power then
    if significand ≠ 0 ∧ !down then none
    else some (Binary64.ofMagnitudeBits n.negative 0)
  else
    let shift : Int := if down then -(power : Int) else (power : Int)
    assemble n.negative significand (saturate (exponent + shift))

/-- What a numeral says, unless its size is beyond every binary number. -/
def value (n : Numeral) : Option Number :=
  if n.fraction.isEmpty && n.exponent.isEmpty then
    let magnitude := Digits.toNat n.whole
    if !n.negative && magnitude < wordLimit then some (.integer magnitude)
    else if n.negative && 0 < magnitude && magnitude ≤ Nat.pow 2 63 then
      some (.integer (-(magnitude : Int)))
    else n.floating.map .floating
  else n.floating.map .floating

/-- The characters of a numeral. -/
def text (n : Numeral) : List Char :=
  (if n.negative then ['-'] else []) ++ n.whole ++
    (if n.fraction.isEmpty then [] else '.' :: n.fraction) ++
    (if n.exponent.isEmpty then [] else 'e' :: n.exponent)

def ofNat (n : Nat) : Numeral := ⟨false, Nat.toDigits 10 n, [], []⟩

/-- The fewest digits that round to a finite number, with a point between `1e-5` and `1e16` and with
a signed exponent outside. -/
def ofFinite (x : Binary64) : Numeral :=
  if x.isZero then ⟨x.isNegative, ['0'], ['0'], []⟩
  else
    let d := Shortest.ofBinary64 x
    let digits := Nat.toDigits 10 d.coefficient
    let point : Int := digits.length + d.exponent
    if 0 < point ∧ point ≤ 16 then
      let whole := digits.take point.toNat
      let fraction := digits.drop point.toNat
      ⟨x.isNegative, whole ++ List.replicate (point.toNat - whole.length) '0',
        if fraction.isEmpty then ['0'] else fraction, []⟩
    else if -5 < point ∧ point ≤ 0 then
      ⟨x.isNegative, ['0'], List.replicate (-point).toNat '0' ++ digits, []⟩
    else
      let power := point - 1
      ⟨x.isNegative, digits.take 1, digits.drop 1,
        (if power < 0 then '-' else '+') :: Nat.toDigits 10 power.natAbs⟩

end Numeral

end SealedSync.Json
