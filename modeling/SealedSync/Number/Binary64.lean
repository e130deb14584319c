/-!
# Binary floating-point numbers

A number is its sixty-four bits: a sign, eleven bits of exponent and fifty-two of fraction. Its
value is `m * 2 ^ q` with a whole `m`, and every operation is exact arithmetic on such values
followed by one rounding to the nearest number, where a tie goes to the even significand.
-/
namespace SealedSync

structure Binary64 where
  bits : UInt64
  deriving DecidableEq, Repr, Inhabited

namespace Binary64

def zero : Binary64 := ⟨0⟩

def exponentField (x : Binary64) : Nat := x.bits.toNat / Nat.pow 2 52 % Nat.pow 2 11

def fractionField (x : Binary64) : Nat := x.bits.toNat % Nat.pow 2 52

def isNegative (x : Binary64) : Bool := Nat.pow 2 63 ≤ x.bits.toNat

def isFinite (x : Binary64) : Bool := x.exponentField != 2047

def isNaN (x : Binary64) : Bool := x.exponentField == 2047 && x.fractionField != 0

def isInfinite (x : Binary64) : Bool := x.exponentField == 2047 && x.fractionField == 0

def isZero (x : Binary64) : Bool := x.exponentField == 0 && x.fractionField == 0

/-- The whole factor of a finite number. -/
def significand (x : Binary64) : Nat :=
  if x.exponentField = 0 then x.fractionField else Nat.pow 2 52 + x.fractionField

/-- The power of two of a finite number. -/
def scale (x : Binary64) : Int :=
  if x.exponentField = 0 then -1074 else (x.exponentField : Int) - 1075

/-- The magnitude of a finite number as a fraction. -/
def numerator (x : Binary64) : Nat := x.significand * Nat.pow 2 x.scale.toNat

def denominator (x : Binary64) : Nat := Nat.pow 2 (-x.scale).toNat

/-- Equality of values: the two zeros are equal, and a number that is none equals nothing. -/
def valueEq (x y : Binary64) : Bool :=
  !x.isNaN && !y.isNaN && (x == y || (x.isZero && y.isZero))

def ofMagnitudeBits (negative : Bool) (magnitude : Nat) : Binary64 :=
  ⟨UInt64.ofNat ((if negative then Nat.pow 2 63 else 0) + magnitude)⟩

def infinity (negative : Bool) : Binary64 := ofMagnitudeBits negative (2047 * Nat.pow 2 52)

def nan : Binary64 := ⟨0x7ff8000000000000⟩

/-- The nearest whole number to a fraction, a tie going to the even one. -/
def roundDiv (num den : Nat) : Nat :=
  let q := num / den
  let r := num % den
  if den < 2 * r ∨ (den = 2 * r ∧ q % 2 = 1) then q + 1 else q

/-- The power of two at which the significand of a fraction has fifty-three bits, or the least
one. -/
def scaleFor (num den : Nat) : Int :=
  let e : Int := (num.log2 : Int) - (den.log2 : Int) - 52
  let e := if num * Nat.pow 2 (-e).toNat < Nat.pow 2 52 * den * Nat.pow 2 e.toNat then e - 1 else e
  max e (-1074)

/-- The number nearest to a fraction. -/
def ofRatio (negative : Bool) (num den : Nat) : Binary64 :=
  if num = 0 then ofMagnitudeBits negative 0
  else
    let e := scaleFor num den
    let m := roundDiv (num * Nat.pow 2 (-e).toNat) (den * Nat.pow 2 e.toNat)
    let magnitude := (e + 1074).toNat * Nat.pow 2 52 + m
    if 2047 * Nat.pow 2 52 ≤ magnitude then infinity negative else ofMagnitudeBits negative magnitude

def ofNat (n : Nat) : Binary64 := ofRatio false n 1

def ofInt (i : Int) : Binary64 := ofRatio (i < 0) i.natAbs 1

def neg (x : Binary64) : Binary64 := ⟨x.bits ^^^ 0x8000000000000000⟩

/-- The product of two finite numbers. -/
def mul (x y : Binary64) : Binary64 :=
  ofRatio (x.isNegative != y.isNegative) (x.numerator * y.numerator)
    (x.denominator * y.denominator)

/-- The quotient of a finite number by another that is not zero. -/
def div (x y : Binary64) : Binary64 :=
  ofRatio (x.isNegative != y.isNegative) (x.numerator * y.denominator)
    (x.denominator * y.numerator)

/-- The number nearest to `digits * 10 ^ exponent`. Beyond the range of the format the size of the
exponent alone decides. -/
def ofDecimal (negative : Bool) (digits : Nat) (exponent : Int) : Binary64 :=
  if digits = 0 then ofMagnitudeBits negative 0
  else if exponent > 400 then infinity negative
  else if exponent + (digits.log2 : Int) < -1200 then ofMagnitudeBits negative 0
  else ofRatio negative (digits * Nat.pow 10 exponent.toNat) (Nat.pow 10 (-exponent).toNat)

end Binary64

end SealedSync
