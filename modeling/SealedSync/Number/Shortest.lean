import SealedSync.Number.Binary64

/-!
# Shortest decimal digits

Of the decimals that round to a number, those with the fewest digits are kept, and of these the one
nearest to the number. On the grid of a power of ten a decimal lies among those that round to the
number only if one of the two grid points beside the number does, so only these are tried.
-/
namespace SealedSync.Shortest

/-- The whole number `coefficient * 10 ^ exponent`, or such a fraction. -/
structure Decimal where
  coefficient : Nat
  exponent : Int
  deriving DecidableEq, Repr

/-- The greatest `e` with `10 ^ e` at most the fraction. -/
def magnitude (num den : Nat) : Int :=
  if den ≤ num then ((Nat.toDigits 10 (num / den)).length : Int) - 1
  else -((Nat.toDigits 10 ((den - 1) / num)).length : Int)

/-- The interval of the reals that round to a number, in quarters of its last place. -/
structure Interval where
  low : Nat
  middle : Nat
  high : Nat
  scale : Int
  inclusive : Bool

def interval (x : Binary64) : Interval :=
  let m := x.significand
  { low := if m = Nat.pow 2 52 ∧ x.scale ≠ -1074 then 4 * m - 1 else 4 * m - 2
    middle := 4 * m
    high := 4 * m + 2
    scale := x.scale - 2
    inclusive := m % 2 = 0 }

/-- Places a decimal in the interval, if it lies there, by its distance from the middle. -/
def distance? (i : Interval) (d : Decimal) : Option Nat :=
  let unit := Nat.pow 2 i.scale.toNat * Nat.pow 10 (-d.exponent).toNat
  let point := d.coefficient * Nat.pow 10 d.exponent.toNat * Nat.pow 2 (-i.scale).toNat
  let low := i.low * unit
  let high := i.high * unit
  let middle := i.middle * unit
  if (if i.inclusive then low ≤ point ∧ point ≤ high else low < point ∧ point < high) then
    some (if point ≤ middle then middle - point else point - middle)
  else none

/-- The better of the two grid points beside the number, a tie going to the even one. -/
def onGrid (x : Binary64) (exponent : Int) : Option Decimal :=
  let i := interval x
  let below := x.numerator * Nat.pow 10 (-exponent).toNat /
    (x.denominator * Nat.pow 10 exponent.toNat)
  let lower : Decimal := ⟨below, exponent⟩
  let upper : Decimal := ⟨below + 1, exponent⟩
  match distance? i lower, distance? i upper with
  | some a, some b =>
      if a < b ∨ (a = b ∧ below % 2 = 0) then some lower else some upper
  | some _, none => some lower
  | none, some _ => some upper
  | none, none => none

/-- Takes the zeros off the end of a coefficient. -/
def trim : Nat → Decimal → Decimal
  | 0, d => d
  | fuel + 1, d =>
      if d.coefficient % 10 = 0 ∧ d.coefficient ≠ 0 then
        trim fuel ⟨d.coefficient / 10, d.exponent + 1⟩
      else d

/-- Tries grids from coarse to fine, starting with the given number of digits. -/
def search (x : Binary64) (top : Int) (digits : Nat) : Nat → Decimal
  | 0 => ⟨x.significand, 0⟩
  | tries + 1 =>
      match onGrid x (top + 1 - digits) with
      | some d => trim 20 d
      | none => search x top (digits + 1) tries

/-- The shortest decimal of a finite number that is not zero; seventeen digits always suffice. -/
def ofBinary64 (x : Binary64) : Decimal :=
  search x (magnitude x.numerator x.denominator) 1 17

end SealedSync.Shortest
