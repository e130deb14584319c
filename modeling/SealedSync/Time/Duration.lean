import SealedSync.Number.Decimal

/-!
# Durations

A duration is shown in the largest of seconds, milliseconds, microseconds and nanoseconds in which
its whole part is not zero, with as many decimals as it needs.
-/
namespace SealedSync

structure Duration where
  seconds : Nat
  nanoseconds : Nat
  deriving DecidableEq, Repr

namespace Duration

/-- Nanoseconds beyond a second count as seconds. -/
def ofParts (seconds nanoseconds : Nat) : Duration :=
  ⟨seconds + nanoseconds / 1000000000, nanoseconds % 1000000000⟩

def ofMillis (ms : Nat) : Duration := ⟨ms / 1000, ms % 1000 * 1000000⟩

def totalNanoseconds (d : Duration) : Nat := d.seconds * 1000000000 + d.nanoseconds

/-- A whole part and a fraction of the given number of decimals, without zeros at its end. -/
def decimal (whole fraction decimals : Nat) : String :=
  let digits := (Digits.padded decimals fraction).toList
  let kept := (digits.reverse.dropWhile (· == '0')).reverse
  toString whole ++ (if kept.isEmpty then "" else "." ++ String.ofList kept)

def text (d : Duration) : String :=
  let n := d.nanoseconds
  if 0 < d.seconds then decimal d.seconds n 9 ++ "s"
  else if 1000000 ≤ n then decimal (n / 1000000) (n % 1000000) 6 ++ "ms"
  else if 1000 ≤ n then decimal (n / 1000) (n % 1000) 3 ++ "µs"
  else decimal n 0 0 ++ "ns"

end Duration

end SealedSync
