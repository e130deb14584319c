import SealedSync.Number.Decimal
import SealedSync.Text.Blank

/-!
# Instants

An instant is a date and time of day in UTC, to the nanosecond, in the proleptic Gregorian calendar.
A minute may have a sixtieth second. The text is the RFC 3339 form with the fewest of 0, 3, 6 or 9
decimals; years outside four digits carry a sign. Reading takes any offset and is lenient about
white space between the parts, about the number of digits, and about the colon of the offset.
-/
namespace SealedSync

def Calendar.isLeapYear (year : Int) : Bool :=
  year % 4 == 0 && (year % 100 != 0 || year % 400 == 0)

def Calendar.daysInMonth (year : Int) (month : Nat) : Nat :=
  if month = 2 then (if isLeapYear year then 29 else 28)
  else if month = 4 ∨ month = 6 ∨ month = 9 ∨ month = 11 then 30
  else 31

structure CivilTime where
  year : Int
  month : Nat
  day : Nat
  hour : Nat
  minute : Nat
  second : Nat
  nanosecond : Nat
  deriving DecidableEq, Repr

namespace CivilTime

/-- The date exists in a year that can be represented, and the time of day exists on a clock. -/
def Valid (t : CivilTime) : Prop :=
  (-262143 ≤ t.year ∧ t.year ≤ 262142) ∧ (1 ≤ t.month ∧ t.month ≤ 12) ∧
    (1 ≤ t.day ∧ t.day ≤ Calendar.daysInMonth t.year t.month) ∧
    t.hour < 24 ∧ t.minute < 60 ∧ t.second ≤ 60 ∧ t.nanosecond < 1000000000

instance (t : CivilTime) : Decidable t.Valid := inferInstanceAs (Decidable (_ ∧ _))

def nextDay (t : CivilTime) : CivilTime :=
  if t.day < Calendar.daysInMonth t.year t.month then { t with day := t.day + 1 }
  else if t.month < 12 then { t with month := t.month + 1, day := 1 }
  else { t with year := t.year + 1, month := 1, day := 1 }

def previousDay (t : CivilTime) : CivilTime :=
  if 1 < t.day then { t with day := t.day - 1 }
  else if 1 < t.month then
    { t with month := t.month - 1, day := Calendar.daysInMonth t.year (t.month - 1) }
  else { t with year := t.year - 1, month := 12, day := 31 }

/-- The same moment when the clock that showed it was ahead by the given minutes, of which there
are less than a day. -/
def behind (t : CivilTime) (minutes : Int) : CivilTime :=
  let total : Int := (t.hour * 60 + t.minute : Nat) - minutes
  let ofDay := total.emod 1440
  let shifted := { t with hour := ofDay.toNat / 60, minute := ofDay.toNat % 60 }
  if total < 0 then shifted.previousDay
  else if 1440 ≤ total then shifted.nextDay
  else shifted

end CivilTime

abbrev Instant := { t : CivilTime // t.Valid }

namespace Instant

/-- A year as four digits, or with a sign when it has no such form. -/
def yearText (year : Int) : String :=
  if 0 ≤ year ∧ year ≤ 9999 then Digits.padded 4 year.toNat
  else (if year < 0 then "-" else "+") ++ Digits.padded 4 year.natAbs

def fractionText (nanosecond : Nat) : String :=
  if nanosecond = 0 then ""
  else if nanosecond % 1000000 = 0 then "." ++ Digits.padded 3 (nanosecond / 1000000)
  else if nanosecond % 1000 = 0 then "." ++ Digits.padded 6 (nanosecond / 1000)
  else "." ++ Digits.padded 9 nanosecond

def text (instant : Instant) : String :=
  let t := instant.val
  yearText t.year ++ "-" ++ Digits.padded 2 t.month ++ "-" ++ Digits.padded 2 t.day ++ "T" ++
    Digits.padded 2 t.hour ++ ":" ++ Digits.padded 2 t.minute ++ ":" ++ Digits.padded 2 t.second ++
    fractionText t.nanosecond ++ "Z"

/-- One to `most` digits, as many as there are. -/
def readDigits (most : Nat) (text : List Char) : Option (Nat × List Char) :=
  let digits := (text.take most).takeWhile Digits.isDigit
  if digits.isEmpty then none else some (Digits.toNat digits, text.drop digits.length)

/-- Digits after any white space. -/
def readNumber (most : Nat) (text : List Char) : Option (Nat × List Char) :=
  readDigits most (Blank.trimStart text)

/-- Four digits, or any number of digits after a sign. -/
def readYear (text : List Char) : Option (Int × List Char) :=
  match Blank.trimStart text with
  | '-' :: rest => (readDigits rest.length rest).map fun (n, rest) => (-(n : Int), rest)
  | '+' :: rest => (readDigits rest.length rest).map fun (n, rest) => ((n : Int), rest)
  | rest => (readDigits 4 rest).map fun (n, rest) => ((n : Int), rest)

def expect (c : Char) (text : List Char) : Option (List Char) :=
  match Blank.trimStart text with
  | d :: rest => if c = d then some rest else none
  | [] => none

/-- Decimals of a second; those after the ninth are passed over. -/
def readFraction (text : List Char) : Option (Nat × List Char) :=
  match text with
  | '.' :: rest =>
      let digits := rest.takeWhile Digits.isDigit
      let kept := digits.take 9
      if digits.isEmpty then none
      else some (Digits.toNat kept * Nat.pow 10 (9 - kept.length), rest.dropWhile Digits.isDigit)
  | rest => some (0, rest)

def isUtcName (text : List Char) : Bool :=
  (text.take 3).map Char.toUpper == ['U', 'T', 'C']

/-- Two digits of hours and two of minutes, with colons and white space between them. -/
def readOffsetDigits (text : List Char) : Option (Nat × List Char) :=
  match text with
  | a :: b :: rest =>
      match rest.dropWhile fun c => c == ':' || Blank.isBlank c with
      | c :: d :: rest =>
          if [a, b, c, d].all Digits.isDigit && Digits.value c < 6 then
            some (Digits.toNat [a, b] * 60 + Digits.toNat [c, d], rest)
          else none
      | _ => none
  | _ => none

/-- The minutes by which a clock is ahead of UTC. -/
def readOffset (text : List Char) : Option (Int × List Char) :=
  if isUtcName text then some (0, text.drop 3)
  else match text with
    | c :: rest =>
        if c = 'Z' ∨ c = 'z' then some (0, rest)
        else if c = '+' then (readOffsetDigits rest).map fun (n, rest) => ((n : Int), rest)
        else if c = '-' ∨ c = '−' then
          (readOffsetDigits rest).map fun (n, rest) => (-(n : Int), rest)
        else none
    | [] => none

/-- The instant of a text, if it is a date and time with an offset of less than a day. -/
def read (text : List Char) : Option Instant := do
  let (year, text) ← readYear text
  let (month, text) ← readNumber 2 (← expect '-' text)
  let (day, text) ← readNumber 2 (← expect '-' text)
  let text ← match text with
    | c :: rest => if c = 'T' ∨ c = 't' ∨ c = ' ' then some rest else none
    | [] => none
  let (hour, text) ← readNumber 2 text
  let (minute, text) ← readNumber 2 (← expect ':' text)
  let (second, text) ← readNumber 2 (← expect ':' text)
  let (nanosecond, text) ← readFraction text
  let (offset, text) ← readOffset (Blank.trimStart text)
  let shown : CivilTime := ⟨year, month, day, hour, minute, second, nanosecond⟩
  let actual := shown.behind offset
  if h : actual.Valid then
    if shown.Valid ∧ offset.natAbs < 1440 ∧ (Blank.trimStart text).isEmpty then some ⟨actual, h⟩
    else none
  else none

end Instant

end SealedSync
