import SealedSync.Json.Tree
import SealedSync.Text.Utf8
import SealedSync.Text.Hex

/-!
# Reading JSON

A source is a sequence of characters with gaps where its bytes are not UTF-8. Reading never fails:
it returns the value as far as the source is JSON and what is left after it.
-/
namespace SealedSync.Json

abbrev Source := List (Option Char)

def Source.ofText (s : String) : Source := s.toList.map some

def Source.ofBytes (bytes : List UInt8) : Source := Utf8.decode bytes

def isSpace (c : Char) : Bool := c == ' ' || c == '\t' || c == '\n' || c == '\r'

def skipSpace : Source → Source
  | some c :: rest => if isSpace c then skipSpace rest else some c :: rest
  | rest => rest

/-- One unit inside a string: a character, a UTF-16 unit from an escape, or a gap. -/
inductive StringUnit where
  | char (c : Char)
  | code (n : Nat)
  | gap

def shortEscape? : Char → Option Char
  | '"' => some '"'
  | '\\' => some '\\'
  | '/' => some '/'
  | 'b' => some '\x08'
  | 'f' => some '\x0c'
  | 'n' => some '\n'
  | 'r' => some '\r'
  | 't' => some '\t'
  | _ => none

def hex4? (a b c d : Char) : Option Nat := do
  let a ← Hex.value? a
  let b ← Hex.value? b
  let c ← Hex.value? c
  let d ← Hex.value? d
  return ((a * 16 + b) * 16 + c) * 16 + d

/-- The units of a string up to its closing quote, and what follows it. -/
def readUnits : Source → Option (List StringUnit × Source)
  | [] => none
  | some '"' :: rest => some ([], rest)
  | some '\\' :: some 'u' :: some a :: some b :: some c :: some d :: rest => do
      let n ← hex4? a b c d
      let (units, rest) ← readUnits rest
      return (.code n :: units, rest)
  | some '\\' :: some e :: rest => do
      let c ← shortEscape? e
      let (units, rest) ← readUnits rest
      return (.char c :: units, rest)
  | some c :: rest =>
      if c.toNat < 0x20 ∨ c = '\\' then none
      else do
        let (units, rest) ← readUnits rest
        return (.char c :: units, rest)
  | none :: rest => do
      let (units, rest) ← readUnits rest
      return (.gap :: units, rest)

/-- The characters of a string: surrogates from escapes come in pairs, and there are no gaps. -/
def joinUnits : List StringUnit → Option (List Char)
  | [] => some []
  | .char c :: rest => (joinUnits rest).map (c :: ·)
  | .gap :: _ => none
  | .code high :: .code low :: rest =>
      if 0xD800 ≤ high ∧ high < 0xDC00 then
        if 0xDC00 ≤ low ∧ low < 0xE000 then
          (joinUnits rest).map
            (Char.ofNat (0x10000 + (high - 0xD800) * 0x400 + (low - 0xDC00)) :: ·)
        else none
      else if 0xDC00 ≤ high ∧ high < 0xE000 then none
      else (joinUnits (.code low :: rest)).map (Char.ofNat high :: ·)
  | .code n :: rest =>
      if 0xD800 ≤ n ∧ n < 0xE000 then none else (joinUnits rest).map (Char.ofNat n :: ·)

/-- A string after its opening quote. -/
def readString (source : Source) : Json × Source :=
  match readUnits source with
  | some (units, rest) => (.string ((joinUnits units).map String.ofList), rest)
  | none => (.broken, [])

def takeDigits : Source → List Char × Source
  | some c :: rest =>
      if Digits.isDigit c then
        let (digits, rest) := takeDigits rest
        (c :: digits, rest)
      else ([], some c :: rest)
  | rest => ([], rest)

/-- The digits before any point: a zero stands alone. -/
def readWhole (source : Source) : Option (List Char × Source) :=
  match takeDigits source with
  | ([], _) => none
  | ('0' :: _ :: _, _) => none
  | found => some found

def readFraction (source : Source) : Option (List Char × Source) :=
  match source with
  | some '.' :: rest =>
      match takeDigits rest with
      | ([], _) => none
      | found => some found
  | rest => some ([], rest)

def readSignedDigits (source : Source) : Option (List Char × Source) :=
  let (sign, rest) := match source with
    | some '+' :: rest => (['+'], rest)
    | some '-' :: rest => (['-'], rest)
    | rest => ([], rest)
  match takeDigits rest with
  | ([], _) => none
  | (digits, rest) => some (sign ++ digits, rest)

def readExponent (source : Source) : Option (List Char × Source) :=
  match source with
  | some 'e' :: rest => readSignedDigits rest
  | some 'E' :: rest => readSignedDigits rest
  | rest => some ([], rest)

def readNumeral (negative : Bool) (source : Source) : Json × Source :=
  let found := do
    let (whole, rest) ← readWhole source
    let (fraction, rest) ← readFraction rest
    let (exponent, rest) ← readExponent rest
    return (Json.number ⟨negative, whole, fraction, exponent⟩, rest)
  found.getD (.broken, [])

mutual

/-- A value, with enough fuel for everything nested in it. -/
def readValue : Nat → Source → Json × Source
  | 0, _ => (.broken, [])
  | fuel + 1, source =>
      match skipSpace source with
      | some 'n' :: some 'u' :: some 'l' :: some 'l' :: rest => (.null, rest)
      | some 't' :: some 'r' :: some 'u' :: some 'e' :: rest => (.bool true, rest)
      | some 'f' :: some 'a' :: some 'l' :: some 's' :: some 'e' :: rest => (.bool false, rest)
      | some '"' :: rest => readString rest
      | some '-' :: rest => readNumeral true rest
      | some '[' :: rest =>
          match skipSpace rest with
          | some ']' :: rest => (.array .closed, rest)
          | rest =>
              let (items, rest) := readItems fuel rest
              (.array items, rest)
      | some '\x7b' :: rest =>
          match skipSpace rest with
          | some '\x7d' :: rest => (.object .closed, rest)
          | rest =>
              let (members, rest) := readMembers fuel rest
              (.object members, rest)
      | some c :: rest =>
          if Digits.isDigit c then readNumeral false (some c :: rest) else (.broken, [])
      | _ => (.broken, [])

/-- At least one item, up to the closing bracket. -/
def readItems : Nat → Source → Items × Source
  | 0, _ => (.cut, [])
  | fuel + 1, source =>
      let (head, rest) := readValue fuel source
      match skipSpace rest with
      | some ',' :: rest =>
          let (tail, rest) := readItems fuel rest
          (.item head tail, rest)
      | some ']' :: rest => (.item head .closed, rest)
      | _ => (.item head .cut, [])

/-- At least one member, up to the closing brace. -/
def readMembers : Nat → Source → Members × Source
  | 0, _ => (.cut, [])
  | fuel + 1, source =>
      let (key, rest) := readValue fuel source
      match key.isString, skipSpace rest with
      | true, some ':' :: rest =>
          let (value, rest) := readValue fuel rest
          match skipSpace rest with
          | some ',' :: rest =>
              let (tail, rest) := readMembers fuel rest
              (.member key value tail, rest)
          | some '\x7d' :: rest => (.member key value .closed, rest)
          | _ => (.member key value .cut, [])
      | _, _ => (.member key .broken .cut, [])

end

/-- The first value of a source and what is left after it. -/
def read (source : Source) : Json × Source := readValue (2 * source.length + 2) source

end SealedSync.Json
