import SealedSync.Text.Hex
import SealedSync.Text.Split

/-!
# Addresses

A host may be given by its address. An IPv4 address has up to four parts in base ten, eight or
sixteen, and the last part fills the bytes that are left. An IPv6 address has eight groups of
sixteen bits; a double colon stands for a run of zeros, and the last two groups may be written as an
IPv4 address. Each address has one normal form.
-/
namespace SealedSync.Http.HostAddress

/-- A part of an IPv4 address, which may be octal or hexadecimal. -/
def ipv4Part (text : List Char) : Option Nat :=
  let inBase := fun (base : Nat) (digits : List Char) =>
    digits.foldl (fun n c => do
      let n ← n
      let d ← Hex.value? c
      if d < base then some (n * base + d) else none) (some 0)
  match text with
  | [] => none
  | '0' :: x :: digits => if x = 'x' ∨ x = 'X' then inBase 16 digits else inBase 8 (x :: digits)
  | digits => inBase 10 digits

/-- The parts of a host that ends in a number, which has to be an IPv4 address then. -/
def ipv4Parts (host : List Char) : Option (List (List Char)) :=
  let parts := Split.pieces (· == '.') host
  let parts := match parts.reverse with
    | [] :: rest => if rest.isEmpty then parts else rest.reverse
    | _ => parts
  match parts.getLast? with
  | some last =>
      if (!last.isEmpty && last.all Char.isDigit) ||
          ((last.take 2 == ['0', 'x'] || last.take 2 == ['0', 'X']) && (ipv4Part last).isSome) then
        some parts
      else none
  | none => none

/-- The address of numbers, of which the last fills the bytes that are left. -/
def ipv4Address (numbers : List Nat) : Option Nat :=
  let count := numbers.length
  let last := numbers.getLastD 0
  let front := numbers.take (count - 1)
  if count = 0 ∨ 4 < count ∨ front.any (255 < ·) ∨ Nat.pow 256 (5 - count) ≤ last then none
  else some (front.foldl (fun n d => n * 256 + d) 0 * Nat.pow 256 (5 - count) + last)

def ipv4Text (address : Nat) : String :=
  String.intercalate "." ([16777216, 65536, 256, 1].map fun unit => toString (address / unit % 256))

/-- A sixteen-bit group of an IPv6 address. -/
def ipv6Group (digits : List Char) : Option Nat := do
  if digits.isEmpty || 4 < digits.length then none
  else (digits.mapM Hex.value?).map fun digits => digits.foldl (fun n d => n * 16 + d) 0

/-- A number of an IPv4 address inside an IPv6 address, without leading zeros. -/
def dottedPart (digits : List Char) : Option Nat :=
  let n := digits.foldl (fun n c => n * 10 + (c.toNat - 48)) 0
  if digits.all Char.isDigit && toString n == String.ofList digits && n ≤ 255 then some n else none

/-- The two groups of an IPv4 address at the end of an IPv6 address. -/
def dottedGroups (text : List Char) : Option (List Nat) := do
  match ← (Split.pieces (· == '.') text).mapM dottedPart with
  | [a, b, c, d] => some [a * 256 + b, c * 256 + d]
  | _ => none

/-- The groups of one side of an IPv6 address. -/
def ipv6Side (isEnd : Bool) (text : List Char) : Option (List Nat) :=
  if text.isEmpty then some []
  else
    let parts := Split.pieces (· == ':') text
    let last := parts.getLastD []
    if isEnd && '.' ∈ last then do
      return (← parts.dropLast.mapM ipv6Group) ++ (← dottedGroups last)
    else parts.mapM ipv6Group

/-- The eight groups of an IPv6 address, with `::` for a run of zeros. -/
def ipv6Groups (text : List Char) : Option (List Nat) :=
  match Split.pairPieces ':' text with
  | [all] =>
      (ipv6Side true all).bind fun groups => if groups.length = 8 then some groups else none
  | [left, right] => do
      let left ← ipv6Side false left
      let right ← ipv6Side true right
      if left.length + right.length < 8 then
        some (left ++ List.replicate (8 - left.length - right.length) 0 ++ right)
      else none
  | _ => none

/-- The start and length of the first longest run of zeros, from a place on. -/
def longestZeros (place : Nat) : List Nat → Nat × Nat
  | [] => (0, 0)
  | group :: rest =>
      let run := ((group :: rest).takeWhile (· == 0)).length
      let (start, length) := longestZeros (place + 1) rest
      if run ≠ 0 ∧ length ≤ run then (place, run) else (start, length)

def ipv6Text (groups : List Nat) : String :=
  let text := fun (gs : List Nat) => String.intercalate ":" (gs.map Hex.ofNat)
  let (start, length) := longestZeros 0 groups
  if length < 2 then text groups
  else text (groups.take start) ++ "::" ++ text (groups.drop (start + length))

def bracketedHost (rest : List Char) : Option String :=
  if rest.getLast? = some ']' then
    (ipv6Groups rest.dropLast).map fun groups => "[" ++ ipv6Text groups ++ "]"
  else none

end SealedSync.Http.HostAddress
