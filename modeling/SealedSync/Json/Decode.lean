import SealedSync.Json.Reader
import SealedSync.Text.Quoted

/-!
# Decoding JSON

A decoder looks at a value from left to right and reports the first problem it meets. A record is
written as an object, with its fields in any order and unknown ones ignored, or as an array of its
fields in order. A field may not be repeated; fields that are missing are named at the end.
-/
namespace SealedSync

/-- What was found where something else was expected. -/
inductive Unexpected where
  | null
  | boolean (b : Bool)
  | integer (i : Int)
  | floating (x : Binary64)
  | string (s : String)
  | sequence
  | map
  deriving DecidableEq, Repr

def Unexpected.describe : Unexpected → String
  | .null => "null"
  | .boolean b => s!"boolean `{b}`"
  | .integer i => s!"integer `{i}`"
  | .floating x => "floating point `" ++ String.ofList (Json.Numeral.ofFinite x).text ++ "`"
  | .string s => "string " ++ Quoted.quote s
  | .sequence => "sequence"
  | .map => "map"

/-- Why a text does not decode. -/
inductive DecodeError where
  | notJson
  | invalidType (found : Unexpected) (expected : String)
  | invalidValue (found : Unexpected) (expected : String)
  | invalidLength (length : Nat) (expected : String)
  | missingField (name : String)
  | duplicateField (name : String)
  | unknownVariant (name : String) (expected : List String)
  | invalidContent (reason : String)
  deriving DecidableEq, Repr

/-- The error in words. What is wrong with a text that is no JSON only its reader knows. -/
def DecodeError.words (fault : String) : DecodeError → String
  | .notJson => fault
  | .invalidType found expected => s!"invalid type: {found.describe}, expected {expected}"
  | .invalidValue found expected => s!"invalid value: {found.describe}, expected {expected}"
  | .invalidLength length expected => s!"invalid length {length}, expected {expected}"
  | .missingField name => s!"missing field `{name}`"
  | .duplicateField name => s!"duplicate field `{name}`"
  | .unknownVariant name expected =>
      s!"unknown variant `{name}`, expected one of " ++
        String.intercalate ", " (expected.map fun v => s!"`{v}`")
  | .invalidContent reason => reason

/-- The message without what the reader of the text adds to it. -/
def DecodeError.message (e : DecodeError) : String := e.words "<syntax>"

/-- Where the reader of a text stands when decoding stops. -/
structure Json.Place where
  line : Nat
  column : Nat
  deriving DecidableEq, Repr

def Json.Place.text (p : Json.Place) : String := s!" at line {p.line} column {p.column}"

/-- What the reader of a text adds to an error: what is wrong with the text if it is no JSON, and where
decoding stopped. -/
structure Json.Remark where
  fault : String
  place : Json.Place
  deriving DecidableEq, Repr

/-- The whole message for a text. -/
def DecodeError.remarked (e : DecodeError) (r : Json.Remark) : String := e.words r.fault ++ r.place.text

abbrev Decoder (α : Type) := Json → Except DecodeError α

namespace Json

/-- The error for a value of the wrong kind; a value that cannot be read at all is no JSON. -/
def mismatch (expected : String) : Json → DecodeError
  | .null => .invalidType .null expected
  | .bool b => .invalidType (.boolean b) expected
  | .number n =>
      match n.value with
      | some (.integer i) => .invalidType (.integer i) expected
      | some (.floating x) => .invalidType (.floating x) expected
      | none => .notJson
  | .string (some s) => .invalidType (.string s) expected
  | .string none => .notJson
  | .array _ => .invalidType .sequence expected
  | .object _ => .invalidType .map expected
  | .broken => .notJson

def decodeStringAs (expected : String) : Decoder String
  | .string (some s) => .ok s
  | value => .error (value.mismatch expected)

def decodeString : Decoder String := decodeStringAs "a string"

def decodeFloat : Decoder Binary64
  | .number n =>
      match n.value with
      | some (.integer i) => .ok (.ofInt i)
      | some (.floating x) => .ok x
      | none => .error .notJson
  | value => .error (value.mismatch "f64")

/-- A natural number below a limit. -/
def decodeNat (limit : Nat) (expected : String) : Decoder Nat
  | .number n =>
      match n.value with
      | some (.integer i) =>
          if 0 ≤ i ∧ i < limit then .ok i.toNat
          else .error (.invalidValue (.integer i) expected)
      | _ => .error ((Json.number n).mismatch expected)
  | value => .error (value.mismatch expected)

def decodeNat32 : Decoder Nat := decodeNat (Nat.pow 2 32) "u32"

def decodeNat64 : Decoder Nat := decodeNat (Nat.pow 2 64) "u64"

def decodeOptional {α : Type} (decode : Decoder α) : Decoder (Option α)
  | .null => .ok none
  | value => (decode value).map some

def decodeNull : Decoder Unit
  | .null => .ok ()
  | value => .error (value.mismatch "unit")

/-- Passes over a value. -/
def skip (value : Json) : Except DecodeError Unit :=
  if value.intact then .ok () else .error .notJson

/-- Reads the members of an object one after another. -/
def Members.fold {β : Type} (step : β → String → Json → Except DecodeError β) :
    β → Members → Except DecodeError β
  | state, .closed => .ok state
  | _, .cut => .error .notJson
  | state, .member (.string (some name)) value tail => do
      let state ← step state name value
      fold step state tail
  | _, .member .. => .error .notJson

/-- Reads the items of an array one after another. -/
def Items.collect {α : Type} (decode : Decoder α) : Items → Except DecodeError (List α)
  | .closed => .ok []
  | .cut => .error .notJson
  | .item head tail => do
      let a ← decode head
      let rest ← collect decode tail
      return a :: rest

/-- Reads a field that has not been read before. -/
def readField {α : Type} (name : String) (slot : Option α) (decode : Decoder α) (value : Json) :
    Except DecodeError (Option α) :=
  match slot with
  | some _ => .error (.duplicateField name)
  | none => (decode value).map some

def requireField {α : Type} (name : String) : Option α → Except DecodeError α
  | some a => .ok a
  | none => .error (.missingField name)

/-- The next field of a record in array form; `index` fields came before. -/
def Items.next {α : Type} (index : Nat) (expected : String) (decode : Decoder α) :
    Items → Except DecodeError (α × Items)
  | .item head tail => do return (← decode head, tail)
  | .closed => .error (.invalidLength index expected)
  | .cut => .error .notJson

/-- The next field of a record in array form, which may be left out at the end. -/
def Items.nextOr {α : Type} (default : α) (decode : Decoder α) :
    Items → Except DecodeError (α × Items)
  | .item head tail => do return (← decode head, tail)
  | .closed => .ok (default, .closed)
  | .cut => .error .notJson

/-- Nothing may follow the last field. -/
def Items.finish : Items → Except DecodeError Unit
  | .closed => .ok ()
  | _ => .error .notJson

/-- A record, from its members or from its fields in order. -/
def decodeRecord {α : Type} (name : String) (ofMembers : Members → Except DecodeError α)
    (ofItems : Items → Except DecodeError α) : Decoder α
  | .object members => ofMembers members
  | .array items => ofItems items
  | value => .error (value.mismatch s!"struct {name}")

def decodeList {α : Type} (decode : Decoder α) : Decoder (List α)
  | .array items => items.collect decode
  | value => .error (value.mismatch "a sequence")

/-- A value among named ones: its name, or an object with the name as its only key. -/
def decodeVariant {α : Type} (names : List (String × α)) : Decoder α
  | .string (some name) => pick name
  | .object (.member (.string (some name)) value tail) => do
      let a ← pick name
      decodeNull value
      match tail with
      | .closed => return a
      | _ => throw .notJson
  | .object (.member key _ _) => .error (key.mismatch "variant identifier")
  | _ => .error .notJson
where
  pick (name : String) : Except DecodeError α :=
    match names.lookup name with
    | some a => .ok a
    | none => .error (.unknownVariant name (names.map (·.1)))

/-- Decodes a source that holds one value and nothing after it. -/
def decodeSource {α : Type} (decode : Decoder α) (source : Source) : Except DecodeError α := do
  let (value, rest) := read source
  let a ← decode value
  if (skipSpace rest).isEmpty then return a else throw .notJson

def decodeText {α : Type} (decode : Decoder α) (s : String) : Except DecodeError α :=
  decodeSource decode (.ofText s)

def decodeBytes {α : Type} (decode : Decoder α) (bytes : List UInt8) : Except DecodeError α :=
  decodeSource decode (.ofBytes bytes)

end Json

end SealedSync
