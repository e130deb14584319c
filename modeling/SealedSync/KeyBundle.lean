import SealedSync.Crypto.Envelope
import SealedSync.Error
import SealedSync.NameMap

/-!
# Key bundles

A bundle holds a default key and, for some collections, keys of their own. On the server it is a
JSON text sealed under the key that is derived from the passphrase.
-/
namespace SealedSync

structure KeyBundle where
  default : Key
  overrides : NameMap Key
  deriving DecidableEq, Repr

/-- The written form of a bundle, with keys in base64. -/
structure KeyDocument where
  default : String
  collections : NameMap String
  deriving DecidableEq, Repr

namespace KeyDocument

def toJson (d : KeyDocument) : Json :=
  .fields [("default", .text d.default),
    ("collections", .fields (d.collections.entries.map fun e => (e.1, .text e.2)))]

def addCollection (collections : NameMap String) (name : String) (value : Json) :
    Except DecodeError (NameMap String) := do
  return collections.insert name (← Json.decodeString value)

/-- Of a collection that is repeated the last key counts. -/
def decodeCollections : Decoder (NameMap String)
  | .object members => members.fold addCollection .empty
  | value => .error (value.mismatch "a map")

/-- The fields read so far. -/
structure Draft where
  default : Option String := none
  collections : Option (NameMap String) := none

def Draft.read (d : Draft) (name : String) (value : Json) : Except DecodeError Draft :=
  match name with
  | "default" => do
      return { d with default := ← Json.readField name d.default Json.decodeString value }
  | "collections" => do
      return { d with
        collections := ← Json.readField name d.collections decodeCollections value }
  | _ => do
      value.skip
      return d

def ofMembers (members : Json.Members) : Except DecodeError KeyDocument := do
  let d ← members.fold Draft.read {}
  return ⟨← Json.requireField "default" d.default, d.collections.getD .empty⟩

def ofItems (items : Json.Items) : Except DecodeError KeyDocument := do
  let expected := "struct KeyBundlePayload with 2 elements"
  let (default, items) ← items.next 0 expected Json.decodeString
  let (collections, items) ← items.nextOr .empty decodeCollections
  items.finish
  return ⟨default, collections⟩

/-- The collections may be missing. -/
def decode : Decoder KeyDocument := Json.decodeRecord "KeyBundlePayload" ofMembers ofItems

end KeyDocument

namespace KeyBundle

def ofDefault (default : Key) : KeyBundle := ⟨default, .empty⟩

/-- Gives a collection a key of its own. -/
def withOverride (b : KeyBundle) (collection : String) (key : Key) : KeyBundle :=
  { b with overrides := b.overrides.insert collection key }

def hasOverride (b : KeyBundle) (collection : String) : Bool := b.overrides.contains collection

/-- The key of a collection. -/
def keyFor (b : KeyBundle) (collection : String) : Key :=
  (b.overrides.get? collection).getD b.default

def mapEntries {α β : Type} (f : α → β) (entries : List (String × α)) : List (String × β) :=
  entries.map fun e => (e.1, f e.2)

theorem ascending_mapEntries {α β : Type} (f : α → β) {entries : List (String × α)}
    (h : Ascending entries) : Ascending (mapEntries f entries) :=
  List.pairwise_map.mpr h

def document (b : KeyBundle) : KeyDocument :=
  ⟨b.default.toBase64,
    ⟨mapEntries Key.toBase64 b.overrides.entries, ascending_mapEntries _ b.overrides.ascending⟩⟩

/-- The text that is sealed. -/
def plaintext (b : KeyBundle) : String := b.document.toJson.render

/-- The payload of the record that holds a text sealed under a key. -/
def sealText (sealingKey : Key) (nonce : Nonce) (text : String) : String :=
  (Envelope.encrypt sealingKey nonce (Utf8.encode text)).toJson.render

/-- The payload of the record that holds a bundle. -/
def toPayload (b : KeyBundle) (sealingKey : Key) (nonce : Nonce) : String :=
  sealText sealingKey nonce b.plaintext

def decodeKey (label text : String) : Except SyncError Key :=
  match Key.ofBase64 text with
  | .ok key => .ok key
  | .error e => .error (.malformed s!"key bundle entry {label}: {e.message}")

/-- Decodes the keys of collections in the order of their names. -/
def decodeOverrides (keys : NameMap Key) : List (String × String) → Except SyncError (NameMap Key)
  | [] => .ok keys
  | (name, text) :: rest => do
      let key ← decodeKey name text
      decodeOverrides (keys.insert name key) rest

def ofDocument (d : KeyDocument) : Except SyncError KeyBundle := do
  let default ← decodeKey "default" d.default
  let overrides ← decodeOverrides .empty d.collections.entries
  return ⟨default, overrides⟩

/-- The text that a payload seals. A payload of the wrong form is malformed; one that the key does
not open is not. -/
def openText (payload : String) (sealingKey : Key) : Except SyncError (List UInt8) :=
  match Json.decodeText Envelope.decode payload with
  | .error e => .error (.malformed s!"key bundle envelope: {e.message}")
  | .ok envelope =>
      match Envelope.decrypt sealingKey envelope with
      | .ok bytes => .ok bytes
      | .error (.decryption _) => .error .decryptFailed
      | .error e => .error (.crypto e)

/-- The bundle that a payload holds. How the error for a sealed text that is no document is told, is up to
`tell`. -/
def openTelling (tell : List UInt8 → DecodeError → String) (payload : String) (sealingKey : Key) :
    Except SyncError KeyBundle := do
  let bytes ← openText payload sealingKey
  match Json.decodeBytes KeyDocument.decode bytes with
  | .error e => throw (.malformed s!"key bundle contents: {tell bytes e}")
  | .ok d => ofDocument d

/-- The bundle that a payload holds, with errors as the decoder words them. -/
def ofPayload : String → Key → Except SyncError KeyBundle := openTelling fun _ e => e.message

/-- The bundle that a payload holds, with errors as they are logged: `remarks` is what the reader of a
sealed text says when it stops. -/
def openRemarked (remarks : List UInt8 → Json.Remark) : String → Key → Except SyncError KeyBundle :=
  openTelling fun bytes e => e.remarked (remarks bytes)

end KeyBundle

end SealedSync
