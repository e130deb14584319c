import SealedSync.Crypto.Sha256
import SealedSync.Json.Decode
import SealedSync.Json.Writer
import SealedSync.NameMap

/-!
# The collection index

The server lists its collections with the time each was last modified. The fingerprint of an index
is the hash of its entries in the order of their names, with times to two decimals.
-/
namespace SealedSync

structure CollectionIndex where
  entries : NameMap Binary64
  deriving DecidableEq, Repr

namespace CollectionIndex

def empty : CollectionIndex := ⟨.empty⟩

def ofList (entries : List (String × Binary64)) : CollectionIndex := ⟨.ofList entries⟩

def contains (index : CollectionIndex) (name : String) : Bool := index.entries.contains name

def modified? (index : CollectionIndex) (name : String) : Option Binary64 := index.entries.get? name

def insert (index : CollectionIndex) (name : String) (modified : Binary64) : CollectionIndex :=
  ⟨index.entries.insert name modified⟩

def erase (index : CollectionIndex) (name : String) : CollectionIndex := ⟨index.entries.erase name⟩

def names (index : CollectionIndex) : List String := index.entries.names

def size (index : CollectionIndex) : Nat := index.entries.size

def fingerprintLine (entry : String × Binary64) : String :=
  entry.1 ++ ":" ++ entry.2.twoPlaces ++ "\n"

/-- The text that the fingerprint is the hash of. -/
def fingerprintText (index : CollectionIndex) : String :=
  String.join (index.entries.entries.map fingerprintLine)

def fingerprint (index : CollectionIndex) : String :=
  Hex.encode (Sha256.hash (Utf8.encode index.fingerprintText))

def toJson (index : CollectionIndex) : Json :=
  .fields (index.entries.entries.map fun e => (e.1, .float e.2))

def addMember (index : CollectionIndex) (name : String) (value : Json) :
    Except DecodeError CollectionIndex := do
  return index.insert name (← Json.decodeFloat value)

/-- Of a name that is repeated the last time counts. -/
def decode : Decoder CollectionIndex
  | .object members => members.fold addMember empty
  | value => .error (value.mismatch "a map")

end CollectionIndex

/-- The collection of the global metadata record. -/
def metaCollection : String := "meta"

def globalRecordId : String := "global"

/-- The collection of the key bundle. -/
def cryptoCollection : String := "crypto"

def keysRecordId : String := "keys"

/-- The storage format that this client writes. -/
def currentStorageVersion : Nat := 5

end SealedSync
