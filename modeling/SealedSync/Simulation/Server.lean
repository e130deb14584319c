import SealedSync.Request

/-!
# A storage server in memory

The server keeps records by collection and identifier, and an index of collections. A clock counts
the records that have been stored; its reading is the time of the record and of its collection. The
server can be told to hide its index and to ignore what it is asked to write.
-/
namespace SealedSync.Simulation

structure Server where
  records : NameMap (NameMap RemoteRecord)
  index : CollectionIndex
  clock : Nat
  respondEmpty : Bool
  dropWrites : Bool

namespace Server

def empty : Server := ⟨.empty, .empty, 0, false, false⟩

def find? (s : Server) (collection id : String) : Option RemoteRecord :=
  (s.records.get? collection).bind (·.get? id)

/-- Stores a record and returns its time. -/
def store (s : Server) (collection : String) (record : RemoteRecord) : Binary64 × Server :=
  let time := Binary64.ofNat (s.clock + 1)
  let held := (s.records.get? collection).getD .empty
  let records :=
    s.records.insert collection (held.insert record.id { record with modified := time })
  (time, { s with records, index := s.index.insert collection time, clock := s.clock + 1 })

/-- Removes a record but leaves the index as it is. -/
def erase (s : Server) (collection id : String) : Server :=
  match s.records.get? collection with
  | some held => { s with records := s.records.insert collection (held.erase id) }
  | none => s

/-- Carries out a call that nothing interferes with. -/
def respond (s : Server) : (call : RemoteCall) → call.Answer × Server
  | .index => (if s.respondEmpty then .empty else s.index, s)
  | .fetch collection id => (s.find? collection id, s)
  | .store collection record =>
      if s.dropWrites then (Binary64.zero, s) else s.store collection record
  | .wipe => ((), if s.dropWrites then s else { s with records := .empty, index := .empty })

/-- All records in the order of their names. -/
def listing (s : Server) : List (String × RemoteRecord) :=
  s.records.entries.flatMap fun c => c.2.entries.map fun r => (c.1, r.2)

end Server

end SealedSync.Simulation
