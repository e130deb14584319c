import SealedSync.Proofs.Republishing
import SealedSync.Simulation.Labels

/-!
# A faithful server in memory

The simulated server is a faithful one as long as it hides nothing and ignores no write. Together
with files and a count of the draws that were made it is an oracle on which nothing fails.
-/
namespace SealedSync

namespace Binary64

/-- Up to infinity every magnitude is that of a number. -/
theorem isNaN_ofMagnitudeBits {magnitude : Nat} (finite : magnitude ≤ 2047 * Nat.pow 2 52) :
    (ofMagnitudeBits false magnitude).isNaN = false := by
  have small : Nat.pow 2 52 = 4503599627370496 := rfl
  have field : Nat.pow 2 11 = 2048 := rfl
  have bits : (ofMagnitudeBits false magnitude).bits.toNat = magnitude := by
    show (UInt64.ofNat (0 + magnitude)).toNat = magnitude
    rw [Nat.zero_add, UInt64.toNat_ofNat']
    rw [small] at finite
    omega
  rw [isNaN, exponentField, fractionField, bits, Bool.and_eq_false_iff, beq_eq_false_iff_ne,
    bne_eq_false_iff_eq, field]
  rw [small] at finite ⊢
  omega

theorem isNaN_ofNat (n : Nat) : (ofNat n).isNaN = false := by
  unfold ofNat ofRatio
  split
  · exact isNaN_ofMagnitudeBits (Nat.zero_le _)
  · dsimp only
    split
    · exact isNaN_ofMagnitudeBits (Nat.le_refl _)
    · exact isNaN_ofMagnitudeBits (by omega)

end Binary64

namespace Simulation

/-- What the server in memory holds. -/
def Server.storage (s : Server) : Storage := ⟨s.index, s.find?⟩

theorem Server.storage_store (s : Server) (collection : String) (record : RemoteRecord) :
    (s.store collection record).2.storage =
      s.storage.store collection record (.ofNat (s.clock + 1)) := by
  have records : (s.store collection record).2.find? =
      (s.storage.store collection record (.ofNat (s.clock + 1))).records := by
    funext c id
    show ((NameMap.insert _ _ _).get? c).bind _ =
      if c = collection ∧ id = record.id then _ else (s.records.get? c).bind (·.get? id)
    rw [NameMap.get?_insert]
    by_cases same : c = collection
    · subst same
      rw [if_pos rfl, Option.bind_some, NameMap.get?_insert]
      by_cases equal : id = record.id
      · rw [if_pos equal, if_pos ⟨rfl, equal⟩]
      · rw [if_neg equal, if_neg fun both => equal both.2]
        cases s.records.get? c <;> rfl
    · rw [if_neg same, if_neg fun both => same both.1]
  exact congrArg (Storage.mk _) records

/-- A server in memory that hides nothing and ignores no write, files, and a count of draws. -/
structure Memory where
  server : Server
  shown : server.respondEmpty = false
  kept : server.dropWrites = false
  files : String → Option (List UInt8)
  drawn : Nat

namespace Memory

def storage (m : Memory) : Storage := m.server.storage

theorem shown_respond (m : Memory) (call : RemoteCall) :
    (m.server.respond call).2.respondEmpty = false := by
  cases call with
  | index => exact m.shown
  | fetch collection id => exact m.shown
  | store collection record => simp [Server.respond, Server.store, m.kept, m.shown]
  | wipe => simp [Server.respond, m.kept, m.shown]

theorem kept_respond (m : Memory) (call : RemoteCall) :
    (m.server.respond call).2.dropWrites = false := by
  cases call with
  | index => exact m.kept
  | fetch collection id => exact m.kept
  | store collection record => simp [Server.respond, Server.store, m.kept]
  | wipe => simp [Server.respond, m.kept]

def write (m : Memory) (path : String) (content : Option (List UInt8)) : Memory :=
  { m with files := fun other => if other = path then content else m.files other }

def reply (m : Memory) : (request : Request) → request.Reply
  | .remote _ call => some (.ok (m.server.respond call).1)
  | .resetClient _ => .ok ()
  | .synchronize .. => .ok ()
  | .deriveKey => ()
  | .readFile path =>
      match m.files path with
      | some bytes => .ok bytes
      | none => .error .notFound
  | .writeFile .. => .ok ()
  | .renameFile .. => .ok ()
  | .random draw => .fit draw.size [UInt8.ofNat m.drawn]
  | .clock => Labels.now

def next (m : Memory) : Request → Memory
  | .remote _ call =>
      { m with
        server := (m.server.respond call).2
        shown := m.shown_respond call
        kept := m.kept_respond call }
  | .writeFile path bytes => m.write path (some bytes)
  | .renameFile source target => (m.write source none).write target (m.files source)
  | .random _ => { m with drawn := m.drawn + 1 }
  | _ => m

def oracle : Oracle Memory := ⟨fun request m => m.reply request, fun request m => m.next request⟩

theorem storage_store (m : Memory) (limit : Duration) (collection : String)
    (record : RemoteRecord) : (m.next (.remote limit (.store collection record))).storage =
      m.storage.store collection record (.ofNat (m.server.clock + 1)) := by
  have stored : (m.server.respond (.store collection record)).2 =
      (m.server.store collection record).2 := by
    simp [Server.respond, m.kept]
  show (m.server.respond (.store collection record)).2.storage = _
  rw [stored]
  exact m.server.storage_store collection record

theorem storage_wipe (m : Memory) (limit : Duration) :
    (m.next (.remote limit .wipe)).storage = .empty := by
  show (m.server.respond .wipe).2.storage = .empty
  simp only [Server.respond, m.kept]
  rfl

/-- An account whose server and files are in memory. -/
def profile : Profile := ⟨"account", .standard, .ok ⟨.fit 32 []⟩⟩

theorem profile_fits : profile.config.Fits := SyncConfig.fits_ofCollections _

def blank : Memory := ⟨.empty, rfl, rfl, fun _ => none, 0⟩

theorem oracle_faithful : oracle.Faithful storage where
  index limit m := by
    have shown : (m.server.respond .index).1 = m.server.index := by
      simp [Server.respond, m.shown]
    exact congrArg (fun index => some (Except.ok index)) shown
  fetch limit collection id m := rfl
  store limit collection record m := by
    refine .inl ⟨_, Binary64.isNaN_ofNat (m.server.clock + 1), ?_⟩
    show (m.next _).storage.SameBookkeeping _
    rw [storage_store]
    exact .refl _
  wipe limit m := by
    refine .inl ?_
    show (m.next _).storage.SameBookkeeping _
    rw [storage_wipe]
    exact .refl _
  others request m quiet := by
    cases request with
    | remote limit call =>
        cases call with
        | index => exact .refl _
        | fetch collection id => exact .refl _
        | store collection record => cases quiet
        | wipe => cases quiet
    | _ => exact .refl _
  stored limit collection record m := ⟨_, rfl⟩
  wiped limit m := rfl
  reset c m := rfl
  written path bytes m := rfl
  renamed source target m := rfl

/-! ## A server in an epoch -/

/-- The key of the account in memory. -/
def key : Key := ⟨.fit 32 []⟩

def keysRecord : RemoteRecord :=
  .ofPayload keysRecordId ((KeyBundle.ofDefault key).toPayload key (.fit 12 []))

def metadata (syncId : String) : GlobalMetadata := ⟨syncId, currentStorageVersion, .empty⟩

/-- A server in memory that is in an epoch. -/
def settled (syncId : String) : Memory :=
  (blank.next (.remote profile.limit (.store cryptoCollection keysRecord))).next
    (.remote profile.limit
      (.store metaCollection (.ofPayload globalRecordId (metadata syncId).toJson.render)))

theorem settled_sound (syncId : String) :
    (settled syncId).storage.Sound profile.config.storageVersion key (metadata syncId) := by
  have fits : (metadata syncId).Fits :=
    ⟨(by decide : currentStorageVersion < Nat.pow 2 32), fun e member => nomatch member⟩
  rw [settled, storage_store, storage_store]
  exact FreshStart.sound_of_stored fits (.ofDefault key) key (.fit 12 []) (Binary64.isNaN_ofNat 1)

end Memory

end Simulation

end SealedSync
