import SealedSync.RemoteState

/-!
# The keyring

Keys of collections are kept once the key bundle has been opened. They are bound to a sync epoch and
to the time at which the collection of the bundle was last modified, and are dropped when either is
found to be another; so a bundle that was replaced on the server is fetched again. The key that seals
the bundle depends on neither: it is derived when it is first needed, and kept from then on.
-/
namespace SealedSync

structure Keyring where
  epoch : Option String
  modified : Option Binary64
  bundle : Option KeyBundle
  deriving DecidableEq, Repr

/-- What a keyring needs to fetch and open the bundle. -/
structure KeyAccess where
  limit : Duration
  sealingKey : Except CryptoError Key

def KeyAccess.ofPassphrase (account passphrase : String) (kdf : KdfParams) (limit : Duration) :
    KeyAccess :=
  ⟨limit, deriveKey passphrase (Salt.ofAccount account) kdf⟩

/-- The sealing key once it has been derived, or why it cannot be. -/
def KeyAccess.key (access : KeyAccess) : Except SyncError Key := access.sealingKey.mapError .crypto

namespace Keyring

def empty : Keyring := ⟨none, none, none⟩

def isLoaded (k : Keyring) : Bool := k.bundle.isSome

/-- Times are the same if both are unknown or both are equal numbers. -/
def sameTime : Option Binary64 → Option Binary64 → Bool
  | none, none => true
  | some x, some y => x.valueEq y
  | _, _ => false

def isBoundTo (k : Keyring) (syncId : String) (modified : Option Binary64) : Bool :=
  k.epoch == some syncId && sameTime k.modified modified

/-- Binds the keyring to an epoch and a time, dropping the bundle if they are new. -/
def rebind (k : Keyring) (syncId : String) (modified : Option Binary64) : Keyring :=
  if k.isBoundTo syncId modified then k else ⟨some syncId, modified, none⟩

/-- Binds the keyring and tells whether a bundle was dropped. -/
def bind (syncId : String) (modified : Option Binary64) : Program Keyring Bool := do
  let k ← Program.get
  if k.isBoundTo syncId modified then return false
  if k.isLoaded then
    if k.epoch = some syncId then Program.note .bundleModified
    else Program.note (.epochRebound syncId)
  Program.modify fun k => k.rebind syncId modified
  return k.isLoaded

/-- Makes sure that the bundle of the bound epoch is there. The sealing key has been derived. -/
def refresh (access : KeyAccess) : Program Keyring Unit := do
  let key ← Program.ofExcept access.key
  let k ← Program.get
  if k.isLoaded then return ()
  match k.epoch with
  | none => Program.fail (.notAvailable "key cache is not bound to a sync epoch")
  | some epoch => do
      let bundle ← RemoteState.fetchBundle access.limit key
      Program.note (.bundleLoaded epoch)
      Program.modify fun k => { k with bundle := some bundle }

/-- The key of a collection, after fetching the bundle if need be. -/
def keyFor (access : KeyAccess) (collection : String) : Program Keyring Key := do
  let k ← Program.get
  match k.bundle with
  | some bundle => return bundle.keyFor collection
  | none => do
      refresh access
      let k ← Program.get
      match k.bundle with
      | some bundle => return bundle.keyFor collection
      | none => Program.fail (.notAvailable collection)

/-- Drops the keys and what they were bound to. -/
def invalidate : Program Keyring Unit := do
  Program.modify fun _ => empty
  Program.note .keysForgotten

end Keyring

/-- A keyring, and whether its sealing key has been derived. -/
structure KeyManager where
  keyring : Keyring
  derived : Bool

namespace KeyManager

variable {α : Type}

def new : KeyManager := ⟨.empty, false⟩

def onKeyring (program : Program Keyring α) : Program KeyManager α :=
  program.zoom (·.keyring) fun keyring m => { m with keyring }

/-- The sealing key. It is waited for when it is first needed; a derivation that fails is made anew the
next time. -/
def sealingKey (access : KeyAccess) : Program KeyManager Key := do
  let m ← Program.get
  if m.derived then Program.ofExcept access.key
  else do
    Program.request .deriveKey
    let key ← Program.ofExcept access.key
    Program.modify fun m => { m with derived := true }
    return key

def refresh (access : KeyAccess) : Program KeyManager Unit := do
  let _ ← sealingKey access
  onKeyring (Keyring.refresh access)

/-- The key of a collection. Only a keyring that does not hold the bundle needs the sealing key. -/
def keyFor (access : KeyAccess) (collection : String) : Program KeyManager Key := do
  let m ← Program.get
  if !m.keyring.isLoaded then
    let _ ← sealingKey access
  onKeyring (Keyring.keyFor access collection)

end KeyManager

end SealedSync
