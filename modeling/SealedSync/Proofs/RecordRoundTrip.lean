import SealedSync.Proofs.JsonRoundTrip
import SealedSync.Proofs.Reading

/-!
# Records survive being written

What a fresh start publishes is what the next reader finds: a key bundle that was sealed under a key
opens under that key, and metadata come back with every engine. What does not open or decode fails
in one of two ways only.
-/
namespace SealedSync

namespace NameMap

variable {α : Type}

theorem insertEntry_last {name : String} {a : α} {entries : List (String × α)}
    (below : ∀ e ∈ entries, e.1 < name) : insertEntry name a entries = entries ++ [(name, a)] := by
  induction entries with
  | nil => rfl
  | cons head rest ih =>
      obtain ⟨other, b⟩ := head
      have lower : other < name := below (other, b) List.mem_cons_self
      have not_lower : ¬name < other := String.lt_asymm lower
      have distinct : name ≠ other := by
        rintro rfl
        exact String.lt_irrefl _ lower
      rw [insertEntry, if_neg not_lower, if_neg distinct,
        ih fun e member => below e (List.mem_cons_of_mem _ member)]
      rfl

theorem entries_foldl_insert {entries : List (String × α)} {m : NameMap α}
    (ascending : Ascending (m.entries ++ entries)) :
    (entries.foldl (fun m e => m.insert e.1 e.2) m).entries = m.entries ++ entries := by
  induction entries generalizing m with
  | nil => simp
  | cons head rest ih =>
      have below : ∀ e ∈ m.entries, e.1 < head.1 := fun e member =>
        (List.pairwise_append.mp ascending).2.2 e member head List.mem_cons_self
      have placed : (m.insert head.1 head.2).entries = m.entries ++ [head] := insertEntry_last below
      rw [List.foldl_cons, ih (by rw [placed]; simpa using ascending), placed]
      simp

/-- Setting the values of a map in order builds the map. -/
theorem ofList_entries (m : NameMap α) : ofList m.entries = m :=
  ext (entries_foldl_insert (by simpa [empty] using m.ascending))

end NameMap

namespace Json

theorem Members.fold_cons {β : Type} (step : β → String → Json → Except DecodeError β) (state : β)
    (name : String) (value : Json) (rest : List (String × Json)) :
    (Members.ofList ((name, value) :: rest)).fold step state =
      step state name value >>= fun state => (Members.ofList rest).fold step state := rfl

theorem Members.fold_nil {β : Type} (step : β → String → Json → Except DecodeError β) (state : β) :
    (Members.ofList []).fold step state = .ok state := rfl

theorem readField_none {α : Type} (name : String) {decode : Decoder α} {value : Json} {a : α}
    (decoded : decode value = .ok a) : readField name none decode value = .ok (some a) := by
  rw [readField, decoded]
  rfl

variable {α : Type} {step : NameMap α → String → Json → Except DecodeError (NameMap α)}
  {write : α → Json}

theorem Members.fold_ofList {entries : List (String × α)}
    (steps : ∀ (m : NameMap α) (e : String × α), e ∈ entries →
      step m e.1 (write e.2) = .ok (m.insert e.1 e.2)) (m : NameMap α) :
    (Members.ofList (entries.map fun e => (e.1, write e.2))).fold step m =
      .ok (entries.foldl (fun (m : NameMap α) (e : String × α) => m.insert e.1 e.2) m) := by
  induction entries generalizing m with
  | nil => rfl
  | cons head rest ih =>
      have first := steps m head List.mem_cons_self
      have later := ih (fun m e member => steps m e (List.mem_cons_of_mem _ member))
        (m.insert head.1 head.2)
      rw [List.map_cons, fold_cons, first]
      exact later

/-- A map that is written as an object is read back by setting one member after another. -/
theorem Members.fold_entries {m : NameMap α}
    (steps : ∀ (n : NameMap α) (e : String × α), e ∈ m.entries →
      step n e.1 (write e.2) = .ok (n.insert e.1 e.2)) :
    (Members.ofList (m.entries.map fun e => (e.1, write e.2))).fold step .empty = .ok m := by
  rw [fold_ofList steps]
  exact congrArg Except.ok m.ofList_entries

end Json

/-! ## Sealed data -/

namespace ChaCha20

theorem length_stream (key : FixedBytes 32) (nonce : FixedBytes 12) (length : Nat) :
    (stream key nonce length).length = (length + 63) / 64 * 64 := by
  unfold stream
  generalize (length + 63) / 64 = blocks
  induction blocks with
  | zero => rfl
  | succ n ih =>
      rw [List.range_succ, List.flatMap_append, List.length_append, ih, List.flatMap_singleton,
        length_block]
      omega

theorem length_apply (key : FixedBytes 32) (nonce : FixedBytes 12) (bytes : List UInt8) :
    (apply key nonce bytes).length = bytes.length := by
  rw [apply, List.length_zipWith, length_stream]
  omega

theorem zipWith_xor_twice (bytes keys : List UInt8) (enough : bytes.length ≤ keys.length) :
    List.zipWith (fun b k => b ^^^ k) (List.zipWith (fun b k => b ^^^ k) bytes keys) keys =
      bytes := by
  induction bytes generalizing keys with
  | nil => rfl
  | cons b rest ih =>
      cases keys with
      | nil => simp at enough
      | cons k more =>
          have tail := ih more (by simpa using enough)
          simp only [List.zipWith_cons_cons, tail]
          rw [UInt8.xor_assoc, UInt8.xor_self, UInt8.xor_zero]

/-- Adding the key stream a second time takes it away. -/
theorem apply_apply (key : FixedBytes 32) (nonce : FixedBytes 12) (bytes : List UInt8) :
    apply key nonce (apply key nonce bytes) = bytes := by
  have length := length_apply key nonce bytes
  rw [apply, length]
  exact zipWith_xor_twice bytes _ (by rw [length_stream]; omega)

end ChaCha20

namespace Envelope

/-- What is sealed under a key opens under the key. -/
theorem decrypt_encrypt (key : Key) (nonce : Nonce) (plaintext : List UInt8) :
    decrypt key (encrypt key nonce plaintext) = .ok plaintext := by
  let sealed := ChaCha20.apply key.bytes nonce plaintext
  have size : (tagOf key nonce sealed).val.length = tagSize := (tagOf key nonce sealed).property
  have length : (encrypt key nonce plaintext).ciphertext.length = sealed.length + tagSize := by
    rw [← size]
    exact List.length_append
  have body : (encrypt key nonce plaintext).body = sealed := by
    rw [Envelope.body, length, Nat.add_sub_cancel]
    exact List.take_left
  have tag : (encrypt key nonce plaintext).tag = (tagOf key nonce sealed).val := by
    rw [Envelope.tag, length, Nat.add_sub_cancel]
    exact List.drop_left
  have long : ¬(encrypt key nonce plaintext).ciphertext.length < tagSize := by omega
  rw [decrypt, if_neg long, body, tag]
  show (if (tagOf key nonce sealed).val = (tagOf key nonce sealed).val then _ else _) = _
  rw [if_pos rfl]
  exact congrArg Except.ok (ChaCha20.apply_apply key.bytes nonce plaintext)

theorem decrypt_error {key : Key} {e : Envelope} {error : CryptoError}
    (failed : decrypt key e = .error error) : ∃ reason, error = .decryption reason := by
  unfold decrypt at failed
  split at failed
  · exact ⟨_, (Except.error.inj failed).symm⟩
  · split at failed
    · cases failed
    · exact ⟨_, (Except.error.inj failed).symm⟩

end Envelope

namespace Envelope

theorem decodeBytes_text (bytes : List UInt8) :
    decodeBytes (Json.text (Base64.encode bytes)) = .ok bytes := by
  have text : Json.decodeString (.text (Base64.encode bytes)) = .ok (Base64.encode bytes) := rfl
  simp only [decodeBytes, text, bind, Except.bind, Base64.decode_encode]
  rfl

theorem decodeNonce_text (nonce : Nonce) :
    decodeNonce (Json.text (Base64.encode nonce.val)) = .ok nonce := by
  simp only [decodeNonce, decodeBytes_text, bind, Except.bind, FixedBytes.ofList?_val]
  rfl

theorem decode_toJson (e : Envelope) : decode e.toJson = .ok e := by
  have nonce := Json.readField_none "nonce" (decodeNonce_text e.nonce)
  have ciphertext := Json.readField_none "ciphertext" (decodeBytes_text e.ciphertext)
  show ofMembers (.ofList [("nonce", _), ("ciphertext", _)]) = _
  simp only [ofMembers, Json.Members.fold_cons, Json.Members.fold_nil, Draft.read, bind, Except.bind,
    pure, Except.pure, nonce, ciphertext]
  rfl

theorem legible_toJson (e : Envelope) : e.toJson.Legible := by
  refine Json.legible_fields fun member found => ?_
  simp only [List.mem_cons, List.not_mem_nil, or_false] at found
  rcases found with rfl | rfl <;> exact Json.legible_text _

end Envelope

/-! ## Key bundles -/

theorem Key.ofBase64_toBase64 (key : Key) : ofBase64 key.toBase64 = .ok key := by
  simp only [ofBase64, toBase64, Base64.decode_encode, ofBytes, FixedBytes.ofList?_val]

namespace KeyDocument

theorem decode_toJson (d : KeyDocument) : decode d.toJson = .ok d := by
  have default : Json.readField "default" none Json.decodeString (Json.text d.default) =
      .ok (some d.default) := rfl
  have found : decodeCollections (.fields (d.collections.entries.map fun e => (e.1, .text e.2))) =
      .ok d.collections := Json.Members.fold_entries fun _ _ _ => rfl
  have collections := Json.readField_none "collections" found
  show ofMembers (.ofList [("default", _), ("collections", _)]) = _
  simp only [ofMembers, Json.Members.fold_cons, Json.Members.fold_nil, Draft.read, bind, Except.bind,
    pure, Except.pure, default, collections]
  rfl

theorem legible_toJson (d : KeyDocument) : d.toJson.Legible := by
  refine Json.legible_fields fun member found => ?_
  simp only [List.mem_cons, List.not_mem_nil, or_false] at found
  rcases found with rfl | rfl
  · exact Json.legible_text _
  · refine Json.legible_fields fun member found => ?_
    obtain ⟨e, -, rfl⟩ := List.mem_map.mp found
    exact Json.legible_text _

end KeyDocument

namespace KeyBundle

theorem decodeKey_toBase64 (label : String) (key : Key) : decodeKey label key.toBase64 = .ok key := by
  rw [decodeKey, Key.ofBase64_toBase64]

theorem decodeOverrides_mapEntries (keys : NameMap Key) (entries : List (String × Key)) :
    decodeOverrides keys (mapEntries Key.toBase64 entries) =
      .ok (entries.foldl (fun m e => m.insert e.1 e.2) keys) := by
  induction entries generalizing keys with
  | nil => rfl
  | cons head rest ih =>
      show (do
        let key ← decodeKey head.1 head.2.toBase64
        decodeOverrides (keys.insert head.1 key) (mapEntries Key.toBase64 rest)) = _
      rw [decodeKey_toBase64]
      exact ih (keys.insert head.1 head.2)

theorem ofDocument_document (b : KeyBundle) : ofDocument b.document = .ok b := by
  have overrides : decodeOverrides .empty b.document.collections.entries = .ok b.overrides :=
    (decodeOverrides_mapEntries .empty b.overrides.entries).trans
      (congrArg Except.ok b.overrides.ofList_entries)
  rw [ofDocument, overrides]
  show (do
    let default ← decodeKey "default" b.default.toBase64
    let overrides ← (.ok b.overrides : Except SyncError (NameMap Key))
    return ⟨default, overrides⟩ : Except SyncError KeyBundle) = _
  rw [decodeKey_toBase64]
  rfl

theorem openText_sealText (key : Key) (nonce : Nonce) (text : String) :
    openText (sealText key nonce text) key = .ok (Utf8.encode text) := by
  rw [openText, sealText, Json.decodeText_render _ (Envelope.legible_toJson _),
    Envelope.decode_toJson]
  simp only [Envelope.decrypt_encrypt]

/-- The error for a sealed text that is no document. -/
def contentsError (words : String) : SyncError := .malformed s!"key bundle contents: {words}"

section Telling

variable {tell : List UInt8 → DecodeError → String} {payload : String} {key : Key}

theorem openTelling_of_error {e : SyncError} (failed : openText payload key = .error e) :
    openTelling tell payload key = .error e := by
  rw [openTelling, failed]
  rfl

theorem openTelling_of_ok {bytes : List UInt8} (opened : openText payload key = .ok bytes) :
    openTelling tell payload key =
      match Json.decodeBytes KeyDocument.decode bytes with
      | .error e => .error (contentsError (tell bytes e))
      | .ok d => ofDocument d := by
  rw [openTelling, opened]
  rfl

end Telling

/-- A bundle that was sealed under a key is found again under the key. -/
theorem ofPayload_toPayload (b : KeyBundle) (key : Key) (nonce : Nonce) :
    ofPayload (b.toPayload key nonce) key = .ok b := by
  have document : Json.decodeBytes KeyDocument.decode (Utf8.encode b.plaintext) =
      .ok b.document := by
    rw [Json.decodeBytes_encode, plaintext, Json.decodeText_render _ (KeyDocument.legible_toJson _),
      KeyDocument.decode_toJson]
  rw [ofPayload, toPayload, openTelling_of_ok (openText_sealText key nonce b.plaintext), document]
  exact ofDocument_document b

end KeyBundle

/-! ## Metadata -/

namespace EngineMetadata

theorem decode_toJson {e : EngineMetadata} (small : e.version < Nat.pow 2 32) :
    decode e.toJson = .ok e := by
  have decoded : Json.decodeNat32 (Json.nat e.version) = .ok e.version :=
    Json.decodeNat_nat small (by decide)
  have version := Json.readField_none "version" decoded
  have syncId : Json.readField "syncID" none Json.decodeString (Json.text e.syncId) =
      .ok (some e.syncId) := rfl
  show ofMembers (.ofList [("version", _), ("syncID", _)]) = _
  simp only [ofMembers, Json.Members.fold_cons, Json.Members.fold_nil, Draft.read, bind, Except.bind,
    pure, Except.pure, version, syncId]
  rfl

theorem legible_toJson (e : EngineMetadata) : e.toJson.Legible := by
  refine Json.legible_fields fun member found => ?_
  simp only [List.mem_cons, List.not_mem_nil, or_false] at found
  rcases found with rfl | rfl
  · exact Json.legible_nat _
  · exact Json.legible_text _

end EngineMetadata

namespace GlobalMetadata

/-- The versions in metadata have thirty-two bits. -/
structure Fits (m : GlobalMetadata) : Prop where
  storageVersion : m.storageVersion < Nat.pow 2 32
  engines : ∀ e ∈ m.engines.entries, e.2.version < Nat.pow 2 32

theorem decode_toJson {m : GlobalMetadata} (fits : m.Fits) : decode m.toJson = .ok m := by
  have syncId : Json.readField "syncID" none Json.decodeString (Json.text m.syncId) =
      .ok (some m.syncId) := rfl
  have decoded : Json.decodeNat32 (Json.nat m.storageVersion) = .ok m.storageVersion :=
    Json.decodeNat_nat fits.storageVersion (by decide)
  have storageVersion := Json.readField_none "storageVersion" decoded
  have found : decodeEngines (.fields (m.engines.entries.map fun e => (e.1, e.2.toJson))) =
      .ok m.engines := by
    refine Json.Members.fold_entries fun n e member => ?_
    rw [addEngine, EngineMetadata.decode_toJson (fits.engines e member)]
    rfl
  have engines := Json.readField_none "engines" found
  show ofMembers (.ofList [("syncID", _), ("storageVersion", _), ("engines", _)]) = _
  simp only [ofMembers, Json.Members.fold_cons, Json.Members.fold_nil, Draft.read, bind, Except.bind,
    pure, Except.pure, syncId, storageVersion, engines]
  rfl

theorem legible_toJson (m : GlobalMetadata) : m.toJson.Legible := by
  refine Json.legible_fields fun member found => ?_
  simp only [List.mem_cons, List.not_mem_nil, or_false] at found
  rcases found with rfl | rfl | rfl
  · exact Json.legible_text _
  · exact Json.legible_nat _
  · refine Json.legible_fields fun member found => ?_
    obtain ⟨e, -, rfl⟩ := List.mem_map.mp found
    exact EngineMetadata.legible_toJson _

end GlobalMetadata

namespace RemoteState

/-- Metadata that were published are found again. -/
theorem decodeMetadata_render {m : GlobalMetadata} (fits : m.Fits) :
    decodeMetadata m.toJson.render = .ok m := by
  rw [decodeMetadata, Json.decodeText_render _ m.legible_toJson, GlobalMetadata.decode_toJson fits]

theorem decodeMetadata_error {payload : String} {e : SyncError}
    (failed : decodeMetadata payload = .error e) : e.Unusable := by
  unfold decodeMetadata at failed
  split at failed
  · cases failed
  · exact .inr ⟨_, (Except.error.inj failed).symm⟩

end RemoteState

namespace KeyBundle

theorem openText_error {payload : String} {key : Key} {e : SyncError}
    (failed : openText payload key = .error e) : e.Unusable ∨ e = .decryptFailed := by
  unfold openText at failed
  split at failed
  · exact .inl (.inr ⟨_, (Except.error.inj failed).symm⟩)
  · split at failed
    · cases failed
    · exact .inr (Except.error.inj failed).symm
    · rename_i other unopened
      obtain ⟨reason, rfl⟩ := Envelope.decrypt_error unopened
      exact absurd rfl (other reason)

theorem decodeKey_error {label text : String} {e : SyncError}
    (failed : decodeKey label text = .error e) : e.Unusable := by
  unfold decodeKey at failed
  split at failed
  · cases failed
  · exact .inr ⟨_, (Except.error.inj failed).symm⟩

theorem decodeOverrides_error {keys : NameMap Key} {entries : List (String × String)}
    {e : SyncError} (failed : decodeOverrides keys entries = .error e) : e.Unusable := by
  induction entries generalizing keys with
  | nil => cases failed
  | cons head rest ih =>
      simp only [decodeOverrides, bind, Except.bind] at failed
      cases read : decodeKey head.1 head.2 with
      | error found =>
          simp only [read, Except.error.injEq] at failed
          exact failed ▸ decodeKey_error read
      | ok key =>
          simp only [read] at failed
          exact ih failed

theorem ofDocument_error {d : KeyDocument} {e : SyncError} (failed : ofDocument d = .error e) :
    e.Unusable := by
  simp only [ofDocument, bind, Except.bind] at failed
  cases default : decodeKey "default" d.default with
  | error found =>
      simp only [default, Except.error.injEq] at failed
      exact failed ▸ decodeKey_error default
  | ok key =>
      cases overrides : decodeOverrides .empty d.collections.entries with
      | error found =>
          simp only [default, overrides, Except.error.injEq] at failed
          exact failed ▸ decodeOverrides_error overrides
      | ok keys => simp [default, overrides, pure, Except.pure] at failed

/-- A payload that is no bundle under a key is malformed, or it does not open under the key. -/
theorem ofPayload_error {payload : String} {key : Key} {e : SyncError}
    (failed : ofPayload payload key = .error e) : e.Unusable ∨ e = .decryptFailed := by
  cases opened : openText payload key with
  | error found =>
      rw [ofPayload, openTelling_of_error opened] at failed
      exact Except.error.inj failed ▸ openText_error opened
  | ok bytes =>
      rw [ofPayload, openTelling_of_ok opened] at failed
      cases decoded : Json.decodeBytes KeyDocument.decode bytes with
      | error found =>
          rw [decoded] at failed
          exact .inl (.inr ⟨_, (Except.error.inj failed).symm⟩)
      | ok d =>
          rw [decoded] at failed
          exact .inl (ofDocument_error failed)

end KeyBundle

end SealedSync
