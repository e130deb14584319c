import SealedSync.Proofs.BundleDocument
import SealedSync.Proofs.Disclosure

/-!
# What becomes of a payload that is opened

A payload that holds no envelope is malformed. One whose envelope the key does not authenticate fails to be
decrypted, and this is said of no other. What an authentic envelope seals is the bundle that is written there,
or it is malformed.
-/
namespace SealedSync

namespace Envelope

/-- The ciphertext ends in the tag that the key gives to what comes before. -/
def Authentic (key : Key) (e : Envelope) : Prop :=
  ∃ body, e.ciphertext = body ++ (tagOf key e.nonce body).val

/-- What the ciphertext of an authentic envelope deciphers to. -/
def plaintext (key : Key) (e : Envelope) : List UInt8 := ChaCha20.apply key.bytes e.nonce e.body

theorem Authentic.long {key : Key} {e : Envelope} (authentic : e.Authentic key) :
    tagSize ≤ e.ciphertext.length := by
  obtain ⟨body, same⟩ := authentic
  rw [same, List.length_append, (tagOf key e.nonce body).property]
  exact Nat.le_add_left ..

theorem Authentic.tag_eq {key : Key} {e : Envelope} (authentic : e.Authentic key) :
    e.tag = (tagOf key e.nonce e.body).val := by
  obtain ⟨body, same⟩ := authentic
  have length : e.ciphertext.length - tagSize = body.length := by
    rw [same, List.length_append, (tagOf key e.nonce body).property]
    exact Nat.add_sub_cancel ..
  rw [Envelope.tag, Envelope.body, length, same, List.drop_left, List.take_left]

/-- A key opens the envelopes that it authenticates. -/
theorem decrypt_of_authentic {key : Key} {e : Envelope} (authentic : e.Authentic key) :
    decrypt key e = .ok (e.plaintext key) := by
  rw [decrypt, if_neg (Nat.not_lt.mpr authentic.long), if_pos authentic.tag_eq]
  rfl

/-- Data that is long enough for a tag and does not end in the right one counts as tampered. -/
theorem decrypt_of_mistagged {key : Key} {e : Envelope} (long : tagSize ≤ e.ciphertext.length)
    (foreign : ¬e.Authentic key) :
    decrypt key e = .error (.decryption "wrong key or tampered data") := by
  have mismatch : e.tag ≠ (tagOf key e.nonce e.body).val := fun same =>
    foreign ⟨e.body, by rw [← same]; exact (List.take_append_drop ..).symm⟩
  rw [decrypt, if_neg (Nat.not_lt.mpr long), if_neg mismatch]

theorem decrypt_of_not_authentic {key : Key} {e : Envelope} (foreign : ¬e.Authentic key) :
    ∃ reason, decrypt key e = .error (.decryption reason) := by
  by_cases short : e.ciphertext.length < tagSize
  · exact ⟨_, if_pos short⟩
  · exact ⟨_, decrypt_of_mistagged (Nat.not_lt.mp short) foreign⟩

/-- A text holds the envelope. -/
def HeldBy (e : Envelope) (payload : String) : Prop :=
  ∃ value, Json.Holds (.ofText payload) value ∧ Written e value

theorem heldBy_iff {e : Envelope} {payload : String} :
    e.HeldBy payload ↔ Json.decodeText decode payload = .ok e := by
  have thorough : Json.Thorough decode := by
    intro value e decoded
    cases decode_eq_ok.mp decoded with
    | object _ intact => exact intact
    | array => rfl
  rw [Json.decodeText, Json.decodeSource_eq_ok_iff thorough]
  simp only [decode_eq_ok, HeldBy]

/-- An envelope is held by the text that it is written to. -/
theorem heldBy_render (e : Envelope) : e.HeldBy e.toJson.render := by
  rw [heldBy_iff, Json.decodeText_render _ e.legible_toJson, e.decode_toJson]

end Envelope

namespace KeyBundle

/-- What becomes of a payload that is opened under a key. -/
structure Judged (payload : String) (key : Key) : Prop where
  unheld : (¬∃ e : Envelope, e.HeldBy payload) →
    ∃ reason, ofPayload payload key = .error (.malformed reason)
  locked : ∀ e : Envelope, e.HeldBy payload →
    (ofPayload payload key = .error .decryptFailed ↔ ¬e.Authentic key)
  short : ∀ e : Envelope, e.HeldBy payload → e.ciphertext.length < Envelope.tagSize →
    ofPayload payload key = .error .decryptFailed
  unreadable : ∀ e : Envelope, e.HeldBy payload → e.Authentic key →
    ((∃ reason, ofPayload payload key = .error (.malformed reason)) ↔ ¬HoldKeys (e.plaintext key))
  opened : ∀ e : Envelope, e.HeldBy payload → e.Authentic key →
    ∀ b, ofPayload payload key = .ok b ↔ b.WrittenIn (e.plaintext key)
  complete : ∀ error, ofPayload payload key = .error error →
    error = .decryptFailed ∨ ∃ reason, error = .malformed reason

section Judged

variable {payload : String} {key : Key}

theorem ofPayload_of_not_held (unheld : ¬∃ e : Envelope, e.HeldBy payload) :
    ∃ reason, ofPayload payload key = .error (.malformed reason) := by
  cases decoded : Json.decodeText Envelope.decode payload with
  | ok e => exact absurd ⟨e, Envelope.heldBy_iff.mpr decoded⟩ unheld
  | error problem =>
      have failed : openText payload key =
          .error (.malformed s!"key bundle envelope: {problem.message}") := by
        rw [openText, decoded]
      exact ⟨_, openTelling_of_error failed⟩

theorem ofPayload_of_not_authentic {e : Envelope} (held : e.HeldBy payload)
    (foreign : ¬e.Authentic key) : ofPayload payload key = .error .decryptFailed := by
  obtain ⟨reason, refused⟩ := Envelope.decrypt_of_not_authentic foreign
  have failed : openText payload key = .error .decryptFailed := by
    rw [openText, Envelope.heldBy_iff.mp held]
    simp only [refused]
  exact openTelling_of_error failed

theorem openText_of_authentic {e : Envelope} (held : e.HeldBy payload) (authentic : e.Authentic key) :
    openText payload key = .ok (e.plaintext key) := by
  rw [openText, Envelope.heldBy_iff.mp held]
  simp only [Envelope.decrypt_of_authentic authentic]

theorem ofPayload_eq_ok {bytes : List UInt8} (opened : openText payload key = .ok bytes)
    {b : KeyBundle} : ofPayload payload key = .ok b ↔ b.WrittenIn bytes := by
  rw [ofPayload, openTelling_of_ok opened, writtenIn_iff]
  cases Json.decodeBytes KeyDocument.decode bytes with
  | error problem => simp only [reduceCtorEq]
  | ok d => rw [Except.ok.injEq, ← ofDocument_eq_ok]

theorem malformed_of_opened {bytes : List UInt8} (opened : openText payload key = .ok bytes)
    {error : SyncError} (failed : ofPayload payload key = .error error) :
    ∃ reason, error = .malformed reason := by
  cases refused_of_error opened failed with
  | contents => exact ⟨_, rfl⟩
  | entry => exact ⟨_, rfl⟩

theorem judged (payload : String) (key : Key) : Judged payload key where
  unheld := ofPayload_of_not_held
  locked e held := by
    refine ⟨fun failed authentic => ?_, ofPayload_of_not_authentic held⟩
    obtain ⟨reason, impossible⟩ := malformed_of_opened (openText_of_authentic held authentic) failed
    cases impossible
  short e held short :=
    ofPayload_of_not_authentic held fun authentic => Nat.not_lt.mpr authentic.long short
  unreadable e held authentic := by
    have opened := openText_of_authentic held authentic
    rw [holdKeys_iff]
    constructor
    · rintro ⟨reason, failed⟩ ⟨b, written⟩
      rw [(ofPayload_eq_ok opened).mpr written] at failed
      cases failed
    · intro unreadable
      cases read : ofPayload payload key with
      | ok b => exact absurd ⟨b, (ofPayload_eq_ok opened).mp read⟩ unreadable
      | error error =>
          obtain ⟨reason, rfl⟩ := malformed_of_opened opened read
          exact ⟨reason, rfl⟩
  opened e held authentic b := ofPayload_eq_ok (openText_of_authentic held authentic)
  complete error failed := by
    by_cases held : ∃ e : Envelope, e.HeldBy payload
    · obtain ⟨e, held⟩ := held
      by_cases authentic : e.Authentic key
      · exact .inr (malformed_of_opened (openText_of_authentic held authentic) failed)
      · rw [ofPayload_of_not_authentic held authentic] at failed
        exact .inl (Except.error.inj failed).symm
    · obtain ⟨reason, malformed⟩ := @ofPayload_of_not_held payload key held
      rw [malformed] at failed
      exact .inr ⟨reason, (Except.error.inj failed).symm⟩

end Judged

end KeyBundle

end SealedSync
