import SealedSync.Proofs.BundleOpening

/-!
# Sealing and opening undo each other

Under a key and a nonce a text is opened from one ciphertext only, which is the one it is sealed to. Of the
tags that may stand behind an enciphered text, one is accepted.
-/
namespace SealedSync.Envelope

section

variable (key : Key) (nonce : Nonce)

/-- The text that is sealed to an enciphered text is the deciphered one. -/
theorem encrypt_apply (body : List UInt8) :
    encrypt key nonce (ChaCha20.apply key.bytes nonce body) =
      ⟨nonce, body ++ (tagOf key nonce body).val⟩ := by
  rw [encrypt, ChaCha20.apply_apply]

theorem length_encrypt (text : List UInt8) :
    (encrypt key nonce text).ciphertext.length = text.length + tagSize := by
  rw [encrypt, List.length_append, ChaCha20.length_apply, (tagOf ..).property]
  rfl

theorem authentic_tagged_iff {body : List UInt8} {tag : FixedBytes 16} :
    Authentic key ⟨nonce, body ++ tag.val⟩ ↔ tag = tagOf key nonce body := by
  constructor
  · rintro ⟨front, same⟩
    have sizes : tag.val.length = (tagOf key nonce front).val.length :=
      tag.property.trans (tagOf key nonce front).property.symm
    obtain ⟨rfl, tags⟩ := List.append_inj' same sizes
    exact Subtype.ext tags
  · rintro rfl
    exact ⟨body, rfl⟩

/-- Sealed data is authentic if and only if it comes from sealing a text. -/
theorem authentic_iff_encrypt {e : Envelope} :
    e.Authentic key ↔ ∃ text, encrypt key e.nonce text = e := by
  constructor
  · rintro ⟨body, same⟩
    refine ⟨ChaCha20.apply key.bytes e.nonce body, ?_⟩
    rw [encrypt_apply, ← same]
  · rintro ⟨text, same⟩
    exact ⟨ChaCha20.apply key.bytes e.nonce text, (congrArg Envelope.ciphertext same).symm⟩

theorem authentic_of_decrypt {e : Envelope} {text : List UInt8} (opened : decrypt key e = .ok text) :
    e.Authentic key := by
  by_cases authentic : e.Authentic key
  · exact authentic
  · obtain ⟨reason, refused⟩ := decrypt_of_not_authentic authentic
    rw [refused] at opened
    cases opened

theorem encrypt_of_decrypt {e : Envelope} {text : List UInt8} (opened : decrypt key e = .ok text) :
    encrypt key e.nonce text = e := by
  obtain ⟨source, sealed⟩ := (authentic_iff_encrypt key).mp (authentic_of_decrypt key opened)
  have own : decrypt key e = .ok source := by
    rw [← sealed]
    exact decrypt_encrypt ..
  rwa [← Except.ok.inj (own.symm.trans opened)]

/-- What sealing and opening are to each other under a key and a nonce. -/
structure Inverse : Prop where
  opens : ∀ text, decrypt key (encrypt key nonce text) = .ok text
  grows : ∀ text, (encrypt key nonce text).ciphertext.length = text.length + tagSize
  seals : ∀ ciphertext text, decrypt key ⟨nonce, ciphertext⟩ = .ok text →
    encrypt key nonce text = ⟨nonce, ciphertext⟩
  tagged : ∀ body, ∃ tag : FixedBytes 16,
    (∃ text, decrypt key ⟨nonce, body ++ tag.val⟩ = .ok text) ∧
      ∀ other : FixedBytes 16, other ≠ tag →
        decrypt key ⟨nonce, body ++ other.val⟩ = .error (.decryption "wrong key or tampered data")
  short : ∀ ciphertext : List UInt8, ciphertext.length < tagSize →
    decrypt key ⟨nonce, ciphertext⟩ =
      .error (.decryption s!"ciphertext too short: {ciphertext.length} bytes")

/-- The data that is opened is the data that was sealed, and of the tags behind an enciphered text
all but one are refused. -/
theorem encrypt_decrypt_inverse : Inverse key nonce where
  opens := decrypt_encrypt key nonce
  grows := length_encrypt key nonce
  seals _ _ opened := encrypt_of_decrypt key opened
  tagged body := by
    refine ⟨tagOf key nonce body,
      ⟨_, decrypt_of_authentic ((authentic_tagged_iff key nonce).mpr rfl)⟩, fun other changed => ?_⟩
    refine decrypt_of_mistagged ?_ (mt (authentic_tagged_iff key nonce).mp changed)
    rw [List.length_append, other.property]
    exact Nat.le_add_left ..
  short _ small := if_pos small

end

end SealedSync.Envelope
