/-
# Key blobs

A key blob carries the nonce, the enforced and unenforced sets in clear, and the key material
sealed by an AEAD under the service's master key. The associated data binds the two sets and the
hidden set (the client's application identifier and data, and the service's root of trust), so
a blob opens only for the client parameters it was made with.

`key_blob.cpp` and `unencrypted_key_blob.cpp` are not among the sources: the blob is modelled
from the specification (its section on the key-blob codec) at the level of its fields, with the
AEAD as an ideal scheme. An `Aead` carries its one law as a field: decryption succeeds exactly
under the key, nonce and associated data of the encryption, and returns its plaintext.
-/

import Keymaster.Defs

set_option autoImplicit false

namespace Keymaster

/-- The associated data of a blob's AEAD: the serialized enforced, unenforced and hidden sets,
which the length-prefixed set format makes a faithful encoding of the three sets. -/
structure AssociatedData where
  enforced : AuthorizationSet
  unenforced : AuthorizationSet
  hidden : AuthorizationSet
  deriving DecidableEq, Repr

/-- An ideal authenticated encryption scheme with ciphertexts in `Ct`. -/
structure Aead (Ct : Type) where
  encrypt : (key nonce : List UInt8) → AssociatedData → (plaintext : List UInt8) → Ct
  decrypt : (key nonce : List UInt8) → AssociatedData → Ct → Option (List UInt8)
  decrypt_encrypt : ∀ key nonce ad plaintext key' nonce' ad',
    decrypt key' nonce' ad' (encrypt key nonce ad plaintext) =
      if key' = key ∧ nonce' = nonce ∧ ad' = ad then some plaintext else none

/-- A symbolic ciphertext: the sealed record of what was encrypted. -/
structure SealedBox where
  key : List UInt8
  nonce : List UInt8
  ad : AssociatedData
  plaintext : List UInt8
  deriving DecidableEq, Repr

/-- The symbolic AEAD: a ciphertext opens only under the key, nonce and associated data it
records. It is an instance of the ideal scheme, so models built over it compute. -/
def symbolicAead : Aead SealedBox where
  encrypt key nonce ad plaintext := ⟨key, nonce, ad, plaintext⟩
  decrypt key nonce ad box :=
    if key = box.key ∧ nonce = box.nonce ∧ ad = box.ad then some box.plaintext else none
  decrypt_encrypt _ _ _ _ _ _ _ := rfl

/-- `keymaster_key_blob_t` by the fields of its wire layout
`nonce ‖ enforced ‖ unenforced ‖ u32 length ‖ ciphertext ‖ tag`, the last three sealed
together in `encryptedKeyMaterial`. -/
structure KeyBlob (Ct : Type) where
  nonce : List UInt8
  enforced : AuthorizationSet
  unenforced : AuthorizationSet
  encryptedKeyMaterial : Ct
  deriving DecidableEq, Repr

/-- `UnencryptedKeyBlob`: a blob's sets with its hidden set and plaintext key material. -/
structure UnencryptedKeyBlob where
  enforced : AuthorizationSet
  unenforced : AuthorizationSet
  hidden : AuthorizationSet
  keyMaterial : List UInt8
  deriving DecidableEq, Repr

namespace UnencryptedKeyBlob

variable {Ct : Type}

/-- The associated data a blob binds. -/
def associatedData (blob : UnencryptedKeyBlob) : AssociatedData :=
  ⟨blob.enforced, blob.unenforced, blob.hidden⟩

/-- `algorithm()`: the first `ALGORITHM` of the enforced set, else of the unenforced set. -/
def algorithm (blob : UnencryptedKeyBlob) : Option Algorithm :=
  match blob.enforced.getTagValue KeyParam.algorithm? with
  | some a => some a
  | none => blob.unenforced.getTagValue KeyParam.algorithm?

/-- The sealing constructor followed by `Serialize`: encrypt the key material under the master
key and nonce, binding the three sets. -/
def sealBlob (aead : Aead Ct) (masterKey nonce : List UInt8) (blob : UnencryptedKeyBlob) :
    KeyBlob Ct :=
  ⟨nonce, blob.enforced, blob.unenforced,
    aead.encrypt masterKey nonce blob.associatedData blob.keyMaterial⟩

/-- The unsealing constructor `UnencryptedKeyBlob(key, hidden, master_key)`: decrypt under the
given hidden set, or `INVALID_KEY_BLOB`. -/
def unsealBlob (aead : Aead Ct) (masterKey : List UInt8) (hidden : AuthorizationSet)
    (keyBlob : KeyBlob Ct) : Except KeymasterError UnencryptedKeyBlob :=
  match aead.decrypt masterKey keyBlob.nonce ⟨keyBlob.enforced, keyBlob.unenforced, hidden⟩
      keyBlob.encryptedKeyMaterial with
  | some keyMaterial => .ok ⟨keyBlob.enforced, keyBlob.unenforced, hidden, keyMaterial⟩
  | none => .error .invalidKeyBlob

/-- A sealed blob opens under the master key exactly with the hidden set it was sealed with, and
then gives back the blob. -/
theorem unsealBlob_sealBlob (aead : Aead Ct) (masterKey nonce : List UInt8)
    (hidden : AuthorizationSet) (blob : UnencryptedKeyBlob) :
    unsealBlob aead masterKey hidden (sealBlob aead masterKey nonce blob) =
      if hidden = blob.hidden then .ok blob else .error .invalidKeyBlob := by
  simp only [unsealBlob, sealBlob, aead.decrypt_encrypt, associatedData, AssociatedData.mk.injEq,
    true_and]
  split_ifs with h <;> simp_all

end UnencryptedKeyBlob

/-- A loaded `Key`: its authorization set and the key material its factory parsed. -/
structure Key where
  authorizations : AuthorizationSet
  keyMaterial : List UInt8
  deriving DecidableEq, Repr

/-- `Key::Key(const KeyBlob&)`: the authorizations are the blob's unenforced entries followed by
its enforced entries. -/
def Key.ofBlob (blob : UnencryptedKeyBlob) : Key :=
  ⟨blob.unenforced.pushBackSet blob.enforced, blob.keyMaterial⟩

end Keymaster
