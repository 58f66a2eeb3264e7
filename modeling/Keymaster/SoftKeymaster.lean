/-
# The software keymaster with HMAC keys

`AndroidSoftKeymaster` enforces no tag, stamps generated keys with the origin `SOFTWARE`, binds
the root of trust `"SW"` into every blob and seals under sixteen zero bytes with a nonce of
twelve zero bytes. The model registers the HMAC operation factories, whose code is among the
sources, and the HMAC key factory, whose code (`symmetric_key.cpp`) is not and which is modelled
from the specification.

For this implementation `BeginOperation` is characterized exactly: it succeeds when the blob
opens for the client, holds an HMAC key with a supported digest, the purpose is one an HMAC
factory is registered for, the begin parameters' MAC length is a multiple of 8, the draw is
non-zero and a slot is empty. The key's `PURPOSE` authorizations take no part.
-/

import Keymaster.Hmac

set_option autoImplicit false

namespace Keymaster

/-- The HMAC `KeyFactory`. Modelled from the spec: a generated key has `KEY_SIZE / 8` bytes of
the backend's randomness (`UNSUPPORTED_KEY_SIZE` without a `KEY_SIZE`), raw key bytes import as
they are, a loaded key is `SymmetricKey(blob)` with the blob's key material as `key_data`, and
symmetric keys do not export. -/
def hmacKeyFactory : KeyFactory where
  registryKey := .hmac
  generateKey keyDescription entropy :=
    match keyDescription.getTagValue KeyParam.keySize? with
    | none => .error .unsupportedKeySize
    | some keySize => .ok ⟨keyDescription, entropy.take (keySize / 8).toNat⟩
  importKey keyDescription keyFormat keyData :=
    if keyFormat = .raw then .ok ⟨keyDescription, keyData⟩ else .error .unsupportedKeyFormat
  loadKey blob := .ok (Key.ofBlob blob)
  formattedKeyMaterial _ _ := .error .unsupportedKeyFormat
  supportedImportFormats := [.raw]
  supportedExportFormats := []

/-- `AndroidSoftKeymaster` with the HMAC factories, on a platform whose `size_t` has `w` bits,
with the backend's HMAC and an AEAD for its blobs. -/
def softKeymaster {Ct : Type} (w : Nat) (hmac : Digest → List UInt8 → List UInt8 → List UInt8)
    (aead : Aead Ct) : KeymasterContext HmacOperation Ct where
  isEnforced _ := false
  origin := .software
  rootOfTrustTag := .rootOfTrust [83, 87]
  masterKey := List.replicate 16 0
  generateNonce _ := List.replicate 12 0
  aead := aead
  keyFactories := [hmacKeyFactory]
  operationFactories := [hmacSignOperationFactory, hmacVerifyOperationFactory]
  operations := hmacOperationClass w hmac

/-- A blob the software keymaster seals under the zero nonce: an HMAC-SHA256 key of sixteen zero
bytes, made without client identifiers. -/
def sampleHmacBlob : KeyBlob SealedBox :=
  UnencryptedKeyBlob.sealBlob symbolicAead (List.replicate 16 0) []
    ⟨.empty, ⟨[.algorithm .hmac, .digest .sha256]⟩, ⟨[.rootOfTrust [83, 87]]⟩,
      List.replicate 16 0⟩

section Soft

variable {Ct : Type} (w : Nat) (hmac : Digest → List UInt8 → List UInt8 → List UInt8)
  (aead : Aead Ct)

@[simp]
theorem softKeymaster_operations :
    (softKeymaster w hmac aead).operations = hmacOperationClass w hmac := rfl

theorem softKeymaster_getKeyFactory (algorithm : Algorithm) :
    (softKeymaster w hmac aead).getKeyFactory algorithm =
      if algorithm = .hmac then some hmacKeyFactory else none := by
  cases algorithm <;> rfl

theorem softKeymaster_getOperationFactory (algorithm : Algorithm) (purpose : Purpose) :
    (softKeymaster w hmac aead).getOperationFactory algorithm purpose =
      if algorithm = .hmac ∧ (purpose = .sign ∨ purpose = .verify) then
        some (hmacOperationFactory purpose)
      else none := by
  cases algorithm <;> cases purpose <;> rfl

/-- The HMAC factories follow the source's convention for failures. -/
theorem softKeymaster_conventional : (softKeymaster w hmac aead).Conventional where
  loadKey_error factory hf blob e h := by
    rw [List.mem_singleton.mp hf] at h
    cases h
  createOperation_error factory hf key params e h := by
    have he : e = .unsupportedMacLength ∨ e = .unsupportedDigest := by
      rcases List.mem_pair.mp hf with rfl | rfl <;> exact hmacCreateOperation_error h
    rcases he with rfl | rfl <;> exact ⟨nofun, nofun⟩
  begin_error factory hf key params operation h := by
    have hcreated : ∃ purpose, hmacCreateOperation purpose key params = .ok operation := by
      rcases List.mem_pair.mp hf with rfl | rfl <;> exact ⟨_, h⟩
    obtain ⟨_, hcreated⟩ := hcreated
    obtain ⟨-, -, rfl⟩ := hmacCreateOperation_eq_ok.mp hcreated
    nofun

/-- An operation starts on the software keymaster exactly when the blob opens for the client's
parameters and holds an HMAC key with a supported digest, the purpose is one an HMAC factory is
registered for and the begin parameters' MAC length is a multiple of 8; the operation then keeps
the key bytes, the key's digest and that length over 8, and no output parameter is written. -/
theorem softKeymaster_startOperation_eq_ok {purpose : Purpose} {keyBlob : KeyBlob Ct}
    {additionalParams outputParams : AuthorizationSet} {op : HmacOperation} :
    (softKeymaster w hmac aead).startOperation purpose keyBlob additionalParams =
        .ok (outputParams, op) ↔
      ∃ blob, (softKeymaster w hmac aead).loadKeyBlob keyBlob additionalParams = .ok blob ∧
        blob.algorithm = some .hmac ∧ hmacDigest (Key.ofBlob blob) ∈ hmacSupportedDigests ∧
        (purpose = .sign ∨ purpose = .verify) ∧ hmacMacLength additionalParams % 8 = 0 ∧
        outputParams = .empty ∧ op = ⟨purpose, blob.keyMaterial, hmacDigest (Key.ofBlob blob),
          (hmacMacLength additionalParams / 8).toNat, .ok, []⟩ := by
  set ctx := softKeymaster w hmac aead
  constructor
  · intro hs
    obtain ⟨algorithm, key, factory, created, hk, hf, hc, hbegin⟩ :=
      ctx.startOperation_eq_ok.mp hs
    obtain ⟨blob, keyFactory, hb, ha, hkf, hkl⟩ := ctx.loadKey_eq_ok.mp hk
    rw [softKeymaster_getKeyFactory] at hkf
    split_ifs at hkf with halg
    subst halg
    cases hkf
    cases hkl
    rw [softKeymaster_getOperationFactory] at hf
    split_ifs at hf with hp
    cases hf
    obtain ⟨hm, hd, rfl⟩ := hmacCreateOperation_eq_ok.mp hc
    cases hbegin
    exact ⟨blob, hb, ha, hd, hp.2, hm, rfl, rfl⟩
  · rintro ⟨blob, hb, ha, hd, hp, hm, rfl, rfl⟩
    have hf : ctx.getOperationFactory .hmac purpose = some (hmacOperationFactory purpose) := by
      rw [softKeymaster_getOperationFactory, if_pos ⟨rfl, hp⟩]
    exact ctx.startOperation_eq_ok.mpr ⟨.hmac, Key.ofBlob blob, _, _,
      ctx.loadKey_eq_ok.mpr ⟨blob, hmacKeyFactory, hb, ha, rfl, rfl⟩, hf,
      hmacCreateOperation_eq_ok.mpr ⟨hm, hd, rfl⟩, rfl⟩

/-- `ImportKey` on the software keymaster succeeds only for a description whose first `ALGORITHM`
is HMAC and raw key bytes, which it seals as a key with the description as its authorizations and
the bytes as its material. -/
theorem softKeymaster_importKey_ok {env : Env} {keyDescription : AuthorizationSet}
    {keyFormat : KeyFormat} {keyData : List UInt8} {keyBlob : KeyBlob Ct}
    {enforced unenforced : AuthorizationSet}
    (h : (softKeymaster w hmac aead).importKey env keyDescription keyFormat keyData =
      .importKey .ok (some keyBlob) enforced unenforced) :
    keyDescription.getTagValue KeyParam.algorithm? = some .hmac ∧ keyFormat = .raw ∧
      (softKeymaster w hmac aead).serializeKey env ⟨keyDescription, keyData⟩ .imported =
        .ok (keyBlob, enforced, unenforced) := by
  unfold KeymasterContext.importKey at h
  cases halg : keyDescription.getTagValue KeyParam.algorithm? with
  | none => simp [halg] at h
  | some algorithm =>
      by_cases hhmac : algorithm = .hmac
      · subst hhmac
        by_cases hraw : keyFormat = .raw
        · subst hraw
          simp only [halg, Option.some_bind, softKeymaster_getKeyFactory, if_true,
            hmacKeyFactory] at h
          split at h
          · cases h
          · rename_i hs
            cases h
            exact ⟨rfl, rfl, hs⟩
        · simp [halg, softKeymaster_getKeyFactory, hmacKeyFactory, hraw] at h
      · simp [halg, softKeymaster_getKeyFactory, hhmac] at h

/-- For the software implementation, `BeginOperation` succeeds exactly when the blob opens for
the client's parameters and holds an HMAC key with a supported digest, an HMAC factory is
registered for the purpose, the begin parameters' MAC length is a multiple of 8, the draw is
non-zero and a slot is empty. No condition reads the key's `PURPOSE` authorizations. -/
theorem softKeymaster_beginOperation_ok_iff (env : Env) (table : List (OpTableEntry HmacOperation))
    (purpose : Purpose) (keyBlob : KeyBlob Ct) (additionalParams : AuthorizationSet) :
    ((softKeymaster w hmac aead).beginOperation env table purpose keyBlob
        additionalParams).1.error = .ok ↔
      (∃ blob, (softKeymaster w hmac aead).loadKeyBlob keyBlob additionalParams = .ok blob ∧
        blob.algorithm = some .hmac ∧ hmacDigest (Key.ofBlob blob) ∈ hmacSupportedDigests) ∧
      (purpose = .sign ∨ purpose = .verify) ∧ hmacMacLength additionalParams % 8 = 0 ∧
      (∃ opHandle, env.rand = some opHandle ∧ opHandle ≠ 0) ∧ (firstEmptySlot table).isSome := by
  constructor
  · intro h
    rcases (softKeymaster w hmac aead).beginOperation_cases env table purpose keyBlob
        additionalParams with
      ⟨error, _, hs, hb⟩ | ⟨_, _, error, -, ha, hb⟩ |
        ⟨_, _, opHandle, i, hs, hi, h0, hr, -⟩
    · rw [hb] at h
      exact absurd h ((softKeymaster_conventional w hmac aead).startOperation_error_ne hs).1
    · rw [hb] at h
      exact absurd h (addOperation_error ha).1
    · obtain ⟨blob, hb, ha, hd, hp, hm, -⟩ :=
        (softKeymaster_startOperation_eq_ok w hmac aead).mp hs
      exact ⟨⟨blob, hb, ha, hd⟩, hp, hm, ⟨opHandle, hr, h0⟩, by rw [hi]; rfl⟩
  · rintro ⟨⟨blob, hb, ha, hd⟩, hp, hm, ⟨opHandle, hr, h0⟩, hslot⟩
    obtain ⟨i, hi⟩ := Option.isSome_iff_exists.mp hslot
    simp only [KeymasterContext.beginOperation, hr, addOperation_some h0 hi,
      (softKeymaster_startOperation_eq_ok w hmac aead).mpr ⟨blob, hb, ha, hd, hp, hm, rfl, rfl⟩]
    rfl

/-- A blob of an HMAC-SHA256 key whose only `PURPOSE` is `VERIFY` begins a `SIGN` operation. -/
theorem beginOperation_sign_with_verify_only_key :
    ∃ keyBlob characteristics,
      (softKeymaster 64 zeroMac symbolicAead).serializeKey ⟨0, List.replicate 12 0, some 1, []⟩
          ⟨⟨[.algorithm .hmac, .keySize 128, .purpose .verify, .digest .sha256,
            .applicationId [97, 112, 112, 95, 105, 100]]⟩, List.replicate 16 0⟩ .software =
        .ok (keyBlob, characteristics) ∧
      ((softKeymaster 64 zeroMac symbolicAead).beginOperation
          ⟨0, List.replicate 12 0, some 1, []⟩ [.empty] .sign keyBlob
          ⟨[.applicationId [97, 112, 112, 95, 105, 100], .macLength 128]⟩).1 =
        .beginOperation .ok 1 .empty :=
  ⟨_, _, rfl, rfl⟩

end Soft

/-- The key of the test `HmacSha256NoMacLength`, generated without `MAC_LENGTH`, begins a `SIGN`
operation with the tests' client parameters: `BeginOperation` answers `OK` and stores an
operation with tag length 0. -/
theorem beginOperation_hmac_without_macLength :
    ∃ keyBlob enforced unenforced,
      (softKeymaster 64 zeroMac symbolicAead).generateKey
          ⟨0, List.replicate 12 0, some 1, List.replicate 16 0⟩
          ⟨[.algorithm .hmac, .keySize 128, .purpose .sign, .purpose .verify, .digest .sha256,
            .applicationId [97, 112, 112, 95, 105, 100]]⟩ =
        .generateKey .ok (some keyBlob) enforced unenforced ∧
      (softKeymaster 64 zeroMac symbolicAead).beginOperation
          ⟨0, List.replicate 12 0, some 1, List.replicate 16 0⟩ [.empty] .sign keyBlob
          ⟨[.applicationId [97, 112, 112, 95, 105, 100]]⟩ =
        (.beginOperation .ok 1 .empty,
          [⟨1, some ⟨.sign, List.replicate 16 0, .sha256, 0, .ok, []⟩⟩]) :=
  ⟨_, _, _, rfl, rfl⟩

end Keymaster
