/-
# The life of an ECDSA key

`EcdsaKeyFactory` is the one asymmetric key factory whose code is among the sources. This module
registers it in any `GoogleKeymaster` and follows a key through the API: `GenerateKey` or
`ImportKey` makes it and `SerializeKey` seals it, `LoadKey` gives it back to every client the blob
is bound to, and `ExportKey` writes its public key. What ties the steps together is that the
characteristics describe the key material: the material parses, the first `ALGORITHM` is ECDSA,
and the first `KEY_SIZE` is the size of the key's curve. `GenerateKey` records the size
`choose_group` was asked for, `ImportKey` the size `get_group_size` read off the key, and
`SetAuthorizations` routes all entries of one tag to the same set whatever `is_enforced` says, so
a loaded key reads the first `KEY_SIZE` and `ALGORITHM` it was sealed with.

`EcdsaKey(blob)`, the factory's `LoadKey`, always returns a key and reports a failed parse only
through its error argument, which `ExportKey` and `BeginOperation` overwrite; the parse is
therefore repeated where the key is used, in `formatted_key_material`.
-/

import Keymaster.KeyBinding
import Keymaster.KeyGeneration

set_option autoImplicit false

namespace Keymaster

/-! ## The factory -/

/-- `AsymmetricKey::formatted_key_material` of an EC key: only X.509 is written, from the key
`LoadKey` parsed out of the material (`NULL` when `d2i_PrivateKey` failed, so that
`InternalToEvp` fails with `UNKNOWN_ERROR`), encoded with `i2d_PUBKEY`. -/
def AsymmetricKey.formattedKeyMaterial (backend : EcBackend) (key : Key)
    (keyFormat : KeyFormat) : Except KeymasterError (List UInt8) :=
  if keyFormat ≠ .x509 then .error .unsupportedKeyFormat
  else
    match backend.parsePrivateKey key.keyMaterial with
    | none => .error .unknownError
    | some ecKey => .ok (backend.encodePublicKey ecKey)

/-- The `KeyFactory` that `EcdsaKeyFactory` registers, with `ExtractEvpKey` a parameter. `LoadKey`
is `new EcdsaKey(blob, ...)`, which returns the key whatever its parse reports. The formats come
from `AsymmetricKeyFactory`, which is not among the sources; modelled from the tests: the key is
imported from PKCS#8 and exported as X.509. -/
def ecdsaKeyFactory (backend : EcBackend)
    (extractEvpKey : KeyFormat → Algorithm → List UInt8 → Except KeymasterError EvpPkey) :
    KeyFactory where
  registryKey := .ecdsa
  generateKey := EcdsaKeyFactory.generateKey backend
  importKey := EcdsaKeyFactory.importKey extractEvpKey
  loadKey blob := .ok (Key.ofBlob blob)
  formattedKeyMaterial := AsymmetricKey.formattedKeyMaterial backend
  supportedImportFormats := [.pkcs8]
  supportedExportFormats := [.x509]

/-! ## Consistent keys -/

/-- A key whose characteristics describe its material: the material parses to `ecKey`, the first
`ALGORITHM` is ECDSA, and the first `KEY_SIZE` is the size `get_group_size` gives `ecKey`'s
curve. -/
structure EcdsaKeyConsistent (backend : EcBackend) (key : Key) (ecKey : EcKey) : Prop where
  parse : backend.parsePrivateKey key.keyMaterial = some ecKey
  algorithm : key.authorizations.getTagValue KeyParam.algorithm? = some .ecdsa
  keySize : ∃ keySize : UInt32, key.authorizations.getTagValue KeyParam.keySize? = some keySize ∧
    EcdsaKeyFactory.getGroupSize ecKey.curve = .ok keySize.toNat

/-- Only an `ALGORITHM` parameter has an algorithm value. -/
theorem KeyParam.algorithm?_eq_none {p : KeyParam} (h : p.tag ≠ .algorithm) :
    p.algorithm? = none := by
  cases p <;> first | rfl | exact absurd rfl h

/-- Only a `KEY_SIZE` parameter has a key-size value. -/
theorem KeyParam.keySize?_eq_none {p : KeyParam} (h : p.tag ≠ .keySize) : p.keySize? = none := by
  cases p <;> first | rfl | exact absurd rfl h

/-- A blob's algorithm is the first `ALGORITHM` of its enforced set, else of its unenforced
set. -/
theorem UnencryptedKeyBlob.algorithm_eq_or (blob : UnencryptedKeyBlob) :
    blob.algorithm = (blob.enforced.getTagValue KeyParam.algorithm?).or
      (blob.unenforced.getTagValue KeyParam.algorithm?) := by
  unfold UnencryptedKeyBlob.algorithm
  cases blob.enforced.getTagValue KeyParam.algorithm? <;> rfl

section Factory

variable {backend : EcBackend} {keyDescription : AuthorizationSet} {key : Key}

/-- A key `EcdsaKeyFactory::GenerateKey` makes from a description whose first `ALGORITHM` is
ECDSA is consistent with the EC key the backend generated, and keeps the description's
application tags. -/
theorem EcdsaKeyFactory.generateKey_consistent {entropy : List UInt8}
    (halg : keyDescription.getTagValue KeyParam.algorithm? = some .ecdsa)
    (h : EcdsaKeyFactory.generateKey backend keyDescription entropy = .ok key) :
    ∃ ecKey, backend.generateKey ecKey.curve entropy = some ecKey ∧
      EcdsaKeyConsistent backend key ecKey ∧
      key.authorizations.getTagValue KeyParam.applicationId? =
        keyDescription.getTagValue KeyParam.applicationId? ∧
      key.authorizations.getTagValue KeyParam.applicationData? =
        keyDescription.getTagValue KeyParam.applicationData? := by
  obtain ⟨curve, ecKey, hgroup, hgen, rfl⟩ := generateEcdsaKey_eq_ok.mp h
  obtain rfl := backend.generateKey_curve hgen
  exact ⟨ecKey, hgen,
    ⟨backend.parsePrivateKey_generated hgen, by rw [getTagValue_withDefault_of_none rfl, halg],
      ⟨_, getTagValue_withDefault_default KeyParam.keySize? .keySize (fun _ => rfl) _,
        getGroupSize_of_chooseGroup hgroup⟩⟩,
    getTagValue_withDefault_of_none rfl, getTagValue_withDefault_of_none rfl⟩

/-- A key `EcdsaKeyFactory::ImportKey` makes from an EC key that reads back from its own DER
encoding is consistent with it, and keeps the description's application tags. -/
theorem EcdsaKeyFactory.importKey_consistent
    {extractEvpKey : KeyFormat → Algorithm → List UInt8 → Except KeymasterError EvpPkey}
    {keyFormat : KeyFormat} {keyData : List UInt8} {ecKey : EcKey}
    (hx : extractEvpKey keyFormat .ecdsa keyData = .ok (.ec ecKey))
    (hparse : backend.parsePrivateKey ecKey.privateKey = some ecKey)
    (h : EcdsaKeyFactory.importKey extractEvpKey keyDescription keyFormat keyData = .ok key) :
    EcdsaKeyConsistent backend key ecKey ∧
      key.authorizations.getTagValue KeyParam.applicationId? =
        keyDescription.getTagValue KeyParam.applicationId? ∧
      key.authorizations.getTagValue KeyParam.applicationData? =
        keyDescription.getTagValue KeyParam.applicationData? := by
  cases hn : getGroupSize ecKey.curve with
  | error e =>
    simp [EcdsaKeyFactory.importKey, hx, hn, EvpPkey.get1EcKey, bind, Except.bind] at h
  | ok bits =>
    obtain ⟨hchecks, rfl⟩ := (importKey_eq_ok_of_extract hx hn).mp h
    have hlt := getGroupSize_lt hn
    have halg : (importedAuthorizations keyDescription bits).getTagValue KeyParam.algorithm? =
        some .ecdsa := by
      cases ha : keyDescription.getTagValue KeyParam.algorithm? with
      | none => simp [importedAuthorizations, ha, KeyParam.algorithm?]
      | some algorithm =>
        have : algorithm = .ecdsa := Classical.not_not.mp fun hne => hchecks (.inr ⟨_, ha, hne⟩)
        simp [importedAuthorizations, ha, this, KeyParam.algorithm?]
    refine ⟨⟨hparse, halg, _, getTagValue_importedAuthorizations_keySize hlt hchecks, ?_⟩, ?_, ?_⟩
    · rw [hn, UInt32.toNat_ofNat_of_lt hlt]
    all_goals
      exact (getTagValue_withDefault_of_none rfl).trans (getTagValue_withDefault_of_none rfl)

end Factory

/-! ## Through the API -/

namespace KeymasterContext

variable {Op Ct : Type} (ctx : KeymasterContext Op Ct) {backend : EcBackend}
  {extractEvpKey : KeyFormat → Algorithm → List UInt8 → Except KeymasterError EvpPkey}
  {env : Env} {keyDescription : AuthorizationSet} {keyBlob : KeyBlob Ct}
  {enforced unenforced : AuthorizationSet}

/-- `GenerateKey` answers `OK` with a blob only when the factory of the description's first
`ALGORITHM` made a key and `SerializeKey` sealed it with the implementation's origin. -/
theorem generateKey_eq_ok_blob
    (h : ctx.generateKey env keyDescription = .generateKey .ok (some keyBlob) enforced unenforced) :
    ∃ factory key, (keyDescription.getTagValue KeyParam.algorithm?).bind ctx.getKeyFactory =
        some factory ∧ factory.generateKey keyDescription env.entropy = .ok key ∧
      ctx.serializeKey env key ctx.origin = .ok (keyBlob, enforced, unenforced) := by
  unfold generateKey at h
  split at h
  · cases h
  · rename_i factory hf
    split at h
    · cases h
    · rename_i key hk
      split at h
      · cases h
      · rename_i hs
        cases h
        exact ⟨factory, key, hf, hk, hs⟩

/-- `ImportKey` answers `OK` with a blob only when the factory of the description's first
`ALGORITHM` imported the key and `SerializeKey` sealed it with origin `IMPORTED`. -/
theorem importKey_eq_ok_blob {keyFormat : KeyFormat} {keyData : List UInt8}
    (h : ctx.importKey env keyDescription keyFormat keyData =
      .importKey .ok (some keyBlob) enforced unenforced) :
    ∃ factory key, (keyDescription.getTagValue KeyParam.algorithm?).bind ctx.getKeyFactory =
        some factory ∧ factory.importKey keyDescription keyFormat keyData = .ok key ∧
      ctx.serializeKey env key .imported = .ok (keyBlob, enforced, unenforced) := by
  unfold importKey at h
  split at h
  · cases h
  · rename_i factory hf
    split at h
    · cases h
    · rename_i key hk
      split at h
      · cases h
      · rename_i hs
        cases h
        exact ⟨factory, key, hf, hk, hs⟩

variable (hf : ctx.getKeyFactory .ecdsa = some (ecdsaKeyFactory backend extractEvpKey))
include hf

/-- A consistent key sealed by `SerializeKey` comes back from `LoadKey`, for every client the
blob is bound to, as a consistent ECDSA key with the same EC key. -/
theorem loadKey_serializeKey_consistent {key : Key} {origin : KeyOrigin} {ecKey : EcKey}
    (hs : ctx.serializeKey env key origin = .ok (keyBlob, enforced, unenforced))
    (hkey : EcdsaKeyConsistent backend key ecKey) {clientParams : AuthorizationSet}
    (hid : clientParams.getTagValue KeyParam.applicationId? =
      key.authorizations.getTagValue KeyParam.applicationId?)
    (hdata : clientParams.getTagValue KeyParam.applicationData? =
      key.authorizations.getTagValue KeyParam.applicationData?) :
    ∃ loaded, ctx.loadKey keyBlob clientParams = .ok (.ecdsa, loaded) ∧
      EcdsaKeyConsistent backend loaded ecKey := by
  have hblob := ctx.loadKeyBlob_of_serializeKey hs clientParams
  rw [if_pos ⟨hid, hdata⟩] at hblob
  have hset := (ctx.serializeKey_eq_ok hs).1
  have halg := getTagValue_characteristics (fun _ => KeyParam.algorithm?_eq_none) rfl nofun hset
  have hsize := getTagValue_characteristics (fun _ => KeyParam.keySize?_eq_none) rfl nofun hset
  obtain ⟨keySize, hks, hgroup⟩ := hkey.keySize
  refine ⟨_, ctx.loadKey_eq_ok.mpr ⟨_, _, hblob, ?_, hf, rfl⟩,
    ⟨hkey.parse, halg.1.trans hkey.algorithm, keySize, hsize.1.trans hks, hgroup⟩⟩
  rw [UnencryptedKeyBlob.algorithm_eq_or]
  exact halg.2.trans hkey.algorithm

/-- `ExportKey` of a blob that loads as a consistent ECDSA key writes that key's X.509 public key,
and refuses every other format with `UNSUPPORTED_KEY_FORMAT`. -/
theorem exportKey_consistent {clientParams : AuthorizationSet} {loaded : Key} {ecKey : EcKey}
    (hload : ctx.loadKey keyBlob clientParams = .ok (.ecdsa, loaded))
    (hkey : EcdsaKeyConsistent backend loaded ecKey) (keyFormat : KeyFormat) :
    ctx.exportKey clientParams keyFormat keyBlob =
      if keyFormat = .x509 then .exportKey .ok (backend.encodePublicKey ecKey)
      else .exportKey .unsupportedKeyFormat [] := by
  by_cases hx : keyFormat = .x509 <;>
    simp [exportKey, hload, hf, ecdsaKeyFactory, AsymmetricKey.formattedKeyMaterial, hkey.parse,
      hx]

/-- For every `GoogleKeymaster` that registers the ECDSA factory: when `GenerateKey` of a
description whose first `ALGORITHM` is ECDSA answers `OK` with a blob, every client whose first
`APPLICATION_ID` and `APPLICATION_DATA` are the description's loads from the blob an ECDSA key
whose material parses to a key the backend generated, on the curve whose size is the loaded
key's first `KEY_SIZE`; `ExportKey` writes that key's X.509 public key and refuses every other
format with `UNSUPPORTED_KEY_FORMAT`. -/
theorem generateKey_ecdsa_lifecycle
    (halg : keyDescription.getTagValue KeyParam.algorithm? = some .ecdsa)
    (h : ctx.generateKey env keyDescription = .generateKey .ok (some keyBlob) enforced unenforced)
    {clientParams : AuthorizationSet}
    (hid : clientParams.getTagValue KeyParam.applicationId? =
      keyDescription.getTagValue KeyParam.applicationId?)
    (hdata : clientParams.getTagValue KeyParam.applicationData? =
      keyDescription.getTagValue KeyParam.applicationData?) :
    ∃ loaded ecKey, backend.generateKey ecKey.curve env.entropy = some ecKey ∧
      ctx.loadKey keyBlob clientParams = .ok (.ecdsa, loaded) ∧
      EcdsaKeyConsistent backend loaded ecKey ∧
      ∀ keyFormat, ctx.exportKey clientParams keyFormat keyBlob =
        if keyFormat = .x509 then .exportKey .ok (backend.encodePublicKey ecKey)
        else .exportKey .unsupportedKeyFormat [] := by
  obtain ⟨factory, key, hfactory, hgen, hs⟩ := ctx.generateKey_eq_ok_blob h
  rw [halg, Option.some_bind, hf] at hfactory
  cases hfactory
  obtain ⟨ecKey, hecKey, hkey, hkid, hkdata⟩ := EcdsaKeyFactory.generateKey_consistent halg hgen
  obtain ⟨loaded, hload, hloaded⟩ :=
    ctx.loadKey_serializeKey_consistent hf hs hkey (hid.trans hkid.symm) (hdata.trans hkdata.symm)
  exact ⟨loaded, ecKey, hecKey, hload, hloaded, ctx.exportKey_consistent hf hload hloaded⟩

/-- For every `GoogleKeymaster` that registers the ECDSA factory: when `ImportKey` of a
description whose first `ALGORITHM` is ECDSA, of key data that `ExtractEvpKey` parses to an EC key
reading back from its own DER encoding, answers `OK` with a blob, every client whose first
`APPLICATION_ID` and `APPLICATION_DATA` are the description's loads from the blob an ECDSA key
whose material parses to that EC key and whose first `KEY_SIZE` is the size of its curve;
`ExportKey` writes the key's X.509 public key and refuses every other format with
`UNSUPPORTED_KEY_FORMAT`. -/
theorem importKey_ecdsa_lifecycle {keyFormat : KeyFormat} {keyData : List UInt8} {ecKey : EcKey}
    (halg : keyDescription.getTagValue KeyParam.algorithm? = some .ecdsa)
    (hx : extractEvpKey keyFormat .ecdsa keyData = .ok (.ec ecKey))
    (hparse : backend.parsePrivateKey ecKey.privateKey = some ecKey)
    (h : ctx.importKey env keyDescription keyFormat keyData =
      .importKey .ok (some keyBlob) enforced unenforced)
    {clientParams : AuthorizationSet}
    (hid : clientParams.getTagValue KeyParam.applicationId? =
      keyDescription.getTagValue KeyParam.applicationId?)
    (hdata : clientParams.getTagValue KeyParam.applicationData? =
      keyDescription.getTagValue KeyParam.applicationData?) :
    ∃ loaded, ctx.loadKey keyBlob clientParams = .ok (.ecdsa, loaded) ∧
      EcdsaKeyConsistent backend loaded ecKey ∧
      ∀ exportFormat, ctx.exportKey clientParams exportFormat keyBlob =
        if exportFormat = .x509 then .exportKey .ok (backend.encodePublicKey ecKey)
        else .exportKey .unsupportedKeyFormat [] := by
  obtain ⟨factory, key, hfactory, himport, hs⟩ := ctx.importKey_eq_ok_blob h
  rw [halg, Option.some_bind, hf] at hfactory
  cases hfactory
  obtain ⟨hkey, hkid, hkdata⟩ := EcdsaKeyFactory.importKey_consistent hx hparse himport
  obtain ⟨loaded, hload, hloaded⟩ :=
    ctx.loadKey_serializeKey_consistent hf hs hkey (hid.trans hkid.symm) (hdata.trans hkdata.symm)
  exact ⟨loaded, hload, hloaded, ctx.exportKey_consistent hf hload hloaded⟩

end KeymasterContext

/-- The one-byte code of a curve, the key material of `curveCodeEcBackend`. -/
def EcCurve.code : EcCurve → UInt8
  | .secp224r1 => 1
  | .prime256v1 => 2
  | .secp384r1 => 3
  | .secp521r1 => 4
  | .other => 0

/-- An EC backend whose key on a curve is the curve's code, and whose public key is the key
itself: enough to run the life cycle on fixed inputs. -/
def curveCodeEcBackend : EcBackend where
  generateKey curve _ := some ⟨curve, [curve.code]⟩
  parsePrivateKey
    | [1] => some ⟨.secp224r1, [1]⟩
    | [2] => some ⟨.prime256v1, [2]⟩
    | [3] => some ⟨.secp384r1, [3]⟩
    | [4] => some ⟨.secp521r1, [4]⟩
    | [0] => some ⟨.other, [0]⟩
    | _ => none
  encodePublicKey ecKey := ecKey.privateKey
  generateKey_curve := by
    intro curve _ ecKey h
    cases h
    rfl
  parsePrivateKey_generated := by
    intro curve _ ecKey h
    cases h
    cases curve <;> rfl

/-- The software keymaster with the ECDSA factory registered after the HMAC one, over
`curveCodeEcBackend` and an `ExtractEvpKey` that reads every key data as the P-256 key. -/
def ecdsaSoftKeymaster : KeymasterContext HmacOperation SealedBox :=
  { softKeymaster 64 zeroMac symbolicAead with
    keyFactories := [hmacKeyFactory,
      ecdsaKeyFactory curveCodeEcBackend fun _ _ _ => .ok (.ec ⟨.prime256v1, [2]⟩)] }

/-- The tests' ECDSA description with `KEY_SIZE = 256`, generated on the software keymaster: the
blob loads for a client without identifiers and exports the P-256 key. -/
theorem generateKey_ecdsa_lifecycle_p256 :
    ∃ keyBlob enforced unenforced,
      ecdsaSoftKeymaster.generateKey ⟨0, [], none, []⟩ ⟨[.algorithm .ecdsa, .keySize 256]⟩ =
        .generateKey .ok (some keyBlob) enforced unenforced ∧
      ∃ loaded ecKey, curveCodeEcBackend.generateKey ecKey.curve [] = some ecKey ∧
        ecdsaSoftKeymaster.loadKey keyBlob .empty = .ok (.ecdsa, loaded) ∧
        EcdsaKeyConsistent curveCodeEcBackend loaded ecKey ∧
        ∀ keyFormat, ecdsaSoftKeymaster.exportKey .empty keyFormat keyBlob =
          if keyFormat = .x509 then .exportKey .ok (curveCodeEcBackend.encodePublicKey ecKey)
          else .exportKey .unsupportedKeyFormat [] := by
  obtain ⟨keyBlob, enforced, unenforced, h⟩ : ∃ keyBlob enforced unenforced,
      ecdsaSoftKeymaster.generateKey ⟨0, [], none, []⟩ ⟨[.algorithm .ecdsa, .keySize 256]⟩ =
        .generateKey .ok (some keyBlob) enforced unenforced := ⟨_, _, _, rfl⟩
  exact ⟨keyBlob, enforced, unenforced, h, @KeymasterContext.generateKey_ecdsa_lifecycle _ _
    ecdsaSoftKeymaster _ _ _ ⟨[.algorithm .ecdsa, .keySize 256]⟩ _ _ _ rfl rfl h .empty rfl rfl⟩

/-- The tests' P-256 key imported as PKCS#8 on the software keymaster: the blob loads for a client
without identifiers as the P-256 key and exports it. -/
theorem importKey_ecdsa_lifecycle_p256 :
    ∃ keyBlob enforced unenforced,
      ecdsaSoftKeymaster.importKey ⟨0, [], none, []⟩ ⟨[.algorithm .ecdsa]⟩ .pkcs8 [] =
        .importKey .ok (some keyBlob) enforced unenforced ∧
      ∃ loaded, ecdsaSoftKeymaster.loadKey keyBlob .empty = .ok (.ecdsa, loaded) ∧
        EcdsaKeyConsistent curveCodeEcBackend loaded ⟨.prime256v1, [2]⟩ ∧
        ∀ exportFormat, ecdsaSoftKeymaster.exportKey .empty exportFormat keyBlob =
          if exportFormat = .x509 then .exportKey .ok [2]
          else .exportKey .unsupportedKeyFormat [] := by
  obtain ⟨keyBlob, enforced, unenforced, h⟩ : ∃ keyBlob enforced unenforced,
      ecdsaSoftKeymaster.importKey ⟨0, [], none, []⟩ ⟨[.algorithm .ecdsa]⟩ .pkcs8 [] =
        .importKey .ok (some keyBlob) enforced unenforced := ⟨_, _, _, rfl⟩
  exact ⟨keyBlob, enforced, unenforced, h, @KeymasterContext.importKey_ecdsa_lifecycle _ _
    ecdsaSoftKeymaster _ _ _ ⟨[.algorithm .ecdsa]⟩ _ _ _ rfl .pkcs8 [] ⟨.prime256v1, [2]⟩ rfl rfl
    rfl h .empty rfl rfl⟩

end Keymaster
