/-
# Creating operations on asymmetric keys

`AsymmetricKey::CreateOperation` gates every operation on an RSA, DSA or ECDSA key on two tags of
the key's authorizations: the first `DIGEST` must be `DIGEST_NONE` and the first `PADDING`
`PAD_NONE`; only then does the key's own `CreateOperation` build a sign or a verify operation.

The generators and the imports of these keys write only the key's own parameters: `ALGORITHM`,
`KEY_SIZE`, `RSA_PUBLIC_EXPONENT` and the DSA domain parameters. Every other tag of a key they make
keeps the caller's first value, so the gate reads the caller's description: a key described
without `DIGEST_NONE` and `PAD_NONE` can never start an operation, whatever generated or imported
it. Through the API the same holds of the key `LoadKey` gives back from an ECDSA blob, for every
client that can load it: `SetAuthorizations` routes all entries of a tag to one set, so the loaded
key's first `DIGEST` and `PADDING` are the ones the key was sealed with.
-/

import Keymaster.EcdsaLifecycle

set_option autoImplicit false

namespace Keymaster

/-! ## `CreateOperation` -/

/-- What `RsaSignOperation`, `DsaVerifyOperation` and the other asymmetric operations are built
on: the algorithm of the key's class, the purpose, the digest and padding, and the key. Their
classes are not among the sources. -/
structure AsymmetricOperation where
  algorithm : Algorithm
  purpose : Purpose
  digest : Digest
  padding : Padding
  keyMaterial : List UInt8
  deriving DecidableEq, Repr

/-- The body `RsaKey::CreateOperation`, `DsaKey::CreateOperation` and `EcdsaKey::CreateOperation`
share: a sign or a verify operation of the class's algorithm on the key, `UNIMPLEMENTED` for any
other purpose. -/
def createOperationOf (algorithm : Algorithm) (purpose : Purpose) (digest : Digest)
    (padding : Padding) (key : Key) : Except KeymasterError AsymmetricOperation :=
  match purpose with
  | .sign | .verify => .ok ⟨algorithm, purpose, digest, padding, key.keyMaterial⟩
  | _ => .error .unimplemented

/-- `RsaKey::CreateOperation`. -/
def RsaKey.createOperation : Purpose → Digest → Padding → Key →
    Except KeymasterError AsymmetricOperation :=
  createOperationOf .rsa

/-- `DsaKey::CreateOperation`. -/
def DsaKey.createOperation : Purpose → Digest → Padding → Key →
    Except KeymasterError AsymmetricOperation :=
  createOperationOf .dsa

/-- `EcdsaKey::CreateOperation`. -/
def EcdsaKey.createOperation : Purpose → Digest → Padding → Key →
    Except KeymasterError AsymmetricOperation :=
  createOperationOf .ecdsa

/-- `AsymmetricKey::CreateOperation`, with `createOperation` the key class's own: the first
`DIGEST` must be `DIGEST_NONE`, else `UNSUPPORTED_DIGEST`, and the first `PADDING` `PAD_NONE`,
else `UNSUPPORTED_PADDING_MODE`. -/
def AsymmetricKey.createOperation
    (createOperation : Purpose → Digest → Padding → Key →
      Except KeymasterError AsymmetricOperation)
    (key : Key) (purpose : Purpose) : Except KeymasterError AsymmetricOperation :=
  match key.authorizations.getTagValue KeyParam.digest? with
  | some .none =>
      match key.authorizations.getTagValue KeyParam.padding? with
      | some .none => createOperation purpose .none .none key
      | _ => .error .unsupportedPaddingMode
  | _ => .error .unsupportedDigest

/-- `AsymmetricKey::CreateOperation` reads the key's authorizations only through its first
`DIGEST` and first `PADDING`. -/
theorem AsymmetricKey.createOperation_eq
    (createOperation : Purpose → Digest → Padding → Key →
      Except KeymasterError AsymmetricOperation)
    (key : Key) (purpose : Purpose) :
    AsymmetricKey.createOperation createOperation key purpose =
      if key.authorizations.getTagValue KeyParam.digest? ≠ some .none then
        .error .unsupportedDigest
      else if key.authorizations.getTagValue KeyParam.padding? ≠ some .none then
        .error .unsupportedPaddingMode
      else createOperation purpose .none .none key := by
  unfold AsymmetricKey.createOperation
  split
  · split <;> simp_all
  · simp_all

/-! ## The keys the asymmetric code makes -/

/-- The tags the asymmetric generators and imports write into a key's authorizations. -/
def keyWrittenTags : List Tag :=
  [.algorithm, .keySize, .rsaPublicExponent, .dsaGenerator, .dsaP, .dsaQ]

/-- A key the asymmetric code of the sources makes from the caller's description: one of the
four generators, or one of the two imports, whatever its backend, randomness or parser. -/
inductive AsymmetricKeyOf (keyDescription : AuthorizationSet) : Key → Prop
  | rsaGenerated {bnBits : Nat} {backend : RsaBackend bnBits} {entropy : List UInt8}
      {key : Key} :
      RsaKey.generateKey backend keyDescription entropy = .ok key →
        AsymmetricKeyOf keyDescription key
  | dsaGenerated {backend : DsaBackend} {entropy : List UInt8} {key : Key} :
      DsaKey.generateKey backend keyDescription entropy = .ok key →
        AsymmetricKeyOf keyDescription key
  | ecdsaFactoryGenerated {backend : EcBackend} {entropy : List UInt8} {key : Key} :
      EcdsaKeyFactory.generateKey backend keyDescription entropy = .ok key →
        AsymmetricKeyOf keyDescription key
  | ecdsaGenerated {backend : EcBackend} {entropy : List UInt8} {key : Key} :
      EcdsaKey.generateKey backend keyDescription entropy = .ok key →
        AsymmetricKeyOf keyDescription key
  | rsaImported {bnBits : Nat} {pkey : EvpPkey} {key : Key} :
      RsaKey.importKey bnBits keyDescription pkey = .ok key → AsymmetricKeyOf keyDescription key
  | ecdsaImported
      {extractEvpKey : KeyFormat → Algorithm → List UInt8 → Except KeymasterError EvpPkey}
      {keyFormat : KeyFormat} {keyData : List UInt8} {key : Key} :
      EcdsaKeyFactory.importKey extractEvpKey keyDescription keyFormat keyData = .ok key →
        AsymmetricKeyOf keyDescription key

section Frame

variable {β : Type} {read : KeyParam → Option β} {keyDescription : AuthorizationSet} {key : Key}

/-- Adding a parameter of a written tag leaves the first value of every other tag. -/
theorem getTagValue_withDefault_of_written {α : Type} {read' : KeyParam → Option α}
    {param : KeyParam} {s : AuthorizationSet}
    (hread : ∀ p : KeyParam, p.tag ∈ keyWrittenTags → read p = none)
    (hparam : param.tag ∈ keyWrittenTags) :
    (withDefault read' param s).getTagValue read = s.getTagValue read :=
  getTagValue_withDefault_of_none (hread param hparam)

/-- An `EcdsaKeyFactory::ImportKey` that succeeds returns the description with the key size and
the algorithm added, for the size of the parsed key's curve. -/
theorem EcdsaKeyFactory.importKey_authorizations
    {extractEvpKey : KeyFormat → Algorithm → List UInt8 → Except KeymasterError EvpPkey}
    {keyFormat : KeyFormat} {keyData : List UInt8}
    (h : EcdsaKeyFactory.importKey extractEvpKey keyDescription keyFormat keyData = .ok key) :
    ∃ bits, key.authorizations = EcdsaKeyFactory.importedAuthorizations keyDescription bits := by
  cases hx : extractEvpKey keyFormat .ecdsa keyData with
  | error e => simp [EcdsaKeyFactory.importKey, hx, bind_eq_ok] at h
  | ok pkey =>
    cases pkey with
    | ec ecKey =>
      cases hn : EcdsaKeyFactory.getGroupSize ecKey.curve with
      | error e => simp [EcdsaKeyFactory.importKey, hx, hn, EvpPkey.get1EcKey, bind_eq_ok] at h
      | ok bits =>
        exact ⟨bits, by rw [((EcdsaKeyFactory.importKey_eq_ok_of_extract hx hn).mp h).2]⟩
    | rsa _ | other => simp [EcdsaKeyFactory.importKey, hx, EvpPkey.get1EcKey, bind_eq_ok] at h

/-- Every tag the asymmetric code does not write keeps the description's first value in the
keys it makes. -/
theorem getTagValue_of_asymmetricKeyOf
    (hread : ∀ p : KeyParam, p.tag ∈ keyWrittenTags → read p = none)
    (h : AsymmetricKeyOf keyDescription key) :
    key.authorizations.getTagValue read = keyDescription.getTagValue read := by
  cases h with
  | rsaGenerated h =>
    obtain ⟨rsaKey, -, rfl⟩ := RsaKey.generateKey_eq_ok.mp h
    simp (disch := decide) only [getTagValue_withDefault_of_written hread]
  | dsaGenerated h =>
    obtain ⟨params, authorizations, dsaKey, hparams, -, rfl⟩ := DsaKey.generateKey_eq_ok.mp h
    have hwritten : ∀ blob, read (.dsaGenerator blob) = none ∧ read (.dsaP blob) = none ∧
        read (.dsaQ blob) = none := fun _ =>
      ⟨hread _ (by simp [keyWrittenTags, KeyParam.tag]),
        hread _ (by simp [keyWrittenTags, KeyParam.tag]),
        hread _ (by simp [keyWrittenTags, KeyParam.tag])⟩
    exact (DsaKey.dsaParams_getTagValue hwritten hparams).trans
      (getTagValue_withDefault_of_written hread (by decide))
  | ecdsaFactoryGenerated h | ecdsaGenerated h =>
    obtain ⟨curve, ecKey, -, -, rfl⟩ := generateEcdsaKey_eq_ok.mp h
    exact getTagValue_withDefault_of_written hread (by decide)
  | @rsaImported _ pkey _ h =>
    cases pkey with
    | rsa rsaKey =>
      obtain ⟨-, rfl⟩ := RsaKey.importKey_rsa_eq_ok.mp h
      simp (disch := simp [keyWrittenTags, KeyParam.tag]) only [RsaKey.importedAuthorizations,
        RsaKey.publicExponentParam, getTagValue_withDefault_of_written hread]
    | ec _ | other => cases h
  | ecdsaImported h =>
    obtain ⟨bits, hkey⟩ := EcdsaKeyFactory.importKey_authorizations h
    simp (disch := simp [keyWrittenTags, KeyParam.tag]) only [hkey,
      EcdsaKeyFactory.importedAuthorizations, getTagValue_withDefault_of_written hread]

end Frame

/-! ## Operations on the keys the asymmetric code makes -/

/-- No written tag is `DIGEST`. -/
theorem KeyParam.digest?_eq_none_of_written {p : KeyParam} (hp : p.tag ∈ keyWrittenTags) :
    p.digest? = none := by
  cases p <;> first | rfl | simp [keyWrittenTags, KeyParam.tag] at hp

/-- No written tag is `PADDING`. -/
theorem KeyParam.padding?_eq_none_of_written {p : KeyParam} (hp : p.tag ∈ keyWrittenTags) :
    p.padding? = none := by
  cases p <;> first | rfl | simp [keyWrittenTags, KeyParam.tag] at hp

/-- On every key the asymmetric generators and imports make, `AsymmetricKey::CreateOperation`
answers on the caller's description, whatever the key class: `UNSUPPORTED_DIGEST` unless its first
`DIGEST` is `DIGEST_NONE`, then `UNSUPPORTED_PADDING_MODE` unless its first `PADDING` is
`PAD_NONE`, then the class's own `CreateOperation` on the key. -/
theorem createOperation_reads_description
    (createOperation : Purpose → Digest → Padding → Key →
      Except KeymasterError AsymmetricOperation)
    (purpose : Purpose) {keyDescription : AuthorizationSet} {key : Key}
    (h : AsymmetricKeyOf keyDescription key) :
    AsymmetricKey.createOperation createOperation key purpose =
      if keyDescription.getTagValue KeyParam.digest? ≠ some .none then .error .unsupportedDigest
      else if keyDescription.getTagValue KeyParam.padding? ≠ some .none then
        .error .unsupportedPaddingMode
      else createOperation purpose .none .none key := by
  rw [AsymmetricKey.createOperation_eq,
    getTagValue_of_asymmetricKeyOf (fun _ => KeyParam.digest?_eq_none_of_written) h,
    getTagValue_of_asymmetricKeyOf (fun _ => KeyParam.padding?_eq_none_of_written) h]

/-- A DSA key generated on the toy group from a description with `DIGEST_NONE` and `PAD_NONE`
creates a sign operation on its key material. -/
theorem createOperation_reads_description_dsa :
    ∃ key, DsaKey.generateKey DsaKey.toyDsaBackend
        ⟨[.algorithm .dsa, .digest .none, .padding .none]⟩ [] = .ok key ∧
      AsymmetricKey.createOperation DsaKey.createOperation key .sign =
        .ok ⟨.dsa, .sign, .none, .none, key.keyMaterial⟩ := by
  obtain ⟨key, h⟩ : ∃ key, DsaKey.generateKey DsaKey.toyDsaBackend
      ⟨[.algorithm .dsa, .digest .none, .padding .none]⟩ [] = .ok key := ⟨_, rfl⟩
  exact ⟨key, h, (createOperation_reads_description DsaKey.createOperation .sign
    (.dsaGenerated h)).trans rfl⟩

/-! ## Through the API -/

/-- Only a `DIGEST` parameter has a digest value. -/
theorem KeyParam.digest?_eq_none {p : KeyParam} (h : p.tag ≠ .digest) : p.digest? = none := by
  cases p <;> first | rfl | exact absurd rfl h

/-- Only a `PADDING` parameter has a padding value. -/
theorem KeyParam.padding?_eq_none {p : KeyParam} (h : p.tag ≠ .padding) : p.padding? = none := by
  cases p <;> first | rfl | exact absurd rfl h

namespace KeymasterContext

variable {Op Ct : Type} (ctx : KeymasterContext Op Ct) {backend : EcBackend}
  {extractEvpKey : KeyFormat → Algorithm → List UInt8 → Except KeymasterError EvpPkey}
  {env : Env} {keyDescription : AuthorizationSet} {keyBlob : KeyBlob Ct}
  {enforced unenforced : AuthorizationSet}
  (hf : ctx.getKeyFactory .ecdsa = some (ecdsaKeyFactory backend extractEvpKey))
include hf

/-- The key `LoadKey` gives back as an ECDSA key from a blob `SerializeKey` sealed carries the
sealed characteristics, unenforced first, and the sealed key material. -/
theorem loadKey_of_serializeKey {key : Key} {origin : KeyOrigin}
    (hs : ctx.serializeKey env key origin = .ok (keyBlob, enforced, unenforced))
    {clientParams : AuthorizationSet} {loaded : Key}
    (hload : ctx.loadKey keyBlob clientParams = .ok (.ecdsa, loaded)) :
    loaded = ⟨unenforced.pushBackSet enforced, key.keyMaterial⟩ := by
  obtain ⟨blob, factory, hblob, -, hfactory, hk⟩ := ctx.loadKey_eq_ok.mp hload
  rw [hf] at hfactory
  cases hfactory
  rw [ctx.loadKeyBlob_of_serializeKey hs] at hblob
  split at hblob
  · cases hblob
    cases hk
    rfl
  · cases hblob

/-- For every `GoogleKeymaster` that registers the ECDSA factory: when `GenerateKey` or
`ImportKey` of a description whose first `ALGORITHM` is ECDSA answers `OK` with a blob, every key
any client loads from the blob answers `AsymmetricKey::CreateOperation` on the description:
`UNSUPPORTED_DIGEST` unless its first `DIGEST` is `DIGEST_NONE`, then `UNSUPPORTED_PADDING_MODE`
unless its first `PADDING` is `PAD_NONE`, then `EcdsaKey::CreateOperation` on the loaded key. -/
theorem loadKey_ecdsa_createOperation
    (halg : keyDescription.getTagValue KeyParam.algorithm? = some .ecdsa)
    (h : ctx.generateKey env keyDescription = .generateKey .ok (some keyBlob) enforced unenforced ∨
      ∃ keyFormat keyData, ctx.importKey env keyDescription keyFormat keyData =
        .importKey .ok (some keyBlob) enforced unenforced)
    {clientParams : AuthorizationSet} {loaded : Key}
    (hload : ctx.loadKey keyBlob clientParams = .ok (.ecdsa, loaded)) (purpose : Purpose) :
    AsymmetricKey.createOperation EcdsaKey.createOperation loaded purpose =
      if keyDescription.getTagValue KeyParam.digest? ≠ some .none then .error .unsupportedDigest
      else if keyDescription.getTagValue KeyParam.padding? ≠ some .none then
        .error .unsupportedPaddingMode
      else EcdsaKey.createOperation purpose .none .none loaded := by
  obtain ⟨key, origin, hs, hkey⟩ : ∃ key origin, ctx.serializeKey env key origin =
      .ok (keyBlob, enforced, unenforced) ∧ AsymmetricKeyOf keyDescription key := by
    rcases h with h | ⟨keyFormat, keyData, h⟩
    · obtain ⟨factory, key, hfactory, hgen, hs⟩ := ctx.generateKey_eq_ok_blob h
      rw [halg, Option.some_bind, hf] at hfactory
      cases hfactory
      exact ⟨key, _, hs, .ecdsaFactoryGenerated hgen⟩
    · obtain ⟨factory, key, hfactory, himport, hs⟩ := ctx.importKey_eq_ok_blob h
      rw [halg, Option.some_bind, hf] at hfactory
      cases hfactory
      exact ⟨key, _, hs, .ecdsaImported himport⟩
  have hset := (ctx.serializeKey_eq_ok hs).1
  have hdigest := (getTagValue_characteristics (fun _ => KeyParam.digest?_eq_none) rfl nofun
    hset).1.trans (getTagValue_of_asymmetricKeyOf (fun _ => KeyParam.digest?_eq_none_of_written) hkey)
  have hpadding := (getTagValue_characteristics (fun _ => KeyParam.padding?_eq_none) rfl nofun
    hset).1.trans
      (getTagValue_of_asymmetricKeyOf (fun _ => KeyParam.padding?_eq_none_of_written) hkey)
  obtain rfl := ctx.loadKey_of_serializeKey hf hs hload
  simp only [AsymmetricKey.createOperation_eq, hdigest, hpadding]

end KeymasterContext

/-- The tests' ECDSA description with `KEY_SIZE = 256`, `DIGEST_NONE` and `PAD_NONE`, generated on
the software keymaster: the key a client without identifiers loads from the blob signs. -/
theorem loadKey_ecdsa_createOperation_p256 :
    ∃ keyBlob enforced unenforced loaded,
      ecdsaSoftKeymaster.generateKey ⟨0, [], none, []⟩
          ⟨[.algorithm .ecdsa, .keySize 256, .digest .none, .padding .none]⟩ =
        .generateKey .ok (some keyBlob) enforced unenforced ∧
      ecdsaSoftKeymaster.loadKey keyBlob .empty = .ok (.ecdsa, loaded) ∧
      AsymmetricKey.createOperation EcdsaKey.createOperation loaded .sign =
        .ok ⟨.ecdsa, .sign, .none, .none, loaded.keyMaterial⟩ := by
  obtain ⟨keyBlob, enforced, unenforced, loaded, h, hload⟩ : ∃ keyBlob enforced unenforced loaded,
      ecdsaSoftKeymaster.generateKey ⟨0, [], none, []⟩
          ⟨[.algorithm .ecdsa, .keySize 256, .digest .none, .padding .none]⟩ =
        .generateKey .ok (some keyBlob) enforced unenforced ∧
      ecdsaSoftKeymaster.loadKey keyBlob .empty = .ok (.ecdsa, loaded) :=
    ⟨_, _, _, _, rfl, rfl⟩
  exact ⟨keyBlob, enforced, unenforced, loaded, h, hload,
    (@KeymasterContext.loadKey_ecdsa_createOperation _ _ ecdsaSoftKeymaster _ _ _
      ⟨[.algorithm .ecdsa, .keySize 256, .digest .none, .padding .none]⟩ _ _ _ rfl rfl (.inl h)
      _ _ hload .sign).trans rfl⟩

end Keymaster
