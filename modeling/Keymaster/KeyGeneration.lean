/-
# Generating asymmetric keys

`RsaKey::GenerateKey`, `DsaKey::GenerateKey`, `EcdsaKey::GenerateKey` and
`EcdsaKeyFactory::GenerateKey` read their parameters from the key description with one step: the
first value of a tag, or a default that is then added with `push_back`. The DSA generator takes
the domain parameters from the description when it gives all three, generates them when it gives
none, and refuses any other mix with `INVALID_DSA_PARAMS`.

The OpenSSL calls are backends, each carrying the contract the generators rely on as a field: a
generated RSA modulus has the requested number of bits and the requested exponent, a generated
DSA key has the requested domain parameters, a generated EC key lies on the requested curve and
reads back from its DER encoding. Under these contracts every generator records parameters that
describe the key it made: the DSA parameters it generates are stored big-endian and decode to the
key's, and the ECDSA factory's size table is inverse to `get_group_size`.
-/

import Keymaster.AsymmetricKey
import Mathlib.Data.Nat.Digits

set_option autoImplicit false

namespace Keymaster

/-! ## Parameters with a default -/

/-- The step every generator takes for a parameter: `GetTagValue(TAG, &value)` with `value`
preset to `default`, and `push_back(TAG, value)` when the tag is absent. -/
def tagValueOrDefault {α : Type} (read : KeyParam → Option α) (param : α → KeyParam)
    (default : α) (authorizations : AuthorizationSet) : α × AuthorizationSet :=
  match authorizations.getTagValue read with
  | some value => (value, authorizations)
  | none => (default, authorizations.pushBack (param default))

section Default

variable {α β : Type} {read : KeyParam → Option α} {param : KeyParam} {s : AuthorizationSet}

/-- The step takes the set's first value of the tag, else the default, and leaves the set with
the default added where it had no value. -/
theorem tagValueOrDefault_eq (param : α → KeyParam) (default : α) (s : AuthorizationSet) :
    tagValueOrDefault read param default s =
      ((s.getTagValue read).getD default, withDefault read (param default) s) := by
  unfold tagValueOrDefault withDefault
  cases s.getTagValue read <;> rfl

/-- After the step, the tag's first value is the value the step took. -/
theorem getTagValue_withDefault_default (read : KeyParam → Option α) (param : α → KeyParam)
    (hparam : ∀ value, read (param value) = some value) (default : α) :
    (withDefault read (param default) s).getTagValue read =
      some ((s.getTagValue read).getD default) := by
  rw [getTagValue_withDefault_self, hparam]
  cases s.getTagValue read <;> rfl

end Default

/-! ## Big-endian blobs -/

/-- `BN_bin2bn`: the number a big-endian byte string denotes. -/
def bnBin2bn (bytes : List UInt8) : Nat :=
  bytes.foldl (fun acc byte => acc * 256 + byte.toNat) 0

/-- `convert_bn_to_blob`, which writes `BN_bn2bin`: the big-endian bytes of a number, without
leading zeros. -/
def bnBn2bin (a : Nat) : List UInt8 :=
  ((Nat.digits 256 a).map UInt8.ofNat).reverse

/-- Reading little-endian base-256 digits back most significant first. -/
theorem foldr_ofNat_digits {digits : List Nat} (h : ∀ d ∈ digits, d < 256) :
    (digits.map UInt8.ofNat).foldr (fun byte acc => acc * 256 + byte.toNat) 0 =
      Nat.ofDigits 256 digits := by
  induction digits with
  | nil => rfl
  | cons d ds ih =>
    have hd : (UInt8.ofNat d).toNat = d := UInt8.toNat_ofNat_of_lt (h d (.head _))
    simp only [List.map_cons, List.foldr_cons, ih fun d' hd' => h d' (.tail _ hd'), hd,
      Nat.ofDigits_cons]
    ring

/-- A number stored with `convert_bn_to_blob` reads back with `BN_bin2bn`. -/
theorem bnBin2bn_bnBn2bin (a : Nat) : bnBin2bn (bnBn2bin a) = a := by
  rw [bnBin2bn, bnBn2bin, List.foldl_reverse,
    foldr_ofNat_digits fun d hd => Nat.digits_lt_base (by decide) hd, Nat.ofDigits_digits]

/-! ## The OpenSSL backends -/

/-- The calls `RsaKey::GenerateKey` makes on a build whose `BN_ULONG` has `bnBits` bits:
`BN_set_word`, which converts the `uint64_t` exponent to a `BN_ULONG`, and `RSA_generate_key_ex`
for a modulus size, from the randomness a generation consumes; `none` when either fails. A key
it makes has a modulus of that many bits and the converted exponent. -/
structure RsaBackend (bnBits : Nat) where
  generateKey : UInt32 → UInt64 → List UInt8 → Option Rsa
  generateKey_spec : ∀ {keySize exponent entropy rsaKey},
    generateKey keySize exponent entropy = some rsaKey →
      bnNumBits rsaKey.n = keySize.toNat ∧ rsaKey.e = exponent.toNat % 2 ^ bnBits

/-- DSA domain parameters: the generator `g`, the prime `p` and the subgroup order `q`. -/
structure DsaParams where
  g : Nat
  p : Nat
  q : Nat
  deriving DecidableEq, Repr

/-- What the generator makes of OpenSSL's `DSA`: its domain parameters and its DER encoding, the
key material. -/
structure Dsa where
  params : DsaParams
  privateKey : List UInt8
  deriving DecidableEq, Repr

/-- The calls `DsaKey::GenerateKey` makes: `DSA_generate_parameters_ex` for a size and
`DSA_generate_key` on given parameters, `none` when they fail. A key keeps the parameters it was
generated on. -/
structure DsaBackend where
  generateParameters : UInt32 → List UInt8 → Option DsaParams
  generateKey : DsaParams → List UInt8 → Option Dsa
  generateKey_params : ∀ {params entropy dsaKey},
    generateKey params entropy = some dsaKey → dsaKey.params = params

/-- OpenSSL's EC calls: `EC_KEY_generate_key` on a curve's group (`none` when it or
`EC_KEY_check_key` fails), `d2i_PrivateKey` for an EC key, and `i2d_PUBKEY`, the X.509
SubjectPublicKeyInfo of a key. A generated key lies on its curve and reads back from its DER
encoding `privateKey`. -/
structure EcBackend where
  generateKey : EcCurve → List UInt8 → Option EcKey
  parsePrivateKey : List UInt8 → Option EcKey
  encodePublicKey : EcKey → List UInt8
  generateKey_curve : ∀ {curve entropy ecKey},
    generateKey curve entropy = some ecKey → ecKey.curve = curve
  parsePrivateKey_generated : ∀ {curve entropy ecKey},
    generateKey curve entropy = some ecKey → parsePrivateKey ecKey.privateKey = some ecKey

/-! ## `RsaKey::GenerateKey` -/

namespace RsaKey

/-- `RSA_DEFAULT_KEY_SIZE`. -/
def rsaDefaultKeySize : UInt32 := 2048

/-- `RSA_DEFAULT_EXPONENT`. -/
def rsaDefaultExponent : UInt64 := 65537

/-- `RsaKey::GenerateKey` (the copies in `rsa_key.cpp` and `asymmetric_key.cpp` have the same
body): the exponent, then the key size, each the description's or the default added; then the
backend's key, else `UNKNOWN_ERROR`. -/
def generateKey {bnBits : Nat} (backend : RsaBackend bnBits) (keyDescription : AuthorizationSet)
    (entropy : List UInt8) : Except KeymasterError Key :=
  let (publicExponent, authorizations) := tagValueOrDefault KeyParam.rsaPublicExponent?
    .rsaPublicExponent rsaDefaultExponent keyDescription
  let (keySize, authorizations) :=
    tagValueOrDefault KeyParam.keySize? .keySize rsaDefaultKeySize authorizations
  match backend.generateKey keySize publicExponent entropy with
  | none => .error .unknownError
  | some rsaKey => .ok ⟨authorizations, rsaKey.privateKey⟩

/-- A key `RsaKey::GenerateKey` makes is the backend's key for the first exponent and key size,
each the description's or the default, with the defaults added. -/
theorem generateKey_eq_ok {bnBits : Nat} {backend : RsaBackend bnBits}
    {keyDescription : AuthorizationSet}
    {entropy : List UInt8} {key : Key} :
    generateKey backend keyDescription entropy = .ok key ↔
      ∃ rsaKey, backend.generateKey
          ((keyDescription.getTagValue KeyParam.keySize?).getD rsaDefaultKeySize)
          ((keyDescription.getTagValue KeyParam.rsaPublicExponent?).getD rsaDefaultExponent)
          entropy = some rsaKey ∧
        key = ⟨withDefault KeyParam.keySize? (.keySize rsaDefaultKeySize) <|
          withDefault KeyParam.rsaPublicExponent? (.rsaPublicExponent rsaDefaultExponent)
            keyDescription, rsaKey.privateKey⟩ := by
  simp only [generateKey, tagValueOrDefault_eq,
    getTagValue_withDefault_of_none (rfl : KeyParam.keySize? (.rsaPublicExponent _) = none)]
  split <;> simp [*, @eq_comm Key key]

/-- On a build whose `BN_ULONG` has `bnBits` bits, a key `RsaKey::GenerateKey` makes records its
modulus size in bits as its first `KEY_SIZE` and, as its first `RSA_PUBLIC_EXPONENT`, an exponent
that `BN_set_word` converts to its public exponent, so the import's exponent check passes.
`RsaKey::ImportKey` on the same build reads `KEY_SIZE` as the modulus length in bytes, so it
rejects that key under the authorizations it was generated with whenever the modulus has at
least 2 bits. -/
theorem generateKey_rejected_by_importKey {bnBits : Nat} {backend : RsaBackend bnBits}
    {keyDescription : AuthorizationSet} {entropy : List UInt8} {key : Key}
    (h : generateKey backend keyDescription entropy = .ok key) :
    ∃ rsaKey keySize, key.keyMaterial = rsaKey.privateKey ∧
      key.authorizations.getTagValue KeyParam.keySize? = some keySize ∧
      bnNumBits rsaKey.n = keySize.toNat ∧
      (key.authorizations.getTagValue KeyParam.rsaPublicExponent?).map
        (·.toNat % 2 ^ bnBits) = some rsaKey.e ∧
      (2 ≤ keySize.toNat →
        importKey bnBits key.authorizations (.rsa rsaKey) = .error .importParameterMismatch) := by
  obtain ⟨rsaKey, hgen, rfl⟩ := generateKey_eq_ok.mp h
  obtain ⟨hbits, he⟩ := backend.generateKey_spec hgen
  have hsize : (withDefault KeyParam.keySize? (.keySize rsaDefaultKeySize) <|
      withDefault KeyParam.rsaPublicExponent? (.rsaPublicExponent rsaDefaultExponent)
        keyDescription).getTagValue KeyParam.keySize? =
      some ((keyDescription.getTagValue KeyParam.keySize?).getD rsaDefaultKeySize) := by
    rw [getTagValue_withDefault_default KeyParam.keySize? .keySize fun _ => rfl,
      getTagValue_withDefault_of_none rfl]
  refine ⟨rsaKey, _, rfl, hsize, hbits, ?_, fun hlarge => ?_⟩
  · rw [getTagValue_withDefault_of_none rfl,
      getTagValue_withDefault_default KeyParam.rsaPublicExponent? .rsaPublicExponent fun _ => rfl]
    exact congrArg some he.symm
  · refine importKey_rsa_eq_error.mpr ⟨rfl, .inr (.inl ⟨_, hsize, fun hint => ?_⟩)⟩
    have hbytes := toNat_eq_of_intOfUInt32_eq hint
    rw [rsaSize_eq hbits] at hbytes
    omega

/-- A backend that answers every nonzero size with the smallest modulus of that many bits,
`2 ^ (keySize - 1)`, and the requested exponent as a `BN_ULONG`. -/
def powerOfTwoRsaBackend (bnBits : Nat) : RsaBackend bnBits where
  generateKey keySize exponent _ :=
    if keySize = 0 then none
    else some ⟨2 ^ (keySize.toNat - 1), exponent.toNat % 2 ^ bnBits, []⟩
  generateKey_spec := by
    intro keySize exponent entropy rsaKey h
    dsimp only at h
    split at h
    · cases h
    · cases h
      have hpos : keySize.toNat ≠ 0 := fun h0 => ‹¬keySize = 0› (UInt32.toNat.inj h0)
      exact ⟨by rw [bnNumBits, Nat.size_pow]; omega, rfl⟩

/-- The tests' RSA description with `KEY_SIZE = 256` generates a 256-bit key, which the import
rejects under the authorizations it was generated with. -/
theorem generateKey_rejected_by_importKey_256 :
    ∃ rsaKey : Rsa, bnNumBits rsaKey.n = 256 ∧
      importKey 64 ⟨[.algorithm .rsa, .keySize 256, .rsaPublicExponent 65537]⟩ (.rsa rsaKey) =
        .error .importParameterMismatch := by
  obtain ⟨rsaKey, keySize, -, hsize, hbits, -, himport⟩ :=
    @generateKey_rejected_by_importKey 64 (powerOfTwoRsaBackend 64)
      ⟨[.algorithm .rsa, .keySize 256]⟩ [] ⟨⟨[.algorithm .rsa, .keySize 256,
        .rsaPublicExponent 65537]⟩, []⟩ rfl
  obtain rfl : keySize = 256 := Option.some.inj (hsize.symm.trans rfl)
  exact ⟨rsaKey, hbits, himport (by decide)⟩

end RsaKey

/-! ## `DsaKey::GenerateKey` -/

namespace DsaKey

/-- `DSA_DEFAULT_KEY_SIZE`. -/
def dsaDefaultKeySize : UInt32 := 2048

/-- `SetDsaParamData`: `push_back` a parameter as the blob `convert_bn_to_blob` makes. -/
def setDsaParamData (param : List UInt8 → KeyParam) (number : Nat)
    (authorizations : AuthorizationSet) : AuthorizationSet :=
  authorizations.pushBack (param (bnBn2bin number))

/-- The domain parameters of `DsaKey::GenerateKey`, with the set they leave: generated for the
key size, and added, when the description gives none of `g`, `p`, `q` (`GetDsaParamData` reads
the first blob of each); read with `BN_bin2bn` when it gives all three; `INVALID_DSA_PARAMS`
otherwise, and when generation fails. -/
def dsaParams (backend : DsaBackend) (gBlob pBlob qBlob : Option (List UInt8)) (keySize : UInt32)
    (authorizations : AuthorizationSet) (entropy : List UInt8) :
    Except KeymasterError (DsaParams × AuthorizationSet) :=
  match gBlob, pBlob, qBlob with
  | none, none, none =>
      match backend.generateParameters keySize entropy with
      | none => .error .invalidDsaParams
      | some params =>
          .ok (params, setDsaParamData .dsaQ params.q <| setDsaParamData .dsaP params.p <|
            setDsaParamData .dsaGenerator params.g authorizations)
  | some g, some p, some q => .ok (⟨bnBin2bn g, bnBin2bn p, bnBin2bn q⟩, authorizations)
  | _, _, _ => .error .invalidDsaParams

/-- `DsaKey::GenerateKey`: the three parameter blobs, the key size (the description's or the
default added), the domain parameters, then `DSA_generate_key`, else `UNKNOWN_ERROR`. -/
def generateKey (backend : DsaBackend) (keyDescription : AuthorizationSet)
    (entropy : List UInt8) : Except KeymasterError Key :=
  let gBlob := keyDescription.getTagValue KeyParam.dsaGenerator?
  let pBlob := keyDescription.getTagValue KeyParam.dsaP?
  let qBlob := keyDescription.getTagValue KeyParam.dsaQ?
  let (keySize, authorizations) :=
    tagValueOrDefault KeyParam.keySize? .keySize dsaDefaultKeySize keyDescription
  match dsaParams backend gBlob pBlob qBlob keySize authorizations entropy with
  | .error e => .error e
  | .ok (params, authorizations) =>
      match backend.generateKey params entropy with
      | none => .error .unknownError
      | some dsaKey => .ok ⟨authorizations, dsaKey.privateKey⟩

/-- The description gives some of the domain parameters, not all: the mix `DsaKey::GenerateKey`
refuses. -/
def PartialParams (gBlob pBlob qBlob : Option (List UInt8)) : Prop :=
  ¬(gBlob = none ∧ pBlob = none ∧ qBlob = none) ∧ ¬(gBlob.isSome ∧ pBlob.isSome ∧ qBlob.isSome)

section Spec

variable {backend : DsaBackend} {gBlob pBlob qBlob : Option (List UInt8)} {keySize : UInt32}
  {authorizations : AuthorizationSet} {entropy : List UInt8}

/-- `dsaParams` fails only with `INVALID_DSA_PARAMS`: for a partial set of blobs, or for none when
generation fails. -/
theorem dsaParams_eq_error {e : KeymasterError} :
    dsaParams backend gBlob pBlob qBlob keySize authorizations entropy = .error e ↔
      e = .invalidDsaParams ∧ (PartialParams gBlob pBlob qBlob ∨
        gBlob = none ∧ pBlob = none ∧ qBlob = none ∧
          backend.generateParameters keySize entropy = none) := by
  unfold dsaParams PartialParams
  rcases gBlob with _ | g <;> rcases pBlob with _ | p <;> rcases qBlob with _ | q <;>
    cases backend.generateParameters keySize entropy <;> simp [eq_comm]

/-- The parameters `dsaParams` settles on are read back, with `BN_bin2bn`, from the first blobs
of the set it leaves, when the set it starts from has `gBlob`, `pBlob` and `qBlob` as its first
blobs. -/
theorem dsaParams_recorded {params : DsaParams} {authorizations' : AuthorizationSet}
    (hg : authorizations.getTagValue KeyParam.dsaGenerator? = gBlob)
    (hp : authorizations.getTagValue KeyParam.dsaP? = pBlob)
    (hq : authorizations.getTagValue KeyParam.dsaQ? = qBlob)
    (h : dsaParams backend gBlob pBlob qBlob keySize authorizations entropy =
      .ok (params, authorizations')) :
    (authorizations'.getTagValue KeyParam.dsaGenerator?).map bnBin2bn = some params.g ∧
      (authorizations'.getTagValue KeyParam.dsaP?).map bnBin2bn = some params.p ∧
      (authorizations'.getTagValue KeyParam.dsaQ?).map bnBin2bn = some params.q := by
  unfold dsaParams at h
  subst hg hp hq
  split at h
  · rename_i hg hp hq
    cases hgen : backend.generateParameters keySize entropy <;> simp only [hgen] at h <;> cases h
    simp [setDsaParamData, hg, hp, hq, KeyParam.dsaGenerator?, KeyParam.dsaP?, KeyParam.dsaQ?,
      bnBin2bn_bnBn2bin]
  · rename_i hg hp hq
    cases h
    simp [hg, hp, hq]
  · cases h

/-- `dsaParams` adds only the three parameter blobs, so every other tag keeps its first value. -/
theorem dsaParams_getTagValue {β : Type} {read : KeyParam → Option β} {params : DsaParams}
    {authorizations' : AuthorizationSet}
    (hread : ∀ blob, read (.dsaGenerator blob) = none ∧ read (.dsaP blob) = none ∧
      read (.dsaQ blob) = none)
    (h : dsaParams backend gBlob pBlob qBlob keySize authorizations entropy =
      .ok (params, authorizations')) :
    authorizations'.getTagValue read = authorizations.getTagValue read := by
  unfold dsaParams at h
  split at h
  · cases hgen : backend.generateParameters keySize entropy <;> simp only [hgen] at h <;> cases h
    simp [setDsaParamData, hread]
  · cases h
    rfl
  · cases h

/-- The parameters `dsaParams` settles on are the three blobs read with `BN_bin2bn`, or, when
there are none, the ones generated for the key size. -/
theorem dsaParams_source {params : DsaParams} {authorizations' : AuthorizationSet}
    (h : dsaParams backend gBlob pBlob qBlob keySize authorizations entropy =
      .ok (params, authorizations')) :
    (gBlob.map bnBin2bn = some params.g ∧ pBlob.map bnBin2bn = some params.p ∧
        qBlob.map bnBin2bn = some params.q) ∨
      gBlob = none ∧ pBlob = none ∧ qBlob = none ∧
        backend.generateParameters keySize entropy = some params := by
  unfold dsaParams at h
  split at h
  · cases hgen : backend.generateParameters keySize entropy <;> simp only [hgen] at h <;> cases h
    exact .inr ⟨rfl, rfl, rfl, rfl⟩
  · cases h
    exact .inl ⟨rfl, rfl, rfl⟩
  · cases h

variable {keyDescription : AuthorizationSet}

/-- The arguments `DsaKey::GenerateKey` passes to `dsaParams`: the description's first blobs, its
key size or the default, and the description with the default added. -/
theorem generateKey_eq_error_invalidDsaParams :
    generateKey backend keyDescription entropy = .error .invalidDsaParams ↔
      dsaParams backend (keyDescription.getTagValue KeyParam.dsaGenerator?)
        (keyDescription.getTagValue KeyParam.dsaP?) (keyDescription.getTagValue KeyParam.dsaQ?)
        ((keyDescription.getTagValue KeyParam.keySize?).getD dsaDefaultKeySize)
        (withDefault KeyParam.keySize? (.keySize dsaDefaultKeySize) keyDescription) entropy =
        .error .invalidDsaParams := by
  simp only [generateKey, tagValueOrDefault_eq]
  split <;> rename_i h <;> simp only [h, Except.error.injEq]
  split <;> simp

/-- A key `DsaKey::GenerateKey` makes is the backend's key on the parameters `dsaParams` settles
on, with the set `dsaParams` leaves. -/
theorem generateKey_eq_ok {key : Key} :
    generateKey backend keyDescription entropy = .ok key ↔
      ∃ params authorizations dsaKey,
        dsaParams backend (keyDescription.getTagValue KeyParam.dsaGenerator?)
          (keyDescription.getTagValue KeyParam.dsaP?) (keyDescription.getTagValue KeyParam.dsaQ?)
          ((keyDescription.getTagValue KeyParam.keySize?).getD dsaDefaultKeySize)
          (withDefault KeyParam.keySize? (.keySize dsaDefaultKeySize) keyDescription) entropy =
          .ok (params, authorizations) ∧
        backend.generateKey params entropy = some dsaKey ∧
        key = ⟨authorizations, dsaKey.privateKey⟩ := by
  simp only [generateKey, tagValueOrDefault_eq]
  split <;> rename_i h <;> simp only [h]
  · simp
  · split <;> simp [*, and_assoc, @eq_comm Key key]

/-- `DsaKey::GenerateKey` fails with `INVALID_DSA_PARAMS` exactly when the description's first
generator, `p` and `q` are given in part, or not at all and parameter generation fails. A key it
makes is the backend's key on domain parameters that the recorded blobs decode to with
`BN_bin2bn`: the description's when it gave all three, else the ones generated for its key size,
which it adds big-endian with `convert_bn_to_blob`. -/
theorem generateKey_dsa_params (backend : DsaBackend) (keyDescription : AuthorizationSet)
    (entropy : List UInt8) :
    (generateKey backend keyDescription entropy = .error .invalidDsaParams ↔
      PartialParams (keyDescription.getTagValue KeyParam.dsaGenerator?)
          (keyDescription.getTagValue KeyParam.dsaP?) (keyDescription.getTagValue KeyParam.dsaQ?) ∨
        keyDescription.getTagValue KeyParam.dsaGenerator? = none ∧
          keyDescription.getTagValue KeyParam.dsaP? = none ∧
          keyDescription.getTagValue KeyParam.dsaQ? = none ∧
          backend.generateParameters
            ((keyDescription.getTagValue KeyParam.keySize?).getD dsaDefaultKeySize) entropy =
            none) ∧
    ∀ key, generateKey backend keyDescription entropy = .ok key →
      ∃ params dsaKey, backend.generateKey params entropy = some dsaKey ∧
        dsaKey.params = params ∧ key.keyMaterial = dsaKey.privateKey ∧
        (key.authorizations.getTagValue KeyParam.dsaGenerator?).map bnBin2bn = some params.g ∧
        (key.authorizations.getTagValue KeyParam.dsaP?).map bnBin2bn = some params.p ∧
        (key.authorizations.getTagValue KeyParam.dsaQ?).map bnBin2bn = some params.q ∧
        ((keyDescription.getTagValue KeyParam.dsaGenerator?).map bnBin2bn = some params.g ∧
            (keyDescription.getTagValue KeyParam.dsaP?).map bnBin2bn = some params.p ∧
            (keyDescription.getTagValue KeyParam.dsaQ?).map bnBin2bn = some params.q ∨
          keyDescription.getTagValue KeyParam.dsaGenerator? = none ∧
            keyDescription.getTagValue KeyParam.dsaP? = none ∧
            keyDescription.getTagValue KeyParam.dsaQ? = none ∧
            backend.generateParameters
              ((keyDescription.getTagValue KeyParam.keySize?).getD dsaDefaultKeySize) entropy =
              some params) := by
  refine ⟨by simp only [generateKey_eq_error_invalidDsaParams, dsaParams_eq_error, true_and],
    fun key h => ?_⟩
  obtain ⟨params, authorizations, dsaKey, hparams, hgen, rfl⟩ := generateKey_eq_ok.mp h
  obtain ⟨hg, hp, hq⟩ := dsaParams_recorded
    (getTagValue_withDefault_of_none (rfl : KeyParam.dsaGenerator? (.keySize _) = none))
    (getTagValue_withDefault_of_none (rfl : KeyParam.dsaP? (.keySize _) = none))
    (getTagValue_withDefault_of_none (rfl : KeyParam.dsaQ? (.keySize _) = none)) hparams
  exact ⟨params, dsaKey, hgen, backend.generateKey_params hgen, rfl, hg, hp, hq,
    dsaParams_source hparams⟩

/-- `DsaKey::GenerateKey` run again on the authorizations of a key it made reuses that key's
domain parameters and adds nothing: the recorded set is a fixed point, and the new key is the
backend's key on the same parameters, else `UNKNOWN_ERROR`. -/
theorem generateKey_regenerates {key : Key}
    (h : generateKey backend keyDescription entropy = .ok key) :
    ∃ params dsaKey, backend.generateKey params entropy = some dsaKey ∧
      key.keyMaterial = dsaKey.privateKey ∧
      ∀ entropy', generateKey backend key.authorizations entropy' =
        match backend.generateKey params entropy' with
        | none => .error .unknownError
        | some dsaKey' => .ok ⟨key.authorizations, dsaKey'.privateKey⟩ := by
  obtain ⟨params, authorizations, dsaKey, hparams, hgen, rfl⟩ := generateKey_eq_ok.mp h
  obtain ⟨hg, hp, hq⟩ := dsaParams_recorded
    (getTagValue_withDefault_of_none (rfl : KeyParam.dsaGenerator? (.keySize _) = none))
    (getTagValue_withDefault_of_none (rfl : KeyParam.dsaP? (.keySize _) = none))
    (getTagValue_withDefault_of_none (rfl : KeyParam.dsaQ? (.keySize _) = none)) hparams
  obtain ⟨g, hg, hgv⟩ := Option.map_eq_some'.mp hg
  obtain ⟨p, hp, hpv⟩ := Option.map_eq_some'.mp hp
  obtain ⟨q, hq, hqv⟩ := Option.map_eq_some'.mp hq
  have hsize : authorizations.getTagValue KeyParam.keySize? =
      some ((keyDescription.getTagValue KeyParam.keySize?).getD dsaDefaultKeySize) :=
    (dsaParams_getTagValue (fun _ => ⟨rfl, rfl, rfl⟩) hparams).trans
      (getTagValue_withDefault_default KeyParam.keySize? .keySize (fun _ => rfl) _)
  refine ⟨params, dsaKey, hgen, rfl, fun entropy' => ?_⟩
  simp only [generateKey, tagValueOrDefault_eq, hg, hp, hq, dsaParams, hgv, hpv, hqv,
    withDefault_of_getTagValue_eq_some hsize]

/-- A backend on the toy group `p = 23`, `q = 11`, `g = 2`, whose keys are their parameters. -/
def toyDsaBackend : DsaBackend where
  generateParameters _ _ := some ⟨2, 23, 11⟩
  generateKey params _ := some ⟨params, []⟩
  generateKey_params := by
    intro params _ dsaKey h
    cases h
    rfl

/-- A DSA description with no parameters generates on the toy group, and the recorded set
generates on it again. -/
theorem generateKey_regenerates_toy :
    ∃ key, generateKey toyDsaBackend ⟨[.algorithm .dsa]⟩ [] = .ok key ∧
      ∃ params dsaKey, toyDsaBackend.generateKey params [] = some dsaKey ∧
        key.keyMaterial = dsaKey.privateKey ∧
        ∀ entropy', generateKey toyDsaBackend key.authorizations entropy' =
          match toyDsaBackend.generateKey params entropy' with
          | none => .error .unknownError
          | some dsaKey' => .ok ⟨key.authorizations, dsaKey'.privateKey⟩ := by
  obtain ⟨key, h⟩ : ∃ key, generateKey toyDsaBackend ⟨[.algorithm .dsa]⟩ [] = .ok key :=
    ⟨_, rfl⟩
  exact ⟨key, h, generateKey_regenerates h⟩

end Spec

end DsaKey

/-! ## The ECDSA generators -/

/-- The body both ECDSA generators share: the key size (the description's or `defaultKeySize`
added), `choose_group` of it, else `UNSUPPORTED_KEY_SIZE`, then a key on that group, else
`UNKNOWN_ERROR`. -/
def generateEcdsaKey (defaultKeySize : UInt32) (chooseGroup : Nat → Option EcCurve)
    (backend : EcBackend) (keyDescription : AuthorizationSet) (entropy : List UInt8) :
    Except KeymasterError Key :=
  let (keySize, authorizations) :=
    tagValueOrDefault KeyParam.keySize? .keySize defaultKeySize keyDescription
  match chooseGroup keySize.toNat with
  | none => .error .unsupportedKeySize
  | some group =>
      match backend.generateKey group entropy with
      | none => .error .unknownError
      | some ecdsaKey => .ok ⟨authorizations, ecdsaKey.privateKey⟩

section Ecdsa

variable {defaultKeySize : UInt32} {chooseGroup : Nat → Option EcCurve} {backend : EcBackend}
  {keyDescription : AuthorizationSet} {entropy : List UInt8}

/-- The ECDSA generators refuse a key size exactly when `choose_group` has no curve for the
description's first `KEY_SIZE`, or the default. -/
theorem generateEcdsaKey_eq_error_unsupportedKeySize :
    generateEcdsaKey defaultKeySize chooseGroup backend keyDescription entropy =
        .error .unsupportedKeySize ↔
      chooseGroup ((keyDescription.getTagValue KeyParam.keySize?).getD defaultKeySize).toNat =
        none := by
  simp only [generateEcdsaKey, tagValueOrDefault_eq]
  split <;> rename_i h <;> simp only [h]
  split <;> simp

/-- A key the ECDSA generators make is the backend's key on the curve `choose_group` picks, with
the default key size added when the description has none. -/
theorem generateEcdsaKey_eq_ok {key : Key} :
    generateEcdsaKey defaultKeySize chooseGroup backend keyDescription entropy = .ok key ↔
      ∃ curve ecKey,
        chooseGroup ((keyDescription.getTagValue KeyParam.keySize?).getD defaultKeySize).toNat =
          some curve ∧
        backend.generateKey curve entropy = some ecKey ∧
        key = ⟨withDefault KeyParam.keySize? (.keySize defaultKeySize) keyDescription,
          ecKey.privateKey⟩ := by
  simp only [generateEcdsaKey, tagValueOrDefault_eq]
  split <;> rename_i h <;> simp only [h]
  · simp
  · split <;> simp [*, @eq_comm Key key]

end Ecdsa

namespace EcdsaKeyFactory

/-- `ECDSA_DEFAULT_KEY_SIZE` of the factory. -/
def ecdsaDefaultKeySize : UInt32 := 224

/-- `EcdsaKeyFactory::choose_group`. -/
def chooseGroup : Nat → Option EcCurve
  | 224 => some .secp224r1
  | 256 => some .prime256v1
  | 384 => some .secp384r1
  | 521 => some .secp521r1
  | _ => none

/-- `EcdsaKeyFactory::GenerateKey`. -/
def generateKey (backend : EcBackend) (keyDescription : AuthorizationSet)
    (entropy : List UInt8) : Except KeymasterError Key :=
  generateEcdsaKey ecdsaDefaultKeySize chooseGroup backend keyDescription entropy

/-- The factory's `choose_group` has a curve for exactly four sizes. -/
theorem chooseGroup_eq_none_iff {keySize : Nat} :
    chooseGroup keySize = none ↔ keySize ∉ [224, 256, 384, 521] := by
  unfold chooseGroup
  split <;> simp_all

/-- `choose_group` picks a curve whose size by `get_group_size` is the requested size. -/
theorem getGroupSize_of_chooseGroup {keySize : Nat} {curve : EcCurve}
    (h : chooseGroup keySize = some curve) : getGroupSize curve = .ok keySize := by
  unfold chooseGroup at h
  split at h <;> cases h <;> rfl

end EcdsaKeyFactory

namespace EcdsaKey

/-- `ECDSA_DEFAULT_KEY_SIZE` of `asymmetric_key.cpp`. -/
def ecdsaDefaultKeySize : UInt32 := 192

/-- `EcdsaKey::choose_group`, which also has `prime192v1`, a curve `get_group_size` does not
name. -/
def chooseGroup : Nat → Option EcCurve
  | 192 => some .other
  | 224 => some .secp224r1
  | 256 => some .prime256v1
  | 384 => some .secp384r1
  | 521 => some .secp521r1
  | _ => none

/-- `EcdsaKey::GenerateKey` of `asymmetric_key.cpp`. -/
def generateKey (backend : EcBackend) (keyDescription : AuthorizationSet)
    (entropy : List UInt8) : Except KeymasterError Key :=
  generateEcdsaKey ecdsaDefaultKeySize chooseGroup backend keyDescription entropy

/-- `EcdsaKey::choose_group` has a curve for exactly five sizes, 192 among them. -/
theorem chooseGroup_eq_none_iff {keySize : Nat} :
    chooseGroup keySize = none ↔ keySize ∉ [192, 224, 256, 384, 521] := by
  unfold chooseGroup
  split <;> simp_all

end EcdsaKey

/-- `EcdsaKeyFactory::GenerateKey` refuses with `UNSUPPORTED_KEY_SIZE` exactly the descriptions
whose first `KEY_SIZE`, 224 when there is none, is not 224, 256, 384 or 521, whatever the
backend; `EcdsaKey::GenerateKey` of `asymmetric_key.cpp` refuses exactly those whose first
`KEY_SIZE`, 192 when there is none, is not 192, 224, 256, 384 or 521. -/
theorem ecdsa_generateKey_unsupportedKeySize_iff (backend : EcBackend)
    (keyDescription : AuthorizationSet) (entropy : List UInt8) :
    (EcdsaKeyFactory.generateKey backend keyDescription entropy = .error .unsupportedKeySize ↔
      ((keyDescription.getTagValue KeyParam.keySize?).getD
        EcdsaKeyFactory.ecdsaDefaultKeySize).toNat ∉ [224, 256, 384, 521]) ∧
    (EcdsaKey.generateKey backend keyDescription entropy = .error .unsupportedKeySize ↔
      ((keyDescription.getTagValue KeyParam.keySize?).getD
        EcdsaKey.ecdsaDefaultKeySize).toNat ∉ [192, 224, 256, 384, 521]) :=
  ⟨generateEcdsaKey_eq_error_unsupportedKeySize.trans EcdsaKeyFactory.chooseGroup_eq_none_iff,
    generateEcdsaKey_eq_error_unsupportedKeySize.trans EcdsaKey.chooseGroup_eq_none_iff⟩

end Keymaster
