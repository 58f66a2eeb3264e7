/-
# Importing RSA and ECDSA keys

`RsaKey::ImportKey` and `EcdsaKeyFactory::ImportKey` check a parsed private key against the
caller's key description and add the key's own parameters for the tags the description leaves
out, each with the same step: a described tag's first value must match the key, an absent tag is
added with `push_back`. What the two read of the parsed key is the RSA modulus and public
exponent and the named curve of an EC key. `ExtractEvpKey`, which parses the key data, is not
among the sources and is a parameter, as is the width of OpenSSL's `BN_ULONG`.

The ECDSA import compares a described `KEY_SIZE` with the curve's size in bits and records that
size, so importing again under the recorded set gives the same key. The RSA import compares a
described `KEY_SIZE` with `RSA_size`, the modulus length in bytes, and records `RSA_size * 8`
when the tag is absent, so an RSA key imported without `KEY_SIZE` is rejected when it is
imported again under the recorded set. A described exponent reaches its comparison through
`BN_set_word`, which takes a `BN_ULONG`: with a 32-bit `BN_ULONG` only its low 32 bits are
compared with the key's.
-/

import Keymaster.KeyBlob
import Mathlib.Data.Nat.Size
import Mathlib.Data.Nat.GCD.Basic
import Mathlib.Algebra.Group.Int

set_option autoImplicit false

namespace Keymaster

/-! ## The parsed key -/

/-- What the import reads of OpenSSL's `RSA`: the modulus `n` and the public exponent `e`.
`privateKey` is the `i2d_PrivateKey` encoding of the key, its key material. -/
structure Rsa where
  n : Nat
  e : Nat
  privateKey : List UInt8
  deriving DecidableEq, Repr

/-- The curve names `EcdsaKeyFactory::get_group_size` distinguishes; `other` is any other
curve. -/
inductive EcCurve
  | secp224r1 | prime256v1 | secp384r1 | secp521r1 | other
  deriving DecidableEq, Repr

/-- What the import reads of OpenSSL's `EC_KEY`: the curve name of its group, and its key
material. -/
structure EcKey where
  curve : EcCurve
  privateKey : List UInt8
  deriving DecidableEq, Repr

/-- An `EVP_PKEY` as `ExtractEvpKey` returns it: an RSA key, an EC key, or a key of another
type. -/
inductive EvpPkey
  | rsa (key : Rsa)
  | ec (key : EcKey)
  | other
  deriving DecidableEq, Repr

namespace EvpPkey

/-- `EVP_PKEY_get1_RSA`: the RSA key, `NULL` for a key of another type. -/
def get1Rsa : EvpPkey → Option Rsa
  | rsa key => some key
  | _ => none

/-- `EVP_PKEY_get1_EC_KEY`: the EC key, `NULL` for a key of another type. -/
def get1EcKey : EvpPkey → Option EcKey
  | ec key => some key
  | _ => none

end EvpPkey

/-! ## Big numbers and machine integers -/

/-- `BN_num_bits`: the number of significant bits. -/
def bnNumBits (a : Nat) : Nat := Nat.size a

/-- `RSA_size`: the modulus length in bytes, `BN_num_bytes(rsa->n)`. -/
def rsaSize (rsa : Rsa) : Nat := (bnNumBits rsa.n + 7) / 8

/-- `RSA_size` of a modulus of `bits` bits is its length in whole bytes. -/
theorem rsaSize_eq {rsa : Rsa} {bits : Nat} (h : bnNumBits rsa.n = bits) :
    rsaSize rsa = (bits + 7) / 8 := by
  rw [rsaSize, h]

/-- `BN_get_word` with a `BN_ULONG` of `bnBits` bits: the value when it fits in one word, else
the all-ones word `BN_MASK2`. -/
def bnGetWord (bnBits a : Nat) : Nat := if a < 2 ^ bnBits then a else 2 ^ bnBits - 1

/-- The conversion `(int)` of a `uint32_t`, on a two's-complement platform. -/
def intOfUInt32 (x : UInt32) : Int := if x.toNat < 2 ^ 31 then x.toNat else x.toNat - 2 ^ 32

/-- `(int)` of a `uint32_t` is a natural number `b` only when the value is `b`. -/
theorem toNat_eq_of_intOfUInt32_eq {x : UInt32} {b : Nat} (h : intOfUInt32 x = b) :
    x.toNat = b := by
  have h32 : (2 : Int) ^ 32 = 4294967296 := rfl
  have hx : x.toNat < 4294967296 := x.val.isLt
  unfold intOfUInt32 at h
  split_ifs at h
  · exact_mod_cast h
  · omega

/-- A byte count recorded as bits, `(uint32_t)(b * 8)`, never reads back as `b` through `(int)`,
unless `b` is 0: `b * 8 ≡ b` modulo `2 ^ 32` makes `2 ^ 32` divide `7 * b`, hence `b`, which is
below `2 ^ 32`. -/
theorem intOfUInt32_ofNat_mul_eight_ne {b : Nat} (hb : 0 < b) :
    intOfUInt32 (UInt32.ofNat (b * 8)) ≠ b := fun h => by
  have h8 : b * 8 % 4294967296 = b := toNat_eq_of_intOfUInt32_eq h
  have hdiv := Nat.div_add_mod (b * 8) 4294967296
  rw [h8] at hdiv
  have hdvd : 4294967296 ∣ 7 * b := ⟨b * 8 / 4294967296,
    (Nat.add_right_cancel (hdiv.trans (by rw [Nat.mul_comm]; exact Nat.succ_mul 7 b))).symm⟩
  have hle := Nat.le_of_dvd hb (Nat.Coprime.dvd_of_dvd_mul_left (by decide) hdvd)
  exact absurd (h8 ▸ Nat.mod_lt _ (by decide)) (Nat.not_lt.mpr hle)

/-! ## The step of every check -/

/-- The check `ImportKey` makes for one tag: when the set holds the tag, its first value must pass
`accepts`, else `IMPORT_PARAMETER_MISMATCH`; when it does not, the key's own value `param` is
added with `push_back`. -/
def checkTagOrAdd {α : Type} (read : KeyParam → Option α) (accepts : α → Prop)
    [DecidablePred accepts] (param : KeyParam) (authorizations : AuthorizationSet) :
    Except KeymasterError AuthorizationSet :=
  match authorizations.getTagValue read with
  | some value => if accepts value then .ok authorizations else .error .importParameterMismatch
  | none => .ok (authorizations.pushBack param)

/-- The set a passing check leaves: the set itself when it holds the tag, else the set with
`param` added. -/
def withDefault {α : Type} (read : KeyParam → Option α) (param : KeyParam)
    (s : AuthorizationSet) : AuthorizationSet :=
  if (s.getTagValue read).isSome then s else s.pushBack param

/-- The set's first value of a tag is present and fails the check. -/
def TagConflicts {α : Type} (s : AuthorizationSet) (read : KeyParam → Option α)
    (accepts : α → Prop) : Prop :=
  ∃ value, s.getTagValue read = some value ∧ ¬accepts value

section Step

variable {α β : Type} {read : KeyParam → Option α} {accepts : α → Prop} [DecidablePred accepts]
  {param : KeyParam} {s s' : AuthorizationSet}

/-- A check fails only with `IMPORT_PARAMETER_MISMATCH`, when the set's first value of the tag
fails it. -/
theorem checkTagOrAdd_eq_error {e : KeymasterError} :
    checkTagOrAdd read accepts param s = .error e ↔
      e = .importParameterMismatch ∧ TagConflicts s read accepts := by
  unfold checkTagOrAdd TagConflicts
  cases s.getTagValue read <;> simp [apply_ite (· = Except.error e), eq_comm, and_comm]

/-- A passing check leaves the set with the key's value added when the tag was absent. -/
theorem checkTagOrAdd_eq_ok :
    checkTagOrAdd read accepts param s = .ok s' ↔
      ¬TagConflicts s read accepts ∧ s' = withDefault read param s := by
  unfold checkTagOrAdd TagConflicts withDefault
  cases s.getTagValue read <;> simp [apply_ite (· = Except.ok s'), eq_comm]

/-- Adding a parameter of another tag leaves a tag's first value as it was. -/
@[simp] theorem getTagValue_withDefault_of_none {read' : KeyParam → Option β}
    (h : read' param = none) :
    (withDefault read param s).getTagValue read' = s.getTagValue read' := by
  unfold withDefault
  split_ifs <;> simp [h]

/-- After the check, the tag's first value is the set's, else the added one. -/
@[simp] theorem getTagValue_withDefault_self :
    (withDefault read param s).getTagValue read = (s.getTagValue read).or (read param) := by
  unfold withDefault
  cases h : s.getTagValue read <;> simp [h]

/-- A set that holds the tag is left as it is. -/
theorem withDefault_of_getTagValue_eq_some {value : α} (h : s.getTagValue read = some value) :
    withDefault read param s = s := by
  simp [withDefault, h]

/-- Adding a parameter of another tag changes no other check. -/
@[simp] theorem tagConflicts_withDefault_of_none {read' : KeyParam → Option β}
    {accepts' : β → Prop} (h : read' param = none) :
    TagConflicts (withDefault read param s) read' accepts' ↔ TagConflicts s read' accepts' := by
  simp [TagConflicts, h]

end Step

/-! ## `RsaKey::ImportKey` -/

namespace RsaKey

/-- The `RSA_PUBLIC_EXPONENT` step of `RsaKey::ImportKey`: a described exponent, converted to a
`BN_ULONG` of `bnBits` bits by `BN_set_word`, must equal the key's `e` (`BN_cmp`); without one,
the key's `BN_get_word(e)` is added, and the import fails when that word is `0xffffffff`. -/
def checkPublicExponent (bnBits : Nat) (rsaKey : Rsa) (authorizations : AuthorizationSet) :
    Except KeymasterError AuthorizationSet :=
  match authorizations.getTagValue KeyParam.rsaPublicExponent? with
  | some publicExponent =>
      if publicExponent.toNat % 2 ^ bnBits = rsaKey.e then .ok authorizations
      else .error .importParameterMismatch
  | none =>
      let publicExponent := UInt64.ofNat (bnGetWord bnBits rsaKey.e)
      if publicExponent = 0xffffffff then .error .importParameterMismatch
      else .ok (authorizations.pushBack (.rsaPublicExponent publicExponent))

/-- `RsaKey::ImportKey(key_description, pkey, &error)`: the exponent, then `KEY_SIZE`, compared
through `(int)` with `RSA_size` and recorded as `RSA_size * 8`, then `ALGORITHM`. -/
def importKey (bnBits : Nat) (keyDescription : AuthorizationSet) (pkey : EvpPkey) :
    Except KeymasterError Key := do
  let some rsaKey := pkey.get1Rsa | .error .unknownError
  let authorizations ← checkPublicExponent bnBits rsaKey keyDescription
  let authorizations ← checkTagOrAdd KeyParam.keySize?
    (fun keySize => intOfUInt32 keySize = rsaSize rsaKey)
    (.keySize (UInt32.ofNat (rsaSize rsaKey * 8))) authorizations
  let authorizations ←
    checkTagOrAdd KeyParam.algorithm? (· = .rsa) (.algorithm .rsa) authorizations
  pure ⟨authorizations, rsaKey.privateKey⟩

/-- The exponent step fails: a described exponent, as a `BN_ULONG`, differs from `e`, or none is
described and `BN_get_word(e)` is `0xffffffff`. -/
def ExponentConflicts (bnBits : Nat) (rsaKey : Rsa) (s : AuthorizationSet) : Prop :=
  TagConflicts s KeyParam.rsaPublicExponent? (·.toNat % 2 ^ bnBits = rsaKey.e) ∨
    s.getTagValue KeyParam.rsaPublicExponent? = none ∧
      UInt64.ofNat (bnGetWord bnBits rsaKey.e) = 0xffffffff

/-- The parameter the exponent step adds when no exponent is described. -/
def publicExponentParam (bnBits : Nat) (rsaKey : Rsa) : KeyParam :=
  .rsaPublicExponent (UInt64.ofNat (bnGetWord bnBits rsaKey.e))

section Spec

variable {bnBits : Nat} {rsaKey : Rsa} {s s' : AuthorizationSet}

/-- The exponent step fails only with `IMPORT_PARAMETER_MISMATCH`, on an exponent conflict. -/
theorem checkPublicExponent_eq_error {e : KeymasterError} :
    checkPublicExponent bnBits rsaKey s = .error e ↔
      e = .importParameterMismatch ∧ ExponentConflicts bnBits rsaKey s := by
  unfold checkPublicExponent ExponentConflicts TagConflicts
  cases s.getTagValue KeyParam.rsaPublicExponent? <;>
    simp [apply_ite (· = Except.error e), eq_comm, and_comm]

/-- A passing exponent step adds `BN_get_word(e)` when no exponent is described. -/
theorem checkPublicExponent_eq_ok :
    checkPublicExponent bnBits rsaKey s = .ok s' ↔
      ¬ExponentConflicts bnBits rsaKey s ∧
        s' = withDefault KeyParam.rsaPublicExponent? (publicExponentParam bnBits rsaKey) s := by
  unfold checkPublicExponent ExponentConflicts TagConflicts withDefault publicExponentParam
  cases s.getTagValue KeyParam.rsaPublicExponent? <;>
    simp [apply_ite (· = Except.ok s'), eq_comm]

/-- The checks of `RsaKey::ImportKey` that can fail for an RSA key, all read on the description. -/
def Conflicts (bnBits : Nat) (keyDescription : AuthorizationSet) (rsaKey : Rsa) : Prop :=
  ExponentConflicts bnBits rsaKey keyDescription ∨
    TagConflicts keyDescription KeyParam.keySize? (intOfUInt32 · = rsaSize rsaKey) ∨
    TagConflicts keyDescription KeyParam.algorithm? (· = .rsa)

/-- The set a successful import of an RSA key returns: the description, with the exponent, the
key size and the algorithm added where it has none. -/
def importedAuthorizations (bnBits : Nat) (keyDescription : AuthorizationSet) (rsaKey : Rsa) :
    AuthorizationSet :=
  withDefault KeyParam.algorithm? (.algorithm .rsa) <|
    withDefault KeyParam.keySize? (.keySize (UInt32.ofNat (rsaSize rsaKey * 8))) <|
      withDefault KeyParam.rsaPublicExponent? (publicExponentParam bnBits rsaKey) keyDescription

/-- For an RSA key the import fails only with `IMPORT_PARAMETER_MISMATCH`, on a conflict of the
description. -/
theorem importKey_rsa_eq_error {keyDescription : AuthorizationSet} {e : KeymasterError} :
    importKey bnBits keyDescription (.rsa rsaKey) = .error e ↔
      e = .importParameterMismatch ∧ Conflicts bnBits keyDescription rsaKey := by
  simp [importKey, EvpPkey.get1Rsa, bind_eq_error, map_eq_error, checkPublicExponent_eq_error,
    checkPublicExponent_eq_ok, checkTagOrAdd_eq_error, checkTagOrAdd_eq_ok, Conflicts,
    publicExponentParam, KeyParam.keySize?, KeyParam.algorithm?, and_assoc]
  tauto

/-- For an RSA key without conflicts the import returns the imported set and the key's DER
encoding. -/
theorem importKey_rsa_eq_ok {keyDescription : AuthorizationSet} {key : Key} :
    importKey bnBits keyDescription (.rsa rsaKey) = .ok key ↔
      ¬Conflicts bnBits keyDescription rsaKey ∧
        key = ⟨importedAuthorizations bnBits keyDescription rsaKey, rsaKey.privateKey⟩ := by
  simp [importKey, EvpPkey.get1Rsa, bind_eq_ok, map_eq_ok, checkPublicExponent_eq_ok,
    checkTagOrAdd_eq_ok, Conflicts, importedAuthorizations, publicExponentParam,
    KeyParam.keySize?, KeyParam.algorithm?, and_assoc, @eq_comm Key key]

/-- `RsaKey::ImportKey` rejects an RSA key with `IMPORT_PARAMETER_MISMATCH` exactly when the
description's first exponent, reduced to a `BN_ULONG` of `bnBits` bits, differs from `e`, or it
has none and `BN_get_word(e)` is `0xffffffff`, or its first `KEY_SIZE`, read as an `int`, differs
from `RSA_size`, the modulus length in bytes, or its first `ALGORITHM` is not RSA. -/
theorem importKey_rsa_mismatch_iff (bnBits : Nat) (keyDescription : AuthorizationSet)
    (rsaKey : Rsa) :
    importKey bnBits keyDescription (.rsa rsaKey) = .error .importParameterMismatch ↔
      (∃ e, keyDescription.getTagValue KeyParam.rsaPublicExponent? = some e ∧
        e.toNat % 2 ^ bnBits ≠ rsaKey.e) ∨
      (keyDescription.getTagValue KeyParam.rsaPublicExponent? = none ∧
        UInt64.ofNat (bnGetWord bnBits rsaKey.e) = 0xffffffff) ∨
      (∃ keySize, keyDescription.getTagValue KeyParam.keySize? = some keySize ∧
        intOfUInt32 keySize ≠ rsaSize rsaKey) ∨
      ∃ algorithm, keyDescription.getTagValue KeyParam.algorithm? = some algorithm ∧
        algorithm ≠ .rsa := by
  simp only [importKey_rsa_eq_error, Conflicts, ExponentConflicts, TagConflicts, true_and,
    or_assoc]

/- With a 32-bit `BN_ULONG` the described exponent `2 ^ 32 + 65537` reaches `BN_cmp` as 65537,
so a key with `e = 65537` is imported under it. -/
example : ∃ key, importKey 32 ⟨[.rsaPublicExponent 4295032833]⟩ (.rsa ⟨255, 65537, []⟩) =
    .ok key :=
  ⟨_, importKey_rsa_eq_ok.mpr ⟨by
    rintro ((⟨_, h, hne⟩ | ⟨h, -⟩) | ⟨_, h, -⟩ | ⟨_, h, -⟩) <;> cases h
    exact hne (by decide), rfl⟩⟩


/-- A key with a 1024-bit modulus described with `KEY_SIZE = 1024`, its size in bits, is
rejected: its `RSA_size` is 128. -/
theorem importKey_rejects_keySize_in_bits :
    bnNumBits (2 ^ 1023) = 1024 ∧
      importKey 64 ⟨[.algorithm .rsa, .keySize 1024]⟩ (.rsa ⟨2 ^ 1023, 65537, []⟩) =
        .error .importParameterMismatch :=
  ⟨Nat.size_pow, (importKey_rsa_mismatch_iff 64 _ _).mpr <| .inr <| .inr <| .inl
    ⟨1024, rfl, by rw [@rsaSize_eq ⟨2 ^ 1023, 65537, []⟩ 1024 Nat.size_pow]; decide⟩⟩

/-- An RSA key imported without `KEY_SIZE` records `RSA_size * 8`, and importing it again under
the recorded set is rejected. -/
theorem importKey_rejects_recorded_keySize {keyDescription : AuthorizationSet} {key : Key}
    (hbits : 0 < bnNumBits rsaKey.n)
    (hnone : keyDescription.getTagValue KeyParam.keySize? = none)
    (h : importKey bnBits keyDescription (.rsa rsaKey) = .ok key) :
    key.authorizations.getTagValue KeyParam.keySize? = some (UInt32.ofNat (rsaSize rsaKey * 8)) ∧
      importKey bnBits key.authorizations (.rsa rsaKey) = .error .importParameterMismatch := by
  obtain ⟨-, rfl⟩ := importKey_rsa_eq_ok.mp h
  have hsize : (importedAuthorizations bnBits keyDescription rsaKey).getTagValue
      KeyParam.keySize? = some (UInt32.ofNat (rsaSize rsaKey * 8)) := by
    simp [importedAuthorizations, hnone, KeyParam.keySize?, publicExponentParam]
  refine ⟨hsize, importKey_rsa_eq_error.mpr ⟨rfl, .inr (.inl ⟨_, hsize, ?_⟩)⟩⟩
  exact intOfUInt32_ofNat_mul_eight_ne (by unfold rsaSize; omega)

/-- The test's 1024-bit key, imported with only `ALGORITHM = RSA`, records `KEY_SIZE = 1024`
and is rejected under the recorded set. -/
theorem importKey_rejects_recorded_keySize_1024 :
    rsaSize ⟨2 ^ 1023, 65537, []⟩ = 128 ∧
      (importedAuthorizations 64 ⟨[.algorithm .rsa]⟩ ⟨2 ^ 1023, 65537, []⟩).getTagValue
        KeyParam.keySize? = some (UInt32.ofNat (rsaSize ⟨2 ^ 1023, 65537, []⟩ * 8)) ∧
      importKey 64 (importedAuthorizations 64 ⟨[.algorithm .rsa]⟩ ⟨2 ^ 1023, 65537, []⟩)
        (.rsa ⟨2 ^ 1023, 65537, []⟩) = .error .importParameterMismatch :=
  have hbits : bnNumBits (2 ^ 1023) = 1024 := Nat.size_pow
  have hchecks : ¬Conflicts 64 ⟨[.algorithm .rsa]⟩ ⟨2 ^ 1023, 65537, []⟩ := by
    rintro ((⟨_, h, -⟩ | ⟨-, h⟩) | ⟨_, h, -⟩ | ⟨_, h, h'⟩)
    · cases h
    · revert h; decide
    · cases h
    · cases h; exact h' rfl
  ⟨@rsaSize_eq ⟨2 ^ 1023, 65537, []⟩ 1024 hbits,
    @importKey_rejects_recorded_keySize 64 ⟨2 ^ 1023, 65537, []⟩ ⟨[.algorithm .rsa]⟩ _
      (by rw [hbits]; decide) rfl (importKey_rsa_eq_ok.mpr ⟨hchecks, rfl⟩)⟩

end Spec

end RsaKey

/-! ## `EcdsaKeyFactory::ImportKey` -/

namespace EcdsaKeyFactory

/-- `get_group_size`: the size in bits of the four named curves, `UNSUPPORTED_EC_FIELD` for any
other. -/
def getGroupSize : EcCurve → Except KeymasterError Nat
  | .secp224r1 => .ok 224
  | .prime256v1 => .ok 256
  | .secp384r1 => .ok 384
  | .secp521r1 => .ok 521
  | .other => .error .unsupportedEcField

/-- Every curve size fits a `KEY_SIZE`. -/
theorem getGroupSize_lt {curve : EcCurve} {bits : Nat} (h : getGroupSize curve = .ok bits) :
    bits < 2 ^ 32 := by
  cases curve <;> cases h <;> decide

/-- `EcdsaKeyFactory::ImportKey`, with `extractEvpKey` the parser `ExtractEvpKey`: the curve's
size, then `KEY_SIZE`, compared in bits, then `ALGORITHM`. -/
def importKey (extractEvpKey : KeyFormat → Algorithm → List UInt8 → Except KeymasterError EvpPkey)
    (keyDescription : AuthorizationSet) (keyFormat : KeyFormat) (keyData : List UInt8) :
    Except KeymasterError Key := do
  let pkey ← extractEvpKey keyFormat .ecdsa keyData
  let some ecdsaKey := pkey.get1EcKey | .error .unknownError
  let extractedKeySizeBits ← getGroupSize ecdsaKey.curve
  let authorizations ← checkTagOrAdd KeyParam.keySize?
    (fun keySizeBits => keySizeBits.toNat = extractedKeySizeBits)
    (.keySize (UInt32.ofNat extractedKeySizeBits)) keyDescription
  let authorizations ←
    checkTagOrAdd KeyParam.algorithm? (· = .ecdsa) (.algorithm .ecdsa) authorizations
  pure ⟨authorizations, ecdsaKey.privateKey⟩

/-- The checks of `EcdsaKeyFactory::ImportKey` that can fail for a key on a curve of `bits`
bits. -/
def Conflicts (keyDescription : AuthorizationSet) (bits : Nat) : Prop :=
  TagConflicts keyDescription KeyParam.keySize? (·.toNat = bits) ∨
    TagConflicts keyDescription KeyParam.algorithm? (· = .ecdsa)

/-- The set a successful import of a key on a curve of `bits` bits returns. -/
def importedAuthorizations (keyDescription : AuthorizationSet) (bits : Nat) : AuthorizationSet :=
  withDefault KeyParam.algorithm? (.algorithm .ecdsa) <|
    withDefault KeyParam.keySize? (.keySize (UInt32.ofNat bits)) keyDescription

section Spec

variable {extractEvpKey : KeyFormat → Algorithm → List UInt8 → Except KeymasterError EvpPkey}
  {keyFormat : KeyFormat} {keyData : List UInt8} {ecKey : EcKey} {bits : Nat}
  {keyDescription : AuthorizationSet}

/-- For a parsed key on a named curve the import fails only with `IMPORT_PARAMETER_MISMATCH`, on
a conflict of the description. -/
theorem importKey_eq_error_of_extract {e : KeymasterError}
    (hx : extractEvpKey keyFormat .ecdsa keyData = .ok (.ec ecKey))
    (hn : getGroupSize ecKey.curve = .ok bits) :
    importKey extractEvpKey keyDescription keyFormat keyData = .error e ↔
      e = .importParameterMismatch ∧ Conflicts keyDescription bits := by
  simp [importKey, hx, hn, EvpPkey.get1EcKey, bind_eq_error, map_eq_error,
    checkTagOrAdd_eq_error, checkTagOrAdd_eq_ok, Conflicts, KeyParam.algorithm?, and_assoc]
  tauto

/-- For a parsed key on a named curve without conflicts the import returns the imported set and
the key's DER encoding. -/
theorem importKey_eq_ok_of_extract {key : Key}
    (hx : extractEvpKey keyFormat .ecdsa keyData = .ok (.ec ecKey))
    (hn : getGroupSize ecKey.curve = .ok bits) :
    importKey extractEvpKey keyDescription keyFormat keyData = .ok key ↔
      ¬Conflicts keyDescription bits ∧
        key = ⟨importedAuthorizations keyDescription bits, ecKey.privateKey⟩ := by
  simp [importKey, hx, hn, EvpPkey.get1EcKey, bind_eq_ok, map_eq_ok, checkTagOrAdd_eq_ok,
    Conflicts, importedAuthorizations, KeyParam.algorithm?, and_assoc, @eq_comm Key key]

/-- The first `KEY_SIZE` of the imported set is the curve's size. -/
theorem getTagValue_importedAuthorizations_keySize (hbits : bits < 2 ^ 32)
    (hchecks : ¬Conflicts keyDescription bits) :
    (importedAuthorizations keyDescription bits).getTagValue KeyParam.keySize? =
      some (UInt32.ofNat bits) := by
  cases h : keyDescription.getTagValue KeyParam.keySize? with
  | none => simp [importedAuthorizations, h, KeyParam.keySize?]
  | some keySize =>
    have hsize : keySize.toNat = bits := Classical.not_not.mp fun hne =>
      hchecks (.inl ⟨keySize, h, hne⟩)
    simp only [importedAuthorizations, getTagValue_withDefault_of_none (rfl : KeyParam.keySize?
      (.algorithm .ecdsa) = none), getTagValue_withDefault_self, h, Option.or_some]
    exact congrArg some (UInt32.toNat.inj (by rw [hsize, UInt32.toNat_ofNat_of_lt hbits]))

/-- A set that holds both tags is its own imported set. -/
theorem importedAuthorizations_of_getTagValue {keySize : UInt32} {algorithm : Algorithm}
    (hk : keyDescription.getTagValue KeyParam.keySize? = some keySize)
    (ha : keyDescription.getTagValue KeyParam.algorithm? = some algorithm) :
    importedAuthorizations keyDescription bits = keyDescription := by
  rw [importedAuthorizations, withDefault_of_getTagValue_eq_some hk,
    withDefault_of_getTagValue_eq_some ha]

/-- For an ECDSA key on a supported curve of `bits` bits, `ImportKey` rejects with
`IMPORT_PARAMETER_MISMATCH` exactly when the description's first `KEY_SIZE` differs from `bits`
or its first `ALGORITHM` is not ECDSA; a successful import records `KEY_SIZE = bits`, and
importing the key again under the recorded set gives the same key. -/
theorem importKey_checks_curve_size
    (hx : extractEvpKey keyFormat .ecdsa keyData = .ok (.ec ecKey))
    (hn : getGroupSize ecKey.curve = .ok bits) :
    (importKey extractEvpKey keyDescription keyFormat keyData = .error .importParameterMismatch ↔
      (∃ keySize, keyDescription.getTagValue KeyParam.keySize? = some keySize ∧
        keySize.toNat ≠ bits) ∨
      ∃ algorithm, keyDescription.getTagValue KeyParam.algorithm? = some algorithm ∧
        algorithm ≠ .ecdsa) ∧
    ∀ key, importKey extractEvpKey keyDescription keyFormat keyData = .ok key →
      key.authorizations.getTagValue KeyParam.keySize? = some (UInt32.ofNat bits) ∧
        importKey extractEvpKey key.authorizations keyFormat keyData = .ok key := by
  refine ⟨by simp only [importKey_eq_error_of_extract hx hn, Conflicts, TagConflicts, true_and],
    fun key hkey => ?_⟩
  obtain ⟨hchecks, rfl⟩ := (importKey_eq_ok_of_extract hx hn).mp hkey
  have hsize := getTagValue_importedAuthorizations_keySize (getGroupSize_lt hn) hchecks
  have halg : (importedAuthorizations keyDescription bits).getTagValue KeyParam.algorithm? =
      some .ecdsa := by
    cases h : keyDescription.getTagValue KeyParam.algorithm? with
    | none => simp [importedAuthorizations, h, KeyParam.algorithm?]
    | some algorithm =>
      have : algorithm = .ecdsa := Classical.not_not.mp fun hne => hchecks (.inr ⟨_, h, hne⟩)
      simp [importedAuthorizations, h, this, KeyParam.algorithm?]
  refine ⟨hsize, (importKey_eq_ok_of_extract hx hn).mpr ⟨?_, ?_⟩⟩
  · rintro (⟨_, h, hne⟩ | ⟨_, h, hne⟩)
    · rw [hsize] at h; cases h; exact hne (UInt32.toNat_ofNat_of_lt (getGroupSize_lt hn))
    · rw [halg] at h; cases h; exact hne rfl
  · rw [importedAuthorizations_of_getTagValue hsize halg]

/-- The tests' P-256 key described with `KEY_SIZE = 224` is rejected. -/
theorem importKey_p256_keySize_224 :
    importKey (fun _ _ _ => .ok (.ec ⟨.prime256v1, []⟩)) ⟨[.algorithm .ecdsa, .keySize 224]⟩
      .pkcs8 [] = .error .importParameterMismatch :=
  (@importKey_checks_curve_size (fun _ _ _ => .ok (.ec ⟨.prime256v1, []⟩)) .pkcs8 []
    ⟨.prime256v1, []⟩ 256 ⟨[.algorithm .ecdsa, .keySize 224]⟩ rfl rfl).1.mpr
      (.inl ⟨224, rfl, by decide⟩)

end Spec

end EcdsaKeyFactory

end Keymaster
