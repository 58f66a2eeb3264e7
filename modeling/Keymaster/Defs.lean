/-
# Keymaster values and authorization sets

The values the keymaster core exchanges: the enumerations of the HAL header, typed key
parameters and the ordered, duplicate-preserving `AuthorizationSet`. The HAL header
`keymaster_defs.h` and `authorization_set.cpp` are not among the sources; the enumerations keep
one constructor per enumerator the sources name, and a key parameter keeps its value in the
union member its tag's type selects, so an ill-typed parameter cannot be built.
-/

import Mathlib.Data.List.Basic
import Mathlib.Algebra.Group.Nat.Basic

set_option autoImplicit false

namespace Keymaster

/-- `keymaster_algorithm_t`, the algorithms the sources name. -/
inductive Algorithm
  | rsa | dsa | ecdsa | aes | hmac
  deriving DecidableEq, Repr

/-- `keymaster_purpose_t`. -/
inductive Purpose
  | encrypt | decrypt | sign | verify
  deriving DecidableEq, Repr

/-- `keymaster_digest_t`. -/
inductive Digest
  | none | md5 | sha1 | sha224 | sha256 | sha384 | sha512
  deriving DecidableEq, Repr

/-- `keymaster_block_mode_t`. -/
inductive BlockMode
  | ecb | cbc | cfb | ocb
  deriving DecidableEq, Repr

/-- `keymaster_padding_t`. -/
inductive Padding
  | none | rsaOaep | rsaPss | rsaPkcs1_1_5Encrypt | rsaPkcs1_1_5Sign | pkcs7 | zero
  deriving DecidableEq, Repr

/-- `keymaster_key_origin_t`. -/
inductive KeyOrigin
  | hardware | software | imported
  deriving DecidableEq, Repr

/-- `keymaster_key_format_t`. -/
inductive KeyFormat
  | x509 | pkcs8 | raw
  deriving DecidableEq, Repr

/-- `keymaster_error_t`: the error kinds every API surface returns. -/
inductive KeymasterError
  | ok
  | unsupportedAlgorithm | unsupportedPurpose | unsupportedKeySize | unsupportedKeyFormat
  | unsupportedBlockMode | unsupportedDigest | unsupportedPaddingMode | unsupportedMacLength
  | unsupportedTag | unsupportedEcField
  | invalidArgument | invalidKeyBlob | invalidInputLength | invalidOperationHandle | invalidTag
  | invalidDsaParams
  | importParameterMismatch | incompatibleAlgorithm | incompatibleDigest
  | verificationFailed | tooManyOperations | outputParameterNull | memoryAllocationFailed
  | unimplemented | unknownError
  deriving DecidableEq, Repr

/-- `keymaster_tag_t`. The tags some modelled function distinguishes are named; `other` is every
remaining tag, by its 32-bit code. -/
inductive Tag
  | purpose | algorithm | keySize | digest | padding | macLength | rsaPublicExponent
  | dsaGenerator | dsaP | dsaQ | applicationId | applicationData | origin | rootOfTrust
  | creationDatetime | rollbackResistant
  | other (code : UInt32)
  deriving DecidableEq, Repr

/-- The members of the value union of `keymaster_key_param_t`, for tags no modelled function
reads. -/
inductive ParamValue
  | enumerated (value : UInt32)
  | integer (value : UInt32)
  | longInteger (value : UInt64)
  | dateTime (value : UInt64)
  | boolean (value : Bool)
  | blob (data : List UInt8)
  deriving DecidableEq, Repr

/-- `keymaster_key_param_t`: a tag with the value its type selects. -/
inductive KeyParam
  | purpose (value : Purpose)
  | algorithm (value : Algorithm)
  | keySize (value : UInt32)
  | digest (value : Digest)
  | padding (value : Padding)
  | macLength (value : UInt32)
  | rsaPublicExponent (value : UInt64)
  | dsaGenerator (value : List UInt8)
  | dsaP (value : List UInt8)
  | dsaQ (value : List UInt8)
  | applicationId (data : List UInt8)
  | applicationData (data : List UInt8)
  | origin (value : KeyOrigin)
  | rootOfTrust (data : List UInt8)
  | creationDatetime (value : UInt64)
  | rollbackResistant (value : Bool)
  | other (code : UInt32) (value : ParamValue)
  deriving DecidableEq, Repr

namespace KeyParam

/-- The `tag` field of a parameter. -/
def tag : KeyParam → Tag
  | purpose _ => .purpose
  | algorithm _ => .algorithm
  | keySize _ => .keySize
  | digest _ => .digest
  | padding _ => .padding
  | macLength _ => .macLength
  | rsaPublicExponent _ => .rsaPublicExponent
  | dsaGenerator _ => .dsaGenerator
  | dsaP _ => .dsaP
  | dsaQ _ => .dsaQ
  | applicationId _ => .applicationId
  | applicationData _ => .applicationData
  | origin _ => .origin
  | rootOfTrust _ => .rootOfTrust
  | creationDatetime _ => .creationDatetime
  | rollbackResistant _ => .rollbackResistant
  | other code _ => .other code

/-! Reading the union member of one typed tag: `some` exactly on parameters of that tag. -/

/-- The `TAG_PURPOSE` value. -/
def purpose? : KeyParam → Option Purpose
  | purpose p => some p
  | _ => none

/-- The `TAG_ALGORITHM` value. -/
def algorithm? : KeyParam → Option Algorithm
  | algorithm a => some a
  | _ => none

/-- The `TAG_KEY_SIZE` value. -/
def keySize? : KeyParam → Option UInt32
  | keySize n => some n
  | _ => none

/-- The `TAG_DIGEST` value. -/
def digest? : KeyParam → Option Digest
  | digest d => some d
  | _ => none

/-- The `TAG_PADDING` value. -/
def padding? : KeyParam → Option Padding
  | padding p => some p
  | _ => none

/-- The `TAG_MAC_LENGTH` value. -/
def macLength? : KeyParam → Option UInt32
  | macLength n => some n
  | _ => none

/-- The `TAG_RSA_PUBLIC_EXPONENT` value. -/
def rsaPublicExponent? : KeyParam → Option UInt64
  | rsaPublicExponent e => some e
  | _ => none

/-- The `TAG_DSA_GENERATOR` blob. -/
def dsaGenerator? : KeyParam → Option (List UInt8)
  | dsaGenerator g => some g
  | _ => none

/-- The `TAG_DSA_P` blob. -/
def dsaP? : KeyParam → Option (List UInt8)
  | dsaP p => some p
  | _ => none

/-- The `TAG_DSA_Q` blob. -/
def dsaQ? : KeyParam → Option (List UInt8)
  | dsaQ q => some q
  | _ => none

/-- The `TAG_APPLICATION_ID` blob. -/
def applicationId? : KeyParam → Option (List UInt8)
  | applicationId d => some d
  | _ => none

/-- The `TAG_APPLICATION_DATA` blob. -/
def applicationData? : KeyParam → Option (List UInt8)
  | applicationData d => some d
  | _ => none

end KeyParam

/-- `AuthorizationSet`: an ordered sequence of parameters that keeps duplicates. Allocation is
total in the model, so the `is_valid()` flag of a set built by `push_back` is always `OK` and is
not represented. -/
@[ext] structure AuthorizationSet where
  elems : List KeyParam
  deriving DecidableEq, Repr

namespace AuthorizationSet

/-- The empty set, also the result of `Clear`. -/
def empty : AuthorizationSet := ⟨[]⟩

/-- `push_back(const keymaster_key_param_t&)`: append one parameter. -/
def pushBack (s : AuthorizationSet) (p : KeyParam) : AuthorizationSet := ⟨s.elems ++ [p]⟩

/-- `push_back(const AuthorizationSet&)`: append every entry of another set, in order. -/
def pushBackSet (s t : AuthorizationSet) : AuthorizationSet := ⟨s.elems ++ t.elems⟩

/-- `GetTagValue(TAG, &value)`: the value of the first entry with the tag `read` selects, or
`none` (the source's `false`). -/
def getTagValue {α : Type} (s : AuthorizationSet) (read : KeyParam → Option α) : Option α :=
  s.elems.findSome? read

@[simp] theorem elems_pushBack (s : AuthorizationSet) (p : KeyParam) :
    (s.pushBack p).elems = s.elems ++ [p] := rfl

@[simp] theorem elems_pushBackSet (s t : AuthorizationSet) :
    (s.pushBackSet t).elems = s.elems ++ t.elems := rfl

@[simp] theorem elems_empty : empty.elems = [] := rfl

/-- The first value of a tag after `push_back` is the set's own, else the pushed parameter's. -/
@[simp] theorem getTagValue_pushBack {α : Type} (s : AuthorizationSet) (read : KeyParam → Option α)
    (p : KeyParam) : (s.pushBack p).getTagValue read = (s.getTagValue read).or (read p) := by
  cases h : read p <;> simp [getTagValue, List.findSome?_append, List.findSome?, h]

/-- The first value of a tag in two sets appended is the first set's, else the second's. -/
@[simp] theorem getTagValue_pushBackSet {α : Type} (s t : AuthorizationSet)
    (read : KeyParam → Option α) :
    (s.pushBackSet t).getTagValue read = (s.getTagValue read).or (t.getTagValue read) := by
  simp [getTagValue, List.findSome?_append]

end AuthorizationSet

/-! ## Binding in `Except` -/

/-- A bind in `Except` succeeds exactly when the first computation does and its value fed on
succeeds. -/
theorem bind_eq_ok {ε α β : Type} {x : Except ε α} {f : α → Except ε β} {b : β} :
    x >>= f = .ok b ↔ ∃ a, x = .ok a ∧ f a = .ok b := by
  cases x <;> simp [bind, Except.bind]

/-- A bind in `Except` fails with the first computation's error, or with the error of its value
fed on. -/
theorem bind_eq_error {ε α β : Type} {x : Except ε α} {f : α → Except ε β} {e : ε} :
    x >>= f = .error e ↔ x = .error e ∨ ∃ a, x = .ok a ∧ f a = .error e := by
  cases x <;> simp [bind, Except.bind]

/-- A map in `Except` fails exactly when the computation does. -/
theorem map_eq_error {ε α β : Type} {x : Except ε α} {f : α → β} {e : ε} :
    f <$> x = .error e ↔ x = .error e := by
  cases x <;> simp [Functor.map, Except.map]

/-- A map in `Except` succeeds with the image of the computation's value. -/
theorem map_eq_ok {ε α β : Type} {x : Except ε α} {f : α → β} {b : β} :
    f <$> x = .ok b ↔ ∃ a, x = .ok a ∧ f a = b := by
  cases x <;> simp [Functor.map, Except.map]

end Keymaster
