/-
# What the capability queries advertise

`SupportedAlgorithms` lists the registry keys of the key factories, and every other capability
query first runs `check_supported` against the same registry, so the queries agree with each
other: an algorithm is listed exactly when the format queries accept it, and exactly when the
mode, padding and digest queries get past `check_supported`; those then answer `OK` exactly when
an operation factory is registered for the algorithm and the purpose.

They also agree with `BeginOperation`. Under the source's convention for failures a `Begin`
that answers `OK` ran a key of a listed algorithm through the operation factory whose lists the
mode, padding and digest queries report; for the software keymaster the digest of the started
HMAC operation is one `SupportedDigests` reports.

The version `GetVersion` reports does not agree with `MessageVersion`, which maps a version
triple to the message version a client must construct its messages with: the composite it
switches on puts the major version in bits 16 to 23, but it tests for version 1 at `0x100`, the
composite of 0.1.0, so the reported 1.0.0 has none.
-/

import Keymaster.SoftKeymaster

set_option autoImplicit false

namespace Keymaster

namespace KeymasterContext

variable {Op Ct : Type} (ctx : KeymasterContext Op Ct)

/-- `KeyFactoryRegistry::Get` finds a factory exactly for the registry keys of the factories. -/
theorem getKeyFactory_isSome_iff (algorithm : Algorithm) :
    (ctx.getKeyFactory algorithm).isSome ↔ algorithm ∈ ctx.keyFactories.map (·.registryKey) := by
  simp [getKeyFactory, List.mem_map]

/-- The format queries answer `OK` exactly when `check_supported` passes. -/
theorem getSupportedFormats_fst_eq_ok (algorithm : Algorithm)
    (formats : KeyFactory → List KeyFormat) :
    (ctx.getSupportedFormats algorithm formats).1 = .ok ↔ (ctx.getKeyFactory algorithm).isSome := by
  unfold getSupportedFormats
  cases ctx.getKeyFactory algorithm <;> simp

/-- `GetSupported` answers `UNSUPPORTED_ALGORITHM` exactly when `check_supported` fails. -/
theorem getSupported_fst_eq_unsupportedAlgorithm {α : Type} (algorithm : Algorithm)
    (purpose : Purpose) (getSupportedMethod : OperationFactory Op → List α) :
    (ctx.getSupported algorithm purpose getSupportedMethod).1 = .unsupportedAlgorithm ↔
      (ctx.getKeyFactory algorithm).isNone := by
  unfold getSupported
  cases ctx.getKeyFactory algorithm <;> cases ctx.getOperationFactory algorithm purpose <;> simp

/-- `GetSupported` answers `OK` exactly when both registries have an entry. -/
theorem getSupported_fst_eq_ok {α : Type} (algorithm : Algorithm) (purpose : Purpose)
    (getSupportedMethod : OperationFactory Op → List α) :
    (ctx.getSupported algorithm purpose getSupportedMethod).1 = .ok ↔
      (ctx.getKeyFactory algorithm).isSome ∧ (ctx.getOperationFactory algorithm purpose).isSome := by
  unfold getSupported
  cases ctx.getKeyFactory algorithm <;> cases ctx.getOperationFactory algorithm purpose <;> simp

/-- The capability queries agree with `SupportedAlgorithms`. For every implementation, algorithm
and purpose, the algorithm is listed exactly when `SupportedImportFormats` and
`SupportedExportFormats` answer `OK`; `SupportedBlockModes`, `SupportedPaddingModes` and
`SupportedDigests` answer `UNSUPPORTED_ALGORITHM` exactly when it is not listed, and `OK` exactly
when it is listed and an operation factory is registered for it and the purpose. -/
theorem supported_queries_agree (algorithm : Algorithm) (purpose : Purpose) :
    ∃ algorithms, ctx.supportedAlgorithms = .supportedAlgorithms .ok algorithms ∧
      ((ctx.supportedImportFormats algorithm).error = .ok ↔ algorithm ∈ algorithms) ∧
      ((ctx.supportedExportFormats algorithm).error = .ok ↔ algorithm ∈ algorithms) ∧
      ∀ query ∈ [ctx.supportedBlockModes algorithm purpose,
          ctx.supportedPaddingModes algorithm purpose, ctx.supportedDigests algorithm purpose],
        (query.error = .unsupportedAlgorithm ↔ algorithm ∉ algorithms) ∧
        (query.error = .ok ↔
          algorithm ∈ algorithms ∧ (ctx.getOperationFactory algorithm purpose).isSome) := by
  have hlisted := ctx.getKeyFactory_isSome_iff algorithm
  have hmodes : ∀ {α : Type} (getSupportedMethod : OperationFactory Op → List α),
      ((ctx.getSupported algorithm purpose getSupportedMethod).1 = .unsupportedAlgorithm ↔
          algorithm ∉ ctx.keyFactories.map (·.registryKey)) ∧
        ((ctx.getSupported algorithm purpose getSupportedMethod).1 = .ok ↔
          algorithm ∈ ctx.keyFactories.map (·.registryKey) ∧
            (ctx.getOperationFactory algorithm purpose).isSome) := fun getSupportedMethod => by
    rw [ctx.getSupported_fst_eq_unsupportedAlgorithm, ctx.getSupported_fst_eq_ok, ← hlisted,
      Option.isNone_iff_eq_none, ← Option.not_isSome_iff_eq_none]
    exact ⟨Iff.rfl, Iff.rfl⟩
  refine ⟨_, rfl, (ctx.getSupportedFormats_fst_eq_ok algorithm _).trans hlisted,
    (ctx.getSupportedFormats_fst_eq_ok algorithm _).trans hlisted, ?_⟩
  simp only [List.mem_cons, List.mem_singleton, List.not_mem_nil, or_false]
  rintro query (rfl | rfl | rfl) <;> exact hmodes _

variable {ctx}

/-- The operation factory and created operation behind a `BeginOperation` that answers `OK`,
for an implementation that follows the source's convention for failures. -/
theorem Conventional.startOperation_of_beginOperation (hc : ctx.Conventional) {env : Env}
    {table : List (OpTableEntry Op)} {purpose : Purpose} {keyBlob : KeyBlob Ct}
    {additionalParams : AuthorizationSet}
    (h : (ctx.beginOperation env table purpose keyBlob additionalParams).1.error = .ok) :
    ∃ outputParams operation,
      ctx.startOperation purpose keyBlob additionalParams = .ok (outputParams, operation) := by
  rcases ctx.beginOperation_cases env table purpose keyBlob additionalParams with
    ⟨error, _, hs, hb⟩ | ⟨_, _, error, -, ha, hb⟩ | ⟨outputParams, operation, -, -, hs, -⟩
  · rw [hb] at h
    exact absurd h (hc.startOperation_error_ne hs).1
  · rw [hb] at h
    exact absurd h (addOperation_error ha).1
  · exact ⟨outputParams, operation, hs⟩

/-- Whatever `BeginOperation` accepts, the capability queries advertise. For an implementation
that follows the source's convention for failures, a `Begin` that answers `OK` loaded from the
blob a key of an algorithm `SupportedAlgorithms` lists, and the operation factory that created the
operation is the one whose block modes, paddings and digests `SupportedBlockModes`,
`SupportedPaddingModes` and `SupportedDigests` report, with `OK`, for that algorithm and the
purpose. -/
theorem beginOperation_ok_advertised (hc : ctx.Conventional) {env : Env}
    {table : List (OpTableEntry Op)} {purpose : Purpose} {keyBlob : KeyBlob Ct}
    {additionalParams : AuthorizationSet}
    (h : (ctx.beginOperation env table purpose keyBlob additionalParams).1.error = .ok) :
    ∃ (algorithm : Algorithm) (key : Key) (factory : OperationFactory Op) (created : Op),
      ctx.loadKey keyBlob additionalParams = .ok (algorithm, key) ∧
      factory.createOperation key additionalParams = .ok created ∧
      algorithm ∈ ctx.keyFactories.map (·.registryKey) ∧
      ctx.supportedAlgorithms = .supportedAlgorithms .ok (ctx.keyFactories.map (·.registryKey)) ∧
      ctx.supportedBlockModes algorithm purpose =
        .supportedBlockModes .ok factory.supportedBlockModes ∧
      ctx.supportedPaddingModes algorithm purpose =
        .supportedPaddingModes .ok factory.supportedPaddingModes ∧
      ctx.supportedDigests algorithm purpose = .supportedDigests .ok factory.supportedDigests := by
  obtain ⟨_, _, hs⟩ := hc.startOperation_of_beginOperation h
  obtain ⟨algorithm, key, factory, created, hk, hf, hcreated, -⟩ :=
    ctx.startOperation_eq_ok.mp hs
  obtain ⟨-, keyFactory, -, -, hkf, -⟩ := ctx.loadKey_eq_ok.mp hk
  have hlisted := (ctx.getKeyFactory_isSome_iff algorithm).mp (by rw [hkf]; rfl)
  refine ⟨algorithm, key, factory, created, hk, hcreated, hlisted, rfl, ?_, ?_, ?_⟩ <;>
    simp only [supportedBlockModes, supportedPaddingModes, supportedDigests, getSupported, hkf,
      hf]

end KeymasterContext

/-- For the software keymaster the operation every `BeginOperation` stores under the handle it
answers `OK` with has the requested purpose and a digest that `SupportedDigests` reports for
`HMAC` and that purpose. -/
theorem softKeymaster_begin_digest_advertised {Ct : Type} (w : Nat)
    (hmac : Digest → List UInt8 → List UInt8 → List UInt8) (aead : Aead Ct) {env : Env}
    {table table' : List (OpTableEntry HmacOperation)} {purpose : Purpose} {keyBlob : KeyBlob Ct}
    {additionalParams outputParams : AuthorizationSet} {opHandle : UInt64}
    (h : (softKeymaster w hmac aead).beginOperation env table purpose keyBlob additionalParams =
      (.beginOperation .ok opHandle outputParams, table')) :
    ∃ operation, (⟨opHandle, some operation⟩ : OpTableEntry HmacOperation) ∈ table' ∧
      operation.purpose = purpose ∧
      ∃ digests, (softKeymaster w hmac aead).supportedDigests .hmac purpose =
        (.supportedDigests .ok digests : Response Ct) ∧ operation.digest ∈ digests := by
  have hok : ((softKeymaster w hmac aead).beginOperation env table purpose keyBlob
      additionalParams).1.error = .ok := by rw [h]; rfl
  obtain ⟨_, operation, hs⟩ :=
    (softKeymaster_conventional w hmac aead).startOperation_of_beginOperation hok
  obtain ⟨blob, -, -, hd, hp, -, -, hop⟩ := (softKeymaster_startOperation_eq_ok w hmac aead).mp hs
  refine ⟨operation, ?_, by rw [hop], hmacSupportedDigests, by rcases hp with rfl | rfl <;> rfl,
    by rw [hop]; exact hd⟩
  rcases (softKeymaster w hmac aead).beginOperation_cases env table purpose keyBlob
      additionalParams with ⟨_, _, hs', -⟩ | ⟨_, _, error, -, ha, hb⟩ |
    ⟨_, _, _, i, hs', hi, -, -, hb⟩
  · cases hs.symm.trans hs'
  · rw [hb] at h
    simp only [Prod.mk.injEq, Response.beginOperation.injEq] at h
    exact absurd h.1.1 (addOperation_error ha).1
  · obtain ⟨hlt, -⟩ := firstEmptySlot_eq_some hi
    cases hs.symm.trans hs'
    rw [hb] at h
    simp only [Prod.mk.injEq, Response.beginOperation.injEq, true_and] at h
    obtain ⟨⟨rfl, -⟩, rfl⟩ := h
    exact List.mem_set _ _ hlt _

/-! ## Message versions -/

/-- `MessageVersion(major_ver, minor_ver, subminor_ver)`: the composite
`(major_ver << 16) | (minor_ver << 8) | subminor_ver`, computed in `int` on the promoted bytes and
so below `2 ^ 24`, is `0x000` for message version 0 and `0x100` for message version 1; any other
composite gives -1. -/
def messageVersion (majorVer minorVer subminorVer : UInt8) : Int :=
  let compositeVer := (majorVer.toNat <<< 16) ||| (minorVer.toNat <<< 8) ||| subminorVer.toNat
  if compositeVer = 0x000 then 0 else if compositeVer = 0x100 then 1 else -1

/-- The three shifted bytes occupy disjoint bits, so their `|` is their positional sum. -/
theorem shiftLeft_or_eq_add {a b c : Nat} (hb : b < 256) (hc : c < 256) :
    (a <<< 16) ||| (b <<< 8) ||| c = 65536 * a + 256 * b + c := by
  have hhigh : (a <<< 16) ||| (b <<< 8) = 2 ^ 8 * (256 * a + b) := by
    rw [Nat.shiftLeft_eq, Nat.shiftLeft_eq, Nat.mul_comm a, Nat.mul_comm b,
      ← Nat.mul_add_lt_is_or (by omega)]
    omega
  rw [hhigh, ← Nat.mul_add_lt_is_or (show c < 2 ^ 8 by omega)]
  omega

/-- `MessageVersion` accepts exactly two version triples: 0.0.0 is message version 0 and 0.1.0
is message version 1, since `0x100` is the composite of minor version 1. Every other triple,
1.0.0 included, gives -1. -/
theorem messageVersion_eq (majorVer minorVer subminorVer : UInt8) :
    messageVersion majorVer minorVer subminorVer =
      if majorVer = 0 ∧ minorVer = 0 ∧ subminorVer = 0 then 0
      else if majorVer = 0 ∧ minorVer = 1 ∧ subminorVer = 0 then 1 else -1 := by
  have hzero : ∀ v : UInt8, v = 0 ↔ v.toNat = 0 :=
    fun _ => ⟨fun h => h ▸ rfl, fun h => UInt8.toNat.inj h⟩
  have hone : ∀ v : UInt8, v = 1 ↔ v.toNat = 1 :=
    fun _ => ⟨fun h => h ▸ rfl, fun h => UInt8.toNat.inj h⟩
  have hb : minorVer.toNat < 256 := minorVer.toNat_lt_size
  have hc : subminorVer.toNat < 256 := subminorVer.toNat_lt_size
  simp only [messageVersion, shiftLeft_or_eq_add hb hc, hzero, hone]
  split_ifs <;> omega

/- The version `GetVersion` reports, 1.0.0, has no message version: `MessageVersion` gives -1
for it, which the message constructors' `assert(ver >= 0)` rejects. -/
example :
    ∃ majorVer minorVer subminorVer,
      (getVersion : Response SealedBox) = .getVersion majorVer minorVer subminorVer ∧
        messageVersion majorVer minorVer subminorVer = -1 :=
  ⟨1, 0, 0, rfl, by rw [messageVersion_eq]; decide⟩

end Keymaster
