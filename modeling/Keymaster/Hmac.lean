/-
# HMAC operations

`HmacOperationFactory::CreateOperation` takes the MAC length, in bits, from the client's begin
parameters (0 when absent) and rejects only a length that is not a multiple of 8; the digest
comes from the key's first `DIGEST`, and the constructor rejects `NONE` and `MD5`. `Update`
feeds the HMAC context; `Finish` for `SIGN` writes the first `tag_length_` bytes of the MAC
through `reserve` and `write` on the output buffer, and for `VERIFY` compares a signature with
the first `|signature|` bytes of the MAC, whatever `tag_length_` is.

The HMAC itself is the backend's: `hmac digest key message` is the output of `HMAC_Final` after
`HMAC_Init_ex` with the key and the digest's `EVP_MD` and `HMAC_Update` with the message, and its
length is the `digest_len` that `Finish` compares against. The HMAC context is represented by the
bytes it has absorbed.
-/

import Keymaster.Buffer
import Keymaster.GoogleKeymaster

set_option autoImplicit false

namespace Keymaster

/-- `HmacOperation`: its purpose, the key bytes and digest of its `HMAC_CTX`, `tag_length_` in
bytes, the constructor's `error_`, and the message the context has absorbed. -/
structure HmacOperation where
  purpose : Purpose
  keyData : List UInt8
  digest : Digest
  tagLength : Nat
  error : KeymasterError
  message : List UInt8
  deriving DecidableEq, Repr

namespace HmacOperation

/-- The `EVP_MD` the constructor's `switch` selects; `none` stands for `nullptr`. -/
def evpMd : Digest → Option Digest
  | .none | .md5 => none
  | digest => some digest

/-- The constructor `HmacOperation(purpose, key_data, key_data_size, digest, tag_length)`. -/
def create (purpose : Purpose) (keyData : List UInt8) (digest : Digest) (tagLength : Nat) :
    HmacOperation :=
  let error := match evpMd digest with
    | none => .unsupportedDigest
    | some _ => .ok
  ⟨purpose, keyData, digest, tagLength, error, []⟩

/-- `Update`: `HMAC_Update` with the readable input, all of which is consumed. -/
def update (op : HmacOperation) (input : List UInt8) : HmacOperation × Nat :=
  ({ op with message := op.message ++ input }, input.length)

/-- `Finish`, on an output buffer of a platform whose `size_t` has `w` bits. -/
def finish (w : Nat) (hmac : Digest → List UInt8 → List UInt8 → List UInt8)
    (op : HmacOperation) (signature : List UInt8) : KeymasterError × List UInt8 :=
  let digest := hmac op.digest op.keyData op.message
  match op.purpose with
  | .sign =>
      if op.tagLength > digest.length then (.unsupportedMacLength, [])
      else
        let (reserved, output) := Buffer.empty.reserve w op.tagLength
        let (written, output) := output.write w (digest.take op.tagLength)
        if reserved && written then (.ok, output.readable w) else (.memoryAllocationFailed, [])
  | .verify =>
      if signature.length > digest.length then (.invalidInputLength, [])
      else if signature ≠ digest.take signature.length then (.verificationFailed, [])
      else (.ok, [])
  | _ => (.unsupportedPurpose, [])

/-- The operation after `Update` calls with the given inputs, in order. -/
def updates (op : HmacOperation) (inputs : List (List UInt8)) : HmacOperation :=
  inputs.foldl (fun op input => (op.update input).1) op

@[simp]
theorem update_snd (op : HmacOperation) (input : List UInt8) :
    (op.update input).2 = input.length := rfl

theorem evpMd_isSome {digest : Digest} :
    (evpMd digest).isSome ↔ digest ∈ [.sha1, .sha224, .sha256, .sha384, .sha512] := by
  cases digest <;> simp [evpMd]

/-- `Update` calls only extend the absorbed message. -/
theorem updates_eq (op : HmacOperation) (inputs : List (List UInt8)) :
    op.updates inputs = { op with message := op.message ++ inputs.flatten } := by
  induction inputs generalizing op with
  | nil => simp [updates]
  | cons input inputs ih =>
      simp only [updates, List.foldl_cons] at ih ⊢
      rw [ih]
      simp [update]

variable (w : Nat) (hmac : Digest → List UInt8 → List UInt8 → List UInt8)
  (keyData : List UInt8) (digest : Digest) (tagLength : Nat) (message signature : List UInt8)

/-- A signing operation's `Finish` writes the first `tag_length_` bytes of the MAC into an empty
buffer, when the MAC is that long and the length fits a `size_t`. -/
theorem finish_sign (hw : tagLength < 2 ^ w) :
    finish w hmac ⟨.sign, keyData, digest, tagLength, .ok, message⟩ signature =
      if tagLength ≤ (hmac digest keyData message).length then
        (.ok, (hmac digest keyData message).take tagLength)
      else (.unsupportedMacLength, []) := by
  simp only [finish]
  set mac := hmac digest keyData message
  by_cases hfit : tagLength ≤ mac.length
  · have hlen : (mac.take tagLength).length = tagLength := List.length_take_of_le hfit
    have hempty : Buffer.empty.Valid w := ⟨le_rfl, le_rfl, Nat.two_pow_pos w, rfl⟩
    have hfits : Buffer.empty.writePosition + (mac.take tagLength).length < 2 ^ w := by
      simpa [Buffer.empty, hlen] using hw
    obtain ⟨hwritten, hout⟩ := Buffer.reserve_write hempty hfits
    have hnil : Buffer.empty.readable w = [] := by
      simp [Buffer.readable, Buffer.peekRead, Buffer.empty]
    rw [hlen] at hwritten hout
    rw [hnil, List.nil_append] at hout
    simp [Nat.not_lt.mpr hfit, hfit, hwritten, hout]
  · simp [Nat.lt_of_not_le hfit, hfit]

/-- A verifying operation's `Finish` accepts exactly the prefixes of the MAC. -/
theorem finish_verify :
    (finish w hmac ⟨.verify, keyData, digest, tagLength, .ok, message⟩ signature).1 = .ok ↔
      signature <+: hmac digest keyData message := by
  simp only [finish]
  rw [List.prefix_iff_eq_take]
  split_ifs with hlong heq
  · simp only [reduceCtorEq, false_iff]
    intro h
    have := congrArg List.length h
    simp only [List.length_take] at this
    omega
  · simp [heq]
  · simpa using heq

/-- A verifying operation's `Finish` writes no output. -/
theorem finish_verify_output :
    (finish w hmac ⟨.verify, keyData, digest, tagLength, .ok, message⟩ signature).2 = [] := by
  simp only [finish]
  split_ifs <;> rfl

end HmacOperation

/-- The behaviour of HMAC operations as the table sees it. -/
def hmacOperationClass (w : Nat) (hmac : Digest → List UInt8 → List UInt8 → List UInt8) :
    OperationClass HmacOperation where
  begin op _ := (op.error, .empty, op)
  update op _ input := let r := op.update input; (.ok, [], r.2, r.1)
  finish op _ signature := op.finish w hmac signature
  abort _ := .ok

/-- The digest an HMAC operation of the key uses: the key's first `DIGEST`, `NONE` when
absent. -/
def hmacDigest (key : Key) : Digest :=
  (key.authorizations.getTagValue KeyParam.digest?).getD .none

/-- The `MAC_LENGTH` an HMAC operation is begun with: the begin parameters' first, 0 when
absent. -/
def hmacMacLength (beginParams : AuthorizationSet) : UInt32 :=
  (beginParams.getTagValue KeyParam.macLength?).getD 0

/-- `HmacOperationFactory::CreateOperation(key, begin_params, &error)`. -/
def hmacCreateOperation (purpose : Purpose) (key : Key) (beginParams : AuthorizationSet) :
    Except KeymasterError HmacOperation :=
  let tagLength := hmacMacLength beginParams
  if tagLength % 8 ≠ 0 then .error .unsupportedMacLength
  else
    let op := HmacOperation.create purpose key.keyMaterial (hmacDigest key) (tagLength / 8).toNat
    if op.error ≠ .ok then .error op.error else .ok op

/-- `supported_digests` of the HMAC factories. -/
def hmacSupportedDigests : List Digest := [.sha1, .sha224, .sha256, .sha384, .sha512]

/-- The HMAC operation factory of one purpose; block modes and paddings are the base class's
empty lists. -/
def hmacOperationFactory (purpose : Purpose) : OperationFactory HmacOperation where
  registryKey := (.hmac, purpose)
  createOperation := hmacCreateOperation purpose
  supportedBlockModes := []
  supportedPaddingModes := []
  supportedDigests := hmacSupportedDigests

/-- `HmacSignOperationFactory`. -/
def hmacSignOperationFactory : OperationFactory HmacOperation := hmacOperationFactory .sign

/-- `HmacVerifyOperationFactory`. -/
def hmacVerifyOperationFactory : OperationFactory HmacOperation := hmacOperationFactory .verify

/-- An HMAC operation is created exactly when the begin parameters' MAC length (0 when absent)
is a multiple of 8 and the key's digest is a supported one; it then keeps the key bytes, the
key's digest and a tag length of that MAC length over 8, and the key's own `MAC_LENGTH` plays
no part. -/
theorem hmacCreateOperation_eq_ok {purpose : Purpose} {key : Key}
    {beginParams : AuthorizationSet} {op : HmacOperation} :
    hmacCreateOperation purpose key beginParams = .ok op ↔
      hmacMacLength beginParams % 8 = 0 ∧ hmacDigest key ∈ hmacSupportedDigests ∧
        op = ⟨purpose, key.keyMaterial, hmacDigest key, (hmacMacLength beginParams / 8).toNat,
          .ok, []⟩ := by
  unfold hmacCreateOperation HmacOperation.create
  dsimp only
  rw [hmacSupportedDigests, ← HmacOperation.evpMd_isSome]
  cases HmacOperation.evpMd (hmacDigest key) <;>
    by_cases hm : hmacMacLength beginParams % 8 = 0 <;> simp [hm, eq_comm]

/-- `CreateOperation` fails only on the MAC length or the digest. -/
theorem hmacCreateOperation_error {purpose : Purpose} {key : Key}
    {beginParams : AuthorizationSet} {e : KeymasterError}
    (h : hmacCreateOperation purpose key beginParams = .error e) :
    e = .unsupportedMacLength ∨ e = .unsupportedDigest := by
  unfold hmacCreateOperation HmacOperation.create at h
  dsimp only at h
  split_ifs at h with hm he
  · cases h
    exact .inl rfl
  · cases h
    revert he
    cases HmacOperation.evpMd (hmacDigest key) <;> simp

/-- For an operation created for `VERIFY`, `Finish` after any `Update` calls accepts exactly
the prefixes of the MAC of the key and the message: it never reads the MAC length, so it
accepts the empty signature for every message. -/
theorem hmac_verify_accepts_prefixes (w : Nat)
    (hmac : Digest → List UInt8 → List UInt8 → List UInt8) {key : Key} {beginParams : AuthorizationSet} {op : HmacOperation}
    (hcreate : hmacCreateOperation .verify key beginParams = .ok op)
    (inputs : List (List UInt8)) (finishParams : AuthorizationSet) (signature : List UInt8) :
    (((hmacOperationClass w hmac).finish (op.updates inputs) finishParams signature).1 = .ok ↔
        signature <+: hmac (hmacDigest key) key.keyMaterial inputs.flatten) ∧
      ((hmacOperationClass w hmac).finish (op.updates inputs) finishParams []).1 = .ok := by
  obtain ⟨-, -, rfl⟩ := hmacCreateOperation_eq_ok.mp hcreate
  simp only [hmacOperationClass, HmacOperation.updates_eq, List.nil_append,
    HmacOperation.finish_verify, List.nil_prefix, and_true]

/-- A stand-in backend whose MAC is 32 zero bytes, the length of an HMAC-SHA256, for evaluating
the model on fixed inputs. -/
def zeroMac : Digest → List UInt8 → List UInt8 → List UInt8 := fun _ _ _ => List.replicate 32 0

/-- With `MAC_LENGTH` 128 an HMAC-SHA256 key signs with 16 bytes, yet its verifying operation
accepts the empty signature. -/
theorem hmac_verify_accepts_empty_signature :
    (hmacCreateOperation .sign ⟨⟨[.algorithm .hmac, .digest .sha256]⟩, List.replicate 16 0⟩
        ⟨[.macLength 128]⟩).map (fun op => (hmacOperationClass 64 zeroMac).finish op .empty []) =
      .ok (.ok, List.replicate 16 0) ∧
    (hmacCreateOperation .verify ⟨⟨[.algorithm .hmac, .digest .sha256]⟩, List.replicate 16 0⟩
        ⟨[.macLength 128]⟩).map (fun op => (hmacOperationClass 64 zeroMac).finish op .empty []) =
      .ok (.ok, []) :=
  ⟨rfl, rfl⟩

/-- A verifying HMAC-SHA256 operation begun with `MAC_LENGTH` 128, fed one message, checked
against a two-byte signature. -/
theorem hmac_verify_accepts_prefixes_sha256 :
    hmacCreateOperation .verify ⟨⟨[.algorithm .hmac, .digest .sha256]⟩, List.replicate 16 0⟩
        ⟨[.macLength 128]⟩ = .ok ⟨.verify, List.replicate 16 0, .sha256, 16, .ok, []⟩ ∧
      ((((hmacOperationClass 64 zeroMac).finish
          (HmacOperation.updates ⟨.verify, List.replicate 16 0, .sha256, 16, .ok, []⟩ [[1, 2, 3]])
          .empty [0, 0]).1 = .ok ↔
        [0, 0] <+: zeroMac .sha256 (List.replicate 16 0) [[1, 2, 3]].flatten) ∧
      ((hmacOperationClass 64 zeroMac).finish
          (HmacOperation.updates ⟨.verify, List.replicate 16 0, .sha256, 16, .ok, []⟩ [[1, 2, 3]])
          .empty []).1 = .ok) :=
  ⟨rfl, @hmac_verify_accepts_prefixes 64 zeroMac ⟨⟨[.algorithm .hmac, .digest .sha256]⟩,
    List.replicate 16 0⟩ ⟨[.macLength 128]⟩ _ rfl [[1, 2, 3]] .empty [0, 0]⟩

/-- For an operation created for `SIGN`, `Finish` after any `Update` calls answers with the first
`MAC_LENGTH / 8` bytes of the MAC of the key and the message when the MAC is that long, and with
`UNSUPPORTED_MAC_LENGTH` otherwise. -/
theorem hmac_sign_output (w : Nat) (hmac : Digest → List UInt8 → List UInt8 → List UInt8)
    {key : Key} {beginParams : AuthorizationSet} {op : HmacOperation}
    (hcreate : hmacCreateOperation .sign key beginParams = .ok op)
    (inputs : List (List UInt8)) (finishParams : AuthorizationSet) (signature : List UInt8)
    (hw : (hmacMacLength beginParams / 8).toNat < 2 ^ w) :
    (hmacOperationClass w hmac).finish (op.updates inputs) finishParams signature =
      let mac := hmac (hmacDigest key) key.keyMaterial inputs.flatten
      let tagLength := (hmacMacLength beginParams / 8).toNat
      if tagLength ≤ mac.length then (.ok, mac.take tagLength) else (.unsupportedMacLength, []) := by
  obtain ⟨-, -, rfl⟩ := hmacCreateOperation_eq_ok.mp hcreate
  simp only [hmacOperationClass, HmacOperation.updates_eq, List.nil_append]
  exact HmacOperation.finish_sign w hmac _ _ _ _ _ hw

/-- Signing with the 32-byte stand-in MAC and `MAC_LENGTH` 128 yields the MAC's first 16
bytes. -/
theorem hmac_sign_output_sha256 :
    (hmacOperationClass 64 zeroMac).finish
        (HmacOperation.updates ⟨.sign, List.replicate 16 0, .sha256, 16, .ok, []⟩ [[1, 2, 3]])
        .empty [] =
      (let mac := zeroMac .sha256 (List.replicate 16 0) [[1, 2, 3]].flatten
        let tagLength := (hmacMacLength ⟨[.macLength 128]⟩ / 8).toNat
        if tagLength ≤ mac.length then (.ok, mac.take tagLength) else (.unsupportedMacLength, [])) :=
  @hmac_sign_output 64 zeroMac ⟨⟨[.algorithm .hmac, .digest .sha256]⟩, List.replicate 16 0⟩
    ⟨[.macLength 128]⟩ _ rfl [[1, 2, 3]] .empty [] (by decide)

end Keymaster
