/-
# Signing and verifying with the software keymaster

What the keymaster is for, end to end: a MAC the software keymaster computes in one session, a
session over the same message accepts. A session is a whole request sequence: `BeginOperation`
under a draw, one `UpdateOperation` per chunk of the message, then `FinishOperation`. From every
table that implements a service with a free slot, a `SIGN` session on a blob holding an HMAC key
answers with the first `MAC_LENGTH / 8` bytes of the MAC of the key and the message, a `VERIFY`
session on the same blob, fed the same chunks and finished with those bytes, answers `OK`, and
the table ends implementing the service it started from. A key imported from raw bytes signs
with those bytes: the blob `ImportKey` returns opens for the description's application tags
and carries the bytes, the description's algorithm and its digest.

The sessions are run on the abstract service and carried over to the keymaster by
`Implements.run`.
-/

import Keymaster.KeyBinding
import Keymaster.Service

set_option autoImplicit false

namespace Keymaster

section Sessions

variable {Ct : Type}

/-- The requests of one session: `BeginOperation` with the draw `handle`, one `UpdateOperation`
per chunk and `FinishOperation` with `signature`, each with the same parameters. -/
def session (env : Env) (handle : UInt64) (purpose : Purpose) (keyBlob : KeyBlob Ct)
    (additionalParams : AuthorizationSet) (chunks : List (List UInt8)) (signature : List UInt8) :
    List (Env × Request Ct) :=
  ({ env with rand := some handle }, .beginOperation purpose keyBlob additionalParams) ::
    (chunks.map fun chunk => (env, .updateOperation handle additionalParams chunk)) ++
      [(env, .finishOperation handle additionalParams signature)]

/-- The responses of an HMAC session begun under `handle` that consumes every chunk and finishes
with `result`. -/
def hmacSessionResponses (handle : UInt64) (chunks : List (List UInt8))
    (result : KeymasterError × List UInt8) : List (Response Ct) :=
  .beginOperation .ok handle .empty ::
    (chunks.map fun chunk => .updateOperation .ok [] chunk.length) ++
      [.finishOperation result.1 result.2]

end Sessions

namespace Service

variable {Op Ct : Type}

/-- Runs of the service compose. -/
theorem run_append (ctx : KeymasterContext Op Ct) {s mid final : Service Op}
    {first second : List (Env × Request Ct)} {firstResps secondResps : List (Response Ct)}
    (hfirst : s.run ctx first = some (firstResps, mid))
    (hsecond : mid.run ctx second = some (secondResps, final)) :
    s.run ctx (first ++ second) = some (firstResps ++ secondResps, final) := by
  induction first generalizing s firstResps with
  | nil =>
      cases hfirst
      exact hsecond
  | cons request requests ih =>
      obtain ⟨env, req⟩ := request
      simp only [run, Option.bind_eq_bind, Option.bind_eq_some] at hfirst
      obtain ⟨⟨resp, s'⟩, hstep, ⟨resps', final'⟩, hrun, h⟩ := hfirst
      cases h
      simp [run, hstep, ih hrun]

variable {s : Service Op} {handle : UInt64}

theorem replace_of_running {op : Op} (hrun : s.running handle = some op) :
    s.replace handle op = s := by
  ext1 <;> simp [replace, ← hrun]

theorem replace_replace (a b : Op) :
    (s.replace handle a).replace handle b = s.replace handle b := by
  ext1 <;> simp [replace]

/-- Dropping an operation just added under a free handle restores the service. -/
theorem erase_replace_insert (hfree : s.running handle = none) (hroom : s.count < s.capacity)
    (a b : Op) : ((s.insert handle a hroom).replace handle b).erase handle = s := by
  ext1 <;> simp [erase, replace, insert, ← hfree]

section Hmac

variable (w : Nat) (hmac : Digest → List UInt8 → List UInt8 → List UInt8) (aead : Aead Ct)
  {s : Service HmacOperation} {handle : UInt64}

/-- `Update` calls on a running HMAC operation consume every chunk and keep it running with the
chunks absorbed. -/
theorem hmacUpdates_run {op : HmacOperation} (hrun : s.running handle = some op) (env : Env)
    (additionalParams : AuthorizationSet) (chunks : List (List UInt8)) :
    s.run (softKeymaster w hmac aead)
        (chunks.map fun chunk => (env, .updateOperation handle additionalParams chunk)) =
      some (chunks.map (fun chunk => .updateOperation .ok [] chunk.length),
        s.replace handle (op.updates chunks)) := by
  induction chunks generalizing s op with
  | nil => simp [run, HmacOperation.updates, replace_of_running hrun]
  | cons chunk chunks ih =>
      have hrun' : (s.replace handle (op.update chunk).1).running handle =
          some (op.update chunk).1 := by
        simp [replace]
      simp [run, step, update, hrun, hmacOperationClass, ih hrun', replace_replace,
        HmacOperation.updates]

/-- An HMAC session on the software keymaster's service, under a free non-zero draw with room
for one more operation, begins, consumes every chunk, finishes as the operation's `Finish` does,
and leaves the service as it found it. -/
theorem hmacSession_run (hroom : s.count < s.capacity) (h0 : handle ≠ 0)
    (hfree : s.running handle = none) {purpose : Purpose} {keyBlob : KeyBlob Ct}
    {additionalParams : AuthorizationSet} {op : HmacOperation}
    (hs : (softKeymaster w hmac aead).startOperation purpose keyBlob additionalParams =
      .ok (.empty, op))
    (env : Env) (chunks : List (List UInt8)) (signature : List UInt8) :
    s.run (softKeymaster w hmac aead)
        (session env handle purpose keyBlob additionalParams chunks signature) =
      some (hmacSessionResponses handle chunks ((op.updates chunks).finish w hmac signature),
        s) := by
  have hbegin : s.step (softKeymaster w hmac aead) { env with rand := some handle }
      (.beginOperation purpose keyBlob additionalParams) =
        some (.beginOperation .ok handle .empty, s.insert handle op hroom) := by
    simp [step, begin, hs, add, h0, hfree, Nat.ne_of_lt hroom]
  have hupdates := @hmacUpdates_run _ w hmac aead (s.insert handle op hroom) handle op
    (by simp [insert]) env additionalParams chunks
  have hfinish : ((s.insert handle op hroom).replace handle (op.updates chunks)).run
      (softKeymaster w hmac aead) [(env, .finishOperation handle additionalParams signature)] =
        some ([.finishOperation ((op.updates chunks).finish w hmac signature).1
          ((op.updates chunks).finish w hmac signature).2], s) := by
    have hrun : ((s.insert handle op hroom).replace handle (op.updates chunks)).running handle =
        some (op.updates chunks) := by
      simp [replace]
    simp only [run, step, finish, hrun, erase_replace_insert hfree hroom]
    rfl
  rw [session, List.cons_append, run, hbegin]
  simp only [Option.bind_eq_bind, Option.some_bind, run_append _ hupdates hfinish]
  rfl

end Hmac

end Service

/-- A MAC the software keymaster makes, it accepts. From every table that implements a service
with a free slot, a `SIGN` session on a blob that opens for the client's parameters and holds an
HMAC key with a supported digest, begun with a MAC length that is a multiple of 8 and at most the
MAC's length, answers with the first `MAC_LENGTH / 8` bytes of the MAC of the key and the
message; a `VERIFY` session on the same blob, fed the same chunks and finished with those bytes,
answers `OK`. Both draws are non-zero and name no running operation; the table ends
implementing the service it started from. -/
theorem softKeymaster_sign_then_verify {Ct : Type} (w : Nat)
    (hmac : Digest → List UInt8 → List UInt8 → List UInt8) (aead : Aead Ct)
    {table : List (OpTableEntry HmacOperation)} {s : Service HmacOperation}
    (himpl : Implements table s) (hroom : s.count < s.capacity) {keyBlob : KeyBlob Ct}
    {additionalParams : AuthorizationSet} {blob : UnencryptedKeyBlob}
    (hb : (softKeymaster w hmac aead).loadKeyBlob keyBlob additionalParams = .ok blob)
    (ha : blob.algorithm = some .hmac) (hd : hmacDigest (Key.ofBlob blob) ∈ hmacSupportedDigests)
    (hm : hmacMacLength additionalParams % 8 = 0) (chunks : List (List UInt8))
    (hlen : (hmacMacLength additionalParams / 8).toNat ≤
      (hmac (hmacDigest (Key.ofBlob blob)) blob.keyMaterial chunks.flatten).length)
    (hw : (hmacMacLength additionalParams / 8).toNat < 2 ^ w) {signHandle verifyHandle : UInt64}
    (hs0 : signHandle ≠ 0) (hv0 : verifyHandle ≠ 0) (hsfree : s.running signHandle = none)
    (hvfree : s.running verifyHandle = none) (env : Env) :
    let mac := (hmac (hmacDigest (Key.ofBlob blob)) blob.keyMaterial chunks.flatten).take
      (hmacMacLength additionalParams / 8).toNat
    ∃ final, (softKeymaster w hmac aead).run table
        (session env signHandle .sign keyBlob additionalParams chunks [] ++
          session env verifyHandle .verify keyBlob additionalParams chunks mac) =
      some (hmacSessionResponses signHandle chunks (.ok, mac) ++
        hmacSessionResponses verifyHandle chunks (.ok, []), final) ∧ Implements final s := by
  intro mac
  have hsign := Service.hmacSession_run w hmac aead hroom hs0 hsfree
    ((softKeymaster_startOperation_eq_ok w hmac aead).mpr
      ⟨blob, hb, ha, hd, .inl rfl, hm, rfl, rfl⟩) env chunks []
  have hverify := Service.hmacSession_run w hmac aead hroom hv0 hvfree
    ((softKeymaster_startOperation_eq_ok w hmac aead).mpr
      ⟨blob, hb, ha, hd, .inr rfl, hm, rfl, rfl⟩) env chunks mac
  simp only [HmacOperation.updates_eq, List.nil_append] at hsign hverify
  rw [HmacOperation.finish_sign w hmac _ _ _ _ _ hw, if_pos hlen] at hsign
  have haccept : HmacOperation.finish w hmac ⟨.verify, blob.keyMaterial,
      hmacDigest (Key.ofBlob blob), (hmacMacLength additionalParams / 8).toNat, .ok,
      chunks.flatten⟩ mac = (.ok, []) :=
    Prod.ext ((HmacOperation.finish_verify ..).mpr (List.take_prefix _ _))
      (HmacOperation.finish_verify_output ..)
  rw [haccept] at hverify
  exact himpl.run (Service.run_append _ hsign hverify)

/-- In its one slot the software keymaster signs one chunk with the stand-in HMAC-SHA256 and
`MAC_LENGTH` 128, then verifies the sixteen bytes it answered. -/
theorem softKeymaster_sign_then_verify_sha256 :
    ∃ final, (softKeymaster 64 zeroMac symbolicAead).run (List.replicate 1 .empty)
        (session ⟨0, [], none, []⟩ 7 .sign sampleHmacBlob ⟨[.macLength 128]⟩ [[1, 2, 3]] [] ++
          session ⟨0, [], none, []⟩ 9 .verify sampleHmacBlob ⟨[.macLength 128]⟩ [[1, 2, 3]]
            (List.replicate 16 0)) =
      some (hmacSessionResponses 7 [[1, 2, 3]] (.ok, List.replicate 16 0) ++
        hmacSessionResponses 9 [[1, 2, 3]] (.ok, []), final) ∧
      Implements final (Service.empty 1) :=
  @softKeymaster_sign_then_verify _ 64 zeroMac symbolicAead _ _ (implements_empty 1) (by decide)
    sampleHmacBlob ⟨[.macLength 128]⟩ _ rfl rfl (by decide) (by decide) [[1, 2, 3]] (by decide)
    (by decide) 7 9 (by decide) (by decide) rfl rfl ⟨0, [], none, []⟩

/-- The MAC of a key the software keymaster imports is computed with the imported bytes. After
`ImportKey` of raw bytes under a description whose first `DIGEST` is a supported one, a `SIGN`
session on the returned blob, with client parameters that carry the description's first
`APPLICATION_ID` and `APPLICATION_DATA` and a MAC length that is a multiple of 8 and at most the
MAC's length, answers `OK` throughout and returns the first `MAC_LENGTH / 8` bytes of the HMAC of
the imported bytes and the message. This holds from every table that implements a service with a
free slot, under any non-zero draw naming no running operation. -/
theorem softKeymaster_import_then_sign {Ct : Type} (w : Nat)
    (hmac : Digest → List UInt8 → List UInt8 → List UInt8) (aead : Aead Ct)
    {table : List (OpTableEntry HmacOperation)} {s : Service HmacOperation}
    (himpl : Implements table s) (hroom : s.count < s.capacity) {importEnv : Env}
    {keyDescription : AuthorizationSet} {keyData : List UInt8} {keyBlob : KeyBlob Ct}
    {enforced unenforced : AuthorizationSet}
    (himport : (softKeymaster w hmac aead).importKey importEnv keyDescription .raw keyData =
      .importKey .ok (some keyBlob) enforced unenforced)
    (hd : (keyDescription.getTagValue KeyParam.digest?).getD .none ∈ hmacSupportedDigests)
    {additionalParams : AuthorizationSet}
    (hid : additionalParams.getTagValue KeyParam.applicationId? =
      keyDescription.getTagValue KeyParam.applicationId?)
    (hdata : additionalParams.getTagValue KeyParam.applicationData? =
      keyDescription.getTagValue KeyParam.applicationData?)
    (hm : hmacMacLength additionalParams % 8 = 0) (chunks : List (List UInt8))
    (hlen : (hmacMacLength additionalParams / 8).toNat ≤
      (hmac ((keyDescription.getTagValue KeyParam.digest?).getD .none) keyData
        chunks.flatten).length)
    (hw : (hmacMacLength additionalParams / 8).toNat < 2 ^ w) {handle : UInt64}
    (h0 : handle ≠ 0) (hfree : s.running handle = none) (env : Env) :
    ∃ final, (softKeymaster w hmac aead).run table
        (session env handle .sign keyBlob additionalParams chunks []) =
      some (hmacSessionResponses handle chunks
        (.ok, (hmac ((keyDescription.getTagValue KeyParam.digest?).getD .none) keyData
          chunks.flatten).take (hmacMacLength additionalParams / 8).toNat), final) ∧
      Implements final s := by
  obtain ⟨halg, -, hser⟩ := softKeymaster_importKey_ok w hmac aead himport
  have hb := ((softKeymaster w hmac aead).loadKeyBlob_of_serializeKey hser additionalParams).trans
    (if_pos ⟨hid, hdata⟩)
  have hset := ((softKeymaster w hmac aead).serializeKey_eq_ok hser).1
  obtain ⟨rfl, halgU⟩ := @getTagValue_setAuthorizations_software _ KeyParam.algorithm?
    (fun p hp => by cases p <;> simp_all [KeyParam.algorithm?, KeyParam.tag, isApplicationTag])
    _ _ _ _ _ hset
  have hdigestU := (@getTagValue_setAuthorizations_software _ KeyParam.digest?
    (fun p hp => by cases p <;> simp_all [KeyParam.digest?, KeyParam.tag, isApplicationTag])
    _ _ _ _ _ hset).2
  set blob : UnencryptedKeyBlob := ⟨.empty, unenforced,
    buildHiddenAuthorizations (.rootOfTrust [83, 87]) keyDescription, keyData⟩
  have ha : blob.algorithm = some .hmac := by
    rw [UnencryptedKeyBlob.algorithm, ← halg, ← halgU]
    rfl
  have hdigest : hmacDigest (Key.ofBlob blob) =
      (keyDescription.getTagValue KeyParam.digest?).getD .none := by
    simpa [hmacDigest, Key.ofBlob, blob, AuthorizationSet.getTagValue] using
      congrArg (·.getD Digest.none) hdigestU
  have hsign := Service.hmacSession_run w hmac aead hroom h0 hfree
    ((softKeymaster_startOperation_eq_ok w hmac aead).mpr
      ⟨blob, hb, ha, hdigest ▸ hd, .inl rfl, hm, rfl, rfl⟩) env chunks []
  simp only [HmacOperation.updates_eq, List.nil_append, hdigest] at hsign
  rw [HmacOperation.finish_sign w hmac _ _ _ _ _ hw, if_pos hlen] at hsign
  exact himpl.run hsign

/-- With a stand-in MAC that echoes the key before the message, the software keymaster imports
sixteen raw bytes as an HMAC-SHA256 key and, in its one slot with `MAC_LENGTH` 128, signs one
chunk with exactly those bytes. -/
theorem softKeymaster_import_then_sign_echo :
    ∃ final, (softKeymaster 64 (fun _ key message => key ++ message) symbolicAead).run
        (List.replicate 1 .empty)
        (session ⟨0, [], none, []⟩ 7 .sign
          (UnencryptedKeyBlob.sealBlob symbolicAead (List.replicate 16 0) (List.replicate 12 0)
            ⟨.empty, ⟨[.algorithm .hmac, .digest .sha256, .creationDatetime 0, .origin .imported]⟩,
              ⟨[.rootOfTrust [83, 87]]⟩, List.replicate 16 1⟩)
          ⟨[.macLength 128]⟩ [[1, 2, 3]] []) =
      some (hmacSessionResponses 7 [[1, 2, 3]] (.ok, List.replicate 16 1), final) ∧
      Implements final (Service.empty 1) :=
  @softKeymaster_import_then_sign _ 64 (fun _ key message => key ++ message) symbolicAead _ _
    (implements_empty 1) (by decide) ⟨0, [], none, []⟩ ⟨[.algorithm .hmac, .digest .sha256]⟩
    (List.replicate 16 1) _ _ _ rfl (by decide) ⟨[.macLength 128]⟩ rfl rfl (by decide)
    [[1, 2, 3]] (by decide) (by decide) 7 (by decide) rfl ⟨0, [], none, []⟩

end Keymaster
