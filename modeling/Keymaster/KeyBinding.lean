/-
# What a key blob is bound to

`SerializeKey` seals a key's material under the master key with associated data made of the
characteristics and the hidden set built from the key's own authorizations; `LoadKeyBlob`
rebuilds the hidden set from the client's parameters. With an ideal AEAD a blob therefore opens
exactly for the clients whose first `APPLICATION_ID` and first `APPLICATION_DATA` are the key's,
and then gives back the characteristics and the key material that were sealed.
-/

import Keymaster.Session

set_option autoImplicit false

namespace Keymaster

namespace KeymasterContext

variable {Op Ct : Type} (ctx : KeymasterContext Op Ct)

/-- What `SerializeKey` returns: the sealed characteristics and key material, with the hidden
set of the key's own authorizations in the associated data. -/
theorem serializeKey_eq_ok {env : Env} {key : Key} {origin : KeyOrigin} {keyBlob : KeyBlob Ct}
    {enforced unenforced : AuthorizationSet}
    (h : ctx.serializeKey env key origin = .ok (keyBlob, enforced, unenforced)) :
    setAuthorizations ctx.isEnforced key.authorizations origin env.now =
        .ok (enforced, unenforced) ∧
      keyBlob = UnencryptedKeyBlob.sealBlob ctx.aead ctx.masterKey (ctx.generateNonce env.nonce)
        ⟨enforced, unenforced, buildHiddenAuthorizations ctx.rootOfTrustTag key.authorizations,
          key.keyMaterial⟩ := by
  unfold serializeKey at h
  obtain ⟨⟨enforced', unenforced'⟩, hs, h⟩ := bind_eq_ok.mp h
  cases h
  exact ⟨hs, rfl⟩

/-- A blob `SerializeKey` made opens exactly for a client whose first `APPLICATION_ID` and
first `APPLICATION_DATA` are the key's, and gives back what was sealed. -/
theorem loadKeyBlob_of_serializeKey {env : Env} {key : Key} {origin : KeyOrigin}
    {keyBlob : KeyBlob Ct} {enforced unenforced : AuthorizationSet}
    (h : ctx.serializeKey env key origin = .ok (keyBlob, enforced, unenforced))
    (clientParams : AuthorizationSet) :
    ctx.loadKeyBlob keyBlob clientParams =
      if clientParams.getTagValue KeyParam.applicationId? =
            key.authorizations.getTagValue KeyParam.applicationId? ∧
          clientParams.getTagValue KeyParam.applicationData? =
            key.authorizations.getTagValue KeyParam.applicationData? then
        .ok ⟨enforced, unenforced,
          buildHiddenAuthorizations ctx.rootOfTrustTag key.authorizations, key.keyMaterial⟩
      else .error .invalidKeyBlob := by
  obtain ⟨-, rfl⟩ := ctx.serializeKey_eq_ok h
  have hload := UnencryptedKeyBlob.unsealBlob_sealBlob ctx.aead ctx.masterKey
    (ctx.generateNonce env.nonce)
    (buildHiddenAuthorizations ctx.rootOfTrustTag clientParams) ⟨enforced, unenforced,
      buildHiddenAuthorizations ctx.rootOfTrustTag key.authorizations, key.keyMaterial⟩
  simp only [buildHiddenAuthorizations_eq_iff] at hload
  rw [loadKeyBlob, hload]

/-- For every key `SerializeKey` accepts and every client parameter set, the blob opens exactly
when the client's first `APPLICATION_ID` and first `APPLICATION_DATA` are the key's (an absent
entry matching only an absent one), and then gives back the enforced and unenforced sets and the
key material that were sealed; `GetKeyCharacteristics` answers with those two sets, and otherwise
with `INVALID_KEY_BLOB`. The AEAD is any ideal one. -/
theorem loadKeyBlob_serializeKey {env : Env} {key : Key} {origin : KeyOrigin}
    {keyBlob : KeyBlob Ct} {enforced unenforced : AuthorizationSet}
    (h : ctx.serializeKey env key origin = .ok (keyBlob, enforced, unenforced))
    (clientParams : AuthorizationSet) :
    ctx.loadKeyBlob keyBlob clientParams =
        (if clientParams.getTagValue KeyParam.applicationId? =
              key.authorizations.getTagValue KeyParam.applicationId? ∧
            clientParams.getTagValue KeyParam.applicationData? =
              key.authorizations.getTagValue KeyParam.applicationData? then
          .ok ⟨enforced, unenforced,
            buildHiddenAuthorizations ctx.rootOfTrustTag key.authorizations, key.keyMaterial⟩
        else .error .invalidKeyBlob) ∧
      ctx.getKeyCharacteristics keyBlob clientParams =
        (if clientParams.getTagValue KeyParam.applicationId? =
              key.authorizations.getTagValue KeyParam.applicationId? ∧
            clientParams.getTagValue KeyParam.applicationData? =
              key.authorizations.getTagValue KeyParam.applicationData? then
          .getKeyCharacteristics .ok enforced unenforced
        else .getKeyCharacteristics .invalidKeyBlob .empty .empty) := by
  have hload := ctx.loadKeyBlob_of_serializeKey h clientParams
  refine ⟨hload, ?_⟩
  rw [getKeyCharacteristics, hload]
  split_ifs <;> rfl

end KeymasterContext

/-- The software keymaster seals an HMAC key with a client identifier; the blob opens for that
identifier alone. -/
theorem loadKeyBlob_serializeKey_appId :
    let ctx := softKeymaster 64 zeroMac symbolicAead
    let key : Key := ⟨⟨[.algorithm .hmac, .digest .sha256, .applicationId [1]]⟩, List.replicate 16 0⟩
    let unenforced : AuthorizationSet :=
      ⟨[.algorithm .hmac, .digest .sha256, .creationDatetime 0, .origin .software]⟩
    let keyBlob := UnencryptedKeyBlob.sealBlob symbolicAead (List.replicate 16 0)
      (List.replicate 12 0) ⟨.empty, unenforced, ⟨[.applicationId [1], .rootOfTrust [83, 87]]⟩,
        List.replicate 16 0⟩
    ctx.serializeKey ⟨0, List.replicate 12 0, none, []⟩ key .software =
        .ok (keyBlob, .empty, unenforced) ∧
      (ctx.loadKeyBlob keyBlob ⟨[.applicationId [1]]⟩ =
          (if KeyParam.applicationId? (.applicationId [1]) = key.authorizations.getTagValue
                KeyParam.applicationId? ∧
              (none : Option (List UInt8)) = key.authorizations.getTagValue KeyParam.applicationData?
            then .ok ⟨.empty, unenforced,
              buildHiddenAuthorizations ctx.rootOfTrustTag key.authorizations, key.keyMaterial⟩
            else .error .invalidKeyBlob) ∧
        ctx.getKeyCharacteristics keyBlob ⟨[.applicationId [1]]⟩ =
          (if KeyParam.applicationId? (.applicationId [1]) = key.authorizations.getTagValue
                KeyParam.applicationId? ∧
              (none : Option (List UInt8)) = key.authorizations.getTagValue KeyParam.applicationData?
            then .getKeyCharacteristics .ok .empty unenforced
            else .getKeyCharacteristics .invalidKeyBlob .empty .empty)) :=
  ⟨rfl, @KeymasterContext.loadKeyBlob_serializeKey _ _ (softKeymaster 64 zeroMac symbolicAead)
    ⟨0, List.replicate 12 0, none, []⟩
    ⟨⟨[.algorithm .hmac, .digest .sha256, .applicationId [1]]⟩, List.replicate 16 0⟩
    .software _ _ _ rfl ⟨[.applicationId [1]]⟩⟩

namespace KeymasterContext

variable {Op Ct : Type} (ctx : KeymasterContext Op Ct)

/-- A blob refuses every other client at every entry point that takes one: for a client whose
first `APPLICATION_ID` or first `APPLICATION_DATA` differs from the key's, `GetKeyCharacteristics`,
`ExportKey` in any format and `BeginOperation` for any purpose answer `INVALID_KEY_BLOB` with no
data, and `BeginOperation` leaves the operation table as it was. -/
theorem serializeKey_blob_refuses_other_clients {env : Env} {key : Key} {origin : KeyOrigin}
    {keyBlob : KeyBlob Ct} {enforced unenforced : AuthorizationSet}
    (h : ctx.serializeKey env key origin = .ok (keyBlob, enforced, unenforced))
    {clientParams : AuthorizationSet}
    (hclient : ¬(clientParams.getTagValue KeyParam.applicationId? =
          key.authorizations.getTagValue KeyParam.applicationId? ∧
        clientParams.getTagValue KeyParam.applicationData? =
          key.authorizations.getTagValue KeyParam.applicationData?))
    (keyFormat : KeyFormat) (env' : Env) (table : List (OpTableEntry Op)) (purpose : Purpose) :
    ctx.getKeyCharacteristics keyBlob clientParams =
        .getKeyCharacteristics .invalidKeyBlob .empty .empty ∧
      ctx.exportKey clientParams keyFormat keyBlob = .exportKey .invalidKeyBlob [] ∧
      ctx.beginOperation env' table purpose keyBlob clientParams =
        (.beginOperation .invalidKeyBlob 0 .empty, table) := by
  have hload : ctx.loadKeyBlob keyBlob clientParams = .error .invalidKeyBlob := by
    rw [ctx.loadKeyBlob_of_serializeKey h, if_neg hclient]
  have hkey : ctx.loadKey keyBlob clientParams = .error .invalidKeyBlob := by
    rw [loadKey, hload]
    rfl
  exact ⟨by rw [getKeyCharacteristics, hload], by rw [exportKey, hkey],
    by rw [beginOperation, startOperation, hkey]⟩

end KeymasterContext

/-- The blob of the software keymaster's HMAC key for client identifier `[1]` refuses the client
`[2]`. -/
theorem serializeKey_blob_refuses_other_clients_appId :
    let ctx := softKeymaster 64 zeroMac symbolicAead
    let keyBlob := UnencryptedKeyBlob.sealBlob symbolicAead (List.replicate 16 0)
      (List.replicate 12 0) ⟨.empty,
        ⟨[.algorithm .hmac, .digest .sha256, .creationDatetime 0, .origin .software]⟩,
        ⟨[.applicationId [1], .rootOfTrust [83, 87]]⟩, List.replicate 16 0⟩
    ctx.getKeyCharacteristics keyBlob ⟨[.applicationId [2]]⟩ =
        .getKeyCharacteristics .invalidKeyBlob .empty .empty ∧
      ctx.exportKey ⟨[.applicationId [2]]⟩ .raw keyBlob = .exportKey .invalidKeyBlob [] ∧
      ctx.beginOperation ⟨0, [], some 7, []⟩ (List.replicate 1 .empty) .sign keyBlob
          ⟨[.applicationId [2]]⟩ =
        (.beginOperation .invalidKeyBlob 0 .empty, List.replicate 1 .empty) :=
  @KeymasterContext.serializeKey_blob_refuses_other_clients _ _
    (softKeymaster 64 zeroMac symbolicAead) ⟨0, List.replicate 12 0, none, []⟩
    ⟨⟨[.algorithm .hmac, .digest .sha256, .applicationId [1]]⟩, List.replicate 16 0⟩ .software
    _ _ _ rfl ⟨[.applicationId [2]]⟩ (by decide) .raw ⟨0, [], some 7, []⟩
    (List.replicate 1 .empty) .sign

end Keymaster
