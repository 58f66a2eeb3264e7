/-
# The GoogleKeymaster request handlers

`GoogleKeymaster` answers each request of the keymaster API from three kinds of state: the two
registries of key factories and operation factories, which are fixed, the virtual methods an
implementation supplies (`is_enforced`, `origin`, `RootOfTrustTag`, `MasterKey`), and the
operation table, which is the only state a request changes. The model gathers the first two in
a `KeymasterContext`; every handler is a function of the context, of what the environment
supplies to the request (the time, a nonce, the random draw of `AddOperation`), of the table and
of the request, and `step` dispatches one request.

Operations and the per-algorithm key factories are parameters: every result about the handlers
holds for every registry and every operation behaviour. A response keeps the fields its handler
sets; a handler that writes through a `NULL` operation pointer has no defined result, and `step`
returns `none` there.
-/

import Keymaster.Authorizations
import Keymaster.KeyBlob
import Keymaster.OperationTable

set_option autoImplicit false

namespace Keymaster

/-- `KeyFactory`, the entry of `KeyFactoryRegistry` for one algorithm. Key generation draws on
`entropy`, the randomness the crypto backend supplies; `formattedKeyMaterial` is the exporting
method of the keys the factory makes. -/
structure KeyFactory where
  registryKey : Algorithm
  generateKey : AuthorizationSet → List UInt8 → Except KeymasterError Key
  importKey : AuthorizationSet → KeyFormat → List UInt8 → Except KeymasterError Key
  loadKey : UnencryptedKeyBlob → Except KeymasterError Key
  formattedKeyMaterial : Key → KeyFormat → Except KeymasterError (List UInt8)
  supportedImportFormats : List KeyFormat
  supportedExportFormats : List KeyFormat

/-- `OperationFactory`, the entry of `OperationFactoryRegistry` for one algorithm and purpose.
`createOperation` receives the loaded key and the client's begin parameters. -/
structure OperationFactory (Op : Type) where
  registryKey : Algorithm × Purpose
  createOperation : Key → AuthorizationSet → Except KeymasterError Op
  supportedBlockModes : List BlockMode
  supportedPaddingModes : List Padding
  supportedDigests : List Digest

/-- A `GoogleKeymaster` implementation: the virtual methods a subclass supplies (`GenerateNonce`
as a function of the randomness the environment offers), the AEAD that seals its blobs, the two
registries in registration order, and the behaviour of its operations. -/
structure KeymasterContext (Op Ct : Type) where
  isEnforced : Tag → Bool
  origin : KeyOrigin
  rootOfTrustTag : KeyParam
  masterKey : List UInt8
  generateNonce : List UInt8 → List UInt8
  aead : Aead Ct
  keyFactories : List KeyFactory
  operationFactories : List (OperationFactory Op)
  operations : OperationClass Op

/-- What the environment supplies to one request: `java_time(time(NULL))`, the randomness a
`GenerateNonce` may draw on, the draw of `RAND_bytes` in `AddOperation` (`none` when it fails),
and the randomness a key generation consumes. -/
structure Env where
  now : UInt64
  nonce : List UInt8
  rand : Option UInt64
  entropy : List UInt8
  deriving DecidableEq, Repr

/-- The requests of the API, with the fields each handler reads. -/
inductive Request (Ct : Type)
  | getVersion
  | supportedAlgorithms
  | supportedBlockModes (algorithm : Algorithm) (purpose : Purpose)
  | supportedPaddingModes (algorithm : Algorithm) (purpose : Purpose)
  | supportedDigests (algorithm : Algorithm) (purpose : Purpose)
  | supportedImportFormats (algorithm : Algorithm)
  | supportedExportFormats (algorithm : Algorithm)
  | generateKey (keyDescription : AuthorizationSet)
  | getKeyCharacteristics (keyBlob : KeyBlob Ct) (additionalParams : AuthorizationSet)
  | beginOperation (purpose : Purpose) (keyBlob : KeyBlob Ct)
      (additionalParams : AuthorizationSet)
  | updateOperation (opHandle : UInt64) (additionalParams : AuthorizationSet)
      (input : List UInt8)
  | finishOperation (opHandle : UInt64) (additionalParams : AuthorizationSet)
      (signature : List UInt8)
  | abortOperation (opHandle : UInt64)
  | exportKey (additionalParams : AuthorizationSet) (keyFormat : KeyFormat)
      (keyBlob : KeyBlob Ct)
  | importKey (keyDescription : AuthorizationSet) (keyFormat : KeyFormat) (keyData : List UInt8)
  deriving DecidableEq, Repr

/-- The responses, with the fields each handler sets. A blob is `none` where the handler leaves
the response's blob empty. -/
inductive Response (Ct : Type)
  | getVersion (majorVer minorVer subminorVer : UInt8)
  | supportedAlgorithms (error : KeymasterError) (results : List Algorithm)
  | supportedBlockModes (error : KeymasterError) (results : List BlockMode)
  | supportedPaddingModes (error : KeymasterError) (results : List Padding)
  | supportedDigests (error : KeymasterError) (results : List Digest)
  | supportedImportFormats (error : KeymasterError) (results : List KeyFormat)
  | supportedExportFormats (error : KeymasterError) (results : List KeyFormat)
  | generateKey (error : KeymasterError) (keyBlob : Option (KeyBlob Ct))
      (enforced unenforced : AuthorizationSet)
  | getKeyCharacteristics (error : KeymasterError) (enforced unenforced : AuthorizationSet)
  | beginOperation (error : KeymasterError) (opHandle : UInt64) (outputParams : AuthorizationSet)
  | updateOperation (error : KeymasterError) (output : List UInt8) (inputConsumed : Nat)
  | finishOperation (error : KeymasterError) (output : List UInt8)
  | abortOperation (error : KeymasterError)
  | exportKey (error : KeymasterError) (keyData : List UInt8)
  | importKey (error : KeymasterError) (keyBlob : Option (KeyBlob Ct))
      (enforced unenforced : AuthorizationSet)
  deriving DecidableEq, Repr

/-- The `error` field of a response; `GetVersion` always reports `OK`. -/
def Response.error {Ct : Type} : Response Ct → KeymasterError
  | .getVersion .. => .ok
  | .supportedAlgorithms e _ | .supportedBlockModes e _ | .supportedPaddingModes e _
  | .supportedDigests e _ | .supportedImportFormats e _ | .supportedExportFormats e _ => e
  | .generateKey e .. | .getKeyCharacteristics e .. | .beginOperation e .. => e
  | .updateOperation e .. | .finishOperation e .. | .abortOperation e => e
  | .exportKey e _ | .importKey e .. => e

/-- The operation in slot `i`, `none` for an empty slot or an index past the table. -/
def slotOperation {Op : Type} (table : List (OpTableEntry Op)) (i : Nat) : Option Op :=
  table[i]?.bind (·.operation)

/-- `GetVersion`: `MAJOR_VER.MINOR_VER.SUBMINOR_VER` = 1.0.0. -/
def getVersion {Ct : Type} : Response Ct := .getVersion 1 0 0

namespace KeymasterContext

variable {Op Ct : Type} (ctx : KeymasterContext Op Ct)

/-- `KeyFactoryRegistry::Get(algorithm)`: the first registered factory of the algorithm. -/
def getKeyFactory (algorithm : Algorithm) : Option KeyFactory :=
  ctx.keyFactories.find? (·.registryKey == algorithm)

/-- `OperationFactoryRegistry::Get(KeyType(algorithm, purpose))`. -/
def getOperationFactory (algorithm : Algorithm) (purpose : Purpose) :
    Option (OperationFactory Op) :=
  ctx.operationFactories.find? (·.registryKey == (algorithm, purpose))

/-! ## Queries -/

/-- `SupportedAlgorithms`: the registry keys of the key factories, in registration order. -/
def supportedAlgorithms : Response Ct :=
  .supportedAlgorithms .ok (ctx.keyFactories.map (·.registryKey))

/-- The template `GetSupported`: `UNSUPPORTED_ALGORITHM` without a key factory (`check_supported`),
`UNSUPPORTED_PURPOSE` without an operation factory, else the factory's list. -/
def getSupported {α : Type} (algorithm : Algorithm) (purpose : Purpose)
    (getSupportedMethod : OperationFactory Op → List α) : KeymasterError × List α :=
  match ctx.getKeyFactory algorithm with
  | none => (.unsupportedAlgorithm, [])
  | some _ =>
      match ctx.getOperationFactory algorithm purpose with
      | none => (.unsupportedPurpose, [])
      | some factory => (.ok, getSupportedMethod factory)

/-- `SupportedBlockModes`. -/
def supportedBlockModes (algorithm : Algorithm) (purpose : Purpose) : Response Ct :=
  let r := ctx.getSupported algorithm purpose OperationFactory.supportedBlockModes
  .supportedBlockModes r.1 r.2

/-- `SupportedPaddingModes`. -/
def supportedPaddingModes (algorithm : Algorithm) (purpose : Purpose) : Response Ct :=
  let r := ctx.getSupported algorithm purpose OperationFactory.supportedPaddingModes
  .supportedPaddingModes r.1 r.2

/-- `SupportedDigests`. -/
def supportedDigests (algorithm : Algorithm) (purpose : Purpose) : Response Ct :=
  let r := ctx.getSupported algorithm purpose OperationFactory.supportedDigests
  .supportedDigests r.1 r.2

/-- The shared body of `SupportedImportFormats` and `SupportedExportFormats`: `check_supported`,
then the key factory's list. -/
def getSupportedFormats (algorithm : Algorithm) (formats : KeyFactory → List KeyFormat) :
    KeymasterError × List KeyFormat :=
  match ctx.getKeyFactory algorithm with
  | none => (.unsupportedAlgorithm, [])
  | some factory => (.ok, formats factory)

/-- `SupportedImportFormats`. -/
def supportedImportFormats (algorithm : Algorithm) : Response Ct :=
  let r := ctx.getSupportedFormats algorithm KeyFactory.supportedImportFormats
  .supportedImportFormats r.1 r.2

/-- `SupportedExportFormats`. -/
def supportedExportFormats (algorithm : Algorithm) : Response Ct :=
  let r := ctx.getSupportedFormats algorithm KeyFactory.supportedExportFormats
  .supportedExportFormats r.1 r.2

/-! ## Sealing and loading keys -/

/-- `SerializeKey(key, origin, &blob, &enforced, &unenforced)`: split the key's authorizations
into characteristics, bind them with the hidden set and seal the key material under a fresh
nonce. -/
def serializeKey (env : Env) (key : Key) (origin : KeyOrigin) :
    Except KeymasterError (KeyBlob Ct × AuthorizationSet × AuthorizationSet) := do
  let (enforced, unenforced) ←
    setAuthorizations ctx.isEnforced key.authorizations origin env.now
  let hidden := buildHiddenAuthorizations ctx.rootOfTrustTag key.authorizations
  let blob : UnencryptedKeyBlob := ⟨enforced, unenforced, hidden, key.keyMaterial⟩
  pure (blob.sealBlob ctx.aead ctx.masterKey (ctx.generateNonce env.nonce), enforced,
    unenforced)

/-- `LoadKeyBlob(key, client_params, &error)`: unseal under the hidden set the client's
parameters give. -/
def loadKeyBlob (keyBlob : KeyBlob Ct) (clientParams : AuthorizationSet) :
    Except KeymasterError UnencryptedKeyBlob :=
  UnencryptedKeyBlob.unsealBlob ctx.aead ctx.masterKey
    (buildHiddenAuthorizations ctx.rootOfTrustTag clientParams) keyBlob

/-- `LoadKey(key, client_params, &algorithm, &error)`: unseal the blob, then let the factory of
its algorithm load the key. -/
def loadKey (keyBlob : KeyBlob Ct) (clientParams : AuthorizationSet) :
    Except KeymasterError (Algorithm × Key) := do
  let blob ← ctx.loadKeyBlob keyBlob clientParams
  match blob.algorithm with
  | none => .error .unsupportedAlgorithm
  | some algorithm =>
      match ctx.getKeyFactory algorithm with
      | none => .error .unsupportedAlgorithm
      | some factory =>
          let key ← factory.loadKey blob
          pure (algorithm, key)

/-! ## Key management -/

/-- `GenerateKey`: the factory of the description's first `ALGORITHM` makes the key, which is
then sealed with the implementation's origin. -/
def generateKey (env : Env) (keyDescription : AuthorizationSet) : Response Ct :=
  match (keyDescription.getTagValue KeyParam.algorithm?).bind ctx.getKeyFactory with
  | none => .generateKey .unsupportedAlgorithm none .empty .empty
  | some factory =>
      match factory.generateKey keyDescription env.entropy with
      | .error e => .generateKey e none .empty .empty
      | .ok key =>
          match ctx.serializeKey env key ctx.origin with
          | .error e => .generateKey e none .empty .empty
          | .ok (blob, enforced, unenforced) => .generateKey .ok (some blob) enforced unenforced

/-- `ImportKey`: as `GenerateKey`, with the factory parsing the key data and origin
`IMPORTED`. -/
def importKey (env : Env) (keyDescription : AuthorizationSet) (keyFormat : KeyFormat)
    (keyData : List UInt8) : Response Ct :=
  match (keyDescription.getTagValue KeyParam.algorithm?).bind ctx.getKeyFactory with
  | none => .importKey .unsupportedAlgorithm none .empty .empty
  | some factory =>
      match factory.importKey keyDescription keyFormat keyData with
      | .error e => .importKey e none .empty .empty
      | .ok key =>
          match ctx.serializeKey env key .imported with
          | .error e => .importKey e none .empty .empty
          | .ok (blob, enforced, unenforced) => .importKey .ok (some blob) enforced unenforced

/-- `GetKeyCharacteristics`: the sets of the blob, once it unseals for the client. -/
def getKeyCharacteristics (keyBlob : KeyBlob Ct) (additionalParams : AuthorizationSet) :
    Response Ct :=
  match ctx.loadKeyBlob keyBlob additionalParams with
  | .error e => .getKeyCharacteristics e .empty .empty
  | .ok blob => .getKeyCharacteristics .ok blob.enforced blob.unenforced

/-- `ExportKey`: the loaded key's `formatted_key_material` in the requested format. -/
def exportKey (additionalParams : AuthorizationSet) (keyFormat : KeyFormat)
    (keyBlob : KeyBlob Ct) : Response Ct :=
  match ctx.loadKey keyBlob additionalParams with
  | .error e => .exportKey e []
  | .ok (algorithm, key) =>
      match ctx.getKeyFactory algorithm with
      | none => .exportKey .unsupportedAlgorithm []
      | some factory =>
          match factory.formattedKeyMaterial key keyFormat with
          | .error e => .exportKey e []
          | .ok keyData => .exportKey .ok keyData

/-! ## Operations -/

/-- The part of `BeginOperation` before `AddOperation`: load the key, find the operation factory
of its algorithm and the requested purpose, create the operation and run its `Begin`. A failure
gives the error with the output parameters written so far. -/
def startOperation (purpose : Purpose) (keyBlob : KeyBlob Ct)
    (additionalParams : AuthorizationSet) :
    Except (KeymasterError × AuthorizationSet) (AuthorizationSet × Op) :=
  match ctx.loadKey keyBlob additionalParams with
  | .error e => .error (e, .empty)
  | .ok (algorithm, key) =>
      match ctx.getOperationFactory algorithm purpose with
      | none => .error (.unsupportedPurpose, .empty)
      | some factory =>
          match factory.createOperation key additionalParams with
          | .error e => .error (e, .empty)
          | .ok operation =>
              let (error, outputParams, operation) :=
                ctx.operations.begin operation additionalParams
              if error ≠ .ok then .error (error, outputParams) else .ok (outputParams, operation)

/-- `BeginOperation`: start the operation and store it with `AddOperation`. The response carries
the handle `RAND_bytes` wrote, also when `AddOperation` then fails. -/
def beginOperation (env : Env) (table : List (OpTableEntry Op)) (purpose : Purpose)
    (keyBlob : KeyBlob Ct) (additionalParams : AuthorizationSet) :
    Response Ct × List (OpTableEntry Op) :=
  match ctx.startOperation purpose keyBlob additionalParams with
  | .error (error, outputParams) => (.beginOperation error 0 outputParams, table)
  | .ok (outputParams, operation) =>
      match addOperation table operation env.rand with
      | .error e => (.beginOperation e (env.rand.getD 0) outputParams, table)
      | .ok (opHandle, table') => (.beginOperation .ok opHandle outputParams, table')

/-- `UpdateOperation`: feed the operation of the handle's slot; an error deletes it. -/
def updateOperation (table : List (OpTableEntry Op)) (opHandle : UInt64)
    (additionalParams : AuthorizationSet) (input : List UInt8) :
    Option (Response Ct × List (OpTableEntry Op)) :=
  match findOperation table opHandle with
  | none => some (.updateOperation .invalidOperationHandle [] 0, table)
  | some i =>
      (slotOperation table i).map fun operation =>
        let (error, output, inputConsumed, operation) :=
          ctx.operations.update operation additionalParams input
        if error ≠ .ok then (.updateOperation error output inputConsumed, deleteOperation table i)
        else (.updateOperation error output inputConsumed, table.set i ⟨opHandle, some operation⟩)

/-- `FinishOperation`: finish the operation of the handle's slot and delete it. -/
def finishOperation (table : List (OpTableEntry Op)) (opHandle : UInt64)
    (additionalParams : AuthorizationSet) (signature : List UInt8) :
    Option (Response Ct × List (OpTableEntry Op)) :=
  match findOperation table opHandle with
  | none => some (.finishOperation .invalidOperationHandle [], table)
  | some i =>
      (slotOperation table i).map fun operation =>
        let (error, output) := ctx.operations.finish operation additionalParams signature
        (.finishOperation error output, deleteOperation table i)

/-- `AbortOperation`: abort the operation of the handle's slot and delete it. -/
def abortOperation (table : List (OpTableEntry Op)) (opHandle : UInt64) :
    Option (Response Ct × List (OpTableEntry Op)) :=
  match findOperation table opHandle with
  | none => some (.abortOperation .invalidOperationHandle, table)
  | some i =>
      (slotOperation table i).map fun operation =>
        (.abortOperation (ctx.operations.abort operation), deleteOperation table i)

/-- One request against the operation table; `none` where a handler would call through a `NULL`
operation pointer. -/
def step (env : Env) (table : List (OpTableEntry Op)) :
    Request Ct → Option (Response Ct × List (OpTableEntry Op))
  | .getVersion => some (getVersion, table)
  | .supportedAlgorithms => some (ctx.supportedAlgorithms, table)
  | .supportedBlockModes algorithm purpose => some (ctx.supportedBlockModes algorithm purpose, table)
  | .supportedPaddingModes algorithm purpose =>
      some (ctx.supportedPaddingModes algorithm purpose, table)
  | .supportedDigests algorithm purpose => some (ctx.supportedDigests algorithm purpose, table)
  | .supportedImportFormats algorithm => some (ctx.supportedImportFormats algorithm, table)
  | .supportedExportFormats algorithm => some (ctx.supportedExportFormats algorithm, table)
  | .generateKey keyDescription => some (ctx.generateKey env keyDescription, table)
  | .getKeyCharacteristics keyBlob additionalParams =>
      some (ctx.getKeyCharacteristics keyBlob additionalParams, table)
  | .beginOperation purpose keyBlob additionalParams =>
      some (ctx.beginOperation env table purpose keyBlob additionalParams)
  | .updateOperation opHandle additionalParams input =>
      ctx.updateOperation table opHandle additionalParams input
  | .finishOperation opHandle additionalParams signature =>
      ctx.finishOperation table opHandle additionalParams signature
  | .abortOperation opHandle => ctx.abortOperation table opHandle
  | .exportKey additionalParams keyFormat keyBlob =>
      some (ctx.exportKey additionalParams keyFormat keyBlob, table)
  | .importKey keyDescription keyFormat keyData =>
      some (ctx.importKey env keyDescription keyFormat keyData, table)

/-! ## Loading a key and starting an operation -/

/-- `UnencryptedKeyBlob`'s only failure is `INVALID_KEY_BLOB`. -/
theorem loadKeyBlob_error {keyBlob : KeyBlob Ct} {clientParams : AuthorizationSet}
    {e : KeymasterError} (h : ctx.loadKeyBlob keyBlob clientParams = .error e) :
    e = .invalidKeyBlob := by
  unfold loadKeyBlob UnencryptedKeyBlob.unsealBlob at h
  split at h <;> cases h
  rfl

/-- `LoadKey` succeeds exactly when the blob unseals and the factory of its algorithm loads the
key. -/
theorem loadKey_eq_ok {keyBlob : KeyBlob Ct} {clientParams : AuthorizationSet}
    {algorithm : Algorithm} {key : Key} :
    ctx.loadKey keyBlob clientParams = .ok (algorithm, key) ↔
      ∃ blob factory, ctx.loadKeyBlob keyBlob clientParams = .ok blob ∧
        blob.algorithm = some algorithm ∧ ctx.getKeyFactory algorithm = some factory ∧
        factory.loadKey blob = .ok key := by
  unfold loadKey
  rw [bind_eq_ok]
  constructor
  · rintro ⟨blob, hb, h⟩
    split at h
    · cases h
    · rename_i a ha
      split at h
      · cases h
      · rename_i factory hf
        obtain ⟨key', hk, h⟩ := bind_eq_ok.mp h
        cases h
        exact ⟨blob, factory, hb, ha, hf, hk⟩
  · rintro ⟨blob, factory, hb, ha, hf, hk⟩
    exact ⟨blob, hb, by simp only [ha, hf, hk]; rfl⟩

/-- An operation starts exactly when the key loads, an operation factory is registered for its
algorithm and the purpose, the factory creates the operation and its `Begin` answers `OK`. -/
theorem startOperation_eq_ok {purpose : Purpose} {keyBlob : KeyBlob Ct}
    {additionalParams outputParams : AuthorizationSet} {operation : Op} :
    ctx.startOperation purpose keyBlob additionalParams = .ok (outputParams, operation) ↔
      ∃ algorithm key factory created,
        ctx.loadKey keyBlob additionalParams = .ok (algorithm, key) ∧
        ctx.getOperationFactory algorithm purpose = some factory ∧
        factory.createOperation key additionalParams = .ok created ∧
        ctx.operations.begin created additionalParams = (.ok, outputParams, operation) := by
  unfold startOperation
  constructor
  · intro h
    split at h
    · cases h
    · rename_i algorithm key hk
      split at h
      · cases h
      · rename_i factory hf
        split at h
        · cases h
        · rename_i created hc
          split at h
          rename_i error outputParams' operation' hbegin
          split_ifs at h with he
          cases h
          exact ⟨algorithm, key, factory, created, hk, hf, hc, by rw [hbegin, not_not.mp he]⟩
  · rintro ⟨algorithm, key, factory, created, hk, hf, hc, hbegin⟩
    simp only [hk, hf, hc, hbegin]
    rfl

/-- The components an implementation plugs in follow the source's convention for a failed
call: a key loader or an operation factory that fails reports an error other than `OK`, and no
loader, factory or newly created operation reports `TOO_MANY_OPERATIONS`, which is the
table's own error. -/
structure Conventional : Prop where
  loadKey_error : ∀ factory ∈ ctx.keyFactories, ∀ blob e,
    factory.loadKey blob = .error e → e ≠ .ok ∧ e ≠ .tooManyOperations
  createOperation_error : ∀ factory ∈ ctx.operationFactories, ∀ key params e,
    factory.createOperation key params = .error e → e ≠ .ok ∧ e ≠ .tooManyOperations
  begin_error : ∀ factory ∈ ctx.operationFactories, ∀ key params operation,
    factory.createOperation key params = .ok operation →
      (ctx.operations.begin operation params).1 ≠ .tooManyOperations

variable {ctx}

/-- Under the convention a failed `LoadKey` reports an error other than `OK` and
`TOO_MANY_OPERATIONS`. -/
theorem Conventional.loadKey_error_ne (hc : ctx.Conventional) {keyBlob : KeyBlob Ct}
    {clientParams : AuthorizationSet} {e : KeymasterError}
    (h : ctx.loadKey keyBlob clientParams = .error e) : e ≠ .ok ∧ e ≠ .tooManyOperations := by
  unfold loadKey at h
  rcases bind_eq_error.mp h with hb | ⟨blob, -, h⟩
  · rw [ctx.loadKeyBlob_error hb]
    exact ⟨nofun, nofun⟩
  · split at h
    · cases h
      exact ⟨nofun, nofun⟩
    · split at h
      · cases h
        exact ⟨nofun, nofun⟩
      · rename_i factory hf
        rcases bind_eq_error.mp h with hk | ⟨key, -, h⟩
        · exact hc.loadKey_error factory (List.mem_of_find?_eq_some hf) blob e hk
        · cases h

/-- Under the convention an operation that fails to start reports an error other than `OK` and
`TOO_MANY_OPERATIONS`. -/
theorem Conventional.startOperation_error_ne (hc : ctx.Conventional) {purpose : Purpose}
    {keyBlob : KeyBlob Ct} {additionalParams outputParams : AuthorizationSet} {e : KeymasterError}
    (h : ctx.startOperation purpose keyBlob additionalParams = .error (e, outputParams)) :
    e ≠ .ok ∧ e ≠ .tooManyOperations := by
  unfold startOperation at h
  split at h
  · cases h
    exact hc.loadKey_error_ne ‹_›
  · split at h
    · cases h
      exact ⟨nofun, nofun⟩
    · rename_i factory hf
      have hmem := List.mem_of_find?_eq_some hf
      split at h
      · cases h
        exact hc.createOperation_error factory hmem _ _ _ ‹_›
      · rename_i created hcreated
        have hbegin := hc.begin_error factory hmem _ _ _ hcreated
        split at h
        rename_i error outputParams' operation hb
        rw [hb] at hbegin
        split_ifs at h with he
        cases h
        exact ⟨he, hbegin⟩

variable (ctx)

/-! ## What each handler does to the table -/

/-- `BeginOperation` ends in one of three ways: the operation fails to start and the table is
kept; it starts but `AddOperation` fails and the table is kept; or it is stored under the
non-zero draw in the first empty slot. -/
theorem beginOperation_cases (env : Env) (table : List (OpTableEntry Op)) (purpose : Purpose)
    (keyBlob : KeyBlob Ct) (additionalParams : AuthorizationSet) :
    (∃ error outputParams,
        ctx.startOperation purpose keyBlob additionalParams = .error (error, outputParams) ∧
        ctx.beginOperation env table purpose keyBlob additionalParams =
          (.beginOperation error 0 outputParams, table)) ∨
      (∃ outputParams operation error,
        ctx.startOperation purpose keyBlob additionalParams = .ok (outputParams, operation) ∧
        addOperation table operation env.rand = .error error ∧
        ctx.beginOperation env table purpose keyBlob additionalParams =
          (.beginOperation error (env.rand.getD 0) outputParams, table)) ∨
      (∃ outputParams operation opHandle i,
        ctx.startOperation purpose keyBlob additionalParams = .ok (outputParams, operation) ∧
        firstEmptySlot table = some i ∧ opHandle ≠ 0 ∧ env.rand = some opHandle ∧
        ctx.beginOperation env table purpose keyBlob additionalParams =
          (.beginOperation .ok opHandle outputParams,
            table.set i ⟨opHandle, some operation⟩)) := by
  unfold beginOperation
  rcases ctx.startOperation purpose keyBlob additionalParams with ⟨error, outputParams⟩ |
    ⟨outputParams, operation⟩
  · exact .inl ⟨_, _, rfl, rfl⟩
  · dsimp only
    rcases ha : addOperation table operation env.rand with error | ⟨opHandle, table'⟩
    · exact .inr (.inl ⟨_, _, _, rfl, ha, rfl⟩)
    · obtain ⟨h0, hr, i, hi, rfl⟩ := addOperation_ok ha
      exact .inr (.inr ⟨_, _, _, i, rfl, hi, h0, hr, rfl⟩)

/-- `UpdateOperation` answers `INVALID_OPERATION_HANDLE` for a handle no slot holds; otherwise
it runs the slot's operation, deleting it on an error and keeping its new state otherwise. -/
theorem updateOperation_cases {table : List (OpTableEntry Op)} {opHandle : UInt64}
    {additionalParams : AuthorizationSet} {input : List UInt8} {resp : Response Ct}
    {table' : List (OpTableEntry Op)}
    (h : ctx.updateOperation table opHandle additionalParams input = some (resp, table')) :
    (findOperation table opHandle = none ∧
        resp = .updateOperation .invalidOperationHandle [] 0 ∧ table' = table) ∨
      ∃ i operation error output inputConsumed operation',
        findOperation table opHandle = some i ∧ slotOperation table i = some operation ∧
        ctx.operations.update operation additionalParams input =
          (error, output, inputConsumed, operation') ∧
        resp = .updateOperation error output inputConsumed ∧
        table' = if error ≠ .ok then deleteOperation table i
          else table.set i ⟨opHandle, some operation'⟩ := by
  unfold updateOperation at h
  split at h
  · cases h
    exact .inl ⟨‹_›, rfl, rfl⟩
  · rename_i i hf
    obtain ⟨operation, ho, h⟩ := Option.map_eq_some'.mp h
    split at h
    rename_i error output inputConsumed operation' hu
    refine .inr ⟨i, operation, error, output, inputConsumed, operation', hf, ho, hu, ?_⟩
    split_ifs at h ⊢ <;> cases h <;> exact ⟨rfl, rfl⟩

/-- `FinishOperation` answers `INVALID_OPERATION_HANDLE` for a handle no slot holds; otherwise
it finishes the slot's operation and deletes it. -/
theorem finishOperation_cases {table : List (OpTableEntry Op)} {opHandle : UInt64}
    {additionalParams : AuthorizationSet} {signature : List UInt8} {resp : Response Ct}
    {table' : List (OpTableEntry Op)}
    (h : ctx.finishOperation table opHandle additionalParams signature = some (resp, table')) :
    (findOperation table opHandle = none ∧ resp = .finishOperation .invalidOperationHandle [] ∧
        table' = table) ∨
      ∃ i operation, findOperation table opHandle = some i ∧
        slotOperation table i = some operation ∧
        resp = .finishOperation (ctx.operations.finish operation additionalParams signature).1
          (ctx.operations.finish operation additionalParams signature).2 ∧
        table' = deleteOperation table i := by
  unfold finishOperation at h
  split at h
  · cases h
    exact .inl ⟨‹_›, rfl, rfl⟩
  · rename_i i hf
    obtain ⟨operation, ho, h⟩ := Option.map_eq_some'.mp h
    cases h
    exact .inr ⟨i, operation, hf, ho, rfl, rfl⟩

/-- `AbortOperation` answers `INVALID_OPERATION_HANDLE` for a handle no slot holds; otherwise
it aborts the slot's operation and deletes it. -/
theorem abortOperation_cases {table : List (OpTableEntry Op)} {opHandle : UInt64}
    {resp : Response Ct} {table' : List (OpTableEntry Op)}
    (h : ctx.abortOperation table opHandle = some (resp, table')) :
    (findOperation table opHandle = none ∧ resp = .abortOperation .invalidOperationHandle ∧
        table' = table) ∨
      ∃ i operation, findOperation table opHandle = some i ∧
        slotOperation table i = some operation ∧
        resp = .abortOperation (ctx.operations.abort operation) ∧
        table' = deleteOperation table i := by
  unfold abortOperation at h
  split at h
  · cases h
    exact .inl ⟨‹_›, rfl, rfl⟩
  · rename_i i hf
    obtain ⟨operation, ho, h⟩ := Option.map_eq_some'.mp h
    cases h
    exact .inr ⟨i, operation, hf, ho, rfl, rfl⟩

/-- What one request can do to the table: nothing; store an operation under a non-zero draw in
the first empty slot; or, for a handle `FindOperation` finds, delete its slot or give the slot's
operation a new state. -/
theorem step_cases {env : Env} {table : List (OpTableEntry Op)} {req : Request Ct}
    {resp : Response Ct} {table' : List (OpTableEntry Op)}
    (h : ctx.step env table req = some (resp, table')) :
    table' = table ∨
      (∃ i opHandle operation, firstEmptySlot table = some i ∧ opHandle ≠ 0 ∧
        env.rand = some opHandle ∧ table' = table.set i ⟨opHandle, some operation⟩) ∨
      ∃ opHandle i, findOperation table opHandle = some i ∧
        (table' = deleteOperation table i ∨
          ∃ operation, table' = table.set i ⟨opHandle, some operation⟩) := by
  cases req
  case beginOperation purpose keyBlob additionalParams =>
    simp only [step, Option.some.injEq] at h
    rcases ctx.beginOperation_cases env table purpose keyBlob additionalParams with
      ⟨_, _, -, hb⟩ | ⟨_, _, _, -, -, hb⟩ |
        ⟨_, operation, opHandle, i, -, hi, h0, hr, hb⟩ <;>
      rw [hb] at h <;> cases h
    · exact .inl rfl
    · exact .inl rfl
    · exact .inr (.inl ⟨i, opHandle, operation, hi, h0, hr, rfl⟩)
  case updateOperation opHandle additionalParams input =>
    rcases ctx.updateOperation_cases h with ⟨-, -, rfl⟩ |
      ⟨i, _, error, _, _, operation', hf, -, -, -, rfl⟩
    · exact .inl rfl
    · refine .inr (.inr ⟨opHandle, i, hf, ?_⟩)
      split_ifs
      · exact .inl rfl
      · exact .inr ⟨operation', rfl⟩
  case finishOperation opHandle additionalParams signature =>
    rcases ctx.finishOperation_cases h with ⟨-, -, rfl⟩ | ⟨i, _, hf, -, -, rfl⟩
    · exact .inl rfl
    · exact .inr (.inr ⟨opHandle, i, hf, .inl rfl⟩)
  case abortOperation opHandle =>
    rcases ctx.abortOperation_cases h with ⟨-, -, rfl⟩ | ⟨i, _, hf, -, -, rfl⟩
    · exact .inl rfl
    · exact .inr (.inr ⟨opHandle, i, hf, .inl rfl⟩)
  all_goals
    simp only [step, Option.some.injEq, Prod.mk.injEq] at h
    exact .inl h.2.symm

/-- On a table whose slots are well formed, no handler calls through a `NULL` operation: every
request has a result. -/
theorem step_isSome {table : List (OpTableEntry Op)} (ht : SlotsWellFormed table) (env : Env)
    (req : Request Ct) : (ctx.step env table req).isSome := by
  have found : ∀ {opHandle i}, findOperation table opHandle = some i →
      ∃ operation, slotOperation table i = some operation := fun hf => by
    obtain ⟨hi, hop⟩ := ht.operation_of_findOperation hf
    obtain ⟨operation, ho⟩ := Option.isSome_iff_exists.mp hop
    exact ⟨operation, by simp [slotOperation, hi, ho]⟩
  cases req
  case updateOperation opHandle _ _ | finishOperation opHandle _ _ | abortOperation opHandle =>
    simp only [step, updateOperation, finishOperation, abortOperation]
    rcases hf : findOperation table opHandle with _ | i
    · rfl
    · obtain ⟨operation, ho⟩ := found hf
      simp [ho]
  all_goals rfl

end KeymasterContext

end Keymaster
