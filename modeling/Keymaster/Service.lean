/-
# The operation table as a bounded map

What the operation table is for: a map from handles to running operations, with room for a fixed
number of them. The abstract `Service` keeps that map and how many operations run.
`BeginOperation` runs a started operation under its drawn handle while fewer than `capacity`
run, `UpdateOperation` gives the operation under a handle its new state or drops it on an error,
`FinishOperation` and `AbortOperation` drop it, and a handle without an operation is answered
`INVALID_OPERATION_HANDLE`. A draw that names a running operation is outside the service's
contract.

The slots are invisible at this level. `Implements table s` relates a table with well-formed
slots and distinct handles to the service it stands for; every request the service answers is
answered alike by the keymaster on such a table, which again implements the service's new state.
So every run from the all-empty table on which the service is defined gives the service's
responses.
-/

import Keymaster.Session

set_option autoImplicit false

namespace Keymaster

/-- The operations a keymaster runs, by handle, with how many run and how many may. -/
@[ext]
structure Service (Op : Type) where
  running : UInt64 → Option Op
  count : Nat
  capacity : Nat
  count_le : count ≤ capacity

namespace Service

variable {Op Ct : Type}

/-- No operation runs. -/
def empty (capacity : Nat) : Service Op := ⟨fun _ => none, 0, capacity, Nat.zero_le _⟩

variable (s : Service Op)

/-- Run `operation` under `handle`: one more running operation. -/
def insert (handle : UInt64) (operation : Op) (hroom : s.count < s.capacity) : Service Op :=
  ⟨Function.update s.running handle (some operation), s.count + 1, s.capacity, hroom⟩

/-- Give the operation under `handle` a new state. -/
def replace (handle : UInt64) (operation : Op) : Service Op :=
  { s with running := Function.update s.running handle (some operation) }

/-- Drop the operation under `handle`: one fewer running operation. -/
def erase (handle : UInt64) : Service Op :=
  ⟨Function.update s.running handle none, s.count - 1, s.capacity,
    Nat.le_trans (Nat.sub_le _ _) s.count_le⟩

/-- `AddOperation` on the service: `UNKNOWN_ERROR` without a non-zero draw,
`TOO_MANY_OPERATIONS` when `capacity` operations run, else the operation runs under the draw;
`none` when the draw names a running operation. -/
def add (operation : Op) (rand : Option UInt64) :
    Option (Except KeymasterError (UInt64 × Service Op)) :=
  match rand with
  | none => some (.error .unknownError)
  | some handle =>
      if handle = 0 then some (.error .unknownError)
      else if hfull : s.count = s.capacity then some (.error .tooManyOperations)
      else if (s.running handle).isSome then none
      else some (.ok (handle, s.insert handle operation (Nat.lt_of_le_of_ne s.count_le hfull)))

/-- `BeginOperation` on the service: the operation starts as the keymaster starts it, and is
then added. -/
def begin (ctx : KeymasterContext Op Ct) (env : Env) (purpose : Purpose) (keyBlob : KeyBlob Ct)
    (additionalParams : AuthorizationSet) : Option (Response Ct × Service Op) :=
  match ctx.startOperation purpose keyBlob additionalParams with
  | .error (error, outputParams) => some (.beginOperation error 0 outputParams, s)
  | .ok (outputParams, operation) =>
      (s.add operation env.rand).map fun
        | .error e => (.beginOperation e (env.rand.getD 0) outputParams, s)
        | .ok (opHandle, s') => (.beginOperation .ok opHandle outputParams, s')

/-- `UpdateOperation` on the service. -/
def update (ops : OperationClass Op) (opHandle : UInt64) (additionalParams : AuthorizationSet)
    (input : List UInt8) : Response Ct × Service Op :=
  match s.running opHandle with
  | none => (.updateOperation .invalidOperationHandle [] 0, s)
  | some operation =>
      let (error, output, inputConsumed, operation') := ops.update operation additionalParams input
      (.updateOperation error output inputConsumed,
        if error ≠ .ok then s.erase opHandle else s.replace opHandle operation')

/-- `FinishOperation` on the service. -/
def finish (ops : OperationClass Op) (opHandle : UInt64) (additionalParams : AuthorizationSet)
    (signature : List UInt8) : Response Ct × Service Op :=
  match s.running opHandle with
  | none => (.finishOperation .invalidOperationHandle [], s)
  | some operation =>
      let (error, output) := ops.finish operation additionalParams signature
      (.finishOperation error output, s.erase opHandle)

/-- `AbortOperation` on the service. -/
def abort (ops : OperationClass Op) (opHandle : UInt64) : Response Ct × Service Op :=
  match s.running opHandle with
  | none => (.abortOperation .invalidOperationHandle, s)
  | some operation => (.abortOperation (ops.abort operation), s.erase opHandle)

/-- One request on the service. Every request other than the four operation requests is
answered by its handler, which never reads the table, and leaves the service as it is. -/
def step (ctx : KeymasterContext Op Ct) (env : Env) :
    Request Ct → Option (Response Ct × Service Op)
  | .beginOperation purpose keyBlob additionalParams =>
      s.begin ctx env purpose keyBlob additionalParams
  | .updateOperation opHandle additionalParams input =>
      some (s.update ctx.operations opHandle additionalParams input)
  | .finishOperation opHandle additionalParams signature =>
      some (s.finish ctx.operations opHandle additionalParams signature)
  | .abortOperation opHandle => some (s.abort ctx.operations opHandle)
  | req => (ctx.step env [] req).map fun answer => (answer.1, s)

/-- The requests of a run applied in order to the service: the responses and the final state,
or `none` when a `BeginOperation` draws a running handle. -/
def run (ctx : KeymasterContext Op Ct) (s : Service Op) :
    List (Env × Request Ct) → Option (List (Response Ct) × Service Op)
  | [] => some ([], s)
  | (env, req) :: requests => do
      let (resp, s') ← s.step ctx env req
      let (resps, final) ← run ctx s' requests
      pure (resp :: resps, final)

end Service

section Abstraction

variable {Op Ct : Type}

/-- The operation a table runs under a handle: that of the slot `FindOperation` returns. -/
def sessions (table : List (OpTableEntry Op)) (handle : UInt64) : Option Op :=
  (findOperation table handle).bind (slotOperation table)

/-- The number of slots holding an operation. -/
def liveCount (table : List (OpTableEntry Op)) : Nat := table.countP (·.operation.isSome)

/-- A table implements a service when its slots are well formed, its handles distinct, and it
runs the service's operations under their handles, holds as many as run, and has a slot for
each one that may. -/
def Implements (table : List (OpTableEntry Op)) (s : Service Op) : Prop :=
  SlotsWellFormed table ∧ HandlesDistinct table ∧ sessions table = s.running ∧
    liveCount table = s.count ∧ table.length = s.capacity

theorem slotOperation_of_lt {table : List (OpTableEntry Op)} {i : Nat} (hi : i < table.length) :
    slotOperation table i = table[i].operation := by
  simp [slotOperation, hi]

variable {table : List (OpTableEntry Op)}

/-- With well-formed slots and distinct handles, a handle runs the operation of the slot that
holds it. -/
theorem sessions_eq_some (hw : SlotsWellFormed table) (hd : HandlesDistinct table)
    {handle : UInt64} {op : Op} :
    sessions table handle = some op ↔
      ∃ j, ∃ hj : j < table.length,
        table[j].handle = handle ∧ table[j].operation = some op := by
  constructor
  · intro h
    obtain ⟨i, hf, ho⟩ := Option.bind_eq_some.mp h
    obtain ⟨-, hi, hh, -⟩ := findOperation_eq_some.mp hf
    exact ⟨i, hi, hh, by rwa [slotOperation_of_lt hi] at ho⟩
  · rintro ⟨j, hj, rfl, ho⟩
    have hf := findOperation_of_occupied hw hd hj (by simp [ho])
    simp only [sessions, hf, Option.some_bind, slotOperation_of_lt hj, ho]

/-- With well-formed slots, a handle runs nothing exactly when `FindOperation` finds no slot. -/
theorem sessions_eq_none (hw : SlotsWellFormed table) {handle : UInt64} :
    sessions table handle = none ↔ findOperation table handle = none := by
  unfold sessions
  cases hf : findOperation table handle with
  | none => simp
  | some i =>
      obtain ⟨hi, hop⟩ := hw.operation_of_findOperation hf
      simpa [slotOperation_of_lt hi, Option.isSome_iff_ne_none] using hop

/-- Writing slot `i` keeps the operation under every handle that the slot holds neither before
nor after. -/
theorem sessions_set_of_ne (hw : SlotsWellFormed table) (hd : HandlesDistinct table) {i : Nat}
    {e : OpTableEntry Op} (hw' : SlotsWellFormed (table.set i e))
    (hd' : HandlesDistinct (table.set i e)) {handle : UInt64}
    (hold : ∀ hi : i < table.length, table[i].operation.isSome → table[i].handle ≠ handle)
    (hnew : e.operation.isSome → e.handle ≠ handle) :
    sessions (table.set i e) handle = sessions table handle := by
  refine Option.ext fun op => ?_
  show sessions _ handle = some op ↔ sessions table handle = some op
  rw [sessions_eq_some hw' hd', sessions_eq_some hw hd]
  constructor
  · rintro ⟨j, hj, hh, ho⟩
    simp only [List.getElem_set] at hh ho
    split_ifs at hh ho with hij
    · exact absurd hh (hnew (by simp [ho]))
    · exact ⟨j, by simpa using hj, hh, ho⟩
  · rintro ⟨j, hj, hh, ho⟩
    refine ⟨j, by simpa using hj, ?_⟩
    simp only [List.getElem_set]
    split_ifs with hij
    · subst hij
      exact absurd hh (hold hj (by simp [ho]))
    · exact ⟨hh, ho⟩

/-- A table is full exactly when every slot holds an operation. -/
theorem firstEmptySlot_eq_none_iff :
    firstEmptySlot table = none ↔ liveCount table = table.length := by
  simp [firstEmptySlot, liveCount]

/-- The all-empty table implements the service in which nothing runs. -/
theorem implements_empty (size : Nat) :
    Implements (List.replicate size .empty) (Service.empty size : Service Op) := by
  refine ⟨slotsWellFormed_replicate size, handlesDistinct_replicate size, ?_, ?_,
    by simp [Service.empty]⟩
  · funext handle
    refine Option.eq_none_iff_forall_not_mem.mpr fun op hop => ?_
    obtain ⟨j, hj, -, ho⟩ := (sessions_eq_some (slotsWellFormed_replicate size)
      (handlesDistinct_replicate size)).mp hop
    simp [OpTableEntry.empty] at ho
  · simp [liveCount, Service.empty, OpTableEntry.empty]

variable {s : Service Op}

namespace Implements

/-- A handle runs nothing exactly when `FindOperation` finds no slot. -/
theorem running_eq_none (himpl : Implements table s) {handle : UInt64} :
    s.running handle = none ↔ findOperation table handle = none := by
  rw [← himpl.2.2.1]
  exact sessions_eq_none himpl.1

/-- A handle runs an operation exactly when `FindOperation` finds a slot holding it. -/
theorem running_eq_some (himpl : Implements table s) {handle : UInt64} {op : Op} :
    s.running handle = some op ↔
      ∃ i, findOperation table handle = some i ∧ slotOperation table i = some op := by
  rw [← himpl.2.2.1]
  exact Option.bind_eq_some

/-- The service is full exactly when the table has no empty slot. -/
theorem full_iff (himpl : Implements table s) :
    s.count = s.capacity ↔ firstEmptySlot table = none := by
  rw [firstEmptySlot_eq_none_iff, himpl.2.2.2.1, himpl.2.2.2.2]

/-- Storing an operation under a handle that runs nothing in an empty slot implements running
it. -/
theorem insert (himpl : Implements table s) {i : Nat} (hi : firstEmptySlot table = some i)
    {handle : UInt64} (h0 : handle ≠ 0) (hfresh : s.running handle = none) (op : Op)
    (hroom : s.count < s.capacity) :
    Implements (table.set i ⟨handle, some op⟩) (s.insert handle op hroom) := by
  obtain ⟨hw, hd, hs, hc, hl⟩ := himpl
  obtain ⟨hlt, hnone⟩ := firstEmptySlot_eq_some hi
  have hfree : ∀ j (hj : j < table.length), j ≠ i → table[j].operation.isSome →
      table[j].handle ≠ handle := fun j hj _ hop hh => by
    obtain ⟨op', hop'⟩ := Option.isSome_iff_exists.mp hop
    have := (sessions_eq_some hw hd).mpr ⟨j, hj, hh, hop'⟩
    rw [hs, hfresh] at this
    cases this
  have hw' := hw.set i (@OpTableEntry.wellFormed_occupied Op handle op h0)
  have hd' := @HandlesDistinct.set _ _ hd i ⟨handle, some op⟩ fun _ => hfree
  refine ⟨hw', hd', ?_, ?_, by simpa [Service.insert] using hl⟩
  · funext handle'
    simp only [Service.insert, Function.update_apply, ← hs]
    split_ifs with heq
    · subst heq
      exact (sessions_eq_some hw' hd').mpr ⟨i, by simpa using hlt, by simp, by simp⟩
    · exact sessions_set_of_ne hw hd hw' hd' (fun _ hop => by simp [hnone] at hop)
        fun _ => Ne.symm heq
  · simp [liveCount, Service.insert, List.countP_set _ _ _ _ hlt, hnone, ← hc]

/-- Giving the operation `FindOperation` finds a new state implements replacing it. -/
theorem replace (himpl : Implements table s) {handle : UInt64} {i : Nat}
    (hf : findOperation table handle = some i) (op : Op) :
    Implements (table.set i ⟨handle, some op⟩) (s.replace handle op) := by
  obtain ⟨hw, hd, hs, hc, hl⟩ := himpl
  obtain ⟨h0, hi, hh, -⟩ := findOperation_eq_some.mp hf
  obtain ⟨_, hop⟩ := hw.operation_of_findOperation hf
  have hw' := hw.set i (@OpTableEntry.wellFormed_occupied Op handle op h0)
  have hd' := @HandlesDistinct.set _ _ hd i ⟨handle, some op⟩
    fun _ j hj hji hopj hhj => hji (hd j i hj hi hopj hop (hhj.trans hh.symm))
  refine ⟨hw', hd', ?_, ?_, by simpa [Service.replace] using hl⟩
  · funext handle'
    simp only [Service.replace, Function.update_apply, ← hs]
    split_ifs with heq
    · subst heq
      exact (sessions_eq_some hw' hd').mpr ⟨i, by simpa using hi, by simp, by simp⟩
    · exact sessions_set_of_ne hw hd hw' hd' (fun _ _ => hh ▸ Ne.symm heq) fun _ => Ne.symm heq
  · have hpos := List.boole_getElem_le_countP (·.operation.isSome) table i hi
    simp only [hop, if_true] at hpos
    simp only [liveCount, Service.replace, List.countP_set _ _ _ _ hi, hop, if_true,
      Option.isSome_some, ← hc]
    omega

/-- Deleting the slot `FindOperation` finds implements dropping its operation. -/
theorem erase (himpl : Implements table s) {handle : UInt64} {i : Nat}
    (hf : findOperation table handle = some i) :
    Implements (deleteOperation table i) (s.erase handle) := by
  obtain ⟨hw, hd, hs, hc, hl⟩ := himpl
  obtain ⟨-, hi, hh, -⟩ := findOperation_eq_some.mp hf
  obtain ⟨_, hop⟩ := hw.operation_of_findOperation hf
  have hw' := hw.set i OpTableEntry.wellFormed_empty
  have hd' := @HandlesDistinct.set _ _ hd i .empty nofun
  refine ⟨hw', hd', ?_, ?_, by simpa [Service.erase, deleteOperation] using hl⟩
  · funext handle'
    simp only [Service.erase, Function.update_apply, ← hs]
    split_ifs with heq
    · subst heq
      refine Option.eq_none_iff_forall_not_mem.mpr fun op hop' => ?_
      obtain ⟨j, hj, hhj, ho⟩ := (sessions_eq_some hw' hd').mp hop'
      simp only [List.getElem_set] at hhj ho
      split_ifs at hhj ho with hij
      · cases ho
      · exact hij (hd i j hi (by simpa using hj) hop (by simp [ho]) (hh.trans hhj.symm))
    · exact sessions_set_of_ne hw hd hw' hd' (fun _ _ => hh ▸ Ne.symm heq) nofun
  · simp [liveCount, deleteOperation, Service.erase, List.countP_set _ _ _ _ hi, hop,
      OpTableEntry.empty, ← hc]

/-- `AddOperation` on a table does what `add` does on the service it implements. -/
theorem add (himpl : Implements table s) {op : Op} {rand : Option UInt64}
    {r : Except KeymasterError (UInt64 × Service Op)} (h : s.add op rand = some r) :
    (∃ e, r = .error e ∧ addOperation table op rand = .error e) ∨
      ∃ handle s' table', r = .ok (handle, s') ∧
        addOperation table op rand = .ok (handle, table') ∧ Implements table' s' := by
  unfold Service.add at h
  rcases rand with _ | handle
  · cases h
    exact .inl ⟨_, rfl, rfl⟩
  · dsimp only at h
    split_ifs at h with h0 hfull hrun <;> cases h
    · exact .inl ⟨_, rfl, by simp [Keymaster.addOperation, h0]⟩
    · exact .inl ⟨_, rfl, by
        simp [Keymaster.addOperation, h0, storeOperation_eq, himpl.full_iff.mp hfull]⟩
    · obtain ⟨i, hi⟩ := Option.ne_none_iff_exists'.mp (mt himpl.full_iff.mpr hfull)
      exact .inr ⟨handle, _, _, rfl, addOperation_some h0 hi,
        himpl.insert hi h0 (Option.not_isSome_iff_eq_none.mp hrun) op _⟩

variable {ctx : KeymasterContext Op Ct} {resp : Response Ct} {s' : Service Op}

/-- `BeginOperation` on a table answers as `begin` on the service it implements. -/
theorem begin (himpl : Implements table s) {env : Env} {purpose : Purpose} {keyBlob : KeyBlob Ct}
    {additionalParams : AuthorizationSet}
    (h : s.begin ctx env purpose keyBlob additionalParams = some (resp, s')) :
    ∃ table', ctx.beginOperation env table purpose keyBlob additionalParams = (resp, table') ∧
      Implements table' s' := by
  unfold Service.begin at h
  unfold KeymasterContext.beginOperation
  cases hs : ctx.startOperation purpose keyBlob additionalParams with
  | error p =>
      rw [hs] at h
      cases h
      exact ⟨table, rfl, himpl⟩
  | ok p =>
      rw [hs] at h
      obtain ⟨r, hr, h⟩ := Option.map_eq_some'.mp h
      rcases himpl.add hr with ⟨e, rfl, ha⟩ | ⟨opHandle, s'', table', rfl, ha, himpl'⟩ <;>
        cases h
      · exact ⟨table, by simp only [ha], himpl⟩
      · exact ⟨table', by simp only [ha], himpl'⟩

/-- `UpdateOperation` on a table answers as `update` on the service it implements. -/
theorem update (himpl : Implements table s) {opHandle : UInt64}
    {additionalParams : AuthorizationSet} {input : List UInt8}
    (h : s.update ctx.operations opHandle additionalParams input = (resp, s')) :
    ∃ table', ctx.updateOperation table opHandle additionalParams input = some (resp, table') ∧
      Implements table' s' := by
  unfold Service.update at h
  cases hrun : s.running opHandle with
  | none =>
      rw [hrun] at h
      cases h
      exact ⟨table, by simp [KeymasterContext.updateOperation, himpl.running_eq_none.mp hrun],
        himpl⟩
  | some operation =>
      obtain ⟨i, hf, ho⟩ := himpl.running_eq_some.mp hrun
      rcases hu : ctx.operations.update operation additionalParams input with
        ⟨error, output, inputConsumed, operation'⟩
      simp only [hrun, hu] at h
      cases h
      by_cases he : error = .ok
      · exact ⟨table.set i ⟨opHandle, some operation'⟩,
          by simp [KeymasterContext.updateOperation, hf, ho, hu, he],
          by simpa [he] using himpl.replace hf operation'⟩
      · exact ⟨deleteOperation table i,
          by simp [KeymasterContext.updateOperation, hf, ho, hu, he],
          by simpa [he] using himpl.erase hf⟩

/-- `FinishOperation` on a table answers as `finish` on the service it implements. -/
theorem finish (himpl : Implements table s) {opHandle : UInt64}
    {additionalParams : AuthorizationSet} {signature : List UInt8}
    (h : s.finish ctx.operations opHandle additionalParams signature = (resp, s')) :
    ∃ table', ctx.finishOperation table opHandle additionalParams signature =
      some (resp, table') ∧ Implements table' s' := by
  unfold Service.finish at h
  cases hrun : s.running opHandle with
  | none =>
      rw [hrun] at h
      cases h
      exact ⟨table, by simp [KeymasterContext.finishOperation, himpl.running_eq_none.mp hrun],
        himpl⟩
  | some operation =>
      simp only [hrun] at h
      cases h
      obtain ⟨i, hf, ho⟩ := himpl.running_eq_some.mp hrun
      exact ⟨_, by simp [KeymasterContext.finishOperation, hf, ho], himpl.erase hf⟩

/-- `AbortOperation` on a table answers as `abort` on the service it implements. -/
theorem abort (himpl : Implements table s) {opHandle : UInt64}
    (h : s.abort ctx.operations opHandle = (resp, s')) :
    ∃ table', ctx.abortOperation table opHandle = some (resp, table') ∧
      Implements table' s' := by
  unfold Service.abort at h
  cases hrun : s.running opHandle with
  | none =>
      rw [hrun] at h
      cases h
      exact ⟨table, by simp [KeymasterContext.abortOperation, himpl.running_eq_none.mp hrun],
        himpl⟩
  | some operation =>
      simp only [hrun] at h
      cases h
      obtain ⟨i, hf, ho⟩ := himpl.running_eq_some.mp hrun
      exact ⟨_, by simp [KeymasterContext.abortOperation, hf, ho], himpl.erase hf⟩

/-- Every request the service answers is answered alike by the keymaster on a table that
implements it, and the new table implements the service's new state. -/
theorem step (himpl : Implements table s) {env : Env} {req : Request Ct}
    (h : s.step ctx env req = some (resp, s')) :
    ∃ table', ctx.step env table req = some (resp, table') ∧ Implements table' s' := by
  cases req
  case beginOperation purpose keyBlob additionalParams =>
    obtain ⟨table', hb, himpl'⟩ := himpl.begin h
    exact ⟨table', by simp only [KeymasterContext.step, hb], himpl'⟩
  case updateOperation => exact himpl.update (Option.some.inj h)
  case finishOperation => exact himpl.finish (Option.some.inj h)
  case abortOperation => exact himpl.abort (Option.some.inj h)
  all_goals
    simp only [Service.step, KeymasterContext.step, Option.map_some', Option.some.injEq,
      Prod.mk.injEq] at h
    obtain ⟨rfl, rfl⟩ := h
    exact ⟨table, rfl, himpl⟩

/-- A run of the service from a state a table implements is a run of the keymaster from the
table with the same responses. -/
theorem run (himpl : Implements table s) {requests : List (Env × Request Ct)}
    {resps : List (Response Ct)} (h : s.run ctx requests = some (resps, s')) :
    ∃ final, ctx.run table requests = some (resps, final) ∧ Implements final s' := by
  induction requests generalizing table s resps with
  | nil =>
      cases h
      exact ⟨table, rfl, himpl⟩
  | cons request requests ih =>
      obtain ⟨env, req⟩ := request
      simp only [Service.run, Option.bind_eq_bind, Option.bind_eq_some] at h
      obtain ⟨⟨resp, s''⟩, hstep, ⟨resps', final'⟩, hrun, h⟩ := h
      cases h
      obtain ⟨table', hstep', himpl'⟩ := himpl.step hstep
      obtain ⟨final, hrun', himplf⟩ := ih himpl' hrun
      exact ⟨final, by simp [KeymasterContext.run, hstep', hrun'], himplf⟩

end Implements

/-- Every run of a keymaster from the all-empty table of `size` slots, with any requests, any
environments and any behaviour of the operations, on which the service of capacity `size` is
defined, that is no `BeginOperation` adds its operation under the handle of a running one, gives
the service's responses and ends in a table that implements the service's final state. -/
theorem run_refines_service (ctx : KeymasterContext Op Ct) (size : Nat)
    (requests : List (Env × Request Ct)) {resps : List (Response Ct)} {s' : Service Op}
    (h : (Service.empty size).run ctx requests = some (resps, s')) :
    ∃ final, ctx.run (List.replicate size .empty) requests = some (resps, final) ∧
      Implements final s' :=
  (implements_empty size).run h

end Abstraction

/-- The software keymaster begins an HMAC operation under a fresh draw in its one slot and
finishes it. -/
theorem run_refines_service_sign :
    ∃ s', (Service.empty 1).run (softKeymaster 64 zeroMac symbolicAead)
        [(⟨0, [], some 7, []⟩, .beginOperation .sign sampleHmacBlob .empty),
          (⟨0, [], none, []⟩, .finishOperation 7 .empty [])] =
        some ([.beginOperation .ok 7 .empty, .finishOperation .ok []], s') ∧
      ∃ final, (softKeymaster 64 zeroMac symbolicAead).run (List.replicate 1 .empty)
          [(⟨0, [], some 7, []⟩, .beginOperation .sign sampleHmacBlob .empty),
            (⟨0, [], none, []⟩, .finishOperation 7 .empty [])] =
          some ([.beginOperation .ok 7 .empty, .finishOperation .ok []], final) ∧
        Implements final s' :=
  ⟨_, rfl, run_refines_service _ 1 _ rfl⟩

/-! ## Released handles -/

section Released

variable {Op Ct : Type}

/-- A request on `handle` that reaches the operation table is answered
`INVALID_OPERATION_HANDLE`; every other request meets this trivially. -/
def AnswersInvalid (handle : UInt64) : Request Ct → Response Ct → Prop
  | .updateOperation opHandle _ _, resp =>
      opHandle = handle → resp = .updateOperation .invalidOperationHandle [] 0
  | .finishOperation opHandle _ _, resp =>
      opHandle = handle → resp = .finishOperation .invalidOperationHandle []
  | .abortOperation opHandle, resp =>
      opHandle = handle → resp = .abortOperation .invalidOperationHandle
  | _, _ => True

namespace Service

variable {ctx : KeymasterContext Op Ct} {s s' : Service Op} {handle : UInt64}

/-- `begin` keeps the service, or runs an operation under the handle it answers `OK` with. -/
theorem begin_cases {env : Env} {purpose : Purpose} {keyBlob : KeyBlob Ct}
    {additionalParams : AuthorizationSet} {resp : Response Ct}
    (h : s.begin ctx env purpose keyBlob additionalParams = some (resp, s')) :
    s' = s ∨ ∃ opHandle operation hroom outputParams,
      resp = .beginOperation .ok opHandle outputParams ∧ s' = s.insert opHandle operation hroom := by
  unfold Service.begin at h
  split at h
  · cases h
    exact .inl rfl
  · obtain ⟨r, hr, h⟩ := Option.map_eq_some'.mp h
    unfold Service.add at hr
    split at hr
    · cases hr
      cases h
      exact .inl rfl
    · split_ifs at hr <;> cases hr <;> cases h
      · exact .inl rfl
      · exact .inl rfl
      · exact .inr ⟨_, _, _, _, rfl, rfl⟩

/-- An `Update` on another handle keeps what runs under `handle`. -/
theorem update_running_of_ne {ops : OperationClass Op} {opHandle : UInt64}
    (hne : opHandle ≠ handle) (additionalParams : AuthorizationSet) (input : List UInt8) :
    ((s.update ops opHandle additionalParams input : Response Ct × Service Op).2).running handle =
      s.running handle := by
  unfold Service.update
  cases s.running opHandle with
  | none => rfl
  | some operation =>
      dsimp only
      rcases ops.update operation additionalParams input with ⟨error, output, consumed, operation'⟩
      split_ifs <;> simp [Service.erase, Service.replace, Function.update_noteq (Ne.symm hne)]

/-- One step keeps a handle that runs nothing running nothing, unless it is a `BeginOperation`
answering `OK` with that handle, and answers every request on the handle
`INVALID_OPERATION_HANDLE`. -/
theorem step_released (hnone : s.running handle = none) {env : Env} {req : Request Ct}
    {resp : Response Ct} (h : s.step ctx env req = some (resp, s'))
    (hbegin : ∀ outputParams, resp ≠ .beginOperation .ok handle outputParams) :
    s'.running handle = none ∧ AnswersInvalid handle req resp := by
  cases req
  case beginOperation =>
    refine ⟨?_, trivial⟩
    rcases begin_cases h with rfl | ⟨opHandle, operation, hroom, outputParams, rfl, rfl⟩
    · exact hnone
    · have hne : handle ≠ opHandle := fun heq => hbegin outputParams (heq ▸ rfl)
      simp [Service.insert, Function.update_noteq hne, hnone]
  case updateOperation opHandle additionalParams input =>
    simp only [step, Option.some.injEq] at h
    by_cases heq : opHandle = handle
    · subst heq
      simp only [Service.update, hnone, Prod.mk.injEq] at h
      obtain ⟨rfl, rfl⟩ := h
      exact ⟨hnone, fun _ => rfl⟩
    · refine ⟨?_, fun h' => absurd h' heq⟩
      obtain rfl : _ = s' := congrArg Prod.snd h
      rw [update_running_of_ne heq, hnone]
  case finishOperation opHandle _ _ | abortOperation opHandle =>
    simp only [step, Option.some.injEq, Service.finish, Service.abort] at h
    by_cases heq : opHandle = handle
    · subst heq
      simp only [hnone, Prod.mk.injEq] at h
      obtain ⟨rfl, rfl⟩ := h
      exact ⟨hnone, fun _ => rfl⟩
    · refine ⟨?_, fun h' => absurd h' heq⟩
      cases hrun : s.running opHandle <;> simp only [hrun, Prod.mk.injEq] at h <;>
        obtain ⟨-, rfl⟩ := h
      · exact hnone
      · simp [Service.erase, Function.update_noteq (Ne.symm heq), hnone]
  all_goals
    simp only [step, KeymasterContext.step, Option.map_some', Option.some.injEq,
      Prod.mk.injEq] at h
    obtain ⟨-, rfl⟩ := h
    exact ⟨hnone, trivial⟩

/-- Along a run of the service in which no `BeginOperation` answers `OK` with a handle that runs
nothing, the handle keeps running nothing and every request on it is answered
`INVALID_OPERATION_HANDLE`. -/
theorem run_released (hnone : s.running handle = none) {requests : List (Env × Request Ct)}
    {resps : List (Response Ct)} (h : s.run ctx requests = some (resps, s'))
    (hbegin : ∀ resp ∈ resps, ∀ outputParams, resp ≠ .beginOperation .ok handle outputParams) :
    s'.running handle = none ∧ ∀ x ∈ requests.zip resps, AnswersInvalid handle x.1.2 x.2 := by
  induction requests generalizing s resps with
  | nil =>
      cases h
      exact ⟨hnone, by simp⟩
  | cons request requests ih =>
      obtain ⟨env, req⟩ := request
      simp only [Service.run, Option.bind_eq_bind, Option.bind_eq_some] at h
      obtain ⟨⟨resp, s''⟩, hstep, ⟨resps', final'⟩, hrun, h⟩ := h
      cases h
      obtain ⟨hnone', hanswer⟩ := step_released hnone hstep (hbegin resp (.head _))
      obtain ⟨hfinal, hrest⟩ := ih hnone' hrun fun r hr => hbegin r (.tail _ hr)
      refine ⟨hfinal, ?_⟩
      rintro x (_ | ⟨_, hx⟩)
      · exact hanswer
      · exact hrest x hx

end Service

/-- A handle that runs no operation stays dead. Along every run of a keymaster from a table that
implements a service in which the handle runs nothing, with any requests, environments and
operation behaviour, on which the service is defined and in which no `BeginOperation` answers
`OK` with the handle, every `UpdateOperation`, `FinishOperation` and `AbortOperation` on the
handle is answered `INVALID_OPERATION_HANDLE`: a finished or aborted handle, or one never
issued, reaches no operation until a `BeginOperation` returns it again. -/
theorem released_handle_answers_invalid {ctx : KeymasterContext Op Ct}
    {table : List (OpTableEntry Op)} {s s' : Service Op} (himpl : Implements table s)
    {handle : UInt64} (hnone : s.running handle = none) {requests : List (Env × Request Ct)}
    {resps : List (Response Ct)} (h : s.run ctx requests = some (resps, s'))
    (hbegin : ∀ resp ∈ resps, ∀ outputParams, resp ≠ .beginOperation .ok handle outputParams) :
    ∃ final, ctx.run table requests = some (resps, final) ∧
      ∀ x ∈ requests.zip resps, AnswersInvalid handle x.1.2 x.2 := by
  obtain ⟨final, hrun, -⟩ := himpl.run h
  exact ⟨final, hrun, (Service.run_released hnone h hbegin).2⟩

/-- Under the software keymaster, a handle never issued stays dead while another is begun and
aborted next to it. -/
theorem released_handle_answers_invalid_unissued :
    ∃ final, (softKeymaster 64 zeroMac symbolicAead).run (List.replicate 1 .empty)
        [(⟨0, [], some 8, []⟩, .beginOperation .sign sampleHmacBlob .empty),
          (⟨0, [], none, []⟩, .updateOperation 7 .empty [1, 2]),
          (⟨0, [], none, []⟩, .finishOperation 7 .empty []),
          (⟨0, [], none, []⟩, .abortOperation 7), (⟨0, [], none, []⟩, .abortOperation 8)] =
        some ([.beginOperation .ok 8 .empty, .updateOperation .invalidOperationHandle [] 0,
          .finishOperation .invalidOperationHandle [], .abortOperation .invalidOperationHandle,
          .abortOperation .ok], final) ∧
      ∀ x ∈ [(⟨0, [], some 8, []⟩, .beginOperation .sign sampleHmacBlob .empty),
          (⟨0, [], none, []⟩, .updateOperation 7 .empty [1, 2]),
          (⟨0, [], none, []⟩, .finishOperation 7 .empty []),
          (⟨0, [], none, []⟩, .abortOperation 7), (⟨0, [], none, []⟩, .abortOperation 8)].zip
          [.beginOperation .ok 8 .empty, .updateOperation .invalidOperationHandle [] 0,
            .finishOperation .invalidOperationHandle [], .abortOperation .invalidOperationHandle,
            .abortOperation .ok],
        AnswersInvalid 7 (x.1 : Env × Request SealedBox).2 x.2 :=
  released_handle_answers_invalid (implements_empty 1) rfl rfl (by simp)

end Released

end Keymaster
