/-
# Runs of a keymaster

The tables a keymaster reaches from its all-empty table, under any requests in any order, any
environment and any behaviour of its operations. Two invariants are proved over every run from
the one-step facts of `step_cases`:

* every slot has handle zero exactly when it holds no operation, so `FindOperation` never
  returns an empty slot and no handler calls through a `NULL` operation;
* when no `BeginOperation` draws a handle that is live at that moment, the occupied slots hold
  pairwise distinct non-zero handles, and `FindOperation` of a live handle returns the slot the
  `BeginOperation` that drew it filled.

`AddOperation` compares a draw only with 0, so without the freshness condition two slots can
hold one handle.
-/

import Keymaster.Frame

set_option autoImplicit false

namespace Keymaster

namespace KeymasterContext

variable {Op Ct : Type} (ctx : KeymasterContext Op Ct)

/-- The tables reached from the all-empty table of some capacity by requests each of which has
a result. -/
inductive Reachable : List (OpTableEntry Op) → Prop
  | init (size : Nat) : Reachable (List.replicate size .empty)
  | step {table table' : List (OpTableEntry Op)} {env : Env} {req : Request Ct}
      {resp : Response Ct} :
      Reachable table → ctx.step env table req = some (resp, table') → Reachable table'

/-- The tables reached when no request's draw is a handle live at that moment. -/
inductive FreshReachable : List (OpTableEntry Op) → Prop
  | init (size : Nat) : FreshReachable (List.replicate size .empty)
  | step {table table' : List (OpTableEntry Op)} {env : Env} {req : Request Ct}
      {resp : Response Ct} :
      FreshReachable table → (∀ handle, env.rand = some handle → ¬IsLive table handle) →
      ctx.step env table req = some (resp, table') → FreshReachable table'

/-- The requests of a run, each with its environment, applied in order: the responses and the
final table, or `none` when a handler calls through a `NULL` operation. -/
def run (table : List (OpTableEntry Op)) :
    List (Env × Request Ct) → Option (List (Response Ct) × List (OpTableEntry Op))
  | [] => some ([], table)
  | (env, req) :: requests => do
      let (resp, table') ← ctx.step env table req
      let (resps, final) ← run table' requests
      pure (resp :: resps, final)

variable {ctx} in
/-- A run that has a result answers every request. -/
theorem run_length {table final : List (OpTableEntry Op)} {requests : List (Env × Request Ct)}
    {resps : List (Response Ct)} (h : ctx.run table requests = some (resps, final)) :
    resps.length = requests.length := by
  induction requests generalizing table resps with
  | nil => cases h; rfl
  | cons request requests ih =>
      obtain ⟨env, req⟩ := request
      simp only [run, Option.bind_eq_bind, Option.bind_eq_some] at h
      obtain ⟨⟨resp, table'⟩, -, ⟨resps', final'⟩, hrun, h⟩ := h
      cases h
      simp [ih hrun]

variable {ctx}

/-- One request keeps every slot well formed. -/
theorem step_slotsWellFormed {env : Env} {table table' : List (OpTableEntry Op)}
    {req : Request Ct} {resp : Response Ct} (hw : SlotsWellFormed table)
    (h : ctx.step env table req = some (resp, table')) : SlotsWellFormed table' := by
  rcases ctx.step_cases h with rfl | ⟨i, _, _, -, h0, -, rfl⟩ |
    ⟨opHandle, i, hf, rfl | ⟨_, rfl⟩⟩
  · exact hw
  · exact hw.set i (OpTableEntry.wellFormed_occupied h0)
  · exact hw.set i OpTableEntry.wellFormed_empty
  · exact hw.set i (OpTableEntry.wellFormed_occupied (findOperation_eq_some.mp hf).1)

/-- One request whose draw is not live keeps the handles of a well-formed table distinct. -/
theorem step_handlesDistinct {env : Env} {table table' : List (OpTableEntry Op)}
    {req : Request Ct} {resp : Response Ct} (hw : SlotsWellFormed table)
    (hd : HandlesDistinct table)
    (hfresh : ∀ handle, env.rand = some handle → ¬IsLive table handle)
    (h : ctx.step env table req = some (resp, table')) : HandlesDistinct table' := by
  rcases ctx.step_cases h with rfl | ⟨i, opHandle, _, -, -, hr, rfl⟩ |
    ⟨opHandle, i, hf, rfl | ⟨_, rfl⟩⟩
  · exact hd
  · refine hd.set fun _ j hj _ hop hh => hfresh opHandle hr ⟨_, List.getElem_mem hj, hop, hh⟩
  · exact hd.set nofun
  · obtain ⟨-, hi, hh, -⟩ := findOperation_eq_some.mp hf
    obtain ⟨_, hop⟩ := hw.operation_of_findOperation hf
    exact hd.set fun _ j hj hji hopj hhj => hji (hd j i hj hi hopj hop (hhj.trans hh.symm))

/-- Every reachable table has well-formed slots. -/
theorem Reachable.slotsWellFormed {table : List (OpTableEntry Op)} (hr : ctx.Reachable table) :
    SlotsWellFormed table := by
  induction hr with
  | init size => exact slotsWellFormed_replicate size
  | step _ h ih => exact step_slotsWellFormed ih h

/-- Every table reached with fresh draws has well-formed slots and distinct handles. -/
theorem FreshReachable.invariant {table : List (OpTableEntry Op)}
    (hr : ctx.FreshReachable table) : SlotsWellFormed table ∧ HandlesDistinct table := by
  induction hr with
  | init size => exact ⟨slotsWellFormed_replicate size, handlesDistinct_replicate size⟩
  | step _ hfresh h ih =>
      exact ⟨step_slotsWellFormed ih.1 h, step_handlesDistinct ih.1 ih.2 hfresh h⟩

/-- In every reachable table each slot has handle zero exactly when it holds no operation, the
slot `FindOperation` returns for any handle holds an operation, and every request, in
particular every `UpdateOperation`, `FinishOperation` and `AbortOperation`, has a result: none
calls through a `NULL` operation. -/
theorem reachable_tables_wellFormed {table : List (OpTableEntry Op)} (hr : ctx.Reachable table) :
    SlotsWellFormed table ∧
      (∀ handle i, findOperation table handle = some i → (slotOperation table i).isSome) ∧
      ∀ env req, (ctx.step env table req).isSome := by
  have hw := hr.slotsWellFormed
  refine ⟨hw, fun handle i hf => ?_, ctx.step_isSome hw⟩
  obtain ⟨hi, hop⟩ := hw.operation_of_findOperation hf
  simpa [slotOperation, hi] using hop

/-- The table after the software keymaster begins an HMAC operation in one of two empty slots. -/
theorem reachable_tables_wellFormed_begin :
    SlotsWellFormed [⟨7, some ⟨.sign, List.replicate 16 0, .sha256, 0, .ok, []⟩⟩,
        (.empty : OpTableEntry HmacOperation)] ∧
      (∀ handle i, findOperation [⟨7, some ⟨.sign, List.replicate 16 0, .sha256, 0, .ok, []⟩⟩,
          (.empty : OpTableEntry HmacOperation)] handle = some i →
        (slotOperation [⟨7, some ⟨.sign, List.replicate 16 0, .sha256, 0, .ok, []⟩⟩,
          (.empty : OpTableEntry HmacOperation)] i).isSome) ∧
      ∀ env req, ((softKeymaster 64 zeroMac symbolicAead).step env
        [⟨7, some ⟨.sign, List.replicate 16 0, .sha256, 0, .ok, []⟩⟩, .empty] req).isSome :=
  reachable_tables_wellFormed (@Reachable.step _ _ (softKeymaster 64 zeroMac symbolicAead) _ _
    ⟨0, [], some 7, []⟩ (.beginOperation .sign sampleHmacBlob .empty) _ (.init 2) rfl)

/-- In every run from the empty table in which no request draws a handle that is live at that
moment, the occupied slots hold pairwise distinct non-zero handles, and `FindOperation` of an
occupied slot's handle returns that slot, so every request on the handle reaches it. -/
theorem freshReachable_handles_unique {table : List (OpTableEntry Op)}
    (hr : ctx.FreshReachable table) :
    (∀ e ∈ table, e.operation.isSome → e.handle ≠ 0) ∧ HandlesDistinct table ∧
      ∀ i (hi : i < table.length), table[i].operation.isSome →
        findOperation table table[i].handle = some i := by
  obtain ⟨hw, hd⟩ := hr.invariant
  exact ⟨fun _ he hop => hw.handle_ne_zero he hop, hd,
    fun _ hi hop => findOperation_of_occupied hw hd hi hop⟩

/-- The table after the software keymaster begins an HMAC operation with a fresh draw. -/
theorem freshReachable_handles_unique_begin :
    (∀ e ∈ [⟨7, some ⟨.sign, List.replicate 16 0, .sha256, 0, .ok, []⟩⟩,
        (.empty : OpTableEntry HmacOperation)], e.operation.isSome → e.handle ≠ 0) ∧
      HandlesDistinct [⟨7, some ⟨.sign, List.replicate 16 0, .sha256, 0, .ok, []⟩⟩,
        (.empty : OpTableEntry HmacOperation)] ∧
      ∀ i (hi : i < 2), ([⟨7, some ⟨.sign, List.replicate 16 0, .sha256, 0, .ok, []⟩⟩,
          (.empty : OpTableEntry HmacOperation)].get ⟨i, hi⟩).operation.isSome →
        findOperation [⟨7, some ⟨.sign, List.replicate 16 0, .sha256, 0, .ok, []⟩⟩,
          (.empty : OpTableEntry HmacOperation)]
          ([⟨7, some ⟨.sign, List.replicate 16 0, .sha256, 0, .ok, []⟩⟩,
            (.empty : OpTableEntry HmacOperation)].get ⟨i, hi⟩).handle = some i :=
  freshReachable_handles_unique (@FreshReachable.step _ _ (softKeymaster 64 zeroMac symbolicAead)
    _ _ ⟨0, [], some 7, []⟩ (.beginOperation .sign sampleHmacBlob .empty) _ (.init 2)
    (fun handle _ => not_isLive_replicate 2 handle) rfl)

/-- Two `BeginOperation`s that draw the same handle both succeed and leave two slots holding it;
`FindOperation` of the handle then returns the first slot, not the one the second
`BeginOperation` filled. -/
theorem beginOperation_reuses_live_handle :
    (softKeymaster 64 zeroMac symbolicAead).step ⟨0, [], some 7, []⟩ [.empty, .empty]
        (.beginOperation .sign sampleHmacBlob .empty) =
      some (.beginOperation .ok 7 .empty,
        [⟨7, some ⟨.sign, List.replicate 16 0, .sha256, 0, .ok, []⟩⟩, .empty]) ∧
    (softKeymaster 64 zeroMac symbolicAead).step ⟨0, [], some 7, []⟩
        [⟨7, some ⟨.sign, List.replicate 16 0, .sha256, 0, .ok, []⟩⟩, .empty]
        (.beginOperation .sign sampleHmacBlob .empty) =
      some (.beginOperation .ok 7 .empty,
        [⟨7, some ⟨.sign, List.replicate 16 0, .sha256, 0, .ok, []⟩⟩,
          ⟨7, some ⟨.sign, List.replicate 16 0, .sha256, 0, .ok, []⟩⟩]) ∧
    ¬HandlesDistinct [(⟨7, some ⟨.sign, List.replicate 16 0, .sha256, 0, .ok, []⟩⟩ :
        OpTableEntry HmacOperation), ⟨7, some ⟨.sign, List.replicate 16 0, .sha256, 0, .ok, []⟩⟩] ∧
    findOperation [(⟨7, some ⟨.sign, List.replicate 16 0, .sha256, 0, .ok, []⟩⟩ :
        OpTableEntry HmacOperation), ⟨7, some ⟨.sign, List.replicate 16 0, .sha256, 0, .ok, []⟩⟩]
        7 = some 0 :=
  ⟨rfl, rfl, fun hd => absurd (hd 0 1 (by decide) (by decide) rfl rfl rfl) (by decide), rfl⟩

/-- A run from a reachable table has a result, and its final table is reachable. -/
theorem Reachable.run_eq_some {table : List (OpTableEntry Op)} (hr : ctx.Reachable table)
    (requests : List (Env × Request Ct)) :
    ∃ resps final, ctx.run table requests = some (resps, final) ∧ ctx.Reachable final := by
  induction requests generalizing table with
  | nil => exact ⟨[], table, rfl, hr⟩
  | cons request requests ih =>
      obtain ⟨env, req⟩ := request
      obtain ⟨⟨resp, table'⟩, hstep⟩ :=
        Option.isSome_iff_exists.mp (ctx.step_isSome hr.slotsWellFormed env req)
      obtain ⟨resps, final, hrun, hfinal⟩ := ih (hr.step hstep)
      exact ⟨resp :: resps, final, by simp [run, hstep, hrun], hfinal⟩

/-- Every run from the all-empty table, of any capacity and with any requests, environments and
operation behaviour, has a result for every request, and ends in a table whose slots are well
formed. -/
theorem run_from_empty_table (size : Nat) (requests : List (Env × Request Ct)) :
    ∃ resps final, ctx.run (List.replicate size .empty) requests = some (resps, final) ∧
      resps.length = requests.length ∧ SlotsWellFormed final := by
  obtain ⟨resps, final, hrun, hfinal⟩ := (@Reachable.init _ _ ctx size).run_eq_some requests
  exact ⟨resps, final, hrun, run_length hrun, hfinal.slotsWellFormed⟩

/-! ## Input consumption -/

/-- An `UpdateOperation` answer either refuses the handle with `INVALID_OPERATION_HANDLE`,
consuming nothing, or answers `OK` with its whole input consumed; every other request meets this
trivially. -/
def ConsumesInput : Request Ct → Response Ct → Prop
  | .updateOperation _ _ input, .updateOperation error _ inputConsumed =>
      error = .invalidOperationHandle ∧ inputConsumed = 0 ∨
        error = .ok ∧ inputConsumed = input.length
  | _, _ => True

/-- For an implementation whose operations' `Update` answers `OK` with the whole input consumed,
each request consumes its whole input or, for a handle no slot holds, nothing. -/
theorem step_consumesInput
    (hops : ∀ operation additionalParams input,
      (ctx.operations.update operation additionalParams input).1 = .ok ∧
        (ctx.operations.update operation additionalParams input).2.2.1 = input.length)
    {env : Env} {table table' : List (OpTableEntry Op)} {req : Request Ct} {resp : Response Ct}
    (h : ctx.step env table req = some (resp, table')) : ConsumesInput req resp := by
  cases req
  case updateOperation opHandle additionalParams input =>
    rcases ctx.updateOperation_cases h with ⟨-, rfl, -⟩ |
      ⟨-, operation, error, output, inputConsumed, operation', -, -, hu, rfl, -⟩
    · exact .inl ⟨rfl, rfl⟩
    · have ⟨herror, hconsumed⟩ := hops operation additionalParams input
      rw [hu] at herror hconsumed
      exact .inr ⟨herror, hconsumed⟩
  all_goals trivial

/-- The one-request fact, over every run that has a result. -/
theorem run_consumesInput
    (hops : ∀ operation additionalParams input,
      (ctx.operations.update operation additionalParams input).1 = .ok ∧
        (ctx.operations.update operation additionalParams input).2.2.1 = input.length)
    {table final : List (OpTableEntry Op)} {requests : List (Env × Request Ct)}
    {resps : List (Response Ct)} (h : ctx.run table requests = some (resps, final)) :
    ∀ x ∈ requests.zip resps, ConsumesInput x.1.2 x.2 := by
  induction requests generalizing table resps with
  | nil =>
      cases h
      simp
  | cons request requests ih =>
      obtain ⟨env, req⟩ := request
      simp only [run, Option.bind_eq_bind, Option.bind_eq_some] at h
      obtain ⟨⟨resp, table'⟩, hstep, ⟨resps', final'⟩, hrun, h⟩ := h
      cases h
      rintro x (_ | ⟨_, hx⟩)
      · exact step_consumesInput hops hstep
      · exact ih hrun x hx

end KeymasterContext

/-- Every run of the software keymaster, with any `size_t` width, HMAC backend and AEAD, from
any table reachable from its all-empty table, with any requests and environments, has a result
for every request, and every `UpdateOperation` answer in it either refuses the handle with
`INVALID_OPERATION_HANDLE`, consuming nothing, or answers `OK` with its whole input consumed:
`HmacOperation::Update` absorbs all of its input. -/
theorem softKeymaster_run_consumesInput {Ct : Type} (w : Nat)
    (hmac : Digest → List UInt8 → List UInt8 → List UInt8) (aead : Aead Ct)
    {table : List (OpTableEntry HmacOperation)} (hr : (softKeymaster w hmac aead).Reachable table)
    (requests : List (Env × Request Ct)) :
    ∃ resps final, (softKeymaster w hmac aead).run table requests = some (resps, final) ∧
      resps.length = requests.length ∧
      ∀ x ∈ requests.zip resps, KeymasterContext.ConsumesInput x.1.2 x.2 := by
  obtain ⟨resps, final, hrun, -⟩ := hr.run_eq_some requests
  exact ⟨resps, final, hrun, KeymasterContext.run_length hrun,
    KeymasterContext.run_consumesInput (fun _ _ _ => ⟨rfl, rfl⟩) hrun⟩

/-- A `Begin` and an `Update` of three bytes on the sample blob, from an empty slot: the update
answers `OK` with the three bytes consumed. -/
theorem softKeymaster_run_consumesInput_sample :
    ∃ resps final, (softKeymaster 64 zeroMac symbolicAead).run [.empty]
        [(⟨0, [], some 7, []⟩, .beginOperation .sign sampleHmacBlob .empty),
          (⟨0, [], none, []⟩, .updateOperation 7 .empty [1, 2, 3])] = some (resps, final) ∧
      resps.length = 2 ∧
      ∀ x ∈ [((⟨0, [], some 7, []⟩ : Env), (.beginOperation .sign sampleHmacBlob .empty :
          Request SealedBox)), (⟨0, [], none, []⟩, .updateOperation 7 .empty [1, 2, 3])].zip resps,
        KeymasterContext.ConsumesInput x.1.2 x.2 :=
  softKeymaster_run_consumesInput 64 zeroMac symbolicAead (.init 1) _

end Keymaster
