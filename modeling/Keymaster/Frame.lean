/-
# What a request does to the operation table

The contract of the operation table, request by request: a failed `BeginOperation` keeps every
slot and reports `TOO_MANY_OPERATIONS` only when no slot is empty, a successful one fills the
first empty slot with the non-zero handle it returns; `UpdateOperation`, `FinishOperation` and
`AbortOperation` keep the table for a handle no slot holds and otherwise touch only the first
slot holding it; every other request keeps the table. Since a changed table is always
`table.set i entry` for that one slot, every other slot keeps its handle and its operation's
state.
-/

import Keymaster.SoftKeymaster

set_option autoImplicit false

namespace Keymaster

variable {Op Ct : Type}

/-- Slot `i` is the first slot holding no operation, the slot `AddOperation` fills. -/
def IsFirstEmptySlot (table : List (OpTableEntry Op)) (i : Nat) : Prop :=
  ∃ hi : i < table.length, table[i].operation = none ∧
    ∀ j (hj : j < i), table[j].operation ≠ none

/-- Slot `i` is the first slot holding the handle `opHandle`, which is not zero: the slot
`FindOperation` returns. -/
def IsFirstSlotWithHandle (table : List (OpTableEntry Op)) (opHandle : UInt64) (i : Nat) : Prop :=
  opHandle ≠ 0 ∧ ∃ hi : i < table.length, table[i].handle = opHandle ∧
    ∀ j (hj : j < i), table[j].handle ≠ opHandle

/-- No slot holds the handle `opHandle`, or it is zero: `FindOperation` returns `NULL`. -/
def NoSlotWithHandle (table : List (OpTableEntry Op)) (opHandle : UInt64) : Prop :=
  opHandle = 0 ∨ ∀ e ∈ table, e.handle ≠ opHandle

/-- How a request may change the table, as the contract states it: `Begin` fills the first
empty slot or keeps the table, and `Update`, `Finish` and `Abort` keep the table for a handle no
slot holds and otherwise replace the first slot holding it, by the empty entry when they
release it. -/
def TableEffect : Request Ct → Response Ct → List (OpTableEntry Op) → List (OpTableEntry Op) →
    Prop
  | .beginOperation .., resp, table, table' =>
      (resp.error ≠ .ok ∧ table' = table ∧
          (resp.error = .tooManyOperations → ∀ e ∈ table, e.operation ≠ none)) ∨
        ∃ i opHandle operation outputParams, IsFirstEmptySlot table i ∧ opHandle ≠ 0 ∧
          resp = .beginOperation .ok opHandle outputParams ∧
          table' = table.set i ⟨opHandle, some operation⟩
  | .updateOperation opHandle .., resp, table, table' =>
      (NoSlotWithHandle table opHandle ∧ resp.error = .invalidOperationHandle ∧
          table' = table) ∨
        ∃ i, IsFirstSlotWithHandle table opHandle i ∧
          (resp.error ≠ .ok ∧ table' = table.set i .empty ∨
            resp.error = .ok ∧ ∃ operation, table' = table.set i ⟨opHandle, some operation⟩)
  | .finishOperation opHandle .., resp, table, table' =>
      (NoSlotWithHandle table opHandle ∧ resp.error = .invalidOperationHandle ∧
          table' = table) ∨
        ∃ i, IsFirstSlotWithHandle table opHandle i ∧ table' = table.set i .empty
  | .abortOperation opHandle, resp, table, table' =>
      (NoSlotWithHandle table opHandle ∧ resp.error = .invalidOperationHandle ∧
          table' = table) ∨
        ∃ i, IsFirstSlotWithHandle table opHandle i ∧ table' = table.set i .empty
  | _, _, table, table' => table' = table

/-- The slot `firstEmptySlot` names is the first empty one. -/
theorem isFirstEmptySlot_of_firstEmptySlot {table : List (OpTableEntry Op)} {i : Nat}
    (h : firstEmptySlot table = some i) : IsFirstEmptySlot table i := by
  obtain ⟨hi, hnone, hbefore⟩ := List.findIdx?_eq_some_iff_getElem.mp h
  exact ⟨hi, Option.isNone_iff_eq_none.mp hnone, fun j hj hsome =>
    by simpa [hsome] using hbefore j hj⟩

/-- When `firstEmptySlot` finds nothing, every slot holds an operation. -/
theorem forall_operation_ne_none_of_firstEmptySlot {table : List (OpTableEntry Op)}
    (h : firstEmptySlot table = none) : ∀ e ∈ table, e.operation ≠ none := by
  intro e he hnone
  simpa [hnone] using List.findIdx?_eq_none_iff.mp h e he

/-- The slot `findOperation` names is the first holding the handle. -/
theorem isFirstSlotWithHandle_of_findOperation {table : List (OpTableEntry Op)}
    {opHandle : UInt64} {i : Nat} (h : findOperation table opHandle = some i) :
    IsFirstSlotWithHandle table opHandle i :=
  findOperation_eq_some.mp h

namespace KeymasterContext

variable {ctx : KeymasterContext Op Ct}

/-- Under the convention, `BeginOperation` meets its contract. -/
theorem Conventional.beginOperation_tableEffect (hc : ctx.Conventional) (env : Env)
    (table : List (OpTableEntry Op)) (purpose : Purpose) (keyBlob : KeyBlob Ct)
    (additionalParams : AuthorizationSet) :
    TableEffect (.beginOperation purpose keyBlob additionalParams)
      (ctx.beginOperation env table purpose keyBlob additionalParams).1 table
      (ctx.beginOperation env table purpose keyBlob additionalParams).2 := by
  rcases ctx.beginOperation_cases env table purpose keyBlob additionalParams with
    ⟨error, _, hs, hb⟩ | ⟨_, _, error, -, ha, hb⟩ |
      ⟨outputParams, operation, opHandle, i, -, hi, h0, -, hb⟩ <;> rw [hb]
  · have ⟨hne, hmany⟩ := hc.startOperation_error_ne hs
    exact .inl ⟨hne, rfl, fun h => absurd h hmany⟩
  · exact .inl ⟨(addOperation_error ha).1, rfl,
      fun h => forall_operation_ne_none_of_firstEmptySlot ((addOperation_error ha).2 h)⟩
  · exact .inr ⟨i, opHandle, operation, outputParams, isFirstEmptySlot_of_firstEmptySlot hi, h0,
      rfl, rfl⟩

end KeymasterContext

/-- Every request meets the table contract, from every table state, for every implementation
whose components follow the source's convention for failures. -/
theorem step_tableEffect {ctx : KeymasterContext Op Ct} (hc : ctx.Conventional) {env : Env}
    {table : List (OpTableEntry Op)} {req : Request Ct} {resp : Response Ct}
    {table' : List (OpTableEntry Op)} (h : ctx.step env table req = some (resp, table')) :
    TableEffect req resp table table' := by
  cases req
  case beginOperation purpose keyBlob additionalParams =>
    simp only [KeymasterContext.step, Option.some.injEq] at h
    have := hc.beginOperation_tableEffect env table purpose keyBlob additionalParams
    rwa [h] at this
  case updateOperation opHandle additionalParams input =>
    rcases ctx.updateOperation_cases h with ⟨hf, rfl, rfl⟩ | ⟨i, _, error, _, _, _, hf, -, -,
      rfl, rfl⟩
    · exact .inl ⟨findOperation_eq_none.mp hf, rfl, rfl⟩
    · refine .inr ⟨i, isFirstSlotWithHandle_of_findOperation hf, ?_⟩
      by_cases he : error = .ok
      · exact .inr ⟨he, _, if_neg (not_not.mpr he)⟩
      · exact .inl ⟨he, if_pos he⟩
  case finishOperation opHandle additionalParams signature =>
    rcases ctx.finishOperation_cases h with ⟨hf, rfl, rfl⟩ | ⟨i, _, hf, -, -, rfl⟩
    · exact .inl ⟨findOperation_eq_none.mp hf, rfl, rfl⟩
    · exact .inr ⟨i, isFirstSlotWithHandle_of_findOperation hf, rfl⟩
  case abortOperation opHandle =>
    rcases ctx.abortOperation_cases h with ⟨hf, rfl, rfl⟩ | ⟨i, _, hf, -, -, rfl⟩
    · exact .inl ⟨findOperation_eq_none.mp hf, rfl, rfl⟩
    · exact .inr ⟨i, isFirstSlotWithHandle_of_findOperation hf, rfl⟩
  all_goals
    simp only [KeymasterContext.step, Option.some.injEq, Prod.mk.injEq] at h
    exact h.2.symm

/-- The software keymaster begins an HMAC operation in the first of two empty slots. -/
theorem step_tableEffect_begin :
    TableEffect
      (.beginOperation .sign sampleHmacBlob .empty)
      (.beginOperation .ok 7 .empty)
      [(.empty : OpTableEntry HmacOperation), .empty]
      [⟨7, some ⟨.sign, List.replicate 16 0, .sha256, 0, .ok, []⟩⟩, .empty] :=
  @step_tableEffect _ _ (softKeymaster 64 zeroMac symbolicAead)
    (softKeymaster_conventional 64 zeroMac symbolicAead) ⟨0, [], some 7, []⟩ _ _ _ _ rfl

end Keymaster
