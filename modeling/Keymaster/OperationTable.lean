/-
# The operation table

`GoogleKeymaster` keeps its running operations in a fixed array of `OpTableEntry` slots, each a
64-bit handle with a pointer to an operation. `AddOperation` draws a random handle, rejects
zero and fills the first slot without an operation; `FindOperation` scans for the first slot
holding a non-zero handle; `DeleteOperation` clears a slot. Operations are opaque here: an
`OperationClass` says what `Begin`, `Update`, `Finish` and `Abort` return, so that every result
below holds whatever the operations do.

Two slot invariants are kept: a slot has handle zero exactly when it has no operation, and the
occupied slots hold pairwise distinct handles. The first holds after every table change; the
second holds after a store only when the drawn handle is not already live.
-/

import Keymaster.Defs

set_option autoImplicit false

namespace Keymaster

/-- The virtual interface of `Operation`, as pure functions of the operation's state: `Begin`
and `Update` return the operation's new state with their results. -/
structure OperationClass (Op : Type) where
  begin : Op → AuthorizationSet → KeymasterError × AuthorizationSet × Op
  update : Op → AuthorizationSet → List UInt8 → KeymasterError × List UInt8 × Nat × Op
  finish : Op → AuthorizationSet → List UInt8 → KeymasterError × List UInt8
  abort : Op → KeymasterError

/-- `OpTableEntry`: a handle and the operation it names, `none` for `NULL`. -/
structure OpTableEntry (Op : Type) where
  handle : UInt64
  operation : Option Op
  deriving DecidableEq, Repr

namespace OpTableEntry

variable {Op : Type}

/-- A cleared slot, as the table's constructor and `DeleteOperation` leave it. -/
def empty : OpTableEntry Op := ⟨0, none⟩

/-- A slot has handle zero exactly when it holds no operation. -/
def WellFormed (e : OpTableEntry Op) : Prop := e.handle = 0 ↔ e.operation = none

theorem wellFormed_empty : (empty : OpTableEntry Op).WellFormed := by simp [WellFormed, empty]

theorem wellFormed_occupied {h : UInt64} {op : Op} (hne : h ≠ 0) :
    (⟨h, some op⟩ : OpTableEntry Op).WellFormed := by simp [WellFormed, hne]

end OpTableEntry

section Table

variable {Op : Type}

/-- The loop of `AddOperation`: store the operation with its handle in the first slot without
an operation, or `none` when every slot is taken. -/
def storeOperation (op : Op) (handle : UInt64) :
    List (OpTableEntry Op) → Option (List (OpTableEntry Op))
  | [] => none
  | e :: es =>
      if e.operation.isNone then some (⟨handle, some op⟩ :: es)
      else (storeOperation op handle es).map (e :: ·)

/-- `AddOperation(operation, &op_handle)`, where `rand` is what `RAND_bytes` drew, `none` when
it failed. On success the new handle and table. -/
def addOperation (table : List (OpTableEntry Op)) (op : Op) (rand : Option UInt64) :
    Except KeymasterError (UInt64 × List (OpTableEntry Op)) :=
  match rand with
  | none => .error .unknownError
  | some handle =>
      if handle = 0 then .error .unknownError
      else match storeOperation op handle table with
        | some table' => .ok (handle, table')
        | none => .error .tooManyOperations

/-- `FindOperation(op_handle)`: the index of the first slot holding a non-zero handle. -/
def findOperation (table : List (OpTableEntry Op)) (handle : UInt64) : Option Nat :=
  if handle = 0 then none else table.findIdx? (·.handle == handle)

/-- `DeleteOperation(entry)`: free the operation and clear the slot. -/
def deleteOperation (table : List (OpTableEntry Op)) (i : Nat) : List (OpTableEntry Op) :=
  table.set i .empty

/-- The index of the first slot without an operation. -/
def firstEmptySlot (table : List (OpTableEntry Op)) : Option Nat :=
  table.findIdx? (·.operation.isNone)

/-- The store fills the first empty slot and nothing else. -/
theorem storeOperation_eq (op : Op) (handle : UInt64) (table : List (OpTableEntry Op)) :
    storeOperation op handle table =
      (firstEmptySlot table).map fun i => table.set i ⟨handle, some op⟩ := by
  induction table with
  | nil => rfl
  | cons e es ih =>
      rw [storeOperation, firstEmptySlot, List.findIdx?_cons]
      split_ifs with he
      · rfl
      · rw [ih, firstEmptySlot, List.findIdx?_succ, Option.map_map, Option.map_map]
        rfl

/-- A failed `AddOperation` reports an error other than `OK`, and `TOO_MANY_OPERATIONS` only for
a table without an empty slot. -/
theorem addOperation_error {table : List (OpTableEntry Op)} {op : Op} {rand : Option UInt64}
    {e : KeymasterError} (h : addOperation table op rand = .error e) :
    e ≠ .ok ∧ (e = .tooManyOperations → firstEmptySlot table = none) := by
  unfold addOperation at h
  rcases rand with _ | handle
  · cases h; exact ⟨nofun, nofun⟩
  · dsimp only at h
    split_ifs at h
    · cases h; exact ⟨nofun, nofun⟩
    · rw [storeOperation_eq] at h
      cases hi : firstEmptySlot table <;> simp only [hi, Option.map] at h <;> cases h
      exact ⟨nofun, fun _ => rfl⟩

/-- A successful `AddOperation` stores the operation under the non-zero draw in the first empty
slot. -/
theorem addOperation_ok {table table' : List (OpTableEntry Op)} {op : Op} {rand : Option UInt64}
    {handle : UInt64} (h : addOperation table op rand = .ok (handle, table')) :
    handle ≠ 0 ∧ rand = some handle ∧
      ∃ i, firstEmptySlot table = some i ∧ table' = table.set i ⟨handle, some op⟩ := by
  unfold addOperation at h
  rcases rand with _ | drawn
  · cases h
  · by_cases h0 : drawn = 0
    · simp [h0] at h
    · simp only [h0, if_false, storeOperation_eq] at h
      cases hi : firstEmptySlot table <;> simp only [hi, Option.map] at h <;> cases h
      exact ⟨h0, rfl, _, rfl, rfl⟩

/-- With a non-zero draw and an empty slot, `AddOperation` stores the operation in the first
empty slot. -/
theorem addOperation_some {table : List (OpTableEntry Op)} {op : Op} {handle : UInt64}
    (h0 : handle ≠ 0) {i : Nat} (hi : firstEmptySlot table = some i) :
    addOperation table op (some handle) = .ok (handle, table.set i ⟨handle, some op⟩) := by
  simp [addOperation, h0, storeOperation_eq, hi]

/-- A slot `FindOperation` returns is in the table, holds the handle, and no earlier slot does. -/
theorem findOperation_eq_some {table : List (OpTableEntry Op)} {handle : UInt64} {i : Nat} :
    findOperation table handle = some i ↔ handle ≠ 0 ∧ ∃ hi : i < table.length,
      table[i].handle = handle ∧ ∀ j (hj : j < i), table[j].handle ≠ handle := by
  unfold findOperation
  split_ifs with h0
  · simp [h0]
  · simp [h0, List.findIdx?_eq_some_iff_getElem]

theorem findOperation_eq_none {table : List (OpTableEntry Op)} {handle : UInt64} :
    findOperation table handle = none ↔ handle = 0 ∨ ∀ e ∈ table, e.handle ≠ handle := by
  unfold findOperation
  split_ifs with h0
  · simp [h0]
  · simp [h0]

/-- The slot `firstEmptySlot` names is in the table and holds no operation. -/
theorem firstEmptySlot_eq_some {table : List (OpTableEntry Op)} {i : Nat}
    (h : firstEmptySlot table = some i) : ∃ hi : i < table.length, table[i].operation = none := by
  obtain ⟨hi, hnone, -⟩ := List.findIdx?_eq_some_iff_getElem.mp h
  exact ⟨hi, Option.isNone_iff_eq_none.mp hnone⟩

/-! ## Slot invariants -/

/-- Every slot has handle zero exactly when it holds no operation. -/
def SlotsWellFormed (table : List (OpTableEntry Op)) : Prop := ∀ e ∈ table, e.WellFormed

/-- The occupied slots hold pairwise distinct handles. -/
def HandlesDistinct (table : List (OpTableEntry Op)) : Prop :=
  ∀ i j (hi : i < table.length) (hj : j < table.length), table[i].operation.isSome →
    table[j].operation.isSome → table[i].handle = table[j].handle → i = j

/-- Some occupied slot holds the handle. -/
def IsLive (table : List (OpTableEntry Op)) (handle : UInt64) : Prop :=
  ∃ e ∈ table, e.operation.isSome ∧ e.handle = handle

instance (table : List (OpTableEntry Op)) (handle : UInt64) : Decidable (IsLive table handle) :=
  inferInstanceAs (Decidable (∃ e ∈ table, e.operation.isSome ∧ e.handle = handle))

theorem slotsWellFormed_replicate (size : Nat) :
    SlotsWellFormed (List.replicate size (OpTableEntry.empty : OpTableEntry Op)) := by
  intro e he
  rw [(List.mem_replicate.mp he).2]
  exact OpTableEntry.wellFormed_empty

theorem handlesDistinct_replicate (size : Nat) :
    HandlesDistinct (List.replicate size (OpTableEntry.empty : OpTableEntry Op)) := by
  intro i j hi hj h
  simp [OpTableEntry.empty] at h

theorem not_isLive_replicate (size : Nat) (handle : UInt64) :
    ¬IsLive (List.replicate size (OpTableEntry.empty : OpTableEntry Op)) handle := by
  rintro ⟨e, he, hop, -⟩
  rw [(List.mem_replicate.mp he).2] at hop
  cases hop

/-- Writing a well-formed entry keeps every slot well formed. -/
theorem SlotsWellFormed.set {table : List (OpTableEntry Op)} (ht : SlotsWellFormed table)
    (i : Nat) {e : OpTableEntry Op} (he : e.WellFormed) : SlotsWellFormed (table.set i e) := by
  intro e' h'
  rcases List.mem_or_eq_of_mem_set h' with h' | rfl
  · exact ht e' h'
  · exact he

/-- Writing an entry keeps the handles distinct when, if it is occupied, no other occupied slot
holds its handle. -/
theorem HandlesDistinct.set {table : List (OpTableEntry Op)} (ht : HandlesDistinct table)
    {i : Nat} {e : OpTableEntry Op}
    (he : e.operation.isSome → ∀ j (hj : j < table.length), j ≠ i →
      table[j].operation.isSome → table[j].handle ≠ e.handle) :
    HandlesDistinct (table.set i e) := by
  intro a b ha hb hoa hob hab
  simp only [List.length_set] at ha hb
  simp only [List.getElem_set] at hoa hob hab
  split_ifs at hoa hob hab with hai hbi hbi
  · exact hai.symm.trans hbi
  · exact absurd hab.symm (he hoa b hb (Ne.symm hbi) hob)
  · exact absurd hab (he hob a ha (Ne.symm hai) hoa)
  · exact ht a b ha hb hoa hob hab

/-- In a well-formed table an occupied slot holds a non-zero handle. -/
theorem SlotsWellFormed.handle_ne_zero {table : List (OpTableEntry Op)}
    (ht : SlotsWellFormed table) {e : OpTableEntry Op} (he : e ∈ table)
    (hop : e.operation.isSome) : e.handle ≠ 0 := fun h0 => by
  simp [(ht e he).mp h0] at hop

/-- In a well-formed table the slot `FindOperation` returns holds an operation. -/
theorem SlotsWellFormed.operation_of_findOperation {table : List (OpTableEntry Op)}
    (ht : SlotsWellFormed table) {handle : UInt64} {i : Nat}
    (hf : findOperation table handle = some i) :
    ∃ hi : i < table.length, table[i].operation.isSome := by
  obtain ⟨h0, hi, hh, -⟩ := findOperation_eq_some.mp hf
  refine ⟨hi, Option.ne_none_iff_isSome.mp fun hn => h0 ?_⟩
  rw [← hh]
  exact (ht _ (List.getElem_mem hi)).mpr hn

/-- With well-formed slots and distinct handles, `FindOperation` of an occupied slot's handle
returns that slot. -/
theorem findOperation_of_occupied {table : List (OpTableEntry Op)} (hw : SlotsWellFormed table)
    (hd : HandlesDistinct table) {i : Nat} (hi : i < table.length)
    (hop : table[i].operation.isSome) : findOperation table table[i].handle = some i := by
  refine findOperation_eq_some.mpr ⟨hw.handle_ne_zero (List.getElem_mem hi) hop, hi, rfl, ?_⟩
  intro j hj hh
  by_cases hoj : table[j].operation.isSome
  · exact absurd (hd j i _ hi hoj hop hh) (Nat.ne_of_lt hj)
  · have h0 : table[j].handle = 0 :=
      (hw _ (List.getElem_mem _)).mpr (Option.not_isSome_iff_eq_none.mp hoj)
    exact hw.handle_ne_zero (List.getElem_mem hi) hop (hh ▸ h0)

end Table

end Keymaster
