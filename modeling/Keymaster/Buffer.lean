/-
# Buffer

`Buffer` is the growable byte container of `google_keymaster_utils.cpp`: an allocation
`buffer_` of `buffer_size_` bytes with a read and a write cursor. Its sizes are `size_t`, so
every sum and difference the source computes is taken modulo `2 ^ w` for the platform's word
width `w`. Allocation is total in the model: `new` never returns `NULL`, and fresh memory reads
as zero bytes.

The readable bytes `buffer_[read_position_, write_position_)` refine a FIFO byte queue with a
write budget. Every call whose size arguments fit a `size_t` is one step of the queue
specification `Fifo.Step`, valid buffers stay valid, and a refused call leaves the buffer as it
was, along every run.

`memcmp_s`, the file's comparison that reads every byte whatever it finds, answers 0 exactly when
the two prefixes agree.
-/

import Mathlib.Data.List.Basic
import Mathlib.Order.Basic
import Mathlib.Algebra.Group.Nat.Basic
import Mathlib.Data.Nat.Bitwise

set_option autoImplicit false

namespace Keymaster

/-! ## `size_t` arithmetic -/

/-- A `size_t` sum on a platform of word width `w`. -/
def sizeAdd (w a b : Nat) : Nat := (a + b) % 2 ^ w

/-- A `size_t` difference on a platform of word width `w`, for operands below `2 ^ w`. -/
def sizeSub (w a b : Nat) : Nat := (a + (2 ^ w - b)) % 2 ^ w

/-- A `size_t` sum that fits is the plain sum. -/
theorem sizeAdd_of_lt {w a b : Nat} (h : a + b < 2 ^ w) : sizeAdd w a b = a + b :=
  Nat.mod_eq_of_lt h

/-- A `size_t` difference of ordered operands is the plain difference. -/
theorem sizeSub_of_le {w a b : Nat} (hb : b ≤ a) (ha : a < 2 ^ w) : sizeSub w a b = a - b := by
  rw [sizeSub, show a + (2 ^ w - b) = a - b + 2 ^ w by omega, Nat.add_mod_right,
    Nat.mod_eq_of_lt (by omega)]

/-- A sum that wraps and a difference that unwraps it again: the `size_t` value of
`a + b - c` is exact whenever the true value fits. -/
theorem sizeSub_sizeAdd {w a b c : Nat} (hc : c ≤ a) (ha : a < 2 ^ w)
    (h : a - c + b < 2 ^ w) : sizeSub w (sizeAdd w a b) c = a - c + b := by
  rw [sizeSub, sizeAdd, Nat.mod_add_mod,
    show a + b + (2 ^ w - c) = a - c + b + 2 ^ w by omega, Nat.add_mod_right,
    Nat.mod_eq_of_lt h]

/-- A `size_t` sum of two `size_t` values is the true sum, or the true sum less `2 ^ w` when it
wraps. -/
theorem sizeAdd_cases {w a b : Nat} (ha : a < 2 ^ w) (hb : b < 2 ^ w) :
    a + b < 2 ^ w ∧ sizeAdd w a b = a + b ∨ 2 ^ w ≤ a + b ∧ sizeAdd w a b = a + b - 2 ^ w := by
  rcases Nat.lt_or_ge (a + b) (2 ^ w) with h | h
  · exact .inl ⟨h, sizeAdd_of_lt h⟩
  · exact .inr ⟨h, by rw [sizeAdd, Nat.mod_eq_sub_mod h, Nat.mod_eq_of_lt (by omega)]⟩

/-- A `size_t` difference of two `size_t` values is the true difference, or the difference plus
`2 ^ w` when it underflows. -/
theorem sizeSub_cases {w a b : Nat} (ha : a < 2 ^ w) (hb : b < 2 ^ w) :
    b ≤ a ∧ sizeSub w a b = a - b ∨ a < b ∧ sizeSub w a b = a + 2 ^ w - b := by
  rcases Nat.lt_or_ge a b with h | h
  · exact .inr ⟨h, by rw [sizeSub, Nat.mod_eq_of_lt (by omega)]; omega⟩
  · exact .inl ⟨h, sizeSub_of_le h ha⟩

/-! ## The container -/

/-- `Buffer`: the allocation `buffer_` and the fields `buffer_size_`, `read_position_` and
`write_position_`. -/
structure Buffer where
  buffer : List UInt8
  bufferSize : Nat
  readPosition : Nat
  writePosition : Nat
  deriving DecidableEq, Repr

namespace Buffer

/-- A default-constructed buffer: no allocation and both cursors at zero. -/
def empty : Buffer := ⟨[], 0, 0, 0⟩

variable (w : Nat)

/-- `available_write()`. -/
def availableWrite (b : Buffer) : Nat := sizeSub w b.bufferSize b.writePosition

/-- `available_read()`. -/
def availableRead (b : Buffer) : Nat := sizeSub w b.writePosition b.readPosition

/-- `peek_read()`: the memory from the read cursor on. -/
def peekRead (b : Buffer) : List UInt8 := b.buffer.drop b.readPosition

/-- The readable bytes: the first `available_read()` bytes at `peek_read()`. -/
def readable (b : Buffer) : List UInt8 := b.peekRead.take (b.availableRead w)

/-- `reserve(size)`: when the write budget is short, move the readable bytes to the start of a
new allocation of `buffer_size_ + size - available_write()` bytes and rebase the cursors. -/
def reserve (b : Buffer) (size : Nat) : Bool × Buffer :=
  if b.availableWrite w < size then
    let newSize := sizeSub w (sizeAdd w b.bufferSize size) (b.availableWrite w)
    let copied := b.readable w
    (true, { buffer := copied ++ List.replicate (newSize - copied.length) 0
             bufferSize := newSize
             readPosition := 0
             writePosition := sizeSub w b.writePosition b.readPosition })
  else (true, b)

/-- `Reinitialize(size)`: a fresh allocation of `size` bytes with nothing readable. -/
def reinitializeSize (size : Nat) : Bool × Buffer :=
  (true, ⟨List.replicate size 0, size, 0, 0⟩)

/-- `Reinitialize(data, data_len)`: a fresh allocation holding exactly `data`. -/
def reinitializeData (data : List UInt8) : Bool × Buffer :=
  (true, ⟨data, data.length, 0, data.length⟩)

/-- `write(src, write_length)`: copy `src` at the write cursor when the budget allows it. -/
def write (b : Buffer) (src : List UInt8) : Bool × Buffer :=
  if b.availableWrite w < src.length then (false, b)
  else (true, { b with
    buffer := b.buffer.take b.writePosition ++ src ++ b.buffer.drop (b.writePosition + src.length)
    writePosition := sizeAdd w b.writePosition src.length })

/-- `read(dest, read_length)`: yield `read_length` bytes from the read cursor when that many
are readable; `none` is the source's `false`. -/
def read (b : Buffer) (length : Nat) : Option (List UInt8) × Buffer :=
  if b.availableRead w < length then (none, b)
  else (some (b.peekRead.take length), { b with readPosition := sizeAdd w b.readPosition length })

/-- The representation invariant: `read_position ≤ write_position ≤ buffer_size`, a `size_t`
size, and an allocation of exactly `buffer_size_` bytes. -/
structure Valid (b : Buffer) : Prop where
  read_le_write : b.readPosition ≤ b.writePosition
  write_le_size : b.writePosition ≤ b.bufferSize
  size_lt : b.bufferSize < 2 ^ w
  length_eq : b.buffer.length = b.bufferSize

section Valid

variable {w}
variable {b : Buffer} (hb : b.Valid w)
include hb

/-- In a valid buffer `available_write` is the room after the write cursor. -/
theorem Valid.availableWrite_eq : b.availableWrite w = b.bufferSize - b.writePosition :=
  sizeSub_of_le hb.write_le_size hb.size_lt

/-- In a valid buffer `available_read` is the distance between the cursors. -/
theorem Valid.availableRead_eq : b.availableRead w = b.writePosition - b.readPosition :=
  sizeSub_of_le hb.read_le_write (by have := hb.write_le_size; have := hb.size_lt; omega)

/-- In a valid buffer the readable bytes are the written prefix past the read cursor. -/
theorem Valid.readable_eq : b.readable w = (b.buffer.take b.writePosition).drop b.readPosition := by
  rw [readable, peekRead, hb.availableRead_eq, List.drop_take]

/-- A valid buffer has `available_read` readable bytes. -/
theorem Valid.length_readable : (b.readable w).length = b.writePosition - b.readPosition := by
  have := hb.write_le_size
  have := hb.length_eq
  rw [hb.readable_eq, List.length_drop, List.length_take]
  omega

end Valid

/-! ## The queue specification -/

/-- The byte queue a buffer implements: its readable bytes and its write budget. -/
structure Fifo where
  queue : List UInt8
  room : Nat

/-- The calls of the `Buffer` interface that change it. -/
inductive Call
  | reserve (size : Nat)
  | write (src : List UInt8)
  | read (length : Nat)
  | reinitializeSize (size : Nat)
  | reinitializeData (data : List UInt8)

/-- One call against the queue, with its result: `none` for the source's `false`, otherwise the
bytes the call yields. Only `reserve` may choose the new budget, and it is at least the size
asked for. -/
inductive Fifo.Step : Fifo → Call → Option (List UInt8) → Fifo → Prop
  | reserve {q : List UInt8} {room room' size : Nat} (enough : size ≤ room')
      (keep : size ≤ room → room' = room) :
      Fifo.Step ⟨q, room⟩ (.reserve size) (some []) ⟨q, room'⟩
  | writeOk {q src : List UInt8} {room : Nat} (fits : src.length ≤ room) :
      Fifo.Step ⟨q, room⟩ (.write src) (some []) ⟨q ++ src, room - src.length⟩
  | writeFull {f : Fifo} {src : List UInt8} (full : f.room < src.length) :
      Fifo.Step f (.write src) none f
  | readOk {q : List UInt8} {room length : Nat} (enough : length ≤ q.length) :
      Fifo.Step ⟨q, room⟩ (.read length) (some (q.take length)) ⟨q.drop length, room⟩
  | readShort {f : Fifo} {length : Nat} (short : f.queue.length < length) :
      Fifo.Step f (.read length) none f
  | reinitializeSize {f : Fifo} {size : Nat} :
      Fifo.Step f (.reinitializeSize size) (some []) ⟨[], size⟩
  | reinitializeData {f : Fifo} {data : List UInt8} :
      Fifo.Step f (.reinitializeData data) (some []) ⟨data, 0⟩

/-- A `reserve` step keeps the queue and leaves at least the room asked for. -/
theorem Fifo.Step.reserve_inv {f f' : Fifo} {size : Nat} {r : Option (List UInt8)}
    (h : Fifo.Step f (.reserve size) r f') : f'.queue = f.queue ∧ size ≤ f'.room := by
  cases h with
  | reserve enough _ => exact ⟨rfl, enough⟩

/-- A `write` step either fits and appends, answering `true`, or is refused and changes
nothing. -/
theorem Fifo.Step.write_inv {f f' : Fifo} {src : List UInt8} {r : Option (List UInt8)}
    (h : Fifo.Step f (.write src) r f') :
    (src.length ≤ f.room ∧ r = some [] ∧ f'.queue = f.queue ++ src) ∨
      (f.room < src.length ∧ r = none ∧ f' = f) := by
  cases h with
  | writeOk fits => exact .inl ⟨fits, rfl, rfl⟩
  | writeFull full => exact .inr ⟨full, rfl, rfl⟩

/-- The queue a buffer stands for. -/
def fifo (b : Buffer) : Fifo := ⟨b.readable w, b.availableWrite w⟩

/-- The source's `true`/`false` as a call result yielding no bytes. -/
def okResult (ok : Bool) : Option (List UInt8) := if ok then some [] else none

/-- One call on the buffer. -/
def step (b : Buffer) : Call → Option (List UInt8) × Buffer
  | .reserve size => let r := b.reserve w size; (okResult r.1, r.2)
  | .write src => let r := b.write w src; (okResult r.1, r.2)
  | .read length => b.read w length
  | .reinitializeSize size => let r := reinitializeSize size; (okResult r.1, r.2)
  | .reinitializeData data => let r := reinitializeData data; (okResult r.1, r.2)

/-- A call whose size arguments fit a `size_t`; `reserve(k)` also needs
`write_position + k < 2 ^ w`. -/
def Fits (b : Buffer) : Call → Prop
  | .reserve size => b.writePosition + size < 2 ^ w
  | .write src => src.length < 2 ^ w
  | .read length => length < 2 ^ w
  | .reinitializeSize size => size < 2 ^ w
  | .reinitializeData data => data.length < 2 ^ w

/-- A sequence of calls each of which fits the buffer it is applied to. -/
def Admissible (b : Buffer) : List Call → Prop
  | [] => True
  | c :: cs => b.Fits w c ∧ Admissible (b.step w c).2 cs

instance decFits (b : Buffer) : (c : Call) → Decidable (b.Fits w c)
  | .reserve size => inferInstanceAs (Decidable (b.writePosition + size < 2 ^ w))
  | .write src => inferInstanceAs (Decidable (src.length < 2 ^ w))
  | .read length => inferInstanceAs (Decidable (length < 2 ^ w))
  | .reinitializeSize size => inferInstanceAs (Decidable (size < 2 ^ w))
  | .reinitializeData data => inferInstanceAs (Decidable (data.length < 2 ^ w))

instance decAdmissible : (b : Buffer) → (cs : List Call) → Decidable (b.Admissible w cs)
  | _, [] => isTrue trivial
  | b, c :: cs =>
      @instDecidableAnd _ _ (decFits w b c) (decAdmissible (b.step w c).2 cs)

/-- The results of a sequence of calls and the final buffer. -/
def run (b : Buffer) : List Call → List (Option (List UInt8)) × Buffer
  | [] => ([], b)
  | c :: cs =>
      let r := b.step w c
      let rest := run r.2 cs
      (r.1 :: rest.1, rest.2)

/-- What one call must do: keep the buffer valid, be a step of the queue, and leave the buffer
unchanged when it answers `false`. -/
def CallSpec (b : Buffer) (c : Call) (result : Option (List UInt8)) (b' : Buffer) : Prop :=
  b'.Valid w ∧ Fifo.Step (b.fifo w) c result (b'.fifo w) ∧ (result = none → b' = b)

/-- A run every step of which meets `CallSpec`. -/
inductive SpecRun : Buffer → List Call → List (Option (List UInt8)) → Buffer → Prop
  | nil (b : Buffer) : SpecRun b [] [] b
  | cons {b b' b'' : Buffer} {c : Call} {cs : List Call} {r : Option (List UInt8)}
      {rs : List (Option (List UInt8))} :
      CallSpec w b c r b' → SpecRun b' cs rs b'' → SpecRun b (c :: cs) (r :: rs) b''

/-- What `reserve(size)` owes its caller: the cursors in order within the buffer, a write budget
of at least `size`, and, when it reallocates, a new allocation that holds the `available_read()`
bytes it copies into it. -/
def ReserveKeeps (b : Buffer) (size : Nat) (b' : Buffer) : Prop :=
  b'.readPosition ≤ b'.writePosition ∧ b'.writePosition ≤ b'.bufferSize ∧
    size ≤ b'.availableWrite w ∧ (b.availableWrite w < size → b.availableRead w ≤ b'.bufferSize)

/-! ## One call -/

section Calls

variable {w : Nat} {b : Buffer}

/-- The queue of a valid buffer, read off its fields. -/
theorem Valid.fifo_eq (hb : b.Valid w) :
    b.fifo w = ⟨(b.buffer.take b.writePosition).drop b.readPosition,
      b.bufferSize - b.writePosition⟩ := by
  rw [fifo, hb.readable_eq, hb.availableWrite_eq]

/-- With total allocation `reserve` always answers `true`. -/
@[simp] theorem reserve_fst (size : Nat) : (b.reserve w size).1 = true := by
  rw [reserve]; split_ifs <;> rfl

/-- `reserve` meets its call specification when the grown size fits a `size_t`. -/
theorem reserve_spec (hb : b.Valid w) {size : Nat} (hfit : b.writePosition + size < 2 ^ w) :
    b.CallSpec w (.reserve size) (some []) (b.reserve w size).2 := by
  have ⟨hr, hw, hs, hl⟩ := hb
  have haw := hb.availableWrite_eq
  rw [reserve]
  split_ifs with hshort
  case pos =>
    have hnew : sizeSub w (sizeAdd w b.bufferSize size) (b.availableWrite w) =
        b.writePosition + size := by
      rw [haw, sizeSub_sizeAdd (by omega) hs (by omega)]
      omega
    have hlen := hb.length_readable
    dsimp only
    rw [hnew, sizeSub_of_le hr (by omega), hlen]
    have hb' : Valid w ⟨b.readable w ++ List.replicate (b.writePosition + size -
        (b.writePosition - b.readPosition)) 0, b.writePosition + size, 0,
        b.writePosition - b.readPosition⟩ :=
      ⟨Nat.zero_le _, by dsimp only; omega, hfit,
        by simp only [List.length_append, List.length_replicate, hlen]; omega⟩
    refine ⟨hb', ?_, by simp⟩
    rw [hb'.fifo_eq, hb.fifo_eq]
    dsimp only
    rw [List.take_left' hlen, List.drop_zero, ← hb.readable_eq]
    exact .reserve (by omega) (by omega)
  case neg =>
    refine ⟨hb, ?_, by simp⟩
    rw [hb.fifo_eq]
    exact .reserve (by omega) fun _ => rfl

/-- `write` meets its call specification on every valid buffer. -/
theorem write_spec (hb : b.Valid w) (src : List UInt8) :
    b.CallSpec w (.write src) (okResult (b.write w src).1) (b.write w src).2 := by
  have ⟨hr, hw, hs, hl⟩ := hb
  have haw := hb.availableWrite_eq
  rw [write]
  split_ifs with hfull
  case pos =>
    exact ⟨hb, .writeFull hfull, fun _ => rfl⟩
  case neg =>
    rw [sizeAdd_of_lt (by omega)]
    have htake : (b.buffer.take b.writePosition).length = b.writePosition := by
      simp only [List.length_take]; omega
    have hb' : Valid w { b with
        buffer := b.buffer.take b.writePosition ++ src ++
          b.buffer.drop (b.writePosition + src.length)
        writePosition := b.writePosition + src.length } :=
      ⟨by dsimp only; omega, by dsimp only; omega, hs,
        by simp only [List.length_append, List.length_drop, htake]; omega⟩
    refine ⟨hb', ?_, by simp [okResult]⟩
    rw [hb'.fifo_eq, hb.fifo_eq]
    dsimp only
    rw [List.take_left' (by simp only [List.length_append, htake]),
      List.drop_append_of_le_length (by omega),
      show b.bufferSize - (b.writePosition + src.length) =
        b.bufferSize - b.writePosition - src.length by omega]
    exact .writeOk (by omega)

/-- `read` meets its call specification on every valid buffer. -/
theorem read_spec (hb : b.Valid w) (length : Nat) :
    b.CallSpec w (.read length) (b.read w length).1 (b.read w length).2 := by
  have ⟨hr, hw, hs, hl⟩ := hb
  have har := hb.availableRead_eq
  have hlen := hb.length_readable
  rw [read]
  split_ifs with hshort
  case pos =>
    exact ⟨hb, .readShort (by simp only [fifo, hlen]; omega), fun _ => rfl⟩
  case neg =>
    rw [sizeAdd_of_lt (by omega)]
    have hb' : Valid w { b with readPosition := b.readPosition + length } :=
      ⟨by dsimp only; omega, hw, hs, hl⟩
    refine ⟨hb', ?_, by simp⟩
    have hout : b.peekRead.take length = (b.readable w).take length := by
      rw [readable, List.take_take, min_eq_left (by omega)]
    rw [hb'.fifo_eq, hout, fifo, hb.availableWrite_eq]
    dsimp only
    rw [← List.drop_drop, ← hb.readable_eq]
    exact .readOk (by omega)

/-- `Reinitialize(data, size)` meets its call specification for data that fits a `size_t`. -/
theorem reinitializeData_spec (data : List UInt8) (hd : data.length < 2 ^ w) :
    b.CallSpec w (.reinitializeData data) (some []) (reinitializeData data).2 := by
  have hb' : Valid w ⟨data, data.length, 0, data.length⟩ := ⟨Nat.zero_le _, le_rfl, hd, rfl⟩
  refine ⟨hb', ?_, by simp⟩
  rw [reinitializeData, hb'.fifo_eq]
  dsimp only
  rw [List.take_length, List.drop_zero, Nat.sub_self]
  exact .reinitializeData

/-- `Reinitialize(size)` meets its call specification for a size below `2 ^ w`. -/
theorem reinitializeSize_spec {size : Nat} (hsize : size < 2 ^ w) :
    b.CallSpec w (.reinitializeSize size) (some []) (reinitializeSize size).2 := by
  have hb' : Valid w ⟨List.replicate size 0, size, 0, 0⟩ :=
    ⟨le_rfl, Nat.zero_le _, hsize, List.length_replicate _ _⟩
  refine ⟨hb', ?_, by simp⟩
  rw [reinitializeSize, hb'.fifo_eq]
  exact .reinitializeSize

/-- Every call that fits a valid buffer meets its specification. -/
theorem step_spec (hb : b.Valid w) {c : Call} (hfit : b.Fits w c) :
    b.CallSpec w c (b.step w c).1 (b.step w c).2 := by
  cases c with
  | reserve size =>
      show b.CallSpec w _ (okResult (b.reserve w size).1) (b.reserve w size).2
      rw [reserve_fst]
      exact reserve_spec hb hfit
  | write src => exact write_spec hb src
  | read length => exact read_spec hb length
  | reinitializeSize size => exact reinitializeSize_spec hfit
  | reinitializeData data => exact reinitializeData_spec data hfit

/-- `reserve(n)` followed by a `write` of `n` bytes succeeds and appends them to the readable
bytes, as an operation producing output does. -/
theorem reserve_write (hb : b.Valid w) {src : List UInt8}
    (hfit : b.writePosition + src.length < 2 ^ w) :
    ((b.reserve w src.length).2.write w src).1 = true ∧
      ((b.reserve w src.length).2.write w src).2.readable w = b.readable w ++ src := by
  obtain ⟨hb1, hstep1, -⟩ := reserve_spec hb hfit
  obtain ⟨-, hstep2, -⟩ := write_spec hb1 src
  obtain ⟨hq1, hroom1⟩ := hstep1.reserve_inv
  rcases hstep2.write_inv with ⟨-, hok, hq2⟩ | ⟨hfull, -, -⟩
  · refine ⟨?_, hq2.trans (congrArg (· ++ src) hq1)⟩
    revert hok
    cases (Buffer.write w (b.reserve w src.length).2 src).1 <;> simp [okResult]
  · exact absurd hfull (Nat.not_lt.mpr hroom1)

/-- For every buffer whose cursors are in order and every `size_t` argument, `reserve(size)`
answers `true`, and it keeps its promises exactly when it needs no new allocation or the size of
the new one, `buffer_size + size - available_write()`, does not wrap, that is when
`write_position + size < 2 ^ w`. A wrapped size allocates `write_position + size - 2 ^ w`
bytes: fewer than it copies with the write cursor past the end, or else a budget short of
`size`. -/
theorem reserve_keeps_iff (hr : b.readPosition ≤ b.writePosition)
    (hw : b.writePosition ≤ b.bufferSize) (hs : b.bufferSize < 2 ^ w) {size : Nat}
    (hsize : size < 2 ^ w) :
    (b.reserve w size).1 = true ∧
      (ReserveKeeps w b size (b.reserve w size).2 ↔
        size ≤ b.availableWrite w ∨ b.writePosition + size < 2 ^ w) := by
  have haw : b.availableWrite w = b.bufferSize - b.writePosition := sizeSub_of_le hw hs
  have har : b.availableRead w = b.writePosition - b.readPosition := sizeSub_of_le hr (by omega)
  refine ⟨reserve_fst size, ?_⟩
  unfold ReserveKeeps reserve
  simp only [haw, har]
  split_ifs with hshort
  · have hadd := sizeAdd_cases hs hsize
    have hs1 : sizeAdd w b.bufferSize size < 2 ^ w := Nat.mod_lt _ (Nat.two_pow_pos w)
    generalize sizeAdd w b.bufferSize size = s1 at hadd hs1
    have hnew := sizeSub_cases hs1 (show b.bufferSize - b.writePosition < 2 ^ w by omega)
    have hn : sizeSub w s1 (b.bufferSize - b.writePosition) < 2 ^ w :=
      Nat.mod_lt _ (Nat.two_pow_pos w)
    generalize sizeSub w s1 (b.bufferSize - b.writePosition) = n at hnew hn
    have hbudget := sizeSub_cases hn (show b.writePosition - b.readPosition < 2 ^ w by omega)
    simp only [availableWrite, sizeSub_of_le hr (show b.writePosition < 2 ^ w by omega)]
    omega
  · dsimp only
    omega

/-- Four readable bytes in a four-byte allocation, and a request on a 32-bit platform to reserve
`2 ^ 32 - 2` bytes: the new size wraps to 2, `reserve` answers `true` after copying the four
bytes into that allocation, and the write cursor ends past the end of the buffer. -/
theorem reserve_wraps_on_32_bit :
    let b : Buffer := ⟨[1, 2, 3, 4], 4, 0, 4⟩
    (b.reserve 32 (2 ^ 32 - 2)).1 = true ∧ (b.reserve 32 (2 ^ 32 - 2)).2.bufferSize = 2 ∧
      (b.reserve 32 (2 ^ 32 - 2)).2.writePosition = 4 ∧
      ¬ReserveKeeps 32 b (2 ^ 32 - 2) (b.reserve 32 (2 ^ 32 - 2)).2 :=
  have h := @reserve_keeps_iff 32 ⟨[1, 2, 3, 4], 4, 0, 4⟩ (by decide) (by decide) (by decide)
    (2 ^ 32 - 2) (by decide)
  ⟨h.1, rfl, rfl, fun hkeeps => absurd (h.2.mp hkeeps) (by decide)⟩

end Calls

/-- Along every sequence of calls whose size arguments fit a `size_t`, a valid buffer stays
valid, each call is a step of the FIFO queue specification with the result the source returns,
and a call that answers `false` leaves the buffer unchanged. -/
theorem admissible_run_refines_fifo {w : Nat} {b : Buffer} (hb : b.Valid w) {calls : List Call}
    (hadm : b.Admissible w calls) : SpecRun w b calls (b.run w calls).1 (b.run w calls).2 := by
  induction calls generalizing b with
  | nil => exact .nil b
  | cons c cs ih =>
      have hstep := step_spec hb hadm.1
      exact .cons hstep (ih hstep.1 hadm.2)

/-- Growing an empty buffer, filling it and reading part of it back is an admissible run. -/
theorem admissible_run_refines_fifo_reserve_write_read :
    SpecRun 64 empty [.reserve 3, .write [1, 2, 3], .read 2]
      (empty.run 64 [.reserve 3, .write [1, 2, 3], .read 2]).1
      (empty.run 64 [.reserve 3, .write [1, 2, 3], .read 2]).2 :=
  admissible_run_refines_fifo ⟨le_rfl, le_rfl, by decide, rfl⟩ (by decide)

end Buffer

/-! ## `memcmp_s` -/

/-- The loop of `memcmp_s`: `result |= *s1++ ^ *s2++` over the byte pairs. -/
def memcmpSLoop (result : UInt8) : List (UInt8 × UInt8) → UInt8
  | [] => result
  | (b1, b2) :: pairs => memcmpSLoop (result ||| (b1 ^^^ b2)) pairs

/-- `memcmp_s(p1, p2, length)`: 0 when the OR of the XORs of the first `length` byte pairs is 0,
else 1. The source reads `length` bytes of each buffer; the model pairs the bytes both have. -/
def memcmpS (p1 p2 : List UInt8) (length : Nat) : Int :=
  if memcmpSLoop 0 ((p1.take length).zip (p2.take length)) = 0 then 0 else 1

/-- A bitwise `|` is zero exactly when both operands are. -/
theorem lor_eq_zero_iff {a b : Nat} : a ||| b = 0 ↔ a = 0 ∧ b = 0 := by
  refine ⟨fun h => ?_, fun ⟨ha, hb⟩ => by rw [ha, hb]; rfl⟩
  have hbit : ∀ i, a.testBit i = false ∧ b.testBit i = false := fun i => by
    simpa [Nat.testBit_lor] using congrArg (Nat.testBit · i) h
  exact ⟨Nat.eq_of_testBit_eq fun i => by simp [(hbit i).1],
    Nat.eq_of_testBit_eq fun i => by simp [(hbit i).2]⟩

/-- Bytes are equal exactly when their values are. -/
theorem uint8_eq_iff_toNat {a b : UInt8} : a = b ↔ a.toNat = b.toNat :=
  ⟨congrArg UInt8.toNat, UInt8.toNat.inj⟩

/-- The accumulator stays 0 exactly while it was 0 and every pair agrees. -/
theorem memcmpSLoop_eq_zero (result : UInt8) (pairs : List (UInt8 × UInt8)) :
    memcmpSLoop result pairs = 0 ↔ result = 0 ∧ ∀ pair ∈ pairs, pair.1 = pair.2 := by
  induction pairs generalizing result with
  | nil => simp [memcmpSLoop]
  | cons pair pairs ih =>
    obtain ⟨b1, b2⟩ := pair
    have hstep : result ||| (b1 ^^^ b2) = 0 ↔ result = 0 ∧ b1 = b2 := by
      simp only [uint8_eq_iff_toNat (b := 0), uint8_eq_iff_toNat (a := b1)]
      exact lor_eq_zero_iff.trans (and_congr Iff.rfl Nat.xor_eq_zero)
    simp only [memcmpSLoop, ih, hstep, List.mem_cons, forall_eq_or_imp, and_assoc]

/-- Two lists of one length are equal exactly when every pair of their zip agrees. -/
theorem forall_zip_eq_iff {l1 l2 : List UInt8} (h : l1.length = l2.length) :
    (∀ pair ∈ l1.zip l2, pair.1 = pair.2) ↔ l1 = l2 := by
  induction l1 generalizing l2 with
  | nil => cases l2 <;> simp_all
  | cons b1 l1 ih =>
    cases l2 with
    | nil => cases h
    | cons b2 l2 =>
      rw [List.zip_cons_cons, List.forall_mem_cons, ih (Nat.succ.inj h), List.cons.injEq]

/-- `memcmp_s` answers 0 exactly when the first `length` bytes of the two buffers agree, for
buffers of at least `length` bytes. -/
theorem memcmpS_eq_zero_iff {p1 p2 : List UInt8} {length : Nat} (h1 : length ≤ p1.length)
    (h2 : length ≤ p2.length) :
    memcmpS p1 p2 length = 0 ↔ p1.take length = p2.take length := by
  have hlen : (p1.take length).length = (p2.take length).length := by
    simp [List.length_take, h1, h2]
  rw [memcmpS, ← forall_zip_eq_iff hlen, ← (memcmpSLoop_eq_zero 0 _).trans (and_iff_right rfl)]
  split_ifs with h <;> simp [h]

/-- Buffers that agree on their first two bytes and differ on the third. -/
theorem memcmpS_first_two_bytes :
    memcmpS [1, 2, 3] [1, 2, 4] 2 = 0 ↔ [1, 2, 3].take 2 = ([1, 2, 4] : List UInt8).take 2 :=
  @memcmpS_eq_zero_iff [1, 2, 3] [1, 2, 4] 2 (by decide) (by decide)

end Keymaster
