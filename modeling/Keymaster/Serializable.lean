/-
# Serialization of buffers and supported-value responses

`Buffer::Serialize` and `SupportedResponse<T>::NonErrorSerialize` hand their bytes to the
primitive codecs of `serializable.cpp`, which is absent from the sources; those codecs are
modelled from the spec (§4.1): a little-endian `u32`, a `u32` length followed by that many bytes,
and a `u32` count followed by that many `u32` values. A writer is given the room left in its
window and produces no output when the window is too small; a reader is given the bytes from its
cursor to the window's end and returns the value with the bytes it did not consume.

The sizes the messages announce are `size_t` sums, computed modulo `2 ^ w`. They do not wrap for
anything a program can hold: a buffer's allocation and a response's result array are objects,
and no object reaches `2 ^ (w - 1)` bytes, the bound `ptrdiff_t` sets. Under that bound
serialized buffers and responses read back to what was written, consuming exactly the announced
size, whenever the readable length and the result count fit their `u32` prefixes.
-/

import Keymaster.Defs
import Keymaster.Buffer
import Mathlib.Data.UInt

set_option autoImplicit false

namespace Keymaster

/-! ## Primitive codecs -/

/-- Modelled from the spec: the four little-endian bytes `append_uint32_to_buf` writes for a
value converted to `uint32_t`. -/
def encodeUint32 (value : Nat) : List UInt8 :=
  [UInt8.ofNat (value % 256), UInt8.ofNat (value / 256 % 256),
    UInt8.ofNat (value / 65536 % 256), UInt8.ofNat (value / 16777216 % 256)]

/-- Modelled from the spec: `copy_uint32_from_buf`, reading four little-endian bytes. -/
def copyUint32FromBuf : List UInt8 → Option (Nat × List UInt8)
  | b0 :: b1 :: b2 :: b3 :: rest =>
      some (b0.toNat + 256 * b1.toNat + 65536 * b2.toNat + 16777216 * b3.toNat, rest)
  | _ => none

/-- Modelled from the spec: `append_size_and_data_to_buf`, a `u32` length and `length` bytes
from `data`, or no output when they do not fit the room left. -/
def appendSizeAndDataToBuf (room : Nat) (data : List UInt8) (length : Nat) :
    Option (List UInt8) :=
  if 4 + length ≤ room then some (encodeUint32 length ++ data.take length) else none

/-- Modelled from the spec: `copy_size_and_data_from_buf`, which rejects a length beyond the
end of the window. -/
def copySizeAndDataFromBuf (input : List UInt8) : Option (List UInt8 × List UInt8) :=
  match copyUint32FromBuf input with
  | some (length, rest) => if length ≤ rest.length then some (rest.take length, rest.drop length)
      else none
  | none => none

/-- Modelled from the spec: `append_uint32_array_to_buf`, a `u32` count and `count` values. -/
def appendUint32ArrayToBuf (room : Nat) (values : List UInt32) (count : Nat) :
    Option (List UInt8) :=
  if 4 + 4 * count ≤ room then
    some (encodeUint32 count ++ ((values.take count).map fun v => encodeUint32 v.toNat).flatten)
  else none

/-- `count` consecutive `u32` values. -/
def copyUint32s : Nat → List UInt8 → Option (List UInt32 × List UInt8)
  | 0, input => some ([], input)
  | count + 1, input =>
      match copyUint32FromBuf input with
      | some (value, rest) =>
          (copyUint32s count rest).map fun r => (UInt32.ofNat value :: r.1, r.2)
      | none => none

/-- Modelled from the spec: `copy_uint32_array_from_buf`, which rejects a count whose values
would run past the end of the window. -/
def copyUint32ArrayFromBuf (input : List UInt8) : Option (List UInt32 × List UInt8) :=
  match copyUint32FromBuf input with
  | some (count, rest) => if 4 * count ≤ rest.length then copyUint32s count rest else none
  | none => none

/-- A `size_t` product on a platform of word width `w`. -/
def sizeMul (w a b : Nat) : Nat := (a * b) % 2 ^ w

/-- A `u32` takes four bytes. -/
theorem length_encodeUint32 (value : Nat) : (encodeUint32 value).length = 4 := rfl

/-- A byte written from a value below 256 reads back as that value. -/
private theorem toNat_ofNat_mod (n : Nat) : (UInt8.ofNat (n % 256)).toNat = n % 256 :=
  UInt8.toNat_ofNat_of_lt (Nat.mod_lt _ (by decide))

/-- The `u32` codec reads back the written value, reduced to 32 bits. -/
theorem copyUint32FromBuf_encodeUint32 (value : Nat) (rest : List UInt8) :
    copyUint32FromBuf (encodeUint32 value ++ rest) = some (value % 4294967296, rest) := by
  simp only [encodeUint32, List.cons_append, List.nil_append, copyUint32FromBuf,
    toNat_ofNat_mod, Option.some.injEq, Prod.mk.injEq, and_true]
  omega

/-- A `u32` value survives its round trip through `Nat`. -/
private theorem uint32_ofNat_toNat (v : UInt32) : UInt32.ofNat (v.toNat % 4294967296) = v := by
  rw [Nat.mod_eq_of_lt v.toNat_lt_size]
  apply UInt32.eq_of_val_eq
  simp [UInt32.ofNat, UInt32.toNat, Fin.ofNat]

/-- Reading back `count` encoded values, with the bytes after them left over. -/
theorem copyUint32s_encode (values : List UInt32) (rest : List UInt8) :
    copyUint32s values.length ((values.map fun v => encodeUint32 v.toNat).flatten ++ rest) =
      some (values, rest) := by
  induction values with
  | nil => rfl
  | cons v vs ih =>
      simp only [List.length_cons, List.map_cons, List.flatten_cons, List.append_assoc,
        copyUint32s, copyUint32FromBuf_encodeUint32, ih, Option.map_some', uint32_ofNat_toNat]

/-- `count` values take `4 * count` bytes. -/
theorem length_flatten_encode (values : List UInt32) :
    ((values.map fun v => encodeUint32 v.toNat).flatten).length = 4 * values.length := by
  induction values with
  | nil => rfl
  | cons v vs ih =>
      simp only [List.map_cons, List.flatten_cons, List.length_append, length_encodeUint32, ih,
        List.length_cons]
      omega

/-! ## Buffers -/

namespace Buffer

variable (w : Nat)

/-- `SerializedSize()`: the `u32` length prefix and the readable bytes. -/
def serializedSize (b : Buffer) : Nat := sizeAdd w 4 (b.availableRead w)

/-- `Serialize(buf, end)` into a window with `room` bytes left. -/
def serialize (b : Buffer) (room : Nat) : Option (List UInt8) :=
  appendSizeAndDataToBuf room b.peekRead (b.availableRead w)

/-- `Deserialize(buf_ptr, end)`: a buffer holding exactly the bytes read, with the input it
did not consume. -/
def deserialize (input : List UInt8) : Option (Buffer × List UInt8) :=
  (copySizeAndDataFromBuf input).map fun r => (⟨r.1, r.1.length, 0, r.1.length⟩, r.2)

variable {w}

/-- A valid buffer whose serialized size fits a `size_t` serializes into exactly that many
bytes, and reading them back, whatever follows them, yields its readable bytes in a valid buffer
with the read cursor at zero. -/
theorem serialize_roundTrip {b : Buffer} (hb : b.Valid w) (hfits : b.availableRead w < 2 ^ 32)
    (hsize : 4 + b.availableRead w < 2 ^ w) (rest : List UInt8) :
    b.serializedSize w = 4 + b.availableRead w ∧
      ∃ bytes, b.serialize w (b.serializedSize w) = some bytes ∧
        bytes.length = b.serializedSize w ∧
        ∃ b', deserialize (bytes ++ rest) = some (b', rest) ∧ b'.readable w = b.readable w ∧
          b'.readPosition = 0 ∧ b'.Valid w := by
  have hsz : b.serializedSize w = 4 + b.availableRead w := sizeAdd_of_lt hsize
  have hlen : (b.readable w).length = b.availableRead w := by
    rw [hb.length_readable, hb.availableRead_eq]
  have hser : b.serialize w (b.serializedSize w) =
      some (encodeUint32 (b.availableRead w) ++ b.readable w) := by
    rw [serialize, hsz, appendSizeAndDataToBuf, if_pos le_rfl]
    rfl
  have hde : deserialize (encodeUint32 (b.availableRead w) ++ b.readable w ++ rest) =
      some (⟨b.readable w, b.availableRead w, 0, b.availableRead w⟩, rest) := by
    rw [deserialize, copySizeAndDataFromBuf, List.append_assoc, copyUint32FromBuf_encodeUint32,
      Nat.mod_eq_of_lt (by simpa using hfits)]
    dsimp only
    rw [if_pos (by rw [List.length_append, hlen]; omega), ← hlen, List.take_left' rfl,
      List.drop_left' rfl]
    rfl
  have hb' : Valid w ⟨b.readable w, b.availableRead w, 0, b.availableRead w⟩ :=
    ⟨Nat.zero_le _, le_rfl, by dsimp only; omega, hlen⟩
  refine ⟨hsz, _, hser, ?_, _, hde, ?_, rfl, hb'⟩
  · rw [List.length_append, length_encodeUint32, hlen, hsz]
  · rw [hb'.readable_eq]
    dsimp only
    rw [← hlen, List.take_length, List.drop_zero]

end Buffer

/-! ## Supported-value responses -/

/-- `SupportedResponse<T>`: an error code and the results, each an enumeration value stored as a
`uint32_t`. -/
structure SupportedResponse where
  error : KeymasterError
  results : List UInt32
  deriving DecidableEq, Repr

namespace SupportedResponse

variable (w : Nat)

/-- `NonErrorSerializedSize()`: the count and four bytes a result. -/
def nonErrorSerializedSize (r : SupportedResponse) : Nat :=
  sizeAdd w 4 (sizeMul w r.results.length 4)

/-- `NonErrorSerialize(buf, end)` into a window with `room` bytes left. -/
def nonErrorSerialize (r : SupportedResponse) (room : Nat) : Option (List UInt8) :=
  appendUint32ArrayToBuf room r.results r.results.length

/-- `NonErrorDeserialize(buf_ptr, end)`: the results read, with the input left over. -/
def nonErrorDeserialize (r : SupportedResponse) (input : List UInt8) :
    Option (SupportedResponse × List UInt8) :=
  (copyUint32ArrayFromBuf input).map fun res => ({ r with results := res.1 }, res.2)

variable {w}

/-- A response whose serialized size fits a `size_t` serializes into exactly
`4 + 4 * results_length` bytes, and reading them back into any response, whatever follows
them, reproduces the results in order. -/
theorem nonErrorSerialize_roundTrip (r r' : SupportedResponse)
    (hcount : r.results.length < 2 ^ 32) (hsize : 4 + 4 * r.results.length < 2 ^ w)
    (rest : List UInt8) :
    r.nonErrorSerializedSize w = 4 + 4 * r.results.length ∧
      ∃ bytes, r.nonErrorSerialize (r.nonErrorSerializedSize w) = some bytes ∧
        bytes.length = r.nonErrorSerializedSize w ∧
        r'.nonErrorDeserialize (bytes ++ rest) = some ({ r' with results := r.results }, rest) := by
  have hsz : r.nonErrorSerializedSize w = 4 + 4 * r.results.length := by
    rw [nonErrorSerializedSize, sizeMul, Nat.mod_eq_of_lt (by omega), sizeAdd_of_lt (by omega),
      Nat.mul_comm]
  have hflat := length_flatten_encode r.results
  refine ⟨hsz, _, by rw [nonErrorSerialize, hsz, appendUint32ArrayToBuf, if_pos le_rfl,
    List.take_length], by rw [List.length_append, length_encodeUint32, hflat, hsz], ?_⟩
  rw [nonErrorDeserialize, copyUint32ArrayFromBuf, List.append_assoc,
    copyUint32FromBuf_encodeUint32, Nat.mod_eq_of_lt (by simpa using hcount)]
  dsimp only
  rw [if_pos (by rw [List.length_append, hflat]; omega), copyUint32s_encode]
  rfl

end SupportedResponse

/-- A size below the object bound `2 ^ (w - 1)` leaves room for a four-byte prefix in a `size_t`
of `w ≥ 3` bits. -/
theorem four_add_lt_of_lt_objectBound {w n : Nat} (hw : 3 ≤ w) (h : n < 2 ^ (w - 1)) :
    4 + n < 2 ^ w := by
  have hdouble : 2 ^ w = 2 * 2 ^ (w - 1) := by
    rw [← Nat.pow_succ']
    congr 1
    omega
  have hfour : 4 ≤ 2 ^ (w - 1) :=
    calc 4 = 2 ^ 2 := rfl
      _ ≤ 2 ^ (w - 1) := Nat.pow_le_pow_right (by decide) (by omega)
  omega

/-- Serialized buffers and supported-value responses read back to what was written, consuming
exactly their announced size, on every platform whose `size_t` has `w ≥ 3` bits: for every valid
buffer whose allocation is an object (below `2 ^ (w - 1)` bytes) and whose readable length fits
the `u32` length prefix, and every response whose result array is an object and whose result
count fits the `u32` count prefix. -/
theorem serialize_roundTrips (w : Nat) (hw : 3 ≤ w) (b : Buffer) (hb : b.Valid w)
    (hobject : b.bufferSize < 2 ^ (w - 1)) (hfits : b.availableRead w < 2 ^ 32)
    (r r' : SupportedResponse) (hcount : r.results.length < 2 ^ 32)
    (hrobject : 4 * r.results.length < 2 ^ (w - 1)) (rest : List UInt8) :
    (b.serializedSize w = 4 + b.availableRead w ∧
      ∃ bytes, b.serialize w (b.serializedSize w) = some bytes ∧
        bytes.length = b.serializedSize w ∧
        ∃ b', Buffer.deserialize (bytes ++ rest) = some (b', rest) ∧
          b'.readable w = b.readable w ∧ b'.readPosition = 0 ∧ b'.Valid w) ∧
    (r.nonErrorSerializedSize w = 4 + 4 * r.results.length ∧
      ∃ bytes, r.nonErrorSerialize (r.nonErrorSerializedSize w) = some bytes ∧
        bytes.length = r.nonErrorSerializedSize w ∧
        r'.nonErrorDeserialize (bytes ++ rest) = some ({ r' with results := r.results }, rest)) :=
  have hread : b.availableRead w < 2 ^ (w - 1) := by
    rw [hb.availableRead_eq]
    have := hb.write_le_size
    omega
  ⟨Buffer.serialize_roundTrip hb hfits (four_add_lt_of_lt_objectBound hw hread) rest,
    SupportedResponse.nonErrorSerialize_roundTrip r r' hcount
      (four_add_lt_of_lt_objectBound hw hrobject) rest⟩

/-- The message tests' three-byte buffer `"foo"` and a three-result response meet every
hypothesis on a 64-bit platform. -/
theorem serialize_roundTrips_foo :
    (⟨[102, 111, 111], 3, 0, 3⟩ : Buffer).serializedSize 64 = 4 + 3 ∧
      (⟨.ok, [1, 2, 3]⟩ : SupportedResponse).nonErrorSerializedSize 64 = 4 + 4 * 3 :=
  have h := serialize_roundTrips 64 (by decide) ⟨[102, 111, 111], 3, 0, 3⟩
    ⟨by decide, by decide, by decide, rfl⟩ (by decide) (by decide) ⟨.ok, [1, 2, 3]⟩
    ⟨.ok, []⟩ (by decide) (by decide) []
  ⟨h.1.1, h.2.1⟩

end Keymaster
