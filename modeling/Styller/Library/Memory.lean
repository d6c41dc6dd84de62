import Styller.Library.Stream

/-! Memory as bytes at offsets: reading a range of it, and storing bytes at an offset. -/

namespace Styller.Library

open List

abbrev Memory := Nat → UInt8

namespace Memory

/-- The bytes from an offset on. -/
def slice (memory : Memory) (start size : Nat) : Bytes := (List.range' start size).map memory

/-- The memory with other bytes from an offset on. -/
def store (memory : Memory) (start : Nat) (bytes : Bytes) : Memory := fun offset =>
  if offset < start then memory offset else (bytes[offset - start]?).getD (memory offset)

variable {memory other : Memory} {start size : Nat} {bytes more : Bytes}

@[simp] theorem length_slice (memory : Memory) (start size : Nat) : (slice memory start size).length = size := by
  rw [slice, length_map, length_range']

theorem slice_congr (agree : ∀ offset, start ≤ offset → offset < start + size → memory offset = other offset) :
    slice memory start size = slice other start size := by
  apply map_congr_left
  intro offset listed
  obtain ⟨low, high⟩ := mem_range'_1.mp listed
  exact agree offset low high

theorem slice_append (memory : Memory) (start size more : Nat) :
    slice memory start (size + more) = slice memory start size ++ slice memory (start + size) more := by
  rw [slice, slice, slice, ← map_append, range'_append_1]

theorem store_before {offset : Nat} (before : offset < start) : store memory start bytes offset = memory offset := if_pos before

theorem store_after {offset : Nat} (after : start + bytes.length ≤ offset) :
    store memory start bytes offset = memory offset := by
  have missing : bytes[offset - start]? = none := getElem?_eq_none (by omega)
  rw [store, missing, Option.getD_none, ite_self]

theorem store_within {index : Nat} (within : index < bytes.length) :
    store memory start bytes (start + index) = bytes[index] := by
  have after : ¬ start + index < start := Nat.not_lt_of_le (Nat.le_add_right start index)
  rw [store, if_neg after, Nat.add_sub_cancel_left, getElem?_eq_getElem within, Option.getD_some]

/-- What was stored does not depend on what was there. -/
theorem store_congr {offset : Nat} (low : start ≤ offset) (high : offset < start + bytes.length) :
    store memory start bytes offset = store other start bytes offset := by
  obtain ⟨index, rfl⟩ := Nat.exists_eq_add_of_le low
  have within : index < bytes.length := Nat.lt_of_add_lt_add_left high
  rw [store_within within, store_within within]

/-- Bytes that were stored are read. -/
theorem slice_store_self (memory : Memory) (start : Nat) (bytes : Bytes) :
    slice (store memory start bytes) start bytes.length = bytes := by
  apply ext_getElem (length_slice ..)
  intro index first second
  simp only [slice, getElem_map, getElem_range', Nat.one_mul]
  exact store_within second

/-- The parts of what was stored. -/
theorem slice_store_append (memory : Memory) (start : Nat) (bytes more : Bytes) :
    slice (store memory start (bytes ++ more)) start bytes.length = bytes ∧
      slice (store memory start (bytes ++ more)) (start + bytes.length) more.length = more := by
  have whole := slice_store_self memory start (bytes ++ more)
  rw [length_append, slice_append] at whole
  exact append_inj whole (length_slice ..)

theorem slice_store_end (memory : Memory) (start : Nat) (bytes : Bytes) :
    slice (store memory start bytes) 0 (start + bytes.length) = slice memory 0 start ++ bytes := by
  have before : slice (store memory start bytes) 0 start = slice memory 0 start :=
    slice_congr fun offset _ high => store_before (by omega)
  rw [slice_append, before, Nat.zero_add, slice_store_self]

/-- Other bytes are not changed. -/
theorem slice_store_apart {first count : Nat} (apart : first + count ≤ start ∨ start + bytes.length ≤ first) :
    slice (store memory start bytes) first count = slice memory first count := by
  apply slice_congr
  intro offset low high
  rcases apart with before | after
  · exact store_before (by omega)
  · exact store_after (by omega)

end Memory

end Styller.Library
