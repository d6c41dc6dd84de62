import Mathlib.Data.List.GetD

/-! Slices of an array with a stride, assignments to them, and arrays that hold a rectangle row by row. -/

namespace Styller.Library

open List

universe u

/-- Where a slice starts, how many elements it has, and how far they are apart. -/
structure Slice where
  start : Nat
  size : Nat
  stride : Nat

namespace Slice

variable {α : Type u}

/-- The places of a slice. -/
def places (slice : Slice) : List Nat := (List.range slice.size).map fun k => slice.start + k * slice.stride

/-- The elements of a slice. -/
def read (slice : Slice) (missing : α) (array : List α) : List α := slice.places.map fun place => array.getD place missing

/-- One element after the other at its place. -/
def write (array : List α) (writes : List (Nat × α)) : List α := writes.foldl (fun array entry => array.set entry.1 entry.2) array

/-- The elements of a slice assigned. -/
def assign (slice : Slice) (array : List α) (values : List α) : List α := write array (slice.places.zip values)

theorem length_write (array : List α) (writes : List (Nat × α)) : (write array writes).length = array.length := by
  unfold write
  induction writes generalizing array with
  | nil => rfl
  | cons entry writes ih => rw [foldl_cons, ih, length_set]

theorem write_append (array : List α) (first second : List (Nat × α)) :
    write array (first ++ second) = write (write array first) second := foldl_append ..

/-- Writes that agree on what belongs at each place leave just that at the places they reach. -/
theorem getElem?_write {array : List α} {writes : List (Nat × α)} {value : Nat → α} (agree : ∀ entry ∈ writes, entry.2 = value entry.1)
    {place : Nat} (inside : place < array.length) :
    (write array writes)[place]? = if place ∈ writes.map Prod.fst then some (value place) else array[place]? := by
  induction writes generalizing array with
  | nil => rfl
  | cons entry writes ih =>
    have rest := @ih (array.set entry.1 entry.2) (fun other member => agree other (mem_cons_of_mem _ member))
      (by rwa [length_set])
    have first := agree entry mem_cons_self
    rw [write, foldl_cons, ← write, rest, map_cons]
    by_cases later : place ∈ writes.map Prod.fst
    · rw [if_pos later, if_pos (mem_cons_of_mem _ later)]
    · rw [if_neg later]
      by_cases now : place = entry.1
      · rw [if_pos (now ▸ mem_cons_self), now, getElem?_set_self (now ▸ inside), first]
      · rw [getElem?_set_ne (Ne.symm now), if_neg]
        intro member
        rcases mem_cons.mp member with same | member
        · exact now same
        · exact later member

theorem write_eq {array : List α} {writes : List (Nat × α)} {value : Nat → α} (agree : ∀ entry ∈ writes, entry.2 = value entry.1)
    (covers : ∀ place < array.length, place ∈ writes.map Prod.fst) : write array writes = (List.range array.length).map value := by
  apply ext_getElem?
  intro place
  by_cases inside : place < array.length
  · rw [getElem?_write agree inside, if_pos (covers place inside), getElem?_map, getElem?_range inside, Option.map_some]
  · rw [getElem?_eq_none (by rw [length_write]; omega), getElem?_eq_none (by simpa using inside)]

/-- A loop that copies slices of one array to another. -/
def copyAll (missing : α) (array source : List α) (copies : List (Slice × Slice)) : List α :=
  copies.foldl (fun array copy => copy.1.assign array (copy.2.read missing source)) array

theorem copyAll_eq_write (missing : α) (array source : List α) (copies : List (Slice × Slice)) :
    copyAll missing array source copies =
      write array (copies.flatMap fun copy => copy.1.places.zip (copy.2.read missing source)) := by
  induction copies generalizing array with
  | nil => rfl
  | cons copy copies ih =>
    rw [copyAll, foldl_cons, ← copyAll, ih, flatMap_cons, write_append, assign]

theorem places_zip_read (missing : α) (source : List α) {target from_ : Slice} (same : target.size = from_.size) :
    target.places.zip (from_.read missing source) = (List.range target.size).map fun k =>
      (target.start + k * target.stride, source.getD (from_.start + k * from_.stride) missing) := by
  rw [places, read, places, ← same, map_map, zip_map']
  rfl

/-- A loop of copies that puts at every place what belongs there. -/
theorem copyAll_eq {missing : α} {array source : List α} {copies : List (Slice × Slice)} {value : Nat → α}
    (same : ∀ copy ∈ copies, copy.1.size = copy.2.size)
    (agree : ∀ copy ∈ copies, ∀ k < copy.1.size,
      source.getD (copy.2.start + k * copy.2.stride) missing = value (copy.1.start + k * copy.1.stride))
    (covers : ∀ place < array.length, ∃ copy ∈ copies, ∃ k < copy.1.size, copy.1.start + k * copy.1.stride = place) :
    copyAll missing array source copies = (List.range array.length).map value := by
  rw [copyAll_eq_write]
  apply write_eq
  · intro entry member
    obtain ⟨copy, listed, member⟩ := mem_flatMap.mp member
    rw [places_zip_read missing source (same copy listed)] at member
    obtain ⟨k, below, rfl⟩ := mem_map.mp member
    exact agree copy listed k (mem_range.mp below)
  · intro place inside
    obtain ⟨copy, listed, k, below, reached⟩ := covers place inside
    apply mem_map.mpr
    refine ⟨(place, source.getD (copy.2.start + k * copy.2.stride) missing), mem_flatMap.mpr ⟨copy, listed, ?_⟩, rfl⟩
    rw [places_zip_read missing source (same copy listed)]
    exact mem_map.mpr ⟨k, mem_range.mpr below, by rw [reached]⟩

end Slice

section
variable {rows cols row col : Nat}

/-- The place of a cell. -/
theorem place_lt (below : row < rows) (within : col < cols) : row * cols + col < rows * cols :=
  calc row * cols + col < (row + 1) * cols := by rw [Nat.succ_mul]; omega
    _ ≤ rows * cols := Nat.mul_le_mul_right cols below

theorem place_div (within : col < cols) : (row * cols + col) / cols = row := by
  rw [Nat.mul_comm, Nat.mul_add_div (by omega), Nat.div_eq_of_lt within, Nat.add_zero]

theorem place_mod (within : col < cols) : (row * cols + col) % cols = col := by
  rw [Nat.mul_comm, Nat.mul_add_mod, Nat.mod_eq_of_lt within]

theorem exists_place {place : Nat} (inside : place < rows * cols) : ∃ row < rows, ∃ col < cols, row * cols + col = place := by
  have wide : 0 < cols := Nat.pos_of_mul_pos_left (Nat.lt_of_le_of_lt (Nat.zero_le _) inside)
  exact ⟨place / cols, Nat.div_lt_of_lt_mul (by rwa [Nat.mul_comm]), place % cols, Nat.mod_lt _ wide, Nat.div_add_mod' place cols⟩

theorem rectangle_ext {α : Type u} {missing : α} {first second : List α} (one : first.length = rows * cols)
    (two : second.length = rows * cols)
    (cells : ∀ row < rows, ∀ col < cols, first.getD (row * cols + col) missing = second.getD (row * cols + col) missing) :
    first = second := by
  apply ext_getElem (one.trans two.symm)
  intro place inside there
  obtain ⟨row, below, col, within, rfl⟩ := exists_place (one ▸ inside)
  have same := cells row below col within
  rwa [getD_eq_getElem _ _ inside, getD_eq_getElem _ _ there] at same

/-- A rectangle whose rows are copied one by one. -/
theorem Slice.getD_copyAll_rows {α : Type u} {missing : α} {array source : List α} (size : array.length = rows * cols)
    {slices : Nat → Slice} (wide : ∀ i < rows, (slices i).size = cols) (below : row < rows) (within : col < cols) :
    (copyAll missing array source ((List.range rows).map fun i => (⟨i * cols, cols, 1⟩, slices i))).getD (row * cols + col) missing =
      source.getD ((slices row).start + col * (slices row).stride) missing := by
  have filled : copyAll missing array source ((List.range rows).map fun i => (⟨i * cols, cols, 1⟩, slices i)) =
      (List.range array.length).map fun place =>
        source.getD ((slices (place / cols)).start + place % cols * (slices (place / cols)).stride) missing := by
    apply copyAll_eq
    · intro copy listed
      obtain ⟨i, member, rfl⟩ := mem_map.mp listed
      exact (wide i (mem_range.mp member)).symm
    · intro copy listed k below
      obtain ⟨i, member, rfl⟩ := mem_map.mp listed
      simp only [Nat.mul_one, place_div below, place_mod below]
    · intro place inside
      obtain ⟨i, below, k, within, reached⟩ := exists_place (size ▸ inside)
      refine ⟨_, mem_map.mpr ⟨i, mem_range.mpr below, rfl⟩, k, within, ?_⟩
      rw [Nat.mul_one, reached]
  have inside : row * cols + col < array.length := size ▸ place_lt below within
  rw [filled, getD_eq_getElem _ _ (by rwa [length_map, length_range]), getElem_map, getElem_range,
    place_div within, place_mod within]

/-- A rectangle whose columns are copied one by one. -/
theorem Slice.getD_copyAll_cols {α : Type u} {missing : α} {array source : List α} (size : array.length = rows * cols)
    {slices : Nat → Slice} (tall : ∀ i < cols, (slices i).size = rows) (below : row < rows) (within : col < cols) :
    (copyAll missing array source ((List.range cols).map fun i => (⟨i, rows, cols⟩, slices i))).getD (row * cols + col) missing =
      source.getD ((slices col).start + row * (slices col).stride) missing := by
  have filled : copyAll missing array source ((List.range cols).map fun i => (⟨i, rows, cols⟩, slices i)) =
      (List.range array.length).map fun place =>
        source.getD ((slices (place % cols)).start + place / cols * (slices (place % cols)).stride) missing := by
    apply copyAll_eq
    · intro copy listed
      obtain ⟨i, member, rfl⟩ := mem_map.mp listed
      exact (tall i (mem_range.mp member)).symm
    · intro copy listed k below
      obtain ⟨i, member, rfl⟩ := mem_map.mp listed
      simp only [Nat.add_comm i, place_div (mem_range.mp member), place_mod (mem_range.mp member)]
    · intro place inside
      obtain ⟨k, below, i, within, reached⟩ := exists_place (size ▸ inside)
      refine ⟨_, mem_map.mpr ⟨i, mem_range.mpr within, rfl⟩, k, below, ?_⟩
      rw [Nat.add_comm, reached]
  have inside : row * cols + col < array.length := size ▸ place_lt below within
  rw [filled, getD_eq_getElem _ _ (by rwa [length_map, length_range]), getElem_map, getElem_range,
    place_div within, place_mod within]

theorem Slice.length_copyAll {α : Type u} (missing : α) (array source : List α) (copies : List (Slice × Slice)) :
    (copyAll missing array source copies).length = array.length := by
  rw [copyAll_eq_write, length_write]

end

end Styller.Library
