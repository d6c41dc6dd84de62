import Mathlib.Data.List.Nodup
import Mathlib.Data.List.Range

/-! Tables whose rows are numbered from one as they are inserted and never deleted. -/

namespace Styller.Library.Table

open List

universe u

variable {Row : Type u} (key : Row → Nat)

/-- An update of the row with a number. -/
def update (number : Nat) (change : Row → Row) (rows : List Row) : List Row :=
  rows.map fun row => if key row = number then change row else row

/-- The rows have the numbers that they were given when they were inserted. -/
def Numbered (rows : List Row) : Prop := rows.map key = List.range' 1 rows.length

variable {key} {rows : List Row} {row other : Row} {number : Nat} {change : Row → Row}

theorem mem_update (listed : row ∈ update key number change rows) :
    ∃ old ∈ rows, (key old = number ∧ row = change old) ∨ (key old ≠ number ∧ row = old) := by
  obtain ⟨old, held, rfl⟩ := mem_map.mp listed
  refine ⟨old, held, ?_⟩
  by_cases here : key old = number
  · exact .inl ⟨here, if_pos here⟩
  · exact .inr ⟨here, if_neg here⟩

theorem length_update (number : Nat) (change : Row → Row) (rows : List Row) :
    (update key number change rows).length = rows.length := length_map _

theorem map_update {Column : Type*} {column : Row → Column} (kept : ∀ row, column (change row) = column row) :
    (update key number change rows).map column = rows.map column := by
  unfold update
  rw [map_map]
  refine map_congr_left fun row _ => ?_
  show column (if key row = number then change row else row) = column row
  split
  · exact kept row
  · rfl

theorem numbered_nil : Numbered key [] := rfl

theorem Numbered.update (numbered : Numbered key rows) (kept : ∀ row, key (change row) = key row) :
    Numbered key (update key number change rows) := by
  unfold Numbered
  rw [map_update kept, length_update]
  exact numbered

theorem Numbered.insert (numbered : Numbered key rows) (next : key row = rows.length + 1) : Numbered key (rows ++ [row]) := by
  unfold Numbered at *
  rw [map_append, numbered, length_append, length_singleton, ← range'_append_1]
  simp [next, Nat.add_comm]

theorem Numbered.nodup (numbered : Numbered key rows) : (rows.map key).Nodup := by
  rw [numbered]
  exact nodup_range'

theorem Numbered.eq_of_key (numbered : Numbered key rows) (listed : row ∈ rows) (otherListed : other ∈ rows)
    (same : key row = key other) : row = other :=
  inj_on_of_nodup_map numbered.nodup listed otherListed same

theorem Numbered.bound (numbered : Numbered key rows) (listed : row ∈ rows) : 1 ≤ key row ∧ key row ≤ rows.length := by
  have here : key row ∈ List.range' 1 rows.length := numbered ▸ mem_map_of_mem listed
  rw [mem_range'_1] at here
  omega

/-- A row stands at its number. -/
theorem Numbered.getElem?_eq (numbered : Numbered key rows) (listed : row ∈ rows) : rows[key row - 1]? = some row := by
  obtain ⟨place, bound, rfl⟩ := mem_iff_getElem.mp listed
  have number : (rows.map key)[place]? = (List.range' 1 rows.length)[place]? := by rw [numbered]
  rw [getElem?_map, getElem?_eq_getElem bound, getElem?_range' bound, Option.map_some, Option.some.injEq]
    at number
  rw [number, show 1 + 1 * place - 1 = place by omega, getElem?_eq_getElem bound]

end Styller.Library.Table
