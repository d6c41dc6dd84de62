import Mathlib.Data.List.Perm.Basic
import Mathlib.Data.List.Nodup

/-! Vectors whose order does not matter: what is removed gives its place to the last entry, and what is there already is
not added again. -/

namespace Styller.Library

open List

universe u

namespace Unordered

variable {Value : Type u} [DecidableEq Value]

/-- The last entry takes the first place of the value, and the vector loses its end. -/
def remove (list : List Value) (value : Value) : List Value :=
  match list.getLast? with
  | some last => if value ∈ list then (list.replace value last).dropLast else list
  | none => list

/-- The entries that are missing, added one by one. -/
def addMissing (list more : List Value) : List Value :=
  more.foldl (fun list value => if value ∈ list then list else list ++ [value]) list

variable {list more : List Value} {value other : Value}

theorem replace_first {front back : List Value} (first : value ∉ front) (last : Value) :
    (front ++ value :: back).replace value last = front ++ last :: back := by
  induction front with
  | nil => rw [nil_append, replace_cons, beq_self_eq_true, nil_append]
  | cons head front ih =>
    obtain ⟨different, first⟩ := ne_and_not_mem_of_not_mem_cons first
    have unequal : (value == head) = false := beq_eq_false_iff_ne.mpr different
    rw [cons_append, replace_cons, unequal, ih first, cons_append]

theorem remove_perm (listed : value ∈ list) : (remove list value).Perm (list.erase value) := by
  obtain ⟨front, back, rfl, first⟩ := eq_append_cons_of_mem listed
  rw [erase_append_right _ first, erase_cons_head, remove]
  rcases eq_nil_or_concat back with rfl | ⟨middle, last, rfl⟩
  · rw [getLast?_concat]
    simp only [if_pos listed]
    rw [replace_first first, dropLast_concat, append_nil]
  · rw [concat_eq_append] at listed ⊢
    have end_of : (front ++ value :: (middle ++ [last])).getLast? = some last := by
      rw [← cons_append, ← append_assoc, getLast?_concat]
    rw [end_of]
    simp only [if_pos listed]
    rw [replace_first first, ← cons_append, ← append_assoc, dropLast_concat]
    apply List.Perm.append_left
    exact (perm_append_singleton last middle).symm

theorem mem_remove (nodup : list.Nodup) (listed : value ∈ list) : other ∈ remove list value ↔ other ≠ value ∧ other ∈ list := by
  rw [(remove_perm listed).mem_iff, nodup.mem_erase_iff]

theorem nodup_remove (nodup : list.Nodup) (listed : value ∈ list) : (remove list value).Nodup :=
  (remove_perm listed).nodup_iff.mpr (nodup.erase value)

omit [DecidableEq Value] in
theorem nodup_push : (list ++ [value]).Nodup ↔ value ∉ list ∧ list.Nodup := by
  rw [← concat_eq_append, nodup_concat]

theorem mem_addMissing : other ∈ addMissing list more ↔ other ∈ list ∨ other ∈ more := by
  induction more generalizing list with
  | nil => rw [addMissing, foldl_nil, or_iff_left not_mem_nil]
  | cons head more ih =>
    rw [addMissing, foldl_cons, ← addMissing, ih, mem_cons]
    split
    · next listed =>
      constructor
      · exact Or.imp_right .inr
      · rintro (old | rfl | new)
        · exact .inl old
        · exact .inl listed
        · exact .inr new
    · rw [mem_append, mem_singleton, or_assoc]

theorem nodup_addMissing : (addMissing list more).Nodup ↔ list.Nodup := by
  induction more generalizing list with
  | nil => rw [addMissing, foldl_nil]
  | cons head more ih =>
    rw [addMissing, foldl_cons, ← addMissing, ih]
    split
    · rfl
    · next absent =>
      rw [nodup_push]
      exact and_iff_right absent

end Unordered

end Styller.Library
