import Mathlib.Algebra.BigOperators.Group.List.Basic

/-! Totals that are kept up to date: what entries contribute is added when they come, taken away when they go, and exchanged
when they change. -/

namespace Styller.Library

open List

universe u v

namespace Ledger

variable {Amount : Type u} {Entry : Type v} [AddCommGroup Amount] (amount : Entry → Amount)

/-- The total is the base and what the entries contribute. -/
def Balanced (base total : Amount) (entries : List Entry) : Prop := total = base + (entries.map amount).sum

/-- The total after the entries that are to go are taken away one after the other. -/
def settle (goes : Entry → Bool) (total : Amount) (entries : List Entry) : Amount :=
  (entries.filter goes).foldl (fun total entry => total - amount entry) total

variable {amount} {base total : Amount} {entries front back : List Entry} {entry other : Entry}

theorem balanced_nil : Balanced amount base total [] ↔ total = base := by
  rw [Balanced, map_nil, sum_nil, add_zero]

theorem Balanced.push (balanced : Balanced amount base total entries) (entry : Entry) :
    Balanced amount base (total + amount entry) (entries ++ [entry]) := by
  unfold Balanced at balanced ⊢
  rw [balanced, map_append, sum_append, map_singleton, sum_singleton, add_assoc]

theorem sum_middle : ((front ++ entry :: back).map amount).sum = ((front ++ back).map amount).sum + amount entry := by
  rw [map_append, map_cons, sum_append, sum_cons, map_append, sum_append, add_right_comm, add_assoc]

theorem Balanced.remove (balanced : Balanced amount base total (front ++ entry :: back)) :
    Balanced amount base (total - amount entry) (front ++ back) := by
  unfold Balanced at balanced ⊢
  rw [balanced, sum_middle, ← add_assoc, add_sub_cancel_right]

theorem Balanced.insert (balanced : Balanced amount base total (front ++ back)) (entry : Entry) :
    Balanced amount base (total + amount entry) (front ++ entry :: back) := by
  unfold Balanced at balanced ⊢
  rw [balanced, sum_middle, add_assoc]

theorem Balanced.replace (balanced : Balanced amount base total (front ++ entry :: back)) (other : Entry) :
    Balanced amount base (total - amount entry + amount other) (front ++ other :: back) :=
  balanced.remove.insert other

/-- Entries that change but for what they contribute. -/
theorem Balanced.congr {changed : List Entry} (balanced : Balanced amount base total entries)
    (same : changed.map amount = entries.map amount) : Balanced amount base total changed := by
  unfold Balanced at balanced ⊢
  rw [same]
  exact balanced

theorem foldl_sub (entries : List Entry) (total : Amount) :
    entries.foldl (fun total entry => total - amount entry) total = total - (entries.map amount).sum := by
  induction entries generalizing total with
  | nil => rw [foldl_nil, map_nil, sum_nil, sub_zero]
  | cons entry rest ih => rw [foldl_cons, ih, map_cons, sum_cons, sub_sub]

theorem sum_filter (goes : Entry → Bool) (entries : List Entry) : (entries.map amount).sum =
    ((entries.filter goes).map amount).sum + ((entries.filter fun entry => !goes entry).map amount).sum := by
  induction entries with
  | nil => exact (add_zero 0).symm
  | cons entry rest ih =>
    cases gone : goes entry with
    | true =>
      rw [filter_cons_of_pos gone, filter_cons_of_neg (by simp [gone]), map_cons, sum_cons, ih, map_cons,
        sum_cons, add_assoc]
    | false =>
      rw [filter_cons_of_neg (by simp [gone]), filter_cons_of_pos (by simp [gone]), map_cons, sum_cons, ih,
        map_cons, sum_cons, add_left_comm]

/-- Taking away those that go leaves the others. -/
theorem Balanced.settle (balanced : Balanced amount base total entries) (goes : Entry → Bool) :
    Balanced amount base (Ledger.settle amount goes total entries) (entries.filter fun entry => !goes entry) := by
  unfold Balanced at balanced ⊢
  rw [Ledger.settle, foldl_sub, balanced, sum_filter goes entries, add_comm (((entries.filter goes).map amount).sum), ← add_assoc,
    add_sub_cancel_right]

end Ledger

/-- Numbers of 32 bits, which wrap around. -/
instance instAddCommGroupInt32 : AddCommGroup Int32 where
  add_assoc := Int32.add_assoc
  zero_add := Int32.zero_add
  add_zero := Int32.add_zero
  add_comm := Int32.add_comm
  neg_add_cancel := Int32.add_left_neg
  sub_eq_add_neg := Int32.sub_eq_add_neg
  nsmul := nsmulRec
  zsmul := zsmulRec

end Styller.Library
