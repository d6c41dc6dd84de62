import Mathlib.Data.List.Basic

/-! Loops over arrays: shifts by one place, changes of some rows, entries that one of the steps sets, and values that one
loop pushes and another one reads. -/

namespace Styller.Library

open List Function

universe u v w

namespace Shift

section
variable {Value : Type u}

/-- Every place up to the bound takes the value of the next one, from the first to the last. -/
def down (bound : Nat) (row : Nat → Value) : Nat → Value :=
  (List.range bound).foldl (fun row place => Function.update row place (row (place + 1))) row

/-- Every place up to the bound gives its value to the next one, from the last to the first. -/
def up (bound : Nat) (row : Nat → Value) : Nat → Value :=
  (List.range bound).reverse.foldl (fun row place => Function.update row (place + 1) (row place)) row

theorem down_apply (bound : Nat) (row : Nat → Value) (place : Nat) :
    down bound row place = if place < bound then row (place + 1) else row place := by
  induction bound generalizing place with
  | zero => rw [if_neg (Nat.not_lt_zero place), down, range_zero, foldl_nil]
  | succ bound ih =>
    rw [down, range_succ, foldl_append, foldl_cons, foldl_nil, ← down]
    by_cases last : place = bound
    · subst last
      rw [update_self, ih, if_neg (by omega), if_pos (Nat.lt_succ_self place)]
    · rw [update_of_ne last, ih]
      by_cases before : place < bound
      · rw [if_pos before, if_pos (Nat.lt_succ_of_lt before)]
      · rw [if_neg before, if_neg (by omega)]

theorem up_apply (bound : Nat) (row : Nat → Value) (place : Nat) :
    up bound row place = if 0 < place ∧ place ≤ bound then row (place - 1) else row place := by
  induction bound generalizing row with
  | zero => rw [if_neg (by omega), up, range_zero, reverse_nil, foldl_nil]
  | succ bound ih =>
    rw [up, range_succ, reverse_append, reverse_singleton, singleton_append, foldl_cons, ← up, ih]
    by_cases last : place = bound + 1
    · subst last
      rw [if_neg (by omega), update_self, if_pos (by omega), Nat.add_sub_cancel]
    · by_cases inside : 0 < place ∧ place ≤ bound
      · rw [if_pos inside, update_of_ne (by omega), if_pos ⟨inside.1, Nat.le_succ_of_le inside.2⟩]
      · rw [if_neg inside, update_of_ne last, if_neg (by omega)]

end

section
variable {Place : Type u} {Value : Type v} [DecidableEq Place]

/-- A change of some rows, one after the other. -/
def each (change : Value → Value) (places : List Place) (rows : Place → Value) : Place → Value :=
  places.foldl (fun rows place => Function.update rows place (change (rows place))) rows

theorem each_apply (change : Value → Value) {places : List Place} (nodup : places.Nodup) (rows : Place → Value) (place : Place) :
    each change places rows place = if place ∈ places then change (rows place) else rows place := by
  induction places generalizing rows with
  | nil => rw [if_neg not_mem_nil, each, foldl_nil]
  | cons head places ih =>
    obtain ⟨absent, nodup⟩ := nodup_cons.mp nodup
    rw [each, foldl_cons, ← each, ih nodup]
    by_cases here : place = head
    · subst here
      rw [if_neg absent, update_self, if_pos mem_cons_self]
    · rw [update_of_ne here]
      simp only [mem_cons, here, false_or]

variable {Field : Type w} (field : Value → Field) (change : Value → Value)

theorem each_sets {value : Field} (sets : ∀ row, field (change row) = value) (places : List Place) (rows : Place → Value) (place : Place) :
    field (each change places rows place) = if place ∈ places then value else field (rows place) := by
  induction places generalizing rows with
  | nil => rfl
  | cons first rest ih =>
    rw [each, foldl_cons, ← each, ih]
    by_cases later : place ∈ rest
    · rw [if_pos later, if_pos (mem_cons_of_mem _ later)]
    · rw [if_neg later]
      by_cases here : place = first
      · subst here
        rw [update_self, sets, if_pos mem_cons_self]
      · rw [update_of_ne here, if_neg (fun listed => (mem_cons.mp listed).elim here later)]

theorem each_keeps (keeps : ∀ row, field (change row) = field row) (places : List Place) (rows : Place → Value) (place : Place) :
    field (each change places rows place) = field (rows place) := by
  induction places generalizing rows with
  | nil => rfl
  | cons first rest ih =>
    rw [each, foldl_cons, ← each, ih]
    by_cases here : place = first
    · subst here
      rw [update_self, keeps]
    · rw [update_of_ne here]

end

section
variable {State : Type u} {Label : Type v} {Value : Type w} {step : State → Label → State} {kept : State → Prop}
  (stays : ∀ state label, kept state → kept (step state label)) (entry : State → Value) {value : Value} {labels : List Label}
include stays

theorem foldl_keeps (keeps : ∀ state, kept state → ∀ label ∈ labels, entry (step state label) = entry state) {state : State}
    (start : kept state) : entry (labels.foldl step state) = entry state := by
  induction labels generalizing state with
  | nil => rfl
  | cons label labels ih =>
    rw [foldl_cons, ih (fun state holds other listed => keeps state holds other (mem_cons_of_mem _ listed))
      (stays state label start)]
    exact keeps state start label mem_cons_self

theorem foldl_sets
    (keeps : ∀ state, kept state → ∀ label ∈ labels, entry (step state label) = entry state ∨ entry (step state label) = value)
    (sets : ∃ label ∈ labels, ∀ state, kept state → entry (step state label) = value) {state : State} (start : kept state) :
    entry (labels.foldl step state) = value := by
  have along : ∀ (rest : List Label), (∀ label ∈ rest, label ∈ labels) → ∀ state, kept state →
      (entry state = value ∨ ∃ label ∈ rest, ∀ state, kept state → entry (step state label) = value) →
      entry (rest.foldl step state) = value := by
    intro rest listed
    induction rest with
    | nil =>
      rintro state _ (set_already | ⟨label, none_left, _⟩)
      · exact set_already
      · cases none_left
    | cons label rest ih =>
      intro state holds first
      rw [foldl_cons]
      apply ih (fun other later => listed other (mem_cons_of_mem _ later)) _ (stays state label holds)
      rcases first with set_already | ⟨other, later, sets⟩
      · rcases keeps state holds label (listed label mem_cons_self) with same | set_again
        · exact .inl (same.trans set_already)
        · exact .inl set_again
      · rcases mem_cons.mp later with rfl | later
        · exact .inl (sets state holds)
        · exact .inr ⟨other, later, sets⟩
  exact along labels (fun _ listed => listed) state start (.inr sets)

end

section
variable {Item : Type u} {Value : Type v} (reads : Item → Bool) (own : Item → Value) (blank : Value)

/-- Every item pushes a value, a blank one if it will not read; those that read take the values in turn. -/
def readInTurn (items : List Item) : List (Item × Value) :=
  (items.filter reads).zip (items.map fun item => if reads item then own item else blank)

variable {reads own blank}

/-- The items that read get their own values, just where no other item stands before one of them. -/
theorem readInTurn_eq_iff (filled : ∀ item, own item ≠ blank) (items : List Item) :
    readInTurn reads own blank items = (items.filter reads).map (fun item => (item, own item)) ↔
      items.Pairwise fun earlier later => reads later = true → reads earlier = true := by
  induction items with
  | nil => exact iff_of_true rfl .nil
  | cons item items ih =>
    rw [pairwise_cons, readInTurn, map_cons]
    by_cases here : reads item = true
    · rw [filter_cons_of_pos here, zip_cons_cons, map_cons, if_pos here, cons_inj_right, ← readInTurn, ih]
      exact ⟨fun rest => ⟨fun _ _ _ => here, rest⟩, And.right⟩
    · rw [filter_cons_of_neg here, if_neg here]
      constructor
      · intro same
        have nobody : items.filter reads = [] := by
          cases listed : items.filter reads with
          | nil => rfl
          | cons first others =>
            rw [listed, zip_cons_cons, map_cons, List.cons.injEq, Prod.mk.injEq] at same
            exact absurd same.1.2.symm (filled first)
        refine ⟨fun later listed reading => absurd reading (filter_eq_nil_iff.mp nobody later listed), ?_⟩
        rw [← ih, readInTurn, nobody]
        rfl
      · rintro ⟨first, -⟩
        have nobody : items.filter reads = [] :=
          filter_eq_nil_iff.mpr fun later listed reading => here (first later listed reading)
        rw [nobody]
        rfl

/-- Blank values come to the same items in whatever turn. -/
theorem readInTurn_of_blank (empty : ∀ item, own item = blank) (items : List Item) :
    readInTurn reads own blank items = (items.filter reads).map (fun item => (item, own item)) := by
  have pushed : (items.map fun item => if reads item then own item else blank) = List.replicate items.length blank := by
    simp only [empty, ite_self, map_const']
  have short : (items.filter reads).length ≤ items.length := length_filter_le _ _
  rw [readInTurn, pushed]
  apply ext_getElem
  · simpa using Nat.min_eq_left short
  · intro place _ _
    simp [empty]

end

end Shift

end Styller.Library
