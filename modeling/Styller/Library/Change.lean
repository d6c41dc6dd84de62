import Mathlib.Algebra.BigOperators.Group.List.Basic
import Mathlib.Algebra.GroupWithZero.Nat

/-! Paying an amount with coins of given worths, largest first, and dividing a
number of coins into stacks. -/

namespace Styller.Library

/-- How many coins of each worth the greedy payment takes. -/
def greedy : List Nat → Nat → List Nat
  | [], _ => []
  | worth :: rest, amount => amount / worth :: greedy rest (amount % worth)

/-- The part of an amount that the greedy payment leaves unpaid. -/
def unpaid : List Nat → Nat → Nat
  | [], amount => amount
  | worth :: rest, amount => unpaid rest (amount % worth)

@[simp] theorem unpaid_zero (worths : List Nat) : unpaid worths 0 = 0 := by
  induction worths with
  | nil => rfl
  | cons worth rest ih => simpa [unpaid] using ih

theorem unpaid_eq_zero_of_one_mem (unit : 1 ∈ worths) (amount : Nat) :
    unpaid worths amount = 0 := by
  induction worths generalizing amount with
  | nil => simp at unit
  | cons worth rest ih =>
    rcases List.mem_cons.mp unit with rfl | later
    · simp [unpaid, Nat.mod_one]
    · exact ih later (amount % worth)

theorem le_of_mem_greedy (member : coins ∈ greedy worths amount) : coins ≤ amount := by
  induction worths generalizing amount with
  | nil => cases member
  | cons worth rest ih =>
    rcases List.mem_cons.mp member with rfl | later
    · exact Nat.div_le_self _ _
    · exact Nat.le_trans (ih later) (Nat.mod_le _ _)

/-- Stacks of at most `size`: full ones first, then the rest. -/
def stacksOf (size coins : Nat) : List Nat :=
  List.replicate (coins / size) size ++ if coins % size = 0 then [] else [coins % size]

theorem sum_stacksOf (size coins : Nat) : (stacksOf size coins).sum = coins := by
  have whole := Nat.div_add_mod coins size
  rw [Nat.mul_comm] at whole
  unfold stacksOf
  split <;> simp_all

theorem stacksOf_bounds (positive : 0 < size) (member : stack ∈ stacksOf size coins) :
    1 ≤ stack ∧ stack ≤ size := by
  have small := Nat.mod_lt coins positive
  rcases List.mem_append.mp member with full | rest
  · obtain ⟨_, rfl⟩ := List.mem_replicate.mp full
    omega
  · by_cases whole : coins % size = 0
    · simp [whole] at rest
    · simp only [whole, if_false, List.mem_singleton] at rest
      omega

@[simp] theorem stacksOf_zero (size : Nat) : stacksOf size 0 = [] := by
  simp [stacksOf]

theorem stacksOf_of_lt (positive : 0 < coins) (small : coins < size) :
    stacksOf size coins = [coins] := by
  have rest : coins % size = coins := Nat.mod_eq_of_lt small
  have none : coins / size = 0 := Nat.div_eq_of_lt small
  simp [stacksOf, rest, none, Nat.ne_of_gt positive]

theorem stacksOf_of_le (positive : 0 < size) (large : size ≤ coins) :
    stacksOf size coins = size :: stacksOf size (coins - size) := by
  have count : coins / size = (coins - size) / size + 1 := by
    rw [Nat.div_eq coins size, if_pos ⟨positive, large⟩]
  have rest : coins % size = (coins - size) % size := Nat.mod_eq_sub_mod large
  simp [stacksOf, count, rest, List.replicate_succ]

theorem stacksOf_step (positive : 0 < size) (some : 0 < coins) :
    stacksOf size coins = min size coins :: stacksOf size (coins - min size coins) := by
  by_cases small : coins < size
  · rw [stacksOf_of_lt some small, Nat.min_eq_right (Nat.le_of_lt small), Nat.sub_self, stacksOf_zero]
  · have large : size ≤ coins := Nat.le_of_not_lt small
    rw [Nat.min_eq_left large, stacksOf_of_le positive large]

/-- How many coins of one worth cover an amount. -/
def covering (worth amount : Nat) : Nat := (amount + worth - 1) / worth

/-- The change for stacks of coins (worth of one coin and number) that pay an amount in
their order, when only the last of them is split. -/
def changeOf : List (Nat × Nat) → Nat → Nat
  | [], _ => 0
  | (worth, number) :: rest, amount =>
    if worth * number ≤ amount then changeOf rest (amount - worth * number)
    else worth * covering worth amount - amount

theorem covering_spec {worth : Nat} (amount : Nat) (positive : 0 < worth) :
    amount ≤ worth * covering worth amount ∧ worth * covering worth amount < amount + worth := by
  have whole := Nat.div_add_mod (amount + worth - 1) worth
  have rest := Nat.mod_lt (amount + worth - 1) positive
  unfold covering
  omega

theorem covering_pos {worth amount : Nat} (positive : 0 < worth) (some : 0 < amount) :
    0 < covering worth amount := by
  rcases Nat.eq_zero_or_pos (covering worth amount) with none | more
  · have enough := (covering_spec amount positive).1
    rw [none] at enough
    omega
  · exact more

theorem covering_le {worth number amount : Nat} (less : amount < worth * number) :
    covering worth amount ≤ number := by
  have positive : 0 < worth := Nat.pos_of_mul_pos_right (Nat.zero_lt_of_lt less)
  have few := (covering_spec amount positive).2
  have below : worth * covering worth amount < worth * (number + 1) := by
    rw [Nat.mul_add, Nat.mul_one]
    omega
  exact Nat.le_of_lt_succ (Nat.lt_of_mul_lt_mul_left below)

theorem changeOf_zero (piles : List (Nat × Nat)) (positive : ∀ stack ∈ piles, 0 < stack.1 * stack.2) :
    changeOf piles 0 = 0 := by
  cases piles with
  | nil => rfl
  | cons stack rest =>
    obtain ⟨worth, number⟩ := stack
    have some : ¬ worth * number ≤ 0 := by
      have some := positive (worth, number) List.mem_cons_self
      simp only at some
      omega
    have worthPositive : 0 < worth := by
      rcases Nat.eq_zero_or_pos worth with zero | more
      · simp [zero] at some
      · exact more
    have none : covering worth 0 = 0 := by
      unfold covering
      exact Nat.div_eq_of_lt (by omega)
    simp only [changeOf, if_neg some, none, Nat.mul_zero]

end Styller.Library
