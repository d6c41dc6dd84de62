import Mathlib.Algebra.BigOperators.Intervals
import Mathlib.Algebra.Order.BigOperators.Group.Finset
import Styller.Library.Curve

/-! Levels that each need an amount of their own: how much they need together, and the level and the rest that an amount comes to. -/

namespace Styller.Library

/-- What each level needs, from a lowest level on up to the first one whose next one does not need more. -/
structure Ladder where
  req : Nat → Nat
  base : Nat
  ends : ∃ level, base ≤ level ∧ Stops req level

namespace Ladder
variable (ladder : Ladder)

/-- The highest level. -/
def top : Nat := Nat.find ladder.ends

/-- What the levels up to one need together, and a rest. -/
def total (level rest : Nat) : Nat := ∑ step ∈ Finset.Ioc ladder.base level, ladder.req step + rest

/-- What the highest level needs. -/
def cap : Nat := ladder.total ladder.top 0

/-- A level with a rest that is not enough for the next one. -/
structure Placed (level rest : Nat) : Prop where
  above : ladder.base ≤ level
  within : level ≤ ladder.top
  less : level < ladder.top → rest < ladder.req (level + 1)
  none : level = ladder.top → rest = 0

/-- Up from a level as far as an amount goes. -/
def climb : Nat → Nat → Nat → Nat × Nat
  | 0, level, _ => (level, 0)
  | steps + 1, level, amount =>
    if amount < ladder.req (level + 1) then (level, amount) else climb steps (level + 1) (amount - ladder.req (level + 1))

/-- The level and the rest that an amount comes to. -/
def place (amount : Nat) : Nat × Nat := ladder.climb (ladder.top - ladder.base) ladder.base amount

variable {ladder} {level other rest more amount : Nat}

theorem base_le_top (ladder : Ladder) : ladder.base ≤ ladder.top := (Nat.find_spec ladder.ends).1

theorem stops_top (ladder : Ladder) : Stops ladder.req ladder.top := (Nat.find_spec ladder.ends).2

/-- Below the highest level the next one needs more. -/
theorem grows (above : ladder.base ≤ level) (below : level < ladder.top) : ladder.req level < ladder.req (level + 1) := by
  have goes := Nat.find_min ladder.ends below
  exact Nat.lt_of_not_le fun stops => goes ⟨above, stops⟩

theorem lt_top_iff (above : ladder.base ≤ level) (within : level ≤ ladder.top) :
    level < ladder.top ↔ ladder.req level < ladder.req (level + 1) := by
  constructor
  · exact grows above
  · intro grows
    apply Nat.lt_of_le_of_ne within
    intro same
    have stops := stops_top ladder
    rw [← same] at stops
    exact absurd stops (Nat.not_le_of_lt grows)

theorem total_succ (above : ladder.base ≤ level) (rest : Nat) :
    ladder.total (level + 1) rest = ladder.total level (ladder.req (level + 1) + rest) := by
  unfold total
  rw [Finset.sum_Ioc_succ_top above, Nat.add_assoc]

theorem total_add (level rest more : Nat) : ladder.total level (rest + more) = ladder.total level rest + more :=
  (Nat.add_assoc ..).symm

theorem total_base (rest : Nat) : ladder.total ladder.base rest = rest := by
  unfold total
  rw [Finset.Ioc_self, Finset.sum_empty, Nat.zero_add]

theorem total_mono (ordered : level ≤ other) (rest : Nat) : ladder.total level rest ≤ ladder.total other rest := by
  unfold total
  apply Nat.add_le_add_right
  exact Finset.sum_le_sum_of_subset (Finset.Ioc_subset_Ioc_right ordered)

theorem Placed.lt (placed : ladder.Placed level rest) (below : level < other) (within : other ≤ ladder.top) :
    ladder.total level rest < ladder.total other more := by
  have less := placed.less (Nat.lt_of_lt_of_le below within)
  calc ladder.total level rest
      < ladder.total level (ladder.req (level + 1) + 0) := Nat.add_lt_add_left less _
    _ = ladder.total (level + 1) 0 := (total_succ placed.above 0).symm
    _ ≤ ladder.total other 0 := total_mono below 0
    _ ≤ ladder.total other more := Nat.add_le_add_left (Nat.zero_le more) _

/-- An amount comes to one place only. -/
theorem Placed.unique (first : ladder.Placed level rest) (second : ladder.Placed other more)
    (same : ladder.total level rest = ladder.total other more) : level = other ∧ rest = more := by
  rcases Nat.lt_trichotomy level other with below | equal | above
  · exact absurd same (Nat.ne_of_lt (first.lt below second.within))
  · subst equal
    exact ⟨rfl, Nat.add_left_cancel same⟩
  · exact absurd same.symm (Nat.ne_of_lt (second.lt above first.within))

/-- Below the highest level a rest is one that is not enough for the next. -/
theorem Placed.of_lt (above : ladder.base ≤ level) (below : level < ladder.top) (less : rest < ladder.req (level + 1)) :
    ladder.Placed level rest :=
  ⟨above, Nat.le_of_lt below, fun _ => less, fun last => absurd last (Nat.ne_of_lt below)⟩

theorem placed_top : ladder.Placed ladder.top 0 :=
  ⟨base_le_top ladder, Nat.le_refl _, fun less => absurd less (Nat.lt_irrefl _), fun _ => rfl⟩

theorem Placed.mono (placed : ladder.Placed level rest) (fewer : more ≤ rest) : ladder.Placed level more := by
  constructor
  · exact placed.above
  · exact placed.within
  · exact fun below => Nat.lt_of_le_of_lt fewer (placed.less below)
  · exact fun last => Nat.le_zero.mp (placed.none last ▸ fewer)

/-- The highest level is worth everything. -/
theorem Placed.full (placed : ladder.Placed level rest) (last : ¬ level < ladder.top) : ladder.total level rest = ladder.cap := by
  have top := Nat.le_antisymm placed.within (Nat.le_of_not_lt last)
  rw [placed.none top, top]
  rfl

theorem Placed.le_cap (placed : ladder.Placed level rest) : ladder.total level rest ≤ ladder.cap := by
  by_cases below : level < ladder.top
  · exact Nat.le_of_lt (placed.lt below (Nat.le_refl _))
  · exact Nat.le_of_eq (placed.full below)

/-- At the highest level nothing more is worth anything. -/
theorem Placed.unmoved (placed : ladder.Placed level rest) (unchanged : ¬ level < ladder.top ∨ amount = 0) :
    min (ladder.total level rest + amount) ladder.cap = ladder.total level rest := by
  rcases unchanged with last | none
  · rw [placed.full last]
    exact Nat.min_eq_right (Nat.le_add_right ..)
  · rw [none]
    exact Nat.min_eq_left placed.le_cap

theorem climb_placed (steps : Nat) (above : ladder.base ≤ level) (far : level + steps = ladder.top) :
    ladder.Placed (ladder.climb steps level amount).1 (ladder.climb steps level amount).2 ∧
      ladder.total (ladder.climb steps level amount).1 (ladder.climb steps level amount).2 =
        min (ladder.total level amount) ladder.cap := by
  induction steps generalizing level amount with
  | zero =>
    have there : level = ladder.top := far
    subst there
    refine ⟨placed_top, ?_⟩
    exact (Nat.min_eq_right (Nat.add_le_add_left (Nat.zero_le amount) _)).symm
  | succ steps ih =>
    unfold climb
    by_cases enough : amount < ladder.req (level + 1)
    · rw [if_pos enough]
      have placed : ladder.Placed level amount := .of_lt above (by omega) enough
      exact ⟨placed, (Nat.min_eq_left placed.le_cap).symm⟩
    · rw [if_neg enough]
      obtain ⟨placed, total⟩ := @ih (level + 1) (amount - ladder.req (level + 1)) (Nat.le_succ_of_le above) (by omega)
      refine ⟨placed, ?_⟩
      rw [total, total_succ above, Nat.add_sub_cancel' (Nat.le_of_not_lt enough)]

theorem place_placed (amount : Nat) : ladder.Placed (ladder.place amount).1 (ladder.place amount).2 :=
  (climb_placed _ (Nat.le_refl _) (Nat.add_sub_cancel' (base_le_top ladder))).1

/-- The place of an amount is worth it, as far as there are levels. -/
theorem total_place (amount : Nat) : ladder.total (ladder.place amount).1 (ladder.place amount).2 = min amount ladder.cap := by
  have climbed := (@climb_placed ladder ladder.base amount _ (Nat.le_refl _) (Nat.add_sub_cancel' (base_le_top ladder))).2
  rw [total_base] at climbed
  exact climbed

theorem Placed.eq_place (placed : ladder.Placed level rest) (worth : ladder.total level rest = min amount ladder.cap) :
    (level, rest) = ladder.place amount := by
  obtain ⟨levels, rests⟩ := placed.unique (place_placed amount) (worth.trans (total_place amount).symm)
  exact Prod.ext levels rests

section
variable {first second current next : UInt64}

theorem toNat_sum (fits : first.toNat + second.toNat < 2 ^ 64) : (first + second).toNat = first.toNat + second.toNat := by
  rw [UInt64.toNat_add]
  exact Nat.mod_eq_of_lt fits

/-- A step up to the next level subtracts no more than there is. -/
theorem step_covered (rest : current < next) (fits : current.toNat + second.toNat < 2 ^ 64) (reaches : next ≤ current + second) :
    decide (next < current) = false ∧ decide (second < next - current) = false ∧
      (second - (next - current)).toNat + next.toNat = current.toNat + second.toNat := by
  have less := UInt64.lt_iff_toNat_lt.mp rest
  have missing : (next - current).toNat = next.toNat - current.toNat :=
    UInt64.toNat_sub_of_le _ _ (UInt64.le_iff_toNat_le.mpr (Nat.le_of_lt less))
  have enough := UInt64.le_iff_toNat_le.mp reaches
  rw [toNat_sum fits] at enough
  have within : next - current ≤ second := by
    rw [UInt64.le_iff_toNat_le, missing]
    exact Nat.sub_le_iff_le_add'.mpr enough
  refine ⟨decide_eq_false ?_, decide_eq_false (UInt64.not_lt.mpr within), ?_⟩
  · rw [UInt64.lt_iff_toNat_lt]
    exact Nat.not_lt_of_lt less
  · rw [UInt64.toNat_sub_of_le _ _ within, missing]
    omega

/-- A sum that wraps is not enough for the next level. -/
theorem few_of_wrapped (rest : current < next) (wrapped : ¬ current.toNat + second.toNat < 2 ^ 64) : ¬ next ≤ current + second := by
  rw [UInt64.lt_iff_toNat_lt] at rest
  rw [UInt64.le_iff_toNat_le, UInt64.toNat_add]
  have small := second.toNat_lt
  omega

/-- A sum that wraps is worth less than before. -/
theorem Placed.wrapped (placed : ladder.Placed level first.toNat) (wrapped : ¬ first.toNat + second.toNat < 2 ^ 64) :
    ladder.total level (first + second).toNat ≠ min (ladder.total level first.toNat + second.toNat) ladder.cap := by
  have full := placed.le_cap
  have fewer : ladder.total level (first + second).toNat < ladder.total level first.toNat := by
    apply Nat.add_lt_add_left
    rw [UInt64.toNat_add]
    have small := second.toNat_lt
    have rest := first.toNat_lt
    omega
  apply Nat.ne_of_lt
  exact Nat.lt_of_lt_of_le fewer (Nat.le_min.mpr ⟨Nat.le_add_right .., full⟩)

end

end Ladder

end Styller.Library
