import Mathlib.Order.Basic

/-! Levels on a curve of thresholds that grows up to some level. -/

namespace Styller.Library

/-- Each threshold below a level is less than the next one. -/
def Grows (curve : Nat → Nat) (level : Nat) : Prop := ∀ lower, 1 ≤ lower → lower < level → curve lower < curve (lower + 1)

/-- The next threshold is not a higher one. -/
def Stops (curve : Nat → Nat) (level : Nat) : Prop := curve (level + 1) ≤ curve level

instance (curve : Nat → Nat) (level : Nat) : Decidable (Stops curve level) :=
  inferInstanceAs (Decidable (curve (level + 1) ≤ curve level))

/-- The level of an amount: the one whose threshold it reaches without the next one, or the one where the curve stops growing. -/
structure LevelOf (curve : Nat → Nat) (amount level : Nat) : Prop where
  positive : 1 ≤ level
  grows : Grows curve level
  reached : curve level ≤ amount
  last : amount < curve (level + 1) ∨ Stops curve level

variable {curve : Nat → Nat} {amount other level top : Nat}

theorem grows_one : Grows curve 1 := fun _ positive less => absurd positive (Nat.not_le.mpr less)

theorem Grows.mono (grows : Grows curve top) (below : level ≤ top) : Grows curve level :=
  fun lower positive less => grows lower positive (Nat.lt_of_lt_of_le less below)

theorem Grows.up (grows : Grows curve level) (next : curve level < curve (level + 1)) : Grows curve (level + 1) := by
  intro lower positive less
  rcases Nat.lt_or_eq_of_le (Nat.le_of_lt_succ less) with below | same
  · exact grows lower positive below
  · rwa [same]

theorem Grows.le (grows : Grows curve top) (positive : 1 ≤ level) (below : level ≤ top) : curve level ≤ curve top := by
  induction below with
  | refl => exact Nat.le_refl _
  | @step top below ih =>
    have before := ih (grows.mono (Nat.le_succ top))
    exact Nat.le_trans before (Nat.le_of_lt (grows top (Nat.le_trans positive below) (Nat.lt_succ_self top)))

/-- A greater amount has no lower level. -/
theorem LevelOf.mono (levelOf : LevelOf curve amount level) (more : amount ≤ other) (otherLevel : LevelOf curve other top) :
    level ≤ top := by
  by_contra above
  have less : top + 1 ≤ level := Nat.succ_le_of_lt (Nat.lt_of_not_le above)
  rcases otherLevel.last with below | stops
  · have threshold := levelOf.grows.le (Nat.succ_pos top) less
    exact absurd (Nat.le_trans threshold (Nat.le_trans levelOf.reached more)) (Nat.not_le.mpr below)
  · exact absurd (levelOf.grows top otherLevel.positive less) (Nat.not_lt.mpr stops)

theorem LevelOf.unique (levelOf : LevelOf curve amount level) (topLevel : LevelOf curve amount top) : level = top :=
  Nat.le_antisymm (levelOf.mono (Nat.le_refl amount) topLevel) (topLevel.mono (Nat.le_refl amount) levelOf)

theorem LevelOf.iff_eq (levelOf : LevelOf curve amount level) (other : Nat) : LevelOf curve amount other ↔ other = level := by
  constructor
  · exact fun there => there.unique levelOf
  · intro same
    rwa [same]

end Styller.Library
