import Mathlib.Data.List.Nodup
import Mathlib.Logic.Relation

/-! Walks along a partial function: where they end, or that they come round, and a search that keeps the places it has been to. -/

namespace Styller.Library

universe u

namespace Orbit

variable {Place : Type u} (next : Place → Option Place)

/-- The walk from a place ends at another one after some steps. -/
inductive EndsIn : Nat → Place → Place → Prop where
  | here {place : Place} (last : next place = none) : EndsIn 0 place place
  | step {steps : Nat} {place other goal : Place} (leads : next place = some other) (later : EndsIn steps other goal) :
    EndsIn (steps + 1) place goal

/-- The walk from a place comes to another one. -/
def Leads : Place → Place → Prop := Relation.ReflTransGen fun place other => next place = some other

/-- The walk from a place comes to one that it comes to again. -/
def ComesRound (place : Place) : Prop :=
  ∃ inner, Leads next place inner ∧ Relation.TransGen (fun place other => next place = some other) inner inner

/-- The walk from a place never ends. -/
def Endless (place : Place) : Prop := ∀ steps goal, ¬ EndsIn next steps place goal

variable {next} {steps : Nat} {place other goal : Place}

theorem EndsIn.unique (ends : EndsIn next steps place goal) {count : Nat} {target : Place}
    (again : EndsIn next count place target) : steps = count ∧ goal = target := by
  induction ends generalizing count with
  | here last =>
    cases again with
    | here => exact ⟨rfl, rfl⟩
    | step leads => exact absurd (last.symm.trans leads) nofun
  | step leads _ ih =>
    cases again with
    | here last => exact absurd (last.symm.trans leads) nofun
    | step other later =>
      cases Option.some.inj (leads.symm.trans other)
      obtain ⟨rfl, rfl⟩ := ih later
      exact ⟨rfl, rfl⟩

theorem EndsIn.of_leads (leads : Leads next place goal) (last : next goal = none) : ∃ steps, EndsIn next steps place goal := by
  induction leads using Relation.ReflTransGen.head_induction_on with
  | refl => exact ⟨0, .here last⟩
  | head first _ ih =>
    obtain ⟨steps, later⟩ := ih
    exact ⟨steps + 1, .step first later⟩

theorem EndsIn.further (ends : EndsIn next steps place goal) (first : next place = some other) :
    ∃ fewer, steps = fewer + 1 ∧ EndsIn next fewer other goal := by
  cases ends with
  | here last => exact absurd (last.symm.trans first) nofun
  | step leads later =>
    cases Option.some.inj (leads.symm.trans first)
    exact ⟨_, rfl, later⟩

theorem EndsIn.along (ends : EndsIn next steps place goal) (leads : Leads next place other) :
    ∃ fewer, fewer ≤ steps ∧ EndsIn next fewer other goal := by
  induction leads with
  | refl => exact ⟨steps, Nat.le_refl _, ends⟩
  | tail _ first ih =>
    obtain ⟨left, less, here⟩ := ih
    obtain ⟨fewer, rfl, later⟩ := here.further first
    exact ⟨fewer, Nat.le_of_succ_le less, later⟩

/-- A walk that comes round never ends. -/
theorem ComesRound.endless (round : ComesRound next place) : Endless next place := by
  intro steps goal ends
  obtain ⟨inner, leads, cycle⟩ := round
  obtain ⟨left, -, from_inner⟩ := ends.along leads
  obtain ⟨after, first, back⟩ := Relation.TransGen.head'_iff.mp cycle
  obtain ⟨fewer, rfl, later⟩ := from_inner.further first
  obtain ⟨again, less, returned⟩ := later.along back
  have same := (returned.unique from_inner).1
  omega

theorem Endless.leads (endless : Endless next place) : ∃ other, next place = some other := by
  cases first : next place with
  | none => exact absurd (.here first) (endless 0 place)
  | some other => exact ⟨other, rfl⟩

theorem Endless.step (endless : Endless next place) (first : next place = some other) : Endless next other :=
  fun steps goal later => endless (steps + 1) goal (.step first later)

/-- The places of a list that a search has not been to. -/
def unseen [DecidableEq Place] (places seen : List Place) : List Place := places.filter (· ∉ seen)

theorem unseen_append [DecidableEq Place] {places seen : List Place} (listed : place ∈ places) (fresh : place ∉ seen) :
    (unseen places (seen ++ [place])).length < (unseen places seen).length := by
  have sub : (unseen places (seen ++ [place])).Sublist (unseen places seen) := by
    apply List.monotone_filter_right
    intro other
    simp only [List.mem_append, not_or, decide_eq_true_eq]
    exact And.left
  apply Nat.lt_of_le_of_ne sub.length_le
  intro same
  have equal := sub.eq_of_length same
  have inside : place ∈ unseen places seen := List.mem_filter.mpr ⟨listed, by simpa using fresh⟩
  rw [← equal] at inside
  have outside := (List.mem_filter.mp inside).2
  simp at outside

end Orbit

end Styller.Library
