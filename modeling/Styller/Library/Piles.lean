import Mathlib.Algebra.Order.BigOperators.Group.List
import Mathlib.Data.List.Count
import Mathlib.Tactic.Ring

/-! Piles of things of one kind each, newest first: what is brought goes on a pile of its kind while one has room. -/

namespace Styller.Library.Piles

open List

universe u

variable {Kind : Type u} (size : Kind → Nat)

/-- Some of a kind is brought where at most one pile of it has room: it goes on that pile, and what is left over, or all of it,
is a new pile in front. -/
inductive Put (kind : Kind) (count : Nat) : List (Kind × Nat) → List (Kind × Nat) → Prop where
  | front {piles : List (Kind × Nat)} (full : ∀ pile ∈ piles, pile.1 = kind → pile.2 = size kind) :
      Put kind count piles ((kind, count) :: piles)
  | onto {before after : List (Kind × Nat)} {held : Nat} (fits : held + count ≤ size kind) :
      Put kind count (before ++ (kind, held) :: after) (before ++ (kind, held + count) :: after)
  | spill {before after : List (Kind × Nat)} {held rest : Nat} (split : held + count = size kind + rest) (some : 0 < rest)
      (less : rest ≤ count) (full : ∀ pile ∈ before ++ after, pile.1 = kind → pile.2 = size kind) :
      Put kind count (before ++ (kind, held) :: after) ((kind, rest) :: before ++ (kind, size kind) :: after)

/-- What stands after piles were brought one after the other, the last of them first in the list. -/
inductive Filled : List (Kind × Nat) → List (Kind × Nat) → Prop where
  | nil : Filled [] []
  | cons {kind : Kind} {count : Nat} {brought piles next : List (Kind × Nat)} (filled : Filled brought piles)
      (put : Put size kind count piles next) :
      Filled ((kind, count) :: brought) next

/-- Behind the first pile of a kind all are full. -/
def Levelled (piles : List (Kind × Nat)) : Prop :=
  piles.Pairwise fun front back => front.1 = back.1 → back.2 = size back.1

/-- Piles that are not empty, and not larger than full ones. -/
def Sized (piles : List (Kind × Nat)) : Prop := ∀ pile ∈ piles, 0 < pile.2 ∧ pile.2 ≤ size pile.1

/-- How much there is of a kind. -/
def total [DecidableEq Kind] (kind : Kind) (piles : List (Kind × Nat)) : Nat :=
  (piles.map fun pile => if pile.1 = kind then pile.2 else 0).sum

variable {size} {kind : Kind} {count : Nat} {piles next brought first second : List (Kind × Nat)}

theorem Put.length_le (put : Put size kind count piles next) : next.length ≤ piles.length + 1 := by
  cases put with
  | front => exact Nat.le_refl _
  | onto | spill => simp

theorem Put.sum (put : Put size kind count piles next) : (next.map Prod.snd).sum = count + (piles.map Prod.snd).sum := by
  cases put with
  | front => rfl
  | onto => simp; omega
  | spill split => simp; omega

/-- Where a pile is added, it is in front and of the kind that was brought. -/
theorem Put.kinds (put : Put size kind count piles next) (more : next.length = piles.length + 1) :
    next.map Prod.fst = kind :: piles.map Prod.fst := by
  cases put with
  | front => rfl
  | onto => simp at more
  | spill => simp

theorem Put.total [DecidableEq Kind] (put : Put size kind count piles next) (other : Kind) :
    total other next = total other [(kind, count)] + total other piles := by
  cases put with
  | front => simp [Piles.total]
  | onto =>
    by_cases same : kind = other
    · simp [Piles.total, same]; omega
    · simp [Piles.total, same]
  | spill split =>
    by_cases same : kind = other
    · subst same
      simp [Piles.total]
      omega
    · simp [Piles.total, same]

theorem Put.sized (put : Put size kind count piles next) (positive : 0 < count) (small : count ≤ size kind)
    (sized : Sized size piles) : Sized size next := by
  cases put with
  | front => exact forall_mem_cons.mpr ⟨⟨positive, small⟩, sized⟩
  | onto fits =>
    rw [Sized, forall_mem_append, forall_mem_cons] at sized ⊢
    exact ⟨sized.1, ⟨Nat.lt_of_lt_of_le sized.2.1.1 (Nat.le_add_right _ _), fits⟩, sized.2.2⟩
  | spill split some less =>
    rw [Sized, forall_mem_append, forall_mem_cons] at sized
    rw [cons_append, Sized, forall_mem_cons, forall_mem_append, forall_mem_cons]
    exact ⟨⟨some, Nat.le_trans less small⟩, sized.1, ⟨Nat.lt_of_lt_of_le positive small, Nat.le_refl _⟩, sized.2.2⟩

theorem Put.levelled (put : Put size kind count piles next) (levelled : Levelled size piles) : Levelled size next := by
  unfold Levelled at *
  cases put with
  | front full =>
    refine pairwise_cons.mpr ⟨fun pile listed same => ?_, levelled⟩
    exact (full pile listed same.symm).trans (congrArg size same)
  | onto fits =>
    rw [pairwise_append, pairwise_cons] at levelled ⊢
    obtain ⟨front, ⟨here, back⟩, between⟩ := levelled
    refine ⟨front, ⟨here, back⟩, fun pile listed other found same => ?_⟩
    rcases mem_cons.mp found with rfl | later
    · -- a full pile takes nothing more
      have held := between pile listed _ mem_cons_self same
      dsimp only at held fits ⊢
      omega
    · exact between pile listed other (mem_cons_of_mem _ later) same
  | spill split some less full =>
    rw [pairwise_append, pairwise_cons] at levelled
    obtain ⟨front, ⟨here, back⟩, between⟩ := levelled
    rw [cons_append, pairwise_cons, pairwise_append, pairwise_cons]
    refine ⟨fun pile listed same => ?_, front, ⟨here, back⟩, fun pile listed other found same => ?_⟩
    · rcases mem_append.mp listed with before | found
      · exact (full pile (mem_append_left _ before) same.symm).trans (congrArg size same)
      · rcases mem_cons.mp found with rfl | after
        · rfl
        · exact (full pile (mem_append_right _ after) same.symm).trans (congrArg size same)
    · rcases mem_cons.mp found with rfl | later
      · rfl
      · exact between pile listed other (mem_cons_of_mem _ later) same

theorem Filled.length_le (filled : Filled size brought piles) : piles.length ≤ brought.length := by
  induction filled with
  | nil => exact Nat.le_refl _
  | cons _ put ih => exact Nat.le_trans put.length_le (Nat.succ_le_succ ih)

theorem Filled.sum (filled : Filled size brought piles) : (piles.map Prod.snd).sum = (brought.map Prod.snd).sum := by
  induction filled with
  | nil => rfl
  | cons _ put ih => rw [put.sum, ih, map_cons, sum_cons]

theorem Filled.total [DecidableEq Kind] (filled : Filled size brought piles) (kind : Kind) :
    total kind piles = total kind brought := by
  induction filled with
  | nil => rfl
  | cons _ put ih => rw [put.total, ih]; simp [Piles.total]

theorem Filled.kept (filled : Filled size brought piles) (sized : Sized size brought) : Levelled size piles ∧ Sized size piles := by
  induction filled with
  | nil => exact ⟨.nil, nofun⟩
  | cons _ put ih =>
    obtain ⟨⟨positive, small⟩, rest⟩ := forall_mem_cons.mp sized
    obtain ⟨levelled, kept⟩ := ih rest
    exact ⟨put.levelled levelled, put.sized positive small kept⟩

theorem Filled.kinds (filled : Filled size brought piles) (many : piles.length = brought.length) :
    piles.map Prod.fst = brought.map Prod.fst := by
  induction filled with
  | nil => rfl
  | cons filled put ih =>
    have before := filled.length_le
    have step := put.length_le
    rw [length_cons] at many
    rw [put.kinds (by omega), ih (by omega), map_cons]

section
variable [DecidableEq Kind]

theorem total_full (kind : Kind) (full : ∀ pile ∈ piles, pile.1 = kind → pile.2 = size kind) :
    total kind piles = (piles.map Prod.fst).count kind * size kind := by
  induction piles with
  | nil => simp [total]
  | cons pile piles ih =>
    obtain ⟨here, rest⟩ := forall_mem_cons.mp full
    have tail := ih rest
    unfold total at tail ⊢
    rw [map_cons, sum_cons, tail, map_cons, count_cons]
    by_cases same : pile.1 = kind
    · simp only [same, if_true, beq_self_eq_true, here same]
      ring
    · simp [same]

theorem total_head (levelled : Levelled size ((kind, count) :: piles)) :
    total kind ((kind, count) :: piles) = count + (piles.map Prod.fst).count kind * size kind := by
  have full : ∀ pile ∈ piles, pile.1 = kind → pile.2 = size kind := fun pile listed same =>
    ((pairwise_cons.mp levelled).1 pile listed same.symm).trans (congrArg size same)
  rw [← total_full kind full]
  simp [total]

theorem eq_of_total (one : Levelled size first) (two : Levelled size second)
    (kinds : first.map Prod.fst = second.map Prod.fst) (totals : ∀ kind, total kind first = total kind second) : first = second := by
  induction first generalizing second with
  | nil => exact (map_eq_nil_iff.mp kinds.symm).symm
  | cons pile first ih =>
    obtain ⟨kind, count⟩ := pile
    cases second with
    | nil => cases kinds
    | cons other second =>
      obtain ⟨otherKind, held⟩ := other
      obtain ⟨rfl, rest⟩ := List.cons.inj kinds
      have same : count = held := by
        have here := totals kind
        rw [total_head one, total_head two, rest] at here
        exact Nat.add_right_cancel here
      subst same
      refine congrArg _ (ih (pairwise_cons.mp one).2 (pairwise_cons.mp two).2 rest fun other => ?_)
      exact Nat.add_left_cancel (totals other)

/-- As many piles of a kind stand as there have to be. -/
theorem count_bounds (levelled : Levelled size piles) (sized : Sized size piles) (kind : Kind) :
    total kind piles ≤ (piles.map Prod.fst).count kind * size kind ∧
      ∀ less < (piles.map Prod.fst).count kind, less * size kind < total kind piles := by
  induction piles with
  | nil => simp [total]
  | cons pile piles ih =>
    obtain ⟨other, count⟩ := pile
    obtain ⟨⟨positive, small⟩, rest⟩ := forall_mem_cons.mp sized
    dsimp only at positive small
    rw [map_cons, count_cons]
    by_cases same : other = kind
    · subst same
      rw [total_head levelled, beq_self_eq_true, if_pos rfl, Nat.succ_mul]
      refine ⟨by omega, fun less below => ?_⟩
      have part := Nat.mul_le_mul_right (size other) (Nat.le_of_lt_succ below)
      omega
    · obtain ⟨above, below⟩ := ih (pairwise_cons.mp levelled).2 rest
      have here : total kind ((other, count) :: piles) = total kind piles := by simp [total, same]
      rw [here, beq_false_of_ne same, if_neg Bool.false_ne_true]
      exact ⟨above, below⟩

theorem count_eq_of_total (one : Levelled size first) (two : Levelled size second) (small : Sized size first)
    (other : Sized size second) (totals : ∀ kind, total kind first = total kind second) (kind : Kind) :
    (first.map Prod.fst).count kind = (second.map Prod.fst).count kind := by
  obtain ⟨above, below⟩ := count_bounds one small kind
  obtain ⟨most, under⟩ := count_bounds two other kind
  rw [totals kind] at above below
  rcases Nat.lt_trichotomy ((first.map Prod.fst).count kind) ((second.map Prod.fst).count kind) with less | same | more
  · exact absurd (under _ less) (Nat.not_lt.mpr above)
  · exact same
  · exact absurd (below _ more) (Nat.not_lt.mpr most)

end

/-- Levelled piles whose kinds read the same from both ends come back when they are brought from the first to the last. -/
theorem Filled.restores (filled : Filled size first.reverse piles) (levelled : Levelled size first) (sized : Sized size first)
    (mirrored : (first.map Prod.fst).reverse = first.map Prod.fst) : piles = first := by
  classical
  have sized' : Sized size first.reverse := fun pile listed => sized pile (mem_reverse.mp listed)
  obtain ⟨made, small⟩ := filled.kept sized'
  have totals : ∀ kind, Piles.total kind piles = Piles.total kind first := by
    intro kind
    rw [filled.total, Piles.total, map_reverse, sum_reverse]
    rfl
  have many : piles.length = first.length := by
    have kinds := perm_iff_count.mpr (count_eq_of_total made levelled small sized totals)
    simpa using kinds.length_eq
  have kinds : piles.map Prod.fst = first.map Prod.fst := by
    rw [filled.kinds (by rw [many, length_reverse]), map_reverse, mirrored]
  exact eq_of_total made levelled kinds totals

/-- What is nowhere more than another and as much in all is the same. -/
theorem eq_of_sum_eq {less more : List Nat} (each : List.Forall₂ (· ≤ ·) less more) (sum : less.sum = more.sum) : less = more := by
  induction each with
  | nil => rfl
  | cons here rest ih =>
    have tail := rest.sum_le_sum
    simp only [sum_cons] at sum
    have same : _ = _ := ih (by omega)
    rw [same] at sum ⊢
    rw [Nat.add_right_cancel sum]

end Styller.Library.Piles
