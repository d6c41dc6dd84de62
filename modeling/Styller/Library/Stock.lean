import Mathlib.Algebra.BigOperators.Group.Finset.Basic
import Mathlib.Algebra.GroupWithZero.Nat

/-! Piles of goods in the hands of holders, and how much of a kind a set of
holders has before and after a pile is handed over, taken away or resized. -/

namespace Styller.Library

open List

universe u v w

/-- Which piles every holder has, and the kind and size of every pile. -/
structure Stock (Holder : Type u) (Pile : Type v) (Kind : Type w) where
  piles : Holder → List Pile
  kind : Pile → Kind
  size : Pile → Nat

namespace Stock

variable {Holder : Type u} {Pile : Type v} {Kind : Type w}

/-- No pile is listed twice, by one holder or by two. -/
structure Separate (stock : Stock Holder Pile Kind) : Prop where
  nodup : ∀ holder, (stock.piles holder).Nodup
  apart : ∀ holder other pile, pile ∈ stock.piles holder → pile ∈ stock.piles other → holder = other

/-- Nobody has the pile. -/
def Unheld (stock : Stock Holder Pile Kind) (pile : Pile) : Prop :=
  ∀ holder, pile ∉ stock.piles holder

/-- `holder` gets `pile`; read backwards, `holder` gives it up. -/
structure Placed (before after : Stock Holder Pile Kind) (holder : Holder) (pile : Pile) : Prop where
  here : (after.piles holder).Perm (pile :: before.piles holder)
  elsewhere : ∀ other, other ≠ holder → after.piles other = before.piles other
  kind : after.kind = before.kind
  size : after.size = before.size

/-- At most the kind and the size of one pile change. -/
structure Touched (before after : Stock Holder Pile Kind) (pile : Pile) : Prop where
  piles : after.piles = before.piles
  kind : ∀ other, other ≠ pile → after.kind other = before.kind other
  size : ∀ other, other ≠ pile → after.size other = before.size other

variable {before after : Stock Holder Pile Kind} {holder : Holder} {pile : Pile}

namespace Placed

theorem mem_here (placed : Placed before after holder pile) : pile ∈ after.piles holder :=
  placed.here.symm.subset mem_cons_self

theorem mem_iff (placed : Placed before after holder pile) :
    item ∈ after.piles other ↔ (other = holder ∧ item = pile) ∨ item ∈ before.piles other := by
  by_cases same : other = holder
  · subst same
    rw [placed.here.mem_iff, mem_cons]
    simp
  · rw [placed.elsewhere other same]
    simp [same]

theorem separate (placed : Placed before after holder pile) (separate : before.Separate)
    (unheld : before.Unheld pile) : after.Separate where
  nodup := by
    intro other
    by_cases same : other = holder
    · subst same
      exact placed.here.nodup_iff.mpr (nodup_cons.mpr ⟨unheld other, separate.nodup other⟩)
    · rw [placed.elsewhere other same]
      exact separate.nodup other
  apart := by
    intro first second item inFirst inSecond
    rcases placed.mem_iff.mp inFirst with ⟨rfl, rfl⟩ | oldFirst <;>
      rcases placed.mem_iff.mp inSecond with ⟨rfl, same⟩ | oldSecond
    · rfl
    · exact False.elim (unheld _ oldSecond)
    · exact False.elim (unheld _ (same ▸ oldFirst))
    · exact separate.apart first second item oldFirst oldSecond

/-- Read backwards: what is given up is nobody's. -/
theorem unheld_of_separate (placed : Placed before after holder pile) (separate : after.Separate) :
    before.Unheld pile := by
  intro other member
  by_cases same : other = holder
  · subst same
    have nodup := placed.here.nodup_iff.mp (separate.nodup other)
    exact (nodup_cons.mp nodup).1 member
  · have kept : pile ∈ after.piles other := placed.mem_iff.mpr (.inr member)
    exact same (separate.apart other holder pile kept placed.mem_here)

theorem separate_of_separate (placed : Placed before after holder pile) (separate : after.Separate) :
    before.Separate where
  nodup := by
    intro other
    by_cases same : other = holder
    · subst same
      exact (nodup_cons.mp (placed.here.nodup_iff.mp (separate.nodup other))).2
    · rw [← placed.elsewhere other same]
      exact separate.nodup other
  apart := fun first second item inFirst inSecond =>
    separate.apart first second item (placed.mem_iff.mpr (.inr inFirst))
      (placed.mem_iff.mpr (.inr inSecond))

end Placed

section
variable [DecidableEq Kind]

/-- The part of a pile that is of the given kind: all or nothing. -/
def amount (stock : Stock Holder Pile Kind) (kind : Kind) (pile : Pile) : Nat :=
  if stock.kind pile = kind then stock.size pile else 0

/-- What one holder has of a kind. -/
def held (stock : Stock Holder Pile Kind) (kind : Kind) (holder : Holder) : Nat :=
  ((stock.piles holder).map (stock.amount kind)).sum

/-- What a set of holders has of a kind. -/
def total (stock : Stock Holder Pile Kind) (kind : Kind) (holders : Finset Holder) : Nat :=
  ∑ holder ∈ holders, stock.held kind holder

theorem total_congr {kind : Kind} {holders : Finset Holder}
    (same : ∀ holder ∈ holders, after.held kind holder = before.held kind holder) :
    after.total kind holders = before.total kind holders :=
  Finset.sum_congr rfl same

/-- Only one holder's share changes. -/
theorem total_of_one [DecidableEq Holder] {kind : Kind} {holders : Finset Holder} (member : holder ∈ holders)
    (same : ∀ other, other ≠ holder → after.held kind other = before.held kind other) :
    after.total kind holders + before.held kind holder =
      before.total kind holders + after.held kind holder := by
  have rest : ∑ other ∈ holders.erase holder, after.held kind other =
      ∑ other ∈ holders.erase holder, before.held kind other :=
    Finset.sum_congr rfl (fun other left => same other (Finset.ne_of_mem_erase left))
  have new := Finset.add_sum_erase holders (after.held kind) member
  have old := Finset.add_sum_erase holders (before.held kind) member
  unfold total
  omega

namespace Placed

theorem amount (placed : Placed before after holder pile) (kind : Kind) :
    after.amount kind = before.amount kind := by
  funext other
  simp only [Stock.amount, placed.kind, placed.size]

theorem held_here (placed : Placed before after holder pile) (kind : Kind) :
    after.held kind holder = before.held kind holder + before.amount kind pile := by
  unfold Stock.held
  rw [placed.amount kind, (placed.here.map _).sum_eq, map_cons, sum_cons, Nat.add_comm]

theorem held_elsewhere (placed : Placed before after holder pile) (kind : Kind)
    (different : other ≠ holder) : after.held kind other = before.held kind other := by
  unfold Stock.held
  rw [placed.amount kind, placed.elsewhere other different]

/-- A pile that comes in adds its amount to every set that contains its new holder. -/
theorem total [DecidableEq Holder] (placed : Placed before after holder pile) (kind : Kind)
    (holders : Finset Holder) :
    after.total kind holders =
      before.total kind holders + if holder ∈ holders then before.amount kind pile else 0 := by
  by_cases member : holder ∈ holders
  · have one := total_of_one member
      (fun other different => placed.held_elsewhere kind different)
    have here := placed.held_here kind
    rw [if_pos member]
    omega
  · rw [if_neg member]
    apply total_congr
    intro other listed
    exact placed.held_elsewhere kind (fun same => member (same ▸ listed))

end Placed

namespace Touched

theorem amount_other (touched : Touched before after pile) (kind : Kind) (different : other ≠ pile) :
    after.amount kind other = before.amount kind other := by
  simp only [Stock.amount, touched.kind other different, touched.size other different]

theorem held_unheld (touched : Touched before after pile) (kind : Kind)
    (absent : pile ∉ before.piles holder) : after.held kind holder = before.held kind holder := by
  unfold Stock.held
  rw [touched.piles]
  congr 1
  apply map_congr_left
  intro other member
  exact touched.amount_other kind (fun same => absent (same ▸ member))

/-- A pile that nobody has does not count. -/
theorem total_unheld (touched : Touched before after pile) (kind : Kind) (holders : Finset Holder)
    (unheld : before.Unheld pile) : after.total kind holders = before.total kind holders :=
  total_congr (fun holder _ => touched.held_unheld kind (unheld holder))

theorem held_here (touched : Touched before after pile) (kind : Kind)
    (nodup : (before.piles holder).Nodup) (member : pile ∈ before.piles holder) :
    after.held kind holder + before.amount kind pile =
      before.held kind holder + after.amount kind pile := by
  obtain ⟨front, back, split⟩ := append_of_mem member
  have nodup := split ▸ nodup
  have rest : ∀ other, other ∈ front ∨ other ∈ back → other ≠ pile := by
    rintro other (left | right) rfl
    · exact (nodup_append.mp nodup).2.2 other left other (by simp) rfl
    · exact (nodup_cons.mp (nodup_append.mp nodup).2.1).1 right
  have frontSame : front.map (after.amount kind) = front.map (before.amount kind) :=
    map_congr_left (fun other left => touched.amount_other kind (rest other (.inl left)))
  have backSame : back.map (after.amount kind) = back.map (before.amount kind) :=
    map_congr_left (fun other right => touched.amount_other kind (rest other (.inr right)))
  simp only [Stock.held, touched.piles, split, map_append, map_cons, sum_append,
    sum_cons, frontSame, backSame]
  omega

/-- A pile that is resized in place changes the total by the difference. -/
theorem total [DecidableEq Holder] (touched : Touched before after pile) (kind : Kind)
    (separate : before.Separate) (held : pile ∈ before.piles holder) (holders : Finset Holder) :
    after.total kind holders + (if holder ∈ holders then before.amount kind pile else 0) =
      before.total kind holders + if holder ∈ holders then after.amount kind pile else 0 := by
  have elsewhere : ∀ other, other ≠ holder → after.held kind other = before.held kind other :=
    fun other different => touched.held_unheld kind
      (fun there => different (separate.apart other holder pile there held))
  by_cases member : holder ∈ holders
  · have one := total_of_one member elsewhere
    have here := touched.held_here kind (separate.nodup holder) held
    simp only [if_pos member]
    omega
  · simp only [if_neg member]
    apply congrArg (· + 0)
    apply total_congr
    intro other listed
    exact elsewhere other (fun same => member (same ▸ listed))

end Touched

end

end Stock

end Styller.Library
