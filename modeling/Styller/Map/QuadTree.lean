import Styller.Library.Trie
import Styller.Library.Unordered
import Styller.Tile.Stack

/-! The map as a tree of leaves of eight by eight positions: the leaves know their neighbours in the south and in the east,
their tiles and the creatures on them. -/

namespace Styller

open Library

/-- `QTreeLeafNode*`. -/
abbrev LeafPtr := Nat

/-- `QTreeNode`. A child goes by the two bits of `((x & 0x8000) >> 15) | ((y & 0x8000) >> 14)`. -/
abbrev QTreeNode := Trie (Bool × Bool) LeafPtr

namespace QTreeNode

def index (key : Nat × Nat) : Bool × Bool := (key.1.testBit 15, key.2.testBit 15)

/-- `x << 1` and `y << 1`. What the words lose on their left has passed bit 15. -/
def shift (key : Nat × Nat) : Nat × Nat := (key.1 <<< 1, key.2 <<< 1)

def FLOOR_BITS : Nat := 3

def FLOOR_SIZE : Nat := 8

/-- `getLeaf` and `getLeafStatic`. -/
def getLeaf (root : QTreeNode) (x y : Nat) : Option LeafPtr := root.find index shift (x, y)

/-- `createLeaf`, with the leaf to take if there is none. The level counts down to `FLOOR_BITS`, where the children are
leaves. -/
def createLeaf (root : QTreeNode) (x y level : Nat) (fresh : LeafPtr) : QTreeNode :=
  root.create index shift fresh (level + 1 - FLOOR_BITS) (x, y)

/-- The eight by eight positions of a leaf. -/
def block (x y : Nat) : Nat × Nat := (x % 65536 / 8, y % 65536 / 8)

theorem agree_iff_bits {depth : Nat} (shallow : depth ≤ 16) {key other : Nat × Nat} :
    Trie.Agree index shift depth key other ↔
      ∀ place < depth, key.1.testBit (15 - place) = other.1.testBit (15 - place) ∧
        key.2.testBit (15 - place) = other.2.testBit (15 - place) := by
  induction depth generalizing key other with
  | zero =>
    constructor
    · intro _ place inside
      cases inside
    · intro _
      trivial
  | succ depth ih =>
    rw [Trie.Agree, ih (Nat.le_of_succ_le shallow), index, index, Prod.mk.injEq]
    have moved : ∀ place < depth, ∀ word : Nat, (word <<< 1).testBit (15 - place) = word.testBit (15 - (place + 1)) := by
      intro place inside word
      have behind : 1 ≤ 15 - place := by omega
      rw [Nat.testBit_shiftLeft, decide_eq_true behind, Bool.true_and, Nat.sub_sub]
    constructor
    · rintro ⟨first, later⟩ place inside
      cases place with
      | zero => exact first
      | succ place =>
        have inside := Nat.lt_of_succ_lt_succ inside
        have same := later place inside
        simp only [shift, moved place inside] at same
        exact same
    · intro same
      refine ⟨same 0 (Nat.succ_pos depth), ?_⟩
      intro place inside
      simp only [shift, moved place inside]
      exact same (place + 1) (Nat.succ_lt_succ inside)

theorem bits_iff {x other : Nat} :
    (∀ place < 13, x.testBit (15 - place) = other.testBit (15 - place)) ↔ x % 65536 / 8 = other % 65536 / 8 := by
  have bit : ∀ word place : Nat, (word % 65536 / 8).testBit place = (decide (place + 3 < 16) && word.testBit (place + 3)) := by
    intro word place
    rw [show (8 : Nat) = 2 ^ 3 from rfl, Nat.testBit_div_two_pow, show (65536 : Nat) = 2 ^ 16 from rfl,
      Nat.testBit_mod_two_pow]
  constructor
  · intro same
    apply Nat.eq_of_testBit_eq
    intro place
    rw [bit, bit]
    by_cases inside : place + 3 < 16
    · have here := same (12 - place) (by omega)
      rw [show 15 - (12 - place) = place + 3 by omega] at here
      rw [here]
    · rw [decide_eq_false inside, Bool.false_and, Bool.false_and]
  · intro same place inside
    have here := bit x (12 - place)
    rw [same, bit, show 12 - place + 3 = 15 - place by omega] at here
    have below : 15 - place < 16 := by omega
    rw [decide_eq_true below, Bool.true_and, Bool.true_and] at here
    exact here.symm

theorem agree_iff {x y otherX otherY : Nat} :
    Trie.Agree index shift 13 (x, y) (otherX, otherY) ↔ block x y = block otherX otherY := by
  rw [agree_iff_bits (by decide), block, block, Prod.mk.injEq, ← bits_iff, ← bits_iff]
  constructor
  · intro same
    exact ⟨fun place inside => (same place inside).1, fun place inside => (same place inside).2⟩
  · rintro ⟨first, second⟩ place inside
    exact ⟨first place inside, second place inside⟩

variable {root : QTreeNode} {x y otherX otherY : Nat} {fresh : LeafPtr}

theorem getLeaf_congr (even : root.Even 13) (same : block x y = block otherX otherY) :
    root.getLeaf x y = root.getLeaf otherX otherY := Trie.find_congr even (agree_iff.mpr same)

theorem getLeaf_createLeaf (even : root.Even 13) (same : block x y = block otherX otherY) :
    (root.createLeaf x y 15 fresh).getLeaf otherX otherY = some ((root.getLeaf x y).getD fresh) :=
  Trie.find_create_agree even (agree_iff.mpr same)

theorem getLeaf_createLeaf_apart (even : root.Even 13) (apart : block x y ≠ block otherX otherY) :
    (root.createLeaf x y 15 fresh).getLeaf otherX otherY = root.getLeaf otherX otherY :=
  Trie.find_create_apart even (mt agree_iff.mp apart)

end QTreeNode

end Styller
