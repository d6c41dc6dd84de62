import Styller.Tile.Description

/-! What a player is told about the tile that it stands on: the tenth thing is always the player itself, also where it has been told
about already. -/

namespace Styller.TileStack

open List

section
variable (viewer : Viewer)

/-- The loop over the creatures comes to a creature when nine things are written. -/
def ReachesNine (count : Nat) (list : List CreatureId) : Prop :=
  ∃ before creature behind, list = before ++ creature :: behind ∧ count + before.countP viewer.canSeeCreature = 9

/-- It does when the player itself is among those. -/
def ComesBack (count : Nat) (list : List CreatureId) : Prop :=
  ∃ before creature behind, list = before ++ creature :: behind ∧ viewer.id ∈ before ∧
    count + before.countP viewer.canSeeCreature = 9

/-- How many things are written before the creatures of the own tile. -/
def ahead (tile : TileStack) : Nat := min 9 (tile.ground.toList.length + tile.topItems.length)

end

variable {viewer : Viewer} {tile : TileStack} {count : Nat} {creature : CreatureId} {list : List CreatureId}

theorem splits_cons {property : List CreatureId → Prop} :
    (∃ before other behind, creature :: list = before ++ other :: behind ∧ property before) ↔
      property [] ∨ ∃ before other behind, list = before ++ other :: behind ∧ property (creature :: before) := by
  constructor
  · rintro ⟨before, other, behind, is, holds⟩
    cases before with
    | nil => exact .inl holds
    | cons head before =>
      rw [cons_append, List.cons.injEq] at is
      obtain ⟨rfl, rest⟩ := is
      exact .inr ⟨before, other, behind, rest, holds⟩
  · rintro (holds | ⟨before, other, behind, rfl, holds⟩)
    · exact ⟨[], creature, list, rfl, holds⟩
    · exact ⟨creature :: before, other, behind, rfl, holds⟩

theorem seen_add (before : List CreatureId) : count + (creature :: before).countP viewer.canSeeCreature =
    (if viewer.canSeeCreature creature then count + 1 else count) + before.countP viewer.canSeeCreature := by
  rw [countP_cons]
  split
  · omega
  · omega

theorem reachesNine_cons : ReachesNine viewer count (creature :: list) ↔
    count = 9 ∨ ReachesNine viewer (if viewer.canSeeCreature creature then count + 1 else count) list := by
  unfold ReachesNine
  rw [@splits_cons creature list fun before => count + before.countP viewer.canSeeCreature = 9]
  simp only [seen_add, countP_nil, Nat.add_zero]

theorem comesBack_cons : ComesBack viewer count (creature :: list) ↔
    if creature = viewer.id then ReachesNine viewer (if viewer.canSeeCreature creature then count + 1 else count) list
    else ComesBack viewer (if viewer.canSeeCreature creature then count + 1 else count) list := by
  unfold ComesBack ReachesNine
  rw [@splits_cons creature list fun before => viewer.id ∈ before ∧ count + before.countP viewer.canSeeCreature = 9]
  simp only [seen_add, not_mem_nil, false_and, false_or, mem_cons]
  by_cases own : creature = viewer.id
  · rw [if_pos own]
    simp only [own, true_or, true_and]
  · have apart : viewer.id ≠ creature := fun same => own same.symm
    rw [if_neg own]
    simp only [apart, false_or]

/-- On the own tile the loop over the top items ends with nine things. -/
theorem describeTop_own (room : count < 9) (list : List ItemPtr) :
    describeTop true count list = ((list.map .item).take (9 - count), false) := by
  induction list generalizing count with
  | nil => rw [map_nil, take_nil, describeTop]
  | cons ptr rest ih =>
    unfold describeTop
    by_cases last : count + 1 = 9
    · have one : 9 - count = 0 + 1 := by omega
      rw [if_pos ⟨last, rfl⟩, one, map_cons, take_succ_cons, take_zero]
    · have some : count + 1 ≠ maxStackposThings := by
        unfold maxStackposThings
        omega
      have fewer : 9 - count = 9 - (count + 1) + 1 := by omega
      rw [if_neg (not_and_of_not_left _ last), if_neg some, ih (by omega), fewer, map_cons, take_succ_cons]
      rfl

/-- One round of the loop over the creatures on the own tile. -/
theorem describeCreatures_cons (room : count ≤ 9) : describeCreatures viewer true count (creature :: list) =
    if count = 9 then ([.creature viewer.id], true)
    else if viewer.canSeeCreature creature then
      Prod.map (Thing.creature creature :: ·) id (describeCreatures viewer true (count + 1) list)
    else describeCreatures viewer true count list := by
  rw [describeCreatures]
  by_cases nine : count = 9
  · subst nine
    rfl
  · have more : count + 1 ≠ maxStackposThings := by
      unfold maxStackposThings
      omega
    rw [if_neg nine]
    cases viewer.canSeeCreature creature with
    | true => simp [nine, more]
    | false => simp [nine]

/-- There are never more than ten things, and nine at most where the loop comes to its end. -/
theorem describeCreatures_length (room : count ≤ 9) (list : List CreatureId) :
    count + (describeCreatures viewer true count list).1.length ≤ 10 ∧ ((describeCreatures viewer true count list).2 = false →
      count + (describeCreatures viewer true count list).1.length ≤ 9) := by
  induction list generalizing count with
  | nil =>
    rw [describeCreatures]
    exact ⟨Nat.le_succ_of_le room, fun _ => room⟩
  | cons creature rest ih =>
    rw [describeCreatures_cons room]
    by_cases nine : count = 9
    · rw [if_pos nine, nine]
      exact ⟨le_rfl, fun returned => absurd returned.symm Bool.false_ne_true⟩
    · rw [if_neg nine]
      by_cases seen : viewer.canSeeCreature creature = true
      · have after := ih (show count + 1 ≤ 9 by omega)
        rw [if_pos seen]
        simp only [Prod.map_fst, Prod.map_snd, id_eq, length_cons]
        rw [← Nat.add_assoc, Nat.add_right_comm]
        exact after
      · rw [if_neg seen]
        exact ih room

/-- Behind the player: it is written again where nine things are written when another creature comes. -/
theorem count_behind (room : count ≤ 9) (absent : viewer.id ∉ list) :
    (ReachesNine viewer count list → (describeCreatures viewer true count list).1.count (.creature viewer.id) = 1) ∧
      (¬ ReachesNine viewer count list → (describeCreatures viewer true count list).1.count (.creature viewer.id) = 0) := by
  induction list generalizing count with
  | nil =>
    constructor
    · rintro ⟨before, other, behind, is, _⟩
      exact absurd is.symm (append_ne_nil_of_right_ne_nil before (cons_ne_nil other behind))
    · exact fun _ => rfl
  | cons creature rest ih =>
    obtain ⟨apart, absent⟩ := ne_and_not_mem_of_not_mem_cons absent
    rw [describeCreatures_cons room, reachesNine_cons]
    by_cases nine : count = 9
    · rw [if_pos nine]
      exact ⟨fun _ => count_singleton_self, fun none => absurd (.inl nine) none⟩
    · rw [if_neg nine]
      simp only [nine, false_or]
      by_cases seen : viewer.canSeeCreature creature = true
      · have different : Thing.creature creature ≠ .creature viewer.id := fun same => apart (Thing.creature.inj same).symm
        rw [if_pos seen, if_pos seen]
        simp only [Prod.map_fst, count_cons_of_ne different]
        exact ih (by omega) absent
      · rw [if_neg seen, if_neg seen]
        exact ih room absent

theorem count_creatures (room : count ≤ 9) (sees : viewer.canSeeCreature viewer.id = true) (once : list.count viewer.id = 1) :
    (ComesBack viewer count list → (describeCreatures viewer true count list).1.count (.creature viewer.id) = 2) ∧
      (¬ ComesBack viewer count list → (describeCreatures viewer true count list).1.count (.creature viewer.id) = 1) := by
  induction list generalizing count with
  | nil => exact absurd once (by simp)
  | cons creature rest ih =>
    rw [describeCreatures_cons room]
    by_cases nine : count = 9
    · have never : ¬ ComesBack viewer count (creature :: rest) := by
        rintro ⟨before, other, behind, _, own, filled⟩
        have some : 0 < before.countP viewer.canSeeCreature := countP_pos_iff.mpr ⟨viewer.id, own, sees⟩
        omega
      rw [if_pos nine]
      exact ⟨fun comes => absurd comes never, fun _ => count_singleton_self⟩
    · rw [if_neg nine, comesBack_cons]
      by_cases own : creature = viewer.id
      · subst own
        have absent : viewer.id ∉ rest := by
          rw [count_cons_self] at once
          exact count_eq_zero.mp (Nat.succ.inj once)
        obtain ⟨again, never⟩ := @count_behind viewer (count + 1) rest (by omega) absent
        rw [if_pos rfl, if_pos sees, if_pos sees]
        simp only [Prod.map_fst, count_cons_self]
        exact ⟨fun reaches => congrArg Nat.succ (again reaches), fun none => congrArg Nat.succ (never none)⟩
      · have different : Thing.creature creature ≠ .creature viewer.id := fun same => own (Thing.creature.inj same)
        rw [count_cons_of_ne own] at once
        rw [if_neg own]
        by_cases seen : viewer.canSeeCreature creature = true
        · rw [if_pos seen, if_pos seen]
          simp only [Prod.map_fst, count_cons_of_ne different]
          exact ih (by omega) once
        · rw [if_neg seen, if_neg seen]
          exact ih room once

theorem count_items (list : List ItemPtr) (id : CreatureId) : (list.map Thing.item).count (.creature id) = 0 := by
  rw [count_eq_zero]
  intro mem
  obtain ⟨ptr, _, is⟩ := mem_map.mp mem
  exact Thing.noConfusion is

/-- The things that are written ahead of the creatures of the own tile. -/
theorem ahead_eq (tile : TileStack) : describeTop true (tile.ground.toList.map Thing.item).length tile.topItems =
      ((tile.topItems.map .item).take (9 - tile.ground.toList.length), false) ∧
    (tile.ground.toList.map Thing.item ++ (tile.topItems.map Thing.item).take (9 - tile.ground.toList.length)).length =
      tile.ahead := by
  have ground : tile.ground.toList.length ≤ 1 := by
    cases tile.ground with
    | none => exact Nat.zero_le 1
    | some ptr => exact le_rfl
  constructor
  · rw [length_map]
    exact describeTop_own (by omega) tile.topItems
  · rw [length_append, length_take, length_map, length_map]
    unfold ahead
    omega

/-- A player that stands on the tile is told about ten things at most, and about itself once, unless nine things are written when a
creature behind it comes. -/
theorem describes_itself (viewer : Viewer) (tile : TileStack) (sees : viewer.canSeeCreature viewer.id = true)
    (stands : tile.creatures.count viewer.id = 1) :
    (tile.getTileDescription viewer viewer.position).length ≤ 10 ∧
      ((tile.getTileDescription viewer viewer.position).count (.creature viewer.id) = 1 ↔
        ¬ ComesBack viewer tile.ahead tile.creatures.reverse) := by
  obtain ⟨tops, written⟩ := ahead_eq tile
  have room : tile.ahead ≤ 9 := Nat.min_le_left ..
  have once : tile.creatures.reverse.count viewer.id = 1 := count_reverse.trans stands
  obtain ⟨most, rest⟩ := @describeCreatures_length viewer tile.ahead room tile.creatures.reverse
  obtain ⟨twice, single⟩ := count_creatures room sees once
  have counted : (describeCreatures viewer true tile.ahead tile.creatures.reverse).1.count (.creature viewer.id) = 1 ↔
      ¬ ComesBack viewer tile.ahead tile.creatures.reverse := by
    constructor
    · intro one comes
      rw [twice comes] at one
      exact absurd one (by decide)
    · exact single
  have before : (tile.ground.toList.map Thing.item ++ (tile.topItems.map Thing.item).take (9 - tile.ground.toList.length)).count
      (.creature viewer.id) = 0 := by
    rw [← map_take, ← map_append]
    exact count_items _ viewer.id
  unfold getTileDescription
  simp only [decide_true, tops, Bool.false_eq_true, if_false]
  rw [written]
  generalize describeCreatures viewer true tile.ahead tile.creatures.reverse = creatures at most rest counted
  obtain ⟨creatures, returned⟩ := creatures
  cases returned with
  | true =>
    simp only [if_true]
    rw [length_append, written, count_append, before, Nat.zero_add]
    exact ⟨most, counted⟩
  | false =>
    have fewer : tile.ahead + creatures.length ≤ 9 := rest rfl
    simp only [Bool.false_eq_true, if_false]
    rw [describeDown_eq]
    · have items := count_items tile.downItems viewer.id
      rw [length_append, length_append, written, length_take, count_append, count_append, before,
        Nat.zero_add, ← map_take, count_items, Nat.add_zero]
      unfold maxStackposThings
      exact ⟨by omega, counted⟩
    · rw [length_append, written]
      unfold maxStackposThings
      exact Nat.lt_succ_of_le fewer

def stackedTile : TileStack := { ground := some 0, items := [1, 2, 3, 4, 5, 6, 7], creatures := [2, 1] }

def stackedViewer : Viewer := { id := 1, position := ⟨100, 100, 7⟩, canSeeCreature := fun _ => true }

def emptyTile : TileStack := { creatures := [1] }

/-- Alone on the tile the player is told about itself once. -/
theorem describes_itself_alone : (emptyTile.getTileDescription stackedViewer stackedViewer.position).length ≤ 10 ∧
    (emptyTile.getTileDescription stackedViewer stackedViewer.position).count (.creature stackedViewer.id) = 1 := by
  have alone := describes_itself stackedViewer emptyTile rfl rfl
  have never : ¬ ComesBack stackedViewer emptyTile.ahead [1] := by
    rintro ⟨before, other, behind, is, own, filled⟩
    have few := congrArg List.length is
    have some : 0 < before.length := length_pos_of_mem own
    simp only [length_append, length_cons, length_nil] at few
    omega
  exact ⟨alone.1, alone.2.mpr never⟩

/-- It is told about itself again in the place of the other creature. -/
theorem stacked_twice : ¬ (stackedTile.getTileDescription stackedViewer stackedViewer.position).count (.creature stackedViewer.id) = 1 := by
  decide

end Styller.TileStack
