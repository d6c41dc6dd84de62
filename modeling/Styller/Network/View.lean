import Styller.Network.MapDescription

/-! What a client sees of the map: the floors and the window around its player, and the parts of it that are described when
the player appears and when it moves. -/

namespace Styller.View

open List

def maxClientViewportX : Int := 8
def maxClientViewportY : Int := 6
def MAX_STACKPOS_THINGS : Int := 10

/-- `(Map::maxClientViewportX * 2) + 2`. -/
def fullWidth : Nat := 18

/-- `(Map::maxClientViewportY * 2) + 2`. -/
def fullHeight : Nat := 14

/-- `ProtocolGame::canSee`, with the player at a position. -/
def canSee (myPos : Position) (x y z : Int) : Bool :=
  let floor := if myPos.z ≤ 7 then !(z > 7) else !(((myPos.z : Int) - z).natAbs > 2)
  let offsetz := (myPos.z : Int) - z
  floor && (x ≥ myPos.x - maxClientViewportX + offsetz && x ≤ myPos.x + (maxClientViewportX + 1) + offsetz &&
    y ≥ myPos.y - maxClientViewportY + offsetz && y ≤ myPos.y + (maxClientViewportY + 1) + offsetz)

/-- A part of the map that is described: the arguments of `GetFloorDescription` for each of its floors with their offsets. -/
structure Area where
  x : Int
  y : Int
  width : Nat
  height : Nat
  floors : List (Int × Int)

/-- The area of `GetMapDescription`. -/
def mapArea (x y : Int) (z width height : Nat) : Area :=
  ⟨x, y, width, height, (ProtocolGame.mapFloors z).map fun nz : Nat => ((nz : Int), (z : Int) - nz)⟩

def sendMapDescription (pos : Position) : Area :=
  mapArea (pos.x - maxClientViewportX) (pos.y - maxClientViewportY) pos.z fullWidth fullHeight

section
variable (newPos oldPos : Position)

/-- `MoveUpCreature` for the player itself. -/
def moveUpCreature : List Area :=
  let x := oldPos.x - maxClientViewportX
  let y := oldPos.y - maxClientViewportY
  (if newPos.z = 7 then [⟨x, y, fullWidth, fullHeight, [(5, 3), (4, 4), (3, 5), (2, 6), (1, 7), (0, 8)]⟩]
    else if newPos.z > 7 then [⟨x, y, fullWidth, fullHeight, [((oldPos.z : Int) - 3, 3)]⟩]
    else []) ++
    [mapArea x (oldPos.y - (maxClientViewportY - 1)) newPos.z 1 fullHeight, mapArea x y newPos.z fullWidth 1]

/-- `MoveDownCreature` for the player itself. -/
def moveDownCreature : List Area :=
  let x := oldPos.x - maxClientViewportX
  let y := oldPos.y - maxClientViewportY
  (if newPos.z = 8 then
      [⟨x, y, fullWidth, fullHeight, [((newPos.z : Int), -1), ((newPos.z : Int) + 1, -2), ((newPos.z : Int) + 2, -3)]⟩]
    else if newPos.z > oldPos.z ∧ newPos.z > 8 ∧ newPos.z < 14 then
      [⟨x, y, fullWidth, fullHeight, [((newPos.z : Int) + 2, -3)]⟩]
    else []) ++
    [mapArea (oldPos.x + (maxClientViewportX + 1)) (oldPos.y - (maxClientViewportY + 1)) newPos.z 1 fullHeight,
      mapArea x (oldPos.y + (maxClientViewportY + 1)) newPos.z fullWidth 1]

/-- The strip in the north or in the south, for the old x. -/
def stripY : List Area :=
  if oldPos.y > newPos.y then
    [mapArea (oldPos.x - maxClientViewportX) (newPos.y - maxClientViewportY) newPos.z fullWidth 1]
  else if oldPos.y < newPos.y then
    [mapArea (oldPos.x - maxClientViewportX) (newPos.y + (maxClientViewportY + 1)) newPos.z fullWidth 1]
  else []

/-- The strip in the east or in the west, with the new y. -/
def stripX : List Area :=
  if oldPos.x < newPos.x then
    [mapArea (newPos.x + (maxClientViewportX + 1)) (newPos.y - maxClientViewportY) newPos.z 1 fullHeight]
  else if oldPos.x > newPos.x then
    [mapArea (newPos.x - maxClientViewportX) (newPos.y - maxClientViewportY) newPos.z 1 fullHeight]
  else []

/-- What `sendMoveCreature` describes to the player that moves. -/
def sendMoveCreature (newStackPos oldStackPos : Int) (teleport : Bool) : List Area :=
  if teleport || oldStackPos ≥ MAX_STACKPOS_THINGS then [sendMapDescription newPos]
  else
    (if newPos.z > oldPos.z then moveDownCreature newPos oldPos
      else if newPos.z < oldPos.z then moveUpCreature newPos oldPos
      else []) ++
      if newStackPos ≥ MAX_STACKPOS_THINGS then [sendMapDescription newPos]
      else stripY newPos oldPos ++ stripX newPos oldPos

end

/-- The positions that a description of the area goes through. -/
def Area.cells (area : Area) : List Position :=
  (ProtocolGame.cells area.x area.y area.width area.height area.floors).map fun cell =>
    ⟨cell.1.toNat, cell.2.1.toNat, cell.2.2.toNat⟩

def Described (areas : List Area) (place : Position) : Prop := ∃ area ∈ areas, place ∈ area.cells

/-- A position where no part of the view leaves the map. -/
structure Away (pos : Position) : Prop where
  left : 15 ≤ pos.x
  right : pos.x + 16 < 65536
  up : 13 ≤ pos.y
  down : pos.y + 14 < 65536
  floor : pos.z < 16

section
variable {place pos oldPos newPos : Position} {area : Area}

theorem toNat_ofInt {value : Int} (low : 0 ≤ value) (high : value < 65536) : ((UInt16.ofInt value).toNat : Int) = value := by
  rw [UInt16.ofInt, UInt16.toNat_ofNat']
  omega

theorem toNat_ofInt8 {value : Int} (low : 0 ≤ value) (high : value < 256) : ((UInt8.ofInt value).toNat : Int) = value := by
  rw [UInt8.ofInt, UInt8.toNat_ofNat']
  omega

/-- The area does not leave the map. -/
structure Area.Inside (area : Area) : Prop where
  x : ∀ floor ∈ area.floors, 0 ≤ area.x + floor.2 ∧ area.x + area.width + floor.2 ≤ 65536
  y : ∀ floor ∈ area.floors, 0 ≤ area.y + floor.2 ∧ area.y + area.height + floor.2 ≤ 65536
  z : ∀ floor ∈ area.floors, 0 ≤ floor.1 ∧ floor.1 < 256

theorem mem_cells (inside : area.Inside) : place ∈ area.cells ↔ ∃ floor ∈ area.floors, (place.z : Int) = floor.1 ∧
    area.x + floor.2 ≤ place.x ∧ (place.x : Int) < area.x + area.width + floor.2 ∧
      area.y + floor.2 ≤ place.y ∧ (place.y : Int) < area.y + area.height + floor.2 := by
  unfold Area.cells ProtocolGame.cells
  simp only [mem_map, mem_flatMap, mem_range]
  constructor
  · rintro ⟨_, ⟨floor, listed, nx, beside, ny, below, rfl⟩, rfl⟩
    obtain ⟨left, right⟩ := inside.x floor listed
    obtain ⟨up, down⟩ := inside.y floor listed
    obtain ⟨low, high⟩ := inside.z floor listed
    refine ⟨floor, listed, toNat_ofInt8 low high, ?_⟩
    simp only
    rw [toNat_ofInt (by omega) (by omega), toNat_ofInt (by omega) (by omega)]
    omega
  · rintro ⟨floor, listed, level, left, right, up, down⟩
    have wideX := inside.x floor listed
    have wideY := inside.y floor listed
    obtain ⟨low, high⟩ := inside.z floor listed
    refine ⟨_, ⟨floor, listed, ((place.x : Int) - area.x - floor.2).toNat, by omega,
      ((place.y : Int) - area.y - floor.2).toNat, by omega, rfl⟩, ?_⟩
    have x : ((UInt16.ofInt (area.x + ((place.x : Int) - area.x - floor.2).toNat + floor.2)).toNat : Int) = place.x := by
      rw [toNat_ofInt (by omega) (by omega)]
      omega
    have y : ((UInt16.ofInt (area.y + ((place.y : Int) - area.y - floor.2).toNat + floor.2)).toNat : Int) = place.y := by
      rw [toNat_ofInt (by omega) (by omega)]
      omega
    have z : ((UInt8.ofInt floor.1).toNat : Int) = place.z := by
      rw [toNat_ofInt8 low high, level]
    cases place with
    | mk placeX placeY placeZ =>
      simp only [Position.mk.injEq]
      exact ⟨Int.ofNat.inj x, Int.ofNat.inj y, Int.ofNat.inj z⟩

def SeenFloor (z floor : Nat) : Prop := if z ≤ 7 then floor ≤ 7 else z ≤ floor + 2 ∧ floor ≤ z + 2 ∧ floor < 16

theorem mem_mapFloors {z floor : Nat} : floor ∈ ProtocolGame.mapFloors z ↔ SeenFloor z floor := by
  unfold ProtocolGame.mapFloors SeenFloor
  split
  · rw [mem_range'_1, if_neg (by omega)]
    omega
  · rw [if_pos (by omega)]
    simp only [mem_cons, not_mem_nil, or_false]
    omega

/-- A window of the map goes through the floors that are seen, a step aside for each floor up or down. -/
theorem mem_mapArea {x y : Int} {z width height : Nat}
    (left : ∀ floor, SeenFloor z floor → 0 ≤ x + (z - floor) ∧ x + width + (z - floor) ≤ 65536)
    (up : ∀ floor, SeenFloor z floor → 0 ≤ y + (z - floor) ∧ y + height + (z - floor) ≤ 65536) :
    place ∈ (mapArea x y z width height).cells ↔ SeenFloor z place.z ∧ x + (z - place.z) ≤ place.x ∧
      (place.x : Int) < x + width + (z - place.z) ∧ y + (z - place.z) ≤ place.y ∧
        (place.y : Int) < y + height + (z - place.z) := by
  have inside : (mapArea x y z width height).Inside := by
    constructor
    · intro floor listed
      obtain ⟨nz, seen, rfl⟩ := mem_map.mp listed
      exact left nz (mem_mapFloors.mp seen)
    · intro floor listed
      obtain ⟨nz, seen, rfl⟩ := mem_map.mp listed
      exact up nz (mem_mapFloors.mp seen)
    · intro floor listed
      obtain ⟨nz, seen, rfl⟩ := mem_map.mp listed
      have low := mem_mapFloors.mp seen
      unfold SeenFloor at low
      simp only
      split at low
      · omega
      · omega
  rw [mem_cells inside]
  constructor
  · rintro ⟨floor, listed, floorOf, box⟩
    obtain ⟨nz, seen, rfl⟩ := mem_map.mp listed
    cases Int.ofNat.inj floorOf
    exact ⟨mem_mapFloors.mp seen, box⟩
  · rintro ⟨seen, box⟩
    exact ⟨_, mem_map.mpr ⟨place.z, mem_mapFloors.mpr seen, rfl⟩, rfl, box⟩

theorem canSee_iff (floor : place.z < 16) : canSee pos place.x place.y place.z = true ↔
    SeenFloor pos.z place.z ∧ (pos.x : Int) - 8 + (pos.z - place.z) ≤ place.x ∧
      (place.x : Int) < pos.x + 10 + (pos.z - place.z) ∧ (pos.y : Int) - 6 + (pos.z - place.z) ≤ place.y ∧
        (place.y : Int) < pos.y + 8 + (pos.z - place.z) := by
  unfold canSee SeenFloor maxClientViewportX maxClientViewportY
  split
  · simp only [gt_iff_lt, ge_iff_le, Bool.and_eq_true, Bool.not_eq_true', decide_eq_true_eq, decide_eq_false_iff_not]
    omega
  · simp only [gt_iff_lt, ge_iff_le, Bool.and_eq_true, Bool.not_eq_true', decide_eq_true_eq, decide_eq_false_iff_not]
    omega

end

section
variable {place pos oldPos newPos : Position}

theorem SeenFloor.lt {z floor : Nat} (seen : SeenFloor z floor) : floor < 16 := by
  unfold SeenFloor at seen
  split at seen
  · omega
  · exact seen.2.2

theorem SeenFloor.near {z floor : Nat} (seen : SeenFloor z floor) : ((z : Int) - floor).natAbs ≤ 7 := by
  unfold SeenFloor at seen
  split at seen
  · omega
  · omega

/-- What is described when a player appears is what it sees on the floors of the map. -/
theorem mem_sendMapDescription (away : Away pos) :
    place ∈ (sendMapDescription pos).cells ↔ place.z < 16 ∧ canSee pos place.x place.y place.z = true := by
  obtain ⟨left, right, up, down, level⟩ := away
  unfold sendMapDescription maxClientViewportX maxClientViewportY fullWidth fullHeight
  rw [mem_mapArea]
  · constructor
    · rintro ⟨seen, box⟩
      have floor := seen.lt
      exact ⟨floor, (canSee_iff floor).mpr ⟨seen, by omega⟩⟩
    · rintro ⟨floor, visible⟩
      obtain ⟨seen, box⟩ := (canSee_iff floor).mp visible
      exact ⟨seen, by omega⟩
  · intro floor seen
    have := seen.near
    omega
  · intro floor seen
    have := seen.near
    omega

/-- The creature goes to one of the eight tiles around it. -/
structure Adjacent (oldPos newPos : Position) : Prop where
  x : ((newPos.x : Int) - oldPos.x).natAbs ≤ 1
  y : ((newPos.y : Int) - oldPos.y).natAbs ≤ 1
  z : newPos.z = oldPos.z
  moved : newPos ≠ oldPos

theorem Area.mem_if {condition : Prop} [Decidable condition] {area : Area} {other : List Area} :
    Described (if condition then [area] else other) place ↔
      condition ∧ place ∈ area.cells ∨ ¬ condition ∧ Described other place := by
  split <;> simp [Described, *]

/-- The strip in the north or in the south is the first or the last row of the view from the new y and the old x. -/
theorem mem_stripY (old : Away oldPos) (new : Away newPos) (level : newPos.z = oldPos.z) :
    Described (stripY newPos oldPos) place ↔ SeenFloor newPos.z place.z ∧
      (oldPos.x : Int) - 8 + (newPos.z - place.z) ≤ place.x ∧ (place.x : Int) < oldPos.x + 10 + (newPos.z - place.z) ∧
        (newPos.y < oldPos.y ∧ (place.y : Int) = newPos.y - 6 + (newPos.z - place.z) ∨
          oldPos.y < newPos.y ∧ (place.y : Int) = newPos.y + 7 + (newPos.z - place.z)) := by
  obtain ⟨left, right, -, -, -⟩ := old
  obtain ⟨-, -, up, down, floor⟩ := new
  unfold stripY maxClientViewportX maxClientViewportY fullWidth
  rw [Area.mem_if, Area.mem_if, mem_mapArea, mem_mapArea]
  · simp only [Described, not_mem_nil, false_and, exists_false, and_false, or_false]
    constructor
    · intro strip
      rcases strip with ⟨north, seen, box⟩ | ⟨_, south, seen, box⟩
      · exact ⟨seen, by omega⟩
      · exact ⟨seen, by omega⟩
    · rintro ⟨seen, box⟩
      by_cases north : oldPos.y > newPos.y
      · exact .inl ⟨north, seen, by omega⟩
      · exact .inr ⟨north, by omega, seen, by omega⟩
  all_goals
    intro floor seen
    have := seen.near
    omega

/-- The strip in the east or in the west is the last or the first column of the view from the new position. -/
theorem mem_stripX (new : Away newPos) :
    Described (stripX newPos oldPos) place ↔ SeenFloor newPos.z place.z ∧
      (newPos.y : Int) - 6 + (newPos.z - place.z) ≤ place.y ∧ (place.y : Int) < newPos.y + 8 + (newPos.z - place.z) ∧
        (oldPos.x < newPos.x ∧ (place.x : Int) = newPos.x + 9 + (newPos.z - place.z) ∨
          newPos.x < oldPos.x ∧ (place.x : Int) = newPos.x - 8 + (newPos.z - place.z)) := by
  obtain ⟨left, right, up, down, floor⟩ := new
  unfold stripX maxClientViewportX maxClientViewportY fullHeight
  rw [Area.mem_if, Area.mem_if, mem_mapArea, mem_mapArea]
  · simp only [Described, not_mem_nil, false_and, exists_false, and_false, or_false]
    constructor
    · intro strip
      rcases strip with ⟨east, seen, box⟩ | ⟨_, west, seen, box⟩
      · exact ⟨seen, by omega⟩
      · exact ⟨seen, by omega⟩
    · rintro ⟨seen, box⟩
      by_cases east : oldPos.x < newPos.x
      · exact .inl ⟨east, seen, by omega⟩
      · exact .inr ⟨east, by omega, seen, by omega⟩
  all_goals
    intro floor seen
    have := seen.near
    omega

/-- A step on a floor describes either the whole view again or the strips alone. -/
theorem sendMoveCreature_step (level : newPos.z = oldPos.z) (newStackPos oldStackPos : Int) :
    sendMoveCreature newPos oldPos newStackPos oldStackPos false = [sendMapDescription newPos] ∨
      sendMoveCreature newPos oldPos newStackPos oldStackPos false = stripY newPos oldPos ++ stripX newPos oldPos := by
  unfold sendMoveCreature
  rw [if_neg (by omega : ¬ newPos.z > oldPos.z), if_neg (by omega : ¬ newPos.z < oldPos.z)]
  split
  · exact .inl rfl
  · split
    · exact .inl rfl
    · exact .inr rfl

theorem described_append {first second : List Area} :
    Described (first ++ second) place ↔ Described first place ∨ Described second place := by
  simp only [Described, mem_append, or_and_right, exists_or]

theorem described_singleton {area : Area} : Described [area] place ↔ place ∈ area.cells := by
  simp [Described]

/-- The view of a player at a position is what is described when it appears there. When it goes to a tile beside it, everything
that it sees from there and did not see before is described, and what is described can be seen from there, except for the
strip in the north or in the south of a diagonal step, which is what is seen from the old x. -/
theorem view_described :
    (∀ pos place, Away pos →
      (Described [sendMapDescription pos] place ↔ place.z < 16 ∧ canSee pos place.x place.y place.z = true)) ∧
    ∀ oldPos newPos newStackPos oldStackPos place, Away oldPos → Away newPos → Adjacent oldPos newPos →
      (canSee newPos place.x place.y place.z = true → canSee oldPos place.x place.y place.z = false → place.z < 16 →
        Described (sendMoveCreature newPos oldPos newStackPos oldStackPos false) place) ∧
      (Described (sendMoveCreature newPos oldPos newStackPos oldStackPos false) place →
        canSee newPos place.x place.y place.z = true ∨
          newPos.x ≠ oldPos.x ∧ newPos.y ≠ oldPos.y ∧ Described (stripY newPos oldPos) place ∧
            canSee ⟨oldPos.x, newPos.y, newPos.z⟩ place.x place.y place.z = true) := by
  constructor
  · intro pos place away
    rw [described_singleton]
    exact mem_sendMapDescription away
  intro oldPos newPos newStackPos oldStackPos place old new beside
  obtain ⟨x, y, level, -⟩ := beside
  constructor
  · intro seen unseen floor
    rcases sendMoveCreature_step level newStackPos oldStackPos with whole | strips
    · rw [whole, described_singleton, mem_sendMapDescription new]
      exact ⟨floor, seen⟩
    · rw [strips, described_append, mem_stripY old new level, mem_stripX new]
      have before := mt (canSee_iff floor).mpr (Bool.eq_false_iff.mp unseen)
      obtain ⟨seenFloor, box⟩ := (canSee_iff floor).mp seen
      rw [← level] at before
      have outside := not_and.mp before seenFloor
      by_cases column : (oldPos.x : Int) - 8 + (newPos.z - place.z) ≤ place.x ∧
          (place.x : Int) < oldPos.x + 10 + (newPos.z - place.z)
      · exact .inl ⟨seenFloor, by omega⟩
      · exact .inr ⟨seenFloor, by omega⟩
  · intro described
    rcases sendMoveCreature_step level newStackPos oldStackPos with whole | strips
    · rw [whole, described_singleton] at described
      exact .inl ((mem_sendMapDescription new).mp described).2
    · rw [strips, described_append] at described
      rcases described with row | column
      · obtain ⟨seenFloor, box⟩ := (mem_stripY old new level).mp row
        have floor := seenFloor.lt
        by_cases straight : newPos.x = oldPos.x
        · exact .inl ((canSee_iff floor).mpr ⟨seenFloor, by omega⟩)
        · refine .inr ⟨straight, by omega, row, (canSee_iff floor).mpr ⟨seenFloor, ?_⟩⟩
          simp only
          omega
      · obtain ⟨seenFloor, box⟩ := (mem_stripX new).mp column
        rw [canSee_iff seenFloor.lt]
        exact .inl ⟨seenFloor, by omega⟩

/-- A player at a position sees another one, goes one tile to the north east and is told of what it sees there. -/
theorem view_described_diagonal :
    (Described [sendMapDescription ⟨100, 100, 7⟩] ⟨109, 107, 7⟩ ↔
      7 < 16 ∧ canSee ⟨100, 100, 7⟩ 109 107 7 = true) ∧
    Described (sendMoveCreature ⟨101, 99, 7⟩ ⟨100, 100, 7⟩ 1 1 false) ⟨110, 93, 7⟩ :=
  ⟨view_described.1 ⟨100, 100, 7⟩ ⟨109, 107, 7⟩ (by constructor <;> decide),
    (view_described.2 ⟨100, 100, 7⟩ ⟨101, 99, 7⟩ 1 1 ⟨110, 93, 7⟩ (by constructor <;> decide) (by constructor <;> decide)
      (by constructor <;> decide)).1 (by decide) (by decide) (by decide)⟩

/-- A strip that is described on a diagonal step holds a tile that is not seen from the new position. -/
theorem strip_unseen :
    ¬ ∀ place, Described (sendMoveCreature ⟨101, 99, 7⟩ ⟨100, 100, 7⟩ 1 1 false) place →
      canSee ⟨101, 99, 7⟩ place.x place.y place.z = true := by
  intro contained
  have described : Described (sendMoveCreature ⟨101, 99, 7⟩ ⟨100, 100, 7⟩ 1 1 false) ⟨92, 93, 7⟩ := by
    refine ⟨mapArea 92 93 7 18 1, by simp [sendMoveCreature, stripY, MAX_STACKPOS_THINGS, maxClientViewportX, maxClientViewportY,
      fullWidth], ?_⟩
    decide
  exact absurd (contained _ described) (by decide)

end

end Styller.View
