import Styller.Map.PathMatching

/-! `Monster::getDistanceStep`: the step with which a monster keeps away from its target. -/

namespace Styller

namespace PathFinding

/-- What a step adds to the coordinates. -/
def Direction.offset : Direction → Int × Int
  | .north => (0, -1)
  | .south => (0, 1)
  | .west => (-1, 0)
  | .east => (1, 0)
  | .southwest => (-1, 1)
  | .northwest => (-1, -1)
  | .northeast => (1, -1)
  | .southeast => (1, 1)

theorem getNextPosition_eq (direction : Direction) (pos : Position) :
    getNextPosition direction pos = offsetBy pos direction.offset := by
  cases direction <;> rfl

end PathFinding

open PathFinding

def Position.getDistanceX (p1 p2 : Position) : Nat := ((p1.x : Int) - p2.x).natAbs

def Position.getDistanceY (p1 p2 : Position) : Nat := ((p1.y : Int) - p2.y).natAbs

/-- The larger of the two. -/
def Position.distance (p1 p2 : Position) : Nat := max (p1.getDistanceX p2) (p1.getDistanceY p2)

/-- `Spawns::isInZone`. -/
def isInZone (centerPos : Position) (radius : Int) (pos : Position) : Bool :=
  if radius = -1 then true
  else
    ((pos.x : Int) ≥ centerPos.x - radius) && ((pos.x : Int) ≤ centerPos.x + radius) &&
      ((pos.y : Int) ≥ centerPos.y - radius) && ((pos.y : Int) ≤ centerPos.y + radius)

/-- What a monster asks of the map when it takes a step. -/
structure Grounds where
  isSightClear : Position → Position → Bool
  tile : Position → Bool
  /-- Whether `getTopVisibleCreature` finds one. -/
  getTopVisibleCreature : Position → Bool
  /-- Whether `queryAdd` with `FLAG_PATHFINDING` says `RETURNVALUE_NOERROR`. -/
  queryAdd : Position → Bool
  despawnRadius : Int := 50
  despawnRange : Int := 2

structure Monster where
  walker : Walker
  useCacheMap : Bool := true
  spawn : Bool := false
  masterPos : Position := default
  targetDistance : Int := 1
  stepDuration : Int := 0

/-- What `getDistanceStep` returns, the direction if it sets one, and the step duration. -/
structure DistanceStep where
  result : Bool
  direction : Option Direction
  stepDuration : Int

namespace Monster

section
variable (monster : Monster) (grounds : Grounds)

def isInSpawnRange (pos : Position) : Bool :=
  if !monster.spawn then true
  else if grounds.despawnRadius = 0 then true
  else if !isInZone monster.masterPos grounds.despawnRadius pos then false
  else if grounds.despawnRange = 0 then true
  else decide ((((pos.z : Int) - monster.masterPos.z).natAbs : Int) ≤ grounds.despawnRange)

def canWalkTo (pos : Position) (direction : Direction) : Bool :=
  let pos := getNextPosition direction pos
  if monster.isInSpawnRange grounds pos then
    if monster.walker.getWalkCache monster.useCacheMap pos = 0 then false
    else grounds.tile pos && !grounds.getTopVisibleCreature pos && grounds.queryAdd pos
  else false

/-- `getRandomStep`; the list is shuffled. -/
def getRandomStep (creaturePos : Position) (dirList : List Direction) : Option Direction :=
  dirList.find? (monster.canWalkTo grounds creaturePos)

end

section
variable (canWalkTo : Direction → Bool) (random flee : Bool)

/-- The branch for a target at a corner: two ways off, the corner opposite, two ways past the target for one that
flees, and two sides that are taken if the corner behind them is walkable too. -/
def escapeCorner (first second corner past1 past2 : Direction) (side1 side2 : Direction × Direction) : Option Direction :=
  if canWalkTo first && canWalkTo second then some (if random then first else second)
  else if canWalkTo first then some first
  else if canWalkTo second then some second
  else if canWalkTo corner then some corner
  else if flee && canWalkTo past1 && canWalkTo past2 then some (if random then past1 else past2)
  else if flee && canWalkTo past1 then some past1
  else if flee && canWalkTo past2 then some past2
  else if canWalkTo side1.1 && canWalkTo side1.2 then some side1.1
  else if canWalkTo side2.1 && canWalkTo side2.2 then some side2.1
  else none

/-- The branch for a target at a side: the way off, the two sides by the other offset, the two corners behind, each with
its side, and the way towards the target for one that flees. -/
def escapeSide (away side1 side2 : Direction) (offset : Int) (corner1 corner2 : Direction × Direction) (toward : Direction) :
    Option Direction :=
  if canWalkTo away then some away
  else if canWalkTo side1 && canWalkTo side2 && offset = 0 then some (if random then side1 else side2)
  else if canWalkTo side1 && offset ≤ 0 then some side1
  else if canWalkTo side2 && offset ≥ 0 then some side2
  else if flee && canWalkTo side1 && canWalkTo side2 then some (if random then side1 else side2)
  else if flee && canWalkTo side1 then some side1
  else if flee && canWalkTo side2 then some side2
  else if canWalkTo corner1.1 || canWalkTo corner2.1 then
    if canWalkTo corner1.1 && canWalkTo corner2.1 then some (if random then corner1.1 else corner2.1)
    else if canWalkTo corner1.2 then some corner1.2
    else if canWalkTo corner1.1 then some corner1.1
    else if canWalkTo corner2.2 then some corner2.2
    else if canWalkTo corner2.1 then some corner2.1
    else none
  else if flee && canWalkTo toward then some toward
  else none

/-- The direction by where the target is. -/
def escape (dx dy : Nat) (offsetx offsety : Int) : Option Direction :=
  if dx = dy ∧ offsetx ≥ 1 ∧ offsety ≥ 1 then
    escapeCorner canWalkTo random flee .south .east .southeast .north .west (.west, .southwest) (.north, .northeast)
  else if dx = dy ∧ offsetx ≤ -1 ∧ offsety ≤ -1 then
    escapeCorner canWalkTo random flee .west .north .northwest .south .east (.south, .southwest) (.east, .northeast)
  else if dx = dy ∧ offsetx ≥ 1 ∧ offsety ≤ -1 then
    escapeCorner canWalkTo random flee .north .east .northeast .south .west (.west, .northwest) (.south, .southeast)
  else if dx = dy ∧ offsetx ≤ -1 ∧ offsety ≥ 1 then
    escapeCorner canWalkTo random flee .west .south .southwest .north .east (.east, .southeast) (.north, .northwest)
  else if dy > dx then
    if offsety < 0 then
      escapeSide canWalkTo random flee .north .west .east offsetx (.northwest, .west) (.northeast, .east) .south
    else
      escapeSide canWalkTo random flee .south .west .east offsetx (.southwest, .west) (.southeast, .east) .north
  else if offsetx < 0 then
    escapeSide canWalkTo random flee .west .north .south offsety (.northwest, .north) (.southwest, .south) .east
  else
    escapeSide canWalkTo random flee .east .north .south offsety (.southeast, .south) (.northeast, .north) .west

end

/-- `getDistanceStep`, with what `boolean_random` says and the shuffled list of `getRandomStep`. -/
def getDistanceStep (monster : Monster) (grounds : Grounds) (targetPos : Position) (flee random : Bool)
    (dirList : List Direction) : DistanceStep :=
  let creaturePos := monster.walker.position
  let dx := creaturePos.getDistanceX targetPos
  let dy := creaturePos.getDistanceY targetPos
  let distance : Int := creaturePos.distance targetPos
  if !flee && (decide (distance > monster.targetDistance) || !grounds.isSightClear creaturePos targetPos) then
    ⟨false, none, monster.stepDuration⟩
  else if !flee && decide (distance = monster.targetDistance) then ⟨true, none, monster.stepDuration⟩
  else
    let offsetx : Int := (creaturePos.x : Int) - targetPos.x
    let offsety : Int := (creaturePos.y : Int) - targetPos.y
    let stepDuration :=
      if dx ≤ 1 ∧ dy ≤ 1 then if monster.stepDuration < 2 then monster.stepDuration + 1 else monster.stepDuration
      else if monster.stepDuration > 0 then monster.stepDuration - 1
      else monster.stepDuration
    if offsetx = 0 ∧ offsety = 0 then
      let direction := monster.getRandomStep grounds creaturePos dirList
      ⟨direction.isSome, direction, stepDuration⟩
    else ⟨true, escape (monster.canWalkTo grounds creaturePos) random flee dx dy offsetx offsety, stepDuration⟩

section
variable {canWalkTo : Direction → Bool} {random : Bool} {direction : Direction} {property : Direction → Prop}

/-- One that does not flee from a target at a corner goes off, or to a side. -/
theorem escapeCorner_of_all {first second corner past1 past2 : Direction} {side1 side2 : Direction × Direction}
    (chosen : escapeCorner canWalkTo random false first second corner past1 past2 side1 side2 = some direction)
    (all : ∀ way ∈ [first, second, corner, side1.1, side2.1], property way) :
    canWalkTo direction = true ∧ property direction := by
  have among : canWalkTo direction = true ∧ direction ∈ [first, second, corner, side1.1, side2.1] := by
    unfold escapeCorner at chosen
    grind
  exact ⟨among.1, all direction among.2⟩

/-- One that does not flee from a target at a side goes off, to a side or to a corner behind. -/
theorem escapeSide_of_all {away side1 side2 toward : Direction} {offset : Int} {corner1 corner2 : Direction × Direction}
    (chosen : escapeSide canWalkTo random false away side1 side2 offset corner1 corner2 toward = some direction)
    (all : ∀ way ∈ [away, side1, side2, corner1.1, corner1.2, corner2.1, corner2.2], property way) :
    canWalkTo direction = true ∧ property direction := by
  have among : canWalkTo direction = true ∧
      direction ∈ [away, side1, side2, corner1.1, corner1.2, corner2.1, corner2.2] := by
    unfold escapeSide at chosen
    grind
  exact ⟨among.1, all direction among.2⟩

/-- A step that does not approach along an axis on which the target is at its distance. -/
def Retreats (dx dy : Nat) (offsetx offsety : Int) (direction : Direction) : Prop :=
  (dy ≤ dx ∧ 0 ≤ offsetx * direction.offset.1) ∨ (dx ≤ dy ∧ 0 ≤ offsety * direction.offset.2)

theorem escape_retreats {dx dy : Nat} {offsetx offsety : Int}
    (chosen : escape canWalkTo random false dx dy offsetx offsety = some direction) :
    canWalkTo direction = true ∧ Retreats dx dy offsetx offsety direction := by
  unfold escape at chosen
  split at chosen
  next northwest =>
    exact escapeCorner_of_all chosen (by simp [Retreats, Direction.offset]; omega)
  split at chosen
  next southeast =>
    exact escapeCorner_of_all chosen (by simp [Retreats, Direction.offset]; omega)
  split at chosen
  next southwest =>
    exact escapeCorner_of_all chosen (by simp [Retreats, Direction.offset]; omega)
  split at chosen
  next northeast =>
    exact escapeCorner_of_all chosen (by simp [Retreats, Direction.offset]; omega)
  split at chosen
  next vertical =>
    split at chosen
    next south => exact escapeSide_of_all chosen (by simp [Retreats, Direction.offset]; omega)
    next north => exact escapeSide_of_all chosen (by simp [Retreats, Direction.offset]; omega)
  next horizontal =>
    split at chosen
    next east => exact escapeSide_of_all chosen (by simp [Retreats, Direction.offset]; omega)
    next west => exact escapeSide_of_all chosen (by simp [Retreats, Direction.offset]; omega)

end

/-- A step along one axis that does not approach does not come nearer, unless it wraps around from a target that is more
than half of the coordinates away. -/
theorem axis_retreats {creature target : Nat} {step : Int} (fits : creature < 65536) (within : target < 65536)
    (one : step = -1 ∨ step = 0 ∨ step = 1) (retreats : 0 ≤ ((creature : Int) - target) * step)
    (inland : ((creature : Int) - target).natAbs < 32768 ∨ (Walker.toUInt16 (creature + step) : Int) = creature + step) :
    ((creature : Int) - target).natAbs ≤ ((Walker.toUInt16 (creature + step) : Int) - target).natAbs := by
  unfold Walker.toUInt16 at inland ⊢
  rcases one with rfl | rfl | rfl
  · omega
  · omega
  · omega

theorem Direction.offset_unit (direction : Direction) :
    (direction.offset.1 = -1 ∨ direction.offset.1 = 0 ∨ direction.offset.1 = 1) ∧
      (direction.offset.2 = -1 ∨ direction.offset.2 = 0 ∨ direction.offset.2 = 1) := by
  cases direction <;> decide

/-- The step leads to the coordinates next to those of the position, not around to the other end of them. -/
def StaysOnMap (pos : Position) (direction : Direction) : Prop :=
  ((getNextPosition direction pos).x : Int) = pos.x + direction.offset.1 ∧
    ((getNextPosition direction pos).y : Int) = pos.y + direction.offset.2

instance (pos : Position) (direction : Direction) : Decidable (StaysOnMap pos direction) :=
  inferInstanceAs (Decidable (_ ∧ _))

theorem distance_of_retreats {pos target : Position} {direction : Direction} (fits : pos.Fits) (within : target.Fits)
    (retreats : Retreats (pos.getDistanceX target) (pos.getDistanceY target) ((pos.x : Int) - target.x)
      ((pos.y : Int) - target.y) direction)
    (inland : pos.distance target < 32768 ∨ StaysOnMap pos direction) :
    pos.distance target ≤ (getNextPosition direction pos).distance target := by
  obtain ⟨unitX, unitY⟩ := Direction.offset_unit direction
  unfold StaysOnMap at inland
  rw [getNextPosition_eq] at inland ⊢
  rcases retreats with ⟨wider, away⟩ | ⟨higher, away⟩
  · have near : ((pos.x : Int) - target.x).natAbs < 32768 ∨
        (Walker.toUInt16 (pos.x + direction.offset.1) : Int) = pos.x + direction.offset.1 :=
      inland.imp (fun near => Nat.lt_of_le_of_lt (Nat.le_max_left _ _) near) And.left
    have along := axis_retreats fits.1 within.1 unitX away near
    calc pos.distance target = pos.getDistanceX target := Nat.max_eq_left wider
      _ ≤ (offsetBy pos direction.offset).getDistanceX target := along
      _ ≤ (offsetBy pos direction.offset).distance target := Nat.le_max_left _ _
  · have near : ((pos.y : Int) - target.y).natAbs < 32768 ∨
        (Walker.toUInt16 (pos.y + direction.offset.2) : Int) = pos.y + direction.offset.2 :=
      inland.imp (fun near => Nat.lt_of_le_of_lt (Nat.le_max_right _ _) near) And.right
    have along := axis_retreats fits.2 within.2 unitY away near
    calc pos.distance target = pos.getDistanceY target := Nat.max_eq_right higher
      _ ≤ (offsetBy pos direction.offset).getDistanceY target := along
      _ ≤ (offsetBy pos direction.offset).distance target := Nat.le_max_right _ _

/-- A monster that does not flee takes only steps that `canWalkTo` accepts, and comes no nearer, unless it walks over the
end of the coordinates away from a target that is more than half of them away. -/
theorem getDistanceStep_keepsAway {monster : Monster} {grounds : Grounds} {targetPos : Position} {random : Bool}
    {dirList : List Direction} {direction : Direction} (fits : monster.walker.position.Fits) (within : targetPos.Fits)
    (away : 1 ≤ monster.walker.position.distance targetPos)
    (sets : (monster.getDistanceStep grounds targetPos false random dirList).direction = some direction) :
    monster.canWalkTo grounds monster.walker.position direction = true ∧
      (monster.walker.position.distance targetPos < 32768 ∨ StaysOnMap monster.walker.position direction →
        monster.walker.position.distance targetPos ≤
          (getNextPosition direction monster.walker.position).distance targetPos) := by
  unfold getDistanceStep at sets
  simp only [Bool.not_false, Bool.true_and] at sets
  split at sets
  next refused => cases sets
  split at sets
  next reached => cases sets
  split at sets
  next same =>
    simp only [Position.distance, Position.getDistanceX, Position.getDistanceY, same.1, same.2] at away
    cases away
  next apart =>
    obtain ⟨walks, retreats⟩ := escape_retreats sets
    exact ⟨walks, distance_of_retreats fits within retreats⟩

/-- A monster that keeps four tiles away, with its target next to it. -/
def archer : Monster :=
  { walker := { position := ⟨100, 100, 7⟩, footing := ⟨fun _ => true, fun _ => true⟩ }, useCacheMap := false,
    targetDistance := 4 }

/-- Grounds on which just one tile is free. -/
def onlyTile (pos : Position) : Grounds :=
  { isSightClear := fun _ _ => true, tile := fun tile => tile = pos, getTopVisibleCreature := fun _ => false,
    queryAdd := fun _ => true }

theorem getDistanceStep_keepsAway_archer :
    archer.canWalkTo (onlyTile ⟨99, 100, 7⟩) ⟨100, 100, 7⟩ .west = true ∧
      (Position.distance ⟨100, 100, 7⟩ ⟨101, 100, 7⟩ < 32768 ∨ StaysOnMap ⟨100, 100, 7⟩ .west →
        Position.distance ⟨100, 100, 7⟩ ⟨101, 100, 7⟩ ≤
          (getNextPosition .west ⟨100, 100, 7⟩).distance ⟨101, 100, 7⟩) :=
  have sets : (archer.getDistanceStep (onlyTile ⟨99, 100, 7⟩) ⟨101, 100, 7⟩ false true []).direction = some .west := by
    decide
  getDistanceStep_keepsAway (by decide) (by decide) (by decide) sets

def outpost : Monster :=
  { walker := { position := ⟨0, 100, 7⟩, footing := ⟨fun _ => true, fun _ => true⟩ }, targetDistance := 50000 }

/-- From a target 40000 tiles to the east it walks to the west, over the end of the coordinates, and is 25535 tiles from
it. -/
theorem outpost_comesNearer : ¬ ∀ (monster : Monster) (grounds : Grounds) (targetPos : Position) (random : Bool)
    (dirList : List Direction) (direction : Direction), monster.walker.position.Fits → targetPos.Fits →
    targetPos.z = monster.walker.position.z → 1 ≤ monster.walker.position.distance targetPos →
    (monster.walker.position.distance targetPos : Int) < monster.targetDistance →
    (monster.getDistanceStep grounds targetPos false random dirList).direction = some direction →
    monster.canWalkTo grounds monster.walker.position direction = true ∧
      monster.walker.position.distance targetPos ≤
        (getNextPosition direction monster.walker.position).distance targetPos := by
  intro keeps
  have step := keeps outpost (onlyTile ⟨65535, 100, 7⟩) ⟨40000, 100, 7⟩ true [] .west (by decide) (by decide) rfl
    (by decide) (by decide) (by decide)
  exact absurd step.2 (by decide)

end Monster

end Styller
