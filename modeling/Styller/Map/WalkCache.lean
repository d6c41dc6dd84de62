import Styller.Library.Shift
import Styller.Map.Map

/-! The walk cache of a creature: which tiles around it accept it, kept while the creature and the tiles change. -/

namespace Styller

open Library

/-- What the map is for one creature: where there are tiles, and what their `queryAdd` says to it, with
`FLAG_PATHFINDING | FLAG_IGNOREFIELDDAMAGE`. -/
structure Footing where
  tile : Position → Bool
  queryAdd : Position → Bool

/-- `tile && tile->queryAdd(..) == RETURNVALUE_NOERROR`. -/
def Footing.accepts (footing : Footing) (pos : Position) : Bool := footing.tile pos && footing.queryAdd pos

/-- `Creature`, as far as its walk cache goes. -/
structure Walker where
  position : Position
  footing : Footing
  isMapLoaded : Bool := false
  localMapCache : Nat → Nat → Bool := fun _ _ => false

namespace Walker

def mapWalkWidth : Nat := 23
def mapWalkHeight : Nat := 23
def maxWalkCacheWidth : Int := 11
def maxWalkCacheHeight : Int := 11

def toUInt16 (coordinate : Int) : Nat := (coordinate % 65536).toNat

/-- The offsets of a loop from `-maxWalkCache..` to `maxWalkCache..`. -/
def offsets : List Int := (List.range 23).map fun place : Nat => (place : Int) - 11

section
variable (walker : Walker)

/-- `updateTileCache` for an offset. -/
def updateTileCache (tilePos : Position) (dx dy : Int) : Walker :=
  if dx.natAbs ≤ maxWalkCacheWidth ∧ dy.natAbs ≤ maxWalkCacheHeight then
    let row := (maxWalkCacheHeight + dy).toNat
    let column := (maxWalkCacheWidth + dx).toNat
    { walker with
      localMapCache := Function.update walker.localMapCache row
        (Function.update (walker.localMapCache row) column (walker.footing.accepts tilePos)) }
  else walker

def updateTileCacheAt (pos : Position) : Walker :=
  if pos.z = walker.position.z then
    walker.updateTileCache pos ((pos.x : Int) - walker.position.x) ((pos.y : Int) - walker.position.y)
  else walker

/-- The position at an offset, as `getTile` is asked for it. -/
def around (x y : Int) : Position :=
  ⟨toUInt16 (walker.position.x + x), toUInt16 (walker.position.y + y), walker.position.z⟩

def updateMapCache : Walker :=
  (offsets.flatMap fun y => offsets.map fun x => (x, y)).foldl (fun walker offset =>
    walker.updateTileCacheAt (walker.around offset.1 offset.2)) walker

def updateRow (dy : Int) : Walker :=
  offsets.foldl (fun walker x => walker.updateTileCache (walker.around x dy) x dy) walker

def updateColumn (dx : Int) : Walker :=
  offsets.foldl (fun walker y => walker.updateTileCache (walker.around dx y) dx y) walker

end

/-- `Position::areInRange<1, 1, 0>`. -/
def areInRange (p1 p2 : Position) : Bool :=
  ((p1.x : Int) - p2.x).natAbs ≤ 1 && ((p1.y : Int) - p2.y).natAbs ≤ 1 && ((p1.z : Int) - p2.z).natAbs ≤ 0

def recache (walker : Walker) (cells : Nat → Nat → Bool) : Walker := { walker with localMapCache := cells }

section
variable (walker : Walker) (oldPos newPos : Position)

/-- The rows that move to the side: from `starty` to `endy`. -/
def shiftedRows : List Nat :=
  let dy : Int := ((oldPos.y : Int) - newPos.y).natAbs
  let starty : Int := if dy > 0 then dy else 0
  let endy : Int := if dy < 0 then mapWalkHeight - 1 + dy else mapWalkHeight - 1
  List.range' starty.toNat (endy + 1 - starty).toNat

/-- What a step to the north or to the south does to the rows. -/
def shiftY : Walker :=
  if oldPos.y > newPos.y then
    (walker.recache (Shift.up (mapWalkHeight - 1) walker.localMapCache)).updateRow (-maxWalkCacheHeight)
  else if oldPos.y < newPos.y then
    (walker.recache (Shift.down (mapWalkHeight - 1) walker.localMapCache)).updateRow maxWalkCacheHeight
  else walker

/-- What a step to the east or to the west does to the columns. -/
def shiftX : Walker :=
  if oldPos.x < newPos.x then
    (walker.recache (Shift.each (Shift.down (mapWalkWidth - 1)) (shiftedRows oldPos newPos)
      walker.localMapCache)).updateColumn maxWalkCacheWidth
  else if oldPos.x > newPos.x then
    (walker.recache (Shift.each (Shift.up (mapWalkWidth - 1)) (shiftedRows oldPos newPos)
      walker.localMapCache)).updateColumn (-maxWalkCacheWidth)
  else walker

/-- `onCreatureMove` for the creature itself. -/
def onCreatureMove (teleport : Bool) : Walker :=
  if walker.isMapLoaded then
    if teleport ∨ oldPos.z ≠ newPos.z then walker.updateMapCache
    else ((walker.shiftY oldPos newPos).shiftX oldPos newPos).updateTileCacheAt oldPos
  else walker

end

/-- What happens to the creature, or is reported to it. -/
inductive Event where
  /-- It appears, or thinks for the first time, and uses the cache. -/
  | load
  | move (newPos : Position) (forceTeleport : Bool)
  | otherMoves (oldPos newPos : Position)
  | onAddTileItem (pos : Position)
  | onUpdateTileItem (pos : Position) (oldType newType : ItemType)
  | onRemoveTileItem (pos : Position) (iType : ItemType)
  | otherAppears (pos : Position)
  | otherIsRemoved (pos : Position)

structure Step where
  event : Event
  footing : Footing

section
variable (walker : Walker)

/-- `updateTileCache` where the cache is loaded. -/
def report (pos : Position) : Walker := if walker.isMapLoaded then walker.updateTileCacheAt pos else walker

/-- The handlers. -/
def handle : Event → Walker
  | .load => { walker with isMapLoaded := true }.updateMapCache
  | .move newPos forceTeleport =>
    let oldPos := walker.position
    { walker with position := newPos }.onCreatureMove oldPos newPos (forceTeleport || !areInRange oldPos newPos)
  | .otherMoves oldPos newPos => (walker.report newPos).report oldPos
  | .onAddTileItem pos => walker.report pos
  | .onUpdateTileItem pos oldType newType =>
    if oldType.blockSolid || oldType.blockPathFind || newType.blockPathFind || newType.blockSolid then walker.report pos
    else walker
  | .onRemoveTileItem pos iType =>
    if iType.blockSolid || iType.blockPathFind || iType.isGroundTile then walker.report pos else walker
  | .otherAppears pos => walker.report pos
  | .otherIsRemoved pos => walker.report pos

def step (taken : Step) : Walker := { walker with footing := taken.footing }.handle taken.event

def getWalkCache (useCacheMap : Bool) (pos : Position) : Nat :=
  if !useCacheMap then 2
  else if walker.position.z ≠ pos.z then 0
  else if pos = walker.position then 1
  else
    let dx : Int := (pos.x : Int) - walker.position.x
    let dy : Int := (pos.y : Int) - walker.position.y
    if dx.natAbs ≤ maxWalkCacheWidth ∧ dy.natAbs ≤ maxWalkCacheHeight then
      if walker.localMapCache (maxWalkCacheHeight + dy).toNat (maxWalkCacheWidth + dx).toNat then 1 else 0
    else 2

/-- The tile without the cache, if the creature can walk to it. -/
def walkable (pos : Position) : Bool :=
  if pos = walker.position then walker.footing.tile pos else walker.footing.accepts pos

/-- `Map::canWalkTo`, for a creature that is no player: whether it gives the tile. -/
def canWalkTo (useCacheMap : Bool) (pos : Position) : Bool :=
  match walker.getWalkCache useCacheMap pos with
  | 0 => false
  | 1 => walker.footing.tile pos
  | _ => walker.walkable pos

end

end Walker

end Styller
