import Styller.Map.Map

/-! The search for spectators, through the leaves or from what the last searches have found. -/

namespace Styller

open Library

/-- The ranges of `getSpectatorsInternal`, from the lowest to the highest offset. -/
structure SpectatorRange where
  minRangeX : Int
  maxRangeX : Int
  minRangeY : Int
  maxRangeY : Int
  minRangeZ : Int
  maxRangeZ : Int

namespace SpectatorRange

variable (range : SpectatorRange) (centerPos : Position)

def min_x : Int := centerPos.x + range.minRangeX
def min_y : Int := centerPos.y + range.minRangeY
def max_x : Int := centerPos.x + range.maxRangeX
def max_y : Int := centerPos.y + range.maxRangeY
def minoffset : Int := centerPos.z - range.maxRangeZ
def maxoffset : Int := centerPos.z - range.minRangeZ

/-- `static_cast<uint16_t>(std::min<uint32_t>(0xFFFF, std::max<int32_t>(0, coordinate)))`. -/
def clamped (coordinate : Int) : Nat := min 0xFFFF coordinate.toNat

def aligned (coordinate : Nat) : Nat := coordinate - coordinate % QTreeNode.FLOOR_SIZE

def startx1 : Nat := aligned (clamped (range.min_x centerPos + range.minoffset centerPos))
def starty1 : Nat := aligned (clamped (range.min_y centerPos + range.minoffset centerPos))
def endx2 : Nat := aligned (clamped (range.max_x centerPos + range.maxoffset centerPos))
def endy2 : Nat := aligned (clamped (range.max_y centerPos + range.maxoffset centerPos))

/-- A position that is not passed over: its floor is in range, and so are its coordinates after the shift. -/
def sees (cpos : Position) : Bool :=
  if range.minRangeZ > cpos.z ∨ range.maxRangeZ < cpos.z then false
  else
    let offsetZ : Int := (centerPos.z : Int) - cpos.z
    !(range.min_y centerPos + offsetZ > cpos.y || range.max_y centerPos + offsetZ < cpos.y ||
      range.min_x centerPos + offsetZ > cpos.x || range.max_x centerPos + offsetZ < cpos.x)

end SpectatorRange

/-- How often `for (n = start; n <= end; n += FLOOR_SIZE)` comes round. -/
def rounds (start last : Nat) : Nat := (last + QTreeNode.FLOOR_SIZE - start) / QTreeNode.FLOOR_SIZE

namespace Map

section
variable (map : Map) (centerPos : Position) (range : SpectatorRange) (onlyPlayers : Bool)

/-- The creature is not passed over. -/
def seen (creature : CreatureId) : Bool :=
  match map.position creature with
  | some cpos => range.sees centerPos cpos
  | none => false

/-- The loop over `node_list`. -/
def scanLeaf (leaf : LeafPtr) (spectators : List CreatureId) : List CreatureId :=
  let node := map.leaves leaf
  let node_list := if onlyPlayers then node.player_list else node.creature_list
  spectators ++ node_list.filter (map.seen centerPos range)

/-- The loop over `nx`. -/
def scanRow : Nat → Option LeafPtr → Nat → Nat → List CreatureId → List CreatureId
  | 0, _, _, _, spectators => spectators
  | count + 1, some leafE, nx, ny, spectators =>
    scanRow count (map.leaves leafE).leafE (nx + QTreeNode.FLOOR_SIZE) ny
      (map.scanLeaf centerPos range onlyPlayers leafE spectators)
  | count + 1, none, nx, ny, spectators =>
    scanRow count (map.getQTNode (nx + QTreeNode.FLOOR_SIZE) ny) (nx + QTreeNode.FLOOR_SIZE) ny spectators

/-- The loop over `ny`. -/
def scanRows (columns startx1 : Nat) : Nat → Option LeafPtr → Nat → List CreatureId → List CreatureId
  | 0, _, _, spectators => spectators
  | count + 1, leafS, ny, spectators =>
    let spectators := map.scanRow centerPos range onlyPlayers columns leafS startx1 ny spectators
    match leafS with
    | some leafS => scanRows columns startx1 count (map.leaves leafS).leafS (ny + QTreeNode.FLOOR_SIZE) spectators
    | none =>
      scanRows columns startx1 count (map.getQTNode startx1 (ny + QTreeNode.FLOOR_SIZE)) (ny + QTreeNode.FLOOR_SIZE)
        spectators

def getSpectatorsInternal (spectators : List CreatureId) : List CreatureId :=
  let startx1 := range.startx1 centerPos
  let starty1 := range.starty1 centerPos
  map.scanRows centerPos range onlyPlayers (rounds startx1 (range.endx2 centerPos)) startx1
    (rounds starty1 (range.endy2 centerPos)) (map.getQTNode startx1 starty1) starty1 spectators

end

end Map

/-- The arguments of `getSpectators`, with what is in the vector already. -/
structure SpectatorCall where
  spectators : List CreatureId
  centerPos : Position
  multifloor : Bool := false
  onlyPlayers : Bool := false
  minRangeX : Int := 0
  maxRangeX : Int := 0
  minRangeY : Int := 0
  maxRangeY : Int := 0

namespace SpectatorCall

def maxViewportX : Int := 11
def maxViewportY : Int := 11

variable (call : SpectatorCall)

/-- The lowest and the highest floor. -/
def floors : Int × Int :=
  let z : Int := call.centerPos.z
  if call.multifloor then
    if z > 7 then (max (z - 2) 0, min (z + 2) (mapMaxLayers - 1))
    else if z = 6 then (0, 8)
    else if z = 7 then (0, 9)
    else (0, 7)
  else (z, z)

def range : SpectatorRange where
  minRangeX := if call.minRangeX = 0 then -maxViewportX else -call.minRangeX
  maxRangeX := if call.maxRangeX = 0 then maxViewportX else call.maxRangeX
  minRangeY := if call.minRangeY = 0 then -maxViewportY else -call.minRangeY
  maxRangeY := if call.maxRangeY = 0 then maxViewportY else call.maxRangeY
  minRangeZ := call.floors.1
  maxRangeZ := call.floors.2

/-- The ranges for which the caches are there. -/
def cached : Bool :=
  call.range.minRangeX = -maxViewportX && call.range.maxRangeX = maxViewportX &&
    call.range.minRangeY = -maxViewportY && call.range.maxRangeY = maxViewportY && call.multifloor

/-- What a cache holds comes to the vector; an empty one becomes a copy of it. -/
def withCached (cachedSpectators : List CreatureId) : List CreatureId :=
  if call.spectators.isEmpty then cachedSpectators else Unordered.addMissing call.spectators cachedSpectators

end SpectatorCall

namespace Map

section
variable (getPlayer : CreatureId → Bool) (map : Map) (call : SpectatorCall)

/-- The spectators if a cache has them (`foundCache`). -/
def foundCache : Option (List CreatureId) :=
  if call.cached then
    match if call.onlyPlayers then map.playersSpectatorCache call.centerPos else none with
    | some cachedSpectators => some (call.withCached cachedSpectators)
    | none =>
      match map.spectatorCache call.centerPos with
      | some cachedSpectators =>
        if call.onlyPlayers then some (call.spectators ++ cachedSpectators.filter getPlayer)
        else some (call.withCached cachedSpectators)
      | none => none
  else none

/-- The result of a search is kept (`cacheResult`). -/
def cacheResult (spectators : List CreatureId) : Map :=
  if call.onlyPlayers then
    { map with playersSpectatorCache := Function.update map.playersSpectatorCache call.centerPos (some spectators) }
  else { map with spectatorCache := Function.update map.spectatorCache call.centerPos (some spectators) }

def getSpectators : List CreatureId × Map :=
  if mapMaxLayers ≤ call.centerPos.z then (call.spectators, map)
  else
    match map.foundCache getPlayer call with
    | some spectators => (spectators, map)
    | none =>
      let spectators := map.getSpectatorsInternal call.centerPos call.range call.onlyPlayers call.spectators
      (spectators, if call.cached then map.cacheResult call spectators else map)

end

end Map

inductive MapOp where
  | setTile (pos : Position)
  | placeCreature (creature : CreatureId) (dest : Position)
  | moveCreature (creature : CreatureId) (newPos : Position)
  | removeCreature (creature : CreatureId)
  | getSpectators (call : SpectatorCall)

namespace Map

variable (getPlayer : CreatureId → Bool)

def step (map : Map) : MapOp → Option Map
  | .setTile pos => if pos.Fits then some (map.setTile pos) else none
  | .placeCreature creature dest => map.placeCreature getPlayer creature dest
  | .moveCreature creature newPos => map.moveCreature getPlayer creature newPos
  | .removeCreature creature => map.removeCreature getPlayer creature
  | .getSpectators call => some (map.getSpectators getPlayer call).2

/-- The runs of the map, from an empty one. -/
def system : System Map MapOp where
  init map := map = {}
  step map op next := map.step getPlayer op = some next

variable {getPlayer}

/-- What operations one after the other come to is reached. -/
theorem reachable_run {allow : Map → MapOp → Prop} {ops : List MapOp} (allowed : ∀ map, ∀ op ∈ ops, allow map op) {map : Map}
    (ran : ops.foldlM (step getPlayer) {} = some map) : (system getPlayer).Reachable allow map := by
  apply foldlM_done (fun _ map => (system getPlayer).Reachable allow map) ?_ (.init rfl) ran
  intro _ op map next listed reached taken
  exact .step reached (allowed map op listed) taken

end Map

end Styller
