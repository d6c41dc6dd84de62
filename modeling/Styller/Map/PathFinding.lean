import Styller.Map.WalkCache

/-! The search of `Map::getPathMatching`: its nodes, the neighbours that it looks at, and what one pass of its loop does. -/

namespace Styller.PathFinding

open Library

structure FindPathParams where
  allowDiagonal : Bool := true
  keepDistance : Bool := false
  maxSearchDist : Int := 0

/-- `FrozenPathingConditionCall`: the call with the best match so far, and what it leaves of it, and `isInRange`. -/
structure PathCondition where
  call : Position → Position → Int → Bool × Int
  isInRange : Position → Position → Bool

abbrev CombatType := Nat

/-- What `getTileWalkCost` asks of the tiles and of the creature. -/
structure Obstacles where
  getTopVisibleCreature : Position → Bool
  /-- `getFieldItem` with its `getCombatType`. -/
  getFieldItem : Position → Option CombatType
  isImmune : CombatType → Bool
  /-- `hasCondition` of the `DamageToConditionType`. -/
  hasCondition : CombatType → Bool
  /-- `canWalkOnFieldType`, if the creature is a monster. -/
  monster : Option (CombatType → Bool)

/-- What a search is about. -/
structure Query where
  walker : Walker
  useCacheMap : Bool
  obstacles : Obstacles
  pathCondition : PathCondition
  fpp : FindPathParams

structure AStarNode where
  parent : Option Position
  f : Int
  isOpen : Bool

structure AStarNodes where
  /-- The nodes by their positions. -/
  nodeTable : Position → Option AStarNode
  /-- Their positions in the order in which they were made. -/
  nodes : List Position
  closedNodes : Int

def maxNodes : Nat := 512
def mapNormalWalkCost : Int := 10
def mapDiagonalWalkCost : Int := 25

namespace AStarNodes

def new (pos : Position) : AStarNodes where
  nodeTable := Function.update (fun _ => none) pos (some { parent := none, f := 0, isOpen := true })
  nodes := [pos]
  closedNodes := 0

section
variable (nodes : AStarNodes)

/-- `none` where the table is full. -/
def createOpenNode (parent pos : Position) (f : Int) : Option AStarNodes :=
  if nodes.nodes.length ≥ maxNodes then none
  else some { nodes with
    nodeTable := Function.update nodes.nodeTable pos (some { parent := some parent, f, isOpen := true })
    nodes := nodes.nodes ++ [pos] }

/-- The loop of `getBestNode`, with the best node so far and its value. -/
def better (best : Option Position × Int) (pos : Position) : Option Position × Int :=
  match nodes.nodeTable pos with
  | none => best
  | some node => if node.isOpen ∧ node.f < best.2 then (some pos, node.f) else best

def getBestNode : Option Position := (nodes.nodes.foldl nodes.better (none, 2147483647)).1

def closeNode (pos : Position) : AStarNodes :=
  { nodes with
    nodeTable := Function.update nodes.nodeTable pos ((nodes.nodeTable pos).map fun node => { node with isOpen := false })
    closedNodes := nodes.closedNodes + 1 }

/-- A node with a new parent and value, and `openNode`. -/
def reopen (pos parent : Position) (f : Int) (node : AStarNode) : AStarNodes :=
  { nodes with
    nodeTable := Function.update nodes.nodeTable pos (some { parent := some parent, f, isOpen := true })
    closedNodes := if node.isOpen then nodes.closedNodes else nodes.closedNodes - 1 }

end

end AStarNodes

inductive Direction where
  | north
  | east
  | south
  | west
  | southwest
  | southeast
  | northwest
  | northeast
  deriving DecidableEq

def dirNeighbors : Direction → List (Int × Int)
  | .north => [(-1, 0), (0, 1), (1, 0), (1, 1), (-1, 1)]
  | .east => [(-1, 0), (0, 1), (0, -1), (-1, -1), (-1, 1)]
  | .south => [(-1, 0), (1, 0), (0, -1), (-1, -1), (1, -1)]
  | .west => [(0, 1), (1, 0), (0, -1), (1, -1), (1, 1)]
  | .southwest => [(1, 0), (0, -1), (-1, -1), (1, -1), (1, 1)]
  | .southeast => [(-1, 0), (0, -1), (-1, -1), (1, -1), (-1, 1)]
  | .northwest => [(0, 1), (1, 0), (1, -1), (1, 1), (-1, 1)]
  | .northeast => [(-1, 0), (0, 1), (-1, -1), (1, 1), (-1, 1)]

def allNeighbors : List (Int × Int) := [(-1, 0), (0, 1), (1, 0), (0, -1), (-1, -1), (1, -1), (1, 1), (-1, 1)]

/-- The direction that the offset of the parent stands for. -/
def directionOf (allowDiagonal : Bool) (offset : Int × Int) : Direction :=
  if offset.2 = 0 then if offset.1 = -1 then .west else .east
  else if allowDiagonal = false ∨ offset.1 = 0 then if offset.2 = -1 then .north else .south
  else if offset.2 = -1 then if offset.1 = -1 then .northwest else .northeast
  else if offset.1 = -1 then .southwest
  else .southeast

/-- The neighbours that are looked at for a node. -/
def neighbors (allowDiagonal : Bool) (pos : Position) : Option Position → List (Int × Int)
  | none => allNeighbors
  | some parent =>
    (dirNeighbors (directionOf allowDiagonal ((parent.x : Int) - pos.x, (parent.y : Int) - pos.y))).take
      (if allowDiagonal then 5 else 3)

def offsetBy (pos : Position) (offset : Int × Int) : Position :=
  ⟨Walker.toUInt16 (pos.x + offset.1), Walker.toUInt16 (pos.y + offset.2), pos.z⟩

def getMapWalkCost (node neighborPos : Position) : Int :=
  if ((node.x : Int) - neighborPos.x).natAbs = ((node.y : Int) - neighborPos.y).natAbs then mapDiagonalWalkCost
  else mapNormalWalkCost

def getTileWalkCost (obstacles : Obstacles) (pos : Position) : Int :=
  let cost := if obstacles.getTopVisibleCreature pos then mapNormalWalkCost * 3 else 0
  match obstacles.getFieldItem pos with
  | none => cost
  | some combatType =>
    if !obstacles.isImmune combatType && !obstacles.hasCondition combatType &&
        obstacles.monster.any fun canWalkOnFieldType => !canWalkOnFieldType combatType then
      cost + mapNormalWalkCost * 18
    else cost

/-- The variables of the loop. -/
structure Search where
  nodes : AStarNodes
  found : Option Position
  bestMatch : Int

section

variable (query : Query)

def start : Position := query.walker.position

/-- The two checks of a neighbour before its tile. -/
def inLimits (pos : Position) : Bool :=
  let far := (((start query).x : Int) - pos.x).natAbs > query.fpp.maxSearchDist ||
    (((start query).y : Int) - pos.y).natAbs > query.fpp.maxSearchDist
  !(query.fpp.maxSearchDist ≠ 0 && far) && !(query.fpp.keepDistance && !query.pathCondition.isInRange (start query) pos)

/-- `newf - f`: what a step costs. -/
def stepCost (pos neighborPos : Position) : Int :=
  getMapWalkCost pos neighborPos + getTileWalkCost query.obstacles neighborPos

/-- A neighbour is looked at; `none` where there is no room for its node. -/
def visit (pos : Position) (f : Int) (nodes : AStarNodes) (offset : Int × Int) : Option AStarNodes :=
  let neighborPos := offsetBy pos offset
  if !inLimits query neighborPos then some nodes
  else
    let newf := f + stepCost query pos neighborPos
    match nodes.nodeTable neighborPos with
    | some neighborNode =>
      if neighborNode.f ≤ newf then some nodes else some (nodes.reopen neighborPos pos newf neighborNode)
    | none =>
      if !query.walker.canWalkTo query.useCacheMap neighborPos then some nodes
      else nodes.createOpenNode pos neighborPos newf

/-- The loop over the neighbours, and whether it ended for want of room. -/
def visitAll (pos : Position) (f : Int) : AStarNodes → List (Int × Int) → AStarNodes × Bool
  | nodes, [] => (nodes, false)
  | nodes, offset :: offsets =>
    match visit query pos f nodes offset with
    | none => (nodes, true)
    | some nodes => visitAll pos f nodes offsets

/-- The node that the loop takes next, if it goes on. -/
def takes (search : Search) : Option (Position × AStarNode) :=
  if query.fpp.maxSearchDist ≠ 0 ∨ search.nodes.closedNodes < 100 then
    search.nodes.getBestNode.bind fun pos => (search.nodes.nodeTable pos).map (pos, ·)
  else none

/-- A pass of the loop with the node that it takes, and whether the table was full; `none` where it ends the search. -/
def pass (search : Search) (pos : Position) (node : AStarNode) : Option (Search × Bool) :=
  let (matching, bestMatch) := query.pathCondition.call (start query) pos search.bestMatch
  let found := if matching then some pos else search.found
  if matching ∧ bestMatch = 0 then none
  else
    let (nodes, full) := visitAll query pos node.f search.nodes (neighbors query.fpp.allowDiagonal pos node.parent)
    if full ∧ found = none then none
    else some ({ nodes := nodes.closeNode pos, found, bestMatch }, full)

/-- The passes of the loop, by the nodes that they take, while there is room for new nodes. -/
def search : System Search Position where
  init search := search = { nodes := AStarNodes.new (start query), found := none, bestMatch := 0 }
  step search pos next := ∃ node, takes query search = some (pos, node) ∧ pass query search pos node = some (next, false)

end

end Styller.PathFinding
