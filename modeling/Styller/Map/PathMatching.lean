import Styller.Map.PathFinding

/-! `Map::getPathMatching` as a whole: the loop of the search, and the directions along the parents of the node that it found. -/

namespace Styller.PathFinding

open Library

def getNextPosition (direction : Direction) (pos : Position) : Position :=
  match direction with
  | .north => offsetBy pos (0, -1)
  | .south => offsetBy pos (0, 1)
  | .west => offsetBy pos (-1, 0)
  | .east => offsetBy pos (1, 0)
  | .southwest => offsetBy pos (-1, 1)
  | .northwest => offsetBy pos (-1, -1)
  | .northeast => offsetBy pos (1, -1)
  | .southeast => offsetBy pos (1, 1)

/-- The direction that leads back over a difference of coordinates, if any. -/
def directionOver (dx dy : Int) : Option Direction :=
  if dx = 1 ∧ dy = 1 then some .northwest
  else if dx = -1 ∧ dy = 1 then some .northeast
  else if dx = 1 ∧ dy = -1 then some .southwest
  else if dx = -1 ∧ dy = -1 then some .southeast
  else if dx = 1 then some .west
  else if dx = -1 then some .east
  else if dy = 1 then some .north
  else if dy = -1 then some .south
  else none

/-- The directions from a node back along its parents; `none` where there are more of these than expected. -/
def walkBack (nodes : AStarNodes) : Nat → Position → Option (List Direction)
  | 0, _ => none
  | fuel + 1, prev =>
    match (nodes.nodeTable prev).bind AStarNode.parent with
    | none => some []
    | some pos =>
      (walkBack nodes fuel pos).map fun dirList =>
        (directionOver ((pos.x : Int) - prev.x) ((pos.y : Int) - prev.y)).toList ++ dirList

section

variable (query : Query)

/-- The loop: the node that is found, if any, and the nodes; `none` where it takes more passes than expected. -/
def searchLoop : Nat → Search → Option (Option Position × AStarNodes)
  | 0, _ => none
  | fuel + 1, search =>
    match takes query search with
    | none => some (search.found, search.nodes)
    | some (pos, node) =>
      match pass query search pos node with
      | some (next, _) => searchLoop fuel next
      -- a perfect match, or no room for a node and nothing found
      | none =>
        some (if (query.pathCondition.call (start query) pos search.bestMatch).1 then some pos else search.found, search.nodes)

def initial : Search := { nodes := AStarNodes.new (start query), found := none, bestMatch := 0 }

/-- `Map::getPathMatching`: the list of directions where it returns true. -/
def getPathMatching (passes : Nat) : Option (Option (List Direction)) :=
  (searchLoop query passes (initial query)).bind fun result =>
    match result.1 with
    | none => some none
    | some found => (walkBack result.2 (result.2.nodes.length + 1) found).map some

end

end Styller.PathFinding
