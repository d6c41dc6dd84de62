import Styller.Map.QuadTree
import Styller.World.MoveItem

/-! The map: its leaves with their tiles and creatures, and how tiles and creatures come to it and leave it. -/

namespace Styller

open Library

/-- The coordinates are words of the program. -/
def Position.Fits (pos : Position) : Prop := pos.x < 65536 ∧ pos.y < 65536

instance (pos : Position) : Decidable pos.Fits := inferInstanceAs (Decidable (_ ∧ _))

def FLOOR_MASK : Nat := 7

/-- `Floor`: which of its slots hold a tile. -/
structure Floor where
  tiles : Nat → Nat → Bool := fun _ _ => false

structure QTreeLeafNode where
  leafS : Option LeafPtr := none
  leafE : Option LeafPtr := none
  array : Nat → Option Floor := fun _ => none
  creature_list : List CreatureId := []
  player_list : List CreatureId := []

namespace QTreeLeafNode

variable (node : QTreeLeafNode)

def createFloor (z : Nat) : Floor := (node.array z).getD {}

/-- A tile in its slot of the floor. -/
def setTile (x y z : Nat) : QTreeLeafNode :=
  let floor := node.createFloor z
  let tiles := Function.update floor.tiles (x &&& FLOOR_MASK)
    (Function.update (floor.tiles (x &&& FLOOR_MASK)) (y &&& FLOOR_MASK) true)
  { node with array := Function.update node.array z (some { floor with tiles }) }

variable (getPlayer : CreatureId → Bool) (c : CreatureId)

def addCreature : QTreeLeafNode :=
  { node with
    creature_list := node.creature_list ++ [c]
    player_list := if getPlayer c then node.player_list ++ [c] else node.player_list }

def removeCreature : QTreeLeafNode :=
  { node with
    creature_list := Unordered.remove node.creature_list c
    player_list := if getPlayer c then Unordered.remove node.player_list c else node.player_list }

end QTreeLeafNode

abbrev SpectatorCache := Position → Option (List CreatureId)

/-- `Map`, and where the creatures are: on the tile that is their parent. -/
structure Map where
  root : QTreeNode := .node fun _ => .empty
  leaves : LeafPtr → QTreeLeafNode := fun _ => {}
  allocated : Nat := 0
  position : CreatureId → Option Position := fun _ => none
  spectatorCache : SpectatorCache := fun _ => none
  playersSpectatorCache : SpectatorCache := fun _ => none

namespace Map

section
variable (map : Map)

def getQTNode (x y : Nat) : Option LeafPtr := map.root.getLeaf x y

def getTile (pos : Position) : Bool :=
  if mapMaxLayers ≤ pos.z then false
  else
    match map.getQTNode pos.x pos.y with
    | none => false
    | some leaf =>
      match (map.leaves leaf).array pos.z with
      | none => false
      | some floor => floor.tiles (pos.x &&& FLOOR_MASK) (pos.y &&& FLOOR_MASK)

def onLeaf (leaf : LeafPtr) (change : QTreeLeafNode → QTreeLeafNode) : Map :=
  { map with leaves := Function.update map.leaves leaf (change (map.leaves leaf)) }

def onLeaf? (leaf : Option LeafPtr) (change : QTreeLeafNode → QTreeLeafNode) : Map :=
  match leaf with
  | some leaf => map.onLeaf leaf change
  | none => map

/-- The difference of two words. -/
def sub32 (x y : Nat) : Nat := (x + 2 ^ 32 - y) % 2 ^ 32

/-- The links between a new leaf and its neighbours; where there is no neighbour a link stays as it is. -/
def linkLeaf (leaf : LeafPtr) (x y : Nat) : Map :=
  let map := map.onLeaf? (map.getQTNode x (sub32 y QTreeNode.FLOOR_SIZE)) fun north => { north with leafS := some leaf }
  let map := map.onLeaf? (map.getQTNode (sub32 x QTreeNode.FLOOR_SIZE) y) fun west => { west with leafE := some leaf }
  let southLeaf := map.getQTNode x (y + QTreeNode.FLOOR_SIZE)
  let map := map.onLeaf leaf fun node => { node with leafS := southLeaf.or node.leafS }
  let eastLeaf := map.getQTNode (x + QTreeNode.FLOOR_SIZE) y
  map.onLeaf leaf fun node => { node with leafE := eastLeaf.or node.leafE }

/-- The tree with the path to a position, and a new leaf for where it lacks one. -/
def newLeaf (x y : Nat) : Map :=
  { map with
    root := map.root.createLeaf x y 15 map.allocated
    leaves := Function.update map.leaves map.allocated {}
    allocated := map.allocated + 1 }

/-- `createLeaf` at the root, and the links if the leaf at the end of the path is a new one. -/
def createLeaf (x y : Nat) : Map × LeafPtr :=
  let created := map.newLeaf x y
  match created.getQTNode x y with
  | some leaf => if leaf = map.allocated then (created.linkLeaf leaf x y, leaf) else ({ map with root := created.root }, leaf)
  | none => (map, map.allocated)

/-- `setTile`. Where there is a tile already, it takes over the things of the new one. -/
def setTile (pos : Position) : Map :=
  if mapMaxLayers ≤ pos.z then map
  else
    let (map, leaf) := map.createLeaf pos.x pos.y
    map.onLeaf leaf fun node => node.setTile pos.x pos.y pos.z

end

section
variable (getPlayer : CreatureId → Bool) (map : Map)

/-- What a tile clears when a creature comes to it or leaves it. -/
def clearCaches (creature : CreatureId) : Map :=
  { map with
    spectatorCache := fun _ => none
    playersSpectatorCache := if getPlayer creature then fun _ => none else map.playersSpectatorCache }

def setParent (creature : CreatureId) (pos : Option Position) : Map :=
  { map with position := Function.update map.position creature pos }

/-- `placeCreature` from where it has found the tile; `Game` places no creature that is on the map. -/
def placeCreature (creature : CreatureId) (dest : Position) : Option Map :=
  if map.position creature = none ∧ dest.Fits ∧ map.getTile dest then
    match map.getQTNode dest.x dest.y with
    | none => none
    | some leaf =>
      let map := (map.clearCaches getPlayer creature).setParent creature (some dest)
      some (map.onLeaf leaf fun node => node.addCreature getPlayer creature)
  else none

/-- `moveCreature`, as far as the map changes. Its own calls of `getSpectators` ask for creatures of all kinds, and what
they keep is cleared when the creature leaves its tile. -/
def moveCreature (creature : CreatureId) (newPos : Position) : Option Map :=
  match map.position creature with
  | none => none
  | some oldPos =>
    if newPos.Fits ∧ map.getTile newPos then
      let map := map.clearCaches getPlayer creature
      match map.getQTNode oldPos.x oldPos.y, map.getQTNode newPos.x newPos.y with
      | some leaf, some newLeaf =>
        let map :=
          if leaf ≠ newLeaf then
            (map.onLeaf leaf fun node => node.removeCreature getPlayer creature).onLeaf newLeaf fun node =>
              node.addCreature getPlayer creature
          else map
        some ((map.clearCaches getPlayer creature).setParent creature (some newPos))
      | _, _ => none
    else none

/-- `Tile::removeCreature`. -/
def removeCreature (creature : CreatureId) : Option Map :=
  match map.position creature with
  | none => none
  | some pos =>
    match map.getQTNode pos.x pos.y with
    | none => none
    | some leaf =>
      let map := map.onLeaf leaf fun node => node.removeCreature getPlayer creature
      some ((map.clearCaches getPlayer creature).setParent creature none)

end

end Map
end Styller
