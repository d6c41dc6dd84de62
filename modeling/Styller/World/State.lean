import Styller.Trade.Trading

/-! The state that the item operations read and change: items by address,
players, tiles, and the trades that are under way. -/

namespace Styller

/-- The inventory slots, `CONST_SLOT_FIRST` to `CONST_SLOT_LAST`. -/
def slots : List Nat := List.range' 1 10

def constSlotWhereever : Int := 0
def constSlotHead : Int := 1
def constSlotNecklace : Int := 2
def constSlotBackpack : Int := 3
def constSlotArmor : Int := 4
def constSlotRight : Int := 5
def constSlotLeft : Int := 6
def constSlotLegs : Int := 7
def constSlotFeet : Int := 8
def constSlotRing : Int := 9
def constSlotAmmo : Int := 10

structure Player where
  inventory : Nat → Option ItemPtr := fun _ => none
  capacity : Nat := 0
  inventoryWeight : Nat := 0
  hasInfiniteCapacity : Bool := false
  cannotPickupItem : Bool := false
  tile : Option Position := none

structure Tile where
  ground : Option ItemPtr := none
  topItems : List ItemPtr := []
  downItems : List ItemPtr := []
  creatures : List Nat := []
  flags : TileFlag → Bool := fun _ => false
  house : Option Nat := none

namespace Tile

def itemList (tile : Tile) : List ItemPtr := tile.downItems ++ tile.topItems

/-- All items of the tile in the order of `Tile::getThing`. -/
def things (tile : Tile) : List ItemPtr := tile.ground.toList ++ tile.topItems ++ tile.downItems

def hasFlag (tile : Tile) (flag : TileFlag) : Bool := tile.flags flag

/-- `hasFlag(TILESTATE_FLOORCHANGE)`. -/
def hasFloorChange (tile : Tile) : Bool :=
  tile.flags .floorChangeDown || tile.flags .floorChangeNorth || tile.flags .floorChangeSouth ||
    tile.flags .floorChangeEast || tile.flags .floorChangeWest || tile.flags .floorChangeSouthAlt ||
    tile.flags .floorChangeEastAlt

def setFlag (tile : Tile) (flag : TileFlag) : Tile :=
  { tile with flags := fun other => other = flag || tile.flags other }

def resetFlag (tile : Tile) (flag : TileFlag) : Tile :=
  { tile with flags := fun other => other ≠ flag && tile.flags other }

def getTopDownItem (tile : Tile) : Option ItemPtr := tile.downItems.head?

end Tile

/-- The state of the game as far as items are concerned.  `next` is the first
address that is not in use. -/
structure Game where
  items : ItemPtr → Item
  next : ItemPtr
  players : PlayerId → Player
  tiles : Position → Option Tile
  trading : Trading
  toDecayItems : List ItemPtr

namespace Game

def setItem (game : Game) (ptr : ItemPtr) (item : Item) : Game :=
  { game with items := fun other => if other = ptr then item else game.items other }

def setPlayer (game : Game) (id : PlayerId) (player : Player) : Game :=
  { game with players := fun other => if other = id then player else game.players other }

def setTile (game : Game) (pos : Position) (tile : Tile) : Game :=
  { game with tiles := fun other => if other = pos then some tile else game.tiles other }

/-- `new`: the item gets the next free address. -/
def allocate (game : Game) (item : Item) : Game :=
  { game.setItem game.next item with next := game.next + 1 }

/-- What a cylinder holds, in the order in which it is searched. -/
def contents (game : Game) : Cylinder → List ItemPtr
  | .player id => slots.filterMap (game.players id).inventory
  | .tile pos => ((game.tiles pos).map Tile.things).getD []
  | .item ptr => (game.items ptr).itemlist

/-- `Cylinder::getParent`. -/
def parentOf (game : Game) : Cylinder → Option Cylinder
  | .player id => (game.players id).tile.map .tile
  | .tile _ => none
  | .item ptr => (game.items ptr).parent

/-- The loop of `Item::getTopParent`. -/
def climb (game : Game) : Nat → Option Cylinder → Cylinder → Cylinder
  | 0, prevaux, aux => prevaux.getD aux
  | fuel + 1, prevaux, aux =>
    match game.parentOf aux with
    | none => prevaux.getD aux
    | some up => climb game fuel (some aux) up

def getTopParent (game : Game) (ptr : ItemPtr) : Option Cylinder :=
  let prevaux := if (game.items ptr).isCylinder then some (Cylinder.item ptr) else none
  match (game.items ptr).parent with
  | none => prevaux
  | some aux => some (game.climb (game.next + 2) prevaux aux)

/-- The search of `ContainerIterator`: the items of the containers in the queue, and
behind them those of the non-empty containers among them. -/
def nestedItems (game : Game) : Nat → List ItemPtr → List ItemPtr
  | 0, _ => []
  | _ + 1, [] => []
  | fuel + 1, container :: queue =>
    let itemlist := (game.items container).itemlist
    itemlist ++ nestedItems game fuel (queue ++ itemlist.filter (fun ptr =>
      (game.items ptr).isContainer && !(game.items ptr).itemlist.isEmpty))

/-- The items that `Container::iterator` visits. -/
def iterate (game : Game) (container : ItemPtr) : List ItemPtr :=
  game.nestedItems (game.next + 1) [container]

def getItemHoldingCount (game : Game) (container : ItemPtr) : Nat := (game.iterate container).length

def isHoldingItem (game : Game) (container item : ItemPtr) : Bool :=
  (game.iterate container).contains item

/-- `Container::getItemByIndex`; a negative index is a very large `size_t`. -/
def getItemByIndex (game : Game) (container : ItemPtr) (index : Int) : Option ItemPtr :=
  if index < 0 then none else (game.items container).itemlist[index.toNat]?

/-- The index of a container's list entry, or -1. -/
def indexIn (list : List ItemPtr) (ptr : ItemPtr) : Int :=
  match list.idxOf? ptr with
  | some index => index
  | none => -1

end Game

end Styller
