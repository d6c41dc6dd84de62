import Styller.World.Mutate

/-! `Game::internalMoveItem`, in the order of its stages: the search for the
destination, the exchange with the item that occupies it, the checks, the transfer. -/

namespace Styller

/-- The arguments of `Game::internalMoveItem`; `positions` tells whether `fromPos`
and `toPos` are given. -/
structure Move where
  fromCylinder : Cylinder
  toCylinder : Cylinder
  index : Int
  item : ItemPtr
  count : Nat
  flags : CylinderFlags := {}
  actor : Option PlayerId := none
  tradeItem : Option ItemPtr := none
  positions : Bool := false

/-- The player whose `onMoveItem` event is asked. -/
def Move.eventPlayer (move : Move) : Option PlayerId := if move.positions then move.actor else none

def mapMaxLayers : Nat := 16

namespace Game

variable (env : Env)

/-- The loop over `queryDestination`; `flags` is 0 after the first redirection, and the
loop ends after `MAP_MAX_LAYERS` of them. -/
def resolve (game : Game) (item : ItemPtr) : Nat → Cylinder → Int → Option ItemPtr → CylinderFlags →
    Destination
  | 0, toCylinder, index, toItem, flags => ⟨toCylinder, index, toItem, flags⟩
  | floors + 1, toCylinder, index, toItem, flags =>
    let dest := game.queryDestination env toCylinder index item toItem flags
    if dest.cylinder = toCylinder then dest
    else resolve game item floors dest.cylinder dest.index dest.toItem CylinderFlags.none

def destination (game : Game) (move : Move) : Destination :=
  game.resolve env move.item mapMaxLayers move.toCylinder move.index none move.flags

/-- `eventPlayerOnMoveItem`, where it is called. -/
def askMove (game : Game) (move : Move) (item : ItemPtr) (count : Nat) (source target : Cylinder) :
    ReturnValue :=
  match move.eventPlayer with
  | some player => env.onMoveItem game player item count source target
  | none => .noError

/-- Whether the exchange may go on: the answer of the source cylinder, of the event, and of
the room in the source cylinder. -/
def exchangeAnswer (game : Game) (move : Move) (dest : Destination) (toItem : ItemPtr) : ReturnValue :=
  let toCount := (game.items toItem).count
  let ret := game.queryAdd env move.fromCylinder (game.getThingIndex env move.fromCylinder move.item)
    toItem toCount CylinderFlags.none none
  if ret ≠ .noError then ret
  else
    let eventRet := game.askMove env move toItem toCount dest.cylinder move.fromCylinder
    if eventRet ≠ .noError then eventRet
    else
      let room :=
        game.queryMaxCount env move.fromCylinder indexWhereever toItem toCount CylinderFlags.none
      if room.1 ≠ .noError ∧ room.2 = 0 then room.1 else .noError

/-- The occupying item goes to the source cylinder. -/
def swapOut (game : Game) (move : Move) (dest : Destination) (toItem : ItemPtr) : Game :=
  let oldToItemIndex := game.getThingIndex env dest.cylinder toItem
  let game := game.removeThing env dest.cylinder toItem (game.items toItem).count
  let game := game.addThingWhereever env move.fromCylinder toItem
  let game := if oldToItemIndex ≠ -1 then game.postRemoveNotification env dest.cylinder else game
  if game.getThingIndex env move.fromCylinder toItem ≠ -1
  then game.postAddNotification env move.fromCylinder toItem else game

/-- The exchange branch: the answer after it, the state, and the `toItem` that is left;
`none` where a null `toItem` is dereferenced. -/
def exchange (game : Game) (move : Move) (dest : Destination) :
    Option (ReturnValue × Game × Option ItemPtr) :=
  match dest.toItem with
  | none => none
  | some toItem =>
    let ret := game.exchangeAnswer env move dest toItem
    if ret ≠ .noError then some (ret, game, some toItem)
    else if game.queryRemove env dest.cylinder toItem (game.items toItem).count dest.flags move.actor =
        .noError then
      let game := game.swapOut env move dest toItem
      some (game.queryAdd env dest.cylinder dest.index move.item move.count dest.flags move.actor, game,
        none)
    else some (.noError, game, some toItem)

/-- `retMaxCount` and `maxQueryCount`. -/
def roomFor (game : Game) (move : Move) (dest : Destination) : ReturnValue × Nat :=
  game.queryMaxCount env dest.cylinder dest.index move.item move.count dest.flags

/-- How much is moved: `m`. -/
def moveCount (game : Game) (move : Move) (dest : Destination) : Nat :=
  if (game.items move.item).isStackable env.items then min move.count (game.roomFor env move dest).2
  else (game.roomFor env move dest).2

/-- The checks before the transfer: room, `queryRemove` and the traded item. -/
def refusal (game : Game) (move : Move) (dest : Destination) : ReturnValue :=
  let room := game.roomFor env move dest
  if room.1 ≠ .noError ∧ room.2 = 0 then room.1
  else
    let ret := game.queryRemove env move.fromCylinder move.item (game.moveCount env move dest)
      dest.flags move.actor
    if ret ≠ .noError then ret
    else
      match move.tradeItem with
      | some tradeItem =>
        if game.isParent tradeItem (game.next + 2) (some dest.cylinder) then .notEnoughRoom else .noError
      | none => .noError

def mergesWith (game : Game) (item : ItemPtr) (toItem : Option ItemPtr) : Option ItemPtr :=
  toItem.filter (fun stack => (game.items item).equals (some (game.items stack)))

/-- `n`: how much of `m` goes to the item the stack merges with. -/
def mergeCount (game : Game) (updateItem : Option ItemPtr) (m : Nat) : Nat :=
  match updateItem with
  | some stack =>
    min (toUInt32 ((game.items stack).getStackSize env.items - (game.items stack).count)) m
  | none => 0

/-- `updateThing` of the item the stack merges with. -/
def mergeStack (game : Game) (cylinder : Cylinder) (updateItem : Option ItemPtr) (m : Nat) : Game :=
  match updateItem with
  | some stack => game.updateThing env cylinder stack (game.items stack).id
      ((game.items stack).count + game.mergeCount env updateItem m)
  | none => game

/-- `addThing` of `moveItem`. -/
def addMoved (game : Game) (cylinder : Cylinder) (index : Int) (moveItem : Option ItemPtr) : Game :=
  match moveItem with
  | some moved => game.addThing env cylinder index moved
  | none => game

/-- `postAddNotification` for an item that is in the cylinder. -/
def notifyAdded (game : Game) (cylinder : Cylinder) (added : Option ItemPtr) : Game :=
  match added with
  | some ptr =>
    if game.getThingIndex env cylinder ptr ≠ -1 then game.postAddNotification env cylinder ptr else game
  | none => game

def startDecaying (game : Game) (moveItem : Option ItemPtr) : Game :=
  match moveItem with
  | some moved =>
    let item := game.items moved
    if item.getDuration > 0 ∧ item.getIntAttr .decayState ≠ 1 then
      { game.setItem moved (item.setIntAttr .decayState 1) with
        toDecayItems := moved :: game.toDecayItems }
    else game
  | none => game

def splitStack (game : Game) (item : ItemPtr) (newCount : Int) : Option ItemPtr × Game :=
  if newCount > 0 then (some game.next, game.cloneWithCount env item newCount) else (none, game)

/-- The item leaves its cylinder, and `m` of it arrive: on `updateItem`, as `moveItem`,
or both. -/
def deliver (game : Game) (move : Move) (dest : Destination) (m : Nat) :
    Option ItemPtr × Option ItemPtr × Game :=
  let stackable := (game.items move.item).isStackable env.items
  let game := game.removeThing env move.fromCylinder move.item m
  let updateItem := if stackable then game.mergesWith move.item dest.toItem else none
  let n := game.mergeCount env updateItem m
  let game := game.mergeStack env dest.cylinder updateItem m
  let split := if stackable then game.splitStack env move.item (toInt32 ((m : Int) - n))
    else (some move.item, game)
  (split.1, updateItem, split.2.addMoved env dest.cylinder dest.index split.1)

/-- The notifications after the move. -/
def announce (game : Game) (move : Move) (dest : Destination) (itemIndex : Int)
    (moveItem updateItem : Option ItemPtr) : Game :=
  let game := if itemIndex ≠ -1 then game.postRemoveNotification env move.fromCylinder else game
  let game := game.notifyAdded env dest.cylinder moveItem
  game.notifyAdded env dest.cylinder updateItem

/-- From the removal of the item to the end. -/
def transfer (game : Game) (move : Move) (dest : Destination) : ReturnValue × Game :=
  let room := game.roomFor env move dest
  let itemIndex := game.getThingIndex env move.fromCylinder move.item
  let delivered := game.deliver env move dest (game.moveCount env move dest)
  let after := delivered.2.2.announce env move dest itemIndex delivered.1 delivered.2.1
  if (game.items move.item).isStackable env.items ∧ room.2 < move.count then (room.1, after)
  else (.noError, after.startDecaying delivered.1)

/-- `Game::internalMoveItem`; `none` where a null pointer is dereferenced. -/
def internalMoveItem (game : Game) (move : Move) : Option (ReturnValue × Game) :=
  let eventRet := game.askMove env move move.item (toUInt16 move.count) move.fromCylinder move.toCylinder
  if eventRet ≠ .noError then some (eventRet, game)
  else
    let dest := game.destination env move
    if dest.toItem = some move.item then some (.noError, game)
    else
      let ret := game.queryAdd env dest.cylinder dest.index move.item move.count dest.flags move.actor
      let exchanged :=
        if ret = .needExchange then game.exchange env move dest else some (ret, game, dest.toItem)
      match exchanged with
      | none => none
      | some (ret, game, toItem) =>
        if ret ≠ .noError then some (ret, game)
        else
          let dest := { dest with toItem := toItem }
          let ret := game.refusal env move dest
          if ret ≠ .noError then some (ret, game)
          else some (game.transfer env move dest)

end Game

end Styller
