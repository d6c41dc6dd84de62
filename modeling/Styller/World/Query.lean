import Styller.World.State

/-! The questions that the item operations put to a cylinder: `queryAdd`,
`queryMaxCount`, `queryRemove`, `queryDestination` and `getThingIndex` of players,
containers, tiles and the other cylinders. -/

namespace Styller

theorem noError_ne (_ : Game) (_ : PlayerId) (_ : ItemPtr) (_ : Int) : ReturnValue.noError ≠ .needExchange := by decide

/-- The world around the items: the type table, the configuration, and the answers
of scripts and of other parts of the server. -/
structure Env where
  items : ItemTypes
  classicEquipmentSlots : Bool := true
  onlyInvitedCanMoveHouseItems : Bool := true
  isInvited : Nat → PlayerId → Bool := fun _ _ => true
  isInGhostMode : Nat → Bool := fun _ => false
  /-- `MoveEvents::onPlayerEquip` in check mode. -/
  onPlayerEquip : Game → PlayerId → ItemPtr → Int → ReturnValue := fun _ _ _ _ => .noError
  onPlayerEquip_ne : ∀ game id ptr index, onPlayerEquip game id ptr index ≠ .needExchange := by
    exact noError_ne
  /-- `Events::eventPlayerOnMoveItem`. -/
  onMoveItem : Game → PlayerId → ItemPtr → Nat → Cylinder → Cylinder → ReturnValue :=
    fun _ _ _ _ _ _ => .noError
  normalRandom : ItemPtr → Nat → Nat → Int := fun _ lowest _ => lowest
  /-- `Teleport::addThing` and `Mailbox::addThing` for an item on the tile. -/
  teleportAddThing : Game → ItemPtr → ItemPtr → Game := fun game _ _ => game
  mailboxAddThing : Game → ItemPtr → ItemPtr → Game := fun game _ _ => game

/-- Where `queryDestination` sends a thing. -/
structure Destination where
  cylinder : Cylinder
  index : Int
  toItem : Option ItemPtr
  flags : CylinderFlags
  deriving DecidableEq

/-- `ITEM_PARCEL` and `ITEM_LETTER`. -/
def canSend (item : Item) : Bool := item.id = 2595 || item.id = 2597

namespace Game

section
variable (env : Env) (game : Game) (id : PlayerId)

def getFreeCapacity : Nat :=
  let player := game.players id
  if player.cannotPickupItem then 0
  else if player.hasInfiniteCapacity then 2 ^ 32 - 1
  else (max 0 (toInt32 ((player.capacity : Int) - player.inventoryWeight))).toNat

def hasCapacity (ptr : ItemPtr) (count : Nat) : Bool :=
  let player := game.players id
  let item := game.items ptr
  if player.cannotPickupItem then false
  else if player.hasInfiniteCapacity || game.getTopParent ptr = some (.player id) then true
  else
    let itemWeight := if item.isContainer then item.getWeight env.items else item.getBaseWeight env.items
    let itemWeight := if item.isStackable env.items then (itemWeight * count) % 2 ^ 32 else itemWeight
    itemWeight ≤ game.getFreeCapacity id

def getInventoryItem (slot : Int) : Option ItemPtr :=
  if slot < 1 ∨ slot > 10 then none else (game.players id).inventory slot.toNat

/-- What `Player::queryAdd` answers for an item that does not fit the slot. -/
def dressAnswer (slotPosition : SlotPosition) : ReturnValue :=
  if slotPosition.head || slotPosition.necklace || slotPosition.backpack || slotPosition.armor ||
      slotPosition.legs || slotPosition.feet || slotPosition.ring then .cannotBeDressed
  else if slotPosition.twoHand then .putThisObjectInBothHands
  else if slotPosition.right || slotPosition.left then
    if ¬ env.classicEquipmentSlots then .cannotBeDressed else .putThisObjectInYourHand
  else .noError

/-- The classic rule for a hand whose other hand holds `other`. -/
def otherHandAnswer (ptr : ItemPtr) (count : Nat) (other : ItemPtr) : ReturnValue :=
  let item := game.items ptr
  let otherItem := game.items other
  let type := item.getWeaponType env.items
  let otherType := otherItem.getWeaponType env.items
  if (otherItem.getSlotPosition env.items).twoHand then .dropTwoHandedItem
  else if ptr = other ∧ count = item.count then .noError
  else if otherType = .shield ∧ type = .shield then .canOnlyUseOneShield
  else if otherType = .none ∨ type = .none ∨ otherType = .shield ∨ otherType = .ammo ∨
      type = .shield ∨ type = .ammo then .noError
  else .canOnlyUseOneWeapon

/-- The case `CONST_SLOT_RIGHT` of `Player::queryAdd` for an item that fits it. -/
def rightHandAnswer (ptr : ItemPtr) (count : Nat) : ReturnValue :=
  let item := game.items ptr
  let slotPosition := item.getSlotPosition env.items
  let left := (game.players id).inventory 6
  if ¬ env.classicEquipmentSlots then
    if item.getWeaponType env.items ≠ .shield then .cannotBeDressed
    else
      match left with
      | some leftItem =>
        if ((game.items leftItem).getSlotPosition env.items).twoHand || slotPosition.twoHand
        then .bothHandsNeedToBeFree else .noError
      | none => .noError
  else if slotPosition.twoHand then
    if left.isSome ∧ left ≠ some ptr then .bothHandsNeedToBeFree else .noError
  else
    match left with
    | some leftItem => otherHandAnswer env game ptr count leftItem
    | none => .noError

/-- The case `CONST_SLOT_LEFT` of `Player::queryAdd` for an item that fits it. -/
def leftHandAnswer (ptr : ItemPtr) (count : Nat) : ReturnValue :=
  let item := game.items ptr
  let slotPosition := item.getSlotPosition env.items
  let right := (game.players id).inventory 5
  if ¬ env.classicEquipmentSlots then
    let type := item.getWeaponType env.items
    if type = .none ∨ type = .shield then .cannotBeDressed
    else if right.isSome ∧ slotPosition.twoHand then .bothHandsNeedToBeFree
    else .noError
  else if slotPosition.twoHand then
    if right.isSome ∧ right ≠ some ptr then .bothHandsNeedToBeFree else .noError
  else
    match right with
    | some rightItem => otherHandAnswer env game ptr count rightItem
    | none => .noError

/-- The `switch` over the index in `Player::queryAdd`. -/
def slotAnswer (index : Int) (ptr : ItemPtr) (count : Nat) : ReturnValue :=
  let slotPosition := (game.items ptr).getSlotPosition env.items
  let ret := dressAnswer env slotPosition
  if index = constSlotHead then if slotPosition.head then .noError else ret
  else if index = constSlotNecklace then if slotPosition.necklace then .noError else ret
  else if index = constSlotBackpack then if slotPosition.backpack then .noError else ret
  else if index = constSlotArmor then if slotPosition.armor then .noError else ret
  else if index = constSlotRight then
    if slotPosition.right then rightHandAnswer env game id ptr count else ret
  else if index = constSlotLeft then
    if slotPosition.left then leftHandAnswer env game id ptr count else ret
  else if index = constSlotLegs then if slotPosition.legs then .noError else ret
  else if index = constSlotFeet then if slotPosition.feet then .noError else ret
  else if index = constSlotRing then if slotPosition.ring then .noError else ret
  else if index = constSlotAmmo then
    if slotPosition.ammo || env.classicEquipmentSlots then .noError else ret
  else if index = constSlotWhereever ∨ index = -1 then .notEnoughRoom
  else .notPossible

/-- `Player::queryAdd`. -/
def playerQueryAdd (index : Int) (ptr : ItemPtr) (count : Nat) (flags : CylinderFlags) : ReturnValue :=
  let item := game.items ptr
  if flags.childIsOwner then
    if flags.noLimit || game.hasCapacity env id ptr count then .noError else .notEnoughCapacity
  else if ¬ item.isPickupable env.items then .cannotPickup
  else
    let ret := slotAnswer env game id index ptr count
    if ret ≠ .noError ∧ ret ≠ .notEnoughRoom then ret
    else if ¬ game.hasCapacity env id ptr count then .notEnoughCapacity
    else
      -- the answer of the switch is dropped here, `notEnoughRoom` included
      let ret := env.onPlayerEquip game id ptr index
      if ret ≠ .noError then ret
      else
        match game.getInventoryItem id index with
        | none => ret
        | some inventoryItem =>
          if ¬ (game.items inventoryItem).isStackable env.items ∨
              (game.items inventoryItem).id ≠ item.id then
            match game.getTopParent ptr with
            | some (.player _) => .needExchange
            | some (.item top) =>
              if (game.items top).kind = .depotChest then .needExchange else .notEnoughRoom
            | _ => .notEnoughRoom
          else ret

/-- `Player::queryRemove`, which is also the end of the tile's and container's own. -/
def itemQueryRemove (index : Int) (ptr : ItemPtr) (count : Nat) (flags : CylinderFlags) : ReturnValue :=
  let item := game.items ptr
  if index = -1 then .notPossible
  else if count = 0 ∨ (item.isStackable env.items ∧ count > item.count) then .notPossible
  else if ¬ item.isMoveable env.items ∧ ¬ flags.ignoreNotMoveable then .notMoveable
  else .noError

/-- `Player::getThingIndex`. -/
def playerThingIndex (ptr : ItemPtr) : Int :=
  match slots.find? (fun slot => (game.players id).inventory slot = some ptr) with
  | some slot => slot
  | none => -1

end

section
variable (env : Env) (game : Game) (tile : Tile)

/-- The tile belongs to a house that the player who acts is not invited to. -/
def uninvited (actor : Option PlayerId) : Bool :=
  match tile.house, actor with
  | some house, some actorPlayer => !env.isInvited house actorPlayer
  | _, _ => false

/-- Whether something that blocks keeps `item` from the tile. -/
def blocksItem (blocker : ItemType) (item : Item) : Bool :=
  blocker.blockSolid &&
    (!blocker.ignoreBlocking || item.isMagicField env.items || item.isBlocking env.items) &&
    (!item.isPickupable env.items || !blocker.hasHeight || blocker.pickupable || blocker.isBed)

/-- `Tile::queryAdd` for an item, and `HouseTile::queryAdd`. -/
def tileQueryAdd (ptr : ItemPtr) (flags : CylinderFlags) (actor : Option PlayerId) : ReturnValue :=
  let item := game.items ptr
  if uninvited env tile actor then .cannotThrow
  else if tile.itemList.length ≥ 0xFFFF then .notPossible
  else if flags.noLimit then .noError
  else
    let itemIsHangable := item.isHangable env.items
    if tile.ground = none ∧ ¬ itemIsHangable then .notPossible
    else if item.isBlocking env.items ∧ ¬ flags.ignoreBlockCreature ∧
        tile.creatures.any (fun creature => !env.isInGhostMode creature) then .notEnoughRoom
    else if itemIsHangable ∧ tile.hasFlag .supportsHangable then
      if tile.itemList.any (fun other => (game.items other).isHangable env.items) then .needExchange
      else .noError
    else if (tile.ground.toList ++ tile.itemList).any
        (fun other => blocksItem env (env.items.get (game.items other).id) item) then .notEnoughRoom
    else .noError

/-- `Tile::getThingIndex` for an item. -/
def tileThingIndex (ptr : ItemPtr) : Int :=
  let n : Int := if tile.ground.isSome then 0 else -1
  if tile.ground = some ptr then 0
  else if (game.items ptr).isAlwaysOnTop env.items then
    match tile.topItems.idxOf? ptr with
    | some index => n + 1 + index
    | none => -1
  else
    match tile.downItems.idxOf? ptr with
    | some index => n + 1 + tile.topItems.length + tile.creatures.length + index
    | none => -1

/-- `Tile::queryRemove` and `HouseTile::queryRemove`. -/
def tileQueryRemove (ptr : ItemPtr) (count : Nat) (flags : CylinderFlags) (actor : Option PlayerId) :
    ReturnValue :=
  if env.onlyInvitedCanMoveHouseItems && uninvited env tile actor then .notPossible
  else itemQueryRemove env game (tileThingIndex env game tile ptr) ptr count flags

/-- The position whose tile `Tile::queryDestination` looks up instead of its own. -/
def floorChangeTarget (pos : Position) : Option Position :=
  let hasFlag := fun (place : Position) (flag : TileFlag) =>
    match game.tiles place with
    | some other => other.hasFlag flag
    | none => false
  let move := fun (x y : Int) (z : Nat) => (⟨toUInt16 x, toUInt16 y, z⟩ : Position)
  if tile.hasFlag .floorChangeDown then
    let dz := toUInt8 (pos.z + 1)
    if hasFlag (move pos.x (pos.y - 1) dz) .floorChangeSouthAlt then some (move pos.x (pos.y - 2) dz)
    else if hasFlag (move (pos.x - 1) pos.y dz) .floorChangeEastAlt then
      some (move (pos.x - 2) pos.y dz)
    else
      match game.tiles (move pos.x pos.y dz) with
      | none => none
      | some downTile =>
        let shift := fun (flag : TileFlag) (offset : Int) => if downTile.hasFlag flag then offset else 0
        some (move
          (pos.x + shift .floorChangeEast (-1) + shift .floorChangeEastAlt (-2) +
            shift .floorChangeWest 1)
          (pos.y + shift .floorChangeNorth 1 + shift .floorChangeSouth (-1) +
            shift .floorChangeSouthAlt (-2)) dz)
  else if tile.hasFloorChange then
    let dz := toUInt8 (pos.z - 1)
    let shift := fun (flag : TileFlag) (offset : Int) => if tile.hasFlag flag then offset else 0
    some (move
      (pos.x + shift .floorChangeEast 1 + shift .floorChangeWest (-1) + shift .floorChangeEastAlt 2)
      (pos.y + shift .floorChangeNorth (-1) + shift .floorChangeSouth 1 +
        shift .floorChangeSouthAlt 2) dz)
  else none

/-- `Tile::queryDestination`. -/
def tileQueryDestination (pos : Position) (index : Int) (flags : CylinderFlags) : Destination :=
  match game.floorChangeTarget tile pos with
  | none => ⟨.tile pos, index, tile.getTopDownItem, flags⟩
  | some target =>
    match game.tiles target with
    | none => ⟨.tile pos, index, tile.getTopDownItem, flags⟩
    | some destTile => ⟨.tile target, index, destTile.getTopDownItem, { flags with noLimit := true }⟩

end

section
variable (env : Env) (game : Game)

/-- The question of a child container to the top parent that carries it. -/
def carrierQueryAdd (top : Cylinder) (ptr : ItemPtr) (count : Nat) (flags : CylinderFlags)
    (actor : Option PlayerId) : ReturnValue :=
  match top with
  | .player id => game.playerQueryAdd env id indexWhereever ptr count { flags with childIsOwner := true }
  | .tile pos =>
    match game.tiles pos with
    | some tile => game.tileQueryAdd env tile ptr { flags with childIsOwner := true } actor
    | none => .notPossible
  | .item carrier =>
    match (game.items carrier).kind with
    | .depotChest =>
      let item := game.items ptr
      if flags.noLimit then .noError
      else
        let addCount := if item.isStackable env.items ∧ item.count ≠ count then 1 else 0
        let addCount := if game.getTopParent ptr ≠ some (.item carrier) then
          if item.isContainer then game.getItemHoldingCount ptr + 1 else 1 else addCount
        if game.getItemHoldingCount carrier + addCount > (game.items carrier).maxDepotItems
        then .depotIsFull else .noError
    | .container | .depotLocker | .trashHolder => .noError
    | .mailbox => if canSend (game.items ptr) then .noError else .notPossible
    | _ => .notPossible

/-- Whether `thing` is among the parents that the loop of `Container::queryAdd` climbs. -/
def isParent (thing : ItemPtr) : Nat → Option Cylinder → Bool
  | 0, _ => false
  | _ + 1, none => false
  | fuel + 1, some cylinder => cylinder = .item thing || isParent thing fuel (game.parentOf cylinder)

/-- `Container::queryAdd` without the flag of a child. -/
def containerQueryAdd (container : ItemPtr) (index : Int) (ptr : ItemPtr) (count : Nat)
    (flags : CylinderFlags) (actor : Option PlayerId) : ReturnValue :=
  let self := game.items container
  if ¬ (game.items ptr).isPickupable env.items then .cannotPickup
  else if ptr = container then .thisIsImpossible
  else if game.isParent ptr (game.next + 2) self.parent then .thisIsImpossible
  else if ¬ flags.noLimit ∧ index = indexWhereever ∧ self.itemlist.length ≥ self.maxSize then
    .containerNotEnoughRoom
  else
    match game.getTopParent container with
    | some top =>
      if top ≠ .item container then game.carrierQueryAdd env top ptr count flags actor else .noError
    | none => .noError

/-- `DepotChest::queryAdd` in front of `Container::queryAdd`. -/
def depotChestQueryAdd (chest : ItemPtr) (index : Int) (ptr : ItemPtr) (count : Nat)
    (flags : CylinderFlags) (actor : Option PlayerId) : ReturnValue :=
  let full := game.carrierQueryAdd env (.item chest) ptr count flags actor
  if full ≠ .noError then full
  else game.containerQueryAdd env chest index ptr count flags actor

def holderQueryAdd (holder : ItemPtr) (index : Int) (ptr : ItemPtr) (count : Nat)
    (flags : CylinderFlags) (actor : Option PlayerId) : ReturnValue :=
  match (game.items holder).kind with
  | .depotChest =>
    if flags.childIsOwner then game.carrierQueryAdd env (.item holder) ptr count flags actor
    else game.depotChestQueryAdd env holder index ptr count flags actor
  | .container | .depotLocker =>
    if flags.childIsOwner then .noError
    else game.containerQueryAdd env holder index ptr count flags actor
  | .trashHolder => .noError
  | .mailbox => if canSend (game.items ptr) then .noError else .notPossible
  | _ => .notPossible

/-- `Container::queryMaxCount`. -/
def containerQueryMaxCount (container : ItemPtr) (index : Int) (ptr : ItemPtr) (count : Nat)
    (flags : CylinderFlags) : ReturnValue × Nat :=
  let self := game.items container
  let item := game.items ptr
  if flags.noLimit then (.noError, max 1 count)
  else
    let freeSlots := self.maxSize - self.itemlist.length
    if item.isStackable env.items then
      let room := fun (other : ItemPtr) (place : Int) =>
        if game.holderQueryAdd env container place ptr count flags none = .noError
        then (game.items other).getStackSize env.items - (game.items other).count else 0
      let n :=
        if index = indexWhereever then
          let partials := self.itemlist.filter (fun other => other ≠ ptr &&
            (game.items other).equals (some item) &&
            (game.items other).count < (game.items other).getStackSize env.items)
          (partials.zipIdx.map (fun entry => room entry.1 entry.2)).sum
        else
          match game.getItemByIndex container index with
          | some destItem =>
            if item.equals (some (game.items destItem)) ∧
                (game.items destItem).count < (game.items destItem).getStackSize env.items
            then room destItem index else 0
          | none => 0
      let maxQueryCount := freeSlots * item.getStackSize env.items + n
      (if maxQueryCount < count then .containerNotEnoughRoom else .noError, maxQueryCount)
    else (if freeSlots = 0 then .containerNotEnoughRoom else .noError, freeSlots)

/-- `Container::queryRemove`. -/
def containerQueryRemove (container : ItemPtr) (ptr : ItemPtr) (count : Nat) (flags : CylinderFlags)
    (actor : Option PlayerId) : ReturnValue :=
  let own := itemQueryRemove env game (indexIn (game.items container).itemlist ptr) ptr count flags
  if own ≠ .noError then own
  else
    match game.getTopParent container with
    | some (.tile pos) =>
      match game.tiles pos with
      | some tile =>
        if tile.house.isSome then game.tileQueryRemove env tile ptr count flags actor else .noError
      | none => .noError
    | _ => .noError

/-- A stack of the same kind in the list that is not full, with its index. -/
def findStack (ptr : ItemPtr) : List ItemPtr → Nat → Option (Nat × ItemPtr)
  | [], _ => none
  | other :: rest, n =>
    if other ≠ ptr ∧ (game.items other).equals (some (game.items ptr)) ∧
        (game.items other).count < (game.items other).getStackSize env.items
    then some (n, other) else findStack ptr rest (n + 1)

/-- `Container::queryDestination`; `destItem` comes in with the value it had. -/
def containerQueryDestination (container : ItemPtr) (index : Int) (ptr : ItemPtr)
    (destItem : Option ItemPtr) (flags : CylinderFlags) : Destination :=
  let self := game.items container
  let item := game.items ptr
  if index = 254 then
    match self.parent with
    | some (.item parentContainer) =>
      if (game.items parentContainer).isContainer
      then ⟨.item parentContainer, indexWhereever, none, flags⟩
      else ⟨.item container, indexWhereever, none, flags⟩
    | _ => ⟨.item container, indexWhereever, none, flags⟩
  else
    let away := index = 255 ∨ index ≥ self.maxSize
    let destItem := if away then none else destItem
    let index := if away then indexWhereever else index
    let destItem := if index ≠ indexWhereever
      then (game.getItemByIndex container index).or destItem else destItem
    match (if index ≠ indexWhereever then destItem.filter (fun found => (game.items found).isCylinder)
        else none) with
    | some subCylinder => ⟨.item subCylinder, indexWhereever, none, flags⟩
    | none =>
      let here : Destination := ⟨.item container, index, destItem, flags⟩
      if ¬ flags.ignoreAutoStack ∧ item.isStackable env.items ∧ item.parent ≠ some (.item container) then
        let alike := match destItem with
          | some tmpItem => (game.items tmpItem).equals (some item) &&
              decide ((game.items tmpItem).count < (game.items tmpItem).getStackSize env.items)
          | none => false
        if alike then here
        else
          match game.findStack env ptr self.itemlist 0 with
          | some (n, listItem) => ⟨.item container, n, some listItem, flags⟩
          | none => here
      else here

end

section
variable (env : Env) (game : Game) (id : PlayerId)

/-- The loop over the slots in `Player::queryDestination`: it ends early with a slot
and the item to stack on, or collects the containers to search. -/
def slotSearch (ptr : ItemPtr) (flags : CylinderFlags) :
    List Nat → List ItemPtr → Except (Nat × Option ItemPtr) (List ItemPtr)
  | [], containers => .ok containers
  | slot :: rest, containers =>
    let item := game.items ptr
    match (game.players id).inventory slot with
    | some inventoryItem =>
      if some inventoryItem = (game.trading.players id).tradeItem ∨ inventoryItem = ptr then
        slotSearch ptr flags rest containers
      else if (¬ flags.ignoreAutoStack ∧ item.isStackable env.items) ∧
          game.playerQueryAdd env id slot ptr item.count CylinderFlags.none = .noError ∧
          (game.items inventoryItem).equals (some item) ∧
          (game.items inventoryItem).count < (game.items inventoryItem).getStackSize env.items then
        .error (slot, some inventoryItem)
      else slotSearch ptr flags rest
        (if (game.items inventoryItem).isContainer then containers ++ [inventoryItem] else containers)
    | none =>
      if game.playerQueryAdd env id slot ptr item.count flags = .noError then .error (slot, none)
      else slotSearch ptr flags rest containers

/-- The items of one container in the stacking search: a stack to fill, or the number
of items passed and the containers among them. -/
def stackSearch (ptr : ItemPtr) : List ItemPtr → Nat → List ItemPtr →
    Except (Nat × ItemPtr) (Nat × List ItemPtr)
  | [], n, found => .ok (n, found)
  | tmpItem :: rest, n, found =>
    let item := game.items ptr
    if some tmpItem = (game.trading.players id).tradeItem ∨ tmpItem = ptr then
      stackSearch ptr rest n found
    else if (game.items tmpItem).equals (some item) ∧
        (game.items tmpItem).count < (game.items tmpItem).getStackSize env.items then
      .error (n, tmpItem)
    else stackSearch ptr rest (n + 1)
      (if (game.items tmpItem).isContainer then found ++ [tmpItem] else found)

/-- The loop over the containers in `Player::queryDestination`. -/
def containerSearch (ptr : ItemPtr) (flags : CylinderFlags) :
    Nat → List ItemPtr → Option (ItemPtr × Nat × Option ItemPtr)
  | 0, _ => none
  | _ + 1, [] => none
  | fuel + 1, tmpContainer :: containers =>
    let item := game.items ptr
    let self := game.items tmpContainer
    if flags.ignoreAutoStack ∨ ¬ item.isStackable env.items then
      let free := self.maxSize - self.itemlist.length
      match ((List.range' 1 free).reverse.find? (fun n =>
          game.holderQueryAdd env tmpContainer (self.maxSize - n : Nat) ptr item.count flags none = .noError)) with
      | some n => some (tmpContainer, self.maxSize - n, none)
      | none => containerSearch ptr flags fuel
          (containers ++ self.itemlist.filter (fun tmpItem => (game.items tmpItem).isContainer))
    else
      match game.stackSearch env id ptr self.itemlist 0 [] with
      | .error (n, tmpItem) => some (tmpContainer, n, some tmpItem)
      | .ok (n, found) =>
        if n < self.maxSize ∧
            game.holderQueryAdd env tmpContainer n ptr item.count flags none = .noError then
          some (tmpContainer, n, none)
        else containerSearch ptr flags fuel (containers ++ found)

/-- `Player::queryDestination`; `destItem` comes in with the value it had. -/
def playerQueryDestination (index : Int) (ptr : ItemPtr) (destItem : Option ItemPtr)
    (flags : CylinderFlags) : Destination :=
  if index = 0 ∨ index = indexWhereever then
    match game.slotSearch env id ptr flags slots [] with
    | .error (slot, destItem) => ⟨.player id, slot, destItem, flags⟩
    | .ok containers =>
      match game.containerSearch env id ptr flags (game.next + 1) containers with
      | some (tmpContainer, index, destItem) => ⟨.item tmpContainer, index, destItem, flags⟩
      | none => ⟨.player id, index, none, flags⟩
  else
    match game.getInventoryItem id index with
    | some destThing =>
      if (game.items destThing).isCylinder then ⟨.item destThing, indexWhereever, none, flags⟩
      else ⟨.player id, index, some destThing, flags⟩
    | none => ⟨.player id, index, destItem, flags⟩

/-- `Player::queryMaxCount`. -/
def playerQueryMaxCount (index : Int) (ptr : ItemPtr) (count : Nat) (flags : CylinderFlags) :
    ReturnValue × Nat :=
  let item := game.items ptr
  let answer := fun (maxQueryCount : Nat) =>
    ((if maxQueryCount < count then ReturnValue.notEnoughRoom else .noError), maxQueryCount)
  if index = indexWhereever then
    answer ((slots.map (fun slot =>
      match (game.players id).inventory slot with
      | some inventoryItem =>
        let stack := game.items inventoryItem
        if stack.isContainer then
          let nested := (game.iterate inventoryItem).filter (fun other => (game.items other).isContainer)
          ((inventoryItem :: nested).map (fun tmpContainer =>
            (game.containerQueryMaxCount env tmpContainer indexWhereever ptr item.count flags).2)).sum
        else if stack.isStackable env.items ∧ item.equals (some stack) ∧
            stack.count < stack.getStackSize env.items then
          let remainder := stack.getStackSize env.items - stack.count
          if game.playerQueryAdd env id slot ptr remainder flags = .noError then remainder else 0
        else 0
      | none =>
        if game.playerQueryAdd env id slot ptr item.count flags = .noError then
          if item.isStackable env.items then item.getStackSize env.items else 1
        else 0)).sum)
  else
    match game.getInventoryItem id index with
    | some destItem =>
      let stack := game.items destItem
      if stack.isStackable env.items ∧ item.equals (some stack) ∧ stack.count < 100 then
        answer (100 - stack.count)
      else answer 0
    | none =>
      if game.playerQueryAdd env id index ptr count flags = .noError then
        (.noError, if item.isStackable env.items then 100 else 1)
      else answer 0

end

section
variable (env : Env) (game : Game)

def queryAdd (cylinder : Cylinder) (index : Int) (ptr : ItemPtr) (count : Nat) (flags : CylinderFlags)
    (actor : Option PlayerId) : ReturnValue :=
  match cylinder with
  | .player id => game.playerQueryAdd env id index ptr count flags
  | .tile pos =>
    match game.tiles pos with
    | some tile => game.tileQueryAdd env tile ptr flags actor
    | none => .notPossible
  | .item holder => game.holderQueryAdd env holder index ptr count flags actor

/-- `Cylinder::queryMaxCount`: the answer and `maxQueryCount`. -/
def queryMaxCount (cylinder : Cylinder) (index : Int) (ptr : ItemPtr) (count : Nat)
    (flags : CylinderFlags) : ReturnValue × Nat :=
  match cylinder with
  | .player id => game.playerQueryMaxCount env id index ptr count flags
  | .tile _ => (.noError, max 1 count)
  | .item holder =>
    match (game.items holder).kind with
    | .container | .depotLocker | .depotChest =>
      game.containerQueryMaxCount env holder index ptr count flags
    | .trashHolder | .mailbox => (.noError, max 1 count)
    | _ => (.notPossible, 0)

def getThingIndex (cylinder : Cylinder) (ptr : ItemPtr) : Int :=
  match cylinder with
  | .player id => game.playerThingIndex id ptr
  | .tile pos =>
    match game.tiles pos with
    | some tile => tileThingIndex env game tile ptr
    | none => -1
  | .item holder => indexIn (game.items holder).itemlist ptr

def queryRemove (cylinder : Cylinder) (ptr : ItemPtr) (count : Nat) (flags : CylinderFlags)
    (actor : Option PlayerId) : ReturnValue :=
  match cylinder with
  | .player id => itemQueryRemove env game (game.playerThingIndex id ptr) ptr count flags
  | .tile pos =>
    match game.tiles pos with
    | some tile => game.tileQueryRemove env tile ptr count flags actor
    | none => .notPossible
  | .item holder =>
    if (game.items holder).isContainer then game.containerQueryRemove env holder ptr count flags actor
    else if (game.items holder).kind = .teleport then .noError
    else .notPossible

def queryDestination (cylinder : Cylinder) (index : Int) (ptr : ItemPtr) (destItem : Option ItemPtr)
    (flags : CylinderFlags) : Destination :=
  match cylinder with
  | .player id => game.playerQueryDestination env id index ptr destItem flags
  | .tile pos =>
    match game.tiles pos with
    | some tile => game.tileQueryDestination tile pos index flags
    | none => ⟨.tile pos, index, none, flags⟩
  | .item holder =>
    if (game.items holder).isContainer then
      game.containerQueryDestination env holder index ptr destItem flags
    else ⟨.item holder, index, destItem, flags⟩

end

end Game

end Styller
