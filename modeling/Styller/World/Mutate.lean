import Styller.World.Query

/-! What the cylinders do: `addThing`, `removeThing` and `updateThing` of players,
containers and tiles, the notifications after them, and `Game::internalRemoveItem`. -/

namespace Styller.Game

section
variable (items : ItemTypes)

/-- `Container::updateItemWeight`, up the chain of parent containers. -/
def updateItemWeight : Nat → Game → ItemPtr → Int → Game
  | 0, game, _, _ => game
  | fuel + 1, game, container, diff =>
    let self := game.items container
    let game := game.setItem container
      { self with totalWeight := toUInt32 (self.totalWeight + diff) }
    match self.parent with
    | some (.item parentContainer) =>
      if (game.items parentContainer).isContainer
      then updateItemWeight fuel game parentContainer diff else game
    | _ => game

def updateInventoryWeight (game : Game) (id : PlayerId) : Game :=
  let player := game.players id
  if player.hasInfiniteCapacity then game
  else game.setPlayer id { player with
    inventoryWeight := ((game.contents (.player id)).map
      (fun ptr => (game.items ptr).getWeight items)).sum % 2 ^ 32 }

end

section
variable (env : Env) (game : Game)

/-- `ITEMPROPERTY`: the properties that tile flags follow. -/
inductive ItemProperty where
  | blockSolid
  | blockPath
  | immovableBlockSolid
  | immovableBlockPath
  | immovableNoFieldBlockPath
  | noFieldBlockPath
  | supportHangable
  | moveable

def hasProperty (ptr : ItemPtr) (prop : ItemProperty) : Bool :=
  let item := game.items ptr
  let it := env.items.get item.id
  let immovable := !it.moveable || item.hasAttribute .uniqueId
  match prop with
  | .blockSolid => it.blockSolid
  | .blockPath => it.blockPathFind
  | .immovableBlockSolid => it.blockSolid && immovable
  | .immovableBlockPath => it.blockPathFind && immovable
  | .immovableNoFieldBlockPath => !it.isMagicField && it.blockPathFind && immovable
  | .noFieldBlockPath => !it.isMagicField && it.blockPathFind
  | .supportHangable => it.isHorizontal || it.isVertical
  | .moveable => it.moveable && !item.hasAttribute .uniqueId

/-- `Tile::hasProperty(exclude, prop)`. -/
def othersHaveProperty (tile : Tile) (exclude : ItemPtr) (prop : ItemProperty) : Bool :=
  (tile.ground.toList ++ tile.itemList).any (fun other =>
    other ≠ exclude && hasProperty env game other prop)

def classFlags (kind : ItemClass) : List TileFlag :=
  match kind with
  | .teleport => [.teleport]
  | .magicField => [.magicField]
  | .mailbox => [.mailbox]
  | .trashHolder => [.trashHolder]
  | .bed => [.bed]
  | .depotLocker => [.depot]
  | _ => []

def setTileFlags (tile : Tile) (ptr : ItemPtr) : Tile :=
  let item := game.items ptr
  let tile := if tile.hasFloorChange then tile
    else (env.items.get item.id).floorChange.foldl Tile.setFlag tile
  let tile := ([(.immovableBlockSolid, .immovableBlockSolid), (.blockPath, .blockPath),
      (.noFieldBlockPath, .noFieldBlockPath),
      (.immovableNoFieldBlockPath, .immovableNoFieldBlockPath), (.blockSolid, .blockSolid),
      (.supportHangable, .supportsHangable)] : List (ItemProperty × TileFlag)).foldl
    (fun tile entry => if hasProperty env game ptr entry.1 then tile.setFlag entry.2 else tile) tile
  (classFlags item.kind).foldl Tile.setFlag tile

def resetTileFlags (tile : Tile) (ptr : ItemPtr) : Tile :=
  let item := game.items ptr
  let flags := tile
  let tile := if (env.items.get item.id).floorChange ≠ [] then
    ([.floorChangeDown, .floorChangeNorth, .floorChangeSouth, .floorChangeEast, .floorChangeWest,
      .floorChangeSouthAlt, .floorChangeEastAlt] : List TileFlag).foldl Tile.resetFlag tile else tile
  let tile := ([(.blockSolid, .blockSolid), (.immovableBlockSolid, .immovableBlockSolid),
      (.blockPath, .blockPath), (.noFieldBlockPath, .noFieldBlockPath),
      (.immovableBlockPath, .immovableBlockPath),
      (.immovableNoFieldBlockPath, .immovableNoFieldBlockPath)] : List (ItemProperty × TileFlag)).foldl
    (fun tile entry => if hasProperty env game ptr entry.1 &&
      !othersHaveProperty env game flags ptr entry.1 then tile.resetFlag entry.2 else tile) tile
  let tile := (classFlags item.kind).foldl Tile.resetFlag tile
  if hasProperty env game ptr .supportHangable then tile.resetFlag .supportsHangable else tile

end

section
variable (env : Env) (game : Game)

/-- `Container::addThing`: an index at or behind the capacity adds nothing. -/
def containerAddThing (container : ItemPtr) (index : Int) (ptr : ItemPtr) : Game :=
  if index ≥ (game.items container).maxSize then game
  else
    let game := game.setItem ptr ((game.items ptr).setParent (some (.item container)))
    let self := game.items container
    let game := game.setItem container { self with itemlist := ptr :: self.itemlist }
    updateItemWeight (game.next + 1) game container ((game.items ptr).getWeight env.items)

/-- `Container::updateThing`. -/
def containerUpdateThing (container : ItemPtr) (ptr : ItemPtr) (itemId count : Nat) : Game :=
  if indexIn (game.items container).itemlist ptr = -1 then game
  else
    let oldWeight := (game.items ptr).getWeight env.items
    let item := ((game.items ptr).setID env.items (env.normalRandom ptr) itemId).setSubType env.items
      (toUInt16 count)
    let game := game.setItem ptr item
    updateItemWeight (game.next + 1) game container
      (-(oldWeight : Int) + (game.items ptr).getWeight env.items)

/-- `Container::removeThing`. -/
def containerRemoveThing (container : ItemPtr) (ptr : ItemPtr) (count : Nat) : Game :=
  let item := game.items ptr
  if indexIn (game.items container).itemlist ptr = -1 then game
  else if item.isStackable env.items ∧ count ≠ item.count then
    let newCount := toUInt8 (max 0 (toInt32 ((item.count : Int) - count)))
    let oldWeight := item.getWeight env.items
    let game := game.setItem ptr (item.setItemCount newCount)
    updateItemWeight (game.next + 1) game container
      (-(oldWeight : Int) + (game.items ptr).getWeight env.items)
  else
    let game := updateItemWeight (game.next + 1) game container (-(item.getWeight env.items : Int))
    let game := game.setItem ptr ((game.items ptr).setParent none)
    let self := game.items container
    game.setItem container { self with itemlist := self.itemlist.erase ptr }

end

section
variable (env : Env) (game : Game) (id : PlayerId)

/-- `Player::addThing(index, thing)`; `Player::addThing(thing)` does nothing at all. -/
def playerAddThing (index : Int) (ptr : ItemPtr) : Game :=
  if index < 1 ∨ index > 10 then game
  else
    let game := game.setItem ptr ((game.items ptr).setParent (some (.player id)))
    let player := game.players id
    game.setPlayer id { player with
      inventory := fun slot => if slot = index.toNat then some ptr else player.inventory slot }

/-- `Player::updateThing`. -/
def playerUpdateThing (ptr : ItemPtr) (itemId count : Nat) : Game :=
  if game.playerThingIndex id ptr = -1 then game
  else game.setItem ptr (((game.items ptr).setID env.items (env.normalRandom ptr) itemId).setSubType
    env.items (toUInt16 count))

/-- `Player::removeThing`. -/
def playerRemoveThing (ptr : ItemPtr) (count : Nat) : Game :=
  let item := game.items ptr
  let index := game.playerThingIndex id ptr
  if index = -1 then game
  else if item.isStackable env.items ∧ count ≠ item.count then
    game.setItem ptr (item.setItemCount (toUInt8 (max 0 (toInt32 ((item.count : Int) - count)))))
  else
    let game := game.setItem ptr (item.setParent none)
    let player := game.players id
    game.setPlayer id { player with
      inventory := fun slot => if slot = index.toNat then none else player.inventory slot }

end

section
variable (env : Env) (game : Game) (pos : Position) (tile : Tile)

/-- `Tile::removeThing` for an item. -/
def tileRemoveThing (ptr : ItemPtr) (count : Nat) : Game :=
  let item := game.items ptr
  let itemType := env.items.get item.id
  if tileThingIndex env game tile ptr = -1 then game
  else if tile.ground = some ptr then
    let game := game.setItem ptr (item.setParent none)
    game.setTile pos (resetTileFlags env game { tile with ground := none } ptr)
  else if itemType.alwaysOnTop then
    let game := game.setItem ptr (item.setParent none)
    game.setTile pos (resetTileFlags env game { tile with topItems := tile.topItems.erase ptr } ptr)
  else if itemType.stackable ∧ count ≠ item.count then
    game.setItem ptr (item.setItemCount (toUInt8 (max 0 (toInt32 ((item.count : Int) - count)))))
  else
    let game := game.setItem ptr (item.setParent none)
    game.setTile pos (resetTileFlags env game { tile with downItems := tile.downItems.erase ptr } ptr)

/-- `Tile::updateThing`. -/
def tileUpdateThing (ptr : ItemPtr) (itemId count : Nat) : Game :=
  if tileThingIndex env game tile ptr = -1 then game
  else
    let tile := resetTileFlags env game tile ptr
    let game := game.setItem ptr (((game.items ptr).setID env.items (env.normalRandom ptr)
      itemId).setSubType env.items (toUInt16 count))
    game.setTile pos (setTileFlags env game tile ptr)

/-- A new top item goes in front of the first one of its order or a higher one. -/
def insertTopItem (ptr : ItemPtr) : List ItemPtr → List ItemPtr
  | [] => [ptr]
  | other :: rest =>
    if (env.items.get (game.items ptr).id).alwaysOnTopOrder ≤
        (env.items.get (game.items other).id).alwaysOnTopOrder
    then ptr :: other :: rest else other :: insertTopItem ptr rest

/-- The old ground, splash or field that `Tile::addThing` takes away for a new one. -/
def replacedThing (ptr : ItemPtr) : Option ItemPtr :=
  let itemType := env.items.get (game.items ptr).id
  if itemType.isGroundTile then tile.ground
  else if itemType.alwaysOnTop then
    if itemType.isSplash then
      tile.topItems.find? (fun other => (env.items.get (game.items other).id).isSplash)
    else none
  else if itemType.isMagicField then
    tile.downItems.find? (fun other => (game.items other).kind = .magicField)
  else none

/-- `Tile::addThing` for an item, and `HouseTile::addThing`. -/
def tileAddThing (ptr : ItemPtr) : Game :=
  if tile.itemList.length ≥ 0xFFFF then game
  else
    let itemType := env.items.get (game.items ptr).id
    let replaced := replacedThing env game tile ptr
    let game := game.setItem ptr ((game.items ptr).setParent (some (.tile pos)))
    if itemType.isGroundTile then
      match replaced with
      | none => game.setTile pos (setTileFlags env game { tile with ground := some ptr } ptr)
      | some oldGround =>
        let game := game.setItem oldGround ((game.items oldGround).setParent none)
        let tile := { tile with ground := some ptr }
        game.setTile pos (setTileFlags env game (resetTileFlags env game tile oldGround) ptr)
    else if itemType.alwaysOnTop then
      let game := match replaced with
        | none => game.setTile pos tile
        | some oldSplash => tileRemoveThing env (game.setTile pos tile) pos tile oldSplash 1
      let tile := (game.tiles pos).getD tile
      let tile := { tile with topItems := insertTopItem env game ptr tile.topItems }
      game.setTile pos (setTileFlags env game tile ptr)
    else
      match replaced with
      | none => game.setTile pos
          (setTileFlags env game { tile with downItems := ptr :: tile.downItems } ptr)
      | some oldField =>
        if (env.items.get (game.items oldField).id).replaceable then
          let game := tileRemoveThing env (game.setTile pos tile) pos tile oldField 1
          let tile := (game.tiles pos).getD tile
          game.setTile pos
            (setTileFlags env game { tile with downItems := ptr :: tile.downItems } ptr)
        else game.setItem ptr ((game.items ptr).setParent none)

end

section
variable (env : Env) (game : Game)

def removeThing (cylinder : Cylinder) (ptr : ItemPtr) (count : Nat) : Game :=
  match cylinder with
  | .player id => game.playerRemoveThing env id ptr count
  | .tile pos =>
    match game.tiles pos with
    | some tile => game.tileRemoveThing env pos tile ptr count
    | none => game
  | .item holder =>
    if (game.items holder).isContainer then game.containerRemoveThing env holder ptr count else game

def updateThing (cylinder : Cylinder) (ptr : ItemPtr) (itemId count : Nat) : Game :=
  match cylinder with
  | .player id => game.playerUpdateThing env id ptr itemId count
  | .tile pos =>
    match game.tiles pos with
    | some tile => game.tileUpdateThing env pos tile ptr itemId count
    | none => game
  | .item holder =>
    if (game.items holder).isContainer then game.containerUpdateThing env holder ptr itemId count
    else game

/-- What `postAddNotification` and `postRemoveNotification` have in common: the way
up to the player whose inventory weight changes. -/
def notify : Nat → Game → Cylinder → CylinderLink → Game
  | 0, game, _, _ => game
  | _ + 1, game, .player id, link =>
    if link = .owner ∨ link = .topParent then game.updateInventoryWeight env.items id else game
  | _ + 1, game, .tile _, _ => game
  | fuel + 1, game, .item holder, _ =>
    let parent := (game.items holder).parent
    match (game.items holder).kind with
    | .container =>
      match game.getTopParent holder with
      | some (.player id) => notify fuel game (.player id) .topParent
      | some (.item top) =>
        if (game.items top).kind = .depotLocker then notify fuel game (.item top) .topParent
        else if top = holder then
          match parent with
          | some up => notify fuel game up .near
          | none => game
        else notify fuel game (.item top) .parent
      | some (.tile pos) => notify fuel game (.tile pos) .parent
      | none => game
    | _ =>
      match parent with
      | some up => notify fuel game up .parent
      | none => game

def postRemoveNotification (cylinder : Cylinder) : Game :=
  notify env (game.next + 2) game cylinder .owner

/-- `Game::internalRemoveItem`; a count of -1 stands for the whole item. -/
def internalRemoveItem (ptr : ItemPtr) (count : Int) (test : Bool) (flags : CylinderFlags) :
    ReturnValue × Game :=
  let item := game.items ptr
  match item.parent with
  | none => (.notPossible, game)
  | some cylinder =>
    let count := toUInt32 (if count = -1 then item.count else count)
    let ret := game.queryRemove env cylinder ptr count { flags with ignoreNotMoveable := true } none
    let canRemove := item.kind ≠ .depotLocker && item.kind ≠ .depotChest &&
      !(item.kind = .bed && item.bedInHouse)
    if ret ≠ .noError then (ret, game)
    else if ¬ canRemove then (.notPossible, game)
    else if test then (.noError, game)
    else (.noError, (game.removeThing env cylinder ptr count).postRemoveNotification env cylinder)

/-- `TrashHolder::addThing`. -/
def trashHolderAddThing (trash : ItemPtr) (ptr : ItemPtr) : Game :=
  let it := env.items.get (game.items trash).id
  if ptr = trash ∨ ¬ hasProperty env game ptr .moveable then game
  else
    let onWall := (game.items ptr).isHangable env.items && it.isGroundTile &&
      match (game.items trash).parent with
      | some (.tile pos) => ((game.tiles pos).map (·.hasFlag .supportsHangable)).getD false
      | _ => false
    if onWall then game
    else (game.internalRemoveItem env ptr (-1) false CylinderFlags.none).2

/-- `Cylinder::addThing(index, thing)`. -/
def addThing (cylinder : Cylinder) (index : Int) (ptr : ItemPtr) : Game :=
  match cylinder with
  | .player id => game.playerAddThing id index ptr
  | .tile pos =>
    match game.tiles pos with
    | some tile => game.tileAddThing env pos tile ptr
    | none => game
  | .item holder =>
    match (game.items holder).kind with
    | .container | .depotLocker | .depotChest => game.containerAddThing env holder index ptr
    | .trashHolder => game.trashHolderAddThing env holder ptr
    | .mailbox => env.mailboxAddThing game holder ptr
    | .teleport => env.teleportAddThing game holder ptr
    | _ => game

/-- `Cylinder::addThing(thing)`. -/
def addThingWhereever (cylinder : Cylinder) (ptr : ItemPtr) : Game :=
  match cylinder with
  | .player _ => game
  | _ => game.addThing env cylinder 0 ptr

/-- What a tile does with a thing that has come to it. -/
def tileReceives (tile : Tile) (ptr : ItemPtr) : Game :=
  let last := fun (kind : ItemClass) =>
    tile.itemList.reverse.find? (fun other => (game.items other).kind = kind)
  let first := fun (kind : ItemClass) =>
    (tile.ground.filter (fun ground => (game.items ground).kind = kind)).or (last kind)
  if tile.hasFlag .teleport then
    match last .teleport with
    | some teleport => env.teleportAddThing game teleport ptr
    | none => game
  else if tile.hasFlag .trashHolder then
    match first .trashHolder with
    | some trash => game.trashHolderAddThing env trash ptr
    | none => game
  else if tile.hasFlag .mailbox then
    match first .mailbox with
    | some mailbox => env.mailboxAddThing game mailbox ptr
    | none => game
  else game

def postAddNotification (cylinder : Cylinder) (ptr : ItemPtr) : Game :=
  match cylinder with
  | .tile pos =>
    match game.tiles pos with
    | some tile => game.tileReceives env tile ptr
    | none => game
  | _ => notify env (game.next + 2) game cylinder .owner

/-- `Item::clone`; the copy of a stackable item has no items in it. -/
def clone (ptr : ItemPtr) : Game :=
  let item := game.items ptr
  match Item.createItem env.items (env.normalRandom game.next) item.id item.count with
  | none => game
  | some copy =>
    match item.attributes with
    | none => game.allocate copy
    | some attributes =>
      let copy := { copy with attributes := some attributes }
      if copy.getDuration > 0 then
        let game := { game with toDecayItems := game.next :: game.toDecayItems }
        game.allocate (copy.setIntAttr .decayState 1)
      else game.allocate copy

/-- A clone of a stack with another count; its address is the `next` of before. -/
def cloneWithCount (ptr : ItemPtr) (newCount : Int) : Game :=
  let moveItem := game.next
  let game := game.clone env ptr
  game.setItem moveItem ((game.items moveItem).setItemCount newCount)

end

end Styller.Game
