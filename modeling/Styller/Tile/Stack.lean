import Styller.World.Mutate

/-! A tile as it keeps its things: the ground, one vector with the down items in front of the top items,
and the creatures. -/

namespace Styller

abbrev CreatureId := Nat

inductive Thing where
  | item (ptr : ItemPtr)
  | creature (id : CreatureId)
  deriving DecidableEq

/-- `Tile`, with its `TileItemVector` (`items` and `downItemCount`); a vector that is not there is an empty one. -/
structure TileStack where
  ground : Option ItemPtr := none
  items : List ItemPtr := []
  downItemCount : Nat := 0
  creatures : List CreatureId := []
  flags : TileFlag → Bool := fun _ => false

namespace TileStack

section
variable (tile : TileStack)

/-- From `getBeginDownItem` to `getEndDownItem`. -/
def downItems : List ItemPtr := tile.items.take tile.downItemCount

/-- From `getBeginTopItem` to `getEndTopItem`. -/
def topItems : List ItemPtr := tile.items.drop tile.downItemCount

def getTopItemCount : Nat := tile.items.length - tile.downItemCount

def getDownItemCount : Nat := tile.downItemCount

def getThingCount : Nat :=
  tile.creatures.length + tile.items.length + if tile.ground.isSome then 1 else 0

def allItems : List ItemPtr := tile.ground.toList ++ tile.items

def things : List Thing :=
  tile.ground.toList.map .item ++ tile.topItems.map .item ++ tile.creatures.map .creature ++ tile.downItems.map .item

/-- The tile with its item vector in two halves. -/
def halves : Tile where
  ground := tile.ground
  topItems := tile.topItems
  downItems := tile.downItems
  creatures := tile.creatures
  flags := tile.flags

/-- `Tile::getThing` behind the ground. -/
def getThingAbove (index : Nat) : Option Thing :=
  let topItemSize := tile.getTopItemCount
  if index < topItemSize then (tile.items[tile.getDownItemCount + index]?).map .item
  else
    let index := index - topItemSize
    if index < tile.creatures.length then (tile.creatures[index]?).map .creature
    else
      let index := index - tile.creatures.length
      if index < tile.getDownItemCount then (tile.items[index]?).map .item else none

def getThing (index : Nat) : Option Thing :=
  match tile.ground with
  | some ground => if index = 0 then some (.item ground) else tile.getThingAbove (index - 1)
  | none => tile.getThingAbove index

end

section
variable (env : Env) (game : Game)

/-- `Tile::getThingIndex`; `n` is the index in front of the part that is searched. -/
def getThingIndex (tile : TileStack) : Thing → Int
  | .creature id =>
    let n : Int := (if tile.ground.isSome then 0 else -1) + tile.getTopItemCount
    match tile.creatures.idxOf? id with
    | some passed => n + 1 + passed
    | none => -1
  | .item ptr =>
    if tile.ground = some ptr then 0
    else
      let n : Int := if tile.ground.isSome then 0 else -1
      if (game.items ptr).isAlwaysOnTop env.items then
        match tile.topItems.idxOf? ptr with
        | some passed => n + 1 + passed
        | none => -1
      else
        match tile.downItems.idxOf? ptr with
        | some passed => n + tile.getTopItemCount + tile.creatures.length + 1 + passed
        | none => -1

def setTileFlags (tile : TileStack) (ptr : ItemPtr) : TileStack :=
  { tile with flags := (Game.setTileFlags env game tile.halves ptr).flags }

def resetTileFlags (tile : TileStack) (ptr : ItemPtr) : TileStack :=
  { tile with flags := (Game.resetTileFlags env game tile.halves ptr).flags }

end

end TileStack

structure TileState where
  game : Game
  tile : TileStack

namespace TileState

variable (env : Env) (pos : Position) (state : TileState)

def setParent (ptr : ItemPtr) (cylinder : Option Cylinder) : TileState :=
  { state with game := state.game.setItem ptr ((state.game.items ptr).setParent cylinder) }

/-- `setTileFlags`, after the tile has changed. -/
def setFlags (tile : TileStack) (ptr : ItemPtr) : TileState :=
  { state with tile := tile.setTileFlags env state.game ptr }

/-- `resetTileFlags`, after the tile has changed. -/
def resetFlags (tile : TileStack) (ptr : ItemPtr) : TileState :=
  { state with tile := tile.resetTileFlags env state.game ptr }

def typeOf (ptr : ItemPtr) : ItemType := env.items.get (state.game.items ptr).id

def removeThing (thing : Thing) (count : Nat) : TileState :=
  let tile := state.tile
  match thing with
  | .creature id => { state with tile := { tile with creatures := tile.creatures.erase id } }
  | .item ptr =>
    let item := state.game.items ptr
    if tile.getThingIndex env state.game (.item ptr) = -1 then state
    else if tile.ground = some ptr then
      (state.setParent ptr none).resetFlags env { tile with ground := none } ptr
    else if (state.typeOf env ptr).alwaysOnTop then
      match tile.topItems.idxOf? ptr with
      | none => state
      | some passed =>
        (state.setParent ptr none).resetFlags env
          { tile with items := tile.items.eraseIdx (tile.downItemCount + passed) } ptr
    else
      match tile.downItems.idxOf? ptr with
      | none => state
      | some passed =>
        if (state.typeOf env ptr).stackable ∧ count ≠ item.count then
          let newCount := toUInt8 (max 0 (toInt32 ((item.count : Int) - count)))
          { state with game := state.game.setItem ptr (item.setItemCount newCount) }
        else
          (state.setParent ptr none).resetFlags env
            { tile with items := tile.items.eraseIdx passed, downItemCount := toUInt16 ((tile.downItemCount : Int) - 1) } ptr

/-- The splash or the field that `Tile::addThing` removes. -/
def removeOld (old : ItemPtr) : TileState := (state.removeThing env (.item old) 1).setParent old none

/-- A top item goes in front of the first one that `before` holds for. -/
def insertTop (before : ItemType → Bool) (ptr : ItemPtr) : TileState :=
  let tile := state.tile
  let passed := tile.topItems.findIdx (fun other => before (state.typeOf env other))
  state.setFlags env { tile with items := tile.items.insertIdx (tile.downItemCount + passed) ptr } ptr

/-- A down item goes to the front. -/
def insertDown (ptr : ItemPtr) : TileState :=
  let tile := state.tile
  state.setFlags env
    { tile with items := ptr :: tile.items, downItemCount := toUInt16 ((tile.downItemCount : Int) + 1) } ptr

def addThing (thing : Thing) : TileState :=
  let tile := state.tile
  match thing with
  | .creature id => { state with tile := { tile with creatures := id :: tile.creatures } }
  | .item ptr =>
    if tile.items.length ≥ 0xFFFF then state
    else
      let itemType := state.typeOf env ptr
      let state := state.setParent ptr (some (.tile pos))
      if itemType.isGroundTile then
        match tile.ground with
        | none => state.setFlags env { tile with ground := some ptr } ptr
        | some oldGround =>
          let state := (state.setParent oldGround none).resetFlags env { tile with ground := some ptr } oldGround
          state.setFlags env state.tile ptr
      else if itemType.alwaysOnTop then
        let oldSplash := if itemType.isSplash then
          tile.topItems.find? (fun other => (state.typeOf env other).isSplash) else none
        let state := match oldSplash with
          | some old => state.removeOld env old
          | none => state
        state.insertTop env (fun other => itemType.alwaysOnTopOrder ≤ other.alwaysOnTopOrder) ptr
      else
        let oldField := if itemType.isMagicField then
          tile.downItems.find? (fun other => (state.game.items other).kind = .magicField) else none
        match oldField with
        | some old =>
          if (state.typeOf env old).replaceable then (state.removeOld env old).insertDown env ptr
          else state.setParent ptr none
        | none => state.insertDown env ptr

def internalAddThing (thing : Thing) : TileState :=
  let tile := state.tile
  match thing with
  | .creature id => { state with tile := { tile with creatures := id :: tile.creatures } }
  | .item ptr =>
    let itemType := state.typeOf env ptr
    let state := state.setParent ptr (some (.tile pos))
    if itemType.isGroundTile then
      match tile.ground with
      | none => state.setFlags env { tile with ground := some ptr } ptr
      | some _ => state
    else if tile.items.length ≥ 0xFFFF then state
    else if itemType.alwaysOnTop then
      state.insertTop env (fun other => other.alwaysOnTopOrder > itemType.alwaysOnTopOrder) ptr
    else state.insertDown env ptr

def updateThing (thing : Thing) (itemId count : Nat) : TileState :=
  match thing with
  | .creature _ => state
  | .item ptr =>
    if state.tile.getThingIndex env state.game (.item ptr) = -1 then state
    else
      let state := state.resetFlags env state.tile ptr
      let item := ((state.game.items ptr).setID env.items (env.normalRandom ptr) itemId).setSubType env.items (toUInt16 count)
      let state := { state with game := state.game.setItem ptr item }
      state.setFlags env state.tile ptr

/-- The item that `replaceThing` takes out, and the tile with the other one in its place; the creatures lie between the
top items and the down items. -/
def swapAbove (tile : TileStack) (pos : Nat) (ptr : ItemPtr) : Option (ItemPtr × TileStack) :=
  let topItemSize := tile.getTopItemCount
  if pos < topItemSize then
    (tile.items[tile.downItemCount + pos]?).map (fun oldItem =>
      (oldItem, { tile with items := tile.items.set (tile.downItemCount + pos) ptr }))
  else
    let pos := pos - topItemSize
    if pos < tile.creatures.length then none
    else
      let pos := pos - tile.creatures.length
      if pos < tile.getDownItemCount then
        (tile.items[pos]?).map (fun oldItem => (oldItem, { tile with items := tile.items.set pos ptr }))
      else none

/-- The same with the ground in front. -/
def swap (tile : TileStack) (pos : Nat) (ptr : ItemPtr) : Option (ItemPtr × TileStack) :=
  match tile.ground with
  | some ground => if pos = 0 then some (ground, { tile with ground := some ptr }) else swapAbove tile (pos - 1) ptr
  | none => swapAbove tile pos ptr

def replaceThing (index : Nat) (thing : Thing) : TileState :=
  match thing with
  | .creature _ => state
  | .item ptr =>
    match swap state.tile index ptr with
    | none => state
    | some (oldItem, tile) =>
      let state := (state.setParent ptr (some (.tile pos))).resetFlags env tile oldItem
      (state.setFlags env state.tile ptr).setParent oldItem none

end TileState

/-- The calls that change a tile; in between, items that are elsewhere may change in any way. -/
inductive TileOp where
  | addThing (thing : Thing)
  | internalAddThing (thing : Thing)
  | updateThing (thing : Thing) (itemId count : Nat)
  | replaceThing (index : Nat) (thing : Thing)
  | removeThing (thing : Thing) (count : Nat)
  | elsewhere (ptr : ItemPtr) (item : Item)

namespace TileOp

/-- What comes to the tile is not there yet, and what changes elsewhere is not there. -/
def Fresh (state : TileState) : TileOp → Prop
  | addThing thing => thing ∉ state.tile.things
  | internalAddThing thing => thing ∉ state.tile.things
  | replaceThing _ thing => thing ∉ state.tile.things
  | elsewhere ptr _ => .item ptr ∉ state.tile.things
  | _ => True

instance (state : TileState) : (op : TileOp) → Decidable (op.Fresh state)
  | addThing thing => inferInstanceAs (Decidable (thing ∉ state.tile.things))
  | internalAddThing thing => inferInstanceAs (Decidable (thing ∉ state.tile.things))
  | replaceThing _ thing => inferInstanceAs (Decidable (thing ∉ state.tile.things))
  | elsewhere ptr _ => inferInstanceAs (Decidable (Thing.item ptr ∉ state.tile.things))
  | updateThing .. => isTrue trivial
  | removeThing .. => isTrue trivial

/-- The state after the call. -/
def run (env : Env) (pos : Position) (state : TileState) : TileOp → TileState
  | addThing thing => state.addThing env pos thing
  | internalAddThing thing => state.internalAddThing env pos thing
  | updateThing thing itemId count => state.updateThing env thing itemId count
  | replaceThing index thing => state.replaceThing env pos index thing
  | removeThing thing count => state.removeThing env thing count
  | elsewhere ptr item => { state with game := state.game.setItem ptr item }

/-- A call as its callers make it: a thing is taken from where it was before it is put on the tile. -/
def step (env : Env) (pos : Position) (state : TileState) (op : TileOp) : TileState :=
  if op.Fresh state then op.run env pos state else state

end TileOp

end Styller
