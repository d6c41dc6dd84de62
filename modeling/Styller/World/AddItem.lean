import Styller.World.MoveItem

/-! `Game::internalAddItem`, and how coins are handed out with it. -/

namespace Styller

/-- What an addition leaves: the answer, `remainderCount` and the state. -/
structure AddResult where
  ret : ReturnValue
  remainderCount : Nat
  game : Game

namespace Game

variable (env : Env) (game : Game)

section
variable (toCylinder : Cylinder) (item : ItemPtr) (dest : Destination)

def addRoom : ReturnValue × Nat :=
  game.queryMaxCount env toCylinder indexWhereever item (game.items item).count dest.flags

/-- The checks of `internalAddItem`. -/
def addRefusal : ReturnValue :=
  let ret := game.queryAdd env dest.cylinder dest.index item (game.items item).count dest.flags none
  if ret ≠ .noError then ret else (game.addRoom env toCylinder item dest).1

/-- The item that `item` is merged with. -/
def addTarget : Option ItemPtr :=
  if (game.items item).isStackable env.items then game.mergesWith item dest.toItem else none

/-- `m`. -/
def addCount : Nat := min (game.items item).count (game.addRoom env toCylinder item dest).2

/-- `count`: what merging leaves over. -/
def addRest (toItem : ItemPtr) : Int :=
  let m := game.addCount env toCylinder item dest
  toInt32 ((m : Int) - game.mergeCount env (some toItem) m)

def addMerged (toItem : ItemPtr) : Game :=
  game.mergeStack env dest.cylinder (some toItem) (game.addCount env toCylinder item dest)

/-- `addThing` and the notification. -/
def addPlaced : Game :=
  (game.addThing env dest.cylinder dest.index item).notifyAdded env dest.cylinder (some item)

/-- `item` starts to decay. -/
def addDecay : Game :=
  if (game.items item).getDuration > 0 then
    { game.setItem item ((game.items item).setIntAttr .decayState 1) with
      toDecayItems := item :: game.toDecayItems }
  else game

end

/-- `Game::internalAddItem`.  What is left over after merging is added as an item of its
own; `fuel` bounds how often, and a remainder is always smaller than what it is left of. -/
def addItem : Nat → Game → Cylinder → ItemPtr → Int → CylinderFlags → Bool → AddResult
  | 0, game, _, _, _, _, _ => ⟨.notPossible, 0, game⟩
  | fuel + 1, game, toCylinder, item, index, flags, test =>
    let dest := game.queryDestination env toCylinder index item none flags
    let ret := game.addRefusal env toCylinder item dest
    if ret ≠ .noError then ⟨ret, 0, game⟩
    else if test then ⟨.noError, 0, game⟩
    else
      let added : Nat × Game :=
        match game.addTarget env item dest with
        | none => (0, game.addPlaced env item dest)
        | some toItem =>
          let merged := game.addMerged env toCylinder item dest toItem
          let count := game.addRest env toCylinder item dest toItem
          if count > 0 then
            if ((game.items item).count : Int) ≠ count then
              -- the remainder's own `remainderCount` is dropped
              let rest := addItem fuel (merged.cloneWithCount env item count) toCylinder merged.next
                indexWhereever dest.flags false
              (if rest.ret ≠ .noError then count.toNat else 0, rest.game)
            else (0, merged.addPlaced env item dest)
          else (0, merged.notifyAdded env dest.cylinder (some toItem))
      ⟨.noError, added.1, added.2.addDecay item⟩

/-- `Game::internalAddItem` with enough fuel. -/
def internalAddItem (toCylinder : Cylinder) (item : ItemPtr) (index : Int) (flags : CylinderFlags)
    (test : Bool) : AddResult :=
  addItem env ((game.items item).count + 1) game toCylinder item index flags test

def getTile : Cylinder → Option Position
  | .player id => (game.players id).tile
  | .tile pos => some pos
  | .item ptr =>
    match game.getTopParent ptr with
    | none => none
    | some top =>
      match (game.parentOf top).getD top with
      | .tile pos => some pos
      | _ => none

/-- What `addMoney` does with a stack of coins: it goes to the cylinder, or else to the
tile. -/
def payOut (cylinder : Cylinder) (flags : CylinderFlags) (id count : Nat) : Game :=
  match Item.createItem env.items (env.normalRandom game.next) id count with
  | none => game
  | some remaindItem =>
    let created := game.allocate remaindItem
    let added := created.internalAddItem env cylinder game.next indexWhereever flags false
    if added.ret ≠ .noError then
      match game.getTile cylinder with
      | some pos => (created.internalAddItem env (.tile pos) game.next indexWhereever
          { CylinderFlags.none with noLimit := true } false).game
      | none => created
    else added.game

end Game

end Styller
