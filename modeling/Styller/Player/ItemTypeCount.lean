import Styller.Library.Search
import Styller.World.CylinderEffect

/-! The items of a type that a player carries: `getItemTypeCount` and `removeItemOfType`. -/

namespace Styller

open Library

/-- `Item::countByType`; the subtype -1 stands for every one. -/
def Item.countByType (items : ItemTypes) (item : Item) (subType : Int) : Nat :=
  if subType = -1 ∨ subType = item.getSubType items then item.count else 0

namespace Game

section
variable (env : Env) (game : Game) (id : PlayerId) (itemId : Nat) (subType : Int)

/-- The items of the inventory, and behind each container what its iterator visits. -/
def inventoryItems : List ItemPtr :=
  (game.contents (.player id)).flatMap fun ptr =>
    ptr :: if (game.items ptr).isContainer then game.iterate ptr else []

def typeCount (list : List ItemPtr) : Nat := (list.map fun ptr => (game.items ptr).countByType env.items subType).sum

def itemsOfType : List ItemPtr := (game.inventoryItems id).filter fun ptr => (game.items ptr).id = itemId

/-- `Player::getItemTypeCount` -/
def getItemTypeCount : Nat := game.typeCount env subType (game.itemsOfType id itemId) % 2 ^ 32

end

section
variable (env : Env) (game : Game)

def internalRemoveItems (env : Env) (stackable : Bool) : List ItemPtr → Nat → Game → Game
  | [], _, game => game
  | item :: itemList, amount, game =>
    if stackable then
      if (game.items item).count > amount then (game.internalRemoveItem env item amount false CylinderFlags.none).2
      else
        internalRemoveItems env stackable itemList (amount - (game.items item).count)
          (game.internalRemoveItem env item (-1) false CylinderFlags.none).2
    else
      internalRemoveItems env stackable itemList amount (game.internalRemoveItem env item (-1) false CylinderFlags.none).2

variable (id : PlayerId) (itemId : Nat) (subType : Int)

/-- The items of the type that the loops of `removeItemOfType` come to; an item of the type is not looked into. -/
def searchedItems (ignoreEquipped : Bool) : List ItemPtr :=
  (game.contents (.player id)).flatMap fun ptr =>
    if !ignoreEquipped ∧ (game.items ptr).id = itemId then [ptr]
    else if (game.items ptr).isContainer then (game.iterate ptr).filter fun inside => (game.items inside).id = itemId
    else []

/-- The bodies of these loops: `itemList` and `count` before, and `itemList` where the count reaches the amount. -/
def collectItems (amount : Nat) : List ItemPtr → List ItemPtr → Nat → Option (List ItemPtr)
  | [], _, _ => none
  | item :: rest, itemList, count =>
    let itemCount := (game.items item).countByType env.items subType
    if itemCount = 0 then collectItems amount rest itemList count
    else
      let count := (count + itemCount) % 2 ^ 32
      if count ≥ amount then some (itemList ++ [item]) else collectItems amount rest (itemList ++ [item]) count

/-- `Player::removeItemOfType` -/
def removeItemOfType (amount : UInt32) (ignoreEquipped : Bool) : Bool × Game :=
  if amount = 0 then (true, game)
  else
    match game.collectItems env subType amount.toNat (game.searchedItems id itemId ignoreEquipped) [] 0 with
    | some itemList => (true, internalRemoveItems env (env.items.get itemId).stackable itemList amount.toNat game)
    | none => (false, game)

end

end Game

end Styller
