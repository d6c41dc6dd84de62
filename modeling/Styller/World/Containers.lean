import Mathlib.Data.ZMod.Basic
import Styller.Library.Rollup
import Styller.World.Mutate

/-! The other operations of containers, `Container::clone` among them, and the runs of all of them. -/

namespace Styller.Game

open Library

section
variable (env : Env) (game : Game)

def getParentContainer (ptr : ItemPtr) : Option ItemPtr :=
  match (game.items ptr).parent with
  | some (.item holder) => if (game.items holder).isContainer then some holder else none
  | _ => none

/-- `Container::addItem`. -/
def containerAddItem (container ptr : ItemPtr) : Game :=
  let self := game.items container
  let game := game.setItem container { self with itemlist := self.itemlist ++ [ptr] }
  game.setItem ptr ((game.items ptr).setParent (some (.item container)))

/-- `Container::addItemBack`. -/
def containerAddItemBack (container ptr : ItemPtr) : Game :=
  let game := game.containerAddItem container ptr
  updateItemWeight (game.next + 1) game container ((game.items ptr).getWeight env.items)

/-- `Container::internalAddThing`. -/
def containerInternalAddThing (container ptr : ItemPtr) : Game :=
  let game := game.setItem ptr ((game.items ptr).setParent (some (.item container)))
  let self := game.items container
  let game := game.setItem container { self with itemlist := ptr :: self.itemlist }
  updateItemWeight (game.next + 1) game container ((game.items ptr).getWeight env.items)

/-- `Container::replaceThing`. -/
def containerReplaceThing (container : ItemPtr) (index : Nat) (ptr : ItemPtr) : Game :=
  match (game.items container).itemlist[index]? with
  | none => game
  | some replacedItem =>
    let self := game.items container
    let game := game.setItem container { self with itemlist := self.itemlist.set index ptr }
    let game := game.setItem ptr ((game.items ptr).setParent (some (.item container)))
    let game := updateItemWeight (game.next + 1) game container
      (-((game.items replacedItem).getWeight env.items : Int) + (game.items ptr).getWeight env.items)
    game.setItem replacedItem ((game.items replacedItem).setParent none)

/-- `clone` of an item or a container. The copy is at the next free address. A copy that is not made, or that is not
a container where the code takes it for one, is `none`. -/
def cloneThing : Nat → Game → ItemPtr → Option Game
  | 0, _, _ => none
  | fuel + 1, game, ptr =>
    let clone := game.next
    match Item.createItem env.items (env.normalRandom clone) (game.items ptr).id (game.items ptr).count with
    | none => none
    | some copy =>
      let cloned := game.clone env ptr
      if !(game.items ptr).isContainer then some cloned
      else if !copy.isContainer then none
      else do
        let filled ← (game.items ptr).itemlist.foldlM (fun game child => do
          let cloned ← cloneThing fuel game child
          return cloned.containerAddItem clone game.next) cloned
        return filled.setItem clone { filled.items clone with totalWeight := (game.items ptr).totalWeight }

end

/-- The operations of containers. -/
inductive ContainerOp where
  | addThing (container : ItemPtr) (index : Int) (ptr : ItemPtr)
  | addItemBack (container ptr : ItemPtr)
  | internalAddThing (container ptr : ItemPtr)
  | updateThing (container ptr : ItemPtr) (itemId count : Nat)
  | replaceThing (container : ItemPtr) (index : Nat) (ptr : ItemPtr)
  | removeThing (container ptr : ItemPtr) (count : Nat)
  | clone (ptr : ItemPtr)

namespace ContainerOp

/-- The container that an operation is done on. -/
def container : ContainerOp → ItemPtr
  | addThing container _ _ | addItemBack container _ | internalAddThing container _ | updateThing container _ _ _
  | replaceThing container _ _ | removeThing container _ _ => container
  | clone ptr => ptr

def added : ContainerOp → Option ItemPtr
  | addThing _ _ ptr | addItemBack _ ptr | internalAddThing _ ptr | replaceThing _ _ ptr => some ptr
  | _ => none

def run (env : Env) (game : Game) : ContainerOp → Option Game
  | addThing container index ptr => some (game.containerAddThing env container index ptr)
  | addItemBack container ptr => some (game.containerAddItemBack env container ptr)
  | internalAddThing container ptr => some (game.containerInternalAddThing env container ptr)
  | updateThing container ptr itemId count => some (game.containerUpdateThing env container ptr itemId count)
  | replaceThing container index ptr => some (game.containerReplaceThing env container index ptr)
  | removeThing container ptr count => some (game.containerRemoveThing env container ptr count)
  | clone ptr => cloneThing env (game.next + 1) game ptr

end ContainerOp

end Styller.Game
