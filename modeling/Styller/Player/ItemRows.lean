import Styller.Item.Tree
import Styller.Item.Setters
import Styller.Library.Levels
import Styller.Library.OrderedMap

/-! How the items of a player are written to the rows of a table and built from them again. -/

namespace Styller

open Library

/-- A row of `player_items`, `player_depotlockeritems` or `player_depotitems`. -/
structure ItemRow where
  pid : Int
  sid : Int
  itemtype : Nat
  count : Nat
  attributes : Bytes

section

variable (items : ItemTypes) (place : Placement)

/-- The row that `saveItems` adds for an item. -/
def itemRow (pid runningId : Int) (object : ItemObject) : ItemRow where
  pid := pid
  sid := runningId
  itemtype := object.item.id
  count := object.item.getSubType items
  attributes := serializeAttr items place object

/-- The `pid` of what is at a place: the one of the list, or the running id of the container. -/
def parentId : Place Int → Int
  | .root pid => pid
  | .inside runningId => toInt32 runningId

/-- `IOLoginData::saveItems`: the rows of the items of the list, then of what is in each of the
containers, in the order in which these were come upon. The running id is an `int32_t` that counts
on from 100. -/
def saveItems (itemList : List (Int × ItemTree)) : List ItemRow :=
  (levels (·.item.isContainer) 100 itemList).map fun item =>
    itemRow items place (parentId item.place) (toInt32 item.number) item.tree.value

end

structure MapItem where
  object : ItemObject
  pid : Nat

abbrev ItemMap := OrderedMap MapItem

section

variable (items : ItemTypes) (services : ItemServices) (normalRandom : Nat → Nat → Int)

/-- The item of a row. One whose attributes cannot be read is kept with what was read of them. -/
def loadItemRow (row : ItemRow) : Option ItemObject :=
  (Item.createItem items normalRandom row.itemtype row.count).map fun item =>
    match ((unserializeAttr items services { item }).run row.attributes).1 with
    | some (_, object) => object
    | none => { item }

/-- `IOLoginData::loadItems`: rows that nothing can be created of are passed over. -/
def loadItems (itemMap : ItemMap) (result : List ItemRow) : ItemMap :=
  result.foldl (fun itemMap row =>
    match loadItemRow items services normalRandom row with
    | some object => itemMap.set (toUInt32 row.sid) { object, pid := toUInt32 row.pid }
    | none => itemMap) itemMap

end

/-- The tables that `loadPlayer` goes through. -/
inductive ItemTable where
  | items
  | depotLockerItems
  | depotItems

namespace ItemTable

/-- The `pid`s that stand for a slot of the player, a depot locker or a depot chest. -/
def isRoot : ItemTable → Int → Bool
  | items, pid => 1 ≤ pid ∧ pid ≤ 10
  | depotLockerItems, pid | depotItems, pid => 0 ≤ pid ∧ pid < 100

/-- `Player::internalAddThing`, which leaves a slot with an item in it as it is, and
`Container::internalAddThing`, which puts the item to the front. -/
def internalAddThing : ItemTable → List Nat → Nat → List Nat
  | items, held, sid => if held = [] then [sid] else held
  | depotLockerItems, held, sid | depotItems, held, sid => sid :: held

/-- Where an item of the map belongs, if anywhere. -/
def placeOf (table : ItemTable) (itemMap : ItemMap) (item : MapItem) : Option (Place Int) :=
  let pid := toInt32 item.pid
  if table.isRoot pid then some (.root pid)
  else match itemMap.find (toUInt32 pid) with
    | none => none
    | some container => if container.object.item.isContainer then some (.inside (toUInt32 pid)) else none

/-- The body of the loop of `loadPlayer` over an `ItemMap`. Items stand for themselves by their
`sid`s. -/
def placeItem (table : ItemTable) (itemMap : ItemMap) (entry : Nat × MapItem) (contents : Place Int → List Nat) :
    Place Int → List Nat :=
  match table.placeOf itemMap entry.2 with
  | none => contents
  | some (.root pid) =>
    Function.update contents (.root pid) (table.internalAddThing (contents (.root pid)) entry.1)
  | some (.inside sid) => Function.update contents (.inside sid) (entry.1 :: contents (.inside sid))

/-- The loop of `loadPlayer` over an `ItemMap`, from the highest `sid` to the lowest: what it puts
in every slot, locker, chest and container, from the front to the back. -/
def placeItems (table : ItemTable) (itemMap : ItemMap) : Place Int → List Nat :=
  itemMap.entries.foldr (table.placeItem itemMap) (fun _ => [])

end ItemTable

end Styller
