import Styller.Item.GameItems
import Styller.Item.Tree

/-! How the items of houses are written to a stream and read from it. -/

namespace Styller

open Library

section

variable (items : ItemTypes) (place : Placement)

mutual

/-- `IOMapSerialize::saveItem`. The children of a container are the last of its attributes. -/
def saveItem : ItemTree → Bytes
  | .node object children =>
    write (UInt16.ofNat object.item.id) ++ (serializeAttr items place object ++
      ((if object.item.isContainer then
        AttrTypes.containerItems.code :: (write (UInt32.ofNat children.length) ++ saveReversed children) else []) ++ [0]))

/-- The items of a list from the back to the front. -/
def saveReversed : List ItemTree → Bytes
  | [] => []
  | child :: later => saveReversed later ++ saveItem child

end

end

section

open Reader

variable (items : ItemTypes) (services : ItemServices) (normalRandom : Nat → Nat → Int)

/-- The loop of `IOMapSerialize::loadContainer`, and the end mark after it. A reader that fails
stands for an answer of false. -/
def loadContainer (loadItem : Reader (Option ItemTree)) : Nat → ItemTree → Reader ItemTree
  | 0, container => do
    let endAttr ← read UInt8
    if endAttr ≠ 0 then fail else pure container.counted
  | serializationCount + 1, container => do
    match ← loadItem with
    | some item => loadContainer loadItem serializationCount (container.internalAddThing items item)
    | none => loadContainer loadItem serializationCount container

/-- The part of `IOMapSerialize::loadItem` that creates a new item. An id that nothing can be created
of is passed over. -/
def loadNewItem (loadItem : Reader (Option ItemTree)) (id : UInt16) : Reader (Option ItemTree) :=
  match Item.createItem items normalRandom id.toNat 0 with
  | none => pure none
  | some item => do
    let (complete, object) ← unserializeAttr items services { item }
    if complete then
      if object.item.isContainer then do
        let container ← loadContainer items loadItem object.serializationCount.toNat (.node object [])
        pure (some container)
      else pure (some (.node object []))
    else fail

/-- `IOMapSerialize::loadItem` with a container as the parent, where items are nested less deep
than the number. -/
def loadItemWithin : Nat → Reader (Option ItemTree)
  | 0 => fail
  | depth + 1 => do
    let id ← read UInt16
    loadNewItem items services normalRandom (loadItemWithin depth) id

section

variable {items services normalRandom} {first second : Reader (Option ItemTree)} {bytes : Bytes}

theorem loadContainer_congr {count : Nat} {container : ItemTree}
    (agree : ∀ rest, rest.length ≤ bytes.length → first.run rest = second.run rest) :
    (loadContainer items first count container).run bytes = (loadContainer items second count container).run bytes := by
  induction count generalizing container bytes with
  | zero => rfl
  | succ count ih =>
    apply run_bind_congr (agree bytes (Nat.le_refl _))
    intro made rest shorter
    have later := fun more less => agree more (Nat.le_trans less shorter)
    cases made with
    | none => exact ih later
    | some item => exact ih later

theorem loadNewItem_congr {id : UInt16}
    (agree : ∀ rest, rest.length ≤ bytes.length → first.run rest = second.run rest) :
    (loadNewItem items services normalRandom first id).run bytes =
      (loadNewItem items services normalRandom second id).run bytes := by
  unfold loadNewItem
  split
  · rfl
  · apply run_bind_congr rfl
    rintro ⟨complete, object⟩ rest shorter
    dsimp only
    split
    · split
      · apply run_bind_congr
        · exact loadContainer_congr (fun more less => agree more (Nat.le_trans less shorter))
        · exact fun _ _ _ => rfl
      · rfl
    · rfl

end

/-- `IOMapSerialize::loadItem`: the item that it adds to the parent. On a tile what is not moved
takes the place of what the map has there. -/
def loadItem (onTile : Bool) (stationary : UInt16 → Reader (Option ItemTree)) : Reader (Option ItemTree) where
  run bytes :=
    (do
      let id ← read UInt16
      if (items.get id.toNat).moveable || (items.get id.toNat).forceSerialize || !onTile then
        loadNewItem items services normalRandom (loadItemWithin items services normalRandom bytes.length) id
      else stationary id : Reader (Option ItemTree)).run bytes
  shrinks bytes := Reader.shrinks _ bytes

end

end Styller
