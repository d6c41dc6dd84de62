import Styller.Item.Codec
import Styller.Library.Rose

/-! Items with the items in them. -/

namespace Styller

open Library

abbrev ItemTree := Rose ItemObject

namespace ItemTree

variable (items : ItemTypes)

/-- `getWeight`, with what the container has recorded. -/
def getWeight (tree : ItemTree) : Nat := tree.value.item.getWeight items

/-- `Container::internalAddThing`: the item goes to the front. -/
def internalAddThing (container item : ItemTree) : ItemTree :=
  match container with
  | .node object children =>
    .node { object with item := { object.item with
      totalWeight := (object.item.totalWeight + getWeight items item) % 2 ^ 32 } } (item :: children)

/-- A container none of whose items are still to load. -/
def counted (container : ItemTree) : ItemTree :=
  match container with
  | .node object children => .node { object with serializationCount := 0 } children

def Contained (tree : ItemTree) : Prop :=
  tree.All (fun object children => object.item.isContainer = false → children = [])

end ItemTree

def bag : Item := { id := 1987, kind := .container, maxSize := 8 }
def locker : Item := { id := 2589, kind := .depotLocker, maxSize := 30 }
def sword : Item := { id := 2376 }

def inBag (item : Item) : ItemTree := .node { item := bag } [.node { item } []]

theorem contained_inBag (item : Item) : (inBag item).Contained := by
  refine .node nofun ?_
  intro child listed
  rw [List.mem_singleton] at listed
  rw [listed]
  exact .node (fun _ => rfl) nofun

end Styller
