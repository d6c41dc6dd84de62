import Styller.Item.ItemType
import Styller.Library.Stream

/-! Items as the heap holds them, and the operations of `Item` that look at one
item only. -/

namespace Styller

abbrev ItemPtr := Nat

abbrev PlayerId := Nat

structure Position where
  x : Nat
  y : Nat
  z : Nat
  deriving DecidableEq, Inhabited

inductive Cylinder where
  | player (id : PlayerId)
  | tile (pos : Position)
  | item (ptr : ItemPtr)
  deriving DecidableEq

inductive ItemClass where
  | item
  | container
  | depotLocker
  | depotChest
  | teleport
  | magicField
  | door
  | trashHolder
  | mailbox
  | bed
  deriving DecidableEq, Inhabited

/-- `Container` and the classes that derive from it. -/
def ItemClass.isContainer (kind : ItemClass) : Bool :=
  kind = .container ∨ kind = .depotLocker ∨ kind = .depotChest

inductive ItemAttrType where
  | actionId
  | uniqueId
  | description
  | text
  | date
  | writer
  | name
  | article
  | pluralName
  | weight
  | attack
  | defense
  | extraDefense
  | armor
  | hitChance
  | shootRange
  | owner
  | duration
  | decayState
  | corpseOwner
  | charges
  | fluidType
  | doorId
  | decayTo
  | wrapId
  | storeItem
  | attackSpeed
  | durationMax
  | custom
  deriving DecidableEq

/-- `Attribute::Value`; a custom attribute map is compared by its address. -/
inductive AttrValue where
  | integer (value : Int)
  | string (value : Library.Bytes)
  | custom (address : Nat)
  deriving DecidableEq

/-- `ItemAttributes`: the attribute list; `attributeBits` is the set of its types. -/
abbrev ItemAttributes := List (ItemAttrType × AttrValue)

namespace ItemAttributes

def hasAttribute (attributes : ItemAttributes) (type : ItemAttrType) : Bool :=
  attributes.any (·.1 = type)

def getIntAttr (attributes : ItemAttributes) (type : ItemAttrType) : Int :=
  match attributes.find? (·.1 = type) with
  | some (_, .integer value) => value
  | _ => 0

def setIntAttr (attributes : ItemAttributes) (type : ItemAttrType) (value : Int) : ItemAttributes :=
  let value := if type = .attackSpeed ∧ value < 100 then 100 else value
  if attributes.hasAttribute type then
    attributes.map (fun entry => if entry.1 = type then (type, .integer value) else entry)
  else attributes ++ [(type, .integer value)]

def getStrAttr (attributes : ItemAttributes) (type : ItemAttrType) : Library.Bytes :=
  match attributes.find? (·.1 = type) with
  | some (_, .string value) => value
  | _ => []

/-- `ItemAttributes::setStrAttr`; an empty string is not stored. -/
def setStrAttr (attributes : ItemAttributes) (type : ItemAttrType) (value : Library.Bytes) : ItemAttributes :=
  if value = [] then attributes
  else if attributes.hasAttribute type then
    attributes.map (fun entry => if entry.1 = type then (type, .string value) else entry)
  else attributes ++ [(type, .string value)]

def removeAttribute (attributes : ItemAttributes) (type : ItemAttrType) : ItemAttributes :=
  attributes.filter (·.1 ≠ type)

/-- The comparison of two `attributeBits` and of all values of one type. -/
def agree (attributes otherAttributes : ItemAttributes) : Bool :=
  attributes.all (fun entry => otherAttributes.hasAttribute entry.1) &&
    otherAttributes.all (fun entry => attributes.hasAttribute entry.1) &&
    attributes.all (fun entry => otherAttributes.all (fun other =>
      entry.1 ≠ other.1 || entry.2 = other.2))

end ItemAttributes

/-- `Item`, with the fields that `Container`, `DepotChest` and `BedItem` add. -/
structure Item where
  id : Nat
  kind : ItemClass := .item
  count : Nat := 1
  attributes : Option ItemAttributes := none
  parent : Option Cylinder := none
  itemlist : List ItemPtr := []
  maxSize : Nat := 0
  totalWeight : Nat := 0
  maxDepotItems : Nat := 0
  bedInHouse : Bool := false
  deriving DecidableEq, Inhabited

namespace Item

section
variable (items : ItemTypes)

def isStackable (item : Item) : Bool := (items.get item.id).stackable
def isPickupable (item : Item) : Bool := (items.get item.id).pickupable
def isMoveable (item : Item) : Bool := (items.get item.id).moveable
def isBlocking (item : Item) : Bool := (items.get item.id).blockSolid
def isHangable (item : Item) : Bool := (items.get item.id).isHangable
def isMagicField (item : Item) : Bool := (items.get item.id).isMagicField
def isAlwaysOnTop (item : Item) : Bool := (items.get item.id).alwaysOnTop

def getSlotPosition (item : Item) : SlotPosition := (items.get item.id).slotPosition
def getWeaponType (item : Item) : WeaponType := (items.get item.id).weaponType

def getStackSize (item : Item) : Nat :=
  if item.isStackable items then (items.get item.id).stackSize else 1

/-- `Item::getWorth`: the product is cut to 32 bits. -/
def getWorth (item : Item) : Nat := ((items.get item.id).worth * item.count) % 2 ^ 32

end

/-- `Item::getContainer` is not null. -/
def isContainer (item : Item) : Bool := item.kind.isContainer

/-- `dynamic_cast<Cylinder*>` of an item succeeds. -/
def isCylinder (item : Item) : Bool :=
  item.isContainer || item.kind = .teleport || item.kind = .trashHolder || item.kind = .mailbox

def setItemCount (item : Item) (n : Int) : Item := { item with count := toUInt8 n }

def setParent (item : Item) (cylinder : Option Cylinder) : Item := { item with parent := cylinder }

def hasAttribute (item : Item) (type : ItemAttrType) : Bool :=
  (item.attributes.getD []).hasAttribute type

def getIntAttr (item : Item) (type : ItemAttrType) : Int :=
  (item.attributes.getD []).getIntAttr type

def setIntAttr (item : Item) (type : ItemAttrType) (value : Int) : Item :=
  { item with attributes := some ((item.attributes.getD []).setIntAttr type value) }

def getStrAttr (item : Item) (type : ItemAttrType) : Library.Bytes :=
  (item.attributes.getD []).getStrAttr type

def setStrAttr (item : Item) (type : ItemAttrType) (value : Library.Bytes) : Item :=
  { item with attributes := some ((item.attributes.getD []).setStrAttr type value) }

def removeAttribute (item : Item) (type : ItemAttrType) : Item :=
  { item with attributes := item.attributes.map (·.removeAttribute type) }

def getDuration (item : Item) : Nat := toUInt32 (item.getIntAttr .duration)

def equals (item : Item) (otherItem : Option Item) : Bool :=
  match otherItem with
  | none => false
  | some other =>
    if item.id ≠ other.id then false
    else match item.attributes, other.attributes with
      | none, none => true
      | none, some attributes => attributes.isEmpty
      | some attributes, none => attributes.isEmpty
      | some attributes, some otherAttributes => attributes.agree otherAttributes

theorem agree_comm (attributes otherAttributes : ItemAttributes) :
    attributes.agree otherAttributes = otherAttributes.agree attributes := by
  rw [Bool.eq_iff_iff]
  simp only [ItemAttributes.agree, Bool.and_eq_true, List.all_eq_true]
  have values : ∀ first second : ItemAttributes,
      (∀ entry ∈ first, ∀ other ∈ second, (entry.1 ≠ other.1 || entry.2 = other.2) = true) →
        ∀ entry ∈ second, ∀ other ∈ first, (entry.1 ≠ other.1 || entry.2 = other.2) = true := by
    intro first second agree entry inSecond other inFirst
    have same := agree other inFirst entry inSecond
    simp only [Bool.or_eq_true, decide_eq_true_eq] at same ⊢
    exact same.imp Ne.symm Eq.symm
  constructor
  · rintro ⟨⟨left, right⟩, same⟩
    exact ⟨⟨right, left⟩, values _ _ same⟩
  · rintro ⟨⟨left, right⟩, same⟩
    exact ⟨⟨right, left⟩, values _ _ same⟩

/-- The comparison of two items has no direction. -/
theorem equals_comm (item other : Item) : item.equals (some other) = other.equals (some item) := by
  unfold equals
  by_cases same : item.id = other.id
  · simp only [same, ne_eq, not_true, if_false]
    cases item.attributes <;> cases other.attributes <;> simp [agree_comm]
  · simp [same, Ne.symm same]

theorem id_eq_of_equals {item other : Item} (same : item.equals (some other) = true) :
    item.id = other.id := by
  by_cases differ : item.id = other.id
  · exact differ
  · simp [equals, differ] at same

section
variable (items : ItemTypes)

def getBaseWeight (item : Item) : Nat :=
  if item.hasAttribute .weight then toUInt32 (item.getIntAttr .weight)
  else (items.get item.id).weight

/-- `Item::getWeight` and, for containers, `Container::getWeight`. -/
def getWeight (item : Item) : Nat :=
  let weight := item.getBaseWeight items
  let own := if item.isStackable items then (weight * max 1 item.count) % 2 ^ 32 else weight
  if item.isContainer then (own + item.totalWeight) % 2 ^ 32 else own

def ownWeight (item : Item) : Nat :=
  if item.isStackable items then (item.getBaseWeight items * max 1 item.count) % 2 ^ 32 else item.getBaseWeight items

theorem getWeight_eq (item : Item) : item.getWeight items =
    if item.isContainer then (item.ownWeight items + item.totalWeight) % 2 ^ 32 else item.ownWeight items := rfl

def setSubType (item : Item) (n : Nat) : Item :=
  let it := items.get item.id
  if it.isFluidContainer || it.isSplash then item.setIntAttr .fluidType n
  else if it.stackable then item.setItemCount n
  else if it.charges ≠ 0 then item.setIntAttr .charges n
  else item.setItemCount n

def getSubType (item : Item) : Nat :=
  let it := items.get item.id
  if it.isFluidContainer || it.isSplash then toUInt16 (item.getIntAttr .fluidType)
  else if it.stackable then item.count
  else if it.charges ≠ 0 then toUInt16 (item.getIntAttr .charges)
  else item.count

/-- `Item::setID`; `normalRandom` draws the new duration of a type whose decay
time is a range. -/
def setID (normalRandom : Nat → Nat → Int) (item : Item) (newid : Nat) : Item :=
  let prevIt := items.get item.id
  let it := items.get newid
  let newDuration := toUInt32 (if it.decayTimeMin ≠ 0 ∧ it.decayTimeMax ≠ 0
    then normalRandom it.decayTimeMin it.decayTimeMax * 1000
    else it.decayTimeMin * 1000)
  let item := { item with id := newid }
  let item := if newDuration = 0 ∧ ¬ it.stopTime ∧ it.decayTo < 0
    then (item.removeAttribute .decayState).removeAttribute .duration else item
  let item := item.removeAttribute .corpseOwner
  if newDuration > 0 ∧ (¬ prevIt.stopTime ∨ ¬ item.hasAttribute .duration)
  then (item.setIntAttr .decayState 0).setIntAttr .duration (toInt32 newDuration) else item

def setDefaultDuration (normalRandom : Nat → Nat → Int) (item : Item) : Item :=
  let it := items.get item.id
  let durationMin := (it.decayTimeMin * 1000) % 2 ^ 32
  let durationMax := (it.decayTimeMax * 1000) % 2 ^ 32
  let duration := if durationMax ≠ 0 then toUInt32 (normalRandom durationMin durationMax)
    else durationMin
  if duration ≠ 0 then item.setIntAttr .duration (toInt32 duration) else item

/-- The constructor `Item(type, count)`. -/
def new (normalRandom : Nat → Nat → Int) (type count : Nat) : Item :=
  let it := items.get type
  let item : Item := { id := type }
  let item := if it.isFluidContainer || it.isSplash then item.setIntAttr .fluidType count
    else if it.stackable then
      if count ≠ 0 then item.setItemCount count
      else if it.charges ≠ 0 then item.setItemCount it.charges else item
    else if it.charges ≠ 0 then
      if count ≠ 0 then item.setIntAttr .charges count
      else item.setIntAttr .charges (toUInt16 it.charges)
    else item
  setDefaultDuration items normalRandom item

/-- `Item::CreateItem`; the null pointer is `none`. -/
def createItem (normalRandom : Nat → Nat → Int) (type count : Nat) : Option Item :=
  let it := items.get type
  if it.group = .deprecated then none
  else
    let count := if it.stackable ∧ count = 0 then 1 else count
    if it.id = 0 then none
    else if it.isDepot then some { new items normalRandom type 0 with kind := .depotLocker, maxSize := 30 }
    else if it.isContainer then
      some { new items normalRandom type 0 with kind := .container, maxSize := it.maxItems }
    else if it.isTeleport then some { new items normalRandom type 0 with kind := .teleport }
    else if it.isMagicField then some { new items normalRandom type 0 with kind := .magicField }
    else if it.isDoor then some { new items normalRandom type 0 with kind := .door }
    else if it.isTrashHolder then some { new items normalRandom type 0 with kind := .trashHolder }
    else if it.isMailbox then some { new items normalRandom type 0 with kind := .mailbox }
    else if it.isBed then some { new items normalRandom type 0 with kind := .bed }
    else match renamedItem it.id with
      | some renamed => some (new items normalRandom renamed count)
      | none => some (new items normalRandom type count)

/-- `other` is `item` but for the attributes. -/
def Reattributed (item other : Item) : Prop := other = { item with attributes := other.attributes }

namespace Reattributed
variable {items} {item other : Item}

theorem refl (item : Item) : Reattributed item item := rfl

theorem setIntAttr (same : Reattributed item other) (type : ItemAttrType) (value : Int) :
    Reattributed item (other.setIntAttr type value) := by
  unfold Reattributed
  rw [same]
  rfl

theorem setStrAttr (same : Reattributed item other) (type : ItemAttrType) (value : Library.Bytes) :
    Reattributed item (other.setStrAttr type value) := by
  unfold Reattributed
  rw [same]
  rfl

theorem removeAttribute (same : Reattributed item other) (type : ItemAttrType) :
    Reattributed item (other.removeAttribute type) := by
  unfold Reattributed
  rw [same]
  rfl

theorem ite {condition : Prop} [Decidable condition] {first second : Item}
    (yes : Reattributed item first) (no : Reattributed item second) :
    Reattributed item (if condition then first else second) := by
  split
  · exact yes
  · exact no

end Reattributed

theorem setDefaultDuration_frame (normalRandom : Nat → Nat → Int) (item : Item) :
    Reattributed item (setDefaultDuration items normalRandom item) :=
  .ite (.setIntAttr (.refl item) _ _) (.refl item)

theorem setID_moved (normalRandom : Nat → Nat → Int) (item : Item) (newid : Nat) :
    Reattributed { item with id := newid } (item.setID items normalRandom newid) := by
  have cleared : ∀ {condition : Prop} [Decidable condition], Reattributed { item with id := newid }
      ((if condition then (removeAttribute { item with id := newid } .decayState).removeAttribute .duration
        else { item with id := newid }).removeAttribute .corpseOwner) :=
    .removeAttribute (.ite (.removeAttribute (.removeAttribute (.refl _) _) _) (.refl _)) _
  exact .ite (.setIntAttr (.setIntAttr cleared _ _) _ _) cleared

theorem setID_frame (normalRandom : Nat → Nat → Int) (item : Item) :
    Reattributed item (item.setID items normalRandom item.id) :=
  setID_moved items normalRandom item item.id

/-- The sub type is an attribute or the count. -/
theorem setSubType_frame (item : Item) (n : Nat) : item.setSubType items n = { item with
    attributes := (item.setSubType items n).attributes, count := (item.setSubType items n).count } ∧
      ((item.setSubType items n).count = item.count ∨ (item.setSubType items n).count = toUInt8 n) := by
  simp only [setSubType]
  split_ifs
  · exact ⟨rfl, .inl rfl⟩
  · exact ⟨rfl, .inr rfl⟩
  · exact ⟨rfl, .inl rfl⟩
  · exact ⟨rfl, .inr rfl⟩

theorem setSubType_stackable (item : Item) (n : Nat) (stackable : item.isStackable items = true) :
    item.setSubType items n = item.setItemCount n := by
  have plain := items.stackable_plain item.id stackable
  have stackable : (items.get item.id).stackable = true := stackable
  simp [setSubType, ItemType.isFluidContainer, ItemType.isSplash, plain.group, stackable]

/-- What `updateThing` makes of a stack that keeps its type. -/
theorem updated_stack (normalRandom : Nat → Nat → Int) (item : Item) (n : Nat)
    (stackable : item.isStackable items = true) :
    ∃ attributes, (item.setID items normalRandom item.id).setSubType items n =
      { item with attributes, count := toUInt8 n } := by
  refine ⟨(item.setID items normalRandom item.id).attributes, ?_⟩
  rw [setID_frame items normalRandom item]
  exact setSubType_stackable items _ n stackable

/-- A stackable type is created as a plain item of its own id and of the count
asked for, one at least. -/
theorem createItem_stackable (normalRandom : Nat → Nat → Int)
    (stackable : (items.get type).stackable = true) (count : Nat) :
    ∃ attributes, createItem items normalRandom type count =
      some { id := type, count := toUInt8 (if count = 0 then 1 else count : Nat), attributes } := by
  have plain := items.stackable_plain type stackable
  obtain ⟨same, nonzero, kept⟩ := items.stackable_id type stackable
  have group := plain.group
  have positive : (if count = 0 then 1 else count) ≠ 0 := by split <;> omega
  have chosen : (if (items.get type).stackable = true ∧ count = 0 then 1 else count) =
      if count = 0 then 1 else count := by simp [stackable]
  unfold createItem
  simp only [chosen]
  generalize (if count = 0 then 1 else count) = size at positive
  have frame := setDefaultDuration_frame items normalRandom { id := type, count := toUInt8 size }
  refine ⟨(setDefaultDuration items normalRandom { id := type, count := toUInt8 size }).attributes, ?_⟩
  have made : new items normalRandom type size =
      setDefaultDuration items normalRandom { id := type, count := toUInt8 size } := by
    simp [new, ItemType.isFluidContainer, ItemType.isSplash, group, stackable, positive,
      setItemCount]
  rw [← frame, ← made]
  rcases plain.type with type | type | type <;>
    simp [group, same, nonzero, kept, type, ItemType.isDepot, ItemType.isContainer,
      ItemType.isTeleport, ItemType.isMagicField, ItemType.isDoor, ItemType.isTrashHolder,
      ItemType.isMailbox, ItemType.isBed]

end

end Item

end Styller
