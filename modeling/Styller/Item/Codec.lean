import Styller.Item.Item
import Styller.Item.CustomAttribute

/-! How the attributes of an item are written to a stream and read from it. -/

namespace Styller

open Library

/-- `AttrTypes_t`: the members that `readAttr` knows. -/
inductive AttrTypes where
  | actionId
  | uniqueId
  | text
  | desc
  | teleDest
  | depotId
  | runeCharges
  | houseDoorId
  | count
  | duration
  | decayingState
  | writtenDate
  | writtenBy
  | sleeperGuid
  | sleepStart
  | charges
  | containerItems
  | name
  | article
  | pluralName
  | weight
  | attack
  | defense
  | extraDefense
  | armor
  | hitChance
  | shootRange
  | customAttributes
  | decayTo
  | attackSpeed
  deriving DecidableEq

namespace AttrTypes

def code : AttrTypes → UInt8
  | actionId => 4
  | uniqueId => 5
  | text => 6
  | desc => 7
  | teleDest => 8
  | depotId => 10
  | runeCharges => 12
  | houseDoorId => 14
  | count => 15
  | duration => 16
  | decayingState => 17
  | writtenDate => 18
  | writtenBy => 19
  | sleeperGuid => 20
  | sleepStart => 21
  | charges => 22
  | containerItems => 23
  | name => 24
  | article => 25
  | pluralName => 26
  | weight => 27
  | attack => 28
  | defense => 29
  | extraDefense => 30
  | armor => 31
  | hitChance => 32
  | shootRange => 33
  | customAttributes => 34
  | decayTo => 35
  | attackSpeed => 38

def members : List AttrTypes :=
  [actionId, uniqueId, text, desc, teleDest, depotId, runeCharges, houseDoorId, count, duration, decayingState,
    writtenDate, writtenBy, sleeperGuid, sleepStart, charges, containerItems, name, article, pluralName, weight,
    attack, defense, extraDefense, armor, hitChance, shootRange, customAttributes, decayTo, attackSpeed]

/-- The member that a byte stands for. -/
def ofCode (code : UInt8) : Option AttrTypes := members.find? (fun attr => attr.code = code)

@[simp] theorem ofCode_code (attr : AttrTypes) : ofCode attr.code = some attr := by
  cases attr <;> decide

theorem code_ne_zero (attr : AttrTypes) : attr.code ≠ 0 := by
  cases attr <;> decide

end AttrTypes

/-- `DECAYING_TRUE` and `DECAYING_PENDING`. -/
def decayingTrue : Int := 1
def decayingPending : Int := 2

/-- An item with its map of custom attributes, the number of items that a container still has to
load, and what beds and teleports add. -/
structure ItemObject where
  item : Item
  customAttributes : CustomAttributeMap := .empty
  serializationCount : UInt32 := 0
  sleeperGUID : UInt32 := 0
  sleepStart : UInt64 := 0
  destPos : UInt16 × UInt16 × UInt8 := (0, 0, 0)

namespace Item

/-- `Item::getCharges`, `Item::getFluidType` and `Item::getActionId`. -/
def getCharges (item : Item) : Nat := toUInt16 (item.getIntAttr .charges)
def getFluidType (item : Item) : Nat := toUInt16 (item.getIntAttr .fluidType)
def getActionId (item : Item) : Nat := toUInt16 (item.getIntAttr .actionId)

def setActionId (item : Item) (n : Nat) : Item := item.setIntAttr .actionId (max n 100)

end Item

section

variable (items : ItemTypes) (place : Placement)

def writeAttr {α : Type} [Raw α] (attr : AttrTypes) (value : α) : Bytes := attr.code :: write value

def writeStringAttr (attr : AttrTypes) (value : Bytes) : Bytes := attr.code :: writeString value

/-- `Item::serializeAttr`. -/
def serializeItemAttr (object : ItemObject) : Bytes :=
  let item := object.item
  let it := items.get item.id
  (if it.stackable || it.isFluidContainer || it.isSplash then writeAttr .count (UInt8.ofNat (item.getSubType items)) else []) ++
  ((if item.getCharges ≠ 0 then writeAttr .charges (UInt16.ofNat item.getCharges) else []) ++
  ((if it.moveable ∧ item.getActionId ≠ 0 then writeAttr .actionId (UInt16.ofNat item.getActionId) else []) ++
  ((if item.getStrAttr .text ≠ [] then writeStringAttr .text (item.getStrAttr .text) else []) ++
  ((if item.getIntAttr .date ≠ 0 then writeAttr .writtenDate (UInt32.ofInt (item.getIntAttr .date)) else []) ++
  ((if item.getStrAttr .writer ≠ [] then writeStringAttr .writtenBy (item.getStrAttr .writer) else []) ++
  ((if item.getStrAttr .description ≠ [] then writeStringAttr .desc (item.getStrAttr .description) else []) ++
  ((if item.hasAttribute .duration then writeAttr .duration (UInt32.ofInt (item.getIntAttr .duration)) else []) ++
  ((if item.getIntAttr .decayState = decayingTrue ∨ item.getIntAttr .decayState = decayingPending then
    writeAttr .decayingState (UInt8.ofInt (item.getIntAttr .decayState)) else []) ++
  ((if item.hasAttribute .name then writeStringAttr .name (item.getStrAttr .name) else []) ++
  ((if item.hasAttribute .article then writeStringAttr .article (item.getStrAttr .article) else []) ++
  ((if item.hasAttribute .pluralName then writeStringAttr .pluralName (item.getStrAttr .pluralName) else []) ++
  ((if item.hasAttribute .weight then writeAttr .weight (UInt32.ofInt (item.getIntAttr .weight)) else []) ++
  ((if item.hasAttribute .attack then writeAttr .attack (Int32.ofInt (item.getIntAttr .attack)) else []) ++
  ((if item.hasAttribute .attackSpeed then writeAttr .attackSpeed (UInt32.ofInt (item.getIntAttr .attackSpeed)) else []) ++
  ((if item.hasAttribute .defense then writeAttr .defense (Int32.ofInt (item.getIntAttr .defense)) else []) ++
  ((if item.hasAttribute .extraDefense then writeAttr .extraDefense (Int32.ofInt (item.getIntAttr .extraDefense)) else []) ++
  ((if item.hasAttribute .armor then writeAttr .armor (Int32.ofInt (item.getIntAttr .armor)) else []) ++
  ((if item.hasAttribute .hitChance then writeAttr .hitChance (Int8.ofInt (item.getIntAttr .hitChance)) else []) ++
  ((if item.hasAttribute .shootRange then writeAttr .shootRange (UInt8.ofInt (item.getIntAttr .shootRange)) else []) ++
  ((if item.hasAttribute .decayTo then writeAttr .decayTo (Int32.ofInt (item.getIntAttr .decayTo)) else []) ++
  (if item.hasAttribute .custom then
    AttrTypes.customAttributes.code :: serializeCustomAttributes place object.customAttributes else [])))))))))))))))))))))

/-- `serializeAttr` of the class of the item; a door writes nothing, and a bed nothing of what
other items write. -/
def serializeAttr (object : ItemObject) : Bytes :=
  match object.item.kind with
  | .door => []
  | .bed =>
    (if object.sleeperGUID ≠ 0 then writeAttr .sleeperGuid object.sleeperGUID else []) ++
    (if object.sleepStart ≠ 0 then writeAttr .sleepStart object.sleepStart.toUInt32 else [])
  | .teleport => serializeItemAttr items place object ++ writeAttr .teleDest object.destPos
  | _ => serializeItemAttr items place object

end

section

open Reader

/-- What reading an item asks of the rest of the server: whether a unique id is free, the name of
a player, and the address of a new map. -/
structure ItemServices where
  addUniqueItem : Nat → Bool
  getNameByGuid : UInt32 → Bytes
  newMap : Nat

def emptyServices : ItemServices := ⟨fun _ => true, fun _ => [], 0⟩

variable (items : ItemTypes) (services : ItemServices)

def ItemObject.setItem (object : ItemObject) (item : Item) : ItemObject := { object with item }

/-- The map after entries were put into it; the first of them creates it. -/
def ItemObject.setCustom (object : ItemObject) (map : CustomAttributeMap) : ItemObject :=
  { object with
    customAttributes := map
    item := if map.entries = [] ∨ object.item.hasAttribute .custom then object.item
      else { object.item with
        attributes := some (object.item.attributes.getD [] ++ [(.custom, .custom services.newMap)]) } }

/-- `Item::readAttr`. -/
def readItemAttr (object : ItemObject) : AttrTypes → Reader (Handled ItemObject)
  | .count | .runeCharges => do
    let count ← read UInt8
    pure (.more (object.setItem (object.item.setSubType items count.toNat)))
  | .actionId => do
    let actionId ← read UInt16
    pure (.more (object.setItem (object.item.setActionId actionId.toNat)))
  | .uniqueId => do
    let uniqueId ← read UInt16
    if object.item.hasAttribute .uniqueId ∨ services.addUniqueItem uniqueId.toNat = false then pure (.more object)
    else pure (.more (object.setItem (object.item.setIntAttr .uniqueId uniqueId.toNat)))
  | .text => do
    let text ← readString
    pure (.more (object.setItem (object.item.setStrAttr .text text)))
  | .writtenDate => do
    let writtenDate ← read UInt32
    pure (.more (object.setItem (object.item.setIntAttr .date writtenDate.toInt32.toInt)))
  | .writtenBy => do
    let writer ← readString
    pure (.more (object.setItem (object.item.setStrAttr .writer writer)))
  | .desc => do
    let desc ← readString
    pure (.more (object.setItem (object.item.setStrAttr .description desc)))
  | .charges => do
    let charges ← read UInt16
    pure (.more (object.setItem (object.item.setSubType items charges.toNat)))
  | .duration => do
    let duration ← read Int32
    pure (.more (object.setItem (object.item.setIntAttr .duration (max 0 duration.toInt))))
  | .decayingState => do
    let state ← read UInt8
    pure (.more (object.setItem (if state ≠ 0 then object.item.setIntAttr .decayState decayingPending else object.item)))
  | .name => do
    let name ← readString
    pure (.more (object.setItem (object.item.setStrAttr .name name)))
  | .article => do
    let article ← readString
    pure (.more (object.setItem (object.item.setStrAttr .article article)))
  | .pluralName => do
    let pluralName ← readString
    pure (.more (object.setItem (object.item.setStrAttr .pluralName pluralName)))
  | .weight => do
    let weight ← read UInt32
    pure (.more (object.setItem (object.item.setIntAttr .weight weight.toNat)))
  | .attack => do
    let attack ← read Int32
    pure (.more (object.setItem (object.item.setIntAttr .attack attack.toInt)))
  | .attackSpeed => do
    let attackSpeed ← read UInt32
    pure (.more (object.setItem (object.item.setIntAttr .attackSpeed attackSpeed.toNat)))
  | .defense => do
    let defense ← read Int32
    pure (.more (object.setItem (object.item.setIntAttr .defense defense.toInt)))
  | .extraDefense => do
    let extraDefense ← read Int32
    pure (.more (object.setItem (object.item.setIntAttr .extraDefense extraDefense.toInt)))
  | .armor => do
    let armor ← read Int32
    pure (.more (object.setItem (object.item.setIntAttr .armor armor.toInt)))
  | .hitChance => do
    let hitChance ← read Int8
    pure (.more (object.setItem (object.item.setIntAttr .hitChance hitChance.toInt)))
  | .shootRange => do
    let shootRange ← read UInt8
    pure (.more (object.setItem (object.item.setIntAttr .shootRange shootRange.toNat)))
  | .decayTo => do
    let decayTo ← read Int32
    pure (.more (object.setItem (object.item.setIntAttr .decayTo decayTo.toInt)))
  | .depotId => do
    let _ ← take 2
    pure (.more object)
  | .houseDoorId => do
    let _ ← take 1
    pure (.more object)
  | .sleeperGuid | .sleepStart => do
    let _ ← take 4
    pure (.more object)
  | .teleDest => do
    let _ ← take 5
    pure (.more object)
  | .containerItems => pure (.error object)
  | .customAttributes => do
    match ← readCustomAttributes object.customAttributes with
    | .more map | .last map => pure (.more (object.setCustom services map))
    | .error map => pure (.error (object.setCustom services map))

/-- `readAttr` of the class of the item. A depot locker leaves its items to `Item::readAttr`, which
refuses them. -/
def readAttr (object : ItemObject) (attr : AttrTypes) : Reader (Handled ItemObject) :=
  match object.item.kind, attr with
  | .container, .containerItems | .depotChest, .containerItems => do
    let serializationCount ← read UInt32
    pure (.last { object with serializationCount })
  | .depotLocker, .depotId => do
    let _ ← read UInt16
    pure (.more object)
  | .teleport, .teleDest => do
    let destPos ← read (UInt16 × UInt16 × UInt8)
    pure (.more { object with destPos })
  | .door, .houseDoorId => do
    let doorId ← read UInt8
    pure (.more (object.setItem (object.item.setIntAttr .doorId doorId.toNat)))
  | .bed, .sleeperGuid => do
    let guid ← read UInt32
    let name := services.getNameByGuid guid
    if guid ≠ 0 ∧ name ≠ [] then
      pure (.more { object.setItem (object.item.setStrAttr .description
        (name ++ " is sleeping there.".toUTF8.data.toList)) with sleeperGUID := guid })
    else pure (.more object)
  | .bed, .sleepStart => do
    let sleepStart ← read UInt32
    pure (.more { object with sleepStart := sleepStart.toUInt64 })
  | _, attr => readItemAttr items services object attr

/-- `readAttr` on the byte that was read. -/
def readAttrCode (object : ItemObject) (code : UInt8) : Reader (Handled ItemObject) :=
  match AttrTypes.ofCode code with
  | some attr => readAttr items services object attr
  | none => pure (.error object)

def unserializeAttr : ItemObject → Reader (Bool × ItemObject) :=
  readFields 0 (readAttrCode items services)

end

end Styller
