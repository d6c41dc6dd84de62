import Styller.Item.ReturnValue

/-! The type table of items.  Every stackable type of the game data is a plain
thing: it belongs to no item group, is never drawn on top of a tile, cannot be
hung on a wall and is created under its own id.  Coins are stackable, and the
worth of a type is the key under which the currency map holds it.  The floor change
of a type has no other tile flags in it.  `ItemTypes` carries these facts. -/

namespace Styller

/-- `itemgroup_t`, without the members it marks as deprecated categories. -/
inductive ItemGroup where
  | none
  | ground
  | container
  | charges
  | splash
  | fluid
  | deprecated
  deriving DecidableEq, Inhabited

/-- `ItemTypes_t`. -/
inductive ItemTypeKind where
  | none
  | depot
  | mailbox
  | trashHolder
  | container
  | door
  | magicField
  | teleport
  | bed
  | key
  | rune
  deriving DecidableEq, Inhabited

inductive WeaponType where
  | none
  | sword
  | club
  | axe
  | shield
  | distance
  | wand
  | ammo
  deriving DecidableEq, Inhabited

/-- `tileflags_t`: one member for each bit. -/
inductive TileFlag where
  | floorChangeDown
  | floorChangeNorth
  | floorChangeSouth
  | floorChangeEast
  | floorChangeWest
  | floorChangeSouthAlt
  | floorChangeEastAlt
  | protectionZone
  | noPvpZone
  | noLogout
  | pvpZone
  | teleport
  | magicField
  | mailbox
  | trashHolder
  | bed
  | depot
  | blockSolid
  | blockPath
  | immovableBlockSolid
  | immovableBlockPath
  | immovableNoFieldBlockPath
  | noFieldBlockPath
  | supportsHangable
  deriving DecidableEq

/-- The members of `TILESTATE_FLOORCHANGE`. -/
def TileFlag.isFloorChange : TileFlag → Bool
  | .floorChangeDown | .floorChangeNorth | .floorChangeSouth | .floorChangeEast
  | .floorChangeWest | .floorChangeSouthAlt | .floorChangeEastAlt => true
  | _ => false

/-- The `SLOTP_*` bits of a `slotPosition` mask. -/
structure SlotPosition where
  head : Bool := false
  necklace : Bool := false
  backpack : Bool := false
  armor : Bool := false
  right : Bool := true
  left : Bool := true
  legs : Bool := false
  feet : Bool := false
  ring : Bool := false
  ammo : Bool := false
  twoHand : Bool := false
  deriving DecidableEq, Inhabited

structure ItemType where
  group : ItemGroup := .none
  type : ItemTypeKind := .none
  id : Nat := 0
  clientId : UInt16 := 0
  stackable : Bool := false
  weight : Nat := 0
  decayTimeMin : Nat := 0
  decayTimeMax : Nat := 0
  charges : Nat := 0
  decayTo : Int := -1
  worth : Nat := 0
  maxItems : Nat := 8
  slotPosition : SlotPosition := {}
  weaponType : WeaponType := .none
  stackSize : Nat := 100
  floorChange : List TileFlag := []
  alwaysOnTopOrder : Nat := 0
  hasHeight : Bool := false
  blockSolid : Bool := false
  blockPathFind : Bool := false
  ignoreBlocking : Bool := false
  replaceable : Bool := true
  pickupable : Bool := false
  moveable : Bool := false
  alwaysOnTop : Bool := false
  isVertical : Bool := false
  isHorizontal : Bool := false
  isHangable : Bool := false
  stopTime : Bool := false
  forceSerialize : Bool := false
  deriving DecidableEq, Inhabited

namespace ItemType

def isGroundTile (it : ItemType) : Bool := it.group = .ground
def isContainer (it : ItemType) : Bool := it.group = .container
def isSplash (it : ItemType) : Bool := it.group = .splash
def isFluidContainer (it : ItemType) : Bool := it.group = .fluid
def isDoor (it : ItemType) : Bool := it.type = .door
def isMagicField (it : ItemType) : Bool := it.type = .magicField
def isTeleport (it : ItemType) : Bool := it.type = .teleport
def isDepot (it : ItemType) : Bool := it.type = .depot
def isMailbox (it : ItemType) : Bool := it.type = .mailbox
def isTrashHolder (it : ItemType) : Bool := it.type = .trashHolder
def isBed (it : ItemType) : Bool := it.type = .bed

/-- What the game data promises about a stackable type. -/
structure Plain (it : ItemType) : Prop where
  group : it.group = .none
  type : it.type = .none ∨ it.type = .key ∨ it.type = .rune
  notOnTop : it.alwaysOnTop = false
  notHangable : it.isHangable = false

end ItemType

/-- The ids that `Item::CreateItem` replaces by another id: magic rings, soft
boots and the death ring. -/
def renamedItem (type : Nat) : Option Nat :=
  if 2210 ≤ type ∧ type ≤ 2212 then some (type - 3)
  else if type = 2215 ∨ type = 2216 then some (type - 2)
  else if 2202 ≤ type ∧ type ≤ 2206 then some (type - 37)
  else if type = 2640 then some 6132
  else if type = 6301 then some 6300
  else none

structure ItemTypes where
  get : Nat → ItemType
  currencyItems : List (Nat × Nat)
  stackable_plain : ∀ id, (get id).stackable = true → (get id).Plain
  stackable_id : ∀ id, (get id).stackable = true →
    (get id).id = id ∧ id ≠ 0 ∧ renamedItem id = none
  stackSize_lt : ∀ id, (get id).stackSize < 256
  floorChange_flags : ∀ id, ∀ flag ∈ (get id).floorChange, flag.isFloorChange = true
  currency_type : ∀ entry ∈ currencyItems,
    (get entry.2).stackable = true ∧ (get entry.2).worth = entry.1
  worth_currency : ∀ id, (get id).worth ≠ 0 → ((get id).worth, id) ∈ currencyItems

end Styller
