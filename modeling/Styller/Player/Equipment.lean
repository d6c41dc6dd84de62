import Styller.Condition.Ledger

/-! What items do to a player in whose slots they are: `EquipItem` and `DeEquipItem` with `transformItem`, which calls them and is
called by them. -/

namespace Styller.Equipment

open Library Conditions

/-- The slots from `CONST_SLOT_HEAD` to `CONST_SLOT_AMMO`. -/
abbrev Slot := Fin 10

structure Abilities where
  skills : Fin 7 → Int32 := 0
  stats : Fin 4 → Int32 := 0
  statsPercent : Fin 4 → Int32 := 0
  speed : Int32 := 0
  conditionSuppressions : BitVec 32 := 0

structure ItemType where
  id : Nat
  type : Nat := 0
  group : Nat := 0
  alwaysOnTop : Bool := false
  stackable : Bool := false
  hasSubType : Bool := false
  /-- Its items have charges. -/
  charges : Bool := false
  defaultSubtype : Int := 1
  decayTo : Int := -1
  transformEquipTo : Nat := 0
  transformDeEquipTo : Nat := 0
  abilities : Option Abilities := none

structure MoveEvent where
  wieldInfo : Nat := 0
  hasVocationEquipSet : Nat → Bool := fun _ => true
  reqLevel : Nat := 0
  reqMagLevel : Nat := 0
  premium : Bool := false

structure Table where
  items : Nat → ItemType
  /-- `getEvent` of `MOVE_EVENT_EQUIP`. -/
  equip : Nat → Slot → Option MoveEvent
  /-- There is an event of `MOVE_EVENT_DEEQUIP`. -/
  deEquip : Nat → Slot → Bool
  /-- A stat times a percentage less a hundred, over a hundred. -/
  percent : Int32 → Int32 → Int32

/-- Where an item is: nowhere, in a slot of the player, or somewhere else. -/
inductive Parent where
  | none
  | player
  | elsewhere
  deriving DecidableEq

structure Item where
  id : Nat
  subType : Int := 1
  hasCharges : Bool := false
  parent : Parent

structure Player where
  /-- The items by their addresses, and the next free address. -/
  items : Nat → Item
  next : Nat
  inventory : Slot → Option Nat
  inventoryAbilities : Slot → Bool
  vars : Modifiers
  conditionSuppressions : BitVec 32
  baseSpeed : UInt32
  /-- `getDefaultStats` -/
  defaultStats : Fin 4 → Int32
  level : Nat
  magicLevel : Nat
  vocationId : Nat
  isPremium : Bool
  /-- `PlayerFlag_IgnoreWeaponCheck` -/
  ignoreWeaponCheck : Bool

namespace Player

def setItemAbility (slot : Slot) (enabled : Bool) (player : Player) : Player :=
  { player with inventoryAbilities := Function.update player.inventoryAbilities slot enabled }

def setItem (address : Nat) (item : Item) (player : Player) : Player :=
  { player with items := Function.update player.items address item }

def setSlot (slot : Slot) (address : Option Nat) (player : Player) : Player :=
  { player with inventory := Function.update player.inventory slot address }

/-- `Game::changeSpeed` -/
def changeSpeed (varSpeedDelta : Int32) (player : Player) : Player :=
  { player with
    vars := (Conditions.changeSpeed { vars := player.vars, baseSpeed := player.baseSpeed } varSpeedDelta).vars }

def addConditionSuppressions (conditions : BitVec 32) (player : Player) : Player :=
  { player with conditionSuppressions := player.conditionSuppressions ||| conditions }

def removeConditionSuppressions (conditions : BitVec 32) (player : Player) : Player :=
  { player with conditionSuppressions := player.conditionSuppressions &&& ~~~conditions }

def getThingIndex (address : Nat) (player : Player) : Option Slot :=
  (List.finRange 10).find? fun slot => player.inventory slot == some address

def createItem (item : Item) (player : Player) : Player × Nat :=
  ({ player.setItem player.next item with next := player.next + 1 }, player.next)

end Player

variable (table : Table)

/-- The checks of `EquipItem`. -/
def MoveEvent.allows (event : MoveEvent) (player : Player) : Bool :=
  player.ignoreWeaponCheck || event.wieldInfo == 0 ||
    event.hasVocationEquipSet player.vocationId && decide (event.reqLevel ≤ player.level) &&
      decide (event.reqMagLevel ≤ player.magicLevel) && (!event.premium || player.isPremium)

/-- The share of a stat that `statsPercent` gives. -/
def statShare (defaultStats : Fin 4 → Int32) (abilities : Abilities) (stat : Fin 4) : Int32 :=
  table.percent (defaultStats stat) (abilities.statsPercent stat)

/-- What `EquipItem` does with the abilities of the type. -/
def applyAbilities (abilities : Abilities) (player : Player) : Player :=
  let player := if abilities.speed ≠ 0 then player.changeSpeed abilities.speed else player
  let player :=
    if abilities.conditionSuppressions ≠ 0 then player.addConditionSuppressions abilities.conditionSuppressions else player
  let skills := fun i => if abilities.skills i ≠ 0 then player.vars.skills i + abilities.skills i else player.vars.skills i
  let stats := fun i => if abilities.stats i ≠ 0 then player.vars.stats i + abilities.stats i else player.vars.stats i
  let stats := fun i =>
    if abilities.statsPercent i ≠ 0 then stats i + statShare table player.defaultStats abilities i else stats i
  { player with vars := { player.vars with skills, stats } }

/-- What `DeEquipItem` does with them. -/
def undoAbilities (abilities : Abilities) (player : Player) : Player :=
  let player := if abilities.speed ≠ 0 then player.changeSpeed (-abilities.speed) else player
  let player :=
    if abilities.conditionSuppressions ≠ 0 then player.removeConditionSuppressions abilities.conditionSuppressions else player
  let skills := fun i => if abilities.skills i ≠ 0 then player.vars.skills i + -abilities.skills i else player.vars.skills i
  let stats := fun i => if abilities.stats i ≠ 0 then player.vars.stats i + -abilities.stats i else player.vars.stats i
  let stats := fun i =>
    if abilities.statsPercent i ≠ 0 then stats i + -statShare table player.defaultStats abilities i else stats i
  { player with vars := { player.vars with skills, stats } }

inductive Transformation where
  /-- The item stays as it is. -/
  | stays
  /-- It is taken out of the slot and added again, which a player ignores. -/
  | dropped
  /-- It is removed. -/
  | removed
  /-- A new item takes its place. -/
  | replaced (newId : Nat) (newCount : Int)
  /-- It becomes one of the new type. -/
  | updated (newCount : Int)

/-- The branches of `transformItem`, but for those that look at the place of the item. -/
def transformation (item : Item) (newId : Nat) (newCount : Int) : Transformation :=
  if item.id = newId ∧ (newCount = -1 ∨ newCount = item.subType ∧ newCount ≠ 0) then .stays
  else
    let newType := table.items newId
    let curType := table.items item.id
    if newType.id = 0 then .stays
    else if curType.alwaysOnTop ≠ newType.alwaysOnTop then .dropped
    else if curType.type = newType.type then
      if newCount = 0 ∧ (curType.stackable ∨ item.hasCharges) then
        if curType.stackable then .removed
        else
          let newItemId := if curType.id = newType.id then curType.decayTo else newId
          if newItemId < 0 then .removed
          else if newItemId ≠ newId then
            if (table.items newItemId.toNat).id = 0 then .stays else .replaced newItemId.toNat 1
          -- `transformItem` once more, without a count
          else if item.id = newId then .stays
          else .updated (-1)
      else .updated newCount
    else .replaced newId newCount

/-- What the functions call again: `transformItem` without a count. -/
abbrev Nested := Player → Nat → Nat → Option Player

section

variable (nested : Nested) (player : Player) (address : Nat) (slot : Slot)

/-- `onPlayerEquip` with `EquipItem`. -/
def onPlayerEquip : Option Player :=
  let item := player.items address
  match table.equip item.id slot with
  | none => some player
  | some moveEvent =>
    if ¬ moveEvent.allows player then some player
    else if player.inventoryAbilities slot then some player
    else
      let it := table.items item.id
      let changed :=
        if it.transformEquipTo ≠ 0 then nested player address it.transformEquipTo else some (player.setItemAbility slot true)
      changed.map (it.abilities.elim id (applyAbilities table))

/-- `onPlayerDeEquip` with `DeEquipItem`. -/
def onPlayerDeEquip : Option Player :=
  let item := player.items address
  if ¬ table.deEquip item.id slot then some (player.setItemAbility slot false)
  else if ¬ player.inventoryAbilities slot then some player
  else
    let player := player.setItemAbility slot false
    let it := table.items item.id
    let changed := if it.transformDeEquipTo ≠ 0 then nested player address it.transformDeEquipTo else some player
    changed.map (it.abilities.elim id (undoAbilities table))

/-- An item that leaves its slot, and the event of that. -/
def takeFrom (parent : Parent) : Option Player :=
  onPlayerDeEquip table nested ((player.setSlot slot none).setItem address { player.items address with parent }) address slot

/-- `updateThing` with the type that the item has by then. -/
def updateThing (curId newId : Nat) (newCount : Int) : Player :=
  if player.getThingIndex address = none then player
  else
    let item := player.items address
    let subType :=
      if newCount ≠ -1 ∧ (table.items newId).hasSubType then newCount
      else if curId ≠ newId ∧ (table.items newId).group ≠ (table.items curId).group then (table.items newId).defaultSubtype
      else item.subType
    player.setItem address { item with id := if curId ≠ newId then newId else item.id, subType }

/-- `Item::CreateItem` for a slot. -/
def newItem (newId : Nat) (newCount : Int) : Item where
  id := newId
  subType := if newCount = -1 then (table.items newId).defaultSubtype else newCount
  hasCharges := (table.items newId).charges
  parent := .player

/-- `transformItem` of an item in a slot, with the notifications of the slot. -/
def transformInSlot (newId : Nat) (newCount : Int) : Option Player :=
  let item := player.items address
  match transformation table item newId newCount with
  | .stays => some player
  | .dropped =>
    (takeFrom table nested player address slot .none).map fun player =>
      player.setItem address { player.items address with id := newId }
  | .removed => takeFrom table nested player address slot .none
  | .replaced newId newCount =>
    let (player, newAddress) := player.createItem (newItem table newId newCount)
    (onPlayerEquip table nested (player.setSlot slot (some newAddress)) newAddress slot).bind fun player =>
      onPlayerDeEquip table nested (player.setItem address { player.items address with parent := .none }) address slot
  | .updated newCount =>
    (onPlayerDeEquip table nested player address slot).bind fun player =>
      onPlayerEquip table nested (updateThing table player address item.id newId newCount) address slot

end

/-- `Game::transformItem`; there is no answer when the calls go deeper than the stack. -/
def transformItem : Nat → Player → Nat → Nat → Int → Option Player
  | 0, _, _, _, _ => none
  | fuel + 1, player, address, newId, newCount =>
    let item := player.items address
    match item.parent with
    | .none => some player
    -- items elsewhere have no effect on the player
    | .elsewhere => some (player.setItem address { item with id := newId })
    | .player =>
      match player.getThingIndex address with
      | none => some player
      | some slot =>
        let nested := fun player address newId => transformItem fuel player address newId (-1)
        transformInSlot table nested player address slot newId newCount

/-- What happens to the slots and to the player's own values. -/
inductive Label where
  /-- An item arrives in an empty slot. -/
  | enter (id : Nat) (subType : Int) (hasCharges : Bool) (slot : Slot)
  /-- The item of a slot goes somewhere else, or away. -/
  | leave (slot : Slot) (parent : Parent)
  /-- The item of a slot goes to another one. -/
  | shift (slot other : Slot)
  /-- A part of a stack goes away. -/
  | part (slot : Slot) (count : Int)
  /-- More of a stack arrives, or the player logs in with the item. -/
  | equip (slot : Slot)
  /-- A script transforms the item of a slot, or it decays. -/
  | transform (slot : Slot) (newId : Nat) (newCount : Int)
  /-- Levels, vocations and premium time come and go. -/
  | base (baseSpeed : UInt32) (defaultStats : Fin 4 → Int32) (level magicLevel vocationId : Nat) (isPremium : Bool)

section

variable (fuel : Nat)

def nestedTransform : Nested := fun player address newId => transformItem table fuel player address newId (-1)

/-- What a label does to a player; `none` where the calls go deeper than the stack. -/
def act (player : Player) : Label → Option Player
  | .enter id subType hasCharges slot =>
    if player.inventory slot = none then
      let (player, address) := player.createItem { id, subType, hasCharges, parent := .player }
      onPlayerEquip table (nestedTransform table fuel) (player.setSlot slot (some address)) address slot
    else some player
  | .leave slot parent =>
    match player.inventory slot with
    | none => some player
    | some address => if parent = .player then some player else takeFrom table (nestedTransform table fuel) player address slot parent
  | .shift slot other =>
    match player.inventory slot with
    | none => some player
    | some address =>
      if player.inventory other = none then
        let player := (player.setSlot slot none).setSlot other (some address)
        (onPlayerDeEquip table (nestedTransform table fuel) player address slot).bind fun player =>
          onPlayerEquip table (nestedTransform table fuel) player address other
      else some player
  | .part slot count =>
    match player.inventory slot with
    | none => some player
    | some address =>
      onPlayerDeEquip table (nestedTransform table fuel)
        (player.setItem address { player.items address with subType := count }) address slot
  | .equip slot =>
    match player.inventory slot with
    | none => some player
    | some address => onPlayerEquip table (nestedTransform table fuel) player address slot
  | .transform slot newId newCount =>
    match player.inventory slot with
    | none => some player
    | some address => transformItem table fuel player address newId newCount
  | .base baseSpeed defaultStats level magicLevel vocationId isPremium =>
    some { player with baseSpeed, defaultStats, level, magicLevel, vocationId, isPremium }

def step (state : Option Player) (label : Label) : Option Player := state.bind fun player => act table fuel player label

end

end Styller.Equipment
