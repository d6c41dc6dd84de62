import Styller.Library.Fields

/-! Conditions of a player, as they are saved in his row and read back. -/

namespace Styller

open Library

/-- `ConditionType_t`; `other` stands for a number that is no member. -/
inductive ConditionType where
  | none
  | poison
  | fire
  | energy
  | bleeding
  | haste
  | paralyze
  | outfit
  | invisible
  | light
  | manaShield
  | inFight
  | drunk
  | exhaustWeapon
  | regeneration
  | soul
  | drown
  | muted
  | channelMutedTicks
  | yellTicks
  | attributes
  | freezing
  | dazzled
  | cursed
  | exhaustCombat
  | exhaustHeal
  | pacified
  | cliport
  | other (code : UInt32)
  deriving DecidableEq

namespace ConditionType

/-- The bit of a type. -/
def code : ConditionType → UInt32
  | none => 0
  | poison => 1
  | fire => 2
  | energy => 4
  | bleeding => 8
  | haste => 16
  | paralyze => 32
  | outfit => 64
  | invisible => 128
  | light => 256
  | manaShield => 512
  | inFight => 1024
  | drunk => 2048
  | exhaustWeapon => 4096
  | regeneration => 8192
  | soul => 16384
  | drown => 32768
  | muted => 65536
  | channelMutedTicks => 131072
  | yellTicks => 262144
  | attributes => 524288
  | freezing => 1048576
  | dazzled => 2097152
  | cursed => 4194304
  | exhaustCombat => 8388608
  | exhaustHeal => 16777216
  | pacified => 33554432
  | cliport => 67108864
  | other code => code

/-- The members, in their order. -/
def members : List ConditionType :=
  [none, poison, fire, energy, bleeding, haste, paralyze, outfit, invisible, light, manaShield, inFight,
    drunk, exhaustWeapon, regeneration, soul, drown, muted, channelMutedTicks, yellTicks, attributes,
    freezing, dazzled, cursed, exhaustCombat, exhaustHeal, pacified, cliport]

/-- `static_cast<ConditionType_t>`. -/
def ofCode (code : UInt32) : ConditionType :=
  (members.find? (fun type => type.code = code)).getD (other code)

end ConditionType

inductive ConditionAttr where
  | type
  | id
  | ticks
  | healthTicks
  | healthGain
  | manaTicks
  | manaGain
  | delayed
  | owner
  | intervalData
  | speedDelta
  | formulaMina
  | formulaMinb
  | formulaMaxa
  | formulaMaxb
  | lightColor
  | lightLevel
  | lightTicks
  | lightInterval
  | soulTicks
  | soulGain
  | skills
  | stats
  | outfit
  | periodDamage
  | isBuff
  | subId
  | isAggressive
  | disableDefense
  | specialSkills
  deriving DecidableEq

namespace ConditionAttr

/-- The members, in their order, from 1 on. -/
def members : List ConditionAttr :=
  [type, id, ticks, healthTicks, healthGain, manaTicks, manaGain, delayed, owner, intervalData, speedDelta,
    formulaMina, formulaMinb, formulaMaxa, formulaMaxb, lightColor, lightLevel, lightTicks, lightInterval,
    soulTicks, soulGain, skills, stats, outfit, periodDamage, isBuff, subId, isAggressive, disableDefense,
    specialSkills]

def code (attr : ConditionAttr) : UInt8 := UInt8.ofNat (members.idxOf attr + 1)

/-- The member that a byte stands for. -/
def ofCode (code : UInt8) : Option ConditionAttr := members.find? (fun attr => attr.code = code)

/-- `CONDITIONATTR_END`. -/
def endCode : UInt8 := 254

@[simp] theorem ofCode_code (attr : ConditionAttr) : ofCode attr.code = some attr := by
  cases attr <;> decide

theorem code_ne_endCode (attr : ConditionAttr) : attr.code ≠ endCode := by
  cases attr <;> decide

end ConditionAttr

structure IntervalInfo where
  timeLeft : Int32
  value : Int32
  interval : Int32

instance : Raw IntervalInfo :=
  Raw.via (fun info => (info.timeLeft, info.value, info.interval))
    (fun (timeLeft, value, interval) => { timeLeft, value, interval }) (fun _ => rfl)

/-- `Outfit_t`, with the byte that fills it up to an even size. -/
structure Outfit where
  lookType : UInt16 := 0
  lookTypeEx : UInt16 := 0
  lookHead : UInt8 := 0
  lookBody : UInt8 := 0
  lookLegs : UInt8 := 0
  lookFeet : UInt8 := 0
  lookAddons : UInt8 := 0
  padding : UInt8 := 0

instance : Raw Outfit :=
  Raw.via
    (fun outfit => (outfit.lookType, outfit.lookTypeEx, outfit.lookHead, outfit.lookBody, outfit.lookLegs,
      outfit.lookFeet, outfit.lookAddons, outfit.padding))
    (fun (lookType, lookTypeEx, lookHead, lookBody, lookLegs, lookFeet, lookAddons, padding) =>
      { lookType, lookTypeEx, lookHead, lookBody, lookLegs, lookFeet, lookAddons, padding })
    (fun _ => rfl)

structure ConditionDamage where
  delayed : Bool := false
  periodDamage : Int32 := 0
  damageList : List IntervalInfo := []

/-- `ConditionSpeed`; a float is its bit pattern. -/
structure ConditionSpeed where
  speedDelta : Int32
  mina : UInt32 := 0
  minb : UInt32 := 0
  maxa : UInt32 := 0
  maxb : UInt32 := 0

structure ConditionRegeneration where
  healthTicks : UInt32 := 1000
  manaTicks : UInt32 := 1000
  healthGain : UInt32 := 0
  manaGain : UInt32 := 0

structure ConditionSoul where
  soulTicks : UInt32 := 0
  soulGain : UInt32 := 0

/-- `ConditionAttributes`, with the indices that the reader counts up. -/
structure ConditionAttributes where
  skills : Vector Int32 7 := Vector.replicate 7 0
  specialSkills : Vector Int32 6 := Vector.replicate 6 0
  stats : Vector Int32 4 := Vector.replicate 4 0
  currentSkill : Nat := 0
  currentSpecialSkill : Nat := 0
  currentStat : Nat := 0
  disableDefense : Bool := false

structure ConditionLight where
  level : UInt8
  color : UInt8
  internalLightTicks : UInt32 := 0
  lightChangeInterval : UInt32 := 0

/-- The classes that derive from `Condition`, with what each of them saves. -/
inductive ConditionFields where
  | generic
  | invisible
  | drunk
  | damage (data : ConditionDamage)
  | speed (data : ConditionSpeed)
  | regeneration (data : ConditionRegeneration)
  | soul (data : ConditionSoul)
  | attributes (data : ConditionAttributes)
  | outfit (outfit : Outfit)
  | light (data : ConditionLight)

structure Condition where
  conditionType : ConditionType
  id : Int8
  ticks : Int32
  isBuff : Bool
  subId : UInt32
  aggressive : Bool
  fields : ConditionFields

namespace Condition

/-- `CONDITIONID_DEFAULT` and `CONDITIONID_COMBAT`. -/
def idDefault : Int8 := -1
def idCombat : Int8 := 0

def isPersistent (condition : Condition) : Bool :=
  if condition.ticks = -1 then false
  else condition.id = idDefault || condition.id = idCombat || condition.conditionType = .muted

/-- `Condition::createCondition`; a null pointer is `none`. -/
def createCondition (id : Int8) (type : ConditionType) (ticks param : Int32) (buff : Bool) (subId : UInt32)
    (aggressive : Bool) : Option Condition :=
  let create := fun fields => some
    { conditionType := type, id, ticks, isBuff := buff, subId, aggressive, fields : Condition }
  match type with
  | .poison | .fire | .energy | .drown | .freezing | .dazzled | .cursed | .bleeding =>
    -- the constructor of `ConditionDamage` has no ticks
    some { conditionType := type, id, ticks := 0, isBuff := buff, subId, aggressive, fields := .damage {} }
  | .haste | .paralyze => create (.speed { speedDelta := param })
  | .invisible => create .invisible
  | .outfit => create (.outfit {})
  | .light => create (.light { level := param.toUInt32.toUInt8, color := (param.toUInt32 >>> 8).toUInt8 })
  | .regeneration => create (.regeneration {})
  | .soul => create (.soul {})
  | .attributes => create (.attributes {})
  | .drunk => create .drunk
  | .inFight | .exhaustWeapon | .exhaustCombat | .exhaustHeal | .muted | .channelMutedTicks | .yellTicks
  | .pacified | .manaShield | .cliport => create .generic
  | .none | .other _ => none

def writeAttr {α : Type} [Raw α] (attr : ConditionAttr) (value : α) : Bytes := attr.code :: write value

/-- `Condition::serialize` of the base class. -/
def serializeBase (condition : Condition) : Bytes :=
  writeAttr .type condition.conditionType.code ++
  (writeAttr .id condition.id.toInt32.toUInt32 ++
  (writeAttr .ticks condition.ticks.toUInt32 ++
  (writeAttr .isBuff (if condition.isBuff then 1 else 0 : UInt8) ++
  (writeAttr .subId condition.subId ++
  writeAttr .isAggressive (if condition.aggressive then 1 else 0 : UInt8)))))

/-- What the `serialize` of each class writes after that of the base class. -/
def serializeFields : ConditionFields → Bytes
  | .generic | .invisible | .drunk => []
  | .damage data =>
    writeAttr .delayed (if data.delayed then 1 else 0 : UInt8) ++
    (writeAttr .periodDamage data.periodDamage ++
    data.damageList.flatMap (fun intervalInfo => writeAttr .intervalData intervalInfo))
  | .speed data =>
    writeAttr .speedDelta data.speedDelta ++
    (writeAttr .formulaMina data.mina ++
    (writeAttr .formulaMinb data.minb ++
    (writeAttr .formulaMaxa data.maxa ++
    writeAttr .formulaMaxb data.maxb)))
  | .regeneration data =>
    writeAttr .healthTicks data.healthTicks ++
    (writeAttr .healthGain data.healthGain ++
    (writeAttr .manaTicks data.manaTicks ++
    writeAttr .manaGain data.manaGain))
  | .soul data => writeAttr .soulGain data.soulGain ++ writeAttr .soulTicks data.soulTicks
  | .attributes data =>
    data.skills.toList.flatMap (fun skill => writeAttr .skills skill) ++
    (data.stats.toList.flatMap (fun stat => writeAttr .stats stat) ++
    (writeAttr .disableDefense data.disableDefense ++
    data.specialSkills.toList.flatMap (fun skill => writeAttr .specialSkills skill)))
  | .outfit outfit => writeAttr .outfit outfit
  | .light data =>
    writeAttr .lightColor data.color.toUInt32 ++
    (writeAttr .lightLevel data.level.toUInt32 ++
    (writeAttr .lightTicks data.internalLightTicks ++
    writeAttr .lightInterval data.lightChangeInterval))

def serialize (condition : Condition) : Bytes := serializeBase condition ++ serializeFields condition.fields

section

open Reader

/-- `Condition::unserializeProp` of the base class. -/
def unserializeBase (condition : Condition) : ConditionAttr → Reader (Handled Condition)
  | .type => do
    let value ← read Int32
    pure (.more { condition with conditionType := .ofCode value.toUInt32 })
  | .id => do
    let value ← read Int32
    pure (.more { condition with id := value.toInt8 })
  | .ticks => do
    let value ← read Int32
    pure (.more { condition with ticks := value })
  | .isBuff => do
    let value ← read UInt8
    pure (.more { condition with isBuff := value ≠ 0 })
  | .subId => do
    let value ← read UInt32
    pure (.more { condition with subId := value })
  | .isAggressive => do
    let value ← read UInt8
    pure (.more { condition with aggressive := value ≠ 0 })
  | _ => fail

/-- `unserializeProp` of each class. -/
def unserializeAttr (condition : Condition) (attr : ConditionAttr) : Reader (Handled Condition) :=
  match condition.fields with
  | .damage data => match attr with
    | .delayed => do
      let value ← read UInt8
      pure (.more { condition with fields := .damage { data with delayed := value ≠ 0 } })
    | .periodDamage => do
      let value ← read Int32
      pure (.more { condition with fields := .damage { data with periodDamage := value } })
    | .owner => do
      let _ ← take 4
      pure (.more condition)
    | .intervalData => do
      let damageInfo ← read IntervalInfo
      pure (.more { condition with
        ticks := if condition.ticks ≠ -1 then condition.ticks + damageInfo.interval else condition.ticks
        fields := .damage { data with damageList := data.damageList ++ [damageInfo] } })
    | _ => unserializeBase condition attr
  | .speed data => match attr with
    | .speedDelta => do
      let value ← read Int32
      pure (.more { condition with fields := .speed { data with speedDelta := value } })
    | .formulaMina => do
      let value ← read UInt32
      pure (.more { condition with fields := .speed { data with mina := value } })
    | .formulaMinb => do
      let value ← read UInt32
      pure (.more { condition with fields := .speed { data with minb := value } })
    | .formulaMaxa => do
      let value ← read UInt32
      pure (.more { condition with fields := .speed { data with maxa := value } })
    | .formulaMaxb => do
      let value ← read UInt32
      pure (.more { condition with fields := .speed { data with maxb := value } })
    | _ => unserializeBase condition attr
  | .regeneration data => match attr with
    | .healthTicks => do
      let value ← read UInt32
      pure (.more { condition with fields := .regeneration { data with healthTicks := value } })
    | .healthGain => do
      let value ← read UInt32
      pure (.more { condition with fields := .regeneration { data with healthGain := value } })
    | .manaTicks => do
      let value ← read UInt32
      pure (.more { condition with fields := .regeneration { data with manaTicks := value } })
    | .manaGain => do
      let value ← read UInt32
      pure (.more { condition with fields := .regeneration { data with manaGain := value } })
    | _ => unserializeBase condition attr
  | .soul data => match attr with
    | .soulGain => do
      let value ← read UInt32
      pure (.more { condition with fields := .soul { data with soulGain := value } })
    | .soulTicks => do
      let value ← read UInt32
      pure (.more { condition with fields := .soul { data with soulTicks := value } })
    | _ => unserializeBase condition attr
  | .attributes data => match attr with
    | .skills => do
      let value ← read Int32
      pure (.more { condition with fields := .attributes { data with
        skills := data.skills.setIfInBounds data.currentSkill value
        currentSkill := data.currentSkill + 1 } })
    | .specialSkills => do
      let value ← read Int32
      pure (.more { condition with fields := .attributes { data with
        specialSkills := data.specialSkills.setIfInBounds data.currentSpecialSkill value
        currentSpecialSkill := data.currentSpecialSkill + 1 } })
    | .stats => do
      let value ← read Int32
      pure (.more { condition with fields := .attributes { data with
        stats := data.stats.setIfInBounds data.currentStat value
        currentStat := data.currentStat + 1 } })
    | .disableDefense => do
      let value ← read Bool
      pure (.more { condition with fields := .attributes { data with disableDefense := value } })
    | _ => unserializeBase condition attr
  | .outfit _ => match attr with
    | .outfit => do
      let value ← read Outfit
      pure (.more { condition with fields := .outfit value })
    | _ => unserializeBase condition attr
  | .light data => match attr with
    | .lightColor => do
      let value ← read UInt8
      pure (.more { condition with fields := .light { data with color := value } })
    | .lightLevel => do
      let value ← read UInt8
      pure (.more { condition with fields := .light { data with level := value } })
    | .lightTicks => do
      let value ← read UInt32
      pure (.more { condition with fields := .light { data with internalLightTicks := value } })
    | .lightInterval => do
      let value ← read UInt32
      pure (.more { condition with fields := .light { data with lightChangeInterval := value } })
    | _ => unserializeBase condition attr
  | .generic | .invisible | .drunk => unserializeBase condition attr

/-- `unserializeProp` on the byte that was read. -/
def unserializeProp (condition : Condition) (attr : UInt8) : Reader (Handled Condition) :=
  match ConditionAttr.ofCode attr with
  | some attr => unserializeAttr condition attr
  | none => fail

def unserialize : Condition → Reader (Bool × Condition) :=
  readFields ConditionAttr.endCode unserializeProp

/-- The byte of an attribute, or nothing. -/
def expect (attr : ConditionAttr) : Reader Unit := do
  let value ← read UInt8
  if value = attr.code then pure () else fail

/-- `Condition::createCondition` from a stream. -/
def createFrom : Reader Condition := do
  expect .type
  let type ← read UInt32
  expect .id
  let id ← read UInt32
  expect .ticks
  let ticks ← read UInt32
  expect .isBuff
  let buff ← read UInt8
  expect .subId
  let subId ← read UInt32
  expect .isAggressive
  let aggressive ← read UInt8
  match createCondition id.toUInt8.toInt8 (.ofCode type) ticks.toInt32 0 (buff ≠ 0) subId (aggressive ≠ 0) with
  | some condition => pure condition
  | none => fail

/-- One round of the loop of `loadPlayer`; a condition that cannot be read to its end is
deleted. -/
def loadCondition : Reader (Option Condition) := do
  let condition ← createFrom
  let (complete, condition) ← unserialize condition
  pure (if complete then some condition else none)

end

/-- What `savePlayer` makes of the conditions. -/
def saveConditions (conditions : List Condition) : Bytes :=
  (conditions.filter isPersistent).flatMap (fun condition => condition.serialize ++ [ConditionAttr.endCode])

/-- `storedConditionList` after the loop of `loadPlayer`, and what is left of the blob. Each
condition is pushed to the front. -/
def loadConditions (blob : Bytes) : List Condition × Bytes :=
  let (conditions, rest) := repeated loadCondition blob
  ((conditions.filterMap (·)).reverse, rest)

end Condition

end Styller
