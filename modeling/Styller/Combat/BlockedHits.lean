import Styller.Combat.Damage
import Styller.Tile.Stack

/-! `Combat::doTargetCombat` and `Combat::doAreaCombat`: which conditions a hit leaves on its target, and how it was
blocked. -/

namespace Styller.Combat

open Library

abbrev ConditionType := Nat

/-- `Condition`, as far as a combat hands it out. -/
structure Condition where
  type : ConditionType
  /-- `CONDITION_PARAM_OWNER`. -/
  owner : Option CreatureId := none
  deriving DecidableEq

structure SpecialSkill where
  chance : Int := 0
  amount : Int := 0

structure Combatant extends Creature where
  isMonster : Bool := false
  isInGhostMode : Bool := false
  blackSkull : Bool := false
  /-- `isImmune` of a combat type. -/
  immunity : CombatType → Bool := fun _ => false
  /-- `isImmune` of a condition type. -/
  conditionImmunity : ConditionType → Bool := fun _ => false
  blockCount : Nat := 0
  canUseDefense : Bool := true
  defense : Int := 0
  armor : Int := 0
  /-- `elementMap` of a monster. -/
  elementMap : CombatType → Int := fun _ => 0
  /-- What the items of a player leave of a damage; the second argument says whether it is of a field. -/
  absorb : CombatType → Bool → Int → Int := fun _ _ damage => damage
  criticalHit : SpecialSkill := {}
  lifeLeech : SpecialSkill := {}
  manaLeech : SpecialSkill := {}

structure World where
  combatant : CreatureId → Combatant
  /-- How many random numbers have been drawn. -/
  draws : Nat := 0

/-- What lies outside the functions: random numbers, roundings and what conditions do to a creature. -/
structure Env where
  /-- `uniform_random` and `normal_random`: a draw between two bounds. -/
  random : Nat → Int → Int → Int
  /-- `std::round` of a number times a percentage. -/
  percent : Int → Int → Int
  /-- `std::ceil` of the part of a damage that is leeched, by the amount and the number of targets. -/
  leech : Int → Int → Nat → Int
  /-- `getSkullClient` is `SKULL_NONE`. -/
  seesNoSkull : CreatureId → CreatureId → Bool
  /-- `canDoCombat` of two creatures says `RETURNVALUE_NOERROR`. -/
  canDoCombat : Option CreatureId → CreatureId → Bool
  addCombatCondition : Condition → Combatant → Combatant
  /-- `removeCondition` for `CONDITION_PARALYZE`, else `removeCombatCondition`. -/
  dispel : ConditionType → Combatant → Combatant

structure CombatParams where
  conditionList : List Condition := []
  /-- `onTargetCombat`. -/
  targetCallback : Option (Option CreatureId → CreatureId → World → World) := none
  itemId : Nat := 0
  dispelType : ConditionType := 0
  blockedByArmor : Bool := false
  blockedByShield : Bool := false
  targetCasterOrTopMost : Bool := false
  aggressive : Bool := true
  ignoreResistances : Bool := false

/-- What `blockHit` returns, what it leaves of the damage and of the target, and the draws. -/
structure Block where
  blockType : BlockType
  damage : Int
  target : Combatant
  draws : Nat

section
variable (env : Env) (target : Combatant) (draws : Nat) (combatType : CombatType) (damage : Int)
  (checkDefense checkArmor : Bool)

/-- The defense in `Creature::blockHit`, if there is any. -/
def useDefense (hasDefense : Bool) : Block :=
  if checkDefense && hasDefense && target.canUseDefense then
    let damage := toInt32 (damage - env.random draws (target.defense.tdiv 2) target.defense)
    if damage ≤ 0 then ⟨.defense, 0, target, draws + 1⟩ else ⟨.none, damage, target, draws + 1⟩
  else ⟨.none, damage, target, draws⟩

/-- The armor in `Creature::blockHit`. -/
def useArmor (block : Block) : Block :=
  if checkArmor && block.blockType ≠ .defense then
    let (damage, draws) :=
      if target.armor > 3 then
        (toInt32 (block.damage -
          env.random block.draws (target.armor.tdiv 2) (target.armor - (target.armor.tmod 2 + 1))), block.draws + 1)
      else if target.armor > 0 then (toInt32 (block.damage - 1), block.draws)
      else (block.damage, block.draws)
    if damage ≤ 0 then { block with blockType := .armor, damage := 0, draws }
    else { block with damage, draws }
  else block

/-- `Creature::blockHit`. -/
def creatureBlockHit : Block :=
  if target.immunity combatType then ⟨.immunity, 0, target, draws⟩
  else if combatType ≠ .healing && (checkDefense || checkArmor) then
    let hasDefense : Bool := target.blockCount > 0
    let target := { target with blockCount := target.blockCount - 1 }
    useArmor env target checkArmor (useDefense env target draws damage checkDefense hasDefense)
  else ⟨.none, damage, target, draws⟩

variable (field ignoreResistances : Bool)

/-- `Monster::blockHit` and `Player::blockHit` on top of it. -/
def blockHit : Block :=
  let block := creatureBlockHit env target draws combatType damage checkDefense checkArmor
  if target.isMonster then
    if block.damage ≠ 0 ∧ target.elementMap combatType ≠ 0 then
      let damage := env.percent block.damage (100 - target.elementMap combatType)
      if damage ≤ 0 then { block with blockType := .armor, damage := 0 } else { block with damage }
    else block
  else if target.isPlayer then
    if block.blockType ≠ .none then block
    else if block.damage ≤ 0 then { block with blockType := .armor, damage := 0 }
    else
      let damage := if ignoreResistances then block.damage else target.absorb combatType field block.damage
      if damage ≤ 0 then { block with blockType := .armor, damage := 0 } else { block with damage }
  else block

/-- One part of a damage in `combatBlockHit`. -/
def blockPart (part : DamagePart) : Block × DamagePart :=
  if part.type ≠ .none then
    let block := blockHit env target draws part.type (toInt32 part.value.natAbs) checkDefense checkArmor field ignoreResistances
    (block, ⟨part.type, if part.type ≠ .healing then -block.damage else block.damage⟩)
  else (⟨.none, part.value, target, draws⟩, part)

end

structure BlockedHit where
  blocked : Bool
  damage : CombatDamage
  target : Combatant
  draws : Nat

/-- `Game::combatBlockHit`. -/
def combatBlockHit (env : Env) (params : CombatParams) (damage : CombatDamage) (target : Combatant) (draws : Nat) :
    BlockedHit :=
  if damage.primary.type = .none ∧ damage.secondary.type = .none then ⟨true, damage, target, draws⟩
  else if target.isPlayer && target.isInGhostMode then ⟨true, damage, target, draws⟩
  else
    let (first, primary) := blockPart env target draws params.blockedByShield params.blockedByArmor (params.itemId ≠ 0)
      params.ignoreResistances damage.primary
    let (second, secondary) := blockPart env first.target first.draws false false (params.itemId ≠ 0)
      params.ignoreResistances damage.secondary
    ⟨first.blockType ≠ .none && second.blockType ≠ .none,
      { damage with primary, secondary, blockType := first.blockType }, second.target, second.draws⟩

/-- What `combatChangeMana` returns, what it leaves, and how its own call of `blockHit` was blocked. -/
structure ManaOutcome where
  success : Bool
  damage : CombatDamage
  target : Combatant
  draws : Nat
  blockType : BlockType := .none

section
variable (env : Env) (attackerPlayer : Option Attacker) (target : Combatant) (damage : CombatDamage) (draws : Nat)

def scriptedMana : CombatDamage := { target.manaChange.foldl executeManaChange damage with origin := .none }

/-- `combatChangeMana`, with the call of itself behind the scripts. -/
def changeMana (again : Combatant → CombatDamage → Nat → ManaOutcome) : ManaOutcome :=
  if !target.isPlayer then ⟨true, damage, target, draws, .none⟩
  else if damage.total > 0 then
    if target.refuses attackerPlayer then ⟨false, damage, target, draws, .none⟩
    else if damage.origin ≠ .none ∧ target.manaChange ≠ [] then again target (scriptedMana target damage) draws
    else ⟨true, damage, { target with toCreature := target.toCreature.changeMana damage.total }, draws, .none⟩
  else if !target.isAttackable then ⟨false, damage, target, draws, .none⟩
  else if target.refuses attackerPlayer then ⟨false, damage, target, draws, .none⟩
  else
    let manaLoss := min (toInt32 target.mana) (toInt32 (-damage.total))
    let block := blockHit env target draws .manaDrain manaLoss false false false false
    if block.blockType ≠ .none then ⟨false, damage, block.target, block.draws, block.blockType⟩
    else if block.damage ≤ 0 then ⟨true, damage, block.target, block.draws, .none⟩
    else if damage.origin ≠ .none ∧ target.manaChange ≠ [] then
      again block.target (scriptedMana block.target damage) block.draws
    else
      ⟨true, damage, { block.target with toCreature := block.target.toCreature.drainMana block.damage }, block.draws, .none⟩

/-- `Game::combatChangeMana`: the second call has no origin, so that there is no third one. -/
def combatChangeMana : ManaOutcome :=
  changeMana env attackerPlayer target damage draws fun target damage draws =>
    changeMana env attackerPlayer target damage draws fun target damage draws => ⟨false, damage, target, draws, .none⟩

end

/-- A hit by defense or by immunity: the block type is neither `BLOCK_NONE` nor `BLOCK_ARMOR`. -/
def BlockType.stops (blockType : BlockType) : Bool := blockType ≠ .none && blockType ≠ .armor

structure Hit where
  target : CreatureId
  blockType : BlockType
  manaBlock : BlockType := .none
  received : List Condition
  deriving DecidableEq

section
variable (env : Env) (params : CombatParams) (caster : Option CreatureId)

/-- The loop over the conditions: those that are handed out, and the target with them. -/
def giveConditions (itself : Bool) : List Condition → Combatant → List Condition × Combatant
  | [], target => ([], target)
  | condition :: rest, target =>
    if itself || !target.conditionImmunity condition.type then
      let conditionCopy := { condition with owner := caster.or condition.owner }
      let (others, target) := giveConditions itself rest (env.addCombatCondition conditionCopy target)
      (conditionCopy :: others, target)
    else giveConditions itself rest target

/-- The attacker, if the caster is a player. -/
def attackerOf (world : World) (target : CreatureId) : Option Attacker :=
  caster.bind fun id =>
    if (world.combatant id).isPlayer then some ⟨(world.combatant id).blackSkull, env.seesNoSkull id target⟩ else none

def World.set (world : World) (id : CreatureId) (combatant : Combatant) : World :=
  { world with combatant := Function.update world.combatant id combatant }

/-- `chance > 0 && skill > 0 && random(1, 100) <= chance`, with the draw that it takes. -/
def rolls (skill : SpecialSkill) (draws : Nat) : Bool × Nat :=
  if skill.chance > 0 ∧ skill.amount > 0 then (env.random draws 1 100 ≤ skill.chance, draws + 1) else (false, draws)

def leechFor (id : CreatureId) (life mana : Int) (world : World) : World :=
  let player := world.combatant id
  let world :=
    if (player.health : Int) < player.maxHealth then
      let (leeches, draws) := rolls env player.lifeLeech world.draws
      let world := { world with draws }
      if leeches then
        world.set id { player with
          toCreature := (combatChangeHealth none player.toCreature { primary := ⟨.none, life⟩, leeched := true }).target }
      else world
    else world
  let player := world.combatant id
  if player.mana < player.maxMana then
    let (leeches, draws) := rolls env player.manaLeech world.draws
    let world := { world with draws }
    if leeches then
      let outcome := combatChangeMana env none player { primary := ⟨.none, mana⟩, leeched := true } world.draws
      { world.set id outcome.target with draws := outcome.draws }
    else world
  else world

def afterSuccess (blockType : BlockType) (target : CreatureId) (leech : World → World) (world : World) :
    List Condition × World :=
  let (received, combatant) :=
    if blockType = .none ∨ blockType = .armor then
      giveConditions env caster (caster = some target) params.conditionList (world.combatant target)
    else ([], world.combatant target)
  let world := leech (world.set target combatant)
  (received, world.set target (env.dispel params.dispelType (world.combatant target)))

/-- `targetCallback`, if there is one. -/
def callBack (target : CreatureId) (world : World) : World :=
  match params.targetCallback with
  | none => world
  | some onTargetCombat => onTargetCombat caster target world

/-- Half of the damage, toward zero. -/
def CombatDamage.halve (damage : CombatDamage) : CombatDamage :=
  { damage with
    primary := ⟨damage.primary.type, damage.primary.value.tdiv 2⟩
    secondary := ⟨damage.secondary.type, damage.secondary.value.tdiv 2⟩ }

def CombatDamage.add (damage : CombatDamage) (primary secondary : Int) : CombatDamage :=
  { damage with
    primary := ⟨damage.primary.type, toInt32 (damage.primary.value + primary)⟩
    secondary := ⟨damage.secondary.type, toInt32 (damage.secondary.value + secondary)⟩ }

/-- The caster is a player and hits another one who has no black skull. -/
def hitsPlayer (world : World) (target : CreatureId) : Bool :=
  match caster with
  | none => false
  | some id =>
    (world.combatant id).isPlayer && (world.combatant target).isPlayer && id ≠ target && !(world.combatant target).blackSkull

def castByPlayer (damage : CombatDamage) (target : CreatureId) (world : World) : CombatDamage × World :=
  match caster with
  | none => (damage, world)
  | some id =>
    if (world.combatant id).isPlayer then
      let damage := if hitsPlayer caster world target && damage.primary.type ≠ .healing then damage.halve else damage
      if !damage.critical && damage.primary.type ≠ .healing && damage.origin ≠ .condition then
        let skill := (world.combatant id).criticalHit
        let (critical, draws) := rolls env skill world.draws
        (if critical then
          { damage.add (env.percent damage.primary.value skill.amount) (env.percent damage.secondary.value skill.amount) with
            critical := true }
        else damage, { world with draws })
      else (damage, world)
    else (damage, world)

/-- The change of health or of mana, with the block type of the mana. -/
def changeTarget (damage : CombatDamage) (target : CreatureId) (world : World) : ManaOutcome :=
  let combatant := world.combatant target
  if damage.primary.type ≠ .manaDrain then
    let outcome := combatChangeHealth (attackerOf env caster world target) combatant.toCreature damage
    ⟨outcome.success, outcome.damage, { combatant with toCreature := outcome.target }, world.draws, .none⟩
  else combatChangeMana env (attackerOf env caster world target) combatant damage world.draws

/-- A player who casts leeches, unless the damage is leeched, healing or of a condition. -/
def leechOfTarget (damage : CombatDamage) (world : World) : World :=
  match caster with
  | none => world
  | some id =>
    if !damage.leeched && damage.primary.type ≠ .healing && (world.combatant id).isPlayer && damage.origin ≠ .condition then
      let totalDamage := toInt32 damage.total.natAbs
      leechFor env id (env.percent totalDamage (world.combatant id).lifeLeech.amount)
        (env.percent totalDamage (world.combatant id).manaLeech.amount) world
    else world

/-- The end of `doTargetCombat`, behind the block. -/
def finishTarget (damage : CombatDamage) (target : CreatureId) (world : World) : Hit × World :=
  let outcome := changeTarget env caster damage target world
  let world := { world.set target outcome.target with draws := outcome.draws }
  let (received, world) :=
    if outcome.success then
      afterSuccess env params caster outcome.damage.blockType target (leechOfTarget env caster outcome.damage) world
    else ([], world)
  (⟨target, outcome.damage.blockType, outcome.blockType, received⟩, callBack params caster target world)

def doTargetCombat (damage : CombatDamage) (target : CreatureId) (world : World) : Hit × World :=
  if damage.primary.type ≠ .manaDrain then
    let block := combatBlockHit env params damage (world.combatant target) world.draws
    let world := { world.set target block.target with draws := block.draws }
    if block.blocked then (⟨target, block.damage.blockType, .none, []⟩, world)
    else
      let (damage, world) := castByPlayer env caster block.damage target world
      finishTarget env params caster damage target world
  else finishTarget env params caster damage target world

/-- A tile of the area, if `canDoCombat` of the tile says `RETURNVALUE_NOERROR`. -/
structure AreaTile where
  creatures : List CreatureId
  allowed : Bool
  /-- The caster stands on it. -/
  hasCaster : Bool

/-- The loop over the creatures of a tile. -/
def pickTargets (tile : AreaTile) : List CreatureId → List CreatureId
  | [] => []
  | creature :: rest =>
    if params.targetCasterOrTopMost && (if tile.hasCaster then some creature ≠ caster else some creature ≠ tile.creatures.head?)
    then pickTargets tile rest
    else if !params.aggressive || (caster ≠ some creature && env.canDoCombat caster creature) then
      creature :: if params.targetCasterOrTopMost then [] else pickTargets tile rest
    else pickTargets tile rest

def toDamageCreatures (tiles : List AreaTile) : List CreatureId :=
  tiles.flatMap fun tile => if tile.allowed then pickTargets env params caster tile tile.creatures else []

structure AreaDamage where
  damage : CombatDamage
  criticalPrimary : Int := 0
  criticalSecondary : Int := 0
  targetsCount : Nat

/-- The critical hit of an area, for all of its targets. -/
def areaDamage (damage : CombatDamage) (targetsCount : Nat) (world : World) : AreaDamage × World :=
  match caster with
  | none => (⟨damage, 0, 0, targetsCount⟩, world)
  | some id =>
    if !damage.critical && damage.primary.type ≠ .healing && (world.combatant id).isPlayer && damage.origin ≠ .condition then
      let skill := (world.combatant id).criticalHit
      let (critical, draws) := rolls env skill world.draws
      (if critical then
        ⟨{ damage with critical := true }, env.percent damage.primary.value skill.amount,
          env.percent damage.secondary.value skill.amount, targetsCount⟩
      else ⟨damage, 0, 0, targetsCount⟩, { world with draws })
    else (⟨damage, 0, 0, targetsCount⟩, world)

def damageCopy (area : AreaDamage) (target : CreatureId) (world : World) : CombatDamage :=
  let reduced := (area.damage.primary.value < 0 || area.damage.secondary.value < 0) && hitsPlayer caster world target
  let copy := if reduced then area.damage.halve else area.damage
  if copy.critical then
    copy.add (if reduced then area.criticalPrimary.tdiv 2 else area.criticalPrimary)
      (if reduced then area.criticalSecondary.tdiv 2 else area.criticalSecondary)
  else copy

/-- A player who casts leeches of each target, by the flags of the damage of the combat. -/
def leechOfArea (area : AreaDamage) (damageCopy : CombatDamage) (world : World) : World :=
  match caster with
  | none => world
  | some id =>
    if (world.combatant id).isPlayer && !area.damage.leeched && area.damage.primary.type ≠ .healing &&
        area.damage.origin ≠ .condition then
      let totalDamage := toInt32 damageCopy.total.natAbs
      leechFor env id (env.leech totalDamage (world.combatant id).lifeLeech.amount area.targetsCount)
        (env.leech totalDamage (world.combatant id).manaLeech.amount area.targetsCount) world
    else world

/-- The end of the loop over the targets of an area, behind the block: the conditions go by the block type of the damage of
the combat. -/
def finishAreaTarget (area : AreaDamage) (copy : CombatDamage) (target : CreatureId) (world : World) : Hit × World :=
  let outcome := changeTarget env caster copy target world
  let world := { world.set target outcome.target with draws := outcome.draws }
  let (received, world) :=
    if outcome.success then
      afterSuccess env params caster area.damage.blockType target (leechOfArea env caster area outcome.damage) world
    else ([], world)
  (⟨target, outcome.damage.blockType, outcome.blockType, received⟩, callBack params caster target world)

def areaTarget (area : AreaDamage) (world : World) (target : CreatureId) : Hit × World :=
  let copy := damageCopy caster area target world
  if copy.primary.type ≠ .manaDrain then
    let block := combatBlockHit env params copy (world.combatant target) world.draws
    let world := { world.set target block.target with draws := block.draws }
    if block.blocked then (⟨target, block.damage.blockType, .none, []⟩, world)
    else finishAreaTarget env params caster area block.damage target world
  else finishAreaTarget env params caster area copy target world

/-- The loop over the targets. -/
def areaTargets (area : AreaDamage) : World → List CreatureId → List Hit × World
  | world, [] => ([], world)
  | world, target :: rest =>
    let (hit, world) := areaTarget env params caster area world target
    let (hits, world) := areaTargets area world rest
    (hit :: hits, world)

def doAreaCombat (damage : CombatDamage) (tiles : List AreaTile) (world : World) : List Hit × World :=
  let targets := toDamageCreatures env params caster tiles
  let (area, world) := areaDamage env caster damage targets.length world
  areaTargets env params caster area world targets

end

/-- A target whose hit was blocked by defense or immunity receives no condition. -/
def Hit.Withheld (hit : Hit) : Prop :=
  hit.blockType.stops = true ∨ hit.manaBlock.stops = true → hit.received = []

section
variable {env : Env} {attackerPlayer : Option Attacker} {damage : CombatDamage}

theorem foldl_executeHealthChange_blockType (scripts : List Script) (damage : CombatDamage) :
    (scripts.foldl executeHealthChange damage).blockType = damage.blockType := by
  induction scripts generalizing damage with
  | nil => rfl
  | cons script scripts ih =>
    rw [List.foldl_cons, ih]
    unfold executeHealthChange
    split <;> rfl

theorem foldl_executeManaChange_blockType (scripts : List Script) (damage : CombatDamage) :
    (scripts.foldl executeManaChange damage).blockType = damage.blockType := by
  induction scripts generalizing damage with
  | nil => rfl
  | cons script scripts ih =>
    rw [List.foldl_cons, ih]
    unfold executeManaChange
    split <;> rfl

theorem absorb_blockType (damage : CombatDamage) (manaDamage : Int) :
    (damage.absorb manaDamage).blockType = damage.blockType := by
  unfold CombatDamage.absorb
  simp only
  split <;> rfl

theorem limit_blockType (damage : CombatDamage) (health : Int) : (damage.limit health).blockType = damage.blockType := by
  unfold CombatDamage.limit
  split
  · rfl
  split <;> rfl

theorem manaShield_blockType {target left : Creature} {rest : CombatDamage}
    (shield : manaShield target damage = (left, some rest)) : rest.blockType = damage.blockType := by
  unfold manaShield at shield
  simp only at shield
  split at shield
  · split at shield
    · split at shield
      · split at shield
        · cases shield
        · cases shield
          rw [absorb_blockType, foldl_executeManaChange_blockType]
      · cases shield
        rw [absorb_blockType]
    · cases shield
      rfl
  · cases shield
    rfl

theorem drain_blockType (target : Creature) (damage : CombatDamage) :
    (drain target damage).damage.blockType = damage.blockType := by
  unfold drain
  simp only
  split
  · exact limit_blockType _ _
  split <;> exact limit_blockType _ _

theorem changeHealth_blockType {again : Creature → CombatDamage → Outcome}
    (keeps : ∀ target damage, (again target damage).damage.blockType = damage.blockType) (target : Creature)
    (damage : CombatDamage) : (changeHealth target damage attackerPlayer again).damage.blockType = damage.blockType := by
  have scripts (target : Creature) (damage : CombatDamage) :
      (again target (target.scripted damage)).damage.blockType = damage.blockType :=
    (keeps _ _).trans (foldl_executeHealthChange_blockType _ _)
  unfold changeHealth
  split
  · split
    · rfl
    split
    · rfl
    split
    · exact scripts _ _
    · rfl
  split
  · split
    · rfl
    split
    · rfl
    simp only
    split
    · rfl
    split
    · rfl
    next left rest shield =>
      have kept : rest.blockType = damage.magnitude.blockType := manaShield_blockType shield
      split
      · exact kept
      split
      · exact (scripts _ _).trans kept
      · exact (drain_blockType _ _).trans kept
  · rfl

/-- Whatever the scripts say, the block type of the damage stays. -/
theorem combatChangeHealth_blockType (target : Creature) (damage : CombatDamage) :
    (combatChangeHealth attackerPlayer target damage).damage.blockType = damage.blockType := by
  apply changeHealth_blockType
  intro target damage
  exact changeHealth_blockType (fun _ _ => rfl) _ _

/-- What `combatChangeMana` keeps: the block type of the damage, and the immunities; and it is no success if its own hit
is blocked. -/
structure ManaOutcome.Sound (outcome : ManaOutcome) (target : Combatant) (damage : CombatDamage) : Prop where
  blockType : outcome.damage.blockType = damage.blockType
  immunity : outcome.target.conditionImmunity = target.conditionImmunity
  blocked : outcome.blockType ≠ .none → outcome.success = false

theorem useDefense_immunity (target : Combatant) (draws : Nat) (amount : Int) (checkDefense hasDefense : Bool) :
    (useDefense env target draws amount checkDefense hasDefense).target = target := by
  unfold useDefense
  simp only
  split
  · split <;> rfl
  · rfl

theorem useArmor_immunity (target : Combatant) (checkArmor : Bool) (block : Block) :
    (useArmor env target checkArmor block).target = block.target := by
  have either (reduced : Int × Nat) :
      (if reduced.1 ≤ 0 then { block with blockType := .armor, damage := 0, draws := reduced.2 }
        else { block with damage := reduced.1, draws := reduced.2 } : Block).target = block.target := by
    split <;> rfl
  unfold useArmor
  simp only
  split
  · exact either _
  · rfl

theorem blockHit_immunity (target : Combatant) (draws : Nat) (combatType : CombatType) (amount : Int)
    (checkDefense checkArmor field ignoreResistances : Bool) :
    (blockHit env target draws combatType amount checkDefense checkArmor field ignoreResistances).target.conditionImmunity =
      target.conditionImmunity := by
  have base : (creatureBlockHit env target draws combatType amount checkDefense checkArmor).target.conditionImmunity =
      target.conditionImmunity := by
    unfold creatureBlockHit
    split
    · rfl
    split
    · simp only
      rw [useArmor_immunity, useDefense_immunity]
    · rfl
  have either (block : Block) (damage : Int) (kept : block.target.conditionImmunity = target.conditionImmunity) :
      (if damage ≤ 0 then { block with blockType := .armor, damage := 0 } else { block with damage } : Block).target.conditionImmunity =
        target.conditionImmunity := by
    split <;> exact kept
  unfold blockHit
  simp only
  split
  · split
    · exact either _ _ base
    · exact base
  split
  · split
    · exact base
    split
    · exact base
    · exact either _ _ base
  · exact base

theorem blockPart_immunity (target : Combatant) (draws : Nat) (checkDefense checkArmor field ignoreResistances : Bool)
    (part : DamagePart) :
    (blockPart env target draws checkDefense checkArmor field ignoreResistances part).1.target.conditionImmunity =
      target.conditionImmunity := by
  unfold blockPart
  split
  · exact blockHit_immunity _ _ _ _ _ _ _ _
  · rfl

theorem combatBlockHit_immunity (params : CombatParams) (damage : CombatDamage) (target : Combatant) (draws : Nat) :
    (combatBlockHit env params damage target draws).target.conditionImmunity = target.conditionImmunity := by
  unfold combatBlockHit
  split
  · rfl
  split
  · rfl
  · exact (blockPart_immunity _ _ _ _ _ _ _).trans (blockPart_immunity _ _ _ _ _ _ _)

theorem changeMana_sound {again : Combatant → CombatDamage → Nat → ManaOutcome}
    (keeps : ∀ target damage draws, (again target damage draws).Sound target damage) (target : Combatant)
    (damage : CombatDamage) (draws : Nat) :
    (changeMana env attackerPlayer target damage draws again).Sound target damage := by
  have scripts (target : Combatant) (damage : CombatDamage) (draws : Nat) :
      (again target (scriptedMana target damage) draws).Sound target damage := by
    obtain ⟨blockType, immunity, blocked⟩ := keeps target (scriptedMana target damage) draws
    exact ⟨blockType.trans (foldl_executeManaChange_blockType _ _), immunity, blocked⟩
  have block : (blockHit env target draws .manaDrain (min (toInt32 target.mana) (toInt32 (-damage.total)))
      false false false false).target.conditionImmunity = target.conditionImmunity := blockHit_immunity _ _ _ _ _ _ _ _
  unfold changeMana
  split
  · exact ⟨rfl, rfl, fun some_ => absurd rfl some_⟩
  split
  · split
    · exact ⟨rfl, rfl, fun some_ => absurd rfl some_⟩
    split
    · exact scripts _ _ _
    · exact ⟨rfl, rfl, fun some_ => absurd rfl some_⟩
  split
  · exact ⟨rfl, rfl, fun some_ => absurd rfl some_⟩
  split
  · exact ⟨rfl, rfl, fun some_ => absurd rfl some_⟩
  simp only
  split
  · exact ⟨rfl, block, fun _ => rfl⟩
  split
  · exact ⟨rfl, block, fun some_ => absurd rfl some_⟩
  split
  · obtain ⟨blockType, immunity, blocked⟩ := scripts
      (blockHit env target draws .manaDrain (min (toInt32 target.mana) (toInt32 (-damage.total))) false false false false).target
      damage
      (blockHit env target draws .manaDrain (min (toInt32 target.mana) (toInt32 (-damage.total))) false false false false).draws
    exact ⟨blockType, immunity.trans block, blocked⟩
  · exact ⟨rfl, block, fun some_ => absurd rfl some_⟩

theorem combatChangeMana_sound (target : Combatant) (damage : CombatDamage) (draws : Nat) :
    (combatChangeMana env attackerPlayer target damage draws).Sound target damage := by
  apply changeMana_sound
  intro target damage draws
  exact changeMana_sound (fun _ _ _ => ⟨rfl, rfl, fun some_ => absurd rfl some_⟩) _ _ _

end

section
variable {env : Env} {params : CombatParams} {caster : Option CreatureId}

theorem stops_eq_false {blockType : BlockType} : blockType.stops = false ↔ blockType = .none ∨ blockType = .armor := by
  cases blockType <;> decide

/-- Nothing is handed out just where the target is immune to all that there is. -/
theorem giveConditions_eq_nil {itself : Bool} {conditions : List Condition} {target : Combatant} :
    (giveConditions env caster itself conditions target).1 = [] ↔
      ∀ condition ∈ conditions, itself = false ∧ target.conditionImmunity condition.type = true := by
  induction conditions with
  | nil => simp [giveConditions]
  | cons condition rest ih =>
    unfold giveConditions
    by_cases taken : (itself || !target.conditionImmunity condition.type) = true
    · simp only [if_pos taken, List.cons_ne_nil, List.mem_cons, forall_eq_or_imp, false_iff]
      rintro ⟨⟨other, immune⟩, _⟩
      simp [other, immune] at taken
    · have spared : itself = false ∧ target.conditionImmunity condition.type = true := by
        simpa using taken
      rw [if_neg taken, ih, List.forall_mem_cons]
      exact (and_iff_right spared).symm

theorem afterSuccess_received (blockType : BlockType) (target : CreatureId) (leech : World → World) (world : World) :
    (afterSuccess env params caster blockType target leech world).1 =
      if blockType.stops then []
      else (giveConditions env caster (caster = some target) params.conditionList (world.combatant target)).1 := by
  unfold afterSuccess
  by_cases passes : blockType = .none ∨ blockType = .armor
  · simp [if_pos passes, stops_eq_false.mpr passes]
  · have stops : blockType.stops = true := by
      by_contra other
      exact passes (stops_eq_false.mp (Bool.eq_false_iff.mpr other))
    simp [if_neg passes, stops]

theorem changeTarget_sound (damage : CombatDamage) (target : CreatureId) (world : World) :
    (changeTarget env caster damage target world).Sound (world.combatant target) damage := by
  unfold changeTarget
  simp only
  split
  · exact ⟨combatChangeHealth_blockType _ _, rfl, fun some_ => absurd rfl some_⟩
  · exact combatChangeMana_sound _ _ _

theorem set_self (world : World) (target : CreatureId) (combatant : Combatant) :
    (world.set target combatant).combatant target = combatant := Function.update_self ..

/-- A single target receives conditions by the block type of its own damage. -/
theorem finishTarget_withheld (damage : CombatDamage) (target : CreatureId) (world : World) :
    (finishTarget env params caster damage target world).1.Withheld := by
  obtain ⟨blockType, _, blocked⟩ : (changeTarget env caster damage target world).Sound (world.combatant target) damage :=
    changeTarget_sound damage target world
  rintro (stops | stops)
  all_goals simp only [finishTarget] at stops ⊢
  · by_cases success : (changeTarget env caster damage target world).success = true
    · simp only [if_pos success]
      rw [afterSuccess_received, if_pos stops]
    · simp only [if_neg success]
  · have failed : (changeTarget env caster damage target world).success = false := by
      apply blocked
      intro none
      simp [none, BlockType.stops] at stops
    simp only [failed, Bool.false_eq_true, if_false]

theorem doTargetCombat_withheld (damage : CombatDamage) (target : CreatureId) (world : World) :
    (doTargetCombat env params caster damage target world).1.Withheld := by
  unfold doTargetCombat
  simp only
  split
  · split
    · exact fun _ => rfl
    · exact finishTarget_withheld _ _ _
  · exact finishTarget_withheld _ _ _

end

section
variable (env : Env) (params : CombatParams) (caster : Option CreatureId) (area : AreaDamage)

def blockedWorld (world : World) (target : CreatureId) : World :=
  let block := combatBlockHit env params (damageCopy caster area target world) (world.combatant target) world.draws
  { world.set target block.target with draws := block.draws }

/-- The hit on a target of an area gets through though its primary part is stopped by defense or immunity: the secondary
part is not blocked, the change of the health is not refused, and there is a condition to which the target is not immune;
the damage of the combat itself is not marked as stopped. -/
def SlipsThrough (world : World) (target : CreatureId) : Prop :=
  let copy := damageCopy caster area target world
  let block := combatBlockHit env params copy (world.combatant target) world.draws
  area.damage.blockType.stops = false ∧ copy.primary.type ≠ .manaDrain ∧ block.blocked = false ∧
    block.damage.blockType.stops = true ∧
    (changeTarget env caster block.damage target (blockedWorld env params caster area world target)).success = true ∧
    ∃ condition ∈ params.conditionList,
      caster = some target ∨ (world.combatant target).conditionImmunity condition.type = false

def areaStep (world : World) (target : CreatureId) : World := (areaTarget env params caster area world target).2

variable {env params caster area}

theorem damageCopy_blockType (world : World) (target : CreatureId) :
    (damageCopy caster area target world).blockType = area.damage.blockType := by
  unfold damageCopy
  simp only
  split <;> split <;> rfl

/-- The hit, where the block does not end it. -/
theorem finishAreaTarget_hit (copy : CombatDamage) (target : CreatureId) (world : World) :
    let outcome := changeTarget env caster copy target world
    (finishAreaTarget env params caster area copy target world).1 =
      ⟨target, copy.blockType, outcome.blockType,
        if outcome.success = true ∧ area.damage.blockType.stops = false then
          (giveConditions env caster (caster = some target) params.conditionList outcome.target).1
        else []⟩ := by
  obtain ⟨blockType, _, _⟩ : (changeTarget env caster copy target world).Sound (world.combatant target) copy :=
    changeTarget_sound copy target world
  unfold finishAreaTarget
  simp only [blockType]
  by_cases success : (changeTarget env caster copy target world).success = true
  · simp only [success, if_true, true_and, afterSuccess_received, set_self]
    cases area.damage.blockType.stops <;> rfl
  · simp only [success, Bool.false_eq_true, if_false, false_and]

theorem areaTarget_withheld_iff (world : World) (target : CreatureId) :
    (areaTarget env params caster area world target).1.Withheld ↔ ¬ SlipsThrough env params caster area world target := by
  unfold areaTarget SlipsThrough blockedWorld
  simp only
  by_cases drains : (damageCopy caster area target world).primary.type = .manaDrain
  · -- no block: the damage keeps the block type of the combat
    simp only [drains, ne_eq, not_true_eq_false, if_false, false_and, and_false, not_false_eq_true, iff_true]
    obtain ⟨_, _, blocked⟩ : (changeTarget env caster (damageCopy caster area target world) target world).Sound
        (world.combatant target) (damageCopy caster area target world) := changeTarget_sound _ target world
    rw [Hit.Withheld, finishAreaTarget_hit]
    simp only [damageCopy_blockType]
    rintro (stops | stops)
    · simp [stops]
    · have failed : (changeTarget env caster (damageCopy caster area target world) target world).success = false := by
        apply blocked
        intro none
        simp [none, BlockType.stops] at stops
      simp [failed]
  simp only [drains, ne_eq, not_false_eq_true, if_true, true_and]
  generalize hit : combatBlockHit env params (damageCopy caster area target world) (world.combatant target) world.draws = block
  by_cases ends : block.blocked = true
  · simp only [ends, if_true, Bool.true_eq_false, false_and, and_false, not_false_eq_true, iff_true]
    exact fun _ => rfl
  have immunity : block.target.conditionImmunity = (world.combatant target).conditionImmunity :=
    hit ▸ combatBlockHit_immunity _ _ _ _
  rw [if_neg ends, Hit.Withheld, finishAreaTarget_hit]
  obtain ⟨_, kept, blocked⟩ : (changeTarget env caster block.damage target
      { world.set target block.target with draws := block.draws }).Sound
        (({ world.set target block.target with draws := block.draws } : World).combatant target) block.damage :=
    changeTarget_sound _ target _
  generalize changeTarget env caster block.damage target { world.set target block.target with draws := block.draws } = outcome
    at kept blocked
  have same : outcome.target.conditionImmunity = (world.combatant target).conditionImmunity := by
    rw [kept, ← immunity]
    exact congrArg Combatant.conditionImmunity (set_self world target block.target)
  simp only [Bool.not_eq_true] at ends
  simp only [ends, true_and]
  have mana : outcome.blockType.stops = true → outcome.success = false := by
    intro stops
    apply blocked
    intro none
    simp [none, BlockType.stops] at stops
  by_cases taken : outcome.success = true ∧ area.damage.blockType.stops = false
  · rw [if_pos taken, giveConditions_eq_nil, same]
    have free : ¬ outcome.blockType.stops = true := fun stops => by simp [mana stops] at taken
    simp only [free, Bool.false_eq_true, or_false, taken, true_and]
    constructor
    · rintro withheld ⟨stops, condition, listed, takes⟩
      obtain ⟨other, immune⟩ := withheld stops condition listed
      rcases takes with itself | open_
      · simp [itself] at other
      · exact absurd immune (by simp [open_])
    · intro closed stops condition listed
      constructor
      · by_contra itself
        exact closed ⟨stops, condition, listed, .inl (by simpa using itself)⟩
      · by_contra open_
        exact closed ⟨stops, condition, listed, .inr (by simpa using open_)⟩
  · rw [if_neg taken]
    refine iff_of_true (fun _ => rfl) ?_
    rintro ⟨passes, _, success, _⟩
    exact taken ⟨success, passes⟩

/-- The hits of an area are right just where none of them slips through in its turn. -/
theorem areaTargets_withheld_iff (world : World) (targets : List CreatureId) :
    (∀ hit ∈ (areaTargets env params caster area world targets).1, hit.Withheld) ↔
      Throughout (areaStep env params caster area)
        (fun world target => ¬ SlipsThrough env params caster area world target) world targets := by
  induction targets generalizing world with
  | nil => simp [areaTargets, Throughout]
  | cons target rest ih =>
    simp only [areaTargets, List.mem_cons, forall_eq_or_imp, areaTarget_withheld_iff, ih, Throughout, areaStep]

end

/-- A single target that is stopped never receives conditions; the targets of an area do not just where no hit slips
through that is stopped in its primary part alone. -/
theorem conditions_withheld_iff (env : Env) (params : CombatParams) (caster : Option CreatureId) (damage : CombatDamage)
    (world : World) :
    (∀ target, (doTargetCombat env params caster damage target world).1.Withheld) ∧
      ∀ tiles, (∀ hit ∈ (doAreaCombat env params caster damage tiles world).1, hit.Withheld) ↔
        let targets := toDamageCreatures env params caster tiles
        let start := areaDamage env caster damage targets.length world
        Throughout (areaStep env params caster start.1)
          (fun world target => ¬ SlipsThrough env params caster start.1 world target) start.2 targets := by
  constructor
  · intro target
    exact doTargetCombat_withheld damage target world
  · intro tiles
    exact areaTargets_withheld_iff _ _

def iceWave : CombatParams := { conditionList := [{ type := 16 }], aggressive := false }

def yeti : Combatant :=
  { health := 460, maxHealth := 460, isMonster := true, immunity := fun type => type = .iceDamage }

def iceEnv : Env :=
  { random := fun _ low _ => low, percent := fun value _ => value, leech := fun value _ _ => value,
    seesNoSkull := fun _ _ => true, canDoCombat := fun _ _ => true, addCombatCondition := fun _ target => target,
    dispel := fun _ target => target }

/-- The wave does no harm to the monster, whose hit is blocked by immunity, and paralyses it. -/
theorem iceWave_paralyses : ¬ ∀ (env : Env) (params : CombatParams) (caster : Option CreatureId) (damage : CombatDamage)
    (tiles : List AreaTile) (world : World), ∀ hit ∈ (doAreaCombat env params caster damage tiles world).1, hit.Withheld := by
  intro withheld
  have struck : (doAreaCombat iceEnv iceWave none { primary := ⟨.iceDamage, -50⟩ } [⟨[1], true, false⟩]
      { combatant := fun _ => yeti }).1 = [⟨1, .immunity, .none, [{ type := 16 }]⟩] := by
    decide
  have none := withheld iceEnv iceWave Option.none { primary := ⟨.iceDamage, -50⟩ } [⟨[1], true, false⟩]
    { combatant := fun _ => yeti } ⟨1, .immunity, .none, [{ type := 16 }]⟩ (struck ▸ List.mem_cons_self) (.inl rfl)
  cases none

end Styller.Combat
