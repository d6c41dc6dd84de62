import Mathlib.Order.Lattice

/-! `Game::combatChangeHealth`: what a damage takes from the mana and from the health of its target. -/

namespace Styller.Combat

inductive CombatType where
  | none
  | physicalDamage
  | energyDamage
  | earthDamage
  | fireDamage
  | undefinedDamage
  | lifeDrain
  | manaDrain
  | healing
  | drownDamage
  | iceDamage
  | holyDamage
  | deathDamage
  deriving DecidableEq

inductive BlockType where
  | none
  | defense
  | armor
  | immunity
  deriving DecidableEq

inductive CombatOrigin where
  | none
  | condition
  | spell
  | melee
  | ranged
  | wand
  deriving DecidableEq

structure DamagePart where
  type : CombatType := .none
  value : Int := 0

structure CombatDamage where
  primary : DamagePart := {}
  secondary : DamagePart := {}
  origin : CombatOrigin := .none
  blockType : BlockType := .none
  critical : Bool := false
  leeched : Bool := false

/-- A number as an `int32_t`. -/
def toInt32 (number : Int) : Int := (Int32.ofInt number).toInt

theorem toInt32_of_fits {number : Int} (low : -2147483648 ≤ number) (high : number < 2147483648) :
    toInt32 number = number :=
  Int32.toInt_ofInt_of_le (by omega) (by omega)

/-- What a script for a change of health or of mana returns of a damage; `none` for an error. -/
abbrev Script := CombatDamage → Option (DamagePart × DamagePart)

def executeHealthChange (damage : CombatDamage) (script : Script) : CombatDamage :=
  match script damage with
  | none => damage
  | some (primary, secondary) =>
    let sign : Int := if primary.type = .healing then 1 else -1
    { damage with
      primary := ⟨primary.type, sign * toInt32 primary.value.natAbs⟩
      secondary := ⟨secondary.type, sign * toInt32 secondary.value.natAbs⟩ }

def executeManaChange (damage : CombatDamage) (script : Script) : CombatDamage :=
  match script damage with
  | none => damage
  | some (primary, secondary) => { damage with primary := primary, secondary := secondary }

/-- `Creature`, as far as a damage goes. -/
structure Creature where
  /-- `getPlayer`. -/
  isPlayer : Bool := false
  /-- `changeHealth` stops at 0. -/
  health : Nat
  maxHealth : Int
  mana : Nat := 0
  maxMana : Nat := 0
  /-- `PlayerFlag_HasInfiniteMana`. -/
  infiniteMana : Bool := false
  /-- `CONDITION_MANASHIELD`. -/
  manaShield : Bool := false
  isAttackable : Bool := true
  /-- `CREATURE_EVENT_HEALTHCHANGE`. -/
  healthChange : List Script := []
  /-- `CREATURE_EVENT_MANACHANGE`. -/
  manaChange : List Script := []
  /-- `CREATURE_EVENT_PREPAREDEATH`: what `executeOnPrepareDeath` says. -/
  prepareDeath : List Bool := []

structure Attacker where
  /-- `getSkull` is `SKULL_BLACK`. -/
  blackSkull : Bool
  /-- `getSkullClient` of the target is `SKULL_NONE`. -/
  seesNoSkull : Bool

namespace Creature

variable (creature : Creature)

def isDead : Bool := creature.health = 0

def changeHealth (change : Int) : Creature :=
  if change > 0 then
    { creature with health := (toInt32 (creature.health + min change (toInt32 (creature.maxHealth - creature.health)))).toNat }
  else { creature with health := (max 0 (toInt32 (creature.health + change))).toNat }

def gainHealth (gain : Int) : Creature := creature.changeHealth gain

def drainHealth (damage : Int) : Creature := creature.changeHealth (-damage)

/-- `changeMana`; the mana is a `uint32_t`. -/
def changeMana (change : Int) : Creature :=
  if creature.infiniteMana then creature
  else if change > 0 then
    { creature with
      mana := ((creature.mana + min change (toInt32 ((creature.maxMana : Int) - creature.mana))) % 4294967296).toNat }
  else { creature with mana := (max 0 (toInt32 (creature.mana + change))).toNat }

def drainMana (loss : Int) : Creature := creature.changeMana (-loss)

/-- An attacker with a black skull does nothing to a player without a skull. -/
def refuses (attackerPlayer : Option Attacker) : Bool :=
  match attackerPlayer with
  | none => false
  | some attacker => creature.isPlayer && attacker.blackSkull && attacker.seesNoSkull

end Creature

def Creature.scripted (creature : Creature) (damage : CombatDamage) : CombatDamage :=
  { creature.healthChange.foldl executeHealthChange damage with origin := .none }

/-- What `combatChangeHealth` returns, and what it leaves of the target and of the damage. -/
structure Outcome where
  success : Bool
  target : Creature
  damage : CombatDamage

section
variable (target : Creature) (damage : CombatDamage)

/-- What is left of a damage of which the mana has taken a part. -/
def CombatDamage.absorb (manaDamage : Int) : CombatDamage :=
  let value := toInt32 (damage.primary.value - manaDamage)
  if value < 0 then
    { damage with
      primary := ⟨damage.primary.type, 0⟩
      secondary := ⟨damage.secondary.type, max 0 (toInt32 (damage.secondary.value + value))⟩ }
  else { damage with primary := ⟨damage.primary.type, value⟩ }

/-- The damage cut down to the health that there is. -/
def CombatDamage.limit (targetHealth : Int) : CombatDamage :=
  if damage.primary.value ≥ targetHealth then
    { damage with primary := ⟨damage.primary.type, targetHealth⟩, secondary := ⟨damage.secondary.type, 0⟩ }
  else if damage.secondary.value ≠ 0 then
    { damage with
      secondary := ⟨damage.secondary.type, min damage.secondary.value (toInt32 (targetHealth - damage.primary.value))⟩ }
  else damage

def CombatDamage.total : Int := toInt32 (damage.primary.value + damage.secondary.value)

/-- Both values without their signs. -/
def CombatDamage.magnitude : CombatDamage :=
  { damage with
    primary := ⟨damage.primary.type, toInt32 damage.primary.value.natAbs⟩
    secondary := ⟨damage.secondary.type, toInt32 damage.secondary.value.natAbs⟩ }

/-- The mana shield; the result is missing where the function returns. -/
def manaShield : Creature × Option CombatDamage :=
  if target.isPlayer && target.manaShield && damage.primary.type ≠ .undefinedDamage then
    let manaDamage := min (toInt32 target.mana) damage.total
    if manaDamage ≠ 0 then
      if damage.origin ≠ .none ∧ target.manaChange ≠ [] then
        let damage := target.manaChange.foldl executeManaChange damage
        if damage.total = 0 then (target, none)
        else
          let manaDamage := min (toInt32 target.mana) damage.total
          (target.drainMana manaDamage, some (damage.absorb manaDamage))
      else (target.drainMana manaDamage, some (damage.absorb manaDamage))
    else (target, some damage)
  else (target, some damage)

/-- The end of the function, where the health is drained. -/
def drain : Outcome :=
  let targetHealth : Int := target.health
  let damage := damage.limit targetHealth
  let realDamage := damage.total
  if realDamage = 0 then ⟨true, target, damage⟩
  else if decide (realDamage ≥ targetHealth) && !target.prepareDeath.all id then ⟨false, target, damage⟩
  else ⟨true, target.drainHealth realDamage, damage⟩

variable (attackerPlayer : Option Attacker) (again : Creature → CombatDamage → Outcome)

/-- `combatChangeHealth`, with the call of itself behind the scripts. -/
def changeHealth : Outcome :=
  if damage.primary.value > 0 then
    if target.isDead then ⟨false, target, damage⟩
    else if target.refuses attackerPlayer then ⟨false, target, damage⟩
    else if damage.origin ≠ .none ∧ target.healthChange ≠ [] then
      again target (target.scripted damage)
    else ⟨true, target.gainHealth damage.primary.value, damage⟩
  else if damage.primary.type ≠ .healing then
    if !target.isAttackable then ⟨true, target, damage⟩
    else if target.refuses attackerPlayer then ⟨false, target, damage⟩
    else
      let damage := damage.magnitude
      if damage.total = 0 then ⟨true, target, damage⟩
      else
        match manaShield target damage with
        | (target, none) => ⟨true, target, damage⟩
        | (target, some damage) =>
          if damage.total = 0 then ⟨true, target, damage⟩
          else if damage.origin ≠ .none ∧ target.healthChange ≠ [] then
            again target (target.scripted damage)
          else drain target damage
  else ⟨true, target, damage⟩

end

/-- `Game::combatChangeHealth`: the second call has no origin, so that there is no third one. -/
def combatChangeHealth (attackerPlayer : Option Attacker) (target : Creature) (damage : CombatDamage) : Outcome :=
  changeHealth target damage attackerPlayer fun target damage =>
    changeHealth target damage attackerPlayer fun target damage => ⟨false, target, damage⟩

section
variable {damage : CombatDamage}

/-- Both parts are amounts, and so is their sum. -/
structure CombatDamage.Amounts (damage : CombatDamage) : Prop where
  primary : 0 ≤ damage.primary.value
  secondary : 0 ≤ damage.secondary.value
  sum : damage.primary.value + damage.secondary.value < 2147483648

theorem CombatDamage.Amounts.total (amounts : damage.Amounts) :
    damage.total = damage.primary.value + damage.secondary.value := by
  have := amounts.primary
  have := amounts.secondary
  exact toInt32_of_fits (by omega) amounts.sum

theorem absorb_origin (manaDamage : Int) : (damage.absorb manaDamage).origin = damage.origin := by
  unfold CombatDamage.absorb
  simp only
  split <;> rfl

/-- What the mana takes is missing from the sum, first from the primary part. -/
theorem absorb_spec (amounts : damage.Amounts) {manaDamage : Int} (positive : 0 ≤ manaDamage)
    (within : manaDamage ≤ damage.total) :
    (damage.absorb manaDamage).Amounts ∧ (damage.absorb manaDamage).total = damage.total - manaDamage := by
  rw [amounts.total] at within ⊢
  obtain ⟨primary, secondary, sum⟩ := amounts
  have value : toInt32 (damage.primary.value - manaDamage) = damage.primary.value - manaDamage :=
    toInt32_of_fits (by omega) (by omega)
  unfold CombatDamage.absorb
  simp only [value]
  split
  next carried =>
    have rest : toInt32 (damage.secondary.value + (damage.primary.value - manaDamage)) =
        damage.secondary.value + (damage.primary.value - manaDamage) := toInt32_of_fits (by omega) (by omega)
    rw [rest, max_eq_right (by omega)]
    have left : CombatDamage.Amounts { damage with
        primary := ⟨damage.primary.type, 0⟩
        secondary := ⟨damage.secondary.type, damage.secondary.value + (damage.primary.value - manaDamage)⟩ } := by
      constructor <;> simp only <;> omega
    refine ⟨left, ?_⟩
    rw [left.total]
    simp only
    omega
  next kept =>
    have left : CombatDamage.Amounts
        { damage with primary := ⟨damage.primary.type, damage.primary.value - manaDamage⟩ } := by
      constructor <;> simp only <;> omega
    refine ⟨left, ?_⟩
    rw [left.total]
    simp only
    omega

/-- The damage that is left is the health that there is, or the whole. -/
theorem limit_total (amounts : damage.Amounts) {health : Nat} (fits : health < 2147483648) :
    (damage.limit health).total = min (health : Int) damage.total := by
  rw [amounts.total]
  obtain ⟨primary, secondary, sum⟩ := amounts
  unfold CombatDamage.limit CombatDamage.total
  split
  next all =>
    rw [toInt32_of_fits (by simp only; omega) (by simp only; omega)]
    simp only
    omega
  next some_ =>
    have rest : toInt32 ((health : Int) - damage.primary.value) = (health : Int) - damage.primary.value :=
      toInt32_of_fits (by omega) (by omega)
    split
    next second =>
      rw [rest, toInt32_of_fits (by simp only; omega) (by simp only; omega)]
      simp only
      omega
    next single =>
      rw [toInt32_of_fits (by omega) (by omega)]
      omega

end

section
variable {attackerPlayer : Option Attacker} {target left : Creature} {damage rest : CombatDamage}

theorem manaShield_origin (origin : damage.origin = .none) (shield : manaShield target damage = (left, some rest)) :
    rest.origin = .none := by
  unfold manaShield at shield
  have quiet : ¬ (damage.origin ≠ .none ∧ target.manaChange ≠ []) := fun scripts => scripts.1 origin
  split at shield
  · simp only at shield
    split at shield
    · cases shield
      rw [absorb_origin, origin]
    · cases shield
      exact origin
  · cases shield
    exact origin

/-- Without an origin there is no call behind the scripts. -/
theorem changeHealth_of_none (origin : damage.origin = .none) (again other : Creature → CombatDamage → Outcome) :
    changeHealth target damage attackerPlayer again = changeHealth target damage attackerPlayer other := by
  unfold changeHealth
  have quiet : ∀ target : Creature, ¬ (damage.origin ≠ .none ∧ target.healthChange ≠ []) :=
    fun _ scripts => scripts.1 origin
  simp only [if_neg (quiet target)]
  split
  · rfl
  split
  · split
    · rfl
    split
    · rfl
    split
    · rfl
    split
    · rfl
    next left rest shield =>
      have none : rest.origin = .none := manaShield_origin (by exact origin) shield
      split
      · rfl
      rw [if_neg (fun scripts => scripts.1 none), if_neg (fun scripts => scripts.1 none)]
  · rfl

theorem changeHealth_congr {again other : Creature → CombatDamage → Outcome}
    (same : ∀ (target : Creature) (damage : CombatDamage), damage.origin = .none → again target damage = other target damage) :
    changeHealth target damage attackerPlayer again = changeHealth target damage attackerPlayer other := by
  have behind (target : Creature) (damage : CombatDamage) :
      again target (target.scripted damage) = other target (target.scripted damage) :=
    same target (target.scripted damage) rfl
  unfold changeHealth
  simp only [behind]

/-- The function calls itself behind the scripts, as the source says. -/
theorem combatChangeHealth_eq : combatChangeHealth attackerPlayer target damage =
    changeHealth target damage attackerPlayer (combatChangeHealth attackerPlayer) := by
  unfold combatChangeHealth
  apply changeHealth_congr
  intro target damage origin
  exact changeHealth_of_none origin _ _

end

section
variable {attackerPlayer : Option Attacker} {target : Creature} {damage : CombatDamage}

/-- No script is called for the creature. -/
structure Creature.Calm (creature : Creature) : Prop where
  healthChange : creature.healthChange = []
  manaChange : creature.manaChange = []
  prepareDeath : creature.prepareDeath = []

def Creature.shielded (creature : Creature) (type : CombatType) : Bool :=
  creature.isPlayer && creature.manaShield && type ≠ .undefinedDamage

def Creature.manaTaken (creature : Creature) (type : CombatType) (total : Nat) : Nat :=
  if creature.shielded type then min creature.mana total else 0

def Creature.less (creature : Creature) (mana health : Nat) : Creature :=
  { creature with
    mana := if creature.infiniteMana then creature.mana else creature.mana - mana
    health := creature.health - health }

theorem less_zero (creature : Creature) : creature.less 0 0 = creature := by
  simp [Creature.less]

theorem less_less (creature : Creature) (mana health : Nat) :
    (creature.less mana 0).less 0 (min creature.health health) = creature.less mana (min creature.health health) := by
  cases infinite : creature.infiniteMana <;> simp [Creature.less, infinite]

theorem manaTaken_le (creature : Creature) (type : CombatType) (total : Nat) : creature.manaTaken type total ≤ total := by
  unfold Creature.manaTaken
  split
  · exact Nat.min_le_right _ _
  · exact Nat.zero_le _

theorem drainMana_eq (fits : target.mana < 2147483648) {loss : Nat} (enough : loss ≤ target.mana) :
    target.drainMana loss = target.less loss 0 := by
  unfold Creature.drainMana Creature.changeMana Creature.less
  by_cases infinite : target.infiniteMana = true
  · rw [if_pos infinite, if_pos infinite, Nat.sub_zero]
  · have kept : toInt32 ((target.mana : Int) + -(loss : Int)) = target.mana - loss :=
      toInt32_of_fits (by omega) (by omega)
    have left : (max 0 ((target.mana : Int) - loss)).toNat = target.mana - loss := by omega
    simp [infinite, kept, left]

theorem drainHealth_eq (fits : target.health < 2147483648) {loss : Nat} (enough : loss ≤ target.health) :
    target.drainHealth loss = target.less 0 loss := by
  have kept : toInt32 ((target.health : Int) + -(loss : Int)) = target.health - loss :=
    toInt32_of_fits (by omega) (by omega)
  have left : (max 0 ((target.health : Int) - loss)).toNat = target.health - loss := by omega
  simp [Creature.drainHealth, Creature.changeHealth, Creature.less, kept, left]

theorem manaShield_spec (calm : target.Calm) (fits : target.mana < 2147483648) (amounts : damage.Amounts) :
    ∃ rest : CombatDamage, manaShield target damage =
        (target.less (target.manaTaken damage.primary.type damage.total.toNat) 0, some rest) ∧ rest.Amounts ∧
      rest.total = damage.total - target.manaTaken damage.primary.type damage.total.toNat := by
  have total := amounts.total
  have positive : 0 ≤ damage.total := by
    have := amounts.primary
    have := amounts.secondary
    omega
  unfold manaShield Creature.manaTaken Creature.shielded
  split
  next up =>
    have mana : toInt32 target.mana = target.mana := toInt32_of_fits (by omega) (by omega)
    have taken : min (toInt32 target.mana) damage.total = (min target.mana damage.total.toNat : Nat) := by
      rw [mana]
      omega
    have within : (min target.mana damage.total.toNat : Nat) ≤ damage.total := by omega
    obtain ⟨amounts', total'⟩ := absorb_spec amounts (Int.natCast_nonneg _) within
    simp only [calm.manaChange, ne_eq, not_true_eq_false, and_false, if_false, taken]
    split
    next some_ =>
      exact ⟨_, by rw [drainMana_eq fits (Nat.min_le_left _ _)], amounts', total'⟩
    next zero =>
      have zero : min target.mana damage.total.toNat = 0 := by omega
      rw [zero]
      exact ⟨damage, by rw [less_zero], amounts, by simp⟩
  next down =>
    exact ⟨damage, by rw [less_zero], amounts, by simp⟩

theorem drain_target (calm : target.prepareDeath = []) (fits : target.health < 2147483648) (amounts : damage.Amounts) :
    (drain target damage).target = target.less 0 (min target.health damage.total.toNat) := by
  have total := amounts.total
  have := amounts.primary
  have := amounts.secondary
  have real := limit_total amounts fits
  have taken : (damage.limit target.health).total = (min target.health damage.total.toNat : Nat) := by omega
  unfold drain
  simp only [calm, List.all_nil, Bool.not_true, Bool.and_false, Bool.false_eq_true, if_false, taken]
  split
  next none =>
    have zero : min target.health damage.total.toNat = 0 := by omega
    rw [zero, less_zero]
  next some_ => exact drainHealth_eq fits (Nat.min_le_left _ _)

end

section
variable {attackerPlayer : Option Attacker} {target : Creature} {damage : CombatDamage}

def Creature.spared (creature : Creature) (attackerPlayer : Option Attacker) (damage : CombatDamage) : Bool :=
  damage.primary.type = .healing || !creature.isAttackable || creature.refuses attackerPlayer

section
variable (harm : damage.primary.value ≤ 0) (again : Creature → CombatDamage → Outcome)
include harm

theorem changeHealth_spared (spared : target.spared attackerPlayer damage = true) :
    (changeHealth target damage attackerPlayer again).target = target := by
  unfold changeHealth
  rw [if_neg (by omega)]
  by_cases healing : damage.primary.type = .healing
  · rw [if_neg (fun other => other healing)]
  rw [if_pos healing]
  cases attackable : target.isAttackable
  · rfl
  have refused : target.refuses attackerPlayer = true := by simpa [Creature.spared, healing, attackable] using spared
  rw [if_neg (by decide), if_pos refused]

variable (hit : ¬ target.spared attackerPlayer damage = true)
include hit

/-- A damage that hits goes on with its amounts. -/
theorem changeHealth_of_hit : changeHealth target damage attackerPlayer again =
    if damage.magnitude.total = 0 then ⟨true, target, damage.magnitude⟩
    else
      match manaShield target damage.magnitude with
      | (target, none) => ⟨true, target, damage.magnitude⟩
      | (target, some damage) =>
        if damage.total = 0 then ⟨true, target, damage⟩
        else if damage.origin ≠ .none ∧ target.healthChange ≠ [] then again target (target.scripted damage)
        else drain target damage := by
  simp only [Creature.spared, Bool.or_eq_true, decide_eq_true_eq, not_or, Bool.not_eq_true', Bool.not_eq_false] at hit
  obtain ⟨⟨harmful, attackable⟩, accepted⟩ := hit
  unfold changeHealth
  rw [if_neg (by omega), if_pos harmful, attackable, if_neg (by decide), if_neg accepted]

end

theorem magnitude_amounts (fits : damage.primary.value.natAbs + damage.secondary.value.natAbs < 2147483648) :
    damage.magnitude.Amounts ∧
      damage.magnitude.total = (damage.primary.value.natAbs + damage.secondary.value.natAbs : Nat) := by
  have primary : toInt32 damage.primary.value.natAbs = damage.primary.value.natAbs :=
    toInt32_of_fits (by omega) (by omega)
  have secondary : toInt32 damage.secondary.value.natAbs = damage.secondary.value.natAbs :=
    toInt32_of_fits (by omega) (by omega)
  have amounts : damage.magnitude.Amounts := by
    constructor <;> simp only [CombatDamage.magnitude, primary, secondary] <;> omega
  refine ⟨amounts, ?_⟩
  rw [amounts.total]
  simp only [CombatDamage.magnitude, primary, secondary]
  omega

/-- A damage that is no healing takes what it can from the mana, if the shield is up, and the rest from the health. -/
theorem combatChangeHealth_drains (calm : target.Calm) (mana : target.mana < 2147483648) (health : target.health < 2147483648)
    (harm : damage.primary.value ≤ 0)
    (fits : damage.primary.value.natAbs + damage.secondary.value.natAbs < 2147483648) :
    let total := damage.primary.value.natAbs + damage.secondary.value.natAbs
    let taken := target.manaTaken damage.primary.type total
    (combatChangeHealth attackerPlayer target damage).target =
      if target.spared attackerPlayer damage then target else target.less taken (min target.health (total - taken)) := by
  intro total taken
  unfold combatChangeHealth
  by_cases spared : target.spared attackerPlayer damage = true
  · rw [if_pos spared]
    exact changeHealth_spared harm _ spared
  rw [if_neg spared]
  obtain ⟨amounts, magnitude⟩ := magnitude_amounts fits
  obtain ⟨rest, shield, left, sum⟩ := manaShield_spec calm mana amounts
  have whole : damage.magnitude.total.toNat = total := by omega
  rw [whole] at shield sum
  change manaShield target damage.magnitude = (target.less taken 0, some rest) at shield
  change rest.total = damage.magnitude.total - (taken : Nat) at sum
  have bound : taken ≤ total := manaTaken_le _ _ _
  by_cases nothing : damage.magnitude.total = 0
  · have none_taken : taken = 0 := by omega
    have none_left : total - taken = 0 := by omega
    rw [changeHealth_of_hit harm _ spared, if_pos nothing, none_left, none_taken, Nat.min_zero, less_zero]
  rw [changeHealth_of_hit harm _ spared, if_neg nothing, shield]
  dsimp only
  by_cases absorbed : rest.total = 0
  · have all : total - taken = 0 := by omega
    rw [if_pos absorbed, all, Nat.min_zero]
  · have quiet : ¬ (rest.origin ≠ .none ∧ (target.less taken 0).healthChange ≠ []) := fun scripts => scripts.2 calm.healthChange
    have back : rest.total.toNat = total - taken := by omega
    have drained : (drain (target.less taken 0) rest).target = _ := drain_target calm.prepareDeath health left
    rw [back] at drained
    rw [if_neg absorbed, if_neg quiet]
    exact drained.trans (less_less _ _ _)

def mage : Creature := { isPlayer := true, health := 100, maxHealth := 150, mana := 30, maxMana := 90, manaShield := true }

def fireball : CombatDamage := { primary := ⟨.fireDamage, -50⟩, secondary := ⟨.energyDamage, -20⟩ }

theorem combatChangeHealth_drains_mage : (combatChangeHealth none mage fireball).target =
    if mage.spared none fireball then mage else mage.less (mage.manaTaken .fireDamage 70)
      (min mage.health (70 - mage.manaTaken .fireDamage 70)) :=
  combatChangeHealth_drains ⟨rfl, rfl, rfl⟩ (by decide) (by decide) (by decide) (by decide)

def potion : CombatDamage := { primary := ⟨.healing, 10⟩ }

/-- A damage whose primary value is positive drains nothing: the target gains it. -/
theorem potion_heals : ¬ ∀ (attackerPlayer : Option Attacker) (target : Creature) (damage : CombatDamage), target.Calm →
    target.mana < 2147483648 → target.health < 2147483648 →
    damage.primary.value.natAbs + damage.secondary.value.natAbs < 2147483648 →
    (combatChangeHealth attackerPlayer target damage).target =
      target.less (target.manaTaken damage.primary.type (damage.primary.value.natAbs + damage.secondary.value.natAbs))
        (min target.health (damage.primary.value.natAbs + damage.secondary.value.natAbs -
          target.manaTaken damage.primary.type (damage.primary.value.natAbs + damage.secondary.value.natAbs))) := by
  intro drains
  have after := drains none mage potion ⟨rfl, rfl, rfl⟩ (by decide) (by decide) (by decide)
  exact absurd (congrArg Creature.health after) (by decide)

end

end Styller.Combat
