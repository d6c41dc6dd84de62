import Mathlib.Algebra.Group.Pi.Basic
import Mathlib.Algebra.Group.Prod
import Mathlib.Algebra.Group.TransferInstance
import Styller.Condition.Condition
import Styller.Library.Ledger
import Styller.Library.Run

/-! What the conditions of attributes and speed do to a player while they are active: what is added to its skills, stats and
speed when they start, exchanged when they are refreshed and taken away when they end. -/

namespace Styller.Conditions

open Library Ledger List

/-- `varSkills`, `varSpecialSkills`, `varStats` and `varSpeed` of a player, or what is added to them. -/
@[ext] structure Modifiers where
  skills : Fin 7 → Int32
  specialSkills : Fin 6 → Int32
  stats : Fin 4 → Int32
  speed : Int32

def Modifiers.components : Modifiers ≃ (Fin 7 → Int32) × (Fin 6 → Int32) × (Fin 4 → Int32) × Int32 where
  toFun modifiers := (modifiers.skills, modifiers.specialSkills, modifiers.stats, modifiers.speed)
  invFun parts := ⟨parts.1, parts.2.1, parts.2.2.1, parts.2.2.2⟩
  left_inv _ := rfl
  right_inv _ := rfl

instance : AddCommGroup Modifiers := Modifiers.components.addCommGroup

section
variable (first second : Modifiers)

@[simp] theorem add_skills : (first + second).skills = first.skills + second.skills := rfl
@[simp] theorem add_specialSkills : (first + second).specialSkills = first.specialSkills + second.specialSkills := rfl
@[simp] theorem add_stats : (first + second).stats = first.stats + second.stats := rfl
@[simp] theorem add_speed : (first + second).speed = first.speed + second.speed := rfl
@[simp] theorem sub_skills : (first - second).skills = first.skills - second.skills := rfl
@[simp] theorem sub_specialSkills : (first - second).specialSkills = first.specialSkills - second.specialSkills := rfl
@[simp] theorem sub_stats : (first - second).stats = first.stats - second.stats := rfl
@[simp] theorem sub_speed : (first - second).speed = first.speed - second.speed := rfl

end

/-- The arrays of `ConditionAttributes`. -/
structure Attributes where
  skills : Fin 7 → Int32 := 0
  skillsPercent : Fin 7 → Int32 := 0
  specialSkills : Fin 6 → Int32 := 0
  stats : Fin 4 → Int32 := 0
  statsPercent : Fin 4 → Int32 := 0
  disableDefense : Bool := false

inductive Effect where
  | attributes (data : Attributes)
  | speed (paralyzes : Bool) (data : ConditionSpeed)

def Effect.conditionType : Effect → ConditionType
  | attributes _ => .attributes
  | speed false _ => .haste
  | speed true _ => .paralyze

structure ActiveCondition where
  id : Int8
  subId : UInt32
  ticks : Int32
  endTime : Int := 0
  effect : Effect

namespace ActiveCondition
variable (condition : ActiveCondition)

def conditionType : ConditionType := condition.effect.conditionType

def setTicks (ticks : Int32) (now : Int) : ActiveCondition := { condition with ticks, endTime := ticks.toInt + now }

/-- `Condition::executeCondition`, but for its answer. -/
def tick (interval : Int32) : ActiveCondition :=
  if condition.ticks = -1 then condition else { condition with ticks := max 0 (condition.ticks - interval) }

/-- `Condition::executeCondition` answers that the condition is over. -/
def isOver (now : Int) : Bool := condition.ticks ≠ -1 && !decide (condition.endTime ≥ now)

/-- `Condition::isPersistent`, for these two classes. -/
def isPersistent : Bool :=
  condition.ticks ≠ -1 && (condition.id = Condition.idDefault || condition.id = Condition.idCombat)

def updateCondition (addCondition : ActiveCondition) (now : Int) : Bool :=
  if condition.conditionType ≠ addCondition.conditionType then false
  else if condition.ticks = -1 ∧ addCondition.ticks > 0 then false
  else !(addCondition.ticks ≥ 0 && condition.endTime > now + addCondition.ticks.toInt)

/-- What an active condition contributes. -/
def amount : Modifiers :=
  match condition.effect with
  | .attributes data => ⟨data.skills, data.specialSkills, data.stats, 0⟩
  | .speed _ data => ⟨0, 0, 0, data.speedDelta⟩

end ActiveCondition

/-- A player as far as its conditions go. -/
structure Bearer where
  vars : Modifiers
  baseSpeed : UInt32
  useDefense : Bool := true
  conditions : List ActiveCondition := []

/-- What a condition reads of the rest of the player and the world when it starts or is refreshed: the skills and stats that a
percentage makes, the random speed that a formula makes, the time, and what else keeps a haste waiting. -/
structure Surroundings where
  skill : Bearer → Fin 7 → Int32 → Int32
  stat : Bearer → Fin 4 → Int32 → Int32
  formula : UInt32 → ConditionSpeed → Int32
  now : Int
  walkDelay : Int
  isSuppress : ConditionType → Bool

section
variable (around : Surroundings) (player : Bearer)

/-- `ConditionAttributes::updatePercentSkills`. -/
def updatePercentSkills (data : Attributes) : Attributes :=
  { data with skills := fun i => if data.skillsPercent i = 0 then data.skills i else around.skill player i (data.skillsPercent i) }

/-- `ConditionAttributes::updateSkills`. -/
def updateSkills (data : Attributes) : Bearer :=
  { player with vars := { player.vars with
      skills := fun i => if data.skills i ≠ 0 then player.vars.skills i + data.skills i else player.vars.skills i
      specialSkills := fun i =>
        if data.specialSkills i ≠ 0 then player.vars.specialSkills i + data.specialSkills i else player.vars.specialSkills i } }

/-- `ConditionAttributes::updatePercentStats`; soul points have no percentage. -/
def updatePercentStats (data : Attributes) : Attributes :=
  { data with stats := fun i =>
      if data.statsPercent i = 0 then data.stats i
      else if i = 2 then data.stats i
      else around.stat player i (data.statsPercent i) }

/-- `ConditionAttributes::updateStats`. -/
def updateStats (data : Attributes) : Bearer :=
  { player with vars := { player.vars with
      stats := fun i => if data.stats i ≠ 0 then player.vars.stats i + data.stats i else player.vars.stats i } }

/-- The four updates one after the other. -/
def applyAttributes (data : Attributes) : Bearer × Attributes :=
  let data := updatePercentSkills around player data
  let player := updateSkills player data
  let data := updatePercentStats around player data
  (updateStats player data, data)

/-- `Creature::getSpeed`. -/
def getSpeed : Int32 := (player.baseSpeed + player.vars.speed.toUInt32).toInt32

/-- `Game::changeSpeed`. -/
def changeSpeed (varSpeedDelta : Int32) : Bearer :=
  { player with vars := { player.vars with
      speed := ((getSpeed player).toUInt32 - player.baseSpeed).toInt32 + varSpeedDelta } }

def chooseSpeed (data : ConditionSpeed) : ConditionSpeed :=
  if data.speedDelta = 0 then { data with speedDelta := around.formula player.baseSpeed data } else data

/-- What `startCondition` does in each class, and what the condition is then. -/
def startEffect : Effect → Bearer × Effect
  | .attributes data =>
    let (player, data) := applyAttributes around { player with useDefense := !data.disableDefense } data
    (player, .attributes data)
  | .speed paralyzes data =>
    let data := chooseSpeed around player data
    (changeSpeed player data.speedDelta, .speed paralyzes data)

def startCondition (condition : ActiveCondition) : Bearer × ActiveCondition :=
  let (player, effect) := startEffect around player condition.effect
  (player, { condition with
    endTime := if condition.ticks > 0 then condition.ticks.toInt + around.now else condition.endTime
    effect })

def endCondition (condition : ActiveCondition) : Bearer :=
  match condition.effect with
  | .attributes data =>
    { player with
      vars := { player.vars with
        skills := fun i =>
          if data.skills i ≠ 0 ∨ data.skillsPercent i ≠ 0 then player.vars.skills i + -data.skills i else player.vars.skills i
        specialSkills := fun i =>
          if data.specialSkills i ≠ 0 then player.vars.specialSkills i + -data.specialSkills i else player.vars.specialSkills i
        stats := fun i => if data.stats i ≠ 0 then player.vars.stats i + -data.stats i else player.vars.stats i }
      useDefense := if data.disableDefense then true else player.useDefense }
  | .speed _ data => changeSpeed player (-data.speedDelta)

/-- `addCondition` of an active condition, with one of the same type. -/
def refresh (condition added : ActiveCondition) : Bearer × ActiveCondition :=
  match condition.effect, added.effect with
  | .attributes _, .attributes conditionAttrs =>
    if condition.updateCondition added around.now then
      let (player, data) := applyAttributes around (endCondition player condition) conditionAttrs
      (player, { condition.setTicks added.ticks around.now with effect := .attributes data })
    else (player, condition)
  | .speed paralyzes old, .speed _ conditionSpeed =>
    if condition.ticks = -1 ∧ added.ticks > 0 then (player, condition)
    else
      let data := chooseSpeed around player conditionSpeed
      let newSpeedChange := data.speedDelta - old.speedDelta
      (if newSpeedChange ≠ 0 then changeSpeed player newSpeedChange else player,
        { condition.setTicks added.ticks around.now with effect := .speed paralyzes data })
  | _, _ => (player, condition)

end

section
variable (player : Bearer)

/-- `Creature::hasCondition`, with sub id 0. -/
def hasCondition (around : Surroundings) (type : ConditionType) : Bool :=
  !around.isSuppress type && player.conditions.any fun condition =>
    condition.conditionType = type && condition.subId = 0 && (decide (condition.endTime ≥ around.now) || condition.ticks = -1)

/-- `Creature::getCondition` finds the condition for the one that is added. -/
def isFor (added condition : ActiveCondition) : Bool :=
  condition.conditionType = added.conditionType && condition.id = added.id && condition.subId = added.subId

/-- `Creature::addCondition`; what waits for the walk is added later by force. -/
def addCondition (around : Surroundings) (condition : ActiveCondition) (force : Bool) : Bearer :=
  if !force && condition.conditionType = .haste && hasCondition player around .paralyze && around.walkDelay > 0 then player
  else
    match player.conditions.span fun active => !isFor condition active with
    | (front, prevCond :: back) =>
      let (player, prevCond) := refresh around player prevCond condition
      { player with conditions := front ++ prevCond :: back }
    | (_, []) =>
      let (player, condition) := startCondition around player condition
      { player with conditions := player.conditions ++ [condition] }

/-- The loops that erase and end the conditions that have to go, one after the other; ending one does not look at the others. -/
def removeIf (goes : ActiveCondition → Bool) : Bearer :=
  { (player.conditions.filter goes).foldl endCondition player with
    conditions := player.conditions.filter fun condition => !goes condition }

def keepsParalyzed (type : ConditionType) (force : Bool) (walkDelay : Int) : Bool :=
  !force && type = .paralyze && walkDelay > 0

/-- `Creature::removeCondition` by the type, or by the type and the id. -/
def removeCondition (type : ConditionType) (id : Option Int8) (force : Bool) (walkDelay : Int) : Bearer :=
  if keepsParalyzed type force walkDelay then player
  else removeIf player fun condition => condition.conditionType = type && (id.isNone || id = some condition.id)

/-- `Creature::removeCondition` of the condition that a pointer leads to, here its place. -/
def removeConditionAt (place : Nat) (force : Bool) (walkDelay : Int) : Bearer :=
  match player.conditions[place]? with
  | some condition =>
    if keepsParalyzed condition.conditionType force walkDelay then player
    else { endCondition player condition with conditions := player.conditions.eraseIdx place }
  | none => player

def executeConditions (interval : Int32) (now : Int) : Bearer :=
  removeIf { player with conditions := player.conditions.map fun condition => condition.tick interval } fun condition =>
    condition.isOver now

inductive Event where
  | add (around : Surroundings) (condition : ActiveCondition) (force : Bool)
  | remove (type : ConditionType) (id : Option Int8) (force : Bool) (walkDelay : Int)
  | removeAt (place : Nat) (force : Bool) (walkDelay : Int)
  | execute (interval : Int32) (now : Int)
  /-- `Player::death` ends those that are persistent. -/
  | death
  /-- `Player::onCombatRemoveCondition` gives a condition other ticks where it does not remove it. -/
  | setTicks (place : Nat) (ticks : Int32) (now : Int)

def step : Event → Bearer
  | .add around condition force => addCondition player around condition force
  | .remove type id force walkDelay => removeCondition player type id force walkDelay
  | .removeAt place force walkDelay => removeConditionAt player place force walkDelay
  | .execute interval now => executeConditions player interval now
  | .death => removeIf player ActiveCondition.isPersistent
  | .setTicks place ticks now =>
    { player with conditions := player.conditions.modify place fun condition => condition.setTicks ticks now }

end

section
variable {around : Surroundings} {player : Bearer} {condition added : ActiveCondition} {data : Attributes}

theorem add_if {i : Fin n} (value : Fin n → Int32) (delta : Fin n → Int32) :
    (if delta i ≠ 0 then value i + delta i else value i) = value i + delta i := by
  split
  · rfl
  · rename_i none
    rw [not_not.mp none, Int32.add_zero]

theorem getSpeed_sub (player : Bearer) : ((getSpeed player).toUInt32 - player.baseSpeed).toInt32 = player.vars.speed := by
  have cancel : player.baseSpeed + player.vars.speed.toUInt32 - player.baseSpeed = player.vars.speed.toUInt32 := by
    rw [UInt32.add_comm, UInt32.add_sub_cancel]
  exact congrArg UInt32.toInt32 cancel

theorem changeSpeed_vars (delta : Int32) : (changeSpeed player delta).vars = player.vars + ⟨0, 0, 0, delta⟩ := by
  unfold changeSpeed
  rw [getSpeed_sub]
  ext i <;> simp

theorem applyAttributes_vars : (applyAttributes around player data).1.vars =
    player.vars + ⟨(applyAttributes around player data).2.skills, (applyAttributes around player data).2.specialSkills,
      (applyAttributes around player data).2.stats, 0⟩ := by
  unfold applyAttributes updateStats updateSkills
  ext i
  · exact add_if _ _
  · exact add_if _ _
  · exact add_if _ _
  · exact (Int32.add_zero _).symm

theorem speed_sub (first second : Int32) : (⟨0, 0, 0, first - second⟩ : Modifiers) = ⟨0, 0, 0, first⟩ - ⟨0, 0, 0, second⟩ := by
  ext i <;> simp

/-- What ends is what the condition contributes now. -/
theorem endCondition_vars (player : Bearer) (condition : ActiveCondition) :
    (endCondition player condition).vars = player.vars - condition.amount := by
  unfold endCondition ActiveCondition.amount
  cases condition.effect with
  | attributes data =>
    ext i
    · simp only [sub_skills, Pi.sub_apply, Int32.sub_eq_add_neg]
      split
      · rfl
      · rename_i none
        rw [not_not.mp (not_or.mp none).1, Int32.neg_zero, Int32.add_zero]
    · simp only [sub_specialSkills, Pi.sub_apply, Int32.sub_eq_add_neg]
      split
      · rfl
      · rename_i none
        rw [not_not.mp none, Int32.neg_zero, Int32.add_zero]
    · simp only [sub_stats, Pi.sub_apply, Int32.sub_eq_add_neg]
      split
      · rfl
      · rename_i none
        rw [not_not.mp none, Int32.neg_zero, Int32.add_zero]
    · simp
  | speed paralyzes data =>
    rw [changeSpeed_vars]
    ext i <;> simp [Int32.sub_eq_add_neg]

theorem startCondition_vars : (startCondition around player condition).1.vars =
    player.vars + (startCondition around player condition).2.amount := by
  unfold startCondition ActiveCondition.amount
  cases condition.effect with
  | attributes data => exact applyAttributes_vars
  | speed paralyzes data => exact changeSpeed_vars _

@[simp] theorem startCondition_conditions : (startCondition around player condition).1.conditions = player.conditions := by
  unfold startCondition
  cases condition.effect with
  | attributes data => rfl
  | speed paralyzes data => rfl

/-- A refresh takes away what the condition contributed and adds what it contributes now. -/
theorem refresh_vars : (refresh around player condition added).1.vars =
    player.vars - condition.amount + (refresh around player condition added).2.amount := by
  have same : player.vars = player.vars - condition.amount + condition.amount := (sub_add_cancel _ _).symm
  unfold refresh
  cases was : condition.effect with
  | attributes old =>
    cases now : added.effect with
    | attributes data =>
      simp only
      split
      · rw [applyAttributes_vars, endCondition_vars]
        rfl
      · exact same
    | speed paralyzes data => exact same
  | speed paralyzes old =>
    cases now : added.effect with
    | attributes data => exact same
    | speed slower data =>
      simp only
      split
      · exact same
      · have amount : condition.amount = ⟨0, 0, 0, old.speedDelta⟩ := by
          rw [ActiveCondition.amount, was]
        split
        · rw [changeSpeed_vars, speed_sub, amount, ← add_sub_assoc, ← sub_add_eq_add_sub]
          rfl
        · rename_i none
          have held : (⟨0, 0, 0, (chooseSpeed around player data).speedDelta⟩ : Modifiers) = condition.amount := by
            rw [sub_eq_zero.mp (not_not.mp none), amount]
          exact same.trans (congrArg (fun held => player.vars - condition.amount + held) held.symm)

theorem foldl_endCondition (conditions : List ActiveCondition) (player : Bearer) :
    (conditions.foldl endCondition player).vars =
      conditions.foldl (fun total condition => total - condition.amount) player.vars := by
  induction conditions generalizing player with
  | nil => rfl
  | cons condition rest ih => rw [foldl_cons, ih, endCondition_vars, foldl_cons]

end

/-- The modifiers of a player are those of a baseline and what its active conditions contribute. -/
def Kept (baseline : Modifiers) (player : Bearer) : Prop :=
  Balanced ActiveCondition.amount baseline player.vars player.conditions

section
variable {baseline : Modifiers} {player : Bearer}

theorem kept_removeIf (kept : Kept baseline player) (goes : ActiveCondition → Bool) : Kept baseline (removeIf player goes) := by
  have settled := kept.settle goes
  unfold Kept removeIf
  rw [foldl_endCondition]
  exact settled

theorem kept_addCondition (kept : Kept baseline player) (around : Surroundings) (condition : ActiveCondition) (force : Bool) :
    Kept baseline (addCondition player around condition force) := by
  have parts : player.conditions = (player.conditions.span fun active => !isFor condition active).1 ++
      (player.conditions.span fun active => !isFor condition active).2 := by
    rw [span_eq_takeWhile_dropWhile, takeWhile_append_dropWhile]
  unfold addCondition
  split
  · exact kept
  · split
    · rename_i front prevCond back found
      rw [found] at parts
      have balanced : Balanced ActiveCondition.amount baseline player.vars (front ++ prevCond :: back) := parts ▸ kept
      have replaced := balanced.replace (refresh around player prevCond condition).2
      rw [← refresh_vars] at replaced
      exact replaced
    · have pushed := kept.push (startCondition around player condition).2
      rw [← startCondition_vars, ← startCondition_conditions] at pushed
      exact pushed

theorem kept_removeConditionAt (kept : Kept baseline player) (place : Nat) (force : Bool) (walkDelay : Int) :
    Kept baseline (removeConditionAt player place force walkDelay) := by
  unfold removeConditionAt
  split
  · rename_i condition found
    split
    · exact kept
    · obtain ⟨inside, here⟩ := List.getElem?_eq_some_iff.mp found
      have parts : player.conditions = player.conditions.take place ++ condition :: player.conditions.drop (place + 1) := by
        rw [← here, ← drop_eq_getElem_cons inside, take_append_drop]
      have balanced : Balanced ActiveCondition.amount baseline player.vars
          (player.conditions.take place ++ condition :: player.conditions.drop (place + 1)) := parts ▸ kept
      have removed := balanced.remove
      rw [← endCondition_vars, ← eraseIdx_eq_take_drop_succ] at removed
      exact removed
  · exact kept

/-- What conditions contribute does not depend on their ticks. -/
theorem kept_changed {changed : List ActiveCondition} (kept : Kept baseline player)
    (same : changed.map ActiveCondition.amount = player.conditions.map ActiveCondition.amount) :
    Kept baseline { player with conditions := changed } := Balanced.congr kept same

theorem map_modify_setTicks (place : Nat) (ticks : Int32) (now : Int) (conditions : List ActiveCondition) :
    (conditions.modify place fun condition => condition.setTicks ticks now).map ActiveCondition.amount =
      conditions.map ActiveCondition.amount := by
  induction conditions generalizing place with
  | nil => rw [modify_nil]
  | cons condition rest ih =>
    cases place with
    | zero => rfl
    | succ place => rw [modify_succ_cons, map_cons, ih, map_cons]

/-- One step keeps the ledger. -/
theorem kept_step (kept : Kept baseline player) (event : Event) : Kept baseline (step player event) := by
  cases event with
  | add around condition force => exact kept_addCondition kept around condition force
  | remove type id force walkDelay =>
    unfold step removeCondition
    simp only
    split
    · exact kept
    · exact kept_removeIf kept _
  | removeAt place force walkDelay => exact kept_removeConditionAt kept place force walkDelay
  | execute interval now =>
    apply kept_removeIf
    apply kept_changed kept
    rw [map_map]
    apply map_congr_left
    intro condition _
    simp only [Function.comp_apply, ActiveCondition.tick]
    split
    · rfl
    · rfl
  | death => exact kept_removeIf kept _
  | setTicks place ticks now =>
    apply kept_changed kept
    exact map_modify_setTicks place ticks now player.conditions

/-- Along every run from a player without conditions, its skills, special skills, stats and speed are the baseline and the sums
of what the active conditions hold, and the baseline where no condition is active. -/
theorem modifiers_kept (baseline : Modifiers) (baseSpeed : UInt32) (useDefense : Bool) (events : List Event) :
    Always step (fun player => player.vars = baseline + (player.conditions.map ActiveCondition.amount).sum ∧
      (player.conditions = [] → player.vars = baseline)) ⟨baseline, baseSpeed, useDefense, []⟩ events := by
  have start : Kept baseline ⟨baseline, baseSpeed, useDefense, []⟩ := balanced_nil.mpr rfl
  have keeps : ∀ player event, Kept baseline player → Kept baseline (step player event) :=
    fun player event kept => kept_step kept event
  apply (always_of_kept keeps start events).mono
  intro player kept
  refine ⟨kept, ?_⟩
  intro none
  rw [Kept, none] at kept
  exact balanced_nil.mp kept

end

end Styller.Conditions
