import Styller.Condition.Ledger

/-! One flag of a creature for all its conditions that disable its defense. -/

namespace Styller.Conditions

open Library List

namespace ActiveCondition
variable (condition : ActiveCondition)

/-- A `ConditionAttributes` with `disableDefense`. -/
def disables : Bool :=
  match condition.effect with
  | .attributes data => data.disableDefense
  | .speed _ _ => false

/-- A `ConditionAttributes` without. -/
def allows : Bool :=
  match condition.effect with
  | .attributes data => !data.disableDefense
  | .speed _ _ => false

end ActiveCondition

section
variable (isPlayer : Bool) (around : Surroundings) (creature : Bearer)

/-- The four updates, for a player only. -/
def updateOn (data : Attributes) : Bearer × Attributes :=
  if isPlayer then applyAttributes around creature data else (creature, data)

/-- `startCondition` on any creature. -/
def startOn (condition : ActiveCondition) : Bearer × ActiveCondition :=
  match condition.effect with
  | .attributes data =>
    let (creature, data) := updateOn isPlayer around { creature with useDefense := !data.disableDefense } data
    (creature, { condition with
      endTime := if condition.ticks > 0 then condition.ticks.toInt + around.now else condition.endTime
      effect := .attributes data })
  | .speed _ _ => startCondition around creature condition

/-- `endCondition` on any creature. -/
def endOn (condition : ActiveCondition) : Bearer :=
  match isPlayer, condition.effect with
  | false, .attributes data => { creature with useDefense := if data.disableDefense then true else creature.useDefense }
  | _, _ => endCondition creature condition

/-- `addCondition` of an active condition on any creature. -/
def refreshOn (condition added : ActiveCondition) : Bearer × ActiveCondition :=
  match condition.effect, added.effect with
  | .attributes _, .attributes conditionAttrs =>
    if condition.updateCondition added around.now then
      let (creature, data) := updateOn isPlayer around (endOn isPlayer creature condition) conditionAttrs
      (creature, { condition.setTicks added.ticks around.now with effect := .attributes data })
    else (creature, condition)
  | _, _ => refresh around creature condition added

end

section
variable (isPlayer : Bool) (creature : Bearer)

/-- `Creature::addCondition` -/
def addOn (around : Surroundings) (condition : ActiveCondition) (force : Bool) : Bearer :=
  if !force && condition.conditionType = .haste && hasCondition creature around .paralyze && around.walkDelay > 0 then creature
  else
    match creature.conditions.span fun active => !isFor condition active with
    | (front, prevCond :: back) =>
      let (creature, prevCond) := refreshOn isPlayer around creature prevCond condition
      { creature with conditions := front ++ prevCond :: back }
    | (_, []) =>
      let (creature, condition) := startOn isPlayer around creature condition
      { creature with conditions := creature.conditions ++ [condition] }

def removeIfOn (goes : ActiveCondition → Bool) : Bearer :=
  { (creature.conditions.filter goes).foldl (endOn isPlayer) creature with
    conditions := creature.conditions.filter fun condition => !goes condition }

def goesBy (type : ConditionType) (id : Option Int8) (condition : ActiveCondition) : Bool :=
  condition.conditionType = type && (id.isNone || id = some condition.id)

/-- `Creature::removeCondition` by the type, or by the type and the id. -/
def removeOn (type : ConditionType) (id : Option Int8) (force : Bool) (walkDelay : Int) : Bearer :=
  if keepsParalyzed type force walkDelay then creature else removeIfOn isPlayer creature (goesBy type id)

/-- `Creature::removeCondition` by the place. -/
def removeAtOn (place : Nat) (force : Bool) (walkDelay : Int) : Bearer :=
  match creature.conditions[place]? with
  | some condition =>
    if keepsParalyzed condition.conditionType force walkDelay then creature
    else { endOn isPlayer creature condition with conditions := creature.conditions.eraseIdx place }
  | none => creature

/-- `Creature::executeConditions` -/
def executeOn (interval : Int32) (now : Int) : Bearer :=
  removeIfOn isPlayer { creature with conditions := creature.conditions.map fun condition => condition.tick interval }
    fun condition => condition.isOver now

/-- What happens to the conditions of any creature; only a player has a death that ends some. -/
def stepOn : Event → Bearer
  | .add around condition force => addOn isPlayer creature around condition force
  | .remove type id force walkDelay => removeOn isPlayer creature type id force walkDelay
  | .removeAt place force walkDelay => removeAtOn isPlayer creature place force walkDelay
  | .execute interval now => executeOn isPlayer creature interval now
  | .death => if isPlayer then removeIfOn isPlayer creature ActiveCondition.isPersistent else creature
  | .setTicks place ticks now =>
    { creature with conditions := creature.conditions.modify place fun condition => condition.setTicks ticks now }

end

section
variable (around : Surroundings) (player : Bearer)

theorem startOn_player : startOn true around player = startCondition around player := by
  funext condition
  unfold startOn startCondition startEffect
  cases condition.effect with
  | attributes data => rfl
  | speed paralyzes data => rfl

theorem refreshOn_player : refreshOn true around player = refresh around player := by
  funext condition added
  unfold refreshOn refresh
  cases condition.effect with
  | attributes old =>
    cases added.effect with
    | attributes data => rfl
    | speed paralyzes data => rfl
  | speed paralyzes old => rfl

/-- On a player these are the steps that keep its modifiers. -/
theorem stepOn_player : stepOn true = step := by
  funext player event
  cases event with
  | add around condition force =>
    show addOn true player around condition force = addCondition player around condition force
    unfold addOn addCondition
    have refreshes : refreshOn true around player = refresh around player := refreshOn_player around player
    have starts : startOn true around player = startCondition around player := startOn_player around player
    exact refreshes ▸ starts ▸ rfl
  | remove type id force walkDelay => rfl
  | removeAt place force walkDelay => rfl
  | execute interval now => rfl
  | death => rfl
  | setTicks place ticks now => rfl

end

def disabled (conditions : List ActiveCondition) : Bool := conditions.any ActiveCondition.disables

/-- The creature may use its defense just when no active condition disables it. -/
def Defends (creature : Bearer) : Prop :=
  creature.useDefense = true ↔ ∀ condition ∈ creature.conditions, condition.disables = false

/-- Where some conditions end, one that disables the defense is among them only if none of those that stay disables it. -/
def FitsEnd (conditions : List ActiveCondition) (goes : ActiveCondition → Bool) : Prop :=
  disabled (conditions.filter goes) = true → disabled (conditions.filter fun condition => !goes condition) = false

/-- A refresh that takes away the disabled defense leaves none disabled, and one that disables it finds it disabled by others. -/
def FitsRefresh (prevCond added : ActiveCondition) (others : List ActiveCondition) : Prop :=
  if prevCond.disables then added.disables = false ∧ disabled others = false
  else added.disables = true → disabled others = true

/-- One that starts and does not disable the defense finds none that does. -/
def FitsAdd (creature : Bearer) (around : Surroundings) (condition : ActiveCondition) (force : Bool) : Prop :=
  if !force && condition.conditionType = .haste && hasCondition creature around .paralyze && around.walkDelay > 0 then True
  else
    match creature.conditions.span fun active => !isFor condition active with
    | (front, prevCond :: back) =>
      prevCond.updateCondition condition around.now = true → FitsRefresh prevCond condition (front ++ back)
    | (_, []) => condition.allows = true → disabled creature.conditions = false

/-- The steps after which the flag is right again. -/
def Fits (isPlayer : Bool) (creature : Bearer) : Event → Prop
  | .add around condition force => FitsAdd creature around condition force
  | .remove type id force walkDelay =>
    keepsParalyzed type force walkDelay = false → FitsEnd creature.conditions (goesBy type id)
  | .removeAt place force walkDelay => ∀ condition, creature.conditions[place]? = some condition →
      keepsParalyzed condition.conditionType force walkDelay = false →
        condition.disables = true → disabled (creature.conditions.eraseIdx place) = false
  | .execute interval now =>
    FitsEnd (creature.conditions.map fun condition => condition.tick interval) fun condition => condition.isOver now
  | .death => isPlayer = true → FitsEnd creature.conditions ActiveCondition.isPersistent
  | .setTicks _ _ _ => True

section
variable {isPlayer : Bool} {around : Surroundings} {creature : Bearer} {condition added : ActiveCondition}

theorem disabled_eq_false {conditions : List ActiveCondition} :
    disabled conditions = false ↔ ∀ condition ∈ conditions, condition.disables = false := by
  unfold disabled
  rw [any_eq_false]
  simp

theorem defends_iff : Defends creature ↔ creature.useDefense = !disabled creature.conditions := by
  unfold Defends
  rw [← disabled_eq_false]
  cases creature.useDefense with
  | true | false =>
    cases disabled creature.conditions with
    | true => decide
    | false => decide

theorem disabled_append (first second : List ActiveCondition) : disabled (first ++ second) = (disabled first || disabled second) :=
  any_append

theorem disabled_middle (front back : List ActiveCondition) (condition : ActiveCondition) :
    disabled (front ++ condition :: back) = (condition.disables || disabled (front ++ back)) := by
  rw [disabled_append, disabled_append]
  unfold disabled
  rw [any_cons]
  exact Bool.or_left_comm ..

theorem disabled_filter (conditions : List ActiveCondition) (goes : ActiveCondition → Bool) : disabled conditions =
    (disabled (conditions.filter goes) || disabled (conditions.filter fun condition => !goes condition)) := by
  rw [← disabled_append]
  unfold disabled
  exact (filter_append_perm goes conditions).any_eq.symm

theorem updateOn_useDefense (data : Attributes) : (updateOn isPlayer around creature data).1.useDefense = creature.useDefense ∧
    (updateOn isPlayer around creature data).1.conditions = creature.conditions ∧
    (updateOn isPlayer around creature data).2.disableDefense = data.disableDefense := by
  unfold updateOn
  cases isPlayer with
  | true | false => exact ⟨rfl, rfl, rfl⟩

theorem endOn_useDefense (creature : Bearer) (condition : ActiveCondition) :
    (endOn isPlayer creature condition).useDefense = (condition.disables || creature.useDefense) := by
  unfold endOn endCondition ActiveCondition.disables
  cases condition.effect with
  | attributes data =>
    cases isPlayer with
    | true =>
      dsimp only
      cases data.disableDefense with
      | true => rfl
      | false => rfl
    | false =>
      dsimp only
      cases data.disableDefense with
      | true => rfl
      | false => rfl
  | speed paralyzes data =>
    cases isPlayer with
    | true => rfl
    | false => rfl

theorem foldl_endOn (conditions : List ActiveCondition) (creature : Bearer) :
    (conditions.foldl (endOn isPlayer) creature).useDefense = (disabled conditions || creature.useDefense) := by
  induction conditions generalizing creature with
  | nil => rfl
  | cons condition rest ih =>
    rw [foldl_cons, ih, endOn_useDefense]
    unfold disabled
    rw [any_cons, Bool.or_left_comm, Bool.or_assoc]

/-- What starts sets the flag if it is a condition of attributes. -/
theorem startOn_useDefense : (startOn isPlayer around creature condition).1.useDefense =
      (condition.allows || !condition.disables && creature.useDefense) ∧
    (startOn isPlayer around creature condition).1.conditions = creature.conditions ∧
    (startOn isPlayer around creature condition).2.disables = condition.disables := by
  cases effect : condition.effect with
  | attributes data =>
    obtain ⟨flag, conditions, disables⟩ :=
      @updateOn_useDefense isPlayer around { creature with useDefense := !data.disableDefense } data
    unfold startOn ActiveCondition.allows ActiveCondition.disables
    rw [effect]
    refine ⟨?_, conditions, disables⟩
    rw [flag]
    dsimp only
    cases data.disableDefense with
    | true => rfl
    | false => rfl
  | speed paralyzes data =>
    unfold startOn startCondition ActiveCondition.allows ActiveCondition.disables
    rw [effect]
    exact ⟨rfl, rfl, rfl⟩

theorem conditionType_ne {first second : ActiveCondition} {held : Attributes} {paralyzes : Bool} {data : ConditionSpeed}
    (attributes : first.effect = .attributes held) (speed : second.effect = .speed paralyzes data) :
    first.conditionType ≠ second.conditionType := by
  unfold ActiveCondition.conditionType
  rw [attributes, speed]
  cases paralyzes with
  | true | false => exact nofun

/-- A refresh that comes about ends what was there and does not start what comes. -/
theorem refreshOn_useDefense (same : condition.conditionType = added.conditionType) :
    if condition.updateCondition added around.now then
      (refreshOn isPlayer around creature condition added).1.useDefense = (condition.disables || creature.useDefense) ∧
        (refreshOn isPlayer around creature condition added).2.disables = added.disables
    else
      (refreshOn isPlayer around creature condition added).1.useDefense = creature.useDefense ∧
        (refreshOn isPlayer around creature condition added).2.disables = condition.disables := by
  cases old : condition.effect with
  | attributes held =>
    cases new : added.effect with
    | attributes data =>
      obtain ⟨flag, _, disables⟩ := @updateOn_useDefense isPlayer around (endOn isPlayer creature condition) data
      unfold refreshOn
      rw [old, new]
      dsimp only
      by_cases updates : condition.updateCondition added around.now = true
      · rw [if_pos updates, if_pos updates]
        refine ⟨flag.trans (endOn_useDefense creature condition), ?_⟩
        unfold ActiveCondition.disables
        rw [new]
        exact disables
      · rw [if_neg updates, if_neg updates]
        exact ⟨rfl, rfl⟩
    | speed paralyzes data =>
      exact absurd same (conditionType_ne old new)
  | speed paralyzes held =>
    cases new : added.effect with
    | attributes data =>
      exact absurd same.symm (conditionType_ne new old)
    | speed slower data =>
      have both : (refreshOn isPlayer around creature condition added).1.useDefense = creature.useDefense ∧
          (refreshOn isPlayer around creature condition added).2.disables = false := by
        unfold refreshOn refresh
        rw [old, new]
        dsimp only
        split
        · refine ⟨rfl, ?_⟩
          unfold ActiveCondition.disables
          rw [old]
        · split
          · exact ⟨rfl, rfl⟩
          · exact ⟨rfl, rfl⟩
      have none : condition.disables = false ∧ added.disables = false := by
        unfold ActiveCondition.disables
        rw [old, new]
        exact ⟨rfl, rfl⟩
      rw [none.1, none.2, Bool.false_or]
      split
      · exact both
      · exact both

/-- What some conditions that end leave of the flag. -/
theorem defends_removeIfOn {goes : ActiveCondition → Bool} (defends : Defends creature) :
    Defends (removeIfOn isPlayer creature goes) ↔ FitsEnd creature.conditions goes := by
  rw [defends_iff] at defends ⊢
  unfold removeIfOn FitsEnd
  dsimp only
  rw [foldl_endOn, defends, disabled_filter creature.conditions goes]
  generalize disabled (creature.conditions.filter goes) = gone
  generalize disabled (creature.conditions.filter fun condition => !goes condition) = stays
  cases gone with
  | true | false => simp

/-- The flag after a refresh. -/
theorem defends_refresh {front back : List ActiveCondition} (defends : Defends creature)
    (conditions : creature.conditions = front ++ condition :: back) (same : condition.conditionType = added.conditionType) :
    Defends { (refreshOn isPlayer around creature condition added).1 with
        conditions := front ++ (refreshOn isPlayer around creature condition added).2 :: back } ↔
      (condition.updateCondition added around.now = true → FitsRefresh condition added (front ++ back)) := by
  rw [defends_iff] at defends ⊢
  have refreshed := @refreshOn_useDefense isPlayer around creature condition added same
  dsimp only
  rw [conditions, disabled_middle] at defends
  rw [disabled_middle]
  by_cases updates : condition.updateCondition added around.now = true
  · rw [if_pos updates] at refreshed
    rw [refreshed.1, refreshed.2, defends]
    unfold FitsRefresh
    generalize disabled (front ++ back) = others
    cases condition.disables with
    | true | false =>
      cases others with
      | true => simp [updates]
      | false => simp [updates]
  · rw [if_neg updates] at refreshed
    rw [refreshed.1, refreshed.2, defends]
    exact iff_of_true rfl fun taken => absurd taken updates

/-- The flag after a start. -/
theorem defends_start (defends : Defends creature) :
    Defends { (startOn isPlayer around creature condition).1 with
        conditions := (startOn isPlayer around creature condition).1.conditions ++ [(startOn isPlayer around creature condition).2] } ↔
      (condition.allows = true → disabled creature.conditions = false) := by
  obtain ⟨flag, conditions, disables⟩ := @startOn_useDefense isPlayer around creature condition
  have apart : condition.allows = true → condition.disables = false := by
    unfold ActiveCondition.allows ActiveCondition.disables
    cases condition.effect with
    | attributes data => exact (Bool.not_eq_true' _).mp
    | speed paralyzes data => exact fun _ => rfl
  rw [defends_iff] at defends ⊢
  dsimp only
  have last : disabled [(startOn isPlayer around creature condition).2] = condition.disables := by
    unfold disabled
    rw [any_cons, any_nil, Bool.or_false, disables]
  rw [flag, conditions, disabled_append, last, defends]
  generalize disabled creature.conditions = already
  cases allows : condition.allows with
  | true =>
    rw [apart allows]
    cases already with
    | true => decide
    | false => decide
  | false =>
    cases condition.disables with
    | true => simp
    | false => simp

theorem defends_addOn (defends : Defends creature) (force : Bool) :
    Defends (addOn isPlayer creature around condition force) ↔ FitsAdd creature around condition force := by
  have parts : creature.conditions = (creature.conditions.span fun active => !isFor condition active).1 ++
      (creature.conditions.span fun active => !isFor condition active).2 := by
    rw [span_eq_takeWhile_dropWhile, takeWhile_append_dropWhile]
  have first : ∀ prevCond ∈ (creature.conditions.span fun active => !isFor condition active).2.head?,
      isFor condition prevCond = true := by
    rw [span_eq_takeWhile_dropWhile]
    intro prevCond head
    have found := head?_dropWhile_not (fun active => !isFor condition active) creature.conditions
    rw [Option.mem_def.mp head] at found
    simpa using found
  unfold addOn FitsAdd
  by_cases waits : (!force && condition.conditionType = .haste && hasCondition creature around .paralyze &&
      around.walkDelay > 0) = true
  · rw [if_pos waits, if_pos waits]
    exact iff_of_true defends trivial
  · rw [if_neg waits, if_neg waits]
    generalize (creature.conditions.span fun active => !isFor condition active) = halves at parts first ⊢
    obtain ⟨front, back⟩ := halves
    cases back with
    | nil => exact defends_start defends
    | cons prevCond back =>
      have same := first prevCond rfl
      unfold isFor at same
      simp only [Bool.and_eq_true, decide_eq_true_eq] at same
      exact defends_refresh defends parts same.1.1

theorem disabled_eraseIdx {place : Nat} {conditions : List ActiveCondition} (found : conditions[place]? = some condition) :
    disabled conditions = (condition.disables || disabled (conditions.eraseIdx place)) := by
  obtain ⟨inside, here⟩ := List.getElem?_eq_some_iff.mp found
  have parts : conditions = conditions.take place ++ condition :: conditions.drop (place + 1) := by
    rw [← here, ← drop_eq_getElem_cons inside, take_append_drop]
  conv_lhs => rw [parts, disabled_middle]
  rw [eraseIdx_eq_take_drop_succ]

theorem defends_removeAtOn (defends : Defends creature) (place : Nat) (force : Bool) (walkDelay : Int) :
    Defends (removeAtOn isPlayer creature place force walkDelay) ↔ Fits isPlayer creature (.removeAt place force walkDelay) := by
  unfold removeAtOn Fits
  cases found : creature.conditions[place]? with
  | none =>
    refine iff_of_true defends ?_
    intro condition is
    exact absurd (found.symm.trans is) (Option.some_ne_none condition).symm
  | some condition =>
    dsimp only
    by_cases keeps : keepsParalyzed condition.conditionType force walkDelay = true
    · rw [if_pos keeps]
      refine iff_of_true defends ?_
      intro other is goes
      rw [found, Option.some.injEq] at is
      rw [← is, keeps] at goes
      exact absurd goes.symm Bool.false_ne_true
    · have whole := disabled_eraseIdx found
      rw [defends_iff, whole] at defends
      rw [if_neg keeps, defends_iff]
      dsimp only
      rw [endOn_useDefense, defends]
      constructor
      · intro flag other is _ disables
        rw [found, Option.some.injEq] at is
        rw [← is] at disables
        rw [disables] at flag
        exact (Bool.not_eq_true' _).mp flag.symm
      · intro fits
        have stays := fits condition found (Bool.eq_false_of_not_eq_true keeps)
        cases disables : condition.disables with
        | true =>
          rw [stays disables]
          rfl
        | false => rfl

/-- The flag after one step. -/
theorem defends_stepOn (isPlayer : Bool) (creature : Bearer) (event : Event) (defends : Defends creature) :
    Defends (stepOn isPlayer creature event) ↔ Fits isPlayer creature event := by
  cases event with
  | add around condition force => exact defends_addOn defends force
  | remove type id force walkDelay =>
    show Defends (removeOn isPlayer creature type id force walkDelay) ↔ _
    unfold removeOn Fits
    by_cases keeps : keepsParalyzed type force walkDelay = true
    · rw [if_pos keeps]
      exact iff_of_true defends fun goes => absurd (goes.symm.trans keeps) Bool.false_ne_true
    · rw [if_neg keeps, defends_removeIfOn defends]
      exact ⟨fun fits _ => fits, fun fits => fits (Bool.eq_false_of_not_eq_true keeps)⟩
  | removeAt place force walkDelay => exact defends_removeAtOn defends place force walkDelay
  | execute interval now =>
    have ticked : Defends { creature with conditions := creature.conditions.map fun condition => condition.tick interval } := by
      rw [defends_iff] at defends ⊢
      dsimp only
      rw [defends]
      unfold disabled
      rw [any_map]
      congr 2
      funext condition
      simp only [Function.comp_apply, ActiveCondition.tick]
      split
      · rfl
      · rfl
    exact defends_removeIfOn ticked
  | death =>
    show Defends (if isPlayer then removeIfOn isPlayer creature ActiveCondition.isPersistent else creature) ↔ _
    unfold Fits
    cases isPlayer with
    | true =>
      rw [if_pos rfl, defends_removeIfOn defends]
      exact ⟨fun fits _ => fits, fun fits => fits rfl⟩
    | false =>
      rw [if_neg Bool.false_ne_true]
      exact iff_of_true defends fun player => absurd player Bool.false_ne_true
  | setTicks place ticks now =>
    have kept : disabled (creature.conditions.modify place fun condition => condition.setTicks ticks now) =
        disabled creature.conditions := by
      unfold disabled
      generalize creature.conditions = conditions
      induction conditions generalizing place with
      | nil => rw [modify_nil]
      | cons condition rest ih =>
        cases place with
        | zero => rfl
        | succ place => rw [modify_succ_cons, any_cons, ih, any_cons]
    rw [defends_iff] at defends
    refine iff_of_true (defends_iff.mpr ?_) trivial
    exact defends.trans (congrArg (! ·) kept.symm)

end

/-- Along a run from a creature without conditions, it may use its defense just when no active condition disables it, if and only
if every step fits. -/
theorem defends_along (isPlayer : Bool) (vars : Modifiers) (baseSpeed : UInt32) (events : List Event) :
    Always (stepOn isPlayer) Defends ⟨vars, baseSpeed, true, []⟩ events ↔
      Throughout (stepOn isPlayer) (Fits isPlayer) ⟨vars, baseSpeed, true, []⟩ events := by
  have stays : ∀ (creature : Bearer) (event : Event), True → True := fun _ _ => id
  have keeps : ∀ creature event, True → Defends creature → (Defends (stepOn isPlayer creature event) ↔ Fits isPlayer creature event) :=
    fun creature event _ defends => defends_stepOn isPlayer creature event defends
  exact always_iff_throughout (fun _ => True) stays keeps trivial
    (iff_of_true rfl fun condition mem => absurd mem not_mem_nil) events

/-- Disarmed for ten seconds. -/
def disarmed : ActiveCondition where
  id := Condition.idCombat
  subId := 0
  ticks := 10000
  effect := .attributes { disableDefense := true }

/-- Nothing in the way, at some time. -/
def calm (now : Int) : Surroundings where
  skill := fun _ _ _ => 0
  stat := fun _ _ _ => 0
  formula := fun _ _ => 0
  now
  walkDelay := 0
  isSuppress := fun _ => false

/-- The same condition a second later: its refresh ends the old one and does not start the new one. -/
theorem disarmed_twice : ¬ ∀ events, Always (stepOn false) Defends ⟨⟨0, 0, 0, 0⟩, 220, true, []⟩ events := by
  intro defends
  have last := (defends [.add (calm 0) disarmed false, .add (calm 1000) disarmed false]).last
  exact absurd (last.mp rfl _ mem_cons_self) (by decide)

end Styller.Conditions
