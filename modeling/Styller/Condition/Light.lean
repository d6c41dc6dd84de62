import Styller.Condition.RoundTrip

/-! The divisions by the level of a light: the levels that scripts and stored conditions can have. -/

namespace Styller.Condition

open Library

inductive ConditionParam where
  | ticks
  | buffSpell
  | subId
  | aggressive
  | lightLevel
  | lightColor
  | other
  deriving DecidableEq

section
variable (condition : Condition) (param : ConditionParam) (value : Int32)

/-- `Condition::setParam` of the base class; `none` where it returns false. -/
def setBaseParam : Option Condition :=
  match param with
  | .ticks => some { condition with ticks := value }
  | .buffSpell => some { condition with isBuff := value ≠ 0 }
  | .subId => some { condition with subId := value.toUInt32 }
  | .aggressive => some { condition with aggressive := value ≠ 0 }
  | _ => none

/-- `ConditionLight::setParam` -/
def setParam : Bool × Condition :=
  match setBaseParam condition param value with
  | some changed => (false, changed)
  | none =>
    match condition.fields, param with
    | .light data, .lightLevel => (true, { condition with fields := .light { data with level := value.toUInt32.toUInt8 } })
    | .light data, .lightColor => (true, { condition with fields := .light { data with color := value.toUInt32.toUInt8 } })
    | _, _ => (false, condition)

end

structure Timed where
  condition : Condition
  endTime : Int := 0

structure LightInfo where
  level : UInt8
  color : UInt8

/-- A division of integers, where it has a result. -/
def divide (ticks : Int32) (level : UInt8) : Option Int32 :=
  if level = 0 then none else some (ticks / level.toUInt32.toInt32)

/-- `ConditionLight::startCondition`: the condition and the light that the creature gets. -/
def startLight (now : Int) (timed : Timed) : Option (Timed × LightInfo) :=
  match timed.condition.fields with
  | .light data => do
    let endTime := if timed.condition.ticks > 0 then timed.condition.ticks.toInt + now else timed.endTime
    let lightChangeInterval ← divide timed.condition.ticks data.level
    let data := { data with internalLightTicks := 0, lightChangeInterval := lightChangeInterval.toUInt32 }
    some (⟨{ timed.condition with fields := .light data }, endTime⟩, ⟨data.level, data.color⟩)
  | _ => none

/-- `Condition::updateCondition` -/
def updates (now : Int) (timed : Timed) (added : Condition) : Bool :=
  if timed.condition.conditionType ≠ added.conditionType then false
  else if timed.condition.ticks = -1 ∧ added.ticks > 0 then false
  else !(added.ticks ≥ 0 && timed.endTime > now + added.ticks.toInt)

/-- `ConditionLight::addCondition`: the condition and, where it is refreshed, the light that the creature gets. -/
def addLight (now : Int) (timed : Timed) (added : Condition) : Option (Timed × Option LightInfo) :=
  match timed.condition.fields, added.fields with
  | .light data, .light conditionLight =>
    if updates now timed added then do
      let data := { data with level := conditionLight.level, color := conditionLight.color }
      let lightChangeInterval ← divide added.ticks data.level
      let data := { data with internalLightTicks := 0, lightChangeInterval := lightChangeInterval.toUInt32 }
      some (⟨{ timed.condition with ticks := added.ticks, fields := .light data }, added.ticks.toInt + now⟩,
        some ⟨data.level, data.color⟩)
    else some (timed, none)
  | _, _ => none

/-- Where a light can come from. -/
inductive Source where
  /-- `createCondition`, and the parameters that are set afterwards. -/
  | script (id : Int8) (ticks param : Int32) (buff : Bool) (subId : UInt32) (aggressive : Bool)
    (params : List (ConditionParam × Int32))
  /-- A stream at the place where the condition is stored. -/
  | blob (bytes : Bytes)

/-- The light of a source. -/
def Source.produce : Source → Option Condition
  | script id ticks param buff subId aggressive params =>
    (createCondition id .light ticks param buff subId aggressive).map fun condition =>
      params.foldl (fun condition param => (setParam condition param.1 param.2).2) condition
  | blob bytes =>
    match createFrom.run bytes with
    | (some condition, rest) =>
      if condition.fields.conditionClass = .light then
        match (unserialize condition).run rest with
        | (some (true, condition), _) => some condition
        | _ => none
      else none
    | (none, _) => none

/-- How many bytes an attribute of a light has. -/
def attrSize : ConditionAttr → Nat
  | .isBuff | .isAggressive | .lightColor | .lightLevel => 1
  | _ => 4

/-- The last level that is stored in some attributes, or the one before. -/
def storedLevel : Nat → UInt8 → Bytes → UInt8
  | 0, level, _ => level
  | _ + 1, level, [] => level
  | rounds + 1, level, tag :: bytes =>
    if tag = ConditionAttr.endCode then level
    else
      match ConditionAttr.ofCode tag with
      | some attr => storedLevel rounds (if attr = .lightLevel then bytes.headD level else level) (bytes.drop (attrSize attr))
      | none => level

def lastLevel (level : UInt8) (params : List (ConditionParam × Int32)) : UInt8 :=
  ((params.filter fun param => param.1 = .lightLevel).getLast?.map fun param => param.2.toUInt32.toUInt8).getD level

def headSize : Nat := 5 + 5 + 5 + 2 + 5 + 2

/-- The level that a source gives: the parameter that is set last, else the low byte of the parameter that the light is created with;
or the attribute that is stored last. -/
def Source.level : Source → UInt8
  | script _ _ param _ _ _ params => lastLevel param.toUInt32.toUInt8 params
  | blob bytes => storedLevel ((bytes.drop headSize).length + 1) 0 (bytes.drop headSize)

variable {condition added : Condition} {data : ConditionLight} {bytes rest : Bytes}

theorem setParam_light (param : ConditionParam) (value : Int32) (light : condition.fields = .light data) :
    ∃ after, (setParam condition param value).2.fields = .light after ∧
      after.level = if param = .lightLevel then value.toUInt32.toUInt8 else data.level := by
  unfold setParam setBaseParam
  cases param with
  | ticks | buffSpell | subId | aggressive => exact ⟨data, light, rfl⟩
  | lightLevel | lightColor =>
    rw [light]
    exact ⟨_, rfl, rfl⟩
  | other =>
    rw [light]
    exact ⟨data, light, rfl⟩

theorem lastLevel_cons (level : UInt8) (param : ConditionParam × Int32) (params : List (ConditionParam × Int32)) :
    lastLevel level (param :: params) = lastLevel (if param.1 = .lightLevel then param.2.toUInt32.toUInt8 else level) params := by
  unfold lastLevel
  by_cases sets : param.1 = .lightLevel
  · rw [List.filter_cons_of_pos (by simpa using sets), if_pos sets, List.getLast?_cons]
    cases (params.filter fun param => param.1 = .lightLevel).getLast? with
    | none => rfl
    | some last => rfl
  · rw [List.filter_cons_of_neg (by simpa using sets), if_neg sets]

/-- Parameters one after the other. -/
theorem foldl_setParam (params : List (ConditionParam × Int32)) (light : condition.fields = .light data) :
    ∃ after, (params.foldl (fun condition param => (setParam condition param.1 param.2).2) condition).fields = .light after ∧
      after.level = lastLevel data.level params := by
  induction params generalizing condition data with
  | nil => exact ⟨data, light, rfl⟩
  | cons param params ih =>
    obtain ⟨after, is, level⟩ := setParam_light param.1 param.2 light
    obtain ⟨last, last_is, last_level⟩ := ih is
    refine ⟨last, last_is, ?_⟩
    rw [last_level, lastLevel_cons, level]

theorem read_some {α : Type} [Raw α] {value : α} (reads : (Reader.read α).run bytes = (some value, rest)) :
    Raw.size α ≤ bytes.length ∧ value = Raw.value (bytes.take (Raw.size α)) ∧ rest = bytes.drop (Raw.size α) := by
  unfold Reader.read at reads
  dsimp only at reads
  split at reads
  · exact absurd (congrArg Prod.fst reads).symm (Option.some_ne_none value)
  · next enough =>
    rw [Prod.mk.injEq, Option.some.injEq] at reads
    exact ⟨Nat.le_of_not_lt enough, reads.1.symm, reads.2.symm⟩

theorem bind_some {α β : Type} {first : Reader α} {next : α → Reader β} {result : β}
    (reads : (first >>= next).run bytes = (some result, rest)) :
    ∃ value middle, first.run bytes = (some value, middle) ∧ (next value).run middle = (some result, rest) := by
  change (match first.run bytes with
    | (some value, rest) => (next value).run rest
    | (none, rest) => (none, rest)) = _ at reads
  split at reads
  · next value middle found => exact ⟨value, middle, found, reads⟩
  · cases reads

/-- An attribute of a value that leaves the level. -/
theorem keeps_level {α : Type} [Raw α] {set : α → Condition} {handled : Handled Condition}
    (reads : (do let value ← Reader.read α; pure (.more (set value)) : Reader (Handled Condition)).run bytes = (some handled, rest))
    (keeps : ∀ value, ∃ after, (set value).fields = .light after ∧ after.level = data.level) :
    rest = bytes.drop (Raw.size α) ∧ ∃ after data', handled = .more after ∧ after.fields = .light data' ∧ data'.level = data.level := by
  obtain ⟨value, middle, found, ends⟩ := bind_some reads
  obtain ⟨_, _, dropped⟩ := read_some found
  change (some (Handled.more (set value)), middle) = _ at ends
  rw [Prod.mk.injEq, Option.some.injEq] at ends
  obtain ⟨after, fields, level⟩ := keeps value
  exact ⟨ends.2.symm.trans dropped, _, after, ends.1.symm, fields, level⟩

theorem unserializeBase_light (light : condition.fields = .light data) {attr : ConditionAttr} {handled : Handled Condition}
    (reads : (unserializeBase condition attr).run bytes = (some handled, rest)) :
    rest = bytes.drop (attrSize attr) ∧ ∃ after data', handled = .more after ∧ after.fields = .light data' ∧
      data'.level = data.level := by
  unfold unserializeBase at reads
  cases attr with
  | type | id | ticks | isBuff | subId | isAggressive =>
    dsimp only at reads
    exact keeps_level reads fun _ => ⟨data, light, rfl⟩
  | _ => exact absurd (congrArg Prod.fst reads).symm (Option.some_ne_none handled)

/-- An attribute of a light that could be read. -/
theorem unserializeAttr_light (light : condition.fields = .light data) {attr : ConditionAttr} {handled : Handled Condition}
    (reads : (unserializeAttr condition attr).run bytes = (some handled, rest)) :
    rest = bytes.drop (attrSize attr) ∧ ∃ after data', handled = .more after ∧ after.fields = .light data' ∧
      data'.level = if attr = .lightLevel then bytes.headD data.level else data.level := by
  have other (base : (unserializeBase condition attr).run bytes = (some handled, rest)) (apart : attr ≠ .lightLevel) :
      rest = bytes.drop (attrSize attr) ∧ ∃ after data', handled = .more after ∧ after.fields = .light data' ∧
        data'.level = if attr = .lightLevel then bytes.headD data.level else data.level := by
    rw [if_neg apart]
    exact unserializeBase_light light base
  unfold unserializeAttr at reads
  rw [light] at reads
  cases attr with
  | lightColor | lightTicks | lightInterval => exact keeps_level reads fun _ => ⟨_, rfl, rfl⟩
  | lightLevel =>
    obtain ⟨value, middle, found, ends⟩ := bind_some reads
    obtain ⟨enough, is, dropped⟩ := read_some found
    change (some (Handled.more _), middle) = _ at ends
    rw [Prod.mk.injEq, Option.some.injEq] at ends
    refine ⟨ends.2.symm.trans dropped, _, _, ends.1.symm, rfl, ?_⟩
    rw [if_pos rfl, is]
    cases bytes with
    | nil => exact absurd enough (by decide)
    | cons byte rest => rfl
  | _ => exact other reads (by decide)

/-- The attributes of a light that could all be read. -/
theorem fieldsLoop_light (rounds : Nat) {after : Condition} (light : condition.fields = .light data)
    (reads : fieldsLoop ConditionAttr.endCode unserializeProp rounds condition bytes = ((true, after), rest)) :
    ∃ data', after.fields = .light data' ∧ data'.level = storedLevel rounds data.level bytes := by
  induction rounds generalizing condition data bytes with
  | zero =>
    cases reads
    exact ⟨data, light, rfl⟩
  | succ rounds ih =>
    cases bytes with
    | nil =>
      cases reads
      exact ⟨data, light, rfl⟩
    | cons tag bytes =>
      unfold fieldsLoop at reads
      unfold storedLevel
      by_cases ends : tag = ConditionAttr.endCode
      · rw [if_pos ends] at reads ⊢
        cases reads
        exact ⟨data, light, rfl⟩
      · rw [if_neg ends] at reads ⊢
        unfold unserializeProp at reads
        cases attr_is : ConditionAttr.ofCode tag with
        | none =>
          rw [attr_is] at reads
          cases reads
        | some attr =>
          rw [attr_is] at reads
          dsimp only at reads ⊢
          generalize read : (unserializeAttr condition attr).run bytes = result at reads
          obtain ⟨handled, middle⟩ := result
          cases handled with
          | none => cases reads
          | some handled =>
            obtain ⟨rfl, next, next_data, rfl, next_light, level⟩ := unserializeAttr_light light read
            obtain ⟨last, last_light, last_level⟩ := ih next_light reads
            exact ⟨last, last_light, level ▸ last_level⟩

theorem expect_some {attr : ConditionAttr} (reads : (expect attr).run bytes = (some (), rest)) : rest = bytes.drop 1 := by
  obtain ⟨value, middle, found, ends⟩ := bind_some reads
  obtain ⟨_, _, dropped⟩ := read_some found
  split at ends
  · cases ends
    exact dropped
  · cases ends

theorem head_some {α β : Type} [Raw α] {attr : ConditionAttr} {next : α → Reader β} {result : β}
    (reads : (do expect attr; let value ← Reader.read α; next value : Reader β).run bytes = (some result, rest)) :
    ∃ value, (next value).run (bytes.drop (1 + Raw.size α)) = (some result, rest) := by
  obtain ⟨_, behind, first, second⟩ := bind_some reads
  obtain ⟨value, middle, found, ends⟩ := bind_some second
  obtain ⟨_, _, dropped⟩ := read_some found
  refine ⟨value, ?_⟩
  rw [← List.drop_drop, ← expect_some first, ← dropped]
  exact ends

theorem createFrom_light (reads : createFrom.run bytes = (some condition, rest)) (light : condition.fields.conditionClass = .light) :
    rest = bytes.drop headSize ∧ ∃ data, condition.fields = .light data ∧ data.level = 0 := by
  unfold createFrom at reads
  obtain ⟨type, reads⟩ := head_some reads
  obtain ⟨id, reads⟩ := head_some reads
  obtain ⟨ticks, reads⟩ := head_some reads
  obtain ⟨buff, reads⟩ := head_some reads
  obtain ⟨subId, reads⟩ := head_some reads
  obtain ⟨aggressive, reads⟩ := head_some reads
  simp only [List.drop_drop] at reads
  generalize ConditionType.ofCode type = type at reads
  cases type with
  | light =>
    cases reads
    exact ⟨rfl, _, rfl, rfl⟩
  | none => cases reads
  | other code => cases reads
  | _ =>
    cases reads
    cases light

theorem produce_level {source : Source} (made : source.produce = some condition) :
    ∃ data, condition.fields = .light data ∧ data.level = source.level := by
  cases source with
  | script id ticks param buff subId aggressive params =>
    unfold Source.produce createCondition at made
    cases made
    let data : ConditionLight := { level := param.toUInt32.toUInt8, color := (param.toUInt32 >>> 8).toUInt8 }
    exact @foldl_setParam ⟨.light, id, ticks, buff, subId, aggressive, .light data⟩ data params rfl
  | blob bytes =>
    rcases found : createFrom.run bytes with ⟨created, rest⟩
    simp only [Source.produce, found] at made
    cases created with
    | none => cases made
    | some created =>
      dsimp only at made
      by_cases light : created.fields.conditionClass = .light
      · rw [if_pos light] at made
        obtain ⟨rfl, data, fields, zero⟩ := createFrom_light found light
        unfold unserialize readFields at made
        dsimp only at made
        generalize read : fieldsLoop ConditionAttr.endCode unserializeProp ((bytes.drop headSize).length + 1) created
          (bytes.drop headSize) = loop at made
        obtain ⟨⟨complete, after⟩, rest⟩ := loop
        cases complete with
        | false => cases made
        | true =>
          cases made
          obtain ⟨last, last_light, level⟩ := fieldsLoop_light _ fields read
          exact ⟨last, last_light, level.trans (congrArg (storedLevel _ · _) zero)⟩
      · rw [if_neg light] at made
        cases made

theorem divide_isSome (ticks : Int32) (level : UInt8) : (divide ticks level).isSome = true ↔ level ≠ 0 := by
  unfold divide
  by_cases zero : level = 0
  · rw [if_pos zero]
    exact iff_of_false Bool.false_ne_true fun some => some zero
  · rw [if_neg zero]
    exact iff_of_true rfl zero

theorem startLight_isSome (now : Int) {timed : Timed} (light : timed.condition.fields = .light data) :
    (startLight now timed).isSome = true ↔ data.level ≠ 0 := by
  rw [← divide_isSome timed.condition.ticks]
  unfold startLight
  rw [light]
  dsimp only
  cases divide timed.condition.ticks data.level with
  | none => exact Iff.rfl
  | some interval => exact iff_of_true rfl rfl

theorem addLight_isSome (now : Int) {timed : Timed} {old : ConditionLight} (active : timed.condition.fields = .light old)
    (light : added.fields = .light data) :
    (addLight now timed added).isSome = true ↔ (updates now timed added = true → data.level ≠ 0) := by
  rw [← divide_isSome added.ticks]
  unfold addLight
  rw [active, light]
  dsimp only
  by_cases refreshes : updates now timed added = true
  · rw [if_pos refreshes]
    have taken : (updates now timed added = true → (divide added.ticks data.level).isSome = true) ↔
        (divide added.ticks data.level).isSome = true := ⟨fun divides => divides refreshes, fun divides _ => divides⟩
    rw [taken]
    cases divide added.ticks data.level with
    | none => exact Iff.rfl
    | some interval => exact iff_of_true rfl rfl
  · rw [if_neg refreshes]
    exact iff_of_true rfl fun taken => absurd taken refreshes

/-- A light starts without a division by zero, and refreshes another one without, where its source gives it a level; a refresh that
does not come about does not divide. -/
theorem light_divides (source : Source) (condition : Condition) (made : source.produce = some condition) (now endTime : Int)
    (active : Timed) (old : ConditionLight) (shines : active.condition.fields = .light old) :
    ((startLight now ⟨condition, endTime⟩).isSome = true ↔ source.level ≠ 0) ∧
      ((addLight now active condition).isSome = true ↔ (updates now active condition = true → source.level ≠ 0)) := by
  obtain ⟨data, light, level⟩ := produce_level made
  rw [← level]
  exact ⟨startLight_isSome now light, addLight_isSome now shines light⟩

def torchScript : Source := .script (-1) 60000 0 false 0 false [(.lightLevel, 7), (.lightColor, 206)]

def darkScript : Source := .script (-1) 60000 0 false 0 false [(.lightColor, 206)]

theorem light_divides_torch : ∃ condition, torchScript.produce = some condition ∧ (startLight 0 ⟨condition, 0⟩).isSome = true := by
  refine ⟨_, rfl, ?_⟩
  exact (light_divides torchScript _ rfl 0 0 ⟨⟨.light, -1, 1000, false, 0, false, .light { level := 7, color := 206 }⟩, 1000⟩ _ rfl).1.mpr
    (by decide)

theorem dark_divides : ¬ ∀ source condition, Source.produce source = some condition → (startLight 0 ⟨condition, 0⟩).isSome = true := by
  intro divides
  exact absurd (divides darkScript _ rfl) (by decide)

end Styller.Condition
