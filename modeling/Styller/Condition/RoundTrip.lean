import Styller.Condition.Condition

/-! Which conditions survive a save and a load. -/

namespace Styller

open Library

/-- The classes that `createCondition` chooses from. -/
inductive ConditionClass where
  | generic
  | invisible
  | drunk
  | damage
  | speed
  | regeneration
  | soul
  | attributes
  | outfit
  | light
  deriving DecidableEq

def ConditionFields.conditionClass : ConditionFields → ConditionClass
  | .generic => .generic
  | .invisible => .invisible
  | .drunk => .drunk
  | .damage _ => .damage
  | .speed _ => .speed
  | .regeneration _ => .regeneration
  | .soul _ => .soul
  | .attributes _ => .attributes
  | .outfit _ => .outfit
  | .light _ => .light

def ConditionType.conditionClass : ConditionType → Option ConditionClass
  | .poison | .fire | .energy | .drown | .freezing | .dazzled | .cursed | .bleeding => some .damage
  | .haste | .paralyze => some .speed
  | .invisible => some .invisible
  | .outfit => some .outfit
  | .light => some .light
  | .regeneration => some .regeneration
  | .soul => some .soul
  | .attributes => some .attributes
  | .drunk => some .drunk
  | .inFight | .exhaustWeapon | .exhaustCombat | .exhaustHeal | .muted | .channelMutedTicks | .yellTicks
  | .pacified | .manaShield | .cliport => some .generic
  | .none | .other _ => Option.none

/-- What a condition of a class starts with when it is read. -/
def ConditionClass.blank : ConditionClass → ConditionFields
  | .generic => .generic
  | .invisible => .invisible
  | .drunk => .drunk
  | .damage => .damage {}
  | .speed => .speed { speedDelta := 0 }
  | .regeneration => .regeneration {}
  | .soul => .soul {}
  | .attributes => .attributes {}
  | .outfit => .outfit {}
  | .light => .light { level := 0, color := 0 }

structure PlayerCondition extends Condition where
  classed : conditionType.conditionClass = some fields.conditionClass

namespace Condition

open Reader

theorem ofCode_code {type : ConditionType} {conditionClass : ConditionClass}
    (classed : type.conditionClass = some conditionClass) : ConditionType.ofCode type.code = type := by
  cases type with
  | other code => cases classed
  | _ => decide

theorem restoredId (id : Int8) : id.toInt32.toUInt32.toUInt8.toInt8 = id := by
  apply Int8.toBitVec_inj.mp
  ext bit inside
  simp [BitVec.getLsbD_signExtend, inside]
  omega

theorem restoredFlag (flag : Bool) : decide ((if flag then 1 else 0 : UInt8) ≠ 0) = flag := by
  cases flag with
  | false | true => rfl

/-- A condition as `createFrom` makes it. -/
def created (condition : Condition) : Condition :=
  { condition with
    ticks := if condition.fields.conditionClass = .damage then 0 else condition.ticks
    fields := condition.fields.conditionClass.blank }

theorem createCondition_created {condition : Condition}
    (classed : condition.conditionType.conditionClass = some condition.fields.conditionClass) :
    createCondition condition.id condition.conditionType condition.ticks 0 condition.isBuff condition.subId
      condition.aggressive = some (created condition) := by
  generalize shape : condition.fields.conditionClass = conditionClass at classed
  unfold created
  rw [shape]
  cases type : condition.conditionType with
  | none | other => rw [type] at classed; cases classed
  | light =>
    rw [type] at classed
    obtain rfl := Option.some.inj classed
    rfl
  | _ =>
    rw [type] at classed
    obtain rfl := Option.some.inj classed
    simp [createCondition, ConditionClass.blank]

theorem expect_reads (attr : ConditionAttr) : (expect attr).Reads [attr.code] () := by
  apply Reads.finish (Reads.read attr.code)
  rw [if_pos rfl]
  exact Reads.pure ()

/-- The reader creates the condition whose head was written. -/
theorem createFrom_reads {condition : Condition}
    (classed : condition.conditionType.conditionClass = some condition.fields.conditionClass) :
    createFrom.Reads condition.serializeBase (created condition) := by
  apply Reads.bind (expect_reads .type)
  apply Reads.bind (Reads.read _)
  apply Reads.bind (expect_reads .id)
  apply Reads.bind (Reads.read _)
  apply Reads.bind (expect_reads .ticks)
  apply Reads.bind (Reads.read _)
  apply Reads.bind (expect_reads .isBuff)
  apply Reads.bind (Reads.read _)
  apply Reads.bind (expect_reads .subId)
  apply Reads.bind (Reads.read _)
  apply Reads.bind (expect_reads .isAggressive)
  apply Reads.finish (Reads.read _)
  have ticks : condition.ticks.toUInt32.toInt32 = condition.ticks := rfl
  rw [ofCode_code classed, restoredId, ticks, restoredFlag, restoredFlag, createCondition_created classed]
  exact Reads.pure _

def ticksAfter (ticks : Int32) (damageList : List IntervalInfo) : Int32 :=
  damageList.foldl (fun ticks damageInfo => if ticks ≠ -1 then ticks + damageInfo.interval else ticks) ticks

/-- A condition as it is when its fields have been read. -/
def restored (condition : Condition) : Condition :=
  match condition.fields with
  | .damage data => { condition with ticks := ticksAfter 0 data.damageList }
  | .attributes data => { condition with
      fields := .attributes { data with currentSkill := 7, currentSpecialSkill := 6, currentStat := 4 } }
  | _ => condition

/-- The fields of a class that a reader goes through. -/
abbrev Reaches (before : Condition) (written : Bytes) (after : Condition) : Prop :=
  Through ConditionAttr.endCode unserializeProp before written after

theorem unserializeProp_code (condition : Condition) (attr : ConditionAttr) :
    unserializeProp condition attr.code = unserializeAttr condition attr := by
  simp [unserializeProp]

/-- One attribute. -/
theorem reaches_attr {α : Type} [Raw α] {condition : Condition} {attr : ConditionAttr} (value : α)
    {next : α → Condition} (handles : unserializeAttr condition attr =
      (do let value ← read α; pure (.more (next value)))) :
    Reaches condition (writeAttr attr value) (next value) :=
  Through.value (ConditionAttr.code_ne_endCode attr) value ((unserializeProp_code condition attr).trans handles)

/-- The attribute that a class writes last. -/
theorem reaches_last {α : Type} [Raw α] {condition after : Condition} {attr : ConditionAttr} (value : α)
    {next : α → Condition} (handles : unserializeAttr condition attr =
      (do let value ← read α; pure (.more (next value)))) (same : next value = after) :
    Reaches condition (writeAttr attr value) after :=
  same ▸ reaches_attr value handles

/-- The loop over the intervals. -/
theorem reaches_damageList (condition : Condition) (data : ConditionDamage) (shape : condition.fields = .damage data)
    (damageList : List IntervalInfo) :
    Reaches condition (damageList.flatMap (fun intervalInfo => writeAttr .intervalData intervalInfo))
      { condition with
        ticks := ticksAfter condition.ticks damageList
        fields := .damage { data with damageList := data.damageList ++ damageList } } := by
  induction damageList generalizing condition data with
  | nil =>
    obtain ⟨conditionType, id, ticks, isBuff, subId, aggressive, fields⟩ := condition
    subst shape
    simp only [List.append_nil]
    exact Through.nil _
  | cons intervalInfo damageList ih =>
    have first : Reaches condition (writeAttr .intervalData intervalInfo) { condition with
        ticks := if condition.ticks ≠ -1 then condition.ticks + intervalInfo.interval else condition.ticks
        fields := .damage { data with damageList := data.damageList ++ [intervalInfo] } } := by
      apply reaches_attr intervalInfo
      simp only [unserializeAttr, shape]
    have later := first.append (ih _ { data with damageList := data.damageList ++ [intervalInfo] } rfl)
    rw [List.append_assoc] at later
    exact later

/-- An array whose elements from an index on are those of a list. -/
def fill {size : Nat} (array : Vector Int32 size) (current : Nat) : List Int32 → Vector Int32 size
  | [] => array
  | value :: values => fill (array.setIfInBounds current value) (current + 1) values

theorem getElem_fill_before {size : Nat} (array : Vector Int32 size) {current index : Nat} (values : List Int32)
    (inside : index < size) (before : index < current) : (fill array current values)[index] = array[index] := by
  induction values generalizing array current with
  | nil => rfl
  | cons value values ih =>
    rw [fill, ih _ (Nat.lt_succ_of_lt before), Vector.getElem_setIfInBounds_ne inside (Nat.ne_of_gt before)]

theorem getElem_fill {size : Nat} (array : Vector Int32 size) (current : Nat) (values : List Int32) {index : Nat}
    (inside : index < size) (low : current ≤ index) (high : index < current + values.length) :
    (fill array current values)[index] = values[index - current] := by
  induction values generalizing array current with
  | nil =>
    simp only [List.length_nil] at high
    omega
  | cons value values ih =>
    by_cases first : index = current
    · subst first
      simp [fill, getElem_fill_before]
    · simp only [List.length_cons] at high
      have later := ih (array.setIfInBounds current value) (current + 1) (by omega) (by omega)
      rw [fill, later]
      have before : index - current = index - (current + 1) + 1 := by omega
      simp only [before, List.getElem_cons_succ]

theorem fill_toList {size : Nat} (array values : Vector Int32 size) : fill array 0 values.toList = values := by
  ext index inside
  rw [getElem_fill _ _ _ inside (Nat.zero_le _) (by simpa using inside)]
  simp

/-- The loop over an array. -/
theorem reaches_array {size : Nat} {attr : ConditionAttr} {make : Vector Int32 size → Nat → Condition}
    (handles : ∀ array current, unserializeAttr (make array current) attr = (do
      let value ← read Int32
      pure (.more (make (array.setIfInBounds current value) (current + 1)))))
    (values : List Int32) (array : Vector Int32 size) (current : Nat) :
    Reaches (make array current) (values.flatMap (fun value => writeAttr attr value))
      (make (fill array current values) (current + values.length)) := by
  induction values generalizing array current with
  | nil => exact Through.nil _
  | cons value values ih =>
    have later := (reaches_attr value (handles array current)).append
      (ih (array.setIfInBounds current value) (current + 1))
    rw [Nat.add_assoc, Nat.add_comm 1] at later
    exact later

/-- The fields of every class but that of lights are read as they were written. -/
theorem reaches_restored (condition : Condition) (dark : condition.fields.conditionClass ≠ .light) :
    Reaches (created condition) (serializeFields condition.fields) (restored condition) := by
  obtain ⟨conditionType, id, ticks, isBuff, subId, aggressive, fields⟩ := condition
  cases fields with
  | generic | invisible | drunk => exact Through.nil _
  | damage data =>
    have delayed : Reaches _ (writeAttr .delayed (if data.delayed then 1 else 0 : UInt8)) _ :=
      @reaches_attr UInt8 _ (created ⟨conditionType, id, ticks, isBuff, subId, aggressive, .damage data⟩) .delayed
        (if data.delayed then 1 else 0) _ rfl
    rw [restoredFlag] at delayed
    apply Through.append delayed
    apply Through.append (reaches_attr data.periodDamage rfl)
    exact reaches_damageList _ { data with damageList := [] } rfl data.damageList
  | speed data =>
    apply Through.append (reaches_attr data.speedDelta rfl)
    apply Through.append (reaches_attr data.mina rfl)
    apply Through.append (reaches_attr data.minb rfl)
    apply Through.append (reaches_attr data.maxa rfl)
    exact reaches_last data.maxb rfl rfl
  | regeneration data =>
    apply Through.append (reaches_attr data.healthTicks rfl)
    apply Through.append (reaches_attr data.healthGain rfl)
    apply Through.append (reaches_attr data.manaTicks rfl)
    exact reaches_last data.manaGain rfl rfl
  | soul data =>
    apply Through.append (reaches_attr data.soulGain rfl)
    exact reaches_last data.soulTicks rfl rfl
  | attributes data =>
    let make (data : ConditionAttributes) : Condition :=
      ⟨conditionType, id, ticks, isBuff, subId, aggressive, .attributes data⟩
    have skills := @reaches_array _ .skills (fun skills currentSkill => make { skills, currentSkill })
      (fun _ _ => rfl) data.skills.toList (Vector.replicate 7 0) 0
    have stats := @reaches_array _ .stats
      (fun stats currentStat => make { skills := data.skills, currentSkill := 7, stats, currentStat })
      (fun _ _ => rfl) data.stats.toList (Vector.replicate 4 0) 0
    have specialSkills := @reaches_array _ .specialSkills
      (fun specialSkills currentSpecialSkill => make { data with
        currentSkill := 7, currentStat := 4, specialSkills, currentSpecialSkill })
      (fun _ _ => rfl) data.specialSkills.toList (Vector.replicate 6 0) 0
    simp only [fill_toList, Vector.length_toList, Nat.zero_add] at skills stats specialSkills
    apply Through.append skills
    apply Through.append stats
    apply Through.append (reaches_attr data.disableDefense rfl)
    exact specialSkills
  | outfit outfit => exact reaches_last outfit rfl rfl
  | light data => exact absurd rfl dark

def saved (condition : Condition) : Bytes := condition.serialize ++ [ConditionAttr.endCode]

theorem loadCondition_progress : Progress loadCondition := by
  apply Progress.bind
  apply Progress.bind
  apply Progress.bind
  exact Progress.read (α := UInt8) Nat.one_pos

theorem loadCondition_reads {condition : Condition}
    (classed : condition.conditionType.conditionClass = some condition.fields.conditionClass)
    (dark : condition.fields.conditionClass ≠ .light) :
    loadCondition.Reads (saved condition) (some (restored condition)) := by
  unfold saved serialize
  rw [List.append_assoc]
  apply Reads.bind (createFrom_reads classed)
  apply Reads.finish (reaches_restored condition dark).reads
  exact Reads.pure _

theorem write_byte (byte : UInt8) : write byte.toUInt32 = [byte, 0, 0, 0] := by
  have low : UInt8.ofNat byte.toUInt32.toNat = byte := by simp
  have high : byte.toUInt32.toNat / 256 = 0 := by
    rw [Nat.div_eq_zero_iff]
    exact .inr byte.toNat_lt
  change [UInt8.ofNat byte.toUInt32.toNat, UInt8.ofNat (byte.toUInt32.toNat / 256),
    UInt8.ofNat (byte.toUInt32.toNat / 256 / 256), UInt8.ofNat (byte.toUInt32.toNat / 256 / 256 / 256)] = _
  rw [low, high]
  rfl

theorem repeated_zero (rest : Bytes) : repeated loadCondition (0 :: rest) = ([], rest) := by
  apply repeated_none
  apply run_bind_none
  apply run_bind_none
  exact run_bind_some (Reads.read (0 : UInt8) rest)

/-- A zero is no attribute. -/
theorem unserializeProp_zero (condition : Condition) (rest : Bytes) :
    (unserializeProp condition 0).run rest = (none, rest) := by
  have none : ConditionAttr.ofCode 0 = none := by decide
  simp only [unserializeProp, none]
  rfl

/-- The colour of a light is written in four bytes, of which the reader takes one; the next of
them is no attribute. -/
theorem unserialize_light {condition : Condition} {data : ConditionLight} (shape : condition.fields = .light data)
    (color : UInt8) (rest : Bytes) :
    (unserialize condition).run (ConditionAttr.lightColor.code :: color :: 0 :: rest) =
      (some (false, { condition with fields := .light { data with color } }), rest) := by
  have handled : (unserializeProp condition ConditionAttr.lightColor.code).run (color :: 0 :: rest) =
      (some (.more { condition with fields := .light { data with color } }), 0 :: rest) := by
    rw [unserializeProp_code]
    simp only [unserializeAttr, shape]
    exact run_bind_some (Reads.read color (0 :: rest))
  rw [unserialize, readFields_more (ConditionAttr.code_ne_endCode _) handled]
  exact readFields_failed (by decide) (unserializeProp_zero _ rest)

/-- What a light writes starts with its colour. -/
theorem serializeFields_light (data : ConditionLight) : ∃ later, serializeFields (.light data) =
    ConditionAttr.lightColor.code :: data.color :: 0 :: 0 :: 0 :: later := by
  refine ⟨writeAttr .lightLevel data.level.toUInt32 ++ (writeAttr .lightTicks data.internalLightTicks ++
    writeAttr .lightInterval data.lightChangeInterval), ?_⟩
  simp only [serializeFields, writeAttr, write_byte, List.cons_append, List.nil_append]

theorem loadCondition_light {condition : Condition}
    (classed : condition.conditionType.conditionClass = some condition.fields.conditionClass)
    {data : ConditionLight} (shape : condition.fields = .light data) (rest : Bytes) :
    (repeated loadCondition (saved condition ++ rest)).2 ≠ [] := by
  obtain ⟨later, written⟩ := serializeFields_light data
  have lit : (created condition).fields = .light { level := 0, color := 0 } := by
    simp only [created, shape]
    rfl
  have bytes : saved condition ++ rest = serializeBase condition ++ (ConditionAttr.lightColor.code :: data.color :: 0 ::
      (0 :: 0 :: (later ++ ([ConditionAttr.endCode] ++ rest)))) := by
    rw [saved, serialize, shape, written, List.append_assoc, List.append_assoc]
    simp only [List.cons_append]
  have first : loadCondition.run (saved condition ++ rest) =
      (some none, 0 :: 0 :: (later ++ ([ConditionAttr.endCode] ++ rest))) := by
    rw [bytes, loadCondition, run_bind_some (createFrom_reads classed _),
      run_bind_some (unserialize_light lit data.color _)]
    rfl
  rw [repeated_some loadCondition_progress first, repeated_zero]
  exact List.cons_ne_nil _ _

def total (damageList : List IntervalInfo) : Int32 :=
  damageList.foldr (fun damageInfo sum => damageInfo.interval + sum) 0

/-- A condition that is read as it was saved: no light, and where it does damage the ticks are
the sum of the intervals, on the way to which -1 does not occur. -/
def Kept (condition : Condition) : Prop :=
  match condition.fields with
  | .light _ => False
  | .damage data => (∀ first, first <+: data.damageList → total first ≠ -1) ∧ condition.ticks = total data.damageList
  | _ => True

/-- What is saved of a condition; the indices of the reader are not. -/
def content (condition : Condition) : Condition :=
  match condition.fields with
  | .attributes data => { condition with
      fields := .attributes { data with currentSkill := 0, currentSpecialSkill := 0, currentStat := 0 } }
  | _ => condition

/-- The conditions that are read are those that were persistent, in their order, and the blob is
read to its end. -/
structure Restores (conditions : List Condition) : Prop where
  stored : (loadConditions (saveConditions conditions)).1.reverse.map content =
    (conditions.filter isPersistent).map content
  consumed : (loadConditions (saveConditions conditions)).2 = []

/-- The ticks that the intervals add up to are some number that is not -1. -/
theorem ticksAfter_eq_iff (damageList : List IntervalInfo) {start ticks : Int32} (limited : ticks ≠ -1) :
    ticksAfter start damageList = ticks ↔
      (∀ first, first <+: damageList → start + total first ≠ -1) ∧ ticks = start + total damageList := by
  induction damageList generalizing start with
  | nil =>
    have none : total [] = 0 := rfl
    simp only [ticksAfter, List.foldl_nil, List.prefix_nil, none, Int32.add_zero, forall_eq]
    constructor
    · intro same
      exact ⟨same ▸ limited, same.symm⟩
    · intro same
      exact same.2.symm
  | cons damageInfo damageList ih =>
    have sum : ∀ list, start + total (damageInfo :: list) = start + damageInfo.interval + total list := by
      intro list
      exact (Int32.add_assoc _ _ _).symm
    have step : ticksAfter start (damageInfo :: damageList) =
        ticksAfter (if start ≠ -1 then start + damageInfo.interval else start) damageList := rfl
    rw [step]
    by_cases limit : start = -1
    · -- an unlimited condition stays so
      have empty : start + total [] = -1 := (Int32.add_zero start).trans limit
      refine iff_of_false ?_ (fun this => this.1 [] List.nil_prefix empty)
      rw [if_neg (not_not.mpr limit), ih]
      exact fun this => this.1 [] List.nil_prefix empty
    · rw [if_pos limit, ih, sum]
      refine and_congr_left (fun _ => ?_)
      constructor
      · intro later first front
        rcases List.prefix_cons_iff.mp front with rfl | ⟨rest, rfl, inner⟩
        · exact fun zero => limit ((Int32.add_zero start).symm.trans zero)
        · exact sum rest ▸ later rest inner
      · intro all first front
        exact sum first ▸ all (damageInfo :: first) (List.prefix_cons_iff.mpr (.inr ⟨first, rfl, front⟩))

/-- A condition other than a light is read as it was saved just when it is kept. -/
theorem content_restored_iff {condition : Condition} (persistent : condition.isPersistent = true)
    (dark : condition.fields.conditionClass ≠ .light) :
    content (restored condition) = content condition ↔ condition.Kept := by
  have limited : condition.ticks ≠ -1 := by
    intro unlimited
    simp [isPersistent, unlimited] at persistent
  obtain ⟨conditionType, id, ticks, isBuff, subId, aggressive, fields⟩ := condition
  cases fields with
  | damage data =>
    have ticksKept := @ticksAfter_eq_iff data.damageList 0 ticks limited
    simp only [Int32.zero_add] at ticksKept
    refine Iff.trans ?_ ticksKept
    constructor
    · intro same
      exact congrArg Condition.ticks same
    · intro same
      simp only [restored, content, same]
  | light data => exact absurd rfl dark
  | _ => exact iff_of_true rfl trivial

/-- The loop over saved conditions gets to the end of them just when none is a light. -/
theorem repeated_saved {conditions : List Condition}
    (classed : ∀ condition ∈ conditions, condition.conditionType.conditionClass = some condition.fields.conditionClass) :
    (repeated loadCondition (conditions.flatMap saved)).2 = [] ↔
      ∀ condition ∈ conditions, condition.fields.conditionClass ≠ .light := by
  induction conditions with
  | nil => exact iff_of_true rfl (fun _ listed => absurd listed List.not_mem_nil)
  | cons condition conditions ih =>
    have head := classed condition List.mem_cons_self
    rw [List.forall_mem_cons, List.flatMap_cons]
    by_cases light : condition.fields.conditionClass = .light
    · refine iff_of_false ?_ (fun all => all.1 light)
      cases shape : condition.fields with
      | light data => exact loadCondition_light head shape _
      | _ => rw [shape] at light; cases light
    · rw [repeated_some loadCondition_progress (loadCondition_reads head light _),
        ih (fun condition listed => classed condition (List.mem_cons_of_mem _ listed)), and_iff_right light]

/-- What the loop of `loadPlayer` stores when there are no lights. -/
theorem loadConditions_saved {conditions : List Condition}
    (classed : ∀ condition ∈ conditions, condition.conditionType.conditionClass = some condition.fields.conditionClass)
    (dark : ∀ condition ∈ conditions, condition.fields.conditionClass ≠ .light) :
    loadConditions (conditions.flatMap saved) = ((conditions.map restored).reverse, []) := by
  have read := repeated_flatMap loadCondition_progress
    (fun condition listed => loadCondition_reads (classed condition listed) (dark condition listed)) []
  rw [List.append_nil] at read
  have none : repeated loadCondition [] = ([], []) := repeated_none rfl
  rw [loadConditions, read, none]
  simp [List.filterMap_map]

end Condition

open Condition in
/-- The conditions of a player survive a save and a load just when those that are persistent are
kept. -/
theorem restores_iff_kept (conditions : List PlayerCondition) :
    Restores (conditions.map (·.toCondition)) ↔
      ∀ condition ∈ conditions, condition.isPersistent = true → condition.Kept := by
  have persistent : ∀ condition ∈ (conditions.map (·.toCondition)).filter isPersistent,
      condition.conditionType.conditionClass = some condition.fields.conditionClass ∧ condition.isPersistent = true := by
    intro condition listed
    obtain ⟨mapped, lasting⟩ := List.mem_filter.mp listed
    obtain ⟨player, _, rfl⟩ := List.mem_map.mp mapped
    exact ⟨player.classed, lasting⟩
  have all : (∀ condition ∈ conditions, condition.isPersistent = true → condition.Kept) ↔
      ∀ condition ∈ (conditions.map (·.toCondition)).filter isPersistent, condition.Kept := by
    simp only [List.mem_filter, List.mem_map]
    constructor
    · rintro each condition ⟨⟨player, listed, rfl⟩, lasting⟩
      exact each player listed lasting
    · intro each player listed lasting
      exact each _ ⟨⟨player, listed, rfl⟩, lasting⟩
  have classed := fun condition listed => (persistent condition listed).1
  rw [all]
  by_cases dark : ∀ condition ∈ (conditions.map (·.toCondition)).filter isPersistent,
      condition.fields.conditionClass ≠ .light
  · have read : loadConditions (saveConditions (conditions.map (·.toCondition))) = _ :=
      loadConditions_saved classed dark
    have same : Restores (conditions.map (·.toCondition)) ↔
        (((conditions.map (·.toCondition)).filter isPersistent).map restored).map content =
          ((conditions.map (·.toCondition)).filter isPersistent).map content := by
      constructor
      · intro restores
        have stored := restores.stored
        rw [read, List.reverse_reverse] at stored
        exact stored
      · intro stored
        constructor
        · rw [read, List.reverse_reverse]
          exact stored
        · rw [read]
    rw [same, List.map_map, List.map_inj_left]
    exact forall₂_congr (fun condition listed =>
      content_restored_iff (persistent condition listed).2 (dark condition listed))
  · refine iff_of_false (fun restores => dark ((repeated_saved classed).mp restores.consumed)) ?_
    intro kept
    apply dark
    intro condition listed light
    have lit := kept condition listed
    unfold Kept at lit
    cases shape : condition.fields with
    | light data => rw [shape] at lit; exact lit
    | _ => rw [shape] at light; cases light

def torchLight : PlayerCondition :=
  ⟨⟨.light, 0, 60000, false, 0, false, .light { level := 7, color := 206 }⟩, rfl⟩

/-- A light is not read back. -/
theorem not_restores_light : ¬ Condition.Restores ([torchLight].map (·.toCondition)) := by
  intro restores
  have saved : (repeated Condition.loadCondition ([torchLight.toCondition].flatMap Condition.saved)).2 = [] :=
    restores.consumed
  refine (Condition.repeated_saved ?_).mp saved torchLight.toCondition List.mem_cons_self rfl
  intro condition listed
  obtain rfl := List.mem_singleton.mp listed
  exact torchLight.classed

end Styller
