import Mathlib.Algebra.BigOperators.Fin
import Styller.Player.Equipment

/-! What a player has of his equipment is the sum of what the items of the enabled slots give, along all runs. -/

namespace Styller.Equipment

open Library Conditions Option
open Function (update_comm update_eq_self update_idem update_of_ne update_self)

section

variable (table : Table)

/-- What the abilities of a type add. -/
def Abilities.amount (defaultStats : Fin 4 → Int32) (abilities : Abilities) : Modifiers where
  skills := abilities.skills
  specialSkills := 0
  stats := fun i =>
    abilities.stats i + if abilities.statsPercent i ≠ 0 then statShare table defaultStats abilities i else 0
  speed := abilities.speed

/-- What an item of a type adds. -/
def amount (defaultStats : Fin 4 → Int32) (id : Nat) : Modifiers :=
  ((table.items id).abilities.map (Abilities.amount table defaultStats)).getD 0

/-- What an item of a type suppresses. -/
def suppressions (id : Nat) : BitVec 32 := ((table.items id).abilities.map Abilities.conditionSuppressions).getD 0

/-- A type without any of the bonuses. -/
def Bare (id : Nat) : Prop :=
  ∀ abilities ∈ (table.items id).abilities, abilities.skills = 0 ∧ abilities.stats = 0 ∧ abilities.statsPercent = 0 ∧
    abilities.speed = 0 ∧ abilities.conditionSuppressions = 0

variable {table}

theorem amount_bare {id : Nat} (bare : Bare table id) (defaultStats : Fin 4 → Int32) : amount table defaultStats id = 0 := by
  unfold amount
  cases there : (table.items id).abilities with
  | none => rfl
  | some abilities =>
    obtain ⟨skills, stats, statsPercent, speed, _⟩ := bare abilities there
    show abilities.amount table defaultStats = 0
    unfold Abilities.amount
    rw [skills, stats, statsPercent, speed]
    ext i
    · rfl
    · rfl
    · exact Int32.add_zero _
    · rfl

theorem suppressions_bare {id : Nat} (bare : Bare table id) : suppressions table id = 0 := by
  unfold suppressions
  cases there : (table.items id).abilities with
  | none => rfl
  | some abilities => exact (bare abilities there).2.2.2.2

variable (abilities : Abilities) (player : Player)

theorem changeSpeed_eq (delta : Int32) :
    player.changeSpeed delta = { player with vars := player.vars + ⟨0, 0, 0, delta⟩ } := by
  unfold Player.changeSpeed
  rw [changeSpeed_vars]

theorem changeSpeed_zero : player.changeSpeed 0 = player := by
  have same : (⟨0, 0, 0, 0⟩ : Modifiers) = 0 := rfl
  rw [changeSpeed_eq, same, add_zero]

theorem changeSpeed_if (delta : Int32) : (if delta ≠ 0 then player.changeSpeed delta else player) = player.changeSpeed delta := by
  by_cases none : delta = 0
  · rw [if_neg (not_not.mpr none), none, changeSpeed_zero]
  · rw [if_pos none]

theorem changeSpeed_neg_if (delta : Int32) :
    (if delta ≠ 0 then player.changeSpeed (-delta) else player) = player.changeSpeed (-delta) := by
  by_cases none : delta = 0
  · rw [if_neg (not_not.mpr none), none, Int32.neg_zero, changeSpeed_zero]
  · rw [if_pos none]

theorem addConditionSuppressions_if (conditions : BitVec 32) :
    (if conditions ≠ 0 then player.addConditionSuppressions conditions else player) =
      player.addConditionSuppressions conditions := by
  by_cases none : conditions = 0
  · rw [if_neg (not_not.mpr none), none, Player.addConditionSuppressions]
    simp
  · rw [if_pos none]

theorem and_not_zero (conditions : BitVec 32) : conditions &&& ~~~0 = conditions := by
  have full : ~~~(0 : BitVec 32) = BitVec.allOnes 32 := BitVec.not_zero
  rw [full, BitVec.and_allOnes]

theorem removeConditionSuppressions_if (conditions : BitVec 32) :
    (if conditions ≠ 0 then player.removeConditionSuppressions conditions else player) =
      player.removeConditionSuppressions conditions := by
  by_cases none : conditions = 0
  · rw [if_neg (not_not.mpr none), none, Player.removeConditionSuppressions, and_not_zero]
  · rw [if_pos none]

theorem sub_if {i : Fin n} (value : Fin n → Int32) (delta : Fin n → Int32) :
    (if delta i ≠ 0 then value i + -delta i else value i) = value i - delta i := by
  rw [Int32.sub_eq_add_neg]
  split
  · rfl
  · rename_i none
    rw [not_not.mp none, Int32.neg_zero, Int32.add_zero]

theorem applyAbilities_eq : applyAbilities table abilities player = { player with
    vars := player.vars + abilities.amount table player.defaultStats
    conditionSuppressions := player.conditionSuppressions ||| abilities.conditionSuppressions } := by
  unfold applyAbilities
  simp only [changeSpeed_if, addConditionSuppressions_if]
  simp only [add_if, changeSpeed_eq, Player.addConditionSuppressions, Player.mk.injEq, true_and, and_true]
  ext i
  · simp [Abilities.amount]
  · simp [Abilities.amount]
  · simp only [Abilities.amount, add_stats, Pi.add_apply]
    split <;> simp [Int32.add_assoc]
  · simp [Abilities.amount]

theorem undoAbilities_eq : undoAbilities table abilities player = { player with
    vars := player.vars - abilities.amount table player.defaultStats
    conditionSuppressions := player.conditionSuppressions &&& ~~~abilities.conditionSuppressions } := by
  unfold undoAbilities
  simp only [changeSpeed_neg_if, removeConditionSuppressions_if]
  simp only [sub_if, changeSpeed_eq, Player.removeConditionSuppressions, Player.mk.injEq, true_and, and_true]
  ext i
  · simp [Abilities.amount]
  · simp [Abilities.amount]
  · simp only [Abilities.amount, sub_stats, add_stats, Pi.add_apply, Pi.sub_apply]
    split <;> simp [Int32.sub_eq_add_neg, Int32.add_assoc, Int32.add_comm]
  · simp [Abilities.amount, Int32.sub_eq_add_neg]

theorem applyAbilities_bare {id : Nat} (bare : Bare table id) (there : (table.items id).abilities = some abilities) :
    applyAbilities table abilities player = player := by
  have none := amount_bare bare player.defaultStats
  unfold amount at none
  rw [there] at none
  have kept := suppressions_bare bare
  unfold suppressions at kept
  rw [there] at kept
  rw [applyAbilities_eq, show abilities.amount table player.defaultStats = 0 from none,
    show abilities.conditionSuppressions = 0 from kept, add_zero]
  simp

end

/-- What the tables of items and events are like where nothing goes wrong. The ranks say that putting on the form that an item
takes when it is put on comes to an end. -/
structure Orderly (table : Table) (rank : Nat → Nat) (fuel : Nat) : Prop where
  /-- A type that takes another form when it is put on has no bonus itself. -/
  plain : ∀ id, (table.items id).transformEquipTo ≠ 0 → Bare table id
  /-- Both forms are of a kind. -/
  equipTo : ∀ id, (table.items id).transformEquipTo ≠ 0 →
    (table.items id).alwaysOnTop = (table.items (table.items id).transformEquipTo).alwaysOnTop ∧
      (table.items id).type = (table.items (table.items id).transformEquipTo).type
  deEquipTo : ∀ id, (table.items id).transformDeEquipTo ≠ 0 →
    (table.items id).alwaysOnTop = (table.items (table.items id).transformDeEquipTo).alwaysOnTop ∧
      (table.items id).type = (table.items (table.items id).transformDeEquipTo).type
  /-- A type that is put on as it is has an event for taking it off, or no bonus. -/
  paired : ∀ id slot, (table.equip id slot).isSome → (table.items id).transformEquipTo = 0 →
    table.deEquip id slot = true ∨ Bare table id
  settles : ∀ id, (table.items id).transformEquipTo ≠ 0 → rank (table.items id).transformEquipTo < rank id
  deep : ∀ id, rank id + 2 ≤ fuel

theorem Orderly.enough {table : Table} {rank : Nat → Nat} {fuel : Nat} (orderly : Orderly table rank fuel) (type : Nat) :
    rank type < fuel :=
  Nat.lt_of_lt_of_le (Nat.lt_add_of_pos_right Nat.two_pos) (orderly.deep type)

section

variable (table : Table)

def dress (slot : Slot) (address : Nat) (item : Item) (enabled : Bool) (player : Player) : Player :=
  { player with
    items := Function.update player.items address item
    inventoryAbilities := Function.update player.inventoryAbilities slot enabled
    vars := player.vars + if enabled then amount table player.defaultStats item.id else 0
    conditionSuppressions := player.conditionSuppressions ||| if enabled then suppressions table item.id else 0 }

/-- The item of a slot has been changed in its place or been put on, and what it gives can be taken again. -/
def Dressed (slot : Slot) (address : Nat) (player result : Player) : Prop :=
  ∃ item enabled, item.parent = (player.items address).parent ∧
    (enabled = true → table.deEquip item.id slot = true ∨ Bare table item.id) ∧
    result = dress table slot address item enabled player

variable {table} {slot : Slot} {address : Nat} {player : Player}

/-- Without a change of the item, a slot that is not enabled stays as it is. -/
theorem dress_same (disabled : player.inventoryAbilities slot = false) :
    dress table slot address (player.items address) false player = player := by
  have flag : Function.update player.inventoryAbilities slot false = player.inventoryAbilities := by
    rw [← disabled, update_eq_self]
  unfold dress
  rw [update_eq_self, flag]
  simp

theorem dressed_same (disabled : player.inventoryAbilities slot = false) : Dressed table slot address player player :=
  ⟨player.items address, false, rfl, Bool.noConfusion, (dress_same disabled).symm⟩

theorem dress_setItem (item other : Item) (enabled : Bool) :
    dress table slot address item enabled (player.setItem address other) = dress table slot address item enabled player := by
  unfold dress Player.setItem
  simp only [update_idem]

theorem Dressed.after_setItem {result : Player} {item : Item} (dressed : Dressed table slot address (player.setItem address item) result)
    (parent : item.parent = (player.items address).parent) : Dressed table slot address player result := by
  obtain ⟨last, enabled, same, undoable, rfl⟩ := dressed
  refine ⟨last, enabled, ?_, undoable, dress_setItem last item enabled⟩
  rw [same, ← parent]
  exact congrArg Item.parent (update_self ..)

end

section

variable {table : Table} {rank : Nat → Nat} {fuel : Nat} {nested : Nested} {slot : Slot} {address : Nat} {player : Player}

theorem onPlayerEquip_enabled (enabled : player.inventoryAbilities slot = true) :
    onPlayerEquip table nested player address slot = some player := by
  unfold onPlayerEquip
  simp only [enabled, if_true]
  cases table.equip (player.items address).id slot with
  | none => rfl
  | some moveEvent => exact ite_self _

theorem onPlayerEquip_none (none : table.equip (player.items address).id slot = none) :
    onPlayerEquip table nested player address slot = some player := by
  unfold onPlayerEquip
  simp only [none]

theorem onPlayerDeEquip_disabled (disabled : player.inventoryAbilities slot = false) :
    onPlayerDeEquip table nested player address slot = some player := by
  have flag : player.setItemAbility slot false = player := by
    unfold Player.setItemAbility
    rw [← disabled, update_eq_self]
  unfold onPlayerDeEquip
  rw [flag, disabled]
  exact ite_self _

/-- What the events of a slot do that is not enabled. -/
theorem onPlayerEquip_dressed (orderly : Orderly table rank fuel) (disabled : player.inventoryAbilities slot = false)
    (inner : (table.items (player.items address).id).transformEquipTo ≠ 0 →
      ∃ result, nested player address (table.items (player.items address).id).transformEquipTo = some result ∧
        Dressed table slot address player result) :
    ∃ result, onPlayerEquip table nested player address slot = some result ∧ Dressed table slot address player result := by
  unfold onPlayerEquip
  simp only
  cases event : table.equip (player.items address).id slot with
  | none => exact ⟨player, rfl, dressed_same disabled⟩
  | some moveEvent =>
    simp only
    by_cases refused : ¬ moveEvent.allows player
    · exact ⟨player, if_pos refused, dressed_same disabled⟩
    · simp only [if_neg refused, disabled, Bool.false_eq_true, if_false]
      by_cases changes : (table.items (player.items address).id).transformEquipTo ≠ 0
      · obtain ⟨result, ran, dressed⟩ := inner changes
        refine ⟨result, ?_, dressed⟩
        simp only [if_pos changes, ran, map_some]
        cases there : (table.items (player.items address).id).abilities with
        | none => rfl
        | some abilities => exact congrArg some (applyAbilities_bare abilities result (orderly.plain _ changes) there)
      · have undoable := orderly.paired _ slot (isSome_of_eq_some event) (not_not.mp changes)
        refine ⟨dress table slot address (player.items address) true player, ?_, player.items address, true, rfl,
          fun _ => undoable, rfl⟩
        simp only [if_neg changes]
        unfold dress amount suppressions
        rw [update_eq_self]
        cases (table.items (player.items address).id).abilities with
        | none => simp [Player.setItemAbility]
        | some abilities => simp [applyAbilities_eq, Player.setItemAbility]

theorem transformation_updated {item : Item} {newId : Nat}
    (alike : (table.items item.id).alwaysOnTop = (table.items newId).alwaysOnTop ∧
      (table.items item.id).type = (table.items newId).type) :
    transformation table item newId (-1) = .stays ∨ transformation table item newId (-1) = .updated (-1) := by
  unfold transformation
  by_cases same : item.id = newId ∧ ((-1 : Int) = -1 ∨ (-1 : Int) = item.subType ∧ (-1 : Int) ≠ 0)
  · left
    rw [if_pos same]
  · rw [if_neg same]
    by_cases unknown : (table.items newId).id = 0
    · left
      rw [if_pos unknown]
    · right
      rw [if_neg unknown, if_neg (not_not.mpr alike.1), if_pos alike.2]
      exact if_neg fun none => absurd none.1 (by decide)

theorem updateThing_eq (index : player.getThingIndex address = some slot) (newId : Nat) (newCount : Int) :
    ∃ item, updateThing table player address (player.items address).id newId newCount = player.setItem address item ∧
      item.id = newId ∧ item.parent = (player.items address).parent := by
  unfold updateThing
  rw [if_neg (by rw [index]; exact some_ne_none slot)]
  refine ⟨_, rfl, ?_, rfl⟩
  by_cases same : (player.items address).id = newId
  · simp only [same, ne_eq, not_true_eq_false, if_false]
  · simp only [ne_eq, same, not_false_eq_true, if_true]

/-- A transformation in a slot that is not enabled, to a type of the same kind. -/
theorem transformItem_dressed (orderly : Orderly table rank fuel) (depth newId : Nat) (enough : rank newId < depth)
    (here : player.inventory slot = some address) (index : player.getThingIndex address = some slot)
    (owned : (player.items address).parent = .player) (disabled : player.inventoryAbilities slot = false)
    (alike : (table.items (player.items address).id).alwaysOnTop = (table.items newId).alwaysOnTop ∧
      (table.items (player.items address).id).type = (table.items newId).type) :
    ∃ result, transformItem table depth player address newId (-1) = some result ∧ Dressed table slot address player result ∧
      (table.equip newId slot = none → result.inventoryAbilities slot = false) := by
  induction depth generalizing player newId with
  | zero => exact absurd enough (Nat.not_lt_zero _)
  | succ depth ih =>
    unfold transformItem
    simp only [owned, index]
    unfold transformInSlot
    rcases transformation_updated alike with stays | updated
    · simp only [stays]
      exact ⟨player, rfl, dressed_same disabled, fun _ => disabled⟩
    · simp only [updated, onPlayerDeEquip_disabled disabled, bind_some]
      obtain ⟨item, same, id, parent⟩ := updateThing_eq index newId (-1)
      rw [same]
      have there : ((player.setItem address item).items address) = item := update_self ..
      have equipped : ∃ result, onPlayerEquip table (nestedTransform table depth) (player.setItem address item) address slot =
          some result ∧ Dressed table slot address (player.setItem address item) result := by
        apply onPlayerEquip_dressed orderly
        · exact disabled
        · rw [there, id]
          intro changes
          refine (ih _ ?_ ?_ ?_ ?_ ?_ ?_).imp fun result there => ⟨there.1, there.2.1⟩
          · exact Nat.lt_of_lt_of_le (orderly.settles newId changes) (Nat.le_of_lt_succ enough)
          · exact here
          · exact index
          · rw [there, parent]
            exact owned
          · exact disabled
          · rw [there, id]
            exact orderly.equipTo newId changes
      obtain ⟨result, ran, dressed⟩ := equipped
      refine ⟨result, ran, dressed.after_setItem parent, ?_⟩
      intro none
      have kept : onPlayerEquip table (nestedTransform table depth) (player.setItem address item) address slot =
          some (player.setItem address item) := by
        apply onPlayerEquip_none
        rw [there, id]
        exact none
      rw [ran] at kept
      rw [some.inj kept]
      exact disabled

end

section

variable (table : Table)

/-- A player who has lost what an item of a type gave him in a slot. -/
def undress (slot : Slot) (address : Nat) (id : Nat) (item : Item) (player : Player) : Player :=
  { player with
    items := Function.update player.items address item
    inventoryAbilities := Function.update player.inventoryAbilities slot false
    vars := player.vars - amount table player.defaultStats id
    conditionSuppressions := player.conditionSuppressions &&& ~~~suppressions table id }

variable {table} {nested : Nested} {slot : Slot} {address : Nat} {player : Player}

theorem undoAbilities_type (type : Nat) :
    (table.items type).abilities.elim id (undoAbilities table) player = { player with
      vars := player.vars - amount table player.defaultStats type
      conditionSuppressions := player.conditionSuppressions &&& ~~~suppressions table type } := by
  unfold amount suppressions
  cases (table.items type).abilities with
  | none =>
    show player = _
    simp only [map_none, getD_none, and_not_zero, sub_zero]
  | some abilities => exact undoAbilities_eq abilities player

/-- What the events of a slot do that is enabled, when the form that the item takes has no effect on the player. -/
theorem onPlayerDeEquip_undress {type : Nat} (same : (player.items address).id = type)
    (enabled : player.inventoryAbilities slot = true) (undoable : table.deEquip type slot = true ∨ Bare table type)
    (inner : (table.items type).transformDeEquipTo ≠ 0 →
      ∃ item, nested (player.setItemAbility slot false) address (table.items type).transformDeEquipTo =
        some ((player.setItemAbility slot false).setItem address item)) :
    ∃ item, onPlayerDeEquip table nested player address slot = some (undress table slot address type item player) ∧
      ((table.items type).transformDeEquipTo = 0 → item = player.items address) := by
  subst same
  unfold onPlayerDeEquip
  simp only
  by_cases event : table.deEquip (player.items address).id slot = true
  · rw [if_neg (not_not.mpr event), if_neg (not_not.mpr enabled)]
    by_cases changes : (table.items (player.items address).id).transformDeEquipTo ≠ 0
    · obtain ⟨item, ran⟩ := inner changes
      refine ⟨item, ?_, fun none => absurd none changes⟩
      rw [if_pos changes, ran, map_some, undoAbilities_type]
      rfl
    · refine ⟨player.items address, ?_, fun _ => rfl⟩
      rw [if_neg changes, map_some, undoAbilities_type]
      unfold undress
      rw [update_eq_self]
      rfl
  · refine ⟨player.items address, ?_, fun _ => rfl⟩
    have bare := undoable.resolve_left event
    rw [if_pos event]
    unfold undress
    rw [update_eq_self, amount_bare bare, suppressions_bare bare, and_not_zero, sub_zero]
    rfl

end

section

/-- The type of the item of a slot whose ability is enabled. -/
def Player.worn (player : Player) (slot : Slot) : Option Nat :=
  if player.inventoryAbilities slot then (player.inventory slot).map fun address => (player.items address).id else none

variable (table : Table)

def contribution (player : Player) (slot : Slot) : Modifiers := (player.worn slot).elim 0 (amount table player.defaultStats)

def suppressed (player : Player) (slot : Slot) : BitVec 32 := (player.worn slot).elim 0 (suppressions table)

/-- The player's skills, stats and speed are a baseline and what the items of the enabled slots give, and he is protected from
what one of them suppresses. -/
structure Booked (baseline : Modifiers) (player : Player) : Prop where
  vars : player.vars = baseline + ∑ slot, contribution table player slot
  suppressions : ∀ bit, player.conditionSuppressions.getLsbD bit = true ↔
    ∃ slot, (suppressed table player slot).getLsbD bit = true

/-- An item is in one slot at most, which is its parent then, and what an enabled slot gives can be taken again. -/
structure Kept (baseline : Modifiers) (player : Player) : Prop where
  booked : Booked table baseline player
  single : ∀ slot other address, player.inventory slot = some address → player.inventory other = some address → slot = other
  owned : ∀ slot address, player.inventory slot = some address → (player.items address).parent = .player
  older : ∀ slot address, player.inventory slot = some address → address < player.next
  filled : ∀ slot, player.inventoryAbilities slot = true → ∃ address, player.inventory slot = some address
  undoable : ∀ slot type, player.worn slot = some type → table.deEquip type slot = true ∨ Bare table type

/-- The other slots do not suppress what this one does. -/
def Parted (player : Player) (slot : Slot) : Prop :=
  ∀ other, other ≠ slot → suppressed table player slot &&& suppressed table player other = 0

/-- The item of the slot, if the slot is enabled, stays as it is when it is taken off. -/
def Plain (player : Player) (slot : Slot) : Prop :=
  ∀ type, player.worn slot = some type → (table.items type).transformDeEquipTo = 0

/-- The condition of a label. -/
def Clear (player : Player) : Label → Prop
  | .enter .. | .equip _ => True
  | .leave slot _ => Parted table player slot
  -- the form that the item takes when it leaves its slot is not put on in the other one, or nothing is suppressed
  | .shift slot other => Parted table player slot ∧ ∀ type, player.worn slot = some type →
      (table.items type).transformDeEquipTo ≠ 0 →
      suppressions table type = 0 ∨ table.equip (table.items type).transformDeEquipTo other = none
  | .part slot _ => Parted table player slot ∧ Plain table player slot
  | .transform slot newId newCount =>
    match player.inventory slot with
    | none => True
    | some address =>
      match transformation table (player.items address) newId newCount with
      | .stays => True
      | .dropped | .removed => Parted table player slot
      -- the new item is not put on before the old one is taken off
      | .replaced newId _ => if player.inventoryAbilities slot then Parted table player slot else table.equip newId slot = none
      | .updated _ => Parted table player slot ∧ Plain table player slot
  -- percentages of the values that change come to the same
  | .base _ defaultStats _ _ _ _ => ∀ slot type, player.worn slot = some type →
      amount table defaultStats type = amount table player.defaultStats type

variable {table} {baseline : Modifiers} {player result : Player} {slot : Slot}

theorem worn_disabled (disabled : player.inventoryAbilities slot = false) : player.worn slot = none := by
  unfold Player.worn
  rw [disabled]
  rfl

theorem contribution_disabled (disabled : player.inventoryAbilities slot = false) : contribution table player slot = 0 := by
  unfold contribution
  rw [worn_disabled disabled]
  rfl

theorem suppressed_disabled (disabled : player.inventoryAbilities slot = false) : suppressed table player slot = 0 := by
  unfold suppressed
  rw [worn_disabled disabled]
  rfl

theorem parted_disabled (disabled : player.inventoryAbilities slot = false) : Parted table player slot := by
  intro other _
  rw [suppressed_disabled disabled]
  exact BitVec.zero_and

/-- What a change of one slot leaves as it is. -/
structure Beside (slot : Slot) (player result : Player) : Prop where
  inventory : ∀ other, other ≠ slot → result.inventory other = player.inventory other
  abilities : ∀ other, other ≠ slot → result.inventoryAbilities other = player.inventoryAbilities other
  items : ∀ other, other ≠ slot → ∀ address, player.inventory other = some address → result.items address = player.items address
  defaultStats : result.defaultStats = player.defaultStats
  next : player.next ≤ result.next

theorem Beside.worn (beside : Beside slot player result) {other : Slot} (differs : other ≠ slot) :
    result.worn other = player.worn other := by
  unfold Player.worn
  rw [beside.abilities other differs, beside.inventory other differs]
  cases there : player.inventory other with
  | none => rfl
  | some address => simp only [map_some, beside.items other differs address there]

theorem Beside.contribution (beside : Beside slot player result) {other : Slot} (differs : other ≠ slot) :
    contribution table result other = contribution table player other := by
  unfold Equipment.contribution
  rw [beside.worn differs, beside.defaultStats]

theorem Beside.suppressed (beside : Beside slot player result) {other : Slot} (differs : other ≠ slot) :
    suppressed table result other = suppressed table player other := by
  unfold Equipment.suppressed
  rw [beside.worn differs]

/-- The sum over the slots after a change of one of them. -/
theorem Beside.sum (beside : Beside slot player result) : ∑ other, Equipment.contribution table result other =
    ∑ other, Equipment.contribution table player other - Equipment.contribution table player slot +
      Equipment.contribution table result slot := by
  rw [← Finset.add_sum_erase _ _ (Finset.mem_univ slot),
    ← Finset.add_sum_erase _ (Equipment.contribution table player) (Finset.mem_univ slot)]
  have rest : ∑ other ∈ Finset.univ.erase slot, Equipment.contribution table result other =
      ∑ other ∈ Finset.univ.erase slot, Equipment.contribution table player other := by
    apply Finset.sum_congr rfl
    intro other member
    exact beside.contribution (Finset.ne_of_mem_erase member)
  rw [rest, add_sub_cancel_left, add_comm]

/-- A change of one slot that takes what it gave and adds what it gives keeps the books. -/
theorem Booked.change (booked : Booked table baseline player) (beside : Beside slot player result)
    (vars : result.vars = player.vars - contribution table player slot + contribution table result slot)
    (bits : result.conditionSuppressions = player.conditionSuppressions &&& ~~~suppressed table player slot |||
      suppressed table result slot)
    (parted : Parted table player slot) : Booked table baseline result := by
  constructor
  · rw [vars, booked.vars, beside.sum, ← add_assoc, ← add_sub_assoc]
  · intro bit
    rw [bits, BitVec.getLsbD_or, BitVec.getLsbD_and, BitVec.getLsbD_not]
    constructor
    · intro there
      rcases Bool.or_eq_true_iff.mp there with before | now
      · obtain ⟨held, other⟩ := Bool.and_eq_true_iff.mp before
        obtain ⟨source, given⟩ := (booked.suppressions bit).mp held
        refine ⟨source, ?_⟩
        have differs : source ≠ slot := by
          intro same
          rw [same] at given
          simp [given] at other
        rw [beside.suppressed differs]
        exact given
      · exact ⟨slot, now⟩
    · rintro ⟨other, given⟩
      by_cases same : other = slot
      · rw [← same, given, Bool.or_true]
      · rw [beside.suppressed same] at given
        have held := (booked.suppressions bit).mpr ⟨other, given⟩
        have apart : (suppressed table player slot).getLsbD bit = false := by
          have both := congrArg (fun bits => BitVec.getLsbD bits bit) (parted other same)
          simpa [BitVec.getLsbD_and, given] using both
        have small : bit < 32 := BitVec.lt_of_getLsbD held
        rw [held, apart, decide_eq_true small]
        rfl

theorem Kept.change (kept : Kept table baseline player) (beside : Beside slot player result)
    (vars : result.vars = player.vars - contribution table player slot + contribution table result slot)
    (bits : result.conditionSuppressions = player.conditionSuppressions &&& ~~~suppressed table player slot |||
      suppressed table result slot)
    (parted : Parted table player slot)
    (held : ∀ address, result.inventory slot = some address →
      (result.items address).parent = .player ∧ address < result.next ∧ ∀ other, other ≠ slot → player.inventory other ≠ some address)
    (filled : result.inventoryAbilities slot = true → ∃ address, result.inventory slot = some address)
    (undoable : ∀ type, result.worn slot = some type → table.deEquip type slot = true ∨ Bare table type) :
    Kept table baseline result where
  booked := kept.booked.change beside vars bits parted
  single := by
    intro first second address one two
    by_cases firstHere : first = slot
    · by_cases secondHere : second = slot
      · rw [firstHere, secondHere]
      · rw [beside.inventory second secondHere] at two
        rw [firstHere] at one
        exact absurd two ((held address one).2.2 second secondHere)
    · rw [beside.inventory first firstHere] at one
      by_cases secondHere : second = slot
      · rw [secondHere] at two
        exact absurd one ((held address two).2.2 first firstHere)
      · rw [beside.inventory second secondHere] at two
        exact kept.single first second address one two
  owned := by
    intro other address there
    by_cases here : other = slot
    · rw [here] at there
      exact (held address there).1
    · rw [beside.inventory other here] at there
      rw [beside.items other here address there]
      exact kept.owned other address there
  older := by
    intro other address there
    by_cases here : other = slot
    · rw [here] at there
      exact (held address there).2.1
    · rw [beside.inventory other here] at there
      exact Nat.lt_of_lt_of_le (kept.older other address there) beside.next
  filled := by
    intro other enabled
    by_cases here : other = slot
    · rw [here] at enabled ⊢
      exact filled enabled
    · rw [beside.abilities other here] at enabled
      rw [beside.inventory other here]
      exact kept.filled other enabled
  undoable := by
    intro other type worn
    by_cases here : other = slot
    · rw [here] at worn ⊢
      exact undoable type worn
    · rw [beside.worn here] at worn
      exact kept.undoable other type worn

variable {address : Nat}

theorem worn_here (here : player.inventory slot = some address) (enabled : player.inventoryAbilities slot = true) :
    player.worn slot = some (player.items address).id := by
  unfold Player.worn
  rw [enabled, here]
  rfl

theorem Kept.elsewhere (kept : Kept table baseline player) (here : player.inventory slot = some address) {other : Slot}
    (differs : other ≠ slot) {another : Nat} (there : player.inventory other = some another) : another ≠ address := by
  intro same
  rw [same] at there
  exact differs (kept.single other slot address there here)

theorem Kept.others (kept : Kept table baseline player) (here : player.inventory slot = some address) (item : Item) {other : Slot}
    (differs : other ≠ slot) {another : Nat} (there : player.inventory other = some another) :
    Function.update player.items address item another = player.items another :=
  update_of_ne (kept.elsewhere here differs there) ..

theorem Kept.disabled (kept : Kept table baseline player) (empty : player.inventory slot = none) :
    player.inventoryAbilities slot = false := by
  rw [← Bool.not_eq_true]
  intro enabled
  obtain ⟨address, there⟩ := kept.filled slot enabled
  rw [empty] at there
  exact some_ne_none address there.symm

/-- What is done to the item of a slot that is not enabled. -/
theorem Kept.dressed (kept : Kept table baseline player) (here : player.inventory slot = some address)
    (disabled : player.inventoryAbilities slot = false) (dressed : Dressed table slot address player result) :
    Kept table baseline result := by
  obtain ⟨item, enabled, parent, undoable, rfl⟩ := dressed
  have worn : (dress table slot address item enabled player).worn slot = if enabled then some item.id else none := by
    unfold Player.worn dress
    simp only [update_self, here, map_some]
  have given : contribution table (dress table slot address item enabled player) slot =
      if enabled then amount table player.defaultStats item.id else 0 := by
    unfold contribution
    rw [worn]
    cases enabled with
    | false | true => rfl
  have bits : suppressed table (dress table slot address item enabled player) slot =
      if enabled then suppressions table item.id else 0 := by
    unfold suppressed
    rw [worn]
    cases enabled with
    | false | true => rfl
  refine kept.change (?_ : Beside slot player _) ?_ ?_ ?_ ?_ ?_ ?_
  · exact ⟨fun _ _ => rfl, fun other differs => update_of_ne differs .., fun other differs another there =>
      kept.others here item differs there, rfl, Nat.le_refl _⟩
  · rw [given, contribution_disabled disabled, sub_zero]
    rfl
  · rw [bits, suppressed_disabled disabled, and_not_zero]
    rfl
  · exact parted_disabled disabled
  · intro another there
    have same : another = address := some.inj (there.symm.trans here)
    rw [same]
    refine ⟨?_, kept.older slot address here, ?_⟩
    · show (Function.update player.items address item address).parent = .player
      rw [update_self, parent]
      exact kept.owned slot address here
    · exact fun other differs place => kept.elsewhere here differs place rfl
  · exact fun _ => ⟨address, here⟩
  · intro type is
    rw [worn] at is
    cases enabled with
    | false => exact absurd is.symm (some_ne_none type)
    | true =>
      rw [← some.inj is]
      exact undoable rfl

/-- What an enabled slot gives is taken, and its item stays. -/
theorem Kept.undressed (kept : Kept table baseline player) (here : player.inventory slot = some address)
    (enabled : player.inventoryAbilities slot = true) (parted : Parted table player slot) {item : Item}
    (parent : item.parent = (player.items address).parent) :
    Kept table baseline (undress table slot address (player.items address).id item player) := by
  have off : (undress table slot address (player.items address).id item player).inventoryAbilities slot = false :=
    update_self ..
  have given : contribution table player slot = amount table player.defaultStats (player.items address).id := by
    unfold contribution
    rw [worn_here here enabled]
    rfl
  have bits : suppressed table player slot = suppressions table (player.items address).id := by
    unfold suppressed
    rw [worn_here here enabled]
    rfl
  refine kept.change (?_ : Beside slot player _) ?_ ?_ parted ?_ ?_ ?_
  · exact ⟨fun _ _ => rfl, fun other differs => update_of_ne differs .., fun other differs another there =>
      kept.others here item differs there, rfl, Nat.le_refl _⟩
  · rw [given, contribution_disabled off, add_zero]
    rfl
  · rw [bits, suppressed_disabled off]
    exact (BitVec.or_zero).symm
  · intro another there
    have same : another = address := some.inj (there.symm.trans here)
    rw [same]
    refine ⟨?_, kept.older slot address here, ?_⟩
    · show (Function.update player.items address item address).parent = .player
      rw [update_self, parent]
      exact kept.owned slot address here
    · exact fun other differs place => kept.elsewhere here differs place rfl
  · exact fun _ => ⟨address, here⟩
  · intro type is
    rw [worn_disabled off] at is
    exact absurd is.symm (some_ne_none type)

/-- The item of a slot that is not enabled goes away. -/
theorem Kept.clear (kept : Kept table baseline player) (here : player.inventory slot = some address)
    (disabled : player.inventoryAbilities slot = false) (item : Item) :
    Kept table baseline ((player.setSlot slot none).setItem address item) := by
  have off : ((player.setSlot slot none).setItem address item).inventoryAbilities slot = false := disabled
  have gone : ((player.setSlot slot none).setItem address item).inventory slot = none := update_self ..
  refine kept.change (?_ : Beside slot player _) ?_ ?_ (parted_disabled disabled) ?_ ?_ ?_
  · exact ⟨fun other differs => update_of_ne differs .., fun _ _ => rfl, fun other differs another there =>
      kept.others here item differs there, rfl, Nat.le_refl _⟩
  · rw [contribution_disabled disabled, contribution_disabled off, sub_zero, add_zero]
    rfl
  · rw [suppressed_disabled disabled, suppressed_disabled off, and_not_zero]
    exact (BitVec.or_zero).symm
  · intro another there
    rw [gone] at there
    exact absurd there.symm (some_ne_none another)
  · intro on
    rw [off] at on
    exact Bool.noConfusion on
  · intro type is
    rw [worn_disabled off] at is
    exact absurd is.symm (some_ne_none type)

theorem Kept.put (kept : Kept table baseline player) (empty : player.inventory slot = none) {item : Item}
    (owned : item.parent = .player) (free : ∀ other, player.inventory other ≠ some address) {next : Nat}
    (later : player.next ≤ next) (older : address < next) :
    Kept table baseline { (player.setItem address item).setSlot slot (some address) with next } := by
  have disabled := kept.disabled empty
  have off : { (player.setItem address item).setSlot slot (some address) with next }.inventoryAbilities slot = false := disabled
  have there : { (player.setItem address item).setSlot slot (some address) with next }.inventory slot = some address :=
    update_self ..
  refine kept.change (?_ : Beside slot player _) ?_ ?_ (parted_disabled disabled) ?_ ?_ ?_
  · refine ⟨fun other differs => update_of_ne differs .., fun _ _ => rfl, ?_, rfl, later⟩
    intro other _ another place
    apply update_of_ne
    intro same
    rw [same] at place
    exact free other place
  · rw [contribution_disabled disabled, contribution_disabled off, sub_zero, add_zero]
    rfl
  · rw [suppressed_disabled disabled, suppressed_disabled off, and_not_zero]
    exact (BitVec.or_zero).symm
  · intro another place
    have same : another = address := some.inj (place.symm.trans there)
    rw [same]
    refine ⟨?_, older, fun other _ => free other⟩
    show (Function.update player.items address item address).parent = .player
    rw [update_self, owned]
  · exact fun _ => ⟨address, there⟩
  · intro type is
    rw [worn_disabled off] at is
    exact absurd is.symm (some_ne_none type)

end

section

variable {table : Table} {rank : Nat → Nat} {fuel depth : Nat} {baseline : Modifiers} {player result : Player} {slot : Slot}
  {address : Nat}

theorem setItem_setItem (item other : Item) : (player.setItem address item).setItem address other = player.setItem address other := by
  unfold Player.setItem
  simp only [update_idem]

theorem Kept.index (kept : Kept table baseline player) (here : player.inventory slot = some address) :
    player.getThingIndex address = some slot := by
  unfold Player.getThingIndex
  cases found : (List.finRange 10).find? fun other => player.inventory other == some address with
  | none =>
    have missing := List.find?_eq_none.mp found slot (List.mem_finRange slot)
    simp [here] at missing
  | some other =>
    have there := List.find?_some found
    rw [beq_iff_eq] at there
    rw [kept.single other slot address there here]

/-- An item is put on as one of another type in a slot that is not enabled. -/
theorem Kept.equipAs (kept : Kept table baseline player) (orderly : Orderly table rank fuel) (enough : ∀ type, rank type < depth)
    (here : player.inventory slot = some address) (flag : player.inventoryAbilities slot = false) {item : Item}
    (parent : item.parent = (player.items address).parent) :
    ∃ result, onPlayerEquip table (nestedTransform table depth) (player.setItem address item) address slot = some result ∧
      Kept table baseline result := by
  have there : (player.setItem address item).items address = item := update_self ..
  have dressed : ∃ result, onPlayerEquip table (nestedTransform table depth) (player.setItem address item) address slot = some result ∧
      Dressed table slot address (player.setItem address item) result := by
    have off : (player.setItem address item).inventoryAbilities slot = false := flag
    apply onPlayerEquip_dressed orderly off
    intro changes
    have owned : ((player.setItem address item).items address).parent = .player := by
      rw [there, parent]
      exact kept.owned slot address here
    have index : (player.setItem address item).getThingIndex address = some slot := kept.index here
    have place : (player.setItem address item).inventory slot = some address := here
    have inner := transformItem_dressed orderly depth _ (enough _) place index owned off (orderly.equipTo _ changes)
    exact inner.imp fun result there => ⟨there.1, there.2.1⟩
  obtain ⟨result, ran, dressed⟩ := dressed
  exact ⟨result, ran, kept.dressed here flag (dressed.after_setItem parent)⟩

/-- An item is put on. -/
theorem Kept.equip (kept : Kept table baseline player) (orderly : Orderly table rank fuel) (enough : ∀ type, rank type < depth)
    (here : player.inventory slot = some address) :
    ∃ result, onPlayerEquip table (nestedTransform table depth) player address slot = some result ∧ Kept table baseline result := by
  cases flag : player.inventoryAbilities slot with
  | true => exact ⟨player, onPlayerEquip_enabled flag, kept⟩
  | false =>
    have same : player.setItem address (player.items address) = player := by
      unfold Player.setItem
      rw [update_eq_self]
    have equipped := kept.equipAs orderly enough here flag (rfl : (player.items address).parent = _)
    rwa [same] at equipped

/-- A transformation of an item that is in no slot. -/
theorem transformItem_away (away : (player.items address).parent ≠ .player) (newId : Nat) (newCount : Int) :
    ∃ item, transformItem table (depth + 1) player address newId newCount = some (player.setItem address item) := by
  unfold transformItem
  cases parent : (player.items address).parent with
  | none =>
    refine ⟨player.items address, ?_⟩
    simp only [parent]
    unfold Player.setItem
    rw [update_eq_self]
  | player => exact absurd parent away
  | elsewhere =>
    refine ⟨{ player.items address with id := newId }, ?_⟩
    simp only [parent]

theorem onPlayerDeEquip_away {type : Nat} (same : (player.items address).id = type) (away : (player.items address).parent ≠ .player)
    (enabled : player.inventoryAbilities slot = true) (undoable : table.deEquip type slot = true ∨ Bare table type) :
    ∃ item, onPlayerDeEquip table (nestedTransform table (depth + 1)) player address slot =
      some (undress table slot address type item player) := by
  refine (onPlayerDeEquip_undress same enabled undoable ?_).imp fun item both => both.1
  intro _
  have outside : ((player.setItemAbility slot false).items address).parent ≠ .player := away
  exact transformItem_away outside _ _

/-- An item leaves its slot: what is left is a player who keeps his books, without the item. -/
theorem Kept.taken (kept : Kept table baseline player) (here : player.inventory slot = some address)
    (parted : Parted table player slot) {parent : Parent} (away : parent ≠ .player) :
    ∃ before item, takeFrom table (nestedTransform table (depth + 1)) player address slot parent =
        some ((before.setSlot slot none).setItem address item) ∧
      Kept table baseline before ∧ before.inventory slot = some address ∧ before.inventoryAbilities slot = false ∧
      before.next = player.next := by
  have there : ((player.setSlot slot none).setItem address { player.items address with parent }).items address =
      { player.items address with parent } := update_self ..
  cases flag : player.inventoryAbilities slot with
  | false => exact ⟨player, _, onPlayerDeEquip_disabled flag, kept, here, flag, rfl⟩
  | true =>
    have undressed : ∃ item, takeFrom table (nestedTransform table (depth + 1)) player address slot parent =
        some (undress table slot address (player.items address).id item
          ((player.setSlot slot none).setItem address { player.items address with parent })) := by
      apply onPlayerDeEquip_away (congrArg Item.id there) ?_ flag (kept.undoable slot _ (worn_here here flag))
      rw [there]
      exact away
    obtain ⟨item, ran⟩ := undressed
    refine ⟨undress table slot address (player.items address).id (player.items address) player, item, ?_,
      kept.undressed here flag parted rfl, here, update_self .., rfl⟩
    rw [ran]
    unfold undress Player.setItem Player.setSlot
    simp only [update_idem]

theorem Kept.create (kept : Kept table baseline player) (empty : player.inventory slot = none) {item : Item}
    (owned : item.parent = .player) :
    Kept table baseline { (player.setItem player.next item).setSlot slot (some player.next) with next := player.next + 1 } := by
  apply kept.put empty owned
  · intro other place
    exact absurd (kept.older other _ place) (Nat.lt_irrefl _)
  · exact Nat.le_succ _
  · exact Nat.lt_succ_self _

theorem Kept.takenOff (kept : Kept table baseline player) (here : player.inventory slot = some address)
    (parted : Parted table player slot) (plain : Plain table player slot)
    (nested : Nested) :
    ∃ result, onPlayerDeEquip table nested player address slot = some result ∧ Kept table baseline result ∧
      result.inventory = player.inventory ∧ result.inventoryAbilities slot = false ∧ result.items address = player.items address := by
  cases flag : player.inventoryAbilities slot with
  | false => exact ⟨player, onPlayerDeEquip_disabled flag, kept, rfl, flag, rfl⟩
  | true =>
    have worn := worn_here here flag
    have stays := plain _ worn
    have taken : ∃ item, onPlayerDeEquip table nested player address slot =
          some (undress table slot address (player.items address).id item player) ∧
        ((table.items (player.items address).id).transformDeEquipTo = 0 → item = player.items address) :=
      onPlayerDeEquip_undress rfl flag (kept.undoable slot _ worn) (fun changes => absurd stays changes)
    obtain ⟨item, ran, same⟩ := taken
    refine ⟨_, ran, kept.undressed here flag parted (same stays ▸ rfl), rfl, update_self .., ?_⟩
    rw [same stays]
    exact update_self ..

/-- What does not change what the slots give keeps the books. -/
theorem Kept.same (kept : Kept table baseline player) (vars : result.vars = player.vars)
    (bits : result.conditionSuppressions = player.conditionSuppressions) (inventory : result.inventory = player.inventory)
    (abilities : result.inventoryAbilities = player.inventoryAbilities) (next : result.next = player.next)
    (worn : ∀ slot, result.worn slot = player.worn slot)
    (given : ∀ slot type, player.worn slot = some type → amount table result.defaultStats type = amount table player.defaultStats type)
    (owned : ∀ slot address, player.inventory slot = some address → (result.items address).parent = .player) :
    Kept table baseline result := by
  have contributions : contribution table result = contribution table player := by
    funext slot
    unfold contribution
    rw [worn slot]
    cases is : player.worn slot with
    | none => rfl
    | some type => exact given slot type is
  have suppressions : suppressed table result = suppressed table player := by
    funext slot
    unfold suppressed
    rw [worn slot]
  constructor
  · constructor
    · rw [vars, contributions]
      exact kept.booked.vars
    · rw [bits, suppressions]
      exact kept.booked.suppressions
  · rw [inventory]
    exact kept.single
  · rw [inventory]
    exact owned
  · rw [inventory, next]
    exact kept.older
  · rw [inventory, abilities]
    exact kept.filled
  · intro slot type is
    rw [worn slot] at is
    exact kept.undoable slot type is

theorem worn_setItem {item : Item} (id : item.id = (player.items address).id) (other : Slot) :
    (player.setItem address item).worn other = player.worn other := by
  have there (another : Nat) : ((player.setItem address item).items another).id = (player.items another).id := by
    by_cases same : another = address
    · rw [same, ← id]
      exact congrArg Item.id (update_self ..)
    · exact congrArg Item.id (update_of_ne same ..)
  unfold Player.worn
  show (if player.inventoryAbilities other then (player.inventory other).map _ else none) = _
  cases player.inventory other with
  | none => rfl
  | some another => simp only [map_some, there]

/-- The other values of an item do not matter. -/
theorem Kept.setItem (kept : Kept table baseline player) {item : Item} (id : item.id = (player.items address).id)
    (parent : item.parent = (player.items address).parent) : Kept table baseline (player.setItem address item) := by
  refine kept.same (?_ : (player.setItem address item).vars = player.vars) rfl rfl rfl rfl ?_ ?_ ?_
  · rfl
  · exact worn_setItem id
  · exact fun _ _ _ => rfl
  · intro other another place
    by_cases same : another = address
    · rw [same] at place ⊢
      have changed : (player.setItem address item).items address = item := update_self ..
      rw [changed, parent]
      exact kept.owned other address place
    · have unchanged : (player.setItem address item).items another = player.items another := update_of_ne same ..
      rw [unchanged]
      exact kept.owned other another place

theorem Parted.setItem (parted : Parted table player slot) {item : Item} (id : item.id = (player.items address).id) :
    Parted table (player.setItem address item) slot := by
  intro other differs
  unfold suppressed
  rw [worn_setItem id, worn_setItem id]
  exact parted other differs

theorem kept_enter (kept : Kept table baseline player) (orderly : Orderly table rank fuel) (id : Nat) (subType : Int)
    (hasCharges : Bool) (slot : Slot) :
    ∃ result, act table fuel player (.enter id subType hasCharges slot) = some result ∧ Kept table baseline result := by
  simp only [act]
  by_cases empty : player.inventory slot = none
  · rw [if_pos empty]
    exact (kept.create empty rfl).equip orderly orderly.enough (update_self ..)
  · rw [if_neg empty]
    exact ⟨player, rfl, kept⟩

theorem kept_leave (kept : Kept table baseline player) (parent : Parent) (parted : Parted table player slot) :
    ∃ result, act table (depth + 1) player (.leave slot parent) = some result ∧ Kept table baseline result := by
  simp only [act]
  cases here : player.inventory slot with
  | none => exact ⟨player, rfl, kept⟩
  | some address =>
    simp only
    by_cases stays : parent = .player
    · rw [if_pos stays]
      exact ⟨player, rfl, kept⟩
    · rw [if_neg stays]
      obtain ⟨before, item, ran, still, there, flag, _⟩ := kept.taken here parted stays
      exact ⟨_, ran, still.clear there flag item⟩

theorem kept_part (kept : Kept table baseline player) (count : Int) (parted : Parted table player slot)
    (plain : Plain table player slot) :
    ∃ result, act table fuel player (.part slot count) = some result ∧ Kept table baseline result := by
  simp only [act]
  cases here : player.inventory slot with
  | none => exact ⟨player, rfl, kept⟩
  | some address =>
    have still : Kept table baseline (player.setItem address { player.items address with subType := count }) := kept.setItem rfl rfl
    have worn : (player.setItem address { player.items address with subType := count }).worn slot = player.worn slot := by
      apply worn_setItem
      rfl
    obtain ⟨result, ran, keeps, _⟩ := still.takenOff here (parted.setItem rfl) (fun type is => plain type (worn ▸ is))
      (nestedTransform table fuel)
    exact ⟨result, ran, keeps⟩

theorem kept_equip (kept : Kept table baseline player) (orderly : Orderly table rank fuel) :
    ∃ result, act table fuel player (.equip slot) = some result ∧ Kept table baseline result := by
  simp only [act]
  cases here : player.inventory slot with
  | none => exact ⟨player, rfl, kept⟩
  | some address => exact kept.equip orderly orderly.enough here

theorem replaced_eq (apart : address ≠ player.next) (new item : Item) :
    ((player.createItem new).1.setSlot slot (some player.next)).setItem address item =
      { (((player.setSlot slot none).setItem address item).setItem player.next new).setSlot slot (some player.next) with
        next := player.next + 1 } := by
  unfold Player.createItem Player.setSlot Player.setItem
  simp only [update_idem, update_comm apart]

theorem undress_replaced (apart : address ≠ player.next) (new item other old : Item) (type : Nat) :
    undress table slot address type item (((player.createItem new).1.setSlot slot (some player.next)).setItem address other) =
      (((undress table slot address type old player).createItem new).1.setSlot slot (some player.next)).setItem address item := by
  unfold undress Player.createItem Player.setSlot Player.setItem
  simp only [update_idem, update_comm apart.symm]

theorem Kept.replaced (kept : Kept table baseline player) (here : player.inventory slot = some address)
    (disabled : player.inventoryAbilities slot = false) {new : Item} (owned : new.parent = .player) (item : Item) :
    Kept table baseline (((player.createItem new).1.setSlot slot (some player.next)).setItem address item) := by
  rw [replaced_eq (Nat.ne_of_lt (kept.older slot address here))]
  exact (kept.clear here disabled item).create (update_self ..) owned

/-- A new item in the place of the old one. -/
theorem kept_replaced (kept : Kept table baseline player) (here : player.inventory slot = some address) {newId : Nat} {newCount : Int}
    (clear : if player.inventoryAbilities slot then Parted table player slot else table.equip newId slot = none) :
    ∃ result, (onPlayerEquip table (nestedTransform table (depth + 1))
          ((player.createItem (newItem table newId newCount)).1.setSlot slot (some player.next)) player.next slot).bind (fun player =>
        onPlayerDeEquip table (nestedTransform table (depth + 1))
          (player.setItem address { player.items address with parent := .none }) address slot) = some result ∧
      Kept table baseline result := by
  have older := kept.older slot address here
  have apart : address ≠ player.next := Nat.ne_of_lt older
  obtain ⟨changed, is⟩ : ∃ changed, changed = (player.createItem (newItem table newId newCount)).1.setSlot slot (some player.next) :=
    ⟨_, rfl⟩
  have old : changed.items address = player.items address := by
    rw [is]
    exact update_of_ne apart ..
  have new : changed.items player.next = newItem table newId newCount := by
    rw [is]
    exact update_self ..
  have flags : changed.inventoryAbilities = player.inventoryAbilities := by rw [is]; rfl
  rw [← is]
  -- the new item is not put on: the slot is enabled, or there is no event
  have waits : onPlayerEquip table (nestedTransform table (depth + 1)) changed player.next slot = some changed := by
    cases flag : player.inventoryAbilities slot with
    | true =>
      apply onPlayerEquip_enabled
      rw [flags, flag]
    | false =>
      apply onPlayerEquip_none
      rw [new]
      rw [flag] at clear
      exact clear
  rw [waits, bind_some, old]
  have away : (changed.setItem address { player.items address with parent := .none }).items address =
      { player.items address with parent := .none } := update_self ..
  cases flag : player.inventoryAbilities slot with
  | false =>
    have off : (changed.setItem address { player.items address with parent := .none }).inventoryAbilities slot = false := by
      rw [← flag, ← flags]
      rfl
    refine ⟨_, onPlayerDeEquip_disabled off, ?_⟩
    rw [is]
    exact kept.replaced here flag rfl _
  | true =>
    rw [flag] at clear
    have on : (changed.setItem address { player.items address with parent := .none }).inventoryAbilities slot = true := by
      rw [← flag, ← flags]
      rfl
    have outside : ((changed.setItem address { player.items address with parent := .none }).items address).parent ≠ .player := by
      rw [away]
      exact (by decide : Parent.none ≠ .player)
    obtain ⟨item, ran⟩ := onPlayerDeEquip_away (congrArg Item.id away) outside on (kept.undoable slot _ (worn_here here flag))
    refine ⟨_, ran, ?_⟩
    have off := kept.undressed here flag clear (rfl : (player.items address).parent = _)
    rw [is, undress_replaced apart _ _ _ (player.items address)]
    exact off.replaced here (update_self ..) rfl item

theorem kept_transform (kept : Kept table baseline player) (orderly : Orderly table rank (depth + 2)) (newId : Nat) (newCount : Int)
    (clear : Clear table player (.transform slot newId newCount)) :
    ∃ result, act table (depth + 2) player (.transform slot newId newCount) = some result ∧ Kept table baseline result := by
  simp only [act]
  cases here : player.inventory slot with
  | none => exact ⟨player, rfl, kept⟩
  | some address =>
    simp only [Clear, here] at clear
    simp only [transformItem, kept.owned slot address here, kept.index here, transformInSlot]
    cases branch : transformation table (player.items address) newId newCount with
    | stays => exact ⟨player, rfl, kept⟩
    | dropped =>
      simp only [branch] at clear ⊢
      obtain ⟨before, item, ran, still, there, flag, _⟩ := kept.taken here clear (by decide : Parent.none ≠ .player)
      refine ⟨_, congrArg (Option.map _) ran, ?_⟩
      beta_reduce
      rw [setItem_setItem]
      exact still.clear there flag _
    | removed =>
      simp only [branch] at clear ⊢
      obtain ⟨before, item, ran, still, there, flag, _⟩ := kept.taken here clear (by decide : Parent.none ≠ .player)
      exact ⟨_, ran, still.clear there flag item⟩
    | replaced newId newCount =>
      simp only [branch] at clear ⊢
      exact kept_replaced kept here clear
    | updated newCount =>
      simp only [branch] at clear ⊢
      obtain ⟨parted, plain⟩ := clear
      obtain ⟨off, ran, still, inventory, flag, same⟩ := kept.takenOff here parted plain (nestedTransform table (depth + 1))
      have there : off.inventory slot = some address := by rw [inventory, here]
      obtain ⟨item, updated, _, parent⟩ := updateThing_eq (still.index there) newId newCount
      have deep : ∀ type, rank type < depth + 1 :=
        fun type => Nat.lt_of_succ_le (Nat.le_of_succ_le_succ (orderly.deep type))
      obtain ⟨result, equipped, keeps⟩ := still.equipAs orderly deep there flag parent
      refine ⟨result, ?_, keeps⟩
      rw [same] at updated
      show (onPlayerDeEquip table (nestedTransform table (depth + 1)) player address slot).bind _ = some result
      rw [ran, bind_some, updated]
      exact equipped

/-- The events of an enabled slot whose item is in another slot by then, where it takes its other form. -/
theorem onPlayerDeEquip_dressed {type : Nat} {other : Slot} {nested : Nested} (same : (player.items address).id = type)
    (enabled : player.inventoryAbilities slot = true) (disabled : player.inventoryAbilities other = false)
    (undoable : table.deEquip type slot = true ∨ Bare table type)
    (inner : (table.items type).transformDeEquipTo ≠ 0 →
      ∃ result, nested (player.setItemAbility slot false) address (table.items type).transformDeEquipTo = some result ∧
        Dressed table other address (player.setItemAbility slot false) result ∧
        (suppressions table type = 0 ∨ result.inventoryAbilities other = false)) :
    ∃ result, onPlayerDeEquip table nested player address slot = some result ∧
      Dressed table other address (undress table slot address type (player.items address) player) result := by
  have owner : ((undress table slot address type (player.items address) player).items address) = player.items address :=
    update_self ..
  have stays : (undress table slot address type (player.items address) player).inventoryAbilities other = false := by
    show Function.update player.inventoryAbilities slot false other = false
    by_cases here : other = slot
    · rw [here, update_self]
    · rw [update_of_ne here, disabled]
  unfold onPlayerDeEquip
  simp only [same]
  by_cases event : table.deEquip type slot = true
  · rw [if_neg (not_not.mpr event), if_neg (not_not.mpr enabled)]
    by_cases changes : (table.items type).transformDeEquipTo ≠ 0
    · obtain ⟨result, ran, ⟨item, on, parent, undoable, is⟩, apart⟩ := inner changes
      rw [if_pos changes, ran, map_some, undoAbilities_type]
      refine ⟨_, rfl, item, on, ?_, undoable, ?_⟩
      · rw [owner]
        exact parent
      · have flag : result.inventoryAbilities other = on := by
          rw [is]
          exact update_self ..
        have bits (first second : BitVec 32) (none : suppressions table type = 0 ∨ second = 0) :
            (first ||| second) &&& ~~~suppressions table type = first &&& ~~~suppressions table type ||| second := by
          rcases none with none | none
          · rw [none, and_not_zero, and_not_zero]
          · rw [none]
            simp
        have given : suppressions table type = 0 ∨ (if on then suppressions table item.id else 0) = 0 := by
          apply apart.imp_right
          intro off
          rw [flag] at off
          rw [off]
          rfl
        rw [is]
        unfold dress undress Player.setItemAbility
        simp only [update_idem, bits _ _ given, Player.mk.injEq, true_and, and_true]
        exact add_sub_right_comm _ _ _
    · rw [if_neg changes, map_some, undoAbilities_type]
      refine ⟨_, rfl, ?_⟩
      have same : undress table slot address type (player.items address) player = { player.setItemAbility slot false with
          vars := (player.setItemAbility slot false).vars - amount table (player.setItemAbility slot false).defaultStats type
          conditionSuppressions := (player.setItemAbility slot false).conditionSuppressions &&& ~~~suppressions table type } := by
        unfold undress
        rw [update_eq_self]
        rfl
      rw [← same]
      exact dressed_same stays
  · have bare := undoable.resolve_left event
    have same : undress table slot address type (player.items address) player = player.setItemAbility slot false := by
      unfold undress
      rw [update_eq_self, amount_bare bare, suppressions_bare bare, and_not_zero, sub_zero]
      rfl
    rw [if_pos event]
    refine ⟨_, rfl, ?_⟩
    rw [← same]
    exact dressed_same stays

/-- An item that is not enabled goes to another slot. -/
theorem Kept.moved (kept : Kept table baseline player) (here : player.inventory slot = some address)
    (disabled : player.inventoryAbilities slot = false) {other : Slot} (empty : player.inventory other = none) :
    Kept table baseline ((player.setSlot slot none).setSlot other (some address)) := by
  have differs : other ≠ slot := by
    intro same
    rw [same, here] at empty
    exact some_ne_none address empty
  have cleared : Kept table baseline (player.setSlot slot none) := by
    have gone := kept.clear here disabled (player.items address)
    unfold Player.setItem at gone
    have same : Function.update (player.setSlot slot none).items address (player.items address) = player.items :=
      update_eq_self ..
    rwa [same] at gone
  have vacant : (player.setSlot slot none).inventory other = none := by
    have same : (player.setSlot slot none).inventory other = player.inventory other := update_of_ne differs ..
    rw [same, empty]
  have free (third : Slot) : (player.setSlot slot none).inventory third ≠ some address := by
    by_cases there : third = slot
    · have gone : (player.setSlot slot none).inventory slot = none := update_self ..
      rw [there, gone]
      exact (some_ne_none address).symm
    · have same : (player.setSlot slot none).inventory third = player.inventory third := update_of_ne there ..
      rw [same]
      exact fun place => kept.elsewhere here there place rfl
  have put := cleared.put vacant (kept.owned slot address here) free (Nat.le_refl _) (kept.older slot address here)
  unfold Player.setItem at put
  have same : Function.update (player.setSlot slot none).items address (player.items address) = player.items :=
    update_eq_self ..
  rw [same] at put
  exact put

theorem undress_moved {other : Slot} (type : Nat) (item : Item) :
    undress table slot address type item ((player.setSlot slot none).setSlot other (some address)) =
      ((undress table slot address type item player).setSlot slot none).setSlot other (some address) := rfl

theorem kept_shift (kept : Kept table baseline player) (orderly : Orderly table rank fuel) {other : Slot}
    (clear : Clear table player (.shift slot other)) :
    ∃ result, act table fuel player (.shift slot other) = some result ∧ Kept table baseline result := by
  simp only [act]
  cases here : player.inventory slot with
  | none => exact ⟨player, rfl, kept⟩
  | some address =>
    simp only
    by_cases empty : player.inventory other = none
    · rw [if_pos empty]
      have differs : slot ≠ other := by
        intro same
        rw [← same, here] at empty
        exact some_ne_none address empty
      obtain ⟨gone, is⟩ : ∃ gone, gone = (player.setSlot slot none).setSlot other (some address) := ⟨_, rfl⟩
      have place : gone.inventory other = some address := by
        rw [is]
        exact update_self ..
      have items : gone.items = player.items := by rw [is]; rfl
      have flags : gone.inventoryAbilities = player.inventoryAbilities := by rw [is]; rfl
      rw [← is]
      cases flag : player.inventoryAbilities slot with
      | false =>
        have moved := kept.moved here flag empty
        rw [← is] at moved
        rw [← flags] at flag
        rw [onPlayerDeEquip_disabled flag, bind_some]
        exact moved.equip orderly orderly.enough place
      | true =>
        obtain ⟨parted, form⟩ := clear
        have worn := worn_here here flag
        have moved := (kept.undressed here flag parted (rfl : (player.items address).parent = _)).moved here
          (update_self ..) empty
        rw [← undress_moved, ← is] at moved
        have free : gone.inventoryAbilities other = false := by
          rw [flags]
          exact kept.disabled empty
        have off : (gone.setItemAbility slot false).inventoryAbilities other = false :=
          (update_of_ne differs.symm ..).trans free
        have owned : ((gone.setItemAbility slot false).items address).parent = .player := by
          show (gone.items address).parent = .player
          rw [items]
          exact kept.owned slot address here
        have taken : ∃ result, onPlayerDeEquip table (nestedTransform table fuel) gone address slot = some result ∧
            Dressed table other address (undress table slot address (player.items address).id (gone.items address) gone) result := by
          apply onPlayerDeEquip_dressed (by rw [items]) (by rw [flags, flag]) free (kept.undoable slot _ worn)
          intro changes
          have index : (gone.setItemAbility slot false).getThingIndex address = some other := moved.index place
          have there : (gone.setItemAbility slot false).inventory other = some address := place
          have alike := orderly.deEquipTo _ changes
          rw [← items] at alike
          obtain ⟨result, ran, dressed, waits⟩ := transformItem_dressed orderly fuel _ (orderly.enough _) there index owned off alike
          rw [items] at ran waits
          exact ⟨result, ran, dressed, (form _ worn changes).imp_right waits⟩
        obtain ⟨result, ran, dressed⟩ := taken
        rw [ran, bind_some]
        rw [items] at dressed
        have still := moved.dressed place (by
          show Function.update gone.inventoryAbilities slot false other = false
          exact off) dressed
        obtain ⟨item, on, _, _, same⟩ := dressed
        have there : result.inventory other = some address := by
          rw [same]
          exact place
        exact still.equip orderly orderly.enough there
    · rw [if_neg empty]
      exact ⟨player, rfl, kept⟩

theorem kept_base (kept : Kept table baseline player) {baseSpeed : UInt32} {defaultStats : Fin 4 → Int32}
    {level magicLevel vocationId : Nat} {isPremium : Bool}
    (clear : Clear table player (.base baseSpeed defaultStats level magicLevel vocationId isPremium)) :
    ∃ result, act table fuel player (.base baseSpeed defaultStats level magicLevel vocationId isPremium) = some result ∧
      Kept table baseline result :=
  ⟨_, rfl, kept.same rfl rfl rfl rfl rfl (fun _ => rfl) clear kept.owned⟩

theorem kept_act (orderly : Orderly table rank fuel) (kept : Kept table baseline player) {label : Label}
    (clear : Clear table player label) : ∃ result, act table fuel player label = some result ∧ Kept table baseline result := by
  obtain ⟨depth, rfl⟩ := Nat.exists_eq_add_of_le' (Nat.le_trans (Nat.le_add_left 2 _) (orderly.deep 0))
  cases label with
  | enter id subType hasCharges slot => exact kept_enter kept orderly id subType hasCharges slot
  | leave slot parent => exact kept_leave kept parent clear
  | shift slot other => exact kept_shift kept orderly clear
  | part slot count => exact kept_part kept count clear.1 clear.2
  | equip slot => exact kept_equip kept orderly
  | transform slot newId newCount => exact kept_transform kept orderly newId newCount clear
  | base baseSpeed defaultStats level magicLevel vocationId isPremium => exact kept_base kept clear

/-- A player none of whose slots is enabled, with his items in them. -/
structure Undressed (player : Player) : Prop where
  single : ∀ slot other address, player.inventory slot = some address → player.inventory other = some address → slot = other
  owned : ∀ slot address, player.inventory slot = some address → (player.items address).parent = .player
  older : ∀ slot address, player.inventory slot = some address → address < player.next
  off : ∀ slot, player.inventoryAbilities slot = false
  bare : player.conditionSuppressions = 0

theorem Undressed.kept (undressed : Undressed player) : Kept table player.vars player where
  booked := by
    constructor
    · have none : ∑ slot, contribution table player slot = 0 :=
        Finset.sum_eq_zero fun slot _ => contribution_disabled (undressed.off slot)
      rw [none, add_zero]
    · intro bit
      rw [undressed.bare]
      constructor
      · intro there
        simp at there
      · rintro ⟨slot, given⟩
        rw [suppressed_disabled (undressed.off slot)] at given
        simp at given
  single := undressed.single
  owned := undressed.owned
  older := undressed.older
  filled := fun slot on => absurd ((undressed.off slot).symm.trans on) Bool.noConfusion
  undoable := fun slot type is => absurd ((worn_disabled (undressed.off slot)).symm.trans is).symm (some_ne_none type)

/-- Without an enabled slot nothing is left of the equipment. -/
theorem Booked.back (booked : Booked table baseline player) (off : ∀ slot, player.inventoryAbilities slot = false) :
    player.vars = baseline ∧ player.conditionSuppressions = 0 := by
  constructor
  · have none : ∑ slot, contribution table player slot = 0 :=
      Finset.sum_eq_zero fun slot _ => contribution_disabled (off slot)
    rw [booked.vars, none, add_zero]
  · apply BitVec.eq_of_getLsbD_eq
    intro bit _
    have clear : ¬ player.conditionSuppressions.getLsbD bit = true := by
      intro held
      obtain ⟨slot, given⟩ := (booked.suppressions bit).mp held
      rw [suppressed_disabled (off slot)] at given
      simp at given
    rw [Bool.eq_false_of_not_eq_true clear]
    exact (BitVec.getLsbD_zero).symm

/-- The state of a player who keeps his books over a baseline. -/
def Balanced (table : Table) (baseline : Modifiers) (state : Option Player) : Prop :=
  ∃ player, state = some player ∧ Booked table baseline player ∧
    ((∀ slot, player.inventoryAbilities slot = false) → player.vars = baseline ∧ player.conditionSuppressions = 0)

/-- On orderly tables every step of a run that is clear throughout comes to an end, and what a player has of his equipment is what
the items of his enabled slots give. -/
theorem equipment_along (orderly : Orderly table rank fuel) (start : Player) (undressed : Undressed start) (labels : List Label)
    (clear : Throughout (step table fuel) (fun state label => ∀ player ∈ state, Clear table player label) (some start) labels) :
    Always (step table fuel) (Balanced table start.vars) (some start) labels := by
  have keeps : ∀ state label, (∃ player, state = some player ∧ Kept table start.vars player) →
      (∀ player ∈ state, Clear table player label) →
      ∃ player, step table fuel state label = some player ∧ Kept table start.vars player := by
    rintro state label ⟨player, rfl, kept⟩ clear
    exact kept_act orderly kept (clear player rfl)
  have along := always_of_throughout keeps ⟨start, rfl, undressed.kept⟩ clear
  apply along.mono
  rintro state ⟨player, is, kept⟩
  exact ⟨player, is, kept.booked, kept.booked.back⟩

/-- A sword ring with the form that it takes on a finger. -/
def rings : Table where
  items
    | 1 => { id := 1, transformEquipTo := 2 }
    | 2 => { id := 2, transformDeEquipTo := 1, abilities := some { skills := fun skill => if skill = 2 then 4 else 0 } }
    | id => { id := id }
  equip id slot := if (id = 1 ∨ id = 2) ∧ slot = 8 then some {} else none
  deEquip id slot := id = 2 ∧ slot = 8
  percent _ _ := 0

theorem rings_cases (id : Nat) : id = 1 ∨ id = 2 ∨ rings.items id = { id := id } := by
  match id with
  | 0 => exact .inr (.inr rfl)
  | 1 => exact .inl rfl
  | 2 => exact .inr (.inl rfl)
  | id + 3 => exact .inr (.inr rfl)

theorem rings_orderly : Orderly rings (fun id => if id = 1 then 1 else 0) 3 where
  plain := by
    intro id changes
    rcases rings_cases id with rfl | rfl | other
    · exact fun abilities there => absurd there.symm (some_ne_none abilities)
    · exact absurd rfl changes
    · rw [other] at changes
      exact absurd rfl changes
  equipTo := by
    intro id changes
    rcases rings_cases id with rfl | rfl | other
    · exact ⟨rfl, rfl⟩
    · exact absurd rfl changes
    · rw [other] at changes
      exact absurd rfl changes
  deEquipTo := by
    intro id changes
    rcases rings_cases id with rfl | rfl | other
    · exact absurd rfl changes
    · exact ⟨rfl, rfl⟩
    · rw [other] at changes
      exact absurd rfl changes
  paired := by
    intro id slot event stays
    rcases rings_cases id with rfl | rfl | other
    · exact absurd stays (by decide)
    · left
      by_cases finger : slot = 8
      · rw [finger]
        rfl
      · simp [rings, finger] at event
    · right
      intro abilities there
      rw [other] at there
      exact absurd there.symm (some_ne_none abilities)
  settles := by
    intro id changes
    rcases rings_cases id with rfl | rfl | other
    · decide
    · exact absurd rfl changes
    · rw [other] at changes
      exact absurd rfl changes
  deep := by
    intro id
    split <;> decide

/-- Rings suppress nothing. -/
theorem rings_parted (player : Player) (slot : Slot) : Parted rings player slot := by
  have none (id : Nat) : suppressions rings id = 0 := by
    rcases rings_cases id with rfl | rfl | other
    · rfl
    · rfl
    · unfold suppressions
      rw [other]
      rfl
  intro other _
  have nothing : suppressed rings player slot = 0 := by
    unfold suppressed
    cases player.worn slot with
    | none => rfl
    | some id => exact none id
  rw [nothing]
  exact BitVec.zero_and

def naked : Player where
  items := fun _ => { id := 0, parent := .none }
  next := 0
  inventory := fun _ => none
  inventoryAbilities := fun _ => false
  vars := 0
  conditionSuppressions := 0
  baseSpeed := 220
  defaultStats := fun stat => if stat.val = 0 then 100 else 0
  level := 8
  magicLevel := 0
  vocationId := 4
  isPremium := true
  ignoreWeaponCheck := false

theorem naked_undressed : Undressed naked where
  single := fun _ _ _ there => absurd there.symm (some_ne_none _)
  owned := fun _ _ there => absurd there.symm (some_ne_none _)
  older := fun _ _ there => absurd there.symm (some_ne_none _)
  off := fun _ => rfl
  bare := rfl

/-- The ring is put on and taken off. -/
theorem equipment_along_naked : Always (step rings 3) (Balanced rings naked.vars) (some naked)
    [.enter 1 1 false 8, .equip 8, .leave 8 .elsewhere] := by
  apply equipment_along rings_orderly naked naked_undressed
  exact ⟨fun _ _ => trivial, fun _ _ => trivial, fun player _ => rings_parted player 8, trivial⟩

/-- An amulet of a tenth of the maximal health. -/
def amulets : Table where
  items
    | 1 => { id := 1, abilities := some { statsPercent := fun stat => if stat.val = 0 then 110 else 0 } }
    | id => { id := id }
  equip id slot := if id = 1 ∧ slot = 1 then some {} else none
  deEquip id slot := id = 1 ∧ slot = 1
  percent stat percentage := stat * (percentage - 100) / 100

/-- The amulet is put on with a hundred hit points and taken off with two hundred: ten are added, twenty taken. -/
theorem amulet_overdrawn : ¬ Always (step amulets 2) (Balanced amulets naked.vars) (some naked)
    [.enter 1 1 false 1, .base 220 (fun stat => if stat = 0 then 200 else 0) 20 0 4 true, .leave 1 .elsewhere] := by
  intro always
  obtain ⟨player, is, _, back⟩ := always.last
  have off : ((List.foldl (step amulets 2) (some naked)
      [.enter 1 1 false 1, .base 220 (fun stat => if stat = 0 then 200 else 0) 20 0 4 true, .leave 1 .elsewhere]).map fun player =>
        (decide (∀ slot, player.inventoryAbilities slot = false), player.vars.stats 0)) = some (true, -10) := by decide +kernel
  rw [is, map_some, some.injEq, Prod.mk.injEq, decide_eq_true_eq] at off
  have left := congrArg (fun vars => vars.stats 0) (back off.1).1
  rw [off.2] at left
  exact absurd left (by decide)

end

end Styller.Equipment
