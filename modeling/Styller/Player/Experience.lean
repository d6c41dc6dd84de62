import Mathlib.Algebra.Group.Int.Defs
import Mathlib.Algebra.GroupWithZero.Nat
import Mathlib.Data.Int.Basic
import Styller.Library.Curve
import Styller.Library.Run

/-! Experience and levels: `addExperience`, `removeExperience` and what a death takes. -/

namespace Styller.Experience

open Library

structure Vocation where
  id : Nat
  gainHP : Nat
  gainMana : Nat
  gainCap : Nat

def vocationNone : Nat := 0

structure Player where
  level : Nat
  experience : UInt64
  /-- `health` and `healthMax` are of type `int32_t`. -/
  health : Int
  healthMax : Int
  /-- `mana`, `manaMax` and `capacity` are of type `uint32_t`. -/
  mana : Int
  manaMax : Int
  capacity : Int
  /-- `varStats[STAT_MAXHITPOINTS]` and `varStats[STAT_MAXMANAPOINTS]` -/
  varHealth : Int := 0
  varMana : Int := 0

/-- A value of 32 bits as an `int32_t`. -/
def int32 (value : Int) : Int := value.bmod (2 ^ 32)

/-- A value of 32 bits as a `uint32_t`. -/
def uint32 (value : Int) : Int := value % 2 ^ 32

/-- `Player::getExpForLevel` -/
def getExpForLevel (lv : Nat) : UInt64 :=
  let lv := UInt64.ofNat lv
  (((lv - 6) * lv + 17) * lv - 12) / 6 * 100

namespace Player

def getMaxHealth (player : Player) : Int := max 1 (int32 (player.healthMax + player.varHealth))

def getMaxMana (player : Player) : Int := max 0 (int32 (player.manaMax + player.varMana))

variable (vocation : Vocation)

/-- One turn of the loop in `addExperience`. -/
def raised (player : Player) : Player :=
  { player with
    level := player.level + 1
    healthMax := int32 (player.healthMax + vocation.gainHP)
    health := int32 (player.health + vocation.gainHP)
    manaMax := uint32 (player.manaMax + vocation.gainMana)
    mana := uint32 (player.mana + vocation.gainMana)
    capacity := uint32 (player.capacity + vocation.gainCap) }

/-- The loop in `addExperience`. -/
def raiseLevels (player : Player) (nextLevelExp : UInt64) : Player :=
  if nextLevelExp ≤ player.experience then
    -- the last level is reached where the curve does not grow
    if getExpForLevel ((player.raised vocation).level + 1) ≤ nextLevelExp then player.raised vocation
    else (player.raised vocation).raiseLevels (getExpForLevel ((player.raised vocation).level + 1))
  else player
termination_by player.experience.toNat + 1 - nextLevelExp.toNat
decreasing_by
  simp only [UInt64.le_iff_toNat_le, raised] at *
  omega

/-- `Player::addExperience`, with a script that leaves the amount as it is. -/
def addExperience (exp : UInt64) (player : Player) : Player :=
  let currLevelExp := getExpForLevel player.level
  let nextLevelExp := getExpForLevel (player.level + 1)
  if nextLevelExp ≤ currLevelExp then player
  else if exp = 0 then player
  else
    let prevLevel := player.level
    let player := { player with experience := player.experience + exp }.raiseLevels vocation nextLevelExp
    if prevLevel ≠ player.level then { player with health := player.getMaxHealth, mana := player.getMaxMana } else player

/-- One turn of the loops that take levels away. -/
def lowered (player : Player) : Player :=
  { player with
    level := player.level - 1
    healthMax := max 0 (int32 (player.healthMax - vocation.gainHP))
    manaMax := max 0 (int32 (player.manaMax - vocation.gainMana))
    capacity := max 0 (int32 (player.capacity - vocation.gainCap)) }

/-- The loop in `removeExperience`, which keeps the threshold of the level. -/
def lowerLevels (player : Player) (currLevelExp : UInt64) : Player :=
  if 1 < player.level ∧ player.experience < currLevelExp then
    (player.lowered vocation).lowerLevels (getExpForLevel (player.lowered vocation).level)
  else player
termination_by player.level
decreasing_by
  simp only [lowered]
  omega

/-- `std::max<int64_t>(0, experience - exp)` -/
def lessExperience (experience exp : UInt64) : UInt64 := if (experience - exp).toNat < 2 ^ 63 then experience - exp else 0

/-- `Player::removeExperience`, with a script that leaves the amount as it is. -/
def removeExperience (exp : UInt64) (player : Player) : Player :=
  if player.experience = 0 ∨ exp = 0 then player
  else
    let oldLevel := player.level
    let player := { player with experience := lessExperience player.experience exp }
    let player := player.lowerLevels vocation (getExpForLevel player.level)
    if oldLevel ≠ player.level then { player with health := player.getMaxHealth, mana := player.getMaxMana } else player

/-- The loop in `death`. -/
def deathLevels (player : Player) : Player :=
  if 1 < player.level ∧ player.experience < getExpForLevel player.level then (player.lowered vocation).deathLevels else player
termination_by player.level
decreasing_by
  simp only [lowered]
  omega

/-- The level loss in `Player::death`, with a script that leaves the amount as it is. -/
def death (expLoss : UInt64) (player : Player) : Player :=
  if expLoss ≠ 0 then
    let player :=
      if vocation.id = vocationNone ∨ 7 < player.level then { player with experience := player.experience - expLoss } else player
    player.deathLevels vocation
  else player

end Player

inductive Label where
  | addExperience (exp : UInt64)
  | removeExperience (exp : UInt64)
  | death (expLoss : UInt64)

def step (vocation : Vocation) (player : Player) : Label → Player
  | .addExperience exp => player.addExperience vocation exp
  | .removeExperience exp => player.removeExperience vocation exp
  | .death expLoss => player.death vocation expLoss

/-- The maxima at level 1. -/
structure Base where
  healthMax : Nat
  manaMax : Nat
  capacity : Nat

def curve (level : Nat) : Nat := (getExpForLevel level).toNat

section

variable (vocation : Vocation) (base : Base)

/-- The maxima of a level can be held by their counters. -/
def Fits (level : Nat) : Prop :=
  base.healthMax + vocation.gainHP * (level - 1) < 2 ^ 31 ∧ base.manaMax + vocation.gainMana * (level - 1) < 2 ^ 32 ∧
    base.capacity + vocation.gainCap * (level - 1) < 2 ^ 32

/-- The maxima of a level can be held by an `int32_t`. -/
def FitsSigned (level : Nat) : Prop :=
  base.manaMax + vocation.gainMana * (level - 1) < 2 ^ 31 ∧ base.capacity + vocation.gainCap * (level - 1) < 2 ^ 31

/-- The maxima are those of level 1 with the gains of the levels since. -/
structure Gained (player : Player) : Prop where
  health : player.healthMax = (base.healthMax + vocation.gainHP * (player.level - 1) : Nat)
  mana : player.manaMax = (base.manaMax + vocation.gainMana * (player.level - 1) : Nat)
  capacity : player.capacity = (base.capacity + vocation.gainCap * (player.level - 1) : Nat)
  fits : Fits vocation base player.level

/-- The level is the only one for the experience, and the maxima are its own. -/
structure Consistent (player : Player) : Prop where
  level : ∀ level, LevelOf curve player.experience.toNat level ↔ level = player.level
  gained : Gained vocation base player

/-- The condition of a step. -/
def Clear (player : Player) : Label → Prop
  /- below the last level the sum is no more than an `uint64_t` holds, and the counters hold the maxima of the level it has -/
  | .addExperience exp => Stops curve player.level ∨
    player.experience.toNat + exp.toNat < 2 ^ 64 ∧
      ∀ top, LevelOf curve (player.experience.toNat + exp.toNat) top → player.level < top → Fits vocation base top
  /- the difference is one of an `int64_t`, and so are the maxima, one of an `int32_t`, where a level is lost -/
  | .removeExperience exp => player.experience = 0 ∨ exp = 0 ∨
    exp.toNat ≤ player.experience.toNat + 2 ^ 63 ∧
      (FitsSigned vocation base (player.level - 1) ∨
        curve player.level ≤ player.experience.toNat - exp.toNat ∧ player.experience.toNat - exp.toNat < 2 ^ 63)
  | .death expLoss => expLoss ≤ player.experience ∧
    (FitsSigned vocation base (player.level - 1) ∨ curve player.level ≤ player.experience.toNat - expLoss.toNat ∨
      vocation.id ≠ vocationNone ∧ player.level ≤ 7)

/-- The same experience, level and maxima. -/
structure Restored (player result : Player) : Prop where
  experience : result.experience = player.experience
  level : result.level = player.level
  health : result.healthMax = player.healthMax
  mana : result.manaMax = player.manaMax
  capacity : result.capacity = player.capacity

end

theorem int32_natCast {value : Nat} (fits : value < 2 ^ 31) : int32 value = value := by
  unfold int32
  exact Int.bmod_eq_of_le (by omega) (by omega)

theorem uint32_natCast {value : Nat} (fits : value < 2 ^ 32) : uint32 value = value := by
  unfold uint32
  omega

/-- What was gained can be taken again. -/
theorem lowered_natCast {value : Nat} (gain : Nat) (fits : value < 2 ^ 31) :
    max 0 (int32 ((value + gain : Nat) - gain)) = value := by
  have taken : ((value + gain : Nat) : Int) - gain = value := by omega
  rw [taken, int32_natCast fits]
  omega

theorem maximum_succ (base gain : Nat) {level : Nat} (positive : 1 ≤ level) :
    base + gain * (level + 1 - 1) = base + gain * (level - 1) + gain := by
  obtain ⟨before, rfl⟩ := Nat.exists_eq_add_of_le' positive
  rw [Nat.add_sub_cancel, Nat.add_sub_cancel, Nat.mul_succ, Nat.add_assoc]

theorem curve_one : curve 1 = 0 := by decide

section

variable {vocation : Vocation} {base : Base} {player : Player}

theorem Fits.mono {level top : Nat} (fits : Fits vocation base top) (below : level ≤ top) : Fits vocation base level := by
  have steps : level - 1 ≤ top - 1 := Nat.sub_le_sub_right below 1
  have lower (first gain : Nat) : first + gain * (level - 1) ≤ first + gain * (top - 1) :=
    Nat.add_le_add_left (Nat.mul_le_mul_left gain steps) first
  obtain ⟨health, mana, capacity⟩ := fits
  exact ⟨Nat.lt_of_le_of_lt (lower _ _) health, Nat.lt_of_le_of_lt (lower _ _) mana, Nat.lt_of_le_of_lt (lower _ _) capacity⟩

theorem FitsSigned.mono {level top : Nat} (fits : FitsSigned vocation base top) (below : level ≤ top) :
    FitsSigned vocation base level := by
  have steps : level - 1 ≤ top - 1 := Nat.sub_le_sub_right below 1
  have lower (first gain : Nat) : first + gain * (level - 1) ≤ first + gain * (top - 1) :=
    Nat.add_le_add_left (Nat.mul_le_mul_left gain steps) first
  exact ⟨Nat.lt_of_le_of_lt (lower _ _) fits.1, Nat.lt_of_le_of_lt (lower _ _) fits.2⟩

theorem Gained.raised (gained : Gained vocation base player) (positive : 1 ≤ player.level)
    (fits : Fits vocation base (player.level + 1)) : Gained vocation base (player.raised vocation) := by
  obtain ⟨healthFits, manaFits, capacityFits⟩ := fits
  have healthNext := maximum_succ base.healthMax vocation.gainHP positive
  have manaNext := maximum_succ base.manaMax vocation.gainMana positive
  have capacityNext := maximum_succ base.capacity vocation.gainCap positive
  refine ⟨?_, ?_, ?_, healthFits, manaFits, capacityFits⟩
  · show int32 (player.healthMax + vocation.gainHP) = _
    rw [gained.health, ← Int.natCast_add, ← healthNext]
    exact int32_natCast healthFits
  · show uint32 (player.manaMax + vocation.gainMana) = _
    rw [gained.mana, ← Int.natCast_add, ← manaNext]
    exact uint32_natCast manaFits
  · show uint32 (player.capacity + vocation.gainCap) = _
    rw [gained.capacity, ← Int.natCast_add, ← capacityNext]
    exact uint32_natCast capacityFits

theorem Gained.lowered (gained : Gained vocation base player) (above : 1 < player.level)
    (signed : FitsSigned vocation base (player.level - 1)) : Gained vocation base (player.lowered vocation) := by
  have positive : 1 ≤ player.level - 1 := Nat.le_sub_one_of_lt above
  have there : player.level - 1 + 1 = player.level := Nat.sub_add_cancel (Nat.le_of_lt above)
  have fits : Fits vocation base (player.level - 1) := gained.fits.mono (Nat.sub_le _ _)
  refine ⟨?_, ?_, ?_, fits⟩
  · show max 0 (int32 (player.healthMax - vocation.gainHP)) = _
    rw [gained.health, ← there, maximum_succ _ _ positive]
    exact lowered_natCast _ fits.1
  · show max 0 (int32 (player.manaMax - vocation.gainMana)) = _
    rw [gained.mana, ← there, maximum_succ _ _ positive]
    exact lowered_natCast _ signed.1
  · show max 0 (int32 (player.capacity - vocation.gainCap)) = _
    rw [gained.capacity, ← there, maximum_succ _ _ positive]
    exact lowered_natCast _ signed.2

/-- What the loop that gives levels makes of a player whose level is not above that of his experience. -/
structure Raised (vocation : Vocation) (base : Base) (player result : Player) : Prop where
  experience : result.experience = player.experience
  above : player.level ≤ result.level
  level : LevelOf curve player.experience.toNat result.level
  gained : Gained vocation base player →
    (∀ top, LevelOf curve player.experience.toNat top → player.level < top → Fits vocation base top) →
    Gained vocation base result

theorem raiseLevels_raised (player : Player) (positive : 1 ≤ player.level) (grows : Grows curve player.level)
    (reached : curve player.level ≤ player.experience.toNat) (goes : ¬ Stops curve player.level) (next : UInt64)
    (threshold : next = getExpForLevel (player.level + 1)) : Raised vocation base player (player.raiseLevels vocation next) := by
  have upper : Grows curve (player.level + 1) := grows.up (Nat.lt_of_not_le goes)
  fun_induction Player.raiseLevels vocation player next with
  | case1 player next there last =>
    rw [threshold, UInt64.le_iff_toNat_le] at there
    rw [threshold, UInt64.le_iff_toNat_le] at last
    have level : LevelOf curve player.experience.toNat (player.level + 1) :=
      ⟨Nat.le_succ_of_le positive, upper, there, .inr last⟩
    refine ⟨rfl, Nat.le_succ _, level, ?_⟩
    intro gained fits
    exact gained.raised positive (fits _ level (Nat.lt_succ_self _))
  | case2 player next there more ih =>
    rw [threshold, UInt64.le_iff_toNat_le] at there
    rw [threshold, UInt64.le_iff_toNat_le] at more
    have rest := ih (Nat.le_succ_of_le positive) upper there more rfl (upper.up (Nat.lt_of_not_le more))
    refine ⟨rest.experience, Nat.le_of_succ_le rest.above, rest.level, ?_⟩
    intro gained fits
    apply rest.gained
    · exact gained.raised positive ((fits _ rest.level rest.above).mono rest.above)
    · intro top level less
      exact fits top level (Nat.lt_of_succ_lt less)
  | case3 player next early =>
    rw [threshold, UInt64.le_iff_toNat_le, Nat.not_le] at early
    exact ⟨rfl, Nat.le_refl _, ⟨positive, grows, reached, .inl early⟩, fun gained _ => gained⟩

/-- What the loops that take levels make of a player whose level is not below that of his experience. -/
structure Lowered (vocation : Vocation) (base : Base) (player result : Player) : Prop where
  experience : result.experience = player.experience
  below : result.level ≤ player.level
  level : LevelOf curve player.experience.toNat result.level
  gained : Gained vocation base player →
    (curve player.level ≤ player.experience.toNat ∨ FitsSigned vocation base (player.level - 1)) →
    Gained vocation base result

theorem lowerLevels_lowered (player : Player) (positive : 1 ≤ player.level) (grows : Grows curve player.level)
    (last : player.experience.toNat < curve (player.level + 1) ∨ Stops curve player.level) (threshold : UInt64)
    (same : threshold = getExpForLevel player.level) :
    Lowered vocation base player (player.lowerLevels vocation threshold) := by
  fun_induction Player.lowerLevels vocation player threshold with
  | case1 player threshold goes ih =>
    obtain ⟨above, missed⟩ := goes
    rw [same, UInt64.lt_iff_toNat_lt] at missed
    have there : player.level - 1 + 1 = player.level := Nat.sub_add_cancel (Nat.le_of_lt above)
    have short : player.experience.toNat < curve (player.level - 1 + 1) := by rwa [there]
    have rest := ih (Nat.le_sub_one_of_lt above) (grows.mono (Nat.sub_le _ _)) (.inl short) rfl
    refine ⟨rest.experience, Nat.le_trans rest.below (Nat.sub_le _ _), rest.level, ?_⟩
    intro gained room
    rcases room with reached | signed
    · exact absurd reached (Nat.not_le.mpr missed)
    · apply rest.gained (gained.lowered above signed)
      exact .inr (signed.mono (Nat.sub_le _ _))
  | case2 player threshold ends =>
    have reached : curve player.level ≤ player.experience.toNat := by
      by_contra missed
      rw [Nat.not_le] at missed
      apply ends
      constructor
      · apply Nat.lt_of_le_of_ne positive
        intro first
        rw [← first, curve_one] at missed
        exact absurd missed (Nat.not_lt_zero _)
      · rw [same, UInt64.lt_iff_toNat_lt]
        exact missed
    exact ⟨rfl, Nat.le_refl _, ⟨positive, grows, reached, last⟩, fun gained _ => gained⟩

/-- The loop of a death is the one of `removeExperience` without the threshold that it keeps. -/
theorem deathLevels_eq (player : Player) : player.deathLevels vocation = player.lowerLevels vocation (getExpForLevel player.level) := by
  fun_induction Player.deathLevels vocation player with
  | case1 player goes ih =>
    rw [Player.lowerLevels, if_pos goes]
    exact ih
  | case2 player ends => rw [Player.lowerLevels, if_neg ends]

end

section

variable {vocation : Vocation} {base : Base} {player : Player}

theorem Consistent.levelOf (consistent : Consistent vocation base player) :
    LevelOf curve player.experience.toNat player.level := (consistent.level _).mpr rfl

/-- What a player has left of his health and mana does not matter. -/
theorem Consistent.refilled (consistent : Consistent vocation base player) (health mana : Int) :
    Consistent vocation base { player with health, mana } :=
  ⟨consistent.level, consistent.gained.health, consistent.gained.mana, consistent.gained.capacity, consistent.gained.fits⟩

theorem Consistent.refilled_if (consistent : Consistent vocation base player) (changed : Prop) [Decidable changed] (health mana : Int) :
    Consistent vocation base (if changed then { player with health, mana } else player) := by
  by_cases change : changed
  · rw [if_pos change]
    exact consistent.refilled health mana
  · rw [if_neg change]
    exact consistent

theorem Raised.consistent {result : Player} (raised : Raised vocation base player result) (gained : Gained vocation base player)
    (fits : ∀ top, LevelOf curve player.experience.toNat top → player.level < top → Fits vocation base top) :
    Consistent vocation base result := by
  constructor
  · rw [raised.experience]
    exact raised.level.iff_eq
  · exact raised.gained gained fits

theorem Lowered.consistent {result : Player} (lowered : Lowered vocation base player result) (gained : Gained vocation base player)
    (room : curve player.level ≤ player.experience.toNat ∨ FitsSigned vocation base (player.level - 1)) :
    Consistent vocation base result := by
  constructor
  · rw [lowered.experience]
    exact lowered.level.iff_eq
  · exact lowered.gained gained room

theorem Consistent.lowered (consistent : Consistent vocation base player) {experience : UInt64}
    (less : experience.toNat ≤ player.experience.toNat) :
    Lowered vocation base { player with experience }
      ({ player with experience }.lowerLevels vocation (getExpForLevel player.level)) := by
  have levelOf := consistent.levelOf
  exact lowerLevels_lowered { player with experience } levelOf.positive levelOf.grows
    (levelOf.last.imp_left (Nat.lt_of_le_of_lt less)) _ rfl

theorem Gained.with (gained : Gained vocation base player) (experience : UInt64) :
    Gained vocation base { player with experience } :=
  ⟨gained.health, gained.mana, gained.capacity, gained.fits⟩

theorem toNat_add {experience exp : UInt64} (fits : experience.toNat + exp.toNat < 2 ^ 64) :
    (experience + exp).toNat = experience.toNat + exp.toNat := by
  rw [UInt64.toNat_add, Nat.mod_eq_of_lt fits]

theorem toNat_lessExperience {experience exp : UInt64} (less : exp.toNat ≤ experience.toNat + 2 ^ 63) :
    (Player.lessExperience experience exp).toNat =
      if experience.toNat - exp.toNat < 2 ^ 63 then experience.toNat - exp.toNat else 0 := by
  have bound := experience.toNat_lt
  have expBound := exp.toNat_lt
  unfold Player.lessExperience
  by_cases covered : exp.toNat ≤ experience.toNat
  · have difference : (experience - exp).toNat = experience.toNat - exp.toNat := by
      rw [UInt64.toNat_sub]
      omega
    rw [apply_ite UInt64.toNat, difference]
    rfl
  · have wrapped : ¬ (experience - exp).toNat < 2 ^ 63 := by
      rw [UInt64.toNat_sub]
      omega
    have none : experience.toNat - exp.toNat = 0 := Nat.sub_eq_zero_of_le (Nat.le_of_not_le covered)
    rw [if_neg wrapped, none, if_pos (by decide)]
    rfl

theorem consistent_addExperience (consistent : Consistent vocation base player) {exp : UInt64}
    (clear : Clear vocation base player (.addExperience exp)) :
    Consistent vocation base (player.addExperience vocation exp) := by
  unfold Player.addExperience
  by_cases stops : getExpForLevel (player.level + 1) ≤ getExpForLevel player.level
  · rw [if_pos stops]
    exact consistent
  · rw [if_neg stops]
    rw [UInt64.le_iff_toNat_le] at stops
    by_cases nothing : exp = 0
    · rw [if_pos nothing]
      exact consistent
    · rw [if_neg nothing]
      obtain ⟨small, fits⟩ := clear.resolve_left stops
      have levelOf := consistent.levelOf
      have sum := toNat_add small
      rw [← sum] at fits
      have reached : curve player.level ≤ (player.experience + exp).toNat := by
        rw [sum]
        exact Nat.le_add_right_of_le levelOf.reached
      have raised : Raised vocation base { player with experience := player.experience + exp }
          ({ player with experience := player.experience + exp }.raiseLevels vocation (getExpForLevel (player.level + 1))) :=
        raiseLevels_raised { player with experience := player.experience + exp } levelOf.positive levelOf.grows reached stops _ rfl
      exact (raised.consistent (consistent.gained.with _) fits).refilled_if _ _ _

theorem consistent_removeExperience (consistent : Consistent vocation base player) {exp : UInt64}
    (clear : Clear vocation base player (.removeExperience exp)) :
    Consistent vocation base (player.removeExperience vocation exp) := by
  unfold Player.removeExperience
  by_cases nothing : player.experience = 0 ∨ exp = 0
  · rw [if_pos nothing]
    exact consistent
  · rw [if_neg nothing]
    rw [not_or] at nothing
    obtain ⟨less, room⟩ := (clear.resolve_left nothing.1).resolve_left nothing.2
    have left := toNat_lessExperience less
    have lower : (Player.lessExperience player.experience exp).toNat ≤ player.experience.toNat := by
      rw [left]
      split_ifs
      · exact Nat.sub_le _ _
      · exact Nat.zero_le _
    apply Consistent.refilled_if
    apply (consistent.lowered lower).consistent (consistent.gained.with _)
    rcases room with signed | ⟨reached, small⟩
    · exact .inr signed
    · left
      rwa [left, if_pos small]

theorem consistent_death (consistent : Consistent vocation base player) {expLoss : UInt64}
    (clear : Clear vocation base player (.death expLoss)) : Consistent vocation base (player.death vocation expLoss) := by
  unfold Player.death
  obtain ⟨less, room⟩ := clear
  rw [UInt64.le_iff_toNat_le] at less
  have left : (player.experience - expLoss).toNat = player.experience.toNat - expLoss.toNat := UInt64.toNat_sub_of_le _ _ less
  by_cases nothing : expLoss ≠ 0
  · simp only [if_pos nothing, deathLevels_eq]
    by_cases loses : vocation.id = vocationNone ∨ 7 < player.level
    · simp only [if_pos loses]
      apply (consistent.lowered (left ▸ Nat.sub_le _ _)).consistent (consistent.gained.with _)
      rcases room with signed | reached | ⟨other, few⟩
      · exact .inr signed
      · left
        rwa [left]
      · exact absurd loses (not_or.mpr ⟨other, Nat.not_lt.mpr few⟩)
    · simp only [if_neg loses]
      exact (consistent.lowered (Nat.le_refl _)).consistent consistent.gained (.inl consistent.levelOf.reached)
  · rw [if_neg nothing]
    exact consistent

theorem consistent_step (consistent : Consistent vocation base player) {label : Label} (clear : Clear vocation base player label) :
    Consistent vocation base (step vocation player label) := by
  cases label with
  | addExperience exp => exact consistent_addExperience consistent clear
  | removeExperience exp => exact consistent_removeExperience consistent clear
  | death expLoss => exact consistent_death consistent clear

end

section

variable {vocation : Vocation} {base : Base} {player : Player}

theorem raiseLevels_experience (next : UInt64) : (player.raiseLevels vocation next).experience = player.experience := by
  fun_induction Player.raiseLevels vocation player next with
  | case1 => rfl
  | case2 player next there more ih => exact ih
  | case3 => rfl

theorem lowerLevels_experience (threshold : UInt64) : (player.lowerLevels vocation threshold).experience = player.experience := by
  fun_induction Player.lowerLevels vocation player threshold with
  | case1 player threshold goes ih => exact ih
  | case2 => rfl

theorem lowerLevels_le (threshold : UInt64) : (player.lowerLevels vocation threshold).level ≤ player.level := by
  fun_induction Player.lowerLevels vocation player threshold with
  | case1 player threshold goes ih => exact Nat.le_trans ih (Nat.sub_le _ _)
  | case2 => exact Nat.le_refl _

theorem removeExperience_le (exp : UInt64) : (player.removeExperience vocation exp).level ≤ player.level := by
  unfold Player.removeExperience
  split_ifs
  · exact Nat.le_refl _
  · simp only [apply_ite Player.level, ite_self]
    exact lowerLevels_le _

theorem addExperience_zero : player.addExperience vocation 0 = player := by
  unfold Player.addExperience
  simp only [if_true, ite_self]

theorem addExperience_stops (exp : UInt64) (stops : Stops curve player.level) : player.addExperience vocation exp = player := by
  unfold Player.addExperience
  exact if_pos (UInt64.le_iff_toNat_le.mpr stops)

theorem addExperience_experience {exp : UInt64} (goes : ¬ Stops curve player.level) (some : exp ≠ 0) :
    (player.addExperience vocation exp).experience = player.experience + exp := by
  unfold Player.addExperience
  rw [if_neg (fun stops => goes (UInt64.le_iff_toNat_le.mp stops)), if_neg some]
  simp only [apply_ite Player.experience, raiseLevels_experience, ite_self]

theorem removeExperience_experience {exp : UInt64} (owned : player.experience ≠ 0) (some : exp ≠ 0) :
    (player.removeExperience vocation exp).experience = Player.lessExperience player.experience exp := by
  unfold Player.removeExperience
  rw [if_neg (not_or.mpr ⟨owned, some⟩)]
  simp only [apply_ite Player.experience, lowerLevels_experience, ite_self]

theorem lessExperience_add (experience exp : UInt64) :
    Player.lessExperience (experience + exp) exp = if experience.toNat < 2 ^ 63 then experience else 0 := by
  unfold Player.lessExperience
  rw [UInt64.add_sub_cancel]

/-- There is just one consistent level and one set of maxima for an experience. -/
theorem Consistent.restored (consistent : Consistent vocation base player) {result : Player}
    (after : Consistent vocation base result) (same : result.experience = player.experience) : Restored player result := by
  have level : result.level = player.level := by
    have there := after.levelOf
    rw [same] at there
    exact there.unique consistent.levelOf
  refine ⟨same, level, ?_, ?_, ?_⟩
  · rw [after.gained.health, consistent.gained.health, level]
  · rw [after.gained.mana, consistent.gained.mana, level]
  · rw [after.gained.capacity, consistent.gained.capacity, level]

/-- An amount that goes past the end of an `uint64_t` gives no level. -/
theorem addExperience_wrapped {exp : UInt64} (levelOf : LevelOf curve player.experience.toNat player.level)
    (goes : ¬ Stops curve player.level) (some : exp ≠ 0) (less : (player.experience + exp).toNat ≤ player.experience.toNat) :
    player.addExperience vocation exp = { player with experience := player.experience + exp } := by
  have early : ¬ getExpForLevel (player.level + 1) ≤ player.experience + exp := by
    rw [UInt64.le_iff_toNat_le, Nat.not_le]
    exact Nat.lt_of_le_of_lt less (levelOf.last.resolve_right goes)
  have same : { player with experience := player.experience + exp }.raiseLevels vocation (getExpForLevel (player.level + 1)) =
      { player with experience := player.experience + exp } := by
    rw [Player.raiseLevels]
    exact if_neg early
  unfold Player.addExperience
  rw [if_neg (fun stops => goes (UInt64.le_iff_toNat_le.mp stops)), if_neg some]
  simp only [same, ne_eq, not_true_eq_false, if_false]

theorem restored_wrapped (consistent : Consistent vocation base player) {exp : UInt64} (goes : ¬ Stops curve player.level)
    (some : exp ≠ 0) (less : (player.experience + exp).toNat ≤ player.experience.toNat) (owned : player.experience + exp ≠ 0)
    (small : player.experience.toNat < 2 ^ 63) :
    Restored player ((player.addExperience vocation exp).removeExperience vocation exp) := by
  rw [addExperience_wrapped consistent.levelOf goes some less]
  unfold Player.removeExperience
  rw [if_neg (not_or.mpr ⟨owned, some⟩)]
  simp only [lessExperience_add, if_pos small]
  have back := (consistent.lowered (Nat.le_refl _)).consistent consistent.gained (.inl consistent.levelOf.reached)
  apply consistent.restored (back.refilled_if _ _ _)
  simp only [apply_ite Player.experience, lowerLevels_experience, ite_self]

theorem restored_grown (consistent : Consistent vocation base player) {exp : UInt64} (goes : ¬ Stops curve player.level)
    (some : exp ≠ 0) (sum : player.experience.toNat + exp.toNat < 2 ^ 64) (small : player.experience.toNat < 2 ^ 63)
    (owned : player.experience + exp ≠ 0)
    (fits : ∀ top, LevelOf curve (player.experience.toNat + exp.toNat) top → player.level < top →
      Fits vocation base top ∧ FitsSigned vocation base (top - 1)) :
    Restored player ((player.addExperience vocation exp).removeExperience vocation exp) := by
  have added := consistent_addExperience consistent (.inr ⟨sum, fun top level less => (fits top level less).1⟩)
  have experience : (player.addExperience vocation exp).experience = player.experience + exp := addExperience_experience goes some
  have total := toNat_add sum
  have there := added.levelOf
  rw [experience, total] at there
  apply consistent.restored
  · apply consistent_removeExperience added
    right
    right
    rw [experience, total]
    constructor
    · omega
    · rw [Nat.add_sub_cancel]
      rcases Nat.lt_or_eq_of_le (consistent.levelOf.mono (Nat.le_add_right _ _) there) with more | same
      · exact .inl (fits _ there more).2
      · right
        rw [← same]
        exact ⟨consistent.levelOf.reached, small⟩
  · rw [removeExperience_experience (experience ▸ owned) some, experience, lessExperience_add, if_pos small]

theorem experience_of_stops (levelOf : LevelOf curve player.experience.toNat player.level) (stops : Stops curve player.level) :
    player.experience ≠ 0 := by
  intro none
  have reached := levelOf.reached
  rw [none] at reached
  rcases Nat.lt_or_eq_of_le levelOf.positive with above | first
  · have first : curve 1 < curve player.level :=
      Nat.lt_of_lt_of_le (levelOf.grows 1 (Nat.le_refl 1) above) (levelOf.grows.le (Nat.le_succ 1) above)
    exact absurd (Nat.lt_of_lt_of_le first reached) (Nat.not_lt_zero _)
  · rw [← first] at stops
    exact absurd stops (by decide)

/-- At the last level nothing is added, but something is removed. -/
theorem not_restored_stops (consistent : Consistent vocation base player) {exp : UInt64} (stops : Stops curve player.level)
    (some : exp ≠ 0) : ¬ Restored player ((player.addExperience vocation exp).removeExperience vocation exp) := by
  intro restored
  have owned := experience_of_stops consistent.levelOf stops
  have same := restored.experience
  rw [addExperience_stops exp stops, removeExperience_experience owned some] at same
  unfold Player.lessExperience at same
  split_ifs at same
  · have numbers := congrArg UInt64.toNat same
    have bound := exp.toNat_lt
    rw [UInt64.toNat_sub] at numbers
    apply some
    apply UInt64.toNat_inj.mp
    show exp.toNat = 0
    omega
  · exact owned same.symm

/-- What an `int64_t` does not hold is lost, and so is a sum that is zero again. -/
theorem not_restored_lost {exp : UInt64} (goes : ¬ Stops curve player.level)
    (some : exp ≠ 0) (lost : 2 ^ 63 ≤ player.experience.toNat ∨ player.experience + exp = 0) :
    ¬ Restored player ((player.addExperience vocation exp).removeExperience vocation exp) := by
  intro restored
  have same := restored.experience
  have added : (player.addExperience vocation exp).experience = player.experience + exp := addExperience_experience goes some
  by_cases none : player.experience + exp = 0
  · have stays : (player.addExperience vocation exp).removeExperience vocation exp = player.addExperience vocation exp := by
      unfold Player.removeExperience
      exact if_pos (.inl (added.trans none))
    rw [stays, added] at same
    exact some (by simpa using same)
  · have large := lost.resolve_right none
    rw [removeExperience_experience (added ▸ none) some, added, lessExperience_add, if_neg (Nat.not_lt.mpr large)] at same
    rw [← same] at large
    exact absurd large (by decide)

/-- When the counters hold the maxima of the levels that are gained and lost, adding an amount and removing it again restores
a player if it is below the last level, below half of what an `uint64_t` holds, and does not sum up to nothing. -/
theorem addRemove_restored_iff (consistent : Consistent vocation base player) (exp : UInt64)
    (fits : ∀ top, LevelOf curve (player.experience.toNat + exp.toNat) top → player.level < top →
      Fits vocation base top ∧ FitsSigned vocation base (top - 1)) :
    Restored player ((player.addExperience vocation exp).removeExperience vocation exp) ↔
      exp = 0 ∨ ¬ Stops curve player.level ∧ player.experience.toNat < 2 ^ 63 ∧ player.experience + exp ≠ 0 := by
  by_cases nothing : exp = 0
  · have kept : (player.addExperience vocation exp).removeExperience vocation exp = player := by
      rw [nothing, addExperience_zero]
      exact if_pos (.inr rfl)
    rw [kept]
    exact iff_of_true ⟨rfl, rfl, rfl, rfl, rfl⟩ (.inl nothing)
  · by_cases stops : Stops curve player.level
    · exact iff_of_false (not_restored_stops consistent stops nothing) (by simp [nothing, stops])
    · by_cases clear : player.experience.toNat < 2 ^ 63 ∧ player.experience + exp ≠ 0
      · obtain ⟨small, owned⟩ := clear
        refine iff_of_true ?_ (.inr ⟨stops, small, owned⟩)
        by_cases sum : player.experience.toNat + exp.toNat < 2 ^ 64
        · exact restored_grown consistent stops nothing sum small owned fits
        · apply restored_wrapped consistent stops nothing ?_ owned small
          have bound := exp.toNat_lt
          rw [UInt64.toNat_add]
          omega
      · have lost : 2 ^ 63 ≤ player.experience.toNat ∨ player.experience + exp = 0 := by
          rcases not_and_or.mp clear with large | none
          · exact .inl (Nat.le_of_not_lt large)
          · exact .inr (not_not.mp none)
        refine iff_of_false (not_restored_lost stops nothing lost) ?_
        rintro (none | ⟨_, kept⟩)
        · exact nothing none
        · exact clear kept

/-- From a consistent player on, a run whose steps are all clear stays consistent; and that is when an amount that is added can be
removed again. -/
theorem levels_along (vocation : Vocation) (base : Base) :
    (∀ start, Consistent vocation base start → ∀ labels, Throughout (step vocation) (Clear vocation base) start labels →
      Always (step vocation) (Consistent vocation base) start labels) ∧
    (∀ player exp, Consistent vocation base player →
      (∀ top, LevelOf curve (player.experience.toNat + exp.toNat) top → player.level < top →
        Fits vocation base top ∧ FitsSigned vocation base (top - 1)) →
      (Restored player ((player.addExperience vocation exp).removeExperience vocation exp) ↔
        exp = 0 ∨ ¬ Stops curve player.level ∧ player.experience.toNat < 2 ^ 63 ∧ player.experience + exp ≠ 0)) := by
  constructor
  · intro start consistent labels clear
    have keeps : ∀ player label, Consistent vocation base player → Clear vocation base player label →
        Consistent vocation base (step vocation player label) :=
      fun _ _ consistent clear => consistent_step consistent clear
    exact always_of_throughout keeps consistent clear
  · exact fun player exp consistent fits => addRemove_restored_iff consistent exp fits

def knight : Vocation := ⟨4, 15, 5, 2500⟩

def novice : Base := ⟨150, 0, 40000⟩

def rookie : Player where
  level := 1
  experience := 50
  health := 150
  healthMax := 150
  mana := 0
  manaMax := 0
  capacity := 40000

theorem rookie_consistent : Consistent knight novice rookie where
  level := LevelOf.iff_eq ⟨Nat.le_refl 1, grows_one, by decide, .inl (by decide)⟩
  gained := ⟨rfl, rfl, rfl, by decide, by decide, by decide⟩

theorem level_of_hundred : LevelOf curve 100 2 := ⟨by decide, grows_one.up (by decide), by decide, .inl (by decide)⟩

theorem levels_along_rookie :
    Always (step knight) (Consistent knight novice) rookie [.addExperience 50] ∧
      Restored rookie ((rookie.addExperience knight 50).removeExperience knight 50) := by
  constructor
  · apply (levels_along knight novice).1 rookie rookie_consistent
    refine ⟨.inr ⟨by decide, ?_⟩, trivial⟩
    intro top level _
    rw [level.unique level_of_hundred]
    exact ⟨by decide, by decide, by decide⟩
  · apply ((levels_along knight novice).2 rookie 50 rookie_consistent ?_).mpr
    · exact .inr ⟨by decide, by decide, by decide⟩
    · intro top level _
      rw [level.unique level_of_hundred]
      exact ⟨⟨by decide, by decide, by decide⟩, by decide, by decide⟩

/-- The difference to a large amount is positive again as an `int64_t`: 50 experience points less 2 ^ 64 - 50 are 100, and the level
stays. -/
theorem rookie_left_behind : Consistent knight novice rookie ∧
    ¬ Consistent knight novice (step knight rookie (.removeExperience (0 - 50))) := by
  refine ⟨rookie_consistent, ?_⟩
  intro consistent
  have experience : (step knight rookie (.removeExperience (0 - 50))).experience = 100 := by
    apply (removeExperience_experience (by decide) (by decide)).trans
    decide
  have level := consistent.levelOf
  rw [experience] at level
  have below : (step knight rookie (.removeExperience (0 - 50))).level ≤ 1 := removeExperience_le _
  rw [level.unique level_of_hundred] at below
  exact absurd below (by decide)

end

end Styller.Experience
