import Styller.Library.Ladder
import Styller.Library.Run
import Styller.Player.BasisPoints

/-! Magic levels and the mana that is spent for them: `addManaSpent` and `removeManaSpent`. -/

namespace Styller.ManaSpent

open Library BasisPoints

/-- The mana that each magic level of a vocation needs; the lowest one needs none. -/
structure Vocation where
  getReqMana : UInt32 → UInt64
  zero : getReqMana 0 = 0

structure Player where
  magLevel : UInt32
  manaSpent : UInt64
  magLevelPercent : UInt16

namespace Player
variable (vocation : Vocation)

/-- The loop in `addManaSpent`: the rest of the amount with the two requirements, or nothing where the function returns in it; and
whether a subtraction has wrapped. -/
def raiseLevels (player : Player) (amount currReqMana nextReqMana : UInt64) (wraps : Bool) :
    Player × Option (UInt64 × UInt64 × UInt64) × Bool :=
  if nextReqMana ≤ player.manaSpent + amount then
    let missing := nextReqMana - player.manaSpent
    let raised := { player with magLevel := player.magLevel + 1, manaSpent := 0 }
    if vocation.getReqMana (raised.magLevel + 1) ≤ nextReqMana then
      (raised, none, wraps || nextReqMana < player.manaSpent || amount < missing)
    else
      raiseLevels raised (amount - missing) nextReqMana (vocation.getReqMana (raised.magLevel + 1))
        (wraps || nextReqMana < player.manaSpent || amount < missing)
  else (player, some (amount, currReqMana, nextReqMana), wraps)
termination_by 2 ^ 64 - nextReqMana.toNat
decreasing_by
  rename_i more
  have less := UInt64.lt_iff_toNat_lt.mp (UInt64.not_le.mp more)
  have small := (vocation.getReqMana (player.magLevel + 1 + 1)).toNat_lt
  exact Nat.sub_lt_sub_left (Nat.lt_trans less small) less

/-- `Player::addManaSpent`, with the flag `PlayerFlag_NotGainMana` and a script that leaves the amount as it is; and whether a
subtraction wraps. -/
def addManaSpent (notGainMana : Bool) (amount : UInt64) (player : Player) : Player × Bool :=
  let currReqMana := vocation.getReqMana player.magLevel
  let nextReqMana := vocation.getReqMana (player.magLevel + 1)
  if notGainMana then (player, false)
  else if nextReqMana ≤ currReqMana then (player, false)
  else if amount = 0 then (player, false)
  else
    match player.raiseLevels vocation amount currReqMana nextReqMana false with
    | (player, none, wraps) => (player, wraps)
    | (player, some (amount, currReqMana, nextReqMana), wraps) =>
      let manaSpent := player.manaSpent + amount
      ({ player with
        manaSpent
        magLevelPercent := if currReqMana < nextReqMana then getBasisPointLevel manaSpent nextReqMana else 0 }, wraps)

/-- The loop in `removeManaSpent`: the player, the rest of the amount, and whether a subtraction has wrapped. -/
def lowerLevels (player : Player) (amount : UInt64) (wraps : Bool) : Player × UInt64 × Bool :=
  if player.manaSpent < amount ∧ 0 < player.magLevel then
    lowerLevels { player with magLevel := player.magLevel - 1, manaSpent := vocation.getReqMana player.magLevel }
      (amount - player.manaSpent) (wraps || amount < player.manaSpent)
  else (player, amount, wraps)
termination_by player.magLevel.toNat
decreasing_by
  rename_i goes
  have positive := UInt32.lt_iff_toNat_lt.mp goes.2
  have one : (1 : UInt32) ≤ player.magLevel := UInt32.le_iff_toNat_le.mpr positive
  rw [UInt32.toNat_sub_of_le _ _ one]
  exact Nat.sub_lt positive Nat.one_pos

/-- `Player::removeManaSpent`, and whether a subtraction wraps. -/
def removeManaSpent (amount : UInt64) (player : Player) : Player × Bool :=
  if amount = 0 then (player, false)
  else
    let (player, amount, wraps) := player.lowerLevels vocation amount false
    let manaSpent := player.manaSpent - amount
    let nextReqMana := vocation.getReqMana (player.magLevel + 1)
    ({ player with
      manaSpent
      magLevelPercent := if vocation.getReqMana player.magLevel < nextReqMana then getBasisPointLevel manaSpent nextReqMana else 0 },
      wraps || player.manaSpent < amount)

end Player

inductive Label where
  | addManaSpent (notGainMana : Bool) (amount : UInt64)
  | removeManaSpent (amount : UInt64)

/-- What a call does to the player, and whether a subtraction wraps in it. -/
def call (vocation : Vocation) (player : Player) : Label → Player × Bool
  | .addManaSpent notGainMana amount => player.addManaSpent vocation notGainMana amount
  | .removeManaSpent amount => player.removeManaSpent vocation amount

def step (vocation : Vocation) (player : Player) (label : Label) : Player := (call vocation player label).1

/-- The magic levels as a ladder; behind the last number there is nothing that needs more. -/
def Vocation.ladder (vocation : Vocation) : Ladder where
  req level := (vocation.getReqMana (UInt32.ofNat level)).toNat
  base := 0
  ends := by
    refine ⟨4294967295, Nat.zero_le _, ?_⟩
    have round : UInt32.ofNat (4294967295 + 1) = 0 := rfl
    unfold Stops
    dsimp only
    rw [round, vocation.zero]
    exact Nat.zero_le _

section
variable (vocation : Vocation) (player : Player)

def spent : Nat := vocation.ladder.total player.magLevel.toNat player.manaSpent.toNat

/-- The mana spent is below the requirement of the next magic level, and nothing at the highest one. -/
def Below : Prop := vocation.ladder.Placed player.magLevel.toNat player.manaSpent.toNat

/-- What has been spent after a call. -/
def account : Label → Nat
  | .addManaSpent notGainMana amount =>
    if notGainMana then spent vocation player else min (spent vocation player + amount.toNat) vocation.ladder.cap
  | .removeManaSpent amount => spent vocation player - amount.toNat

/-- No subtraction of the call wraps, what has been spent changes by the amount, and the rest is below the next requirement. -/
def Right (label : Label) : Prop :=
  (call vocation player label).2 = false ∧ spent vocation (step vocation player label) = account vocation player label ∧
    Below vocation (step vocation player label)

/-- An amount that is added fits in a word with what has been spent for the level, unless nothing is added; one that is removed has
been spent. -/
def Covered : Label → Prop
  | .addManaSpent notGainMana amount => notGainMana = true ∨
      vocation.getReqMana (player.magLevel + 1) ≤ vocation.getReqMana player.magLevel ∨
      player.manaSpent.toNat + amount.toNat < 2 ^ 64
  | .removeManaSpent amount => amount.toNat ≤ spent vocation player

end

variable {vocation : Vocation} {player : Player} {amount : UInt64}

theorem req_toNat (level : UInt32) : vocation.ladder.req level.toNat = (vocation.getReqMana level).toNat := by
  unfold Vocation.ladder
  dsimp only
  rw [UInt32.ofNat_toNat]

theorem req_next (level : UInt32) : vocation.ladder.req (level.toNat + 1) = (vocation.getReqMana (level + 1)).toNat := by
  unfold Vocation.ladder
  dsimp only
  rw [UInt32.ofNat_add, UInt32.ofNat_toNat]
  rfl

theorem top_lt : vocation.ladder.top < 2 ^ 32 := by
  apply Nat.lt_of_le_of_lt (Nat.find_min' vocation.ladder.ends (m := 4294967295) _)
  · decide
  · refine ⟨Nat.zero_le _, ?_⟩
    have round : UInt32.ofNat (4294967295 + 1) = 0 := rfl
    unfold Vocation.ladder Stops
    dsimp only
    rw [round, vocation.zero]
    exact Nat.zero_le _

theorem toNat_up {level : UInt32} (below : level.toNat < vocation.ladder.top) : (level + 1).toNat = level.toNat + 1 := by
  have small := @top_lt vocation
  rw [UInt32.toNat_add]
  exact Nat.mod_eq_of_lt (by have one : (1 : UInt32).toNat = 1 := rfl; omega)

/-- A level is below the highest one just where the next one needs more. -/
theorem below_top {level : UInt32} (within : level.toNat ≤ vocation.ladder.top) :
    level.toNat < vocation.ladder.top ↔ vocation.getReqMana level < vocation.getReqMana (level + 1) := by
  rw [Ladder.lt_top_iff (Nat.zero_le _) within, req_toNat, req_next, UInt64.lt_iff_toNat_lt]

theorem spent_up (below : player.magLevel.toNat < vocation.ladder.top) (percent : UInt16) :
    spent vocation { player with magLevel := player.magLevel + 1, manaSpent := 0, magLevelPercent := percent } =
      vocation.ladder.total player.magLevel.toNat (vocation.getReqMana (player.magLevel + 1)).toNat := by
  unfold spent
  dsimp only
  rw [toNat_up below, Ladder.total_succ (Nat.zero_le _), req_next]
  rfl

/-- What the loop in `addManaSpent` leaves: the highest level and nothing, or a level with a rest that is not enough for the next. -/
def Raised (vocation : Vocation) (player : Player) (amount : UInt64) (wraps : Bool) :
    Player × Option (UInt64 × UInt64 × UInt64) × Bool → Prop
  | (after, none, wrapped) => wrapped = wraps ∧ after.magLevel.toNat = vocation.ladder.top ∧ after.manaSpent = 0 ∧
      vocation.ladder.cap ≤ spent vocation player + amount.toNat
  | (after, some (left, _, nextReqMana), wrapped) => wrapped = wraps ∧ after.magLevel.toNat < vocation.ladder.top ∧
      nextReqMana = vocation.getReqMana (after.magLevel + 1) ∧ after.manaSpent.toNat + left.toNat < nextReqMana.toNat ∧
        spent vocation after + left.toNat = spent vocation player + amount.toNat

theorem raiseLevels_raised (player : Player) (amount currReqMana nextReqMana : UInt64) (wraps : Bool)
    (below : player.magLevel.toNat < vocation.ladder.top) (next_is : nextReqMana = vocation.getReqMana (player.magLevel + 1))
    (rest : player.manaSpent < nextReqMana) (fits : player.manaSpent.toNat + amount.toNat < 2 ^ 64) :
    Raised vocation player amount wraps (player.raiseLevels vocation amount currReqMana nextReqMana wraps) := by
  fun_induction Player.raiseLevels vocation player amount currReqMana nextReqMana wraps with
  | case1 player amount currReqMana nextReqMana wraps reaches missing raised stops =>
    obtain ⟨first, second, left⟩ := Ladder.step_covered rest fits reaches
    have up : raised.magLevel.toNat = player.magLevel.toNat + 1 := toNat_up below
    have worth := spent_up below player.magLevelPercent
    rw [← next_is] at worth
    have last : raised.magLevel.toNat = vocation.ladder.top := by
      apply Nat.le_antisymm
      · rw [up]
        exact below
      · apply Nat.le_of_not_lt
        intro less
        have grows := (below_top (Nat.le_of_lt less)).mp less
        rw [show vocation.getReqMana raised.magLevel = nextReqMana from next_is.symm] at grows
        exact absurd stops (UInt64.not_le.mpr grows)
    refine ⟨?_, last, rfl, ?_⟩
    · rw [first, second, Bool.or_false, Bool.or_false]
    · calc vocation.ladder.cap
          = spent vocation raised := by
            unfold Ladder.cap spent
            rw [last]
            rfl
        _ = vocation.ladder.total player.magLevel.toNat nextReqMana.toNat := worth
        _ ≤ spent vocation player + amount.toNat := by
            unfold spent Ladder.total
            omega
  | case2 player amount currReqMana nextReqMana wraps reaches missing raised goes ih =>
    obtain ⟨first, second, left⟩ := Ladder.step_covered rest fits reaches
    have up : raised.magLevel.toNat = player.magLevel.toNat + 1 := toNat_up below
    have worth := spent_up below player.magLevelPercent
    rw [← next_is] at worth
    have grows : vocation.getReqMana raised.magLevel < vocation.getReqMana (raised.magLevel + 1) := by
      rw [show vocation.getReqMana raised.magLevel = nextReqMana from next_is.symm]
      exact UInt64.not_le.mp goes
    have more : raised.magLevel.toNat < vocation.ladder.top := (below_top (by rw [up]; exact below)).mpr grows
    have nothing : raised.manaSpent < vocation.getReqMana (raised.magLevel + 1) := by
      rw [UInt64.lt_iff_toNat_lt] at grows ⊢
      exact Nat.lt_of_le_of_lt (Nat.zero_le _) grows
    have room : raised.manaSpent.toNat + (amount - missing).toNat < 2 ^ 64 := by
      show 0 + (amount - missing).toNat < 2 ^ 64
      rw [Nat.zero_add]
      exact (amount - missing).toNat_lt
    have result := ih more rfl nothing room
    rw [first, second, Bool.or_false, Bool.or_false] at result ⊢
    have same : spent vocation raised + (amount - missing).toNat = spent vocation player + amount.toNat := by
      have moved : (amount - missing).toNat + nextReqMana.toNat = player.manaSpent.toNat + amount.toNat := left
      rw [show spent vocation raised = _ from worth]
      unfold spent Ladder.total
      omega
    unfold Raised at result ⊢
    rw [same] at result
    exact result
  | case3 player amount currReqMana nextReqMana wraps few =>
    have less := UInt64.lt_iff_toNat_lt.mp (UInt64.not_le.mp few)
    rw [Ladder.toNat_sum fits] at less
    exact ⟨rfl, below, next_is, less, rfl⟩

/-- An addition at the highest level, or of nothing, changes nothing. -/
theorem account_unchanged (placed : Below vocation player)
    (unchanged : vocation.getReqMana (player.magLevel + 1) ≤ vocation.getReqMana player.magLevel ∨ amount = 0) :
    min (spent vocation player + amount.toNat) vocation.ladder.cap = spent vocation player := by
  apply placed.unmoved
  rcases unchanged with stops | rfl
  · left
    intro less
    exact absurd stops (UInt64.not_le.mpr ((below_top placed.within).mp less))
  · exact .inr rfl

/-- What `addManaSpent` makes of what the loop leaves. -/
theorem raised_right {result : Player × Option (UInt64 × UInt64 × UInt64) × Bool} (raised : Raised vocation player amount false result) :
    let called := match result with
      | (player, none, wraps) => (player, wraps)
      | (player, some (amount, currReqMana, nextReqMana), wraps) =>
        let manaSpent := player.manaSpent + amount
        ({ player with
          manaSpent
          magLevelPercent := if currReqMana < nextReqMana then getBasisPointLevel manaSpent nextReqMana else 0 }, wraps)
    called.2 = false ∧ spent vocation called.1 = min (spent vocation player + amount.toNat) vocation.ladder.cap ∧
      Below vocation called.1 := by
  obtain ⟨after, left, wrapped⟩ := result
  cases left with
  | none =>
    obtain ⟨same, last, zero, full⟩ := raised
    have rest : after.manaSpent.toNat = 0 := congrArg UInt64.toNat zero
    refine ⟨same, ?_, ?_⟩
    · rw [Nat.min_eq_right full]
      unfold spent Ladder.cap
      rw [last, rest]
    · unfold Below
      rw [last, rest]
      exact Ladder.placed_top
  | some rests =>
    obtain ⟨left, currReqMana, nextReqMana⟩ := rests
    obtain ⟨same, below, next_is, less, total⟩ := raised
    have sum : (after.manaSpent + left).toNat = after.manaSpent.toNat + left.toNat :=
      Ladder.toNat_sum (Nat.lt_trans less nextReqMana.toNat_lt)
    have placed : vocation.ladder.Placed after.magLevel.toNat (after.manaSpent + left).toNat := by
      apply Ladder.Placed.of_lt (Nat.zero_le _) below
      rw [sum, req_next, ← next_is]
      exact less
    have worth : vocation.ladder.total after.magLevel.toNat (after.manaSpent + left).toNat = spent vocation player + amount.toNat := by
      rw [sum, Ladder.total_add]
      exact total
    refine ⟨same, ?_, placed⟩
    rw [← worth]
    exact (Nat.min_eq_left placed.le_cap).symm

/-- A sum that wraps is too small for the loop. -/
theorem raiseLevels_wrapped (rest : player.manaSpent < vocation.getReqMana (player.magLevel + 1))
    (wrapped : ¬ player.manaSpent.toNat + amount.toNat < 2 ^ 64) (currReqMana : UInt64) :
    player.raiseLevels vocation amount currReqMana (vocation.getReqMana (player.magLevel + 1)) false =
      (player, some (amount, currReqMana, vocation.getReqMana (player.magLevel + 1)), false) := by
  unfold Player.raiseLevels
  rw [if_neg (Ladder.few_of_wrapped rest wrapped)]

theorem addManaSpent_right (placed : Below vocation player) (notGainMana : Bool) :
    Right vocation player (.addManaSpent notGainMana amount) ↔ Covered vocation player (.addManaSpent notGainMana amount) := by
  unfold Right Covered step call account Player.addManaSpent
  dsimp only
  cases notGainMana with
  | true =>
    simp only [if_true, true_or, iff_true]
    exact ⟨trivial, trivial, placed⟩
  | false =>
    simp only [Bool.false_eq_true, if_false, false_or]
    by_cases stops : vocation.getReqMana (player.magLevel + 1) ≤ vocation.getReqMana player.magLevel
    · rw [if_pos stops]
      exact iff_of_true ⟨rfl, (account_unchanged placed (.inl stops)).symm, placed⟩ (.inl stops)
    · rw [if_neg stops]
      have grows := UInt64.not_le.mp stops
      have below := (below_top placed.within).mpr grows
      have rest : player.manaSpent < vocation.getReqMana (player.magLevel + 1) := by
        have less := placed.less below
        rw [req_next] at less
        exact UInt64.lt_iff_toNat_lt.mpr less
      by_cases none : amount = 0
      · rw [if_pos none]
        refine iff_of_true ⟨rfl, (account_unchanged placed (.inr none)).symm, placed⟩ (.inr ?_)
        rw [none]
        exact player.manaSpent.toNat_lt
      · rw [if_neg none]
        by_cases fits : player.manaSpent.toNat + amount.toNat < 2 ^ 64
        · have raised := raiseLevels_raised player amount (vocation.getReqMana player.magLevel) _ false below rfl rest fits
          exact iff_of_true (raised_right raised) (.inr fits)
        · refine iff_of_false ?_ (not_or.mpr ⟨stops, fits⟩)
          rw [raiseLevels_wrapped rest fits]
          intro right
          exact absurd right.2.1 (placed.wrapped fits)

/-- What the loop in `removeManaSpent` leaves: as much less is left to remove as has been given up; it is covered by the rest, or the
lowest level is reached; and where a level was given up something is left to remove. -/
structure Lowered (vocation : Vocation) (player : Player) (amount : UInt64) (wraps : Bool) (after : Player) (left : UInt64)
    (wrapped : Bool) : Prop where
  wraps : wrapped = wraps
  total : spent vocation player + left.toNat = spent vocation after + amount.toNat
  covers : left.toNat ≤ after.manaSpent.toNat ∨ after.magLevel.toNat = 0
  rest : after = player ∧ left = amount ∨ 0 < left.toNat ∧ after.magLevel.toNat < player.magLevel.toNat ∧
    after.manaSpent = vocation.getReqMana (after.magLevel + 1)

theorem lowerLevels_lowered (player : Player) (amount : UInt64) (wraps : Bool) (within : player.magLevel.toNat ≤ vocation.ladder.top) :
    Lowered vocation player amount wraps (player.lowerLevels vocation amount wraps).1 (player.lowerLevels vocation amount wraps).2.1
      (player.lowerLevels vocation amount wraps).2.2 := by
  fun_induction Player.lowerLevels vocation player amount wraps with
  | case1 player amount wraps goes ih =>
    obtain ⟨less, positive⟩ := goes
    have some := UInt32.lt_iff_toNat_lt.mp positive
    have one : (1 : UInt32) ≤ player.magLevel := UInt32.le_iff_toNat_le.mpr some
    have down : (player.magLevel - 1).toNat = player.magLevel.toNat - 1 := UInt32.toNat_sub_of_le _ _ one
    have lower : (player.magLevel - 1).toNat + 1 = player.magLevel.toNat := by
      rw [down]
      exact Nat.sub_add_cancel some
    have back : player.magLevel - 1 + 1 = player.magLevel := UInt32.sub_add_cancel _ _
    have below : (player.magLevel - 1).toNat < vocation.ladder.top := by omega
    have fewer := UInt64.lt_iff_toNat_lt.mp less
    have left : (amount - player.manaSpent).toNat = amount.toNat - player.manaSpent.toNat :=
      UInt64.toNat_sub_of_le _ _ (UInt64.le_iff_toNat_le.mpr (Nat.le_of_lt fewer))
    have given : spent vocation { player with magLevel := player.magLevel - 1, manaSpent := vocation.getReqMana player.magLevel } +
        player.manaSpent.toNat = spent vocation player := by
      unfold spent
      dsimp only
      have up := @Ladder.total_succ vocation.ladder (player.magLevel - 1).toNat (Nat.zero_le _) player.manaSpent.toNat
      rw [lower, req_toNat] at up
      rw [up, Ladder.total_add]
    have result := ih (Nat.le_of_lt below)
    constructor
    · rw [result.wraps, decide_eq_false (UInt64.not_lt.mpr (UInt64.le_iff_toNat_le.mpr (Nat.le_of_lt fewer))), Bool.or_false]
    · have total := result.total
      omega
    · exact result.covers
    · right
      rcases result.rest with ⟨same, unchanged⟩ | ⟨some_left, lower_still, full⟩
      · rw [same, unchanged, left]
        refine ⟨Nat.sub_pos_of_lt fewer, by dsimp only; omega, ?_⟩
        dsimp only
        rw [back]
      · exact ⟨some_left, Nat.lt_trans lower_still (by dsimp only; omega), full⟩
  | case2 player amount wraps stays =>
    refine ⟨rfl, rfl, ?_, .inl ⟨rfl, rfl⟩⟩
    by_cases less : player.manaSpent < amount
    · right
      have lowest := UInt32.not_lt.mp fun positive => stays ⟨less, positive⟩
      exact Nat.le_zero.mp (UInt32.le_iff_toNat_le.mp lowest)
    · left
      exact UInt64.le_iff_toNat_le.mp (UInt64.not_lt.mp less)

/-- The rest that is left is enough just where what is removed has been spent. -/
theorem Lowered.enough {after : Player} {left : UInt64} {wrapped : Bool}
    (lowered : Lowered vocation player amount false after left wrapped) :
    left.toNat ≤ after.manaSpent.toNat ↔ amount.toNat ≤ spent vocation player := by
  have total := lowered.total
  have most : after.manaSpent.toNat ≤ spent vocation after := Nat.le_add_left ..
  constructor
  · intro enough
    omega
  · intro covered
    rcases lowered.covers with enough | lowest
    · exact enough
    · have all : spent vocation after = after.manaSpent.toNat := by
        unfold spent
        rw [lowest]
        exact Ladder.total_base _
      omega

theorem removeManaSpent_right (placed : Below vocation player) :
    Right vocation player (.removeManaSpent amount) ↔ Covered vocation player (.removeManaSpent amount) := by
  unfold Right Covered step call account Player.removeManaSpent
  dsimp only
  by_cases none : amount = 0
  · rw [if_pos none]
    subst none
    exact iff_of_true ⟨rfl, rfl, placed⟩ (Nat.zero_le _)
  · rw [if_neg none]
    have lowered := lowerLevels_lowered player amount false placed.within
    generalize player.lowerLevels vocation amount false = result at lowered
    obtain ⟨after, left, wrapped⟩ := result
    dsimp only at lowered ⊢
    rw [lowered.wraps, Bool.false_or, ← lowered.enough]
    constructor
    · intro right
      exact UInt64.le_iff_toNat_le.mp (UInt64.not_lt.mp (of_decide_eq_false right.1))
    · intro enough
      have covered := lowered.enough.mp enough
      have within := UInt64.le_iff_toNat_le.mpr enough
      have rest : (after.manaSpent - left).toNat = after.manaSpent.toNat - left.toNat := UInt64.toNat_sub_of_le _ _ within
      refine ⟨decide_eq_false (UInt64.not_lt.mpr within), ?_, ?_⟩
      · have total := lowered.total
        have split : spent vocation after = vocation.ladder.total after.magLevel.toNat (after.manaSpent - left).toNat + left.toNat := by
          rw [← Ladder.total_add, rest, Nat.sub_add_cancel enough]
          rfl
        show vocation.ladder.total after.magLevel.toNat (after.manaSpent - left).toNat = _
        omega
      · unfold Below
        dsimp only
        rcases lowered.rest with ⟨same, unchanged⟩ | ⟨some, lower, full⟩
        · subst same
          rw [rest]
          exact placed.mono (Nat.sub_le ..)
        · have below := Nat.lt_of_lt_of_le lower placed.within
          apply Ladder.Placed.of_lt (Nat.zero_le _) below
          rw [rest, req_next, ← full]
          exact Nat.sub_lt (Nat.lt_of_lt_of_le some enough) some

theorem call_right (vocation : Vocation) (player : Player) (label : Label) (placed : Below vocation player) :
    Right vocation player label ↔ Covered vocation player label := by
  cases label with
  | addManaSpent notGainMana amount => exact addManaSpent_right placed notGainMana
  | removeManaSpent amount => exact removeManaSpent_right placed

/-- The calls of a run are all right if and only if all their amounts are covered. -/
theorem spent_along (vocation : Vocation) (player : Player) (placed : Below vocation player) (labels : List Label) :
    Throughout (step vocation) (Right vocation) player labels ↔ Throughout (step vocation) (Covered vocation) player labels := by
  have kept : ∀ player label, Below vocation player → Right vocation player label → Below vocation (step vocation player label) :=
    fun _ _ _ right => right.2.2
  exact throughout_iff kept (call_right vocation) placed labels

/-- A vocation with the factor one: all magic levels but the lowest need the same. -/
def even : Vocation where
  getReqMana level := if level = 0 then 0 else 1600
  zero := rfl

def apprentice : Player := ⟨0, 0, 0⟩

theorem below_apprentice : Below even apprentice :=
  ⟨Nat.le_refl _, Nat.zero_le _, fun _ => (by decide : 0 < 1600), fun _ => rfl⟩

theorem spent_along_apprentice : Throughout (step even) (Right even) apprentice [.addManaSpent false 1600] :=
  (spent_along even apprentice below_apprentice _).mpr ⟨.inr (.inr (by decide)), trivial⟩

/-- At the lowest level with nothing spent a removal wraps. -/
theorem apprentice_wraps : ¬ ∀ labels, Throughout (step even) (Right even) apprentice labels := by
  intro right
  have first := (right [.removeManaSpent 1]).1.1
  have wraps : (call even apprentice (.removeManaSpent 1)).2 = true := by
    unfold call Player.removeManaSpent Player.lowerLevels
    decide
  rw [wraps] at first
  exact absurd first.symm Bool.false_ne_true

end Styller.ManaSpent
