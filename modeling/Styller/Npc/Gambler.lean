import Mathlib.Algebra.Group.Int.Defs
import Mathlib.Algebra.GroupWithZero.Nat
import Mathlib.Data.List.Nodup
import Mathlib.Data.List.Perm.Basic

/-! The gambler NPC: the stake that its pending bets share, and the coins on the betting tile. The
dice, the effects and what the NPC answers are left out. -/

namespace Styller

open List

structure TileItem where
  id : Nat
  type : Nat

namespace TileItem

def goldCoin : Nat := 2148

def platinumCoin : Nat := 2152

def crystalCoin : Nat := 2160

/-- `ITEM_BLOCKING`. -/
def blocking : Nat := 8046

/-- What an item counts for in `getMoneyAmount`. -/
def worth (item : TileItem) : Nat :=
  if item.id = goldCoin then item.type
  else if item.id = platinumCoin then item.type * 100
  else if item.id = crystalCoin then item.type * 10000
  else 0

/-- `Game.createItem` of a stackable item, which fits into one stack. No stack of its kind lies on
the tile. -/
def createItem (id count : Nat) (tile : List TileItem) : List TileItem := ⟨id, min count 100⟩ :: tile

end TileItem

/-- The words that the gambler listens to. -/
inductive Wager where
  | high
  | low
  | h
  | l

/-- `rollType`: `msgcontains` finds "l" in "low", and neither of them in "high" or "h". -/
def Wager.rollType : Wager → Nat
  | .low | .l => 1
  | .high | .h => 2

/-- A callback that waits, with its bonus. The number of the bet, its stake and the money that the
check has found are for the record. -/
inductive GamblerEvent where
  | executeEvent (bet stake bonus : Nat)
  | handleMoney (bet stake checked bonus : Nat)

namespace GamblerEvent

def bet : GamblerEvent → Nat
  | executeEvent bet _ _ => bet
  | handleMoney bet _ _ _ => bet

def stake : GamblerEvent → Nat
  | executeEvent _ stake _ => stake
  | handleMoney _ stake _ _ => stake

def bonus : GamblerEvent → Nat
  | executeEvent _ _ bonus => bonus
  | handleMoney _ _ _ bonus => bonus

end GamblerEvent

structure Settlement where
  bet : Nat
  stake : Nat
  removed : Nat
  paid : Nat
  deriving DecidableEq

/-- The script of one gambler and its betting tile. The number of the bets and the settlements are
for the record. -/
structure Gambler where
  storeMoneyAmount : Nat := 0
  tile : List TileItem
  pending : List GamblerEvent := []
  bets : Nat := 0
  settled : List Settlement := []

namespace Gambler

open TileItem

def bonusPercent : Nat := 2

def minimumBet : Nat := 100

def maximumBet : Nat := 500000

def getMoneyAmount (tile : List TileItem) : Nat := (tile.map worth).sum

/-- The loop of `handleMoney` that removes the coins and the blocking item. -/
def removeCoins (tile : List TileItem) : List TileItem :=
  tile.filter fun item => item.id ∉ [goldCoin, platinumCoin, crystalCoin, blocking]

/-- What `handleMoney` creates for a number of gold coins. -/
def createCoins (goldCoinAmount : Nat) (tile : List TileItem) : List TileItem :=
  let crystalCoinAmount := goldCoinAmount / 10000
  let goldCoinAmount := goldCoinAmount - crystalCoinAmount * 10000
  let platinumCoinAmount := goldCoinAmount / 100
  let goldCoinAmount := goldCoinAmount - platinumCoinAmount * 100
  let tile := if goldCoinAmount ≠ 0 then createItem goldCoin goldCoinAmount tile else tile
  let tile := if platinumCoinAmount ≠ 0 then createItem platinumCoin platinumCoinAmount tile else tile
  if crystalCoinAmount ≠ 0 then createItem crystalCoin crystalCoinAmount tile else tile

variable (state : Gambler)

def handleMoney (bet stake bonus : Nat) : Gambler :=
  let removed := removeCoins state.tile
  let tile := if bonus = 0 then removed else createCoins (state.storeMoneyAmount * bonus) removed
  { state with
    tile := tile
    settled := state.settled ++
      [⟨bet, stake, getMoneyAmount state.tile - getMoneyAmount removed, getMoneyAmount tile - getMoneyAmount removed⟩] }

def executeEvent (bet stake bonus : Nat) : Gambler :=
  if getMoneyAmount state.tile ≠ state.storeMoneyAmount then state
  else { state with pending := state.pending ++ [.handleMoney bet stake (getMoneyAmount state.tile) bonus] }

def callback : GamblerEvent → Gambler
  | .executeEvent bet stake bonus => state.executeEvent bet stake bonus
  | .handleMoney bet stake _ bonus => state.handleMoney bet stake bonus

/-- Whether `creatureSayCallback` goes on to read the stake. -/
def reads (topCreature : Option Nat) (cid : Nat) : Bool := topCreature = some cid

/-- "Win or Lose": the bonus of a word for the number that is rolled. -/
def bonusOf (msg : Wager) (rollNumber : Fin 6) : Nat :=
  if msg.rollType = 1 ∧ rollNumber.1 + 1 ∈ [1, 2, 3] then bonusPercent
  else if msg.rollType = 2 ∧ rollNumber.1 + 1 ∈ [4, 5, 6] then bonusPercent
  else 0

/-- `creatureSayCallback` for a word that is not ignored, with the number that is rolled. -/
def creatureSayCallback (topCreature : Option Nat) (cid : Nat) (msg : Wager) (rollNumber : Fin 6) : Gambler :=
  if reads topCreature cid then
    let stake := getMoneyAmount state.tile
    let state := { state with storeMoneyAmount := stake }
    if stake < minimumBet ∨ stake > maximumBet then state
    else { state with
      tile := ⟨blocking, 1⟩ :: state.tile
      pending := state.pending ++ [.executeEvent state.bets stake (bonusOf msg rollNumber)]
      bets := state.bets + 1 }
  else state

/-- What happens at the gambler's place: items are put on the tile or taken from it, a word is said,
or a callback runs, where the gambler may be gone. -/
inductive Event where
  | move (tile : List TileItem)
  | say (topCreature : Option Nat) (cid : Nat) (msg : Wager) (rollNumber : Fin 6)
  | callback (index : Nat) (npc : Bool)

def step : Event → Gambler
  | .move tile => { state with tile := tile }
  | .say topCreature cid msg rollNumber => state.creatureSayCallback topCreature cid msg rollNumber
  | .callback index npc =>
    match state.pending[index]? with
    | some event =>
      let state := { state with pending := state.pending.eraseIdx index }
      if npc then state.callback event else state
    | none => state

def run (events : List Event) : Gambler := events.foldl step state

/-- Each settlement takes the stake of its own bet and pays nothing or its multiple, and no bet is
settled twice. -/
structure SettledOnce : Prop where
  once : (state.settled.map Settlement.bet).Nodup
  taken : ∀ settlement ∈ state.settled, 0 < settlement.stake ∧ settlement.removed = settlement.stake
  paid : ∀ settlement ∈ state.settled, settlement.paid = 0 ∨ settlement.paid = bonusPercent * settlement.stake

/-- A word that is said while bets are pending finds the same money as they have, and coins that are
settled are worth what they were at the check. -/
def Careful : Event → Prop
  | .move _ => True
  | .say topCreature cid _ _ =>
    reads topCreature cid → state.pending = [] ∨ getMoneyAmount state.tile = state.storeMoneyAmount
  | .callback index npc =>
    ∀ bet stake checked bonus, state.pending[index]? = some (.handleMoney bet stake checked bonus) → npc = true →
      getMoneyAmount state.tile = checked

def AllCareful : List Event → Gambler → Prop
  | [], _ => True
  | event :: later, state => state.Careful event ∧ AllCareful later (state.step event)

/-! The coins. -/

theorem getMoneyAmount_cons (item : TileItem) (tile : List TileItem) :
    getMoneyAmount (item :: tile) = item.worth + getMoneyAmount tile := by
  simp [getMoneyAmount]

theorem getMoneyAmount_removeCoins (tile : List TileItem) : getMoneyAmount (removeCoins tile) = 0 := by
  have none_left : ∀ worth ∈ (removeCoins tile).map TileItem.worth, worth = 0 := by
    intro worth listed
    obtain ⟨item, kept, rfl⟩ := mem_map.mp listed
    have other := (mem_filter.mp kept).2
    simp only [mem_cons, not_mem_nil, or_false, not_or, decide_eq_true_eq] at other
    obtain ⟨gold, platinum, crystal, -⟩ := other
    simp only [TileItem.worth, if_neg gold, if_neg platinum, if_neg crystal]
  exact List.sum_eq_zero_iff_forall_eq_nat.mpr none_left

theorem getMoneyAmount_createItem {id count : Nat} (tile : List TileItem) (fits : count ≤ 100) :
    getMoneyAmount (createItem id count tile) = TileItem.worth ⟨id, count⟩ + getMoneyAmount tile := by
  rw [createItem, getMoneyAmount_cons, Nat.min_eq_left fits]

/-- Up to a hundred crystal coins and the change are paid in full. -/
theorem getMoneyAmount_createCoins {amount : Nat} (tile : List TileItem) (fits : amount ≤ 1000000) :
    getMoneyAmount (createCoins amount tile) = amount + getMoneyAmount tile := by
  have skip : ∀ {count id : Nat} {tile : List TileItem}, count ≤ 100 →
      getMoneyAmount (if count ≠ 0 then createItem id count tile else tile) =
        TileItem.worth ⟨id, count⟩ + getMoneyAmount tile := by
    intro count id tile fits
    by_cases zero : count = 0
    · subst zero
      simp [TileItem.worth]
    · rw [if_pos zero, getMoneyAmount_createItem tile fits]
  unfold createCoins
  dsimp only
  rw [skip (by omega), skip (by omega), skip (by omega)]
  simp only [TileItem.worth, goldCoin, platinumCoin, crystalCoin]
  simp only [if_true, show ¬ 2160 = 2148 by decide, show ¬ 2160 = 2152 by decide, show ¬ 2152 = 2148 by decide, if_false]
  omega

/-! Bets. -/

/-- The pending bets share the stake, the bets are settled once, and what is settled is right. -/
structure Balanced : Prop where
  shared : ∀ event ∈ state.pending, event.stake = state.storeMoneyAmount
  allowed : ∀ event ∈ state.pending, minimumBet ≤ event.stake ∧ event.stake ≤ maximumBet
  bonus : ∀ event ∈ state.pending, event.bonus = 0 ∨ event.bonus = bonusPercent
  checked : ∀ bet stake checked bonus, .handleMoney bet stake checked bonus ∈ state.pending → checked = stake
  numbered : ∀ bet ∈ state.pending.map GamblerEvent.bet ++ state.settled.map Settlement.bet, bet < state.bets
  distinct : (state.pending.map GamblerEvent.bet ++ state.settled.map Settlement.bet).Nodup
  taken : ∀ settlement ∈ state.settled, 0 < settlement.stake ∧ settlement.removed = settlement.stake
  paid : ∀ settlement ∈ state.settled, settlement.paid = 0 ∨ settlement.paid = bonusPercent * settlement.stake

section

variable {state : Gambler}

theorem balanced_start (tile : List TileItem) : Balanced { tile } where
  shared := fun _ listed => absurd listed not_mem_nil
  allowed := fun _ listed => absurd listed not_mem_nil
  bonus := fun _ listed => absurd listed not_mem_nil
  checked := fun _ _ _ _ listed => absurd listed not_mem_nil
  numbered := fun _ listed => absurd listed not_mem_nil
  distinct := nodup_nil
  taken := fun _ listed => absurd listed not_mem_nil
  paid := fun _ listed => absurd listed not_mem_nil

theorem Balanced.settledOnce (balanced : Balanced state) : SettledOnce state :=
  ⟨balanced.distinct.of_append_right, balanced.taken, balanced.paid⟩

/-- A read that leaves the shared stake as it is, or comes when no bet is pending. -/
theorem Balanced.read (balanced : Balanced state) {stake : Nat} (same : state.pending = [] ∨ stake = state.storeMoneyAmount) :
    Balanced { state with storeMoneyAmount := stake } := by
  refine { balanced with shared := fun event listed => ?_ }
  rcases same with idle | same
  · rw [idle] at listed
    cases listed
  · exact (balanced.shared event listed).trans same.symm

theorem bonus_cases (msg : Wager) (rollNumber : Fin 6) : bonusOf msg rollNumber = 0 ∨ bonusOf msg rollNumber = bonusPercent := by
  unfold bonusOf
  split_ifs
  · exact .inr rfl
  · exact .inr rfl
  · exact .inl rfl

/-- A new bet on the shared stake. -/
theorem Balanced.bet (balanced : Balanced state) (tile : List TileItem) {bonus : Nat}
    (allowed : minimumBet ≤ state.storeMoneyAmount ∧ state.storeMoneyAmount ≤ maximumBet)
    (either : bonus = 0 ∨ bonus = bonusPercent) :
    Balanced { state with
      tile := tile
      pending := state.pending ++ [.executeEvent state.bets state.storeMoneyAmount bonus]
      bets := state.bets + 1 } where
  shared := by
    intro event listed
    rcases mem_append.mp listed with earlier | new
    · exact balanced.shared event earlier
    · cases mem_singleton.mp new
      rfl
  allowed := by
    intro event listed
    rcases mem_append.mp listed with earlier | new
    · exact balanced.allowed event earlier
    · cases mem_singleton.mp new
      exact allowed
  bonus := by
    intro event listed
    rcases mem_append.mp listed with earlier | new
    · exact balanced.bonus event earlier
    · cases mem_singleton.mp new
      exact either
  checked := by
    intro bet stake checked bonus listed
    rcases mem_append.mp listed with earlier | new
    · exact balanced.checked bet stake checked bonus earlier
    · cases mem_singleton.mp new
  numbered := by
    intro bet listed
    rw [map_append, append_assoc, mem_append, mem_append] at listed
    rcases listed with pending | new | settled
    · exact Nat.lt_succ_of_lt (balanced.numbered bet (mem_append_left _ pending))
    · cases mem_singleton.mp new
      exact Nat.lt_succ_self _
    · exact Nat.lt_succ_of_lt (balanced.numbered bet (mem_append_right _ settled))
  distinct := by
    have fresh : state.bets ∉ state.pending.map GamblerEvent.bet ++ state.settled.map Settlement.bet :=
      fun listed => Nat.lt_irrefl _ (balanced.numbered _ listed)
    rw [map_append, append_assoc]
    exact nodup_middle.mpr (nodup_cons.mpr ⟨fresh, balanced.distinct⟩)
  taken := balanced.taken
  paid := balanced.paid

theorem Balanced.creatureSayCallback (balanced : Balanced state) {topCreature : Option Nat} {cid : Nat} (msg : Wager)
    (rollNumber : Fin 6)
    (careful : reads topCreature cid → state.pending = [] ∨ getMoneyAmount state.tile = state.storeMoneyAmount) :
    Balanced (state.creatureSayCallback topCreature cid msg rollNumber) := by
  unfold Gambler.creatureSayCallback
  by_cases near : reads topCreature cid = true
  · have read := balanced.read (careful near)
    rw [if_pos near]
    dsimp only
    split_ifs with outside
    · exact read
    · rw [not_or, Nat.not_lt, Nat.not_lt] at outside
      exact read.bet _ outside (bonus_cases msg rollNumber)
  · rw [if_neg near]
    exact balanced

/-- A callback that is taken out of the list leaves a balanced state, to which its bet is new again. -/
theorem Balanced.taken_out (balanced : Balanced state) {index : Nat} {event : GamblerEvent}
    (found : state.pending[index]? = some event) :
    Balanced { state with pending := state.pending.eraseIdx index } ∧
      event.bet ∉ (state.pending.eraseIdx index).map GamblerEvent.bet ++ state.settled.map Settlement.bet := by
  obtain ⟨bound, rfl⟩ := List.getElem?_eq_some_iff.mp found
  have sublist := eraseIdx_sublist state.pending index
  have perm := ((getElem_cons_eraseIdx_perm bound).map GamblerEvent.bet).append_right (state.settled.map Settlement.bet)
  have distinct := perm.nodup_iff.mpr balanced.distinct
  refine ⟨?_, (nodup_cons.mp distinct).1⟩
  refine { balanced with
    shared := fun event listed => balanced.shared event (sublist.subset listed)
    allowed := fun event listed => balanced.allowed event (sublist.subset listed)
    bonus := fun event listed => balanced.bonus event (sublist.subset listed)
    checked := fun bet stake checked bonus listed => balanced.checked bet stake checked bonus (sublist.subset listed)
    numbered := fun bet listed => balanced.numbered bet (perm.subset (mem_cons_of_mem _ listed))
    distinct := (nodup_cons.mp distinct).2 }

/-- What the check posts carries the money that it has found. -/
theorem Balanced.executeEvent (balanced : Balanced state) {bet stake bonus : Nat} (shared : stake = state.storeMoneyAmount)
    (allowed : minimumBet ≤ stake ∧ stake ≤ maximumBet) (either : bonus = 0 ∨ bonus = bonusPercent)
    (known : bet < state.bets)
    (fresh : bet ∉ state.pending.map GamblerEvent.bet ++ state.settled.map Settlement.bet) :
    Balanced (state.executeEvent bet stake bonus) := by
  unfold Gambler.executeEvent
  split_ifs with missing
  · exact balanced
  · have money := not_not.mp missing
    refine { balanced with
      shared := ?_, allowed := ?_, bonus := ?_, checked := ?_, numbered := ?_, distinct := ?_ }
    · intro event listed
      rcases mem_append.mp listed with earlier | new
      · exact balanced.shared event earlier
      · cases mem_singleton.mp new
        exact shared
    · intro event listed
      rcases mem_append.mp listed with earlier | new
      · exact balanced.allowed event earlier
      · cases mem_singleton.mp new
        exact allowed
    · intro event listed
      rcases mem_append.mp listed with earlier | new
      · exact balanced.bonus event earlier
      · cases mem_singleton.mp new
        exact either
    · intro bet stake checked bonus listed
      rcases mem_append.mp listed with earlier | new
      · exact balanced.checked bet stake checked bonus earlier
      · cases mem_singleton.mp new
        exact money.trans shared.symm
    · intro other listed
      rw [map_append, append_assoc, mem_append, mem_append] at listed
      rcases listed with pending | new | settled
      · exact balanced.numbered other (mem_append_left _ pending)
      · cases mem_singleton.mp new
        exact known
      · exact balanced.numbered other (mem_append_right _ settled)
    · rw [map_append, append_assoc]
      exact nodup_middle.mpr (nodup_cons.mpr ⟨fresh, balanced.distinct⟩)

/-- What is created on the cleared tile is the bonus times the stake. -/
theorem paid_eq {stake bonus : Nat} (tile : List TileItem) (allowed : stake ≤ maximumBet)
    (either : bonus = 0 ∨ bonus = bonusPercent) :
    getMoneyAmount (if bonus = 0 then removeCoins tile else createCoins (stake * bonus) (removeCoins tile)) -
      getMoneyAmount (removeCoins tile) = stake * bonus := by
  rcases either with rfl | rfl
  · rw [if_pos rfl, Nat.sub_self, Nat.mul_zero]
  · unfold maximumBet at allowed
    rw [if_neg (by decide), getMoneyAmount_createCoins _ (by unfold bonusPercent; omega), Nat.add_sub_cancel]

theorem Balanced.handleMoney (balanced : Balanced state) {bet stake bonus : Nat} (shared : stake = state.storeMoneyAmount)
    (allowed : minimumBet ≤ stake ∧ stake ≤ maximumBet) (either : bonus = 0 ∨ bonus = bonusPercent)
    (known : bet < state.bets)
    (fresh : bet ∉ state.pending.map GamblerEvent.bet ++ state.settled.map Settlement.bet)
    (there : getMoneyAmount state.tile = stake) :
    Balanced (state.handleMoney bet stake bonus) := by
  have positive : 0 < stake := Nat.lt_of_lt_of_le (by decide) allowed.1
  refine { balanced with numbered := ?_, distinct := ?_, taken := ?_, paid := ?_ }
  · intro other listed
    unfold Gambler.handleMoney at listed
    rw [map_append, ← append_assoc, mem_append] at listed
    rcases listed with earlier | new
    · exact balanced.numbered other earlier
    · cases mem_singleton.mp new
      exact known
  · unfold Gambler.handleMoney
    rw [map_append, ← append_assoc]
    refine nodup_append.mpr ⟨balanced.distinct, nodup_singleton _, fun other listed last new => ?_⟩
    cases mem_singleton.mp new
    rintro rfl
    exact fresh listed
  · intro settlement listed
    rcases mem_append.mp listed with earlier | new
    · exact balanced.taken settlement earlier
    · cases mem_singleton.mp new
      refine ⟨positive, ?_⟩
      show getMoneyAmount state.tile - getMoneyAmount (removeCoins state.tile) = stake
      rw [getMoneyAmount_removeCoins, there, Nat.sub_zero]
  · intro settlement listed
    rcases mem_append.mp listed with earlier | new
    · exact balanced.paid settlement earlier
    · cases mem_singleton.mp new
      have paid := paid_eq state.tile (shared ▸ allowed.2) either
      rw [← shared] at paid
      show _ - _ = 0 ∨ _ - _ = bonusPercent * stake
      rw [← shared, paid]
      exact either.imp (fun zero => by rw [zero, Nat.mul_zero]) fun multiple => by rw [multiple, Nat.mul_comm]

theorem Balanced.step (balanced : Balanced state) {event : Event} (careful : state.Careful event) :
    Balanced (state.step event) := by
  cases event with
  | move tile => exact { balanced with }
  | say topCreature cid msg rollNumber => exact balanced.creatureSayCallback msg rollNumber careful
  | callback index npc =>
    unfold Gambler.step
    dsimp only
    split
    · next event found =>
      have listed := mem_of_getElem? found
      obtain ⟨rest, fresh⟩ := balanced.taken_out found
      have known := balanced.numbered event.bet (mem_append_left _ (mem_map.mpr ⟨event, listed, rfl⟩))
      split_ifs with npc
      · cases event with
        | executeEvent bet stake bonus =>
          exact rest.executeEvent (balanced.shared _ listed) (balanced.allowed _ listed) (balanced.bonus _ listed) known fresh
        | handleMoney bet stake checked bonus =>
          have there := (careful bet stake checked bonus found npc).trans (balanced.checked _ _ _ _ listed)
          exact rest.handleMoney (balanced.shared _ listed) (balanced.allowed _ listed) (balanced.bonus _ listed) known fresh
            there
      · exact rest
    · exact balanced

theorem Balanced.run (balanced : Balanced state) {events : List Event} (careful : AllCareful events state) :
    Balanced (state.run events) := by
  induction events generalizing state with
  | nil => exact balanced
  | cons event later ih => exact ih (balanced.step careful.1) careful.2

/-- Careful runs from an idle gambler settle every bet once. -/
theorem settledOnce_of_allCareful (tile : List TileItem) {events : List Event} (careful : AllCareful events { tile }) :
    SettledOnce (run { tile } events) :=
  ((balanced_start tile).run careful).settledOnce

/-- One bet on a platinum coin that wins. -/
theorem settledOnce_one :
    (run { tile := [⟨platinumCoin, 1⟩] } [.say (some 1) 1 .high 4, .callback 0 true, .callback 0 true]).settled =
      [⟨0, 100, 100, 200⟩] ∧
    SettledOnce
      (run { tile := [⟨platinumCoin, 1⟩] } [.say (some 1) 1 .high 4, .callback 0 true, .callback 0 true]) := by
  refine ⟨by decide, settledOnce_of_allCareful _ ⟨fun _ => .inl rfl, ?_, ?_, trivial⟩⟩
  · rintro bet stake checked bonus ⟨⟩
  · rintro bet stake checked bonus ⟨⟩ -
    decide

/-- The second of two bets on the same coin takes what the first has won. -/
theorem not_settledOnce_twice : ¬ SettledOnce
    (run { tile := [⟨platinumCoin, 1⟩] } [.say (some 1) 1 .high 4, .say (some 1) 1 .high 4, .callback 0 true,
      .callback 0 true, .callback 0 true, .callback 0 true]) := by
  intro settled
  have taken := settled.taken ⟨1, 100, 200, 200⟩ (by decide)
  exact absurd taken.2 (by decide)

end

end Gambler

end Styller
