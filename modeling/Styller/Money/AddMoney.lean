import Mathlib.Algebra.BigOperators.Ring.List
import Mathlib.Algebra.Ring.Nat
import Styller.Item.GameItems
import Styller.Library.Change

/-! `Game::addMoney`: an amount is handed out in coins, the largest worth first,
in stacks of at most 100.  The number of coins is cut to 32 bits once for each
worth and to 16 bits in every round of the inner loop. -/

namespace Styller

open Library List

section
variable {State : Type} (handOut : State → Nat → Nat → State)

/-- The inner loop; `none` says that it is still running when the fuel is used up. -/
def payCoins (id : Nat) : Nat → Nat → State → Option State
  | 0, currencyCoins, state => if currencyCoins > 0 then none else some state
  | fuel + 1, currencyCoins, state =>
    if currencyCoins > 0 then
      let count := min 100 (currencyCoins % 2 ^ 16)
      payCoins id fuel (currencyCoins - count) (handOut state id count)
    else some state

/-- The outer loop over the currency map. -/
def payCurrencies (fuel : Nat) : List (Nat × Nat) → Nat → State → Option State
  | [], _, state => some state
  | (worth, id) :: rest, money, state =>
    let currencyCoins := (money / worth) % 2 ^ 32
    if currencyCoins ≤ 0 then payCurrencies fuel rest money state
    else
      match payCoins handOut id fuel currencyCoins state with
      | none => none
      | some state => payCurrencies fuel rest (money - currencyCoins * worth) state

/-- `Game::addMoney`; `handOut` creates one stack and gives it away. -/
def addMoney (items : ItemTypes) (fuel money : Nat) (state : State) : Option State :=
  if money = 0 then some state
  else payCurrencies handOut fuel items.currencyItems money state

/-- The stacks that the inner loop hands out, in order. -/
theorem payCoins_eq (id : Nat) (small : coins < 65536) (enough : coins ≤ fuel) (state : State) :
    payCoins handOut id fuel coins state =
      some ((stacksOf 100 coins).foldl (handOut · id ·) state) := by
  induction fuel generalizing coins state with
  | zero =>
    obtain rfl : coins = 0 := by omega
    simp [payCoins]
  | succ fuel ih =>
    by_cases positive : 0 < coins
    · have cut : coins % 2 ^ 16 = coins := Nat.mod_eq_of_lt small
      have round := @ih (coins - min 100 coins) (by omega) (by omega)
        (handOut state id (min 100 coins))
      rw [stacksOf_step (by omega) positive]
      simp only [payCoins, positive, if_true, cut, foldl_cons]
      exact round
    · obtain rfl : coins = 0 := by omega
      simp [payCoins]

/-- From 65536 coins on the 16-bit stack count reaches zero before the coins do,
and the inner loop never ends. -/
theorem payCoins_endless (id : Nat) (large : 65536 ≤ coins) (fuel : Nat) (state : State) :
    payCoins handOut id fuel coins state = none := by
  induction fuel generalizing coins state with
  | zero =>
    have positive : 0 < coins := by omega
    simp [payCoins, positive]
  | succ fuel ih =>
    have positive : 0 < coins := by omega
    simp only [payCoins, positive, if_true]
    exact ih (by omega) _

theorem payCoins_sound {id : Nat} (ended : payCoins handOut id fuel coins state = some result) :
    coins < 65536 ∧ result = (stacksOf 100 coins).foldl (handOut · id ·) state := by
  have small : coins < 65536 := by
    apply Nat.lt_of_not_le
    intro large
    simp [payCoins_endless handOut id large] at ended
  refine ⟨small, ?_⟩
  induction fuel generalizing coins state with
  | zero =>
    by_cases positive : 0 < coins
    · simp [payCoins, positive] at ended
    · obtain rfl : coins = 0 := by omega
      simpa [payCoins] using ended.symm
  | succ fuel ih =>
    by_cases positive : 0 < coins
    · have cut : coins % 2 ^ 16 = coins := Nat.mod_eq_of_lt small
      simp only [payCoins, positive, if_true, cut] at ended
      rw [stacksOf_step (by omega) positive]
      exact ih ended (by omega)
    · obtain rfl : coins = 0 := by omega
      simpa [payCoins] using ended.symm

/-- The stacks that pay an amount: item id and count. -/
def coinPlan : List (Nat × Nat) → Nat → List (Nat × Nat)
  | [], _ => []
  | (worth, id) :: rest, money =>
    (stacksOf 100 (money / worth)).map (fun count => (id, count)) ++ coinPlan rest (money % worth)

/-- Every number of coins in the greedy payment fits into 16 bits. -/
def Payable (table : List (Nat × Nat)) (money : Nat) : Prop :=
  ∀ coins ∈ greedy (table.map Prod.fst) money, coins < 65536

instance (table : List (Nat × Nat)) (money : Nat) : Decidable (Payable table money) :=
  inferInstanceAs (Decidable (∀ coins ∈ greedy (table.map Prod.fst) money, coins < 65536))

theorem payable_cons {worth id money : Nat} {rest : List (Nat × Nat)} :
    Payable ((worth, id) :: rest) money ↔
      money / worth < 65536 ∧ Payable rest (money % worth) := by
  simp [Payable, greedy]

theorem payable_zero (table : List (Nat × Nat)) : Payable table 0 := by
  induction table with
  | nil => simp [Payable, greedy]
  | cons entry rest ih => exact payable_cons.mpr (by simpa using ih)

theorem payCurrencies_eq (payable : Payable table money) (enough : 65536 ≤ fuel) (state : State) :
    payCurrencies handOut fuel table money state =
      some ((coinPlan table money).foldl (fun state stack => handOut state stack.1 stack.2) state) := by
  induction table generalizing money state with
  | nil => rfl
  | cons entry rest ih =>
    obtain ⟨worth, id⟩ := entry
    obtain ⟨small, later⟩ := payable_cons.mp payable
    have cut : (money / worth) % 2 ^ 32 = money / worth := Nat.mod_eq_of_lt (by omega)
    have left : money - money / worth * worth = money % worth := by
      rw [Nat.mul_comm, ← Nat.mod_eq_sub_mul_div]
    simp only [payCurrencies, cut, coinPlan, foldl_append, foldl_map]
    by_cases none : money / worth ≤ 0
    · have zero : money / worth = 0 := by omega
      have kept : money % worth = money := by rw [← left]; simp [zero]
      rw [if_pos none, zero, stacksOf_zero, ← kept, Nat.mod_mod]
      exact ih later state
    · rw [if_neg none, payCoins_eq handOut id small (by omega), left]
      exact ih later _

/-- `addMoney` hands out exactly the planned stacks when the amount is payable. -/
theorem addMoney_eq {items : ItemTypes} (payable : Payable items.currencyItems money)
    (enough : 65536 ≤ fuel) (state : State) :
    addMoney handOut items fuel money state = some ((coinPlan items.currencyItems money).foldl
      (fun state stack => handOut state stack.1 stack.2) state) := by
  unfold addMoney
  split
  · rename_i zero
    subst zero
    have empty : ∀ table : List (Nat × Nat), coinPlan table 0 = [] := by
      intro table
      induction table with
      | nil => rfl
      | cons entry rest ih => simp [coinPlan, ih]
    simp [empty]
  · exact payCurrencies_eq handOut payable enough state

/-- The planned stacks are of listed coins that are worth no more than the amount. -/
theorem mem_coinPlan {stack : Nat × Nat} (planned : stack ∈ coinPlan table money) :
    (1 ≤ stack.2 ∧ stack.2 ≤ 100) ∧ ∃ entry ∈ table, entry.2 = stack.1 ∧ entry.1 ≤ money := by
  induction table generalizing money with
  | nil => cases planned
  | cons entry rest ih =>
    obtain ⟨worth, id⟩ := entry
    rcases mem_append.mp planned with here | later
    · obtain ⟨count, listed, rfl⟩ := mem_map.mp here
      refine ⟨stacksOf_bounds (by omega) listed, (worth, id), mem_cons_self, rfl, ?_⟩
      apply Nat.le_of_not_lt
      intro small
      rw [Nat.div_eq_of_lt small, stacksOf_zero] at listed
      cases listed
    · obtain ⟨bounds, entry, listed, same, less⟩ := ih later
      exact ⟨bounds, entry, mem_cons_of_mem _ listed, same, Nat.le_trans less (Nat.mod_le _ _)⟩

/-- The planned stacks are worth the amount but for what the greedy payment leaves. -/
theorem sum_coinPlan (worthOf : Nat → Nat) (coined : ∀ entry ∈ table, worthOf entry.2 = entry.1) (money : Nat) :
    ((coinPlan table money).map (fun stack => worthOf stack.1 * stack.2)).sum +
      unpaid (table.map Prod.fst) money = money := by
  induction table generalizing money with
  | nil => simp [coinPlan, unpaid]
  | cons entry rest ih =>
    obtain ⟨worth, id⟩ := entry
    have head : worthOf id = worth := coined (worth, id) mem_cons_self
    have later := ih (fun entry member => coined entry (mem_cons_of_mem _ member)) (money % worth)
    have whole := Nat.div_add_mod money worth
    have value : ((stacksOf 100 (money / worth)).map (fun count => worth * count)).sum =
        worth * (money / worth) := by
      rw [sum_map_mul_left, map_id', sum_stacksOf]
    simp only [coinPlan, map_append, map_map, Function.comp_def, sum_append, head, value,
      map_cons, unpaid]
    omega

/-- What the truncated coin numbers leave unpaid. -/
def leftover : List (Nat × Nat) → Nat → Nat
  | [], money => money
  | (worth, _) :: rest, money => leftover rest (money - (money / worth) % 2 ^ 32 * worth)

private theorem leftover_pos (descending : table.Pairwise (fun larger smaller => smaller.1 < larger.1))
    (positive : ∀ entry ∈ table, 0 < entry.1) (below : ∀ entry ∈ table, entry.1 ≤ bound)
    (nonzero : 0 < bound) (large : 2 ^ 32 * bound ≤ money) : 0 < leftover table money := by
  induction table generalizing bound money with
  | nil => simp only [leftover]; omega
  | cons entry rest ih =>
    obtain ⟨worth, id⟩ := entry
    have worthPositive : 0 < worth := positive (worth, id) (by simp)
    have worthBelow : worth ≤ bound := below (worth, id) (by simp)
    obtain ⟨smaller, restDescending⟩ := pairwise_cons.mp descending
    apply ih restDescending (fun entry member => positive entry (by simp [member]))
      (fun entry member => Nat.le_of_lt (smaller entry member)) worthPositive
    -- at least 2 ^ 32 coins of this worth stay unpaid
    have many : 2 ^ 32 ≤ money / worth := by
      rw [Nat.le_div_iff_mul_le worthPositive]
      exact Nat.le_trans (Nat.mul_le_mul_left _ worthBelow) large
    have dropped : 2 ^ 32 + (money / worth) % 2 ^ 32 ≤ money / worth := by omega
    have product := Nat.mul_le_mul_right worth dropped
    have whole := Nat.div_mul_le_self money worth
    rw [Nat.add_mul] at product
    omega

theorem payable_of_leftover (descending : table.Pairwise (fun larger smaller => smaller.1 < larger.1))
    (positive : ∀ entry ∈ table, 0 < entry.1)
    (ended : payCurrencies handOut fuel table money state = some result)
    (nothing : leftover table money = 0) : Payable table money := by
  induction table generalizing money state with
  | nil => simp [Payable, greedy]
  | cons entry rest ih =>
    obtain ⟨worth, id⟩ := entry
    have worthPositive : 0 < worth := positive (worth, id) (by simp)
    obtain ⟨smaller, restDescending⟩ := pairwise_cons.mp descending
    have restPositive : ∀ entry ∈ rest, 0 < entry.1 :=
      fun entry member => positive entry (by simp [member])
    have fits : money / worth < 2 ^ 32 := by
      apply Nat.lt_of_not_le
      intro many
      have large : 2 ^ 32 * worth ≤ money := (Nat.le_div_iff_mul_le worthPositive).mp many
      have below : ∀ entry ∈ (worth, id) :: rest, entry.1 ≤ worth := by
        intro entry member
        rcases mem_cons.mp member with rfl | later
        · exact Nat.le_refl _
        · exact Nat.le_of_lt (smaller entry later)
      have remains := leftover_pos descending positive below worthPositive large
      omega
    have cut : (money / worth) % 2 ^ 32 = money / worth := Nat.mod_eq_of_lt fits
    have left : money - money / worth * worth = money % worth := by
      rw [Nat.mul_comm, ← Nat.mod_eq_sub_mul_div]
    simp only [payCurrencies, leftover, cut, left] at ended nothing
    apply payable_cons.mpr
    by_cases none : money / worth ≤ 0
    · have kept : money % worth = money := by
        rw [← left, Nat.le_zero.mp none, Nat.zero_mul, Nat.sub_zero]
      rw [if_pos none] at ended
      rw [kept] at nothing ⊢
      exact ⟨by omega, ih restDescending restPositive ended nothing⟩
    · rw [if_neg none] at ended
      cases paid : payCoins handOut id fuel (money / worth) state with
      | none => simp [paid] at ended
      | some next =>
        rw [paid] at ended
        exact ⟨(payCoins_sound handOut paid).1, ih restDescending restPositive ended nothing⟩

end

section
variable (items : ItemTypes) (normalRandom : Nat → Nat → Int)

/-- The coin items that `addMoney` creates, in order. -/
def mintCoin (created : List Item) (id count : Nat) : List Item :=
  created ++ (Item.createItem items normalRandom id count).toList

def coinWorth (coins : List Item) : Nat :=
  (coins.map (fun coin => coin.count * (items.get coin.id).worth)).sum

theorem mintCoin_eq {id count : Nat} (stackable : (items.get id).stackable = true) (bounds : 1 ≤ count ∧ count ≤ 100)
    (created : List Item) : ∃ coin, mintCoin items normalRandom created id count = created ++ [coin] ∧
      coin.id = id ∧ coin.count = count := by
  obtain ⟨attributes, made⟩ := Item.createItem_stackable items normalRandom stackable count
  have positive : count ≠ 0 := by omega
  refine ⟨_, by simp only [mintCoin, made, Option.toList]; rfl, rfl, ?_⟩
  simp only [positive, if_false, toUInt8]
  omega

theorem mintCoin_foldl {id : Nat} (stackable : (items.get id).stackable = true) (counts : List Nat)
    (bounds : ∀ count ∈ counts, 1 ≤ count ∧ count ≤ 100) (created : List Item) :
    ∃ coins, counts.foldl (mintCoin items normalRandom · id ·) created = created ++ coins ∧
      coinWorth items coins = counts.sum * (items.get id).worth ∧
      ∀ coin ∈ coins, 1 ≤ coin.count ∧ coin.count ≤ 100 := by
  induction counts generalizing created with
  | nil => exact ⟨[], by simp [coinWorth]⟩
  | cons count rest ih =>
    have bound := bounds count (by simp)
    obtain ⟨coin, minted, kind, size⟩ := mintCoin_eq items normalRandom stackable bound created
    obtain ⟨coins, later, worth, laterBounds⟩ :=
      ih (fun count member => bounds count (by simp [member])) (created ++ [coin])
    refine ⟨coin :: coins, ?_, ?_, ?_⟩
    · rw [foldl_cons, minted, later, append_assoc]
      rfl
    · simp only [coinWorth, map_cons, sum_cons, kind, size] at worth ⊢
      rw [worth, Nat.add_mul]
    · intro other member
      rcases mem_cons.mp member with rfl | old
      · rw [size]; exact bound
      · exact laterBounds other old

theorem payCurrencies_worth (coined : ∀ entry ∈ table,
      (items.get entry.2).stackable = true ∧ (items.get entry.2).worth = entry.1)
    (ended : payCurrencies (mintCoin items normalRandom) fuel table money created = some result) :
    ∃ coins, result = created ++ coins ∧
      coinWorth items coins + leftover table money = money ∧
      ∀ coin ∈ coins, 1 ≤ coin.count ∧ coin.count ≤ 100 := by
  induction table generalizing money created with
  | nil => exact ⟨[], by simpa [payCurrencies, coinWorth, leftover] using ended.symm⟩
  | cons entry rest ih =>
    obtain ⟨worth, id⟩ := entry
    obtain ⟨stackable, kind⟩ := coined (worth, id) (by simp)
    have restCoined : ∀ entry ∈ rest,
        (items.get entry.2).stackable = true ∧ (items.get entry.2).worth = entry.1 :=
      fun entry member => coined entry (by simp [member])
    simp only [payCurrencies] at ended
    by_cases none : (money / worth) % 2 ^ 32 ≤ 0
    · rw [if_pos none] at ended
      have zero := Nat.le_zero.mp none
      simpa only [leftover, zero, Nat.zero_mul, Nat.sub_zero] using ih restCoined ended
    · rw [if_neg none] at ended
      cases paid : payCoins (mintCoin items normalRandom) id fuel ((money / worth) % 2 ^ 32) created with
      | none => rw [paid] at ended; cases ended
      | some next =>
        rw [paid] at ended
        obtain ⟨_, rfl⟩ := payCoins_sound _ paid
        obtain ⟨coins, minted, value, bounds⟩ := mintCoin_foldl items normalRandom stackable _
          (fun count member => stacksOf_bounds (by omega) member) created
        rw [minted] at ended
        obtain ⟨later, rfl, laterValue, laterBounds⟩ := ih restCoined ended
        refine ⟨coins ++ later, append_assoc _ _ _, ?_, ?_⟩
        · have covered : (money / worth) % 2 ^ 32 * worth ≤ money :=
            Nat.le_trans (Nat.mul_le_mul_right _ (Nat.mod_le _ _)) (Nat.div_mul_le_self _ _)
          simp only [kind, sum_stacksOf] at value
          simp only [coinWorth, leftover, map_append, sum_append] at value laterValue ⊢
          omega
        · intro coin member
          rcases mem_append.mp member with old | new
          · exact bounds coin old
          · exact laterBounds coin new

end

/-- A currency table as the claim of exact payment needs it: distinct positive
worths in descending order, down to 1. -/
structure CurrencyTable (table : List (Nat × Nat)) : Prop where
  descending : table.Pairwise (fun larger smaller => smaller.1 < larger.1)
  positive : ∀ entry ∈ table, 0 < entry.1
  unit : ∃ id, (1, id) ∈ table

/-- `addMoney` ends, and the coins it creates are worth the amount, in stacks of
1 to 100. -/
def PaysExactly (items : ItemTypes) (normalRandom : Nat → Nat → Int) (money : Nat) : Prop :=
  ∃ fuel coins, addMoney (mintCoin items normalRandom) items fuel money [] = some coins ∧
    coinWorth items coins = money ∧ ∀ coin ∈ coins, 1 ≤ coin.count ∧ coin.count ≤ 100

/-- Numbers of coins that fit into 32 bits are not truncated. -/
theorem leftover_eq_unpaid (fits : ∀ coins ∈ greedy (table.map Prod.fst) money, coins < 2 ^ 32) :
    leftover table money = unpaid (table.map Prod.fst) money := by
  induction table generalizing money with
  | nil => rfl
  | cons entry rest ih =>
    obtain ⟨worth, id⟩ := entry
    have small : money / worth < 2 ^ 32 := fits _ (by simp [greedy])
    have later : ∀ coins ∈ greedy (rest.map Prod.fst) (money % worth), coins < 2 ^ 32 :=
      fun coins listed => fits coins (by simp [greedy, listed])
    have cut : (money / worth) % 2 ^ 32 = money / worth := Nat.mod_eq_of_lt small
    have left : money - money / worth * worth = money % worth := by
      rw [Nat.mul_comm, ← Nat.mod_eq_sub_mul_div]
    simp only [leftover, cut, left, map_cons, unpaid]
    exact ih later

theorem leftover_eq_zero {id : Nat} (payable : Payable table money) (unit : (1, id) ∈ table) :
    leftover table money = 0 := by
  rw [leftover_eq_unpaid (fun coins listed => Nat.lt_trans (payable coins listed) (by decide))]
  exact unpaid_eq_zero_of_one_mem (mem_map.mpr ⟨_, unit, rfl⟩) money

/-- An amount below `2 ^ 32` that is handed out to the end is payable. -/
theorem payable_of_addMoney {State : Type} {handOut : State → Nat → Nat → State} {items : ItemTypes}
    {fuel money : Nat} {state result : State} (table : CurrencyTable items.currencyItems)
    (small : money < 2 ^ 32) (ended : addMoney handOut items fuel money state = some result) :
    Payable items.currencyItems money := by
  unfold addMoney at ended
  by_cases zero : money = 0
  · rw [zero]
    exact payable_zero _
  · rw [if_neg zero] at ended
    obtain ⟨id, unit⟩ := table.unit
    refine payable_of_leftover handOut table.descending table.positive ended ?_
    rw [leftover_eq_unpaid (fun coins listed => Nat.lt_of_le_of_lt (le_of_mem_greedy listed) small)]
    exact unpaid_eq_zero_of_one_mem (mem_map.mpr ⟨_, unit, rfl⟩) money

/-- `Game::addMoney` pays an amount exactly just when every number of coins of the
greedy payment is below 65536. -/
theorem paysExactly_iff_payable {items : ItemTypes} (table : CurrencyTable items.currencyItems)
    (normalRandom : Nat → Nat → Int) (money : UInt64) :
    PaysExactly items normalRandom money.toNat ↔ Payable items.currencyItems money.toNat := by
  constructor
  · rintro ⟨fuel, coins, ended, worth, _⟩
    unfold addMoney at ended
    by_cases zero : money.toNat = 0
    · rw [zero]
      exact payable_zero _
    · rw [if_neg zero] at ended
      obtain ⟨created, same, value, _⟩ :=
        payCurrencies_worth items normalRandom items.currency_type ended
      rw [nil_append] at same
      subst same
      exact payable_of_leftover _ table.descending table.positive ended (by omega)
  · intro payable
    have paid := addMoney_eq (mintCoin items normalRandom) payable (Nat.le_refl _) []
    obtain ⟨id, unit⟩ := table.unit
    unfold PaysExactly
    by_cases zero : money.toNat = 0
    · exact ⟨0, [], by simp [addMoney, zero], by simp [coinWorth, zero], by simp⟩
    · have ended := paid
      rw [addMoney, if_neg zero] at ended
      obtain ⟨created, same, value, bounds⟩ :=
        payCurrencies_worth items normalRandom items.currency_type ended
      rw [leftover_eq_zero payable unit, Nat.add_zero] at value
      rw [nil_append] at same
      rw [same] at paid
      exact ⟨_, created, paid, value, bounds⟩

theorem gameItems_currencyTable : CurrencyTable gameItems.currencyItems where
  descending := by decide
  positive := by decide
  unit := ⟨2148, by decide⟩

theorem paysExactly_iff_payable_gameItems :
    PaysExactly gameItems (fun _ _ => 0) 123456 ↔ Payable gameItems.currencyItems 123456 :=
  paysExactly_iff_payable gameItems_currencyTable (fun _ _ => 0) 123456

/-- 65536 crystal coins are never paid out: their number is 0 in 16 bits. -/
theorem not_paysExactly_crystals :
    CurrencyTable gameItems.currencyItems ∧ ¬ PaysExactly gameItems (fun _ _ => 0) 655360000 := by
  refine ⟨gameItems_currencyTable, ?_⟩
  rintro ⟨fuel, coins, ended, _⟩
  have first : payCoins (mintCoin gameItems (fun _ _ => 0)) 2160 fuel 65536 [] = none :=
    payCoins_endless _ 2160 (by omega) fuel []
  have stuck : addMoney (mintCoin gameItems (fun _ _ => 0)) gameItems fuel 655360000 [] = none := by
    simp [addMoney, payCurrencies, first]
  rw [stuck] at ended
  cases ended

end Styller
