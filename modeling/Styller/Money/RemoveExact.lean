import Styller.Money.Coins

/-! `Game::removeMoney` takes exactly the amount, change included. -/

namespace Styller

open Library Layout List

/-- What `addMoney` relies on: a currency table down to 1, whose coins lie in stacks of 100. -/
structure ItemTypes.Mint (items : ItemTypes) : Prop where
  table : CurrencyTable items.currencyItems
  stackSize : ∀ entry ∈ items.currencyItems, 100 ≤ (items.get entry.2).stackSize

namespace Game

variable (env : Env) (game : Game)

def takeWhole (ptr : ItemPtr) : Game := (game.internalRemoveItem env ptr (-1) false CylinderFlags.none).2

/-- Some coins of a stack are taken. -/
def takePart (part : ItemPtr × Nat) : Game :=
  (game.internalRemoveItem env part.1 part.2 false CylinderFlags.none).2

/-- The stack that is split, if there is one, is reduced. -/
def takeRest : Option (ItemPtr × Nat) → Game
  | none => game
  | some part => game.takePart env part

/-- What the reduction takes. -/
def restWorth : Option (ItemPtr × Nat) → Nat
  | none => 0
  | some part => (env.items.get (game.items part.1).id).worth * part.2

/-- Stacks of coins are handed out in turn. -/
def payAll (cylinder : Cylinder) (flags : CylinderFlags) (change : List (Nat × Nat)) : Game :=
  change.foldl (fun game stack => game.payOut env cylinder flags stack.1 stack.2) game

def entryStacks (entries : List (Nat × ItemPtr)) : List (Nat × Nat) :=
  entries.map (fun entry => ((env.items.get (game.items entry.2).id).worth, (game.items entry.2).count))

def coinStacks (cylinder : Cylinder) : List (Nat × Nat) :=
  game.entryStacks env (game.moneyMap env (game.coinsOf env cylinder))

/-- Whole stacks have been taken, change has been handed out and a stack has been split,
and what the cylinder has lost by the taking is the amount and the change. -/
def Taken (cylinder : Cylinder) (money : Nat) (flags : CylinderFlags) (after : Game) : Prop :=
  ∃ (whole : List ItemPtr) (change : List (Nat × Nat)) (split : Option (ItemPtr × Nat)),
    let taken := whole.foldl (takeWhole env) game
    let paid := taken.payAll env cylinder flags change
    let purse := fun state : Game => state.layout.purse env.items (game.stores cylinder)
    after = paid.takeRest env split ∧
    purse game + purse paid = purse taken + purse after + money +
      (change.map (fun stack => (env.items.get stack.1).worth * stack.2)).sum

/-- `removeMoney` ends; a refusal changes nothing, what is there is enough, and otherwise
exactly the amount is taken. -/
def RemovesExactly (cylinder : Cylinder) (money : Nat) (flags : CylinderFlags) : Prop :=
  ∃ fuel ret after, game.removeMoney env cylinder money flags fuel = some (ret, after) ∧
    (ret = false → after = game) ∧
    (money ≤ game.moneyIn env cylinder → ret = true) ∧
    (ret = true → game.Taken env cylinder money flags after)

/-- No stack is worth more than 32 bits hold, and all together not more than 64. -/
structure Untruncated (cylinder : Cylinder) : Prop where
  stack : ∀ holder ∈ game.stores cylinder, ∀ ptr ∈ game.contents holder, game.fullWorth env ptr < 2 ^ 32
  total : game.moneyIn env cylinder < 2 ^ 64

/-- An entry of the coin map: a stack that one of the holders has, with its worth. -/
structure Coin (holders : Finset Cylinder) (entry : Nat × ItemPtr) : Prop where
  held : ∃ holder ∈ holders, entry.2 ∈ game.contents holder
  worth : entry.1 = game.fullWorth env entry.2
  positive : 0 < entry.1
  whole : entry.1 < 2 ^ 32

/-- What is left to be done once the whole stacks are taken: `change` is owed, and a part of
one stack is to be taken, so that all that is taken is the amount and the change. -/
structure Owing (holders : Finset Cylinder) (taken : Game) (money change : Nat)
    (split : Option (ItemPtr × Nat)) : Prop where
  sound : taken.layout.Sound env.items
  small : change < 2 ^ 32
  part : ∀ part, split = some part →
    (∃ holder ∈ holders, part.1 ∈ taken.contents holder) ∧ 0 < part.2 ∧
      part.2 ≤ (taken.items part.1).count ∧ change < (env.items.get (taken.items part.1).id).worth
  balance : game.layout.purse env.items holders + taken.restWorth env split =
    taken.layout.purse env.items holders + money + change

section
variable {env game} {holders : Finset Cylinder} {entry : Nat} {ptr : ItemPtr}

theorem Coin.worth_ne (coin : game.Coin env holders (entry, ptr)) :
    (env.items.get (game.items ptr).id).worth ≠ 0 ∧ 0 < (game.items ptr).count := by
  have positive : 0 < game.fullWorth env ptr := coin.worth ▸ coin.positive
  unfold fullWorth at positive
  exact ⟨Nat.pos_iff_ne_zero.mp (Nat.pos_of_mul_pos_right positive), Nat.pos_of_mul_pos_left positive⟩

theorem Coin.stackable (coin : game.Coin env holders (entry, ptr)) :
    (game.items ptr).isStackable env.items = true :=
  (env.items.currency_type _ (env.items.worth_currency _ coin.worth_ne.1)).1

/-- Taking some coins of a stack, or all. -/
theorem takePart_purse (mint : env.items.Mint) (sound : game.layout.Sound env.items) {holder : Cylinder}
    (listed : holder ∈ holders) (member : ptr ∈ game.contents holder)
    (worth : (env.items.get (game.items ptr).id).worth ≠ 0) {size : Nat} (positive : 0 < size)
    (enough : size ≤ (game.items ptr).count) :
    (game.takePart env (ptr, size)).layout.purse env.items holders +
      (env.items.get (game.items ptr).id).worth * size = game.layout.purse env.items holders := by
  have stackable : (game.items ptr).isStackable env.items = true :=
    (env.items.currency_type _ (env.items.worth_currency _ worth)).1
  have asked : (if (size : Int) = -1 then ((game.items ptr).count : Int) else size) = size :=
    if_neg (by omega)
  exact (internalRemoveItem_stack sound member stackable asked positive enough).purse mint.table worth listed

/-- Taking a whole stack leaves every other one as it is. -/
theorem takeWhole_coin (mint : env.items.Mint) (sound : game.layout.Sound env.items)
    (coin : game.Coin env holders (entry, ptr)) :
    (game.takeWhole env ptr).layout.Sound env.items ∧
      (game.takeWhole env ptr).layout.purse env.items holders + entry = game.layout.purse env.items holders ∧
      ∀ other : Nat × ItemPtr, other.2 ≠ ptr → game.Coin env holders other →
        (game.takeWhole env ptr).Coin env holders other ∧
          ((game.takeWhole env ptr).items other.2).id = (game.items other.2).id ∧
          ((game.takeWhole env ptr).items other.2).count = (game.items other.2).count := by
  obtain ⟨holder, listed, member⟩ := coin.held
  obtain ⟨worth, positive⟩ := coin.worth_ne
  have asked : (if (-1 : Int) = -1 then ((game.items ptr).count : Int) else -1) = (game.items ptr).count :=
    if_pos rfl
  have reduced := internalRemoveItem_stack sound member coin.stackable asked positive (Nat.le_refl _)
  refine ⟨reduced.sound, ?_, ?_⟩
  · have taken := reduced.purse mint.table worth listed
    have same : entry = (env.items.get (game.layout.id ptr)).worth * (game.items ptr).count := coin.worth
    rw [same]
    exact taken
  · intro other different coin
    obtain ⟨holder, listed, member⟩ := coin.held
    have id : ((game.takeWhole env ptr).items other.2).id = (game.items other.2).id := congrFun reduced.id other.2
    have count : ((game.takeWhole env ptr).items other.2).count = (game.items other.2).count :=
      reduced.count other.2 different
    refine ⟨⟨⟨holder, listed, (reduced.others holder other.2 different).mpr member⟩, ?_, coin.positive,
      coin.whole⟩, id, count⟩
    rw [coin.worth, fullWorth, fullWorth, id, count]

/-- The split pays the rest of the amount with coins of the stack, and the change is the
difference, without any cut. -/
theorem splitChange_eq {worth money : Nat} {number : Nat} (less : money < worth * number)
    (small : worth * number < 2 ^ 32) :
    splitChange worth money = worth * covering worth money - money := by
  have positive : 0 < worth := Nat.pos_of_mul_pos_right (Nat.zero_lt_of_lt less)
  have enough := (covering_spec money positive).1
  have few := Nat.mul_le_mul_left worth (covering_le less)
  have cut : toUInt32 ((worth : Int) * splitCount worth money) = worth * covering worth money := by
    change toUInt32 ((worth : Int) * (covering worth money : Nat)) = _
    rw [← Int.natCast_mul, toUInt32]
    omega
  unfold splitChange
  rw [cut]
  omega

end

section
variable {env} {holders : Finset Cylinder} (cylinder : Cylinder) (flags : CylinderFlags)

theorem takeMoney_owing (mint : env.items.Mint) {entries : List (Nat × ItemPtr)} {game : Game} {money : Nat}
    (sound : game.layout.Sound env.items) (coins : ∀ entry ∈ entries, game.Coin env holders entry)
    (distinct : (entries.map Prod.snd).Nodup) (positive : 0 < money)
    (enough : money ≤ (entries.map Prod.fst).sum) :
    ∃ (whole : List ItemPtr) (split : Option (ItemPtr × Nat)),
      game.Owing env holders (whole.foldl (takeWhole env) game) money
        (changeOf (game.entryStacks env entries) money) split ∧
      ∀ fuel, takeMoney env cylinder flags fuel entries money game =
        (addMoney (fun game id count => game.payOut env cylinder flags id count) env.items fuel
          (changeOf (game.entryStacks env entries) money) (whole.foldl (takeWhole env) game)).map
            (fun paid => paid.takeRest env split) := by
  induction entries generalizing game money with
  | nil =>
    simp only [map_nil, sum_nil] at enough
    omega
  | cons first rest ih =>
    obtain ⟨entry, ptr⟩ := first
    have coin := coins (entry, ptr) mem_cons_self
    have later : ∀ other ∈ rest, game.Coin env holders other :=
      fun other listed => coins other (mem_cons_of_mem _ listed)
    obtain ⟨fresh, restDistinct⟩ := nodup_cons.mp distinct
    have different : ∀ other ∈ rest, other.2 ≠ ptr :=
      fun other listed same => fresh (mem_map.mpr ⟨other, listed, same⟩)
    obtain ⟨soundAfter, taken, others⟩ := takeWhole_coin mint sound coin
    have worth : entry = (env.items.get (game.items ptr).id).worth * (game.items ptr).count := coin.worth
    -- the other stacks are the same when this one is gone
    have same : (game.takeWhole env ptr).entryStacks env rest = game.entryStacks env rest := by
      apply map_congr_left
      intro other listed
      obtain ⟨_, id, count⟩ := others other (different other listed) (later other listed)
      rw [id, count]
    have piles : game.entryStacks env ((entry, ptr) :: rest) =
        ((env.items.get (game.items ptr).id).worth, (game.items ptr).count) :: game.entryStacks env rest := rfl
    simp only [map_cons, sum_cons] at enough
    simp only [piles, changeOf, takeMoney, ← worth]
    rcases Nat.lt_trichotomy entry money with less | equal | more
    · obtain ⟨whole, split, owing, run⟩ := @ih (game.takeWhole env ptr) (money - entry) soundAfter
        (fun other listed => (others other (different other listed) (later other listed)).1) restDistinct
        (by omega) (by omega)
      rw [same] at owing run
      refine ⟨ptr :: whole, split, ?_, ?_⟩
      · rw [if_pos (Nat.le_of_lt less)]
        refine ⟨owing.sound, owing.small, owing.part, ?_⟩
        have balance := owing.balance
        simp only [foldl_cons]
        omega
      · intro fuel
        rw [if_pos (Nat.le_of_lt less), if_pos less]
        exact run fuel
    · have due : changeOf (game.entryStacks env rest) 0 = 0 := by
        apply changeOf_zero
        intro stack listed
        obtain ⟨other, inRest, rfl⟩ := mem_map.mp listed
        have coin := later other inRest
        have positive : 0 < game.fullWorth env other.2 := coin.worth ▸ coin.positive
        exact positive
      rw [if_pos (Nat.le_of_eq equal), equal, Nat.sub_self, due]
      refine ⟨[ptr], none, ⟨soundAfter, by decide, ?_, ?_⟩, ?_⟩
      · intro part absent
        cases absent
      · simp only [foldl_cons, foldl_nil, restWorth]
        omega
      · intro fuel
        simp [addMoney, takeWhole, takeRest]
    · obtain ⟨holder, listed, member⟩ := coin.held
      obtain ⟨worthPositive, counted⟩ := coin.worth_ne
      have worthPositive := Nat.pos_of_ne_zero worthPositive
      have whole := coin.whole
      simp only at whole
      have unit : entry / (game.items ptr).count = (env.items.get (game.items ptr).id).worth := by
        rw [worth, Nat.mul_div_cancel _ counted]
      have notLess : ¬ entry < money := by omega
      have notLe : ¬ entry ≤ money := by omega
      have less : money < (env.items.get (game.items ptr).id).worth * (game.items ptr).count := worth ▸ more
      have spec := covering_spec money worthPositive
      have few := covering_le less
      have owed := splitChange_eq less (worth ▸ whole)
      refine ⟨[], some (ptr, covering (env.items.get (game.items ptr).id).worth money), ⟨sound, ?_, ?_, ?_⟩, ?_⟩
      · have bound := Nat.mul_le_mul_left (env.items.get (game.items ptr).id).worth few
        rw [if_neg notLe]
        omega
      · rintro part same
        cases same
        rw [if_neg notLe]
        exact ⟨⟨holder, listed, member⟩, covering_pos worthPositive positive, few,
          by simp only [foldl_nil]; omega⟩
      · rw [if_neg notLe]
        simp only [foldl_nil, restWorth]
        omega
      · intro fuel
        rw [if_neg notLe, if_neg notLess, if_pos more, unit, owed]
        rfl

/-- When the change can be handed out, the loop takes exactly the amount. -/
theorem takeMoney_taken (mint : env.items.Mint) (gentle : env.Gentle) {entries : List (Nat × ItemPtr)}
    {game : Game} {money : Nat} (sound : game.layout.Sound env.items)
    (coins : ∀ entry ∈ entries, game.Coin env (game.stores cylinder) entry)
    (distinct : (entries.map Prod.snd).Nodup) (positive : 0 < money)
    (enough : money ≤ (entries.map Prod.fst).sum)
    (payable : Payable env.items.currencyItems (changeOf (game.entryStacks env entries) money)) {fuel : Nat}
    (fueled : 65536 ≤ fuel) :
    ∃ after, takeMoney env cylinder flags fuel entries money game = some after ∧
      game.Taken env cylinder money flags after := by
  obtain ⟨whole, split, owing, run⟩ :=
    takeMoney_owing cylinder flags mint sound coins distinct positive enough
  generalize changeOf (game.entryStacks env entries) money = change at *
  have paid := addMoney_eq (fun game id count => game.payOut env cylinder flags id count) payable fueled
    (whole.foldl (takeWhole env) game)
  refine ⟨_, by rw [run, paid]; rfl, whole, coinPlan env.items.currencyItems change, split, rfl, ?_⟩
  have worth : ((coinPlan env.items.currencyItems change).map
      (fun stack => (env.items.get stack.1).worth * stack.2)).sum = change := by
    obtain ⟨id, unit⟩ := mint.table.unit
    have planned := sum_coinPlan (fun id => (env.items.get id).worth)
      (fun entry listed => (env.items.currency_type entry listed).2) change
    rwa [unpaid_eq_zero_of_one_mem (mem_map.mpr ⟨_, unit, rfl⟩), Nat.add_zero] at planned
  have balance := owing.balance
  rw [worth]
  cases split with
  | none =>
    simp only [restWorth] at balance
    simp only [takeRest, payAll]
    omega
  | some part =>
    obtain ⟨⟨holder, listed, member⟩, some, few, less⟩ := owing.part part rfl
    -- the change is worth less than a coin of the stack that is split
    have smaller : ∀ stack ∈ coinPlan env.items.currencyItems change,
        (env.items.get stack.1).stackable = true ∧ stack.2 ≤ (env.items.get stack.1).stackSize ∧ 0 < stack.2 ∧
          stack.1 ≠ ((whole.foldl (takeWhole env) game).items part.1).id := by
      intro stack planned
      obtain ⟨bounds, entry, inTable, same, cheap⟩ := mem_coinPlan planned
      obtain ⟨stackable, coined⟩ := env.items.currency_type entry inTable
      have room := mint.stackSize entry inTable
      rw [← same]
      refine ⟨stackable, by omega, by omega, ?_⟩
      intro equal
      rw [← equal, coined] at less
      omega
    obtain ⟨paidSound, there, id, more⟩ :=
      payOut_foldl_kept cylinder flags gentle _ owing.sound member smaller
    have worthLeft : (env.items.get ((whole.foldl (takeWhole env) game).items part.1).id).worth ≠ 0 := by omega
    have reduced := takePart_purse mint paidSound listed there (by rw [id]; exact worthLeft) some
      (Nat.le_trans few more)
    rw [id] at reduced
    simp only [restWorth] at balance
    simp only [takeRest, payAll]
    change (takePart env _ part).layout.purse _ _ + _ = _ at reduced
    omega

end

section

theorem emplace_perm (entry : Nat × ItemPtr) (map : List (Nat × ItemPtr)) :
    (emplace entry map).Perm (entry :: map) := by
  induction map with
  | nil => exact List.Perm.refl _
  | cons other rest ih =>
    unfold emplace
    split
    · exact (ih.cons other).trans (List.Perm.swap entry other rest)
    · exact List.Perm.refl _

theorem moneyMap_perm (coins : List ItemPtr) :
    (game.moneyMap env coins).Perm (coins.map (fun ptr => ((game.items ptr).getWorth env.items, ptr))) := by
  have folded : ∀ map, (coins.foldl (fun map ptr => emplace ((game.items ptr).getWorth env.items, ptr) map) map).Perm
      (coins.map (fun ptr => ((game.items ptr).getWorth env.items, ptr)) ++ map) := by
    induction coins with
    | nil => exact List.Perm.refl
    | cons ptr rest ih =>
      intro map
      refine (ih _).trans ?_
      refine ((emplace_perm _ map).append_left _).trans ?_
      exact perm_middle
  simpa [moneyMap] using folded []

variable {game} {cylinder : Cylinder} (sound : game.layout.Sound env.items)
  (outermost : game.Outermost cylinder) (untruncated : game.Untruncated env cylinder)
include sound outermost untruncated

theorem getWorth_eq {ptr : ItemPtr} (found : ptr ∈ game.coinsOf env cylinder) :
    (game.items ptr).getWorth env.items = game.fullWorth env ptr := by
  obtain ⟨_, holder, listed, member⟩ := mem_coinsOf env sound outermost found
  exact Nat.mod_eq_of_lt (untruncated.stack holder listed ptr member)

/-- The coins that are found are counted in full. -/
theorem sum_getWorth (table : CurrencyTable env.items.currencyItems) :
    ((game.coinsOf env cylinder).map (fun ptr => (game.items ptr).getWorth env.items)).sum =
      game.moneyIn env cylinder := by
  rw [moneyIn_eq env sound outermost table untruncated.stack]
  exact congrArg List.sum (map_congr_left (fun ptr found => getWorth_eq env sound outermost untruncated found))

theorem moneyCount_eq (table : CurrencyTable env.items.currencyItems) :
    game.moneyCount env (game.coinsOf env cylinder) = game.moneyIn env cylinder := by
  rw [moneyCount, sum_getWorth env sound outermost untruncated table]
  exact Nat.mod_eq_of_lt untruncated.total

theorem moneyMap_coin : ∀ entry ∈ game.moneyMap env (game.coinsOf env cylinder),
    game.Coin env (game.stores cylinder) entry := by
  intro entry listed
  obtain ⟨ptr, found, rfl⟩ := mem_map.mp ((moneyMap_perm env game _).mem_iff.mp listed)
  obtain ⟨money, holder, inStores, member⟩ := mem_coinsOf env sound outermost found
  have worth : (game.items ptr).getWorth env.items ≠ 0 := by
    simp only [isMoney, Bool.and_eq_true, decide_eq_true_eq] at money
    exact money.2
  exact ⟨⟨holder, inStores, member⟩, getWorth_eq env sound outermost untruncated found,
    Nat.pos_of_ne_zero worth, Nat.mod_lt _ (by decide)⟩

omit untruncated in
theorem moneyMap_distinct : ((game.moneyMap env (game.coinsOf env cylinder)).map Prod.snd).Nodup := by
  have perm := (moneyMap_perm env game (game.coinsOf env cylinder)).map Prod.snd
  rw [perm.nodup_iff, map_map]
  simpa [Function.comp_def] using coinsOf_nodup env sound outermost

theorem sum_moneyMap (table : CurrencyTable env.items.currencyItems) :
    ((game.moneyMap env (game.coinsOf env cylinder)).map Prod.fst).sum = game.moneyIn env cylinder := by
  have perm := (moneyMap_perm env game (game.coinsOf env cylinder)).map Prod.fst
  rw [perm.sum_eq, map_map]
  exact sum_getWorth env sound outermost untruncated table

/-- `removeMoney` with enough fuel for the search. -/
theorem removeMoney_eq (table : CurrencyTable env.items.currencyItems) (flags : CylinderFlags) {money fuel : Nat}
    (nonzero : money ≠ 0) (fueled : game.findMoney env fuel cylinder = some (game.coinsOf env cylinder)) :
    game.removeMoney env cylinder money flags fuel =
      if game.moneyIn env cylinder < money then some (false, game)
      else (takeMoney env cylinder flags fuel (game.moneyMap env (game.coinsOf env cylinder)) money game).map
        (true, ·) := by
  simp only [removeMoney, if_neg nonzero, fueled, moneyCount_eq env sound outermost untruncated table]

end

/-- 50 gold coins, and a backpack with three platinum coins. -/
def changeGame : Game :=
  ofTables
    [{ id := 1988, kind := .container, maxSize := 20, itemlist := [1], parent := some (.player 1) },
     { id := 2152, count := 3, parent := some (.item 0) },
     { id := 2148, count := 50, parent := some (.player 1) },
     { id := 103, parent := some (.tile ⟨100, 100, 7⟩) }]
    [(1, { inventory := fun slot => if slot = 3 then some 0 else if slot = 10 then some 2 else none,
           capacity := 40000, tile := some ⟨100, 100, 7⟩ })]
    [(⟨100, 100, 7⟩, { ground := some 3 })]

theorem gentle_of_calm {items : ItemTypes} : ({ items } : Env).Gentle where
  teleport := fun _ _ _ sound => Kept.refl sound _
  mailbox := fun _ _ _ sound => Kept.refl sound _

/-- A currency with a coin of a million and no other but gold. -/
def steepItems : ItemTypes :=
  ItemTypes.ofList
    [{ id := 2148, weight := 10, worth := 1, stackable := true, pickupable := true, moveable := true },
     { id := 2160, weight := 10, worth := 1000000, stackable := true, pickupable := true, moveable := true }]
    [(1000000, 2160), (1, 2148)] (by decide) (by decide)

def steepEnv : Env := { items := steepItems }

/-- One coin of a million. -/
def steepGame : Game :=
  ofTables [{ id := 2160, parent := some (.player 1) }]
    [(1, { inventory := fun slot => if slot = 10 then some 0 else none, capacity := 40000 })] []

end Game

end Styller
