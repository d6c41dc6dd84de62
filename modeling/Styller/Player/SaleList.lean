import Styller.Library.OrderedMap
import Styller.Player.ItemTypeCount
import Styller.World.Table

/-! The sale list of a shop: counted entry by entry, or taken from the counts of all items. -/

namespace Styller

open Library List Option

/-- The fields of `ShopInfo` that the sale list reads. -/
structure ShopInfo where
  itemId : Nat
  subType : Int := 0
  sellPrice : Nat := 0

/-- Conversion to `int8_t`. -/
def toInt8 (number : Int) : Int := (Int8.ofInt number).toInt

namespace ItemType

def hasSubType (it : ItemType) : Bool := it.isFluidContainer || it.isSplash || it.stackable || it.charges ≠ 0

/-- The types with a subtype that are no stacks and hold no fluid. -/
def isCharged (it : ItemType) : Bool := it.charges ≠ 0 && !(it.isFluidContainer || it.isSplash || it.stackable)

end ItemType

/-- `subtype` in `sendSaleItemList`. -/
def ShopInfo.subtype (items : ItemTypes) (shopInfo : ShopInfo) : Int :=
  let itemType := items.get shopInfo.itemId
  if itemType.hasSubType && !itemType.stackable then toInt8 (if shopInfo.subType = 0 then -1 else shopInfo.subType) else -1

namespace Game

section
variable (env : Env) (game : Game) (id : PlayerId)

/-- `Player::getAllItemTypeCount` -/
def getAllItemTypeCount (countMap : OrderedMap Nat) : OrderedMap Nat :=
  (game.inventoryItems id).foldl (fun countMap ptr =>
    countMap.set (game.items ptr).id
      (((countMap.find (game.items ptr).id).getD 0 + (game.items ptr).countByType env.items (-1)) % 2 ^ 32)) countMap

/-- An entry of a very small shop. -/
def countEntry (saleMap : OrderedMap Nat) (shopInfo : ShopInfo) : OrderedMap Nat :=
  if shopInfo.sellPrice = 0 then saleMap
  else
    let count := game.getItemTypeCount env id shopInfo.itemId (shopInfo.subtype env.items)
    if count > 0 then saleMap.set shopInfo.itemId count else saleMap

/-- An entry of a large shop, with the counts of all items. -/
def lookUpEntry (tempSaleMap saleMap : OrderedMap Nat) (shopInfo : ShopInfo) : OrderedMap Nat :=
  if shopInfo.sellPrice = 0 then saleMap
  else if shopInfo.subtype env.items ≠ -1 then
    let itemType := env.items.get shopInfo.itemId
    let count :=
      if itemType.isFluidContainer || itemType.isSplash then
        game.getItemTypeCount env id shopInfo.itemId (shopInfo.subtype env.items)
      else toUInt32 (shopInfo.subtype env.items)
    if count > 0 then saleMap.set shopInfo.itemId count else saleMap
  else
    match tempSaleMap.find shopInfo.itemId with
    | some count => if count > 0 then saleMap.set shopInfo.itemId count else saleMap
    | none => saleMap

variable (shop : List ShopInfo)

def smallSaleMap : OrderedMap Nat := shop.foldl (game.countEntry env id) .empty

def largeSaleMap : OrderedMap Nat :=
  shop.foldl (lookUpEntry env game id (game.getAllItemTypeCount env id .empty)) .empty

/-- The items in the message of `ProtocolGame::sendSaleItemList`: their client ids, and how many of them. -/
def sendSaleItemList : List (UInt16 × Nat) :=
  let saleMap := if shop.length ≤ 5 then game.smallSaleMap env id shop else game.largeSaleMap env id shop
  (saleMap.entries.take 255).map fun entry => ((env.items.get entry.1).clientId, min entry.2 255)

end

section
variable (env : Env) (game : Game) (id : PlayerId) (countOf : ShopInfo → Nat)

/-- An entry, by a rule for the counts. -/
def sellEntry (saleMap : OrderedMap Nat) (shopInfo : ShopInfo) : OrderedMap Nat :=
  if shopInfo.sellPrice = 0 then saleMap
  else if countOf shopInfo > 0 then saleMap.set shopInfo.itemId (countOf shopInfo) else saleMap

def sold (itemId : Nat) (shopInfo : ShopInfo) : Bool := shopInfo.sellPrice ≠ 0 && shopInfo.itemId = itemId

def lastCount (itemId : Nat) (shop : List ShopInfo) : Option Nat :=
  (((shop.filter (sold itemId)).map countOf).filter (0 < ·)).getLast?

/-- The items that the player carries with the subtype of the entry. -/
def carriedCount (shopInfo : ShopInfo) : Nat := game.getItemTypeCount env id shopInfo.itemId (shopInfo.subtype env.items)

/-- The charges that the entry names, if it names some, in place of the items that the player carries. -/
def chargesCount (shopInfo : ShopInfo) : Nat :=
  if shopInfo.subtype env.items ≠ -1 then toUInt32 (shopInfo.subtype env.items) else game.carriedCount env id shopInfo

/-- `lookUpEntry`, as a rule for the counts. -/
def tableCount (tempSaleMap : OrderedMap Nat) (shopInfo : ShopInfo) : Nat :=
  let itemType := env.items.get shopInfo.itemId
  if shopInfo.subtype env.items ≠ -1 then
    if itemType.isFluidContainer || itemType.isSplash then game.carriedCount env id shopInfo
    else toUInt32 (shopInfo.subtype env.items)
  else (tempSaleMap.find shopInfo.itemId).getD 0

end

variable {env : Env} {game : Game} {id : PlayerId} {countOf : ShopInfo → Nat}

theorem lastCount_cons (itemId : Nat) (shopInfo : ShopInfo) (shop : List ShopInfo) :
    lastCount countOf itemId (shopInfo :: shop) =
      (lastCount countOf itemId shop).or
        (if sold itemId shopInfo = true ∧ countOf shopInfo > 0 then some (countOf shopInfo) else none) := by
  unfold lastCount
  by_cases here : sold itemId shopInfo = true
  · rw [filter_cons_of_pos here, map_cons]
    by_cases positive : countOf shopInfo > 0
    · rw [filter_cons_of_pos (by simpa using positive), getLast?_cons, if_pos ⟨here, positive⟩]
      cases (((shop.filter (sold itemId)).map countOf).filter (0 < ·)).getLast? <;> rfl
    · rw [filter_cons_of_neg (by simpa using positive), if_neg (fun both => positive both.2), or_none]
  · rw [filter_cons_of_neg here, if_neg (fun both => here both.1), or_none]

theorem find_sellEntry (saleMap : OrderedMap Nat) (shopInfo : ShopInfo) (itemId : Nat) :
    (sellEntry countOf saleMap shopInfo).find itemId =
      (if sold itemId shopInfo = true ∧ countOf shopInfo > 0 then some (countOf shopInfo) else none).or
        (saleMap.find itemId) := by
  unfold sellEntry sold
  split
  next free => simp [free]
  next priced =>
    split
    next positive =>
      rw [OrderedMap.find_set]
      by_cases here : itemId = shopInfo.itemId
      · simp [here, priced, positive]
      · simp [here, Ne.symm here]
    next zero => simp [zero]

theorem find_sellEntries (shop : List ShopInfo) (saleMap : OrderedMap Nat) (itemId : Nat) :
    (shop.foldl (sellEntry countOf) saleMap).find itemId = (lastCount countOf itemId shop).or (saleMap.find itemId) := by
  induction shop generalizing saleMap with
  | nil => rfl
  | cons shopInfo shop ih => rw [foldl_cons, ih, find_sellEntry, lastCount_cons, Option.or_assoc]

theorem find_saleMap (shop : List ShopInfo) (itemId : Nat) :
    (shop.foldl (sellEntry countOf) .empty).find itemId = lastCount countOf itemId shop := by
  rw [find_sellEntries, OrderedMap.find_empty, or_none]

theorem smallSaleMap_eq (shop : List ShopInfo) :
    game.smallSaleMap env id shop = shop.foldl (sellEntry (game.carriedCount env id)) .empty := rfl

theorem lookUpEntry_eq (tempSaleMap : OrderedMap Nat) :
    lookUpEntry env game id tempSaleMap = sellEntry (tableCount env game id tempSaleMap) := by
  funext saleMap shopInfo
  unfold lookUpEntry sellEntry tableCount
  split
  · rfl
  split
  · rfl
  · cases tempSaleMap.find shopInfo.itemId <;> rfl

theorem find_getAllItemTypeCount (itemId : Nat) :
    ((game.getAllItemTypeCount env id .empty).find itemId).getD 0 = game.getItemTypeCount env id itemId (-1) := by
  have tallied : ((OrderedMap.tally (fun ptr => (game.items ptr).id) (fun ptr => (game.items ptr).countByType env.items (-1))
      (2 ^ 32) (game.inventoryItems id) .empty).find itemId).getD 0 = _ := OrderedMap.find_tally _ _ _ _ (Nat.two_pow_pos 32)
  rw [OrderedMap.find_empty, getD_none, Nat.zero_add] at tallied
  exact tallied

theorem tableCount_of_charged {shopInfo : ShopInfo} (charged : (env.items.get shopInfo.itemId).isCharged = true) :
    tableCount env game id (game.getAllItemTypeCount env id .empty) shopInfo = game.chargesCount env id shopInfo := by
  have noFluid : ((env.items.get shopInfo.itemId).isFluidContainer || (env.items.get shopInfo.itemId).isSplash) = false := by
    simp only [ItemType.isCharged, Bool.and_eq_true, Bool.not_eq_true', Bool.or_eq_false_iff] at charged
    simp [charged.2.1.1, charged.2.1.2]
  simp only [tableCount, chargesCount, noFluid]
  split
  · rfl
  next any =>
    rw [find_getAllItemTypeCount, carriedCount, not_not.mp any]

theorem tableCount_of_not_charged {shopInfo : ShopInfo} (plain : (env.items.get shopInfo.itemId).isCharged = false) :
    tableCount env game id (game.getAllItemTypeCount env id .empty) shopInfo = game.carriedCount env id shopInfo := by
  simp only [tableCount]
  split
  next named =>
    have fluid : ((env.items.get shopInfo.itemId).isFluidContainer || (env.items.get shopInfo.itemId).isSplash) = true := by
      by_contra none
      apply named
      unfold ShopInfo.subtype
      apply if_neg
      intro sub
      simp only [ItemType.isCharged, ItemType.hasSubType] at plain sub
      simp_all
    rw [fluid, if_pos rfl]
  next any =>
    rw [find_getAllItemTypeCount, carriedCount, not_not.mp any]

/-- Rules that agree on an item find the same last count. -/
theorem lastCount_congr {other : ShopInfo → Nat} {itemId : Nat}
    (same : ∀ shopInfo : ShopInfo, shopInfo.itemId = itemId → countOf shopInfo = other shopInfo) (shop : List ShopInfo) :
    lastCount countOf itemId shop = lastCount other itemId shop := by
  unfold lastCount
  congr 2
  apply map_congr_left
  intro shopInfo listed
  have here : sold itemId shopInfo = true := (mem_filter.mp listed).2
  have parts : shopInfo.sellPrice ≠ 0 ∧ shopInfo.itemId = itemId := by simpa [sold] using here
  exact same shopInfo parts.2

/-- Small and large shops agree just where, of every type with charges, the items carried and the charges named come to the same
last count. -/
theorem smallSaleMap_eq_large_iff (env : Env) (game : Game) (id : PlayerId) (shop : List ShopInfo) :
    game.smallSaleMap env id shop = game.largeSaleMap env id shop ↔
      ∀ itemId, (env.items.get itemId).isCharged = true →
        lastCount (game.carriedCount env id) itemId shop = lastCount (game.chargesCount env id) itemId shop := by
  have large : game.largeSaleMap env id shop =
      shop.foldl (sellEntry (tableCount env game id (game.getAllItemTypeCount env id .empty))) .empty := by
    rw [largeSaleMap, lookUpEntry_eq]
  rw [smallSaleMap_eq, large]
  constructor
  · intro same itemId charged
    have found := congrArg (fun map => map.find itemId) same
    simp only [find_saleMap] at found
    rw [found]
    apply lastCount_congr
    intro shopInfo here
    exact tableCount_of_charged (by rw [here]; exact charged)
  · intro agree
    apply OrderedMap.eq_of_find
    intro itemId
    rw [find_saleMap, find_saleMap]
    by_cases charged : (env.items.get itemId).isCharged = true
    · rw [agree itemId charged]
      apply lastCount_congr
      intro shopInfo here
      exact (tableCount_of_charged (by rw [here]; exact charged)).symm
    · apply lastCount_congr
      intro shopInfo here
      exact (tableCount_of_not_charged (by rw [here]; exact Bool.eq_false_iff.mpr charged)).symm

/-- The stone skin amulet, as the game data has it. -/
def amuletEnv : Env where
  items := .ofList [{ id := 2197, weight := 700, charges := 5, slotPosition := { necklace := true }, pickupable := true }] []
    (by decide) (by decide)

/-- A shop that buys stone skin amulets of five charges, and five other things. -/
def amuletShop : List ShopInfo :=
  [{ itemId := 2197, subType := 5, sellPrice := 500 }, { itemId := 2376, sellPrice := 25 }, { itemId := 2377, sellPrice := 450 },
   { itemId := 2378, sellPrice := 80 }, { itemId := 2379, sellPrice := 2 }, { itemId := 2380, sellPrice := 4 }]

/-- A player who carries nothing is offered to sell five amulets. -/
theorem amuletShop_differs :
    (ofTables [] [(1, {})] []).smallSaleMap amuletEnv 1 amuletShop ≠ (ofTables [] [(1, {})] []).largeSaleMap amuletEnv 1 amuletShop ∧
      (ofTables [] [(1, {})] []).sendSaleItemList amuletEnv 1 amuletShop = [(0, 5)] := by
  refine ⟨fun same => ?_, by decide⟩
  have counts := congrArg (fun map => map.find 2197) same
  exact absurd counts (by decide)

end Game

end Styller
