import Mathlib.Data.List.AList
import Styller.Item.Item
import Styller.Library.Run

/-! The trade state of all players: `Game::playerRequestTrade`,
`Game::internalStartTrade`, `Game::playerAcceptTrade` and
`Game::internalCloseTrade` as far as they look at and change
`tradeState`, `tradeItem`, `tradePartner` and `Game::tradeItems`. -/

namespace Styller

inductive TradeState where
  | none
  | initiated
  | accept
  | acknowledge
  | transfer
  deriving DecidableEq

structure PlayerTrade where
  tradeState : TradeState := .none
  tradeItem : Option ItemPtr := Option.none
  tradePartner : Option PlayerId := Option.none

/-- The trade fields of all players and `Game::tradeItems`. -/
structure Trading where
  players : PlayerId → PlayerTrade
  tradeItems : AList (fun _ : ItemPtr => PlayerId)

/-- What a refused request tells the player. -/
inductive TradeRefusal where
  | answer (value : ReturnValue)
  | message (text : String)

namespace Trading

def set (trading : Trading) (id : PlayerId) (player : PlayerTrade) : Trading :=
  { trading with players := fun other => if other = id then player else trading.players other }

def setTradeState (trading : Trading) (id : PlayerId) (state : TradeState) : Trading :=
  trading.set id { trading.players id with tradeState := state }

/-- `tradeItems.erase(tradeItems.find(item))`, also for a null item. -/
def forget (trading : Trading) : Option ItemPtr → Trading
  | none => trading
  | some item => { trading with tradeItems := trading.tradeItems.erase item }

/-- `Game::internalStartTrade`. -/
def internalStartTrade (trading : Trading) (player tradePartner : PlayerId) (tradeItem : ItemPtr) :
    Except ReturnValue Trading :=
  let own := trading.players player
  let other := trading.players tradePartner
  if own.tradeState ≠ .none ∧
      ¬ (own.tradeState = .acknowledge ∧ own.tradePartner = some tradePartner) then
    .error .youAreAlreadyTrading
  else if other.tradeState ≠ .none ∧ other.tradePartner ≠ some player then
    .error .thisPlayerIsAlreadyTrading
  else
    let trading := trading.set player ⟨.initiated, some tradeItem, some tradePartner⟩
    let trading := { trading with tradeItems := trading.tradeItems.insert tradeItem player }
    let other := trading.players tradePartner
    if other.tradeState = .none then
      .ok (trading.set tradePartner { other with tradeState := .acknowledge, tradePartner := some player })
    else .ok trading

/-- What `Game::playerRequestTrade` finds in the world when it runs. -/
structure RequestView where
  playerOnline : Bool := true
  partnerOnline : Bool := true
  inRange : Bool := true
  canThrow : Bool := true
  tradeThing : Option ItemPtr
  clientIdMatches : Bool := true
  pickupable : Bool := true
  hasUniqueId : Bool := false
  notInvited : Bool := false
  playerFloor : Nat := 7
  itemFloor : Nat := 7
  adjacent : Bool := true
  hasPath : Bool := true
  isContainer : ItemPtr → Bool := fun _ => false
  isHoldingItem : ItemPtr → ItemPtr → Bool := fun _ _ => false
  itemHoldingCount : Nat := 0
  eventAllows : Bool := true

/-- `Game::playerRequestTrade`; `none` says that nothing is told to the player. -/
def playerRequestTrade (trading : Trading) (player tradePartner : PlayerId) (view : RequestView) :
    Except (Option TradeRefusal) Trading :=
  if ¬ view.playerOnline then .error none
  else if ¬ view.partnerOnline ∨ tradePartner = player then
    .error (some (.message "Select a player to trade with."))
  else if ¬ view.inRange then .error (some (.answer .destinationOutOfReach))
  else if ¬ view.canThrow then .error (some (.answer .cannotThrow))
  else
    match view.tradeThing with
    | none => .error (some (.answer .notPossible))
    | some tradeItem =>
      if ¬ view.clientIdMatches ∨ ¬ view.pickupable ∨ view.hasUniqueId then
        .error (some (.answer .notPossible))
      else if view.notInvited then .error (some (.answer .notPossible))
      else if view.playerFloor ≠ view.itemFloor then
        .error (some (.answer (if view.playerFloor > view.itemFloor
          then .firstGoUpStairs else .firstGoDownStairs)))
      else if ¬ view.adjacent then
        -- the player walks to the item first and asks again then
        .error (if view.hasPath then none else some (.answer .thereIsNoWay))
      else if trading.tradeItems.keys.any (fun item => tradeItem = item ||
          (view.isContainer tradeItem && view.isHoldingItem tradeItem item) ||
          (view.isContainer item && view.isHoldingItem item tradeItem)) then
        .error (some (.message "This item is already being traded."))
      else if view.isContainer tradeItem ∧ view.itemHoldingCount + 1 > 100 then
        .error (some (.message "You can only trade up to 100 objects at once."))
      else if ¬ view.eventAllows then .error none
      else
        match internalStartTrade trading player tradePartner tradeItem with
        | .error refusal => .error (some (.answer refusal))
        | .ok trading => .ok trading

/-- `Game::internalCloseTrade`. -/
def internalCloseTrade (trading : Trading) (player : PlayerId) : Trading :=
  let own := trading.players player
  let partnerState := own.tradePartner.map (fun id => (trading.players id).tradeState)
  if partnerState = some .transfer ∨ own.tradeState = .transfer then trading
  else
    let trading := (trading.forget own.tradeItem).set player ⟨.none, none, none⟩
    match own.tradePartner with
    | none => trading
    | some tradePartner =>
      (trading.forget (trading.players tradePartner).tradeItem).set tradePartner ⟨.none, none, none⟩

/-- What `Game::playerAcceptTrade` finds in the world when it runs. -/
structure AcceptView where
  playerOnline : Bool := true
  canThrow : Bool := true
  eventAllows : Bool := true

/-- How an accept ends: without a transfer, or in the transfer stage with a partner. -/
inductive Accepted where
  | settled (trading : Trading)
  | transferring (tradePartner : PlayerId) (stage : Trading)

/-- `Game::playerAcceptTrade` up to the point where both players are in
`TRADE_TRANSFER`. -/
def playerAcceptTrade (trading : Trading) (player : PlayerId) (view : AcceptView) : Accepted :=
  let own := trading.players player
  if ¬ view.playerOnline then .settled trading
  else if ¬ (own.tradeState = .acknowledge ∨ own.tradeState = .initiated) then .settled trading
  else
    match own.tradePartner with
    | none => .settled trading
    | some tradePartner =>
      let trading := trading.setTradeState player .accept
      if (trading.players tradePartner).tradeState ≠ .accept then .settled trading
      else if ¬ view.canThrow then .settled (trading.internalCloseTrade player)
      else if ¬ view.eventAllows then .settled (trading.internalCloseTrade player)
      else .transferring tradePartner
        ((trading.setTradeState player .transfer).setTradeState tradePartner .transfer)

/-- What the transfer stage does to the trade fields, whatever becomes of the items. -/
def finishTrade (stage : Trading) (player tradePartner : PlayerId) : Trading :=
  let trading := (stage.forget (stage.players player).tradeItem).forget
    (stage.players tradePartner).tradeItem
  (trading.set player ⟨.none, none, none⟩).set tradePartner ⟨.none, none, none⟩

end Trading

end Styller
