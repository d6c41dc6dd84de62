import Mathlib.Data.Multiset.MapFold
import Mathlib.Data.Rat.Floor
import Styller.Library.Run

/-! `!tradeoff`, the market where items are offered while the seller is away. -/

namespace Styller.TradeOff

open Library Function Option

/-- `CUSTOM.tradeOffine`. -/
structure Config where
  levelParaAddOferta : Nat
  maxOfertasPorPlayer : Nat
  precoLimite : Nat
  goldItems : List Nat
  valuePerOffer : Nat
  blockedItems : List Nat
  diasParaRemoverAOferta : Nat

/-- What is asked of an `ItemType`. -/
structure Kind where
  isPickupable : Bool := true
  isMovable : Bool := true
  isCorpse : Bool := false
  isContainer : Bool := false
  isStackable : Bool := false
  charges : Nat := 0

/-- An item without what is in it; the charges and the duration are 0 where there are none. -/
structure Content where
  id : Nat
  count : Nat := 1
  charges : Nat := 0
  duration : Nat := 0
  deriving DecidableEq

/-- An item with what is in it, and whether something is in one of these. -/
structure Goods where
  content : Content
  inside : Multiset Content := 0
  nested : Bool := false
  deriving DecidableEq

/-- The item types, and the items that `Game.createItem` makes of an id and a count. -/
structure Types where
  kind : Nat → Kind
  create : Nat → Nat → Content

structure Price where
  itemTrade : Bool
  cost : Nat
  costCount : Nat
  deriving DecidableEq

/-- A row of `trade_off_offers`, with the rows of `trade_off_container_items` that belong to it. -/
structure Row where
  playerId : Nat
  goods : Goods
  price : Price
  sold : Nat
  date : Int
  deriving DecidableEq

/-- What is done with money and items in the name of an offer. -/
inductive Event where
  /-- The goods leave the seller, who pays a fee, some of it with coins that are among the goods. -/
  | taken (seller : Nat) (goods : Goods) (fee fromGoods : Nat)
  | paid (buyer : Nat) (price : Price)
  /-- A parcel with the goods comes to a depot. -/
  | delivered (player : Nat) (goods : Goods)
  | settled (seller : Nat) (price : Price)

/-- An offer: its row while there is one, the deletions of it that wait to be executed, and what was done so far. -/
structure Offer where
  row : Option Row := none
  pending : Nat := 0
  events : List Event := []

structure State where
  next : Nat
  offers : Nat → Offer

/-- What the script finds of a player who says a command. -/
structure Situation where
  /-- The tile is in a protection zone, and the player is not exhausted. -/
  ready : Bool := true
  level : Nat := 0
  access : Bool := false
  /-- The item in the ammunition slot. -/
  ammo : Option Goods := none
  money : Nat := 0
  totalMoney : Nat := 0
  getItemCount : Nat → Nat := fun _ => 0
  /-- Some of the item in the slot can be removed. -/
  removable : Bool := true
  /-- The depot takes a parcel. -/
  room : Bool := true
  /-- How much of a fee would be taken out of the goods. -/
  fromGoods : Nat := 0

inductive Asked where
  | number (value : Rat)
  | item (id : Nat) (count : Option Rat)

section

variable (config : Config) (types : Types)

def rounded (value : Rat) : Nat := ⌊value + 1 / 2⌋.toNat

/-- What the row of an offer says of the item. -/
def recorded (goods : Goods) : Goods :=
  { goods with content := { goods.content with count := if (types.kind goods.content.id).isStackable then goods.content.count else 1 } }

/-- The item that is made of a row. -/
def remake (content : Content) : Content :=
  if content.duration > 0 then { types.create content.id 1 with duration := content.duration }
  else if content.charges > 0 then { types.create content.id 1 with charges := content.charges }
  else types.create content.id content.count

def restored (goods : Goods) : Goods :=
  { goods with content := remake types goods.content, inside := goods.inside.map (remake types) }

/-- The price that goes into the row, if the script accepts what is asked. -/
def askedPrice (goods : Goods) : Asked → Option Price
  | .number value =>
    if goods.content.id ∈ config.goldItems then none
    else if value < 1 then none
    else if value > config.precoLimite then none
    else some ⟨false, rounded value, 1⟩
  | .item id count =>
    if id = 0 ∨ id ∈ config.goldItems ∨ id ∈ config.blockedItems ∨ id = goods.content.id then none
    else if (types.kind id).isCorpse ∨ ¬ (types.kind id).isMovable ∨ ¬ (types.kind id).isPickupable then none
    else match count with
      | none => some ⟨true, id, 1⟩
      | some count => if ¬ (types.kind id).isStackable ∨ count < 1 ∨ count > 100 then none else some ⟨true, id, rounded count⟩

/-- The item may be offered. -/
def admits (goods : Goods) : Bool :=
  (types.kind goods.content.id).isPickupable ∧ ¬ (types.kind goods.content.id).isCorpse ∧ goods.content.id ∉ config.blockedItems ∧
    (¬ (types.kind goods.content.id).isContainer ∨ ¬ goods.nested ∧ ∀ content ∈ goods.inside, content.id ∉ config.blockedItems)

variable (state : State) (player : Nat) (situation : Situation)

def activeOffers : Nat :=
  (List.range state.next).countP fun id => (state.offers id).row.any fun row => row.playerId = player ∧ row.sold = 0

/-- The goods and the price of an offer that the script accepts. -/
def offered (asked : Asked) : Option (Goods × Price) :=
  if ¬ situation.ready then none
  else if situation.level < config.levelParaAddOferta ∧ ¬ situation.access then none
  else if activeOffers state player ≥ config.maxOfertasPorPlayer ∧ ¬ situation.access then none
  else do
    let goods ← situation.ammo
    guard (admits config types goods)
    let price ← askedPrice config types goods asked
    guard (situation.money ≥ config.valuePerOffer)
    return (goods, price)

/-- `!tradeoff add`. -/
def add (now : Int) (asked : Asked) : State :=
  match offered config types state player situation asked with
  | none => state
  | some (goods, price) =>
    { next := state.next + 1
      offers := Function.update state.offers state.next
        { row := some ⟨player, recorded types goods, price, 0, now⟩
          events := [.taken player goods config.valuePerOffer situation.fromGoods] } }

def openRow (id : Nat) : Option Row := (state.offers id).row.filter fun row => row.sold = 0

/-- The row of an offer that the script takes back. -/
def removed (id : Nat) : Option Row :=
  if ¬ situation.ready then none else (openRow state id).filter fun row => row.playerId = player

def parcel (room : Bool) (player : Nat) (goods : Goods) : List Event :=
  if room then [.delivered player (restored types goods)] else []

/-- `!tradeoff remove`. -/
def remove (id : Nat) : State :=
  match removed state player situation id with
  | none => state
  | some row =>
    { state with
      offers := Function.update state.offers id
        { state.offers id with
          row := none
          events := (state.offers id).events ++ parcel types situation.room player row.goods } }

/-- What a buyer gives for an offer, if the script takes it. The script asks how many of the item in demand there are, and takes
as many of the item in the slot. -/
def payment (price : Price) : Option Price :=
  if price.itemTrade then do
    let slot ← situation.ammo
    guard (situation.getItemCount price.cost ≥ price.costCount ∧ slot.content.count ≥ price.costCount)
    guard (slot.content.charges ≥ (types.kind price.cost).charges ∧ slot.content.duration = 0)
    guard situation.removable
    return ⟨true, slot.content.id, price.costCount⟩
  else if situation.totalMoney < price.cost then none
  else some price

/-- The row of an offer that the script sells, and what is given for it. -/
def bought (id : Nat) : Option (Row × Price) :=
  if ¬ situation.ready then none
  else do
    let row ← openRow state id
    guard (row.playerId ≠ player)
    let given ← payment types situation row.price
    return (row, given)

/-- `!tradeoff buy`. -/
def buy (id : Nat) : State :=
  match bought types state player situation id with
  | none => state
  | some (row, given) =>
    { state with
      offers := Function.update state.offers id
        { state.offers id with
          row := some { row with sold := 1 }
          events := (state.offers id).events ++ .paid player given :: parcel types situation.room player row.goods } }

end

section

variable (types : Types)

/-- What `onLogin` does for an offer of the player: it pays for one that is sold, sends one back that has expired, and leaves
the deletion of the row to be executed later. -/
def collect (player : Nat) (room : Bool) (offer : Offer) : Offer :=
  match offer.row with
  | none => offer
  | some row =>
    if row.playerId ≠ player then offer
    else if row.sold = 1 then
      { offer with
        pending := offer.pending + 1
        events := offer.events ++ if row.price.itemTrade ∧ ¬ room then [] else [.settled player row.price] }
    else if row.sold = 2 then
      { offer with
        pending := offer.pending + 1
        events := offer.events ++ parcel types room player row.goods }
    else offer

variable (config : Config) (state : State)

/-- `onLogin`, with whether the depot takes the parcel of each of the offers. -/
def login (player : Nat) (room : Nat → Bool) : State :=
  { state with offers := fun id => collect types player (room id) (state.offers id) }

def timeStamp (now : Int) : Int := now - 86400 * (config.diasParaRemoverAOferta * 24)

def expires (now : Int) : Bool :=
  (List.range state.next).any fun id => (state.offers id).row.any fun row => row.sold = 0 ∧ row.date ≤ timeStamp config now

/-- The `UPDATE` of `onStartup`, for one row. -/
def sweep (now : Int) (row : Row) : Row := if row.date ≤ timeStamp config now then { row with sold := 2 } else row

def startup (now : Int) : State :=
  if expires config state now then
    { state with offers := fun id => { state.offers id with row := (state.offers id).row.map (sweep config now) } }
  else state

/-- A deletion that waits is executed. -/
def execute (id : Nat) : State :=
  if (state.offers id).pending = 0 then state
  else
    { state with
      offers := Function.update state.offers id { state.offers id with row := none, pending := (state.offers id).pending - 1 } }

end

inductive Label where
  | add (player : Nat) (situation : Situation) (now : Int) (asked : Asked)
  | remove (player : Nat) (situation : Situation) (id : Nat)
  | buy (player : Nat) (situation : Situation) (id : Nat)
  | login (player : Nat) (room : Nat → Bool)
  | startup (now : Int)
  | execute (id : Nat)

def step (config : Config) (types : Types) (state : State) : Label → State
  | .add player situation now asked => add config types state player situation now asked
  | .remove player situation id => remove types state player situation id
  | .buy player situation id => buy types state player situation id
  | .login player room => login types state player room
  | .startup now => startup config state now
  | .execute id => execute state id

section

structure Deal where
  seller : Nat
  goods : Goods
  fee : Nat
  price : Price

/-- How far an offer is. -/
inductive Phase where
  | offered
  | sold (buyer : Nat)
  | settled (buyer : Nat)
  | returned

/-- Nothing more is to be done for the offer. -/
def Phase.Over : Phase → Prop
  | .offered | .sold _ => False
  | .settled _ | .returned => True

/-- What is right to have been done: the goods leave the seller once, whole and besides the fee; a buyer pays the price when he
receives them, and the seller gets it once; or the goods come back once. -/
def Deal.history (deal : Deal) : Phase → List Event
  | .offered => [.taken deal.seller deal.goods deal.fee 0]
  | .sold buyer => [.taken deal.seller deal.goods deal.fee 0, .paid buyer deal.price, .delivered buyer deal.goods]
  | .settled buyer =>
    [.taken deal.seller deal.goods deal.fee 0, .paid buyer deal.price, .delivered buyer deal.goods,
      .settled deal.seller deal.price]
  | .returned => [.taken deal.seller deal.goods deal.fee 0, .delivered deal.seller deal.goods]

/-- The history of an offer is a right one, which is complete when the row is gone. -/
def Offer.ExactlyOnce (offer : Offer) : Prop :=
  offer.row = none ∧ offer.events = [] ∨
    ∃ (deal : Deal) (phase : Phase), offer.events = deal.history phase ∧ (offer.row = none → phase.Over)

def ExactlyOnce (state : State) : Prop := ∀ id, (state.offers id).ExactlyOnce

/-- The labels that go right. -/
def Careful (config : Config) (types : Types) (state : State) : Label → Prop
  | .add player situation _ asked =>
    ∀ goods price, offered config types state player situation asked = some (goods, price) →
      situation.fromGoods = 0 ∧ restored types (recorded types goods) = goods
  | .remove player situation id => ∀ row, removed state player situation id = some row → situation.room = true
  | .buy player situation id =>
    ∀ row given, bought types state player situation id = some (row, given) → situation.room = true ∧ given = row.price
  | .login player room =>
    ∀ id row, (state.offers id).row = some row → row.playerId = player → row.sold ≠ 0 →
      (state.offers id).pending = 0 ∧ (room id = true ∨ row.sold = 1 ∧ row.price.itemTrade = false)
  | .startup now =>
    expires config state now = true → ∀ id row, (state.offers id).row = some row → (state.offers id).pending = 0 →
      row.sold = 1 → timeStamp config now < row.date
  | .execute _ => True

/-- What the row of an offer says of how far it is; it is over while a deletion waits. -/
def Stage (row : Row) (pending : Nat) (phase : Phase) : Prop :=
  pending = 0 ∧ row.sold ≠ 1 ∧ phase = .offered ∨ pending = 0 ∧ row.sold = 1 ∧ (∃ buyer, phase = .sold buyer) ∨
    pending ≠ 0 ∧ row.sold ≠ 0 ∧ phase.Over

/-- The row is of the deal. -/
structure Agrees (types : Types) (deal : Deal) (row : Row) : Prop where
  seller : row.playerId = deal.seller
  goods : restored types row.goods = deal.goods
  price : row.price = deal.price

/-- An offer that is not made yet, one whose row is gone, or one with a row. -/
inductive Sound (types : Types) : Offer → Prop where
  | fresh : Sound types {}
  | gone (deal : Deal) {phase : Phase} (ended : phase.Over) (pending : Nat) :
      Sound types { row := none, pending, events := deal.history phase }
  | listed (deal : Deal) {phase : Phase} {row : Row} {pending : Nat} (agrees : Agrees types deal row)
      (stage : Stage row pending phase) : Sound types { row := some row, pending, events := deal.history phase }

variable {config : Config} {types : Types} {state : State}

theorem Sound.exactlyOnce {offer : Offer} (sound : Sound types offer) : offer.ExactlyOnce := by
  cases sound with
  | fresh => exact .inl ⟨rfl, rfl⟩
  | gone deal ended pending => exact .inr ⟨deal, _, rfl, fun _ => ended⟩
  | listed deal agrees stage => exact .inr ⟨deal, _, rfl, nofun⟩

theorem sound_listed (deal : Deal) (phase : Phase) {row : Row} {pending : Nat} {events : List Event} (agrees : Agrees types deal row)
    (stage : Stage row pending phase) (told : events = deal.history phase) :
    Sound types { row := some row, pending, events } := by
  rw [told]
  exact .listed deal agrees stage

theorem sound_gone (deal : Deal) {phase : Phase} {pending : Nat} {events : List Event} (ended : phase.Over)
    (told : events = deal.history phase) : Sound types { row := none, pending, events } := by
  rw [told]
  exact .gone deal ended pending

/-- What holds in every state: the offers are sound, and those to come are not made yet. -/
structure Kept (types : Types) (state : State) : Prop where
  sound : ∀ id, Sound types (state.offers id)
  fresh : ∀ id, state.next ≤ id → state.offers id = {}

theorem Kept.update (kept : Kept types state) {id : Nat} (made : id < state.next) {offer : Offer} (sound : Sound types offer) :
    Kept types { state with offers := update state.offers id offer } where
  sound := by
    intro other
    dsimp only
    by_cases here : other = id
    · rw [here, update_self]
      exact sound
    · rw [update_of_ne here]
      exact kept.sound other
  fresh := by
    intro other later
    have elsewhere : other ≠ id := fun same => Nat.lt_irrefl id (Nat.lt_of_lt_of_le made (same ▸ later))
    exact (update_of_ne elsewhere offer state.offers).trans (kept.fresh other later)

theorem Kept.made (kept : Kept types state) {id : Nat} {row : Row} (found : (state.offers id).row = some row) : id < state.next := by
  by_contra later
  rw [kept.fresh id (Nat.le_of_not_lt later)] at found
  cases found

theorem Sound.offered {offer : Offer} (sound : Sound types offer) {row : Row} (found : offer.row = some row) (unsold : row.sold = 0) :
    ∃ deal, Agrees types deal row ∧ offer = { row := some row, pending := 0, events := deal.history .offered } := by
  cases sound with
  | fresh => cases found
  | gone deal ended pending => cases found
  | @listed deal phase other pending agrees stage =>
    cases found
    rcases stage with ⟨none, _, same⟩ | ⟨_, sold, _⟩ | ⟨_, sold, _⟩
    · exact ⟨deal, agrees, by rw [none, same]⟩
    · rw [unsold] at sold
      cases sold
    · exact absurd unsold sold

theorem openRow_some {id : Nat} {row : Row} (found : openRow state id = some row) :
    (state.offers id).row = some row ∧ row.sold = 0 := by
  obtain ⟨found, unsold⟩ := filter_eq_some_iff.mp found
  exact ⟨found, of_decide_eq_true unsold⟩

/-- A new offer has only been taken. -/
theorem kept_add (kept : Kept types state) {player : Nat} {situation : Situation} {now : Int} {asked : Asked}
    (careful : Careful config types state (.add player situation now asked)) :
    Kept types (add config types state player situation now asked) := by
  rw [add]
  cases accepted : offered config types state player situation asked with
  | none => exact kept
  | some pair =>
    obtain ⟨goods, price⟩ := pair
    obtain ⟨whole, restores⟩ := careful goods price accepted
    let deal : Deal := { seller := player, goods, fee := config.valuePerOffer, price }
    have listed : Sound types
        { row := some ⟨player, recorded types goods, price, 0, now⟩
          events := [.taken player goods config.valuePerOffer situation.fromGoods] } := by
      rw [whole]
      exact sound_listed deal .offered ⟨rfl, restores, rfl⟩ (.inl ⟨rfl, nofun, rfl⟩) rfl
    have grown : Kept types { state with next := state.next + 1 } :=
      { sound := kept.sound, fresh := fun id later => kept.fresh id (Nat.le_of_succ_le later) }
    exact grown.update (Nat.lt_succ_self state.next) listed

theorem kept_remove (kept : Kept types state) {player : Nat} {situation : Situation} {id : Nat}
    (careful : Careful config types state (.remove player situation id)) :
    Kept types (remove types state player situation id) := by
  rw [remove]
  cases accepted : removed state player situation id with
  | none => exact kept
  | some row =>
    have room := careful row accepted
    rw [removed] at accepted
    split_ifs at accepted
    obtain ⟨unsold, owner⟩ := filter_eq_some_iff.mp accepted
    have owner : row.playerId = player := of_decide_eq_true owner
    obtain ⟨found, unsold⟩ := openRow_some unsold
    obtain ⟨deal, agrees, offer⟩ := (kept.sound id).offered found unsold
    have ended : Phase.returned.Over := trivial
    apply kept.update (kept.made found)
    apply sound_gone deal ended
    rw [offer, parcel, if_pos room, agrees.goods, ← owner, agrees.seller]
    rfl

theorem kept_buy (kept : Kept types state) {player : Nat} {situation : Situation} {id : Nat}
    (careful : Careful config types state (.buy player situation id)) :
    Kept types (buy types state player situation id) := by
  rw [buy]
  cases accepted : bought types state player situation id with
  | none => exact kept
  | some pair =>
    obtain ⟨row, given⟩ := pair
    obtain ⟨room, whole⟩ := careful row given accepted
    rw [bought] at accepted
    split_ifs at accepted
    obtain ⟨other, unsold, accepted⟩ := bind_eq_some_iff.mp accepted
    obtain ⟨_, _, accepted⟩ := bind_eq_some_iff.mp accepted
    obtain ⟨_, _, accepted⟩ := bind_eq_some_iff.mp accepted
    cases accepted
    obtain ⟨found, unsold⟩ := openRow_some unsold
    obtain ⟨deal, agrees, offer⟩ := (kept.sound id).offered found unsold
    have marked : Agrees types deal { row with sold := 1 } := ⟨agrees.seller, agrees.goods, agrees.price⟩
    have idle : (state.offers id).pending = 0 := by rw [offer]
    apply kept.update (kept.made found)
    apply sound_listed deal (.sold player) marked (.inr (.inl ⟨idle, rfl, player, rfl⟩))
    rw [offer, parcel, if_pos room, agrees.goods, whole, agrees.price]
    rfl

/-- What a login does for a single offer. -/
theorem sound_collect {offer : Offer} (sound : Sound types offer) {player : Nat} {room : Bool}
    (careful : ∀ row, offer.row = some row → row.playerId = player → row.sold ≠ 0 →
      offer.pending = 0 ∧ (room = true ∨ row.sold = 1 ∧ row.price.itemTrade = false)) :
    Sound types (collect types player room offer) := by
  cases sound with
  | fresh => exact .fresh
  | gone deal ended pending => exact .gone deal ended pending
  | @listed deal phase row pending agrees stage =>
    rw [collect]
    dsimp only
    by_cases owner : row.playerId = player
    · rw [if_neg (not_not.mpr owner)]
      by_cases sold : row.sold = 1
      · obtain ⟨idle, kind⟩ := careful row rfl owner (by rw [sold]; decide)
        have paid : ¬ (row.price.itemTrade = true ∧ ¬ room = true) := by
          rcases kind with room | ⟨_, gold⟩
          · exact fun full => full.2 room
          · exact fun full => Bool.false_ne_true (gold.symm.trans full.1)
        rw [if_pos sold, if_neg paid]
        rcases stage with ⟨_, unsold, _⟩ | ⟨_, _, buyer, rfl⟩ | ⟨waits, _⟩
        · exact absurd sold unsold
        · apply sound_listed deal (.settled buyer) agrees
          · exact .inr (.inr ⟨Nat.succ_ne_zero pending, sold ▸ Nat.one_ne_zero, trivial⟩)
          · rw [← owner, agrees.seller, agrees.price]
            rfl
        · exact absurd idle waits
      · rw [if_neg sold]
        by_cases expired : row.sold = 2
        · obtain ⟨idle, kind⟩ := careful row rfl owner (by rw [expired]; decide)
          have room : room = true := kind.resolve_right fun gold => sold gold.1
          rw [if_pos expired, parcel, if_pos room]
          rcases stage with ⟨_, _, rfl⟩ | ⟨_, other, _⟩ | ⟨waits, _⟩
          · apply sound_listed deal .returned agrees
            · exact .inr (.inr ⟨Nat.succ_ne_zero pending, expired ▸ (by decide), trivial⟩)
            · rw [agrees.goods, ← owner, agrees.seller]
              rfl
          · exact absurd other sold
          · exact absurd idle waits
        · rw [if_neg expired]
          exact .listed deal agrees stage
    · rw [if_pos owner]
      exact .listed deal agrees stage

theorem kept_login (kept : Kept types state) {player : Nat} {room : Nat → Bool}
    (careful : Careful config types state (.login player room)) : Kept types (login types state player room) where
  sound := fun id => sound_collect (kept.sound id) (careful id)
  fresh := by
    intro id later
    change collect types player (room id) (state.offers id) = {}
    rw [kept.fresh id later]
    rfl

theorem sound_sweep {offer : Offer} (sound : Sound types offer) {now : Int}
    (late : ∀ row, offer.row = some row → offer.pending = 0 → row.sold = 1 → timeStamp config now < row.date) :
    Sound types { offer with row := offer.row.map (sweep config now) } := by
  cases sound with
  | fresh => exact .fresh
  | gone deal ended pending => exact .gone deal ended pending
  | @listed deal phase row pending agrees stage =>
    dsimp only [map_some]
    rw [sweep]
    split_ifs with old
    · have marked : Agrees types deal { row with sold := 2 } := ⟨agrees.seller, agrees.goods, agrees.price⟩
      refine .listed deal marked ?_
      rcases stage with ⟨idle, _, offered⟩ | ⟨idle, sold, _⟩ | ⟨waits, _, ended⟩
      · exact .inl ⟨idle, Nat.succ_succ_ne_one 0, offered⟩
      · exact absurd old (Int.not_le.mpr (late row rfl idle sold))
      · exact .inr (.inr ⟨waits, Nat.succ_ne_zero 1, ended⟩)
    · exact .listed deal agrees stage

theorem kept_startup (kept : Kept types state) {now : Int} (careful : Careful config types state (.startup now)) :
    Kept types (startup config state now) := by
  rw [startup]
  split_ifs with expired
  · constructor
    · exact fun id => sound_sweep (kept.sound id) (careful expired id)
    · intro id later
      dsimp only
      rw [kept.fresh id later]
      rfl
  · exact kept

theorem kept_execute (kept : Kept types state) (id : Nat) : Kept types (execute state id) := by
  rw [execute]
  split_ifs with idle
  · exact kept
  · have made : id < state.next := by
      by_contra later
      rw [kept.fresh id (Nat.le_of_not_lt later)] at idle
      exact idle rfl
    apply kept.update made
    generalize offer : state.offers id = offer at idle
    have sound := kept.sound id
    rw [offer] at sound
    cases sound with
    | fresh => exact absurd rfl idle
    | gone deal ended pending => exact .gone deal ended _
    | listed deal agrees stage =>
      rcases stage with ⟨none, _⟩ | ⟨none, _⟩ | ⟨_, _, ended⟩
      · exact absurd none idle
      · exact absurd none idle
      · exact .gone deal ended _

/-- Every careful step keeps the offers sound. -/
theorem kept_step (state : State) (label : Label) (kept : Kept types state) (careful : Careful config types state label) :
    Kept types (step config types state label) := by
  cases label with
  | add player situation now asked => exact kept_add kept careful
  | remove player situation id => exact kept_remove kept careful
  | buy player situation id => exact kept_buy kept careful
  | login player room => exact kept_login kept careful
  | startup now => exact kept_startup kept careful
  | execute id => exact kept_execute kept id

/-- No offer has been made. -/
def start : State where
  next := 1
  offers := fun _ => {}

end

/-- `configCustom.lua`. -/
def tradeOffine : Config where
  levelParaAddOferta := 50
  maxOfertasPorPlayer := 5
  precoLimite := 2000000000
  goldItems := [2148, 2152, 2160]
  valuePerOffer := 500
  blockedItems := [9933, 2167]
  diasParaRemoverAOferta := 7

def weapons : Types where
  kind := fun _ => {}
  create := fun id count => { id, count }

def seller : Situation := { level := 50, ammo := some { content := { id := 2376 } }, money := 500 }
def buyer : Situation := { totalMoney := 100 }

def sword : Goods := { content := { id := 2376 } }
def coins : Price := ⟨false, 100, 1⟩

/-- The sword is on offer, and then sold. -/
def onOffer : State where
  next := 2
  offers := Function.update start.offers 1 { row := some ⟨1, sword, coins, 0, 0⟩, events := [.taken 1 sword 500 0] }

def soldOut : State :=
  { onOffer with
    offers := Function.update onOffer.offers 1
      { row := some ⟨1, sword, coins, 1, 0⟩, events := [.taken 1 sword 500 0, .paid 2 coins, .delivered 2 sword] } }

theorem offered_sword : offered tradeOffine weapons start 1 seller (.number 100) = some (sword, coins) := by
  decide +kernel

theorem bought_sword : bought weapons onOffer 2 buyer 1 = some (⟨1, sword, coins, 0, 0⟩, coins) := by
  decide +kernel

theorem step_offer : step tradeOffine weapons start (.add 1 seller 0 (.number 100)) = onOffer := by
  rw [step, add, offered_sword]
  rfl

theorem step_sale : step tradeOffine weapons onOffer (.buy 2 buyer 1) = soldOut := by
  rw [step, buy, bought_sword]
  rfl

end Styller.TradeOff
