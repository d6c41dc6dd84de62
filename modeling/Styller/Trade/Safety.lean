import Styller.Trade.Trading

/-! What holds of the trade fields in every run of requests, house trades,
accepts and closings, and when the transfer stage is entered safely. -/

namespace Styller.Trading

open Library

/-- What can happen to the trade fields.  A closing stands for the message of a
client, for a logout and for every moved or removed item that ends a trade. -/
inductive Op where
  | request (player tradePartner : PlayerId) (view : RequestView)
  | startHouseTrade (player tradePartner : PlayerId) (transferItem : ItemPtr)
  | accept (player : PlayerId) (view : AcceptView)
  | close (player : PlayerId)

/-- The trade fields after an accept; the transfer stage ends within the call. -/
def afterAccept (trading : Trading) (player : PlayerId) (view : AcceptView) : Trading :=
  match trading.playerAcceptTrade player view with
  | .settled next => next
  | .transferring tradePartner stage => stage.finishTrade player tradePartner

/-- One operation.  A house trade offers a transfer document created for it, to a
player other than the owner of the house. -/
def step (trading : Trading) : Op → Trading → Prop
  | .request player tradePartner view, next =>
    next = (trading.playerRequestTrade player tradePartner view).toOption.getD trading
  | .startHouseTrade player tradePartner transferItem, next =>
    player ≠ tradePartner ∧ transferItem ∉ trading.tradeItems ∧
      next = (trading.internalStartTrade player tradePartner transferItem).toOption.getD trading
  | .accept player view, next => next = trading.afterAccept player view
  | .close player, next => next = trading.internalCloseTrade player

/-- All players idle and nothing on offer. -/
def idle : Trading where
  players := fun _ => {}
  tradeItems := ∅

def system : System Trading Op where
  init := (· = idle)
  step := step

/-- The links between the trade fields of all players and `tradeItems`. -/
structure Consistent (trading : Trading) : Prop where
  paired : ∀ player other, (trading.players player).tradePartner = some other →
    player ≠ other ∧ (trading.players other).tradePartner = some player
  partnered : ∀ player, (trading.players player).tradeState = .none ↔
    (trading.players player).tradePartner = none
  registered : ∀ player item, (trading.players player).tradeItem = some item ↔
    trading.tradeItems.lookup item = some player
  initiated : ∀ player, (trading.players player).tradeState = .initiated →
    (trading.players player).tradeItem ≠ none
  bare : ∀ player, (trading.players player).tradeState = .none ∨
    (trading.players player).tradeState = .acknowledge → (trading.players player).tradeItem = none
  outside : ∀ player, (trading.players player).tradeState ≠ .transfer

/-- Whoever has accepted has an item on offer. -/
def AcceptsWithItem (trading : Trading) : Prop :=
  ∀ player, (trading.players player).tradeState = .accept →
    (trading.players player).tradeItem ≠ none

@[simp] theorem set_self (trading : Trading) (id : PlayerId) (player : PlayerTrade) :
    (trading.set id player).players id = player := by
  simp [set]

theorem set_other {other id : PlayerId} (trading : Trading) (player : PlayerTrade)
    (different : other ≠ id) :
    (trading.set id player).players other = trading.players other := by
  simp [set, different]

@[simp] theorem set_tradeItems (trading : Trading) (id : PlayerId) (player : PlayerTrade) :
    (trading.set id player).tradeItems = trading.tradeItems := rfl

@[simp] theorem forget_players (trading : Trading) (item : Option ItemPtr) :
    (trading.forget item).players = trading.players := by
  cases item <;> rfl

theorem lookup_forget (trading : Trading) (item : Option ItemPtr) (other : ItemPtr) :
    (trading.forget item).tradeItems.lookup other =
      if item = some other then none else trading.tradeItems.lookup other := by
  cases item with
  | none => rfl
  | some item =>
    by_cases same : item = other
    · subst same; simp [forget]
    · simp [forget, same, AList.lookup_erase_ne (Ne.symm same)]

theorem consistent_idle : Consistent idle where
  paired := by simp [idle]
  partnered := by simp [idle]
  registered := by simp [idle]
  initiated := by simp [idle]
  bare := by simp [idle]
  outside := by simp [idle]

theorem finishTrade_players (trading : Trading) (player tradePartner other : PlayerId) :
    (trading.finishTrade player tradePartner).players other =
      if other = player ∨ other = tradePartner then {} else trading.players other := by
  simp only [finishTrade, set, forget_players]
  grind

theorem lookup_finishTrade (trading : Trading) (player tradePartner : PlayerId) (item : ItemPtr) :
    (trading.finishTrade player tradePartner).tradeItems.lookup item =
      if (trading.players player).tradeItem = some item ∨
        (trading.players tradePartner).tradeItem = some item then none
      else trading.tradeItems.lookup item := by
  simp only [finishTrade, set_tradeItems, lookup_forget]
  grind

/-- Ending the trade of two partners keeps everything else as it was. -/
theorem Consistent.finishTrade {trading : Trading} (consistent : Consistent trading)
    (partners : (trading.players player).tradePartner = some tradePartner) :
    Consistent (trading.finishTrade player tradePartner) := by
  obtain ⟨different, back⟩ := consistent.paired player tradePartner partners
  constructor
  · intro first second linked
    rw [finishTrade_players] at linked ⊢
    have old := consistent.paired first second
    have alone := consistent.paired second
    grind
  · intro other
    rw [finishTrade_players]
    have old := consistent.partnered other
    grind
  · intro other item
    rw [finishTrade_players, lookup_finishTrade]
    have old := consistent.registered other item
    have own := consistent.registered player item
    have its := consistent.registered tradePartner item
    grind
  · intro other
    rw [finishTrade_players]
    have old := consistent.initiated other
    grind
  · intro other
    rw [finishTrade_players]
    have old := consistent.bare other
    grind
  · intro other
    rw [finishTrade_players]
    have old := consistent.outside other
    grind

theorem setTradeState_players (trading : Trading) (player other : PlayerId) (state : TradeState) :
    (trading.setTradeState player state).players other =
      if other = player then { trading.players player with tradeState := state }
      else trading.players other := rfl

@[simp] theorem setTradeState_tradeItems (trading : Trading) (player : PlayerId) (state : TradeState) :
    (trading.setTradeState player state).tradeItems = trading.tradeItems := rfl

theorem ext_players {trading other : Trading} (players : ∀ id, trading.players id = other.players id)
    (tradeItems : trading.tradeItems = other.tradeItems) : trading = other := by
  cases trading
  cases other
  simp only [Trading.mk.injEq] at tradeItems ⊢
  exact ⟨funext players, tradeItems⟩

/-- The states of the two partners do not matter to the end of their trade. -/
theorem finishTrade_setTradeState (trading : Trading) (player tradePartner : PlayerId)
    (state : TradeState) (among : other = player ∨ other = tradePartner) :
    (trading.setTradeState other state).finishTrade player tradePartner =
      trading.finishTrade player tradePartner := by
  have item : ∀ id, ((trading.setTradeState other state).players id).tradeItem =
      (trading.players id).tradeItem := by
    intro id
    rw [setTradeState_players]
    split
    · rename_i same
      rw [same]
    · rfl
  have forgetItems : ∀ (first : Trading) (second : Trading) (item : Option ItemPtr),
      first.tradeItems = second.tradeItems →
        (first.forget item).tradeItems = (second.forget item).tradeItems := by
    intro first second item same
    cases item
    · exact same
    · simp only [forget, same]
  apply ext_players
  · intro id
    rw [finishTrade_players, finishTrade_players, setTradeState_players]
    grind
  · simp only [finishTrade, set_tradeItems, item]
    exact forgetItems _ _ _ (forgetItems _ _ _ rfl)

/-- Closing a trade ends it for both partners, and does nothing to an idle player. -/
theorem Consistent.internalCloseTrade_eq {trading : Trading} (consistent : Consistent trading)
    (player : PlayerId) :
    trading.internalCloseTrade player = match (trading.players player).tradePartner with
      | none => trading
      | some tradePartner => trading.finishTrade player tradePartner := by
  have outside := consistent.outside
  unfold internalCloseTrade
  cases partners : (trading.players player).tradePartner with
  | none =>
    have waiting := (consistent.partnered player).mpr partners
    have bare := consistent.bare player (.inl waiting)
    simp only [partners, Option.map_none, reduceCtorEq, outside player, or_self, if_false, bare]
    apply ext_players
    · intro other
      by_cases same : other = player
      · subst same
        rw [set_self]
        cases fields : trading.players other
        simp_all
      · rw [set_other _ _ same]
        rfl
    · rfl
  | some tradePartner =>
    obtain ⟨different, _⟩ := consistent.paired player tradePartner partners
    simp only [partners, Option.map_some, Option.some.injEq, outside, or_self, if_false]
    apply ext_players
    · intro other
      rw [finishTrade_players]
      simp only [set, forget_players]
      grind
    · simp only [Trading.finishTrade, set_tradeItems, set_other _ _ (Ne.symm different), forget_players]
      cases (trading.players tradePartner).tradeItem <;> rfl

theorem Consistent.internalCloseTrade {trading : Trading} (consistent : Consistent trading)
    (player : PlayerId) : Consistent (trading.internalCloseTrade player) := by
  rw [consistent.internalCloseTrade_eq]
  cases partners : (trading.players player).tradePartner with
  | none => exact consistent
  | some tradePartner => exact consistent.finishTrade partners

/-- A player in a trade may move to `TRADE_ACCEPT`. -/
theorem Consistent.accept {trading : Trading} (consistent : Consistent trading)
    (ready : (trading.players player).tradeState = .acknowledge ∨
      (trading.players player).tradeState = .initiated) :
    Consistent (trading.setTradeState player .accept) := by
  constructor
  · intro first second linked
    have old := consistent.paired first second
    simp only [setTradeState_players] at linked ⊢
    grind
  · intro other
    have old := consistent.partnered other
    simp only [setTradeState_players]
    grind
  · intro other item
    have old := consistent.registered other item
    simp only [setTradeState_players, setTradeState_tradeItems]
    grind
  · intro other
    have old := consistent.initiated other
    simp only [setTradeState_players]
    grind
  · intro other
    have old := consistent.bare other
    simp only [setTradeState_players]
    grind
  · intro other
    have old := consistent.outside other
    simp only [setTradeState_players]
    grind

theorem Consistent.playerAcceptTrade_cases {trading : Trading} (consistent : Consistent trading)
    (player : PlayerId) (view : AcceptView) :
    trading.playerAcceptTrade player view = .settled trading ∨
    ∃ tradePartner, (trading.players player).tradePartner = some tradePartner ∧
      ((trading.players player).tradeState = .acknowledge ∨
        (trading.players player).tradeState = .initiated) ∧
      (trading.playerAcceptTrade player view = .settled (trading.setTradeState player .accept) ∨
        trading.playerAcceptTrade player view =
          .settled (trading.finishTrade player tradePartner) ∨
        ((trading.players tradePartner).tradeState = .accept ∧
          trading.playerAcceptTrade player view = .transferring tradePartner
            (((trading.setTradeState player .accept).setTradeState player .transfer).setTradeState
              tradePartner .transfer))) := by
  unfold playerAcceptTrade
  by_cases online : view.playerOnline = true
  · by_cases ready : (trading.players player).tradeState = .acknowledge ∨
      (trading.players player).tradeState = .initiated
    · cases partners : (trading.players player).tradePartner with
      | none => simp [online, ready, partners]
      | some tradePartner =>
        right
        obtain ⟨different, _⟩ := consistent.paired player tradePartner partners
        refine ⟨tradePartner, rfl, ready, ?_⟩
        have closed : (trading.setTradeState player .accept).internalCloseTrade player =
            trading.finishTrade player tradePartner := by
          rw [(consistent.accept ready).internalCloseTrade_eq]
          simp only [setTradeState_players, if_true, partners]
          exact finishTrade_setTradeState trading player tradePartner .accept (.inl rfl)
        have other : ((trading.setTradeState player .accept).players tradePartner).tradeState =
            (trading.players tradePartner).tradeState := by
          rw [setTradeState_players, if_neg (Ne.symm different)]
        simp only [online, not_true, if_false, ready, partners, other, closed]
        grind
    · simp [online, ready]
  · simp [online]

/-- A started trade: the asking player offers an item and is linked to the partner,
who has the request to acknowledge if he was idle. -/
theorem Consistent.internalStartTrade_cases {trading : Trading} (consistent : Consistent trading)
    (different : player ≠ tradePartner)
    (started : trading.internalStartTrade player tradePartner tradeItem = .ok next) :
    next.tradeItems = trading.tradeItems.insert tradeItem player ∧
    (trading.players player).tradeItem = none ∧
    (((trading.players player).tradePartner = none ∧
        (trading.players tradePartner).tradePartner = none) ∨
      ((trading.players player).tradePartner = some tradePartner ∧
        (trading.players tradePartner).tradePartner = some player)) ∧
    ∀ other, next.players other =
      if other = player then ⟨.initiated, some tradeItem, some tradePartner⟩
      else if other = tradePartner then
        { trading.players tradePartner with
          tradeState := if (trading.players tradePartner).tradeState = .none then .acknowledge
            else (trading.players tradePartner).tradeState
          tradePartner := some player }
      else trading.players other := by
  have own := consistent.partnered player
  have its := consistent.partnered tradePartner
  have back := consistent.paired tradePartner player
  have there := consistent.paired player tradePartner
  have bare := consistent.bare player
  unfold Trading.internalStartTrade at started
  simp only [set_other _ _ (Ne.symm different)] at started
  by_cases busy : (trading.players player).tradeState ≠ .none ∧
      ¬ ((trading.players player).tradeState = .acknowledge ∧
        (trading.players player).tradePartner = some tradePartner)
  · rw [if_pos busy] at started
    cases started
  · by_cases taken : (trading.players tradePartner).tradeState ≠ .none ∧
        (trading.players tradePartner).tradePartner ≠ some player
    · rw [if_neg busy, if_pos taken] at started
      cases started
    · rw [if_neg busy, if_neg taken] at started
      by_cases waiting : (trading.players tradePartner).tradeState = .none
      · rw [if_pos (by simpa [set, Ne.symm different] using waiting)] at started
        cases started
        refine ⟨rfl, by grind, by grind, ?_⟩
        intro other
        simp only [set]
        grind
      · rw [if_neg (by simpa [set, Ne.symm different] using waiting)] at started
        cases started
        have joined : (trading.players tradePartner).tradePartner = some player := by grind
        refine ⟨rfl, by grind, by grind, ?_⟩
        intro other
        by_cases same : other = tradePartner
        · subst same
          cases fields : trading.players other
          simp_all [set]
        · simp [set, same]

theorem Consistent.internalStartTrade {trading : Trading} (consistent : Consistent trading)
    (different : player ≠ tradePartner) (fresh : tradeItem ∉ trading.tradeItems)
    (started : trading.internalStartTrade player tradePartner tradeItem = .ok next) :
    Consistent next := by
  have unregistered : trading.tradeItems.lookup tradeItem = none := AList.lookup_eq_none.mpr fresh
  obtain ⟨items, nothing, linked, players⟩ := consistent.internalStartTrade_cases different started
  have lookup : ∀ item, next.tradeItems.lookup item =
      if item = tradeItem then some player else trading.tradeItems.lookup item := by
    intro item
    rw [items]
    by_cases same : item = tradeItem
    · rw [if_pos same, same, AList.lookup_insert]
    · rw [if_neg same, AList.lookup_insert_ne same]
  constructor
  · intro first second pair
    have old := consistent.paired first second
    rw [players] at pair ⊢
    grind
  · intro other
    have old := consistent.partnered other
    rw [players]
    grind
  · intro other item
    have old := consistent.registered other item
    have own := consistent.registered player item
    rw [players, lookup]
    grind
  · intro other
    have old := consistent.initiated other
    rw [players]
    grind
  · intro other
    have old := consistent.bare other
    rw [players]
    grind
  · intro other
    have old := consistent.outside other
    rw [players]
    grind

private theorem ite_error_eq_ok {Error Value : Type} (condition : Prop) [Decidable condition]
    (error : Error) (result : Except Error Value) (value : Value) :
    (if condition then .error error else result) = .ok value ↔
      ¬ condition ∧ result = .ok value := by
  by_cases condition <;> simp_all

theorem playerRequestTrade_cases {trading : Trading}
    (granted : trading.playerRequestTrade player tradePartner view = .ok next) :
    ∃ tradeItem, player ≠ tradePartner ∧ tradeItem ∉ trading.tradeItems ∧
      trading.internalStartTrade player tradePartner tradeItem = .ok next := by
  unfold playerRequestTrade at granted
  cases thing : view.tradeThing with
  | none => simp [ite_error_eq_ok, thing] at granted
  | some tradeItem =>
    simp only [ite_error_eq_ok, thing] at granted
    obtain ⟨_, distinct, _, _, _, _, _, _, free, _, _, started⟩ := granted
    refine ⟨tradeItem, by grind, ?_, ?_⟩
    · intro registered
      apply free
      apply List.any_eq_true.mpr
      exact ⟨tradeItem, AList.mem_keys.mp registered, by simp⟩
    · cases result : trading.internalStartTrade player tradePartner tradeItem with
      | error refusal => simp [result] at started
      | ok result' => simpa [result] using started

theorem Consistent.afterAccept_cases {trading : Trading} (consistent : Consistent trading)
    (player : PlayerId) (view : AcceptView) : trading.afterAccept player view = trading ∨
      ∃ tradePartner, (trading.players player).tradePartner = some tradePartner ∧
        ((trading.players player).tradeState = .acknowledge ∨ (trading.players player).tradeState = .initiated) ∧
        (trading.afterAccept player view = trading.setTradeState player .accept ∨
          trading.afterAccept player view = trading.finishTrade player tradePartner) := by
  unfold Trading.afterAccept
  rcases consistent.playerAcceptTrade_cases player view with ignored | ⟨tradePartner, partners, ready, ended⟩
  · exact .inl (by rw [ignored])
  · refine .inr ⟨tradePartner, partners, ready, ?_⟩
    rcases ended with waiting | closed | ⟨_, transferring⟩
    · exact .inl (by rw [waiting])
    · exact .inr (by rw [closed])
    · rw [transferring]
      right
      simp only [finishTrade_setTradeState _ _ _ _ (.inl rfl), finishTrade_setTradeState _ _ _ _ (.inr rfl)]

theorem Consistent.afterAccept {trading : Trading} (consistent : Consistent trading)
    (player : PlayerId) (view : AcceptView) : Consistent (trading.afterAccept player view) := by
  rcases consistent.afterAccept_cases player view with same | ⟨tradePartner, partners, ready, same | same⟩
  all_goals rw [same]
  · exact consistent
  · exact consistent.accept ready
  · exact consistent.finishTrade partners

/-- What an operation can do. -/
theorem step_cases {trading : Trading} (taken : trading.step op next) : next = trading ∨
    (∃ player tradePartner tradeItem, player ≠ tradePartner ∧ tradeItem ∉ trading.tradeItems ∧
      trading.internalStartTrade player tradePartner tradeItem = .ok next) ∨
    (∃ player view, op = .accept player view ∧ next = trading.afterAccept player view) ∨
      ∃ player, next = trading.internalCloseTrade player := by
  cases op with
  | request player tradePartner view =>
    cases granted : trading.playerRequestTrade player tradePartner view with
    | error refusal =>
      simp only [Trading.step, granted, Except.toOption, Option.getD_none] at taken
      exact .inl taken
    | ok result =>
      simp only [Trading.step, granted, Except.toOption, Option.getD_some] at taken
      obtain ⟨tradeItem, started⟩ := playerRequestTrade_cases granted
      exact .inr (.inl ⟨player, tradePartner, tradeItem, taken ▸ started⟩)
  | startHouseTrade player tradePartner transferItem =>
    obtain ⟨different, fresh, taken⟩ := taken
    cases started : trading.internalStartTrade player tradePartner transferItem with
    | error refusal =>
      simp only [started, Except.toOption, Option.getD_none] at taken
      exact .inl taken
    | ok result =>
      simp only [started, Except.toOption, Option.getD_some] at taken
      exact .inr (.inl ⟨player, tradePartner, transferItem, different, fresh, taken ▸ started⟩)
  | accept player view => exact .inr (.inr (.inl ⟨player, view, rfl, taken⟩))
  | close player => exact .inr (.inr (.inr ⟨player, taken⟩))

/-- Every operation keeps the trade fields consistent. -/
theorem Consistent.step {trading : Trading} (consistent : Consistent trading)
    (taken : trading.step op next) : Consistent next := by
  rcases step_cases taken with rfl | ⟨_, _, _, different, fresh, started⟩ | ⟨player, view, _, rfl⟩ | ⟨player, rfl⟩
  · exact consistent
  · exact consistent.internalStartTrade different fresh started
  · exact consistent.afterAccept player view
  · exact consistent.internalCloseTrade player

/-- A player who accepts a request that he has only to acknowledge has an item on
offer. -/
def OffersFirst (trading : Trading) : Op → Prop
  | .accept player _ => (trading.players player).tradeState = .acknowledge →
      (trading.players player).tradeItem ≠ none
  | _ => True

theorem AcceptsWithItem.finishTrade {trading : Trading} (offers : AcceptsWithItem trading)
    (player tradePartner : PlayerId) : AcceptsWithItem (trading.finishTrade player tradePartner) := by
  intro other
  rw [finishTrade_players]
  have old := offers other
  grind

theorem AcceptsWithItem.internalCloseTrade {trading : Trading} (consistent : Consistent trading)
    (offers : AcceptsWithItem trading) (player : PlayerId) :
    AcceptsWithItem (trading.internalCloseTrade player) := by
  rw [consistent.internalCloseTrade_eq]
  cases partners : (trading.players player).tradePartner with
  | none => exact offers
  | some tradePartner => exact offers.finishTrade player tradePartner

theorem AcceptsWithItem.internalStartTrade {trading : Trading} (consistent : Consistent trading)
    (offers : AcceptsWithItem trading) (different : player ≠ tradePartner)
    (started : trading.internalStartTrade player tradePartner tradeItem = .ok next) :
    AcceptsWithItem next := by
  obtain ⟨_, _, _, players⟩ := consistent.internalStartTrade_cases different started
  intro other
  have old := offers other
  rw [players]
  grind

theorem AcceptsWithItem.afterAccept {trading : Trading} (consistent : Consistent trading)
    (offers : AcceptsWithItem trading) (offered : OffersFirst trading (.accept player view)) :
    AcceptsWithItem (trading.afterAccept player view) := by
  rcases consistent.afterAccept_cases player view with same | ⟨tradePartner, partners, ready, same | same⟩
  all_goals rw [same]
  · exact offers
  · have initiated := consistent.initiated player
    intro other
    have old := offers other
    rw [setTradeState_players]
    simp only [OffersFirst] at offered
    grind
  · exact offers.finishTrade player tradePartner

theorem AcceptsWithItem.step {trading : Trading} (consistent : Consistent trading)
    (offers : AcceptsWithItem trading) (offered : OffersFirst trading op)
    (taken : trading.step op next) : AcceptsWithItem next := by
  rcases step_cases taken with rfl | ⟨_, _, _, different, _, started⟩ | ⟨player, view, rfl, rfl⟩ | ⟨player, rfl⟩
  · exact offers
  · exact offers.internalStartTrade consistent different started
  · exact offers.afterAccept consistent offered
  · exact offers.internalCloseTrade consistent player

/-- What the transfer stage needs of its two players. -/
structure TransferReady (stage : Trading) (player tradePartner : PlayerId) : Prop where
  partner : (stage.players player).tradePartner = some tradePartner
  back : (stage.players tradePartner).tradePartner = some player
  item : ∃ item, (stage.players player).tradeItem = some item ∧
    stage.tradeItems.lookup item = some player
  partnerItem : ∃ item, (stage.players tradePartner).tradeItem = some item ∧
    stage.tradeItems.lookup item = some tradePartner

theorem Consistent.transferReady {trading : Trading} (consistent : Consistent trading)
    (offers : AcceptsWithItem trading) (offered : OffersFirst trading (.accept player view))
    (entered : trading.playerAcceptTrade player view = .transferring tradePartner stage) :
    TransferReady stage player tradePartner := by
  rcases consistent.playerAcceptTrade_cases player view with ignored | ⟨other, partners, ready, ended⟩
  · simp [ignored] at entered
  · rcases ended with waiting | closed | ⟨accepted, transferring⟩
    · simp [waiting] at entered
    · simp [closed] at entered
    · rw [transferring] at entered
      cases entered
      obtain ⟨different, back⟩ := consistent.paired player tradePartner partners
      have registered := consistent.registered
      have initiated := consistent.initiated player
      have partnerItem := Option.ne_none_iff_exists'.mp (offers tradePartner accepted)
      have item : ∃ item, (trading.players player).tradeItem = some item := by
        apply Option.ne_none_iff_exists'.mp
        simp only [OffersFirst] at offered
        grind
      constructor
      · simp [setTradeState_players, different, partners]
      · simp [setTradeState_players, Ne.symm different, back]
      · obtain ⟨item, held⟩ := item
        refine ⟨item, ?_, (registered player item).mp held⟩
        simp [setTradeState_players, different, held]
      · obtain ⟨item, held⟩ := partnerItem
        refine ⟨item, ?_, (registered tradePartner item).mp held⟩
        simp [setTradeState_players, Ne.symm different, held]

theorem acceptsWithItem_invariant :
    system.Invariant OffersFirst (fun trading => Consistent trading ∧ AcceptsWithItem trading) where
  init := fun _ initial => initial ▸ ⟨consistent_idle, by simp [AcceptsWithItem, idle]⟩
  step := fun _ _ _ both offered taken => ⟨both.1.step taken, both.2.step both.1 offered taken⟩

/-- In every run in which nobody accepts a request without an item on offer, the
transfer stage finds both items set and registered for their owners, and each
player as the partner of the other. -/
theorem transferReady_of_reachable (reached : system.Reachable OffersFirst trading)
    (offered : OffersFirst trading (.accept player view))
    (entered : trading.playerAcceptTrade player view = .transferring tradePartner stage) :
    TransferReady stage player tradePartner := by
  obtain ⟨consistent, offers⟩ := acceptsWithItem_invariant.reachable reached
  exact consistent.transferReady offers offered entered

def asked : Trading :=
  (idle.playerRequestTrade 1 2 { tradeThing := some 10 }).toOption.getD idle

def agreed : Trading :=
  ((asked.playerRequestTrade 2 1 { tradeThing := some 20 }).toOption.getD asked).afterAccept 1 {}

theorem reachable_asked (allow : Trading → Op → Prop)
    (allowed : allow idle (.request 1 2 { tradeThing := some 10 })) :
    system.Reachable allow asked :=
  .step (.init rfl) allowed rfl

theorem transferReady_agreed :
    ∃ stage, agreed.playerAcceptTrade 2 {} = .transferring 1 stage ∧ TransferReady stage 2 1 := by
  have reached : system.Reachable OffersFirst agreed := by
    have offer : OffersFirst asked (.request 2 1 { tradeThing := some 20 }) := trivial
    have accept : OffersFirst ((asked.playerRequestTrade 2 1 { tradeThing := some 20 }).toOption.getD
      asked) (.accept 1 {}) := fun initiated => by cases initiated
    exact .step (.step (reachable_asked OffersFirst trivial) offer rfl) accept rfl
  have accept : OffersFirst agreed (.accept 2 {}) := fun initiated => by cases initiated
  exact ⟨_, rfl, transferReady_of_reachable reached accept rfl⟩

/-- Player 2 accepts what he was asked without offering anything; when player 1
accepts too, the transfer stage starts with a null item. -/
theorem transfer_without_item :
    ∃ trading stage, system.Reachable (fun _ _ => True) trading ∧
      trading.playerAcceptTrade 1 {} = .transferring 2 stage ∧ ¬ TransferReady stage 1 2 := by
  have taken : system.step asked (.accept 2 {}) (asked.afterAccept 2 {}) := rfl
  refine ⟨asked.afterAccept 2 {}, _, .step (reachable_asked _ trivial) trivial taken, rfl, ?_⟩
  rintro ⟨_, _, _, item, offered, _⟩
  cases offered

end Styller.Trading
