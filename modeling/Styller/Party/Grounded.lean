import Styller.Party.Effects

/-! What holds of parties whatever the scripts answer: a player that is in a party is one of it, and the players that
a party has invited are not. -/

namespace Styller.Society

open List

/-- The pointers of players lead to parties that they belong to, and invitations are for others. -/
structure Grounded (society : Society) : Prop where
  inside : ∀ player address, society.partyOf player = some address →
    ∃ party, society.parties address = some party ∧ (player = party.leader ∨ player ∈ party.memberList)
  outside : ∀ address party, society.parties address = some party →
    ∀ player ∈ party.inviteList, society.partyOf player ≠ some address ∧ player ≠ party.leader
  nodup : ∀ address party, society.parties address = some party → party.inviteList.Nodup

variable {society before after : Society} {player other : PlayerId} {address : PartyPtr} {party rest : Party}
  {events : PartyEvents}

namespace Grounded

/-- Where only a party has changed, and who is in it. -/
theorem of_party (grounded : Grounded before)
    (parties : ∀ place, after.parties place = if place = address then some rest else before.parties place)
    (partyOf : ∀ player, after.partyOf player = before.partyOf player ∨ after.partyOf player = .none ∨
      after.partyOf player = some address)
    (inside : ∀ player, after.partyOf player = some address → player = rest.leader ∨ player ∈ rest.memberList)
    (outside : ∀ player ∈ rest.inviteList, after.partyOf player ≠ some address ∧ player ≠ rest.leader)
    (nodup : rest.inviteList.Nodup) : Grounded after := by
  constructor
  · intro player place points
    rw [parties]
    by_cases here : place = address
    · rw [if_pos here]
      exact ⟨rest, rfl, inside player (here ▸ points)⟩
    · rw [if_neg here]
      apply grounded.inside player place
      rcases partyOf player with same | none | moved
      · exact same.symm.trans points
      · rw [none] at points
        cases points
      · rw [moved] at points
        exact absurd (Option.some.inj points).symm here
  · intro place party held player invited
    rw [parties] at held
    by_cases here : place = address
    · rw [if_pos here] at held
      cases held
      exact here ▸ outside player invited
    · rw [if_neg here] at held
      obtain ⟨away, under⟩ := grounded.outside place party held player invited
      refine ⟨?_, under⟩
      rcases partyOf player with same | none | moved
      · exact same ▸ away
      · rw [none]
        exact nofun
      · rw [moved]
        exact fun same => here (Option.some.inj same).symm
  · intro place party held
    rw [parties] at held
    by_cases here : place = address
    · rw [if_pos here] at held
      cases held
      exact nodup
    · rw [if_neg here] at held
      exact grounded.nodup place party held

/-- Where no party has come, and no pointer. -/
theorem of_fewer (grounded : Grounded before)
    (parties : ∀ place party, after.parties place = some party → before.parties place = some party)
    (partyOf : ∀ player place, after.partyOf player = some place →
      before.partyOf player = some place ∧ after.parties place = before.parties place) : Grounded after := by
  constructor
  · intro player place points
    obtain ⟨pointed, same⟩ := partyOf player place points
    rw [same]
    exact grounded.inside player place pointed
  · intro place party held player invited
    obtain ⟨away, under⟩ := grounded.outside place party (parties place party held) player invited
    exact ⟨fun points => away (partyOf player place points).1, under⟩
  · intro place party held
    exact grounded.nodup place party (parties place party held)

theorem of_same (grounded : Grounded before) (parties : after.parties = before.parties)
    (partyOf : ∀ player, after.partyOf player = before.partyOf player) : Grounded after := by
  apply grounded.of_fewer
  · intro place party held
    exact parties ▸ held
  · intro player place points
    exact ⟨partyOf player ▸ points, by rw [parties]⟩

theorem disband (grounded : Grounded society) (events : PartyEvents) (address : PartyPtr) :
    Grounded (society.disband events address) := by
  cases held : society.parties address with
  | none =>
    rw [Society.disband, held]
    exact grounded
  | some party =>
    cases answer : events.eventPartyOnDisband address with
    | false =>
      rw [disband_vetoed answer]
      exact grounded
    | true =>
      have effect := disbanded held answer
      apply grounded.of_fewer
      · intro place other found
        rw [effect.parties] at found
        split_ifs at found
        exact found
      · intro player place points
        rw [effect.partyOf] at points
        split_ifs at points with belongs
        refine ⟨points, ?_⟩
        rw [effect.parties, if_neg]
        rintro rfl
        obtain ⟨own, found, of⟩ := grounded.inside player place points
        rw [held] at found
        cases found
        exact belongs of

theorem passPartyLeadership (grounded : Grounded society) (events : PartyEvents) (address : PartyPtr) (player : PlayerId)
    (forceRemove : Bool) : Grounded (society.passPartyLeadership events address player forceRemove).2 := by
  rw [Society.passPartyLeadership]
  cases held : society.parties address with
  | none => exact grounded
  | some party =>
    simp only
    split_ifs with unfit
    · exact grounded
    · exact grounded
    · rw [not_or, ne_eq, not_not] at unfit
      apply grounded.of_party (parties_putParty society address _) (fun _ => .inl rfl)
      · intro other points
        obtain ⟨own, found, of⟩ := grounded.inside other address points
        rw [held] at found
        cases found
        by_cases same : other = player
        · exact .inl same
        · refine .inr (mem_cons.mpr (of.imp_right ?_))
          exact (mem_erase_of_ne same).mpr
      · intro other invited
        obtain ⟨away, under⟩ := grounded.outside address party held other invited
        exact ⟨away, fun same => away (same ▸ unfit.2)⟩
      · exact grounded.nodup address party held

/-- Whoever is in the party still belongs to what is left of it. -/
theorem rest_inside (grounded : Grounded society) (held : society.parties address = some party)
    (goes : Rest society address party player rest) (points : society.partyOf other = some address) (stays : other ≠ player) :
    other = rest.leader ∨ other ∈ rest.memberList := by
  obtain ⟨own, found, of⟩ := grounded.inside other address points
  rw [held] at found
  cases found
  have kept : other ∈ party.memberList → other ∈ party.memberList.erase player := (mem_erase_of_ne stays).mpr
  cases goes with
  | member under => exact of.imp_right kept
  | headless alone => exact of.imp_right kept
  | handed leads several members heir another =>
    rw [leads, members, mem_cons] at of
    exact of.resolve_left stays
  | stuck leads several members unfit => exact of.imp_right kept

theorem rest_inviteList (goes : Rest society address party player rest) : rest.inviteList = party.inviteList := by
  cases goes with
  | member under => rfl
  | headless alone => rfl
  | handed leads several members heir another => rfl
  | stuck leads several members unfit => rfl

theorem withRest (grounded : Grounded society) (held : society.parties address = some party)
    (goes : Rest society address party player rest) : Grounded (society.withRest address rest player) := by
  apply grounded.of_party (parties_withRest rest)
  · intro other
    rw [partyOf_withRest]
    split_ifs
    · exact .inr (.inl rfl)
    · exact .inl rfl
  · intro other points
    rw [partyOf_withRest] at points
    split_ifs at points with stays
    exact grounded.rest_inside held goes points stays
  · intro other invited
    rw [rest_inviteList goes] at invited
    obtain ⟨away, under⟩ := grounded.outside address party held other invited
    constructor
    · rw [partyOf_withRest]
      split_ifs
      · exact nofun
      · exact away
    · intro same
      cases goes with
      | member _ => exact under same
      | headless _ => exact under same
      | handed leads several members heir another =>
        exact away (same ▸ heir)
      | stuck leads several members unfit => exact under same
  · rw [rest_inviteList goes]
    exact grounded.nodup address party held

theorem leaveParty (grounded : Grounded society) (events : PartyEvents) (own : society.partyOf player = some address)
    (forceRemove : Bool) : Grounded (society.leaveParty events address player forceRemove).2 := by
  obtain ⟨party, held, _⟩ := grounded.inside player address own
  by_cases allowed : forceRemove = true ∨ events.eventPartyOnLeave address player = true
  · obtain ⟨rest, goes, result⟩ := leaveParty_rest events held own allowed
    rw [result]
    split_ifs
    · exact (grounded.withRest held goes).disband events address
    · exact grounded.withRest held goes
  · rw [not_or, Bool.not_eq_true, Bool.not_eq_true] at allowed
    rw [allowed.1, leaveParty_refused held allowed.2]
    exact grounded

theorem withdrawn (grounded : Grounded society) (held : society.parties address = some party) (player : PlayerId)
    (removeFromPlayer : Bool) : Grounded (society.withdrawn address party player removeFromPlayer) := by
  apply grounded.of_party parties_withdrawn (fun _ => .inl partyOf_withdrawn)
  · intro other points
    rw [partyOf_withdrawn] at points
    obtain ⟨own, found, of⟩ := grounded.inside other address points
    rw [held] at found
    cases found
    exact of
  · intro other invited
    rw [partyOf_withdrawn]
    exact grounded.outside address party held other (mem_of_mem_erase invited)
  · exact (grounded.nodup address party held).erase player

theorem removeInvite (grounded : Grounded society) (events : PartyEvents) (address : PartyPtr) (player : PlayerId)
    (removeFromPlayer : Bool) : Grounded (society.removeInvite events address player removeFromPlayer).2 := by
  by_cases invited : ∃ party, society.parties address = some party ∧ player ∈ party.inviteList
  · obtain ⟨party, held, invited⟩ := invited
    rw [removeInvite_invited held invited]
    split_ifs
    · exact (grounded.withdrawn held player removeFromPlayer).disband events address
    · exact grounded.withdrawn held player removeFromPlayer
  · rw [removeInvite_uninvited]
    · exact grounded
    · exact fun party held member => invited ⟨party, held, member⟩

theorem foldl_removeInvite (grounded : Grounded society) (events : PartyEvents) (player : PlayerId) (addresses : List PartyPtr) :
    Grounded (addresses.foldl (fun society address => (society.removeInvite events address player false).2) society) := by
  induction addresses generalizing society with
  | nil => exact grounded
  | cons address addresses ih => exact ih (grounded.removeInvite events address player false)

end Grounded

/-- The lists of invitations do not say who is in a party. -/
theorem partyOf_forget (society : Society) (player other : PlayerId) :
    (society.modifyPlayer player (fun object => { object with invitePartyList := [] })).partyOf other =
      society.partyOf other :=
  partyOf_modifyPlayer society other (fun _ => rfl)

theorem partyOf_putPlayer_none (society : Society) (player other : PlayerId) :
    (society.putPlayer player .none).partyOf other = if other = player then .none else society.partyOf other := by
  simp only [partyOf, putPlayer, Function.update_apply]
  split_ifs
  · rfl
  · rfl

/-- A player that comes into the game is in no party. -/
theorem partyOf_putPlayer (society : Society) (player other : PlayerId) {object : PartyPlayer}
    (absent : society.players player = .none) (free : object.party = .none) :
    (society.putPlayer player (some object)).partyOf other = society.partyOf other := by
  simp only [partyOf, putPlayer, Function.update_apply]
  split_ifs with same
  · rw [same, absent]
    exact free
  · rfl

/-- With the invitation of the player the party ends, of which the other one is the leader. -/
def Withdraws (society : Society) (events : PartyEvents) (address : PartyPtr) (player other : PlayerId) : Prop :=
  ∃ party, society.parties address = some party ∧ player ∈ party.inviteList ∧ party.memberList = [] ∧
    party.inviteList.erase player = [] ∧ events.eventPartyOnDisband address = true ∧ other = party.leader

theorem points_removeInvite (removeFromPlayer : Bool) (place : PartyPtr) :
    (society.removeInvite events address player removeFromPlayer).2.partyOf other = some place ↔
      society.partyOf other = some place ∧ ¬ society.Withdraws events address player other := by
  by_cases invited : ∃ party, society.parties address = some party ∧ player ∈ party.inviteList
  · obtain ⟨party, held, listed⟩ := invited
    have withdraws : society.Withdraws events address player other ↔ (party.memberList = [] ∧
        party.inviteList.erase player = []) ∧ events.eventPartyOnDisband address = true ∧ other = party.leader := by
      simp only [Withdraws, held, Option.some.injEq, exists_eq_left', listed, true_and, and_assoc]
    rw [removeInvite_invited held listed, withdraws]
    split_ifs with ends
    · cases answer : events.eventPartyOnDisband address with
      | false =>
        rw [disband_vetoed answer, partyOf_withdrawn]
        simp only [Bool.false_eq_true, false_and, and_false, not_false_eq_true, and_true]
      | true =>
        have effect := disbanded_withdrawn society party player removeFromPlayer answer
        rw [effect.partyOf, partyOf_withdrawn]
        simp only [ends, not_mem_nil, or_false, and_self, true_and]
        split_ifs with leads
        · simp [leads]
        · simp [leads]
    · rw [partyOf_withdrawn]
      simp only [ends, false_and, not_false_eq_true, and_true]
  · have apart : ¬ society.Withdraws events address player other :=
      fun ⟨party, held, listed, _⟩ => invited ⟨party, held, listed⟩
    rw [removeInvite_uninvited]
    · exact (and_iff_left apart).symm
    · exact fun party held listed => invited ⟨party, held, listed⟩

namespace Grounded

/-- What the invitation of another party does is not changed. -/
theorem withdraws_removeInvite (grounded : Grounded society) (place : PartyPtr) :
    (society.removeInvite events address player false).2.Withdraws events place player other ↔
      place ≠ address ∧ society.Withdraws events place player other := by
  by_cases invited : ∃ party, society.parties address = some party ∧ player ∈ party.inviteList
  · obtain ⟨party, held, listed⟩ := invited
    have elsewhere : ∀ place, place ≠ address →
        (society.removeInvite events address player false).2.parties place = society.parties place := by
      intro place there
      rw [removeInvite_invited held listed]
      have same : (society.withdrawn address party player false).parties place = society.parties place := by
        rw [parties_withdrawn, if_neg there]
      split_ifs
      · cases answer : events.eventPartyOnDisband address with
        | false => rw [disband_vetoed answer, same]
        | true =>
          have effect := disbanded_withdrawn society party player false answer
          rw [effect.parties, if_neg there, same]
      · exact same
    have here : ∀ rest, (society.removeInvite events address player false).2.parties address = some rest →
        player ∉ rest.inviteList := by
      intro rest left
      have once : player ∉ party.inviteList.erase player := (grounded.nodup address party held).not_mem_erase
      rw [removeInvite_invited held listed] at left
      have same : (society.withdrawn address party player false).parties address = some rest → player ∉ rest.inviteList := by
        intro left
        rw [parties_withdrawn, if_pos rfl] at left
        cases left
        exact once
      split_ifs at left
      · cases answer : events.eventPartyOnDisband address with
        | false =>
          rw [disband_vetoed answer] at left
          exact same left
        | true =>
          have effect := disbanded_withdrawn society party player false answer
          rw [effect.parties, if_pos rfl] at left
          cases left
      · exact same left
    by_cases there : place = address
    · subst there
      constructor
      · rintro ⟨rest, left, listed, _⟩
        exact absurd listed (here rest left)
      · exact fun both => absurd rfl both.1
    · simp only [Withdraws, elsewhere place there, ne_eq, there, not_false_eq_true, true_and]
  · rw [removeInvite_uninvited (fun party held listed => invited ⟨party, held, listed⟩)]
    constructor
    · rintro ⟨party, held, listed, rest⟩
      refine ⟨?_, party, held, listed, rest⟩
      rintro rfl
      exact invited ⟨party, held, listed⟩
    · exact And.right

theorem points_foldl (grounded : Grounded society) (addresses : List PartyPtr) (place : PartyPtr) :
    (addresses.foldl (fun society address => (society.removeInvite events address player false).2) society).partyOf other =
        some place ↔
      society.partyOf other = some place ∧ ∀ address ∈ addresses, ¬ society.Withdraws events address player other := by
  induction addresses generalizing society with
  | nil => simp
  | cons address addresses ih =>
    rw [foldl_cons, ih (grounded.removeInvite events address player false), points_removeInvite]
    simp only [grounded.withdraws_removeInvite, forall_mem_cons, and_assoc]
    apply and_congr_right
    intro _
    apply and_congr_right
    intro first
    constructor
    · intro all other listed withdraws
      apply all other listed
      refine ⟨?_, withdraws⟩
      rintro rfl
      exact first withdraws
    · exact fun all other listed both => all other listed both.2

theorem points_clearPartyInvitations (grounded : Grounded society) (place : PartyPtr) :
    (society.clearPartyInvitations events player).partyOf other = some place ↔ society.partyOf other = some place ∧
      ∀ address ∈ society.invitePartyList player, ¬ society.Withdraws events address player other := by
  rw [Society.clearPartyInvitations, partyOf_forget]
  exact grounded.points_foldl _ place

theorem clearPartyInvitations (grounded : Grounded society) (events : PartyEvents) (player : PlayerId) :
    Grounded (society.clearPartyInvitations events player) := by
  rw [Society.clearPartyInvitations]
  exact (grounded.foldl_removeInvite events player _).of_same rfl (partyOf_forget _ player)

theorem onRemoveCreature (grounded : Grounded society) (events : PartyEvents) (player : PlayerId) :
    Grounded (society.onRemoveCreature events player) := by
  have cleared := grounded.clearPartyInvitations events player
  rw [Society.onRemoveCreature]
  generalize society.clearPartyInvitations events player = society at cleared
  have removed : ∀ {left : Society}, Grounded left →
      Grounded ((left.removeUserFromAllChannels player).putPlayer player .none) := by
    intro left grounded
    apply grounded.of_fewer
    · intro place party held
      exact held
    · intro other place points
      have before := points
      rw [partyOf_putPlayer_none] at before
      split_ifs at before
      exact ⟨before, rfl⟩
  cases own : society.partyOf player with
  | none => exact removed cleared
  | some address => exact removed (cleared.leaveParty events own true)

/-- A player that loses an invitation stays in its party. -/
theorem removeInvite_own (grounded : Grounded society) (events : PartyEvents) (own : society.partyOf player = some address) (place : PartyPtr)
    (removeFromPlayer : Bool) :
    (society.removeInvite events place player removeFromPlayer).2.partyOf player = some address ∧
      (society.removeInvite events place player removeFromPlayer).2.parties address = society.parties address := by
  by_cases invited : ∃ party, society.parties place = some party ∧ player ∈ party.inviteList
  · obtain ⟨party, held, listed⟩ := invited
    obtain ⟨away, under⟩ := grounded.outside place party held player listed
    have there : address ≠ place := fun same => away (same ▸ own)
    have kept : (society.withdrawn place party player removeFromPlayer).partyOf player = some address ∧
        (society.withdrawn place party player removeFromPlayer).parties address = society.parties address := by
      rw [partyOf_withdrawn, parties_withdrawn, if_neg there]
      exact ⟨own, rfl⟩
    rw [removeInvite_invited held listed]
    split_ifs with ends
    · cases answer : events.eventPartyOnDisband place with
      | false =>
        rw [disband_vetoed answer]
        exact kept
      | true =>
        have effect := disbanded_withdrawn society party player removeFromPlayer answer
        rw [effect.parties, if_neg there, effect.partyOf, if_neg]
        · exact kept
        · rintro (same | member)
          · exact under same
          · have listed : player ∈ party.memberList := member
            rw [ends.1] at listed
            cases listed
    · exact kept
  · rw [removeInvite_uninvited]
    · exact ⟨own, rfl⟩
    · exact fun party held listed => invited ⟨party, held, listed⟩

theorem clearPartyInvitations_own (grounded : Grounded society) (events : PartyEvents) (own : society.partyOf player = some address) :
    (society.clearPartyInvitations events player).partyOf player = some address ∧
      (society.clearPartyInvitations events player).parties address = society.parties address := by
  have kept : ∀ addresses : List PartyPtr, ∀ society : Society, Grounded society → society.partyOf player = some address →
      (addresses.foldl (fun society place => (society.removeInvite events place player false).2) society).partyOf player =
          some address ∧
        (addresses.foldl (fun society place => (society.removeInvite events place player false).2) society).parties address =
          society.parties address := by
    intro addresses
    induction addresses with
    | nil => exact fun society _ own => ⟨own, rfl⟩
    | cons place addresses ih =>
      intro society grounded own
      obtain ⟨own, same⟩ := grounded.removeInvite_own events own place false
      rw [foldl_cons, ← same]
      exact ih _ (grounded.removeInvite events place player false) own
  obtain ⟨own, same⟩ := kept (society.invitePartyList player) society grounded own
  rw [Society.clearPartyInvitations, partyOf_forget, parties_modifyPlayer]
  exact ⟨own, same⟩

theorem joined (grounded : Grounded society) (held : society.parties address = some party)
    (online : society.players player ≠ .none) : Grounded (society.joined address party player) := by
  apply grounded.of_party parties_joined
  · intro other
    rw [partyOf_joined online]
    split_ifs
    · exact .inr (.inr rfl)
    · exact .inl rfl
  · intro other points
    rw [partyOf_joined online] at points
    split_ifs at points with same
    · exact .inr (mem_append_right _ (mem_singleton.mpr same))
    · obtain ⟨own, found, of⟩ := grounded.inside other address points
      rw [held] at found
      cases found
      exact of.imp_right (mem_append_left _)
  · intro other invited
    obtain ⟨different, listed⟩ := (grounded.nodup address party held).mem_erase_iff.mp invited
    rw [partyOf_joined online, if_neg different]
    exact grounded.outside address party held other listed
  · exact (grounded.nodup address party held).erase player

theorem joinParty (grounded : Grounded society) (events : PartyEvents) (address : PartyPtr)
    (online : society.players player ≠ .none) : Grounded (society.joinParty events address player).2 := by
  cases answer : events.eventPartyOnJoin address player with
  | false =>
    rw [joinParty_refused answer]
    exact grounded
  | true =>
    by_cases invited : ∃ party, society.parties address = some party ∧ player ∈ party.inviteList
    · obtain ⟨party, held, listed⟩ := invited
      rw [joinParty_invited held listed answer]
      exact grounded.joined held online
    · rw [joinParty_uninvited (fun party held listed => invited ⟨party, held, listed⟩)]
      exact grounded

theorem invited (grounded : Grounded society) (held : society.parties address = some party) (absent : player ∉ party.inviteList)
    (away : society.partyOf player ≠ some address) (under : player ≠ party.leader) :
    Grounded (society.invited address party player) := by
  apply grounded.of_party parties_invited (fun _ => .inl partyOf_invited)
  · intro other points
    rw [partyOf_invited] at points
    obtain ⟨own, found, of⟩ := grounded.inside other address points
    rw [held] at found
    cases found
    exact of
  · intro other listed
    rw [partyOf_invited]
    rcases mem_append.mp listed with old | added
    · exact grounded.outside address party held other old
    · rw [mem_singleton.mp added]
      exact ⟨away, under⟩
  · exact nodup_append.mpr ⟨grounded.nodup address party held, nodup_singleton player,
      fun one listed two added same => absent (mem_singleton.mp added ▸ same ▸ listed)⟩

theorem newParty (grounded : Grounded society) (free : society.parties address = .none)
    (online : society.players player ≠ .none) : Grounded (society.newParty address player) := by
  apply grounded.of_party parties_newParty
  · intro other
    rw [partyOf_newParty online]
    split_ifs
    · exact .inr (.inr rfl)
    · exact .inl rfl
  · intro other points
    rw [partyOf_newParty online] at points
    split_ifs at points with same
    · exact .inl same
    · obtain ⟨own, found, _⟩ := grounded.inside other address points
      rw [free] at found
      cases found
  · intro other listed
    cases listed
  · exact nodup_nil

theorem deleted (grounded : Grounded society) (held : society.parties address = some party) (leads : party.leader = player)
    (alone : party.memberList = []) : Grounded ((society.setParty player .none).putParty address .none) := by
  have belongs : ∀ other, society.partyOf other = some address → other = player := by
    intro other points
    obtain ⟨own, found, of⟩ := grounded.inside other address points
    rw [held] at found
    cases found
    rw [alone, leads] at of
    exact of.resolve_right not_mem_nil
  apply grounded.of_fewer
  · intro place other found
    rw [parties_putParty] at found
    split_ifs at found
    exact found
  · intro other place points
    rw [partyOf_putParty, partyOf_setParty_none] at points
    split_ifs at points with same
    refine ⟨points, ?_⟩
    rw [parties_putParty, if_neg]
    · rfl
    · rintro rfl
      exact same (belongs other points)

theorem inviteToParty (grounded : Grounded society) (events : PartyEvents) (held : society.parties address = some party)
    (leads : party.leader = player) (away : society.partyOf other = .none) (different : player ≠ other) :
    Grounded (society.inviteToParty events address player other) := by
  rw [Society.inviteToParty]
  split_ifs with answer alone
  · by_cases absent : other ∈ party.inviteList
    · rw [invitePlayer, held]
      simp only [absent, if_true]
      exact grounded
    · rw [invitePlayer_invited held absent]
      apply grounded.invited held absent
      · rw [away]
        exact (Option.some_ne_none address).symm
      · exact fun same => different (leads.symm.trans same.symm)
  · rw [held, Option.any_some, Party.empty_iff] at alone
    exact grounded.deleted held leads alone.1
  · exact grounded

end Grounded

theorem leads_iff : society.leads player address = true ↔
    ∃ party, society.parties address = some party ∧ party.leader = player := by
  rw [leads]
  cases society.parties address with
  | none => simp
  | some party => simp

namespace Grounded

theorem playerInviteToParty (grounded : Grounded society) (events : PartyEvents) (free : PartyPtr) (player other : PlayerId) :
    Grounded (society.playerInviteToParty events free player other) := by
  rw [Society.playerInviteToParty]
  split
  · exact grounded
  next refused =>
    simp only [not_or, ne_eq, not_not] at refused
    obtain ⟨different, online, _, _, away⟩ := refused
    cases own : society.partyOf player with
    | none =>
      simp only
      split_ifs with unused
      · have made : (society.newParty free player).parties free = some ⟨player, [], []⟩ := by
          rw [parties_newParty, if_pos rfl]
        apply (grounded.newParty unused online).inviteToParty events made rfl _ different
        rw [partyOf_newParty online, if_neg (Ne.symm different), away]
      · exact grounded
    | some address =>
      simp only
      split_ifs with leads
      · obtain ⟨party, held, leads⟩ := leads_iff.mp leads
        exact grounded.inviteToParty events held leads away different
      · exact grounded

theorem playerJoinParty (grounded : Grounded society) (events : PartyEvents) (player leader : PlayerId) :
    Grounded (society.playerJoinParty events player leader) := by
  rw [Society.playerJoinParty]
  split_ifs with refused
  · exact grounded
  · rw [not_or] at refused
    cases society.partyOf leader with
    | none => exact grounded
    | some address =>
      simp only
      split_ifs
      · exact grounded
      · exact grounded.joinParty events address refused.1

theorem of_sameParties (grounded : Grounded before) (same : SameParties before after) : Grounded after := by
  apply grounded.of_same same.parties
  intro player
  rw [partyOf, partyOf, same.players]

theorem login (grounded : Grounded society) (player : PlayerId) (guid : Nat) (guild guildRank : Option Nat) :
    Grounded (society.login player guid guild guildRank) := by
  rw [Society.login]
  split_ifs with absent
  · exact grounded.of_same rfl (fun other => partyOf_putPlayer society player other absent rfl)
  · exact grounded

/-- What the scripts answer does not matter. -/
theorem step (grounded : Grounded society) (call : Op × PartyEvents) : Grounded (society.step call) := by
  obtain ⟨op, events⟩ := call
  cases op with
  | invite free player other => exact grounded.playerInviteToParty events free player other
  | join player leader => exact grounded.playerJoinParty events player leader
  | revoke player other =>
    simp only [Society.step, playerRevokePartyInvitation, revokeInvitation]
    split
    · exact grounded
    · split_ifs
      · exact grounded
      · exact grounded.removeInvite events _ other true
      · exact grounded
  | passLeadership player newLeader =>
    simp only [Society.step, playerPassPartyLeadership]
    split
    · exact grounded
    · split_ifs
      · exact grounded
      · exact grounded.passPartyLeadership events _ newLeader false
  | leave player inFight =>
    simp only [Society.step, playerLeaveParty]
    split
    · exact grounded
    next own =>
      split_ifs
      · exact grounded
      · exact grounded.leaveParty events own false
  | disband address => exact grounded.disband events address
  | logout player => exact grounded.onRemoveCreature events player
  | login player guid guild guildRank => exact grounded.login player guid guild guildRank
  | connect player => exact grounded.of_same rfl (fun _ => rfl)
  | setGuild player guild => exact grounded.of_same rfl (fun other => partyOf_setGuild society player other guild)
  | requestChannels player => exact grounded.of_sameParties (.getChannelList society player)
  | openChannel player channelId => exact grounded.of_sameParties (.addUserToChannel society player channelId)
  | closeChannel player channelId => exact grounded.of_sameParties (.removeUserFromChannel society player channelId)
  | talk player text channelId => exact grounded

theorem start : Grounded start :=
  ⟨nofun, nofun, nofun⟩

end Grounded

def allowing (disbands : Bool) : PartyEvents :=
  ⟨fun _ _ => true, fun _ _ => true, fun _ => disbands, fun _ _ => true, fun _ _ => true, fun _ _ => true⟩

/-- Two players come into the game; the first invites the second to a party, and the second joins. -/
def pairUp : List (Op × PartyEvents) :=
  [(.login 1 11 none none, allowing true), (.login 2 12 none none, allowing true), (.invite 10 1 2, allowing true),
    (.join 2 1, allowing true)]

end Styller.Society
