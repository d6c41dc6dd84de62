import Styller.Library.Run
import Styller.Party.Grounded

/-! The four places in which membership and invitations are kept agree, as long as no script keeps a party that has
lost its leader. -/

namespace Styller.Society

open Library List Function

/-- The parties agree with the players, and with lists of the invitations of every player. -/
structure Agrees (society : Society) (lists : PlayerId → List PartyPtr) : Prop where
  leader : ∀ address party, society.parties address = some party → society.partyOf party.leader = some address
  notMember : ∀ address party, society.parties address = some party → party.leader ∉ party.memberList
  member : ∀ address party, society.parties address = some party →
    ∀ player ∈ party.memberList, society.partyOf player = some address
  nodup : ∀ address party, society.parties address = some party → party.memberList.Nodup
  invited : ∀ player address, (∃ party, society.parties address = some party ∧ player ∈ party.inviteList) ↔
    address ∈ lists player

/-- What is kept of parties agrees: the party of its leader and of its members is the party, they are different
players, and a player is invited by just the parties of its list. -/
def Membership (society : Society) : Prop := Agrees society society.invitePartyList

variable {society before after : Society} {player other : PlayerId} {address : PartyPtr} {party rest : Party}
  {events : PartyEvents} {lists others : PlayerId → List PartyPtr}

namespace Agrees

theorem relist (agrees : Agrees society lists) (same : ∀ player place, place ∈ others player ↔ place ∈ lists player) :
    Agrees society others :=
  ⟨agrees.leader, agrees.notMember, agrees.member, agrees.nodup,
    fun player place => (agrees.invited player place).trans (same player place).symm⟩

theorem of_same (agrees : Agrees before lists) (parties : after.parties = before.parties)
    (partyOf : ∀ player, after.partyOf player = before.partyOf player) : Agrees after lists := by
  constructor
  · intro place party held
    rw [partyOf]
    exact agrees.leader place party (parties ▸ held)
  · intro place party held
    exact agrees.notMember place party (parties ▸ held)
  · intro place party held player member
    rw [partyOf]
    exact agrees.member place party (parties ▸ held) player member
  · intro place party held
    exact agrees.nodup place party (parties ▸ held)
  · rw [parties]
    exact agrees.invited

/-- Where only a party has changed, and who is in it. -/
theorem of_party (agrees : Agrees before lists)
    (parties : ∀ place, after.parties place = if place = address then some rest else before.parties place)
    (partyOf : ∀ player place, place ≠ address → before.partyOf player = some place → after.partyOf player = some place)
    (leader : after.partyOf rest.leader = some address) (notMember : rest.leader ∉ rest.memberList)
    (member : ∀ player ∈ rest.memberList, after.partyOf player = some address) (nodup : rest.memberList.Nodup)
    (invited : ∀ player, player ∈ rest.inviteList ↔ address ∈ others player)
    (elsewhere : ∀ player place, place ≠ address → (place ∈ others player ↔ place ∈ lists player)) :
    Agrees after others := by
  have found : ∀ place party, after.parties place = some party →
      place = address ∧ party = rest ∨ place ≠ address ∧ before.parties place = some party := by
    intro place party held
    rw [parties] at held
    by_cases here : place = address
    · rw [if_pos here] at held
      exact .inl ⟨here, (Option.some.inj held).symm⟩
    · rw [if_neg here] at held
      exact .inr ⟨here, held⟩
  constructor
  · intro place party held
    rcases found place party held with ⟨rfl, rfl⟩ | ⟨there, held⟩
    · exact leader
    · exact partyOf _ place there (agrees.leader place party held)
  · intro place party held
    rcases found place party held with ⟨rfl, rfl⟩ | ⟨there, held⟩
    · exact notMember
    · exact agrees.notMember place party held
  · intro place party held player listed
    rcases found place party held with ⟨rfl, rfl⟩ | ⟨there, held⟩
    · exact member player listed
    · exact partyOf player place there (agrees.member place party held player listed)
  · intro place party held
    rcases found place party held with ⟨rfl, rfl⟩ | ⟨there, held⟩
    · exact nodup
    · exact agrees.nodup place party held
  · intro player place
    by_cases here : place = address
    · simp only [parties, here, if_true, Option.some.injEq, exists_eq_left']
      exact invited player
    · simp only [parties, here, if_false]
      exact (agrees.invited player place).trans (elsewhere player place here).symm

theorem gone (agrees : Agrees before lists)
    (parties : ∀ place, after.parties place = if place = address then .none else before.parties place)
    (partyOf : ∀ player place, place ≠ address → before.partyOf player = some place → after.partyOf player = some place)
    (invitations : ∀ player place, place ∈ others player ↔ place ∈ lists player ∧ place ≠ address) : Agrees after others := by
  have found : ∀ place party, after.parties place = some party → place ≠ address ∧ before.parties place = some party := by
    intro place party held
    rw [parties] at held
    split_ifs at held with here
    exact ⟨here, held⟩
  constructor
  · intro place party held
    obtain ⟨there, held⟩ := found place party held
    exact partyOf _ place there (agrees.leader place party held)
  · intro place party held
    exact agrees.notMember place party (found place party held).2
  · intro place party held player listed
    obtain ⟨there, held⟩ := found place party held
    exact partyOf player place there (agrees.member place party held player listed)
  · intro place party held
    exact agrees.nodup place party (found place party held).2
  · intro player place
    rw [invitations, ← agrees.invited, parties]
    by_cases here : place = address
    · simp [here]
    · simp [here]

/-- Whoever is in another party is not one of this one. -/
theorem elsewhere (agrees : Agrees society lists) (held : society.parties address = some party) {place : PartyPtr}
    (there : place ≠ address) (points : society.partyOf player = some place) :
    player ≠ party.leader ∧ player ∉ party.memberList := by
  constructor
  · rintro rfl
    rw [agrees.leader address party held] at points
    exact there (Option.some.inj points).symm
  · intro member
    rw [agrees.member address party held player member] at points
    exact there (Option.some.inj points).symm

theorem disbanded (agrees : Agrees before lists) (held : before.parties address = some party)
    {society : Society} (parties : ∀ place, place ≠ address → society.parties place = before.parties place)
    (partyOf : ∀ player place, place ≠ address → before.partyOf player = some place → society.partyOf player = some place)
    (effect : Disbanded address rest society after) (leader : rest.leader = party.leader)
    (members : ∀ player ∈ rest.memberList, player ∈ party.memberList)
    (invitations : ∀ player place, place ∈ others player ↔ place ∈ lists player ∧ place ≠ address) : Agrees after others := by
  have fewer : ∀ place, after.parties place = if place = address then .none else before.parties place := by
    intro place
    rw [effect.parties]
    split_ifs with here
    · rfl
    · exact parties place here
  apply agrees.gone fewer _ invitations
  · intro player place there points
    obtain ⟨under, apart⟩ := agrees.elsewhere held there points
    rw [effect.partyOf, if_neg]
    · exact partyOf player place there points
    · rw [leader]
      rintro (same | member)
      · exact under same
      · exact apart (members player member)

section

variable (agrees : Agrees society lists) (held : society.parties address = some party)

include agrees held

/-- A leader that has a successor hands over. -/
theorem rest_spec (goes : Rest society address party player rest) (several : ¬ party.Headless player) :
    rest.leader ≠ player ∧ society.partyOf rest.leader = some address ∧ rest.leader ∉ rest.memberList ∧
      (∀ other ∈ rest.memberList, other ≠ player ∧ other ∈ party.memberList) ∧ rest.memberList.Nodup := by
  have nodup := agrees.nodup address party held
  have notMember := agrees.notMember address party held
  cases goes with
  | member under =>
    refine ⟨under, agrees.leader address party held, fun member => notMember (mem_of_mem_erase member), ?_,
      nodup.erase player⟩
    intro other member
    exact nodup.mem_erase_iff.mp member
  | headless alone => exact absurd alone several
  | @handed front others leads _ members heir another =>
    rw [members] at nodup
    obtain ⟨apart, nodup⟩ := nodup_cons.mp nodup
    refine ⟨another, heir, apart, ?_, nodup⟩
    intro other member
    have listed : other ∈ party.memberList := members ▸ mem_cons_of_mem front member
    exact ⟨fun same => notMember (leads ▸ same ▸ listed), listed⟩
  | @stuck front others leads _ members unfit =>
    have listed : front ∈ party.memberList := members ▸ mem_cons_self
    rcases unfit with same | away
    · exact absurd (leads ▸ same ▸ listed) notMember
    · exact absurd (agrees.member address party held front listed) away

theorem withRest (own : society.partyOf player = some address) (goes : Rest society address party player rest)
    (several : ¬ party.Headless player) : Agrees (society.withRest address rest player) lists := by
  obtain ⟨another, heir, notMember, members, nodup⟩ := agrees.rest_spec held goes several
  apply agrees.of_party (parties_withRest rest) _ _ notMember _ nodup
  · intro other
    rw [Grounded.rest_inviteList goes, ← agrees.invited]
    simp only [held, Option.some.injEq, exists_eq_left']
  · exact fun _ _ _ => Iff.rfl
  · intro other place there points
    rw [partyOf_withRest, if_neg]
    · exact points
    · rintro rfl
      rw [own] at points
      exact there (Option.some.inj points).symm
  · rw [partyOf_withRest, if_neg another]
    exact heir
  · intro other member
    obtain ⟨different, listed⟩ := members other member
    rw [partyOf_withRest, if_neg different]
    exact agrees.member address party held other listed

/-- Everybody whom the party has invited has it in the list. -/
theorem mem_lists_iff (player : PlayerId) (place : PartyPtr) :
    place ∈ lists player ∧ ¬ (player ∈ party.inviteList ∧ place = address) ↔ place ∈ lists player ∧ place ≠ address := by
  apply and_congr_right
  intro listed
  constructor
  · rintro apart rfl
    obtain ⟨own, found, invited⟩ := (agrees.invited player place).mpr listed
    rw [held] at found
    cases found
    exact apart ⟨invited, rfl⟩
  · exact fun there both => there both.2

end

end Agrees

theorem Membership.ended (membership : Membership society) (held : society.parties address = some party)
    (own : society.partyOf player = some address) (goes : Rest society address party player rest)
    (ends : party.Headless player ∨ party.Last player) (answer : events.eventPartyOnDisband address = true) :
    Membership ((society.withRest address rest player).disband events address) := by
  have same : rest.leader = party.leader ∧ ∀ other ∈ rest.memberList, other ∈ party.memberList := by
    cases goes with
    | member under => exact ⟨rfl, fun _ => mem_of_mem_erase⟩
    | headless alone => exact ⟨rfl, fun _ => mem_of_mem_erase⟩
    | handed leads several members heir another => exact absurd leads (ends.resolve_left several).1
    | stuck leads several members unfit => exact ⟨rfl, fun _ => mem_of_mem_erase⟩
  have effect := disbanded_withRest society rest player answer
  apply Agrees.disbanded membership held _ _ effect same.1 same.2
  · intro other place
    rw [effect.invitations, Grounded.rest_inviteList goes, ← membership.mem_lists_iff held]
    rw [Society.withRest, invitePartyList_setParty, invitePartyList_putParty]
  · intro place there
    rw [parties_withRest, if_neg there]
  · intro other place there points
    rw [partyOf_withRest, if_neg]
    · exact points
    · rintro rfl
      rw [own] at points
      exact there (Option.some.inj points).symm

theorem Membership.disband (membership : Membership society) (events : PartyEvents) (address : PartyPtr) :
    Membership (society.disband events address) := by
  cases held : society.parties address with
  | none =>
    rw [Society.disband, held]
    exact membership
  | some party =>
    cases answer : events.eventPartyOnDisband address with
    | false =>
      rw [disband_vetoed answer]
      exact membership
    | true =>
      have effect := Society.disbanded held answer
      apply Agrees.disbanded membership held (fun _ _ => rfl) (fun _ _ _ => id) effect rfl (fun _ => id)
      intro other place
      rw [effect.invitations, ← membership.mem_lists_iff held]

/-- A player leaves. Only a party that has lost its leader must not be kept. -/
theorem Membership.leaveParty (membership : Membership society) (held : society.parties address = some party)
    (own : society.partyOf player = some address) (forceRemove : Bool)
    (kept : (forceRemove = true ∨ events.eventPartyOnLeave address player = true) → party.Headless player →
      events.eventPartyOnDisband address = true) :
    Membership (society.leaveParty events address player forceRemove).2 := by
  by_cases allowed : forceRemove = true ∨ events.eventPartyOnLeave address player = true
  · obtain ⟨rest, goes, result⟩ := leaveParty_rest events held own allowed
    have stays : ¬ party.Headless player → Membership (society.withRest address rest player) := by
      intro several
      apply (membership.withRest held own goes several).relist
      intro other place
      rw [Society.withRest, invitePartyList_setParty, invitePartyList_putParty]
    rw [result]
    split_ifs with ends
    · cases answer : events.eventPartyOnDisband address with
      | true => exact membership.ended held own goes ends answer
      | false =>
        rw [disband_vetoed answer]
        apply stays
        intro alone
        rw [kept allowed alone] at answer
        cases answer
    · exact stays (fun alone => ends (.inl alone))
  · rw [not_or, Bool.not_eq_true, Bool.not_eq_true] at allowed
    rw [allowed.1, leaveParty_refused held allowed.2]
    exact membership

theorem not_membership_leaveParty (held : society.parties address = some party)
    (own : society.partyOf player = some address) (forceRemove : Bool)
    (allowed : forceRemove = true ∨ events.eventPartyOnLeave address player = true) (alone : party.Headless player)
    (answer : events.eventPartyOnDisband address = false) :
    (society.leaveParty events address player forceRemove).2.partyOf player = .none ∧
      ∃ rest, (society.leaveParty events address player forceRemove).2.parties address = some rest ∧ rest.leader = player := by
  obtain ⟨rest, goes, result⟩ := leaveParty_rest events held own allowed
  rw [result, if_pos (.inl alone), disband_vetoed answer, partyOf_withRest, parties_withRest, if_pos rfl, if_pos rfl]
  refine ⟨rfl, rest, rfl, ?_⟩
  cases goes with
  | member under => exact absurd alone.1 under
  | headless _ => exact alone.1
  | handed leads several members heir another => exact absurd alone several
  | stuck leads several members unfit => exact absurd alone several

theorem Agrees.removeInvite (agrees : Agrees society lists) (held : society.parties address = some party)
    (listed : player ∈ party.inviteList) (once : party.inviteList.Nodup) (removeFromPlayer : Bool)
    (invitations : ∀ other place, place ∈ others other ↔
      place ∈ lists other ∧ ¬ (other = player ∧ place = address)) :
    Agrees (society.removeInvite events address player removeFromPlayer).2 others := by
  have invited : ∀ other, other ∈ party.inviteList ↔ address ∈ lists other := by
    intro other
    rw [← agrees.invited]
    simp only [held, Option.some.injEq, exists_eq_left']
  have kept : Agrees (society.withdrawn address party player removeFromPlayer) others := by
    apply agrees.of_party parties_withdrawn
    · intro other place _ points
      rw [partyOf_withdrawn]
      exact points
    · rw [partyOf_withdrawn]
      exact agrees.leader address party held
    · exact agrees.notMember address party held
    · intro other member
      rw [partyOf_withdrawn]
      exact agrees.member address party held other member
    · exact agrees.nodup address party held
    · intro other
      rw [once.mem_erase_iff, invitations, ← invited]
      simp only [and_true]
      exact And.comm
    · intro other place there
      rw [invitations]
      simp only [there, and_false, not_false_eq_true, and_true]
  rw [removeInvite_invited held listed]
  split_ifs with ends
  · cases answer : events.eventPartyOnDisband address with
    | false =>
      rw [disband_vetoed answer]
      exact kept
    | true =>
      have effect := disbanded_withdrawn society party player removeFromPlayer answer
      apply agrees.disbanded held _ _ effect rfl (fun _ => id)
      · intro other place
        rw [invitations]
        apply and_congr_right
        intro present
        constructor
        · rintro apart rfl
          have none : other ∉ party.inviteList.erase player := by
            rw [ends.2]
            exact not_mem_nil
          exact none (once.mem_erase_iff.mpr ⟨fun same => apart ⟨same, rfl⟩, (invited other).mpr present⟩)
        · exact fun there both => there both.2
      · intro place there
        rw [parties_withdrawn, if_neg there]
      · intro other place _ points
        rw [partyOf_withdrawn]
        exact points
  · exact kept

theorem Membership.removeInvite (membership : Membership society) (grounded : Grounded society) (address : PartyPtr)
    (player : PlayerId) : Membership (society.removeInvite events address player true).2 := by
  by_cases invited : ∃ party, society.parties address = some party ∧ player ∈ party.inviteList
  · obtain ⟨party, held, listed⟩ := invited
    apply Agrees.removeInvite membership held listed (grounded.nodup address party held)
    intro other place
    rw [mem_removeInvite held listed]
    simp only [true_and]
  · rw [removeInvite_uninvited]
    · exact membership
    · exact fun party held listed => invited ⟨party, held, listed⟩

theorem Agrees.foldl_removeInvite (events : PartyEvents) {remaining addresses : List PartyPtr}
    (agrees : Agrees society (update lists player remaining)) (grounded : Grounded society)
    (still : ∀ place ∈ remaining, place ∈ addresses) :
    Agrees (addresses.foldl (fun society address => (society.removeInvite events address player false).2) society)
      (update lists player []) := by
  induction addresses generalizing society remaining with
  | nil =>
    have none : remaining = [] := eq_nil_iff_forall_not_mem.mpr (fun place listed => not_mem_nil (still place listed))
    rw [none] at agrees
    exact agrees
  | cons address addresses ih =>
    rw [foldl_cons]
    by_cases here : address ∈ remaining
    · obtain ⟨party, held, listed⟩ := (agrees.invited player address).mpr (by rw [update_self]; exact here)
      have taken : Agrees (society.removeInvite events address player false).2
          (update lists player (remaining.filter (· ≠ address))) := by
        apply agrees.removeInvite held listed (grounded.nodup address party held)
        intro other place
        by_cases same : other = player
        · simp [same]
        · simp [same]
      apply ih taken (grounded.removeInvite events address player false)
      intro place kept
      obtain ⟨kept, there⟩ := mem_filter.mp kept
      exact (mem_cons.mp (still place kept)).resolve_left (of_decide_eq_true there)
    · rw [removeInvite_uninvited]
      · apply ih agrees grounded
        intro place kept
        refine (mem_cons.mp (still place kept)).resolve_left ?_
        rintro rfl
        exact here kept
      · intro party held listed
        have present := (agrees.invited player address).mp ⟨party, held, listed⟩
        rw [update_self] at present
        exact here present

theorem mem_foldl_removeInvite (addresses : List PartyPtr) (society : Society) (other : PlayerId) (place : PartyPtr) :
    place ∈ (addresses.foldl (fun society address => (society.removeInvite events address player false).2) society).invitePartyList
      other ↔ place ∈ society.invitePartyList other := by
  induction addresses generalizing society with
  | nil => rfl
  | cons address addresses ih =>
    rw [foldl_cons, ih]
    by_cases invited : ∃ party, society.parties address = some party ∧ player ∈ party.inviteList
    · obtain ⟨party, held, listed⟩ := invited
      rw [mem_removeInvite held listed]
      simp only [Bool.false_eq_true, false_and, not_false_eq_true, and_true]
    · rw [removeInvite_uninvited]
      exact fun party held listed => invited ⟨party, held, listed⟩

theorem invitePartyList_forget (society : Society) (player other : PlayerId) :
    (society.modifyPlayer player (fun object => { object with invitePartyList := [] })).invitePartyList other =
      if other = player then [] else society.invitePartyList other := by
  rw [invitePartyList, players_modifyPlayer]
  split_ifs
  · cases society.players player with
    | none => rfl
    | some object => rfl
  · rfl

theorem Membership.clearPartyInvitations (membership : Membership society) (grounded : Grounded society)
    (events : PartyEvents) (player : PlayerId) : Membership (society.clearPartyInvitations events player) := by
  rw [Society.clearPartyInvitations]
  have before : Agrees society (update society.invitePartyList player (society.invitePartyList player)) := by
    rw [update_eq_self]
    exact membership
  have cleared := before.foldl_removeInvite events grounded (fun _ => id)
  apply (cleared.of_same (parties_modifyPlayer _ player _) (partyOf_forget _ player)).relist
  intro other place
  rw [invitePartyList_forget, update_apply]
  split_ifs
  · rfl
  · exact mem_foldl_removeInvite _ society other place

theorem partyOf_leaveParty (held : society.parties address = some party) (own : society.partyOf player = some address) :
    (society.leaveParty events address player true).2.partyOf player = .none := by
  obtain ⟨rest, goes, result⟩ := leaveParty_rest events held own (.inl rfl)
  have gone : (society.withRest address rest player).partyOf player = .none := by
    rw [partyOf_withRest, if_pos rfl]
  rw [result]
  split_ifs
  · cases answer : events.eventPartyOnDisband address with
    | false =>
      rw [disband_vetoed answer]
      exact gone
    | true =>
      have effect := disbanded_withRest society rest player answer
      rw [effect.partyOf, gone, ite_self]
  · exact gone

theorem mem_of_mem_leaveParty (held : society.parties address = some party) (own : society.partyOf player = some address)
    {place : PartyPtr} (listed : place ∈ (society.leaveParty events address player true).2.invitePartyList other) :
    place ∈ society.invitePartyList other := by
  obtain ⟨rest, goes, result⟩ := leaveParty_rest events held own (.inl rfl)
  have same : (society.withRest address rest player).invitePartyList other = society.invitePartyList other := by
    rw [Society.withRest, invitePartyList_setParty, invitePartyList_putParty]
  rw [result] at listed
  split_ifs at listed
  · cases answer : events.eventPartyOnDisband address with
    | false =>
      rw [disband_vetoed answer, same] at listed
      exact listed
    | true =>
      have effect := disbanded_withRest society rest player answer
      rw [effect.invitations, same] at listed
      exact listed.1
  · rw [same] at listed
    exact listed

theorem invitePartyList_putPlayer (society : Society) (player other : PlayerId) (object : Option PartyPlayer) :
    (society.putPlayer player object).invitePartyList other =
      if other = player then (object.map PartyPlayer.invitePartyList).getD [] else society.invitePartyList other := by
  simp only [invitePartyList, putPlayer, update_apply]
  split_ifs
  · rfl
  · rfl

/-- A player that is in no party and has no invitation can go. -/
theorem Membership.putPlayer_none (membership : Membership society) (player : PlayerId) (out : society.partyOf player = .none)
    (uninvited : society.invitePartyList player = []) : Membership (society.putPlayer player .none) := by
  have same : ∀ other, (society.putPlayer player .none).partyOf other = society.partyOf other := by
    intro other
    rw [partyOf_putPlayer_none]
    split_ifs with here
    · rw [here, out]
    · rfl
  have kept : Agrees (society.putPlayer player .none) society.invitePartyList := Agrees.of_same membership rfl same
  apply kept.relist
  intro other place
  rw [invitePartyList_putPlayer]
  split_ifs with here
  · rw [here, uninvited]
    rfl
  · rfl

theorem clearPartyInvitations_list (society : Society) (events : PartyEvents) (player : PlayerId) :
    (society.clearPartyInvitations events player).invitePartyList player = [] := by
  rw [Society.clearPartyInvitations, invitePartyList_forget, if_pos rfl]

theorem Membership.onRemoveCreature (membership : Membership society) (grounded : Grounded society) (player : PlayerId)
    (kept : ∀ address party, society.partyOf player = some address → society.parties address = some party →
      party.Headless player → events.eventPartyOnDisband address = true) :
    Membership (society.onRemoveCreature events player) := by
  have cleared := membership.clearPartyInvitations grounded events player
  have firm := grounded.clearPartyInvitations events player
  have uninvited := society.clearPartyInvitations_list events player
  have silent : ∀ {society : Society}, Membership society → Membership (society.removeUserFromAllChannels player) :=
    fun membership => Agrees.of_same membership rfl (fun _ => rfl)
  rw [Society.onRemoveCreature]
  cases own : (society.clearPartyInvitations events player).partyOf player with
  | none => exact (silent cleared).putPlayer_none player own uninvited
  | some address =>
    have before := ((grounded.points_clearPartyInvitations address).mp own).1
    obtain ⟨party, held, _⟩ := firm.inside player address own
    have same := (grounded.clearPartyInvitations_own events before).2
    have left := cleared.leaveParty held own true (fun _ => kept address party before (same ▸ held))
    apply (silent left).putPlayer_none player
    · exact partyOf_leaveParty held own
    · apply eq_nil_iff_forall_not_mem.mpr
      intro place listed
      have present := mem_of_mem_leaveParty held own listed
      rw [uninvited] at present
      cases present

/-- A leader that goes while a script keeps the party stays its leader. -/
theorem not_membership_onRemoveCreature (grounded : Grounded society) (own : society.partyOf player = some address)
    (held : society.parties address = some party) (alone : party.Headless player)
    (answer : events.eventPartyOnDisband address = false) : ¬ Membership (society.onRemoveCreature events player) := by
  obtain ⟨points, same⟩ := grounded.clearPartyInvitations_own events own
  rw [Society.onRemoveCreature, points]
  obtain ⟨_, rest, found, leads⟩ := not_membership_leaveParty (same.trans held) points true (.inl rfl) alone answer
  intro membership
  have pointer := membership.leader address rest found
  rw [partyOf_putPlayer_none, if_pos leads] at pointer
  cases pointer

theorem Membership.passPartyLeadership (membership : Membership society) (events : PartyEvents) (address : PartyPtr)
    (player : PlayerId) (forceRemove : Bool) :
    Membership (society.passPartyLeadership events address player forceRemove).2 := by
  rw [Society.passPartyLeadership]
  cases held : society.parties address with
  | none => exact membership
  | some party =>
    simp only
    split_ifs with unfit
    · exact membership
    · exact membership
    · rw [not_or, ne_eq, not_not] at unfit
      have nodup := membership.nodup address party held
      have notMember := membership.notMember address party held
      apply Agrees.of_party membership (parties_putParty society address _)
      · exact fun _ _ _ points => points
      · exact unfit.2
      · intro member
        rcases mem_cons.mp member with same | member
        · exact unfit.1 same.symm
        · exact (nodup.mem_erase_iff.mp member).1 rfl
      · intro other member
        rcases mem_cons.mp member with rfl | member
        · exact membership.leader address party held
        · exact membership.member address party held other (mem_of_mem_erase member)
      · exact nodup_cons.mpr ⟨fun member => notMember (mem_of_mem_erase member), nodup.erase player⟩
      · intro other
        rw [invitePartyList_putParty, ← Agrees.invited membership]
        simp only [held, Option.some.injEq, exists_eq_left']
      · exact fun _ _ _ => Iff.rfl

theorem Membership.joined (membership : Membership society) (grounded : Grounded society)
    (held : society.parties address = some party) (listed : player ∈ party.inviteList)
    (online : society.players player ≠ .none) (free : society.partyOf player = .none) :
    Membership (society.joined address party player) := by
  have apart : ∀ other place, society.partyOf other = some place → other ≠ player := by
    rintro other place points rfl
    rw [free] at points
    cases points
  have leader := membership.leader address party held
  have member := membership.member address party held
  apply Agrees.of_party membership parties_joined
  · intro other place _ points
    rw [partyOf_joined online, if_neg (apart other place points)]
    exact points
  · rw [partyOf_joined online, if_neg (apart _ address leader)]
    exact leader
  · intro listed
    rcases mem_append.mp listed with old | added
    · exact membership.notMember address party held old
    · exact apart _ address leader (mem_singleton.mp added)
  · intro other listed
    rw [partyOf_joined online]
    split_ifs with same
    · rfl
    · rcases mem_append.mp listed with old | added
      · exact member other old
      · exact absurd (mem_singleton.mp added) same
  · exact nodup_append.mpr ⟨membership.nodup address party held, nodup_singleton player,
      fun one listed two added => (mem_singleton.mp added).symm ▸ apart one address (member one listed)⟩
  · intro other
    rw [Society.joined, invitePartyList_removePartyInvitation, invitePartyList_setParty, invitePartyList_putParty,
      (grounded.nodup address party held).mem_erase_iff]
    have invited := Agrees.invited membership other address
    simp only [held, Option.some.injEq, exists_eq_left'] at invited
    split_ifs with same
    · simp [same]
    · simp [same, invited]
  · intro other place there
    rw [Society.joined, invitePartyList_removePartyInvitation, invitePartyList_setParty, invitePartyList_putParty]
    split_ifs
    · simp [there]
    · rfl

theorem Membership.invited (membership : Membership society) (held : society.parties address = some party)
    (online : society.players player ≠ .none) : Membership (society.invited address party player) := by
  apply Agrees.of_party membership parties_invited
  · intro other place _ points
    rw [partyOf_invited]
    exact points
  · rw [partyOf_invited]
    exact membership.leader address party held
  · exact membership.notMember address party held
  · intro other member
    rw [partyOf_invited]
    exact membership.member address party held other member
  · exact membership.nodup address party held
  · intro other
    have invited := Agrees.invited membership other address
    simp only [held, Option.some.injEq, exists_eq_left'] at invited
    rw [Society.invited, mem_addPartyInvitation _ _ _ _ (by exact online), invitePartyList_putParty, mem_append,
      mem_singleton, invited, or_comm]
    simp only [and_true]
  · intro other place there
    rw [Society.invited, mem_addPartyInvitation _ _ _ _ (by exact online), invitePartyList_putParty]
    simp only [there, and_false, false_or]

theorem Membership.newParty (membership : Membership society) (unused : society.parties address = .none)
    (online : society.players player ≠ .none) (free : society.partyOf player = .none) :
    Membership (society.newParty address player) := by
  apply Agrees.of_party membership parties_newParty
  · intro other place _ points
    rw [partyOf_newParty online, if_neg]
    · exact points
    · rintro rfl
      rw [free] at points
      cases points
  · rw [partyOf_newParty online, if_pos rfl]
  · exact not_mem_nil
  · exact fun _ member => absurd member not_mem_nil
  · exact nodup_nil
  · intro other
    rw [Society.newParty, invitePartyList_setParty, invitePartyList_putParty, ← Agrees.invited membership]
    simp [unused]
  · intro other place _
    rw [Society.newParty, invitePartyList_setParty, invitePartyList_putParty]

theorem Membership.deleted (membership : Membership society) (held : society.parties address = some party)
    (leads : party.leader = player) (alone : party.empty = true) :
    Membership ((society.setParty player .none).putParty address .none) := by
  rw [Party.empty_iff] at alone
  apply Agrees.gone membership (parties_putParty (society.setParty player .none) address .none)
  · intro other place there points
    rw [partyOf_putParty, partyOf_setParty_none, if_neg]
    · exact points
    · rw [← leads]
      exact (membership.elsewhere held there points).1
  · intro other place
    rw [invitePartyList_putParty, invitePartyList_setParty, ← membership.mem_lists_iff held, alone.2]
    simp only [not_mem_nil, false_and, not_false_eq_true, and_true]

theorem Membership.inviteToParty (membership : Membership society) (held : society.parties address = some party)
    (leads : party.leader = player) (online : society.players other ≠ .none) :
    Membership (society.inviteToParty events address player other) := by
  rw [Society.inviteToParty]
  split_ifs with answer alone
  · by_cases absent : other ∈ party.inviteList
    · rw [invitePlayer, held]
      simp only [absent, if_true]
      exact membership
    · rw [invitePlayer_invited held absent]
      exact membership.invited held online
  · rw [held, Option.any_some] at alone
    exact membership.deleted held leads alone
  · exact membership

theorem online_newParty (online : society.players other ≠ .none) : (society.newParty address player).players other ≠ .none := by
  have same : SameChats society (society.newParty address player) := (SameChats.putParty society address _).trans (.setParty _ player _)
  exact fun gone => online ((same.online other).mp gone)

theorem Membership.playerInviteToParty (membership : Membership society) (free : PartyPtr) (player other : PlayerId) :
    Membership (society.playerInviteToParty events free player other) := by
  rw [Society.playerInviteToParty]
  split
  · exact membership
  next refused =>
    simp only [not_or, ne_eq, not_not] at refused
    obtain ⟨_, online, invited, _, _⟩ := refused
    cases own : society.partyOf player with
    | none =>
      simp only
      split_ifs with unused
      · have made : (society.newParty free player).parties free = some ⟨player, [], []⟩ := by
          rw [parties_newParty, if_pos rfl]
        exact (membership.newParty unused online own).inviteToParty made rfl (online_newParty invited)
      · exact membership
    | some address =>
      simp only
      split_ifs with leads
      · obtain ⟨party, held, leads⟩ := leads_iff.mp leads
        exact membership.inviteToParty held leads invited
      · exact membership

theorem Membership.playerJoinParty (membership : Membership society) (grounded : Grounded society) (player leader : PlayerId) :
    Membership (society.playerJoinParty events player leader) := by
  rw [Society.playerJoinParty]
  split
  · exact membership
  next refused =>
    rw [not_or] at refused
    cases society.partyOf leader with
    | none => exact membership
    | some address =>
      simp only
      split_ifs with barred
      · exact membership
      · rw [not_or, ne_eq, not_not] at barred
        cases answer : events.eventPartyOnJoin address player with
        | false =>
          rw [joinParty_refused answer]
          exact membership
        | true =>
          by_cases invited : ∃ party, society.parties address = some party ∧ player ∈ party.inviteList
          · obtain ⟨party, held, listed⟩ := invited
            rw [joinParty_invited held listed answer]
            exact membership.joined grounded held listed refused.1 barred.2
          · rw [joinParty_uninvited (fun party held listed => invited ⟨party, held, listed⟩)]
            exact membership

/-- A script keeps a party whose leader goes, by request or out of the game, and that nobody takes over. -/
def Vetoes (society : Society) : Op × PartyEvents → Prop
  | (.leave player inFight, events) => inFight = false ∧ ∃ address party, society.partyOf player = some address ∧
      society.parties address = some party ∧ party.Headless player ∧ events.eventPartyOnLeave address player = true ∧
        events.eventPartyOnDisband address = false
  | (.logout player, events) => ∃ address party, society.partyOf player = some address ∧
      society.parties address = some party ∧ party.Headless player ∧ events.eventPartyOnDisband address = false
  | _ => False

theorem Membership.login (membership : Membership society) (player : PlayerId) (guid : Nat) (guild guildRank : Option Nat) :
    Membership (society.login player guid guild guildRank) := by
  rw [Society.login]
  split_ifs with absent
  · have kept : Agrees (society.putPlayer player (some ⟨guid, guild, guildRank, .none, []⟩)) society.invitePartyList :=
      Agrees.of_same membership rfl (fun other => partyOf_putPlayer society player other absent rfl)
    apply kept.relist
    intro other place
    rw [invitePartyList_putPlayer]
    split_ifs with here
    · rw [here, invitePartyList, absent]
      rfl
    · rfl
  · exact membership

theorem Membership.of_sameParties (membership : Membership before) (same : SameParties before after) : Membership after := by
  have kept : Agrees after before.invitePartyList := by
    apply Agrees.of_same membership same.parties
    intro player
    rw [partyOf, partyOf, same.players]
  apply kept.relist
  intro player place
  rw [invitePartyList, invitePartyList, same.players]

theorem Membership.setGuild (membership : Membership society) (player : PlayerId) (guild : Option Guild) :
    Membership (society.setGuild player guild) := by
  have kept : Agrees (society.setGuild player guild) society.invitePartyList :=
    Agrees.of_same membership rfl (fun other => partyOf_setGuild society player other guild)
  apply kept.relist
  intro other place
  rw [invitePartyList_setGuild]

theorem Membership.step (membership : Membership society) (grounded : Grounded society) {call : Op × PartyEvents}
    (kept : ¬ society.Vetoes call) : Membership (society.step call) := by
  obtain ⟨op, events⟩ := call
  cases op with
  | invite free player other => exact membership.playerInviteToParty free player other
  | join player leader => exact membership.playerJoinParty grounded player leader
  | revoke player other =>
    simp only [Society.step, playerRevokePartyInvitation, revokeInvitation]
    split
    · exact membership
    · split_ifs
      · exact membership
      · exact membership.removeInvite grounded _ other
      · exact membership
  | passLeadership player newLeader =>
    simp only [Society.step, playerPassPartyLeadership]
    split
    · exact membership
    · split_ifs
      · exact membership
      · exact membership.passPartyLeadership events _ newLeader false
  | leave player inFight =>
    simp only [Society.step, playerLeaveParty]
    split
    · exact membership
    next address own =>
      split_ifs with fights
      · exact membership
      · obtain ⟨party, held, _⟩ := grounded.inside player address own
        apply membership.leaveParty held own false
        intro allowed alone
        by_contra answer
        exact kept ⟨Bool.eq_false_of_not_eq_true fights, address, party, own, held, alone, allowed.resolve_left Bool.false_ne_true,
          Bool.eq_false_of_not_eq_true answer⟩
  | disband address => exact membership.disband events address
  | logout player =>
    apply membership.onRemoveCreature grounded player
    intro address party own held alone
    by_contra answer
    exact kept ⟨address, party, own, held, alone, Bool.eq_false_of_not_eq_true answer⟩
  | login player guid guild guildRank => exact membership.login player guid guild guildRank
  | connect player => exact membership.of_sameParties ⟨rfl, rfl⟩
  | setGuild player guild => exact membership.setGuild player guild
  | requestChannels player => exact membership.of_sameParties (.getChannelList society player)
  | openChannel player channelId => exact membership.of_sameParties (.addUserToChannel society player channelId)
  | closeChannel player channelId => exact membership.of_sameParties (.removeUserFromChannel society player channelId)
  | talk player text channelId => exact membership

theorem not_membership_step (grounded : Grounded society) {call : Op × PartyEvents} (vetoes : society.Vetoes call) :
    ¬ Membership (society.step call) := by
  obtain ⟨op, events⟩ := call
  cases op with
  | leave player inFight =>
    obtain ⟨calm, address, party, own, held, alone, allowed, answer⟩ := vetoes
    obtain ⟨out, rest, found, leads⟩ := not_membership_leaveParty held own false (.inr allowed) alone answer
    simp only [Society.step, playerLeaveParty, own, calm, Bool.false_eq_true, if_false]
    intro membership
    have pointer := membership.leader address rest found
    rw [leads, out] at pointer
    cases pointer
  | logout player =>
    obtain ⟨address, party, own, held, alone, answer⟩ := vetoes
    exact not_membership_onRemoveCreature grounded own held alone answer
  | _ => cases vetoes

/-- A step keeps the agreement just where no script keeps a party that loses its leader. -/
theorem membership_step_iff (grounded : Grounded society) (membership : Membership society) (call : Op × PartyEvents) :
    Membership (society.step call) ↔ ¬ society.Vetoes call :=
  ⟨fun after vetoes => not_membership_step grounded vetoes after, fun kept => membership.step grounded kept⟩

/-- What is kept of parties agrees along just those runs in which no script keeps a party that has lost its leader. -/
theorem always_membership_iff (calls : List (Op × PartyEvents)) :
    Always step Membership start calls ↔ Throughout step (fun society call => ¬ society.Vetoes call) start calls := by
  apply always_iff_throughout Grounded
  · exact fun _ call grounded => grounded.step call
  · exact fun _ call grounded membership => membership_step_iff grounded membership call
  · exact Grounded.start
  · exact ⟨nofun, nofun, nofun, nofun, fun _ _ => by simp [start, invitePartyList]⟩

/-- The leader leaves, and a script keeps the party: its leader is in no party, and its member is still in it. -/
theorem not_always_membership : ¬ Always step Membership start (pairUp ++ [(.leave 1 false, allowing false)]) := by
  intro always
  have last : Membership _ := always.2.2.2.2.2
  have pointer := last.leader 10 ⟨1, [2], []⟩ rfl
  cases pointer

end Styller.Society
