import Styller.Party.Society

/-! What the operations of parties do: to the parties, to the party and the invitations of a player, and to nothing
else. -/

namespace Styller

open List Function Option

namespace Party

variable (party : Party) (player : PlayerId)

/-- Nobody takes over from a leader that goes. -/
def Headless : Prop :=
  party.leader = player ∧ (party.memberList = [] ∨ party.memberList.length = 1 ∧ party.inviteList = [])

/-- When the player goes, only the leader is left, and nobody is invited. -/
def Last : Prop :=
  party.leader ≠ player ∧ party.memberList.erase player = [] ∧ party.inviteList = []

instance : Decidable (party.Headless player) :=
  inferInstanceAs (Decidable (_ ∧ _))

instance : Decidable (party.Last player) :=
  inferInstanceAs (Decidable (_ ∧ _))

variable {party player}

theorem empty_iff : party.empty = true ↔ party.memberList = [] ∧ party.inviteList = [] := by
  rw [empty, Bool.and_eq_true, List.isEmpty_iff, List.isEmpty_iff]

end Party

namespace Society

variable {society before middle after : Society} {player other : PlayerId} {address : PartyPtr} {party : Party}
  {events : PartyEvents}

section

variable (society player other address)

@[simp] theorem parties_modifyPlayer (change : PartyPlayer → PartyPlayer) :
    (society.modifyPlayer player change).parties = society.parties := rfl

theorem players_modifyPlayer (change : PartyPlayer → PartyPlayer) :
    (society.modifyPlayer player change).players other =
      if other = player then (society.players player).map change else society.players other :=
  update_apply _ _ _ _

variable {player} in
theorem partyOf_modifyPlayer {change : PartyPlayer → PartyPlayer} (same : ∀ object, (change object).party = object.party) :
    (society.modifyPlayer player change).partyOf other = society.partyOf other := by
  rw [partyOf, players_modifyPlayer]
  split_ifs with here
  · rw [here, partyOf]
    cases society.players player with
    | none => rfl
    | some object => exact same object
  · rfl

variable {player} in
theorem invitePartyList_modifyPlayer {change : PartyPlayer → PartyPlayer}
    (same : ∀ object, (change object).invitePartyList = object.invitePartyList) :
    (society.modifyPlayer player change).invitePartyList other = society.invitePartyList other := by
  rw [invitePartyList, players_modifyPlayer]
  split_ifs with here
  · rw [here, invitePartyList]
    cases society.players player with
    | none => rfl
    | some object => exact same object
  · rfl

@[simp] theorem parties_setParty (party : Option PartyPtr) : (society.setParty player party).parties = society.parties := rfl

@[simp] theorem partyOf_putParty (party : Option Party) :
    (society.putParty address party).partyOf player = society.partyOf player := rfl

@[simp] theorem invitePartyList_putParty (party : Option Party) :
    (society.putParty address party).invitePartyList player = society.invitePartyList player := rfl

theorem parties_putParty (party : Option Party) (place : PartyPtr) :
    (society.putParty address party).parties place = if place = address then party else society.parties place :=
  update_apply _ _ _ _

@[simp] theorem parties_putParty_self (party : Option Party) : (society.putParty address party).parties address = party :=
  update_self _ _ _

theorem putParty_putParty (first second : Option Party) :
    (society.putParty address first).putParty address second = society.putParty address second := by
  rw [putParty, putParty, putParty, update_idem]

theorem partyOf_setParty_none :
    (society.setParty player .none).partyOf other = if other = player then .none else society.partyOf other := by
  rw [partyOf, setParty, players_modifyPlayer]
  split_ifs
  · cases society.players player with
    | none => rfl
    | some object => rfl
  · rfl

theorem partyOf_setParty (online : society.players player ≠ .none) :
    (society.setParty player (some address)).partyOf other =
      if other = player then some address else society.partyOf other := by
  obtain ⟨object, held⟩ := ne_none_iff_exists'.mp online
  rw [partyOf, setParty, players_modifyPlayer, held]
  split_ifs
  · rfl
  · rfl

@[simp] theorem invitePartyList_setParty (party : Option PartyPtr) :
    (society.setParty player party).invitePartyList other = society.invitePartyList other :=
  invitePartyList_modifyPlayer society other (fun _ => rfl)

@[simp] theorem partyOf_removePartyInvitation :
    (society.removePartyInvitation player address).partyOf other = society.partyOf other :=
  partyOf_modifyPlayer society other (fun _ => rfl)

theorem invitePartyList_removePartyInvitation :
    (society.removePartyInvitation player address).invitePartyList other =
      if other = player then (society.invitePartyList other).filter (· ≠ address) else society.invitePartyList other := by
  rw [invitePartyList, removePartyInvitation, players_modifyPlayer]
  split_ifs with same
  · rw [same, invitePartyList]
    cases society.players player with
    | none => rfl
    | some object => rfl
  · rfl

@[simp] theorem partyOf_addPartyInvitation :
    (society.addPartyInvitation player address).partyOf other = society.partyOf other := by
  apply partyOf_modifyPlayer
  intro object
  rw [PartyPlayer.addPartyInvitation]
  split_ifs
  · rfl
  · rfl

theorem mem_addPartyInvitation (online : society.players player ≠ .none) (place : PartyPtr) :
    place ∈ (society.addPartyInvitation player address).invitePartyList other ↔
      other = player ∧ place = address ∨ place ∈ society.invitePartyList other := by
  obtain ⟨object, held⟩ := ne_none_iff_exists'.mp online
  rw [invitePartyList, addPartyInvitation, players_modifyPlayer]
  split_ifs with same
  · have list : society.invitePartyList other = object.invitePartyList := by rw [same, invitePartyList, held]; rfl
    rw [held, list]
    change place ∈ (object.addPartyInvitation address).invitePartyList ↔ _
    rw [PartyPlayer.addPartyInvitation]
    split_ifs with present
    · constructor
      · exact .inr
      · rintro (⟨_, rfl⟩ | kept)
        · exact present
        · exact kept
    · simp only [mem_cons, same, true_and]
  · simp only [same, false_and, false_or]
    rfl

/-- The player is not in a party any more when the channel is looked for. -/
theorem sendClosePrivate_setParty :
    (society.setParty player .none).sendClosePrivate player .party = society.setParty player .none := by
  have unfound : (society.setParty player .none).getChannel player .party = .none := by
    rw [getChannel, setParty, players_modifyPlayer, if_pos rfl]
    cases society.players player with
    | none => rfl
    | some object => rfl
  rw [sendClosePrivate, removeUserFromChannel, unfound]

end

/-- The channels are the same, and so are the players of the game with their guilds. -/
structure SameChats (before after : Society) : Prop where
  channels : after.channels = before.channels
  player : ∀ player, (after.players player).map (fun object => (object.guid, object.guild)) =
    (before.players player).map (fun object => (object.guid, object.guild))

namespace SameChats

theorem refl (society : Society) : SameChats society society :=
  ⟨rfl, fun _ => rfl⟩

theorem trans (first : SameChats before middle) (second : SameChats middle after) : SameChats before after :=
  ⟨second.channels.trans first.channels, fun player => (second.player player).trans (first.player player)⟩

theorem putParty (society : Society) (address : PartyPtr) (party : Option Party) :
    SameChats society (society.putParty address party) :=
  ⟨rfl, fun _ => rfl⟩

theorem modifyPlayer (society : Society) (player : PlayerId) {change : PartyPlayer → PartyPlayer}
    (same : ∀ object, ((change object).guid, (change object).guild) = (object.guid, object.guild)) :
    SameChats society (society.modifyPlayer player change) := by
  refine ⟨rfl, ?_⟩
  intro other
  rw [players_modifyPlayer]
  split_ifs with here
  · rw [here, Option.map_map]
    exact congrArg (fun view => (society.players player).map view) (funext same)
  · rfl

theorem setParty (society : Society) (player : PlayerId) (party : Option PartyPtr) :
    SameChats society (society.setParty player party) :=
  modifyPlayer society player (fun _ => rfl)

theorem removePartyInvitation (society : Society) (player : PlayerId) (address : PartyPtr) :
    SameChats society (society.removePartyInvitation player address) :=
  modifyPlayer society player (fun _ => rfl)

theorem addPartyInvitation (society : Society) (player : PlayerId) (address : PartyPtr) :
    SameChats society (society.addPartyInvitation player address) := by
  apply modifyPlayer
  intro object
  rw [PartyPlayer.addPartyInvitation]
  split_ifs
  · rfl
  · rfl

theorem foldl {Index : Type} {change : Society → Index → Society} (same : ∀ society index, SameChats society (change society index))
    (indices : List Index) (society : Society) : SameChats society (indices.foldl change society) := by
  induction indices generalizing society with
  | nil => exact refl society
  | cons index indices ih => exact (same society index).trans (ih (change society index))

/-- Nobody has come or gone. -/
theorem online (same : SameChats before after) (player : PlayerId) : after.players player = .none ↔ before.players player = .none := by
  have shared := same.player player
  constructor
  · intro gone
    rw [gone] at shared
    exact map_eq_none_iff.mp shared.symm
  · intro gone
    rw [gone] at shared
    exact map_eq_none_iff.mp shared

end SameChats

/-- The players and the parties are the same. -/
structure SameParties (before after : Society) : Prop where
  players : after.players = before.players
  parties : after.parties = before.parties

namespace SameParties

variable (society : Society) (player : PlayerId) (channelId : ChannelId)

theorem createChannel : SameParties society (society.createChannel player channelId) := by
  rw [Society.createChannel]
  split
  · exact ⟨rfl, rfl⟩
  · exact ⟨rfl, rfl⟩

theorem getChannelList : SameParties society (society.getChannelList player) :=
  have first := createChannel society player .guild
  have second := createChannel (society.createChannel player .guild) player .party
  ⟨second.players.trans first.players, second.parties.trans first.parties⟩

theorem addUserToChannel : SameParties society (society.addUserToChannel player channelId) := by
  rw [Society.addUserToChannel]
  split
  · exact ⟨rfl, rfl⟩
  · split_ifs
    · exact ⟨rfl, rfl⟩
    · exact ⟨rfl, rfl⟩

theorem deleteChannel : SameParties society (society.deleteChannel player channelId) := by
  rw [Society.deleteChannel]
  split
  · exact ⟨rfl, rfl⟩
  · exact ⟨rfl, rfl⟩

theorem removeUserFromChannel : SameParties society (society.removeUserFromChannel player channelId) := by
  rw [Society.removeUserFromChannel]
  split
  · exact ⟨rfl, rfl⟩
  · simp only
    split_ifs
    · exact ⟨(deleteChannel _ player channelId).players, (deleteChannel _ player channelId).parties⟩
    · exact ⟨rfl, rfl⟩
    · exact ⟨rfl, rfl⟩

end SameParties

theorem setGuild_parts (object : PartyPlayer) (guild : Option Guild) :
    (object.setGuild guild).party = object.party ∧ (object.setGuild guild).invitePartyList = object.invitePartyList := by
  cases guild with
  | none =>
    simp only [PartyPlayer.setGuild]
    split_ifs
    · exact ⟨rfl, rfl⟩
    · exact ⟨rfl, rfl⟩
  | some guild =>
    simp only [PartyPlayer.setGuild]
    split_ifs
    · exact ⟨rfl, rfl⟩
    · exact ⟨rfl, rfl⟩
    · exact ⟨rfl, rfl⟩

theorem partyOf_setGuild (society : Society) (player other : PlayerId) (guild : Option Guild) :
    (society.setGuild player guild).partyOf other = society.partyOf other :=
  partyOf_modifyPlayer society other (fun object => (setGuild_parts object guild).1)

theorem invitePartyList_setGuild (society : Society) (player other : PlayerId) (guild : Option Guild) :
    (society.setGuild player guild).invitePartyList other = society.invitePartyList other :=
  invitePartyList_modifyPlayer society other (fun object => (setGuild_parts object guild).2)

theorem parties_foldl_setParty (members : List PlayerId) (society : Society) :
    (members.foldl (fun society member => society.setParty member .none) society).parties = society.parties := by
  induction members generalizing society with
  | nil => rfl
  | cons member members ih => exact ih (society.setParty member .none)

theorem partyOf_foldl_setParty (members : List PlayerId) (society : Society) (player : PlayerId) :
    (members.foldl (fun society member => society.setParty member .none) society).partyOf player =
      if player ∈ members then .none else society.partyOf player := by
  induction members generalizing society with
  | nil => simp
  | cons member members ih =>
    rw [foldl_cons, ih, partyOf_setParty_none]
    simp only [mem_cons]
    split_ifs <;> grind

theorem invitePartyList_foldl_setParty (members : List PlayerId) (society : Society) (player : PlayerId) :
    (members.foldl (fun society member => society.setParty member .none) society).invitePartyList player =
      society.invitePartyList player := by
  induction members generalizing society with
  | nil => rfl
  | cons member members ih => rw [foldl_cons, ih, invitePartyList_setParty]

theorem parties_foldl_removePartyInvitation (invitees : List PlayerId) (society : Society) :
    (invitees.foldl (fun society invitee => society.removePartyInvitation invitee address) society).parties =
      society.parties := by
  induction invitees generalizing society with
  | nil => rfl
  | cons invitee invitees ih => exact ih (society.removePartyInvitation invitee address)

theorem partyOf_foldl_removePartyInvitation (invitees : List PlayerId) (society : Society) (player : PlayerId) :
    (invitees.foldl (fun society invitee => society.removePartyInvitation invitee address) society).partyOf player =
      society.partyOf player := by
  induction invitees generalizing society with
  | nil => rfl
  | cons invitee invitees ih => rw [foldl_cons, ih, partyOf_removePartyInvitation]

theorem mem_foldl_removePartyInvitation (invitees : List PlayerId) (society : Society) (player : PlayerId) (place : PartyPtr) :
    place ∈ (invitees.foldl (fun society invitee => society.removePartyInvitation invitee address) society).invitePartyList
      player ↔ place ∈ society.invitePartyList player ∧ ¬ (player ∈ invitees ∧ place = address) := by
  induction invitees generalizing society with
  | nil => simp
  | cons invitee invitees ih =>
    rw [foldl_cons, ih, invitePartyList_removePartyInvitation]
    split_ifs with same
    · simp [same]
      grind
    · simp [same]

/-- A party that is disbanded is gone, with the pointers of its members and the invitations to it. -/
structure Disbanded (address : PartyPtr) (party : Party) (before after : Society) : Prop where
  chats : SameChats before after
  parties : ∀ place, after.parties place = if place = address then .none else before.parties place
  partyOf : ∀ player, after.partyOf player =
    if player = party.leader ∨ player ∈ party.memberList then .none else before.partyOf player
  invitations : ∀ player place, place ∈ after.invitePartyList player ↔
    place ∈ before.invitePartyList player ∧ ¬ (player ∈ party.inviteList ∧ place = address)

theorem disbanded (held : society.parties address = some party) (answer : events.eventPartyOnDisband address = true) :
    Disbanded address party society (society.disband events address) := by
  rw [disband, held]
  simp only [answer, if_true, sendClosePrivate_setParty]
  constructor
  · apply (SameChats.setParty society party.leader .none).trans
    apply (SameChats.foldl (fun society invitee => .removePartyInvitation society invitee address) party.inviteList _).trans
    exact (SameChats.foldl (fun society member => .setParty society member .none) party.memberList _).trans (.putParty _ _ _)
  · intro place
    rw [parties_putParty, parties_foldl_setParty, parties_foldl_removePartyInvitation, parties_setParty]
  · intro player
    rw [partyOf_putParty, partyOf_foldl_setParty, partyOf_foldl_removePartyInvitation, partyOf_setParty_none]
    grind
  · intro player place
    rw [invitePartyList_putParty, invitePartyList_foldl_setParty, mem_foldl_removePartyInvitation, invitePartyList_setParty]

theorem disband_vetoed (answer : events.eventPartyOnDisband address = false) : society.disband events address = society := by
  rw [disband]
  cases society.parties address with
  | none => rfl
  | some party => simp only [answer, Bool.false_eq_true, if_false]

/-- What a party is when a player has gone. -/
inductive Rest (society : Society) (address : PartyPtr) (party : Party) (player : PlayerId) : Party → Prop where
  | member (under : party.leader ≠ player) :
    Rest society address party player { party with memberList := party.memberList.erase player }
  | headless (alone : party.Headless player) :
    Rest society address party player { party with memberList := party.memberList.erase player }
  | handed {front : PlayerId} {others : List PlayerId} (leads : party.leader = player) (several : ¬ party.Headless player)
      (members : party.memberList = front :: others) (heir : society.partyOf front = some address) (another : front ≠ player) :
    Rest society address party player ⟨front, others, party.inviteList⟩
  | stuck {front : PlayerId} {others : List PlayerId} (leads : party.leader = player) (several : ¬ party.Headless player)
      (members : party.memberList = front :: others) (unfit : front = player ∨ society.partyOf front ≠ some address) :
    Rest society address party player { party with memberList := party.memberList.erase player }

def withRest (society : Society) (address : PartyPtr) (rest : Party) (player : PlayerId) : Society :=
  (society.putParty address (some rest)).setParty player .none

theorem parties_withRest (rest : Party) (place : PartyPtr) :
    (society.withRest address rest player).parties place = if place = address then some rest else society.parties place :=
  parties_putParty society address (some rest) place

theorem partyOf_withRest (rest : Party) :
    (society.withRest address rest player).partyOf other = if other = player then .none else society.partyOf other :=
  partyOf_setParty_none (society.putParty address (some rest)) player other

theorem disbanded_withRest (society : Society) (rest : Party) (player : PlayerId)
    (answer : events.eventPartyOnDisband address = true) :
    Disbanded address rest (society.withRest address rest player) ((society.withRest address rest player).disband events address) :=
  disbanded (parties_putParty_self society address (some rest)) answer

theorem handOver_rest (events : PartyEvents) (player : PlayerId) (held : society.parties address = some party) :
    ∃ left rest, society.handOver events address party player =
        (decide (party.Headless player), society.putParty address (some left)) ∧
      rest = { left with memberList := left.memberList.erase player } ∧ Rest society address party player rest := by
  have same : society.putParty address (some party) = society := by
    rw [putParty, ← held, update_eq_self]
  rw [handOver]
  split_ifs with leads
  · cases members : party.memberList with
    | nil =>
      have alone : party.Headless player := ⟨leads, .inl members⟩
      refine ⟨party, _, ?_, rfl, ?_⟩
      · simp only [alone, decide_true, same]
      · exact .headless alone
    | cons front others =>
      simp only
      by_cases single : (others.isEmpty && party.inviteList.isEmpty) = true
      · rw [Bool.and_eq_true, List.isEmpty_iff, List.isEmpty_iff] at single
        have alone : party.Headless player := ⟨leads, .inr ⟨by rw [members, single.1]; rfl, single.2⟩⟩
        refine ⟨party, _, ?_, rfl, .headless alone⟩
        simp only [single, isEmpty_nil, Bool.and_self, if_true, alone, decide_true, same]
      · rw [if_neg single]
        have several : ¬ party.Headless player := by
          rintro ⟨_, none | ⟨one, uninvited⟩⟩
          · rw [members] at none
            cases none
          · rw [members, length_cons, Nat.add_eq_right, length_eq_zero_iff] at one
            simp [one, uninvited] at single
        rw [passPartyLeadership, held]
        simp only [Bool.not_true, Bool.and_false, Bool.false_eq_true, if_false]
        split_ifs with unfit
        · refine ⟨party, _, ?_, rfl, ?_⟩
          · simp only [several, decide_false, same]
          · rw [leads] at unfit
            exact .stuck leads several members (unfit.imp_left Eq.symm)
        · rw [not_or, ne_eq, not_not] at unfit
          refine ⟨⟨front, party.leader :: party.memberList.erase front, party.inviteList⟩, _, ?_, rfl, ?_⟩
          · simp only [several, decide_false]
          · simp only [members, leads, erase_cons_head]
            exact .handed leads several members unfit.2 (fun same => unfit.1 (leads.trans same.symm))
  · refine ⟨party, _, ?_, rfl, .member leads⟩
    simp only [same, Party.Headless, leads, false_and, decide_false]

/-- A party that has lost its leader goes on with somebody. -/
theorem Rest.empty_iff {rest : Party} (goes : Rest society address party player rest) (several : ¬ party.Headless player) :
    rest.empty = true ↔ party.Last player := by
  rw [Party.empty_iff]
  cases goes with
  | member under => simp only [Party.Last, ne_eq, under, not_false_eq_true, true_and]
  | headless alone => exact absurd alone several
  | @handed front others leads several members heir another =>
    constructor
    · rintro ⟨none, uninvited⟩
      have alone : others = [] := none
      refine absurd ⟨leads, .inr ⟨?_, uninvited⟩⟩ several
      rw [members, alone]
      rfl
    · intro last
      exact absurd leads last.1
  | @stuck front others leads several members unfit =>
    constructor
    · rintro ⟨none, uninvited⟩
      have alone : party.memberList.erase player = [] := none
      refine absurd ⟨leads, .inr ⟨?_, uninvited⟩⟩ several
      have short := le_length_erase (a := player) (l := party.memberList)
      rw [alone, members, length_cons, length_nil] at short
      rw [members, length_cons]
      omega
    · intro last
      exact absurd leads last.1

/-- A player that is in the party and may go leaves the rest behind, or ends the party. -/
theorem leaveParty_rest (events : PartyEvents) (held : society.parties address = some party) (own : society.partyOf player = some address)
    {forceRemove : Bool} (allowed : forceRemove = true ∨ events.eventPartyOnLeave address player = true) :
    ∃ rest, Rest society address party player rest ∧
      (society.leaveParty events address player forceRemove).2 =
        if party.Headless player ∨ party.Last player then (society.withRest address rest player).disband events address
        else society.withRest address rest player := by
  obtain ⟨left, rest, handed, gone, goes⟩ := handOver_rest events player held
  refine ⟨rest, goes, ?_⟩
  have may : (!forceRemove && !events.eventPartyOnLeave address player) = false := by
    rcases allowed with forced | answer
    · rw [forced]; rfl
    · rw [answer, Bool.not_true, Bool.and_false]
  rw [leaveParty, held]
  simp only [own, ne_eq, not_true_eq_false, false_and, if_false, may, Bool.false_eq_true, handed, parties_putParty_self]
  rw [← gone, putParty_putParty, sendClosePrivate_setParty]
  by_cases alone : party.Headless player
  · simp only [alone, decide_true, Bool.true_or, true_or, if_true, withRest]
  · simp only [alone, decide_false, Bool.false_or, false_or, goes.empty_iff alone, withRest]

theorem leaveParty_refused (held : society.parties address = some party)
    (refused : events.eventPartyOnLeave address player = false) : (society.leaveParty events address player false).2 = society := by
  rw [leaveParty, held]
  simp only [refused, Bool.not_false, Bool.and_self, if_true, ite_self]

/-- A party without one of its invitations, which the player may keep in its list. -/
def withdrawn (society : Society) (address : PartyPtr) (party : Party) (player : PlayerId) (removeFromPlayer : Bool) : Society :=
  let society := society.putParty address (some { party with inviteList := party.inviteList.erase player })
  if removeFromPlayer then society.removePartyInvitation player address else society

theorem parties_withdrawn {removeFromPlayer : Bool} (place : PartyPtr) :
    (society.withdrawn address party player removeFromPlayer).parties place =
      if place = address then some { party with inviteList := party.inviteList.erase player } else society.parties place := by
  cases removeFromPlayer with
  | false | true => exact parties_putParty society address _ place

theorem partyOf_withdrawn {removeFromPlayer : Bool} :
    (society.withdrawn address party player removeFromPlayer).partyOf other = society.partyOf other := by
  cases removeFromPlayer with
  | false => rfl
  | true => exact partyOf_removePartyInvitation _ player other address

theorem sameChats_withdrawn {removeFromPlayer : Bool} :
    SameChats society (society.withdrawn address party player removeFromPlayer) := by
  cases removeFromPlayer with
  | false => exact .putParty society address _
  | true => exact (SameChats.putParty society address _).trans (.removePartyInvitation _ player address)

theorem disbanded_withdrawn (society : Society) (party : Party) (player : PlayerId) (removeFromPlayer : Bool)
    (answer : events.eventPartyOnDisband address = true) :
    Disbanded address { party with inviteList := party.inviteList.erase player }
      (society.withdrawn address party player removeFromPlayer)
      ((society.withdrawn address party player removeFromPlayer).disband events address) := by
  apply disbanded _ answer
  rw [parties_withdrawn, if_pos rfl]

theorem removeInvite_invited (held : society.parties address = some party) (invited : player ∈ party.inviteList)
    (removeFromPlayer : Bool) : (society.removeInvite events address player removeFromPlayer).2 =
      if party.memberList = [] ∧ party.inviteList.erase player = [] then
        (society.withdrawn address party player removeFromPlayer).disband events address
      else society.withdrawn address party player removeFromPlayer := by
  rw [removeInvite, held]
  simp only [invited, not_true_eq_false, if_false, Party.empty_iff, withdrawn]

/-- The list of a player loses an invitation only where that is asked for. -/
theorem mem_removeInvite (held : society.parties address = some party) (invited : player ∈ party.inviteList)
    (removeFromPlayer : Bool) (place : PartyPtr) :
    place ∈ (society.removeInvite events address player removeFromPlayer).2.invitePartyList other ↔
      place ∈ society.invitePartyList other ∧ ¬ (removeFromPlayer = true ∧ other = player ∧ place = address) := by
  have before : place ∈ (society.withdrawn address party player removeFromPlayer).invitePartyList other ↔
      place ∈ society.invitePartyList other ∧ ¬ (removeFromPlayer = true ∧ other = player ∧ place = address) := by
    cases removeFromPlayer with
    | false => simp only [withdrawn, Bool.false_eq_true, if_false, invitePartyList_putParty, false_and, not_false_eq_true,
        and_true]
    | true =>
      simp only [withdrawn, if_true, invitePartyList_removePartyInvitation, invitePartyList_putParty, true_and]
      split_ifs with same
      · simp [same]
      · simp [same]
  rw [removeInvite_invited held invited]
  split_ifs with ends
  · cases answer : events.eventPartyOnDisband address with
    | false => rw [disband_vetoed answer, before]
    | true =>
      have effect := disbanded_withdrawn society party player removeFromPlayer answer
      rw [effect.invitations, before, ends.2]
      simp only [not_mem_nil, false_and, not_false_eq_true, and_true]
  · exact before

theorem removeInvite_uninvited (uninvited : ∀ party, society.parties address = some party → player ∉ party.inviteList)
    (removeFromPlayer : Bool) : (society.removeInvite events address player removeFromPlayer).2 = society := by
  rw [removeInvite]
  cases held : society.parties address with
  | none => rfl
  | some party => simp only [uninvited party held, not_false_eq_true, if_true]

def joined (society : Society) (address : PartyPtr) (party : Party) (player : PlayerId) : Society :=
  ((society.putParty address (some
    { party with inviteList := party.inviteList.erase player, memberList := party.memberList ++ [player] })).setParty player
      (some address)).removePartyInvitation player address

theorem joinParty_invited (held : society.parties address = some party) (invited : player ∈ party.inviteList)
    (answer : events.eventPartyOnJoin address player = true) :
    (society.joinParty events address player).2 = society.joined address party player := by
  rw [joinParty, held]
  simp only [answer, invited, joined, Bool.not_true, Bool.false_or, not_true_eq_false, decide_false, Bool.false_eq_true,
    if_false]

theorem joinParty_refused (answer : events.eventPartyOnJoin address player = false) :
    (society.joinParty events address player).2 = society := by
  rw [joinParty]
  cases society.parties address with
  | none => rfl
  | some party => simp only [answer, Bool.not_false, Bool.true_or, if_true]

theorem joinParty_uninvited (uninvited : ∀ party, society.parties address = some party → player ∉ party.inviteList) :
    (society.joinParty events address player).2 = society := by
  rw [joinParty]
  cases held : society.parties address with
  | none => rfl
  | some party => simp only [uninvited party held, not_false_eq_true, decide_true, Bool.or_true, if_true]

theorem parties_joined (place : PartyPtr) : (society.joined address party player).parties place = if place = address then
    some { party with inviteList := party.inviteList.erase player, memberList := party.memberList ++ [player] }
    else society.parties place :=
  parties_putParty society address _ place

theorem partyOf_joined (online : society.players player ≠ .none) :
    (society.joined address party player).partyOf other = if other = player then some address else society.partyOf other := by
  rw [joined, partyOf_removePartyInvitation, partyOf_setParty _ _ _ _ (by exact online), partyOf_putParty]

def invited (society : Society) (address : PartyPtr) (party : Party) (player : PlayerId) : Society :=
  (society.putParty address (some { party with inviteList := party.inviteList ++ [player] })).addPartyInvitation player address

theorem invitePlayer_invited (held : society.parties address = some party) (absent : player ∉ party.inviteList) :
    (society.invitePlayer address player).2 = society.invited address party player := by
  rw [invitePlayer, held]
  simp only [absent, if_false, invited]

theorem parties_invited (place : PartyPtr) : (society.invited address party player).parties place =
    if place = address then some { party with inviteList := party.inviteList ++ [player] } else society.parties place :=
  parties_putParty society address _ place

theorem partyOf_invited : (society.invited address party player).partyOf other = society.partyOf other := by
  rw [invited, partyOf_addPartyInvitation, partyOf_putParty]

theorem parties_newParty (place : PartyPtr) : (society.newParty address player).parties place =
    if place = address then some ⟨player, [], []⟩ else society.parties place :=
  parties_putParty society address _ place

theorem partyOf_newParty (online : society.players player ≠ .none) :
    (society.newParty address player).partyOf other = if other = player then some address else society.partyOf other := by
  rw [newParty, partyOf_setParty _ _ _ _ (by exact online), partyOf_putParty]

end Society

end Styller
