import Styller.Library.Run
import Styller.Party.Grounded

/-! Who gets what is said in the channel of a party or a guild: its own players, as long as nobody leaves a party or
a guild with its channel open. -/

namespace Styller

open Library Function Option

def ChannelKey.channelId : ChannelKey → ChannelId
  | .guild _ => .guild
  | .party _ => .party

namespace Society

variable {society before middle after : Society} {player other : PlayerId} {address : PartyPtr} {party rest : Party}
  {events : PartyEvents} {channelId : ChannelId} {key : ChannelKey} {channel : ChatChannel}

def guildOf (society : Society) (player : PlayerId) : Option Nat :=
  (society.players player).bind PartyPlayer.guild

/-- The users of a channel are in its party or guild, and what they say goes to nobody else. -/
structure Secluded (society : Society) : Prop where
  party : ∀ address channel, society.channels (.party address) = some channel →
    ∀ user ∈ channel.users, society.partyOf user = some address
  guild : ∀ id channel, society.channels (.guild id) = some channel →
    ∀ user ∈ channel.users, society.guildOf user = some id
  talkParty : ∀ player text delivery, society.talkToChannel player text .party = some delivery →
    ∀ user ∈ delivery.users, ∃ address, society.partyOf player = some address ∧ society.partyOf user = some address
  talkGuild : ∀ player text delivery, society.talkToChannel player text .guild = some delivery →
    ∀ user ∈ delivery.users, ∃ id, society.guildOf player = some id ∧ society.guildOf user = some id

def keyOf (society : Society) (player : PlayerId) (channelId : ChannelId) : Option ChannelKey :=
  (society.players player).bind (·.channelKey channelId)

theorem keyOf_party (society : Society) (player : PlayerId) :
    society.keyOf player .party = (society.partyOf player).map .party := by
  rw [keyOf, partyOf]
  cases society.players player with
  | none => rfl
  | some object => rfl

theorem keyOf_guild (society : Society) (player : PlayerId) :
    society.keyOf player .guild = (society.guildOf player).map .guild := by
  rw [keyOf, guildOf]
  cases society.players player with
  | none => rfl
  | some object => rfl

theorem keyOf_party_iff : society.keyOf player .party = some (.party address) ↔ society.partyOf player = some address := by
  simp [keyOf_party]

theorem keyOf_guild_iff {id : Nat} : society.keyOf player .guild = some (.guild id) ↔ society.guildOf player = some id := by
  simp [keyOf_guild]

theorem getChannel_iff : society.getChannel player channelId = some (key, channel) ↔
    society.keyOf player channelId = some key ∧ society.channels key = some channel := by
  rw [getChannel, keyOf]
  cases society.players player with
  | none => simp
  | some object =>
    simp only [bind_eq_bind, bind_some]
    cases object.channelKey channelId with
    | none => simp
    | some found =>
      simp only [bind_some, bind_eq_some_iff, Option.pure_def, some.injEq, Prod.mk.injEq]
      constructor
      · rintro ⟨_, held, rfl, rfl⟩
        exact ⟨rfl, held⟩
      · rintro ⟨rfl, held⟩
        exact ⟨_, held, rfl, rfl⟩

theorem channelId_keyOf (found : society.keyOf player channelId = some key) : key.channelId = channelId := by
  cases channelId with
  | guild =>
    rw [keyOf_guild, map_eq_some_iff] at found
    obtain ⟨id, _, rfl⟩ := found
    rfl
  | party =>
    rw [keyOf_party, map_eq_some_iff] at found
    obtain ⟨address, _, rfl⟩ := found
    rfl

/-- The users of every channel look under its key. -/
def Isolated (society : Society) : Prop :=
  ∀ key channel, society.channels key = some channel → ∀ user ∈ channel.users, society.keyOf user key.channelId = some key

theorem Isolated.talk (isolated : Isolated society) {text : String} {delivery : Delivery}
    (said : society.talkToChannel player text channelId = some delivery) {user : PlayerId} (user_mem : user ∈ delivery.users) :
    ∃ key, society.keyOf player channelId = some key ∧ society.keyOf user channelId = some key := by
  rw [talkToChannel] at said
  cases found : society.getChannel player channelId with
  | none =>
    rw [found] at said
    cases said
  | some pair =>
    obtain ⟨key, channel⟩ := pair
    obtain ⟨own, held⟩ := getChannel_iff.mp found
    rw [found] at said
    simp only at said
    split_ifs at said
    cases said
    refine ⟨key, own, ?_⟩
    have member := isolated key channel held user user_mem
    rw [channelId_keyOf own] at member
    exact member

theorem secluded_iff : Secluded society ↔ Isolated society := by
  constructor
  · intro secluded key channel held user member
    cases key with
    | guild id => exact keyOf_guild_iff.mpr (secluded.guild id channel held user member)
    | party address => exact keyOf_party_iff.mpr (secluded.party address channel held user member)
  · intro isolated
    constructor
    · intro address channel held user member
      exact keyOf_party_iff.mp (isolated _ channel held user member)
    · intro id channel held user member
      exact keyOf_guild_iff.mp (isolated _ channel held user member)
    · intro player text delivery said user member
      obtain ⟨key, own, shared⟩ := isolated.talk said member
      rw [keyOf_party, map_eq_some_iff] at own
      obtain ⟨address, own, rfl⟩ := own
      exact ⟨address, own, keyOf_party_iff.mp shared⟩
    · intro player text delivery said user member
      obtain ⟨key, own, shared⟩ := isolated.talk said member
      rw [keyOf_guild, map_eq_some_iff] at own
      obtain ⟨id, own, rfl⟩ := own
      exact ⟨id, own, keyOf_guild_iff.mp shared⟩

namespace SameChats

variable (society) (address)

theorem guildOf (same : SameChats before after) (player : PlayerId) : after.guildOf player = before.guildOf player := by
  have shared := congrArg (fun view => view.bind Prod.snd) (same.player player)
  simp only [bind_map] at shared
  exact shared

theorem disband (events : PartyEvents) : SameChats society (society.disband events address) := by
  cases held : society.parties address with
  | none =>
    rw [Society.disband, held]
    exact refl society
  | some party =>
    cases answer : events.eventPartyOnDisband address with
    | false =>
      rw [disband_vetoed answer]
      exact refl society
    | true => exact (disbanded held answer).chats

theorem withRest (rest : Party) (player : PlayerId) : SameChats society (society.withRest address rest player) :=
  (SameChats.putParty society address (some rest)).trans (.setParty _ player .none)

variable {society address}

theorem leaveParty (held : society.parties address = some party) (own : society.partyOf player = some address)
    (events : PartyEvents) (forceRemove : Bool) : SameChats society (society.leaveParty events address player forceRemove).2 := by
  by_cases allowed : forceRemove = true ∨ events.eventPartyOnLeave address player = true
  · obtain ⟨rest, goes, result⟩ := leaveParty_rest events held own allowed
    rw [result]
    split_ifs
    · exact (withRest society address rest player).trans (disband _ address events)
    · exact withRest society address rest player
  · rw [not_or, Bool.not_eq_true, Bool.not_eq_true] at allowed
    rw [allowed.1, leaveParty_refused held allowed.2]
    exact refl society

variable (society address)

theorem removeInvite (events : PartyEvents) (player : PlayerId) (removeFromPlayer : Bool) :
    SameChats society (society.removeInvite events address player removeFromPlayer).2 := by
  by_cases invited : ∃ party, society.parties address = some party ∧ player ∈ party.inviteList
  · obtain ⟨party, held, listed⟩ := invited
    rw [removeInvite_invited held listed]
    split_ifs
    · exact sameChats_withdrawn.trans (disband _ address events)
    · exact sameChats_withdrawn
  · rw [removeInvite_uninvited (fun party held listed => invited ⟨party, held, listed⟩)]
    exact refl society

theorem clearPartyInvitations (events : PartyEvents) (player : PlayerId) :
    SameChats society (society.clearPartyInvitations events player) := by
  rw [Society.clearPartyInvitations]
  exact (foldl (fun society address => removeInvite society address events player false) _ society).trans
    (modifyPlayer _ player (fun _ => rfl))

theorem passPartyLeadership (events : PartyEvents) (player : PlayerId) (forceRemove : Bool) :
    SameChats society (society.passPartyLeadership events address player forceRemove).2 := by
  rw [Society.passPartyLeadership]
  split
  · exact refl society
  · split_ifs
    · exact refl society
    · exact refl society
    · exact putParty society address _

theorem joinParty (events : PartyEvents) (player : PlayerId) :
    SameChats society (society.joinParty events address player).2 := by
  rw [Society.joinParty]
  split
  · exact refl society
  · split_ifs
    · exact refl society
    · exact (putParty society address _).trans ((setParty _ player _).trans (removePartyInvitation _ player address))

theorem newParty (player : PlayerId) : SameChats society (society.newParty address player) :=
  (putParty society address _).trans (setParty _ player _)

theorem inviteToParty (events : PartyEvents) (player other : PlayerId) :
    SameChats society (society.inviteToParty events address player other) := by
  rw [Society.inviteToParty]
  split_ifs
  · rw [invitePlayer]
    split
    · exact refl society
    · split_ifs
      · exact refl society
      · exact (putParty society address _).trans (addPartyInvitation _ other address)
  · exact (setParty society player .none).trans (putParty _ address .none)
  · exact refl society

theorem playerInviteToParty (events : PartyEvents) (player other : PlayerId) :
    SameChats society (society.playerInviteToParty events address player other) := by
  rw [Society.playerInviteToParty]
  split
  · exact refl society
  · split
    · split_ifs
      · exact (newParty society address player).trans (inviteToParty _ address events player other)
      · exact refl society
    · split_ifs
      · exact inviteToParty society _ events player other
      · exact refl society

theorem playerJoinParty (events : PartyEvents) (player leader : PlayerId) :
    SameChats society (society.playerJoinParty events player leader) := by
  rw [Society.playerJoinParty]
  split
  · exact refl society
  · split
    · exact refl society
    · split_ifs
      · exact refl society
      · exact joinParty society _ events player

theorem playerRevokePartyInvitation (events : PartyEvents) (player other : PlayerId) :
    SameChats society (society.playerRevokePartyInvitation events player other) := by
  rw [Society.playerRevokePartyInvitation]
  split
  · exact refl society
  · split_ifs
    · exact refl society
    · rw [revokeInvitation]
      split_ifs
      · exact removeInvite society _ events other true
      · exact refl society

theorem playerPassPartyLeadership (events : PartyEvents) (player newLeader : PlayerId) :
    SameChats society (society.playerPassPartyLeadership events player newLeader) := by
  rw [Society.playerPassPartyLeadership]
  split
  · exact refl society
  · split_ifs
    · exact refl society
    · exact passPartyLeadership society _ events newLeader false

variable {society}

theorem playerLeaveParty (grounded : Grounded society) (events : PartyEvents) (player : PlayerId) (inFight : Bool) :
    SameChats society (society.playerLeaveParty events player inFight) := by
  rw [Society.playerLeaveParty]
  split
  · exact refl society
  next address own =>
    split_ifs
    · exact refl society
    · obtain ⟨party, held, _⟩ := grounded.inside player address own
      exact leaveParty held own events false

/-- A player that goes has left its party before it leaves the channels. -/
theorem leaveGame (grounded : Grounded society) (events : PartyEvents) (player : PlayerId) :
    SameChats society (match (society.clearPartyInvitations events player).partyOf player with
      | .none => society.clearPartyInvitations events player
      | some address => ((society.clearPartyInvitations events player).leaveParty events address player true).2) := by
  have cleared := clearPartyInvitations society events player
  cases own : (society.clearPartyInvitations events player).partyOf player with
  | none => exact cleared
  | some address =>
    obtain ⟨party, held, _⟩ := (grounded.clearPartyInvitations events player).inside player address own
    exact cleared.trans (leaveParty held own events true)

end SameChats

def GoesWith (events : PartyEvents) (address : PartyPtr) (party : Party) (player other : PlayerId) : Prop :=
  other = player ∨ (party.Headless player ∨ party.Last player) ∧ events.eventPartyOnDisband address = true ∧
    (other = party.leader ∨ other ∈ party.memberList)

/-- The players that a step takes out of their party, other than one that goes out of the game. -/
def LosesParty (society : Society) : Op × PartyEvents → PlayerId → Prop
  | (.invite _ player invited, events), user => user = player ∧ player ≠ invited ∧ society.players invited ≠ .none ∧
      society.isInviting invited player = false ∧ society.partyOf invited = .none ∧ ∃ address party,
        society.partyOf player = some address ∧ society.parties address = some party ∧ party.leader = player ∧
          party.empty = true ∧ events.eventPartyOnInvite address invited = false
  | (.revoke player invited, events), user => society.players invited ≠ .none ∧ society.isInviting player invited = true ∧
      ∃ address, society.partyOf player = some address ∧ society.leads player address = true ∧
        events.eventPartyOnRevokeInvitation address invited = true ∧ society.Withdraws events address invited user
  | (.leave player inFight, events), user => inFight = false ∧ ∃ address party, society.partyOf player = some address ∧
      society.parties address = some party ∧ events.eventPartyOnLeave address player = true ∧
        GoesWith events address party player user
  | (.disband address, events), user => events.eventPartyOnDisband address = true ∧ ∃ party,
      society.parties address = some party ∧ (user = party.leader ∨ user ∈ party.memberList)
  | (.logout player, events), user => user ≠ player ∧
      ((∃ address ∈ society.invitePartyList player, society.Withdraws events address player user) ∨
        ∃ address party, society.partyOf player = some address ∧ society.parties address = some party ∧
          GoesWith events address party player user)
  | _, _ => False

/-- The players that a step takes out of their guild. -/
def LosesGuild (society : Society) : Op × PartyEvents → PlayerId → Prop
  | (.setGuild player guild, _), user => user = player ∧ guild.map Guild.id ≠ society.guildOf player
  | _, _ => False

/-- No user of the channel of a party is taken out of the party, and no user of the channel of a guild out of the guild. -/
structure KeepsUsers (society : Society) (call : Op × PartyEvents) : Prop where
  party : ∀ address channel, society.channels (.party address) = some channel →
    ∀ user ∈ channel.users, ¬ society.LosesParty call user
  guild : ∀ id channel, society.channels (.guild id) = some channel →
    ∀ user ∈ channel.users, ¬ society.LosesGuild call user

theorem points_leaveParty (held : society.parties address = some party) (own : society.partyOf player = some address)
    {forceRemove : Bool} (allowed : forceRemove = true ∨ events.eventPartyOnLeave address player = true) (place : PartyPtr) :
    (society.leaveParty events address player forceRemove).2.partyOf other = some place ↔
      society.partyOf other = some place ∧ ¬ GoesWith events address party player other := by
  obtain ⟨rest, goes, result⟩ := leaveParty_rest events held own allowed
  rw [result, GoesWith]
  split_ifs with ends
  · cases answer : events.eventPartyOnDisband address with
    | false =>
      rw [disband_vetoed answer, partyOf_withRest]
      simp only [Bool.false_eq_true, false_and, and_false, or_false]
      split_ifs with same
      · simp [same]
      · simp [same]
    | true =>
      have remain : other ≠ player → ((other = rest.leader ∨ other ∈ rest.memberList) ↔
          (other = party.leader ∨ other ∈ party.memberList)) := by
        intro different
        have kept : other ∈ party.memberList.erase player ↔ other ∈ party.memberList := List.mem_erase_of_ne different
        cases goes with
        | member under => exact or_congr_right kept
        | headless alone => exact or_congr_right kept
        | handed leads several members heir another => exact absurd leads (ends.resolve_left several).1
        | stuck leads several members unfit => exact or_congr_right kept
      have effect := disbanded_withRest society rest player answer
      rw [effect.partyOf, partyOf_withRest]
      by_cases same : other = player
      · simp [same]
      · simp only [same, if_false, false_or, ends, true_and, remain same]
        split_ifs with gone
        · simp [gone]
        · simp [gone]
  · rw [partyOf_withRest]
    simp only [ends, false_and, or_false]
    split_ifs with same
    · simp [same]
    · simp [same]

/-- A player that is kept in the game points to what it pointed to, unless an invitation or the player takes it away. -/
theorem Grounded.points_logout (grounded : Grounded society) (events : PartyEvents) (player : PlayerId) {mid : Society}
    (left : mid = match (society.clearPartyInvitations events player).partyOf player with
      | .none => society.clearPartyInvitations events player
      | some address => ((society.clearPartyInvitations events player).leaveParty events address player true).2)
    (different : other ≠ player) (place : PartyPtr) :
    mid.partyOf other = some place ↔
      society.partyOf other = some place ∧ ¬ society.LosesParty (.logout player, events) other := by
  have cleared : (society.clearPartyInvitations events player).partyOf other = some place ↔ society.partyOf other = some place ∧
      ∀ address ∈ society.invitePartyList player, ¬ society.Withdraws events address player other :=
    grounded.points_clearPartyInvitations place
  have loses : society.LosesParty (.logout player, events) other ↔
      (∃ address ∈ society.invitePartyList player, society.Withdraws events address player other) ∨
        ∃ address party, society.partyOf player = some address ∧ society.parties address = some party ∧
          GoesWith events address party player other := and_iff_right different
  cases own : (society.clearPartyInvitations events player).partyOf player with
  | none =>
    have out : ∀ address, society.partyOf player ≠ some address := by
      intro address points
      rw [(grounded.clearPartyInvitations_own events points).1] at own
      cases own
    rw [own] at left
    rw [left, cleared, loses]
    simp [out]
  | some address =>
    have before := ((grounded.points_clearPartyInvitations address).mp own).1
    obtain ⟨party, held, _⟩ := (grounded.clearPartyInvitations events player).inside player address own
    have found : society.parties address = some party := (grounded.clearPartyInvitations_own events before).2.symm.trans held
    rw [own] at left
    rw [left, points_leaveParty held own (.inl rfl), cleared, loses]
    simp only [before, found, some.injEq, exists_and_left, exists_eq_left', not_or, not_exists, not_and, and_assoc]

theorem points_disband (address : PartyPtr) (events : PartyEvents) {user : PlayerId} {place : PartyPtr}
    (points : society.partyOf user = some place) :
    (society.disband events address).partyOf user = some place ↔ ¬ society.LosesParty (.disband address, events) user := by
  cases held : society.parties address with
  | none =>
    rw [disband, held]
    refine iff_of_true points ?_
    rintro ⟨_, party, found, _⟩
    rw [held] at found
    cases found
  | some party =>
    cases answer : events.eventPartyOnDisband address with
    | false =>
      rw [disband_vetoed answer]
      exact iff_of_true points (fun lost => Bool.false_ne_true (answer.symm.trans lost.1))
    | true =>
      have loses : society.LosesParty (.disband address, events) user ↔ user = party.leader ∨ user ∈ party.memberList := by
        simp only [LosesParty, answer, held, some.injEq, exists_eq_left', true_and]
      rw [(disbanded held answer).partyOf, loses]
      split_ifs with belongs
      · exact iff_of_false not_false (not_not.mpr belongs)
      · exact iff_of_true points belongs

theorem points_leave (grounded : Grounded society) (player : PlayerId) (inFight : Bool) (events : PartyEvents) {user : PlayerId}
    {place : PartyPtr} (points : society.partyOf user = some place) :
    (society.playerLeaveParty events player inFight).partyOf user = some place ↔
      ¬ society.LosesParty (.leave player inFight, events) user := by
  rw [playerLeaveParty]
  cases own : society.partyOf player with
  | none =>
    refine iff_of_true points ?_
    rintro ⟨_, _, _, found, _⟩
    rw [own] at found
    cases found
  | some address =>
    obtain ⟨party, held, _⟩ := grounded.inside player address own
    have loses : society.LosesParty (.leave player inFight, events) user ↔ inFight = false ∧
        events.eventPartyOnLeave address player = true ∧ GoesWith events address party player user := by
      simp only [LosesParty, own, held, some.injEq, exists_and_left, exists_eq_left']
    simp only
    split_ifs with fights
    · refine iff_of_true points (fun lost => ?_)
      rw [fights] at lost
      cases lost.1
    · rw [loses]
      cases answer : events.eventPartyOnLeave address player with
      | false =>
        rw [leaveParty_refused held answer]
        exact iff_of_true points (fun lost => Bool.false_ne_true lost.2.1)
      | true =>
        rw [points_leaveParty held own (.inr answer)]
        simp only [points, fights, true_and]

theorem points_revoke (player other : PlayerId) (events : PartyEvents) {user : PlayerId} {place : PartyPtr}
    (points : society.partyOf user = some place) :
    (society.playerRevokePartyInvitation events player other).partyOf user = some place ↔
      ¬ society.LosesParty (.revoke player other, events) user := by
  rw [playerRevokePartyInvitation]
  cases own : society.partyOf player with
  | none =>
    refine iff_of_true points ?_
    rintro ⟨_, _, _, found, _⟩
    rw [own] at found
    cases found
  | some address =>
    have loses : society.LosesParty (.revoke player other, events) user ↔ society.players other ≠ .none ∧
        society.isInviting player other = true ∧ society.leads player address = true ∧
          events.eventPartyOnRevokeInvitation address other = true ∧ society.Withdraws events address other user := by
      simp only [LosesParty, own, some.injEq, exists_eq_left']
    simp only
    rw [loses]
    split_ifs with refused
    · refine iff_of_true points ?_
      rintro ⟨online, inviting, leads, _⟩
      simp [online, inviting, leads] at refused
    · simp only [Bool.not_eq_true', not_or, Bool.not_eq_false] at refused
      simp only [refused, ne_eq, not_false_eq_true, true_and, revokeInvitation]
      split_ifs with answer
      · rw [points_removeInvite]
        simp only [points, answer, true_and]
      · simp only [points, answer, false_and, not_false_eq_true, Bool.false_eq_true]

theorem points_inviteToParty (held : society.parties address = some party) (player other : PlayerId) {user : PlayerId}
    {place : PartyPtr} (points : society.partyOf user = some place) :
    (society.inviteToParty events address player other).partyOf user = some place ↔
      ¬ (user = player ∧ party.empty = true ∧ events.eventPartyOnInvite address other = false) := by
  rw [inviteToParty, held]
  cases answer : events.eventPartyOnInvite address other with
  | true =>
    simp only [if_true, Bool.true_eq_false, and_false, not_false_eq_true, iff_true]
    by_cases absent : other ∈ party.inviteList
    · rw [invitePlayer, held]
      simp only [absent, if_true]
      exact points
    · rw [invitePlayer_invited held absent, partyOf_invited]
      exact points
  | false =>
    simp only [Bool.false_eq_true, if_false, any_some, and_true]
    split_ifs with alone
    · rw [partyOf_putParty, partyOf_setParty_none]
      split_ifs with same
      · simp [same, alone]
      · simp [same, points]
    · simp [alone, points]

theorem points_invite (free : PartyPtr) (player other : PlayerId) (events : PartyEvents) {user : PlayerId} {place : PartyPtr}
    (points : society.partyOf user = some place) :
    (society.playerInviteToParty events free player other).partyOf user = some place ↔
      ¬ society.LosesParty (.invite free player other, events) user := by
  rw [playerInviteToParty]
  split
  next refused =>
    refine iff_of_true points ?_
    rintro ⟨_, different, online, inviting, away, address, _, own, _⟩
    have present : society.players player ≠ .none := by
      intro absent
      rw [partyOf, absent] at own
      cases own
    simp [different, online, inviting, away, present] at refused
  next refused =>
    simp only [not_or, ne_eq, not_not, Bool.not_eq_true] at refused
    obtain ⟨different, present, online, inviting, away⟩ := refused
    cases own : society.partyOf player with
    | none =>
      have another : user ≠ player := by
        rintro rfl
        rw [own] at points
        cases points
      have stays : ¬ society.LosesParty (.invite free player other, events) user := fun lost => another lost.1
      simp only
      split_ifs
      · have made : (society.newParty free player).parties free = some ⟨player, [], []⟩ := by
          rw [parties_newParty, if_pos rfl]
        rw [points_inviteToParty made player other (by rw [partyOf_newParty present, if_neg another]; exact points)]
        exact iff_of_true (fun lost => another lost.1) stays
      · exact iff_of_true points stays
    | some address =>
      have loses : society.LosesParty (.invite free player other, events) user ↔ user = player ∧
          ∃ party, society.parties address = some party ∧ party.leader = player ∧ party.empty = true ∧
            events.eventPartyOnInvite address other = false := by
        simp only [LosesParty, own, different, online, inviting, away, some.injEq, ne_eq, not_false_eq_true, true_and,
          exists_and_left, exists_eq_left']
      simp only
      rw [loses]
      split_ifs with leads
      · obtain ⟨party, held, leads⟩ := leads_iff.mp leads
        rw [points_inviteToParty held player other points]
        simp only [held, leads, some.injEq, exists_eq_left', true_and]
      · refine iff_of_true points ?_
        rintro ⟨_, party, held, leader, _⟩
        exact leads (leads_iff.mpr ⟨party, held, leader⟩)

theorem points_pass (player newLeader : PlayerId) (events : PartyEvents) (user : PlayerId) :
    (society.playerPassPartyLeadership events player newLeader).partyOf user = society.partyOf user := by
  rw [playerPassPartyLeadership]
  split
  · rfl
  · split_ifs
    · rfl
    · rw [passPartyLeadership]
      split
      · rfl
      · split_ifs
        · rfl
        · rfl
        · rfl

theorem points_join (player leader : PlayerId) (events : PartyEvents) {user : PlayerId} {place : PartyPtr}
    (points : society.partyOf user = some place) :
    (society.playerJoinParty events player leader).partyOf user = some place := by
  rw [playerJoinParty]
  split
  · exact points
  next refused =>
    rw [not_or] at refused
    cases society.partyOf leader with
    | none => exact points
    | some address =>
      simp only
      split_ifs with barred
      · exact points
      · rw [not_or, ne_eq, not_not] at barred
        have another : user ≠ player := by
          rintro rfl
          rw [barred.2] at points
          cases points
        rw [joinParty]
        split
        · exact points
        · split_ifs
          · exact points
          · rw [partyOf_removePartyInvitation, partyOf_setParty _ _ _ _ (by exact refused.1), if_neg another]
            exact points

/-- What happens to parties does not change the channels: nobody may be taken out of a party that talks in its channel. -/
theorem Isolated.party_iff (isolated : Isolated before) (same : SameChats before after) {loses : PlayerId → Prop}
    (points : ∀ user place, before.partyOf user = some place → (after.partyOf user = some place ↔ ¬ loses user)) :
    Isolated after ↔ ∀ address channel, before.channels (.party address) = some channel →
      ∀ user ∈ channel.users, ¬ loses user := by
  constructor
  · intro secluded address channel held user member
    have pointer := keyOf_party_iff.mp (isolated _ channel held user member)
    apply (points user address pointer).mp
    exact keyOf_party_iff.mp (secluded (.party address) channel (by rw [same.channels]; exact held) user member)
  · intro stays key channel held user member
    rw [same.channels] at held
    have own := isolated key channel held user member
    cases key with
    | guild id =>
      apply keyOf_guild_iff.mpr
      rw [same.guildOf]
      exact keyOf_guild_iff.mp own
    | party address =>
      have pointer := keyOf_party_iff.mp own
      exact keyOf_party_iff.mpr ((points user address pointer).mpr (stays address channel held user member))

theorem guild_setGuild_iff {object : PartyPlayer} {id : Nat} (own : object.guild = some id) (guild : Option Guild) :
    (object.setGuild guild).guild = some id ↔ guild.map Guild.id = some id := by
  cases guild with
  | none => simp [PartyPlayer.setGuild, own]
  | some guild =>
    simp only [PartyPlayer.setGuild, map_some, own, some.injEq]
    split_ifs with same
    · exact iff_of_true own same
    · simp
    · simp [same]

theorem guildOf_setGuild_iff {id : Nat} (own : society.guildOf other = some id) (player : PlayerId) (guild : Option Guild) :
    (society.setGuild player guild).guildOf other = some id ↔
      ¬ (other = player ∧ guild.map Guild.id ≠ society.guildOf player) := by
  rw [guildOf, setGuild, players_modifyPlayer]
  split_ifs with same
  · rw [← same, own]
    simp only [true_and, ne_eq, not_not]
    rw [guildOf, bind_eq_some_iff] at own
    obtain ⟨object, held, own⟩ := own
    rw [held]
    exact guild_setGuild_iff own guild
  · simp only [same, false_and, not_false_eq_true, iff_true]
    exact own

theorem isolated_setGuild_iff (isolated : Isolated society) (player : PlayerId) (guild : Option Guild) :
    Isolated (society.setGuild player guild) ↔ ∀ id channel, society.channels (.guild id) = some channel →
      ∀ user ∈ channel.users, ¬ (user = player ∧ guild.map Guild.id ≠ society.guildOf player) := by
  constructor
  · intro secluded id channel held user member
    have own := keyOf_guild_iff.mp (isolated _ channel held user member)
    exact (guildOf_setGuild_iff own player guild).mp (keyOf_guild_iff.mp (secluded (.guild id) channel held user member))
  · intro stays key channel held user member
    have own := isolated key channel held user member
    cases key with
    | guild id =>
      have listed := stays id channel held user member
      exact keyOf_guild_iff.mpr ((guildOf_setGuild_iff (keyOf_guild_iff.mp own) player guild).mpr listed)
    | party address =>
      apply keyOf_party_iff.mpr
      rw [partyOf_setGuild]
      exact keyOf_party_iff.mp own

theorem Isolated.of_users (isolated : Isolated before) (same : SameParties before after)
    (users : ∀ key channel, after.channels key = some channel → ∀ user ∈ channel.users,
      (∃ old, before.channels key = some old ∧ user ∈ old.users) ∨ before.keyOf user key.channelId = some key) :
    Isolated after := by
  intro key channel held user member
  have view : after.keyOf user key.channelId = before.keyOf user key.channelId := by
    rw [keyOf, keyOf, same.players]
  rw [view]
  rcases users key channel held user member with ⟨old, found, listed⟩ | own
  · exact isolated key old found user listed
  · exact own

theorem Isolated.createChannel (isolated : Isolated society) (player : PlayerId) (channelId : ChannelId) :
    Isolated (society.createChannel player channelId) := by
  apply isolated.of_users (.createChannel society player channelId)
  intro key channel held user member
  rw [Society.createChannel] at held
  split at held
  · simp only [putChannel, update_apply] at held
    split_ifs at held
    · cases held
      cases member
    · exact .inl ⟨channel, held, member⟩
  · exact .inl ⟨channel, held, member⟩

theorem Isolated.addUserToChannel (isolated : Isolated society) (player : PlayerId) (channelId : ChannelId) :
    Isolated (society.addUserToChannel player channelId) := by
  apply isolated.of_users (.addUserToChannel society player channelId)
  intro key channel held user member
  rw [Society.addUserToChannel] at held
  split at held
  · exact .inl ⟨channel, held, member⟩
  next found old got =>
    obtain ⟨own, present⟩ := getChannel_iff.mp got
    split_ifs at held
    · exact .inl ⟨channel, held, member⟩
    · simp only [putChannel, update_apply] at held
      split_ifs at held with here
      · cases held
        rcases Finset.mem_insert.mp member with rfl | listed
        · right
          rw [here, channelId_keyOf own]
          exact own
        · exact .inl ⟨old, here ▸ present, listed⟩
      · exact .inl ⟨channel, held, member⟩

theorem users_deleteChannel (society : Society) (player : PlayerId) (channelId : ChannelId)
    (held : (society.deleteChannel player channelId).channels key = some channel) : society.channels key = some channel := by
  rw [deleteChannel] at held
  split at held
  · exact held
  · simp only [putChannel, update_apply] at held
    split_ifs at held
    exact held

theorem Isolated.removeUserFromChannel (isolated : Isolated society) (player : PlayerId) (channelId : ChannelId) :
    Isolated (society.removeUserFromChannel player channelId) := by
  apply isolated.of_users (.removeUserFromChannel society player channelId)
  intro key channel held user member
  rw [Society.removeUserFromChannel] at held
  split at held
  · exact .inl ⟨channel, held, member⟩
  next found old got =>
    obtain ⟨own, present⟩ := getChannel_iff.mp got
    have fewer : (society.putChannel found (some ⟨old.users.erase player⟩)).channels key = some channel →
        (∃ old, society.channels key = some old ∧ user ∈ old.users) := by
      intro held
      simp only [putChannel, update_apply] at held
      split_ifs at held with here
      · cases held
        exact ⟨old, here ▸ present, Finset.mem_of_mem_erase member⟩
      · exact ⟨channel, held, member⟩
    simp only at held
    split_ifs at held
    · exact .inl (fewer (users_deleteChannel _ player channelId held))
    · exact .inl (fewer held)
    · exact .inl ⟨channel, held, member⟩

theorem Isolated.removeUserFromAllChannels (isolated : Isolated society) (player : PlayerId) :
    Isolated (society.removeUserFromAllChannels player) := by
  have same : SameParties society (society.removeUserFromAllChannels player) := ⟨rfl, rfl⟩
  apply isolated.of_users same
  intro key channel held user member
  simp only [Society.removeUserFromAllChannels, map_eq_some_iff] at held
  obtain ⟨old, found, rfl⟩ := held
  exact .inl ⟨old, found, Finset.mem_of_mem_erase member⟩

theorem Isolated.login (isolated : Isolated society) (player : PlayerId) (guid : Nat) (guild guildRank : Option Nat) :
    Isolated (society.login player guid guild guildRank) := by
  rw [Society.login]
  split_ifs with absent
  · intro key channel held user member
    have own := isolated key channel held user member
    have present : user ≠ player := by
      rintro rfl
      rw [keyOf, absent] at own
      cases own
    simp only [keyOf, putPlayer, update_apply, present, if_false]
    exact own
  · exact isolated

theorem Isolated.logout_iff (isolated : Isolated before) (same : SameChats before middle) (player : PlayerId)
    {loses : PlayerId → Prop} (own : ¬ loses player)
    (points : ∀ user place, user ≠ player → before.partyOf user = some place →
      (middle.partyOf user = some place ↔ ¬ loses user)) :
    Isolated ((middle.removeUserFromAllChannels player).putPlayer player .none) ↔
      ∀ address channel, before.channels (.party address) = some channel → ∀ user ∈ channel.users, ¬ loses user := by
  have view : ∀ user channelId, user ≠ player →
      ((middle.removeUserFromAllChannels player).putPlayer player .none).keyOf user channelId = middle.keyOf user channelId := by
    intro user channelId different
    simp only [keyOf, putPlayer, Society.removeUserFromAllChannels, update_apply, different, if_false]
  have fewer : ∀ key channel, before.channels key = some channel →
      ((middle.removeUserFromAllChannels player).putPlayer player .none).channels key = some ⟨channel.users.erase player⟩ := by
    intro key channel held
    simp only [putPlayer, Society.removeUserFromAllChannels, same.channels, held, map_some]
  constructor
  · intro secluded address channel held user member
    by_cases different : user = player
    · exact different ▸ own
    · have pointer := keyOf_party_iff.mp (isolated _ channel held user member)
      apply (points user address different pointer).mp
      have after := secluded (.party address) _ (fewer _ channel held) user (Finset.mem_erase.mpr ⟨different, member⟩)
      rw [view user _ different] at after
      exact keyOf_party_iff.mp after
  · intro stays key channel held user member
    simp only [putPlayer, Society.removeUserFromAllChannels, same.channels, map_eq_some_iff] at held
    obtain ⟨old, held, rfl⟩ := held
    obtain ⟨different, member⟩ := Finset.mem_erase.mp member
    have own := isolated key old held user member
    rw [view user _ different]
    cases key with
    | guild id =>
      apply keyOf_guild_iff.mpr
      rw [same.guildOf]
      exact keyOf_guild_iff.mp own
    | party address =>
      have pointer := keyOf_party_iff.mp own
      exact keyOf_party_iff.mpr ((points user address different pointer).mpr (stays address old held user member))

/-- Where no guild is lost, parties are all that counts. -/
theorem keepsUsers_iff {call : Op × PartyEvents} (none : ∀ user, ¬ society.LosesGuild call user) :
    society.KeepsUsers call ↔ ∀ address channel, society.channels (.party address) = some channel →
      ∀ user ∈ channel.users, ¬ society.LosesParty call user :=
  ⟨KeepsUsers.party, fun party => ⟨party, fun _ _ _ user _ => none user⟩⟩

theorem keepsUsers_of_none {call : Op × PartyEvents} (parties : ∀ user, ¬ society.LosesParty call user)
    (guilds : ∀ user, ¬ society.LosesGuild call user) : society.KeepsUsers call :=
  ⟨fun _ _ _ user _ => parties user, fun _ _ _ user _ => guilds user⟩

/-- A step keeps the channels to themselves just where it takes no user of a channel out of its party or guild. -/
theorem isolated_step_iff (grounded : Grounded society) (isolated : Isolated society) (call : Op × PartyEvents) :
    Isolated (society.step call) ↔ society.KeepsUsers call := by
  obtain ⟨op, events⟩ := call
  cases op with
  | invite free player other =>
    rw [keepsUsers_iff (fun _ => id)]
    exact isolated.party_iff (.playerInviteToParty society free events player other)
      (fun _ _ => points_invite free player other events)
  | join player leader =>
    rw [keepsUsers_iff (fun _ => id)]
    exact isolated.party_iff (.playerJoinParty society events player leader)
      (fun _ _ points => iff_of_true (points_join player leader events points) id)
  | revoke player other =>
    rw [keepsUsers_iff (fun _ => id)]
    exact isolated.party_iff (.playerRevokePartyInvitation society events player other)
      (fun _ _ => points_revoke player other events)
  | passLeadership player newLeader =>
    rw [keepsUsers_iff (fun _ => id)]
    exact isolated.party_iff (.playerPassPartyLeadership society events player newLeader)
      (fun user _ points => iff_of_true ((points_pass player newLeader events user).trans points) id)
  | leave player inFight =>
    rw [keepsUsers_iff (fun _ => id)]
    exact isolated.party_iff (.playerLeaveParty grounded events player inFight)
      (fun _ _ => points_leave grounded player inFight events)
  | disband address =>
    rw [keepsUsers_iff (fun _ => id)]
    exact isolated.party_iff (.disband society address events) (fun _ _ => points_disband address events)
  | logout player =>
    rw [keepsUsers_iff (fun _ => id)]
    apply isolated.logout_iff (.leaveGame grounded events player) player (fun lost => lost.1 rfl)
    intro user place different points
    rw [grounded.points_logout events player rfl different]
    simp only [points, true_and]
  | login player guid guild guildRank =>
    exact iff_of_true (isolated.login player guid guild guildRank) (keepsUsers_of_none (fun _ => id) (fun _ => id))
  | connect player =>
    exact iff_of_true (isolated.removeUserFromAllChannels player) (keepsUsers_of_none (fun _ => id) (fun _ => id))
  | setGuild player guild =>
    refine (isolated_setGuild_iff isolated player guild).trans ⟨fun stays => ⟨fun _ _ _ _ _ => id, stays⟩, KeepsUsers.guild⟩
  | requestChannels player =>
    exact iff_of_true ((isolated.createChannel player .guild).createChannel player .party)
      (keepsUsers_of_none (fun _ => id) (fun _ => id))
  | openChannel player channelId =>
    exact iff_of_true (isolated.addUserToChannel player channelId) (keepsUsers_of_none (fun _ => id) (fun _ => id))
  | closeChannel player channelId =>
    exact iff_of_true (isolated.removeUserFromChannel player channelId) (keepsUsers_of_none (fun _ => id) (fun _ => id))
  | talk player text channelId =>
    exact iff_of_true isolated (keepsUsers_of_none (fun _ => id) (fun _ => id))

/-- What is said in a channel stays in its party or guild along just those runs in which no user of a channel is taken
out of its party or guild. -/
theorem always_secluded_iff (calls : List (Op × PartyEvents)) :
    Always step Secluded start calls ↔ Throughout step KeepsUsers start calls := by
  apply always_iff_throughout Grounded
  · exact fun _ call grounded => grounded.step call
  · intro society call grounded secluded
    rw [secluded_iff] at secluded ⊢
    exact isolated_step_iff grounded secluded call
  · exact Grounded.start
  · exact secluded_iff.mpr nofun

/-- The second player opens the channel of the party and leaves: it still hears what is said there. -/
theorem not_always_secluded : ¬ Always step Secluded start
    (pairUp ++ [(.requestChannels 2, allowing true), (.openChannel 2 .party, allowing true), (.leave 2 false, allowing false)]) := by
  intro always
  have last : Secluded _ := always.2.2.2.2.2.2.2
  have pointer := last.party 10 ⟨{2}⟩ rfl 2 (Finset.mem_singleton_self 2)
  cases pointer

end Society

end Styller
