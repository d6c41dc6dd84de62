import Mathlib.Data.Finset.Basic
import Styller.Item.Item

/-! Parties and the chat channels of parties and guilds: `Party`, the members of `Player`, `Game` and `Chat` that
change them, and what they read. Messages, icons and shared experience are left out: nothing here reads them. -/

namespace Styller

abbrev PartyPtr := Nat

/-- The members of a player that parties and channels use; the guild is its id, the rank its level. -/
structure PartyPlayer where
  guid : Nat
  guild : Option Nat
  guildRank : Option Nat
  party : Option PartyPtr
  invitePartyList : List PartyPtr

structure Party where
  leader : PlayerId
  memberList : List PlayerId
  inviteList : List PlayerId

structure Guild where
  id : Nat
  ranks : List Nat

/-- `CHANNEL_GUILD` and `CHANNEL_PARTY`. The other channels belong to nobody's party or guild. -/
inductive ChannelId where
  | guild
  | party

inductive ChannelKey where
  | guild (id : Nat)
  | party (address : PartyPtr)
  deriving DecidableEq

/-- The users of a channel of a party or a guild. Such a channel has no script. -/
structure ChatChannel where
  users : Finset PlayerId

def ChatChannel.getOwner (_ : ChatChannel) : Nat := 0

inductive SpeakClasses where
  | channelY
  | channelO
  | channelR1

/-- What a channel sends to its users. -/
structure Delivery where
  author : PlayerId
  type : SpeakClasses
  text : String
  users : Finset PlayerId

structure Society where
  players : PlayerId → Option PartyPlayer
  parties : PartyPtr → Option Party
  channels : ChannelKey → Option ChatChannel

/-- What the event scripts of parties answer. -/
structure PartyEvents where
  eventPartyOnJoin : PartyPtr → PlayerId → Bool
  eventPartyOnLeave : PartyPtr → PlayerId → Bool
  eventPartyOnDisband : PartyPtr → Bool
  eventPartyOnInvite : PartyPtr → PlayerId → Bool
  eventPartyOnRevokeInvitation : PartyPtr → PlayerId → Bool
  eventPartyOnPassLeadership : PartyPtr → PlayerId → Bool

namespace PartyPlayer

variable (player : PartyPlayer)

/-- The key under which `getChannel` looks. -/
def channelKey : ChannelId → Option ChannelKey
  | .guild => player.guild.map .guild
  | .party => player.party.map .party

/-- Those of `invitePartyList.remove(party)`. -/
def removePartyInvitation (party : PartyPtr) : PartyPlayer :=
  { player with invitePartyList := player.invitePartyList.filter (· ≠ party) }

def addPartyInvitation (party : PartyPtr) : PartyPlayer :=
  if party ∈ player.invitePartyList then player
  else { player with invitePartyList := party :: player.invitePartyList }

/-- `Player::setGuild`. A guild without a first rank takes nobody. The lists of the members that are online are left
out. -/
def setGuild (guild : Option Guild) : PartyPlayer :=
  if guild.map Guild.id = player.guild then player
  else
    match guild with
    | .none => { player with guild := .none, guildRank := .none }
    | some guild =>
      if 1 ∈ guild.ranks then { player with guild := some guild.id, guildRank := some 1 }
      else { player with guild := .none, guildRank := .none }

end PartyPlayer

def Party.empty (party : Party) : Bool :=
  party.memberList.isEmpty && party.inviteList.isEmpty

namespace Society

variable (society : Society)

/-- `Player::getParty` of a player of the game. -/
def partyOf (player : PlayerId) : Option PartyPtr :=
  (society.players player).bind PartyPlayer.party

def invitePartyList (player : PlayerId) : List PartyPtr :=
  ((society.players player).map PartyPlayer.invitePartyList).getD []

/-- A player that has left the game has no object to write to. -/
def modifyPlayer (player : PlayerId) (change : PartyPlayer → PartyPlayer) : Society :=
  { society with players := Function.update society.players player ((society.players player).map change) }

def setParty (player : PlayerId) (party : Option PartyPtr) : Society :=
  society.modifyPlayer player (fun player => { player with party })

def removePartyInvitation (player : PlayerId) (party : PartyPtr) : Society :=
  society.modifyPlayer player (·.removePartyInvitation party)

def addPartyInvitation (player : PlayerId) (party : PartyPtr) : Society :=
  society.modifyPlayer player (·.addPartyInvitation party)

def putPlayer (player : PlayerId) (object : Option PartyPlayer) : Society :=
  { society with players := Function.update society.players player object }

def putParty (address : PartyPtr) (party : Option Party) : Society :=
  { society with parties := Function.update society.parties address party }

def putChannel (key : ChannelKey) (channel : Option ChatChannel) : Society :=
  { society with channels := Function.update society.channels key channel }

/-- `Chat::getChannel`, with the key of the channel. -/
def getChannel (player : PlayerId) (channelId : ChannelId) : Option (ChannelKey × ChatChannel) := do
  let object ← society.players player
  let key ← object.channelKey channelId
  let channel ← society.channels key
  return (key, channel)

/-- `Chat::createChannel`. -/
def createChannel (player : PlayerId) (channelId : ChannelId) : Society :=
  match society.getChannel player channelId, (society.players player).bind (·.channelKey channelId) with
  | .none, some key => society.putChannel key (some ⟨∅⟩)
  | _, _ => society

/-- `Chat::deleteChannel`. -/
def deleteChannel (player : PlayerId) (channelId : ChannelId) : Society :=
  match society.getChannel player channelId with
  | .none => society
  | some (key, _) => society.putChannel key .none

/-- `Chat::addUserToChannel`. -/
def addUserToChannel (player : PlayerId) (channelId : ChannelId) : Society :=
  match society.getChannel player channelId with
  | .none => society
  | some (key, channel) =>
    if player ∈ channel.users then society
    else society.putChannel key (some ⟨insert player channel.users⟩)

/-- `Chat::removeUserFromChannel`. -/
def removeUserFromChannel (player : PlayerId) (channelId : ChannelId) : Society :=
  match society.getChannel player channelId with
  | .none => society
  | some (key, channel) =>
    if player ∈ channel.users then
      let society := society.putChannel key (some ⟨channel.users.erase player⟩)
      if (society.players player).map PartyPlayer.guid = some channel.getOwner then society.deleteChannel player channelId
      else society
    else society

/-- `Chat::removeUserFromAllChannels`. -/
def removeUserFromAllChannels (player : PlayerId) : Society :=
  { society with channels := fun key => (society.channels key).map (fun channel => ⟨channel.users.erase player⟩) }

/-- `Chat::getChannelList` makes the channels of the guild and of the party. -/
def getChannelList (player : PlayerId) : Society :=
  (society.createChannel player .guild).createChannel player .party

/-- The class with which `Chat::talkToChannel` sends. -/
def speakClass (player : PlayerId) : ChannelId → SpeakClasses
  | .guild =>
    match (society.players player).bind PartyPlayer.guildRank with
    | some level => if 1 < level then .channelO else .channelY
    | .none => .channelY
  | .party => .channelY

/-- `Chat::talkToChannel`. -/
def talkToChannel (player : PlayerId) (text : String) (channelId : ChannelId) : Option Delivery :=
  match society.getChannel player channelId with
  | .none => .none
  | some (_, channel) =>
    if player ∈ channel.users then some ⟨player, society.speakClass player channelId, text, channel.users⟩
    else .none

/-- `Player::sendClosePrivate`. -/
def sendClosePrivate (player : PlayerId) (channelId : ChannelId) : Society :=
  society.removeUserFromChannel player channelId

section

variable (events : PartyEvents) (address : PartyPtr)

/-- `Party::disband`. The channel of the party stays. -/
def disband : Society :=
  match society.parties address with
  | .none => society
  | some party =>
    if events.eventPartyOnDisband address then
      let society := (society.setParty party.leader .none).sendClosePrivate party.leader .party
      let society := party.inviteList.foldl (fun society invitee => society.removePartyInvitation invitee address) society
      let society := party.memberList.foldl
        (fun society member => (society.setParty member .none).sendClosePrivate member .party) society
      society.putParty address .none
    else society

/-- `Party::passPartyLeadership`. -/
def passPartyLeadership (player : PlayerId) (forceRemove : Bool) : Bool × Society :=
  match society.parties address with
  | .none => (false, society)
  | some party =>
    if party.leader = player ∨ society.partyOf player ≠ some address then (false, society)
    else if !events.eventPartyOnPassLeadership address player && !forceRemove then (false, society)
    else
      (true, society.putParty address
        (some { party with leader := player, memberList := party.leader :: party.memberList.erase player }))

/-- The first part of `Party::leaveParty`: a leader hands over, where there is somebody to hand over to. -/
def handOver (party : Party) (player : PlayerId) : Bool × Society :=
  if party.leader = player then
    match party.memberList with
    | [] => (true, society)
    | front :: others =>
      if others.isEmpty && party.inviteList.isEmpty then (true, society)
      else (false, (society.passPartyLeadership events address front true).2)
  else (false, society)

/-- `Party::leaveParty`. -/
def leaveParty (player : PlayerId) (forceRemove : Bool) : Bool × Society :=
  match society.parties address with
  | .none => (false, society)
  | some party =>
    if society.partyOf player ≠ some address ∧ party.leader ≠ player then (false, society)
    else if !forceRemove && !events.eventPartyOnLeave address player then (false, society)
    else
      let (missingLeader, society) := society.handOver events address party player
      match society.parties address with
      | .none => (false, society)
      | some party =>
        let party := { party with memberList := party.memberList.erase player }
        let society := society.putParty address (some party)
        let society := (society.setParty player .none).sendClosePrivate player .party
        (true, if missingLeader || party.empty then society.disband events address else society)

/-- `Party::joinParty`. -/
def joinParty (player : PlayerId) : Bool × Society :=
  match society.parties address with
  | .none => (false, society)
  | some party =>
    if !events.eventPartyOnJoin address player || player ∉ party.inviteList then (false, society)
    else
      let society := society.putParty address (some
        { party with inviteList := party.inviteList.erase player, memberList := party.memberList ++ [player] })
      (true, (society.setParty player (some address)).removePartyInvitation player address)

/-- `Party::removeInvite`. -/
def removeInvite (player : PlayerId) (removeFromPlayer : Bool) : Bool × Society :=
  match society.parties address with
  | .none => (false, society)
  | some party =>
    if player ∉ party.inviteList then (false, society)
    else
      let party := { party with inviteList := party.inviteList.erase player }
      let society := society.putParty address (some party)
      let society := if removeFromPlayer then society.removePartyInvitation player address else society
      (true, if party.empty then society.disband events address else society)

/-- `Party::revokeInvitation`. -/
def revokeInvitation (player : PlayerId) : Society :=
  if events.eventPartyOnRevokeInvitation address player then (society.removeInvite events address player true).2
  else society

/-- `Party::invitePlayer`. -/
def invitePlayer (player : PlayerId) : Bool × Society :=
  match society.parties address with
  | .none => (false, society)
  | some party =>
    if player ∈ party.inviteList then (false, society)
    else
      let society := society.putParty address (some { party with inviteList := party.inviteList ++ [player] })
      (true, society.addPartyInvitation player address)

def newParty (leader : PlayerId) : Society :=
  (society.putParty address (some ⟨leader, [], []⟩)).setParty leader (some address)

end

section

variable (events : PartyEvents)

/-- `Player::clearPartyInvitations`. -/
def clearPartyInvitations (player : PlayerId) : Society :=
  let society := (society.invitePartyList player).foldl
    (fun society address => (society.removeInvite events address player false).2) society
  society.modifyPlayer player (fun player => { player with invitePartyList := [] })

/-- `Player::isInviting`. -/
def isInviting (inviter player : PlayerId) : Bool :=
  match (society.partyOf inviter).bind society.parties with
  | .none => false
  | some party => decide (party.leader = inviter) && decide (player ∈ party.inviteList)

/-- `Player::isPartner`. -/
def isPartner (player other : PlayerId) : Bool :=
  match society.partyOf player with
  | .none => false
  | some address => decide (other ≠ player) && decide (society.partyOf other = some address)

def leads (player : PlayerId) (address : PartyPtr) : Bool :=
  (society.parties address).any (fun party => party.leader = player)

def setGuild (player : PlayerId) (guild : Option Guild) : Society :=
  society.modifyPlayer player (·.setGuild guild)

end

section

variable (events : PartyEvents)

/-- The end of `Game::playerInviteToParty`. -/
def inviteToParty (address : PartyPtr) (player invited : PlayerId) : Society :=
  if events.eventPartyOnInvite address invited then (society.invitePlayer address invited).2
  else if (society.parties address).any Party.empty then (society.setParty player .none).putParty address .none
  else society

/-- `Game::playerInviteToParty`. A new party gets an address that is not in use. -/
def playerInviteToParty (free : PartyPtr) (player invited : PlayerId) : Society :=
  if player = invited ∨ society.players player = .none ∨ society.players invited = .none ∨
      society.isInviting invited player ∨ society.partyOf invited ≠ .none then society
  else
    match society.partyOf player with
    | .none =>
      if society.parties free = .none then (society.newParty free player).inviteToParty events free player invited
      else society
    | some address => if society.leads player address then society.inviteToParty events address player invited else society

/-- `Game::playerJoinParty`. -/
def playerJoinParty (player leader : PlayerId) : Society :=
  if society.players player = .none ∨ !society.isInviting leader player then society
  else
    match society.partyOf leader with
    | .none => society
    | some address =>
      if !society.leads leader address ∨ society.partyOf player ≠ .none then society
      else (society.joinParty events address player).2

/-- `Game::playerRevokePartyInvitation`. -/
def playerRevokePartyInvitation (player invited : PlayerId) : Society :=
  match society.partyOf player with
  | .none => society
  | some address =>
    if !society.leads player address ∨ society.players invited = .none ∨ !society.isInviting player invited then society
    else society.revokeInvitation events address invited

/-- `Game::playerPassPartyLeadership`. -/
def playerPassPartyLeadership (player newLeader : PlayerId) : Society :=
  match society.partyOf player with
  | .none => society
  | some address =>
    if !society.leads player address ∨ society.players newLeader = .none ∨ !society.isPartner player newLeader then society
    else (society.passPartyLeadership events address newLeader false).2

/-- `Game::playerLeaveParty`, of a player that is in a fight or not. -/
def playerLeaveParty (player : PlayerId) (inFight : Bool) : Society :=
  match society.partyOf player with
  | .none => society
  | some address => if inFight then society else (society.leaveParty events address player false).2

/-- `Player::onRemoveCreature` of a player that leaves the game. -/
def onRemoveCreature (player : PlayerId) : Society :=
  let society := society.clearPartyInvitations events player
  let society :=
    match society.partyOf player with
    | .none => society
    | some address => (society.leaveParty events address player true).2
  (society.removeUserFromAllChannels player).putPlayer player .none

/-- A player that is loaded is in no party. -/
def login (player : PlayerId) (guid : Nat) (guild guildRank : Option Nat) : Society :=
  if society.players player = .none then society.putPlayer player (some ⟨guid, guild, guildRank, .none, []⟩)
  else society

end

/-- What happens to parties, guilds and channels. A script can disband a party, and set the guild of a player. -/
inductive Op where
  | invite (free : PartyPtr) (player invited : PlayerId)
  | join (player leader : PlayerId)
  | revoke (player invited : PlayerId)
  | passLeadership (player newLeader : PlayerId)
  | leave (player : PlayerId) (inFight : Bool)
  | disband (address : PartyPtr)
  | logout (player : PlayerId)
  | login (player : PlayerId) (guid : Nat) (guild guildRank : Option Nat)
  | connect (player : PlayerId)
  | setGuild (player : PlayerId) (guild : Option Guild)
  | requestChannels (player : PlayerId)
  | openChannel (player : PlayerId) (channelId : ChannelId)
  | closeChannel (player : PlayerId) (channelId : ChannelId)
  | talk (player : PlayerId) (text : String) (channelId : ChannelId)

/-- One operation, with what the scripts answer to it. -/
def step (call : Op × PartyEvents) : Society :=
  match call.1 with
  | .invite free player invited => society.playerInviteToParty call.2 free player invited
  | .join player leader => society.playerJoinParty call.2 player leader
  | .revoke player invited => society.playerRevokePartyInvitation call.2 player invited
  | .passLeadership player newLeader => society.playerPassPartyLeadership call.2 player newLeader
  | .leave player inFight => society.playerLeaveParty call.2 player inFight
  | .disband address => society.disband call.2 address
  | .logout player => society.onRemoveCreature call.2 player
  | .login player guid guild guildRank => society.login player guid guild guildRank
  | .connect player => society.removeUserFromAllChannels player
  | .setGuild player guild => society.setGuild player guild
  | .requestChannels player => society.getChannelList player
  | .openChannel player channelId => society.addUserToChannel player channelId
  | .closeChannel player channelId => society.removeUserFromChannel player channelId
  | .talk _ _ _ => society

def start : Society := ⟨fun _ => .none, fun _ => .none, fun _ => .none⟩

end Society

end Styller
