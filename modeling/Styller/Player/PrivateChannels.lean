import Styller.Library.OrderedMap
import Styller.Library.Run

/-! The private channels of the chat: who owns them, who is invited, and who hears what is said in them. -/

namespace Styller.Chat

open Library List Option

/-- What the chat knows of a player who is online. -/
structure Player where
  id : Nat
  guid : Nat
  name : List UInt8
  deriving DecidableEq

abbrev UsersMap := OrderedMap Player

structure PrivateChatChannel where
  owner : Nat
  users : UsersMap := .empty
  invites : OrderedMap Player := .empty

structure Channels where
  normalChannels : OrderedMap UsersMap := .empty
  privateChannels : OrderedMap PrivateChatChannel := .empty

def channelGuild : Nat := 0
def channelParty : Nat := 1

/-- `addUser` behind its test for the player, with the answer of the channel's script. -/
def addUser (users : UsersMap) (player : Player) (onJoin : Bool) : Option UsersMap :=
  if (users.find player.id).isSome then none else if onJoin then some (users.set player.id player) else none

def removeUser (users : UsersMap) (player : Player) : Option UsersMap :=
  if (users.find player.id).isSome then some (users.erase player.id) else none

namespace PrivateChatChannel

def isInvited (channel : PrivateChatChannel) (guid : Nat) : Bool := guid = channel.owner || (channel.invites.find guid).isSome

/-- A player who is invited already stays so. -/
def invitePlayer (channel : PrivateChatChannel) (invitePlayer : Player) : PrivateChatChannel :=
  if (channel.invites.find invitePlayer.guid).isSome then channel
  else { channel with invites := channel.invites.set invitePlayer.guid invitePlayer }

def excludePlayer (channel : PrivateChatChannel) (excludePlayer : Player) : PrivateChatChannel :=
  if (channel.invites.find excludePlayer.guid).isSome then
    { channel with
      invites := channel.invites.erase excludePlayer.guid
      users := (removeUser channel.users excludePlayer).getD channel.users }
  else channel

/-- What becomes of the channel when a player leaves all channels: nothing is left of the player's own one. -/
def leaving (channel : PrivateChatChannel) (player : Player) : Option PrivateChatChannel :=
  if channel.owner = player.guid then none
  else
    some { channel with
      invites := channel.invites.erase player.guid
      users := (removeUser channel.users player).getD channel.users }

end PrivateChatChannel

/-- A channel that `getChannel` finds behind an id; those of guilds and parties are not kept here. -/
inductive Found where
  | normal (users : UsersMap)
  | closed (channel : PrivateChatChannel)

namespace Channels

/-- `getChannel`, with the answer of the channel's script. -/
def getChannel (channels : Channels) (player : Player) (channelId : Nat) (canJoin : Bool) : Option Found :=
  if channelId = channelGuild ∨ channelId = channelParty then none
  else
    match channels.normalChannels.find channelId with
    | some users => if canJoin then some (.normal users) else none
    | none =>
      match channels.privateChannels.find channelId with
      | some channel => if channel.isInvited player.guid then some (.closed channel) else none
      | none => none

/-- `getPrivateChannel`: the first one that the player owns, with its id. -/
def getPrivateChannel (channels : Channels) (player : Player) : Option (Nat × PrivateChatChannel) :=
  channels.privateChannels.entries.find? fun entry => entry.2.owner = player.guid

def freeSlot (channels : Channels) : Option Nat :=
  (List.range' 100 9900).find? fun i => (channels.privateChannels.find i).isNone

/-- `createChannel` for a private channel, and `addUser` of its owner behind it. -/
def createPrivate (channels : Channels) (player : Player) (isPremium canJoin : Bool) : Channels :=
  -- `CHANNEL_PRIVATE` is no channel itself unless one of that id is loaded
  if (channels.getChannel player 0xFFFF canJoin).isSome ∨ isPremium = false ∨ (channels.getPrivateChannel player).isSome then channels
  else
    match channels.freeSlot with
    | some i =>
      { channels with
        privateChannels := channels.privateChannels.set i
          { owner := player.guid, users := (addUser .empty player true).getD .empty } }
    | none => channels

def addUserToChannel (channels : Channels) (player : Player) (channelId : Nat) (canJoin onJoin : Bool) : Channels :=
  match channels.getChannel player channelId canJoin with
  | some (.normal users) =>
    match addUser users player onJoin with
    | some users => { channels with normalChannels := channels.normalChannels.set channelId users }
    | none => channels
  | some (.closed channel) =>
    match addUser channel.users player true with
    | some users => { channels with privateChannels := channels.privateChannels.set channelId { channel with users } }
    | none => channels
  | none => channels

/-- `deleteChannel` of a channel that is neither a guild's nor a party's. -/
def deleteChannel (channels : Channels) (channelId : Nat) : Channels :=
  { channels with privateChannels := channels.privateChannels.erase channelId }

/-- The owner of a normal channel is 0. -/
def removeUserFromChannel (channels : Channels) (player : Player) (channelId : Nat) (canJoin : Bool) : Channels :=
  match channels.getChannel player channelId canJoin with
  | some (.normal users) =>
    match removeUser users player with
    | some users =>
      let channels := { channels with normalChannels := channels.normalChannels.set channelId users }
      if 0 = player.guid then channels.deleteChannel channelId else channels
    | none => channels
  | some (.closed channel) =>
    match removeUser channel.users player with
    | some users =>
      let channels := { channels with privateChannels := channels.privateChannels.set channelId { channel with users } }
      if channel.owner = player.guid then channels.deleteChannel channelId else channels
    | none => channels
  | none => channels

def removeUserFromAllChannels (channels : Channels) (player : Player) : Channels where
  normalChannels := channels.normalChannels.filterMap fun _ users => some ((removeUser users player).getD users)
  privateChannels := channels.privateChannels.filterMap fun _ channel => channel.leaving player

/-- `talkToChannel`, with the answers of the channel's scripts: who hears it in a private channel. -/
def talkToChannel (channels : Channels) (player : Player) (channelId : Nat) (canJoin : Bool) : List Player :=
  match channels.getChannel player channelId canJoin with
  | some (.closed channel) =>
    if (channel.users.find player.id).isSome then channel.users.entries.map Prod.snd else []
  | _ => []

end Channels

structure World where
  players : List Player := []
  channels : Channels := {}

/-- What happens. The players are given by their ids or names, and `canJoin` and `onJoin` are what the script of a normal channel
answers. -/
inductive Step where
  | login (player : Player)
  | logout (playerId : Nat)
  | reconnect (playerId : Nat)
  | create (playerId : Nat) (isPremium canJoin : Bool)
  | invite (playerId : Nat) (name : List UInt8)
  | exclude (playerId : Nat) (name : List UInt8)
  | join (playerId channelId : Nat) (canJoin onJoin : Bool)
  | leave (playerId channelId : Nat) (canJoin : Bool)
  | talk (playerId channelId : Nat) (canJoin : Bool)

namespace World

def getPlayerByID (world : World) (id : Nat) : Option Player := world.players.find? fun player => player.id = id

def getPlayerByName (world : World) (name : List UInt8) : Option Player := world.players.find? fun player => player.name = name

/-- What `playerChannelInvite` and `playerChannelExclude` have in common: the player, the player's own channel with its id, and
another player. -/
def ownChannel (world : World) (playerId : Nat) (name : List UInt8) : Option (Nat × PrivateChatChannel × Player) := do
  let player ← world.getPlayerByID playerId
  let (channelId, channel) ← world.channels.getPrivateChannel player
  let other ← world.getPlayerByName name
  if player = other then none else some (channelId, channel, other)

def setChannel (world : World) (channelId : Nat) (channel : PrivateChatChannel) : World :=
  { world with channels.privateChannels := world.channels.privateChannels.set channelId channel }

def act (world : World) (playerId : Nat) (change : Player → Channels) : World :=
  match world.getPlayerByID playerId with
  | some player => { world with channels := change player }
  | none => world

/-- No id is given twice, and no character is online twice. -/
def step (world : World) : Step → World
  | .login player =>
    if ∃ other ∈ world.players, other.id = player.id ∨ other.guid = player.guid then world
    else { world with players := world.players ++ [player] }
  | .logout playerId =>
    match world.getPlayerByID playerId with
    | some player => ⟨world.players.erase player, world.channels.removeUserFromAllChannels player⟩
    | none => world
  | .reconnect playerId => world.act playerId world.channels.removeUserFromAllChannels
  | .create playerId isPremium canJoin => world.act playerId fun player => world.channels.createPrivate player isPremium canJoin
  | .invite playerId name =>
    match world.ownChannel playerId name with
    | some (channelId, channel, other) => world.setChannel channelId (channel.invitePlayer other)
    | none => world
  | .exclude playerId name =>
    match world.ownChannel playerId name with
    | some (channelId, channel, other) => world.setChannel channelId (channel.excludePlayer other)
    | none => world
  | .join playerId channelId canJoin onJoin =>
    world.act playerId fun player => world.channels.addUserToChannel player channelId canJoin onJoin
  | .leave playerId channelId canJoin =>
    world.act playerId fun player => world.channels.removeUserFromChannel player channelId canJoin
  | .talk _ _ _ => world

/-- The messages of a step: the private channel and who hears them. -/
def messages (world : World) : Step → List (Nat × Player)
  | .talk playerId channelId canJoin =>
    match world.getPlayerByID playerId with
    | some player => (world.channels.talkToChannel player channelId canJoin).map (channelId, ·)
    | none => []
  | _ => []

end World

/-- A channel has nobody but its owner and those who are invited, all of them online. -/
structure PrivateChatChannel.Sound (players : List Player) (channel : PrivateChatChannel) : Prop where
  users : ∀ id user, channel.users.find id = some user → user ∈ players ∧ user.id = id ∧ channel.isInvited user.guid = true
  invites : ∀ guid invited, channel.invites.find guid = some invited → invited ∈ players ∧ invited.guid = guid
  owner : ∃ player ∈ players, player.guid = channel.owner

/-- Nobody is online twice, nobody owns two channels, and every channel is sound. -/
structure World.Sound (world : World) : Prop where
  ids : (world.players.map Player.id).Nodup
  guids : (world.players.map Player.guid).Nodup
  single : ∀ first second one two, world.channels.privateChannels.find first = some one →
    world.channels.privateChannels.find second = some two → one.owner = two.owner → first = second
  channels : ∀ channelId channel, world.channels.privateChannels.find channelId = some channel → channel.Sound world.players

/-- A character is neither the owner of a channel nor invited. -/
def World.Outside (channelId guid : Nat) (world : World) : Prop :=
  ∀ channel, world.channels.privateChannels.find channelId = some channel → channel.isInvited guid = false

section
variable {users : UsersMap} {player : Player} {id : Nat} {user : Player}

theorem find_removeUser (users : UsersMap) (player : Player) (id : Nat) :
    ((removeUser users player).getD users).find id = if id = player.id then none else users.find id := by
  unfold removeUser
  split
  case isTrue => exact OrderedMap.find_erase users player.id id
  case isFalse absent =>
    have missing := not_isSome_iff_eq_none.mp absent
    split
    case isTrue same => exact same ▸ missing
    case isFalse => rfl

theorem removeUser_some {after : UsersMap} (removed : removeUser users player = some after) :
    (users.find player.id).isSome = true ∧ ∀ id, after.find id = if id = player.id then none else users.find id := by
  have found := find_removeUser users player
  rw [removed, getD_some] at found
  refine ⟨?_, found⟩
  unfold removeUser at removed
  split at removed
  case isTrue present => exact present
  case isFalse => cases removed

theorem addUser_some {after : UsersMap} {onJoin : Bool} (added : addUser users player onJoin = some after) (id : Nat) :
    after.find id = if id = player.id then some player else users.find id := by
  unfold addUser at added
  split at added
  · cases added
  · split at added
    · cases added
      exact OrderedMap.find_set users player.id player id
    · cases added

end

namespace PrivateChatChannel
variable {players others : List Player} {channel : PrivateChatChannel} {player : Player} {guid : Nat}

theorem isInvited_iff : channel.isInvited guid = true ↔ guid = channel.owner ∨ (channel.invites.find guid).isSome = true := by
  rw [isInvited, Bool.or_eq_true, decide_eq_true_eq]

theorem isInvited_false_iff : channel.isInvited guid = false ↔ guid ≠ channel.owner ∧ channel.invites.find guid = none := by
  rw [isInvited, Bool.or_eq_false_iff, decide_eq_false_iff_not, isSome_eq_false_iff, isNone_iff_eq_none]

theorem Sound.mono (sound : channel.Sound players) (more : players ⊆ others) : channel.Sound others := by
  obtain ⟨owner, online, same⟩ := sound.owner
  constructor
  · intro id user found
    obtain ⟨online, rest⟩ := sound.users id user found
    exact ⟨more online, rest⟩
  · intro guid invited found
    obtain ⟨online, rest⟩ := sound.invites guid invited found
    exact ⟨more online, rest⟩
  · exact ⟨owner, more online, same⟩

theorem find_invitePlayer (channel : PrivateChatChannel) (player : Player) (guid : Nat) :
    (channel.invitePlayer player).invites.find guid =
      if guid = player.guid then some ((channel.invites.find guid).getD player) else channel.invites.find guid := by
  unfold invitePlayer
  split
  case isTrue present =>
    obtain ⟨invited, found⟩ := isSome_iff_exists.mp present
    split
    case isTrue same => rw [same, found, getD_some]
    case isFalse => rfl
  case isFalse absent =>
    have missing := not_isSome_iff_eq_none.mp absent
    rw [OrderedMap.find_set]
    split
    case isTrue same => rw [same, missing, getD_none]
    case isFalse => rfl

theorem owner_invitePlayer : (channel.invitePlayer player).owner = channel.owner := by
  unfold invitePlayer
  split <;> rfl

theorem users_invitePlayer : (channel.invitePlayer player).users = channel.users := by
  unfold invitePlayer
  split <;> rfl

theorem Sound.invitePlayer (sound : channel.Sound players) (online : player ∈ players) : (channel.invitePlayer player).Sound players := by
  constructor
  · intro id user found
    rw [users_invitePlayer] at found
    obtain ⟨member, same, invited⟩ := sound.users id user found
    refine ⟨member, same, ?_⟩
    rw [isInvited_iff, owner_invitePlayer, find_invitePlayer]
    rcases isInvited_iff.mp invited with owner | invited
    · exact .inl owner
    · right
      split
      · rfl
      · exact invited
  · intro guid invited found
    rw [find_invitePlayer] at found
    split at found
    case isTrue same =>
      cases held : channel.invites.find guid with
      | none =>
        rw [held, getD_none, some.injEq] at found
        exact found ▸ ⟨online, same.symm⟩
      | some old =>
        rw [held, getD_some, some.injEq] at found
        exact found ▸ sound.invites guid old held
    case isFalse => exact sound.invites guid invited found
  · rw [owner_invitePlayer]
    exact sound.owner

/-- What is taken from a channel when somebody who does not own it leaves it altogether. -/
theorem sound_without {after : PrivateChatChannel} (sound : channel.Sound players) (guids : (players.map Player.guid).Nodup)
    (online : player ∈ players) (owner : after.owner = channel.owner)
    (users : ∀ id, after.users.find id = if id = player.id then none else channel.users.find id)
    (invites : ∀ guid, after.invites.find guid = if guid = player.guid then none else channel.invites.find guid)
    (other : channel.owner ≠ player.guid) (kept : ∀ user ∈ players, user ≠ player → user ∈ others) : after.Sound others := by
  have apart : ∀ user ∈ players, user ≠ player → user.guid ≠ player.guid := by
    intro user member different same
    exact different (inj_on_of_nodup_map guids member online same)
  constructor
  · intro id user found
    rw [users] at found
    split at found
    case isTrue => cases found
    case isFalse elsewhere =>
      obtain ⟨member, same, invited⟩ := sound.users id user found
      have different : user ≠ player := fun equal => elsewhere (same ▸ congrArg Player.id equal)
      refine ⟨kept user member different, same, ?_⟩
      rw [isInvited_iff, owner, invites, if_neg (apart user member different)]
      exact isInvited_iff.mp invited
  · intro guid invited found
    rw [invites] at found
    split at found
    case isTrue => cases found
    case isFalse elsewhere =>
      obtain ⟨member, same⟩ := sound.invites guid invited found
      exact ⟨kept invited member fun equal => elsewhere (same ▸ congrArg Player.guid equal), same⟩
  · obtain ⟨holder, member, same⟩ := sound.owner
    rw [owner]
    exact ⟨holder, kept holder member fun equal => other (same ▸ congrArg Player.guid equal), same⟩

theorem Sound.excludePlayer (sound : channel.Sound players) (guids : (players.map Player.guid).Nodup) (online : player ∈ players)
    (other : channel.owner ≠ player.guid) : (channel.excludePlayer player).Sound players := by
  unfold PrivateChatChannel.excludePlayer
  split
  case isTrue =>
    exact sound_without sound guids online rfl (find_removeUser channel.users player) (OrderedMap.find_erase channel.invites player.guid)
      other fun user member _ => member
  case isFalse => exact sound

theorem owner_excludePlayer : (channel.excludePlayer player).owner = channel.owner := by
  unfold PrivateChatChannel.excludePlayer
  split <;> rfl

/-- Whoever is excluded is not invited any more. -/
theorem isInvited_excludePlayer (other : channel.owner ≠ player.guid) : (channel.excludePlayer player).isInvited player.guid = false := by
  rw [isInvited_false_iff, owner_excludePlayer]
  refine ⟨other.symm, ?_⟩
  unfold PrivateChatChannel.excludePlayer
  split
  case isTrue => exact (OrderedMap.find_erase channel.invites player.guid player.guid).trans (if_pos rfl)
  case isFalse absent => exact not_isSome_iff_eq_none.mp absent

theorem Sound.leaving (sound : channel.Sound players) (guids : (players.map Player.guid).Nodup) (online : player ∈ players)
    (kept : ∀ user ∈ players, user ≠ player → user ∈ others) {after : PrivateChatChannel}
    (left : channel.leaving player = some after) :
    after.Sound others ∧ after.owner = channel.owner ∧ after.isInvited player.guid = false := by
  unfold PrivateChatChannel.leaving at left
  split at left
  case isTrue => cases left
  case isFalse other =>
    have invites := OrderedMap.find_erase channel.invites player.guid
    cases left
    refine ⟨sound_without sound guids online rfl (find_removeUser channel.users player) invites other kept, rfl, ?_⟩
    exact isInvited_false_iff.mpr ⟨Ne.symm other, (invites player.guid).trans (if_pos rfl)⟩

/-- Whoever is not in a channel stays out of it when another player leaves or is excluded. -/
theorem isInvited_fewer {after : PrivateChatChannel} (uninvited : channel.isInvited guid = false) (owner : after.owner = channel.owner)
    (invites : ∀ guid, after.invites.find guid = if guid = player.guid then none else channel.invites.find guid) :
    after.isInvited guid = false := by
  obtain ⟨unowned, missing⟩ := isInvited_false_iff.mp uninvited
  rw [isInvited_false_iff, owner, invites, missing, ite_self]
  exact ⟨unowned, rfl⟩

theorem isInvited_leaving (uninvited : channel.isInvited guid = false) {after : PrivateChatChannel}
    (left : channel.leaving player = some after) : after.isInvited guid = false := by
  unfold PrivateChatChannel.leaving at left
  split at left
  case isTrue => cases left
  case isFalse =>
    cases left
    exact isInvited_fewer uninvited rfl (OrderedMap.find_erase channel.invites player.guid)

theorem isInvited_excludePlayer_of_not (uninvited : channel.isInvited guid = false) :
    (channel.excludePlayer player).isInvited guid = false := by
  unfold PrivateChatChannel.excludePlayer
  split
  case isTrue => exact isInvited_fewer uninvited rfl (OrderedMap.find_erase channel.invites player.guid)
  case isFalse => exact uninvited

theorem Sound.addUser {users : UsersMap} {onJoin : Bool} (sound : channel.Sound players) (online : player ∈ players)
    (invited : channel.isInvited player.guid = true) (added : addUser channel.users player onJoin = some users) :
    ({ channel with users } : PrivateChatChannel).Sound players := by
  refine ⟨?_, sound.invites, sound.owner⟩
  intro id user found
  rw [addUser_some added] at found
  split at found
  case isTrue same =>
    cases found
    exact ⟨online, same.symm, invited⟩
  case isFalse => exact sound.users id user found

theorem Sound.removeUser {users : UsersMap} (sound : channel.Sound players) (removed : removeUser channel.users player = some users) :
    ({ channel with users } : PrivateChatChannel).Sound players := by
  refine ⟨?_, sound.invites, sound.owner⟩
  intro id user found
  rw [(removeUser_some removed).2] at found
  split at found
  case isTrue => cases found
  case isFalse => exact sound.users id user found

end PrivateChatChannel

namespace World
variable {world : World} {channelId guid : Nat} {player : Player}

theorem getPlayerByID_some {id : Nat} (found : world.getPlayerByID id = some player) : player ∈ world.players :=
  mem_of_find?_eq_some found

theorem getPlayerByName_some {name : List UInt8} (found : world.getPlayerByName name = some player) : player ∈ world.players :=
  mem_of_find?_eq_some found

theorem getPrivateChannel_some {channels : Channels} {channel : PrivateChatChannel}
    (found : channels.getPrivateChannel player = some (channelId, channel)) :
    channels.privateChannels.find channelId = some channel ∧ channel.owner = player.guid := by
  have owned := find?_some found
  exact ⟨OrderedMap.find_eq_some.mpr (mem_of_find?_eq_some found), of_decide_eq_true owned⟩

theorem getPrivateChannel_none {channels : Channels} (unowned : channels.getPrivateChannel player = none)
    {channel : PrivateChatChannel} (found : channels.privateChannels.find channelId = some channel) : channel.owner ≠ player.guid := by
  have missing := find?_eq_none.mp unowned (channelId, channel) (OrderedMap.find_eq_some.mp found)
  exact fun owned => missing (decide_eq_true owned)

theorem getChannel_closed {channels : Channels} {canJoin : Bool} {channel : PrivateChatChannel}
    (found : channels.getChannel player channelId canJoin = some (.closed channel)) :
    channels.privateChannels.find channelId = some channel ∧ channel.isInvited player.guid = true := by
  unfold Channels.getChannel at found
  split at found
  · cases found
  · split at found
    · split at found <;> cases found
    · split at found
      · rename_i held
        split at found
        · rename_i invited
          cases found
          exact ⟨held, invited⟩
        · cases found
      · cases found

theorem ownChannel_some {playerId : Nat} {name : List UInt8} {channel : PrivateChatChannel}
    (found : world.ownChannel playerId name = some (channelId, channel, player)) :
    ∃ owner, world.getPlayerByID playerId = some owner ∧ owner ∈ world.players ∧ player ∈ world.players ∧ owner ≠ player ∧
      world.getPlayerByName name = some player ∧
      world.channels.privateChannels.find channelId = some channel ∧ channel.owner = owner.guid := by
  simp only [ownChannel, bind_eq_bind, bind_eq_some_iff] at found
  obtain ⟨owner, online, ⟨_, _⟩, own, other, named, found⟩ := found
  split at found
  · cases found
  · rename_i different
    cases found
    obtain ⟨held, owned⟩ := getPrivateChannel_some own
    exact ⟨owner, online, getPlayerByID_some online, getPlayerByName_some named, different, named, held, owned⟩

theorem Sound.guid_ne (sound : world.Sound) {owner : Player} (one : owner ∈ world.players) (two : player ∈ world.players)
    (different : owner ≠ player) : owner.guid ≠ player.guid :=
  fun same => different (inj_on_of_nodup_map sound.guids one two same)

/-- Other channels that are no more than before, and have the same owners. -/
theorem Sound.setChannels (sound : world.Sound) {channels : Channels} {players : List Player} (ids : (players.map Player.id).Nodup)
    (guids : (players.map Player.guid).Nodup)
    (each : ∀ channelId channel, channels.privateChannels.find channelId = some channel →
      channel.Sound players ∧ ∃ old, world.channels.privateChannels.find channelId = some old ∧ channel.owner = old.owner) :
    World.Sound ⟨players, channels⟩ := by
  refine ⟨ids, guids, ?_, fun channelId channel found => (each channelId channel found).1⟩
  intro first second one two found_one found_two same
  obtain ⟨_, old_one, held_one, owner_one⟩ := each first one found_one
  obtain ⟨_, old_two, held_two, owner_two⟩ := each second two found_two
  exact sound.single first second old_one old_two held_one held_two (owner_one ▸ owner_two ▸ same)

/-- One channel changed, which keeps its owner. -/
theorem Sound.setChannel (sound : world.Sound) {channel old : PrivateChatChannel}
    (held : world.channels.privateChannels.find channelId = some old) (owner : channel.owner = old.owner)
    (good : channel.Sound world.players) : (world.setChannel channelId channel).Sound := by
  apply sound.setChannels sound.ids sound.guids
  intro other changed found
  rw [OrderedMap.find_set] at found
  split at found
  case isTrue same =>
    cases found
    exact ⟨good, old, same ▸ held, owner⟩
  case isFalse => exact ⟨sound.channels other changed found, changed, found, rfl⟩

/-- One channel closed. -/
theorem Sound.deleteChannel (sound : world.Sound) (channelId : Nat) :
    World.Sound { world with channels := world.channels.deleteChannel channelId } := by
  apply sound.setChannels sound.ids sound.guids
  intro other channel found
  have kept := (OrderedMap.find_erase world.channels.privateChannels channelId other).symm.trans found
  split at kept
  case isTrue => cases kept
  case isFalse => exact ⟨sound.channels other channel kept, channel, kept, rfl⟩

theorem Sound.setNormal (sound : world.Sound) (normalChannels : OrderedMap UsersMap) :
    World.Sound { world with channels.normalChannels := normalChannels } :=
  ⟨sound.ids, sound.guids, sound.single, sound.channels⟩

theorem Sound.leaveAll (sound : world.Sound) (online : player ∈ world.players) {players : List Player}
    (ids : (players.map Player.id).Nodup) (guids : (players.map Player.guid).Nodup)
    (kept : ∀ user ∈ world.players, user ≠ player → user ∈ players) :
    World.Sound ⟨players, world.channels.removeUserFromAllChannels player⟩ := by
  apply sound.setChannels ids guids
  intro other channel found
  have left := (OrderedMap.find_filterMap world.channels.privateChannels _ other).symm.trans found
  obtain ⟨old, held, left⟩ := bind_eq_some_iff.mp left
  obtain ⟨good, owner, _⟩ := (sound.channels other old held).leaving sound.guids online kept left
  exact ⟨good, old, held, owner⟩

theorem Sound.createPrivate (sound : world.Sound) (online : player ∈ world.players) (isPremium canJoin : Bool) :
    World.Sound { world with channels := world.channels.createPrivate player isPremium canJoin } := by
  unfold Channels.createPrivate
  split
  case isTrue => exact sound
  case isFalse refused =>
    split
    case h_2 => exact sound
    case h_1 i free =>
      have unowned : world.channels.getPrivateChannel player = none := by
        rw [not_or, not_or, not_isSome_iff_eq_none] at refused
        exact not_isSome_iff_eq_none.mp refused.2.2
      have new := OrderedMap.find_set world.channels.privateChannels i
        { owner := player.guid, users := (addUser .empty player true).getD .empty }
      have users : ∀ id, ((addUser .empty player true).getD .empty).find id = if id = player.id then some player else none :=
        OrderedMap.find_set .empty player.id player
      have good : PrivateChatChannel.Sound world.players
          { owner := player.guid, users := (addUser .empty player true).getD .empty } := by
        refine ⟨?_, ?_, player, online, rfl⟩
        · intro id user found
          have found := (users id).symm.trans found
          split at found
          case isTrue same =>
            cases found
            exact ⟨online, same.symm, PrivateChatChannel.isInvited_iff.mpr (.inl rfl)⟩
          case isFalse => cases found
        · intro guid invited found
          cases found
      refine ⟨sound.ids, sound.guids, ?_, ?_⟩
      · intro first second one two found_one found_two same
        have found_one := (new first).symm.trans found_one
        have found_two := (new second).symm.trans found_two
        split at found_one <;> split at found_two
        case isTrue.isTrue one_here two_here => exact one_here.trans two_here.symm
        case isTrue.isFalse =>
          cases found_one
          exact absurd same.symm (getPrivateChannel_none unowned found_two)
        case isFalse.isTrue =>
          cases found_two
          exact absurd same (getPrivateChannel_none unowned found_one)
        case isFalse.isFalse => exact sound.single first second one two found_one found_two same
      · intro channelId channel found
        have found := (new channelId).symm.trans found
        split at found
        case isTrue =>
          cases found
          exact good
        case isFalse => exact sound.channels channelId channel found

theorem Sound.addUserToChannel (sound : world.Sound) (online : player ∈ world.players) (channelId : Nat) (canJoin onJoin : Bool) :
    World.Sound { world with channels := world.channels.addUserToChannel player channelId canJoin onJoin } := by
  unfold Channels.addUserToChannel
  split
  · split
    · exact sound.setNormal _
    · exact sound
  · rename_i channel found
    obtain ⟨held, invited⟩ := getChannel_closed found
    split
    · rename_i added
      exact sound.setChannel held rfl ((sound.channels channelId channel held).addUser online invited added)
    · exact sound
  · exact sound

theorem Sound.removeUserFromChannel (sound : world.Sound) (player : Player) (channelId : Nat) (canJoin : Bool) :
    World.Sound { world with channels := world.channels.removeUserFromChannel player channelId canJoin } := by
  unfold Channels.removeUserFromChannel
  split
  · split
    · rename_i users _
      have changed := sound.setNormal (world.channels.normalChannels.set channelId users)
      dsimp only
      split
      · exact changed.deleteChannel channelId
      · exact changed
    · exact sound
  · rename_i channel found
    obtain ⟨held, _⟩ := getChannel_closed found
    split
    · rename_i users removed
      have good : PrivateChatChannel.Sound world.players { channel with users } :=
        (sound.channels channelId channel held).removeUser removed
      have changed : (world.setChannel channelId { channel with users }).Sound := sound.setChannel held rfl good
      dsimp only
      split
      · exact changed.deleteChannel channelId
      · exact changed
    · exact sound
  · exact sound

theorem Sound.act (sound : world.Sound) {playerId : Nat} {change : Player → Channels}
    (keeps : ∀ player ∈ world.players, World.Sound { world with channels := change player }) : (world.act playerId change).Sound := by
  unfold World.act
  split
  case h_1 player found => exact keeps player (getPlayerByID_some found)
  case h_2 => exact sound

theorem Sound.step (sound : world.Sound) (step : Step) : (world.step step).Sound := by
  cases step with
  | login player =>
    unfold World.step
    dsimp only
    split
    case isTrue => exact sound
    case isFalse fresh =>
      have apart : ∀ other ∈ world.players, other.id ≠ player.id ∧ other.guid ≠ player.guid := by
        intro other member
        exact not_or.mp fun same => fresh ⟨other, member, same⟩
      refine ⟨?_, ?_, sound.single, fun channelId channel found => (sound.channels channelId channel found).mono ?_⟩
      · rw [map_append, map_singleton, ← concat_eq_append, nodup_concat]
        refine ⟨fun listed => ?_, sound.ids⟩
        obtain ⟨other, member, same⟩ := mem_map.mp listed
        exact (apart other member).1 same
      · rw [map_append, map_singleton, ← concat_eq_append, nodup_concat]
        refine ⟨fun listed => ?_, sound.guids⟩
        obtain ⟨other, member, same⟩ := mem_map.mp listed
        exact (apart other member).2 same
      · exact subset_append_left _ _
  | logout playerId =>
    unfold World.step
    dsimp only
    split
    case h_1 player found =>
      have online := getPlayerByID_some found
      have fewer : (world.players.erase player).Sublist world.players := erase_sublist
      apply sound.leaveAll online
      · exact sound.ids.sublist (fewer.map _)
      · exact sound.guids.sublist (fewer.map _)
      · intro user member different
        exact (mem_erase_of_ne different).mpr member
    case h_2 => exact sound
  | reconnect playerId =>
    exact sound.act fun player online => sound.leaveAll online sound.ids sound.guids fun user member _ => member
  | create playerId isPremium canJoin => exact sound.act fun player online => sound.createPrivate online isPremium canJoin
  | invite playerId name =>
    unfold World.step
    dsimp only
    split
    case h_1 channelId channel other found =>
      obtain ⟨_, _, _, online, _, _, held, _⟩ := ownChannel_some found
      exact sound.setChannel held PrivateChatChannel.owner_invitePlayer ((sound.channels channelId channel held).invitePlayer online)
    case h_2 => exact sound
  | exclude playerId name =>
    unfold World.step
    dsimp only
    split
    case h_1 channelId channel other found =>
      obtain ⟨owner, _, member, online, different, _, held, owned⟩ := ownChannel_some found
      have apart : channel.owner ≠ other.guid := owned ▸ sound.guid_ne member online different
      exact sound.setChannel held PrivateChatChannel.owner_excludePlayer
        ((sound.channels channelId channel held).excludePlayer sound.guids online apart)
    case h_2 => exact sound
  | join playerId channelId canJoin onJoin =>
    exact sound.act fun player online => sound.addUserToChannel online channelId canJoin onJoin
  | leave playerId channelId canJoin => exact sound.act fun player _ => sound.removeUserFromChannel player channelId canJoin
  | talk playerId channelId canJoin => exact sound

/-! Who hears a channel. -/

/-- A step that takes a character into a channel: the invitation of its owner, or its opening by the character. -/
def Admits (channelId guid : Nat) (world : World) : Step → Prop
  | .invite playerId name => ∃ channel other, world.ownChannel playerId name = some (channelId, channel, other) ∧ other.guid = guid
  | .create playerId _ _ =>
    ∃ player, world.getPlayerByID playerId = some player ∧ player.guid = guid ∧ world.channels.freeSlot = some channelId
  | _ => False

/-- A step that takes a character out of a channel: the owner excludes it, or it logs out. -/
def Dismisses (channelId guid : Nat) (world : World) : Step → Prop
  | .exclude playerId name => ∃ channel other, world.ownChannel playerId name = some (channelId, channel, other) ∧ other.guid = guid
  | .logout playerId => ∃ player, world.getPlayerByID playerId = some player ∧ player.guid = guid
  | _ => False

theorem Outside.setChannel (outside : world.Outside channelId guid) {first : Nat} {channel : PrivateChatChannel}
    (uninvited : first = channelId → channel.isInvited guid = false) : (world.setChannel first channel).Outside channelId guid := by
  intro changed found
  have found := (OrderedMap.find_set world.channels.privateChannels first channel channelId).symm.trans found
  split at found
  case isTrue same =>
    cases found
    exact uninvited same.symm
  case isFalse => exact outside changed found

theorem Outside.deleteChannel (outside : world.Outside channelId guid) (first : Nat) :
    World.Outside channelId guid { world with channels := world.channels.deleteChannel first } := by
  intro channel found
  have kept := (OrderedMap.find_erase world.channels.privateChannels first channelId).symm.trans found
  split at kept
  case isTrue => cases kept
  case isFalse => exact outside channel kept

theorem Outside.leaveAll (outside : world.Outside channelId guid) (players : List Player) (player : Player) :
    World.Outside channelId guid ⟨players, world.channels.removeUserFromAllChannels player⟩ := by
  intro channel found
  have left := (OrderedMap.find_filterMap world.channels.privateChannels _ channelId).symm.trans found
  obtain ⟨old, held, left⟩ := bind_eq_some_iff.mp left
  exact PrivateChatChannel.isInvited_leaving (outside old held) left

theorem Outside.addUserToChannel (outside : world.Outside channelId guid) (player : Player) (first : Nat) (canJoin onJoin : Bool) :
    World.Outside channelId guid { world with channels := world.channels.addUserToChannel player first canJoin onJoin } := by
  unfold Channels.addUserToChannel
  split
  · split <;> exact outside
  · rename_i channel found
    obtain ⟨held, _⟩ := getChannel_closed found
    split
    · exact outside.setChannel fun same => outside channel (same ▸ held)
    · exact outside
  · exact outside

theorem Outside.removeUserFromChannel (outside : world.Outside channelId guid) (player : Player) (first : Nat) (canJoin : Bool) :
    World.Outside channelId guid { world with channels := world.channels.removeUserFromChannel player first canJoin } := by
  unfold Channels.removeUserFromChannel
  split
  · split
    · dsimp only
      split
      · exact outside.deleteChannel first
      · exact outside
    · exact outside
  · rename_i channel found
    obtain ⟨held, _⟩ := getChannel_closed found
    split
    · rename_i users removed
      have changed : (world.setChannel first { channel with users }).Outside channelId guid :=
        outside.setChannel fun same => outside channel (same ▸ held)
      dsimp only
      split
      · exact changed.deleteChannel first
      · exact changed
    · exact outside
  · exact outside

theorem Outside.act (outside : world.Outside channelId guid) {playerId : Nat} {change : Player → Channels}
    (keeps : ∀ player, world.getPlayerByID playerId = some player →
      World.Outside channelId guid { world with channels := change player }) :
    (world.act playerId change).Outside channelId guid := by
  unfold World.act
  split
  case h_1 player found => exact keeps player found
  case h_2 => exact outside

/-- Nobody comes into a channel but by an invitation or as its owner. -/
theorem Outside.step (outside : world.Outside channelId guid) {step : Step} (refused : ¬Admits channelId guid world step) :
    (world.step step).Outside channelId guid := by
  cases step with
  | login player =>
    unfold World.step
    dsimp only
    split <;> exact outside
  | logout playerId =>
    unfold World.step
    dsimp only
    split
    case h_1 player _ => exact outside.leaveAll _ player
    case h_2 => exact outside
  | reconnect playerId => exact outside.act fun player _ => outside.leaveAll world.players player
  | create playerId isPremium canJoin =>
    apply outside.act
    intro player found
    unfold Channels.createPrivate
    split
    case isTrue => exact outside
    case isFalse =>
      split
      case h_2 => exact outside
      case h_1 i free =>
        apply outside.setChannel
        intro same
        have other : guid ≠ player.guid := fun equal => refused ⟨player, found, equal.symm, same ▸ free⟩
        exact PrivateChatChannel.isInvited_false_iff.mpr ⟨other, rfl⟩
  | invite playerId name =>
    unfold World.step
    dsimp only
    split
    case h_1 first channel other found =>
      obtain ⟨_, _, _, _, _, _, held, _⟩ := ownChannel_some found
      apply outside.setChannel
      intro same
      have apart : guid ≠ other.guid := fun equal => refused ⟨channel, other, same ▸ found, equal.symm⟩
      obtain ⟨unowned, uninvited⟩ := PrivateChatChannel.isInvited_false_iff.mp (outside channel (same ▸ held))
      rw [PrivateChatChannel.isInvited_false_iff, PrivateChatChannel.owner_invitePlayer, PrivateChatChannel.find_invitePlayer, if_neg apart]
      exact ⟨unowned, uninvited⟩
    case h_2 => exact outside
  | exclude playerId name =>
    unfold World.step
    dsimp only
    split
    case h_1 first channel other found =>
      obtain ⟨_, _, _, _, _, _, held, _⟩ := ownChannel_some found
      exact outside.setChannel fun same => PrivateChatChannel.isInvited_excludePlayer_of_not (outside channel (same ▸ held))
    case h_2 => exact outside
  | join playerId first canJoin onJoin => exact outside.act fun player _ => outside.addUserToChannel player first canJoin onJoin
  | leave playerId first canJoin => exact outside.act fun player _ => outside.removeUserFromChannel player first canJoin
  | talk playerId first canJoin => exact outside

/-- Whoever is excluded or logs out is out of the channel. -/
theorem Sound.outside (sound : world.Sound) {step : Step} (dismissed : Dismisses channelId guid world step) :
    (world.step step).Outside channelId guid := by
  cases step with
  | exclude playerId name =>
    obtain ⟨channel, other, found, rfl⟩ := dismissed
    obtain ⟨owner, _, member, online, different, _, held, owned⟩ := ownChannel_some found
    have apart : channel.owner ≠ other.guid := owned ▸ sound.guid_ne member online different
    have set := OrderedMap.find_set world.channels.privateChannels channelId (channel.excludePlayer other) channelId
    unfold World.step
    dsimp only
    rw [found]
    intro changed kept
    have kept := set.symm.trans kept
    rw [if_pos rfl] at kept
    cases kept
    exact PrivateChatChannel.isInvited_excludePlayer apart
  | logout playerId =>
    obtain ⟨player, found, rfl⟩ := dismissed
    unfold World.step
    dsimp only
    rw [found]
    intro channel kept
    have left := (OrderedMap.find_filterMap world.channels.privateChannels _ channelId).symm.trans kept
    obtain ⟨old, held, left⟩ := bind_eq_some_iff.mp left
    exact ((sound.channels channelId old held).leaving sound.guids (getPlayerByID_some found) (fun user member _ => member) left).2.2
  | login | reconnect | create | invite | join | leave | talk => exact dismissed.elim

/-- A message of a private channel goes to players who are online and belong to the channel. -/
theorem Sound.messages (sound : world.Sound) {step : Step} {hearer : Player} (heard : (channelId, hearer) ∈ world.messages step) :
    hearer ∈ world.players ∧
      ∃ channel, world.channels.privateChannels.find channelId = some channel ∧ channel.isInvited hearer.guid = true := by
  cases step with
  | talk playerId first canJoin =>
    unfold World.messages at heard
    dsimp only at heard
    split at heard
    case h_2 => cases heard
    case h_1 player _ =>
      obtain ⟨user, told, same⟩ := mem_map.mp heard
      cases same
      unfold Channels.talkToChannel at told
      split at told
      case h_2 => cases told
      case h_1 channel found =>
        obtain ⟨held, _⟩ := getChannel_closed found
        split at told
        case isFalse => cases told
        case isTrue =>
          obtain ⟨⟨id, _⟩, listed, rfl⟩ := mem_map.mp told
          obtain ⟨online, _, invited⟩ := (sound.channels channelId channel held).users id _ (OrderedMap.find_eq_some.mpr listed)
          exact ⟨online, channel, held, invited⟩
  | login | logout | reconnect | create | invite | exclude | join | leave => cases heard

def start (normalChannels : OrderedMap UsersMap) : World := { channels.normalChannels := normalChannels }

theorem sound_start (normalChannels : OrderedMap UsersMap) : (start normalChannels).Sound :=
  ⟨.nil, .nil, fun _ _ _ _ found => (nomatch found), fun _ _ found => (nomatch found)⟩

/-- In every run the channels are sound, what is said in one is heard by its own players who are online, and whoever was excluded
or logged out hears no more of it unless a later step admits the character again. -/
theorem private_channels (normalChannels : OrderedMap UsersMap) :
    (∀ steps : List Step, Always World.step World.Sound (start normalChannels) steps) ∧
    (∀ (steps : List Step) (talk : Step) (channelId : Nat) (hearer : Player),
      (channelId, hearer) ∈ (steps.foldl World.step (start normalChannels)).messages talk →
      hearer ∈ (steps.foldl World.step (start normalChannels)).players ∧
        ∃ channel, (steps.foldl World.step (start normalChannels)).channels.privateChannels.find channelId = some channel ∧
          channel.isInvited hearer.guid = true) ∧
    ∀ (before : List Step) (parting : Step) (later : List Step) (talk : Step) (channelId : Nat) (hearer : Player),
      Dismisses channelId hearer.guid (before.foldl World.step (start normalChannels)) parting →
      Throughout World.step (fun world step => ¬Admits channelId hearer.guid world step)
        ((before.foldl World.step (start normalChannels)).step parting) later →
      (channelId, hearer) ∉ ((before ++ parting :: later).foldl World.step (start normalChannels)).messages talk := by
  have sound : ∀ steps : List Step, Always World.step World.Sound (start normalChannels) steps :=
    always_of_kept (fun _ step holds => holds.step step) (sound_start normalChannels)
  refine ⟨sound, fun steps talk channelId hearer => (sound steps).last.messages, ?_⟩
  intro before parting later talk channelId hearer dismissed throughout heard
  have outside := (sound before).last.outside dismissed
  have keeps : ∀ (world : World) (step : Step), world.Outside channelId hearer.guid → ¬Admits channelId hearer.guid world step →
      (world.step step).Outside channelId hearer.guid := fun _ _ holds refused => holds.step refused
  have still := (always_of_throughout keeps outside throughout).last
  obtain ⟨_, channel, held, invited⟩ := (sound (before ++ parting :: later)).last.messages heard
  rw [foldl_append, foldl_cons] at held
  exact Bool.false_ne_true ((still channel held).symm.trans invited)

end World

end Styller.Chat
