import Styller.Library.Roster
import Styller.Map.SpectatorCache

/-! The friends and the targets that a monster keeps, and what it does to them when it is told of a creature. -/

namespace Styller.TargetLists

open Library List

abbrev CreaturePtr := Nat

abbrev TilePosition := { pos : Position // pos.z < mapMaxLayers }

inductive CreatureKind where
  | player (ignoredByMonsters : Bool)
  | monster
  | npc
  deriving DecidableEq

/-- A creature comes to the map once. -/
inductive Presence where
  | unplaced
  | placed
  | removed
  deriving DecidableEq

/-- The fields of `Creature` that the lists depend on. -/
structure Creature where
  kind : CreatureKind
  position : TilePosition
  presence : Presence := .unplaced
  master : Option CreaturePtr := none
  isDead : Bool := false

/-- The creatures, the monster among them, who is in a party with whom, and whether a condition of the monster is aggressive. -/
structure World where
  self : CreaturePtr
  creatures : CreaturePtr → Creature
  isPartner : CreaturePtr → CreaturePtr → Bool := fun _ _ => false
  hasAggressive : Bool := false

/-- `Creature::canSee` -/
def canSee (myPos pos : Position) (viewRangeX viewRangeY : Int) : Bool :=
  let floor := if myPos.z ≤ 7 then !(pos.z > 7) else !(pos.z < 8) && !(((myPos.z : Int) - pos.z).natAbs > 2)
  let offsetz : Int := (myPos.z : Int) - pos.z
  floor && (pos.x ≥ myPos.x - viewRangeX + offsetz && pos.x ≤ myPos.x + viewRangeX + offsetz &&
    pos.y ≥ myPos.y - viewRangeY + offsetz && pos.y ≤ myPos.y + viewRangeY + offsetz)

/-- `Map::maxClientViewportX + 1`, for both directions. -/
def viewRange : Int := 9

/-- The creatures that `Map::getSpectators` finds around a position, on all floors. -/
def isSpectator (centerPos pos : Position) : Bool :=
  centerPos.z < mapMaxLayers && (SpectatorCall.viewport centerPos).sees centerPos pos

namespace World

section
variable (world : World)

def getPosition (creature : CreaturePtr) : Position := (world.creatures creature).position.val

def isPlaced (creature : CreaturePtr) : Bool := (world.creatures creature).presence = .placed

def isRemoved (creature : CreaturePtr) : Bool := (world.creatures creature).presence = .removed

def getMaster (creature : CreaturePtr) : Option CreaturePtr := (world.creatures creature).master

def isSummon (creature : CreaturePtr) : Bool := (world.getMaster creature).isSome

def getPlayer (creature : CreaturePtr) : Bool :=
  match (world.creatures creature).kind with
  | .player _ => true
  | _ => false

def isIgnored (creature : CreaturePtr) : Bool := (world.creatures creature).kind = .player true

def getMonster (creature : CreaturePtr) : Bool := (world.creatures creature).kind = .monster

def playerMaster (creature : CreaturePtr) : Option CreaturePtr := (world.getMaster creature).filter world.getPlayer

/-- `Monster::canSee` -/
def canSee (pos : Position) : Bool := TargetLists.canSee (world.getPosition world.self) pos viewRange viewRange

/-- `Monster::isFriend` -/
def isFriend (creature : CreaturePtr) : Bool :=
  match world.playerMaster world.self with
  | some masterPlayer =>
    match if world.getPlayer creature then some creature else world.playerMaster creature with
    | some tmpPlayer => tmpPlayer == masterPlayer || world.isPartner masterPlayer tmpPlayer
    | none => false
  | none => world.getMonster creature && !world.isSummon creature

/-- `Monster::isOpponent` -/
def isOpponent (creature : CreaturePtr) : Bool :=
  match world.playerMaster world.self with
  | some master => creature != master
  | none => world.getPlayer creature && !world.isIgnored creature || (world.playerMaster creature).isSome

/-- `Map::getSpectators` around the monster, without itself; the leaves have the creatures in some order. -/
def otherSpectators (order : List CreaturePtr) : List CreaturePtr :=
  order.filter fun creature =>
    creature != world.self && world.isPlaced creature && isSpectator (world.getPosition world.self) (world.getPosition creature)

end

end World

/-- `targetList`, `friendList`, and the references that the monster has taken on the creatures. -/
structure Lists where
  targetList : List CreaturePtr := []
  friendList : List CreaturePtr := []
  references : CreaturePtr → Int := fun _ => 0
  isIdle : Bool := true

namespace Lists

section
variable (world : World) (lists : Lists)

def targets : Roster CreaturePtr := ⟨lists.targetList, lists.references⟩

def friends : Roster CreaturePtr := ⟨lists.friendList, lists.references⟩

def withTargets (roster : Roster CreaturePtr) : Lists := { lists with targetList := roster.members, references := roster.references }

def withFriends (roster : Roster CreaturePtr) : Lists := { lists with friendList := roster.members, references := roster.references }

/-- `friendList` is a hash set: its order is nobody's business. -/
def addFriend (creature : CreaturePtr) : Lists := lists.withFriends (lists.friends.insert creature true)

def removeFriend (creature : CreaturePtr) : Lists := lists.withFriends (lists.friends.erase creature)

def addTarget (creature : CreaturePtr) (pushFront : Bool) : Lists := lists.withTargets (lists.targets.insert creature pushFront)

def removeTarget (creature : CreaturePtr) : Lists := lists.withTargets (lists.targets.erase creature)

def clearTargetList : Lists := lists.withTargets lists.targets.clear

def clearFriendList : Lists := lists.withFriends lists.friends.clear

def setIdle (idle : Bool) : Lists :=
  if world.isRemoved world.self || (world.creatures world.self).isDead then lists
  else
    let lists := { lists with isIdle := idle }
    if idle then lists.clearTargetList.clearFriendList else lists

def updateIdleStatus : Lists :=
  lists.setIdle world (!world.isSummon world.self && lists.targetList.isEmpty && !world.hasAggressive)

def onCreatureFound (creature : CreaturePtr) (pushFront : Bool) : Lists :=
  if world.canSee (world.getPosition creature) then
    let lists := if world.isFriend creature then lists.addFriend creature else lists
    let lists := if world.isOpponent creature then lists.addTarget creature pushFront else lists
    lists.updateIdleStatus world
  else lists

/-- A creature that `updateTargetList` drops. -/
def lost (creature : CreaturePtr) : Bool :=
  (world.creatures creature).isDead || !world.canSee (world.getPosition creature)

def updateTargetList (order : List CreaturePtr) : Lists :=
  let lists := lists.withFriends (Roster.sweep (lost world) lists.friendList lists.references)
  let lists := lists.withTargets (Roster.sweep (lost world) lists.targetList lists.references)
  (world.otherSpectators order).foldl (fun lists creature => lists.onCreatureFound world creature false) lists

def onCreatureEnter (creature : CreaturePtr) : Lists := lists.onCreatureFound world creature true

/-- Without the walk back to the spawn. -/
def onCreatureLeave (creature : CreaturePtr) : Lists :=
  let lists := if world.isFriend creature then lists.removeFriend creature else lists
  if world.isOpponent creature then (lists.removeTarget creature).updateIdleStatus world else lists

/-- `swallowed` if the script of the monster handles the event. -/
def onCreatureAppear (creature : CreaturePtr) (swallowed : Bool) (order : List CreaturePtr) : Lists :=
  if swallowed then lists
  else if creature = world.self then (lists.updateTargetList world order).updateIdleStatus world
  else lists.onCreatureEnter world creature

def onRemoveCreature (creature : CreaturePtr) (swallowed : Bool) : Lists :=
  if swallowed then lists
  else if creature = world.self then lists.setIdle world true
  else lists.onCreatureLeave world creature

/-- Without the choice of a target among those there are. -/
def onCreatureMove (creature : CreaturePtr) (newPos oldPos : Position) (swallowed : Bool) (order : List CreaturePtr) : Lists :=
  if swallowed then lists
  else if creature = world.self then (lists.updateTargetList world order).updateIdleStatus world
  else
    let lists :=
      if world.canSee newPos && !world.canSee oldPos then lists.onCreatureEnter world creature
      else if !world.canSee newPos && world.canSee oldPos then lists.onCreatureLeave world creature
      else lists
    lists.updateIdleStatus world

def onFollowCreatureComplete (creature : CreaturePtr) (hasFollowPath : Bool) : Lists :=
  if creature ∈ lists.targetList then
    let targetList := lists.targetList.erase creature
    if hasFollowPath then { lists with targetList := creature :: targetList }
    else if !world.isSummon world.self then { lists with targetList := targetList ++ [creature] }
    else { lists with targetList, references := Roster.decrement lists.references creature }
  else lists

/-- `Monster::death` -/
def death : Lists := lists.clearTargetList.clearFriendList

end

def Listed (lists : Lists) (creature : CreaturePtr) : Prop := creature ∈ lists.targetList ∨ creature ∈ lists.friendList

/-- A creature is in each list once, and as many references are held on it as there are lists that have it. -/
structure Held (lists : Lists) : Prop where
  targets : lists.targetList.Nodup
  friends : lists.friendList.Nodup
  references : ∀ creature, lists.references creature =
    (if creature ∈ lists.targetList then 1 else 0) + (if creature ∈ lists.friendList then 1 else 0)

/-- What a function may do to the lists: they stay held, and only some creatures come into them. -/
structure Adds (new : CreaturePtr → Prop) (lists after : Lists) : Prop where
  held : lists.Held → after.Held
  listed : ∀ creature, after.Listed creature → lists.Listed creature ∨ new creature

section
variable {world : World} {lists after : Lists} {new : CreaturePtr → Prop} {creature : CreaturePtr}

theorem held_iff_targets : lists.Held ↔ lists.friendList.Nodup ∧
    lists.targets.Counts fun creature => if creature ∈ lists.friendList then 1 else 0 := by
  constructor
  · intro held
    refine ⟨held.friends, held.targets, ?_⟩
    intro creature
    rw [Int.add_comm]
    exact held.references creature
  · rintro ⟨friends, nodup, references⟩
    refine ⟨nodup, friends, ?_⟩
    intro creature
    rw [Int.add_comm]
    exact references creature

theorem held_iff_friends : lists.Held ↔ lists.targetList.Nodup ∧
    lists.friends.Counts fun creature => if creature ∈ lists.targetList then 1 else 0 :=
  ⟨fun held => ⟨held.targets, held.friends, held.references⟩, fun ⟨targets, nodup, references⟩ => ⟨targets, nodup, references⟩⟩

theorem Held.withTargets (held : lists.Held) {roster : Roster CreaturePtr}
    (counts : ∀ {others : CreaturePtr → Int}, lists.targets.Counts others → roster.Counts others) : (lists.withTargets roster).Held :=
  held_iff_targets.mpr ⟨held.friends, counts (held_iff_targets.mp held).2⟩

theorem Held.withFriends (held : lists.Held) {roster : Roster CreaturePtr}
    (counts : ∀ {others : CreaturePtr → Int}, lists.friends.Counts others → roster.Counts others) : (lists.withFriends roster).Held :=
  held_iff_friends.mpr ⟨held.targets, counts (held_iff_friends.mp held).2⟩

theorem Adds.refl (new : CreaturePtr → Prop) (lists : Lists) : Adds new lists lists := ⟨id, fun _ listed => .inl listed⟩

theorem Adds.trans {later : Lists} (first : Adds new lists after) (second : Adds new after later) : Adds new lists later where
  held := fun held => second.held (first.held held)
  listed := by
    intro other listed
    rcases second.listed other listed with there | added
    · exact first.listed other there
    · exact .inr added

theorem Adds.mono {wider : CreaturePtr → Prop} (adds : Adds new lists after) (more : ∀ other, new other → wider other) :
    Adds wider lists after :=
  ⟨adds.held, fun other listed => (adds.listed other listed).imp_right (more other)⟩

theorem adds_withTargets {roster : Roster CreaturePtr}
    (counts : ∀ {others : CreaturePtr → Int}, lists.targets.Counts others → roster.Counts others)
    (members : ∀ other ∈ roster.members, other ∈ lists.targetList ∨ new other) : Adds new lists (lists.withTargets roster) where
  held := fun held => held.withTargets counts
  listed := by
    intro other listed
    rcases listed with target | friend
    · exact (members other target).imp_left .inl
    · exact .inl (.inr friend)

theorem adds_withFriends {roster : Roster CreaturePtr}
    (counts : ∀ {others : CreaturePtr → Int}, lists.friends.Counts others → roster.Counts others)
    (members : ∀ other ∈ roster.members, other ∈ lists.friendList ∨ new other) : Adds new lists (lists.withFriends roster) where
  held := fun held => held.withFriends counts
  listed := by
    intro other listed
    rcases listed with target | friend
    · exact .inl (.inl target)
    · exact (members other friend).imp_left .inr

theorem addFriend_adds : Adds (· = creature) lists (lists.addFriend creature) :=
  adds_withFriends (fun counts => counts.insert creature true) fun _ listed => Roster.mem_insert.mp listed

theorem addTarget_adds (pushFront : Bool) : Adds (· = creature) lists (lists.addTarget creature pushFront) :=
  adds_withTargets (fun counts => counts.insert creature pushFront) fun _ listed => Roster.mem_insert.mp listed

theorem removeFriend_friendList : (lists.removeFriend creature).friendList = lists.friendList.erase creature := Roster.erase_members

theorem removeTarget_targetList : (lists.removeTarget creature).targetList = lists.targetList.erase creature := Roster.erase_members

theorem removeFriend_adds : Adds new lists (lists.removeFriend creature) := by
  refine adds_withFriends (fun counts => counts.erase creature) ?_
  intro other listed
  rw [Roster.erase_members] at listed
  exact .inl (mem_of_mem_erase listed)

theorem removeTarget_adds : Adds new lists (lists.removeTarget creature) := by
  refine adds_withTargets (fun counts => counts.erase creature) ?_
  intro other listed
  rw [Roster.erase_members] at listed
  exact .inl (mem_of_mem_erase listed)

theorem clear_adds : Adds new lists lists.clearTargetList.clearFriendList :=
  (adds_withTargets (fun counts => counts.clear) fun _ listed => absurd listed not_mem_nil).trans
    (adds_withFriends (fun counts => counts.clear) fun _ listed => absurd listed not_mem_nil)

theorem setIdle_adds (idle : Bool) : Adds new lists (lists.setIdle world idle) := by
  unfold setIdle
  split
  · exact .refl new lists
  · have flagged : Adds new lists { lists with isIdle := idle } :=
      ⟨fun held => ⟨held.targets, held.friends, held.references⟩, fun _ listed => .inl listed⟩
    cases idle
    · exact flagged
    · exact flagged.trans clear_adds

/-- A monster that goes idle has nobody in its lists, unless it is dead. -/
theorem setIdle_listed {other : CreaturePtr} : (lists.setIdle world true).Listed other ↔
    (world.isRemoved world.self || (world.creatures world.self).isDead) = true ∧ lists.Listed other := by
  unfold setIdle
  split
  · next gone => exact (and_iff_right gone).symm
  · next here => exact iff_of_false (fun listed => listed.elim not_mem_nil not_mem_nil) fun both => here both.1

theorem updateIdleStatus_adds : Adds new lists (lists.updateIdleStatus world) := setIdle_adds _

theorem onCreatureFound_adds (pushFront : Bool) :
    Adds (fun other => other = creature ∧ world.canSee (world.getPosition other)) lists
      (lists.onCreatureFound world creature pushFront) := by
  unfold onCreatureFound
  split
  · next seen =>
    have found : ∀ other, other = creature → other = creature ∧ world.canSee (world.getPosition other) := by
      intro other same
      exact ⟨same, same ▸ seen⟩
    have friend : Adds (· = creature) lists (if world.isFriend creature then lists.addFriend creature else lists) := by
      split
      · exact addFriend_adds
      · exact .refl _ lists
    have target : ∀ lists : Lists, Adds (· = creature) lists
        (if world.isOpponent creature then lists.addTarget creature pushFront else lists) := by
      intro lists
      split
      · exact addTarget_adds pushFront
      · exact .refl _ lists
    exact ((friend.trans (target _)).trans updateIdleStatus_adds).mono found
  · exact .refl _ lists

/-- The monster finds one creature after the other. -/
theorem foldl_found_adds (creatures : List CreaturePtr) :
    Adds (fun other => other ∈ creatures ∧ world.canSee (world.getPosition other)) lists
      (creatures.foldl (fun lists creature => lists.onCreatureFound world creature false) lists) := by
  induction creatures generalizing lists with
  | nil => exact .refl _ lists
  | cons creature rest ih =>
    have first := @onCreatureFound_adds world lists creature false
    have first := first.mono fun other found =>
      (⟨mem_cons.mpr (.inl found.1), found.2⟩ : other ∈ creature :: rest ∧ world.canSee (world.getPosition other))
    exact first.trans (ih.mono fun other found => ⟨mem_cons_of_mem creature found.1, found.2⟩)

/-- What `updateTargetList` leaves before it looks around. -/
theorem sweep_adds : ∃ swept : Lists, Adds new lists swept ∧ (∀ other, swept.Listed other → world.canSee (world.getPosition other)) ∧
    ∀ order, lists.updateTargetList world order =
      (world.otherSpectators order).foldl (fun lists creature => lists.onCreatureFound world creature false) swept := by
  have kept : ∀ (members : List CreaturePtr) references, ∀ other ∈ (Roster.sweep (lost world) members references).members,
      other ∈ members ∧ world.canSee (world.getPosition other) := by
    intro members references other listed
    rw [Roster.sweep_members, mem_filter] at listed
    refine ⟨listed.1, ?_⟩
    have found : lost world other = false := by simpa using listed.2
    simpa using (Bool.or_eq_false_iff.mp found).2
  refine ⟨_, ?_, ?_, fun order => rfl⟩
  · refine .trans (adds_withFriends (fun counts => counts.sweep _) ?_) (adds_withTargets (fun counts => counts.sweep _) ?_)
    · exact fun other listed => .inl (kept _ _ other listed).1
    · exact fun other listed => .inl (kept _ _ other listed).1
  · rintro other (target | friend)
    · exact (kept _ _ other target).2
    · exact (kept _ _ other friend).2

theorem updateTargetList_adds (order : List CreaturePtr) :
    Adds (fun other => other ∈ world.otherSpectators order) lists (lists.updateTargetList world order) ∧
      ∀ other, (lists.updateTargetList world order).Listed other → world.canSee (world.getPosition other) := by
  obtain ⟨swept, adds, sees, same⟩ := @sweep_adds world lists fun other => other ∈ world.otherSpectators order
  have found := @foldl_found_adds world swept (world.otherSpectators order)
  rw [same]
  constructor
  · exact adds.trans (found.mono fun _ found => found.1)
  · intro other listed
    rcases found.listed other listed with there | new
    · exact sees other there
    · exact new.2

end

section
variable {world : World} {lists : Lists} {creature : CreaturePtr}

/-- A monster with these targets goes idle and lets go of its friends. -/
def flushes (world : World) (targetList : List CreaturePtr) : Bool :=
  !(world.isRemoved world.self || (world.creatures world.self).isDead) &&
    (!world.isSummon world.self && targetList.isEmpty && !world.hasAggressive)

theorem updateIdleStatus_targetList : (lists.updateIdleStatus world).targetList = lists.targetList := by
  unfold updateIdleStatus setIdle
  split
  · rfl
  · cases idle : !world.isSummon world.self && lists.targetList.isEmpty && !world.hasAggressive
    · rfl
    · simp only [Bool.and_eq_true] at idle
      exact (List.isEmpty_iff.mp idle.1.2).symm

theorem updateIdleStatus_friendList :
    (lists.updateIdleStatus world).friendList = if flushes world lists.targetList then [] else lists.friendList := by
  unfold updateIdleStatus setIdle flushes
  cases world.isRemoved world.self || (world.creatures world.self).isDead
  · cases !world.isSummon world.self && lists.targetList.isEmpty && !world.hasAggressive <;> rfl
  · rfl

/-- The friends go first, and then the targets. -/
theorem onCreatureLeave_eq (world : World) (lists : Lists) (creature : CreaturePtr) : ∃ unfriended : Lists,
    unfriended.targetList = lists.targetList ∧
    unfriended.friendList = (if world.isFriend creature then lists.friendList.erase creature else lists.friendList) ∧
    lists.onCreatureLeave world creature =
      if world.isOpponent creature then (unfriended.removeTarget creature).updateIdleStatus world else unfriended := by
  refine ⟨if world.isFriend creature then lists.removeFriend creature else lists, ?_, ?_, rfl⟩
  · split <;> rfl
  · split
    · exact removeFriend_friendList
    · rfl

theorem onCreatureLeave_targetList : (lists.onCreatureLeave world creature).targetList =
    if world.isOpponent creature then lists.targetList.erase creature else lists.targetList := by
  obtain ⟨unfriended, targets, _, same⟩ := onCreatureLeave_eq world lists creature
  rw [same]
  split
  · rw [updateIdleStatus_targetList, removeTarget_targetList, targets]
  · exact targets

theorem onCreatureLeave_friendList : (lists.onCreatureLeave world creature).friendList =
    if world.isOpponent creature && flushes world (lists.targetList.erase creature) then []
    else if world.isFriend creature then lists.friendList.erase creature else lists.friendList := by
  obtain ⟨unfriended, targets, friends, same⟩ := onCreatureLeave_eq world lists creature
  rw [same, ← friends]
  cases world.isOpponent creature
  · rfl
  · rw [if_pos rfl, updateIdleStatus_friendList, removeTarget_targetList, targets, Bool.true_and]
    rfl

theorem onCreatureLeave_adds {new : CreaturePtr → Prop} : Adds new lists (lists.onCreatureLeave world creature) := by
  have friend : Adds new lists (if world.isFriend creature then lists.removeFriend creature else lists) := by
    split
    · exact removeFriend_adds
    · exact .refl _ lists
  unfold onCreatureLeave
  dsimp only
  split
  · exact friend.trans (removeTarget_adds.trans updateIdleStatus_adds)
  · exact friend

/-- The monster lets go of a creature that leaves: it is an opponent or no target, and a friend or none of the friends, unless
they all go. -/
structure LetsGo (lists : Lists) (world : World) (creature : CreaturePtr) (updates : Bool) : Prop where
  target : creature ∈ lists.targetList → world.isOpponent creature
  friend : creature ∈ lists.friendList → world.isFriend creature ∨
    (updates ∨ world.isOpponent creature) ∧ flushes world (lists.targetList.erase creature)

theorem not_mem_erase_iff {list : List CreaturePtr} (nodup : list.Nodup) (goes : Bool) :
    creature ∉ (if goes then list.erase creature else list) ↔ (creature ∈ list → goes) := by
  cases goes
  · rw [if_neg Bool.false_ne_true]
    exact ⟨fun absent listed => absurd listed absent, fun all listed => Bool.false_ne_true (all listed)⟩
  · rw [if_pos rfl]
    exact iff_of_true nodup.not_mem_erase fun _ => rfl

theorem not_mem_flush_iff {list rest : List CreaturePtr} (flush : Bool) {kept : Prop} (rest_iff : creature ∉ rest ↔ (creature ∈ list → kept)) :
    creature ∉ (if flush then [] else rest) ↔ (creature ∈ list → kept ∨ flush) := by
  cases flush
  · rw [if_neg Bool.false_ne_true, rest_iff]
    simp
  · rw [if_pos rfl]
    exact iff_of_true not_mem_nil fun _ => .inr rfl

theorem onCreatureLeave_lets_go (held : lists.Held) :
    ¬ (lists.onCreatureLeave world creature).Listed creature ↔ LetsGo lists world creature false := by
  rw [Listed, onCreatureLeave_targetList, onCreatureLeave_friendList, not_or, not_mem_erase_iff held.targets,
    not_mem_flush_iff _ (not_mem_erase_iff held.friends _)]
  simp only [Bool.and_eq_true]
  constructor
  · rintro ⟨target, friend⟩
    exact ⟨target, fun listed => (friend listed).imp_right fun both => ⟨.inr both.1, both.2⟩⟩
  · rintro ⟨target, friend⟩
    exact ⟨target, fun listed => (friend listed).imp_right fun both => ⟨both.1.resolve_left Bool.false_ne_true, both.2⟩⟩

/-- The idle status is brought up to date once more when a creature has moved away. -/
theorem onCreatureLeave_update_lets_go (held : lists.Held) :
    ¬ ((lists.onCreatureLeave world creature).updateIdleStatus world).Listed creature ↔ LetsGo lists world creature true := by
  rw [Listed, updateIdleStatus_targetList, updateIdleStatus_friendList, onCreatureLeave_targetList, onCreatureLeave_friendList,
    not_or, not_mem_erase_iff held.targets, not_mem_flush_iff _ (not_mem_flush_iff _ (not_mem_erase_iff held.friends _))]
  have erased : (creature ∈ lists.targetList → world.isOpponent creature = true) →
      (if world.isOpponent creature then lists.targetList.erase creature else lists.targetList) = lists.targetList.erase creature := by
    intro target
    split
    · rfl
    · next other => exact (erase_of_not_mem fun listed => other (target listed)).symm
  simp only [Bool.and_eq_true]
  constructor
  · rintro ⟨target, friend⟩
    rw [erased target] at friend
    refine ⟨target, ?_⟩
    intro listed
    rcases friend listed with (friendly | both) | flush
    · exact .inl friendly
    · exact .inr ⟨.inl rfl, both.2⟩
    · exact .inr ⟨.inl rfl, flush⟩
  · rintro ⟨target, friend⟩
    rw [erased target]
    refine ⟨target, ?_⟩
    intro listed
    rcases friend listed with friendly | ⟨_, flush⟩
    · exact .inl (.inl friendly)
    · exact .inr flush

end

end Lists

end Styller.TargetLists
