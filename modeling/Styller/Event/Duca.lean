import Mathlib.Data.List.Nodup
import Mathlib.Data.List.Perm.Basic

/-! The duca event: its teams, its ranking and its prizes. Messages, outfits and positions are left out. -/

namespace Styller

open List Function

/-- The players that are online, in the order of `Game.getPlayers`, and two storage values of every
player by his guid. All who are online have them: `onLogin` fails on a value that is not set, and the
player is not let in. -/
structure Duca where
  online : List UInt32
  storage : UInt32 → Int
  ducaPoints : UInt32 → Int

/-- `rewardFirst` with the trophy, and `rewardSecond`. -/
inductive DucaPrize where
  | first
  | second
  deriving DecidableEq

namespace Duca

def start (storage ducaPoints : UInt32 → Int) : Duca := ⟨[], storage, ducaPoints⟩

variable (state : Duca)

def setStorage (guid : UInt32) (value : Int) : Duca :=
  { state with storage := Function.update state.storage guid value }

def setPoints (guid : UInt32) (value : Int) : Duca :=
  { state with ducaPoints := Function.update state.ducaPoints guid value }

/-- `duca_balanceTeam`. -/
def balanceTeam : Int :=
  let time1 := (state.online.filter fun guid => state.storage guid = 1).length
  let time2 := (state.online.filter fun guid => state.storage guid = 2).length
  if time1 ≤ time2 then 1 else 2

def addPlayerinTeam (guid : UInt32) (team : Int) : Duca :=
  if guid ∈ state.online ∧ state.storage guid ≠ team then (state.setStorage guid 0).setStorage guid team else state

def removePlayer (guid : UInt32) : Duca :=
  if guid ∈ state.online then (state.setStorage guid 0).setPoints guid 0 else state

/-- The table `participants` before it is sorted. -/
def participants : List UInt32 := state.online.filter fun guid => state.storage guid > 0

/-- What `table.sort` may make of the participants: players with equal points come in any order. -/
structure Sorts (ranking : List UInt32) : Prop where
  perm : ranking.Perm state.participants
  sorted : ranking.Pairwise fun guid later => state.ducaPoints later ≤ state.ducaPoints guid

/-- The loop that moves the players behind the eleventh out of the teams 3 and 4. -/
def demote (guid : UInt32) : Duca :=
  if state.storage guid ≥ 3 then state.addPlayerinTeam guid state.balanceTeam else state

/-! The three parts of `duca_updateRank`, for the order that `table.sort` has made. -/

def crown (ranking : List UInt32) : Duca :=
  match ranking with
  | [] => state
  | first :: _ => state.addPlayerinTeam first 4

def redden (ranking : List UInt32) : Duca :=
  if ranking.length ≥ 11 then
    ((ranking.drop 1).take 10).foldl (fun state guid => state.addPlayerinTeam guid 3) state
  else state

def demoteRest (ranking : List UInt32) : Duca :=
  if ranking.length > 12 then (ranking.drop 11).foldl demote state else state

def updateRank (ranking : List UInt32) : Duca := ((state.crown ranking).redden ranking).demoteRest ranking

/-- The loop of `duca_finishEvent` over the players: the prizes that it hands out, and what is left. -/
def pay : List UInt32 → Duca → List (UInt32 × DucaPrize) × Duca
  | [], state => ([], state)
  | guid :: later, state =>
    if state.storage guid > 0 then
      let prize :=
        if state.storage guid = 4 then [(guid, DucaPrize.first)]
        else if state.storage guid = 3 then [(guid, DucaPrize.second)]
        else []
      let (prizes, state) := pay later (state.removePlayer guid)
      (prize ++ prizes, state)
    else pay later state

/-- What players and the server do. A join is `admitted` by the level, the items and the address of
the player. -/
inductive Event where
  | login (guid : UInt32)
  | logout (guid : UInt32) (forced : Bool)
  | join (guid : UInt32) (admitted : Bool)
  | leave (guid : UInt32) (ranking : List UInt32)
  | prepareDeath (player killer : UInt32) (ranking : List UInt32)
  | updateRank (ranking : List UInt32)
  | finishEvent (ranking : List UInt32)

/-- `onLogin` of a player that is not online. -/
def login (guid : UInt32) : Duca :=
  if guid ∈ state.online then state
  else
    let state := { state with online := state.online ++ [guid] }
    if state.storage guid > 0 then state.setStorage guid 0 else state

/-- `onLogout`: a player in the event stays, unless he is forced out. -/
def logout (guid : UInt32) (forced : Bool) : Duca :=
  if state.storage guid > 0 ∧ ¬forced then state else { state with online := state.online.erase guid }

/-- The teleport into the event. A player that is in it has his own address there. -/
def join (guid : UInt32) (admitted : Bool) : Duca :=
  if guid ∈ state.online ∧ admitted ∧ ¬state.storage guid > 0 then
    (state.addPlayerinTeam guid state.balanceTeam).setPoints guid 0
  else state

def pointsPerKill (team : Int) : Int := if team = 3 then 10 else if team = 4 then 30 else 1

/-- `onPrepareDeath` before it calls `duca_updateRank`. -/
def scored (player killer : UInt32) : Duca :=
  (state.setPoints killer (state.ducaPoints killer + pointsPerKill (state.storage player))).removePlayer player

/-- The state in which an event calls `duca_updateRank`, and what `table.sort` makes of it there. -/
def Event.call : Event → Duca → Option (Duca × List UInt32)
  | .leave guid ranking, state => some (state.removePlayer guid, ranking)
  | .prepareDeath player killer ranking, state =>
    if state.storage player > 0 ∧ state.storage killer > 0 then some (state.scored player killer, ranking) else none
  | .updateRank ranking, state => some (state, ranking)
  | .finishEvent ranking, state => some (state, ranking)
  | _, _ => none

/-- The state after an event. -/
def Event.step : Event → Duca → Duca
  | .login guid, state => state.login guid
  | .logout guid forced, state => state.logout guid forced
  | .join guid admitted, state => state.join guid admitted
  | .leave guid ranking, state => (state.removePlayer guid).updateRank ranking
  | .prepareDeath player killer ranking, state =>
    if state.storage player > 0 ∧ state.storage killer > 0 then (state.scored player killer).updateRank ranking
    else state
  | .updateRank ranking, state => state.updateRank ranking
  | .finishEvent ranking, state => (pay (state.updateRank ranking).online (state.updateRank ranking)).2

/-- The states that are reached from the start of the server, with the calls of `duca_updateRank` on
the way. -/
inductive Run : Duca → List (Duca × List UInt32) → Prop
  | start (storage ducaPoints : UInt32 → Int) : Run (start storage ducaPoints) []
  | step {state : Duca} {calls : List (Duca × List UInt32)} (event : Event) : Run state calls →
      (∀ before ranking, event.call state = some (before, ranking) → before.Sorts ranking) →
      Run (event.step state) (calls ++ (event.call state).toList)

def team (number : Int) : List UInt32 := state.participants.filter fun guid => state.storage guid = number

/-- The teams that a ranking is meant to leave, and the prizes that they get. -/
structure Ranked : Prop where
  champion : state.participants ≠ [] → ∃ guid, state.team 4 = [guid] ∧
    ∀ other ∈ state.participants, state.ducaPoints other ≤ state.ducaPoints guid
  seconds : (state.team 3).length ≤ 10
  large : 11 ≤ state.participants.length → (state.team 3).length = 10 ∧
    (∀ other ∈ state.participants, state.storage other ∉ [3, 4] →
      state.storage other ∈ [1, 2] ∧ ∀ guid ∈ state.team 3, state.ducaPoints other ≤ state.ducaPoints guid)
  firstPrize : state.participants ≠ [] →
    ((pay state.online state).1.filter fun prize => prize.2 = .first).length = 1
  secondPrizes : ((pay state.online state).1.filter fun prize => prize.2 = .second).length ≤ 10

/-- Up to ten participants, none but the first is in team 4; of twelve, the last is in no team above 2. -/
def Settled (ranking : List UInt32) : Prop :=
  (ranking.length ≤ 10 → ∀ guid ∈ ranking.tail, state.storage guid ≠ 4) ∧
    (ranking.length = 12 → ∀ guid ∈ ranking.drop 11, state.storage guid < 3)

/-! Teams. -/

section

variable {state : Duca}

@[simp] theorem online_addPlayerinTeam (guid : UInt32) (team : Int) :
    (state.addPlayerinTeam guid team).online = state.online := by
  unfold addPlayerinTeam
  split_ifs <;> rfl

@[simp] theorem ducaPoints_addPlayerinTeam (guid : UInt32) (team : Int) :
    (state.addPlayerinTeam guid team).ducaPoints = state.ducaPoints := by
  unfold addPlayerinTeam
  split_ifs <;> rfl

theorem storage_addPlayerinTeam {guid : UInt32} (here : guid ∈ state.online) (team : Int) (other : UInt32) :
    (state.addPlayerinTeam guid team).storage other = if other = guid then team else state.storage other := by
  unfold addPlayerinTeam setStorage
  by_cases same : other = guid
  · subst same
    rw [if_pos rfl]
    split_ifs with changed
    · simp
    · by_contra differs
      exact changed ⟨here, differs⟩
  · split_ifs <;> simp [update_of_ne same]

theorem balanceTeam_cases : state.balanceTeam = 1 ∨ state.balanceTeam = 2 := by
  unfold balanceTeam
  dsimp only
  split_ifs
  · exact .inl rfl
  · exact .inr rfl

/-- What the parts of `duca_updateRank` leave alone: who is online, the points, and the teams of the
players that are not on a list. -/
structure Frame (moved : List UInt32) (state after : Duca) : Prop where
  online : after.online = state.online
  ducaPoints : after.ducaPoints = state.ducaPoints
  storage : ∀ guid, guid ∉ moved → after.storage guid = state.storage guid

theorem Frame.refl (moved : List UInt32) (state : Duca) : Frame moved state state := ⟨rfl, rfl, fun _ _ => rfl⟩

theorem Frame.trans {moved more : List UInt32} {state between after : Duca} (first : Frame moved state between)
    (second : Frame more between after) : Frame (moved ++ more) state after where
  online := second.online.trans first.online
  ducaPoints := second.ducaPoints.trans first.ducaPoints
  storage guid out := by
    rw [mem_append, not_or] at out
    exact (second.storage guid out.2).trans (first.storage guid out.1)

theorem frame_addPlayerinTeam {guid : UInt32} (here : guid ∈ state.online) (team : Int) :
    Frame [guid] state (state.addPlayerinTeam guid team) where
  online := online_addPlayerinTeam guid team
  ducaPoints := ducaPoints_addPlayerinTeam guid team
  storage other out := by
    rw [storage_addPlayerinTeam here, if_neg (by simpa using out)]

theorem frame_demote {guid : UInt32} (here : guid ∈ state.online) : Frame [guid] state (state.demote guid) := by
  unfold demote
  split_ifs
  · exact frame_addPlayerinTeam here _
  · exact Frame.refl _ _

/-- Whoever is demoted is in one of the first two teams, if he is in any. -/
theorem storage_demote {guid : UInt32} (here : guid ∈ state.online) (inside : 0 < state.storage guid) :
    (state.demote guid).storage guid = 1 ∨ (state.demote guid).storage guid = 2 := by
  unfold demote
  split_ifs with high
  · rw [storage_addPlayerinTeam here, if_pos rfl]
    exact balanceTeam_cases
  · omega

theorem redden_spec (moved : List UInt32) (state : Duca) (here : ∀ guid ∈ moved, guid ∈ state.online) :
    Frame moved state (moved.foldl (fun state guid => state.addPlayerinTeam guid 3) state) ∧
      ∀ guid ∈ moved, (moved.foldl (fun state guid => state.addPlayerinTeam guid 3) state).storage guid = 3 := by
  induction moved generalizing state with
  | nil => exact ⟨Frame.refl _ _, nofun⟩
  | cons first moved ih =>
    have firstHere := here first mem_cons_self
    have frame := frame_addPlayerinTeam firstHere 3
    obtain ⟨later, red⟩ := ih (state.addPlayerinTeam first 3)
      fun guid listed => frame.online ▸ here guid (mem_cons_of_mem _ listed)
    refine ⟨frame.trans later, fun guid listed => ?_⟩
    by_cases again : guid ∈ moved
    · exact red guid again
    · have same : guid = first := (mem_cons.mp listed).resolve_right again
      rw [foldl_cons, later.storage guid again, same, storage_addPlayerinTeam firstHere, if_pos rfl]

/-- Demoting every player of a list. -/
theorem demote_spec (moved : List UInt32) (state : Duca) (here : ∀ guid ∈ moved, guid ∈ state.online)
    (inside : ∀ guid ∈ moved, 0 < state.storage guid) (nodup : moved.Nodup) :
    Frame moved state (moved.foldl demote state) ∧
      ∀ guid ∈ moved, (moved.foldl demote state).storage guid = 1 ∨ (moved.foldl demote state).storage guid = 2 := by
  induction moved generalizing state with
  | nil => exact ⟨Frame.refl _ _, nofun⟩
  | cons first moved ih =>
    have firstHere := here first mem_cons_self
    obtain ⟨away, nodup⟩ := nodup_cons.mp nodup
    have frame := frame_demote firstHere
    have apart : ∀ guid ∈ moved, guid ∉ [first] := fun guid listed same =>
      away (mem_singleton.mp same ▸ listed)
    obtain ⟨later, low⟩ := ih (state.demote first)
      (fun guid listed => frame.online ▸ here guid (mem_cons_of_mem _ listed))
      (fun guid listed => frame.storage guid (apart guid listed) ▸ inside guid (mem_cons_of_mem _ listed)) nodup
    refine ⟨frame.trans later, fun guid listed => ?_⟩
    rcases mem_cons.mp listed with rfl | listed
    · rw [foldl_cons, later.storage guid away]
      exact storage_demote firstHere (inside guid mem_cons_self)
    · exact low guid listed

end

/-! One ranking. -/

/-- What every state of the event keeps: no player is online twice, and nobody there is in a team
above 4. -/
structure Sound : Prop where
  nodup : state.online.Nodup
  teams : ∀ guid ∈ state.online, state.storage guid ≤ 4

section

variable {state : Duca} {first : UInt32} {tail : List UInt32}

theorem mem_participants {guid : UInt32} : guid ∈ state.participants ↔ guid ∈ state.online ∧ 0 < state.storage guid := by
  simp [participants]

theorem Sorts.nodup {ranking : List UInt32} (sorts : state.Sorts ranking) (sound : state.Sound) : ranking.Nodup :=
  sorts.perm.nodup_iff.mpr (sound.nodup.filter _)

/-- What `duca_updateRank` does: to the first, to the ten behind him, and to the rest. -/
structure Moved (state after : Duca) (first : UInt32) (tail : List UInt32) : Prop where
  frame : Frame (first :: tail) state after
  green : after.storage first = 4
  red : 10 ≤ tail.length → ∀ guid ∈ tail.take 10, after.storage guid = 3
  demoted : 11 < tail.length → ∀ guid ∈ tail.drop 10, after.storage guid = 1 ∨ after.storage guid = 2
  few : tail.length < 10 → ∀ guid ∈ tail, after.storage guid = state.storage guid
  twelfth : tail.length ≤ 11 → ∀ guid ∈ tail.drop 10, after.storage guid = state.storage guid

theorem updateRank_moved (sound : state.Sound) (sorts : state.Sorts (first :: tail)) :
    Moved state (state.updateRank (first :: tail)) first tail := by
  have inside : ∀ guid ∈ first :: tail, guid ∈ state.online ∧ 0 < state.storage guid := fun guid listed =>
    mem_participants.mp (sorts.perm.mem_iff.mp listed)
  have firstHere := (inside first mem_cons_self).1
  obtain ⟨away, nodup⟩ := nodup_cons.mp (sorts.nodup sound)
  have parts : tail.take 10 ++ tail.drop 10 = tail := take_append_drop 10 tail
  have apart : ∀ guid ∈ tail.take 10, guid ∉ tail.drop 10 := by
    rw [← parts] at nodup
    exact fun guid one other => (nodup_append.mp nodup).2.2 guid one guid other rfl
  have crowned := frame_addPlayerinTeam firstHere 4
  have green : (state.crown (first :: tail)).storage first = 4 := by
    rw [crown, storage_addPlayerinTeam firstHere, if_pos rfl]
  obtain ⟨reddened, red⟩ := redden_spec (tail.take 10) (state.crown (first :: tail)) fun guid listed =>
    crowned.online ▸ (inside guid (mem_cons_of_mem _ (mem_of_mem_take listed))).1
  have tailOnly : ∀ guid ∈ tail, guid ≠ first := fun guid listed same => away (same ▸ listed)
  have crownedSame : ∀ guid ∈ tail, (state.crown (first :: tail)).storage guid = state.storage guid := fun guid listed =>
    crowned.storage guid (by simpa using tailOnly guid listed)
  by_cases few : tail.length < 10
  · have eq : state.updateRank (first :: tail) = state.crown (first :: tail) := by
      rw [updateRank, redden, demoteRest, if_neg (by simp; omega), if_neg (by simp; omega)]
    rw [eq]
    exact ⟨⟨crowned.online, crowned.ducaPoints, fun guid out => crowned.storage guid (by simp_all)⟩, green,
      fun many => absurd few (by omega), fun many => absurd few (by omega), fun _ => crownedSame,
      fun _ guid listed => crownedSame guid (mem_of_mem_drop listed)⟩
  have reds : (state.crown (first :: tail)).redden (first :: tail) =
      (tail.take 10).foldl (fun state guid => state.addPlayerinTeam guid 3) (state.crown (first :: tail)) := by
    rw [redden, if_pos (by simp; omega)]
    rfl
  have frame := crowned.trans reddened
  have firstRed : first ∉ tail.take 10 := fun listed => away (mem_of_mem_take listed)
  have restSame : ∀ guid ∈ tail.drop 10,
      ((state.crown (first :: tail)).redden (first :: tail)).storage guid = state.storage guid := fun guid listed => by
    rw [reds]
    refine frame.storage guid ?_
    rw [singleton_append, mem_cons, not_or]
    exact ⟨tailOnly guid (mem_of_mem_drop listed), fun taken => apart guid taken listed⟩
  by_cases many : 11 < tail.length
  · have eq : state.updateRank (first :: tail) =
        (tail.drop 10).foldl demote ((state.crown (first :: tail)).redden (first :: tail)) := by
      rw [updateRank, demoteRest, if_pos (by simp; omega)]
      rfl
    obtain ⟨lowered, low⟩ := demote_spec (tail.drop 10) ((state.crown (first :: tail)).redden (first :: tail))
      (fun guid listed => by
        rw [reds, frame.online]
        exact (inside guid (mem_cons_of_mem _ (mem_of_mem_drop listed))).1)
      (fun guid listed => by
        rw [restSame guid listed]
        exact (inside guid (mem_cons_of_mem _ (mem_of_mem_drop listed))).2)
      (nodup.sublist (drop_sublist _ _))
    have all := (reds ▸ frame).trans lowered
    rw [append_assoc, parts] at all
    rw [eq]
    refine ⟨all, ?_, fun _ guid listed => ?_, fun _ => low, fun few' => absurd few' few, fun few' => absurd many (by omega)⟩
    · rw [lowered.storage first fun listed => away (mem_of_mem_drop listed), reds, reddened.storage first firstRed]
      exact green
    · rw [lowered.storage guid (apart guid listed), reds]
      exact red guid listed
  · have eq : state.updateRank (first :: tail) = (state.crown (first :: tail)).redden (first :: tail) := by
      rw [updateRank, demoteRest, if_neg (by simp; omega)]
    rw [eq]
    refine ⟨?_, ?_, fun _ guid listed => ?_, fun many' => absurd many' many, fun few' => absurd few' few,
      fun _ => restSame⟩
    · rw [reds]
      refine ⟨frame.online, frame.ducaPoints, fun guid out => frame.storage guid ?_⟩
      rw [singleton_append, mem_cons, not_or]
      rw [mem_cons, not_or] at out
      exact ⟨out.1, fun taken => out.2 (mem_of_mem_take taken)⟩
    · rw [reds, reddened.storage first firstRed]
      exact green
    · rw [reds]
      exact red guid listed

/-- A ranking of the participants, the first, the ten behind him and the rest. -/
theorem Moved.participants {after : Duca} (moved : Moved state after first tail) (sorts : state.Sorts (first :: tail)) :
    after.participants = state.participants := by
  unfold Duca.participants
  rw [moved.frame.online]
  refine filter_congr fun guid here => ?_
  rw [decide_eq_decide]
  by_cases listed : guid ∈ first :: tail
  · refine iff_of_true ?_ (mem_participants.mp (sorts.perm.mem_iff.mp listed)).2
    by_cases few : tail.length < 10
    · rcases mem_cons.mp listed with rfl | later
      · rw [moved.green]
        decide
      · rw [moved.few few guid later]
        exact (mem_participants.mp (sorts.perm.mem_iff.mp listed)).2
    · rcases mem_cons.mp listed with rfl | later
      · rw [moved.green]
        decide
      · rw [← take_append_drop 10 tail, mem_append] at later
        rcases later with red | rest
        · rw [moved.red (by omega) guid red]
          decide
        · by_cases many : 11 < tail.length
          · rcases moved.demoted many guid rest with one | two <;> omega
          · rw [moved.twelfth (by omega) guid rest]
            exact (mem_participants.mp (sorts.perm.mem_iff.mp listed)).2
  · rw [moved.frame.storage guid listed]

/-- The prizes of a team go to its members. -/
theorem pay_length (number : Int) (prize : DucaPrize)
    (kind : number = 4 ∧ prize = .first ∨ number = 3 ∧ prize = .second) (players : List UInt32) :
    ∀ state : Duca, players.Nodup → ((pay players state).1.filter fun given => given.2 = prize).length =
      (players.filter fun guid => state.storage guid = number).length := by
  induction players with
  | nil => exact fun state _ => rfl
  | cons guid players ih =>
    intro state nodup
    obtain ⟨away, nodup⟩ := nodup_cons.mp nodup
    have others : players.filter (fun other => (state.removePlayer guid).storage other = number) =
        players.filter fun other => state.storage other = number := by
      refine filter_congr fun other listed => ?_
      have apart : other ≠ guid := fun same => away (same ▸ listed)
      unfold removePlayer setStorage setPoints
      split_ifs <;> simp [update_of_ne apart]
    have removed := ih (state.removePlayer guid) nodup
    have stays := ih state nodup
    rw [others] at removed
    rw [pay]
    by_cases inside : state.storage guid > 0
    · rw [if_pos inside]
      by_cases four : state.storage guid = 4
      · rcases kind with ⟨rfl, rfl⟩ | ⟨rfl, rfl⟩ <;> simp [four, removed]
      · by_cases three : state.storage guid = 3
        · rcases kind with ⟨rfl, rfl⟩ | ⟨rfl, rfl⟩ <;> simp [three, removed]
        · rcases kind with ⟨rfl, rfl⟩ | ⟨rfl, rfl⟩ <;> simp [four, three, removed]
    · rw [if_neg inside, stays, filter_cons_of_neg]
      rcases kind with ⟨rfl, _⟩ | ⟨rfl, _⟩ <;> simp <;> omega

/-- A team in which players are is a part of all players. -/
theorem team_eq {number : Int} (positive : 0 < number) :
    state.team number = state.online.filter fun guid => state.storage guid = number := by
  unfold team Duca.participants
  rw [filter_filter]
  refine filter_congr fun guid _ => ?_
  rw [← Bool.decide_and, decide_eq_decide]
  constructor
  · exact And.left
  · exact fun same => ⟨same, by omega⟩

/-- A team after a ranking, in the order of the ranking. -/
theorem Moved.team {after : Duca} (moved : Moved state after first tail) (sorts : state.Sorts (first :: tail))
    (number : Int) :
    (after.team number).Perm ((first :: tail).filter fun guid => after.storage guid = number) := by
  unfold Duca.team
  rw [moved.participants sorts]
  exact (sorts.perm.filter _).symm

/-- A ranked state hands out one first prize and at most ten second ones. -/
theorem ranked_of_teams {after : Duca} (nodup : after.online.Nodup)
    (champion : after.participants ≠ [] → ∃ guid, after.team 4 = [guid] ∧
      ∀ other ∈ after.participants, after.ducaPoints other ≤ after.ducaPoints guid)
    (seconds : (after.team 3).length ≤ 10)
    (large : 11 ≤ after.participants.length → (after.team 3).length = 10 ∧
      (∀ other ∈ after.participants, after.storage other ∉ [3, 4] →
        after.storage other ∈ [1, 2] ∧ ∀ guid ∈ after.team 3, after.ducaPoints other ≤ after.ducaPoints guid)) :
    after.Ranked where
  champion := champion
  seconds := seconds
  large := large
  firstPrize some := by
    obtain ⟨guid, one, _⟩ := champion some
    rw [pay_length 4 .first (.inl ⟨rfl, rfl⟩) _ _ nodup, ← team_eq (by decide), one, length_singleton]
  secondPrizes := by
    rw [pay_length 3 .second (.inr ⟨rfl, rfl⟩) _ _ nodup, ← team_eq (by decide)]
    exact seconds

section

variable {after : Duca} (moved : Moved state after first tail) (settled : state.Settled (first :: tail))
  (inside : ∀ guid ∈ tail, 0 < state.storage guid)
include moved settled

theorem Moved.not_green : ∀ guid ∈ tail, after.storage guid ≠ 4 := by
  intro guid listed
  by_cases few : tail.length < 10
  · rw [moved.few few guid listed]
    exact settled.1 (by simp; omega) guid listed
  rw [← take_append_drop 10 tail, mem_append] at listed
  rcases listed with red | rest
  · rw [moved.red (by omega) guid red]
    decide
  · by_cases many : 11 < tail.length
    · rcases moved.demoted many guid rest with one | two <;> omega
    · rw [moved.twelfth (by omega) guid rest]
      have some : 0 < (tail.drop 10).length := length_pos_of_mem rest
      rw [length_drop] at some
      have low := settled.2 (by simp; omega) guid rest
      omega

include inside

theorem Moved.rest_low (large : 10 ≤ tail.length) :
    ∀ guid ∈ tail.drop 10, after.storage guid = 1 ∨ after.storage guid = 2 := by
  intro guid rest
  by_cases many : 11 < tail.length
  · exact moved.demoted many guid rest
  · rw [moved.twelfth (by omega) guid rest]
    have some : 0 < (tail.drop 10).length := length_pos_of_mem rest
    rw [length_drop] at some
    have low := settled.2 (by simp; omega) guid rest
    have high := inside guid (mem_of_mem_drop rest)
    omega

/-- The second team is the ten behind the first, where there are ten. -/
theorem Moved.reds (large : 10 ≤ tail.length) :
    (first :: tail).filter (fun guid => after.storage guid = 3) = tail.take 10 := by
  have none : (tail.drop 10).filter (fun guid => after.storage guid = 3) = [] := by
    rw [filter_eq_nil_iff]
    intro guid rest
    rcases moved.rest_low settled inside large guid rest with one | two
    · simp [one]
    · simp [two]
  have all : (tail.take 10).filter (fun guid => after.storage guid = 3) = tail.take 10 :=
    filter_eq_self.mpr fun guid red => decide_eq_true (moved.red large guid red)
  rw [filter_cons_of_neg (by simp [moved.green]), ← take_append_drop 10 tail, filter_append, none, all,
    append_nil, take_append_drop]

end

/-- A settled ranking leaves the teams that it is meant to leave. -/
theorem ranked_of_settled (sound : state.Sound) (sorts : state.Sorts (first :: tail))
    (settled : state.Settled (first :: tail)) : (state.updateRank (first :: tail)).Ranked := by
  have moved := updateRank_moved sound sorts
  have inside : ∀ guid ∈ tail, 0 < state.storage guid := fun guid listed =>
    (mem_participants.mp (sorts.perm.mem_iff.mp (mem_cons_of_mem _ listed))).2
  obtain ⟨head, behind⟩ := pairwise_cons.mp sorts.sorted
  have team := moved.team sorts
  have people := moved.participants sorts
  have points := moved.frame.ducaPoints
  generalize state.updateRank (first :: tail) = after at *
  have length : after.participants.length = tail.length + 1 := by
    rw [people, ← sorts.perm.length_eq, length_cons]
  refine ranked_of_teams (moved.frame.online ▸ sound.nodup) (fun _ => ⟨first, ?_, ?_⟩) ?_ fun large => ⟨?_, ?_⟩
  · have none : tail.filter (fun guid => after.storage guid = 4) = [] :=
      filter_eq_nil_iff.mpr fun guid listed => by simpa using moved.not_green settled guid listed
    have one := team 4
    rw [filter_cons_of_pos (by simp [moved.green]), none] at one
    exact perm_singleton.mp one
  · intro other listed
    rw [points]
    rw [people, ← sorts.perm.mem_iff] at listed
    rcases mem_cons.mp listed with rfl | later
    · exact Int.le_refl _
    · exact head other later
  · rw [(team 3).length_eq]
    by_cases large : 10 ≤ tail.length
    · rw [moved.reds settled inside large, length_take]
      exact Nat.min_le_left _ _
    · rw [filter_cons_of_neg (by simp [moved.green])]
      have short := length_filter_le (fun guid => decide (after.storage guid = 3)) tail
      omega
  · rw [(team 3).length_eq, moved.reds settled inside (by omega), length_take]
    omega
  · intro other listed outside
    have reds := moved.reds settled inside (by omega)
    rw [people, ← sorts.perm.mem_iff] at listed
    have rest : other ∈ tail.drop 10 := by
      rcases mem_cons.mp listed with rfl | later
      · exact absurd (by simp [moved.green]) outside
      · rw [← take_append_drop 10 tail, mem_append] at later
        refine later.resolve_left fun red => outside ?_
        simp [moved.red (by omega) other red]
    refine ⟨?_, fun guid second => ?_⟩
    · rcases moved.rest_low settled inside (by omega) other rest with one | two
      · simp [one]
      · simp [two]
    · rw [points]
      have red : guid ∈ tail.take 10 := by
        rw [← reds]
        exact (team 3).mem_iff.mp second
      rw [← take_append_drop 10 tail] at behind
      exact (pairwise_append.mp behind).2.2 guid red other rest

/-- The first of a ranking is in team 4, so no other one may be. -/
theorem not_green_of_ranked (sound : state.Sound) (sorts : state.Sorts (first :: tail))
    (ranked : (state.updateRank (first :: tail)).Ranked) :
    ∀ guid ∈ tail, (state.updateRank (first :: tail)).storage guid ≠ 4 := by
  intro guid listed four
  have moved := updateRank_moved sound sorts
  have people := moved.participants sorts
  have team := moved.team sorts 4
  have some : (state.updateRank (first :: tail)).participants ≠ [] := by
    rw [people]
    exact ne_nil_of_mem (sorts.perm.mem_iff.mp mem_cons_self)
  obtain ⟨champion, one, _⟩ := ranked.champion some
  rw [one] at team
  have firstIn := team.mem_iff.mpr (mem_filter.mpr ⟨mem_cons_self, decide_eq_true moved.green⟩)
  have otherIn := team.mem_iff.mpr (mem_filter.mpr ⟨mem_cons_of_mem _ listed, decide_eq_true four⟩)
  rw [mem_singleton] at firstIn otherIn
  exact (nodup_cons.mp (sorts.nodup sound)).1 (firstIn ▸ otherIn ▸ listed)

/-- A ranking that leaves the right teams was settled. -/
theorem settled_of_ranked (sound : state.Sound) (sorts : state.Sorts (first :: tail))
    (ranked : (state.updateRank (first :: tail)).Ranked) : state.Settled (first :: tail) := by
  have moved := updateRank_moved sound sorts
  have green := not_green_of_ranked sound sorts ranked
  refine ⟨fun few guid listed => ?_, fun twelve guid listed => ?_⟩
  · rw [← moved.few (by simp at few; omega) guid listed]
    exact green guid listed
  · -- the last of twelve would be an eleventh player of team 3
    have large : tail.length = 11 := by simpa using twelve
    have rest : guid ∈ tail.drop 10 := listed
    by_contra high
    have four := green guid (mem_of_mem_drop rest)
    have most := sound.teams guid
      (mem_participants.mp (sorts.perm.mem_iff.mp (mem_cons_of_mem _ (mem_of_mem_drop rest)))).1
    rw [moved.twelfth (by omega) guid rest] at four
    have three : (state.updateRank (first :: tail)).storage guid = 3 := by
      rw [moved.twelfth (by omega) guid rest]
      omega
    have red := moved.red (by omega)
    have seconds := ranked.seconds
    rw [(moved.team sorts 3).length_eq, filter_cons_of_neg (by simp [moved.green])] at seconds
    generalize state.updateRank (first :: tail) = after at three red seconds
    rw [← take_append_drop 10 tail, filter_append, length_append,
      filter_eq_self.mpr fun guid listed => decide_eq_true (red guid listed), length_take] at seconds
    have one : 0 < ((tail.drop 10).filter fun guid => after.storage guid = 3).length :=
      length_pos_of_mem (mem_filter.mpr ⟨rest, decide_eq_true three⟩)
    omega

/-- A ranking leaves the right teams exactly when it is settled. -/
theorem updateRank_ranked_iff (sound : state.Sound) {ranking : List UInt32} (sorts : state.Sorts ranking) :
    (state.updateRank ranking).Ranked ↔ state.Settled ranking := by
  cases ranking with
  | cons first tail => exact ⟨settled_of_ranked sound sorts, ranked_of_settled sound sorts⟩
  | nil =>
    have none : state.participants = [] := nil_perm.mp sorts.perm
    have team : ∀ number, state.team number = [] := fun number => by rw [team, none, filter_nil]
    have still : state.updateRank [] = state := rfl
    rw [still]
    refine iff_of_true ?_ ⟨nofun, nofun⟩
    refine ranked_of_teams sound.nodup (fun some => absurd none some) (by rw [team]; decide) fun large => ?_
    rw [none] at large
    exact absurd large (by decide)

end

/-! Runs. -/

section

variable {state : Duca}

theorem sound_start (storage ducaPoints : UInt32 → Int) : (start storage ducaPoints).Sound :=
  ⟨nodup_nil, nofun⟩

theorem Sound.setStorage (sound : state.Sound) (guid : UInt32) {value : Int} (low : value ≤ 4) :
    (state.setStorage guid value).Sound where
  nodup := sound.nodup
  teams other here := by
    by_cases same : other = guid
    · subst same
      simpa [Duca.setStorage] using low
    · simpa [Duca.setStorage, update_of_ne same] using sound.teams other here

theorem Sound.setPoints (sound : state.Sound) (guid : UInt32) (value : Int) : (state.setPoints guid value).Sound :=
  ⟨sound.nodup, sound.teams⟩

theorem Sound.addPlayerinTeam (sound : state.Sound) (guid : UInt32) {team : Int} (low : team ≤ 4) :
    (state.addPlayerinTeam guid team).Sound := by
  unfold Duca.addPlayerinTeam
  split_ifs
  · exact (sound.setStorage guid (by decide)).setStorage guid low
  · exact sound

theorem Sound.removePlayer (sound : state.Sound) (guid : UInt32) : (state.removePlayer guid).Sound := by
  unfold Duca.removePlayer
  split_ifs
  · exact (sound.setStorage guid (by decide)).setPoints guid 0
  · exact sound

theorem Sound.demote (sound : state.Sound) (guid : UInt32) : (state.demote guid).Sound := by
  unfold Duca.demote
  split_ifs
  · exact sound.addPlayerinTeam guid (by rcases @balanceTeam_cases state with one | two <;> omega)
  · exact sound

theorem Sound.foldl {move : Duca → UInt32 → Duca} (keeps : ∀ state : Duca, ∀ guid, state.Sound → (move state guid).Sound)
    (moved : List UInt32) : ∀ {state : Duca}, state.Sound → (moved.foldl move state).Sound := by
  induction moved with
  | nil => exact fun sound => sound
  | cons guid moved ih => exact fun sound => ih (keeps _ guid sound)

theorem Sound.updateRank (sound : state.Sound) (ranking : List UInt32) : (state.updateRank ranking).Sound := by
  have crowned : (state.crown ranking).Sound := by
    unfold crown
    split
    · exact sound
    · exact sound.addPlayerinTeam _ (by decide)
  have reddened : ((state.crown ranking).redden ranking).Sound := by
    unfold redden
    split_ifs
    · exact Sound.foldl (fun _ guid sound => sound.addPlayerinTeam guid (by decide)) _ crowned
    · exact crowned
  unfold Duca.updateRank demoteRest
  split_ifs
  · exact Sound.foldl (fun _ guid sound => sound.demote guid) _ reddened
  · exact reddened

theorem Sound.pay (players : List UInt32) : ∀ {state : Duca}, state.Sound → (pay players state).2.Sound := by
  induction players with
  | nil => exact fun sound => sound
  | cons guid players ih =>
    intro state sound
    rw [Duca.pay]
    by_cases inside : state.storage guid > 0
    · rw [if_pos inside]
      exact ih (sound.removePlayer guid)
    · rw [if_neg inside]
      exact ih sound

theorem Sound.scored (sound : state.Sound) (player killer : UInt32) : (state.scored player killer).Sound :=
  (sound.setPoints killer _).removePlayer player

theorem Sound.step (sound : state.Sound) (event : Event) : (event.step state).Sound := by
  cases event with
  | login guid =>
    change (state.login guid).Sound
    unfold login
    by_cases here : guid ∈ state.online
    · rwa [if_pos here]
    · rw [if_neg here]
      have nodup := sound.nodup.append (nodup_singleton guid) (by simpa using here)
      have others : ∀ other ∈ state.online ++ [guid], other ≠ guid → state.storage other ≤ 4 := by
        intro other listed apart
        rcases mem_append.mp listed with before | new
        · exact sound.teams other before
        · exact absurd (mem_singleton.mp new) apart
      dsimp only
      split_ifs with inside
      · refine ⟨nodup, fun other listed => ?_⟩
        by_cases same : other = guid
        · subst same
          simp [Duca.setStorage]
        · simpa [Duca.setStorage, update_of_ne same] using others other listed same
      · refine ⟨nodup, fun other listed => ?_⟩
        by_cases same : other = guid
        · subst same
          change state.storage other ≤ 4
          omega
        · exact others other listed same
  | logout guid forced =>
    change (state.logout guid forced).Sound
    unfold logout
    split_ifs
    · exact sound
    · exact ⟨sound.nodup.erase guid, fun other listed => sound.teams other (mem_of_mem_erase listed)⟩
  | join guid admitted =>
    change (state.join guid admitted).Sound
    unfold join
    split_ifs
    · exact (sound.addPlayerinTeam guid (by rcases @balanceTeam_cases state with one | two <;> omega)).setPoints guid 0
    · exact sound
  | leave guid ranking => exact (sound.removePlayer guid).updateRank ranking
  | prepareDeath player killer ranking =>
    change (if _ then _ else _ : Duca).Sound
    split_ifs
    · exact (sound.scored player killer).updateRank ranking
    · exact sound
  | updateRank ranking => exact sound.updateRank ranking
  | finishEvent ranking => exact Sound.pay _ (sound.updateRank ranking)

/-- The state in which an event calls `duca_updateRank` is sound. -/
theorem Sound.call (sound : state.Sound) {event : Event} {before : Duca} {ranking : List UInt32}
    (called : event.call state = some (before, ranking)) : before.Sound := by
  cases event with
  | login guid => cases called
  | logout guid forced => cases called
  | join guid admitted => cases called
  | leave guid order =>
    cases called
    exact sound.removePlayer guid
  | prepareDeath player killer order =>
    simp only [Event.call] at called
    split_ifs at called
    cases called
    exact sound.scored player killer
  | updateRank order =>
    cases called
    exact sound
  | finishEvent order =>
    cases called
    exact sound

theorem Run.sound {calls : List (Duca × List UInt32)} (run : Run state calls) : state.Sound := by
  induction run with
  | start storage ducaPoints => exact sound_start storage ducaPoints
  | step event _ _ ih => exact ih.step event

end

/-- In every run, a call of `duca_updateRank` leaves the right teams and prizes exactly when it is
settled. -/
theorem Run.ranked_iff {state : Duca} {calls : List (Duca × List UInt32)} (run : Run state calls) :
    ∀ call ∈ calls, (call.1.updateRank call.2).Ranked ↔ call.1.Settled call.2 := by
  induction run with
  | start => exact nofun
  | @step state calls event earlier sorts ih =>
    intro call listed
    rcases mem_append.mp listed with before | now
    · exact ih call before
    · rw [Option.mem_toList] at now
      exact updateRank_ranked_iff (earlier.sound.call now) (sorts call.1 call.2 now)

/-! Runs that are played from a list of events. -/

instance (state : Duca) (ranking : List UInt32) : Decidable (state.Sorts ranking) :=
  decidable_of_iff (ranking.Perm state.participants ∧
      ranking.Pairwise fun guid later => state.ducaPoints later ≤ state.ducaPoints guid)
    ⟨fun ⟨perm, sorted⟩ => ⟨perm, sorted⟩, fun ⟨perm, sorted⟩ => ⟨perm, sorted⟩⟩

/-- The state after events, and the calls on the way, if every ranking is one that `table.sort` may make. -/
def play : List Event → Duca → List (Duca × List UInt32) → Option (Duca × List (Duca × List UInt32))
  | [], state, calls => some (state, calls)
  | event :: later, state, calls =>
    match event.call state with
    | none => play later (event.step state) calls
    | some call => if call.1.Sorts call.2 then play later (event.step state) (calls ++ [call]) else none

theorem Run.play {events : List Event} : ∀ {state after : Duca} {calls all : List (Duca × List UInt32)},
    Run state calls → Duca.play events state calls = some (after, all) → Run after all := by
  induction events with
  | nil =>
    intro state after calls all run played
    cases played
    exact run
  | cons event later ih =>
    intro state after calls all run played
    rw [Duca.play] at played
    cases called : event.call state with
    | none =>
      rw [called] at played
      have next := run.step event (fun before ranking some => by rw [called] at some; cases some)
      rw [called, Option.toList_none, append_nil] at next
      exact ih next played
    | some call =>
      rw [called] at played
      dsimp only at played
      split_ifs at played with sorts
      have next := run.step event fun before ranking some => by
        rw [called] at some
        cases some
        exact sorts
      rw [called, Option.toList_some] at next
      exact ih next played

def duel : List Event := [.login 1, .login 2, .join 1 true, .join 2 true, .prepareDeath 2 1 [1]]

/-- In a duel the winner is ranked alone. -/
theorem ranked_duel :
    ∃ state calls, Run state calls ∧ calls.length = 1 ∧
      ∀ call ∈ calls, (call.1.updateRank call.2).Ranked ↔ call.1.Settled call.2 := by
  have one : (play duel (start (fun _ => -1) fun _ => -1) []).map (fun reached => reached.2.length) = some 1 := by decide
  obtain ⟨⟨state, calls⟩, played, length⟩ := Option.map_eq_some_iff.mp one
  have run := Run.play (Run.start _ _) played
  exact ⟨state, calls, run, length, run.ranked_iff⟩

/-- The first player kills the third, and then the second kills him twice. -/
def overtaking : List Event :=
  [.login 1, .login 2, .login 3, .join 1 true, .join 2 true, .join 3 true, .prepareDeath 3 1 [1, 2],
    .join 3 true, .prepareDeath 3 2 [1, 2], .join 3 true, .prepareDeath 3 2 [2, 1]]

/-- The champion who is overtaken stays one. -/
theorem not_ranked_overtaking :
    ∃ state calls, Run state calls ∧ ∃ call ∈ calls, call.2 = [2, 1] ∧ (call.1.updateRank call.2).team 4 = [1, 2] ∧
      ¬(call.1.updateRank call.2).Ranked := by
  have last : (play overtaking (start (fun _ => -1) fun _ => -1) []).bind (fun reached =>
      reached.2.getLast?.map fun call => (call.2, (call.1.updateRank call.2).team 4)) = some ([2, 1], [1, 2]) := by
    decide
  obtain ⟨⟨state, calls⟩, played, last⟩ := Option.bind_eq_some_iff.mp last
  obtain ⟨call, last, both⟩ := Option.map_eq_some_iff.mp last
  obtain ⟨order, champions⟩ := Prod.mk.inj both
  refine ⟨state, calls, Run.play (Run.start _ _) played, call, mem_of_getLast? last, order, champions, fun ranked => ?_⟩
  have some : (call.1.updateRank call.2).participants ≠ [] := by
    intro none
    rw [team, none] at champions
    cases champions
  obtain ⟨guid, one, _⟩ := ranked.champion some
  rw [champions] at one
  cases one

end Duca

end Styller
