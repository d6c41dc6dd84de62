import Mathlib.Data.List.Nodup
import Styller.Library.Run

/-! The waiting lists of the login: `clientLogin` with what it looks up and cleans up, and who waits for how many others. -/

namespace Styller.WaitList

open Library List

/-- An entry of a `WaitList`: the timeout and the player's guid. -/
structure Entry where
  first : Int
  second : UInt32
  deriving DecidableEq

structure Lists where
  priority : List Entry := []
  wait : List Entry := []
  deriving DecidableEq

/-- One of the two lists. -/
inductive Name where
  | priority
  | wait

/-- What happens to one of the lists. -/
def Lists.modify (lists : Lists) (change : List Entry → List Entry) : Name → Lists
  | .priority => { lists with priority := change lists.priority }
  | .wait => { lists with wait := change lists.wait }

def Lists.get (lists : Lists) : Name → List Entry
  | .priority => lists.priority
  | .wait => lists.wait

structure Client where
  guid : UInt32
  isPremium : Bool
  /-- The flag or the account type lets the player in at once. -/
  canAlwaysLogin : Bool := false

structure Server where
  /-- `OTSYS_TIME`. -/
  time : Int
  maxPlayers : Nat
  playersOnline : Nat

/-- `std::find_if` for the player's guid; the end of the list if there is no entry. -/
def find (guid : UInt32) (list : List Entry) : Nat := list.findIdx fun it => it.second == guid

/-- `findClient`: the list, the place of the entry in it, and the slot. -/
def findClient (guid : UInt32) (lists : Lists) : Name × Nat × Nat :=
  if find guid lists.priority ≠ lists.priority.length then
    (.priority, find guid lists.priority, lists.priority.length - find guid lists.priority + 1)
  else if find guid lists.wait ≠ lists.wait.length then
    (.wait, find guid lists.wait, lists.priority.length + (lists.wait.length - find guid lists.wait) + 1)
  else (.wait, lists.wait.length, lists.priority.length + lists.wait.length)

def getWaitTime (slot : Nat) : Nat :=
  if slot < 5 then 5 else if slot < 10 then 10 else if slot < 20 then 20 else if slot < 50 then 60 else 120

/-- The timeout is 15 seconds longer than the expected retry attempt. -/
def getTimeout (slot : Nat) : Nat := getWaitTime slot + 15

def cleanupList (time : Int) (list : List Entry) : List Entry := list.filter fun it => !decide (it.first ≤ time)

def cleanup (time : Int) (lists : Lists) : Lists := ⟨cleanupList time lists.priority, cleanupList time lists.wait⟩

/-- When an entry that is given a slot now times out. -/
def Server.timeout (server : Server) (slot : Nat) : Int := server.time + getTimeout slot * 1000

/-- `clientLogin` behind the cleanup: the slot, 0 for direct access, and the lists after that. -/
def admitClient (client : Client) (server : Server) (lists : Lists) : Nat × Lists :=
  if server.maxPlayers = 0 ∨
      (lists.priority.isEmpty ∧ lists.wait.isEmpty ∧ server.playersOnline < server.maxPlayers) then (0, lists)
  else
    let (name, it, currentSlot) := findClient client.guid lists
    if it ≠ (lists.get name).length then
      if server.playersOnline + currentSlot ≤ server.maxPlayers then (0, lists.modify (·.eraseIdx it) name)
      else
        -- the second component of the entry is the guid
        (currentSlot, lists.modify (·.modify it fun entry =>
          { entry with second := UInt32.ofInt (server.timeout currentSlot) }) name)
    else if client.isPremium then
      let currentSlot := lists.priority.length + 1
      (currentSlot, lists.modify (· ++ [⟨server.timeout currentSlot, client.guid⟩]) .priority)
    else
      let currentSlot := lists.priority.length + lists.wait.length + 1
      (currentSlot, lists.modify (· ++ [⟨server.timeout currentSlot, client.guid⟩]) .wait)

def clientLogin (client : Client) (server : Server) (lists : Lists) : Nat × Lists :=
  if client.canAlwaysLogin then (0, lists) else admitClient client server (cleanup server.time lists)

/-- The guids in the order in which they are served: all priority entries first. -/
def Lists.guids (lists : Lists) : List UInt32 := (lists.priority ++ lists.wait).map Entry.second

structure Attempt where
  client : Client
  server : Server
  limited : server.maxPlayers ≠ 0
  full : server.maxPlayers ≤ server.playersOnline

namespace Attempt
variable (attempt : Attempt)

def next (lists : Lists) : Lists := (clientLogin attempt.client attempt.server lists).2

/-- The entries that have not timed out. -/
def before (lists : Lists) : Lists := cleanup attempt.server.time lists

def extend (slot : Nat) (entry : Entry) : Entry :=
  if entry.second = attempt.client.guid then { entry with first := attempt.server.timeout slot } else entry

end Attempt

/-- What an attempt of a player that does not always get in has to do: an entry that has not timed out stays where it is and is
extended, the player is told its place among those that are to be served, and no guid has two entries. -/
structure Right (lists : Lists) (attempt : Attempt) : Prop where
  keeps : attempt.client.canAlwaysLogin = false → attempt.client.guid ∈ (attempt.before lists).guids →
    attempt.next lists =
      ⟨(attempt.before lists).priority.map (attempt.extend (clientLogin attempt.client attempt.server lists).1),
        (attempt.before lists).wait.map (attempt.extend (clientLogin attempt.client attempt.server lists).1)⟩
  slot : attempt.client.canAlwaysLogin = false → (clientLogin attempt.client attempt.server lists).1 =
    (attempt.next lists).guids.idxOf attempt.client.guid + 1
  once : (attempt.next lists).guids.Nodup

/-- The entry is the one in the middle of the list, has the timeout that it is to get, and its guid is the one that the
timeout makes. -/
def Coincides (attempt : Attempt) (ahead : Nat) (list : List Entry) : Prop :=
  ∃ front entry back, list = front ++ entry :: back ∧ entry.second = attempt.client.guid ∧ front.length = back.length + 1 ∧
    entry.first = attempt.server.timeout (ahead + front.length + 1) ∧ UInt32.ofInt entry.first = attempt.client.guid

/-- The player always gets in or has no entry that has not timed out; any other one is lost but for a coincidence. -/
def Clear (lists : Lists) (attempt : Attempt) : Prop :=
  attempt.client.canAlwaysLogin ∨ attempt.client.guid ∉ (attempt.before lists).guids ∨
    Coincides attempt 0 (attempt.before lists).priority ∨
      Coincides attempt (attempt.before lists).priority.length (attempt.before lists).wait

section
variable {guid : UInt32} {list front back : List Entry} {entry : Entry} {lists : Lists}

theorem find_absent (absent : guid ∉ list.map Entry.second) : find guid list = list.length := by
  unfold find
  rw [findIdx_eq_length]
  intro it listed
  rw [beq_eq_false_iff_ne]
  exact fun same => absent (mem_map.mpr ⟨it, listed, same⟩)

theorem find_first (absent : guid ∉ front.map Entry.second) (hit : entry.second = guid) :
    find guid (front ++ entry :: back) = front.length := by
  have ahead := find_absent absent
  unfold find at ahead ⊢
  rw [findIdx_append, ahead, if_neg (Nat.lt_irrefl _), findIdx_cons, hit, beq_self_eq_true]
  exact Nat.zero_add _

theorem exists_first (listed : guid ∈ list.map Entry.second) : ∃ front entry back, list = front ++ entry :: back ∧
    entry.second = guid ∧ guid ∉ front.map Entry.second := by
  induction list with
  | nil => cases listed
  | cons head rest ih =>
    by_cases here : head.second = guid
    · exact ⟨[], head, rest, rfl, here, not_mem_nil⟩
    · have later : guid ∈ rest.map Entry.second := (mem_cons.mp listed).resolve_left fun same => here same.symm
      obtain ⟨front, entry, back, rfl, hit, absent⟩ := ih later
      refine ⟨head :: front, entry, back, rfl, hit, ?_⟩
      rw [map_cons, mem_cons]
      rintro (same | member)
      · exact here same.symm
      · exact absent member

theorem idxOf_first (absent : guid ∉ front.map Entry.second) (hit : entry.second = guid) :
    ((front ++ entry :: back).map Entry.second).idxOf guid = front.length := by
  rw [map_append, map_cons, hit, idxOf_append_of_notMem absent, idxOf_cons_self, length_map,
    Nat.add_zero]

/-- The entries that are served before those of a list. -/
def Lists.ahead (lists : Lists) : Name → Nat
  | .priority => 0
  | .wait => lists.priority.length

/-- Where the entry of a guid is in the lists. -/
structure Spot (lists : Lists) (guid : UInt32) (name : Name) (front : List Entry) (entry : Entry) (back : List Entry) : Prop where
  place : lists.get name = front ++ entry :: back
  hit : entry.second = guid
  first : guid ∉ front.map Entry.second
  other : ∀ other ≠ name, guid ∉ (lists.get other).map Entry.second

theorem exists_spot (once : lists.guids.Nodup) (listed : guid ∈ lists.guids) :
    ∃ name front entry back, Spot lists guid name front entry back := by
  unfold Lists.guids at once listed
  rw [map_append] at once listed
  have apart := disjoint_of_nodup_append once
  rcases mem_append.mp listed with priority | wait
  · obtain ⟨front, entry, back, place, hit, first⟩ := exists_first priority
    refine ⟨.priority, front, entry, back, place, hit, first, ?_⟩
    intro other different
    cases other with
    | priority => exact absurd rfl different
    | wait => exact apart priority
  · obtain ⟨front, entry, back, place, hit, first⟩ := exists_first wait
    refine ⟨.wait, front, entry, back, place, hit, first, ?_⟩
    intro other different
    cases other with
    | priority => exact fun priority => apart priority wait
    | wait => exact absurd rfl different

variable {name : Name}

theorem findClient_spot (spot : Spot lists guid name front entry back) :
    findClient guid lists = (name, front.length, lists.ahead name + back.length + 2) := by
  have here : find guid (lists.get name) = front.length := by
    rw [spot.place]
    exact find_first spot.first spot.hit
  have length : (lists.get name).length = front.length + (back.length + 1) := by
    rw [spot.place, length_append, length_cons]
  have inside : find guid (lists.get name) ≠ (lists.get name).length := by
    omega
  unfold findClient
  cases name with
  | priority =>
    simp only [Lists.get] at here length inside
    rw [if_pos inside, here, length]
    simp only [Lists.ahead, Prod.mk.injEq, true_and]
    omega
  | wait =>
    have absent : find guid lists.priority = lists.priority.length := find_absent (spot.other .priority nofun)
    simp only [Lists.get] at here length inside
    rw [if_neg (not_not.mpr absent), if_pos inside, here, length]
    simp only [Lists.ahead, Prod.mk.injEq, true_and]
    omega

theorem findClient_absent (absent : guid ∉ lists.guids) :
    findClient guid lists = (.wait, lists.wait.length, lists.priority.length + lists.wait.length) := by
  unfold Lists.guids at absent
  rw [map_append, mem_append] at absent
  have priority := find_absent fun listed => absent (.inl listed)
  have wait := find_absent fun listed => absent (.inr listed)
  unfold findClient
  rw [if_neg (not_not.mpr priority), if_neg (not_not.mpr wait)]

def Lists.told (lists : Lists) (name : Name) (back : List Entry) : Nat := lists.ahead name + back.length + 2

variable {attempt : Attempt}

theorem Attempt.no_access (lists : Lists) : ¬ (attempt.server.maxPlayers = 0 ∨
    (lists.priority.isEmpty ∧ lists.wait.isEmpty ∧ attempt.server.playersOnline < attempt.server.maxPlayers)) := by
  rintro (unlimited | ⟨-, -, room⟩)
  · exact attempt.limited unlimited
  · exact absurd attempt.full (Nat.not_le.mpr room)

theorem modify_middle (change : Entry → Entry) : (front ++ entry :: back).modify front.length change = front ++ change entry :: back := by
  induction front with
  | nil => rfl
  | cons head front ih =>
    rw [cons_append, length_cons, modify_succ_cons, ih, cons_append]

theorem Lists.modify_eq {change : List Entry → List Entry} (changed : change (lists.get name) = list) :
    lists.modify change name = lists.modify (fun _ => list) name := by
  cases name with
  | priority | wait =>
    rw [← changed]
    rfl

/-- A retry overwrites the guid in the player's entry. -/
theorem admitClient_spot (spot : Spot lists attempt.client.guid name front entry back) :
    admitClient attempt.client attempt.server lists = (lists.told name back, lists.modify (fun _ =>
      front ++ { entry with second := UInt32.ofInt (attempt.server.timeout (lists.told name back)) } :: back) name) := by
  have full := attempt.full
  have inside : front.length ≠ (lists.get name).length := by
    rw [spot.place, length_append, length_cons]
    omega
  have crowded : ¬ attempt.server.playersOnline + (lists.ahead name + back.length + 2) ≤ attempt.server.maxPlayers := by
    omega
  have changed : (lists.get name).modify front.length (fun entry =>
      { entry with second := UInt32.ofInt (attempt.server.timeout (lists.told name back)) }) =
        front ++ { entry with second := UInt32.ofInt (attempt.server.timeout (lists.told name back)) } :: back := by
    rw [spot.place]
    exact modify_middle _
  unfold admitClient
  rw [if_neg (Attempt.no_access lists), findClient_spot spot]
  simp only
  rw [if_pos inside, if_neg crowded]
  exact congrArg (Prod.mk _) (Lists.modify_eq changed)

/-- A new entry is put behind the others of its list. -/
theorem admitClient_absent (absent : attempt.client.guid ∉ lists.guids) :
    ∃ name, admitClient attempt.client attempt.server lists = (lists.ahead name + (lists.get name).length + 1,
      lists.modify (· ++ [⟨attempt.server.timeout (lists.ahead name + (lists.get name).length + 1), attempt.client.guid⟩]) name) := by
  unfold admitClient
  rw [if_neg (Attempt.no_access lists), findClient_absent absent]
  simp only [Lists.get, ne_eq, not_true_eq_false, if_false]
  by_cases premium : attempt.client.isPremium = true
  · refine ⟨.priority, ?_⟩
    rw [if_pos premium, Lists.ahead, Nat.zero_add]
  · refine ⟨.wait, ?_⟩
    rw [if_neg premium, Lists.ahead]

theorem extend_absent (slot : Nat) (absent : attempt.client.guid ∉ list.map Entry.second) : list.map (attempt.extend slot) = list := by
  have same : list.map (attempt.extend slot) = list.map id := by
    apply map_congr_left
    intro entry listed
    exact if_neg fun same => absent (mem_map.mpr ⟨entry, listed, same⟩)
  rw [same, map_id]

theorem extend_spot (spot : Spot lists attempt.client.guid name front entry back)
    (last : attempt.client.guid ∉ back.map Entry.second) (slot : Nat) :
    (⟨lists.priority.map (attempt.extend slot), lists.wait.map (attempt.extend slot)⟩ : Lists) =
      lists.modify (fun _ => front ++ { entry with first := attempt.server.timeout slot } :: back) name := by
  have changed : (lists.get name).map (attempt.extend slot) =
      front ++ { entry with first := attempt.server.timeout slot } :: back := by
    rw [spot.place, map_append, map_cons, extend_absent slot spot.first, extend_absent slot last]
    congr 2
    exact if_pos spot.hit
  cases name with
  | priority =>
    have same := extend_absent slot (spot.other .wait nofun)
    simp only [Lists.get] at same changed
    rw [same, changed]
    rfl
  | wait =>
    have same := extend_absent slot (spot.other .priority nofun)
    simp only [Lists.get] at same changed
    rw [same, changed]
    rfl

theorem Lists.modify_inj {other : List Entry} (same : lists.modify (fun _ => list) name = lists.modify (fun _ => other) name) :
    list = other := by
  cases name with
  | priority => exact congrArg Lists.priority same
  | wait => exact congrArg Lists.wait same

/-- A guid's place among those that are to be served. -/
theorem idxOf_spot (spot : Spot lists guid name front entry back) :
    lists.guids.idxOf guid = lists.ahead name + front.length := by
  have here : ((lists.get name).map Entry.second).idxOf guid = front.length := by
    rw [spot.place]
    exact idxOf_first spot.first spot.hit
  have listed : guid ∈ (lists.get name).map Entry.second := by
    rw [spot.place, map_append, map_cons, spot.hit]
    exact mem_append_right _ mem_cons_self
  unfold Lists.guids
  rw [map_append]
  cases name with
  | priority =>
    simp only [Lists.get] at here listed
    rw [idxOf_append_of_mem listed, Lists.ahead, Nat.zero_add, here]
  | wait =>
    have absent := spot.other .priority nofun
    simp only [Lists.get] at here absent
    rw [idxOf_append_of_notMem absent, Lists.ahead, length_map, here]

def Lists.push (lists : Lists) (name : Name) (entry : Entry) : Lists := lists.modify (· ++ [entry]) name

theorem spot_push (absent : guid ∉ lists.guids) (hit : entry.second = guid) :
    Spot (lists.push name entry) guid name (lists.get name) entry [] := by
  unfold Lists.guids at absent
  rw [map_append, mem_append, not_or] at absent
  cases name with
  | priority =>
    refine ⟨rfl, hit, absent.1, ?_⟩
    intro other different
    cases other with
    | priority => exact absurd rfl different
    | wait => exact absent.2
  | wait =>
    refine ⟨rfl, hit, absent.2, ?_⟩
    intro other different
    cases other with
    | priority => exact absent.1
    | wait => exact absurd rfl different

theorem ahead_push : (lists.push name entry).ahead name = lists.ahead name := by
  cases name with
  | priority | wait => rfl

theorem guids_push : (lists.push name entry).guids.Perm (entry.second :: lists.guids) := by
  unfold Lists.guids Lists.push
  rw [← map_cons]
  apply List.Perm.map
  cases name with
  | priority =>
    simp only [Lists.modify, append_assoc, singleton_append]
    exact perm_middle
  | wait =>
    simp only [Lists.modify, ← append_assoc]
    exact perm_append_singleton entry _

theorem modify_same (place : lists.get name = list) : lists.modify (fun _ => list) name = lists := by
  rw [← place]
  cases name with
  | priority | wait => rfl

theorem Spot.listed (spot : Spot lists guid name front entry back) : guid ∈ lists.guids := by
  have here : guid ∈ (lists.get name).map Entry.second := by
    rw [spot.place, map_append, map_cons, spot.hit]
    exact mem_append_right _ mem_cons_self
  unfold Lists.guids
  rw [map_append, mem_append]
  cases name with
  | priority => exact .inl here
  | wait => exact .inr here

theorem Spot.last (spot : Spot lists guid name front entry back) (once : lists.guids.Nodup) : guid ∉ back.map Entry.second := by
  unfold Lists.guids at once
  rw [map_append] at once
  have here : ((lists.get name).map Entry.second).Nodup := by
    cases name with
    | priority => exact once.of_append_left
    | wait => exact once.of_append_right
  rw [spot.place, map_append, map_cons, spot.hit] at here
  exact (nodup_cons.mp here.of_append_right).1

theorem spot_of_place (once : lists.guids.Nodup) (place : lists.get name = front ++ entry :: back) :
    Spot lists entry.second name front entry back := by
  have here : entry.second ∈ (lists.get name).map Entry.second := by
    rw [place, map_append, map_cons]
    exact mem_append_right _ mem_cons_self
  unfold Lists.guids at once
  rw [map_append] at once
  have apart := disjoint_of_nodup_append once
  refine ⟨place, rfl, ?_, ?_⟩
  · have inside : ((lists.get name).map Entry.second).Nodup := by
      cases name with
      | priority => exact once.of_append_left
      | wait => exact once.of_append_right
    rw [place, map_append, map_cons] at inside
    intro ahead
    exact disjoint_of_nodup_append inside ahead mem_cons_self
  · intro other different
    cases name with
    | priority =>
      cases other with
      | priority => exact absurd rfl different
      | wait => exact apart here
    | wait =>
      cases other with
      | priority => exact fun priority => apart priority here
      | wait => exact absurd rfl different

/-- An entry in the middle is found there again. -/
theorem Spot.unique {name' : Name} {front' back' : List Entry} {entry' : Entry} (spot : Spot lists guid name front entry back)
    (other : Spot lists guid name' front' entry' back') : name' = name ∧ front' = front ∧ entry' = entry ∧ back' = back := by
  have listed : guid ∈ (lists.get name').map Entry.second := by
    rw [other.place, map_append, map_cons, other.hit]
    exact mem_append_right _ mem_cons_self
  have same : name' = name := by
    by_contra different
    exact spot.other name' different listed
  subst same
  have length : front'.length = front.length := by
    rw [← find_first other.first other.hit, ← other.place, spot.place, find_first spot.first spot.hit]
  have parts := append_inj (other.place.symm.trans spot.place) length
  exact ⟨rfl, parts.1, List.cons.inj parts.2⟩

end

section
variable {lists : Lists} {attempt : Attempt}

theorem nodup_before (once : lists.guids.Nodup) : (attempt.before lists).guids.Nodup := by
  have fewer : List.Sublist (attempt.before lists).guids lists.guids := by
    apply List.Sublist.map
    exact List.Sublist.append filter_sublist filter_sublist
  exact fewer.nodup once

theorem clientLogin_limited (limited : attempt.client.canAlwaysLogin = false) :
    clientLogin attempt.client attempt.server lists = admitClient attempt.client attempt.server (attempt.before lists) := by
  rw [clientLogin, limited]
  exact if_neg Bool.false_ne_true

theorem right_of_always (once : lists.guids.Nodup) (always : attempt.client.canAlwaysLogin = true) : Right lists attempt := by
  constructor
  · intro limited
    exact absurd always (Bool.eq_false_iff.mp limited)
  · intro limited
    exact absurd always (Bool.eq_false_iff.mp limited)
  · rw [Attempt.next, clientLogin, always]
    exact once

/-- A player without an entry gets the last place of its list. -/
theorem right_of_absent (once : lists.guids.Nodup) (limited : attempt.client.canAlwaysLogin = false)
    (absent : attempt.client.guid ∉ (attempt.before lists).guids) : Right lists attempt := by
  obtain ⟨name, answer⟩ := admitClient_absent absent
  rw [← clientLogin_limited limited] at answer
  have next : attempt.next lists = (attempt.before lists).push name
      ⟨attempt.server.timeout ((attempt.before lists).ahead name + ((attempt.before lists).get name).length + 1),
        attempt.client.guid⟩ := congrArg Prod.snd answer
  constructor
  · intro _ listed
    exact absurd listed absent
  · intro _
    rw [next, idxOf_spot (spot_push absent rfl), ahead_push]
    exact congrArg Prod.fst answer
  · rw [next, guids_push.nodup_iff, nodup_cons]
    exact ⟨absent, nodup_before once⟩

/-- A retry does what it has to do just if nothing of the entry changes. -/
theorem right_of_spot {name : Name} {front back : List Entry} {entry : Entry} (once : lists.guids.Nodup)
    (limited : attempt.client.canAlwaysLogin = false)
    (spot : Spot (attempt.before lists) attempt.client.guid name front entry back) :
    Right lists attempt ↔ front.length = back.length + 1 ∧
      entry.first = attempt.server.timeout ((attempt.before lists).ahead name + front.length + 1) ∧
        UInt32.ofInt entry.first = attempt.client.guid := by
  have answer := admitClient_spot spot
  rw [← clientLogin_limited limited] at answer
  have nodup : (attempt.before lists).guids.Nodup := nodup_before once
  have slot : (clientLogin attempt.client attempt.server lists).1 = (attempt.before lists).told name back := congrArg Prod.fst answer
  have next : attempt.next lists = (attempt.before lists).modify (fun _ => front ++ { entry with
      second := UInt32.ofInt (attempt.server.timeout ((attempt.before lists).told name back)) } :: back) name :=
    congrArg Prod.snd answer
  have stays : ∀ entry', entry' = entry → (attempt.before lists).modify (fun _ => front ++ entry' :: back) name = attempt.before lists := by
    rintro entry' rfl
    exact modify_same spot.place
  constructor
  · intro right
    have keeps := right.keeps limited spot.listed
    rw [next, slot, extend_spot spot (spot.last nodup)] at keeps
    have same := (List.cons.inj (append_cancel_left (Lists.modify_inj keeps))).1
    rw [Entry.mk.injEq] at same
    obtain ⟨timeout, guid⟩ := same
    have place := right.slot limited
    rw [next, stays _ (by rw [guid]), slot, idxOf_spot spot, Lists.told] at place
    have middle : front.length = back.length + 1 := by omega
    rw [middle]
    refine ⟨rfl, timeout, ?_⟩
    rw [timeout, guid, spot.hit]
  · rintro ⟨middle, timeout, guid⟩
    have told : (attempt.before lists).told name back = (attempt.before lists).ahead name + front.length + 1 := by
      rw [Lists.told, middle]
      rfl
    rw [told, ← timeout, guid, ← spot.hit, stays _ rfl] at next
    constructor
    · intro _ _
      rw [next, slot, extend_spot spot (spot.last nodup), told, ← timeout, stays _ rfl]
    · intro _
      rw [next, slot, idxOf_spot spot, told]
    · rw [next]
      exact nodup

theorem coincides_spot {name : Name} {front back : List Entry} {entry : Entry} (once : lists.guids.Nodup)
    (spot : Spot lists attempt.client.guid name front entry back) :
    (Coincides attempt 0 lists.priority ∨ Coincides attempt lists.priority.length lists.wait) ↔
      front.length = back.length + 1 ∧ entry.first = attempt.server.timeout (lists.ahead name + front.length + 1) ∧
        UInt32.ofInt entry.first = attempt.client.guid := by
  have either : ∀ other, Coincides attempt (lists.ahead other) (lists.get other) → front.length = back.length + 1 ∧
      entry.first = attempt.server.timeout (lists.ahead name + front.length + 1) ∧
        UInt32.ofInt entry.first = attempt.client.guid := by
    rintro other ⟨front', entry', back', place, hit, rest⟩
    have found := spot_of_place once place
    rw [hit] at found
    obtain ⟨rfl, rfl, rfl, rfl⟩ := spot.unique found
    exact rest
  constructor
  · rintro (priority | wait)
    · exact either .priority priority
    · exact either .wait wait
  · intro middle
    cases name with
    | priority => exact .inl ⟨front, entry, back, spot.place, spot.hit, middle⟩
    | wait => exact .inr ⟨front, entry, back, spot.place, spot.hit, middle⟩

theorem right_iff_clear (once : lists.guids.Nodup) : Right lists attempt ↔ Clear lists attempt := by
  cases limited : attempt.client.canAlwaysLogin with
  | true => exact iff_of_true (right_of_always once limited) (.inl limited)
  | false =>
    by_cases listed : attempt.client.guid ∈ (attempt.before lists).guids
    · have nodup : (attempt.before lists).guids.Nodup := nodup_before once
      obtain ⟨name, front, entry, back, spot⟩ := exists_spot nodup listed
      rw [right_of_spot once limited spot, ← coincides_spot nodup spot, Clear, limited,
        or_iff_right Bool.false_ne_true, or_iff_right (not_not.mpr listed)]
    · exact iff_of_true (right_of_absent once limited listed) (.inr (.inl listed))

/-- In a run of attempts while the server is full, every player that retries in time keeps its entry, with the timeout extended,
every player is told how many are served before it and one more, and no guid has two entries, just if no player retries before
its entry times out, but for one that is in the middle of its list with the new timeout already and a guid that is made of it. -/
theorem retries_along_iff (attempts : List Attempt) :
    Throughout (fun lists attempt => attempt.next lists) Right {} attempts ↔
      Throughout (fun lists attempt => attempt.next lists) Clear {} attempts := by
  have kept : ∀ lists attempt, lists.guids.Nodup → Right lists attempt → (attempt.next lists).guids.Nodup :=
    fun _ _ _ right => right.once
  have correct : ∀ lists attempt, lists.guids.Nodup → (Right lists attempt ↔ Clear lists attempt) :=
    fun _ _ once => right_iff_clear once
  have start : ({} : Lists).guids.Nodup := nodup_nil
  exact throughout_iff kept correct start attempts

/-- A free player comes twice within its time. -/
def impatient : Attempt where
  client := ⟨7, false, false⟩
  server := ⟨1000, 1, 1⟩
  limited := Nat.one_ne_zero
  full := Nat.le_refl 1

/-- The guid in the entry that it waits with is overwritten with the new timeout. -/
theorem impatient_lost : ¬ ∀ attempts, Throughout (fun lists attempt => attempt.next lists) Right {} attempts := by
  intro always
  have second : Right (impatient.next {}) impatient := (always [impatient, impatient]).2.1
  have keeps := second.keeps rfl (by decide)
  exact absurd keeps (by decide)

end

end Styller.WaitList
