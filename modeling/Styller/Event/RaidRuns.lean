import Styller.Event.Raids

/-! The runs of the server in which no two raids overlap and none gets stuck. -/

namespace Styller.Raids

open Library List

section
variable {raids : Raids} {ptr : RaidPtr}

@[simp] theorem setRaid_self (raid : Raid) : (raids.setRaid ptr raid).raids ptr = raid := Function.update_self _ _ _

theorem setRaid_of_ne {raid : Raid} {other : RaidPtr} (different : other ≠ ptr) :
    (raids.setRaid ptr raid).raids other = raids.raids other := Function.update_of_ne different _ _

/-- The tasks and the ids that the server remembers of them. -/
structure Wf (raids : Raids) : Prop where
  distinct : (raids.pending.map PendingRaidTask.eventId).Nodup
  positive : ∀ task ∈ raids.pending, 0 < task.eventId
  fresh : ∀ task ∈ raids.pending, task.eventId ≤ raids.lastEventId
  known : ∀ ptr, (raids.raids ptr).nextEventEvent ≤ raids.lastEventId
  check : raids.checkRaidsEvent ≤ raids.lastEventId
  apart : ∀ task ∈ raids.pending, task.raid ≠ none → task.eventId ≠ raids.checkRaidsEvent
  own : ∀ task ∈ raids.pending, ∀ ptr, task.raid = some ptr →
    ∀ other, (raids.raids other).nextEventEvent = task.eventId ↔ other = ptr

/-- What holds of the server as long as it is sound. -/
structure Good (raids : Raids) : Prop where
  wf : raids.Wf
  sound : raids.Sound
  begun : ∀ ptr ∈ raids.raidList, raids.running ≠ some ptr → (raids.raids ptr).nextEvent = 0

theorem good_initial : initial.Good where
  wf :=
    { distinct := .nil
      positive := nofun
      fresh := nofun
      known := fun _ => Nat.le_refl 0
      check := Nat.le_refl 0
      apart := nofun
      own := nofun }
  sound := rfl
  begun := nofun

/-- Only the tasks and the ids count. -/
theorem Wf.congr {other : Raids} (wf : raids.Wf) (pending : other.pending = raids.pending)
    (last : other.lastEventId = raids.lastEventId) (check : other.checkRaidsEvent = raids.checkRaidsEvent)
    (ids : ∀ ptr, (other.raids ptr).nextEventEvent = (raids.raids ptr).nextEventEvent) : other.Wf where
  distinct := by rw [pending]; exact wf.distinct
  positive := by rw [pending]; exact wf.positive
  fresh := by rw [pending, last]; exact wf.fresh
  known := by intro ptr; rw [ids, last]; exact wf.known ptr
  check := by rw [check, last]; exact wf.check
  apart := by rw [pending, check]; exact wf.apart
  own := by
    rw [pending]
    intro task listed ptr here other
    rw [ids]
    exact wf.own task listed ptr here other

theorem setRaid_nextEventEvent {raid : Raid} (same : raid.nextEventEvent = (raids.raids ptr).nextEventEvent) (other : RaidPtr) :
    ((raids.setRaid ptr raid).raids other).nextEventEvent = (raids.raids other).nextEventEvent := by
  by_cases here : other = ptr
  · subst here
    rw [setRaid_self, same]
  · rw [setRaid_of_ne here]

theorem wf_setRaid (wf : raids.Wf) {raid : Raid} (same : raid.nextEventEvent = (raids.raids ptr).nextEventEvent) :
    (raids.setRaid ptr raid).Wf :=
  wf.congr rfl rfl rfl (setRaid_nextEventEvent same)

theorem mem_executing : ptr ∈ raids.executing ↔ ∃ task ∈ raids.pending, task.raid = some ptr := mem_filterMap

/-- Fewer tasks of the same server. -/
theorem wf_filter (wf : raids.Wf) (kept : PendingRaidTask → Bool) : ({ raids with pending := raids.pending.filter kept } : Raids).Wf where
  distinct := wf.distinct.sublist (filter_sublist.map _)
  positive := fun task listed => wf.positive task (mem_filter.mp listed).1
  fresh := fun task listed => wf.fresh task (mem_filter.mp listed).1
  known := wf.known
  check := wf.check
  apart := fun task listed => wf.apart task (mem_filter.mp listed).1
  own := fun task listed => wf.own task (mem_filter.mp listed).1

theorem nodup_append_fresh (wf : raids.Wf) (task : RaidTask) (delay : UInt32) :
    ((raids.addEvent task delay).pending.map PendingRaidTask.eventId).Nodup := by
  rw [addEvent, map_append, nodup_append]
  refine ⟨wf.distinct, pairwise_singleton _ _, ?_⟩
  intro id listed other new
  obtain ⟨old, member, rfl⟩ := mem_map.mp listed
  cases mem_singleton.mp new
  exact Nat.ne_of_lt (Nat.lt_succ_of_le (wf.fresh old member))

theorem mem_addEvent {task : PendingRaidTask} {added : RaidTask} {delay : UInt32}
    (listed : task ∈ (raids.addEvent added delay).pending) :
    task ∈ raids.pending ∨ task = ⟨raids.lastEventId + 1, added, delay⟩ := by
  rcases mem_append.mp listed with old | new
  · exact .inl old
  · exact .inr (mem_singleton.mp new)

theorem wf_scheduleCheck (wf : raids.Wf) : raids.scheduleCheck.Wf where
  distinct := nodup_append_fresh wf _ _
  positive := by
    intro task listed
    rcases mem_addEvent listed with old | rfl
    · exact wf.positive task old
    · exact Nat.succ_pos _
  fresh := by
    intro task listed
    rcases mem_addEvent listed with old | rfl
    · exact Nat.le_succ_of_le (wf.fresh task old)
    · exact Nat.le_refl _
  known := fun ptr => Nat.le_succ_of_le (wf.known ptr)
  check := Nat.le_refl _
  apart := by
    intro task listed raid
    rcases mem_addEvent listed with old | rfl
    · exact Nat.ne_of_lt (Nat.lt_succ_of_le (wf.fresh task old))
    · exact absurd rfl raid
  own := by
    intro task listed ptr here
    rcases mem_addEvent listed with old | rfl
    · exact wf.own task old ptr here
    · cases here

theorem executing_scheduleCheck : raids.scheduleCheck.executing = raids.executing := by
  rw [executing, scheduleCheck, addEvent, filterMap_append]
  exact append_nil _

theorem executing_schedule (raidEvent : RaidEvent) (ticks : UInt32) :
    (raids.schedule ptr raidEvent ticks).executing = raids.executing ++ [ptr] := by
  rw [executing, schedule, setRaid, addEvent, filterMap_append]
  rfl

/-- The task of a raid is remembered, if it is the only one. -/
theorem wf_schedule (wf : raids.Wf) (quiet : raids.executing = []) (raidEvent : RaidEvent) (ticks : UInt32) :
    (raids.schedule ptr raidEvent ticks).Wf := by
  have ids : ∀ other, ((raids.schedule ptr raidEvent ticks).raids other).nextEventEvent =
      if other = ptr then raids.lastEventId + 1 else (raids.raids other).nextEventEvent := by
    intro other
    unfold schedule setRaid
    by_cases here : other = ptr
    · subst here
      simp [addEvent]
    · simp [here, addEvent]
  exact {
    distinct := nodup_append_fresh wf _ _
    positive := by
      intro task listed
      rcases mem_addEvent listed with old | rfl
      · exact wf.positive task old
      · exact Nat.succ_pos _
    fresh := by
      intro task listed
      rcases mem_addEvent listed with old | rfl
      · exact Nat.le_succ_of_le (wf.fresh task old)
      · exact Nat.le_refl _
    known := by
      intro other
      rw [ids]
      split
      · exact Nat.le_refl _
      · exact Nat.le_succ_of_le (wf.known other)
    check := Nat.le_succ_of_le wf.check
    apart := by
      intro task listed raid
      rcases mem_addEvent listed with old | rfl
      · exact wf.apart task old raid
      · exact Nat.ne_of_gt (Nat.lt_succ_of_le wf.check)
    own := by
      intro task listed raid here other
      rw [ids]
      rcases mem_addEvent listed with old | rfl
      · have running : raid ∈ raids.executing := mem_executing.mpr ⟨task, old, here⟩
        rw [quiet] at running
        cases running
      · cases here
        split
        next same => exact iff_of_true rfl same
        next different => exact iff_of_false (Nat.ne_of_lt (Nat.lt_succ_of_le (wf.known other))) different }

end

section
variable {raids : Raids} {ptr : RaidPtr}

theorem startRaid_raidList : (raids.startRaid ptr).raidList = raids.raidList := by
  unfold startRaid
  split <;> rfl

theorem startRaid_running : (raids.startRaid ptr).running = raids.running := by
  unfold startRaid
  split <;> rfl

theorem schedule_nextEvent (raidEvent : RaidEvent) (ticks : UInt32) (other : RaidPtr) :
    ((raids.schedule ptr raidEvent ticks).raids other).nextEvent = (raids.raids other).nextEvent := by
  unfold schedule
  by_cases here : other = ptr
  · subst here
    rw [setRaid_self]
    rfl
  · rw [setRaid_of_ne here]
    rfl

theorem startRaid_nextEvent (other : RaidPtr) :
    ((raids.startRaid ptr).raids other).nextEvent = (raids.raids other).nextEvent := by
  unfold startRaid
  split
  · rw [schedule_nextEvent]
    by_cases here : other = ptr
    · subst here
      rw [setRaid_self]
    · rw [setRaid_of_ne here]
  · rfl

theorem wf_startRaid (wf : raids.Wf) (quiet : raids.executing = []) : (raids.startRaid ptr).Wf := by
  unfold startRaid
  split
  · apply wf_schedule
    · exact wf_setRaid wf rfl
    · exact quiet
  · exact wf

theorem executing_startRaid (quiet : raids.executing = []) :
    (raids.startRaid ptr).executing = if (raids.raids ptr).getNextRaidEvent.isSome then [ptr] else [] := by
  unfold startRaid
  cases (raids.raids ptr).getNextRaidEvent with
  | some raidEvent =>
    have unchanged : (raids.setRaid ptr { raids.raids ptr with state := .executing }).executing = [] := quiet
    simp only [executing_schedule, unchanged, nil_append, Option.isSome_some, if_true]
  | none => exact quiet

theorem executing_nil (good : raids.Good) (idle : raids.running = none) : raids.executing = [] := by
  have sound := good.sound
  rwa [Sound, idle] at sound

theorem sound_started (good : raids.Good) (idle : raids.running = none) (listed : ptr ∈ raids.raidList) :
    (({ raids with running := some ptr } : Raids).startRaid ptr).Sound ↔ (raids.raids ptr).raidEvents ≠ [] := by
  have first : (raids.raids ptr).nextEvent = 0 := good.begun ptr listed (by rw [idle]; nofun)
  have quiet : ({ raids with running := some ptr } : Raids).executing = [] := by
    have idle_too : raids.executing = [] := executing_nil good idle
    exact idle_too
  have next : (raids.raids ptr).getNextRaidEvent = (raids.raids ptr).raidEvents.head? := by
    rw [Raid.getNextRaidEvent, first, head?_eq_getElem?]
  rw [Sound, executing_startRaid quiet, startRaid_running, next]
  cases (raids.raids ptr).raidEvents <;> simp

theorem good_started (good : raids.Good) (idle : raids.running = none)
    (sound : (({ raids with running := some ptr } : Raids).startRaid ptr).Sound) :
    (({ raids with running := some ptr } : Raids).startRaid ptr).Good where
  wf := by
    have quiet : raids.executing = [] := executing_nil good idle
    exact wf_startRaid (good.wf.congr rfl rfl rfl fun _ => rfl) quiet
  sound := sound
  begun := by
    intro other member _
    rw [startRaid_raidList] at member
    rw [startRaid_nextEvent]
    exact good.begun other member (by rw [idle]; nofun)

theorem sound_scheduleCheck : raids.scheduleCheck.Sound ↔ raids.Sound := by
  rw [Sound, executing_scheduleCheck]
  rfl

theorem good_scheduleCheck (good : raids.Good) : raids.scheduleCheck.Good where
  wf := wf_scheduleCheck good.wf
  sound := sound_scheduleCheck.mpr good.sound
  begun := good.begun

theorem good_erase (good : raids.Good) : ({ raids with raidList := raids.raidList.erase ptr } : Raids).Good where
  wf := good.wf.congr rfl rfl rfl fun _ => rfl
  sound := good.sound
  begun := fun other member => good.begun other (mem_of_mem_erase member)

theorem chosen_mem {now drawn : Nat} {draw : Nat → Nat} {list : List RaidPtr}
    (chosen : raids.chosen now draw drawn list = some ptr) : ptr ∈ list := by
  induction list generalizing drawn with
  | nil => cases chosen
  | cons first rest ih =>
    simp only [Raids.chosen] at chosen
    split at chosen
    · split at chosen
      · cases chosen
        exact mem_cons_self
      · exact mem_cons_of_mem _ (ih chosen)
    · exact mem_cons_of_mem _ (ih chosen)

theorem sound_startChosen (good : raids.Good) (idle : raids.running = none) (listed : ptr ∈ raids.raidList) :
    (raids.startChosen ptr).Sound ↔ (raids.raids ptr).raidEvents ≠ [] := by
  rw [← sound_started good idle listed, startChosen]
  split <;> rfl

theorem good_startChosen (good : raids.Good) (idle : raids.running = none) (sound : (raids.startChosen ptr).Sound) :
    (raids.startChosen ptr).Good := by
  unfold startChosen at sound ⊢
  split at sound
  next repeated =>
    rw [if_pos repeated]
    exact good_started good idle sound
  next single =>
    rw [if_neg single]
    exact good_erase (good_started good idle sound)

/-- A check keeps the server sound, just where the raid that it starts has an event. -/
theorem sound_checkRaids (good : raids.Good) (now : Nat) (draw : Nat → Nat) :
    (raids.checkRaids now draw).Sound ↔ (raids.running = none →
      ∀ ptr, raids.chosen now draw 0 raids.raidList = some ptr → (raids.raids ptr).raidEvents ≠ []) := by
  rw [checkRaids, sound_scheduleCheck]
  split
  next idle =>
    cases chosen : raids.chosen now draw 0 raids.raidList with
    | none => exact iff_of_true good.sound fun _ _ found => absurd found nofun
    | some ptr =>
      simp only [sound_startChosen good idle (chosen_mem chosen), idle, forall_const, Option.some.injEq, forall_eq']
  next busy => exact iff_of_true good.sound fun idle => absurd idle busy

theorem good_checkRaids (good : raids.Good) {now : Nat} {draw : Nat → Nat} (sound : (raids.checkRaids now draw).Sound) :
    (raids.checkRaids now draw).Good := by
  rw [checkRaids, sound_scheduleCheck] at sound
  rw [checkRaids]
  apply good_scheduleCheck
  split at sound
  next idle =>
    rw [if_pos idle]
    cases chosen : raids.chosen now draw 0 raids.raidList with
    | none => exact good
    | some ptr =>
      rw [chosen] at sound
      exact good_startChosen good idle sound
  next busy =>
    rw [if_neg busy]
    exact good

end

section
variable {raids : Raids} {ptr : RaidPtr} {task : PendingRaidTask}

/-- The events of raids, where only other tasks are dropped. -/
theorem filterMap_raid_filter {tasks : List PendingRaidTask} {kept : PendingRaidTask → Bool}
    (keeps : ∀ task ∈ tasks, task.raid ≠ none → kept task = true) :
    (tasks.filter kept).filterMap PendingRaidTask.raid = tasks.filterMap PendingRaidTask.raid := by
  induction tasks with
  | nil => rfl
  | cons task tasks ih =>
    have later := ih fun other listed => keeps other (mem_cons_of_mem _ listed)
    cases raid : task.raid with
    | none =>
      rw [filterMap_cons_none raid, ← later, filter_cons]
      split
      · rw [filterMap_cons_none raid]
      · rfl
    | some ptr =>
      have stays : kept task = true := keeps task mem_cons_self (by rw [raid]; nofun)
      rw [filter_cons_of_pos stays, filterMap_cons_some raid, filterMap_cons_some raid, later]

theorem good_taken (good : raids.Good) (listed : task ∈ raids.pending) (check : task.raid = none) :
    (raids.taken task.eventId).Good where
  wf := wf_filter good.wf _
  sound := by
    have same : (raids.taken task.eventId).executing = raids.executing := by
      apply filterMap_raid_filter
      intro other member raid
      apply decide_eq_true
      intro equal
      cases inj_on_of_nodup_map good.wf.distinct member listed equal
      exact raid check
    rw [Sound, same]
    exact good.sound
  begun := good.begun

/-- With the event that is run, no raid is left. -/
theorem executing_taken (good : raids.Good) (listed : task ∈ raids.pending) (here : task.raid = some ptr) :
    raids.running = some ptr ∧ (raids.taken task.eventId).executing = [] := by
  obtain ⟨before, after, split⟩ := append_of_mem listed
  have sound := good.sound
  rw [Sound, executing, split, filterMap_append, filterMap_cons_some here] at sound
  cases running : raids.running with
  | none =>
    rw [running] at sound
    simp at sound
  | some other =>
    rw [running, Option.toList_some, append_eq_singleton_iff] at sound
    rcases sound with ⟨none_before, rest⟩ | ⟨_, rest⟩
    · rw [List.cons.injEq] at rest
      refine ⟨by rw [rest.1], ?_⟩
      rw [executing, taken, split, filter_append, filterMap_append, filter_cons_of_neg (by simp)]
      rw [append_eq_nil_iff]
      constructor
      · exact sublist_nil.mp (none_before ▸ filter_sublist.filterMap _)
      · exact sublist_nil.mp (rest.2 ▸ filter_sublist.filterMap _)
    · cases rest

theorem good_resetRaid (wf : raids.Wf) (quiet : raids.executing = [])
    (begun : ∀ other ∈ raids.raidList, other ≠ ptr → (raids.raids other).nextEvent = 0) (now : Nat) :
    (raids.resetRaid ptr now).Good where
  wf := (wf_setRaid wf rfl : (raids.setRaid ptr { raids.raids ptr with nextEvent := 0, state := .idle }).Wf).congr
    rfl rfl rfl fun _ => rfl
  sound := quiet
  begun := by
    intro other member _
    unfold resetRaid
    by_cases here : other = ptr
    · subst here
      exact congrArg Raid.nextEvent (setRaid_self _)
    · exact (congrArg Raid.nextEvent (setRaid_of_ne here)).trans (begun other member here)

/-- The event of the raid that runs is followed by another one, or the raid ends. -/
theorem good_executeRaidEvent (wf : raids.Wf) (quiet : raids.executing = []) (running : raids.running = some ptr)
    (begun : ∀ other ∈ raids.raidList, other ≠ ptr → (raids.raids other).nextEvent = 0) (raidEvent : RaidEvent) (success : Bool)
    (now : Nat) : (raids.executeRaidEvent ptr raidEvent success now).Good := by
  have passed : ∀ raid : Raid, ∀ other ∈ raids.raidList, other ≠ ptr → ((raids.setRaid ptr raid).raids other).nextEvent = 0 := by
    intro raid other member different
    rw [setRaid_of_ne different]
    exact begun other member different
  unfold executeRaidEvent
  split
  · dsimp only
    split
    · exact {
        wf := by
          apply wf_schedule
          · exact wf_setRaid wf rfl
          · exact quiet
        sound := by
          rw [Sound, executing_schedule]
          exact (congrArg (· ++ [ptr]) quiet).trans (congrArg Option.toList running).symm
        begun := by
          intro other member different
          rw [schedule_nextEvent]
          exact passed _ other member fun same => different (same ▸ running) }
    · apply good_resetRaid
      · exact wf_setRaid wf rfl
      · exact quiet
      · exact passed _
  · exact good_resetRaid wf quiet begun now

end

section
variable {raids : Raids} {ptr : RaidPtr}

theorem mem_stopEvent {eventId : Nat} {task : PendingRaidTask} (positive : 0 < task.eventId) :
    task ∈ (raids.stopEvent eventId).pending ↔ task ∈ raids.pending ∧ task.eventId ≠ eventId := by
  unfold stopEvent
  split
  next zero => exact (and_iff_left (by omega)).symm
  next some => rw [mem_filter, decide_eq_true_eq]

theorem stopEvent_raids (eventId : Nat) : (raids.stopEvent eventId).raids = raids.raids := by
  unfold stopEvent
  split <;> rfl

theorem mem_stopEvents {task : PendingRaidTask} (positive : 0 < task.eventId) :
    task ∈ (raids.stopEvents ptr).pending ↔ task ∈ raids.pending ∧ (raids.raids ptr).nextEventEvent ≠ task.eventId := by
  unfold stopEvents
  dsimp only
  split
  next some =>
    have stopped := @mem_stopEvent raids (raids.raids ptr).nextEventEvent task positive
    exact stopped.trans (and_congr_right' ne_comm)
  next zero => exact (and_iff_left (by omega)).symm

/-- The raid forgets the id of its task, the others do not. -/
theorem stopEvents_nextEventEvent {id : Nat} (positive : 0 < id) {other : RaidPtr} (kept : (raids.raids ptr).nextEventEvent ≠ id) :
    ((raids.stopEvents ptr).raids other).nextEventEvent = id ↔ (raids.raids other).nextEventEvent = id := by
  unfold stopEvents
  dsimp only
  split
  · by_cases here : other = ptr
    · subst here
      rw [setRaid_self]
      exact iff_of_false (Nat.ne_of_lt positive) kept
    · rw [setRaid_of_ne here, stopEvent_raids]
  · rfl

/-- The tasks that are left when the events of some raids are stopped. -/
theorem mem_foldl_stopEvents {task : PendingRaidTask} (positive : 0 < task.eventId) (list : List RaidPtr) (raids : Raids) :
    task ∈ (list.foldl stopEvents raids).pending ↔
      task ∈ raids.pending ∧ ∀ ptr ∈ list, (raids.raids ptr).nextEventEvent ≠ task.eventId := by
  induction list generalizing raids with
  | nil => exact (and_iff_left nofun).symm
  | cons ptr list ih =>
    rw [foldl_cons, ih, mem_stopEvents positive, forall_mem_cons, and_assoc]
    apply and_congr_right
    intro _
    apply and_congr_right
    intro kept
    apply forall₂_congr
    intro other _
    exact not_congr (stopEvents_nextEventEvent positive kept)

theorem wf_stopEvents (wf : raids.Wf) : (raids.stopEvents ptr).Wf := by
  unfold stopEvents
  dsimp only
  split
  next some =>
    have fewer : (raids.stopEvent (raids.raids ptr).nextEventEvent).Wf := by
      rw [stopEvent, if_neg some]
      exact wf_filter wf _
    have ids : ∀ other, (((raids.stopEvent (raids.raids ptr).nextEventEvent).setRaid ptr
        { raids.raids ptr with nextEventEvent := 0 }).raids other).nextEventEvent =
          if other = ptr then 0 else (raids.raids other).nextEventEvent := by
      intro other
      split
      next here =>
        subst here
        rw [setRaid_self]
      next different => rw [setRaid_of_ne different, stopEvent_raids]
    exact {
      distinct := fewer.distinct
      positive := fewer.positive
      fresh := fewer.fresh
      known := by
        intro other
        rw [ids]
        split
        · exact Nat.zero_le _
        · have less := fewer.known other
          rw [stopEvent_raids] at less
          exact less
      check := fewer.check
      apart := fewer.apart
      own := by
        intro task listed raid here other
        rw [ids]
        have positive := fewer.positive task listed
        obtain ⟨old, kept⟩ := (mem_stopEvent positive).mp listed
        have own := wf.own task old raid here
        split
        next same =>
          subst same
          exact iff_of_false (Nat.ne_of_lt positive) fun same => kept ((own other).mpr same).symm
        next different => exact own other }
  next zero => exact wf

theorem wf_foldl_stopEvents (list : List RaidPtr) (wf : raids.Wf) : (list.foldl stopEvents raids).Wf := by
  induction list generalizing raids with
  | nil => exact wf
  | cons ptr list ih => exact ih (wf_stopEvents wf)

theorem wf_stopEvent (wf : raids.Wf) (eventId : Nat) : (raids.stopEvent eventId).Wf := by
  unfold stopEvent
  split
  · exact wf
  · exact wf_filter wf _

theorem wf_clear (wf : raids.Wf) : raids.clear.Wf := by
  have stopped : (raids.raidList.foldl stopEvents (raids.stopEvent raids.checkRaidsEvent)).Wf :=
    wf_foldl_stopEvents _ (wf_stopEvent wf _)
  exact {
    distinct := stopped.distinct
    positive := stopped.positive
    fresh := stopped.fresh
    known := stopped.known
    check := Nat.zero_le _
    apart := fun task listed _ => Nat.ne_of_gt (stopped.positive task listed)
    own := stopped.own }

/-- The events that `clear` leaves are those of a running raid that is not in the list. -/
theorem mem_executing_clear (good : raids.Good) :
    ptr ∈ raids.clear.executing ↔ raids.running = some ptr ∧ ptr ∉ raids.raidList := by
  have running : raids.running = some ptr ↔ ptr ∈ raids.executing := by rw [good.sound, Option.mem_toList]
  rw [running, mem_executing, mem_executing]
  have left : ∀ task, 0 < task.eventId → task.raid = some ptr → (task ∈ raids.clear.pending ↔
      task ∈ raids.pending ∧ ptr ∉ raids.raidList) := by
    intro task positive here
    refine (mem_foldl_stopEvents positive _ _).trans ?_
    rw [mem_stopEvent positive, stopEvent_raids]
    constructor
    · rintro ⟨⟨listed, _⟩, kept⟩
      exact ⟨listed, fun member => kept ptr member ((good.wf.own task listed ptr here ptr).mpr rfl)⟩
    · rintro ⟨listed, outside⟩
      refine ⟨⟨listed, good.wf.apart task listed (by rw [here]; nofun)⟩, ?_⟩
      intro other member same
      cases (good.wf.own task listed ptr here other).mp same
      exact outside member
  constructor
  · rintro ⟨task, listed, here⟩
    obtain ⟨old, outside⟩ := (left task ((wf_clear good.wf).positive task listed) here).mp listed
    exact ⟨⟨task, old, here⟩, outside⟩
  · rintro ⟨⟨task, listed, here⟩, outside⟩
    exact ⟨task, (left task (good.wf.positive task listed) here).mpr ⟨listed, outside⟩, here⟩

theorem sound_clear (good : raids.Good) : raids.clear.Sound ↔ ∀ ptr, raids.running = some ptr → ptr ∈ raids.raidList := by
  have none : raids.clear.Sound ↔ ∀ ptr, ptr ∉ raids.clear.executing := eq_nil_iff_forall_not_mem
  rw [none]
  apply forall_congr'
  intro ptr
  rw [mem_executing_clear good, not_and, not_not]

theorem good_clear (good : raids.Good) (sound : raids.clear.Sound) : raids.clear.Good where
  wf := wf_clear good.wf
  sound := sound
  begun := nofun

theorem executing_allocate (definitions : List Definition) (raids : Raids) :
    (allocate definitions raids).executing = raids.executing ∧ (allocate definitions raids).running = raids.running := by
  induction definitions generalizing raids with
  | nil => exact ⟨rfl, rfl⟩
  | cons definition rest ih =>
    rw [allocate]
    split
    · exact ih raids
    · exact ih _

/-- New raids, while none runs. -/
theorem good_allocate (definitions : List Definition) (good : raids.Good) (quiet : raids.executing = []) :
    (allocate definitions raids).Good := by
  induction definitions generalizing raids with
  | nil => exact good
  | cons definition rest ih =>
    rw [allocate]
    split
    · exact ih good quiet
    · refine @ih _ ?_ quiet
      exact {
        wf :=
          { distinct := good.wf.distinct
            positive := good.wf.positive
            fresh := good.wf.fresh
            known := by
              intro ptr
              by_cases here : ptr = raids.allocated
              · subst here
                exact Nat.le_trans (Nat.le_of_eq (congrArg Raid.nextEventEvent (setRaid_self _))) (Nat.zero_le _)
              · exact Nat.le_trans (Nat.le_of_eq (congrArg Raid.nextEventEvent (setRaid_of_ne here))) (good.wf.known ptr)
            check := good.wf.check
            apart := good.wf.apart
            own := by
              intro task listed ptr here
              have running : ptr ∈ raids.executing := mem_executing.mpr ⟨task, listed, here⟩
              rw [quiet] at running
              cases running }
        sound := good.sound
        begun := by
          intro ptr member idle
          by_cases here : ptr = raids.allocated
          · subst here
            exact congrArg Raid.nextEvent (setRaid_self _)
          · refine (congrArg Raid.nextEvent (setRaid_of_ne here)).trans (good.begun ptr ?_ idle)
            rcases mem_append.mp member with old | new
            · exact old
            · exact absurd (mem_singleton.mp new) here }

theorem sound_startup (now : Nat) : (raids.startup now).Sound ↔ raids.Sound := by
  unfold startup
  split
  · rfl
  · exact (sound_scheduleCheck : ({ raids with lastRaidEnd := now } : Raids).scheduleCheck.Sound ↔ _)

theorem good_startup (good : raids.Good) (now : Nat) : (raids.startup now).Good := by
  unfold startup
  split
  · exact good
  · have later : ({ raids with lastRaidEnd := now } : Raids).Good :=
      { wf := good.wf.congr rfl rfl rfl fun _ => rfl, sound := good.sound, begun := good.begun }
    have checked := good_scheduleCheck later
    exact { wf := checked.wf.congr rfl rfl rfl fun _ => rfl, sound := checked.sound, begun := checked.begun }

/-- A reload keeps the server sound, just where the raid that runs is in the list. -/
theorem sound_reload (good : raids.Good) (definitions : Option (List Definition)) (now : Nat) :
    (raids.reload definitions now).Sound ↔ ∀ ptr, raids.running = some ptr → ptr ∈ raids.raidList := by
  rw [← sound_clear good]
  cases definitions with
  | none => exact Iff.rfl
  | some definitions =>
    refine (sound_startup now).trans ?_
    obtain ⟨executing, running⟩ := executing_allocate definitions raids.clear
    unfold Sound
    rw [← executing, ← running]
    rfl

theorem good_reload (good : raids.Good) {definitions : Option (List Definition)} {now : Nat}
    (sound : (raids.reload definitions now).Sound) : (raids.reload definitions now).Good := by
  have cleared : raids.clear.Sound := (sound_clear good).mpr ((sound_reload good definitions now).mp sound)
  cases definitions with
  | none => exact good_clear good cleared
  | some definitions =>
    have allocated := good_allocate definitions (good_clear good cleared) cleared
    have loaded : ({ allocate definitions raids.clear with loaded := true } : Raids).Good :=
      { wf := allocated.wf.congr rfl rfl rfl fun _ => rfl, sound := allocated.sound, begun := allocated.begun }
    exact good_startup loaded now

end

section
variable {raids : Raids}

theorem find_task {eventId : Nat} {task : PendingRaidTask}
    (found : (raids.pending.find? fun task => task.eventId = eventId) = some task) :
    task ∈ raids.pending ∧ task.eventId = eventId :=
  ⟨mem_of_find?_eq_some found, by simpa using find?_some found⟩

theorem good_run (good : raids.Good) {task : PendingRaidTask} (listed : task ∈ raids.pending) {ptr : RaidPtr}
    {raidEvent : RaidEvent} (here : task.task = .executeRaidEvent ptr raidEvent) (success : Bool) (now : Nat) :
    ((raids.taken task.eventId).executeRaidEvent ptr raidEvent success now).Good := by
  have raid : task.raid = some ptr := by rw [PendingRaidTask.raid, here]
  obtain ⟨running, quiet⟩ := executing_taken good listed raid
  apply good_executeRaidEvent (wf_filter good.wf _) quiet running
  intro other member different
  exact good.begun other member (by rw [running]; exact fun same => different (Option.some.inj same).symm)

theorem chosen_taken (eventId now drawn : Nat) (draw : Nat → Nat) (list : List RaidPtr) :
    (raids.taken eventId).chosen now draw drawn list = raids.chosen now draw drawn list := by
  induction list generalizing drawn with
  | nil => rfl
  | cons ptr rest ih =>
    simp only [chosen, ih]
    rfl

/-- What a task that is run is, if it is no event of a raid. -/
theorem raid_eq_none {task : PendingRaidTask} : task.raid = none ↔ task.task = .checkRaids := by
  unfold PendingRaidTask.raid
  cases task.task <;> simp

theorem step_check {task : PendingRaidTask} (found : (raids.pending.find? fun other => other.eventId = task.eventId) = some task)
    (here : task.task = .checkRaids) (now : Nat) (draw : Nat → Nat) (success : Bool) :
    raids.step (.run task.eventId now draw success) = (raids.taken task.eventId).checkRaids now draw := by
  simp only [step, found, here]

theorem step_execute {task : PendingRaidTask} (found : (raids.pending.find? fun other => other.eventId = task.eventId) = some task)
    {ptr : RaidPtr} {raidEvent : RaidEvent} (here : task.task = .executeRaidEvent ptr raidEvent) (now : Nat) (draw : Nat → Nat)
    (success : Bool) : raids.step (.run task.eventId now draw success) =
      (raids.taken task.eventId).executeRaidEvent ptr raidEvent success now := by
  simp only [step, found, here]

theorem step_missing {eventId : Nat} (missing : (raids.pending.find? fun other => other.eventId = eventId) = none) (now : Nat)
    (draw : Nat → Nat) (success : Bool) : raids.step (.run eventId now draw success) = raids := by
  simp only [step, missing]

/-- A step keeps the server sound just where it is allowed. -/
theorem sound_step (good : raids.Good) (step : Step) : (raids.step step).Sound ↔ raids.Allowed step := by
  cases step with
  | run eventId now draw success =>
    cases found : raids.pending.find? fun task => task.eventId = eventId with
    | none =>
      rw [step_missing found]
      refine iff_of_true good.sound ?_
      rintro ⟨task, listed, same, -⟩
      exact absurd (decide_eq_true same) (find?_eq_none.mp found task listed)
    | some task =>
      obtain ⟨listed, rfl⟩ := find_task found
      cases here : task.task with
      | checkRaids =>
        rw [step_check found here, sound_checkRaids (good_taken good listed (raid_eq_none.mpr here)), chosen_taken]
        exact ⟨fun starts _ => starts, fun starts => starts ⟨task, listed, rfl, here⟩⟩
      | executeRaidEvent ptr raidEvent =>
        rw [step_execute found here]
        refine iff_of_true (good_run good listed here success now).sound ?_
        rintro ⟨other, member, same, check⟩
        cases inj_on_of_nodup_map good.wf.distinct member listed same
        rw [here] at check
        cases check
  | reload definitions now => exact sound_reload good definitions now
  | luaGameStartRaid ptr =>
    rw [Raids.step, Allowed, luaGameStartRaid]
    split
    next starts => simp only [sound_started good starts.2 starts.1, starts.1, starts.2, forall_const]
    next refused => exact iff_of_true good.sound fun listed idle => absurd ⟨listed, idle⟩ refused

theorem good_step (good : raids.Good) {step : Step} (sound : (raids.step step).Sound) : (raids.step step).Good := by
  cases step with
  | run eventId now draw success =>
    cases found : raids.pending.find? fun task => task.eventId = eventId with
    | none =>
      rw [step_missing found]
      exact good
    | some task =>
      obtain ⟨listed, rfl⟩ := find_task found
      cases here : task.task with
      | checkRaids =>
        rw [step_check found here] at sound ⊢
        exact good_checkRaids (good_taken good listed (raid_eq_none.mpr here)) sound
      | executeRaidEvent ptr raidEvent =>
        rw [step_execute found here]
        exact good_run good listed here success now
  | reload definitions now => exact good_reload good sound
  | luaGameStartRaid ptr =>
    rw [Raids.step, luaGameStartRaid] at sound ⊢
    split at sound
    next starts =>
      rw [if_pos starts]
      exact good_started good starts.2 sound
    next refused =>
      rw [if_neg refused]
      exact good

/-- The runs of the server in which at most one event of a raid is pending, and one of the raid that runs if there is one, are
just the runs in which the raids that are started have events, and the raid that runs at a reload is in the list. -/
theorem always_sound_iff (steps : List Step) :
    Always step Sound initial steps ↔ Throughout step Allowed initial steps :=
  always_iff_throughout_of_good Good (fun _ => Good.sound) (fun _ _ good sound => good_step good sound)
    (fun _ step good => sound_step good step) good_initial steps

/-- A raid of one event that is not repeated, and a reload before its event has run: the raid is in no list, and goes on. -/
theorem reload_in_raid : ¬ Always step Sound initial
    [.reload (some [⟨[⟨1000⟩], 60, 0, false⟩]) 0, .run 1 60000 (fun _ => 0) true, .reload (some []) 60500] := by
  intro always
  have last : Sound _ := always.2.2.2
  exact absurd last (by decide)

end

end Styller.Raids
