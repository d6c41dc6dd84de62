import Styller.Event.GlobalEvents

/-! The chains of scheduled tasks: in which runs each map that is not empty has its task. -/

namespace Styller

open List

namespace Scheduler

variable {scheduler : Scheduler} {chain other : Chain}

def tasks (scheduler : Scheduler) (chain : Chain) : List SchedulerTask :=
  scheduler.pending.filter (fun task => task.chain = chain)

/-- No pending task has the id that the next one gets. -/
def Free (scheduler : Scheduler) : Prop :=
  ∀ task ∈ scheduler.pending, task.eventId ≠ scheduler.nextId

theorem addEvent_free (free : scheduler.Free) (delay : UInt32) :
    ((scheduler.addEvent chain delay).tasks other).length =
      (scheduler.tasks other).length + if other = chain then 1 else 0 := by
  have unused : ¬ scheduler.pending.any (fun task => task.eventId = scheduler.nextId) = true := by
    intro used
    obtain ⟨task, pending, same⟩ := any_eq_true.mp used
    exact free task pending (by simpa using same)
  unfold addEvent tasks
  rw [if_neg unused, filter_append, length_append]
  by_cases same : other = chain
  · simp [same]
  · simp [same, Ne.symm same]

/-- Where the id is in use, a task is lost. -/
theorem addEvent_lost (taken : ¬ scheduler.Free) (delay : UInt32) :
    ∃ lost, ((scheduler.addEvent chain delay).tasks lost).length < (scheduler.tasks lost).length := by
  simp only [Free, not_forall, ne_eq, not_not] at taken
  obtain ⟨task, pending, same⟩ := taken
  have used : scheduler.pending.any (fun task => task.eventId = scheduler.nextId) = true :=
    any_eq_true.mpr ⟨task, pending, by simpa using same⟩
  refine ⟨task.chain, ?_⟩
  unfold addEvent tasks
  rw [if_pos used, filter_filter]
  have listed : task ∈ scheduler.pending.filter (fun candidate => candidate.chain = task.chain) :=
    mem_filter.mpr ⟨pending, by simp⟩
  have swapped : scheduler.pending.filter (fun candidate =>
      decide (candidate.chain = task.chain) && decide (candidate.eventId ≠ scheduler.nextId)) =
      (scheduler.pending.filter (fun candidate => candidate.chain = task.chain)).filter
        (fun candidate => candidate.eventId ≠ scheduler.nextId) := by
    rw [filter_filter]
    apply filter_congr
    intro candidate _
    exact Bool.and_comm _ _
  rw [swapped]
  exact length_filter_lt_length_iff_exists.mpr ⟨task, listed, by simp [same]⟩

theorem addEvent_other (scheduler : Scheduler) (different : other ≠ chain) (delay : UInt32) :
    ((scheduler.addEvent chain delay).tasks other).length ≤ (scheduler.tasks other).length := by
  unfold addEvent tasks
  split
  · exact (filter_sublist.filter _).length_le
  · rw [filter_append, length_append]
    simp [Ne.symm different]

end Scheduler

/-- The chain that a registered event belongs to. -/
def GlobalEventType.chain : GlobalEventType → Option Chain
  | .timer => some .timer
  | .none => some .think
  | _ => Option.none

namespace GlobalEvents

open GlobalEventMap

variable {events : GlobalEvents} {chain : Chain}

def map (events : GlobalEvents) : Chain → GlobalEventMap
  | .timer => events.timerMap
  | .think => events.thinkMap

/-- The variable that registration reads before it starts a chain. -/
def startId (events : GlobalEvents) : Chain → UInt32
  | .timer => events.timerEventId
  | .think => events.thinkEventId

/-- Each map that is not empty has one pending task. -/
structure Armed (events : GlobalEvents) : Prop where
  timer : events.timerMap ≠ [] → (events.scheduler.tasks .timer).length = 1
  think : events.thinkMap ≠ [] → (events.scheduler.tasks .think).length = 1

theorem armed_iff : Armed events ↔
    ∀ chain, events.map chain ≠ [] → (events.scheduler.tasks chain).length = 1 := by
  constructor
  · intro armed chain
    cases chain with
    | timer => exact armed.timer
    | think => exact armed.think
  · intro all
    exact ⟨all .timer, all .think⟩

/-- Each map has one pending task, or none if it is empty. -/
def Balanced (events : GlobalEvents) : Prop :=
  ∀ chain, (events.scheduler.tasks chain).length = if events.map chain = [] then 0 else 1

theorem Balanced.armed (balanced : Balanced events) : Armed events := by
  apply armed_iff.mpr
  intro chain live
  rw [balanced chain, if_neg live]

/-- Some events stay in the map of a chain when its task is executed. -/
def Stays (events : GlobalEvents) (clock : Clock) (executeEvent : GlobalEvent → Bool) : Chain → Prop
  | .timer => ∃ event ∈ events.timerMap, 0 < event.nextExecution - clock.now ∨ executeEvent event = true
  | .think => events.thinkMap ≠ []

/-- The steps after which the chains are as they should be. Registration finds its variable
zero just when its map is empty, a clear leaves no events of the other origin behind and finds
all the tasks in the two variables, and a new task gets an id that is not in use. -/
def Keeps (events : GlobalEvents) : Step → Prop
  | .register event => ∀ chain, event.eventType.chain = some chain → has (events.map chain) event.name = false →
    (events.map chain = [] ↔ events.startId chain = 0) ∧ (events.map chain = [] → events.scheduler.Free)
  | .clear fromLua => (∀ chain, ∀ event ∈ events.map chain, event.fromLua = fromLua) ∧
    ∀ task ∈ events.scheduler.pending, task.eventId ≠ 0 ∧
      (task.eventId = events.thinkEventId ∨ task.eventId = events.timerEventId)
  | .execute task clock executeEvent => task ∈ events.scheduler.pending →
    events.Stays clock executeEvent task.chain → (events.taken task).scheduler.Free
  | .schedule => True

/-- A task that was scheduled before a clear is not pending after it. -/
def Stopped (events : GlobalEvents) : Step → Prop
  | .clear fromLua => ∀ task ∈ events.scheduler.pending, task ∉ (events.clear fromLua).scheduler.pending
  | _ => True

/-- A chain that has no task yet is armed by a new one just when the id of the new one is free. -/
theorem armed_addEvent_iff {maps : Chain → GlobalEventMap} {scheduler : Scheduler} (delay : UInt32)
    (counts : ∀ other, (scheduler.tasks other).length = if other = chain ∨ maps other = [] then 0 else 1) :
    (∀ other, maps other ≠ [] → ((scheduler.addEvent chain delay).tasks other).length = 1) ↔ scheduler.Free := by
  constructor
  · intro armed
    by_contra used
    obtain ⟨lost, fewer⟩ := @Scheduler.addEvent_lost _ chain used delay
    have before := counts lost
    split at before
    · omega
    · next present =>
      have after := armed lost (fun empty => present (.inr empty))
      omega
  · intro free other present
    rw [Scheduler.addEvent_free free, counts other]
    by_cases same : other = chain
    · simp [same]
    · simp [same, present]

/-- What registration does to a chain, its map and the tasks. -/
theorem register_chain {event : GlobalEvent} (of : event.eventType.chain = some chain)
    (fresh : has (events.map chain) event.name = false) :
    let next := (events.registerEvent event).2
    next.map chain ≠ [] ∧ (∀ other, other ≠ chain → next.map other = events.map other) ∧
      next.scheduler = if events.startId chain = 0 then events.scheduler.addEvent chain schedulerMinTicks
        else events.scheduler := by
  have inserted : ∀ map : GlobalEventMap, map.orderedInsert (fun a b => a.name ≤ b.name) event ≠ [] := by
    intro map empty
    have length := congrArg List.length empty
    rw [orderedInsert_length] at length
    cases length
  cases type : event.eventType with
  | timer =>
    rw [type] at of
    obtain rfl : Chain.timer = chain := Option.some.inj of
    have emplaced := @emplace_fresh events.timerMap event fresh
    by_cases zero : events.timerEventId = 0
    · simp only [registerEvent, type, emplaced, startId, if_pos zero]
      refine ⟨inserted _, fun other different => ?_, (if_pos zero).symm⟩
      cases other with
      | timer => exact absurd rfl different
      | think => rfl
    · simp only [registerEvent, type, emplaced, startId, if_neg zero]
      refine ⟨inserted _, fun other different => ?_, (if_neg zero).symm⟩
      cases other with
      | timer => exact absurd rfl different
      | think => rfl
  | none =>
    rw [type] at of
    obtain rfl : Chain.think = chain := Option.some.inj of
    have emplaced := @emplace_fresh events.thinkMap event fresh
    by_cases zero : events.thinkEventId = 0
    · simp only [registerEvent, type, emplaced, startId, if_pos zero]
      refine ⟨inserted _, fun other different => ?_, (if_pos zero).symm⟩
      cases other with
      | timer => rfl
      | think => exact absurd rfl different
    · simp only [registerEvent, type, emplaced, startId, if_neg zero]
      refine ⟨inserted _, fun other different => ?_, (if_neg zero).symm⟩
      cases other with
      | timer => rfl
      | think => exact absurd rfl different
  | startup | shutdown | record => simp [type, GlobalEventType.chain] at of

/-- Registration of a name that is there, or of an event that no chain executes, touches
neither the chains' maps nor the tasks. -/
theorem register_other {event : GlobalEvent}
    (none : ∀ chain, event.eventType.chain = some chain → has (events.map chain) event.name = true) :
    let next := (events.registerEvent event).2
    (∀ chain, next.map chain = events.map chain) ∧ next.scheduler = events.scheduler := by
  cases type : event.eventType with
  | timer =>
    have present : has events.timerMap event.name = true := none .timer (by rw [type]; rfl)
    simp only [registerEvent, type, emplace_present present]
    exact ⟨fun _ => trivial, trivial⟩
  | none =>
    have present : has events.thinkMap event.name = true := none .think (by rw [type]; rfl)
    simp only [registerEvent, type, emplace_present present]
    exact ⟨fun _ => trivial, trivial⟩
  | startup | shutdown | record =>
    simp only [registerEvent, type]
    exact ⟨fun chain => by cases chain <;> rfl, trivial⟩

section
variable (clock : Clock) (executeEvent : GlobalEvent → Bool)

/-- The timer's loop sets a time just when it keeps an event. -/
theorem timerLoop_spec (map : GlobalEventMap) {time : Int} (bound : time ≤ never) :
    let result := timerLoop clock executeEvent map time
    (result.1 ≠ [] ↔ ∃ event ∈ map, 0 < event.nextExecution - clock.now ∨ executeEvent event = true) ∧
      (result.1 = [] → result.2 = time) ∧ (result.1 ≠ [] → result.2 < never) ∧ result.2 ≤ time := by
  induction map generalizing time with
  | nil => simp [timerLoop]
  | cons event rest ih =>
    unfold timerLoop
    split
    · next due =>
      split
      · next success =>
        obtain ⟨_, _, _, less⟩ := @ih (min 86400000 time) (by omega)
        refine ⟨?_, ?_, ?_, ?_⟩
        · simp [success]
        · simp
        · intro _
          have : (86400000 : Int) < never := by decide
          simp only
          omega
        · simp only
          omega
      · next failed =>
        have late : ¬ 0 < event.nextExecution - clock.now := by omega
        obtain ⟨kept, same, below, less⟩ := ih bound
        refine ⟨?_, same, below, less⟩
        have lost : ¬ (0 < event.nextExecution - clock.now ∨ executeEvent event = true) :=
          not_or.mpr ⟨late, failed⟩
        rw [exists_mem_cons_iff]
        exact kept.trans (or_iff_right lost).symm
    · next early =>
      obtain ⟨_, _, _, less⟩ := @ih (min (event.nextExecution - clock.now) time) (by omega)
      refine ⟨?_, ?_, ?_, ?_⟩
      · have wait : 0 < event.nextExecution - clock.now := by omega
        rw [exists_mem_cons_iff]
        exact iff_of_true (by simp) (.inl (.inl wait))
      · simp
      · intro _
        have := event.wait_lt clock
        simp only [never]
        omega
      · simp only
        omega

theorem thinkLoop_spec (map : GlobalEventMap) {time : Int} (bound : time ≤ never) :
    let result := thinkLoop clock map time
    (result.1 ≠ [] ↔ map ≠ []) ∧
      (result.1 = [] → result.2 = time) ∧ (result.1 ≠ [] → result.2 < never) ∧ result.2 ≤ time := by
  induction map generalizing time with
  | nil => simp [thinkLoop]
  | cons event rest ih =>
    unfold thinkLoop
    split
    · obtain ⟨_, _, _, less⟩ := @ih (min event.interval.toNat time) (by omega)
      refine ⟨by simp, by simp, ?_, ?_⟩
      · intro _
        have := event.interval.toNat_lt
        simp only [never]
        omega
      · simp only
        omega
    · obtain ⟨_, _, _, less⟩ := @ih (min (event.nextExecution - clock.now) time) (by omega)
      refine ⟨by simp, by simp, ?_, ?_⟩
      · intro _
        have := event.wait_lt clock
        simp only [never]
        omega
      · simp only
        omega

end

/-- What `timer` does: the timer events that stay, and a new task when some do. -/
theorem timer_chain (clock : Clock) (executeEvent : GlobalEvent → Bool) :
    let next := events.timer clock executeEvent
    (next.timerMap ≠ [] ↔ events.Stays clock executeEvent .timer) ∧ next.thinkMap = events.thinkMap ∧
      ∃ delay, next.scheduler = if next.timerMap = [] then events.scheduler
        else events.scheduler.addEvent .timer delay := by
  obtain ⟨kept, none, some, _⟩ :=
    timerLoop_spec clock executeEvent events.timerMap (Int.le_refl never)
  by_cases empty : (timerLoop clock executeEvent events.timerMap never).1 = []
  · simp only [timer, if_neg (not_not.mpr (none empty))]
    exact ⟨kept, trivial, 0, (if_pos empty).symm⟩
  · simp only [timer, if_pos (Int.ne_of_lt (some empty))]
    exact ⟨kept, trivial, _, (if_neg empty).symm⟩

/-- What `think` does: all the events stay, and there is a new task when there are some. -/
theorem think_chain (clock : Clock) (executeEvent : GlobalEvent → Bool) :
    let next := events.think clock
    (next.thinkMap ≠ [] ↔ events.Stays clock executeEvent .think) ∧ next.timerMap = events.timerMap ∧
      ∃ delay, next.scheduler = if next.thinkMap = [] then events.scheduler
        else events.scheduler.addEvent .think delay := by
  obtain ⟨kept, none, some, _⟩ := thinkLoop_spec clock events.thinkMap (Int.le_refl never)
  by_cases empty : (thinkLoop clock events.thinkMap never).1 = []
  · simp only [think, if_neg (not_not.mpr (none empty))]
    exact ⟨kept, trivial, 0, (if_pos empty).symm⟩
  · simp only [think, if_pos (Int.ne_of_lt (some empty))]
    exact ⟨kept, trivial, _, (if_neg empty).symm⟩

/-- What the execution of a task does: the map of its chain keeps some events or none, and a
new task is scheduled just when it keeps some. -/
theorem execute_chain {task : SchedulerTask} (pending : task ∈ events.scheduler.pending) (clock : Clock)
    (executeEvent : GlobalEvent → Bool) :
    let next := events.step (.execute task clock executeEvent)
    (next.map task.chain ≠ [] ↔ events.Stays clock executeEvent task.chain) ∧
      (∀ other, other ≠ task.chain → next.map other = events.map other) ∧
      ∃ delay, next.scheduler = if next.map task.chain = [] then (events.taken task).scheduler
        else (events.taken task).scheduler.addEvent task.chain delay := by
  cases of : task.chain with
  | timer =>
    simp only [step, if_pos pending, of]
    obtain ⟨kept, same, scheduled⟩ := @timer_chain (events.taken task) clock executeEvent
    refine ⟨kept, fun other different => ?_, scheduled⟩
    cases other with
    | timer => exact absurd rfl different
    | think => exact same
  | think =>
    simp only [step, if_pos pending, of]
    obtain ⟨kept, same, scheduled⟩ := @think_chain (events.taken task) clock executeEvent
    refine ⟨kept, fun other different => ?_, scheduled⟩
    cases other with
    | timer => exact same
    | think => exact absurd rfl different

/-- Without the task that is executed, its chain has none. -/
theorem Balanced.taken (balanced : Balanced events) {task : SchedulerTask}
    (pending : task ∈ events.scheduler.pending) (other : Chain) :
    ((events.taken task).scheduler.tasks other).length =
      if other = task.chain ∨ events.map other = [] then 0 else 1 := by
  have listed : ((events.taken task).scheduler.tasks other) = (events.scheduler.tasks other).erase task :=
    erase_filter.symm
  by_cases same : other = task.chain
  · have own : task ∈ events.scheduler.tasks other := mem_filter.mpr ⟨pending, by simp [same]⟩
    have most : (events.scheduler.tasks other).length ≤ 1 := by
      rw [balanced other]
      split
      · exact Nat.zero_le _
      · exact Nat.le_refl _
    rw [listed, length_erase_of_mem own, if_pos (.inl same)]
    omega
  · have foreign : task ∉ events.scheduler.tasks other := by
      intro own
      exact same (by simpa using (mem_filter.mp own).2 : task.chain = other).symm
    rw [listed, erase_of_not_mem foreign, balanced other]
    simp [same]

/-- A second task for a chain that has one leaves some chain without exactly one. -/
theorem Balanced.again (balanced : Balanced events) (live : events.map chain ≠ []) (delay : UInt32) :
    ∃ other, events.map other ≠ [] ∧ ((events.scheduler.addEvent chain delay).tasks other).length ≠ 1 := by
  by_cases free : events.scheduler.Free
  · refine ⟨chain, live, ?_⟩
    rw [Scheduler.addEvent_free free, balanced chain, if_neg live, if_pos rfl]
    omega
  · obtain ⟨lost, fewer⟩ := @Scheduler.addEvent_lost _ chain free delay
    have before := balanced lost
    by_cases empty : events.map lost = []
    · rw [if_pos empty] at before
      omega
    · rw [if_neg empty] at before
      exact ⟨lost, empty, by omega⟩

/-- Registration leaves the chains armed just when it starts the chain of a map that was
empty, and no other. -/
theorem register_armed_iff (balanced : Balanced events) (event : GlobalEvent) :
    Armed (events.step (.register event)) ↔ Keeps events (.register event) := by
  by_cases starts : ∃ chain, event.eventType.chain = some chain ∧ has (events.map chain) event.name = false
  · obtain ⟨chain, of, fresh⟩ := starts
    obtain ⟨live, others, scheduled⟩ := register_chain of fresh
    have keeps : Keeps events (.register event) ↔
        (events.map chain = [] ↔ events.startId chain = 0) ∧ (events.map chain = [] → events.scheduler.Free) := by
      constructor
      · intro all
        exact all chain of fresh
      · intro this other isOther _
        obtain rfl : chain = other := Option.some.inj (of.symm.trans isOther)
        exact this
    have present : ∀ other, (events.step (.register event)).map other = [] ↔
        other ≠ chain ∧ events.map other = [] := by
      intro other
      by_cases same : other = chain
      · subst same
        exact iff_of_false live (fun this => this.1 rfl)
      · rw [step, others other same]
        simp [same]
    rw [keeps, armed_iff]
    by_cases empty : events.map chain = []
    · by_cases zero : events.startId chain = 0
      · have counts : ∀ other, (events.scheduler.tasks other).length =
            if other = chain ∨ (events.step (.register event)).map other = [] then 0 else 1 := by
          intro other
          rw [balanced other]
          by_cases same : other = chain
          · simp [same, empty]
          · simp [same, present]
        rw [step, scheduled, if_pos zero]
        refine (armed_addEvent_iff schedulerMinTicks counts).trans ?_
        simp [empty, zero]
      · -- no task is scheduled
        refine iff_of_false ?_ (fun this => zero (this.1.mp empty))
        intro armed
        have one := armed chain live
        rw [step, scheduled, if_neg zero, balanced chain, if_pos empty] at one
        cases one
    · by_cases zero : events.startId chain = 0
      · -- a second task is scheduled
        refine iff_of_false ?_ (fun this => empty (this.1.mpr zero))
        intro armed
        obtain ⟨other, some, wrong⟩ := balanced.again empty schedulerMinTicks
        have one := armed other (fun none => some ((present other).mp none).2)
        rw [step, scheduled, if_pos zero] at one
        exact wrong one
      · refine iff_of_true ?_ ⟨iff_of_false empty zero, fun none => absurd none empty⟩
        intro other some
        rw [step, scheduled, if_neg zero, balanced other, if_neg]
        intro none
        by_cases same : other = chain
        · exact empty (same ▸ none)
        · exact some ((present other).mpr ⟨same, none⟩)
  · have none : ∀ chain, event.eventType.chain = some chain → has (events.map chain) event.name = true := by
      intro chain of
      by_contra fresh
      exact starts ⟨chain, of, by simpa using fresh⟩
    obtain ⟨maps, scheduled⟩ := register_other none
    refine iff_of_true (armed_iff.mpr fun chain live => ?_) fun chain of fresh => ?_
    · rw [step] at live ⊢
      rw [maps chain] at live
      rw [scheduled, balanced chain, if_neg live]
    · rw [none chain of] at fresh
      cases fresh

/-- The execution of a task leaves the chains armed just when its successor, if it has one,
gets an id that is free. -/
theorem execute_armed_iff (balanced : Balanced events) (task : SchedulerTask) (clock : Clock)
    (executeEvent : GlobalEvent → Bool) :
    Armed (events.step (.execute task clock executeEvent)) ↔ Keeps events (.execute task clock executeEvent) := by
  by_cases pending : task ∈ events.scheduler.pending
  · obtain ⟨stays, others, delay, scheduled⟩ := execute_chain pending clock executeEvent
    have counts : ∀ other, ((events.taken task).scheduler.tasks other).length =
        if other = task.chain ∨ (events.step (.execute task clock executeEvent)).map other = [] then 0 else 1 := by
      intro other
      rw [balanced.taken pending other]
      by_cases same : other = task.chain
      · simp [same]
      · rw [others other same]
    rw [armed_iff]
    by_cases live : events.Stays clock executeEvent task.chain
    · rw [scheduled, if_neg (stays.mpr live)]
      refine (armed_addEvent_iff delay counts).trans ?_
      simp [Keeps, pending, live]
    · have empty : (events.step (.execute task clock executeEvent)).map task.chain = [] := by
        by_contra some
        exact live (stays.mp some)
      refine iff_of_true ?_ (fun _ some => absurd some live)
      intro other some
      rw [scheduled, if_pos empty, counts other, if_neg]
      rintro (same | none)
      · exact some (same ▸ empty)
      · exact some none
  · refine iff_of_true ?_ (fun listed => absurd listed pending)
    rw [step, if_neg pending]
    exact balanced.armed

/-- The tasks that a clear leaves behind. -/
theorem mem_clear (fromLua : Bool) (task : SchedulerTask) :
    task ∈ (events.clear fromLua).scheduler.pending ↔ task ∈ events.scheduler.pending ∧
      ¬ (task.eventId ≠ 0 ∧ (task.eventId = events.thinkEventId ∨ task.eventId = events.timerEventId)) := by
  have stopped : ∀ (scheduler : Scheduler) (eventId : UInt32), task ∈ (scheduler.stopEvent eventId).pending ↔
      task ∈ scheduler.pending ∧ ¬ (task.eventId ≠ 0 ∧ task.eventId = eventId) := by
    intro scheduler eventId
    unfold Scheduler.stopEvent
    by_cases zero : eventId = 0
    · rw [if_pos zero, zero]
      simp
    · rw [if_neg zero]
      simp only [mem_filter, ne_eq, decide_not, Bool.not_eq_true', decide_eq_false_iff_not]
      constructor
      · rintro ⟨listed, different⟩
        exact ⟨listed, fun this => different this.2⟩
      · rintro ⟨listed, this⟩
        exact ⟨listed, fun same => this ⟨same ▸ zero, same⟩⟩
  simp only [clear, stopped]
  tauto

/-- A clear leaves the chains armed and no task behind just when no event stays and every task
is in one of the variables. -/
theorem clear_armed_iff (events : GlobalEvents) (fromLua : Bool) :
    Armed (events.step (.clear fromLua)) ∧ Stopped events (.clear fromLua) ↔ Keeps events (.clear fromLua) := by
  have maps : ∀ chain, (events.clear fromLua).map chain = clearMap (events.map chain) fromLua := by
    intro chain
    cases chain with
    | timer | think => rfl
  have cleared : ∀ chain, (events.clear fromLua).map chain = [] ↔
      ∀ event ∈ events.map chain, event.fromLua = fromLua := by
    intro chain
    rw [maps chain, clearMap, filter_eq_nil_iff]
    simp
  have nothing : (events.clear fromLua).scheduler.pending = [] ↔
      ∀ task ∈ events.scheduler.pending, task.eventId ≠ 0 ∧
        (task.eventId = events.thinkEventId ∨ task.eventId = events.timerEventId) := by
    rw [eq_nil_iff_forall_not_mem]
    constructor
    · intro none task listed
      by_contra this
      exact none task ((mem_clear fromLua task).mpr ⟨listed, this⟩)
    · intro all task listed
      exact ((mem_clear fromLua task).mp listed).2 (all task ((mem_clear fromLua task).mp listed).1)
  have stopped : Stopped events (.clear fromLua) ↔ (events.clear fromLua).scheduler.pending = [] := by
    rw [eq_nil_iff_forall_not_mem]
    constructor
    · intro gone task listed
      exact gone task ((mem_clear fromLua task).mp listed).1 listed
    · intro gone task _
      exact gone task
  rw [stopped, armed_iff, Keeps, ← nothing]
  simp only [← cleared]
  constructor
  · rintro ⟨armed, none⟩
    refine ⟨fun chain => ?_, none⟩
    by_contra some
    have one := armed chain some
    rw [step, Scheduler.tasks, none] at one
    cases one
  · rintro ⟨empty, none⟩
    exact ⟨fun chain some => absurd (empty chain) some, none⟩

/-- What a step answers for. -/
theorem step_armed_iff (balanced : Balanced events) (step : Step) :
    Armed (events.step step) ∧ Stopped events step ↔ Keeps events step := by
  cases step with
  | register event => exact (and_iff_left trivial).trans (register_armed_iff balanced event)
  | clear fromLua => exact clear_armed_iff events fromLua
  | execute task clock executeEvent =>
    exact (and_iff_left trivial).trans (execute_armed_iff balanced task clock executeEvent)
  | schedule => exact iff_of_true ⟨⟨balanced.armed.timer, balanced.armed.think⟩, trivial⟩ trivial

theorem step_idle (balanced : Balanced events) {step : Step} (keeps : Keeps events step)
    (empty : (events.step step).map chain = []) : ((events.step step).scheduler.tasks chain).length = 0 := by
  cases step with
  | register event =>
    by_cases starts : ∃ chain, event.eventType.chain = some chain ∧ has (events.map chain) event.name = false
    · obtain ⟨started, of, fresh⟩ := starts
      obtain ⟨live, others, scheduled⟩ := register_chain of fresh
      have different : chain ≠ started := fun same => live (same ▸ empty)
      have before := balanced chain
      rw [if_pos ((others chain different).symm.trans empty)] at before
      rw [GlobalEvents.step, scheduled]
      split
      · have := Scheduler.addEvent_other events.scheduler different schedulerMinTicks
        omega
      · exact before
    · have none : ∀ chain, event.eventType.chain = some chain → has (events.map chain) event.name = true := by
        intro chain of
        by_contra fresh
        exact starts ⟨chain, of, by simpa using fresh⟩
      obtain ⟨maps, scheduled⟩ := register_other none
      rw [GlobalEvents.step, maps chain] at empty
      rw [GlobalEvents.step, scheduled, balanced chain, if_pos empty]
  | clear fromLua =>
    have nothing : (events.clear fromLua).scheduler.pending = [] := by
      apply eq_nil_iff_forall_not_mem.mpr
      intro task listed
      exact ((mem_clear fromLua task).mp listed).2 (keeps.2 task ((mem_clear fromLua task).mp listed).1)
    rw [GlobalEvents.step, Scheduler.tasks, nothing]
    rfl
  | execute task clock executeEvent =>
    by_cases pending : task ∈ events.scheduler.pending
    · obtain ⟨_, others, delay, scheduled⟩ := execute_chain pending clock executeEvent
      rw [scheduled]
      by_cases same : chain = task.chain
      · subst same
        rw [if_pos empty, balanced.taken pending, if_pos (.inl rfl)]
      · have before := balanced.taken pending chain
        rw [if_pos (.inr ((others chain same).symm.trans empty))] at before
        split
        · exact before
        · have := Scheduler.addEvent_other (events.taken task).scheduler same delay
          omega
    · rw [GlobalEvents.step, if_neg pending] at empty ⊢
      rw [balanced chain, if_pos empty]
  | schedule => exact (balanced chain).trans (if_pos empty)

/-- A step that keeps the chains keeps one task for each map that is not empty. -/
theorem step_balanced (balanced : Balanced events) {step : Step} (keeps : Keeps events step) :
    Balanced (events.step step) := by
  intro chain
  have armed := armed_iff.mp ((step_armed_iff balanced step).mpr keeps).1 chain
  by_cases empty : (events.step step).map chain = []
  · rw [if_pos empty]
    exact step_idle balanced keeps empty
  · rw [if_neg empty]
    exact armed empty

/-- In every state of a run the chains are armed, and no task outlives a clear. -/
def ArmedAlong : List Step → GlobalEvents → Prop
  | [], events => Armed events
  | step :: rest, events => Armed events ∧ Stopped events step ∧ ArmedAlong rest (events.step step)

/-- Every step of a run keeps the chains. -/
def KeepsAlong : List Step → GlobalEvents → Prop
  | [], _ => True
  | step :: rest, events => Keeps events step ∧ KeepsAlong rest (events.step step)

theorem ArmedAlong.armed {steps : List Step} (along : ArmedAlong steps events) : Armed events := by
  cases steps with
  | nil => exact along
  | cons step rest => exact along.1

theorem Balanced.along (balanced : Balanced events) (steps : List Step) :
    ArmedAlong steps events ↔ KeepsAlong steps events := by
  induction steps generalizing events with
  | nil => exact iff_of_true balanced.armed trivial
  | cons step rest ih =>
    constructor
    · rintro ⟨_, stopped, along⟩
      have keeps := (step_armed_iff balanced step).mp ⟨along.armed, stopped⟩
      exact ⟨keeps, (ih (step_balanced balanced keeps)).mp along⟩
    · rintro ⟨keeps, along⟩
      have kept := (step_armed_iff balanced step).mpr keeps
      exact ⟨balanced.armed, kept.2, (ih (step_balanced balanced keeps)).mpr along⟩

theorem start_balanced : Balanced start := by
  intro chain
  cases chain with
  | timer | think => rfl

/-- The chains stay armed along just those runs all of whose steps keep them. -/
theorem armedAlong_iff_keepsAlong (steps : List Step) : ArmedAlong steps start ↔ KeepsAlong steps start :=
  start_balanced.along steps

def noon : GlobalEvent :=
  ⟨"noon", false, .timer, 786432, 1700000000000, by decide, by decide⟩

def minutely : GlobalEvent :=
  ⟨"minutely", false, .none, 60000, 1700000060000, by decide, by decide⟩

def morning : Clock :=
  ⟨1699990000000, by decide, by decide⟩

/-- After the timer has run once, a think event that is registered gets no task. -/
theorem not_armedAlong_register :
    ¬ ArmedAlong [.register noon, .execute ⟨1, .timer, schedulerMinTicks⟩ morning (fun _ => true), .register minutely]
      start := by
  intro along
  have armed : Armed _ := along.2.2.2.2.2.2
  have one := armed.think (by decide)
  revert one
  decide

end GlobalEvents

end Styller
