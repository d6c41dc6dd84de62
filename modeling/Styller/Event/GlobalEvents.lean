import Mathlib.Algebra.Group.Int.Defs
import Mathlib.Algebra.GroupWithZero.Nat
import Mathlib.Data.List.Sort

/-! Global events: the maps, the two chains of scheduled tasks and the scheduler's ids. -/

namespace Styller

inductive GlobalEventType where
  | none
  | timer
  | startup
  | shutdown
  | record

/-- A reading of `OTSYS_TIME`: milliseconds of a clock that counts 64-bit nanoseconds. -/
structure Clock where
  now : Int
  low : -9223372036854 ≤ now
  high : now ≤ 9223372036854

/-- `GlobalEvent`, as it is registered. Its next execution is a reading of the clock plus at
most some days. -/
structure GlobalEvent where
  name : String
  fromLua : Bool
  eventType : GlobalEventType
  interval : UInt32
  nextExecution : Int
  low : -2 ^ 62 ≤ nextExecution
  high : nextExecution ≤ 2 ^ 62

namespace GlobalEvent

/-- `setNextExecution(getNextExecution() + nextExecutionTime)` for an event that is due. -/
def postpone (event : GlobalEvent) (clock : Clock) (nextExecutionTime : UInt32)
    (due : event.nextExecution - clock.now ≤ 0) : GlobalEvent :=
  { event with
    nextExecution := event.nextExecution + nextExecutionTime.toNat
    low := by
      have := event.low
      omega
    high := by
      have := clock.high
      have := nextExecutionTime.toNat_lt
      omega }

/-- The time until an event is far from the largest 64-bit number. -/
theorem wait_lt (event : GlobalEvent) (clock : Clock) : event.nextExecution - clock.now < 2 ^ 63 - 1 := by
  have := event.high
  have := clock.low
  omega

end GlobalEvent

/-- Which function a scheduled task calls. -/
inductive Chain where
  | timer
  | think
  deriving DecidableEq

structure SchedulerTask where
  eventId : UInt32
  chain : Chain
  delay : UInt32
  deriving DecidableEq

structure Scheduler where
  lastEventId : UInt32
  pending : List SchedulerTask

namespace Scheduler

def nextId (scheduler : Scheduler) : UInt32 :=
  scheduler.lastEventId + 1

/-- `Scheduler::addEvent`. Where the id is in use, the timer of the older task is set anew,
which aborts that task, and the abort erases the timer. -/
def addEvent (scheduler : Scheduler) (chain : Chain) (delay : UInt32) : Scheduler :=
  if scheduler.pending.any (fun task => task.eventId = scheduler.nextId) then
    { lastEventId := scheduler.nextId
      pending := scheduler.pending.filter (fun task => task.eventId ≠ scheduler.nextId) }
  else
    { lastEventId := scheduler.nextId
      pending := scheduler.pending ++ [{ eventId := scheduler.nextId, chain, delay }] }

def stopEvent (scheduler : Scheduler) (eventId : UInt32) : Scheduler :=
  if eventId = 0 then scheduler
  else { scheduler with pending := scheduler.pending.filter (fun task => task.eventId ≠ eventId) }

end Scheduler

/-- `GlobalEventMap`: a map ordered by name. -/
abbrev GlobalEventMap := List GlobalEvent

namespace GlobalEventMap

def has (map : GlobalEventMap) (name : String) : Bool :=
  map.any (fun event => event.name = name)

/-- `std::map::emplace`: the map, and whether the event went in. -/
def emplace (map : GlobalEventMap) (event : GlobalEvent) : GlobalEventMap × Bool :=
  if has map event.name then (map, false)
  else (map.orderedInsert (fun a b => a.name ≤ b.name) event, true)

theorem emplace_fresh {map : GlobalEventMap} {event : GlobalEvent} (fresh : has map event.name = false) :
    emplace map event = (map.orderedInsert (fun a b => a.name ≤ b.name) event, true) := by
  simp [emplace, fresh]

theorem emplace_present {map : GlobalEventMap} {event : GlobalEvent} (present : has map event.name = true) :
    emplace map event = (map, false) := by
  simp [emplace, present]

def clearMap (map : GlobalEventMap) (fromLua : Bool) : GlobalEventMap :=
  map.filter (fun event => event.fromLua ≠ fromLua)

end GlobalEventMap

structure GlobalEvents where
  thinkMap : GlobalEventMap
  serverMap : GlobalEventMap
  timerMap : GlobalEventMap
  thinkEventId : UInt32
  timerEventId : UInt32
  scheduler : Scheduler

namespace GlobalEvents

open GlobalEventMap

variable (events : GlobalEvents)

def schedulerMinTicks : UInt32 := 50

/-- `std::numeric_limits<int64_t>::max()`. -/
def never : Int := 2 ^ 63 - 1

def clear (fromLua : Bool) : GlobalEvents :=
  { thinkMap := clearMap events.thinkMap fromLua
    serverMap := clearMap events.serverMap fromLua
    timerMap := clearMap events.timerMap fromLua
    thinkEventId := 0
    timerEventId := 0
    scheduler := (events.scheduler.stopEvent events.thinkEventId).stopEvent events.timerEventId }

/-- `GlobalEvents::registerEvent` and `GlobalEvents::registerLuaEvent`, which are the same. -/
def registerEvent (event : GlobalEvent) : Bool × GlobalEvents :=
  match event.eventType with
  | .timer =>
    match emplace events.timerMap event with
    | (map, true) =>
      let inserted := { events with timerMap := map }
      if events.timerEventId = 0 then
        (true, { inserted with
          timerEventId := events.scheduler.nextId
          scheduler := events.scheduler.addEvent .timer schedulerMinTicks })
      else (true, inserted)
    | (_, false) => (false, events)
  | .none =>
    match emplace events.thinkMap event with
    | (map, true) =>
      let inserted := { events with thinkMap := map }
      if events.thinkEventId = 0 then
        (true, { inserted with
          thinkEventId := events.scheduler.nextId
          scheduler := events.scheduler.addEvent .think schedulerMinTicks })
      else (true, inserted)
    | (_, false) => (false, events)
  | _ =>
    match emplace events.serverMap event with
    | (map, inserted) => (inserted, { events with serverMap := map })

/-- The loop of `GlobalEvents::timer`: an event whose script fails is erased. -/
def timerLoop (clock : Clock) (executeEvent : GlobalEvent → Bool) :
    GlobalEventMap → Int → GlobalEventMap × Int
  | [], nextScheduledTime => ([], nextScheduledTime)
  | event :: rest, nextScheduledTime =>
    if due : event.nextExecution - clock.now ≤ 0 then
      if executeEvent event then
        let (kept, next) := timerLoop clock executeEvent rest (min 86400000 nextScheduledTime)
        (event.postpone clock 86400000 due :: kept, next)
      else timerLoop clock executeEvent rest nextScheduledTime
    else
      let (kept, next) :=
        timerLoop clock executeEvent rest (min (event.nextExecution - clock.now) nextScheduledTime)
      (event :: kept, next)

/-- `GlobalEvents::timer`; the id of the next task goes into the other chain's variable. -/
def timer (clock : Clock) (executeEvent : GlobalEvent → Bool) : GlobalEvents :=
  match timerLoop clock executeEvent events.timerMap never with
  | (map, nextScheduledTime) =>
    if nextScheduledTime ≠ never then
      { events with
        timerMap := map
        thinkEventId := events.scheduler.nextId
        scheduler := events.scheduler.addEvent .timer (UInt32.ofInt nextScheduledTime) }
    else { events with timerMap := map }

/-- The loop of `GlobalEvents::think`: an event whose script fails is reported and kept. -/
def thinkLoop (clock : Clock) : GlobalEventMap → Int → GlobalEventMap × Int
  | [], nextScheduledTime => ([], nextScheduledTime)
  | event :: rest, nextScheduledTime =>
    if due : event.nextExecution - clock.now ≤ 0 then
      let (kept, next) := thinkLoop clock rest (min event.interval.toNat nextScheduledTime)
      (event.postpone clock event.interval due :: kept, next)
    else
      let (kept, next) :=
        thinkLoop clock rest (min (event.nextExecution - clock.now) nextScheduledTime)
      (event :: kept, next)

/-- `GlobalEvents::think`; the id of the next task goes into the other chain's variable. -/
def think (clock : Clock) : GlobalEvents :=
  match thinkLoop clock events.thinkMap never with
  | (map, nextScheduledTime) =>
    if nextScheduledTime ≠ never then
      { events with
        thinkMap := map
        timerEventId := events.scheduler.nextId
        scheduler := events.scheduler.addEvent .think (UInt32.ofInt (max 1000 nextScheduledTime)) }
    else { events with thinkMap := map }

/-- No events and no tasks. -/
def start : GlobalEvents where
  thinkMap := []
  serverMap := []
  timerMap := []
  thinkEventId := 0
  timerEventId := 0
  scheduler := { lastEventId := 0, pending := [] }

inductive Step where
  | register (event : GlobalEvent)
  | clear (fromLua : Bool)
  | execute (task : SchedulerTask) (clock : Clock) (executeEvent : GlobalEvent → Bool)
  /-- Another part of the server schedules a task of its own. -/
  | schedule

/-- A task that is executed is no longer pending. -/
def taken (task : SchedulerTask) : GlobalEvents :=
  { events with scheduler :=
      { events.scheduler with pending := events.scheduler.pending.erase task } }

/-- The state after a step; a task that is not pending is not executed. -/
def step : Step → GlobalEvents
  | .register event => (events.registerEvent event).2
  | .clear fromLua => events.clear fromLua
  | .execute task clock executeEvent =>
    if task ∈ events.scheduler.pending then
      match task.chain with
      | .timer => (events.taken task).timer clock executeEvent
      | .think => (events.taken task).think clock
    else events
  | .schedule => { events with scheduler := { events.scheduler with lastEventId := events.scheduler.nextId } }

end GlobalEvents

end Styller
