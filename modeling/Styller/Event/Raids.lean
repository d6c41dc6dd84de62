import Mathlib.Data.List.Sort
import Styller.Library.Run

/-! Raids: the list that is checked from time to time, the raid that runs, and the tasks of the scheduler for both. -/

namespace Styller

open Library

inductive RaidState where
  | idle
  | executing

structure RaidEvent where
  delay : UInt32

structure Raid where
  raidEvents : List RaidEvent
  interval : Nat
  margin : Nat
  canBeRepeated : Bool
  nextEvent : Nat := 0
  state : RaidState := .idle
  nextEventEvent : Nat := 0

def Raid.getNextRaidEvent (raid : Raid) : Option RaidEvent := raid.raidEvents[raid.nextEvent]?

abbrev RaidPtr := Nat

inductive RaidTask where
  | checkRaids
  | executeRaidEvent (raid : RaidPtr) (raidEvent : RaidEvent)

/-- A task of the scheduler that has not run. -/
structure PendingRaidTask where
  eventId : Nat
  task : RaidTask
  delay : UInt32

/-- The raid whose event a task is. -/
def PendingRaidTask.raid (pending : PendingRaidTask) : Option RaidPtr :=
  match pending.task with
  | .checkRaids => none
  | .executeRaidEvent raid _ => some raid

/-- `Raids`, with the raids that it points to, and the scheduler. The ids of tasks do not come round. -/
structure Raids where
  raids : RaidPtr → Raid
  allocated : Nat := 0
  raidList : List RaidPtr := []
  running : Option RaidPtr := none
  lastRaidEnd : Nat := 0
  checkRaidsEvent : Nat := 0
  loaded : Bool := false
  started : Bool := false
  lastEventId : Nat := 0
  pending : List PendingRaidTask := []

namespace Raids

section
variable (raids : Raids)

/-- `CHECK_RAIDS_INTERVAL`, `RAID_MINTICKS` and `MAX_RAND_RANGE`. -/
def checkRaidsInterval : Nat := 60
def raidMinTicks : Int := 1000
def maxRandRange : Nat := 10000000

def setRaid (ptr : RaidPtr) (raid : Raid) : Raids := { raids with raids := Function.update raids.raids ptr raid }

/-- `Scheduler::addEvent`; the id of the task is the new `lastEventId`. -/
def addEvent (task : RaidTask) (delay : UInt32) : Raids :=
  { raids with
    lastEventId := raids.lastEventId + 1
    pending := raids.pending ++ [{ eventId := raids.lastEventId + 1, task, delay }] }

/-- `Scheduler::stopEvent` -/
def stopEvent (eventId : Nat) : Raids :=
  if eventId = 0 then raids else { raids with pending := raids.pending.filter fun task => task.eventId ≠ eventId }

def schedule (ptr : RaidPtr) (raidEvent : RaidEvent) (ticks : UInt32) : Raids :=
  let added := raids.addEvent (.executeRaidEvent ptr raidEvent) ticks
  added.setRaid ptr { added.raids ptr with nextEventEvent := added.lastEventId }

def startRaid (ptr : RaidPtr) : Raids :=
  match (raids.raids ptr).getNextRaidEvent with
  | some raidEvent => (raids.setRaid ptr { raids.raids ptr with state := .executing }).schedule ptr raidEvent raidEvent.delay
  | none => raids

def resetRaid (ptr : RaidPtr) (now : Nat) : Raids :=
  { raids.setRaid ptr { raids.raids ptr with nextEvent := 0, state := .idle } with running := none, lastRaidEnd := now }

/-- `Raid::executeRaidEvent`, by whether the event succeeds. -/
def executeRaidEvent (ptr : RaidPtr) (raidEvent : RaidEvent) (success : Bool) (now : Nat) : Raids :=
  if success then
    let passed := raids.setRaid ptr { raids.raids ptr with nextEvent := (raids.raids ptr).nextEvent + 1 }
    match (passed.raids ptr).getNextRaidEvent with
    | some newRaidEvent =>
      let between : Int := (newRaidEvent.delay - raidEvent.delay).toInt32.toInt
      passed.schedule ptr newRaidEvent (UInt32.ofInt (max raidMinTicks between))
    | none => passed.resetRaid ptr now
  else raids.resetRaid ptr now

def stopEvents (ptr : RaidPtr) : Raids :=
  let nextEventEvent := (raids.raids ptr).nextEventEvent
  if nextEventEvent ≠ 0 then
    (raids.stopEvent nextEventEvent).setRaid ptr { raids.raids ptr with nextEventEvent := 0 }
  else raids

/-- The raid at which the loop of `checkRaids` stops; `draw` gives the numbers that are drawn. -/
def chosen (now : Nat) (draw : Nat → Nat) : Nat → List RaidPtr → Option RaidPtr
  | _, [] => none
  | drawn, ptr :: rest =>
    let raid := raids.raids ptr
    if now ≥ raids.lastRaidEnd + raid.margin then
      if maxRandRange * checkRaidsInterval / raid.interval ≥ draw drawn then some ptr else chosen now draw (drawn + 1) rest
    else chosen now draw drawn rest

/-- The next check. -/
def scheduleCheck : Raids :=
  let added := raids.addEvent .checkRaids (UInt32.ofNat (checkRaidsInterval * 1000))
  { added with checkRaidsEvent := added.lastEventId }

/-- What `checkRaids` does with the raid that it has chosen. -/
def startChosen (ptr : RaidPtr) : Raids :=
  let begun := ({ raids with running := some ptr } : Raids).startRaid ptr
  if (raids.raids ptr).canBeRepeated then begun else { begun with raidList := begun.raidList.erase ptr }

def checkRaids (now : Nat) (draw : Nat → Nat) : Raids :=
  let checked :=
    if raids.running = none then
      match raids.chosen now draw 0 raids.raidList with
      | some ptr => raids.startChosen ptr
      | none => raids
    else raids
  checked.scheduleCheck

def clear : Raids :=
  { raids.raidList.foldl stopEvents (raids.stopEvent raids.checkRaidsEvent) with
    raidList := []
    running := none
    lastRaidEnd := 0
    checkRaidsEvent := 0
    loaded := false
    started := false }

structure Definition where
  raidEvents : List RaidEvent
  interval : Nat
  margin : Nat
  canBeRepeated : Bool

/-- What `loadFromXml` makes of a definition: its events in the order of their delays. -/
def Definition.load (definition : Definition) : Raid where
  raidEvents := definition.raidEvents.insertionSort fun lhs rhs => lhs.delay ≤ rhs.delay
  interval := definition.interval
  margin := definition.margin
  canBeRepeated := definition.canBeRepeated

/-- The raids of the list are new ones. -/
def allocate : List Definition → Raids → Raids
  | [], raids => raids
  | definition :: rest, raids =>
    if definition.interval = 0 then allocate rest raids
    else
      allocate rest { raids.setRaid raids.allocated definition.load with
        allocated := raids.allocated + 1
        raidList := raids.raidList ++ [raids.allocated] }

/-- `Raids::loadFromXml`, from the definitions in the files, if `raids.xml` can be read. -/
def loadFromXml (definitions : Option (List Definition)) : Bool × Raids :=
  if raids.loaded then (true, raids)
  else
    match definitions with
    | none => (false, raids)
    | some definitions => (true, { allocate definitions raids with loaded := true })

def startup (now : Nat) : Raids :=
  if ¬ raids.loaded ∨ raids.started then raids
  else { ({ raids with lastRaidEnd := now } : Raids).scheduleCheck with started := true }

/-- `raids.reload() && raids.startup()` -/
def reload (definitions : Option (List Definition)) (now : Nat) : Raids :=
  match raids.clear.loadFromXml definitions with
  | (true, loaded) => loaded.startup now
  | (false, cleared) => cleared

/-- `Game.startRaid` of the scripts, for the raid that `getRaidByName` finds. -/
def luaGameStartRaid (ptr : RaidPtr) : Raids :=
  if ptr ∈ raids.raidList ∧ raids.running = none then ({ raids with running := some ptr } : Raids).startRaid ptr else raids

end

inductive Step where
  /-- A task of the scheduler runs. -/
  | run (eventId : Nat) (now : Nat) (draw : Nat → Nat) (success : Bool)
  | reload (definitions : Option (List Definition)) (now : Nat)
  | luaGameStartRaid (ptr : RaidPtr)

/-- A task that is run is no longer pending. -/
def taken (raids : Raids) (eventId : Nat) : Raids :=
  { raids with pending := raids.pending.filter fun task => task.eventId ≠ eventId }

/-- The state after a step; a task that is not pending is not run. -/
def step (raids : Raids) : Step → Raids
  | .run eventId now draw success =>
    match raids.pending.find? fun task => task.eventId = eventId with
    | none => raids
    | some task =>
      match task.task with
      | .checkRaids => (raids.taken eventId).checkRaids now draw
      | .executeRaidEvent ptr raidEvent => (raids.taken eventId).executeRaidEvent ptr raidEvent success now
  | .reload definitions now => raids.reload definitions now
  | .luaGameStartRaid ptr => raids.luaGameStartRaid ptr

def initial : Raids where
  raids := fun _ => { raidEvents := [], interval := 0, margin := 0, canBeRepeated := false }

/-- The raids of which an event is pending, once for each event. -/
def executing (raids : Raids) : List RaidPtr := raids.pending.filterMap PendingRaidTask.raid

/-- At most one event is pending, and it is one of the raid that runs; if none is, no raid runs. -/
def Sound (raids : Raids) : Prop := raids.executing = raids.running.toList

instance (raids : Raids) : Decidable raids.Sound := inferInstanceAs (Decidable (raids.executing = raids.running.toList))

/-- The raid that a step starts has an event, and a reload finds the raid that runs in the list. -/
def Allowed (raids : Raids) : Step → Prop
  | .run eventId now draw _ =>
    (∃ task ∈ raids.pending, task.eventId = eventId ∧ task.task = .checkRaids) → raids.running = none →
      ∀ ptr, raids.chosen now draw 0 raids.raidList = some ptr → (raids.raids ptr).raidEvents ≠ []
  | .reload _ _ => ∀ ptr, raids.running = some ptr → ptr ∈ raids.raidList
  | .luaGameStartRaid ptr => ptr ∈ raids.raidList → raids.running = none → (raids.raids ptr).raidEvents ≠ []

end Raids

end Styller
