import Styller.Monster.DistanceStep

/-! Spawns: the ids of an area, the monsters registered under them, and the checks that fill the empty ids. -/

namespace Styller

structure MonsterType where
  isIgnoringSpawnBlock : Bool := false

abbrev MonsterPtr := Nat

structure SpawnBlock where
  pos : Position
  mTypes : List (MonsterType × Nat)
  lastSpawn : Int := 0
  interval : Nat

/-- What a spawn finds when it is its turn: the clock, whether `findPlayer` finds one, the numbers that are drawn, and where the
monsters are placed that are tried, if the scripts and the map allow it. -/
structure SpawnTurn where
  now : Int
  findPlayer : Bool
  roll : Nat → Nat
  place : Nat → Option Position

/-- What `spawnFunc` counts, and how many numbers are drawn and monsters are tried. -/
structure SpawnCounts where
  blockedMonsters : Nat := 0
  rolled : Nat := 0
  tried : Nat := 0

namespace SpawnTurn
variable (turn : SpawnTurn)

/-- `spawnFunc` in `Spawn::spawnMonster`: where a monster is placed. -/
def spawnFunc (isBlocked roll : Bool) : List (MonsterType × Nat) → SpawnCounts → Option Position × SpawnCounts
  | [], counts => (none, counts)
  | (mType, chance) :: rest, counts =>
    if isBlocked && !mType.isIgnoringSpawnBlock then
      spawnFunc isBlocked roll rest { counts with blockedMonsters := counts.blockedMonsters + 1 }
    else if !roll then (turn.place counts.tried, { counts with tried := counts.tried + 1 })
    else
      let rolled := { counts with rolled := counts.rolled + 1 }
      if chance ≥ turn.roll counts.rolled then
        match turn.place counts.tried with
        | some pos => (some pos, { rolled with tried := counts.tried + 1 })
        | none => spawnFunc isBlocked roll rest { rolled with tried := counts.tried + 1 }
      else spawnFunc isBlocked roll rest rolled

/-- `Spawn::spawnMonster` of a block: where a monster is placed. -/
def spawnMonster (sb : SpawnBlock) (startup : Bool) : Option Position :=
  let isBlocked := !startup && turn.findPlayer
  let monstersCount := sb.mTypes.length
  match turn.spawnFunc isBlocked (monstersCount > 1) sb.mTypes {} with
  | (some pos, _) => some pos
  | (none, counts) =>
    if monstersCount = counts.blockedMonsters then none else (turn.spawnFunc isBlocked false sb.mTypes counts).1

end SpawnTurn

structure SpawnedMonster where
  position : Position
  isRemoved : Bool := false

structure Spawn where
  centerPos : Position
  radius : Int
  spawnMap : List (Nat × SpawnBlock) := []
  spawnedMap : List (Nat × MonsterPtr) := []
  /-- Whether a check is scheduled. -/
  checkSpawnEvent : Bool := false
  monsters : MonsterPtr → SpawnedMonster := fun _ => { position := centerPos }
  placed : Nat := 0

namespace Spawn

section
variable (spawn : Spawn)

def addBlock (sb : SpawnBlock) : Spawn := { spawn with spawnMap := spawn.spawnMap ++ [(spawn.spawnMap.length + 1, sb)] }

/-- `spawnMap[spawnId].lastSpawn = now` -/
def setLastSpawn (spawnId : Nat) (now : Int) : Spawn :=
  { spawn with
    spawnMap := spawn.spawnMap.map fun entry =>
      if entry.1 = spawnId then (entry.1, { entry.2 with lastSpawn := now }) else entry }

/-- `spawnedMap.insert`, behind the entries of the same id. -/
def insert (entry : Nat × MonsterPtr) : Spawn :=
  { spawn with
    spawnedMap := spawn.spawnedMap.takeWhile (·.1 ≤ entry.1) ++ entry :: spawn.spawnedMap.dropWhile (·.1 ≤ entry.1) }

def erase (entry : Nat × MonsterPtr) : Spawn := { spawn with spawnedMap := spawn.spawnedMap.erase entry }

/-- `spawnedMap.find(spawnId) != spawnedMap.end()` -/
def isRegistered (spawnId : Nat) : Bool := spawn.spawnedMap.any (·.1 = spawnId)

/-- `Spawn::spawnMonster` of a type, once the monster is placed. -/
def register (spawnId : Nat) (pos : Position) (now : Int) : Spawn :=
  ({ spawn with
    monsters := fun ptr => if ptr = spawn.placed then { position := pos } else spawn.monsters ptr
    placed := spawn.placed + 1 }.insert (spawnId, spawn.placed)).setLastSpawn spawnId now

def startup (turns : Nat → SpawnTurn) : Spawn :=
  spawn.spawnMap.foldl (fun spawn entry =>
    match (turns entry.1).spawnMonster entry.2 true with
    | some pos => spawn.register entry.1 pos (turns entry.1).now
    | none => spawn) spawn

def isRemoved (entry : Nat × MonsterPtr) : Bool := (spawn.monsters entry.2).isRemoved

def isInSpawnZone (entry : Nat × MonsterPtr) : Bool :=
  isInZone spawn.centerPos spawn.radius (spawn.monsters entry.2).position

/-- `Spawn::cleanup` at one of the entries. -/
def cleanupEntry (now : Int) (spawn : Spawn) (entry : Nat × MonsterPtr) : Spawn :=
  if spawn.isRemoved entry then
    (if entry.1 ≠ 0 then spawn.setLastSpawn entry.1 now else spawn).erase entry
  else if !spawn.isInSpawnZone entry && entry.1 ≠ 0 then (spawn.insert (0, entry.2)).erase entry
  else spawn

/-- `Spawn::cleanup`; it does not come to the entries that it inserts, which stand in front. -/
def cleanup (now : Int) : Spawn := spawn.spawnedMap.foldl (cleanupEntry now) spawn

/-- The loop of `Spawn::checkSpawn`. -/
def checkLoop (rateSpawn : Int) (turns : Nat → SpawnTurn) : List (Nat × SpawnBlock) → Nat → Spawn → Spawn
  | [], _, spawn => spawn
  | (spawnId, sb) :: rest, spawnCount, spawn =>
    if spawn.isRegistered spawnId then checkLoop rateSpawn turns rest spawnCount spawn
    else
      let turn := turns spawnId
      if turn.now ≥ sb.lastSpawn + sb.interval then
        match turn.spawnMonster sb false with
        | none => checkLoop rateSpawn turns rest spawnCount (spawn.setLastSpawn spawnId turn.now)
        | some pos =>
          let spawned := spawn.register spawnId pos turn.now
          if (spawnCount + 1 : Nat) ≥ rateSpawn then spawned else checkLoop rateSpawn turns rest (spawnCount + 1) spawned
      else checkLoop rateSpawn turns rest spawnCount spawn

/-- `Spawn::checkSpawn`; `now` is the time of the cleanup. -/
def checkSpawn (rateSpawn now : Int) (turns : Nat → SpawnTurn) : Spawn :=
  let cleaned := ({ spawn with checkSpawnEvent := false } : Spawn).cleanup now
  let filled := checkLoop rateSpawn turns cleaned.spawnMap 0 cleaned
  if filled.spawnedMap.length < filled.spawnMap.length then { filled with checkSpawnEvent := true } else filled

def startSpawnCheck : Spawn := { spawn with checkSpawnEvent := true }

end

/-- What happens to a spawn and its monsters. -/
inductive Step where
  /-- A scheduled check runs. -/
  | check (rateSpawn now : Int) (turns : Nat → SpawnTurn)
  /-- A monster is removed; `handled` if a script for its disappearance says that it has dealt with it. -/
  | remove (ptr : MonsterPtr) (handled : Bool)
  | walk (ptr : MonsterPtr) (pos : Position)

/-- The state after a step. -/
def step (spawn : Spawn) : Step → Spawn
  | .check rateSpawn now turns => if spawn.checkSpawnEvent then spawn.checkSpawn rateSpawn now turns else spawn
  | .remove ptr handled =>
    let removed : Spawn :=
      { spawn with monsters := fun other => if other = ptr then { spawn.monsters ptr with isRemoved := true } else spawn.monsters other }
    if handled then removed else removed.startSpawnCheck
  | .walk ptr pos =>
    { spawn with monsters := fun other => if other = ptr then { spawn.monsters ptr with position := pos } else spawn.monsters other }

/-- A spawn of some blocks, after `startup`. -/
def started (centerPos : Position) (radius : Int) (blocks : List SpawnBlock) (turns : Nat → SpawnTurn) : Spawn :=
  (blocks.foldl addBlock { centerPos, radius }).startup turns

section
variable (spawn : Spawn)

/-- Every id has a monster registered under it. -/
def Full : Prop := ∀ entry ∈ spawn.spawnMap, spawn.isRegistered entry.1 = true

instance : Decidable spawn.Full := inferInstanceAs (Decidable (∀ entry ∈ spawn.spawnMap, spawn.isRegistered entry.1 = true))

/-- At most one monster is registered under an id that is not zero. -/
def Unique : Prop := ((spawn.spawnedMap.map (·.1)).filter (· ≠ 0)).Nodup

/-- After a check the ids are full or a further one is scheduled, and no id has two monsters. -/
def Right (spawn : Spawn) : Step → Prop
  | .check rateSpawn now turns =>
    spawn.checkSpawnEvent = true →
      ((spawn.checkSpawn rateSpawn now turns).Full ∨ (spawn.checkSpawn rateSpawn now turns).checkSpawnEvent = true) ∧
        (spawn.checkSpawn rateSpawn now turns).Unique
  | _ => True

def isHome (entry : Nat × MonsterPtr) : Bool := !spawn.isRemoved entry && (spawn.isInSpawnZone entry && entry.1 ≠ 0)

def strays : Nat := spawn.spawnedMap.countP fun entry => !spawn.isRemoved entry && !(spawn.isInSpawnZone entry && entry.1 ≠ 0)

def vacant : List (Nat × SpawnBlock) :=
  spawn.spawnMap.filter fun entry => !spawn.spawnedMap.any fun monster => spawn.isHome monster && monster.1 = entry.1

def lastSeen (now : Int) (entry : Nat × SpawnBlock) : Int :=
  if spawn.spawnedMap.any fun monster => spawn.isRemoved monster && monster.1 = entry.1 then now else entry.2.lastSpawn

def canFill (now : Int) (turns : Nat → SpawnTurn) (entry : Nat × SpawnBlock) : Bool :=
  (turns entry.1).now ≥ spawn.lastSeen now entry + entry.2.interval && ((turns entry.1).spawnMonster entry.2 false).isSome

/-- The ids that a check leaves empty: the vacant ones without those that can be filled, at most `rateSpawn` and at least one. -/
def missing (rateSpawn now : Int) (turns : Nat → SpawnTurn) : Nat :=
  spawn.vacant.length - min (max 1 rateSpawn).toNat (spawn.vacant.countP (spawn.canFill now turns))

/-- A check fills every id, or fewer monsters stray than ids are left empty. -/
def Allowed (spawn : Spawn) : Step → Prop
  | .check rateSpawn now turns =>
    spawn.checkSpawnEvent = true → spawn.missing rateSpawn now turns = 0 ∨ spawn.strays < spawn.missing rateSpawn now turns
  | _ => True

end

end Spawn

end Styller
