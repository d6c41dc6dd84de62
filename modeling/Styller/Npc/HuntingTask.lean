import Mathlib.Data.List.FinRange
import Mathlib.Data.List.Perm.Subperm

/-! The hunting tasks: what a player starts, cancels and reports at the task NPC, and the kills in
between. The trade and the texts of the answers are left out. -/

namespace Styller

open List Function Option

/-- The storages of `Storage.bossRoom` that tasks open. -/
inductive BossRoom where
  | thul
  | theOldWidow
  | theMany
  | theNoxiousSpawn
  | stonecracker
  | leviathan
  | demodras
  | demons
  deriving DecidableEq

inductive TaskReward where
  | exp (value : Nat)
  | storage (room : BossRoom) (value : Int)
  | points (value : Int)
  deriving DecidableEq

/-- An entry of `tasks`. None of them has a name, a rank, a storage or a premium condition, and all
may be repeated. -/
structure HuntingTask where
  killsRequired : Int
  level : Nat × Nat
  creatures : List String
  rewards : List TaskReward

/-- The place of a task in `tasks`, counted from 0. -/
abbrev TaskId := Fin 9

def tasksByPlayer : Nat := 3

def huntingTasks : TaskId → HuntingTask
  | 0 => ⟨600, (50, 999),
      ["quara hydromancer", "quara predator", "quara constrictor", "quara mantassin", "quara pincher"],
      [.exp 15000, .storage .thul 1, .points 3]⟩
  | 1 => ⟨500, (50, 999), ["giant spider"], [.exp 20000, .storage .theOldWidow 1, .points 3]⟩
  | 2 => ⟨650, (100, 9999), ["hydra"], [.exp 30000, .storage .theMany 1, .points 3]⟩
  | 3 => ⟨800, (100, 9999), ["serpent spawn"], [.exp 30000, .storage .theNoxiousSpawn 1, .points 4]⟩
  | 4 => ⟨500, (100, 9999), ["medusa"], [.exp 40000, .points 5]⟩
  | 5 => ⟨700, (100, 9999), ["behemoth"], [.exp 30000, .storage .stonecracker 1, .points 4]⟩
  | 6 => ⟨900, (100, 9999), ["sea serpent"], [.exp 30000, .storage .leviathan 1, .points 4]⟩
  | 7 => ⟨1000, (100, 9999), ["dragon lord"], [.exp 100000, .storage .demodras 1, .points 4]⟩
  | 8 => ⟨6666, (130, 9999), ["demon"], [.storage .demons 1, .points 5]⟩

theorem killsRequired_pos (task : TaskId) : 0 < (huntingTasks task).killsRequired := by
  revert task
  decide

/-- What `creatureSayCallback` asks about a text: which words it holds or is, and of which task it is
the name. -/
structure TaskMessage where
  trade : Bool := false
  join : Bool := false
  tasks : Bool := false
  race : Option TaskId := none
  yes : Bool := false
  status : Bool := false
  report : Bool := false
  started : Bool := false
  cancel : Bool := false
  points : Bool := false

/-- What has happened to the tasks of a player, for the record. -/
inductive TaskEntry where
  | start (task : TaskId) (level : Nat)
  | kill (task : TaskId)
  | cancel (task : TaskId)
  | pay (task : TaskId) (rewards : List TaskReward)
  | report

/-! The lifecycle that a task is meant to have. -/

abbrev TaskLife := TaskId → Option Nat

/-- An entry, where it is allowed: a start at a level in the range, the whole payment of a task whose
quota has been reached, and a report that leaves no such task. -/
def TaskEntry.apply (entry : TaskEntry) (life : TaskLife) : Option TaskLife :=
  match entry with
  | .start task level =>
    if life task = none ∧ (huntingTasks task).level.1 ≤ level ∧ level ≤ (huntingTasks task).level.2 then
      some (Function.update life task (some 0))
    else none
  | .kill task => some (Function.update life task ((life task).map (· + 1)))
  | .cancel task => some (Function.update life task none)
  | .pay task rewards =>
    if (life task).any (fun kills => (huntingTasks task).killsRequired ≤ kills) ∧ rewards = (huntingTasks task).rewards then
      some (Function.update life task none)
    else none
  | .report => if ∀ task, (life task).all fun kills => kills < (huntingTasks task).killsRequired then some life else none

def TaskLife.replay (history : List TaskEntry) : Option TaskLife := history.foldlM (fun life entry => entry.apply life) fun _ => none

/-- A player with his storage values, and what the NPC remembers of him. A value that is not set is
nil. -/
structure TaskPlayer where
  level : Nat
  taskStorage : TaskId → Option Int
  killsStorage : TaskId → Option Int
  pointsTask : Option Int
  storageJoin : Option Int
  focused : Bool := false
  topic : Nat := 0
  choose : Option TaskId := none
  cancel : Option TaskId := none
  history : List TaskEntry := []

/-- What the NPC does after a message. -/
inductive TaskAnswer where
  | nothing
  | join
  | reset
  | choose (task : TaskId)
  | start (task : TaskId)
  | report (started : List TaskId)
  | ask
  | confirm (task : TaskId)
  | cancel (task : TaskId)

namespace TaskPlayer

variable (player : TaskPlayer)

def setTask (task : TaskId) (value : Int) : TaskPlayer :=
  { player with taskStorage := Function.update player.taskStorage task (some value) }

def setKills (task : TaskId) (value : Int) : TaskPlayer :=
  { player with killsStorage := Function.update player.killsStorage task (some value) }

def AllSet : Prop := ∀ task, (player.taskStorage task).isSome

instance : Decidable player.AllSet := inferInstanceAs (Decidable (∀ task, (player.taskStorage task).isSome))

/-- `Player.getTasks`, which fails on a value that is not set. -/
def getTasks : Option (List TaskId) :=
  if player.AllSet then
    some ((List.finRange 9).filter fun task =>
      (player.taskStorage task).any (· < 1) ∧
        ¬(player.level < (huntingTasks task).level.1 ∨ player.level > (huntingTasks task).level.2))
  else none

/-- `Player.canStartTask` for the name of a task. -/
def canStartTask (task : TaskId) : Option Bool :=
  (player.taskStorage task).map fun value =>
    if value > 0 then false
    else if player.level < (huntingTasks task).level.1 ∧ player.level > (huntingTasks task).level.2 then false
    else true

/-- `Player.getStartedTasks`, which fails on a value that is not set. -/
def getStartedTasks : Option (List TaskId) :=
  if player.AllSet then
    some ((List.finRange 9).filter fun task => (player.taskStorage task).any fun value => value > 0 ∧ value < 2)
  else none

/-- The last branches of `creatureSayCallback`. -/
def answerLast (msg : TaskMessage) : TaskAnswer :=
  if msg.yes ∧ player.topic = 3 then
    match player.cancel with
    | none => .nothing
    | some task => .cancel task
  else if msg.points ∧ player.pointsTask ≠ none then .reset
  else .nothing

/-- The branches for the name of a started task, which read its kills. -/
def answerName (msg : TaskMessage) : TaskAnswer :=
  match msg.race with
  | none => player.answerLast msg
  | some task =>
    if player.topic = 2 ∨ player.topic = 1 then
      match player.getStartedTasks with
      | none => .nothing
      | some started =>
        if task ∈ started then
          if player.killsStorage task = none then .nothing
          else if player.topic = 2 then .confirm task
          else .reset
        else player.answerLast msg
    else player.answerLast msg

/-- The branches after `canStartTask`. -/
def answerRest (msg : TaskMessage) : TaskAnswer :=
  if msg.yes ∧ player.topic = 1 then
    match player.choose with
    | none => .nothing
    | some task => .start task
  else if msg.status then .nothing
  else if msg.report then
    match player.getStartedTasks with
    | none => .nothing
    | some started => .report started
  else if msg.started then .nothing
  else if msg.cancel then
    match player.getStartedTasks with
    | none => .nothing
    | some started => if started ≠ [] then .ask else .nothing
  else player.answerName msg

/-- The branch of `creatureSayCallback` that a message takes; an error ends in no effect. -/
def answer (msg : TaskMessage) : TaskAnswer :=
  if ¬player.focused then .nothing
  else if msg.trade then .nothing
  else if msg.join ∧ player.topic = 0 ∧ player.storageJoin ≠ some 1 then .join
  else if msg.tasks then
    match player.getTasks with
    | none => .nothing
    | some can => if can ≠ [] then .reset else .nothing
  else
    match msg.race with
    | none => player.answerRest msg
    | some task =>
      match player.canStartTask task with
      | none => .nothing
      | some false => player.answerRest msg
      | some true =>
        match player.getStartedTasks with
        | none => .nothing
        | some started => if started.length ≥ tasksByPlayer then .nothing else .choose task

/-- The loop over the rewards: what is paid of them, the points, and whether it gets to the end.
`Player.getTaskPoints` fails where there are no points. -/
def payRewards : List TaskReward → Option Int → List TaskReward × Option Int × Bool
  | [], points => ([], points, true)
  | .points value :: later, points =>
    match points with
    | none => ([], none, false)
    | some before =>
      let (paid, after, complete) := payRewards later (some (max before 0 + value))
      (.points value :: paid, after, complete)
  | reward :: later, points =>
    let (paid, after, complete) := payRewards later points
    (reward :: paid, after, complete)

/-- The payment of a task, and whether it gets to the end. -/
def pay (task : TaskId) : TaskPlayer × Bool :=
  let (paid, points, complete) := payRewards (huntingTasks task).rewards player.pointsTask
  let player := { player with pointsTask := points, history := player.history ++ [.pay task paid] }
  if complete then ((player.setTask task 0).setKills task (-1), true) else (player, false)

/-- The loop of "report" over the started tasks. -/
def reportTasks : List TaskId → TaskPlayer → TaskPlayer
  | [], player => player
  | task :: later, player =>
    match player.killsStorage task with
    | none => player
    | some kills =>
      if kills ≥ (huntingTasks task).killsRequired then
        match player.pay task with
        | (player, true) => reportTasks later player
        | (player, false) => player
      else reportTasks later player

def act : TaskAnswer → TaskPlayer
  | .nothing => player
  | .join => { player with storageJoin := some 1 }
  | .reset => { player with topic := 0 }
  | .choose task => { player with choose := some task, topic := 1 }
  | .start task =>
    { (player.setTask task 1).setKills task 0 with
      choose := none, topic := 0, history := player.history ++ [.start task player.level] }
  | .report started =>
    let player := reportTasks started player
    { player with history := player.history ++ [.report] }
  | .ask => { player with topic := 2 }
  | .confirm task => { player with topic := 3, cancel := some task }
  | .cancel task =>
    { (player.setTask task (-1)).setKills task (-1) with topic := 0, history := player.history ++ [.cancel task] }

/-- The loop of `onKill` over the started tasks. -/
def countKills (target : String) : List TaskId → TaskPlayer → TaskPlayer
  | [], player => player
  | task :: later, player =>
    if target ∈ (huntingTasks task).creatures then
      match player.killsStorage task with
      | none => player
      | some kills =>
        countKills target later
          (if kills < (huntingTasks task).killsRequired then player.setKills task (kills + 1) else player)
    else countKills target later player

/-- `onKill` of a monster without a master. -/
def onKill (target : String) : TaskPlayer :=
  let counted :=
    match player.getStartedTasks with
    | none => player
    | some started => countKills target started player
  { counted with
    history := counted.history ++
      ((List.finRange 9).filter fun task => target ∈ (huntingTasks task).creatures).map TaskEntry.kill }

/-- What happens to a player. He gets a new id when he comes back, which the NPC does not know. -/
inductive Event where
  | say (msg : TaskMessage)
  | greet
  | farewell
  | kill (target : String)
  | setLevel (level : Nat)
  | relog

def step : Event → TaskPlayer
  | .say msg => player.act (player.answer msg)
  | .greet => if player.focused then player else { player with focused := true, topic := 0 }
  | .farewell => { player with focused := false, topic := 0 }
  | .kill target => player.onKill target
  | .setLevel level => { player with level := level }
  | .relog => { player with focused := false, topic := 0, choose := none, cancel := none }

def run (events : List Event) : TaskPlayer := events.foldl step player

def Started (task : TaskId) : Prop := player.taskStorage task = some 1

instance (task : TaskId) : Decidable (player.Started task) := inferInstanceAs (Decidable (_ = _))

def startedTasks : List TaskId := (List.finRange 9).filter fun task => player.Started task

/-- The started tasks are few, and they and their counters follow the lifecycle. -/
structure Proper : Prop where
  few : player.startedTasks.length ≤ tasksByPlayer
  lived : ∃ life, TaskLife.replay player.history = some life ∧ (∀ task, player.Started task ↔ (life task).isSome) ∧
    ∀ task kills, life task = some kills →
      player.killsStorage task = some (min (kills : Int) (huntingTasks task).killsRequired)

/-- A task is started at a level in its range, and what is paid finds the points of the player. -/
def Careful : Event → Prop
  | .say msg =>
    match player.answer msg with
    | .start task => (huntingTasks task).level.1 ≤ player.level ∧ player.level ≤ (huntingTasks task).level.2
    | .report started => (∃ task ∈ started, (player.killsStorage task).any (· ≥ (huntingTasks task).killsRequired)) →
        player.pointsTask ≠ none
    | _ => True
  | _ => True

def AllCareful : List Event → TaskPlayer → Prop
  | [], _ => True
  | event :: later, player => player.Careful event ∧ AllCareful later (player.step event)

/-! The storages and the started tasks. -/

section

variable {player next : TaskPlayer} {task other : TaskId}

theorem any_started (value : Option Int) : (value.any fun value => value > 0 ∧ value < 2) = decide (value = some 1) := by
  cases value with
  | none => rfl
  | some value =>
    simp only [any_some, some.injEq]
    exact decide_eq_decide.mpr (by omega)

theorem getStartedTasks_eq : player.getStartedTasks = if player.AllSet then some player.startedTasks else none := by
  unfold getStartedTasks startedTasks
  simp only [any_started]
  rfl

theorem mem_startedTasks : task ∈ player.startedTasks ↔ player.Started task := by
  simp [startedTasks]

theorem nodup_startedTasks (player : TaskPlayer) : player.startedTasks.Nodup := (nodup_finRange 9).filter _

/-- At most one task more than before. -/
theorem length_startedTasks_le (started : ∀ other, next.Started other → other = task ∨ player.Started other) :
    next.startedTasks.length ≤ player.startedTasks.length + 1 := by
  have subset : next.startedTasks ⊆ task :: player.startedTasks := by
    intro other here
    rw [mem_cons, mem_startedTasks]
    exact started other (mem_startedTasks.mp here)
  exact ((nodup_startedTasks next).subperm subset).length_le

theorem length_startedTasks_mono (started : ∀ other, next.Started other → player.Started other) :
    next.startedTasks.length ≤ player.startedTasks.length := by
  refine ((nodup_startedTasks next).subperm fun other here => ?_).length_le
  exact mem_startedTasks.mpr (started other (mem_startedTasks.mp here))

theorem taskStorage_setTask (player : TaskPlayer) (task : TaskId) (value : Int) (other : TaskId) :
    (player.setTask task value).taskStorage other = if other = task then some value else player.taskStorage other := by
  unfold setTask
  exact update_apply _ _ _ _

theorem killsStorage_setKills (player : TaskPlayer) (task : TaskId) (value : Int) (other : TaskId) :
    (player.setKills task value).killsStorage other = if other = task then some value else player.killsStorage other := by
  unfold setKills
  exact update_apply _ _ _ _

theorem started_setTask (value : Int) :
    (player.setTask task value).Started other ↔ if other = task then value = 1 else player.Started other := by
  unfold Started
  rw [taskStorage_setTask]
  split_ifs <;> simp

theorem AllSet.setTask (set : player.AllSet) (task : TaskId) (value : Int) : (player.setTask task value).AllSet := by
  intro other
  rw [taskStorage_setTask]
  split_ifs
  · rfl
  · exact set other

end

section

variable {history : List TaskEntry} {life : TaskLife}

theorem replay_append (replayed : TaskLife.replay history = some life) (later : List TaskEntry) :
    TaskLife.replay (history ++ later) = later.foldlM (fun life entry => entry.apply life) life := by
  unfold TaskLife.replay at *
  rw [foldlM_append, replayed]
  rfl

theorem replay_append_one (replayed : TaskLife.replay history = some life) (entry : TaskEntry) :
    TaskLife.replay (history ++ [entry]) = entry.apply life := by
  rw [replay_append replayed]
  simp

/-- Kills of different tasks count each for its own. -/
theorem foldlM_kills {tasks : List TaskId} (nodup : tasks.Nodup) (life : TaskLife) :
    (tasks.map TaskEntry.kill).foldlM (fun life entry => entry.apply life) life =
      some fun task => if task ∈ tasks then (life task).map (· + 1) else life task := by
  induction tasks generalizing life with
  | nil => simp
  | cons task tasks ih =>
    rw [nodup_cons] at nodup
    rw [map_cons, foldlM_cons]
    show (tasks.map TaskEntry.kill).foldlM _ (update life task ((life task).map (· + 1))) = _
    rw [ih nodup.2]
    congr 1
    funext other
    rw [update_apply]
    by_cases same : other = task
    · subst same
      simp [nodup.1]
    · simp [same]

end

/-! What the dialog and the kills keep. -/

/-- The player follows a lifecycle, and a task that is about to be started is free. -/
structure Tracked (player : TaskPlayer) (life : TaskLife) : Prop where
  replayed : TaskLife.replay player.history = some life
  running : ∀ task, player.Started task ↔ (life task).isSome
  counted : ∀ task kills, life task = some kills →
    player.killsStorage task = some (min (kills : Int) (huntingTasks task).killsRequired)
  few : player.startedTasks.length ≤ tasksByPlayer
  set : ∀ task, player.Started task → player.AllSet
  chosen : player.topic = 1 → ∃ task, player.choose = some task ∧ ¬ player.Started task ∧ player.AllSet ∧
    player.startedTasks.length < tasksByPlayer

section

variable {player : TaskPlayer} {life : TaskLife} {task : TaskId}

theorem Tracked.proper (tracked : Tracked player life) : Proper player :=
  ⟨tracked.few, life, tracked.replayed, tracked.running, tracked.counted⟩

/-- What the branches promise about the answer. -/
def Allowed (player : TaskPlayer) : TaskAnswer → Prop
  | .choose task => ¬ player.Started task ∧ player.AllSet ∧ player.startedTasks.length < tasksByPlayer
  | .start task => player.topic = 1 ∧ player.choose = some task
  | .report started => player.AllSet ∧ started = player.startedTasks
  | _ => True

theorem allowed_answerLast (player : TaskPlayer) (msg : TaskMessage) : player.Allowed (player.answerLast msg) := by
  unfold answerLast
  repeat' split
  all_goals trivial

theorem allowed_answerName (player : TaskPlayer) (msg : TaskMessage) : player.Allowed (player.answerName msg) := by
  unfold answerName
  repeat' split
  all_goals first
    | exact allowed_answerLast player msg
    | trivial

theorem allowed_answerRest (player : TaskPlayer) (msg : TaskMessage) : player.Allowed (player.answerRest msg) := by
  unfold answerRest
  split
  · next start =>
    split
    · trivial
    · next task chosen => exact ⟨start.2, chosen⟩
  · split
    · trivial
    · split
      · split
        · trivial
        · next started found =>
          rw [getStartedTasks_eq] at found
          split_ifs at found with set
          exact ⟨set, (some.inj found).symm⟩
      · repeat' split
        all_goals first
          | exact allowed_answerName player msg
          | trivial

theorem allowed_answer (player : TaskPlayer) (msg : TaskMessage) : player.Allowed (player.answer msg) := by
  unfold answer
  split
  · trivial
  · split
    · trivial
    · split
      · trivial
      · split
        · repeat' split
          all_goals trivial
        · split
          · exact allowed_answerRest player msg
          · next task _ =>
            split
            · trivial
            · exact allowed_answerRest player msg
            · next can =>
              rw [getStartedTasks_eq]
              by_cases set : player.AllSet
              · rw [if_pos set]
                dsimp only
                split_ifs with full
                · trivial
                · refine ⟨fun started => ?_, set, Nat.lt_of_not_le full⟩
                  unfold canStartTask at can
                  rw [started] at can
                  simp at can
              · rw [if_neg set]
                trivial

/-- The topic, the choices and the level are not in the lifecycle. -/
theorem Tracked.frame (tracked : Tracked player life) {next : TaskPlayer} (tasks : next.taskStorage = player.taskStorage)
    (kills : next.killsStorage = player.killsStorage) (history : next.history = player.history)
    (chosen : next.topic = 1 → ∃ task, next.choose = some task ∧ ¬ player.Started task ∧ player.AllSet ∧
      player.startedTasks.length < tasksByPlayer) : Tracked next life := by
  have started : ∀ task, next.Started task ↔ player.Started task := fun task => by rw [Started, Started, tasks]
  have list : next.startedTasks = player.startedTasks := by
    unfold startedTasks
    simp only [started]
  have all : next.AllSet ↔ player.AllSet := by rw [AllSet, AllSet, tasks]
  refine ⟨history ▸ tracked.replayed, fun task => (started task).trans (tracked.running task), ?_, ?_, ?_, ?_⟩
  · rw [kills]
    exact tracked.counted
  · rw [list]
    exact tracked.few
  · exact fun task begun => all.mpr (tracked.set task ((started task).mp begun))
  · intro topic
    obtain ⟨task, choice, free, set, room⟩ := chosen topic
    exact ⟨task, choice, fun begun => free ((started task).mp begun), all.mpr set, list ▸ room⟩

theorem Tracked.stop (tracked : Tracked player life) {value : Int} (idle : value ≠ 1) {entry : TaskEntry}
    (ended : entry.apply life = some (update life task none)) {next : TaskPlayer}
    (tasks : next.taskStorage = (player.setTask task value).taskStorage)
    (kills : next.killsStorage = (player.setKills task (-1)).killsStorage)
    (history : next.history = player.history ++ [entry]) (topic : next.topic = 1 → player.topic = 1)
    (choose : next.choose = player.choose) : Tracked next (update life task none) := by
  have started : ∀ other, next.Started other ↔ other ≠ task ∧ player.Started other := by
    intro other
    have same : next.Started other ↔ (player.setTask task value).Started other := by rw [Started, Started, tasks]
    rw [same, started_setTask]
    split_ifs with here
    · simp [here, idle]
    · simp [here]
  have all : player.AllSet → next.AllSet := by
    intro set
    rw [AllSet, tasks]
    exact set.setTask task value
  have fewer : next.startedTasks.length ≤ player.startedTasks.length :=
    length_startedTasks_mono fun other begun => ((started other).mp begun).2
  refine ⟨?_, ?_, ?_, fewer.trans tracked.few, ?_, ?_⟩
  · rw [history, replay_append_one tracked.replayed, ended]
  · intro other
    rw [started, update_apply, tracked.running]
    split_ifs with here
    · simp [here]
    · simp [here]
  · intro other count running
    rw [update_apply] at running
    split_ifs at running with here
    rw [kills, killsStorage_setKills, if_neg here]
    exact tracked.counted other count running
  · exact fun other begun => all (tracked.set other ((started other).mp begun).2)
  · intro now
    obtain ⟨other, choice, free, set, room⟩ := tracked.chosen (topic now)
    exact ⟨other, choose.trans choice, fun begun => free ((started other).mp begun).2, all set, fewer.trans_lt room⟩

theorem Tracked.start (tracked : Tracked player life) (topic : player.topic = 1) (choice : player.choose = some task)
    (level : (huntingTasks task).level.1 ≤ player.level ∧ player.level ≤ (huntingTasks task).level.2) :
    Tracked (player.act (.start task)) (update life task (some 0)) := by
  obtain ⟨other, same, free, set, room⟩ := tracked.chosen topic
  cases choice.symm.trans same
  have idle : life task = none := by
    rw [tracked.running, isSome_iff_ne_none, not_not] at free
    exact free
  have started : ∀ other, (player.act (.start task)).Started other ↔ other = task ∨ player.Started other := by
    intro other
    have same : (player.act (.start task)).Started other ↔ (player.setTask task 1).Started other := Iff.rfl
    rw [same, started_setTask]
    split_ifs with here
    · simp [here]
    · simp [here]
  refine ⟨?_, ?_, ?_, ?_, fun _ _ => set.setTask task 1, fun now => absurd now (by decide : ¬ (0 = 1))⟩
  · show TaskLife.replay (player.history ++ [.start task player.level]) = _
    rw [replay_append_one tracked.replayed]
    exact if_pos ⟨idle, level⟩
  · intro other
    rw [started, update_apply, tracked.running]
    split_ifs with here
    · simp [here]
    · simp [here]
  · intro other count running
    rw [update_apply] at running
    show (player.setKills task 0).killsStorage other = _
    rw [killsStorage_setKills]
    split_ifs at running ⊢ with here
    · cases running
      exact congrArg some (min_eq_left (killsRequired_pos other).le).symm
    · exact tracked.counted other count running
  · exact (length_startedTasks_le fun other begun => (started other).mp begun).trans room

/-- With points the loop over the rewards gets to the end. -/
theorem payRewards_some (rewards : List TaskReward) (points : Int) :
    ∃ after, payRewards rewards (some points) = (rewards, some after, true) := by
  induction rewards generalizing points with
  | nil => exact ⟨points, rfl⟩
  | cons reward later ih =>
    cases reward with
    | exp value =>
      obtain ⟨after, paid⟩ := ih points
      exact ⟨after, by simp [payRewards, paid]⟩
    | storage room value =>
      obtain ⟨after, paid⟩ := ih points
      exact ⟨after, by simp [payRewards, paid]⟩
    | points value =>
      obtain ⟨after, paid⟩ := ih (max points 0 + value)
      exact ⟨after, by simp [payRewards, paid]⟩

/-- A task whose quota is reached is paid in full and stops. -/
theorem Tracked.pay (tracked : Tracked player life) {points kills : Int} (owned : player.pointsTask = some points)
    (begun : player.Started task) (counter : player.killsStorage task = some kills)
    (reached : kills ≥ (huntingTasks task).killsRequired) :
    ∃ after, (player.pay task).2 = true ∧ (player.pay task).1.pointsTask = some after ∧
      Tracked (player.pay task).1 (update life task none) ∧
      (player.pay task).1.taskStorage = (player.setTask task 0).taskStorage ∧
      (player.pay task).1.killsStorage = (player.setKills task (-1)).killsStorage := by
  obtain ⟨after, paid⟩ := payRewards_some (huntingTasks task).rewards points
  obtain ⟨count, running⟩ := isSome_iff_exists.mp ((tracked.running task).mp begun)
  have quota : (huntingTasks task).killsRequired ≤ count := by
    have counted := tracked.counted task count running
    cases counter.symm.trans counted
    exact le_of_not_gt fun below => absurd reached (not_le.mpr ((min_le_left _ _).trans_lt below))
  have ended : (TaskEntry.pay task (huntingTasks task).rewards).apply life = some (update life task none) :=
    if_pos ⟨by rw [running]; exact decide_eq_true quota, rfl⟩
  have whole : player.pay task = ((({ player with
      pointsTask := some after, history := player.history ++ [TaskEntry.pay task (huntingTasks task).rewards] }.setTask task 0).setKills
        task (-1)), true) := by
    unfold TaskPlayer.pay
    rw [owned, paid]
    rfl
  rw [whole]
  exact ⟨after, rfl, rfl, tracked.stop (by decide) ended rfl rfl rfl (fun topic => topic) rfl, rfl, rfl⟩

/-- The loop of a report pays the tasks whose quota is reached and leaves the others. -/
theorem Tracked.reportTasks (tracked : Tracked player life) {tasks : List TaskId} (nodup : tasks.Nodup)
    (begun : ∀ task ∈ tasks, (life task).isSome)
    (owned : (∃ task ∈ tasks, (player.killsStorage task).any (· ≥ (huntingTasks task).killsRequired)) →
      player.pointsTask ≠ none) :
    ∃ after, Tracked (reportTasks tasks player) after ∧ (∀ other, other ∉ tasks → after other = life other) ∧
      ∀ task ∈ tasks, (after task).all fun kills => kills < (huntingTasks task).killsRequired := by
  induction tasks generalizing player life with
  | nil => exact ⟨life, tracked, fun _ _ => rfl, fun _ listed => absurd listed not_mem_nil⟩
  | cons task later ih =>
    rw [nodup_cons] at nodup
    obtain ⟨count, running⟩ := isSome_iff_exists.mp (begun task mem_cons_self)
    have counter := tracked.counted task count running
    unfold TaskPlayer.reportTasks
    rw [counter]
    dsimp only
    by_cases reached : min (count : Int) (huntingTasks task).killsRequired ≥ (huntingTasks task).killsRequired
    · rw [if_pos reached]
      have points : player.pointsTask ≠ none :=
        owned ⟨task, mem_cons_self, by rw [counter]; exact decide_eq_true reached⟩
      obtain ⟨points, mine⟩ := ne_none_iff_exists'.mp points
      have started : player.Started task := (tracked.running task).mpr (begun task mem_cons_self)
      obtain ⟨left, complete, kept, stopped, -, -⟩ := tracked.pay mine started counter reached
      have whole : player.pay task = ((player.pay task).1, true) := Prod.ext rfl complete
      rw [whole]
      obtain ⟨after, paid, others, below⟩ := ih stopped nodup.2 (fun other listed => by
        rw [update_of_ne (ne_of_mem_of_not_mem listed nodup.1)]
        exact begun other (mem_cons_of_mem _ listed)) (fun _ => by rw [kept]; exact some_ne_none left)
      refine ⟨after, paid, fun other absent => ?_, fun other listed => ?_⟩
      · rw [mem_cons, not_or] at absent
        rw [others other absent.2, update_of_ne absent.1]
      · rcases mem_cons.mp listed with rfl | rest
        · rw [others other nodup.1, update_self]
          rfl
        · exact below other rest
    · rw [if_neg reached]
      obtain ⟨after, paid, others, below⟩ := ih tracked nodup.2
        (fun other listed => begun other (mem_cons_of_mem _ listed))
        (fun ⟨other, listed, enough⟩ => owned ⟨other, mem_cons_of_mem _ listed, enough⟩)
      refine ⟨after, paid, fun other absent => others other fun listed => absent (mem_cons_of_mem _ listed), ?_⟩
      intro other listed
      rcases mem_cons.mp listed with rfl | rest
      · rw [others other nodup.1, running]
        exact decide_eq_true (lt_of_not_ge fun enough => reached (le_min enough le_rfl))
      · exact below other rest

theorem Tracked.report (tracked : Tracked player life)
    (owned : (∃ task ∈ player.startedTasks, (player.killsStorage task).any (· ≥ (huntingTasks task).killsRequired)) →
      player.pointsTask ≠ none) : ∃ after, Tracked (player.act (.report player.startedTasks)) after := by
  obtain ⟨after, paid, others, below⟩ := tracked.reportTasks (nodup_startedTasks player)
    (fun task listed => (tracked.running task).mp (mem_startedTasks.mp listed)) owned
  have quiet : ∀ task, (after task).all fun kills => kills < (huntingTasks task).killsRequired := by
    intro task
    by_cases listed : task ∈ player.startedTasks
    · exact below task listed
    · have idle : life task = none := by
        rw [mem_startedTasks, tracked.running, isSome_iff_ne_none, not_not] at listed
        exact listed
      rw [others task listed, idle]
      rfl
  refine ⟨after, ?_, paid.running, paid.counted, paid.few, paid.set, paid.chosen⟩
  show TaskLife.replay ((TaskPlayer.reportTasks player.startedTasks player).history ++ [.report]) = _
  rw [replay_append_one paid.replayed]
  exact if_pos quiet

/-- The loop of `onKill` changes the counters of its tasks only. -/
theorem countKills_spec (target : String) {tasks : List TaskId} (nodup : tasks.Nodup)
    (counted : ∀ task ∈ tasks, (player.killsStorage task).isSome) :
    (countKills target tasks player).taskStorage = player.taskStorage ∧
    (countKills target tasks player).history = player.history ∧ (countKills target tasks player).topic = player.topic ∧
    (countKills target tasks player).choose = player.choose ∧
    ∀ other, (countKills target tasks player).killsStorage other =
      if other ∈ tasks ∧ target ∈ (huntingTasks other).creatures then
        (player.killsStorage other).map fun kills => if kills < (huntingTasks other).killsRequired then kills + 1 else kills
      else player.killsStorage other := by
  induction tasks generalizing player with
  | nil => exact ⟨rfl, rfl, rfl, rfl, fun other => by simp [countKills]⟩
  | cons task later ih =>
    rw [nodup_cons] at nodup
    obtain ⟨kills, counter⟩ := isSome_iff_exists.mp (counted task mem_cons_self)
    unfold countKills
    by_cases hit : target ∈ (huntingTasks task).creatures
    · rw [if_pos hit, counter]
      dsimp only
      set next := if kills < (huntingTasks task).killsRequired then player.setKills task (kills + 1) else player with next_eq
      have same : next.taskStorage = player.taskStorage ∧ next.history = player.history ∧ next.topic = player.topic ∧
          next.choose = player.choose := by
        rw [next_eq]
        split_ifs <;> exact ⟨rfl, rfl, rfl, rfl⟩
      have changed : ∀ other, next.killsStorage other =
          if other = task then some (if kills < (huntingTasks task).killsRequired then kills + 1 else kills)
          else player.killsStorage other := by
        intro other
        rw [next_eq]
        split_ifs with below here here
        · rw [killsStorage_setKills, if_pos here]
        · rw [killsStorage_setKills, if_neg here]
        · rw [here, counter]
        · rfl
      obtain ⟨tasks, history, topic, choose, killed⟩ := @ih next nodup.2 (fun other listed => by
        rw [changed, if_neg (ne_of_mem_of_not_mem listed nodup.1)]
        exact counted other (mem_cons_of_mem _ listed))
      refine ⟨tasks.trans same.1, history.trans same.2.1, topic.trans same.2.2.1, choose.trans same.2.2.2, fun other => ?_⟩
      rw [killed, changed]
      by_cases here : other = task
      · subst here
        have both : other ∈ other :: later ∧ target ∈ (huntingTasks other).creatures := ⟨mem_cons_self, hit⟩
        rw [if_neg fun both => nodup.1 both.1, if_pos rfl, counter]
        exact (if_pos both).symm
      · simp only [here, if_false, mem_cons, false_or]
    · rw [if_neg hit]
      obtain ⟨tasks, history, topic, choose, killed⟩ := ih nodup.2
        (fun other listed => counted other (mem_cons_of_mem _ listed))
      refine ⟨tasks, history, topic, choose, fun other => ?_⟩
      rw [killed]
      by_cases here : other = task
      · subst here
        rw [if_neg fun both => nodup.1 both.1, if_neg fun both => hit both.2]
      · simp only [mem_cons, here, false_or]

/-- A counter and the kills of its task grow together, up to the quota. -/
theorem min_succ (kills : Nat) (required : Int) :
    (if min (kills : Int) required < required then min (kills : Int) required + 1 else min (kills : Int) required) =
      min ((kills + 1 : Nat) : Int) required := by
  split_ifs with below <;> omega

theorem Tracked.onKill (tracked : Tracked player life) (target : String) : ∃ after, Tracked (player.onKill target) after := by
  set killed := (List.finRange 9).filter fun task => target ∈ (huntingTasks task).creatures with killed_eq
  have mem_killed : ∀ task, task ∈ killed ↔ target ∈ (huntingTasks task).creatures := by simp [killed_eq]
  set counted := (match player.getStartedTasks with
    | none => player
    | some started => countKills target started player) with counted_eq
  have kept : counted.taskStorage = player.taskStorage ∧ counted.history = player.history ∧
      counted.topic = player.topic ∧ counted.choose = player.choose ∧ ∀ task kills, life task = some kills →
        counted.killsStorage task = some (min ((if task ∈ killed then kills + 1 else kills : Nat) : Int)
          (huntingTasks task).killsRequired) := by
    rw [counted_eq, getStartedTasks_eq]
    by_cases set : player.AllSet
    · rw [if_pos set]
      obtain ⟨tasks, history, topic, choose, killed_by⟩ := countKills_spec target (nodup_startedTasks player)
        (fun task listed => by
          obtain ⟨kills, running⟩ := isSome_iff_exists.mp ((tracked.running task).mp (mem_startedTasks.mp listed))
          rw [tracked.counted task kills running]
          rfl)
      refine ⟨tasks, history, topic, choose, fun task kills running => ?_⟩
      have listed : task ∈ player.startedTasks :=
        mem_startedTasks.mpr ((tracked.running task).mpr (isSome_iff_exists.mpr ⟨kills, running⟩))
      show (countKills target player.startedTasks player).killsStorage task = _
      rw [killed_by, tracked.counted task kills running]
      by_cases hit : target ∈ (huntingTasks task).creatures
      · rw [if_pos ⟨listed, hit⟩, if_pos ((mem_killed task).mpr hit), map_some, min_succ]
      · rw [if_neg fun both => hit both.2, if_neg fun listed => hit ((mem_killed task).mp listed)]
    · rw [if_neg set]
      refine ⟨rfl, rfl, rfl, rfl, fun task kills running => absurd ?_ set⟩
      exact tracked.set task ((tracked.running task).mpr (isSome_iff_exists.mpr ⟨kills, running⟩))
  obtain ⟨tasks, history, topic, choose, killed_by⟩ := kept
  have framed : Tracked { counted with killsStorage := player.killsStorage } life := by
    refine tracked.frame tasks rfl history fun now => ?_
    obtain ⟨task, choice, free⟩ := tracked.chosen (topic.symm.trans now)
    exact ⟨task, choose.trans choice, free⟩
  have next : player.onKill target = { counted with history := counted.history ++ killed.map TaskEntry.kill } := rfl
  rw [next]
  refine ⟨fun task => if task ∈ killed then (life task).map (· + 1) else life task, ?_, ?_, ?_, framed.few, framed.set,
    framed.chosen⟩
  · show TaskLife.replay (counted.history ++ killed.map TaskEntry.kill) = _
    rw [replay_append framed.replayed, foldlM_kills ((nodup_finRange 9).filter _)]
  · intro task
    refine (framed.running task).trans ?_
    split_ifs
    · rw [isSome_map]
    · rfl
  · intro task kills running
    show counted.killsStorage task = _
    split_ifs at running with hit
    · obtain ⟨before, lived, rfl⟩ := map_eq_some_iff.mp running
      rw [killed_by task before lived, if_pos hit]
    · rw [killed_by task kills running, if_neg hit]

theorem Tracked.act (tracked : Tracked player life) {answer : TaskAnswer} (allowed : player.Allowed answer)
    (level : ∀ task, answer = .start task →
      (huntingTasks task).level.1 ≤ player.level ∧ player.level ≤ (huntingTasks task).level.2)
    (owned : ∀ started, answer = .report started →
      (∃ task ∈ started, (player.killsStorage task).any (· ≥ (huntingTasks task).killsRequired)) →
        player.pointsTask ≠ none) : ∃ after, Tracked (player.act answer) after := by
  cases answer with
  | nothing => exact ⟨life, tracked⟩
  | join => exact ⟨life, tracked.frame rfl rfl rfl tracked.chosen⟩
  | reset => exact ⟨life, tracked.frame rfl rfl rfl fun now => absurd now (by decide : ¬ (0 = 1))⟩
  | choose task => exact ⟨life, tracked.frame rfl rfl rfl fun _ => ⟨task, rfl, allowed⟩⟩
  | start task => exact ⟨_, tracked.start allowed.1 allowed.2 (level task rfl)⟩
  | report started =>
    obtain ⟨-, rfl⟩ := allowed
    exact tracked.report (owned _ rfl)
  | ask => exact ⟨life, tracked.frame rfl rfl rfl fun now => absurd now (by decide : ¬ (2 = 1))⟩
  | confirm task => exact ⟨life, tracked.frame rfl rfl rfl fun now => absurd now (by decide : ¬ (3 = 1))⟩
  | cancel task =>
    have ended : (TaskEntry.cancel task).apply life = some (update life task none) := rfl
    refine ⟨_, tracked.stop (by decide : (-1 : Int) ≠ 1) ended rfl rfl rfl ?_ rfl⟩
    exact fun now => absurd now (by decide : ¬ (0 = 1))

theorem Tracked.step (tracked : Tracked player life) {event : Event} (careful : player.Careful event) :
    ∃ after, Tracked (player.step event) after := by
  cases event with
  | say msg =>
    refine tracked.act (allowed_answer player msg) (fun task start => ?_) fun started report => ?_
    · unfold Careful at careful
      dsimp only at careful
      rw [start] at careful
      exact careful
    · unfold Careful at careful
      dsimp only at careful
      rw [report] at careful
      exact careful
  | greet =>
    unfold TaskPlayer.step
    dsimp only
    split_ifs
    · exact ⟨life, tracked⟩
    · exact ⟨life, tracked.frame rfl rfl rfl fun now => absurd now (by decide : ¬ (0 = 1))⟩
  | farewell | relog => exact ⟨life, tracked.frame rfl rfl rfl fun now => absurd now (by decide : ¬ (0 = 1))⟩
  | kill target => exact tracked.onKill target
  | setLevel level => exact ⟨life, tracked.frame rfl rfl rfl tracked.chosen⟩

theorem Tracked.run (tracked : Tracked player life) {events : List Event} (careful : AllCareful events player) :
    ∃ after, Tracked (player.run events) after := by
  induction events generalizing player life with
  | nil => exact ⟨life, tracked⟩
  | cons event later ih =>
    obtain ⟨after, next⟩ := tracked.step careful.1
    exact ih next careful.2

/-- A player without a started task, with any storage values otherwise. -/
theorem tracked_idle {level : Nat} {taskStorage killsStorage : TaskId → Option Int} {pointsTask storageJoin : Option Int}
    (idle : ∀ task, taskStorage task ≠ some 1) :
    Tracked { level, taskStorage, killsStorage, pointsTask, storageJoin } fun _ => none := by
  have nobody : startedTasks { level, taskStorage, killsStorage, pointsTask, storageJoin } = [] :=
    filter_eq_nil_iff.mpr fun task _ started => idle task (of_decide_eq_true started)
  refine ⟨rfl, fun task => ⟨fun started => absurd started (idle task), fun running => Bool.noConfusion running⟩, ?_, ?_, ?_, ?_⟩
  · intro task kills running
    cases running
  · rw [nobody]
    exact Nat.zero_le _
  · exact fun task started => absurd started (idle task)
  · exact fun now => absurd now (by decide : ¬ (0 = 1))

/-- Careful runs of a player who has not started a task are proper. -/
theorem proper_of_allCareful {level : Nat} {taskStorage killsStorage : TaskId → Option Int}
    {pointsTask storageJoin : Option Int} (idle : ∀ task, taskStorage task ≠ some 1) {events : List Event}
    (careful : AllCareful events { level, taskStorage, killsStorage, pointsTask, storageJoin }) :
    Proper (run { level, taskStorage, killsStorage, pointsTask, storageJoin } events) := by
  obtain ⟨after, tracked⟩ := (tracked_idle idle).run careful
  exact tracked.proper

/-- A player who has joined and whose storage values are set. -/
def member (level : Nat) : TaskPlayer :=
  { level := level
    taskStorage := fun _ => some (-1)
    killsStorage := fun _ => some (-1)
    pointsTask := some 0
    storageJoin := some 1 }

/-- Starting the demons at level 150. -/
theorem proper_demons :
    ((member 150).run [.greet, .say { race := some 8 }, .say { join := true, yes := true }, .kill "demon"]).killsStorage 8 =
      some 1 ∧
    Proper ((member 150).run [.greet, .say { race := some 8 }, .say { join := true, yes := true }, .kill "demon"]) := by
  refine ⟨by decide, proper_of_allCareful (fun _ => by decide) ⟨trivial, ?_, ?_, trivial, trivial⟩⟩
  · exact True.intro
  · exact (by decide : 130 ≤ 150 ∧ 150 ≤ 9999)

/-- Starting them at level 1. -/
theorem not_proper_levelOne :
    ¬ Proper ((member 1).run [.greet, .say { race := some 8 }, .say { join := true, yes := true }]) := by
  rintro ⟨-, life, replayed, -⟩
  cases replayed

end

end TaskPlayer

end Styller
