import Styller.Library.Table
import Mathlib.Data.Rat.Floor

/-! The guild wars: the commands of `!war` and the deaths that count, on the tables of the database.
The names, the answers and the broadcasts are left out. -/

namespace Styller

open Library List

inductive WarStatus where
  | invited
  | active
  | rejected
  | canceled
  | truce
  | finished
  deriving DecidableEq

/-- A row of `guild_wars`. The last field is for the record: the duration in seconds that was proposed. -/
structure GuildWar where
  id : Nat
  guild1 : Nat
  guild2 : Nat
  status : WarStatus
  started : Int
  ended : Int
  frags : Int
  payment : Int
  duration : Option Int
  deriving DecidableEq

namespace GuildWar

def Between (war : GuildWar) (guild other : Nat) : Prop :=
  (war.guild1 = guild ∧ war.guild2 = other) ∨ (war.guild1 = other ∧ war.guild2 = guild)

instance (war : GuildWar) (guild other : Nat) : Decidable (war.Between guild other) :=
  inferInstanceAs (Decidable (_ ∨ _))

def Unfinished (war : GuildWar) : Prop :=
  war.status = .invited ∨ war.status = .active ∨ war.status = .truce

instance (war : GuildWar) : Decidable war.Unfinished := inferInstanceAs (Decidable (_ ∨ _))

end GuildWar

/-- A row of `guildwar_kills`. -/
structure WarKill where
  killerguild : Nat
  targetguild : Nat
  warid : Nat

/-- `guild_wars`, the limits of `znote_guild_wars`, `guildwar_kills`, the kills that wait for the
database thread, and the balances of the guilds. -/
structure GuildWars where
  wars : List GuildWar := []
  limits : List Int := []
  kills : List WarKill := []
  queries : List WarKill := []
  balance : Nat → Int

/-- What a leader says after `!war`, with what `tonumber` makes of it. -/
inductive WarCommand where
  | invite (frags money timeDays : Option ℚ)
  | accept
  | reject
  | cancel
  | endWar
  | finish

namespace GuildWars

def toColumn (number : ℚ) : Int := if 0 ≤ number then ⌊number + 1 / 2⌋ else -⌊-number + 1 / 2⌋

variable (state : GuildWars)

def update (id : Nat) (change : GuildWar → GuildWar) : GuildWars :=
  { state with wars := Table.update GuildWar.id id change state.wars }

def setBalance (guild : Nat) (amount : Int) : GuildWars :=
  { state with balance := Function.update state.balance guild amount }

/-- `fragLimit`, with `frags` of the configuration. -/
def fragLimit (frags : Option ℚ) : Int :=
  match frags with
  | none => 1
  | some frags => toColumn (max 1 (min 100 frags))

/-- The end of the invitation: the rows of `guild_wars` and `znote_guild_wars`. -/
def insertWar (guild enemy : Nat) (begining ending : Int) (frags payment : Int) (duration : Option Int) : GuildWars :=
  { state with
    wars := state.wars ++ [⟨state.wars.length + 1, guild, enemy, .invited, begining, ending, frags, payment, duration⟩]
    limits := state.limits ++ [frags] }

/-- The last part of "invite": the days, of which the configuration allows 30. -/
def inviteDays (guild enemy : Nat) (frags payment : Int) (timeDays : Option ℚ) (begining : Int) : GuildWars :=
  match timeDays with
  | none => state.insertWar guild enemy begining 0 frags payment none
  | some days =>
    if days = 0 then state.insertWar guild enemy begining 0 frags payment none
    else if days > 30 then state
    else
      let ending := toColumn (begining + days * 86400)
      state.insertWar guild enemy begining ending frags payment (some (ending - begining))

def invite (guild enemy : Nat) (frags money timeDays : Option ℚ) (now : Int) : GuildWars :=
  if ∃ war ∈ state.wars, war.Between guild enemy ∧ (war.status = .invited ∨ war.status = .active) then state
  else
    let fragLimit := fragLimit frags
    match money with
    | none => state.inviteDays guild enemy fragLimit 0 timeDays now
    | some money =>
      let payment := ⌊money⌋
      if payment < 0 ∨ payment > 99999999999999 then state
      else if state.balance guild < payment then state
      else (state.setBalance guild (state.balance guild - payment)).inviteDays guild enemy fragLimit payment timeDays now

def invitation (guild1 guild2 : Nat) : Option GuildWar :=
  state.wars.find? fun war => war.guild1 = guild1 ∧ war.guild2 = guild2 ∧ war.status = .invited

/-- The columns of an invitation that is accepted. -/
def acceptedWar (now : Int) (war : GuildWar) : GuildWar :=
  { war with
    started := now
    ended := if war.ended > 0 then toColumn (now + (war.started - war.ended) / 86400) else 0
    status := .active }

def accept (guild enemy : Nat) (now : Int) : GuildWars :=
  match state.invitation enemy guild with
  | none => state
  | some war =>
    if state.balance guild < war.payment then state
    else (state.setBalance guild (state.balance guild - war.payment)).update war.id (acceptedWar now)

def closedWar (status : WarStatus) (now : Int) (war : GuildWar) : GuildWar := { war with ended := now, status := status }

def reject (guild enemy : Nat) (now : Int) : GuildWars :=
  match state.invitation enemy guild with
  | none => state
  | some war => state.update war.id (closedWar .rejected now)

def cancel (guild enemy : Nat) (now : Int) : GuildWars :=
  match state.invitation guild enemy with
  | none => state
  | some war => state.update war.id (closedWar .canceled now)

def war (guild1 guild2 : Nat) (status : WarStatus) : Option GuildWar :=
  state.wars.find? fun war => war.guild1 = guild1 ∧ war.guild2 = guild2 ∧ war.status = status

/-- "end": the war is over for the guild that has invited, and a truce is offered by the other one. -/
def endWar (guild enemy : Nat) (now : Int) : GuildWars :=
  match state.war guild enemy .active with
  | some war => state.update war.id (closedWar .finished now)
  | none =>
    match state.war enemy guild .active with
    | none => state
    | some war => if war.ended > 0 then state else state.update war.id (closedWar .truce now)

def finish (guild enemy : Nat) (now : Int) : GuildWars :=
  match state.war guild enemy .truce with
  | none => state
  | some war => state.update war.id (closedWar .finished now)

/-- `onSay` of the leader of a guild. -/
def command (guild enemy : Nat) (command : WarCommand) (now : Int) : GuildWars :=
  if enemy = guild then state
  else
    match command with
    | .invite frags money timeDays => state.invite guild enemy frags money timeDays now
    | .accept => state.accept guild enemy now
    | .reject => state.reject guild enemy now
    | .cancel => state.cancel guild enemy now
    | .endWar => state.endWar guild enemy now
    | .finish => state.finish guild enemy now

/-- `warId` of a death. The guilds of players are 0 without one, and `inWar` is `isInWar`. -/
def warOf (killerGuild targetGuild : Nat) (inWar : Bool) : Option GuildWar :=
  if targetGuild ≠ 0 ∧ killerGuild ≠ 0 ∧ targetGuild ≠ killerGuild ∧ inWar then
    state.wars.find? fun war => war.status = .active ∧ war.Between killerGuild targetGuild
  else none

def killsOf (kills : List WarKill) (guild warid : Nat) : Nat :=
  kills.countP fun kill => kill.warid = warid ∧ kill.killerguild = guild

def flush : GuildWars := { state with kills := state.kills ++ state.queries, queries := [] }

/-- The kill is posted to the database thread, which may have executed all before the next query. -/
def post (kill : WarKill) (ahead : Bool) : GuildWars :=
  let state := { state with queries := state.queries ++ [kill] }
  if ahead then state.flush else state

/-- What a war becomes whose limit is reached. -/
def wonWar (now : Int) (war : GuildWar) : GuildWar := if war.status = .active then closedWar .truce now war else war

/-- `onDeath`, where the database thread may or may not be `ahead` of the count. -/
def death (killerGuild targetGuild : Nat) (inWar ahead : Bool) (now : Int) : GuildWars :=
  match state.warOf killerGuild targetGuild inWar with
  | none => state
  | some war =>
    let state := state.post ⟨killerGuild, targetGuild, war.id⟩ ahead
    let limit : Int := (state.limits[war.id - 1]?).getD 0
    if killsOf state.kills war.guild1 war.id ≥ limit ∨ killsOf state.kills war.guild2 war.id ≥ limit then
      state.update war.id (wonWar now)
    else state

/-- The database thread executes the first query. -/
def databaseThread : GuildWars :=
  match state.queries with
  | [] => state
  | kill :: later => { state with kills := state.kills ++ [kill], queries := later }

inductive Event where
  | command (guild enemy : Nat) (command : WarCommand) (now : Int)
  | bank (guild : Nat) (amount : Int)
  | death (killerGuild targetGuild : Nat) (inWar ahead : Bool) (now : Int)
  | databaseThread

def step : Event → GuildWars
  | .command guild enemy command now => state.command guild enemy command now
  | .bank guild amount => state.setBalance guild amount
  | .death killerGuild targetGuild inWar ahead now => state.death killerGuild targetGuild inWar ahead now
  | .databaseThread => state.databaseThread

def run (events : List Event) : GuildWars := events.foldl step state

def recorded : List WarKill := state.kills ++ state.queries

/-- Two guilds have at most one unfinished war, an active war lasts as long as was proposed, and no
guild has reached the limit of an active war. -/
structure Fair : Prop where
  rows : (state.wars.map GuildWar.id).Nodup
  single : ∀ war ∈ state.wars, ∀ other ∈ state.wars, war.Unfinished → other.Unfinished →
    war.Between other.guild1 other.guild2 → war.id = other.id
  timed : ∀ war ∈ state.wars, war.status = .active → ∀ duration, war.duration = some duration →
    war.ended - war.started = duration
  decided : ∀ war ∈ state.wars, war.status = .active → ∀ guild ∈ [war.guild1, war.guild2],
    killsOf state.recorded guild war.id < war.frags

/-- No guild is invited in a truce, an invitation that is accepted has no limited duration, and the
database thread is ahead of the count that reaches the limit. -/
def Careful : Event → Prop
  | .command guild enemy (.invite _ _ _) _ => ∀ war ∈ state.wars, war.Between guild enemy → war.status ≠ .truce
  | .command guild enemy .accept _ => ∀ war, state.invitation enemy guild = some war → war.duration = none
  | .death killerGuild targetGuild inWar ahead _ => ∀ war, state.warOf killerGuild targetGuild inWar = some war →
      ahead = true ∨ killsOf state.recorded killerGuild war.id + 1 < war.frags
  | _ => True

def AllCareful : List Event → GuildWars → Prop
  | [], _ => True
  | event :: later, state => state.Careful event ∧ AllCareful later (state.step event)

/-- What the commands and the deaths keep. -/
structure Ordered : Prop extends Fair state where
  numbered : Table.Numbered GuildWar.id state.wars
  limits : state.limits = state.wars.map GuildWar.frags
  distinct : ∀ war ∈ state.wars, war.guild1 ≠ war.guild2
  positive : ∀ war ∈ state.wars, 1 ≤ war.frags
  fought : ∀ kill ∈ state.recorded, kill.warid ≤ state.wars.length ∧
    ∀ war ∈ state.wars, war.id = kill.warid → war.status ≠ .invited

/-! The rows. -/

section

variable {state next : GuildWars}

theorem toColumn_pos {number : ℚ} (positive : 1 ≤ number) : 1 ≤ toColumn number := by
  unfold toColumn
  rw [if_pos (by linarith)]
  exact Int.le_floor.mpr (by push_cast; linarith)

theorem fragLimit_pos (frags : Option ℚ) : 1 ≤ fragLimit frags := by
  cases frags with
  | none => exact le_refl 1
  | some frags => exact toColumn_pos (le_max_left _ _)

theorem killsOf_append (kills later : List WarKill) (guild warid : Nat) :
    killsOf (kills ++ later) guild warid = killsOf kills guild warid + killsOf later guild warid := countP_append

theorem ordered_start (balance : Nat → Int) : Ordered { balance } where
  rows := nodup_nil
  single := fun _ listed => absurd listed not_mem_nil
  timed := fun _ listed => absurd listed not_mem_nil
  decided := fun _ listed => absurd listed not_mem_nil
  numbered := Table.numbered_nil
  limits := rfl
  distinct := fun _ listed => absurd listed not_mem_nil
  positive := fun _ listed => absurd listed not_mem_nil
  fought := fun _ listed => absurd listed not_mem_nil

/-- The balances are not among what is kept, and it does not matter which queries have been executed. -/
theorem Ordered.of_eq (ordered : Ordered state) (wars : next.wars = state.wars) (limits : next.limits = state.limits)
    (recorded : next.recorded = state.recorded) : Ordered next := by
  obtain ⟨⟨rows, single, timed, decided⟩, numbered, limited, distinct, positive, fought⟩ := ordered
  rw [← wars] at rows single timed decided numbered distinct positive fought
  rw [← recorded] at decided fought
  rw [← limits, ← wars] at limited
  exact ⟨⟨rows, single, timed, decided⟩, numbered, limited, distinct, positive, fought⟩

theorem Ordered.update (ordered : Ordered state) {war : GuildWar} (listed : war ∈ state.wars) {change : GuildWar → GuildWar}
    (columns : ∀ row, (change row).id = row.id ∧ (change row).guild1 = row.guild1 ∧ (change row).guild2 = row.guild2 ∧
      (change row).frags = row.frags)
    (unfinished : (change war).Unfinished → war.Unfinished) (begun : (change war).status ≠ .invited)
    (timed : (change war).status = .active → ∀ duration, (change war).duration = some duration →
      (change war).ended - (change war).started = duration)
    (decided : (change war).status = .active → ∀ guild ∈ [war.guild1, war.guild2],
      killsOf state.recorded guild war.id < war.frags) :
    Ordered (state.update war.id change) := by
  have rowOf : ∀ row ∈ (state.update war.id change).wars, ∃ old ∈ state.wars,
      (old = war ∧ row = change war) ∨ row = old := by
    intro row here
    obtain ⟨old, held, ⟨same, rfl⟩ | ⟨-, rfl⟩⟩ := Table.mem_update here
    · have equal := ordered.numbered.eq_of_key held listed same
      exact ⟨old, held, .inl ⟨equal, by rw [equal]⟩⟩
    · exact ⟨row, held, .inr rfl⟩
  have kept : ∀ row ∈ (state.update war.id change).wars, ∃ old ∈ state.wars, row.id = old.id ∧ row.guild1 = old.guild1 ∧
      row.guild2 = old.guild2 ∧ row.frags = old.frags ∧ (row.Unfinished → old.Unfinished) := by
    intro row here
    obtain ⟨old, held, ⟨rfl, rfl⟩ | rfl⟩ := rowOf row here
    · obtain ⟨id, guild1, guild2, frags⟩ := columns old
      exact ⟨old, held, id, guild1, guild2, frags, unfinished⟩
    · exact ⟨row, held, rfl, rfl, rfl, rfl, fun open_ => open_⟩
  have numbered : Table.Numbered GuildWar.id (state.update war.id change).wars :=
    ordered.numbered.update fun row => (columns row).1
  refine ⟨⟨numbered.nodup, ?_, ?_, ?_⟩, numbered, ?_, ?_, ?_, ?_⟩
  · intro row here other otherHere rowOpen otherOpen between
    obtain ⟨first, held, id, guild1, guild2, -, rest⟩ := kept row here
    obtain ⟨second, otherHeld, otherId, otherGuild1, otherGuild2, -, otherRest⟩ := kept other otherHere
    rw [id, otherId]
    refine ordered.single first held second otherHeld (rest rowOpen) (otherRest otherOpen) ?_
    unfold GuildWar.Between at *
    rw [← guild1, ← guild2, ← otherGuild1, ← otherGuild2]
    exact between
  · intro row here active duration proposed
    obtain ⟨old, held, ⟨rfl, rfl⟩ | rfl⟩ := rowOf row here
    · exact timed active duration proposed
    · exact ordered.timed row held active duration proposed
  · intro row here active guild side
    obtain ⟨old, held, ⟨rfl, rfl⟩ | rfl⟩ := rowOf row here
    · obtain ⟨id, guild1, guild2, frags⟩ := columns old
      rw [guild1, guild2] at side
      rw [id, frags]
      exact decided active guild side
    · exact ordered.decided row held active guild side
  · exact ordered.limits.trans (Table.map_update fun row => (columns row).2.2.2).symm
  · intro row here
    obtain ⟨old, held, -, guild1, guild2, -, -⟩ := kept row here
    rw [guild1, guild2]
    exact ordered.distinct old held
  · intro row here
    obtain ⟨old, held, -, -, -, frags, -⟩ := kept row here
    rw [frags]
    exact ordered.positive old held
  · intro kill posted
    have earlier := ordered.fought kill posted
    refine ⟨(Table.length_update _ _ _).symm ▸ earlier.1, fun row here same => ?_⟩
    obtain ⟨old, held, ⟨rfl, rfl⟩ | rfl⟩ := rowOf row here
    · exact begun
    · exact earlier.2 row held same

theorem Ordered.close (ordered : Ordered state) {war : GuildWar} (listed : war ∈ state.wars) {status : WarStatus}
    (closed : status ≠ .invited ∧ status ≠ .active) (unfinished : status = .truce → war.status = .active) (now : Int) :
    Ordered (state.update war.id (closedWar status now)) := by
  refine ordered.update listed (fun row => ⟨rfl, rfl, rfl, rfl⟩) ?_ closed.1 (fun active => absurd active closed.2)
    fun active => absurd active closed.2
  rintro (invited | active | truce)
  · exact absurd invited closed.1
  · exact absurd active closed.2
  · exact .inr (.inl (unfinished truce))

theorem Ordered.insertWar (ordered : Ordered state) {guild enemy : Nat} (different : enemy ≠ guild)
    (apart : ∀ war ∈ state.wars, war.Between guild enemy → ¬ war.Unfinished) (begining ending : Int) {frags : Int}
    (positive : 1 ≤ frags) (payment : Int) (duration : Option Int) :
    Ordered (state.insertWar guild enemy begining ending frags payment duration) := by
  have numbered : Table.Numbered GuildWar.id
      (state.insertWar guild enemy begining ending frags payment duration).wars := ordered.numbered.insert rfl
  have cases : ∀ row ∈ (state.insertWar guild enemy begining ending frags payment duration).wars, row ∈ state.wars ∨
      row = ⟨state.wars.length + 1, guild, enemy, .invited, begining, ending, frags, payment, duration⟩ := by
    intro row here
    exact (mem_append.mp here).imp (fun earlier => earlier) fun new => mem_singleton.mp new
  refine ⟨⟨numbered.nodup, ?_, ?_, ?_⟩, numbered, ?_, ?_, ?_, ?_⟩
  · intro row here other otherHere rowOpen otherOpen between
    rcases cases row here with held | rfl <;> rcases cases other otherHere with otherHeld | rfl
    · exact ordered.single row held other otherHeld rowOpen otherOpen between
    · exact absurd rowOpen (apart row held between)
    · refine absurd otherOpen (apart other otherHeld ?_)
      unfold GuildWar.Between at *
      tauto
    · rfl
  · intro row here active
    rcases cases row here with held | rfl
    · exact ordered.timed row held active
    · cases active
  · intro row here active
    rcases cases row here with held | rfl
    · exact ordered.decided row held active
    · cases active
  · show state.limits ++ [frags] = (state.wars ++ [_]).map GuildWar.frags
    rw [map_append, ordered.limits]
    rfl
  · intro row here
    rcases cases row here with held | rfl
    · exact ordered.distinct row held
    · exact different.symm
  · intro row here
    rcases cases row here with held | rfl
    · exact ordered.positive row held
    · exact positive
  · intro kill posted
    obtain ⟨bound, begun⟩ := ordered.fought kill posted
    refine ⟨?_, fun row here same => ?_⟩
    · show kill.warid ≤ (state.wars ++ [_]).length
      rw [length_append]
      omega
    · rcases cases row here with held | rfl
      · exact begun row held same
      · exact absurd same (by simp only; omega)

theorem Ordered.kill (ordered : Ordered state) {kill : WarKill} {war : GuildWar} (listed : war ∈ state.wars)
    (same : war.id = kill.warid) (begun : war.status ≠ .invited)
    (below : war.status = .active → killsOf state.recorded kill.killerguild war.id + 1 < war.frags)
    (wars : next.wars = state.wars) (limits : next.limits = state.limits)
    (recorded : next.recorded = state.recorded ++ [kill]) : Ordered next := by
  have only : ∀ row ∈ state.wars, row.id = kill.warid → row = war := fun row here equal =>
    ordered.numbered.eq_of_key here listed (equal.trans same.symm)
  obtain ⟨⟨rows, single, timed, decided⟩, numbered, limited, distinct, positive, fought⟩ := ordered
  rw [← wars] at rows single timed numbered distinct positive
  rw [← limits, ← wars] at limited
  refine ⟨⟨rows, single, timed, ?_⟩, numbered, limited, distinct, positive, ?_⟩
  · rw [wars, recorded]
    intro row here active guild side
    have before := decided row here active guild side
    rw [killsOf_append]
    by_cases hit : row.id = kill.warid ∧ kill.killerguild = guild
    · obtain ⟨number, rfl⟩ := hit
      obtain rfl := only row here number
      have one : killsOf [kill] kill.killerguild row.id ≤ 1 := countP_le_length
      have less := below active
      omega
    · have zero : killsOf [kill] guild row.id = 0 := by
        refine countP_eq_zero.mpr fun other last => ?_
        cases mem_singleton.mp last
        exact fun counted => hit ((decide_eq_true_iff.mp counted).imp_left Eq.symm)
      omega
  · rw [wars, recorded]
    intro other posted
    rcases mem_append.mp posted with earlier | new
    · exact fought other earlier
    · cases mem_singleton.mp new
      refine ⟨same ▸ (numbered.bound (wars ▸ listed)).2.trans_eq (congrArg List.length wars), fun row here equal => ?_⟩
      exact (only row here equal) ▸ begun

end

/-! The commands and the deaths. -/

section

variable {state : GuildWars} {guild enemy : Nat} {now : Int}

theorem Ordered.setBalance (ordered : Ordered state) (guild : Nat) (amount : Int) :
    Ordered (state.setBalance guild amount) := ordered.of_eq rfl rfl rfl

theorem Ordered.inviteDays (ordered : Ordered state) (different : enemy ≠ guild)
    (apart : ∀ war ∈ state.wars, war.Between guild enemy → ¬ war.Unfinished) {frags : Int} (positive : 1 ≤ frags)
    (payment : Int) (timeDays : Option ℚ) (now : Int) :
    Ordered (state.inviteDays guild enemy frags payment timeDays now) := by
  unfold GuildWars.inviteDays
  cases timeDays with
  | none => exact ordered.insertWar different apart now 0 positive payment none
  | some days =>
    dsimp only
    split_ifs
    · exact ordered.insertWar different apart now 0 positive payment none
    · exact ordered
    · exact ordered.insertWar different apart now _ positive payment _

theorem Ordered.invite (ordered : Ordered state) (different : enemy ≠ guild)
    (peace : ∀ war ∈ state.wars, war.Between guild enemy → war.status ≠ .truce) (frags money timeDays : Option ℚ) (now : Int) :
    Ordered (state.invite guild enemy frags money timeDays now) := by
  unfold GuildWars.invite
  split_ifs with denied
  · exact ordered
  · have apart : ∀ war ∈ state.wars, war.Between guild enemy → ¬ war.Unfinished := by
      rintro war here between (invited | active | truce)
      · exact denied ⟨war, here, between, .inl invited⟩
      · exact denied ⟨war, here, between, .inr active⟩
      · exact peace war here between truce
    have positive := fragLimit_pos frags
    cases money with
    | none => exact ordered.inviteDays different apart positive 0 timeDays now
    | some money =>
      dsimp only
      split_ifs
      · exact ordered
      · exact ordered
      · exact (ordered.setBalance guild _).inviteDays different apart positive _ timeDays now

theorem mem_invitation {war : GuildWar} (found : state.invitation guild enemy = some war) :
    war ∈ state.wars ∧ war.status = .invited := by
  refine ⟨mem_of_find?_eq_some found, ?_⟩
  have holds := find?_some found
  exact (decide_eq_true_iff.mp holds).2.2

theorem mem_war {war : GuildWar} {status : WarStatus} (found : state.war guild enemy status = some war) :
    war ∈ state.wars ∧ war.status = status := by
  refine ⟨mem_of_find?_eq_some found, ?_⟩
  have holds := find?_some found
  exact (decide_eq_true_iff.mp holds).2.2

theorem Ordered.accept (ordered : Ordered state)
    (unlimited : ∀ war, state.invitation enemy guild = some war → war.duration = none) (now : Int) :
    Ordered (state.accept guild enemy now) := by
  unfold GuildWars.accept
  cases found : state.invitation enemy guild with
  | none => exact ordered
  | some war =>
    obtain ⟨listed, invited⟩ := mem_invitation found
    dsimp only
    split_ifs
    · exact ordered
    · refine (ordered.setBalance guild _).update listed (fun row => ⟨rfl, rfl, rfl, rfl⟩) (fun _ => .inl invited)
        (fun invited => by cases invited) ?_ ?_
      · intro _ duration proposed
        exact absurd ((unlimited war found).symm.trans proposed) (by simp)
      · intro _ side _
        have peaceful : killsOf state.recorded side war.id = 0 := by
          refine countP_eq_zero.mpr fun kill posted counted => ?_
          have begun := (ordered.fought kill posted).2 war listed (decide_eq_true_iff.mp counted).1.symm
          exact begun invited
        have positive := ordered.positive war listed
        show (killsOf state.recorded side war.id : Int) < war.frags
        omega

theorem Ordered.endWar (ordered : Ordered state) (guild enemy : Nat) (now : Int) : Ordered (state.endWar guild enemy now) := by
  unfold GuildWars.endWar
  cases found : state.war guild enemy .active with
  | some war => exact ordered.close (mem_war found).1 (by decide) (fun truce => by cases truce) now
  | none =>
    cases found : state.war enemy guild .active with
    | none => exact ordered
    | some war =>
      obtain ⟨listed, active⟩ := mem_war found
      dsimp only
      split_ifs
      · exact ordered
      · exact ordered.close listed (by decide) (fun _ => active) now

theorem Ordered.command (ordered : Ordered state) {command : WarCommand}
    (careful : state.Careful (.command guild enemy command now)) : Ordered (state.command guild enemy command now) := by
  unfold GuildWars.command
  split_ifs with same
  · exact ordered
  · cases command with
    | invite frags money timeDays => exact ordered.invite same careful frags money timeDays now
    | accept => exact ordered.accept careful now
    | reject =>
      unfold GuildWars.reject
      cases found : state.invitation enemy guild with
      | none => exact ordered
      | some war => exact ordered.close (mem_invitation found).1 (by decide) (fun truce => by cases truce) now
    | cancel =>
      unfold GuildWars.cancel
      cases found : state.invitation guild enemy with
      | none => exact ordered
      | some war => exact ordered.close (mem_invitation found).1 (by decide) (fun truce => by cases truce) now
    | endWar => exact ordered.endWar guild enemy now
    | finish =>
      unfold GuildWars.finish
      cases found : state.war guild enemy .truce with
      | none => exact ordered
      | some war => exact ordered.close (mem_war found).1 (by decide) (fun truce => by cases truce) now

theorem mem_warOf {killerGuild targetGuild : Nat} {inWar : Bool} {war : GuildWar}
    (found : state.warOf killerGuild targetGuild inWar = some war) :
    war ∈ state.wars ∧ war.status = .active ∧ killerGuild ∈ [war.guild1, war.guild2] := by
  unfold warOf at found
  split_ifs at found
  have holds := find?_some found
  obtain ⟨active, between⟩ := decide_eq_true_iff.mp holds
  refine ⟨mem_of_find?_eq_some found, active, ?_⟩
  rcases between with ⟨killer, -⟩ | ⟨-, killer⟩ <;> simp [killer]

/-- The limit of a war in the other table. -/
theorem Ordered.limit (ordered : Ordered state) {war : GuildWar} (listed : war ∈ state.wars) :
    (state.limits[war.id - 1]?).getD 0 = war.frags := by
  rw [ordered.limits, getElem?_map, ordered.numbered.getElem?_eq listed]
  rfl

@[simp] theorem wars_post (state : GuildWars) (kill : WarKill) (ahead : Bool) : (state.post kill ahead).wars = state.wars := by
  cases ahead <;> rfl

@[simp] theorem limits_post (state : GuildWars) (kill : WarKill) (ahead : Bool) :
    (state.post kill ahead).limits = state.limits := by
  cases ahead <;> rfl

@[simp] theorem recorded_post (state : GuildWars) (kill : WarKill) (ahead : Bool) :
    (state.post kill ahead).recorded = state.recorded ++ [kill] := by
  cases ahead <;> simp [post, recorded, flush]

theorem kills_post_ahead (state : GuildWars) (kill : WarKill) :
    (state.post kill true).kills = state.recorded ++ [kill] := by
  simp [post, recorded, flush]

theorem wonWar_columns (now : Int) (war : GuildWar) : (wonWar now war).id = war.id ∧ (wonWar now war).guild1 = war.guild1 ∧
    (wonWar now war).guild2 = war.guild2 ∧ (wonWar now war).frags = war.frags := by
  unfold wonWar
  split_ifs <;> exact ⟨rfl, rfl, rfl, rfl⟩

/-- A kill that reaches the limit comes after the end of the war. -/
theorem Ordered.won (ordered : Ordered state) {war : GuildWar} (listed : war ∈ state.wars) (active : war.status = .active)
    {kill : WarKill} (same : war.id = kill.warid) (ahead : Bool) (now : Int) :
    Ordered ((state.post kill ahead).update war.id (wonWar now)) := by
  have won : (wonWar now war).status = .truce := by rw [wonWar, if_pos active]; rfl
  have closed : Ordered (state.update war.id (wonWar now)) := by
    refine ordered.update listed (wonWar_columns now) (fun _ => .inr (.inl active)) ?_ ?_ ?_
    · exact fun invited => by cases won.symm.trans invited
    · exact fun still => by cases won.symm.trans still
    · exact fun still => by cases won.symm.trans still
  have there : wonWar now war ∈ (state.update war.id (wonWar now)).wars := mem_map.mpr ⟨war, listed, if_pos rfl⟩
  refine closed.kill there ((wonWar_columns now war).1.trans same) (fun invited => by cases won.symm.trans invited)
    (fun still => by cases won.symm.trans still) ?_ (limits_post state kill ahead) (recorded_post state kill ahead)
  exact congrArg (Table.update GuildWar.id war.id (wonWar now)) (wars_post state kill ahead)

theorem Ordered.death (ordered : Ordered state) {killerGuild targetGuild : Nat} {inWar ahead : Bool}
    (careful : ∀ war, state.warOf killerGuild targetGuild inWar = some war →
      ahead = true ∨ killsOf state.recorded killerGuild war.id + 1 < war.frags) (now : Int) :
    Ordered (state.death killerGuild targetGuild inWar ahead now) := by
  unfold GuildWars.death
  cases found : state.warOf killerGuild targetGuild inWar with
  | none => exact ordered
  | some war =>
    obtain ⟨listed, active, side⟩ := mem_warOf found
    have limit := ordered.limit listed
    dsimp only
    rw [limits_post, limit]
    split_ifs with reached
    · exact ordered.won listed active rfl ahead now
    · refine ordered.kill listed rfl (fun invited => by cases active.symm.trans invited) (fun _ => ?_)
        (wars_post _ _ _) (limits_post _ _ _) (recorded_post _ _ _)
      show killsOf state.recorded killerGuild war.id + 1 < war.frags
      rcases careful war found with rfl | below
      · -- The count has seen the kill.
        rw [kills_post_ahead, killsOf_append, killsOf_append, not_or] at reached
        have one : killsOf [⟨killerGuild, targetGuild, war.id⟩] killerGuild war.id = 1 := by simp [killsOf]
        rcases mem_cons.mp side with first | second
        · rw [← first, one] at reached
          omega
        · rw [← mem_singleton.mp second, one] at reached
          omega
      · exact below

theorem Ordered.databaseThread (ordered : Ordered state) : Ordered state.databaseThread := by
  unfold GuildWars.databaseThread
  split
  · exact ordered
  · next kill later first =>
    refine ordered.of_eq rfl rfl ?_
    simp [recorded, first]

theorem Ordered.step (ordered : Ordered state) {event : Event} (careful : state.Careful event) :
    Ordered (state.step event) := by
  cases event with
  | command guild enemy command now => exact ordered.command careful
  | bank guild amount => exact ordered.setBalance guild amount
  | death killerGuild targetGuild inWar ahead now => exact ordered.death careful now
  | databaseThread => exact ordered.databaseThread

theorem Ordered.run (ordered : Ordered state) {events : List Event} (careful : AllCareful events state) :
    Ordered (state.run events) := by
  induction events generalizing state with
  | nil => exact ordered
  | cons event later ih => exact ih (ordered.step careful.1) careful.2

/-- Careful runs from empty tables are fair. -/
theorem fair_of_allCareful (balance : Nat → Int) {events : List Event} (careful : AllCareful events { balance }) :
    Fair (run { balance } events) :=
  ((ordered_start balance).run careful).toFair

/-- A war for two frags that the second of two kills ends. -/
theorem fair_twoFrags :
    let events : List Event :=
      [.command 1 2 (.invite (some 2) none none) 10, .command 2 1 .accept 20, .death 1 2 true false 30,
        .death 1 2 true true 40]
    (run { balance := fun _ => 0 } events).wars = [⟨1, 1, 2, .truce, 20, 40, 2, 0, none⟩] ∧
      Fair (run { balance := fun _ => 0 } events) := by
  refine ⟨by decide +kernel, fair_of_allCareful _ ⟨?_, ?_, ?_, ?_, trivial⟩⟩
  · exact fun war listed => absurd listed not_mem_nil
  · intro war found
    cases found
    rfl
  · intro war found
    cases found
    exact .inr (by decide +kernel)
  · exact fun war _ => .inl rfl

/-- A guild is invited again in a truce, a war of three days is accepted, and a kill is counted too
early. -/
theorem not_fair_three :
    ¬ Fair (run { balance := fun _ => 0 }
      [.command 1 2 (.invite none none none) 10, .command 2 1 .accept 20, .command 2 1 .endWar 30,
        .command 1 2 (.invite none none none) 40]) ∧
    ¬ Fair (run { balance := fun _ => 0 }
      [.command 1 2 (.invite none none (some 3)) 1000000, .command 2 1 .accept 1000100]) ∧
    ¬ Fair (run { balance := fun _ => 0 }
      [.command 1 2 (.invite none none none) 10, .command 2 1 .accept 20, .death 1 2 true false 30]) := by
  refine ⟨fun fair => ?_, fun fair => ?_, fun fair => ?_⟩
  · have same := fair.single ⟨1, 1, 2, .truce, 20, 30, 1, 0, none⟩ (by decide) ⟨2, 1, 2, .invited, 40, 0, 1, 0, none⟩
      (by decide) (by decide) (by decide) (by decide)
    exact absurd same (by decide)
  · have days := fair.timed ⟨1, 1, 2, .active, 1000100, 1000097, 1, 0, some 259200⟩ (by decide +kernel) rfl 259200 rfl
    exact absurd days (by decide)
  · have below := fair.decided ⟨1, 1, 2, .active, 20, 0, 1, 0, none⟩ (by decide) rfl 1 (by decide)
    exact absurd below (by decide)

end

end GuildWars

end Styller
