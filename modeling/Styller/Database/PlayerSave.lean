import Styller.Library.Session

/-! `IOLoginData::savePlayer`: the statements that it sends in a transaction, over a connection that is made again when it is
lost. -/

namespace Styller.PlayerSave

open Library List Function

/-- The tables with rows of a player, besides `players`. -/
inductive Table where
  | spells
  | items
  | depotLockerItems
  | depotItems
  | storage
  | outfits
  deriving DecidableEq

structure PlayersRow where
  save : Nat
  onlineTime : Int
  /-- The other columns. -/
  columns : String → String

/-- The rows of a player in the database, as their texts. -/
structure Stored where
  row : PlayersRow
  rows : Table → List String

inductive Statement where
  /-- `UPDATE` of `players` with the columns that are set, and what is added to `onlinetime`. -/
  | update (columns : List (String × String)) (onlineTime : Int)
  | delete (table : Table)
  | insert (table : Table) (values : List String)

def Statement.run : Statement → Stored → Stored
  | .update columns onlineTime, stored =>
    { stored with
      row :=
        { stored.row with
          columns := fun column => (columns.lookup column).getD (stored.row.columns column)
          onlineTime := stored.row.onlineTime + onlineTime } }
  | .delete table, stored => { stored with rows := Function.update stored.rows table [] }
  | .insert table values, stored => { stored with rows := Function.update stored.rows table (stored.rows table ++ values) }

/-- The text that an insertion into a table starts with. -/
def insertQuery : Table → String
  | .spells => "INSERT INTO `player_spells` (`player_id`, `name` ) VALUES "
  | .items => "INSERT INTO `player_items` (`player_id`, `pid`, `sid`, `itemtype`, `count`, `attributes`) VALUES "
  | .depotLockerItems =>
    "INSERT INTO `player_depotlockeritems` (`player_id`, `pid`, `sid`, `itemtype`, `count`, `attributes`) VALUES "
  | .depotItems => "INSERT INTO `player_depotitems` (`player_id`, `pid`, `sid`, `itemtype`, `count`, `attributes`) VALUES "
  | .storage => "INSERT INTO `player_storage` (`player_id`, `key`, `value`) VALUES "
  | .outfits => "INSERT INTO `player_outfits` (`player_id`, `outfit_id`, `addons`) VALUES "

/-- What `savePlayer` reads of a player: the rows as `addRow` gets them. -/
structure Player where
  lastLoginSaved : Nat
  lastIP : Nat
  level : Nat
  /-- The other columns of the `UPDATE`. -/
  columns : List (String × String)
  /-- What is added to `onlinetime`, if the player is online. -/
  onlineTime : Option Int
  learnedInstantSpellList : List String
  items : List String
  /-- `needsSave` of the depot lockers. -/
  depotLockerMap : List Bool
  lockerItems : List String
  depotItems : List String
  storageMap : List String
  outfits : List String

section

variable (maxPacketSize : Nat)

/-- `DBInsert::execute` for the values that wait. -/
def flush (table : Table) (values : List String) : List Statement :=
  if values.isEmpty then [] else [.insert table values]

/-- `DBInsert::addRow` for every row and `DBInsert::execute`, with the length so far and the values that wait. -/
def insertAll (table : Table) : Nat → List String → List String → List Statement
  | _, values, [] => flush table values
  | length, values, row :: rows =>
    if length + row.length > maxPacketSize then
      flush table values ++
        insertAll table (if values.isEmpty then length + row.length else (insertQuery table).length) [row] rows
    else insertAll table (length + row.length) (values ++ [row]) rows

def rewrite (table : Table) (rows : List String) : List Statement :=
  .delete table :: insertAll maxPacketSize table (insertQuery table).length [] rows

variable (player : Player)

/-- The first query of the transaction. -/
def updatePlayers : Statement :=
  let lastLogin := if player.lastLoginSaved ≠ 0 then [("lastlogin", toString player.lastLoginSaved)] else []
  let lastIP := if player.lastIP ≠ 0 then [("lastip", toString player.lastIP)] else []
  .update (("level", toString player.level) :: (lastLogin ++ lastIP ++ player.columns)) (player.onlineTime.getD 0)

def updateLogin : Statement :=
  .update [("lastlogin", toString player.lastLoginSaved), ("lastip", toString player.lastIP)] 0

/-- The queries between `begin` and `commit`. -/
def statements : List Statement :=
  let needsSave := player.depotLockerMap.any id
  let depot :=
    if needsSave then
      rewrite maxPacketSize .depotLockerItems player.lockerItems ++ rewrite maxPacketSize .depotItems player.depotItems
    else []
  updatePlayers player ::
    (rewrite maxPacketSize .spells player.learnedInstantSpellList ++ rewrite maxPacketSize .items player.items ++ depot ++
      rewrite maxPacketSize .storage player.storageMap ++ rewrite maxPacketSize .outfits player.outfits)

/-- `Database::executeQuery`, with whether it succeeds. -/
def executeQuery (query : Statement) (session : Session Stored) (outcomes : List Outcome) :
    Bool × Session Stored × List Outcome :=
  persist (fun session => session.apply query.run) session outcomes

/-- `Database::commit`, which is not tried again. -/
def commit (session : Session Stored) : List Outcome → Bool × Session Stored
  | .error :: _ => (false, session)
  | .lost :: _ => (false, session.discarded)
  | _ => (true, session.committed)

/-- `Database::rollback` by the destructor of the transaction. -/
def rollback (session : Session Stored) : List Outcome → Session Stored
  | .error :: _ => session
  | _ => session.discarded

/-- The transaction of `savePlayer`. -/
def transact (stored : Stored) (outcomes : List Outcome) : Bool × Session Stored :=
  let (begun, session, outcomes) := persist Session.opened { stored } outcomes
  if !begun then (false, rollback session outcomes)
  else
    let (sent, session, outcomes) := sendAll ((statements maxPacketSize player).map Statement.run) session outcomes
    if !sent then (false, rollback session outcomes) else commit session outcomes

/-- `IOLoginData::savePlayer`. -/
def savePlayer (stored : Stored) (outcomes : List Outcome) : Bool × Session Stored :=
  -- `SELECT save`
  let (selected, session, outcomes) := persist id { stored } outcomes
  if !selected then (false, session)
  else if session.stored.row.save = 0 then
    let (sent, session, _) := executeQuery (updateLogin player) session outcomes
    (sent, session)
  else transact maxPacketSize player session.stored outcomes

end

section

def runAll (queries : List Statement) (stored : Stored) : Stored := applyAll (queries.map Statement.run) stored

variable {queries : List Statement} {stored : Stored} {table : Table} {rows : List String}

theorem runAll_append (first second : List Statement) (stored : Stored) :
    runAll (first ++ second) stored = runAll second (runAll first stored) := by
  unfold runAll
  rw [map_append, applyAll_append]

theorem runAll_cons (query : Statement) (queries : List Statement) (stored : Stored) :
    runAll (query :: queries) stored = runAll queries (query.run stored) := rfl

/-- A query on rows of another table, or on the row of the player. -/
def Statement.Spares (table : Table) : Statement → Prop
  | .update _ _ => True
  | .delete other => other ≠ table
  | .insert other _ => other ≠ table

theorem runAll_spares (spares : ∀ query ∈ queries, query.Spares table) : (runAll queries stored).rows table = stored.rows table := by
  induction queries generalizing stored with
  | nil => rfl
  | cons query queries ih =>
    rw [runAll_cons, ih fun other mem => spares other (mem_cons_of_mem query mem)]
    have here := spares query mem_cons_self
    cases query with
    | update columns onlineTime => rfl
    | delete other => exact update_of_ne here.symm ..
    | insert other values => exact update_of_ne here.symm ..

/-- A query on the rows of some table. -/
def Statement.OnRows : Statement → Prop
  | .update _ _ => False
  | .delete _ => True
  | .insert _ values => values ≠ []

theorem runAll_row (onRows : ∀ query ∈ queries, query.OnRows) : (runAll queries stored).row = stored.row := by
  induction queries generalizing stored with
  | nil => rfl
  | cons query queries ih =>
    rw [runAll_cons, ih fun other mem => onRows other (mem_cons_of_mem query mem)]
    have here := onRows query mem_cons_self
    cases query with
    | update columns onlineTime => exact absurd here id
    | delete other => rfl
    | insert other values => rfl

/-- Insertions into one table. -/
def Inserts (table : Table) (queries : List Statement) : Prop :=
  ∀ query ∈ queries, ∃ values, values ≠ [] ∧ query = .insert table values

theorem Inserts.append {first second : List Statement} (inserts : Inserts table first) (others : Inserts table second) :
    Inserts table (first ++ second) := by
  intro query mem
  rcases mem_append.mp mem with mem | mem
  · exact inserts query mem
  · exact others query mem

theorem Inserts.length (inserts : Inserts table queries) (stored : Stored) :
    (stored.rows table).length + queries.length ≤ ((runAll queries stored).rows table).length := by
  induction queries generalizing stored with
  | nil => exact Nat.le_refl _
  | cons query queries ih =>
    obtain ⟨values, some, rfl⟩ := inserts query mem_cons_self
    have rest := ih (fun other mem => inserts other (mem_cons_of_mem _ mem)) ((Statement.insert table values).run stored)
    have more : ((Statement.insert table values).run stored).rows table = stored.rows table ++ values := update_self ..
    have grown := length_pos_of_ne_nil some
    rw [more, length_append] at rest
    rw [runAll_cons, length_cons]
    omega

variable (maxPacketSize : Nat)

theorem flush_inserts (table : Table) (values : List String) : Inserts table (flush table values) := by
  intro query mem
  unfold flush at mem
  cases values with
  | nil => exact absurd mem not_mem_nil
  | cons value values => exact ⟨value :: values, cons_ne_nil value values, mem_singleton.mp mem⟩

theorem runAll_flush (table : Table) (values : List String) (stored : Stored) :
    (runAll (flush table values) stored).rows table = stored.rows table ++ values := by
  unfold flush
  cases values with
  | nil => exact (append_nil _).symm
  | cons value values => exact update_self ..

theorem insertAll_inserts (table : Table) (length : Nat) (values rows : List String) :
    Inserts table (insertAll maxPacketSize table length values rows) := by
  induction rows generalizing length values with
  | nil => exact flush_inserts table values
  | cons row rows ih =>
    unfold insertAll
    split
    · exact (flush_inserts table values).append (ih _ _)
    · exact ih _ _

theorem runAll_insertAll (table : Table) (length : Nat) (values rows : List String) (stored : Stored) :
    (runAll (insertAll maxPacketSize table length values rows) stored).rows table = stored.rows table ++ values ++ rows := by
  induction rows generalizing length values stored with
  | nil => rw [append_nil, insertAll, runAll_flush]
  | cons row rows ih =>
    unfold insertAll
    split
    · rw [runAll_append, ih, runAll_flush, append_assoc, singleton_append]
    · rw [ih, ← append_assoc, append_assoc, singleton_append]

/-- A table has just the rows that there are now. -/
theorem runAll_rewrite (table : Table) (rows : List String) (stored : Stored) :
    (runAll (rewrite maxPacketSize table rows) stored).rows table = rows := by
  unfold rewrite
  rw [runAll_cons, runAll_insertAll]
  have none : ((Statement.delete table).run stored).rows table = [] := update_self ..
  rw [none]
  rfl

theorem rewrite_cases {table : Table} {rows : List String} {query : Statement} (mem : query ∈ rewrite maxPacketSize table rows) :
    query = .delete table ∨ ∃ values, values ≠ [] ∧ query = .insert table values := by
  rcases mem_cons.mp mem with is | mem
  · exact .inl is
  · exact .inr (insertAll_inserts maxPacketSize table _ _ _ query mem)

theorem rewrite_onRows {table : Table} {rows : List String} {query : Statement} (mem : query ∈ rewrite maxPacketSize table rows) :
    query.OnRows := by
  rcases rewrite_cases maxPacketSize mem with rfl | ⟨values, some, rfl⟩
  · trivial
  · exact some

theorem rewrite_spares {table other : Table} {rows : List String} {query : Statement} (apart : table ≠ other)
    (mem : query ∈ rewrite maxPacketSize table rows) : query.Spares other := by
  rcases rewrite_cases maxPacketSize mem with rfl | ⟨values, _, rfl⟩
  · exact apart
  · exact apart

end

section

variable (maxPacketSize : Nat) (player : Player)

/-- The queries before those on the outfits. -/
def front : List Statement :=
  let depot :=
    if player.depotLockerMap.any id then
      rewrite maxPacketSize .depotLockerItems player.lockerItems ++ rewrite maxPacketSize .depotItems player.depotItems
    else []
  rewrite maxPacketSize .spells player.learnedInstantSpellList ++ rewrite maxPacketSize .items player.items ++ depot ++
    rewrite maxPacketSize .storage player.storageMap

theorem statements_eq : statements maxPacketSize player =
    updatePlayers player :: (front maxPacketSize player ++ rewrite maxPacketSize .outfits player.outfits) := rfl

theorem front_each (property : Statement → Prop) (each : ∀ table rows, table ≠ Table.outfits →
      ∀ query ∈ rewrite maxPacketSize table rows, property query) : ∀ query ∈ front maxPacketSize player, property query := by
  intro query mem
  unfold front at mem
  rcases mem_append.mp mem with mem | mem
  · rcases mem_append.mp mem with mem | mem
    · rcases mem_append.mp mem with mem | mem
      · exact each .spells _ (by decide) query mem
      · exact each .items _ (by decide) query mem
    · split at mem
      · rcases mem_append.mp mem with mem | mem
        · exact each .depotLockerItems _ (by decide) query mem
        · exact each .depotItems _ (by decide) query mem
      · exact absurd mem not_mem_nil
  · exact each .storage _ (by decide) query mem

/-- All but the first of the queries are on rows. -/
theorem statements_onRows : ∀ query ∈ front maxPacketSize player ++ rewrite maxPacketSize .outfits player.outfits,
    query.OnRows := by
  intro query mem
  rcases mem_append.mp mem with mem | mem
  · exact front_each maxPacketSize player _ (fun _ _ _ _ => rewrite_onRows maxPacketSize) query mem
  · exact rewrite_onRows maxPacketSize mem

theorem front_spares : ∀ query ∈ updatePlayers player :: front maxPacketSize player, query.Spares .outfits := by
  intro query mem
  rcases mem_cons.mp mem with rfl | mem
  · exact trivial
  · exact front_each maxPacketSize player _ (fun _ _ apart _ => rewrite_spares maxPacketSize apart) query mem

def complete (stored : Stored) : Stored := (savePlayer maxPacketSize player stored []).2.stored

/-- The rows after a save are those before it or those of the complete save. -/
def AllOrNothing (stored : Stored) (outcomes : List Outcome) : Prop :=
  (savePlayer maxPacketSize player stored outcomes).2.stored = stored ∨
    (savePlayer maxPacketSize player stored outcomes).2.stored = complete maxPacketSize player stored

/-- The outcomes of the queries of the transaction: when the connection is lost, no query succeeds after it, or the first was
being sent and all succeed after it. -/
def Whole (count : Nat) (outcomes : List Outcome) : Prop :=
  ∀ first, lostAfter outcomes count = some first →
    done outcomes count = first ∨ first = 0 ∧ done outcomes count = count

/-- The outcomes of a save, without those of `SELECT` and `BEGIN`. -/
def Steady (outcomes : List Outcome) : Prop :=
  ∀ selected begun, answered outcomes = some selected → answered selected = some begun →
    Whole (statements maxPacketSize player).length begun

variable {maxPacketSize player} {stored : Stored} {outcomes selected begun : List Outcome}

theorem rollback_stored (session : Session Stored) (outcomes : List Outcome) :
    (rollback session outcomes).stored = session.stored := by
  unfold rollback
  split <;> rfl

theorem commit_stored (session : Session Stored) (outcomes : List Outcome) :
    (commit session outcomes).2.stored = session.stored ∨
      (commit session outcomes).2.stored = session.transaction.getD session.stored := by
  unfold commit
  split
  · exact .inl rfl
  · exact .inl rfl
  · exact .inr rfl

theorem transact_refused (refused : answered outcomes = none) : (transact maxPacketSize player stored outcomes).2.stored = stored := by
  unfold transact
  rw [persist_single, refused]
  exact rollback_stored ..

theorem transact_begun (begins : answered outcomes = some begun) :
    transact maxPacketSize player stored outcomes =
      let result := sendAll ((statements maxPacketSize player).map Statement.run) { stored, transaction := some stored } begun
      if !result.1 then (false, rollback result.2.1 result.2.2) else commit result.2.1 result.2.2 := by
  unfold transact
  rw [persist_single, begins]
  rfl

/-- The connection is lost in the transaction. -/
theorem transact_lost (begins : answered outcomes = some begun) {before : Nat}
    (lost : lostAfter begun (statements maxPacketSize player).length = some before) :
    (transact maxPacketSize player stored outcomes).2.stored =
      runAll (((statements maxPacketSize player).take (done begun (statements maxPacketSize player).length)).drop before)
        stored := by
  have sends := sendAll_transaction ((statements maxPacketSize player).map Statement.run) stored stored begun
  rw [length_map, lost] at sends
  dsimp only at sends
  rw [← map_take, ← map_drop] at sends
  rw [transact_begun begins]
  generalize sendAll ((statements maxPacketSize player).map Statement.run) { stored, transaction := some stored } begun = result at sends
  dsimp only
  split
  · rw [rollback_stored, sends.2]
    rfl
  · rcases commit_stored result.2.1 result.2.2 with is | is
    · rw [is, sends.2]
      rfl
    · rw [is, sends.2]
      rfl

/-- The connection is not lost in the transaction, but perhaps at its end. -/
theorem transact_kept (begins : answered outcomes = some begun)
    (kept : lostAfter begun (statements maxPacketSize player).length = none) :
    (transact maxPacketSize player stored outcomes).2.stored = stored ∨
      (transact maxPacketSize player stored outcomes).2.stored = runAll (statements maxPacketSize player) stored := by
  have sends := sendAll_transaction ((statements maxPacketSize player).map Statement.run) stored stored begun
  rw [length_map, kept, ← map_take] at sends
  rw [transact_begun begins]
  generalize sendAll ((statements maxPacketSize player).map Statement.run) { stored, transaction := some stored } begun = result at sends
  dsimp only
  split
  · left
    rw [rollback_stored, sends.2]
  · next sent =>
    rw [sends.1, Bool.not_eq_true', decide_eq_false_iff_not, not_not] at sent
    rw [sent, take_length] at sends
    rcases commit_stored result.2.1 result.2.2 with is | is
    · left
      rw [is, sends.2]
    · right
      rw [is, sends.2]
      rfl

theorem transact_complete (stored : Stored) :
    (transact maxPacketSize player stored []).2.stored = runAll (statements maxPacketSize player) stored := by
  rw [transact_begun rfl, sendAll_transaction_nil]
  rfl

theorem savePlayer_selected (saved : stored.row.save ≠ 0) (selects : answered outcomes = some selected) :
    savePlayer maxPacketSize player stored outcomes = transact maxPacketSize player stored selected := by
  unfold savePlayer
  rw [persist_single, selects]
  exact if_neg saved

theorem savePlayer_refused (refused : answered outcomes = none) : (savePlayer maxPacketSize player stored outcomes).2.stored = stored := by
  unfold savePlayer
  rw [persist_single, refused]
  rfl

theorem complete_eq (saved : stored.row.save ≠ 0) :
    complete maxPacketSize player stored = runAll (statements maxPacketSize player) stored := by
  unfold complete
  rw [savePlayer_selected saved rfl, transact_complete]

theorem savePlayer_login (unsaved : stored.row.save = 0) (selects : answered outcomes = some selected) :
    (savePlayer maxPacketSize player stored outcomes).2 = (executeQuery (updateLogin player) { stored } selected).2.1 := by
  have is : savePlayer maxPacketSize player stored outcomes =
      ((executeQuery (updateLogin player) { stored } selected).1, (executeQuery (updateLogin player) { stored } selected).2.1) := by
    unfold savePlayer
    rw [persist_single, selects]
    exact if_pos unsaved
  rw [is]

/-- A player who is not to be saved has one query. -/
theorem allOrNothing_login (unsaved : stored.row.save = 0) (outcomes : List Outcome) :
    AllOrNothing maxPacketSize player stored outcomes := by
  have whole : complete maxPacketSize player stored = (updateLogin player).run stored := by
    unfold complete
    rw [savePlayer_login unsaved rfl]
    rfl
  cases selects : answered outcomes with
  | none => exact .inl (savePlayer_refused selects)
  | some rest =>
    unfold AllOrNothing
    rw [savePlayer_login unsaved selects, whole]
    unfold executeQuery
    rw [persist_single]
    cases answered rest with
    | none => exact .inl rfl
    | some rest => exact .inr rfl

theorem allOrNothing_of_steady (steady : Steady maxPacketSize player outcomes) (stored : Stored) :
    AllOrNothing maxPacketSize player stored outcomes := by
  by_cases saved : stored.row.save = 0
  · exact allOrNothing_login saved outcomes
  · cases selects : answered outcomes with
    | none => exact .inl (savePlayer_refused selects)
    | some selected =>
      unfold AllOrNothing
      rw [savePlayer_selected saved selects, complete_eq saved]
      cases begins : answered selected with
      | none => exact .inl (transact_refused begins)
      | some begun =>
        cases lost : lostAfter begun (statements maxPacketSize player).length with
        | none => exact transact_kept begins lost
        | some before =>
          rw [transact_lost begins lost]
          rcases steady selected begun selects begins before lost with last | ⟨first, all⟩
          · left
            rw [last, drop_take_self]
            rfl
          · right
            rw [first, all, take_length]
            rfl

/-- A player with another level and some rows. -/
def older (player : Player) (rows : List String) : Stored where
  row := { save := 1, onlineTime := 0, columns := fun _ => toString player.level ++ "x" }
  rows := fun _ => rows

theorem older_level (player : Player) (rows : List String) : (older player rows).row.columns "level" ≠ toString player.level := by
  intro same
  have lengths := congrArg String.length same
  rw [show (older player rows).row.columns "level" = toString player.level ++ "x" from rfl, String.length_append] at lengths
  have one : ("x" : String).length = 1 := rfl
  omega

theorem runAll_level {queries : List Statement} (onRows : ∀ query ∈ queries, query.OnRows) (stored : Stored) :
    (runAll (updatePlayers player :: queries) stored).row.columns "level" = toString player.level := by
  rw [runAll_cons, runAll_row onRows]
  rfl

/-- Some of the queries after the first change the rows of some player, but not his level. -/
theorem runAll_late {queries : List Statement} (some : queries ≠ []) (onRows : ∀ query ∈ queries, query.OnRows) (player : Player) :
    ∃ rows, (runAll queries (older player rows)).rows ≠ (older player rows).rows := by
  obtain ⟨front, last, rfl⟩ := (eq_nil_or_concat' queries).resolve_left some
  have here := onRows last mem_concat_self
  cases last with
  | update columns onlineTime => exact absurd here id
  | delete table =>
    refine ⟨[""], ?_⟩
    intro same
    have none : (runAll (front ++ [.delete table]) (older player [""])).rows table = [] := by
      rw [runAll_append]
      exact update_self ..
    rw [same] at none
    exact absurd none (cons_ne_nil "" [])
  | insert table values =>
    refine ⟨[], ?_⟩
    intro same
    have added : (runAll (front ++ [.insert table values]) (older player [])).rows table =
        (runAll front (older player [])).rows table ++ values := by
      rw [runAll_append]
      exact update_self ..
    rw [same] at added
    exact absurd (append_eq_nil_iff.mp added.symm).2 here

/-- The queries up to one before the last leave the outfits of some player other than all do. -/
theorem runAll_early {sent : Nat} (less : sent < (statements maxPacketSize player).length) :
    (runAll ((statements maxPacketSize player).take sent) (older player (player.outfits ++ [""]))).rows .outfits ≠
      (runAll (statements maxPacketSize player) (older player (player.outfits ++ [""]))).rows .outfits := by
  intro same
  rw [statements_eq, ← cons_append] at same less
  by_cases early : sent ≤ (updatePlayers player :: front maxPacketSize player).length
  · rw [take_append_of_le_length early, runAll_spares, runAll_append, runAll_rewrite] at same
    · have lengths := congrArg List.length same
      rw [show (older player (player.outfits ++ [""])).rows .outfits = player.outfits ++ [""] from rfl, length_append] at lengths
      exact absurd lengths (Nat.succ_ne_self _)
    · intro query mem
      exact front_spares maxPacketSize player query (mem_of_mem_take mem)
  · have rest : Inserts .outfits ((updatePlayers player :: front maxPacketSize player ++
        rewrite maxPacketSize .outfits player.outfits).drop sent) := by
      have past : sent - (updatePlayers player :: front maxPacketSize player).length ≠ 0 := Nat.sub_ne_zero_of_lt (Nat.lt_of_not_le early)
      obtain ⟨further, is⟩ := Nat.exists_eq_succ_of_ne_zero past
      rw [drop_append, drop_eq_nil_of_le (Nat.le_of_not_le early), is]
      intro query mem
      exact insertAll_inserts maxPacketSize .outfits _ _ _ query (mem_of_mem_drop mem)
    have grown := rest.length (runAll ((updatePlayers player :: front maxPacketSize player ++
      rewrite maxPacketSize .outfits player.outfits).take sent) (older player (player.outfits ++ [""])))
    rw [← runAll_append, take_append_drop, same, length_drop] at grown
    omega

theorem steady_of_allOrNothing (always : ∀ stored, AllOrNothing maxPacketSize player stored outcomes) :
    Steady maxPacketSize player outcomes := by
  intro selected begun selects begins before lost
  have lower := lostAfter_le lost
  have upper := done_le begun (statements maxPacketSize player).length
  have left (rows : List String) := always (older player rows)
  have saved (rows : List String) : (older player rows).row.save ≠ 0 := Nat.one_ne_zero
  unfold AllOrNothing at left
  simp only [savePlayer_selected (saved _) selects, complete_eq (saved _), transact_lost begins lost] at left
  have rest := statements_onRows maxPacketSize player
  have ends (rows : List String) :
      (runAll (statements maxPacketSize player) (older player rows)).row.columns "level" = toString player.level :=
    runAll_level rest _
  by_contra broken
  obtain ⟨more, partly⟩ := not_or.mp broken
  by_cases first : before = 0
  · subst first
    -- the first query takes effect, and one of the others does not
    have less : done begun (statements maxPacketSize player).length < (statements maxPacketSize player).length :=
      Nat.lt_of_le_of_ne upper fun all => partly ⟨rfl, all⟩
    obtain ⟨sent, is⟩ := Nat.exists_eq_succ_of_ne_zero more
    rcases left (player.outfits ++ [""]) with same | same
    · have level : (runAll ((statements maxPacketSize player).take (sent + 1)) (older player (player.outfits ++ [""]))).row.columns
          "level" = toString player.level := runAll_level (fun query mem => rest query (mem_of_mem_take mem)) _
      rw [drop_zero, is] at same
      rw [same] at level
      exact older_level player _ level
    · rw [drop_zero] at same
      exact runAll_early less (congrArg (fun stored => stored.rows .outfits) same)
  · -- the first query takes no effect, and one of the others does
    have late : ∀ query ∈ ((statements maxPacketSize player).take (done begun (statements maxPacketSize player).length)).drop before,
        query.OnRows := by
      obtain ⟨further, is⟩ := Nat.exists_eq_succ_of_ne_zero first
      intro query mem
      rw [drop_take, is, statements_eq] at mem
      have past : query ∈ (front maxPacketSize player ++ rewrite maxPacketSize .outfits player.outfits).drop further :=
        mem_of_mem_take mem
      exact rest query (mem_of_mem_drop past)
    have some : ((statements maxPacketSize player).take (done begun (statements maxPacketSize player).length)).drop before ≠ [] := by
      intro none
      have lengths := congrArg List.length none
      rw [length_drop, length_take, Nat.min_eq_left upper, length_nil] at lengths
      omega
    obtain ⟨rows, changed⟩ := runAll_late some late player
    rcases left rows with same | same
    · exact changed (congrArg Stored.rows same)
    · have level := ends rows
      rw [← same, runAll_row late] at level
      exact older_level player rows level

/-- A save is all or nothing for whatever is stored just when a connection that is lost in the transaction is followed by no
query that succeeds, or when it is lost at the first query and all succeed. -/
theorem save_allOrNothing_iff (maxPacketSize : Nat) (player : Player) (outcomes : List Outcome) :
    (∀ stored, AllOrNothing maxPacketSize player stored outcomes) ↔ Steady maxPacketSize player outcomes :=
  ⟨steady_of_allOrNothing, allOrNothing_of_steady⟩

/-- A player of level eight with an item. -/
def rookie : Player where
  lastLoginSaved := 0
  lastIP := 0
  level := 8
  columns := []
  onlineTime := none
  learnedInstantSpellList := []
  items := ["1, 1, 101, 2160, 100, ''"]
  depotLockerMap := []
  lockerItems := []
  depotItems := []
  storageMap := []
  outfits := []

/-- The connection is lost when the items have been deleted: they are inserted beside the old ones. -/
theorem rookie_items_twice : ¬ ∀ stored, AllOrNothing 1048576 rookie stored [.success, .success, .success, .success, .success, .lost] := by
  intro always
  have stored := always { row := { save := 1, onlineTime := 0, columns := fun _ => "7" }, rows := fun _ => ["1, 1, 101, 2160, 100, ''"] }
  rcases stored with same | same
  · have rows := congrArg (fun stored => stored.rows .items) same
    revert rows
    decide +kernel
  · have rows := congrArg (fun stored => stored.rows .items) same
    revert rows
    decide +kernel

end

end Styller.PlayerSave
