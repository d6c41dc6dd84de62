import Mathlib.Data.List.Nodup

/-! The storage values of accounts: how they are saved in batches of rows and loaded again. -/

namespace Styller.AccountStorage

open List Function

structure Row where
  accountId : UInt32
  key : UInt32
  value : Int32

def Row.length (row : Row) : Nat :=
  (toString row.accountId.toNat).length + (toString row.key.toNat).length + (toString row.value.toInt).length + 4

/-- What is sent to the database. -/
inductive Statement where
  | begin
  | delete
  | insert (rows : List Row)
  | commit

structure Database where
  rows : List Row := []
  maxPacketSize : Nat := 1048576
  /-- Whether a statement succeeds. -/
  answers : Statement → Bool

/-- `Database::executeQuery`, for the statements that are sent here. -/
def Database.executeQuery (db : Database) (query : Statement) : Option Database :=
  if db.answers query then
    match query with
    | .begin | .commit => some db
    | .delete => some { db with rows := [] }
    | .insert rows => some { db with rows := db.rows ++ rows }
  else none

structure DBInsert where
  queryLength : Nat
  length : Nat
  values : List Row := []

namespace DBInsert
variable (insert : DBInsert)

def execute (db : Database) : Option (Database × DBInsert) :=
  if insert.values.isEmpty then some (db, insert)
  else do
    let db ← db.executeQuery (.insert insert.values)
    some (db, { insert with values := [], length := insert.queryLength })

/-- The rows so far are sent if they are longer than a packet. -/
def makeRoom (db : Database) : Option (Database × DBInsert) :=
  if insert.length > db.maxPacketSize then insert.execute db else some (db, insert)

def addRow (db : Database) (row : Row) : Option (Database × DBInsert) := do
  let (db, insert) ← { insert with length := insert.length + row.length }.makeRoom db
  some (db, { insert with values := insert.values ++ [row] })

end DBInsert

def insertLength : Nat := 67

/-- `accountStorageMap`: its accounts in the order in which they are gone through, each with its keys and values in theirs. -/
structure Storage where
  accounts : List (UInt32 × List (UInt32 × Int32))
  nodup : (accounts.map Prod.fst).Nodup
  keys : ∀ account ∈ accounts, (account.2.map Prod.fst).Nodup
  /-- `setAccountStorageValue` erases a key for this value. -/
  stored : ∀ account ∈ accounts, ∀ entry ∈ account.2, entry.2 ≠ -1

/-- What can be looked up in `accountStorageMap`. -/
abbrev StorageMap := UInt32 → Option (UInt32 → Option Int32)

def Storage.map (storage : Storage) : StorageMap := fun accountId =>
  (storage.accounts.lookup accountId).map fun entries key => entries.lookup key

/-- `Game::setAccountStorageValue`; the account is in the map afterwards, also when the key is erased. -/
def setAccountStorageValue (map : StorageMap) (accountId key : UInt32) (value : Int32) : StorageMap :=
  let values := (map accountId).getD fun _ => none
  Function.update map accountId (some (Function.update values key (if value = -1 then none else some value)))

/-- `Game::getAccountStorageValue`. -/
def getAccountStorageValue (map : StorageMap) (accountId key : UInt32) : Int32 :=
  match map accountId with
  | some values => (values key).getD (-1)
  | none => -1

/-- `Game::loadAccountStorageValues`, for the rows that the query answers. -/
def loadAccountStorageValues (map : StorageMap) (result : List Row) : StorageMap :=
  result.foldl (fun map row => setAccountStorageValue map row.accountId row.key row.value) map

def addRows (accountId : UInt32) : Database × DBInsert → List (UInt32 × Int32) → Option (Database × DBInsert)
  | state, [] => some state
  | (db, insert), entry :: rest => do
    let state ← insert.addRow db ⟨accountId, entry.1, entry.2⟩
    addRows accountId state rest

/-- The loop over the accounts. -/
def saveAccounts (db : Database) : List (UInt32 × List (UInt32 × Int32)) → Option Database
  | [] => some db
  | account :: later =>
    -- an account without keys leaves the loop
    if account.2.isEmpty then some db
    else do
      let (db, insert) ← addRows account.1 (db, ⟨insertLength, insertLength, []⟩) account.2
      let (db, _) ← insert.execute db
      saveAccounts db later

/-- `Game::saveAccountStorageValues`; where a statement fails the transaction is rolled back. -/
def saveAccountStorageValues (db : Database) (storage : Storage) : Bool × Database :=
  let saved := do
    let db ← db.executeQuery .begin
    let db ← db.executeQuery .delete
    let db ← saveAccounts db storage.accounts
    db.executeQuery .commit
  match saved with
  | some after => (true, after)
  | none => (false, db)

/-- Accounts without keys come after all the others. -/
def EmptyLast (accounts : List (UInt32 × List (UInt32 × Int32))) : Prop :=
  accounts.Pairwise fun first second => first.2 = [] → second.2 = []

def rowsOf (accounts : List (UInt32 × List (UInt32 × Int32))) : List Row :=
  accounts.flatMap fun account => account.2.map fun entry => ⟨account.1, entry.1, entry.2⟩

section
variable {db : Database}

/-- All statements succeed. -/
def Database.Works (db : Database) : Prop := ∀ statement, db.answers statement = true

theorem executeQuery_insert (works : db.Works) (rows : List Row) :
    db.executeQuery (.insert rows) = some { db with rows := db.rows ++ rows } := by
  rw [Database.executeQuery, works]
  rfl

theorem execute_ok (works : db.Works) (insert : DBInsert) : ∃ length, insert.execute db =
    some ({ db with rows := db.rows ++ insert.values }, { insert with values := [], length }) := by
  unfold DBInsert.execute
  split
  · rename_i none
    have empty := List.isEmpty_iff.mp none
    refine ⟨insert.length, ?_⟩
    rw [empty, append_nil]
    rw [← empty]
  · rw [executeQuery_insert works]
    exact ⟨insert.queryLength, rfl⟩

theorem makeRoom_ok (works : db.Works) (insert : DBInsert) : ∃ sent waiting length, insert.makeRoom db =
    some ({ db with rows := sent }, { insert with values := waiting, length }) ∧ sent ++ waiting = db.rows ++ insert.values := by
  unfold DBInsert.makeRoom
  split
  · obtain ⟨length, executed⟩ := execute_ok works insert
    exact ⟨_, [], length, executed, append_nil _⟩
  · exact ⟨db.rows, insert.values, insert.length, rfl, rfl⟩

theorem addRow_ok (works : db.Works) (insert : DBInsert) (row : Row) : ∃ sent waiting length, insert.addRow db row =
    some ({ db with rows := sent }, { insert with values := waiting, length }) ∧
      sent ++ waiting = db.rows ++ insert.values ++ [row] := by
  obtain ⟨sent, waiting, length, room, whole⟩ := makeRoom_ok works { insert with length := insert.length + row.length }
  refine ⟨sent, waiting ++ [row], length, ?_, ?_⟩
  · rw [DBInsert.addRow, room]
    rfl
  · rw [← append_assoc, whole]

theorem addRows_ok (works : db.Works) (insert : DBInsert) (accountId : UInt32) (entries : List (UInt32 × Int32)) : ∃ sent waiting length,
    addRows accountId (db, insert) entries = some ({ db with rows := sent }, { insert with values := waiting, length }) ∧
      sent ++ waiting = db.rows ++ insert.values ++ entries.map fun entry => ⟨accountId, entry.1, entry.2⟩ := by
  induction entries generalizing db insert with
  | nil => exact ⟨db.rows, insert.values, insert.length, rfl, (append_nil _).symm⟩
  | cons entry rest ih =>
    obtain ⟨sent, waiting, length, added, one⟩ := addRow_ok works insert ⟨accountId, entry.1, entry.2⟩
    have still : Database.Works { db with rows := sent } := works
    obtain ⟨sent', waiting', length', later, others⟩ := ih still { insert with values := waiting, length }
    refine ⟨sent', waiting', length', ?_, ?_⟩
    · rw [addRows, added]
      exact later
    · rw [others]
      simp only
      rw [one, append_assoc, map_cons, singleton_append]

/-- The rows of the accounts in front of the first one without keys are saved. -/
theorem saveAccounts_ok (works : db.Works) (accounts : List (UInt32 × List (UInt32 × Int32))) :
    saveAccounts db accounts =
      some { db with rows := db.rows ++ rowsOf (accounts.takeWhile fun account => !account.2.isEmpty) } := by
  induction accounts generalizing db with
  | nil =>
    rw [saveAccounts, takeWhile_nil, rowsOf, flatMap_nil, append_nil]
  | cons account later ih =>
    by_cases none : account.2.isEmpty = true
    · rw [saveAccounts, if_pos none, takeWhile_cons_of_neg (by simp [none]), rowsOf, flatMap_nil, append_nil]
    · obtain ⟨sent, waiting, length, added, rows⟩ := addRows_ok works ⟨insertLength, insertLength, []⟩ account.1 account.2
      have still : Database.Works { db with rows := sent } := works
      have after_execution : Database.Works { db with rows := sent ++ waiting } := works
      obtain ⟨_, executed⟩ := execute_ok still ⟨insertLength, length, waiting⟩
      have after := ih after_execution
      rw [saveAccounts, if_neg none, added]
      simp only [Option.bind_eq_bind, Option.bind_some]
      rw [executed]
      simp only [Option.bind_some]
      rw [after, rows, takeWhile_cons_of_pos (by simp [none]), rowsOf, rowsOf, flatMap_cons, append_nil,
        append_assoc]

/-- A save on a database that works leaves these rows in the table. -/
theorem save_ok (works : db.Works) (storage : Storage) : saveAccountStorageValues db storage =
    (true, { db with rows := rowsOf (storage.accounts.takeWhile fun account => !account.2.isEmpty) }) := by
  have begun : db.executeQuery .begin = some db := by
    rw [Database.executeQuery, works]
    rfl
  have emptied : db.executeQuery .delete = some { db with rows := [] } := by
    rw [Database.executeQuery, works]
    rfl
  have committed : ∀ rows, ({ db with rows } : Database).executeQuery .commit = some { db with rows } := by
    intro rows
    rw [Database.executeQuery, works]
    rfl
  have still : Database.Works { db with rows := [] } := works
  have saved := saveAccounts_ok still storage.accounts
  rw [nil_append] at saved
  unfold saveAccountStorageValues
  simp only [begun, emptied, saved, committed, Option.bind_eq_bind, Option.bind_some]

end

section
variable {map : StorageMap} {accountId key : UInt32} {storage : Storage}

theorem get_set (accountId' key' : UInt32) (value : Int32) :
    getAccountStorageValue (setAccountStorageValue map accountId' key' value) accountId key =
      if accountId = accountId' ∧ key = key' then value else getAccountStorageValue map accountId key := by
  unfold getAccountStorageValue setAccountStorageValue
  by_cases account : accountId = accountId'
  · subst account
    simp only [update_self]
    by_cases same : key = key'
    · subst same
      have here : True ∧ key = key := ⟨trivial, rfl⟩
      rw [update_self, if_pos here]
      by_cases erased : value = -1
      · rw [if_pos erased, erased]
        rfl
      · rw [if_neg erased]
        rfl
    · rw [update_of_ne same, if_neg fun both => same both.2]
      cases map accountId with
      | none => rfl
      | some values => rfl
  · rw [update_of_ne account, if_neg fun both => account both.1]

theorem get_load_absent {result : List Row} (absent : (accountId, key) ∉ result.map fun row => (row.accountId, row.key)) :
    getAccountStorageValue (loadAccountStorageValues map result) accountId key = getAccountStorageValue map accountId key := by
  induction result generalizing map with
  | nil => rfl
  | cons row rest ih =>
    rw [map_cons, mem_cons, not_or] at absent
    have step : loadAccountStorageValues map (row :: rest) =
        loadAccountStorageValues (setAccountStorageValue map row.accountId row.key row.value) rest := rfl
    rw [step, ih absent.2, get_set, if_neg fun both => absent.1 (Prod.ext both.1 both.2)]

theorem get_load {result : List Row} (distinct : (result.map fun row => (row.accountId, row.key)).Nodup) {row : Row}
    (listed : row ∈ result) :
    getAccountStorageValue (loadAccountStorageValues map result) row.accountId row.key = row.value := by
  induction result generalizing map with
  | nil => cases listed
  | cons first rest ih =>
    rw [map_cons, nodup_cons] at distinct
    have step : loadAccountStorageValues map (first :: rest) =
        loadAccountStorageValues (setAccountStorageValue map first.accountId first.key first.value) rest := rfl
    rw [step]
    rcases mem_cons.mp listed with rfl | later
    · rw [get_load_absent distinct.1, get_set, if_pos ⟨rfl, rfl⟩]
    · exact ih distinct.2 later

theorem rowsOf_append (first second : List (UInt32 × List (UInt32 × Int32))) :
    rowsOf (first ++ second) = rowsOf first ++ rowsOf second := flatMap_append

theorem mem_rowsOf {accounts : List (UInt32 × List (UInt32 × Int32))} {row : Row} :
    row ∈ rowsOf accounts ↔ ∃ account ∈ accounts, account.1 = row.accountId ∧ (row.key, row.value) ∈ account.2 := by
  unfold rowsOf
  rw [mem_flatMap]
  constructor
  · rintro ⟨account, listed, entry⟩
    obtain ⟨pair, there, rfl⟩ := mem_map.mp entry
    exact ⟨account, listed, rfl, there⟩
  · rintro ⟨account, listed, same, there⟩
    refine ⟨account, listed, mem_map.mpr ⟨(row.key, row.value), there, ?_⟩⟩
    rw [same]

theorem lookup_of_mem {Value : Type} {entries : List (UInt32 × Value)} {entry : UInt32 × Value}
    (distinct : (entries.map Prod.fst).Nodup) (listed : entry ∈ entries) : entries.lookup entry.1 = some entry.2 := by
  induction entries with
  | nil => cases listed
  | cons first rest ih =>
    rw [map_cons, nodup_cons] at distinct
    rcases mem_cons.mp listed with rfl | later
    · rw [lookup_cons, beq_self_eq_true]
    · have other : (entry.1 == first.1) = false :=
        beq_eq_false_iff_ne.mpr fun same => distinct.1 (same ▸ mem_map_of_mem later)
      rw [lookup_cons, other]
      exact ih distinct.2 later

/-- What is in the map is found there. -/
theorem get_map_of_mem {account : UInt32 × List (UInt32 × Int32)} {entry : UInt32 × Int32} (listed : account ∈ storage.accounts)
    (there : entry ∈ account.2) : getAccountStorageValue storage.map account.1 entry.1 = entry.2 := by
  unfold getAccountStorageValue Storage.map
  rw [lookup_of_mem storage.nodup listed]
  simp only [Option.map_some]
  rw [lookup_of_mem (storage.keys account listed) there]
  rfl

theorem get_map_absent (absent : (accountId, key) ∉ (rowsOf storage.accounts).map fun row => (row.accountId, row.key)) :
    getAccountStorageValue storage.map accountId key = -1 := by
  unfold getAccountStorageValue Storage.map
  cases found : storage.accounts.lookup accountId with
  | none => rfl
  | some entries =>
    simp only [Option.map_some]
    cases there : entries.lookup key with
    | none => rfl
    | some value =>
      obtain ⟨front, back, split, _⟩ := lookup_eq_some_iff.mp found
      obtain ⟨front', back', split', _⟩ := lookup_eq_some_iff.mp there
      have account : (accountId, entries) ∈ storage.accounts := split ▸ mem_append_right front mem_cons_self
      have entry : (key, value) ∈ entries := split' ▸ mem_append_right front' mem_cons_self
      exact absurd (mem_map.mpr ⟨⟨accountId, key, value⟩, mem_rowsOf.mpr ⟨_, account, rfl, entry⟩, rfl⟩) absent

theorem distinct_rowsOf {accounts : List (UInt32 × List (UInt32 × Int32))} (fewer : List.Sublist accounts storage.accounts) :
    ((rowsOf accounts).map fun row => (row.accountId, row.key)).Nodup := by
  have keys : (rowsOf accounts).map (fun row => (row.accountId, row.key)) =
      accounts.flatMap fun account => account.2.map fun entry => (account.1, entry.1) := by
    simp only [rowsOf, map_flatMap, map_map, Function.comp_def]
  have ids : (accounts.map Prod.fst).Nodup := (fewer.map Prod.fst).nodup storage.nodup
  rw [keys, nodup_flatMap]
  constructor
  · intro account listed
    have inner : (account.2.map fun entry => (account.1, entry.1)) = (account.2.map Prod.fst).map (Prod.mk account.1) := by
      rw [map_map]
      rfl
    rw [inner]
    exact (storage.keys account (fewer.subset listed)).map fun _ _ same => congrArg Prod.snd same
  · apply (pairwise_map.mp ids).imp
    intro first second different pair one two
    obtain ⟨_, _, rfl⟩ := mem_map.mp one
    obtain ⟨_, _, same⟩ := mem_map.mp two
    exact different (congrArg Prod.fst same).symm

end

/-- Every key of every account has the same value in both maps. -/
def Restored (map other : StorageMap) : Prop :=
  ∀ accountId key, getAccountStorageValue other accountId key = getAccountStorageValue map accountId key

/-- The accounts from the first one without keys on have none. -/
theorem emptyLast_iff {accounts : List (UInt32 × List (UInt32 × Int32))} : EmptyLast accounts ↔
    ∀ account ∈ accounts.dropWhile (fun account => !account.2.isEmpty), account.2 = [] := by
  unfold EmptyLast
  induction accounts with
  | nil => exact iff_of_true .nil nofun
  | cons account later ih =>
    rw [pairwise_cons]
    by_cases none : account.2 = []
    · rw [dropWhile_cons_of_neg (by simp [none]), forall_mem_cons]
      constructor
      · exact fun both => ⟨none, fun other listed => both.1 other listed none⟩
      · intro all
        refine ⟨fun other listed _ => all.2 other listed, ?_⟩
        apply pairwise_of_forall_mem_list
        intro first _ second listed _
        exact all.2 second listed
    · rw [dropWhile_cons_of_pos (by simp [none]), ← ih]
      constructor
      · exact And.right
      · exact fun rest => ⟨fun _ _ empty => absurd empty none, rest⟩

/-- After a save on a database that works, a load into an empty map restores the storage just if the accounts without keys are
the last ones in the order in which the map is gone through. -/
theorem restored_iff (db : Database) (works : db.Works) (storage : Storage) (result : List Row)
    (selected : result.Perm (saveAccountStorageValues db storage).2.rows) :
    Restored storage.map (loadAccountStorageValues (fun _ => none) result) ↔ EmptyLast storage.accounts := by
  rw [save_ok works] at selected
  simp only at selected
  have parts : storage.accounts = storage.accounts.takeWhile (fun account => !account.2.isEmpty) ++
      storage.accounts.dropWhile (fun account => !account.2.isEmpty) := takeWhile_append_dropWhile.symm
  have distinct : (result.map fun row => (row.accountId, row.key)).Nodup :=
    (selected.map _).nodup_iff.mpr (distinct_rowsOf (takeWhile_sublist _))
  rw [emptyLast_iff]
  constructor
  · intro restored account dropped
    by_contra some
    obtain ⟨entry, rest, there⟩ := exists_cons_of_ne_nil some
    have member : entry ∈ account.2 := there ▸ mem_cons_self
    have listed : account ∈ storage.accounts := (dropWhile_sublist _).subset dropped
    have apart : account.1 ∉ (storage.accounts.takeWhile fun account => !account.2.isEmpty).map Prod.fst := by
      have whole := storage.nodup
      rw [parts, map_append] at whole
      intro taken
      exact disjoint_of_nodup_append whole taken (mem_map_of_mem dropped)
    have absent : (account.1, entry.1) ∉ result.map fun row => (row.accountId, row.key) := by
      intro found
      obtain ⟨row, saved, same⟩ := mem_map.mp found
      obtain ⟨other, taken, id, _⟩ := mem_rowsOf.mp (selected.mem_iff.mp saved)
      apply apart
      rw [← congrArg Prod.fst same, ← id]
      exact mem_map_of_mem taken
    have lost : getAccountStorageValue (loadAccountStorageValues (fun _ => none) result) account.1 entry.1 = -1 :=
      get_load_absent absent
    rw [restored, get_map_of_mem listed member] at lost
    exact storage.stored account listed entry member lost
  · intro none accountId key
    have same : rowsOf storage.accounts = rowsOf (storage.accounts.takeWhile fun account => !account.2.isEmpty) := by
      have empty : rowsOf (storage.accounts.dropWhile fun account => !account.2.isEmpty) = [] := by
        rw [rowsOf, flatMap_eq_nil_iff]
        intro account dropped
        rw [none account dropped, map_nil]
      have split := congrArg rowsOf parts
      rwa [rowsOf_append, empty, append_nil] at split
    rw [← same] at selected
    by_cases found : (accountId, key) ∈ (rowsOf storage.accounts).map fun row => (row.accountId, row.key)
    · obtain ⟨row, listed, pair⟩ := mem_map.mp found
      obtain ⟨account, there, id, entry⟩ := mem_rowsOf.mp listed
      cases pair
      rw [get_load distinct (selected.mem_iff.mpr listed), ← id, get_map_of_mem there entry]
    · have absent : (accountId, key) ∉ result.map fun row => (row.accountId, row.key) :=
        fun listed => found ((selected.map _).mem_iff.mp listed)
      rw [get_load_absent absent, get_map_absent found]
      rfl

def working : Database where
  answers _ := true

/-- An account with a key in front of one without. -/
def ordered : Storage where
  accounts := [(1, [(10, 5)]), (2, [])]
  nodup := by decide
  keys := by decide
  stored := by simp

theorem restored_iff_ordered :
    Restored ordered.map (loadAccountStorageValues (fun _ => none) (saveAccountStorageValues working ordered).2.rows) ↔
      EmptyLast ordered.accounts :=
  restored_iff working (fun _ => rfl) ordered _ (List.Perm.refl _)

/-- An account with a key behind one without. -/
def reversed : Storage where
  accounts := [(2, []), (1, [(10, 5)])]
  nodup := by decide
  keys := by decide
  stored := by simp

/-- The key is not saved. -/
theorem reversed_lost : ¬ Restored reversed.map
    (loadAccountStorageValues (fun _ => none) (saveAccountStorageValues working reversed).2.rows) := by
  intro restored
  exact absurd (restored 1 10) (by decide)

end Styller.AccountStorage
