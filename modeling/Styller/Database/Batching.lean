import Styller.Library.Stream

/-! `DBInsert`: rows are gathered in a query that is sent before it gets too long. -/

namespace Styller.Batching

open Library List

/-- The database with the queries that it has been sent; whether a query succeeds may depend on those before it. -/
structure Database where
  maxPacketSize : Nat
  answers : List Bytes → Bytes → Bool
  sent : List Bytes := []

def Database.executeQuery (db : Database) (query : Bytes) : Bool × Database :=
  (db.answers db.sent query, { db with sent := db.sent ++ [query] })

structure DBInsert where
  query : Bytes
  values : Bytes := []
  length : Nat

/-- The characters between the rows and around them. -/
def comma : UInt8 := 44
def openParen : UInt8 := 40
def closeParen : UInt8 := 41

namespace DBInsert

def new (query : Bytes) : DBInsert := { query, length := query.length }

section
variable (insert : DBInsert)

def execute (db : Database) : Bool × Database × DBInsert :=
  if insert.values.isEmpty then (true, db, insert)
  else
    let (res, db) := db.executeQuery (insert.query ++ insert.values)
    (res, db, { insert with values := [], length := insert.query.length })

/-- The row behind the values. -/
def push (row : Bytes) : DBInsert :=
  if insert.values.isEmpty then { insert with values := openParen :: row ++ [closeParen] }
  else { insert with values := insert.values ++ comma :: openParen :: row ++ [closeParen] }

/-- The length is added up and the values are sent where it is too much. -/
def makeRoom (db : Database) (row : Bytes) : Bool × Database × DBInsert :=
  let insert := { insert with length := insert.length + row.length }
  if insert.length > db.maxPacketSize then insert.execute db else (true, db, insert)

def addRow (db : Database) (row : Bytes) : Bool × Database × DBInsert :=
  match insert.makeRoom db row with
  | (true, db, insert) => (true, db, insert.push row)
  | (false, db, insert) => (false, db, insert)

end

def addRows : Database → DBInsert → List Bytes → Bool × Database × DBInsert
  | db, insert, [] => (true, db, insert)
  | db, insert, row :: rest =>
    match insert.addRow db row with
    | (true, db, insert) => addRows db insert rest
    | (false, db, insert) => (false, db, insert)

/-- All rows, and `execute` in the end. -/
def insertRows (db : Database) (insert : DBInsert) (rows : List Bytes) : Bool × Database :=
  match insert.addRows db rows with
  | (true, db, insert) => ((insert.execute db).1, (insert.execute db).2.1)
  | (false, db, _) => (false, db)

end DBInsert

def valueList (batch : List Bytes) : Bytes := List.intercalate [comma] (batch.map fun row => openParen :: row ++ [closeParen])

/-- Where the row waits behind others, the query fits with it, its parentheses and its comma. -/
def Waits (db : Database) (insert : DBInsert) (row : Bytes) : Prop :=
  insert.values ≠ [] → insert.length + row.length ≤ db.maxPacketSize →
    insert.query.length + insert.values.length + row.length + 3 ≤ db.maxPacketSize

/-- Every row that is added does. -/
def AllWait : Database → DBInsert → List Bytes → Prop
  | _, _, [] => True
  | db, insert, row :: rest => Waits db insert row ∧
      ((insert.addRow db row).1 = true → AllWait (insert.addRow db row).2.1 (insert.addRow db row).2.2 rest)

/-- Queries that are not too long. -/
def Short (limit : Nat) (queries : List Bytes) : Prop := ∀ query ∈ queries, query.length ≤ limit

/-- The query that waits is not too long. -/
def Ready (db : Database) (insert : DBInsert) : Prop :=
  insert.values ≠ [] → insert.query.length + insert.values.length ≤ db.maxPacketSize

variable {db next : Database} {insert after : DBInsert} {row : Bytes} {rows batch : List Bytes}

theorem isEmpty_false {values : Bytes} (some : values ≠ []) : ¬ values.isEmpty = true := fun empty => some (List.isEmpty_iff.mp empty)

/-- What `execute` does: nothing without values, else the query with them is sent. -/
theorem execute_cases (insert : DBInsert) (db : Database) :
    insert.values = [] ∧ insert.execute db = (true, db, insert) ∨
      insert.values ≠ [] ∧ insert.execute db = (db.answers db.sent (insert.query ++ insert.values),
        { db with sent := db.sent ++ [insert.query ++ insert.values] }, { insert with values := [], length := insert.query.length }) := by
  unfold DBInsert.execute Database.executeQuery
  by_cases empty : insert.values = []
  · rw [if_pos (List.isEmpty_iff.mpr empty)]
    exact .inl ⟨empty, rfl⟩
  · rw [if_neg (isEmpty_false empty)]
    exact .inr ⟨empty, rfl⟩

/-- What `makeRoom` does: the values are kept where they are few, or there are none; else they are sent. -/
theorem makeRoom_cases (insert : DBInsert) (db : Database) (row : Bytes) :
    (insert.values = [] ∨ insert.length + row.length ≤ db.maxPacketSize) ∧
        insert.makeRoom db row = (true, db, { insert with length := insert.length + row.length }) ∨
      insert.values ≠ [] ∧ ¬ insert.length + row.length ≤ db.maxPacketSize ∧
        insert.makeRoom db row = (db.answers db.sent (insert.query ++ insert.values),
          { db with sent := db.sent ++ [insert.query ++ insert.values] }, { insert with values := [], length := insert.query.length }) := by
  unfold DBInsert.makeRoom
  dsimp only
  by_cases few : insert.length + row.length ≤ db.maxPacketSize
  · rw [if_neg (Nat.not_lt_of_le few)]
    exact .inl ⟨.inr few, rfl⟩
  · rw [if_pos (Nat.lt_of_not_le few)]
    rcases execute_cases { insert with length := insert.length + row.length } db with ⟨empty, is⟩ | ⟨some, is⟩
    · exact .inl ⟨.inl empty, is⟩
    · exact .inr ⟨some, few, is⟩

/-- A row is added to the values, or they are sent before it, or it fails with them. -/
theorem addRow_cases (insert : DBInsert) (db : Database) (row : Bytes) :
    ((insert.values = [] ∨ insert.length + row.length ≤ db.maxPacketSize) ∧
        insert.addRow db row = (true, db, { insert with length := insert.length + row.length }.push row)) ∨
      (insert.values ≠ [] ∧ ¬ insert.length + row.length ≤ db.maxPacketSize ∧
        db.answers db.sent (insert.query ++ insert.values) = true ∧
        insert.addRow db row = (true, { db with sent := db.sent ++ [insert.query ++ insert.values] },
          { insert with values := [], length := insert.query.length }.push row)) ∨
      (insert.values ≠ [] ∧ ¬ insert.length + row.length ≤ db.maxPacketSize ∧
        db.answers db.sent (insert.query ++ insert.values) = false ∧
        insert.addRow db row = (false, { db with sent := db.sent ++ [insert.query ++ insert.values] },
          { insert with values := [], length := insert.query.length })) := by
  unfold DBInsert.addRow
  rcases makeRoom_cases insert db row with ⟨stays, made⟩ | ⟨some, many, made⟩
  · rw [made]
    exact .inl ⟨stays, rfl⟩
  · rw [made]
    cases succeeds : db.answers db.sent (insert.query ++ insert.values) with
    | true => exact .inr (.inl ⟨some, many, rfl, rfl⟩)
    | false => exact .inr (.inr ⟨some, many, rfl, rfl⟩)

theorem push_query (insert : DBInsert) (row : Bytes) : (insert.push row).query = insert.query := by
  unfold DBInsert.push
  split
  · rfl
  · rfl

theorem push_ready (insert : DBInsert) (row : Bytes) : Ready db (insert.push row) ↔
    if insert.values = [] then insert.query.length + row.length + 2 ≤ db.maxPacketSize
    else insert.query.length + insert.values.length + row.length + 3 ≤ db.maxPacketSize := by
  unfold Ready DBInsert.push
  by_cases empty : insert.values = []
  · rw [if_pos (List.isEmpty_iff.mpr empty), if_pos empty]
    simp [Nat.add_assoc]
  · rw [if_neg (isEmpty_false empty), if_neg empty]
    simp [Nat.add_assoc]

theorem short_send : Short db.maxPacketSize (db.sent ++ [insert.query ++ insert.values]) ↔
    Short db.maxPacketSize db.sent ∧ insert.query.length + insert.values.length ≤ db.maxPacketSize := by
  unfold Short
  simp only [mem_append, mem_singleton, or_imp, forall_and, forall_eq, length_append]

theorem short_execute : Short db.maxPacketSize (insert.execute db).2.1.sent ↔ Short db.maxPacketSize db.sent ∧ Ready db insert := by
  rcases execute_cases insert db with ⟨empty, is⟩ | ⟨some, is⟩
  · rw [is]
    exact ⟨fun short => ⟨short, fun some => absurd empty some⟩, And.left⟩
  · rw [is]
    exact short_send.trans (and_congr_right fun _ => ⟨fun fits _ => fits, fun ready => ready some⟩)

/-- The queries of a run are short if and only if those before are, the one that waits is, and all rows wait rightly. -/
theorem short_iff (fits : ∀ row ∈ rows, insert.query.length + row.length + 2 ≤ db.maxPacketSize) :
    Short db.maxPacketSize (insert.insertRows db rows).2.sent ↔ Short db.maxPacketSize db.sent ∧ Ready db insert ∧ AllWait db insert rows := by
  induction rows generalizing db insert with
  | nil =>
    refine short_execute.trans ?_
    exact ⟨fun ⟨short, ready⟩ => ⟨short, ready, trivial⟩, fun ⟨short, ready, _⟩ => ⟨short, ready⟩⟩
  | cons row rest ih =>
    obtain ⟨first, others⟩ := forall_mem_cons.mp fits
    unfold DBInsert.insertRows DBInsert.addRows AllWait
    rcases addRow_cases insert db row with ⟨stays, added⟩ | ⟨some, many, _, added⟩ | ⟨some, many, _, added⟩
    · have step := @ih db ({ insert with length := insert.length + row.length }.push row) (by rw [push_query]; exact others)
      unfold DBInsert.insertRows at step
      rw [added]
      dsimp only
      rw [step, push_ready]
      dsimp only
      simp only [forall_const]
      unfold Ready Waits
      by_cases empty : insert.values = []
      · rw [if_pos empty]
        simp [empty, first]
      · have few := stays.resolve_left empty
        rw [if_neg empty]
        simp only [ne_eq, empty, not_false_eq_true, forall_const, few]
        constructor
        · rintro ⟨short, fits, rest⟩
          exact ⟨short, by omega, fits, rest⟩
        · rintro ⟨short, _, fits, rest⟩
          exact ⟨short, fits, rest⟩
    · have waits : Waits db insert row := fun _ few => absurd few many
      have ready : Ready db insert ↔ insert.query.length + insert.values.length ≤ db.maxPacketSize :=
        ⟨fun ready => ready some, fun fits _ => fits⟩
      have step := @ih { db with sent := db.sent ++ [insert.query ++ insert.values] }
        ({ insert with values := [], length := insert.query.length }.push row) (by rw [push_query]; exact others)
      unfold DBInsert.insertRows at step
      rw [added]
      dsimp only
      rw [step, push_ready]
      dsimp only
      rw [short_send, ready]
      simp only [if_true, first, waits, true_and, forall_const]
      exact and_assoc
    · have waits : Waits db insert row := fun _ few => absurd few many
      have ready : Ready db insert ↔ insert.query.length + insert.values.length ≤ db.maxPacketSize :=
        ⟨fun ready => ready some, fun fits _ => fits⟩
      rw [added]
      dsimp only
      rw [short_send, ready]
      simp [waits]

theorem valueList_snoc (batch : List Bytes) (row : Bytes) : valueList (batch ++ [row]) =
    if batch = [] then openParen :: row ++ [closeParen] else valueList batch ++ comma :: openParen :: row ++ [closeParen] := by
  unfold valueList
  induction batch with
  | nil => simp [List.intercalate]
  | cons first batch ih =>
    rw [if_neg (cons_ne_nil first batch)]
    cases batch with
    | nil => simp [List.intercalate]
    | cons second batch =>
      rw [if_neg (cons_ne_nil second batch)] at ih
      simp only [cons_append, map_cons, intercalate_cons_cons] at ih ⊢
      rw [ih]
      simp

theorem valueList_eq_nil : valueList batch = [] ↔ batch = [] := by
  constructor
  · intro empty
    cases batch with
    | nil => rfl
    | cons first batch =>
      cases batch with
      | nil => simp [valueList, List.intercalate] at empty
      | cons second batch => simp [valueList, intercalate_cons_cons] at empty
  · rintro rfl
    rfl

theorem push_values (waiting : insert.values = valueList batch) (row : Bytes) :
    (insert.push row).values = valueList (batch ++ [row]) := by
  rw [valueList_snoc]
  unfold DBInsert.push
  by_cases empty : batch = []
  · rw [if_pos empty, if_pos (List.isEmpty_iff.mpr (waiting.trans (valueList_eq_nil.mpr empty)))]
  · have some : insert.values ≠ [] := fun none => empty (valueList_eq_nil.mp (waiting.symm.trans none))
    rw [if_neg empty, if_neg (isEmpty_false some), waiting]

def Batched (query : Bytes) (queries : List Bytes) (rows : List Bytes) : Prop :=
  ∃ batches : List (List Bytes), queries = batches.map (fun batch => query ++ valueList batch) ∧ [] ∉ batches ∧ batches.flatten = rows

theorem Batched.snoc {query : Bytes} {queries done : List Bytes} (batched : Batched query queries done) (some : batch ≠ []) :
    Batched query (queries ++ [query ++ valueList batch]) (done ++ batch) := by
  obtain ⟨batches, rfl, full, rfl⟩ := batched
  refine ⟨batches ++ [batch], ?_, ?_, ?_⟩
  · rw [map_append, map_singleton]
  · rw [mem_append, mem_singleton]
    rintro (mem | empty)
    · exact full mem
    · exact some empty.symm
  · rw [flatten_append, flatten_singleton]

theorem batched_execute {done : List Bytes} (batched : Batched insert.query db.sent done) (waiting : insert.values = valueList batch) :
    Batched insert.query (insert.execute db).2.1.sent (done ++ batch) := by
  rcases execute_cases insert db with ⟨empty, is⟩ | ⟨some, is⟩
  · rw [is, valueList_eq_nil.mp (waiting.symm.trans empty), append_nil]
    exact batched
  · rw [is, waiting]
    apply batched.snoc
    rintro rfl
    exact some waiting

theorem batched_rows {done : List Bytes} (batched : Batched insert.query db.sent done) (waiting : insert.values = valueList batch)
    (all : (insert.addRows db rows).1 = true) : Batched insert.query (insert.insertRows db rows).2.sent (done ++ batch ++ rows) := by
  induction rows generalizing db insert batch done with
  | nil =>
    rw [append_nil]
    exact batched_execute batched waiting
  | cons row rest ih =>
    unfold DBInsert.insertRows
    unfold DBInsert.addRows at all ⊢
    rcases addRow_cases insert db row with ⟨_, added⟩ | ⟨some, _, _, added⟩ | ⟨_, _, _, added⟩
    · rw [added] at all ⊢
      have pushed : ({ insert with length := insert.length + row.length }.push row).values = valueList (batch ++ [row]) :=
        @push_values { insert with length := insert.length + row.length } batch waiting row
      have rows := @ih db ({ insert with length := insert.length + row.length }.push row) (batch ++ [row]) done
        (by rw [push_query]; exact batched) pushed all
      rw [push_query] at rows
      rw [show done ++ batch ++ row :: rest = done ++ (batch ++ [row]) ++ rest by simp]
      exact rows
    · rw [added] at all ⊢
      have pushed : ({ insert with values := [], length := insert.query.length }.push row).values = valueList ([] ++ [row]) :=
        push_values rfl row
      have full : batch ≠ [] := by
        rintro rfl
        exact some waiting
      have sent : Batched insert.query (db.sent ++ [insert.query ++ insert.values]) (done ++ batch) := waiting ▸ batched.snoc full
      have rows := @ih { db with sent := db.sent ++ [insert.query ++ insert.values] }
        ({ insert with values := [], length := insert.query.length }.push row) ([] ++ [row]) (done ++ batch)
        (by rw [push_query]; exact sent) pushed all
      rw [push_query] at rows
      rw [show done ++ batch ++ row :: rest = done ++ batch ++ ([] ++ [row]) ++ rest by simp]
      exact rows
    · rw [added] at all
      exact absurd all Bool.false_ne_true

/-- Rows each of which fits in a packet by itself are sent in queries that fit, the rows in their order where all can be added,
if and only if every row that waits behind others fits with its parentheses and its comma. -/
theorem inserts_short (maxPacketSize : Nat) (answers : List Bytes → Bytes → Bool) (query : Bytes) (rows : List Bytes)
    (fits : ∀ row ∈ rows, query.length + row.length + 2 ≤ maxPacketSize) :
    ((∀ sent ∈ ((DBInsert.new query).insertRows { maxPacketSize, answers } rows).2.sent, sent.length ≤ maxPacketSize) ∧
        (((DBInsert.new query).addRows { maxPacketSize, answers } rows).1 = true →
          Batched query ((DBInsert.new query).insertRows { maxPacketSize, answers } rows).2.sent rows)) ↔
      AllWait { maxPacketSize, answers } (DBInsert.new query) rows := by
  have lengths := @short_iff { maxPacketSize, answers } (DBInsert.new query) rows fits
  have orders : ((DBInsert.new query).addRows { maxPacketSize, answers } rows).1 = true →
      Batched query ((DBInsert.new query).insertRows { maxPacketSize, answers } rows).2.sent rows := by
    intro all
    have empty : Batched (DBInsert.new query).query [] [] := ⟨[], rfl, not_mem_nil, rfl⟩
    have waiting : (DBInsert.new query).values = valueList [] := rfl
    exact @batched_rows { maxPacketSize, answers } (DBInsert.new query) rows [] [] empty waiting all
  have none : Short maxPacketSize [] := fun query mem => absurd mem not_mem_nil
  have ready : Ready { maxPacketSize, answers } (DBInsert.new query) := fun some => absurd rfl some
  constructor
  · intro holds
    exact (lengths.mp holds.1).2.2
  · intro wait
    exact ⟨lengths.mpr ⟨none, ready, wait⟩, orders⟩

/-- A prefix and a row, as long as they should be. -/
def filler (length : Nat) : Bytes := List.replicate length 97

/-- A row alone waits behind none. -/
theorem inserts_short_single : (∀ sent ∈ ((DBInsert.new (filler 24)).insertRows ⟨1024, fun _ _ => true, []⟩ [filler 500]).2.sent, sent.length ≤ 1024) ∧
    (((DBInsert.new (filler 24)).addRows ⟨1024, fun _ _ => true, []⟩ [filler 500]).1 = true →
      Batched (filler 24) ((DBInsert.new (filler 24)).insertRows ⟨1024, fun _ _ => true, []⟩ [filler 500]).2.sent [filler 500]) := by
  have fits : ∀ row ∈ [filler 500], (filler 24).length + row.length + 2 ≤ 1024 := by
    intro row mem
    rw [mem_singleton.mp mem]
    decide +kernel
  have wait : AllWait ⟨1024, fun _ _ => true, []⟩ (DBInsert.new (filler 24)) [filler 500] :=
    ⟨fun some => absurd rfl some, fun _ => trivial⟩
  exact (inserts_short 1024 (fun _ _ => true) (filler 24) [filler 500] fits).mpr wait

/-- Two rows that fit without their parentheses and their comma. -/
theorem pair_long : ¬ ∀ sent ∈ ((DBInsert.new (filler 24)).insertRows ⟨1024, fun _ _ => true, []⟩ [filler 500, filler 500]).2.sent,
    sent.length ≤ 1024 := by
  decide +kernel

end Styller.Batching
