import Styller.Library.Stream

/-! Loops over a stream: tagged fields up to an end mark, and records up to the first that is
not there. -/

namespace Styller.Library

open List

universe u

/-- What a field does to the state: the next field is read, or none, or the reader gives up. -/
inductive Handled (σ : Type u) where
  | more (state : σ)
  | last (state : σ)
  | error (state : σ)

def Handled.state {σ : Type u} : Handled σ → σ
  | more state | last state | error state => state

section

variable {σ : Type u} (stop : UInt8) (handle : σ → UInt8 → Reader (Handled σ))

/-- The loop of `readFields`; every round takes a byte at least. -/
def fieldsLoop : Nat → σ → Bytes → (Bool × σ) × Bytes
  | 0, state, bytes => ((true, state), bytes)
  | _ + 1, state, [] => ((true, state), [])
  | rounds + 1, state, tag :: bytes =>
    if tag = stop then ((true, state), bytes)
    else match (handle state tag).run bytes with
      | (some (.more state), rest) => fieldsLoop rounds state rest
      | (some (.last state), rest) => ((true, state), rest)
      | (some (.error state), rest) => ((false, state), rest)
      | (none, rest) => ((false, state), rest)

theorem fieldsLoop_shrinks (rounds : Nat) (state : σ) (bytes : Bytes) :
    (fieldsLoop stop handle rounds state bytes).2.length ≤ bytes.length := by
  induction rounds generalizing state bytes with
  | zero => exact Nat.le_refl _
  | succ rounds ih =>
    cases bytes with
    | nil => exact Nat.le_refl _
    | cons tag bytes =>
      have shorter := (handle state tag).shrinks bytes
      unfold fieldsLoop
      split
      · exact Nat.le_succ _
      · split
        · next state rest read =>
          rw [read] at shorter
          exact Nat.le_succ_of_le (Nat.le_trans (ih state rest) shorter)
        all_goals
          next read =>
            rw [read] at shorter
            exact Nat.le_succ_of_le shorter

theorem fieldsLoop_enough {rounds enough : Nat} (state : σ) {bytes : Bytes} (less : bytes.length < rounds)
    (lessEnough : bytes.length < enough) :
    fieldsLoop stop handle rounds state bytes = fieldsLoop stop handle enough state bytes := by
  induction rounds generalizing enough state bytes with
  | zero => exact absurd less (Nat.not_lt_zero _)
  | succ rounds ih =>
    obtain ⟨enough, rfl⟩ := Nat.exists_eq_succ_of_ne_zero (Nat.ne_of_gt (Nat.lt_of_le_of_lt (Nat.zero_le _) lessEnough))
    cases bytes with
    | nil => rfl
    | cons tag bytes =>
      have shorter := (handle state tag).shrinks bytes
      simp only [fieldsLoop]
      split
      · rfl
      · split
        · next state rest read =>
          rw [read] at shorter
          exact ih state (Nat.lt_of_le_of_lt shorter (Nat.lt_of_succ_lt_succ less))
            (Nat.lt_of_le_of_lt shorter (Nat.lt_of_succ_lt_succ lessEnough))
        all_goals rfl

/-- Reads tagged fields until the end mark or the end of the stream. The answer says whether all
of them could be read. -/
def readFields (state : σ) : Reader (Bool × σ) where
  run bytes :=
    match fieldsLoop stop handle (bytes.length + 1) state bytes with
    | (result, rest) => (some result, rest)
  shrinks bytes := fieldsLoop_shrinks stop handle (bytes.length + 1) state bytes

variable {stop handle} {state middle last : σ}

theorem readFields_stop (state : σ) (rest : Bytes) :
    (readFields stop handle state).run (stop :: rest) = (some (true, state), rest) := by
  simp [readFields, fieldsLoop]

/-- A field that is handled is followed by the next one. -/
theorem readFields_more {tag : UInt8} (other : tag ≠ stop) {bytes rest : Bytes}
    (handled : (handle state tag).run bytes = (some (.more middle), rest)) :
    (readFields stop handle state).run (tag :: bytes) = (readFields stop handle middle).run rest := by
  have shorter := (handle state tag).shrinks bytes
  rw [handled] at shorter
  have same := fieldsLoop_enough stop handle middle (Nat.lt_succ_of_le shorter) (Nat.lt_succ_self rest.length)
  simp only [readFields, length_cons]
  rw [fieldsLoop, if_neg other, handled]
  simp only [same]

theorem readFields_last {tag : UInt8} (other : tag ≠ stop) {bytes rest : Bytes}
    (handled : (handle state tag).run bytes = (some (.last middle), rest)) :
    (readFields stop handle state).run (tag :: bytes) = (some (true, middle), rest) := by
  simp only [readFields]
  rw [fieldsLoop, if_neg other, handled]

theorem readFields_error {tag : UInt8} (other : tag ≠ stop) {bytes rest : Bytes}
    (handled : (handle state tag).run bytes = (some (.error middle), rest)) :
    (readFields stop handle state).run (tag :: bytes) = (some (false, middle), rest) := by
  simp only [readFields]
  rw [fieldsLoop, if_neg other, handled]

theorem readFields_failed {tag : UInt8} (other : tag ≠ stop) {bytes rest : Bytes}
    (handled : (handle state tag).run bytes = (none, rest)) :
    (readFields stop handle state).run (tag :: bytes) = (some (false, state), rest) := by
  simp only [readFields]
  rw [fieldsLoop, if_neg other, handled]

theorem readFields_yields (kept : σ → Prop) (start : kept state)
    (each : ∀ state tag, kept state → (handle state tag).Yields (fun handled => kept handled.state)) :
    (readFields stop handle state).Yields (fun result => kept result.2) := by
  have loop : ∀ (rounds : Nat) (state : σ) (bytes : Bytes), kept state →
      kept (fieldsLoop stop handle rounds state bytes).1.2 := by
    intro rounds
    induction rounds with
    | zero => exact fun state bytes holds => holds
    | succ rounds ih =>
      intro state bytes holds
      cases bytes with
      | nil => exact holds
      | cons tag bytes =>
        rw [fieldsLoop]
        split
        · exact holds
        · split
          · next middle rest read => exact ih middle rest (each state tag holds _ _ _ read)
          · next middle rest read => exact each state tag holds _ _ _ read
          · next middle rest read => exact each state tag holds _ _ _ read
          · exact holds
  rintro bytes result rest ⟨⟩
  exact loop _ _ _ start

variable (stop handle) in
/-- The written fields take the reader from one state to another, whatever comes after them. -/
def Through (state : σ) (written : Bytes) (last : σ) : Prop :=
  ∀ rest, (readFields stop handle state).run (written ++ rest) = (readFields stop handle last).run rest

theorem Through.nil (state : σ) : Through stop handle state [] state :=
  fun _ => rfl

theorem Through.append {written later : Bytes} (first : Through stop handle state written middle)
    (second : Through stop handle middle later last) : Through stop handle state (written ++ later) last := by
  intro rest
  rw [append_assoc, first, second]

theorem Through.field {tag : UInt8} (other : tag ≠ stop) {written : Bytes}
    (handled : (handle state tag).Reads written (.more last)) :
    Through stop handle state (tag :: written) last :=
  fun rest => readFields_more other (handled rest)

/-- A field that holds one value. -/
theorem Through.value {tag : UInt8} (other : tag ≠ stop) {α : Type u} [Raw α] (value : α) {next : α → σ}
    (handles : (handle state tag) = (do let value ← Reader.read α; pure (.more (next value)))) :
    Through stop handle state (tag :: write value) (next value) := by
  apply Through.field other
  rw [handles]
  exact Reader.Reads.finish (Reader.Reads.read value) (Reader.Reads.pure _)

/-- Fields and an end mark. -/
theorem Through.reads {written : Bytes} (fields : Through stop handle state written last) :
    (readFields stop handle state).Reads (written ++ [stop]) (true, last) := by
  intro rest
  rw [append_assoc, fields]
  exact readFields_stop last rest

/-- Fields that fill the stream. -/
theorem Through.run {written : Bytes} (fields : Through stop handle state written last) :
    (readFields stop handle state).run written = (some (true, last), []) := by
  have filled := fields []
  rw [append_nil] at filled
  exact filled

end

section

variable {α : Type u} (reader : Reader α)

/-- The loop of `repeated`. -/
def repeatedLoop : Nat → Bytes → List α × Bytes
  | 0, bytes => ([], bytes)
  | rounds + 1, bytes =>
    match reader.run bytes with
    | (some value, rest) => (value :: (repeatedLoop rounds rest).1, (repeatedLoop rounds rest).2)
    | (none, rest) => ([], rest)

/-- Reads as long as the reader succeeds. -/
def repeated (bytes : Bytes) : List α × Bytes := repeatedLoop reader (bytes.length + 1) bytes

/-- What the reader takes is never nothing. -/
def Progress : Prop :=
  ∀ bytes value rest, reader.run bytes = (some value, rest) → rest.length < bytes.length

variable {reader}

theorem Progress.read {α : Type u} [Raw α] (some : 0 < Raw.size α) : Progress (Reader.read α) := by
  intro bytes value rest read
  simp only [Reader.read] at read
  split at read
  · cases read
  · next enough =>
    obtain ⟨_, rfl⟩ := Prod.mk.inj read
    rw [length_drop]
    omega

theorem Progress.bind {β : Type u} (progress : Progress reader) (next : α → Reader β) :
    Progress (reader >>= next) := by
  intro bytes result last read
  change (match reader.run bytes with
    | (some value, rest) => (next value).run rest
    | (none, rest) => (none, rest)) = _ at read
  split at read
  · next value rest first =>
    have shorter := (next value).shrinks rest
    rw [read] at shorter
    exact Nat.lt_of_le_of_lt shorter (progress _ _ _ first)
  · cases read

theorem repeatedLoop_enough (progress : Progress reader) {rounds enough : Nat} {bytes : Bytes}
    (less : bytes.length < rounds) (lessEnough : bytes.length < enough) :
    repeatedLoop reader rounds bytes = repeatedLoop reader enough bytes := by
  induction rounds generalizing enough bytes with
  | zero => exact absurd less (Nat.not_lt_zero _)
  | succ rounds ih =>
    obtain ⟨enough, rfl⟩ := Nat.exists_eq_succ_of_ne_zero (Nat.ne_of_gt (Nat.lt_of_le_of_lt (Nat.zero_le _) lessEnough))
    simp only [repeatedLoop]
    split
    · next value rest read =>
      have shorter := progress _ _ _ read
      rw [ih (Nat.lt_of_lt_of_le shorter (Nat.le_of_lt_succ less))
        (Nat.lt_of_lt_of_le shorter (Nat.le_of_lt_succ lessEnough))]
    · rfl

theorem repeated_some (progress : Progress reader) {bytes rest : Bytes} {value : α}
    (read : reader.run bytes = (some value, rest)) :
    repeated reader bytes = (value :: (repeated reader rest).1, (repeated reader rest).2) := by
  have shorter := progress _ _ _ read
  have same := repeatedLoop_enough progress shorter (Nat.lt_succ_self rest.length)
  rw [repeated, repeatedLoop, read]
  simp only [same]
  rfl

theorem repeated_none {bytes rest : Bytes} (read : reader.run bytes = (none, rest)) :
    repeated reader bytes = ([], rest) := by
  rw [repeated, repeatedLoop, read]

/-- Records that the reader takes, one after the other. -/
theorem repeated_flatMap (progress : Progress reader) {ι : Type u} {records : List ι} {written : ι → Bytes}
    {value : ι → α} (each : ∀ record ∈ records, reader.Reads (written record) (value record)) (rest : Bytes) :
    repeated reader (records.flatMap written ++ rest) =
      (records.map value ++ (repeated reader rest).1, (repeated reader rest).2) := by
  induction records with
  | nil => rfl
  | cons record records ih =>
    have read := each record mem_cons_self (records.flatMap written ++ rest)
    rw [flatMap_cons, append_assoc, repeated_some progress read,
      ih (fun record listed => each record (mem_cons_of_mem _ listed))]
    rfl

end

end Styller.Library
