import Mathlib.Algebra.Group.Int.Defs
import Mathlib.Algebra.GroupWithZero.Nat
import Mathlib.Data.List.Basic

/-! Byte streams: values of a fixed size, readers, and what a reader makes of bytes that were
written. -/

namespace Styller.Library

open List

universe u v

abbrev Bytes := List UInt8

/-- The bytes of a number, the lowest first. -/
def lowFirst : Nat → Nat → Bytes
  | 0, _ => []
  | size + 1, number => UInt8.ofNat number :: lowFirst size (number / 256)

/-- The number that bytes stand for, the lowest first. -/
def ofLowFirst : Bytes → Nat
  | [] => 0
  | byte :: rest => byte.toNat + 256 * ofLowFirst rest

@[simp] theorem length_lowFirst (size number : Nat) : (lowFirst size number).length = size := by
  induction size generalizing number with
  | zero => rfl
  | succ size ih => simp [lowFirst, ih]

theorem ofLowFirst_lowFirst (size number : Nat) : ofLowFirst (lowFirst size number) = number % 256 ^ size := by
  induction size generalizing number with
  | zero => simp [lowFirst, ofLowFirst, Nat.mod_one]
  | succ size ih =>
    have byte : (UInt8.ofNat number).toNat = number % 256 := by simp
    rw [lowFirst, ofLowFirst, ih, byte, Nat.pow_succ, Nat.mul_comm (256 ^ size) 256, Nat.mod_mul]

theorem ofLowFirst_of_lt {size number : Nat} (less : number < 256 ^ size) :
    ofLowFirst (lowFirst size number) = number := by
  rw [ofLowFirst_lowFirst, Nat.mod_eq_of_lt less]

theorem lowFirst_ofLowFirst (bytes : Bytes) : lowFirst bytes.length (ofLowFirst bytes) = bytes := by
  induction bytes with
  | nil => rfl
  | cons byte rest ih =>
    have less := byte.toNat_lt
    have low : UInt8.ofNat (byte.toNat + 256 * ofLowFirst rest) = byte := by
      apply UInt8.toNat_inj.mp
      rw [UInt8.toNat_ofNat']
      omega
    have high : (byte.toNat + 256 * ofLowFirst rest) / 256 = ofLowFirst rest := by omega
    rw [length_cons, lowFirst, ofLowFirst, low, high, ih]

theorem ofLowFirst_lt (bytes : Bytes) : ofLowFirst bytes < 256 ^ bytes.length := by
  induction bytes with
  | nil => exact Nat.one_pos
  | cons byte rest ih =>
    have less := byte.toNat_lt
    rw [ofLowFirst, length_cons, Nat.pow_succ]
    omega

/-- Values that are stored in a fixed number of bytes. -/
class Raw (α : Type u) where
  size : Nat
  bytes : α → Bytes
  value : Bytes → α
  length_bytes : ∀ a, (bytes a).length = size
  value_bytes : ∀ a, value (bytes a) = a

instance : Raw UInt8 where
  size := 1
  bytes number := [number]
  value bytes := bytes.headD 0
  length_bytes _ := rfl
  value_bytes _ := rfl

instance : Raw UInt16 where
  size := 2
  bytes number := lowFirst 2 number.toNat
  value bytes := UInt16.ofNat (ofLowFirst bytes)
  length_bytes _ := length_lowFirst _ _
  value_bytes number := by
    rw [ofLowFirst_of_lt number.toNat_lt, UInt16.ofNat_toNat]

instance : Raw UInt32 where
  size := 4
  bytes number := lowFirst 4 number.toNat
  value bytes := UInt32.ofNat (ofLowFirst bytes)
  length_bytes _ := length_lowFirst _ _
  value_bytes number := by
    rw [ofLowFirst_of_lt number.toNat_lt, UInt32.ofNat_toNat]

instance : Raw UInt64 where
  size := 8
  bytes number := lowFirst 8 number.toNat
  value bytes := UInt64.ofNat (ofLowFirst bytes)
  length_bytes _ := length_lowFirst _ _
  value_bytes number := by
    rw [ofLowFirst_of_lt number.toNat_lt, UInt64.ofNat_toNat]

instance : Raw Int8 where
  size := 1
  bytes number := Raw.bytes number.toUInt8
  value bytes := (Raw.value bytes : UInt8).toInt8
  length_bytes _ := rfl
  value_bytes _ := rfl

instance : Raw Int32 where
  size := 4
  bytes number := Raw.bytes number.toUInt32
  value bytes := (Raw.value bytes : UInt32).toInt32
  length_bytes _ := length_lowFirst _ _
  value_bytes number := by
    rw [Raw.value_bytes]
    rfl

instance : Raw Int64 where
  size := 8
  bytes number := Raw.bytes number.toUInt64
  value bytes := (Raw.value bytes : UInt64).toInt64
  length_bytes _ := length_lowFirst _ _
  value_bytes number := by
    rw [Raw.value_bytes]
    rfl

/-- A byte that is not zero is read as true. -/
instance : Raw Bool where
  size := 1
  bytes truth := [if truth then 1 else 0]
  value bytes := bytes.headD 0 ≠ 0
  length_bytes _ := rfl
  value_bytes truth := by
    cases truth with
    | false | true => rfl

/-- Two values side by side. -/
instance {α : Type u} {β : Type v} [Raw α] [Raw β] : Raw (α × β) where
  size := Raw.size α + Raw.size β
  bytes pair := Raw.bytes pair.1 ++ Raw.bytes pair.2
  value bytes := (Raw.value (bytes.take (Raw.size α)), Raw.value (bytes.drop (Raw.size α)))
  length_bytes pair := by rw [length_append, Raw.length_bytes, Raw.length_bytes]
  value_bytes pair := by
    have size := Raw.length_bytes pair.1
    rw [take_left' size, drop_left' size, Raw.value_bytes, Raw.value_bytes]

/-- Values that are stored as others are. -/
@[reducible] def Raw.via {α : Type u} {β : Type v} [Raw β] (stored : α → β) (restored : β → α)
    (inverse : ∀ a, restored (stored a) = a) : Raw α where
  size := Raw.size β
  bytes a := Raw.bytes (stored a)
  value bytes := restored (Raw.value bytes)
  length_bytes a := Raw.length_bytes (stored a)
  value_bytes a := by rw [Raw.value_bytes, inverse]

/-- The bytes that are written for a value. -/
def write {α : Type u} [Raw α] (value : α) : Bytes := Raw.bytes value

@[simp] theorem length_write {α : Type u} [Raw α] (value : α) : (write value).length = Raw.size α :=
  Raw.length_bytes value

/-- What reads a value from the front of a stream, or fails; either way it says what is left. -/
structure Reader (α : Type u) where
  run : Bytes → Option α × Bytes
  shrinks : ∀ bytes, (run bytes).2.length ≤ bytes.length

namespace Reader

variable {α β : Type u}

protected def pure (value : α) : Reader α where
  run bytes := (some value, bytes)
  shrinks _ := Nat.le_refl _

/-- A reader that fails where it is. -/
def fail : Reader α where
  run bytes := (none, bytes)
  shrinks _ := Nat.le_refl _

protected def bind (first : Reader α) (next : α → Reader β) : Reader β where
  run bytes :=
    match first.run bytes with
    | (some value, rest) => (next value).run rest
    | (none, rest) => (none, rest)
  shrinks bytes := by
    have shorter := first.shrinks bytes
    split
    · next value rest read =>
      rw [read] at shorter
      exact Nat.le_trans ((next value).shrinks rest) shorter
    · next rest read =>
      rw [read] at shorter
      exact shorter

instance : Monad Reader where
  pure := Reader.pure
  bind := Reader.bind

/-- The value of so many bytes from the front, if there are so many. -/
def read (α : Type u) [Raw α] : Reader α where
  run bytes :=
    if bytes.length < Raw.size α then (none, bytes)
    else (some (Raw.value (bytes.take (Raw.size α))), bytes.drop (Raw.size α))
  shrinks bytes := by
    split
    · exact Nat.le_refl _
    · simp

/-- So many bytes from the front. -/
def take (count : Nat) : Reader Bytes where
  run bytes :=
    if bytes.length < count then (none, bytes)
    else (some (bytes.take count), bytes.drop count)
  shrinks bytes := by
    split
    · exact Nat.le_refl _
    · simp

/-- The reader, with failure as an answer. -/
def attempt (reader : Reader α) : Reader (Option α) where
  run bytes := (some (reader.run bytes).1, (reader.run bytes).2)
  shrinks := reader.shrinks

/-- A string: its length in two bytes, and its characters. -/
def readString : Reader Bytes := do
  let length ← read UInt16
  take length.toNat

theorem run_bind_some {first : Reader α} {next : α → Reader β} {bytes rest : Bytes} {value : α}
    (read : first.run bytes = (some value, rest)) : (first >>= next).run bytes = (next value).run rest := by
  change (match first.run bytes with
    | (some value, rest) => (next value).run rest
    | (none, rest) => (none, rest)) = _
  rw [read]

theorem run_bind_none {first : Reader α} {next : α → Reader β} {bytes rest : Bytes}
    (read : first.run bytes = (none, rest)) : (first >>= next).run bytes = (none, rest) := by
  change (match first.run bytes with
    | (some value, rest) => (next value).run rest
    | (none, rest) => (none, rest)) = _
  rw [read]

theorem run_bind_failed {first : Reader α} {next : α → Reader β} {bytes : Bytes}
    (failed : (first.run bytes).1 = none) : ((first >>= next).run bytes).1 = none := by
  have read : first.run bytes = (none, (first.run bytes).2) := by rw [← failed]
  rw [run_bind_none read]

/-- What comes after a reader is run on what it leaves. -/
theorem run_bind_congr {first second : Reader α} {next other : α → Reader β} {bytes : Bytes}
    (same : first.run bytes = second.run bytes)
    (agree : ∀ value rest, rest.length ≤ bytes.length → (next value).run rest = (other value).run rest) :
    (first >>= next).run bytes = (second >>= other).run bytes := by
  have shorter := first.shrinks bytes
  rcases read : first.run bytes with ⟨answer, rest⟩
  rw [read] at shorter same
  cases answer with
  | none => rw [run_bind_none read, run_bind_none same.symm]
  | some value =>
    rw [run_bind_some read, run_bind_some same.symm]
    exact agree value rest shorter

/-- The reader takes what was written, whatever comes after it, and answers with the value. -/
def Reads (reader : Reader α) (written : Bytes) (value : α) : Prop :=
  ∀ rest, reader.run (written ++ rest) = (some value, rest)

/-- A reader that fills the stream. -/
theorem Reads.run_all {reader : Reader α} {written : Bytes} {value : α} (reads : Reads reader written value) :
    reader.run written = (some value, []) := by
  have filled := reads []
  rw [append_nil] at filled
  exact filled

theorem Reads.pure (value : α) : Reads (Pure.pure value) [] value :=
  fun _ => rfl

theorem Reads.bind {first : Reader α} {next : α → Reader β} {written later : Bytes} {value : α} {result : β}
    (one : Reads first written value) (two : Reads (next value) later result) :
    Reads (first >>= next) (written ++ later) result := by
  intro rest
  rw [append_assoc, run_bind_some (one (later ++ rest))]
  exact two rest

/-- What is left to do takes nothing. -/
theorem Reads.finish {first : Reader α} {next : α → Reader β} {written : Bytes} {value : α} {result : β}
    (one : Reads first written value) (two : Reads (next value) [] result) : Reads (first >>= next) written result := by
  rw [← append_nil written]
  exact Reads.bind one two

theorem Reads.read [Raw α] (value : α) : Reads (read α) (write value) value := by
  intro rest
  have size := length_write value
  have enough : ¬ (write value ++ rest).length < Raw.size α := by
    rw [length_append, size]
    omega
  simp only [Reader.read, if_neg enough]
  rw [take_left' size, drop_left' size, write, Raw.value_bytes]

theorem Reads.attempt {reader : Reader α} {written : Bytes} {value : α} (reads : Reads reader written value) :
    Reads reader.attempt written (some value) := by
  intro rest
  simp only [Reader.attempt, reads rest]

theorem Reads.take (bytes : Bytes) : Reads (take bytes.length) bytes bytes := by
  intro rest
  simp [Reader.take]

/-- Whatever the reader answers has the property. -/
def Yields (reader : Reader α) (property : α → Prop) : Prop :=
  ∀ bytes value rest, reader.run bytes = (some value, rest) → property value

theorem Yields.pure {property : α → Prop} {value : α} (holds : property value) : Yields (Pure.pure value) property := by
  rintro bytes answer rest ⟨⟩
  exact holds

theorem Yields.fail {property : α → Prop} : Yields (Reader.fail : Reader α) property :=
  nofun

theorem Yields.bind {first : Reader α} {next : α → Reader β} {property : α → Prop} {result : β → Prop}
    (one : Yields first property) (two : ∀ value, property value → Yields (next value) result) :
    Yields (first >>= next) result := by
  intro bytes answer rest read
  change (match first.run bytes with
    | (some value, rest) => (next value).run rest
    | (none, rest) => (none, rest)) = _ at read
  split at read
  · next value middle found => exact two value (one _ _ _ found) _ _ _ read
  · cases read

/-- The first reader may answer anything. -/
theorem Yields.then {first : Reader α} {next : α → Reader β} {result : β → Prop}
    (two : ∀ value, Yields (next value) result) : Yields (first >>= next) result :=
  Yields.bind (fun _ _ _ _ => trivial : Yields first (fun _ => True)) (fun value _ => two value)

end Reader

/-- The bytes of a string; one that is too long is written as the empty string. -/
def writeString (string : Bytes) : Bytes :=
  if string.length > 65535 then write (0 : UInt16)
  else write (UInt16.ofNat string.length) ++ string

theorem writeString_of_le {string : Bytes} (fits : string.length ≤ 65535) :
    writeString string = write (UInt16.ofNat string.length) ++ string :=
  if_neg (Nat.not_lt.mpr fits)

theorem Reader.Reads.string {string : Bytes} (fits : string.length ≤ 65535) :
    Reader.Reads Reader.readString (writeString string) string := by
  rw [writeString_of_le fits]
  apply Reader.Reads.bind (Reader.Reads.read _)
  have length : (UInt16.ofNat string.length).toNat = string.length := by
    rw [UInt16.toNat_ofNat']
    omega
  rw [length]
  exact Reader.Reads.take string

end Styller.Library
