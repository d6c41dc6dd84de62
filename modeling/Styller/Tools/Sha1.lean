import Mathlib.Data.List.GetD
import Styller.Library.Memory
import Styller.Library.Sha1

/-! The hash of the tools, and that it is the Secure Hash Algorithm. -/

namespace Styller.Tools

open Library List

def circularShift (bits value : UInt32) : UInt32 := value <<< bits ||| value >>> (32 - bits)

/-- A round of `processSHA1MessageBlock`, with the function and the constant of its loop. -/
def shaRound (mixed : UInt32 → UInt32 → UInt32 → UInt32) (constant : UInt32) (W : List UInt32) (state : Sha1.Words) (i : Nat) :
    Sha1.Words :=
  let tmp := circularShift 5 state.a + mixed state.b state.c state.d + state.e + W.getD i 0 + constant
  { e := state.d, d := state.c, c := circularShift 30 state.b, b := state.a, a := tmp }

def nextWord (W : List UInt32) (i : Nat) : UInt32 :=
  circularShift 1 (W.getD (i - 3) 0 ^^^ W.getD (i - 8) 0 ^^^ W.getD (i - 14) 0 ^^^ W.getD (i - 16) 0)

/-- The array `W`: sixteen words of the block, and the others from the ones before them. -/
def shaWords (messageBlock : Memory) : List UInt32 :=
  (List.range' 16 64).foldl (fun W i => W ++ [nextWord W i])
    ((List.range 16).map fun i =>
      let offset := i <<< 2
      (messageBlock offset).toUInt32 <<< 24 ||| (messageBlock (offset + 1)).toUInt32 <<< 16 |||
        (messageBlock (offset + 2)).toUInt32 <<< 8 ||| (messageBlock (offset + 3)).toUInt32)

def processSHA1MessageBlock (messageBlock : Memory) (H : Sha1.Words) : Sha1.Words :=
  let W := shaWords messageBlock
  let state := (List.range' 0 20).foldl (shaRound (fun B C D => B &&& C ||| ~~~B &&& D) 0x5A827999 W) H
  let state := (List.range' 20 20).foldl (shaRound (fun B C D => B ^^^ C ^^^ D) 0x6ED9EBA1 W) state
  let state := (List.range' 40 20).foldl (shaRound (fun B C D => B &&& C ||| B &&& D ||| C &&& D) 0x8F1BBCDC W) state
  let state := (List.range' 60 20).foldl (shaRound (fun B C D => B ^^^ C ^^^ D) 0xCA62C1D6 W) state
  ⟨H.a + state.a, H.b + state.b, H.c + state.c, H.d + state.d, H.e + state.e⟩

/-- The variables of `transformToSHA1`. -/
structure Hashing where
  H : Sha1.Words
  messageBlock : Memory
  index : Nat := 0
  length_low : UInt32 := 0
  length_high : UInt32 := 0

namespace Hashing

/-- One character of the input. -/
def add (state : Hashing) (ch : UInt8) : Hashing :=
  let messageBlock := Function.update state.messageBlock state.index ch
  let index := state.index + 1
  let length_low := state.length_low + 8
  let length_high := if length_low = 0 then state.length_high + 1 else state.length_high
  if index = 64 then ⟨processSHA1MessageBlock messageBlock state.H, messageBlock, 0, length_low, length_high⟩
  else ⟨state.H, messageBlock, index, length_low, length_high⟩

/-- The loop that sets the bytes up to a limit to zero. -/
def clearTo (messageBlock : Memory) (index limit : Nat) : Memory := messageBlock.store index (List.replicate (limit - index) 0)

/-- The end of `transformToSHA1`: the hash value behind the last block. -/
def finish (state : Hashing) : Sha1.Words :=
  let messageBlock := Function.update state.messageBlock state.index 0x80
  let index := state.index + 1
  let (H, messageBlock, index) :=
    if index > 56 then
      let messageBlock := clearTo messageBlock index 64
      (processSHA1MessageBlock messageBlock state.H, messageBlock, 0)
    else (state.H, messageBlock, index)
  let messageBlock := clearTo messageBlock index 56
  let messageBlock := messageBlock.store 56 [(state.length_high >>> 24).toUInt8, (state.length_high >>> 16).toUInt8,
    (state.length_high >>> 8).toUInt8, state.length_high.toUInt8, (state.length_low >>> 24).toUInt8,
    (state.length_low >>> 16).toUInt8, (state.length_low >>> 8).toUInt8, state.length_low.toUInt8]
  processSHA1MessageBlock messageBlock H

end Hashing

/-- `hexDigits`: the digits and the letters from a to f. -/
def hexDigit (digit : UInt8) : UInt8 := if digit < 10 then 48 + digit else 87 + digit

/-- An element of the array `H`. -/
def shaWord (H : Sha1.Words) (index : Nat) : UInt32 := [H.a, H.b, H.c, H.d, H.e].getD index 0

/-- The string of a hash value, written from its end. -/
def hexString (H : Sha1.Words) (hexstring : Memory) : Bytes :=
  ((List.range 20).reverse.foldl (fun (hexstring : Memory) hashByte =>
      -- `(3 - hashByte) & 3` is the remainder by 4 of a number that may be negative
      let byte := (shaWord H (hashByte >>> 2) >>> UInt32.ofNat (((3 - (hashByte : Int)) % 4).toNat <<< 3)).toUInt8
      hexstring.store (hashByte <<< 1) [hexDigit (byte >>> 4), hexDigit (byte &&& 15)]) hexstring).slice 0 40

/-- `transformToSHA1`. Its arrays are not initialised. -/
def transformToSHA1 (messageBlock hexstring : Memory) (input : Bytes) : Bytes :=
  let start : Hashing := { H := ⟨0x67452301, 0xEFCDAB89, 0x98BADCFE, 0x10325476, 0xC3D2E1F0⟩, messageBlock := messageBlock }
  hexString (input.foldl Hashing.add start).finish hexstring

section

theorem circularShift_one (value : UInt32) : circularShift 1 value = Sha1.rotl 1 value := rfl

theorem circularShift_five (value : UInt32) : circularShift 5 value = Sha1.rotl 5 value := rfl

theorem circularShift_thirty (value : UInt32) : circularShift 30 value = Sha1.rotl 30 value := rfl

theorem word_of_bytes (first second third fourth : UInt8) :
    first.toUInt32 <<< 24 ||| second.toUInt32 <<< 16 ||| third.toUInt32 <<< 8 ||| fourth.toUInt32 =
      UInt32.ofNat (ofHighFirst [first, second, third, fourth]) := by
  have two := second.toNat_lt
  have three := third.toNat_lt
  have four := fourth.toNat_lt
  have number : ofHighFirst [first, second, third, fourth] =
      first.toNat <<< 24 ||| second.toNat <<< 16 ||| third.toNat <<< 8 ||| fourth.toNat := by
    have combined : first.toNat <<< 24 ||| second.toNat <<< 16 ||| third.toNat <<< 8 ||| fourth.toNat =
        ((first.toNat <<< 8 ||| second.toNat) <<< 8 ||| third.toNat) <<< 8 ||| fourth.toNat := by
      simp only [Nat.shiftLeft_or_distrib, ← Nat.shiftLeft_add]
    rw [combined, ← Nat.shiftLeft_add_eq_or_of_lt two, ← Nat.shiftLeft_add_eq_or_of_lt three, ← Nat.shiftLeft_add_eq_or_of_lt four]
    simp only [ofHighFirst, ofDigits, map_cons, map_nil, foldl_cons, foldl_nil, Nat.shiftLeft_eq,
      Nat.zero_mul, Nat.zero_add, Nat.reducePow]
  have small : fourth.toNat % 2 ^ 32 = fourth.toNat := Nat.mod_eq_of_lt (Nat.lt_trans four (by decide))
  apply UInt32.toNat_inj.mp
  rw [number]
  simp only [UInt32.toNat_or, UInt32.toNat_shiftLeft, UInt32.toNat_ofNat', UInt8.toNat_toUInt32, Nat.or_mod_two_pow, small,
    UInt32.reduceToNat, Nat.reduceMod]

variable {messageBlock : Memory} {H : Sha1.Words}

theorem word_slice {t : Nat} (first : t < 16) :
    Sha1.word (messageBlock.slice 0 64) t =
      ((messageBlock (t <<< 2)).toUInt32 <<< 24 ||| (messageBlock (t <<< 2 + 1)).toUInt32 <<< 16 |||
        (messageBlock (t <<< 2 + 2)).toUInt32 <<< 8 ||| (messageBlock (t <<< 2 + 3)).toUInt32) := by
  have bytes : ((messageBlock.slice 0 64).drop (4 * t)).take 4 = messageBlock.slice (4 * t) 4 := by
    rw [show (64 : Nat) = 4 * t + (4 + (60 - 4 * t)) by omega, Memory.slice_append, Memory.slice_append, Nat.zero_add,
      drop_left' (Memory.length_slice ..), take_left' (Memory.length_slice ..)]
  rw [Sha1.word, bytes, word_of_bytes, Nat.shiftLeft_eq, Nat.mul_comm t]
  rfl

/-- A list that a loop makes longer by what belongs at its end. -/
theorem getD_extended {next : List UInt32 → Nat → UInt32} {value : Nat → UInt32} {start : Nat}
    (follows : ∀ (listed : List UInt32) (i : Nat), start ≤ i → listed.length = i → (∀ t < i, listed.getD t 0 = value t) →
      next listed i = value i)
    {listed : List UInt32} (size : listed.length = start) (begins : ∀ t < start, listed.getD t 0 = value t) (count : Nat) :
    let extended := (List.range' start count).foldl (fun listed i => listed ++ [next listed i]) listed
    extended.length = start + count ∧ ∀ t < start + count, extended.getD t 0 = value t := by
  induction count with
  | zero => exact ⟨size, begins⟩
  | succ count ih =>
    obtain ⟨length, values⟩ := ih
    rw [range'_concat, foldl_append, foldl_cons, foldl_nil, Nat.one_mul]
    generalize (List.range' start count).foldl (fun listed i => listed ++ [next listed i]) listed = before at length values
    constructor
    · rw [length_append, length, length_singleton, Nat.add_assoc]
    · intro t below
      by_cases old : t < start + count
      · rw [getD_append _ _ _ _ (length ▸ old)]
        exact values t old
      · have last : t = start + count := by omega
        rw [last, getD_append_right _ _ _ _ (Nat.le_of_eq length), length, Nat.sub_self]
        exact follows before (start + count) (Nat.le_add_right ..) length values

theorem getD_shaWords {t : Nat} (below : t < 80) :
    (shaWords messageBlock).getD t 0 = Sha1.schedule (messageBlock.slice 0 64) t := by
  refine (@getD_extended nextWord (Sha1.schedule (messageBlock.slice 0 64)) 16 ?_ _ ?_ ?_ 64).2 t below
  · intro listed i late _ values
    rw [Sha1.schedule, if_neg (Nat.not_lt.mpr late), nextWord, circularShift_one, values _ (by omega), values _ (by omega),
      values _ (by omega), values _ (by omega)]
  · rw [length_map, length_range]
  · intro t first
    rw [getD_eq_getElem _ _ (by rwa [length_map, length_range]), getElem_map, getElem_range, Sha1.schedule,
      if_pos first, word_slice first]

theorem foldl_shaRound {mixed : UInt32 → UInt32 → UInt32 → UInt32} {constant : UInt32} {start count : Nat}
    (same : ∀ t, start ≤ t → t < start + count → Sha1.function t = mixed ∧ Sha1.constant t = constant) (inside : start + count ≤ 80)
    (state : Sha1.Words) :
    (List.range' start count).foldl (shaRound mixed constant (shaWords messageBlock)) state =
      (List.range' start count).foldl (Sha1.round (Sha1.schedule (messageBlock.slice 0 64))) state := by
  apply foldl_ext
  intro state t member
  obtain ⟨low, high⟩ := mem_range'_1.mp member
  obtain ⟨function, constant⟩ := same t low high
  have order : ∀ x y z : UInt32, x + y + z = x + z + y := by grind
  rw [shaRound, Sha1.round, getD_shaWords (Nat.lt_of_lt_of_le high inside), circularShift_five, circularShift_thirty, function,
    constant, order]

/-- The rounds of a block are those of the algorithm. -/
theorem processSHA1MessageBlock_eq : processSHA1MessageBlock messageBlock H = Sha1.compress H (messageBlock.slice 0 64) := by
  have rounds : List.range 80 = List.range' 0 20 ++ List.range' 20 20 ++ List.range' 40 20 ++ List.range' 60 20 := by decide
  have choice : (fun B C D : UInt32 => B &&& C ||| ~~~B &&& D) = Sha1.ch := by
    funext B C D
    exact Sha1.ch_eq_or B C D
  have majority : (fun B C D : UInt32 => B &&& C ||| B &&& D ||| C &&& D) = Sha1.maj := by
    funext B C D
    exact Sha1.maj_eq_or B C D
  rw [processSHA1MessageBlock, Sha1.compress, rounds, foldl_append, foldl_append, foldl_append, choice, majority]
  have one : ∀ t, 0 ≤ t → t < 0 + 20 → Sha1.function t = Sha1.ch ∧ Sha1.constant t = 0x5A827999 :=
    fun t _ high => ⟨if_pos high, if_pos high⟩
  have two : ∀ t, 20 ≤ t → t < 20 + 20 → Sha1.function t = (fun B C D => B ^^^ C ^^^ D) ∧ Sha1.constant t = 0x6ED9EBA1 := by
    intro t low high
    have behind : ¬ t < 20 := Nat.not_lt.mpr low
    have within : t < 40 := high
    simp only [Sha1.function, Sha1.constant, behind, within, if_false, if_true]
    exact ⟨rfl, trivial⟩
  have three : ∀ t, 40 ≤ t → t < 40 + 20 → Sha1.function t = Sha1.maj ∧ Sha1.constant t = 0x8F1BBCDC := by
    intro t low high
    have behind : ¬ t < 20 ∧ ¬ t < 40 := by omega
    have within : t < 60 := high
    simp only [Sha1.function, Sha1.constant, behind, within, if_false, if_true]
    exact ⟨trivial, trivial⟩
  have four : ∀ t, 60 ≤ t → t < 60 + 20 → Sha1.function t = (fun B C D => B ^^^ C ^^^ D) ∧ Sha1.constant t = 0xCA62C1D6 := by
    intro t low high
    have behind : ¬ t < 20 ∧ ¬ t < 40 ∧ ¬ t < 60 := by omega
    simp only [Sha1.function, Sha1.constant, behind, if_false]
    exact ⟨rfl, trivial⟩
  simp only [foldl_shaRound one (by decide), foldl_shaRound two (by decide), foldl_shaRound three (by decide),
    foldl_shaRound four (by decide)]

end

namespace Hashing
variable {state : Hashing} {message : Bytes}

/-- What the variables hold when a part of the input is read: the hash value of the whole blocks in it, the rest in the block, and
its length in bits. -/
def Absorbed (message : Bytes) (state : Hashing) : Prop :=
  ∃ done, done.length % 64 = 0 ∧ state.index < 64 ∧ message = done ++ state.messageBlock.slice 0 state.index ∧
    state.H = Sha1.hash done ∧
    state.length_low.toNat + 2 ^ 32 * state.length_high.toNat = 8 * message.length % 2 ^ 64

theorem slice_update (memory : Memory) (index : Nat) (byte : UInt8) :
    Memory.slice (Function.update memory index byte) 0 (index + 1) = memory.slice 0 index ++ [byte] := by
  have before : Memory.slice (Function.update memory index byte) 0 index = memory.slice 0 index :=
    Memory.slice_congr fun offset _ high => Function.update_of_ne (by omega) ..
  rw [Memory.slice_append, before, Nat.zero_add]
  exact congrArg (_ ++ [·]) (Function.update_self ..)

/-- The length in bits is carried by hand. -/
theorem length_add {low high : UInt32} {length : Nat} (counted : low.toNat + 2 ^ 32 * high.toNat = 8 * length % 2 ^ 64) :
    (low + 8).toNat + 2 ^ 32 * (if low + 8 = 0 then high + 1 else high).toNat = 8 * (length + 1) % 2 ^ 64 := by
  have low_lt := low.toNat_lt
  have high_lt := high.toNat_lt
  have more : (low + 8).toNat = (low.toNat + 8) % 2 ^ 32 := UInt32.toNat_add low 8
  have zero : low + 8 = 0 ↔ (low.toNat + 8) % 2 ^ 32 = 0 := by
    rw [← UInt32.toNat_inj, more]
    rfl
  rw [more]
  by_cases carried : low + 8 = 0
  · rw [if_pos carried, UInt32.toNat_add, UInt32.toNat_one]
    have wrapped := zero.mp carried
    omega
  · rw [if_neg carried]
    have kept := mt zero.mpr carried
    omega

theorem Absorbed.add (absorbed : Absorbed message state) (ch : UInt8) : Absorbed (message ++ [ch]) (state.add ch) := by
  obtain ⟨done, whole, below, read, hashed, counted⟩ := absorbed
  have length := length_add counted
  have block := slice_update state.messageBlock state.index ch
  have joined : message ++ [ch] = done ++ (state.messageBlock.slice 0 state.index ++ [ch]) := by rw [read, append_assoc]
  have one : (message ++ [ch]).length = message.length + 1 := by rw [length_append, length_singleton]
  unfold Hashing.add
  dsimp only
  split
  case isTrue full =>
    rw [← block, full] at joined
    refine ⟨done ++ Memory.slice (Function.update state.messageBlock state.index ch) 0 64, ?_, Nat.zero_lt_succ 63, ?_, ?_, ?_⟩
    · rw [length_append, Memory.length_slice]
      omega
    · rw [joined]
      exact (append_nil _).symm
    · rw [Sha1.hash_append whole (Memory.length_slice ..), processSHA1MessageBlock_eq, hashed]
    · rw [one]
      exact length
  case isFalse more =>
    refine ⟨done, whole, Nat.lt_of_le_of_ne below more, ?_, hashed, ?_⟩
    · rw [joined, ← block]
    · rw [one]
      exact length

theorem absorbed_foldl (input : Bytes) {message : Bytes} {state : Hashing} (absorbed : Absorbed message state) :
    Absorbed (message ++ input) (input.foldl Hashing.add state) := by
  induction input generalizing message state with
  | nil => rwa [append_nil]
  | cons ch input ih =>
    have rest := ih (absorbed.add ch)
    rwa [append_assoc] at rest

theorem slice_clearTo (memory : Memory) {index limit : Nat} (below : index ≤ limit) :
    (clearTo memory index limit).slice 0 limit = memory.slice 0 index ++ List.replicate (limit - index) 0 := by
  have stored := Memory.slice_store_end memory index (List.replicate (limit - index) 0)
  rwa [length_replicate, Nat.add_sub_cancel' below] at stored

/-- The bytes of a word by shifts. -/
theorem highFirst_four (word : UInt32) :
    highFirst 4 word.toNat = [(word >>> 24).toUInt8, (word >>> 16).toUInt8, (word >>> 8).toUInt8, word.toUInt8] := by
  have byte : ∀ shift : UInt32, (word >>> shift).toUInt8 = UInt8.ofNat (word.toNat / 2 ^ (shift.toNat % 32)) := by
    intro shift
    apply UInt8.toNat_inj.mp
    rw [UInt32.toNat_toUInt8, UInt32.toNat_shiftRight, UInt8.toNat_ofNat', Nat.shiftRight_eq_div_pow]
  have plain : word.toUInt8 = UInt8.ofNat word.toNat := by
    apply UInt8.toNat_inj.mp
    rw [UInt32.toNat_toUInt8, UInt8.toNat_ofNat']
  have last : ∀ number : Nat, UInt8.ofNat (number % 256) = UInt8.ofNat number := fun _ => UInt8.ofNat_mod_size
  simp only [highFirst, digits, nil_append, cons_append, map_cons, map_nil, byte, plain, Nat.div_div_eq_div_mul,
    UInt32.reduceToNat, Nat.reduceMod, Nat.reducePow, Nat.reduceMul, last]

theorem length_bytes {low high : UInt32} {length : Nat} (counted : low.toNat + 2 ^ 32 * high.toNat = 8 * length % 2 ^ 64) :
    [(high >>> 24).toUInt8, (high >>> 16).toUInt8, (high >>> 8).toUInt8, high.toUInt8, (low >>> 24).toUInt8, (low >>> 16).toUInt8,
      (low >>> 8).toUInt8, low.toUInt8] = highFirst 8 (8 * length) := by
  have low_lt := low.toNat_lt
  have same : highFirst 8 (8 * length) = highFirst 8 (low.toNat + 2 ^ 32 * high.toNat) := by
    rw [counted, highFirst, ← digits_mod]
    rfl
  have upper : (low.toNat + 2 ^ 32 * high.toNat) / 256 ^ 4 = high.toNat := by omega
  have lower : digits 256 4 (low.toNat + 2 ^ 32 * high.toNat) = digits 256 4 low.toNat := by
    have rest : (low.toNat + 2 ^ 32 * high.toNat) % 256 ^ 4 = low.toNat := by omega
    rw [← digits_mod 256 4, rest]
  rw [same, highFirst, digits_add 256 4 4, upper, lower, map_append]
  exact (congrArg₂ (· ++ ·) (highFirst_four high) (highFirst_four low)).symm

/-- The last blocks are the ones of the padding. -/
theorem finish_eq (absorbed : Absorbed message state) : state.finish = Sha1.hash (Sha1.pad message) := by
  obtain ⟨done, whole, below, read, hashed, counted⟩ := absorbed
  have bytes := length_bytes counted
  have size : message.length = done.length + state.index := by
    have split := congrArg List.length read
    rwa [length_append, Memory.length_slice] at split
  have tail := slice_update state.messageBlock state.index 0x80
  unfold finish
  dsimp only
  generalize Function.update state.messageBlock state.index 0x80 = block at tail ⊢
  have last : ∀ (memory : Memory) (index : Nat), index ≤ 56 →
      Memory.slice (Memory.store (clearTo memory index 56) 56 (highFirst 8 (8 * message.length))) 0 64 =
        memory.slice 0 index ++ List.replicate (56 - index) 0 ++ highFirst 8 (8 * message.length) := by
    intro memory index room
    have stored := Memory.slice_store_end (clearTo memory index 56) 56 (highFirst 8 (8 * message.length))
    rwa [length_highFirst, slice_clearTo memory room] at stored
  have rest : message.length % 64 = state.index := by omega
  have length : (highFirst 8 (8 * message.length)).length = 8 := length_highFirst ..
  have empty : ∀ memory : Memory, memory.slice 0 0 = [] := fun _ => rfl
  have padded : Sha1.pad message = done ++ Memory.slice block 0 (state.index + 1) ++
      (List.replicate ((119 - state.index) % 64) 0 ++ highFirst 8 (8 * message.length)) := by
    rw [Sha1.pad, rest, tail]
    apply (congrArg (· ++ 0x80 :: (List.replicate ((119 - state.index) % 64) 0 ++ highFirst 8 (8 * message.length))) read).trans
    simp only [append_assoc, cons_append, nil_append]
  rw [bytes]
  split
  case isTrue full =>
    -- the length does not fit in the block any more
    have zeros : (119 - state.index) % 64 = 64 - (state.index + 1) + 56 := by omega
    have first := slice_clearTo block (show state.index + 1 ≤ 64 from below)
    have blocks : Sha1.pad message = done ++ (clearTo block (state.index + 1) 64).slice 0 64 ++
        (List.replicate 56 0 ++ highFirst 8 (8 * message.length)) := by
      rw [padded, first, zeros, replicate_add]
      simp only [append_assoc]
    have inner : (done ++ (clearTo block (state.index + 1) 64).slice 0 64).length % 64 = 0 := by
      rw [length_append, Memory.length_slice]
      omega
    have outer : (List.replicate 56 0 ++ highFirst 8 (8 * message.length)).length = 64 := by
      rw [length_append, length_replicate, length]
    rw [processSHA1MessageBlock_eq, processSHA1MessageBlock_eq, last _ 0 (Nat.zero_le _), hashed, blocks,
      Sha1.hash_append inner outer, Sha1.hash_append whole (Memory.length_slice ..), empty, nil_append, Nat.sub_zero]
  case isFalse room =>
    have zeros : (119 - state.index) % 64 = 56 - (state.index + 1) := by omega
    have blocks : Sha1.pad message = done ++ (Memory.slice block 0 (state.index + 1) ++ List.replicate (56 - (state.index + 1)) 0 ++
        highFirst 8 (8 * message.length)) := by
      rw [padded, zeros]
      simp only [append_assoc]
    have outer : (Memory.slice block 0 (state.index + 1) ++ List.replicate (56 - (state.index + 1)) 0 ++
        highFirst 8 (8 * message.length)).length = 64 := by
      rw [length_append, length_append, Memory.length_slice, length_replicate, length]
      omega
    rw [processSHA1MessageBlock_eq, last _ _ (Nat.not_lt.mp room), hashed, blocks, Sha1.hash_append whole outer]

end Hashing

def hexByte (byte : UInt8) : Bytes := [hexDigit (byte / 16), hexDigit (byte % 16)]

def hex (bytes : Bytes) : Bytes := bytes.flatMap hexByte

/-- Pairs that are stored from the last one to the first. -/
theorem slice_stored_pairs {pair : Nat → Bytes} (two : ∀ i, (pair i).length = 2) (count : Nat) (memory : Memory) :
    let stored := (List.range count).reverse.foldl (fun (memory : Memory) i => memory.store (i <<< 1) (pair i)) memory
    stored.slice 0 (2 * count) = (List.range count).flatMap pair ∧ ∀ offset, 2 * count ≤ offset → stored offset = memory offset := by
  induction count generalizing memory with
  | zero => exact ⟨rfl, fun _ _ => rfl⟩
  | succ count ih =>
    rw [range_succ, reverse_append, reverse_singleton, singleton_append, foldl_cons, flatMap_append,
      flatMap_singleton, Nat.shiftLeft_eq, Nat.pow_one, Nat.mul_comm count]
    obtain ⟨before, behind⟩ := ih (memory.store (2 * count) (pair count))
    constructor
    · have last : Memory.slice (memory.store (2 * count) (pair count)) (2 * count) 2 = pair count := by
        rw [← two count]
        exact Memory.slice_store_self ..
      rw [Nat.mul_succ, Memory.slice_append, before, Nat.zero_add]
      exact congrArg _ ((Memory.slice_congr fun offset low _ => behind offset low).trans last)
    · intro offset high
      rw [behind offset (by omega)]
      exact Memory.store_after (by rw [two]; omega)

theorem hexString_eq (H : Sha1.Words) (hexstring : Memory) : hexString H hexstring = hex H.bytes := by
  have nibbles : ∀ byte : UInt8, [hexDigit (byte >>> 4), hexDigit (byte &&& 15)] = hexByte byte := by
    intro byte
    have high : byte >>> 4 = byte / 16 := by
      apply UInt8.toNat_inj.mp
      rw [UInt8.toNat_shiftRight, UInt8.toNat_div, Nat.shiftRight_eq_div_pow]
      rfl
    have low : byte &&& 15 = byte % 16 := by
      apply UInt8.toNat_inj.mp
      rw [UInt8.toNat_and, UInt8.toNat_mod]
      exact Nat.and_two_pow_sub_one_eq_mod byte.toNat 4
    rw [high, low, hexByte]
  have whole : ∀ word : UInt32, word >>> 0 = word := by
    intro word
    apply UInt32.toNat_inj.mp
    rw [UInt32.toNat_shiftRight]
    rfl
  have bytes : H.bytes = (List.range 20).map fun hashByte =>
      (shaWord H (hashByte >>> 2) >>> UInt32.ofNat (((3 - (hashByte : Int)) % 4).toNat <<< 3)).toUInt8 := by
    have four : ∀ word : UInt32, highFirst 4 word.toNat =
        [(word >>> 24).toUInt8, (word >>> 16).toUInt8, (word >>> 8).toUInt8, (word >>> 0).toUInt8] := by
      intro word
      rw [Hashing.highFirst_four, whole]
    simp only [Sha1.Words.bytes, flatMap_cons, flatMap_nil, four]
    rfl
  rw [hexString, (slice_stored_pairs (fun _ => rfl) 20 hexstring).1, bytes, hex, flatMap_map]
  simp only [nibbles]

/-- The hash is the algorithm's digest, in hexadecimal digits. -/
theorem transformToSHA1_eq (messageBlock hexstring : Memory) (input : Bytes) :
    transformToSHA1 messageBlock hexstring input = hex (Sha1.digest input) := by
  have absorbed : Hashing.Absorbed [] { H := Sha1.initial, messageBlock := messageBlock } :=
    ⟨[], rfl, Nat.zero_lt_succ 63, rfl, rfl, rfl⟩
  exact (hexString_eq _ hexstring).trans (congrArg (fun H => hex (Sha1.Words.bytes H))
    (Hashing.finish_eq (Hashing.absorbed_foldl input absorbed)))

end Styller.Tools
