import Mathlib.Data.List.TakeWhile
import Mathlib.Tactic.IntervalCases
import Styller.Library.Hotp
import Styller.Tools.Sha1

/-! The second factor of the accounts: the tokens, and the secrets they are made from. -/

namespace Styller.Tools

open Library List

/-- What a hexadecimal digit stands for. -/
def hexValue (ch : UInt8) : Option Nat :=
  if 48 ≤ ch ∧ ch ≤ 57 then some (ch.toNat - 48)
  else if 97 ≤ ch ∧ ch ≤ 102 then some (ch.toNat - 87)
  else if 65 ≤ ch ∧ ch ≤ 70 then some (ch.toNat - 55)
  else none

/-- `std::strtoul` in base 16, of a string that begins with no sign, space or prefix: the digits up to the first other character. -/
def strtoul (str : Bytes) : Nat := ofDigits 16 (((str.map hexValue).takeWhile Option.isSome).filterMap id)

/-- `std::to_string`. -/
def toString (number : Nat) : Bytes :=
  if number < 10 then [UInt8.ofNat (48 + number)] else toString (number / 10) ++ [UInt8.ofNat (48 + number % 10)]
termination_by number
decreasing_by omega

def substr (str : Bytes) (pos count : Nat) : Bytes := (str.drop pos).take count

/-- The message: the ticks in the last bytes of eight, the first of which the loop does not come to. -/
def tickMessage (ticks : UInt32) : Bytes :=
  ([7, 6, 5, 4, 3, 2, 1].foldl (fun (state : Bytes × UInt32) i => (state.1.set i (state.2 &&& 0xFF).toUInt8, state.2 >>> 8))
    (List.replicate 8 0, ticks)).1

def keyPad (constant : UInt8) (key : Bytes) : Bytes :=
  (List.range key.length).foldl (fun pad i => pad.set i (pad.getD i 0 ^^^ key.getD i 0)) (List.replicate 64 constant)

/-- The loop that adds the bytes of a hexadecimal string. -/
def appendHex (pad message : Bytes) : Bytes :=
  (List.range ((message.length + 1) / 2)).foldl (fun pad i => pad ++ [UInt8.ofNat (strtoul (substr message (2 * i) 2))]) pad

/-- `generateToken`, with the arrays of the two hashes and `AUTHENTICATOR_DIGITS`. -/
def generateToken (first second : Memory × Memory) (authenticatorDigits : Nat) (key : Bytes) (ticks : UInt32) : Bytes :=
  let iKeyPad := keyPad 0x36 key ++ tickMessage ticks
  let message := transformToSHA1 first.1 first.2 iKeyPad
  let oKeyPad := appendHex (keyPad 0x5C key) message
  let message := transformToSHA1 second.1 second.2 oKeyPad
  let offset := strtoul (substr message 39 1) &&& 0xF
  let truncHash := strtoul (substr message (2 * offset) 8) % 2 ^ 32 &&& 0x7FFFFFFF
  let message := toString truncHash
  let hashLen := message.length
  List.replicate (authenticatorDigits - min hashLen authenticatorDigits) 48 ++ message.drop (hashLen - min hashLen authenticatorDigits)

/-- The variables of `decodeSecret`. -/
structure Decoding where
  key : Bytes := []
  buffer : UInt32 := 0
  left : UInt32 := 0

/-- The five bits of a character, shifted into the buffer. -/
def shiftIn (buffer : UInt32) (ch : UInt8) : Option UInt32 :=
  let buffer := buffer <<< 5
  if 65 ≤ ch ∧ ch ≤ 90 then some (buffer ||| ((ch &&& 0x1F) - 1).toUInt32)
  else if 50 ≤ ch ∧ ch ≤ 55 then some (buffer ||| (ch - 24).toUInt32)
  else none

/-- One character of the secret. -/
def decodeChar (state : Decoding) (ch : UInt8) : Option Decoding := do
  let buffer ← shiftIn state.buffer ch
  let left := state.left + 5
  if left ≥ 8 then
    let left := left - 8
    some ⟨state.key ++ [(buffer >>> left).toUInt8], buffer, left⟩
  else some ⟨state.key, buffer, left⟩

/-- `decodeSecret`. A broken key is empty. -/
def decodeSecret (secret : Bytes) : Bytes :=
  match secret.foldlM decodeChar {} with
  | some state => state.key
  | none => []

section
variable {bytes : Bytes}

/-- The sixteen digits. -/
theorem hexValue_hexDigit {digit : Nat} (below : digit < 16) : hexValue (hexDigit (UInt8.ofNat digit)) = some digit := by
  have all : ∀ digit < 16, hexValue (hexDigit (UInt8.ofNat digit)) = some digit := by decide
  exact all digit below

theorem strtoul_digits {listed : List Nat} (below : ∀ digit ∈ listed, digit < 16) :
    strtoul (listed.map fun digit => hexDigit (UInt8.ofNat digit)) = ofDigits 16 listed := by
  have values : (listed.map fun digit => hexDigit (UInt8.ofNat digit)).map hexValue = listed.map some := by
    rw [map_map]
    exact map_congr_left fun digit member => hexValue_hexDigit (below digit member)
  have all : (listed.map some).takeWhile Option.isSome = listed.map some := by
    rw [takeWhile_eq_self_iff]
    intro value member
    obtain ⟨digit, _, rfl⟩ := mem_map.mp member
    rfl
  rw [strtoul, values, all, filterMap_map]
  exact congrArg (ofDigits 16) filterMap_some

def nibbles (bytes : Bytes) : List Nat := bytes.flatMap fun byte => [byte.toNat / 16, byte.toNat % 16]

theorem hex_eq (bytes : Bytes) : hex bytes = (nibbles bytes).map fun digit => hexDigit (UInt8.ofNat digit) := by
  have sixteen : (16 : UInt8).toNat = 16 := rfl
  have each : ∀ byte : UInt8, hexByte byte = [byte.toNat / 16, byte.toNat % 16].map fun digit => hexDigit (UInt8.ofNat digit) := by
    intro byte
    have small := byte.toNat_lt
    have high : byte / 16 = UInt8.ofNat (byte.toNat / 16) := by
      apply UInt8.toNat_inj.mp
      rw [UInt8.toNat_div, UInt8.toNat_ofNat', sixteen]
      exact (Nat.mod_eq_of_lt (by omega)).symm
    have low : byte % 16 = UInt8.ofNat (byte.toNat % 16) := by
      apply UInt8.toNat_inj.mp
      rw [UInt8.toNat_mod, UInt8.toNat_ofNat', sixteen]
      exact (Nat.mod_eq_of_lt (by omega)).symm
    rw [hexByte, high, low, map_cons, map_cons, map_nil]
  rw [hex, nibbles, map_flatMap]
  exact congrArg bytes.flatMap (funext each)

theorem ofDigits_nibbles (bytes : Bytes) : ofDigits 16 (nibbles bytes) = ofHighFirst bytes := by
  induction bytes using List.reverseRecOn with
  | nil => rfl
  | append_singleton bytes byte ih =>
    have two : nibbles (bytes ++ [byte]) = nibbles bytes ++ [byte.toNat / 16] ++ [byte.toNat % 16] := by
      rw [nibbles, flatMap_append, append_assoc]
      rfl
    rw [two, ofDigits_append, ofDigits_append, ih, ofHighFirst_append]
    omega

/-- The number in a hexadecimal string. -/
theorem strtoul_hex (bytes : Bytes) : strtoul (hex bytes) = ofHighFirst bytes := by
  rw [hex_eq, strtoul_digits, ofDigits_nibbles]
  intro digit member
  obtain ⟨byte, _, member⟩ := mem_flatMap.mp member
  have small := byte.toNat_lt
  rcases mem_pair.mp member with rfl | rfl
  · omega
  · omega

theorem length_hex (bytes : Bytes) : (hex bytes).length = 2 * bytes.length := by
  induction bytes with
  | nil => rfl
  | cons byte bytes ih =>
    rw [hex, flatMap_cons, length_append, ← hex, ih, length_cons, hexByte, length_cons, length_singleton]
    omega

theorem hex_append (first second : Bytes) : hex (first ++ second) = hex first ++ hex second := flatMap_append

/-- A part of a hexadecimal string between bytes. -/
theorem substr_hex (bytes : Bytes) (pos count : Nat) : substr (hex bytes) (2 * pos) (2 * count) = hex ((bytes.drop pos).take count) := by
  have dropped : ∀ bytes : Bytes, (hex bytes).drop (2 * pos) = hex (bytes.drop pos) := by
    intro bytes
    by_cases inside : pos ≤ bytes.length
    · have split : hex bytes = hex (bytes.take pos) ++ hex (bytes.drop pos) := by rw [← hex_append, take_append_drop]
      rw [split, drop_left' (by rw [length_hex, length_take_of_le inside])]
    · rw [drop_eq_nil_of_le (by rw [length_hex]; omega), drop_eq_nil_of_le (by omega)]
      rfl
  rw [substr, dropped]
  generalize bytes.drop pos = bytes
  by_cases inside : count ≤ bytes.length
  · have split : hex bytes = hex (bytes.take count) ++ hex (bytes.drop count) := by rw [← hex_append, take_append_drop]
    rw [split, take_left' (by rw [length_hex, length_take_of_le inside])]
  · rw [take_of_length_le (by rw [length_hex]; omega), take_of_length_le (by omega)]

/-- The loop turns a hexadecimal string into its bytes. -/
theorem appendHex_hex (pad bytes : Bytes) : appendHex pad (hex bytes) = pad ++ bytes := by
  have loop : ∀ count ≤ bytes.length, (List.range count).foldl
      (fun pad i => pad ++ [UInt8.ofNat (strtoul (substr (hex bytes) (2 * i) 2))]) pad = pad ++ bytes.take count := by
    intro count
    induction count with
    | zero =>
      intro _
      rw [take_zero, append_nil]
      rfl
    | succ count ih =>
      intro inside
      have one : substr (hex bytes) (2 * count) 2 = hex [bytes[count]] := by
        have part := substr_hex bytes count 1
        rwa [drop_eq_getElem_cons inside, take_succ_cons, take_zero] at part
      have value : UInt8.ofNat (strtoul (hex [bytes[count]])) = bytes[count] := by
        rw [strtoul_hex, ofHighFirst, map_singleton, ofDigits, foldl_cons, foldl_nil, Nat.zero_mul, Nat.zero_add,
          UInt8.ofNat_toNat]
      rw [range_succ, foldl_append, ih (Nat.le_of_succ_le inside), foldl_cons, foldl_nil, one, value,
        append_assoc, take_append_getElem inside]
  have half : (2 * bytes.length + 1) / 2 = bytes.length := by omega
  rw [appendHex, length_hex, half, loop _ (Nat.le_refl _), take_length]

/-- The last digits of a number in decimal, with zeros in front if there are not enough. -/
theorem padded_toString (count number : Nat) :
    List.replicate (count - min (toString number).length count) 48 ++
        (toString number).drop ((toString number).length - min (toString number).length count) =
      (digits 10 count number).map fun digit => UInt8.ofNat (48 + digit) := by
  induction count generalizing number with
  | zero =>
    rw [Nat.min_zero, Nat.sub_zero, Nat.sub_zero, drop_length]
    rfl
  | succ count ih =>
    rw [toString]
    split
    case isTrue small =>
      have last : number % 10 = number := Nat.mod_eq_of_lt small
      have none : number / 10 = 0 := Nat.div_eq_of_lt small
      have one : min 1 (count + 1) = 1 := Nat.min_eq_left (Nat.le_add_left 1 count)
      rw [digits, last, none, digits_zero, length_singleton, one, Nat.add_sub_cancel, map_append, map_replicate]
      rfl
    case isFalse large =>
      have fits : min ((toString (number / 10)).length + 1) (count + 1) = min (toString (number / 10)).length count + 1 :=
        Nat.add_min_add_right ..
      rw [digits, map_append, ← ih, length_append, length_singleton, fits, Nat.add_sub_add_right,
        Nat.add_sub_add_right, drop_append_of_le_length (Nat.sub_le ..), append_assoc]
      rfl

end

section
variable {key : Bytes}

/-- The loop that puts the key over a constant. -/
theorem keyPad_eq (constant : UInt8) (short : key.length ≤ 64) :
    keyPad constant key = (key ++ List.replicate (64 - key.length) 0).map (· ^^^ constant) := by
  have loop : ∀ count ≤ key.length, (List.range count).foldl (fun pad i => pad.set i (pad.getD i 0 ^^^ key.getD i 0))
      (List.replicate 64 constant) = (key.take count).map (· ^^^ constant) ++ List.replicate (64 - count) constant := by
    intro count
    induction count with
    | zero => exact fun _ => rfl
    | succ count ih =>
      intro inside
      have room : 64 - count = 64 - (count + 1) + 1 := by omega
      have size : ((key.take count).map (· ^^^ constant)).length = count := by
        rw [length_map, length_take_of_le (Nat.le_of_succ_le inside)]
      have last : (key.take (count + 1)).map (· ^^^ constant) = (key.take count).map (· ^^^ constant) ++ [key[count] ^^^ constant] := by
        rw [take_succ_eq_append_getElem inside, map_append, map_singleton]
      rw [range_succ, foldl_append, ih (Nat.le_of_succ_le inside), foldl_cons, foldl_nil, room,
        replicate_succ, last]
      generalize (key.take count).map (· ^^^ constant) = before at size
      rw [set_append_right _ _ (Nat.le_of_eq size), getD_append_right _ _ _ _ (Nat.le_of_eq size), size, Nat.sub_self,
        getD_eq_getElem _ _ inside, UInt8.xor_comm]
      exact append_cons ..
  rw [keyPad, loop _ (Nat.le_refl _), take_length, map_append, map_replicate, UInt8.zero_xor]

/-- The message is the counter. -/
theorem tickMessage_eq (ticks : UInt32) : tickMessage ticks = highFirst 8 ticks.toNat := by
  have bound := ticks.toNat_lt
  have byte : ∀ word : UInt32, (word &&& 0xFF).toUInt8 = UInt8.ofNat word.toNat := by
    intro word
    apply UInt8.toNat_inj.mp
    rw [UInt32.toNat_toUInt8, UInt32.toNat_and, UInt8.toNat_ofNat']
    have low : word.toNat &&& (0xFF : UInt32).toNat = word.toNat % 2 ^ 8 := Nat.and_two_pow_sub_one_eq_mod word.toNat 8
    rw [low, Nat.mod_mod]
  have shift : ∀ word : UInt32, (word >>> 8).toNat = word.toNat / 256 := by
    intro word
    rw [UInt32.toNat_shiftRight, Nat.shiftRight_eq_div_pow]
    rfl
  have last : ∀ number : Nat, UInt8.ofNat (number % 256) = UInt8.ofNat number := fun _ => UInt8.ofNat_mod_size
  have none : ticks.toNat / 72057594037927936 = 0 := Nat.div_eq_of_lt (by omega)
  simp only [tickMessage, foldl_cons, foldl_nil, replicate_succ, replicate_zero, set_cons_succ,
    set_cons_zero, byte, shift, highFirst, digits, nil_append, cons_append, map_cons, map_nil, last,
    Nat.div_div_eq_div_mul, Nat.reduceMul, none]
  rfl

/-- What the hash of a token is made of is the keyed hash. -/
theorem hmac_pads (short : key.length ≤ 64) (ticks : UInt32) :
    Sha1.digest (keyPad 0x5C key ++ Sha1.digest (keyPad 0x36 key ++ tickMessage ticks)) =
      hmac Sha1.digest key (highFirst 8 ticks.toNat) := by
  rw [keyPad_eq _ short, keyPad_eq _ short, tickMessage_eq, hmac, if_neg (Nat.not_lt.mpr short)]

/-- The offset is read from the last digit of the hash. -/
theorem strtoul_last {digest : Bytes} (size : digest.length = 20) :
    strtoul (substr (hex digest) 39 1) &&& 0xF = (digest.getLastD 0).toNat % 16 := by
  have nonempty : digest ≠ [] := by
    rintro rfl
    cases size
  obtain ⟨before, byte, rfl⟩ : ∃ before byte, digest = before ++ [byte] :=
    ⟨digest.dropLast, digest.getLast nonempty, (dropLast_append_getLast nonempty).symm⟩
  have length : before.length = 19 := by
    rw [length_append, length_singleton] at size
    exact Nat.succ.inj size
  have digit : substr (hex (before ++ [byte])) 39 1 = [byte.toNat % 16].map fun digit => hexDigit (UInt8.ofNat digit) := by
    have pair : hex [byte] = [hexDigit (UInt8.ofNat (byte.toNat / 16)), hexDigit (UInt8.ofNat (byte.toNat % 16))] := hex_eq [byte]
    rw [substr, hex_append, pair, drop_append, drop_eq_nil_of_le (by rw [length_hex]; omega), length_hex, length]
    rfl
  have small : ∀ digit ∈ [byte.toNat % 16], digit < 16 := by
    intro digit member
    rw [mem_singleton.mp member]
    exact Nat.mod_lt _ (by decide)
  rw [digit, strtoul_digits small, getLastD_concat]
  change 0 * 16 + byte.toNat % 16 &&& 2 ^ 4 - 1 = _
  rw [Nat.and_two_pow_sub_one_eq_mod, Nat.zero_mul, Nat.zero_add, Nat.mod_mod]

/-- Four bytes without their highest bit. -/
theorem and_mask (bytes : Bytes) (short : bytes.length ≤ 4) : ofHighFirst bytes % 2 ^ 32 &&& 0x7FFFFFFF = ofHighFirst bytes % 2 ^ 31 := by
  have most : 256 ^ bytes.length ≤ 256 ^ 4 := Nat.pow_le_pow_right (by decide) short
  have less : ofHighFirst bytes < 2 ^ 32 := Nat.lt_of_lt_of_le (ofHighFirst_lt bytes) most
  rw [Nat.mod_eq_of_lt less]
  exact Nat.and_two_pow_sub_one_eq_mod (ofHighFirst bytes) 31

theorem generateToken_eq (first second : Memory × Memory) (authenticatorDigits : Nat) (short : key.length ≤ 64) (ticks : UInt32) :
    generateToken first second authenticatorDigits key ticks =
      (hotp key ticks.toNat authenticatorDigits).map fun digit => UInt8.ofNat (48 + digit) := by
  have hashed := hmac_pads short ticks
  have size := Sha1.length_digest (keyPad 0x5C key ++ Sha1.digest (keyPad 0x36 key ++ tickMessage ticks))
  rw [generateToken, transformToSHA1_eq, transformToSHA1_eq, appendHex_hex, padded_toString, hotp, digits_mod, ← hashed]
  generalize Sha1.digest (keyPad 0x5C key ++ Sha1.digest (keyPad 0x36 key ++ tickMessage ticks)) = digest at size
  have part := substr_hex digest ((digest.getLastD 0).toNat % 16) 4
  simp only [dynamicTruncation]
  rw [strtoul_last size, part, strtoul_hex, and_mask _ (length_take_le ..)]

end

theorem shiftIn_letter {value : Nat} (below : value < 32) (buffer : UInt32) :
    shiftIn buffer (Base32.letter value) = some (buffer <<< 5 ||| UInt32.ofNat value) := by
  have letters : ∀ value < 26, (65 ≤ Base32.letter value ∧ Base32.letter value ≤ 90) ∧
      ((Base32.letter value &&& 0x1F) - 1).toUInt32 = UInt32.ofNat value := by
    decide
  have others : ∀ value < 32, 26 ≤ value → ¬ (65 ≤ Base32.letter value ∧ Base32.letter value ≤ 90) ∧
      (50 ≤ Base32.letter value ∧ Base32.letter value ≤ 55) ∧ (Base32.letter value - 24).toUInt32 = UInt32.ofNat value := by
    decide
  rw [shiftIn]
  by_cases letter : value < 26
  · obtain ⟨range, bits⟩ := letters value letter
    rw [if_pos range, bits]
  · obtain ⟨range, digit, bits⟩ := others value below (Nat.not_lt.mp letter)
    rw [if_neg range, if_pos digit, bits]

/-- The number of the letters so far is in the buffer, as far as it fits. -/
theorem buffer_shift (number : Nat) {value : Nat} (below : value < 32) :
    UInt32.ofNat number <<< 5 ||| UInt32.ofNat value = UInt32.ofNat (number * 32 + value) := by
  apply UInt32.toNat_inj.mp
  have joined : number * 32 + value = number <<< 5 ||| value := by
    rw [← Nat.shiftLeft_add_eq_or_of_lt (show value < 2 ^ 5 from below), Nat.shiftLeft_eq]
  have shifted : (UInt32.ofNat number <<< 5).toNat = number <<< 5 % 2 ^ 32 := by
    rw [UInt32.toNat_shiftLeft, UInt32.toNat_ofNat']
    simp only [UInt32.reduceToNat, Nat.reduceMod, Nat.shiftLeft_eq]
    omega
  rw [UInt32.toNat_or, shifted, UInt32.toNat_ofNat', UInt32.toNat_ofNat', joined, Nat.or_mod_two_pow]

theorem buffer_byte (number : Nat) {left : UInt32} (few : left.toNat < 8) :
    (UInt32.ofNat number >>> left).toUInt8 = UInt8.ofNat (number / 2 ^ left.toNat) := by
  apply UInt8.toNat_inj.mp
  have small : left.toNat % 32 = left.toNat := Nat.mod_eq_of_lt (by omega)
  rw [UInt32.toNat_toUInt8, UInt32.toNat_shiftRight, UInt32.toNat_ofNat', UInt8.toNat_ofNat', small, Nat.shiftRight_eq_div_pow]
  generalize left.toNat = count at few
  interval_cases count <;> omega

/-- What is decoded: the first bytes of the number that the letters stand for, and how many bits are left. -/
structure Decoded (values : List Nat) (state : Decoding) : Prop where
  few : state.left.toNat < 8
  bits : 8 * state.key.length + state.left.toNat = 5 * values.length
  buffer : state.buffer = UInt32.ofNat (ofDigits 32 values)
  key : state.key = highFirst state.key.length (ofDigits 32 values / 2 ^ state.left.toNat)

theorem Decoded.letter {values : List Nat} {state : Decoding} (decoded : Decoded values state) {value : Nat} (below : value < 32) :
    ∃ next, decodeChar state (Base32.letter value) = some next ∧ Decoded (values ++ [value]) next := by
  obtain ⟨few, bits, buffer, key⟩ := decoded
  have number := ofDigits_append 32 values value
  have shifted := buffer_shift (ofDigits 32 values) below
  rw [← number] at shifted
  have more : (state.left + 5).toNat = state.left.toNat + 5 := by
    rw [UInt32.toNat_add]
    exact Nat.mod_eq_of_lt (Nat.lt_trans (Nat.add_lt_add_right few 5) (by decide))
  have enough : state.left + 5 ≥ 8 ↔ 8 ≤ state.left.toNat + 5 := by
    rw [ge_iff_le, UInt32.le_iff_toNat_le, more]
    rfl
  have quotient : ∀ left : Nat, ofDigits 32 (values ++ [value]) / 2 ^ (left + 5) = ofDigits 32 values / 2 ^ left := by
    intro left
    have split : (ofDigits 32 values * 32 + value) / 32 = ofDigits 32 values := by omega
    rw [number, Nat.add_comm left, Nat.pow_add, ← Nat.div_div_eq_div_mul, split]
  rw [decodeChar, shiftIn_letter below, buffer, shifted, Option.bind_eq_bind, Option.bind_some]
  dsimp only
  split
  case isTrue full =>
    have full := enough.mp full
    have left : (state.left + 5 - 8).toNat = state.left.toNat - 3 := by
      rw [UInt32.toNat_sub_of_le _ _ (enough.mpr full), more]
      exact Nat.add_sub_add_right state.left.toNat 5 3
    have rest : (state.left + 5 - 8).toNat < 8 := by omega
    refine ⟨_, rfl, rest, ?_, rfl, ?_⟩
    · rw [length_append, length_append, left, length_singleton, length_singleton]
      omega
    · -- the byte before the last one is where the buffer was before
      have before : ofDigits 32 (values ++ [value]) / 2 ^ (state.left.toNat - 3) / 256 = ofDigits 32 values / 2 ^ state.left.toNat := by
        have power : 2 ^ (state.left.toNat - 3) * 256 = 2 ^ (state.left.toNat + 5) := by
          rw [show state.left.toNat + 5 = state.left.toNat - 3 + 8 by omega, Nat.pow_add]
        rw [Nat.div_div_eq_div_mul, power, quotient]
      rw [buffer_byte _ rest, left, length_append, length_singleton, highFirst, digits, map_append, before, ← highFirst,
        ← key, map_singleton, UInt8.ofNat_mod_size]
  case isFalse short =>
    have short := mt enough.mpr short
    refine ⟨_, rfl, more ▸ Nat.lt_of_not_le short, ?_, rfl, ?_⟩
    · rw [length_append, length_singleton, more]
      dsimp only
      omega
    · rw [more, quotient]
      exact key

theorem decoded_foldlM {values : List Nat} (below : ∀ value ∈ values, value < 32) :
    ∃ state, (values.map Base32.letter).foldlM decodeChar {} = some state ∧ Decoded values state := by
  induction values using List.reverseRecOn with
  | nil => exact ⟨{}, rfl, by decide, rfl, rfl, rfl⟩
  | append_singleton values value ih =>
    obtain ⟨state, ran, decoded⟩ := ih fun other member => below other (mem_append_left _ member)
    obtain ⟨next, one, decoded⟩ := decoded.letter (below value (mem_append_right _ mem_cons_self))
    refine ⟨next, ?_, decoded⟩
    rw [map_append, foldlM_append, ran, map_singleton, Option.bind_eq_bind, Option.bind_some, foldlM_cons, one]
    rfl

/-- Secrets are decoded to the bytes that they encode, also where the last letter is filled up. -/
theorem decodeSecret_encode (bytes : Bytes) : decodeSecret (Base32.encode bytes) = bytes := by
  have small : ∀ value ∈ digits 32 ((8 * bytes.length + 4) / 5) (ofHighFirst bytes * 2 ^ Base32.fill bytes.length), value < 32 :=
    fun value member => mem_digits_lt (by decide) member
  obtain ⟨state, ran, few, bits, _, key⟩ := decoded_foldlM small
  have count : 5 * ((8 * bytes.length + 4) / 5) = 8 * bytes.length + Base32.fill bytes.length := by
    rw [Base32.fill]
    omega
  have filled : Base32.fill bytes.length < 5 := Nat.mod_lt _ (by decide)
  rw [length_digits, count] at bits
  have length : state.key.length = bytes.length := by omega
  have left : state.left.toNat = Base32.fill bytes.length := by omega
  have fits : ofHighFirst bytes * 2 ^ Base32.fill bytes.length < 32 ^ ((8 * bytes.length + 4) / 5) := by
    calc ofHighFirst bytes * 2 ^ Base32.fill bytes.length < 256 ^ bytes.length * 2 ^ Base32.fill bytes.length :=
          Nat.mul_lt_mul_of_pos_right (ofHighFirst_lt bytes) (Nat.two_pow_pos _)
      _ = 2 ^ (8 * bytes.length + Base32.fill bytes.length) := by rw [Nat.pow_add, Nat.pow_mul]
      _ = 32 ^ ((8 * bytes.length + 4) / 5) := by rw [← count, Nat.pow_mul]
  rw [decodeSecret, Base32.encode, ran]
  dsimp only
  rw [key, length, left, ofDigits_digits, Nat.mod_eq_of_lt fits, Nat.mul_div_cancel _ (Nat.two_pow_pos _), highFirst_ofHighFirst]

/-- Tokens are the one-time passwords of the ticks, and secrets are decoded to what they encode. -/
theorem secondFactor_standard (first second : Memory × Memory) :
    (∀ (key : Bytes) (ticks : UInt32) (authenticatorDigits : Nat), key.length ≤ 64 → 1 ≤ authenticatorDigits →
      authenticatorDigits ≤ 8 → generateToken first second authenticatorDigits key ticks =
        (hotp key ticks.toNat authenticatorDigits).map fun digit => UInt8.ofNat (48 + digit)) ∧
    ∀ bytes : Bytes, bytes.length % 5 = 0 → decodeSecret (Base32.encode bytes) = bytes :=
  ⟨fun _ ticks authenticatorDigits short _ _ => generateToken_eq first second authenticatorDigits short ticks,
    fun bytes _ => decodeSecret_encode bytes⟩

end Styller.Tools
