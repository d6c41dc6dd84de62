import Mathlib.Data.UInt
import Styller.Library.Digits

/-! The Secure Hash Algorithm SHA-1: padding, the message schedule, the rounds and the digest. -/

namespace Styller.Library.Sha1

open List

/-- The five working variables, or the hash value. -/
structure Words where
  a : UInt32
  b : UInt32
  c : UInt32
  d : UInt32
  e : UInt32

/-- A circular left shift. -/
def rotl (count : Nat) (word : UInt32) : UInt32 := ⟨word.toBitVec.rotateLeft count⟩

def ch (x y z : UInt32) : UInt32 := (x &&& y) ^^^ (~~~x &&& z)

def parity (x y z : UInt32) : UInt32 := x ^^^ y ^^^ z

def maj (x y z : UInt32) : UInt32 := (x &&& y) ^^^ (x &&& z) ^^^ (y &&& z)

/-- The function and the constant of a round. -/
def function (t : Nat) : UInt32 → UInt32 → UInt32 → UInt32 :=
  if t < 20 then ch else if t < 40 then parity else if t < 60 then maj else parity

def constant (t : Nat) : UInt32 :=
  if t < 20 then 0x5A827999 else if t < 40 then 0x6ED9EBA1 else if t < 60 then 0x8F1BBCDC else 0xCA62C1D6

/-- A word of a block. -/
def word (block : Bytes) (t : Nat) : UInt32 := UInt32.ofNat (ofHighFirst ((block.drop (4 * t)).take 4))

/-- The message schedule. -/
def schedule (block : Bytes) (t : Nat) : UInt32 :=
  if t < 16 then word block t
  else rotl 1 (schedule block (t - 3) ^^^ schedule block (t - 8) ^^^ schedule block (t - 14) ^^^ schedule block (t - 16))
termination_by t
decreasing_by all_goals omega

def round (schedule : Nat → UInt32) (words : Words) (t : Nat) : Words where
  a := rotl 5 words.a + function t words.b words.c words.d + words.e + constant t + schedule t
  b := words.a
  c := rotl 30 words.b
  d := words.c
  e := words.d

/-- The next hash value behind a block. -/
def compress (hash : Words) (block : Bytes) : Words :=
  let words := (List.range 80).foldl (round (schedule block)) hash
  ⟨hash.a + words.a, hash.b + words.b, hash.c + words.c, hash.d + words.d, hash.e + words.e⟩

def initial : Words := ⟨0x67452301, 0xEFCDAB89, 0x98BADCFE, 0x10325476, 0xC3D2E1F0⟩

/-- A one bit, the fewest zero bits that leave room for the length in the last block, and the length in bits. -/
def pad (message : Bytes) : Bytes :=
  message ++ 0x80 :: (List.replicate ((119 - message.length % 64) % 64) 0 ++ highFirst 8 (8 * message.length))

/-- The blocks of a padded message. -/
def blocks (padded : Bytes) : List Bytes := (List.range (padded.length / 64)).map fun i => (padded.drop (64 * i)).take 64

def hash (padded : Bytes) : Words := (blocks padded).foldl compress initial

def Words.bytes (words : Words) : Bytes :=
  [words.a, words.b, words.c, words.d, words.e].flatMap fun word => highFirst 4 word.toNat

/-- The message digest. -/
def digest (message : Bytes) : Bytes := (hash (pad message)).bytes

section
variable {padded block more message : Bytes}

theorem blocks_append (whole : padded.length % 64 = 0) (size : block.length = 64) : blocks (padded ++ block) = blocks padded ++ [block] := by
  obtain ⟨count, length⟩ := Nat.dvd_of_mod_eq_zero whole
  have first : padded.length / 64 = count := by omega
  have both : (padded ++ block).length / 64 = count + 1 := by rw [length_append]; omega
  rw [blocks, blocks, first, both, range_succ, map_append, map_singleton]
  congr 1
  · apply map_congr_left
    intro i member
    have below := mem_range.mp member
    rw [drop_append_of_le_length (by omega), take_append_of_le_length (by rw [length_drop]; omega)]
  · rw [← length, drop_left, ← size, take_length]

/-- One block more. -/
theorem hash_append (whole : padded.length % 64 = 0) (size : block.length = 64) : hash (padded ++ block) = compress (hash padded) block := by
  rw [hash, blocks_append whole size, foldl_append, foldl_cons, foldl_nil, hash]

theorem hash_nil : hash [] = initial := rfl

theorem length_bytes (words : Words) : words.bytes.length = 20 := by
  simp only [Words.bytes, flatMap_cons, flatMap_nil, length_append, length_highFirst, length_nil]

theorem length_digest (message : Bytes) : (digest message).length = 20 := length_bytes _

/-- Of two alternatives that exclude each other, and of three that agree in pairs, an or is as good as an exclusive one. -/
theorem ch_eq_or (x y z : UInt32) : (x &&& y) ||| (~~~x &&& z) = ch x y z := by
  apply UInt32.eq_of_toBitVec_eq
  ext i
  simp only [ch, UInt32.toBitVec_or, UInt32.toBitVec_and, UInt32.toBitVec_not, UInt32.toBitVec_xor, BitVec.getElem_or,
    BitVec.getElem_and, BitVec.getElem_not, BitVec.getElem_xor]
  cases x.toBitVec[i] <;> cases y.toBitVec[i] <;> cases z.toBitVec[i] <;> rfl

theorem maj_eq_or (x y z : UInt32) : (x &&& y) ||| (x &&& z) ||| (y &&& z) = maj x y z := by
  apply UInt32.eq_of_toBitVec_eq
  ext i
  simp only [maj, UInt32.toBitVec_or, UInt32.toBitVec_and, UInt32.toBitVec_xor, BitVec.getElem_or, BitVec.getElem_and,
    BitVec.getElem_xor]
  cases x.toBitVec[i] <;> cases y.toBitVec[i] <;> cases z.toBitVec[i] <;> rfl

end

end Styller.Library.Sha1
