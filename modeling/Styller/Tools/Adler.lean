import Mathlib.Tactic.Ring
import Styller.Network.NetworkMessage
import Styller.Tools.Sha1

/-! The checksum of the tools, and that it is Adler-32. -/

namespace Styller

open Library List

namespace Adler32

def base : Nat := 65521

/-- The two sums: one is the sum of the bytes, the other the sum of the values that the first one takes. -/
def update (sums : Nat × Nat) (byte : UInt8) : Nat × Nat :=
  let first := (sums.1 + byte.toNat) % base
  (first, (sums.2 + first) % base)

def value (data : Bytes) : Nat :=
  let sums := data.foldl update (1, 0)
  sums.2 * 65536 + sums.1

end Adler32

namespace Tools

/-- One round of the inner loop of `adlerChecksum`. -/
def adlerByte (sums : UInt32 × UInt32) (byte : UInt8) : UInt32 × UInt32 :=
  let a := sums.1 + byte.toUInt32
  (a, sums.2 + a)

/-- The outer loop of `adlerChecksum`. -/
def adlerLoop (sums : UInt32 × UInt32) (data : Bytes) : UInt32 × UInt32 :=
  if data = [] then sums
  else
    let added := (data.take 5552).foldl adlerByte sums
    adlerLoop (added.1 % 65521, added.2 % 65521) (data.drop 5552)
termination_by data.length
decreasing_by
  rename_i nonempty
  have long := length_pos_of_ne_nil nonempty
  rw [length_drop]
  omega

def adlerChecksum (data : Bytes) : UInt32 :=
  if data.length > networkMessageMaxSize then 0
  else
    let sums := adlerLoop (1, 0) data
    sums.2 <<< 16 ||| sums.1

def exactByte (sums : Nat × Nat) (byte : UInt8) : Nat × Nat := (sums.1 + byte.toNat, sums.2 + (sums.1 + byte.toNat))

/-- The natural numbers that two words stand for. -/
def numbers (sums : UInt32 × UInt32) : Nat × Nat := (sums.1.toNat, sums.2.toNat)

section
variable {sums : Nat × Nat} {data : Bytes}

/-- What the sums grow to: the second one by a triangle. -/
theorem exact_le (first : sums.1 < 65521) (second : sums.2 < 65521) (data : Bytes) :
    (data.foldl exactByte sums).1 ≤ 65520 + 255 * data.length ∧
      2 * (data.foldl exactByte sums).2 ≤ 131040 + 131040 * data.length + 255 * (data.length * (data.length + 1)) := by
  induction data using List.reverseRecOn with
  | nil => exact ⟨by simp only [foldl_nil]; omega, by simp only [foldl_nil]; omega⟩
  | append_singleton data byte ih =>
    have small := byte.toNat_lt
    obtain ⟨one, two⟩ := ih
    rw [foldl_append, foldl_cons, foldl_nil, length_append, length_singleton]
    have triangle : (data.length + 1) * (data.length + 1 + 1) = data.length * (data.length + 1) + 2 * data.length + 2 := by ring
    simp only [exactByte, triangle]
    omega

/-- In a chunk no sum runs over. -/
theorem exact_lt (first : sums.1 < 65521) (second : sums.2 < 65521) (short : data.length ≤ 5552) :
    (data.foldl exactByte sums).1 < 2 ^ 32 ∧ (data.foldl exactByte sums).2 < 2 ^ 32 := by
  obtain ⟨one, two⟩ := exact_le first second data
  have triangle : data.length * (data.length + 1) ≤ 5552 * 5553 := Nat.mul_le_mul short (Nat.succ_le_succ short)
  omega

theorem numbers_foldl {words : UInt32 × UInt32} (first : words.1.toNat < 65521) (second : words.2.toNat < 65521)
    (short : data.length ≤ 5552) : numbers (data.foldl adlerByte words) = data.foldl exactByte (numbers words) := by
  induction data using List.reverseRecOn with
  | nil => rfl
  | append_singleton data byte ih =>
    have bounds := @exact_lt (numbers words) _ first second short
    rw [length_append, length_singleton] at short
    have before := ih (Nat.le_of_succ_le short)
    rw [foldl_append, foldl_cons, foldl_nil] at bounds
    rw [foldl_append, foldl_append, foldl_cons, foldl_cons, foldl_nil, foldl_nil, ← before]
    rw [← before] at bounds
    generalize data.foldl adlerByte words = words at bounds
    obtain ⟨one, two⟩ := bounds
    simp only [exactByte, numbers] at one two
    simp only [exactByte, numbers, adlerByte, UInt32.toNat_add, UInt8.toNat_toUInt32, Nat.mod_eq_of_lt one,
      Nat.mod_eq_of_lt two]

/-- The remainders of the sums. -/
theorem exact_mod (data : Bytes) (sums : Nat × Nat) :
    ((data.foldl exactByte sums).1 % 65521, (data.foldl exactByte sums).2 % 65521) =
      data.foldl Adler32.update (sums.1 % 65521, sums.2 % 65521) := by
  induction data using List.reverseRecOn with
  | nil => rfl
  | append_singleton data byte ih =>
    rw [foldl_append, foldl_append, ← ih, foldl_cons, foldl_cons, foldl_nil, foldl_nil]
    simp only [exactByte, Adler32.update, Adler32.base, Nat.mod_add_mod, Nat.add_mod_mod]

/-- Sums that are reduced. -/
def Reduced (words : UInt32 × UInt32) : Prop := words.1.toNat < 65521 ∧ words.2.toNat < 65521

/-- A chunk and its reduction. -/
theorem numbers_chunk {words : UInt32 × UInt32} (reduced : Reduced words) (short : data.length ≤ 5552) :
    let added := data.foldl adlerByte words
    Reduced (added.1 % 65521, added.2 % 65521) ∧
      numbers (added.1 % 65521, added.2 % 65521) = data.foldl Adler32.update (numbers words) := by
  have exact_ := numbers_foldl reduced.1 reduced.2 short
  have rest := exact_mod data (numbers words)
  rw [← exact_, numbers] at rest
  simp only [numbers, Nat.mod_eq_of_lt reduced.1, Nat.mod_eq_of_lt reduced.2] at rest
  simp only [Reduced, numbers, UInt32.toNat_mod]
  exact ⟨⟨Nat.mod_lt _ (by decide), Nat.mod_lt _ (by decide)⟩, rest⟩

theorem numbers_adlerLoop {words : UInt32 × UInt32} (reduced : Reduced words) (data : Bytes) :
    Reduced (adlerLoop words data) ∧ numbers (adlerLoop words data) = data.foldl Adler32.update (numbers words) := by
  induction words, data using adlerLoop.induct with
  | case1 words =>
    rw [adlerLoop, if_pos rfl]
    exact ⟨reduced, rfl⟩
  | case2 words data nonempty added ih =>
    rw [adlerLoop, if_neg nonempty]
    obtain ⟨after, sums⟩ := numbers_chunk reduced (length_take_le 5552 data)
    obtain ⟨last, same⟩ := ih after
    refine ⟨last, same.trans ?_⟩
    rw [sums, ← foldl_append, take_append_drop]

/-- The loop goes on behind whole chunks. -/
theorem adlerLoop_append (words : UInt32 × UInt32) {done : Bytes} (whole : done.length % 5552 = 0) (rest : Bytes) :
    adlerLoop words (done ++ rest) = adlerLoop (adlerLoop words done) rest := by
  induction words, done using adlerLoop.induct with
  | case1 words => rw [adlerLoop.eq_def words [], if_pos rfl, nil_append]
  | case2 words done nonempty added ih =>
    have long : 5552 ≤ done.length := by
      have some := length_pos_of_ne_nil nonempty
      omega
    have more : done ++ rest ≠ [] := append_ne_nil_of_left_ne_nil nonempty rest
    rw [adlerLoop.eq_def words (done ++ rest), if_neg more, adlerLoop.eq_def words done, if_neg nonempty,
      take_append_of_le_length long, drop_append_of_le_length long]
    exact ih (by rw [length_drop]; omega)

theorem reduced_start : Reduced (1, 0) := ⟨by decide, by decide⟩

theorem toNat_adlerChecksum (within : data.length ≤ networkMessageMaxSize) : (adlerChecksum data).toNat = Adler32.value data := by
  obtain ⟨reduced, same⟩ := numbers_adlerLoop reduced_start data
  rw [adlerChecksum, if_neg (Nat.not_lt.mpr within), Adler32.value]
  change _ = (data.foldl Adler32.update (numbers (1, 0))).2 * 65536 + (data.foldl Adler32.update (numbers (1, 0))).1
  rw [← same]
  generalize adlerLoop (1, 0) data = words at reduced
  obtain ⟨one, two⟩ := reduced
  have shifted : (words.2 <<< 16).toNat = words.2.toNat <<< 16 := by
    have fits : words.2.toNat <<< 16 < 2 ^ 32 := by
      rw [Nat.shiftLeft_eq]
      omega
    exact (UInt32.toNat_shiftLeft words.2 16).trans (Nat.mod_eq_of_lt fits)
  simp only [numbers]
  rw [UInt32.toNat_or, shifted, ← Nat.shiftLeft_add_eq_or_of_lt (Nat.lt_trans one (by decide)), Nat.shiftLeft_eq]

end

/-- The hash is SHA-1 in hexadecimal digits, whatever its arrays held; and the checksum is Adler-32 for what fits in a message: in
every chunk the sums are those of the natural numbers, from what the chunks before left. -/
theorem hashes_standard (messageBlock hexstring : Memory) (input : Bytes) :
    transformToSHA1 messageBlock hexstring input = hex (Sha1.digest input) ∧
    (input.length ≤ networkMessageMaxSize →
      (adlerChecksum input).toNat = Adler32.value input ∧
      ∀ done part rest : Bytes, input = done ++ (part ++ rest) → done.length % 5552 = 0 → part.length ≤ 5552 →
        let words := adlerLoop (1, 0) done
        adlerLoop (1, 0) input = adlerLoop words (part ++ rest) ∧
          numbers (part.foldl adlerByte words) = part.foldl exactByte (numbers words)) := by
  refine ⟨transformToSHA1_eq messageBlock hexstring input, fun within => ⟨toNat_adlerChecksum within, ?_⟩⟩
  intro done part rest split whole short
  have reduced := (numbers_adlerLoop reduced_start done).1
  exact ⟨split ▸ adlerLoop_append (1, 0) whole (part ++ rest), numbers_foldl reduced.1 reduced.2 short⟩

example : Adler32.value [87, 105, 107, 105] = 0x03DA0195 := by decide

end Tools

end Styller
