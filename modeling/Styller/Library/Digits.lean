import Mathlib.Data.List.Induction
import Styller.Library.Stream

/-! Numbers written with a fixed count of digits, the highest first, and the bytes of numbers in that order. -/

namespace Styller.Library

open List

/-- The last digits of a number in a base, the highest of them first. -/
def digits (base : Nat) : Nat → Nat → List Nat
  | 0, _ => []
  | count + 1, number => digits base count (number / base) ++ [number % base]

/-- The number that digits stand for. -/
def ofDigits (base : Nat) (listed : List Nat) : Nat := listed.foldl (fun number digit => number * base + digit) 0

section
variable {base count number digit : Nat} {listed : List Nat}

@[simp] theorem length_digits (base count number : Nat) : (digits base count number).length = count := by
  induction count generalizing number with
  | zero => rfl
  | succ count ih => rw [digits, length_append, ih, length_singleton]

theorem ofDigits_append (base : Nat) (listed : List Nat) (digit : Nat) :
    ofDigits base (listed ++ [digit]) = ofDigits base listed * base + digit := by
  rw [ofDigits, foldl_append, foldl_cons, foldl_nil, ofDigits]

theorem mem_digits_lt (wide : 0 < base) (member : digit ∈ digits base count number) : digit < base := by
  induction count generalizing number with
  | zero => cases member
  | succ count ih =>
    rcases mem_append.mp member with before | last
    · exact ih before
    · rw [mem_singleton.mp last]
      exact Nat.mod_lt number wide

theorem ofDigits_digits (base count number : Nat) : ofDigits base (digits base count number) = number % base ^ count := by
  induction count generalizing number with
  | zero => exact (Nat.mod_one number).symm
  | succ count ih =>
    rw [digits, ofDigits_append, ih, Nat.pow_succ, Nat.mul_comm (base ^ count) base, Nat.mod_mul, Nat.mul_comm base]
    exact Nat.add_comm ..

theorem digits_ofDigits (below : ∀ digit ∈ listed, digit < base) : digits base listed.length (ofDigits base listed) = listed := by
  induction listed using List.reverseRecOn with
  | nil => rfl
  | append_singleton listed digit ih =>
    have last := below digit (mem_append_right _ mem_cons_self)
    have before := ih fun other member => below other (mem_append_left _ member)
    have quotient : (ofDigits base listed * base + digit) / base = ofDigits base listed := by
      rw [Nat.mul_comm, Nat.mul_add_div (Nat.zero_lt_of_lt last), Nat.div_eq_of_lt last, Nat.add_zero]
    have remainder : (ofDigits base listed * base + digit) % base = digit := by
      rw [Nat.mul_comm, Nat.mul_add_mod, Nat.mod_eq_of_lt last]
    rw [ofDigits_append, length_append, length_singleton, digits, quotient, remainder, before]

theorem digits_zero (base count : Nat) : digits base count 0 = List.replicate count 0 := by
  induction count with
  | zero => rfl
  | succ count ih => rw [digits, Nat.zero_div, ih, Nat.zero_mod, replicate_succ']

theorem digits_mod (base count number : Nat) : digits base count (number % base ^ count) = digits base count number := by
  induction count generalizing number with
  | zero => rfl
  | succ count ih =>
    have quotient : number % base ^ (count + 1) / base = number / base % base ^ count := by
      rw [Nat.pow_succ, Nat.mul_comm, Nat.mod_mul_right_div_self]
    have remainder : number % base ^ (count + 1) % base = number % base :=
      Nat.mod_mod_of_dvd number (Nat.dvd_mul_left base (base ^ count))
    rw [digits, quotient, remainder, ih, digits]

/-- The first digits and the last ones. -/
theorem digits_add (base first second number : Nat) :
    digits base (first + second) number = digits base first (number / base ^ second) ++ digits base second number := by
  induction second generalizing number with
  | zero => rw [Nat.pow_zero, Nat.div_one, digits, append_nil, Nat.add_zero]
  | succ second ih =>
    rw [← Nat.add_assoc, digits, ih, digits, Nat.div_div_eq_div_mul, ← Nat.pow_succ', append_assoc]

theorem ofDigits_lt (below : ∀ digit ∈ listed, digit < base) : ofDigits base listed < base ^ listed.length := by
  induction listed using List.reverseRecOn with
  | nil => exact Nat.one_pos
  | append_singleton listed digit ih =>
    have last := below digit (mem_append_right _ mem_cons_self)
    have before := ih fun other member => below other (mem_append_left _ member)
    rw [ofDigits_append, length_append, length_singleton, Nat.pow_succ]
    calc ofDigits base listed * base + digit < ofDigits base listed * base + base := Nat.add_lt_add_left last _
      _ = (ofDigits base listed + 1) * base := (Nat.succ_mul _ _).symm
      _ ≤ base ^ listed.length * base := Nat.mul_le_mul_right base before

end

/-- The bytes of a number, the highest first. -/
def highFirst (size number : Nat) : Bytes := (digits 256 size number).map UInt8.ofNat

/-- The number that bytes stand for, the highest first. -/
def ofHighFirst (bytes : Bytes) : Nat := ofDigits 256 (bytes.map UInt8.toNat)

@[simp] theorem length_highFirst (size number : Nat) : (highFirst size number).length = size := by
  rw [highFirst, length_map, length_digits]

theorem ofHighFirst_append (bytes : Bytes) (byte : UInt8) : ofHighFirst (bytes ++ [byte]) = ofHighFirst bytes * 256 + byte.toNat := by
  rw [ofHighFirst, map_append, map_singleton, ofDigits_append, ofHighFirst]

theorem byte_lt_of_mem {bytes : Bytes} {digit : Nat} (member : digit ∈ bytes.map UInt8.toNat) : digit < 256 := by
  obtain ⟨byte, _, rfl⟩ := mem_map.mp member
  exact byte.toNat_lt

theorem ofHighFirst_lt (bytes : Bytes) : ofHighFirst bytes < 256 ^ bytes.length := by
  have less := ofDigits_lt fun digit (member : digit ∈ bytes.map UInt8.toNat) => byte_lt_of_mem member
  rwa [length_map] at less

theorem highFirst_ofHighFirst (bytes : Bytes) : highFirst bytes.length (ofHighFirst bytes) = bytes := by
  have listed := digits_ofDigits fun digit (member : digit ∈ bytes.map UInt8.toNat) => byte_lt_of_mem member
  rw [length_map] at listed
  rw [highFirst, ofHighFirst, listed, map_map]
  calc bytes.map (UInt8.ofNat ∘ UInt8.toNat) = bytes.map id := map_congr_left fun byte _ => UInt8.ofNat_toNat
    _ = bytes := map_id bytes

end Styller.Library
