import Styller.Library.Stream

/-! The block cipher of the protocol. -/

namespace Styller.Xtea

open Library

/-- `xtea::round_keys`. -/
abbrev RoundKeys := Vector UInt32 64

/-- `xtea::expand_key`. -/
def expandKey (k : Vector UInt32 4) : RoundKeys := Vector.ofFn fun i =>
  let sum := 0x9E3779B9 * UInt32.ofNat (i.val / 2)
  let nextSum := sum + 0x9E3779B9
  if i.val % 2 = 0 then sum + k[(sum &&& 3).toNat % 4] else nextSum + k[(nextSum >>> 11 &&& 3).toNat % 4]

def mix (half : UInt32) : UInt32 := (half <<< 4 ^^^ half >>> 5) + half

/-- One round of `xtea::encrypt` on a block, with its two keys. -/
def encryptBlock (first second : UInt32) (block : UInt32 × UInt32) : UInt32 × UInt32 :=
  let left := block.1 + (mix block.2 ^^^ first)
  let right := block.2 + (mix left ^^^ second)
  (left, right)

/-- One round of `xtea::decrypt` on a block. -/
def decryptBlock (first second : UInt32) (block : UInt32 × UInt32) : UInt32 × UInt32 :=
  let right := block.2 - (mix block.1 ^^^ second)
  let left := block.1 - (mix right ^^^ first)
  (left, right)

theorem decryptBlock_encryptBlock (first second : UInt32) (block : UInt32 × UInt32) :
    decryptBlock first second (encryptBlock first second block) = block := by
  simp only [decryptBlock, encryptBlock, UInt32.add_sub_cancel]

theorem encryptBlock_decryptBlock (first second : UInt32) (block : UInt32 × UInt32) :
    encryptBlock first second (decryptBlock first second block) = block := by
  simp only [decryptBlock, encryptBlock, UInt32.sub_add_cancel]

theorem bytes_value_block {data : Bytes} (whole : data.length = 8) :
    Raw.bytes (Raw.value data : UInt32 × UInt32) = data := by
  have half : ∀ bytes : Bytes, bytes.length = 4 → Raw.bytes (Raw.value bytes : UInt32) = bytes := by
    intro bytes size
    have small := ofLowFirst_lt bytes
    rw [size] at small
    change lowFirst 4 (UInt32.ofNat (ofLowFirst bytes)).toNat = bytes
    have kept : ofLowFirst bytes % 2 ^ 32 = ofLowFirst bytes := Nat.mod_eq_of_lt small
    rw [UInt32.toNat_ofNat', kept, ← size, lowFirst_ofLowFirst]
  change Raw.bytes (Raw.value (data.take 4) : UInt32) ++ Raw.bytes (Raw.value (data.drop 4) : UInt32) = data
  rw [half _ (by rw [List.length_take, whole]; rfl), half _ (by rw [List.length_drop, whole]), List.take_append_drop]

/-- The blocks that a loop over so many bytes takes: the last one is taken whole. -/
def blocks (length : Nat) : Nat := (length + 7) / 8

/-- A loop over the data, which takes a block of eight bytes after another. -/
def eachBlock (change : UInt32 × UInt32 → UInt32 × UInt32) : Nat → Bytes → Bytes
  | 0, data => data
  | count + 1, data => Raw.bytes (change (Raw.value (data.take 8))) ++ eachBlock change count (data.drop 8)

section

variable {change back : UInt32 × UInt32 → UInt32 × UInt32} {count : Nat} {data : Bytes}

theorem length_eachBlock (whole : data.length = 8 * count) : (eachBlock change count data).length = 8 * count := by
  induction count generalizing data with
  | zero => exact whole
  | succ count ih =>
    have rest : (data.drop 8).length = 8 * count := by rw [List.length_drop, whole]; omega
    have size : (Raw.bytes (change (Raw.value (data.take 8)))).length = 8 := Raw.length_bytes _
    rw [eachBlock, List.length_append, size, ih rest]
    omega

theorem length_eachBlock_div (whole : data.length = 8 * count) :
    (eachBlock change (data.length / 8) data).length = 8 * count := by
  rw [whole, Nat.mul_div_cancel_left _ (by decide), length_eachBlock whole]

theorem eachBlock_eachBlock (undo : ∀ block, back (change block) = block) (whole : data.length = 8 * count) :
    eachBlock back count (eachBlock change count data) = data := by
  induction count generalizing data with
  | zero => rfl
  | succ count ih =>
    have rest : (data.drop 8).length = 8 * count := by rw [List.length_drop, whole]; omega
    have first : (data.take 8).length = 8 := by rw [List.length_take, whole]; omega
    have size : (Raw.bytes (change (Raw.value (data.take 8)))).length = 8 := Raw.length_bytes _
    rw [eachBlock, eachBlock, List.take_left' size, List.drop_left' size, Raw.value_bytes, undo, bytes_value_block first,
      ih rest, List.take_append_drop]

end

/-- `xtea::encrypt` on data of whole blocks. -/
def encrypt (k : RoundKeys) (data : Bytes) : Bytes :=
  (List.finRange 32).foldl (fun data i => eachBlock (encryptBlock k[2 * i.val] k[2 * i.val + 1]) (data.length / 8) data) data

/-- `xtea::decrypt` on data of whole blocks. -/
def decrypt (k : RoundKeys) (data : Bytes) : Bytes :=
  (List.finRange 32).reverse.foldl
    (fun data i => eachBlock (decryptBlock k[2 * i.val] k[2 * i.val + 1]) (data.length / 8) data) data

/-- Steps that are undone in the opposite order leave what was there. -/
theorem foldl_reverse_foldl {α β : Type} {there back : β → α → β} (kept : β → Prop) (steps : List α) {start : β}
    (keeps : ∀ value step, kept value → kept (there value step))
    (undo : ∀ value step, kept value → back (there value step) step = value)
    (first : kept start) : steps.reverse.foldl back (steps.foldl there start) = start := by
  induction steps generalizing start with
  | nil => rfl
  | cons step later ih =>
    rw [List.foldl_cons, List.reverse_cons, List.foldl_append, ih (keeps _ _ first), List.foldl_cons, List.foldl_nil,
      undo _ _ first]

variable {data : Bytes} (k : RoundKeys) {count : Nat}

theorem length_encrypt (whole : data.length = 8 * count) : (encrypt k data).length = 8 * count := by
  refine List.foldlRecOn (motive := fun data : Bytes => data.length = 8 * count) _ _ whole ?_
  intro data whole i _
  rw [length_eachBlock_div whole]

theorem round_undone {change back : UInt32 × UInt32 → UInt32 × UInt32} (undo : ∀ block, back (change block) = block)
    (whole : data.length = 8 * count) :
    eachBlock back ((eachBlock change (data.length / 8) data).length / 8) (eachBlock change (data.length / 8) data) = data := by
  have size : data.length / 8 = count := by rw [whole, Nat.mul_div_cancel_left _ (by decide)]
  rw [size, length_eachBlock whole, Nat.mul_div_cancel_left _ (by decide)]
  exact eachBlock_eachBlock undo whole

/-- Decryption gives back the data. -/
theorem decrypt_encrypt (whole : data.length = 8 * count) : decrypt k (encrypt k data) = data := by
  apply foldl_reverse_foldl (fun data : Bytes => data.length = 8 * count) _ ?_ ?_ whole
  · intro data i whole
    exact length_eachBlock_div whole
  · intro data i whole
    exact round_undone (decryptBlock_encryptBlock _ _) whole

/-- So does encryption after decryption, which takes the rounds in the opposite order. -/
theorem encrypt_decrypt (whole : data.length = 8 * count) : encrypt k (decrypt k data) = data := by
  have order : List.finRange 32 = (List.finRange 32).reverse.reverse := (List.reverse_reverse _).symm
  rw [encrypt, order, decrypt]
  apply foldl_reverse_foldl (fun data : Bytes => data.length = 8 * count) _ ?_ ?_ whole
  · intro data i whole
    exact length_eachBlock_div whole
  · intro data i whole
    exact round_undone (encryptBlock_decryptBlock _ _) whole

/-- With the expanded key, each direction undoes the other on data of whole blocks. -/
theorem mutually_inverse (key : Vector UInt32 4) {data : Bytes} (whole : 8 ∣ data.length) :
    decrypt (expandKey key) (encrypt (expandKey key) data) = data ∧
      encrypt (expandKey key) (decrypt (expandKey key) data) = data := by
  obtain ⟨count, size⟩ := whole
  constructor
  · exact decrypt_encrypt _ size
  · exact encrypt_decrypt _ size

/-- The message of the tests. -/
theorem mutually_inverse_block :
    let keys := expandKey #v[0xdeadbeef, 0xdeadbeef, 0xdeadbeef, 0xdeadbeef]
    decrypt keys (encrypt keys [0xef, 0xbe, 0xad, 0xde, 0xef, 0xbe, 0xad, 0xde]) =
        [0xef, 0xbe, 0xad, 0xde, 0xef, 0xbe, 0xad, 0xde] ∧
      encrypt keys (decrypt keys [0xef, 0xbe, 0xad, 0xde, 0xef, 0xbe, 0xad, 0xde]) =
        [0xef, 0xbe, 0xad, 0xde, 0xef, 0xbe, 0xad, 0xde] :=
  mutually_inverse _ (by decide)

example : encrypt (expandKey #v[0xdeadbeef, 0xdeadbeef, 0xdeadbeef, 0xdeadbeef])
    [0xef, 0xbe, 0xad, 0xde, 0xef, 0xbe, 0xad, 0xde] = [0xb5, 0x8c, 0xf2, 0xfa, 0xe0, 0xc0, 0x40, 0x09] := by
  decide +kernel

end Styller.Xtea
