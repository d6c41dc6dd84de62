import Styller.Library.Sha1

/-! One-time passwords: message authentication with a hash, the passwords of a counter, and secrets in base 32. -/

namespace Styller.Library

/-- The keyed hash, for a hash with blocks of 64 bytes. -/
def hmac (hash : Bytes → Bytes) (key message : Bytes) : Bytes :=
  let key := if key.length > 64 then hash key else key
  let padded := key ++ List.replicate (64 - key.length) 0
  hash (padded.map (· ^^^ 0x5C) ++ hash (padded.map (· ^^^ 0x36) ++ message))

/-- The 31 bits of a digest from the place that the last four bits of it tell. -/
def dynamicTruncation (digest : Bytes) : Nat :=
  let offset := (digest.getLastD 0).toNat % 16
  ofHighFirst ((digest.drop offset).take 4) % 2 ^ 31

/-- The password of a counter: the last digits of the truncated keyed hash. -/
def hotp (key : Bytes) (counter count : Nat) : List Nat :=
  digits 10 count (dynamicTruncation (hmac Sha1.digest key (highFirst 8 counter)) % 10 ^ count)

namespace Base32

/-- The alphabet: the capital letters and the digits from 2 to 7. -/
def letter (value : Nat) : UInt8 := if value < 26 then UInt8.ofNat (65 + value) else UInt8.ofNat (24 + value)

/-- How many zero bits fill up the last letter. -/
def fill (count : Nat) : Nat := (5 - 8 * count % 5) % 5

/-- The bits of the bytes in pieces of five, without padding. -/
def encode (bytes : Bytes) : Bytes :=
  (digits 32 ((8 * bytes.length + 4) / 5) (ofHighFirst bytes * 2 ^ fill bytes.length)).map letter

example : encode [102, 111, 111, 98, 97] = [77, 90, 88, 87, 54, 89, 84, 66] := by decide

end Base32

end Styller.Library
