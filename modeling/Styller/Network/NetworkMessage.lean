import Styller.Library.Memory

/-! Messages of the network: what is read from them, and what is added to them. -/

namespace Styller

open Library

def networkMessageMaxSize : Nat := 24590

/-- A message. Its buffer is the memory from the first byte of the array on, the bytes after the
array included. -/
structure NetworkMessage where
  buffer : Memory
  length : Nat := 0
  position : Nat := 8
  overrun : Bool := false

namespace NetworkMessage

/-- `HEADER_LENGTH`, `CHECKSUM_LENGTH` and `XTEA_MULTIPLE`. -/
def headerLength : Nat := 2
def checksumLength : Nat := 4
def xteaMultiple : Nat := 8

def initialBufferPosition : Nat := 8
def maxBodyLength : Nat := networkMessageMaxSize - headerLength - checksumLength - xteaMultiple
def maxProtocolBodyLength : Nat := maxBodyLength - 10

/-- `canRead`, which remembers that it refused. -/
def canRead (msg : NetworkMessage) (size : Nat) : Bool × NetworkMessage :=
  if msg.position + size > msg.length + 8 ∨ (size : Int) ≥ (networkMessageMaxSize : Int) - msg.position then
    (false, { msg with overrun := true })
  else (true, msg)

def getByte (msg : NetworkMessage) : UInt8 × NetworkMessage :=
  match msg.canRead 1 with
  | (true, msg) => (msg.buffer msg.position, { msg with position := (msg.position + 1) % 2 ^ 16 })
  | (false, msg) => (0, msg)

/-- `get` of a type, by the bytes of the value. A refused one is zero. -/
def get (msg : NetworkMessage) (size : Nat) : Bytes × NetworkMessage :=
  match msg.canRead size with
  | (true, msg) => (msg.buffer.slice msg.position size, { msg with position := (msg.position + size) % 2 ^ 16 })
  | (false, msg) => (List.replicate size 0, msg)

/-- `get<uint16_t>`. -/
def getU16 (msg : NetworkMessage) : Nat × NetworkMessage :=
  match msg.get 2 with
  | (bytes, msg) => (ofLowFirst bytes, msg)

/-- The string of a length, in `getString`. -/
def takeString (msg : NetworkMessage) (stringLen : Nat) : Bytes × NetworkMessage :=
  match msg.canRead stringLen with
  | (true, msg) => (msg.buffer.slice msg.position stringLen, { msg with position := (msg.position + stringLen) % 2 ^ 16 })
  | (false, msg) => ([], msg)

/-- `getString`; a length of zero is read from the message. -/
def getString (msg : NetworkMessage) (stringLen : Nat) : Bytes × NetworkMessage :=
  if stringLen = 0 then msg.getU16.2.takeString msg.getU16.1 else msg.takeString stringLen

def getPosition (msg : NetworkMessage) : (Nat × Nat × UInt8) × NetworkMessage :=
  let (x, msg) := msg.getU16
  let (y, msg) := msg.getU16
  let (z, msg) := msg.getByte
  ((x, y, z), msg)

def skipBytes (msg : NetworkMessage) (count : Int) : NetworkMessage :=
  { msg with position := ((msg.position + count) % 2 ^ 16).toNat }

def getLengthHeader (msg : NetworkMessage) : Nat := ofLowFirst (msg.buffer.slice 0 headerLength)

def copy (buffer : Memory) (start : Nat) (bytes : Bytes) : Option Memory :=
  if start + bytes.length ≤ networkMessageMaxSize then some (buffer.store start bytes) else none

def canAdd (msg : NetworkMessage) (size : Nat) : Bool := size + msg.position < maxBodyLength

/-- Bytes that are copied to the position of the message, with what is counted of them. -/
def put (msg : NetworkMessage) (bytes : Bytes) : Option NetworkMessage :=
  (copy msg.buffer msg.position bytes).map fun buffer =>
    { msg with buffer, position := (msg.position + bytes.length) % 2 ^ 16, length := (msg.length + bytes.length) % 2 ^ 16 }

/-- `addByte`, and `add` of a value with these bytes. -/
def add (msg : NetworkMessage) (bytes : Bytes) : Option NetworkMessage :=
  if msg.canAdd bytes.length then msg.put bytes else some msg

def addByte (msg : NetworkMessage) (value : UInt8) : Option NetworkMessage := msg.add [value]

def addBytes (msg : NetworkMessage) (bytes : Bytes) : Option NetworkMessage :=
  if ¬ msg.canAdd bytes.length ∨ bytes.length > 8192 then some msg else msg.put bytes

/-- `addPaddingBytes`, which counts the bytes and does not go past them. -/
def addPaddingBytes (msg : NetworkMessage) (n : Nat) : Option NetworkMessage :=
  if msg.canAdd n then
    (copy msg.buffer msg.position (List.replicate n 0x33)).map fun buffer =>
      { msg with buffer, length := (msg.length + n) % 2 ^ 16 }
  else some msg

def addString (msg : NetworkMessage) (value : Bytes) : Option NetworkMessage :=
  if ¬ msg.canAdd (value.length + 2) ∨ value.length > 8192 then some msg
  else do
    let msg ← msg.add (write (UInt16.ofNat value.length))
    msg.put value

def addPosition (msg : NetworkMessage) (x y : UInt16) (z : UInt8) : Option NetworkMessage := do
  let msg ← msg.add (write x)
  let msg ← msg.add (write y)
  msg.addByte z

end NetworkMessage

end Styller
