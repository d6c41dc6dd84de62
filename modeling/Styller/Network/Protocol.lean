import Styller.Network.NetworkMessage
import Styller.Network.Xtea

/-! How a protocol frames the messages that it sends, and takes the frames that it receives. -/

namespace Styller

open Library

/-- The sums of `adlerChecksum` over the bytes, which are reduced after every 5552 of them. -/
def adlerSums (a b : UInt32) (data : Bytes) : UInt32 × UInt32 :=
  if data = [] then (a, b)
  else
    let sums := (data.take 5552).foldl (fun sums byte => (sums.1 + byte.toUInt32, sums.2 + (sums.1 + byte.toUInt32))) (a, b)
    adlerSums (sums.1 % 65521) (sums.2 % 65521) (data.drop 5552)
termination_by data.length
decreasing_by
  have some := List.length_pos_iff.mpr ‹data ≠ []›
  rw [List.length_drop]
  omega

def adlerChecksum (data : Bytes) : UInt32 :=
  if data.length > networkMessageMaxSize then 0
  else
    let sums := adlerSums 1 0 data
    sums.2 <<< 16 ||| sums.1

structure OutputMessage extends NetworkMessage where
  outputBufferStart : Nat := 8

namespace OutputMessage

def output (msg : OutputMessage) : Bytes := msg.buffer.slice msg.outputBufferStart msg.length

/-- `add_header` of a value with these bytes; the assertion fails when there is no room for it. -/
def addHeader (msg : OutputMessage) (bytes : Bytes) : Option OutputMessage :=
  if msg.outputBufferStart ≥ bytes.length then
    let outputBufferStart := msg.outputBufferStart - bytes.length
    (NetworkMessage.copy msg.buffer outputBufferStart bytes).map fun buffer =>
      { msg with buffer, outputBufferStart, length := (msg.length + bytes.length) % 2 ^ 16 }
  else none

def writeMessageLength (msg : OutputMessage) : Option OutputMessage := msg.addHeader (write (UInt16.ofNat msg.length))

def addCryptoHeader (msg : OutputMessage) (addChecksum : Bool) : Option OutputMessage := do
  let msg ← if addChecksum then msg.addHeader (write (adlerChecksum msg.output)) else pure msg
  msg.writeMessageLength

def append (msg : OutputMessage) (other : NetworkMessage) : Option OutputMessage :=
  (NetworkMessage.copy msg.buffer msg.position (other.buffer.slice 8 other.length)).map fun buffer =>
    { msg with buffer, length := (msg.length + other.length) % 2 ^ 16, position := (msg.position + other.length) % 2 ^ 16 }

end OutputMessage

/-- The padding of `XTEA_encrypt`. -/
def xteaPadding (msg : OutputMessage) : Option OutputMessage :=
  let paddingBytes := msg.length % 8
  if paddingBytes ≠ 0 then
    (msg.toNetworkMessage.addPaddingBytes (8 - paddingBytes)).map fun padded => { msg with toNetworkMessage := padded }
  else some msg

/-- `XTEA_encrypt`, which works on whole blocks of the buffer. -/
def xteaEncrypt (msg : OutputMessage) (key : Xtea.RoundKeys) : Option OutputMessage := do
  let msg ← xteaPadding msg
  let data := msg.buffer.slice msg.outputBufferStart (8 * Xtea.blocks msg.length)
  let buffer ← NetworkMessage.copy msg.buffer msg.outputBufferStart (Xtea.encrypt key data)
  pure { msg with buffer }

def decryptRest (msg : NetworkMessage) (key : Xtea.RoundKeys) : NetworkMessage :=
  { msg with
    buffer := msg.buffer.store msg.position
      (Xtea.decrypt key (msg.buffer.slice msg.position (8 * Xtea.blocks (msg.length - 6)))) }

/-- The message with the length that is read from it, if the frame can be so long. -/
def takeInner (msg : NetworkMessage) : Option NetworkMessage :=
  if msg.getU16.1 + 8 > msg.getU16.2.length then none else some { msg.getU16.2 with length := msg.getU16.1 }

/-- `XTEA_decrypt`: the message when the frame is accepted. -/
def xteaDecrypt (msg : NetworkMessage) (key : Xtea.RoundKeys) : Option NetworkMessage :=
  if ((msg.length : Int) - 6) % 8 ≠ 0 then none else takeInner (decryptRest msg key)

structure Protocol where
  key : Xtea.RoundKeys
  encryptionEnabled : Bool := false
  checksumEnabled : Bool := true
  rawMessages : Bool := false

namespace Protocol

def onSendMessage (protocol : Protocol) (msg : OutputMessage) : Option OutputMessage :=
  if protocol.rawMessages then some msg
  else do
    let msg ← msg.writeMessageLength
    if protocol.encryptionEnabled then do
      let msg ← xteaEncrypt msg protocol.key
      msg.addCryptoHeader protocol.checksumEnabled
    else pure msg

/-- `Protocol::onRecvMessage`: the message that `parsePacket` of the protocol is given. -/
def onRecvMessage (protocol : Protocol) (msg : NetworkMessage) : Option NetworkMessage :=
  if protocol.encryptionEnabled then xteaDecrypt msg protocol.key else some msg

end Protocol

namespace Connection

/-- What `Connection::accept` and `parsePacket` read of the next packet. -/
def readHeader (msg : NetworkMessage) (stream : Bytes) : NetworkMessage :=
  { msg with buffer := msg.buffer.store 0 (stream.take NetworkMessage.headerLength) }

/-- `Connection::parseHeader` of an open connection that has not sent too many packets: the message
and the number of bytes to read, or nothing when the connection is closed. -/
def parseHeader (msg : NetworkMessage) : Option (NetworkMessage × Nat) :=
  let size := msg.getLengthHeader
  if size = 0 ∨ (size : Int) ≥ (networkMessageMaxSize : Int) - 16 then none
  else some ({ msg with length := (size + NetworkMessage.headerLength) % 2 ^ 16, position := 2 }, size)

/-- The content of the packet, as `parseHeader` reads it. -/
def readContent (msg : NetworkMessage) (content : Bytes) : NetworkMessage :=
  { msg with buffer := msg.buffer.store NetworkMessage.headerLength content }

/-- The checksum of what follows the checksum, in `parsePacket`. -/
def checksum (msg : NetworkMessage) : UInt32 :=
  let len := (msg.length : Int) - msg.position - NetworkMessage.checksumLength
  if len > 0 then adlerChecksum (msg.buffer.slice (msg.position + NetworkMessage.checksumLength) len.toNat) else 0

/-- `Connection::parsePacket` after the first message: the message that the protocol receives. -/
def parsePacket (msg : NetworkMessage) : NetworkMessage :=
  if (msg.get 4).1 ≠ write (checksum msg) then (msg.get 4).2.skipBytes (-NetworkMessage.checksumLength) else (msg.get 4).2

/-- A packet that comes in on a connection: the message that the protocol receives. A connection
whose header is refused or that ends before the packet does is closed. -/
def receive (msg : NetworkMessage) (stream : Bytes) : Option NetworkMessage :=
  if stream.length < NetworkMessage.headerLength then none
  else do
    let (msg, size) ← parseHeader (readHeader msg stream)
    let content := (stream.drop NetworkMessage.headerLength).take size
    if content.length < size then none else some (parsePacket (readContent msg content))

end Connection

end Styller
