import Styller.Network.Frame

/-! The packets of a connection, one after the other. -/

namespace Styller

open List Library Memory

/-- What `Connection::internalSend` writes of messages that are sent one after the other. -/
def Protocol.outputs (protocol : Protocol) : List OutputMessage → Option Bytes
  | [] => some []
  | msg :: msgs => do
    let sent ← protocol.onSendMessage msg
    let later ← protocol.outputs msgs
    return sent.output ++ later

/-- What is read of the next packet, by its header. -/
def Connection.packetSize (msg : NetworkMessage) (stream : Bytes) : Nat :=
  ((parseHeader (readHeader msg stream)).map fun header => NetworkMessage.headerLength + header.2).getD 0

/-- The bodies that the protocol parses of what comes in, all in the one message of the connection, until it is closed; at most `limit` of
them. -/
def Protocol.bodies (protocol : Protocol) : Nat → NetworkMessage → Bytes → List Bytes
  | 0, _, _ => []
  | limit + 1, msg, stream =>
    let size := Connection.packetSize msg stream
    match (Connection.receive msg (stream.take size)).bind protocol.onRecvMessage with
    | none => []
    | some opened =>
      opened.buffer.slice opened.position opened.length :: protocol.bodies limit opened (stream.drop size)

end Styller
