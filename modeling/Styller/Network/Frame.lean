import Styller.Network.Protocol

/-! The frames of messages, from `onSendMessage` to `onRecvMessage`. -/

namespace Styller

open Library Memory List Option

def padding (size : Nat) : Bytes := List.replicate ((8 - size % 8) % 8) 0x33

def payload (body : Bytes) : Bytes := write (UInt16.ofNat body.length) ++ body ++ padding (body.length + 2)

def framed (encrypted : Bytes) : Bytes :=
  write (UInt16.ofNat (encrypted.length + 4)) ++ (write (adlerChecksum encrypted) ++ encrypted)

theorem length_payload (body : Bytes) : ∃ count, (payload body).length = 8 * count ∧ body.length + 2 ≤ 8 * count ∧
    8 * count < body.length + 10 := by
  have size : (payload body).length = 2 + body.length + (8 - (body.length + 2) % 8) % 8 := by
    rw [payload, length_append, length_append, padding, length_replicate]
    rfl
  refine ⟨(payload body).length / 8, ?_⟩
  omega

section

variable {msg : OutputMessage}

/-- A header goes in front of what is sent. -/
theorem addHeader_output (msg : OutputMessage) (bytes : Bytes) (room : bytes.length ≤ msg.outputBufferStart)
    (start : msg.outputBufferStart ≤ networkMessageMaxSize)
    (short : msg.length + bytes.length < 2 ^ 16) : ∃ sent, msg.addHeader bytes = some sent ∧
      sent.output = bytes ++ msg.output ∧ sent.length = msg.length + bytes.length ∧
      sent.outputBufferStart = msg.outputBufferStart - bytes.length ∧ sent.position = msg.position := by
  have back : msg.outputBufferStart - bytes.length + bytes.length = msg.outputBufferStart := Nat.sub_add_cancel room
  have added : msg.addHeader bytes = some { msg with
      buffer := msg.buffer.store (msg.outputBufferStart - bytes.length) bytes
      outputBufferStart := msg.outputBufferStart - bytes.length
      length := msg.length + bytes.length } := by
    rw [OutputMessage.addHeader, if_pos room]
    simp only [NetworkMessage.copy]
    rw [if_pos (Nat.le_trans (Nat.le_of_eq back) start), map_some, Nat.mod_eq_of_lt short]
  refine ⟨_, added, ?_, rfl, rfl, rfl⟩
  change slice _ _ (msg.length + bytes.length) = _
  rw [Nat.add_comm, slice_append, slice_store_self, back, slice_store_apart (.inr (Nat.le_of_eq back))]
  rfl

/-- The padding goes behind it, if there is room. -/
theorem xteaPadding_output (together : msg.position = msg.outputBufferStart + msg.length)
    (room : msg.length % 8 = 0 ∨ msg.position + (8 - msg.length % 8) < NetworkMessage.maxBodyLength) :
    ∃ padded, xteaPadding msg = some padded ∧ padded.output = msg.output ++ padding msg.length ∧
      padded.length = msg.length + (8 - msg.length % 8) % 8 ∧ padded.outputBufferStart = msg.outputBufferStart := by
  by_cases whole : msg.length % 8 = 0
  · refine ⟨msg, ?_, ?_, ?_, rfl⟩
    · rw [xteaPadding, if_neg (not_not.mpr whole)]
    · rw [padding, whole]
      exact (append_nil _).symm
    · rw [whole]
      rfl
  · have small : (8 - msg.length % 8) % 8 = 8 - msg.length % 8 := by omega
    have count : (List.replicate (8 - msg.length % 8) (0x33 : UInt8)).length = 8 - msg.length % 8 := length_replicate
    have limit : NetworkMessage.maxBodyLength = 24576 := rfl
    have maxSize : networkMessageMaxSize = 24590 := rfl
    have room := room.resolve_left whole
    rw [small]
    have wide : msg.length + (8 - msg.length % 8) < 2 ^ 16 := by omega
    have can : msg.toNetworkMessage.canAdd (8 - msg.length % 8) = true := decide_eq_true (by omega)
    have fits : msg.position + (List.replicate (8 - msg.length % 8) (0x33 : UInt8)).length ≤ networkMessageMaxSize := by
      rw [count, maxSize]
      omega
    have added : xteaPadding msg = some { msg with
        buffer := msg.buffer.store msg.position (List.replicate (8 - msg.length % 8) 0x33)
        length := msg.length + (8 - msg.length % 8) } := by
      rw [xteaPadding, if_pos whole, NetworkMessage.addPaddingBytes, if_pos can, NetworkMessage.copy, if_pos fits,
        map_some, map_some, Nat.mod_eq_of_lt wide]
    refine ⟨_, added, ?_, rfl, rfl⟩
    rw [OutputMessage.output, slice_append, slice_store_apart (.inl (Nat.le_of_eq together.symm)), ← together, padding, small]
    congr 1
    have read := slice_store_self msg.buffer msg.position (List.replicate (8 - msg.length % 8) 0x33)
    rwa [count] at read

/-- A message of whole blocks is encrypted where it is. -/
theorem xteaEncrypt_output (msg : OutputMessage) (key : Xtea.RoundKeys)
    (together : msg.position = msg.outputBufferStart + msg.length)
    (room : msg.length % 8 = 0 ∨ msg.position + (8 - msg.length % 8) < NetworkMessage.maxBodyLength)
    (within : msg.position + (8 - msg.length % 8) % 8 ≤ networkMessageMaxSize) :
    ∃ sent, xteaEncrypt msg key = some sent ∧ sent.output = Xtea.encrypt key (msg.output ++ padding msg.length) ∧
      sent.length = msg.length + (8 - msg.length % 8) % 8 ∧ sent.outputBufferStart = msg.outputBufferStart := by
  obtain ⟨padded, added, output, length, start⟩ := xteaPadding_output together room
  have whole : 8 * Xtea.blocks padded.length = padded.length := by
    rw [Xtea.blocks, length]
    omega
  have size : (Xtea.encrypt key (msg.output ++ padding msg.length)).length = padded.length := by
    rw [← whole]
    apply Xtea.length_encrypt
    rw [← output, OutputMessage.output, length_slice, whole]
  have fits : padded.outputBufferStart + (Xtea.encrypt key (msg.output ++ padding msg.length)).length ≤
      networkMessageMaxSize := by
    rw [size, start, length, ← Nat.add_assoc, ← together]
    exact within
  have encrypted : xteaEncrypt msg key = some { padded with
      buffer := padded.buffer.store padded.outputBufferStart (Xtea.encrypt key (msg.output ++ padding msg.length)) } := by
    rw [xteaEncrypt, added]
    simp only [bind_eq_bind, bind_some, whole]
    rw [← OutputMessage.output, output, NetworkMessage.copy, if_pos fits]
    rfl
  refine ⟨_, encrypted, ?_, length, start⟩
  have read := slice_store_self padded.buffer padded.outputBufferStart (Xtea.encrypt key (msg.output ++ padding msg.length))
  rwa [size] at read

/-- A message that holds a body, as the add operations leave it. -/
structure OutputMessage.Holds (msg : OutputMessage) (body : Bytes) : Prop where
  start : msg.outputBufferStart = 8
  length : msg.length = body.length
  position : msg.position = 8 + body.length
  bytes : msg.output = body

/-- The lengths of a body with which there is room for the padding, or none is needed. -/
def Sendable (length : Nat) : Prop := length ≤ NetworkMessage.maxProtocolBodyLength ∨ length = 24574 ∨ length = 24582

instance (length : Nat) : Decidable (Sendable length) := inferInstanceAs (Decidable (_ ∨ _))

theorem onSendMessage_output (protocol : Protocol) (framing : protocol.rawMessages = false)
    (encryption : protocol.encryptionEnabled = true) (checksum : protocol.checksumEnabled = true) {body : Bytes}
    (holds : msg.Holds body) (sendable : Sendable body.length) :
    ∃ sent, protocol.onSendMessage msg = some sent ∧ sent.output = framed (Xtea.encrypt protocol.key (payload body)) := by
  have limit : NetworkMessage.maxProtocolBodyLength = 24566 := rfl
  have maxBody : NetworkMessage.maxBodyLength = 24576 := rfl
  have maxSize : networkMessageMaxSize = 24590 := rfl
  rw [Sendable] at sendable
  obtain ⟨start, length, position, bytes⟩ := holds
  have two : ∀ n : UInt16, (write n).length = 2 := fun _ => rfl
  have four : ∀ n : UInt32, (write n).length = 4 := fun n => length_lowFirst ..
  obtain ⟨inner, added, output, size, head, tail⟩ := addHeader_output msg (write (UInt16.ofNat msg.length))
    (by rw [two]; omega) (by omega) (by rw [two]; omega)
  rw [two] at size head
  obtain ⟨encrypted, done, cipher, count, front⟩ := xteaEncrypt_output inner protocol.key (by omega) (by omega)
    (by omega)
  rw [output, size, length, bytes, ← payload] at cipher
  have total : (Xtea.encrypt protocol.key (payload body)).length = encrypted.length := by
    rw [← cipher, OutputMessage.output, length_slice]
  obtain ⟨checked, summed, check, more, mark⟩ := addHeader_output encrypted (write (adlerChecksum encrypted.output))
    (by rw [four]; omega) (by omega) (by rw [four]; omega)
  rw [four] at more mark
  obtain ⟨sent, last, frame, _⟩ := addHeader_output checked (write (UInt16.ofNat checked.length))
    (by rw [two]; omega) (by omega) (by rw [two]; omega)
  refine ⟨sent, ?_, ?_⟩
  · simp only [Protocol.onSendMessage, OutputMessage.writeMessageLength, OutputMessage.addCryptoHeader, framing,
      encryption, checksum, Bool.false_eq_true, if_false, if_true, bind_eq_bind, added, bind_some, done,
      summed, last]
  · rw [frame, check, cipher, more, ← total, framed]

end

section

variable {msg : NetworkMessage} {encrypted : Bytes}

/-- A value that can be read. -/
theorem get_of_within {size : Nat} (within : msg.position + size ≤ msg.length + 8)
    (inside : msg.position + size < networkMessageMaxSize) :
    msg.get size = (msg.buffer.slice msg.position size, { msg with position := msg.position + size }) := by
  have maxSize : networkMessageMaxSize = 24590 := rfl
  have can : msg.canRead size = (true, msg) := by
    rw [NetworkMessage.canRead, if_neg]
    omega
  rw [NetworkMessage.get, can]
  simp only
  rw [Nat.mod_eq_of_lt (by omega)]

theorem getU16_of_within (msg : NetworkMessage) (n : UInt16) (within : msg.position + 2 ≤ msg.length + 8)
    (inside : msg.position + 2 < networkMessageMaxSize) (there : msg.buffer.slice msg.position 2 = write n) :
    msg.getU16 = (n.toNat, { msg with position := msg.position + 2 }) := by
  rw [NetworkMessage.getU16, get_of_within within inside]
  simp only [there]
  change (ofLowFirst (lowFirst 2 n.toNat), _) = _
  rw [ofLowFirst_of_lt n.toNat_lt]

/-- What a frame with a right checksum leaves in the message. -/
structure Received (received : NetworkMessage) (encrypted : Bytes) : Prop where
  length : received.length = encrypted.length + 6
  position : received.position = 6
  bytes : received.buffer.slice 6 encrypted.length = encrypted

/-- The header of a frame. -/
theorem parseHeader_framed (msg : NetworkMessage) (short : encrypted.length + 4 < networkMessageMaxSize - 16) :
    Connection.parseHeader (Connection.readHeader msg (framed encrypted)) =
      some ({ Connection.readHeader msg (framed encrypted) with length := encrypted.length + 6, position := 2 },
        encrypted.length + 4) := by
  have maxSize : networkMessageMaxSize = 24590 := rfl
  have wide : encrypted.length + 4 < 2 ^ 16 := by omega
  have first : (framed encrypted).take 2 = write (UInt16.ofNat (encrypted.length + 4)) := take_left' rfl
  have header : (Connection.readHeader msg (framed encrypted)).getLengthHeader = encrypted.length + 4 := by
    have read := slice_store_self msg.buffer 0 (write (UInt16.ofNat (encrypted.length + 4)))
    rw [NetworkMessage.getLengthHeader, Connection.readHeader, NetworkMessage.headerLength, first]
    change ofLowFirst (slice _ 0 (write (UInt16.ofNat (encrypted.length + 4))).length) = _
    rw [read]
    change ofLowFirst (lowFirst 2 (UInt16.ofNat (encrypted.length + 4)).toNat) = _
    rw [ofLowFirst_of_lt (UInt16.toNat_lt _), UInt16.toNat_ofNat', Nat.mod_eq_of_lt wide]
  have kept : ¬ (encrypted.length + 4 = 0 ∨ ((encrypted.length + 4 : Nat) : Int) ≥ (networkMessageMaxSize : Int) - 16) := by omega
  have length : (encrypted.length + 4 + NetworkMessage.headerLength) % 2 ^ 16 = encrypted.length + 6 := by
    rw [NetworkMessage.headerLength]
    omega
  simp only [Connection.parseHeader]
  rw [header, if_neg kept, length]

theorem parsePacket_of_sum (msg : NetworkMessage) (any : encrypted ≠ []) (length : msg.length = encrypted.length + 6)
    (position : msg.position = 2) (sum : msg.buffer.slice 2 4 = write (adlerChecksum encrypted)) (data : msg.buffer.slice 6 encrypted.length = encrypted) :
    Connection.parsePacket msg = { msg with position := 6 } := by
  have maxSize : networkMessageMaxSize = 24590 := rfl
  have more : 0 < encrypted.length := length_pos_iff.mpr any
  have read : msg.get 4 = (write (adlerChecksum encrypted), { msg with position := 6 }) := by
    rw [get_of_within (by omega) (by omega), position, sum]
  have len : (msg.length : Int) - msg.position - NetworkMessage.checksumLength = encrypted.length := by
    rw [length, position, NetworkMessage.checksumLength]
    omega
  have positive : (encrypted.length : Int) > 0 := by omega
  have sums : Connection.checksum msg = adlerChecksum encrypted := by
    simp only [Connection.checksum, len]
    rw [if_pos positive, position, NetworkMessage.checksumLength, Int.toNat_natCast, data]
  rw [Connection.parsePacket, read, sums, if_neg (not_not.mpr rfl)]

/-- The checksum of a frame is right, and what follows it is what was encrypted. -/
theorem receive_framed (msg : NetworkMessage) (any : encrypted ≠ []) (short : encrypted.length + 4 < networkMessageMaxSize - 16) :
    ∃ received, Connection.receive msg (framed encrypted) = some received ∧ Received received encrypted := by
  have maxSize : networkMessageMaxSize = 24590 := rfl
  have four : (write (adlerChecksum encrypted)).length = 4 := length_lowFirst ..
  have content : ((framed encrypted).drop NetworkMessage.headerLength).take (encrypted.length + 4) =
      write (adlerChecksum encrypted) ++ encrypted := by
    have rest : (framed encrypted).drop 2 = write (adlerChecksum encrypted) ++ encrypted := drop_left' rfl
    rw [NetworkMessage.headerLength, rest]
    apply take_of_length_le
    rw [length_append, four]
    omega
  have size : (write (adlerChecksum encrypted) ++ encrypted).length = encrypted.length + 4 := by
    rw [length_append, four, Nat.add_comm]
  have long : ¬ (framed encrypted).length < NetworkMessage.headerLength := by
    have head : (write (UInt16.ofNat (encrypted.length + 4))).length = 2 := rfl
    rw [framed, length_append, head, NetworkMessage.headerLength]
    omega
  rw [Connection.receive, if_neg long, parseHeader_framed msg short]
  simp only [bind_eq_bind, bind_some]
  rw [content, size, if_neg (Nat.lt_irrefl _)]
  generalize Connection.readHeader msg (framed encrypted) = header
  obtain ⟨sum, data⟩ := slice_store_append header.buffer 2 (write (adlerChecksum encrypted)) encrypted
  rw [four] at sum data
  have parsed := parsePacket_of_sum (Connection.readContent { header with length := encrypted.length + 6, position := 2 }
    (write (adlerChecksum encrypted) ++ encrypted)) any rfl rfl sum data
  exact ⟨_, congrArg some parsed, rfl, rfl, data⟩

theorem xteaDecrypt_payload (key : Xtea.RoundKeys) {body : Bytes} (fits : body.length ≤ NetworkMessage.maxProtocolBodyLength)
    (received : Received msg (Xtea.encrypt key (payload body))) :
    ∃ opened, xteaDecrypt msg key = some opened ∧ opened.length = body.length ∧ opened.position = 8 ∧
      opened.buffer.slice 8 body.length = body := by
  have maxSize : networkMessageMaxSize = 24590 := rfl
  have limit : NetworkMessage.maxProtocolBodyLength = 24566 := rfl
  obtain ⟨count, whole, low, high⟩ := length_payload body
  have size : (Xtea.encrypt key (payload body)).length = 8 * count := Xtea.length_encrypt key whole
  obtain ⟨length, position, bytes⟩ := received
  rw [size] at length bytes
  have aligned : ¬ ((msg.length : Int) - 6) % 8 ≠ 0 := by omega
  have blocks : 8 * Xtea.blocks (msg.length - 6) = 8 * count := by
    rw [Xtea.blocks, length]
    omega
  have clear : Xtea.decrypt key (msg.buffer.slice msg.position (8 * Xtea.blocks (msg.length - 6))) =
      write (UInt16.ofNat body.length) ++ (body ++ padding (body.length + 2)) := by
    rw [blocks, position, bytes, Xtea.decrypt_encrypt key whole, payload, append_assoc]
  obtain ⟨head, rest⟩ := slice_store_append msg.buffer 6 (write (UInt16.ofNat body.length)) (body ++ padding (body.length + 2))
  have inner : (UInt16.ofNat body.length).toNat = body.length := by
    rw [UInt16.toNat_ofNat']
    omega
  rw [← position] at head rest
  have clean : decryptRest msg key = { msg with
      buffer := msg.buffer.store msg.position (write (UInt16.ofNat body.length) ++ (body ++ padding (body.length + 2))) } := by
    rw [decryptRest, clear]
  have opened := getU16_of_within (decryptRest msg key) (UInt16.ofNat body.length)
    (by rw [clean]; simp only; omega) (by rw [clean]; simp only; omega) (by rw [clean]; exact head)
  rw [inner] at opened
  have accepted : xteaDecrypt msg key = some { decryptRest msg key with
      position := (decryptRest msg key).position + 2
      length := body.length } := by
    have room : ¬ body.length + 8 > (decryptRest msg key).length := by
      rw [clean]
      simp only
      omega
    rw [xteaDecrypt, if_neg aligned, takeInner, opened, if_neg room]
  rw [clean] at accepted
  refine ⟨_, accepted, rfl, by rw [position], ?_⟩
  rw [length_append, slice_append, position] at rest
  rw [position]
  exact (append_inj rest (length_slice ..)).1

end

/-- A message of a protocol that frames and encrypts is received again: the encrypted part is of
whole blocks, and what comes out of the frame has the length and the bytes of the body. -/
theorem frame_roundTrip (protocol : Protocol) (framing : protocol.rawMessages = false)
    (encryption : protocol.encryptionEnabled = true) (checksum : protocol.checksumEnabled = true) (msg : OutputMessage)
    (body : Bytes) (holds : msg.Holds body) (fits : body.length ≤ NetworkMessage.maxProtocolBodyLength)
    (connection : NetworkMessage) : ∃ sent encrypted received opened, protocol.onSendMessage msg = some sent ∧
      sent.output = framed encrypted ∧ encrypted.length % 8 = 0 ∧
      Connection.receive connection sent.output = some received ∧ protocol.onRecvMessage received = some opened ∧
      opened.length = body.length ∧ opened.position = 8 ∧ opened.buffer.slice 8 body.length = body := by
  have maxSize : networkMessageMaxSize = 24590 := rfl
  have limit : NetworkMessage.maxProtocolBodyLength = 24566 := rfl
  obtain ⟨count, whole, low, high⟩ := length_payload body
  have size : (Xtea.encrypt protocol.key (payload body)).length = 8 * count := Xtea.length_encrypt protocol.key whole
  have any : Xtea.encrypt protocol.key (payload body) ≠ [] := by
    apply length_pos_iff.mp
    omega
  obtain ⟨sent, done, output⟩ := onSendMessage_output protocol framing encryption checksum holds (.inl fits)
  obtain ⟨received, arrived, carries⟩ := receive_framed connection any (by omega)
  obtain ⟨opened, accepted, length, position, bytes⟩ := xteaDecrypt_payload protocol.key fits carries
  refine ⟨sent, _, received, opened, done, output, by omega, output ▸ arrived, ?_, length, position, bytes⟩
  rw [Protocol.onRecvMessage, if_pos encryption, accepted]

def gameProtocol : Protocol := { key := Xtea.expandKey #v[1, 2, 3, 4], encryptionEnabled := true }

def pingMessage : OutputMessage := { buffer := Memory.store (fun _ => 0) 8 [0x1d, 0x1e, 0], length := 3, position := 11 }

theorem holds_pingMessage : pingMessage.Holds [0x1d, 0x1e, 0] := ⟨rfl, rfl, rfl, slice_store_self _ _ _⟩

theorem frame_roundTrip_ping : ∃ sent encrypted received opened, gameProtocol.onSendMessage pingMessage = some sent ∧
    sent.output = framed encrypted ∧ encrypted.length % 8 = 0 ∧
    Connection.receive { buffer := fun _ => 0 } sent.output = some received ∧ gameProtocol.onRecvMessage received = some opened ∧
    opened.length = 3 ∧ opened.position = 8 ∧ opened.buffer.slice 8 3 = [0x1d, 0x1e, 0] :=
  frame_roundTrip gameProtocol rfl rfl rfl pingMessage _ holds_pingMessage (by decide) _

end Styller
