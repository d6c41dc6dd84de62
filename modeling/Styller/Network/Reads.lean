import Styller.Network.Frame

/-! Reading a packet does not depend on what an earlier one has left in the buffer. -/

namespace Styller

open Library Memory

inductive ReadCall where
  | getByte
  | get (size : Nat)
  | getString (stringLen : UInt16)
  | getPosition
  | skipBytes (count : Int16)

/-- What a call answers. -/
inductive ReadAnswer where
  | byte (value : UInt8)
  | bytes (value : Bytes)
  | position (x y : Nat) (z : UInt8)
  | nothing

def ReadCall.run : ReadCall → NetworkMessage → ReadAnswer × NetworkMessage
  | getByte, msg => (.byte msg.getByte.1, msg.getByte.2)
  | get size, msg => (.bytes (msg.get size).1, (msg.get size).2)
  | getString stringLen, msg => (.bytes (msg.getString stringLen.toNat).1, (msg.getString stringLen.toNat).2)
  | getPosition, msg =>
    let (pos, msg) := msg.getPosition
    (.position pos.1 pos.2.1 pos.2.2, msg)
  | skipBytes count, msg => (.nothing, msg.skipBytes count.toInt)

/-- What the calls answer one after the other, and what `isOverrun` says after each. -/
def readings : List ReadCall → NetworkMessage → List (ReadAnswer × Bool)
  | [], _ => []
  | call :: calls, msg =>
    let (reading, msg) := call.run msg
    (reading, msg.overrun) :: readings calls msg

/-- Two messages are the same up to a bound of the buffer. -/
structure Agree (bound : Nat) (first second : NetworkMessage) : Prop where
  length : second.length = first.length
  position : second.position = first.position
  overrun : second.overrun = first.overrun
  buffer : ∀ offset < bound, second.buffer offset = first.buffer offset

namespace Agree

variable {bound : Nat} {first second : NetworkMessage}

theorem slice (agree : Agree bound first second) (start size : Nat) (within : start + size ≤ bound) :
    second.buffer.slice start size = first.buffer.slice start size :=
  slice_congr (fun offset _ less => agree.buffer offset (Nat.lt_of_lt_of_le less within))

theorem move (agree : Agree bound first second) (position : Nat) :
    Agree bound { first with position } { second with position } :=
  ⟨agree.length, rfl, agree.overrun, agree.buffer⟩

theorem refuse (agree : Agree bound first second) : Agree bound { first with overrun := true } { second with overrun := true } :=
  ⟨agree.length, agree.position, rfl, agree.buffer⟩

theorem store (agree : Agree bound first second) (start : Nat) (bytes : Bytes) :
    Agree bound { first with buffer := first.buffer.store start bytes } { second with buffer := second.buffer.store start bytes } := by
  refine ⟨agree.length, agree.position, agree.overrun, ?_⟩
  intro offset less
  simp only [Memory.store]
  rw [agree.buffer offset less]

/-- The messages refuse the same reads, and no read that they allow goes past their length. -/
theorem canRead (agree : Agree bound first second) (size : Nat) :
    (first.canRead size = (true, first) ∧ second.canRead size = (true, second) ∧ first.position + size ≤ first.length + 8) ∨
      first.canRead size = (false, { first with overrun := true }) ∧
        second.canRead size = (false, { second with overrun := true }) := by
  rw [NetworkMessage.canRead, NetworkMessage.canRead, agree.length, agree.position]
  split_ifs with refused
  · exact .inr ⟨rfl, rfl⟩
  · rw [not_or] at refused
    exact .inl ⟨rfl, rfl, Nat.le_of_not_lt refused.1⟩

/-- They read the same when what is allowed is in the part that is the same. -/
theorem get (agree : Agree bound first second) (size : Nat)
    (within : first.position + size ≤ first.length + 8 → first.position + size ≤ bound) :
    (second.get size).1 = (first.get size).1 ∧ Agree bound (first.get size).2 (second.get size).2 := by
  rw [NetworkMessage.get, NetworkMessage.get]
  rcases agree.canRead size with ⟨one, other, less⟩ | ⟨one, other⟩
  · rw [one, other]
    simp only [agree.position]
    exact ⟨agree.slice _ _ (within less), agree.move _⟩
  · rw [one, other]
    exact ⟨rfl, agree.refuse⟩

theorem getU16 (agree : Agree bound first second) (within : first.position + 2 ≤ first.length + 8 → first.position + 2 ≤ bound) :
    second.getU16.1 = first.getU16.1 ∧ Agree bound first.getU16.2 second.getU16.2 := by
  obtain ⟨value, after⟩ := agree.get 2 within
  exact ⟨congrArg ofLowFirst value, after⟩

end Agree

section

variable (msg : NetworkMessage)

theorem length_canRead (size : Nat) : (msg.canRead size).2.length = msg.length := by
  rw [NetworkMessage.canRead]
  split_ifs
  · rfl
  · rfl

theorem length_get (size : Nat) : (msg.get size).2.length = msg.length := by
  rw [NetworkMessage.get, ← length_canRead msg size]
  rcases msg.canRead size with ⟨can, read⟩
  cases can with
  | false | true => rfl

theorem length_getU16 : msg.getU16.2.length = msg.length := length_get msg 2

end

/-- Two messages that are the same as far as they can be read. -/
structure Synced (first second : NetworkMessage) : Prop where
  agree : Agree (first.length + 8) first second

namespace Synced

variable {first second : NetworkMessage} (synced : Synced first second)

include synced

theorem get (size : Nat) : (second.get size).1 = (first.get size).1 ∧ Synced (first.get size).2 (second.get size).2 := by
  obtain ⟨value, after⟩ := synced.agree.get size id
  exact ⟨value, ⟨(length_get first size).symm ▸ after⟩⟩

theorem getU16 : second.getU16.1 = first.getU16.1 ∧ Synced first.getU16.2 second.getU16.2 := by
  obtain ⟨value, after⟩ := synced.get 2
  exact ⟨congrArg ofLowFirst value, after⟩

theorem getByte : second.getByte.1 = first.getByte.1 ∧ Synced first.getByte.2 second.getByte.2 := by
  rw [NetworkMessage.getByte, NetworkMessage.getByte]
  rcases synced.agree.canRead 1 with ⟨one, other, less⟩ | ⟨one, other⟩
  · rw [one, other]
    simp only [synced.agree.position]
    exact ⟨synced.agree.buffer _ less, ⟨synced.agree.move _⟩⟩
  · rw [one, other]
    exact ⟨rfl, ⟨synced.agree.refuse⟩⟩

theorem takeString (stringLen : Nat) : (second.takeString stringLen).1 = (first.takeString stringLen).1 ∧
    Synced (first.takeString stringLen).2 (second.takeString stringLen).2 := by
  rw [NetworkMessage.takeString, NetworkMessage.takeString]
  rcases synced.agree.canRead stringLen with ⟨one, other, less⟩ | ⟨one, other⟩
  · rw [one, other]
    simp only [synced.agree.position]
    exact ⟨synced.agree.slice _ _ less, ⟨synced.agree.move _⟩⟩
  · rw [one, other]
    exact ⟨rfl, ⟨synced.agree.refuse⟩⟩

theorem getString (stringLen : Nat) : (second.getString stringLen).1 = (first.getString stringLen).1 ∧
    Synced (first.getString stringLen).2 (second.getString stringLen).2 := by
  rw [NetworkMessage.getString, NetworkMessage.getString]
  split_ifs
  · obtain ⟨length, after⟩ := synced.getU16
    rw [length]
    exact after.takeString _
  · exact synced.takeString stringLen

theorem getPosition : second.getPosition.1 = first.getPosition.1 ∧ Synced first.getPosition.2 second.getPosition.2 := by
  obtain ⟨x, afterX⟩ := synced.getU16
  obtain ⟨y, afterY⟩ := afterX.getU16
  obtain ⟨z, afterZ⟩ := afterY.getByte
  simp only [NetworkMessage.getPosition]
  exact ⟨by rw [x, y, z], afterZ⟩

theorem skipBytes (count : Int) : Synced (first.skipBytes count) (second.skipBytes count) := by
  rw [NetworkMessage.skipBytes, NetworkMessage.skipBytes, synced.agree.position]
  exact ⟨synced.agree.move _⟩

theorem run (call : ReadCall) : (call.run second).1 = (call.run first).1 ∧ Synced (call.run first).2 (call.run second).2 := by
  cases call with
  | getByte => exact synced.getByte.imp_left (congrArg ReadAnswer.byte)
  | get size => exact (synced.get size).imp_left (congrArg ReadAnswer.bytes)
  | getString stringLen => exact (synced.getString stringLen.toNat).imp_left (congrArg ReadAnswer.bytes)
  | getPosition => exact synced.getPosition.imp_left (congrArg fun pos : Nat × Nat × UInt8 => ReadAnswer.position pos.1 pos.2.1 pos.2.2)
  | skipBytes count => exact ⟨rfl, synced.skipBytes count.toInt⟩

/-- All of them. -/
theorem readings (calls : List ReadCall) : Styller.readings calls second = Styller.readings calls first := by
  induction calls generalizing first second with
  | nil => rfl
  | cons call calls ih =>
    obtain ⟨reading, after⟩ := synced.run call
    simp only [Styller.readings]
    rw [reading, after.agree.overrun, ih after]

end Synced

section

variable {first second : NetworkMessage}

theorem Agree.decryptRest {bound : Nat} (agree : Agree bound first second) (key : Xtea.RoundKeys)
    (within : first.position + 8 * Xtea.blocks (first.length - 6) ≤ bound) :
    Agree bound (Styller.decryptRest first key) (Styller.decryptRest second key) := by
  have data := agree.slice _ _ within
  have stored := agree.store first.position
    (Xtea.decrypt key (first.buffer.slice first.position (8 * Xtea.blocks (first.length - 6))))
  rw [Styller.decryptRest, Styller.decryptRest, agree.length, agree.position, data]
  exact ⟨rfl, rfl, stored.overrun, stored.buffer⟩

/-- The inner length is in the frame, and so is all that it lets be read. -/
theorem Agree.takeInner (agree : Agree first.length first second) (within : first.position + 2 ≤ first.length)
    {opened : NetworkMessage} (accepted : Styller.takeInner first = some opened) :
    ∃ other, Styller.takeInner second = some other ∧ Synced opened other := by
  obtain ⟨value, after⟩ := agree.getU16 (fun _ => within)
  have kept := length_getU16 first
  rw [Styller.takeInner] at accepted ⊢
  rw [value, after.length]
  split_ifs at accepted ⊢ with long
  cases accepted
  refine ⟨_, rfl, ⟨rfl, after.position, after.overrun, ?_⟩⟩
  intro offset less
  exact after.buffer offset (by simp only at less; omega)

/-- What a protocol accepts of a frame. Of a frame of six bytes the inner length is not in the frame,
but then it is too long. -/
theorem Agree.xteaDecrypt (agree : Agree first.length first second) (start : first.position ≤ 6)
    {key : Xtea.RoundKeys} {opened : NetworkMessage} (accepted : Styller.xteaDecrypt first key = some opened) :
    ∃ other, Styller.xteaDecrypt second key = some other ∧ Synced opened other := by
  rw [Styller.xteaDecrypt] at accepted
  split_ifs at accepted with unaligned
  have some_ : 8 ≤ first.length := by
    have kept := length_getU16 (Styller.decryptRest first key)
    rw [Styller.takeInner] at accepted
    split_ifs at accepted with long
    have same : (Styller.decryptRest first key).length = first.length := rfl
    omega
  have size : 8 * Xtea.blocks (first.length - 6) = first.length - 6 := by
    rw [Xtea.blocks]
    omega
  rw [Styller.xteaDecrypt, agree.length, if_neg unaligned]
  apply (agree.decryptRest key (by omega)).takeInner ?_ accepted
  change first.position + 2 ≤ first.length
  omega

/-- The checksum can be read of every packet. -/
theorem get_four (start : first.position = 2) : (first.get 4).2 = { first with position := 6 } := by
  have can : first.canRead 4 = (true, first) := by
    rw [NetworkMessage.canRead, if_neg]
    rw [start, networkMessageMaxSize]
    omega
  have six : (2 + 4) % 2 ^ 16 = 6 := rfl
  rw [NetworkMessage.get, can]
  simp only [start, six]

/-- A message is read from before the checksum or from after it. -/
theorem position_parsePacket (first : NetworkMessage) (start : first.position = 2) :
    (Connection.parsePacket first).position ≤ 6 ∧ (Connection.parsePacket first).length = first.length := by
  rw [Connection.parsePacket, get_four start]
  split_ifs
  · have back : ((6 : Nat) + -(NetworkMessage.checksumLength : Int)) % 2 ^ 16 = 2 := rfl
    rw [NetworkMessage.skipBytes, back]
    exact ⟨(by decide : 2 ≤ 6), rfl⟩
  · exact ⟨Nat.le_refl _, rfl⟩

theorem Agree.parsePacket (agree : Agree first.length first second) (start : first.position = 2)
    (long : 6 ≤ first.length) : Agree first.length (Connection.parsePacket first) (Connection.parsePacket second) := by
  obtain ⟨value, after⟩ := agree.get 4 (by omega)
  have sum : Connection.checksum second = Connection.checksum first := by
    have data := agree.slice (first.position + NetworkMessage.checksumLength)
      (((first.length : Int) - first.position - NetworkMessage.checksumLength).toNat)
      (by rw [NetworkMessage.checksumLength]; omega)
    simp only [Connection.checksum]
    rw [agree.length, agree.position, data]
  rw [Connection.parsePacket, Connection.parsePacket, value, sum]
  split_ifs
  · rw [NetworkMessage.skipBytes, NetworkMessage.skipBytes, after.position]
    exact after.move _
  · exact after

theorem parseHeader_agree (same : second.overrun = first.overrun) {stream : Bytes} (long : 2 ≤ stream.length)
    {header : NetworkMessage} {size : Nat} (parsed : Connection.parseHeader (Connection.readHeader first stream) = some (header, size)) :
    ∃ other, Connection.parseHeader (Connection.readHeader second stream) = some (other, size) ∧ Agree 2 header other ∧
      header.position = 2 ∧ header.length = size + 2 := by
  have two : (stream.take NetworkMessage.headerLength).length = 2 := by
    rw [List.length_take, NetworkMessage.headerLength]
    omega
  have agree : ∀ offset < 2, (Connection.readHeader second stream).buffer offset = (Connection.readHeader first stream).buffer offset :=
    fun offset less => store_congr (Nat.zero_le _) (by rw [two]; omega)
  have length : (Connection.readHeader second stream).getLengthHeader = (Connection.readHeader first stream).getLengthHeader :=
    congrArg ofLowFirst (slice_congr (fun offset _ less => agree offset (by rw [NetworkMessage.headerLength] at less; omega)))
  simp only [Connection.parseHeader] at parsed ⊢
  rw [length]
  split_ifs at parsed ⊢ with refused
  cases parsed
  refine ⟨_, rfl, ⟨rfl, rfl, same, agree⟩, rfl, ?_⟩
  rw [networkMessageMaxSize] at refused
  exact Nat.mod_eq_of_lt (by rw [NetworkMessage.headerLength]; omega)

theorem receive_agree (same : second.overrun = first.overrun) {stream : Bytes} {received : NetworkMessage}
    (arrived : Connection.receive first stream = some received) :
    received.position ≤ 6 ∧ ∃ other, Connection.receive second stream = some other ∧
      (6 ≤ received.length → Agree received.length received other) := by
  rw [Connection.receive] at arrived ⊢
  split_ifs at arrived ⊢ with short
  rcases parsed : Connection.parseHeader (Connection.readHeader first stream) with _ | ⟨header, size⟩
  · rw [parsed] at arrived
    cases arrived
  · obtain ⟨other, also, agree, start, length⟩ := parseHeader_agree same (Nat.le_of_not_lt short) parsed
    rw [parsed] at arrived
    rw [also]
    simp only [Option.bind_eq_bind, Option.bind_some] at arrived ⊢
    split_ifs at arrived ⊢ with less
    cases arrived
    have content : Agree header.length
        (Connection.readContent header ((stream.drop NetworkMessage.headerLength).take size))
        (Connection.readContent other ((stream.drop NetworkMessage.headerLength).take size)) := by
      refine ⟨agree.length, agree.position, agree.overrun, ?_⟩
      intro offset within
      by_cases before : offset < 2
      · have one : offset < NetworkMessage.headerLength := before
        exact (store_before one).trans ((agree.buffer offset before).trans (store_before one).symm)
      · have two : NetworkMessage.headerLength = 2 := rfl
        exact store_congr (Nat.le_of_not_lt before) (by omega)
    obtain ⟨position, kept⟩ := position_parsePacket
      (Connection.readContent header ((stream.drop NetworkMessage.headerLength).take size)) start
    refine ⟨position, _, rfl, ?_⟩
    rw [kept]
    exact fun long => content.parsePacket start long

/-- Whatever earlier packets have left in the buffer of a connection, a packet that the protocol
accepts is accepted, and reads the same in every order of calls. -/
theorem readings_of_stale (first second : NetworkMessage) (key : Xtea.RoundKeys) (same : second.overrun = first.overrun) (stream : Bytes)
    {received opened : NetworkMessage} (arrived : Connection.receive first stream = some received)
    (accepted : xteaDecrypt received key = some opened) : ∃ received' opened', Connection.receive second stream = some received' ∧
      xteaDecrypt received' key = some opened' ∧ ∀ calls, readings calls opened' = readings calls opened := by
  obtain ⟨start, other, came, agree⟩ := receive_agree same arrived
  have long : 6 ≤ received.length := by
    rw [xteaDecrypt] at accepted
    split_ifs at accepted with unaligned
    omega
  obtain ⟨opened', also, synced⟩ := (agree long).xteaDecrypt start accepted
  exact ⟨other, opened', came, also, synced.readings⟩

end

def pingPacket : Bytes := framed (Xtea.encrypt gameProtocol.key (payload [0x1d, 0x1e, 0]))

/-- One buffer is empty, the other one is full of an earlier packet. -/
theorem readings_of_stale_ping : ∃ received' opened', Connection.receive { buffer := fun _ => 0xff } pingPacket = some received' ∧
    xteaDecrypt received' gameProtocol.key = some opened' ∧ ∃ opened : NetworkMessage, opened.length = 3 ∧
      ∀ calls, readings calls opened' = readings calls opened := by
  have fits : ([0x1d, 0x1e, 0] : Bytes).length ≤ NetworkMessage.maxProtocolBodyLength := by decide
  have size : (Xtea.encrypt gameProtocol.key (payload [0x1d, 0x1e, 0])).length = 8 * 1 :=
    Xtea.length_encrypt gameProtocol.key rfl
  have any : Xtea.encrypt gameProtocol.key (payload [0x1d, 0x1e, 0]) ≠ [] := by
    intro empty
    rw [empty] at size
    cases size
  obtain ⟨received, arrived, carries⟩ := receive_framed { buffer := fun _ => 0 } any (by rw [size]; decide)
  obtain ⟨opened, accepted, length, _⟩ := xteaDecrypt_payload gameProtocol.key fits carries
  obtain ⟨received', opened', also, taken, same⟩ :=
    readings_of_stale { buffer := fun _ => 0 } { buffer := fun _ => 0xff } gameProtocol.key rfl pingPacket arrived accepted
  exact ⟨received', opened', also, taken, opened, length, same⟩

end Styller
