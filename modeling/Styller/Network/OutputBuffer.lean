import Styller.Network.Frame

/-! Messages that are written one after the other into the buffer of a protocol. -/

namespace Styller

open Library Memory List Option

/-- The calls that add to a message. `addDouble`, `addItem` and `addItemId` are some of them one
after the other. -/
inductive AddCall where
  | add (bytes : Bytes)
  | addBytes (bytes : Bytes)
  | addPaddingBytes (n : Nat)
  | addString (value : Bytes)
  | addPosition (x y : UInt16) (z : UInt8)

def AddCall.run : AddCall → NetworkMessage → Option NetworkMessage
  | add bytes, msg => msg.add bytes
  | addBytes bytes, msg => msg.addBytes bytes
  | addPaddingBytes n, msg => msg.addPaddingBytes n
  | addString value, msg => msg.addString value
  | addPosition x y z, msg => msg.addPosition x y z

/-- Messages that are built with calls from a new one, whatever is in its buffer. -/
inductive Built : NetworkMessage → Prop where
  | new (buffer : Memory) : Built { buffer }
  | add {msg next : NetworkMessage} (built : Built msg) (call : AddCall) (added : call.run msg = some next) : Built next

def NetworkMessage.body (msg : NetworkMessage) : Bytes := msg.buffer.slice 8 msg.length

/-- What a protocol is asked to do with its buffer: to write a message to it, for which a new buffer
may be made of some memory, or to send what is there. -/
inductive OutputEvent where
  | write (msg : NetworkMessage) (built : Built msg) (memory : Memory)
  | send

/-- `Protocol::getOutputBuffer`: the message that is sent before, and the buffer. -/
def getOutputBuffer (outputBuffer : Option OutputMessage) (memory : Memory) (size : Nat) :
    List OutputMessage × OutputMessage :=
  match outputBuffer with
  | none => ([], { buffer := memory })
  | some out =>
    if out.length + size > NetworkMessage.maxProtocolBodyLength then ([out], { buffer := memory }) else ([], out)

/-- `ProtocolGame::writeToOutputBuffer`, and the sending of the buffer: the messages that are sent,
up to the last one. -/
def sendAll : Option OutputMessage → List OutputEvent → Option (List OutputMessage)
  | outputBuffer, [] => some outputBuffer.toList
  | outputBuffer, .send :: events => (sendAll none events).map (outputBuffer.toList ++ ·)
  | outputBuffer, .write msg _ memory :: events => do
    let (sent, out) := getOutputBuffer outputBuffer memory msg.length
    let out ← out.append msg
    (sendAll (some out) events).map (sent ++ ·)

/-- The messages that are written. -/
def written : List OutputEvent → List NetworkMessage
  | [] => []
  | .send :: events => written events
  | .write msg _ _ :: events => msg :: written events

/-- A message is sent as the frame of its body, encrypted in whole blocks. -/
def WellFramed (protocol : Protocol) (out : OutputMessage) : Prop :=
  ∃ sent, protocol.onSendMessage out = some sent ∧ sent.output = framed (Xtea.encrypt protocol.key (payload out.output)) ∧
    (sent.length - 6) % 8 = 0

/-- No byte is written past a buffer, all that is written is sent in its order, and all that is sent
is framed well. -/
structure SentWell (protocol : Protocol) (events : List OutputEvent) : Prop where
  added : ∀ msg ∈ written events, ∀ call : AddCall, ∃ next, call.run msg = some next
  sent : ∃ outputs, sendAll none events = some outputs ∧
    (outputs.map OutputMessage.output).flatten = ((written events).map NetworkMessage.body).flatten ∧
    ∀ out ∈ outputs, WellFramed protocol out

section

variable (msg : NetworkMessage)

theorem put_of_canAdd {bytes : Bytes} (can : bytes.length + msg.position < NetworkMessage.maxBodyLength) :
    msg.put bytes = some { msg with
      buffer := msg.buffer.store msg.position bytes
      position := msg.position + bytes.length
      length := (msg.length + bytes.length) % 2 ^ 16 } := by
  have limit : NetworkMessage.maxBodyLength = 24576 := rfl
  have fits : msg.position + bytes.length ≤ networkMessageMaxSize := by
    rw [networkMessageMaxSize]
    omega
  have small : msg.position + bytes.length < 2 ^ 16 := by omega
  rw [NetworkMessage.put, NetworkMessage.copy, if_pos fits, map_some, Nat.mod_eq_of_lt small]

theorem add_total (bytes : Bytes) : ∃ next, msg.add bytes = some next := by
  rw [NetworkMessage.add]
  split_ifs with can
  · exact ⟨_, put_of_canAdd msg (of_decide_eq_true can)⟩
  · exact ⟨_, rfl⟩

/-- The length of a string leaves the room for it. -/
theorem addString_total (value : Bytes) : ∃ next, msg.addString value = some next := by
  rw [NetworkMessage.addString]
  split_ifs with refused
  · exact ⟨_, rfl⟩
  · rw [not_or, not_not] at refused
    have can : value.length + 2 + msg.position < NetworkMessage.maxBodyLength := of_decide_eq_true refused.1
    have two : (write (UInt16.ofNat value.length)).length = 2 := rfl
    have first : (write (UInt16.ofNat value.length)).length + msg.position < NetworkMessage.maxBodyLength := by omega
    have length := put_of_canAdd msg first
    have fits : msg.canAdd (write (UInt16.ofNat value.length)).length = true := decide_eq_true first
    rw [NetworkMessage.add, if_pos fits, length]
    refine ⟨_, put_of_canAdd _ ?_⟩
    simp only [two]
    omega

/-- No call that adds to a message writes past its buffer. -/
theorem addCall_total (call : AddCall) : ∃ next, call.run msg = some next := by
  cases call with
  | add bytes => exact add_total msg bytes
  | addBytes bytes =>
    simp only [AddCall.run, NetworkMessage.addBytes]
    split_ifs with refused
    · exact ⟨_, rfl⟩
    · rw [not_or, not_not] at refused
      exact ⟨_, put_of_canAdd msg (of_decide_eq_true refused.1)⟩
  | addPaddingBytes n =>
    simp only [AddCall.run, NetworkMessage.addPaddingBytes]
    split_ifs with can
    · have less : n + msg.position < 24576 := of_decide_eq_true can
      have fits : msg.position + (List.replicate n (0x33 : UInt8)).length ≤ networkMessageMaxSize := by
        rw [length_replicate, networkMessageMaxSize]
        omega
      rw [NetworkMessage.copy, if_pos fits]
      exact ⟨_, rfl⟩
    · exact ⟨_, rfl⟩
  | addString value => exact addString_total msg value
  | addPosition x y z =>
    obtain ⟨first, one⟩ := add_total msg (write x)
    obtain ⟨second, two⟩ := add_total first (write y)
    simp only [AddCall.run, NetworkMessage.addPosition, one, bind_eq_bind, bind_some, two]
    exact add_total second [z]

end

section

variable {out : OutputMessage} {body : Bytes} {msg : NetworkMessage}

theorem holds_new (memory : Memory) : OutputMessage.Holds { buffer := memory } [] := ⟨rfl, rfl, rfl, rfl⟩

/-- A message goes behind the body of the buffer. -/
theorem append_holds (msg : NetworkMessage) (holds : out.Holds body) (fits : 8 + (body.length + msg.length) ≤ networkMessageMaxSize) :
    ∃ next, out.append msg = some next ∧ next.Holds (body ++ msg.body) := by
  have maxSize : networkMessageMaxSize = 24590 := rfl
  obtain ⟨start, length, position, bytes⟩ := holds
  have size : (msg.buffer.slice 8 msg.length).length = msg.length := length_slice ..
  have room : out.position + (msg.buffer.slice 8 msg.length).length ≤ networkMessageMaxSize := by omega
  have appended : out.append msg = some { out with
      buffer := out.buffer.store out.position (msg.buffer.slice 8 msg.length)
      length := out.length + msg.length
      position := out.position + msg.length } := by
    rw [OutputMessage.append, NetworkMessage.copy, if_pos room, map_some, Nat.mod_eq_of_lt (by omega),
      Nat.mod_eq_of_lt (by omega)]
  have together : (body ++ msg.body).length = body.length + msg.length := by
    rw [length_append, NetworkMessage.body, size]
  refine ⟨_, appended, start, ?_, ?_, ?_⟩
  · rw [together, length]
  · rw [together, position, Nat.add_assoc]
  · have first := slice_store_self out.buffer out.position (msg.buffer.slice 8 msg.length)
    rw [size] at first
    have end_ : out.outputBufferStart + out.length = out.position := by omega
    rw [OutputMessage.output, slice_append, end_, first, slice_store_apart (.inl (Nat.le_of_eq end_)), ← OutputMessage.output,
      bytes, NetworkMessage.body]

/-- It is not copied past the end of the buffer. -/
theorem append_overflow (holds : out.Holds body) (long : networkMessageMaxSize < 8 + (body.length + msg.length)) :
    out.append msg = none := by
  obtain ⟨start, length, position, bytes⟩ := holds
  have size : (msg.buffer.slice 8 msg.length).length = msg.length := length_slice ..
  have room : ¬ out.position + (msg.buffer.slice 8 msg.length).length ≤ networkMessageMaxSize := by omega
  rw [OutputMessage.append, NetworkMessage.copy, if_neg room, map_none]

end

section

variable {protocol : Protocol} (framing : protocol.rawMessages = false) (encryption : protocol.encryptionEnabled = true)
  (checksum : protocol.checksumEnabled = true) {out : OutputMessage} {body : Bytes} (holds : out.Holds body)

include framing encryption checksum holds in
theorem wellFramed_of_sendable (sendable : Sendable body.length) : WellFramed protocol out := by
  obtain ⟨sent, done, output⟩ := onSendMessage_output protocol framing encryption checksum holds sendable
  obtain ⟨count, whole, _, _⟩ := length_payload body
  have size : (Xtea.encrypt protocol.key (payload body)).length = 8 * count := Xtea.length_encrypt protocol.key whole
  have length : sent.length = 2 + (4 + 8 * count) := by
    have same := congrArg List.length output
    rw [OutputMessage.output, length_slice, framed, length_append, length_append, size] at same
    exact same
  refine ⟨sent, done, holds.bytes ▸ output, ?_⟩
  omega

theorem addHeader_frame {bytes : Bytes} {next : OutputMessage} (added : out.addHeader bytes = some next) :
    next.length = (out.length + bytes.length) % 2 ^ 16 ∧ next.position = out.position := by
  rw [OutputMessage.addHeader] at added
  split_ifs at added
  obtain ⟨buffer, _, rfl⟩ := map_eq_some_iff.mp added
  exact ⟨rfl, rfl⟩

/-- A message that has no room for its padding is encrypted without it. -/
theorem xteaEncrypt_unpadded {key : Xtea.RoundKeys} {next : OutputMessage} (full : NetworkMessage.maxBodyLength ≤ out.position + 1)
    (encrypted : xteaEncrypt out key = some next) : next.length = out.length := by
  have unpadded : xteaPadding out = some out := by
    simp only [xteaPadding, NetworkMessage.addPaddingBytes]
    split_ifs with uneven can
    · have less : 8 - out.length % 8 + out.position < NetworkMessage.maxBodyLength := of_decide_eq_true can
      omega
    · rfl
    · rfl
  rw [xteaEncrypt, unpadded] at encrypted
  simp only [bind_eq_bind, bind_some] at encrypted
  obtain ⟨buffer, _, same⟩ := bind_eq_some_iff.mp encrypted
  cases same
  rfl

include framing encryption checksum holds in
/-- A body without room for the padding that it needs is not sent in whole blocks. -/
theorem sendable_of_wellFramed (short : body.length ≤ 24582) (well : WellFramed protocol out) : Sendable body.length := by
  by_contra stuck
  have limit : NetworkMessage.maxProtocolBodyLength = 24566 := rfl
  have maxBody : NetworkMessage.maxBodyLength = 24576 := rfl
  rw [Sendable] at stuck
  have two : ∀ n : UInt16, (write n).length = 2 := fun _ => rfl
  have four : ∀ n : UInt32, (write n).length = 4 := fun n => length_lowFirst ..
  obtain ⟨sent, done, _, aligned⟩ := well
  simp only [Protocol.onSendMessage, OutputMessage.writeMessageLength, OutputMessage.addCryptoHeader, framing, encryption,
    checksum, Bool.false_eq_true, if_false, if_true, bind_eq_bind] at done
  obtain ⟨inner, headed, done⟩ := bind_eq_some_iff.mp done
  obtain ⟨encrypted, ciphered, done⟩ := bind_eq_some_iff.mp done
  obtain ⟨checked, summed, done⟩ := bind_eq_some_iff.mp done
  obtain ⟨first, position⟩ := addHeader_frame headed
  have second := xteaEncrypt_unpadded (by rw [position, holds.position]; omega) ciphered
  obtain ⟨third, _⟩ := addHeader_frame summed
  obtain ⟨fourth, _⟩ := addHeader_frame done
  rw [two, holds.length] at first
  rw [four] at third
  rw [two] at fourth
  omega

end

section

/-- The body that waits in the buffer of a protocol. -/
inductive Pending : Option OutputMessage → Bytes → Prop where
  | none : Pending Option.none []
  | some {out : OutputMessage} {body : Bytes} (holds : out.Holds body) : Pending (Option.some out) body

variable {outputBuffer : Option OutputMessage} {body : Bytes} {msg : NetworkMessage}

theorem Pending.output (pending : Pending outputBuffer body) : (outputBuffer.toList.map OutputMessage.output).flatten = body := by
  cases pending with
  | none => rfl
  | some holds => exact (append_nil _).trans holds.bytes

/-- The buffer that a message is written to is the one that there is, if the message fits, or a new
one. -/
theorem getOutputBuffer_cases (pending : Pending outputBuffer body) (memory : Memory) (size : Nat) :
    (∃ out, getOutputBuffer outputBuffer memory size = ([], out) ∧ out.Holds body ∧
      body.length + size ≤ NetworkMessage.maxProtocolBodyLength) ∨
    getOutputBuffer outputBuffer memory size = (outputBuffer.toList, { buffer := memory }) := by
  cases pending with
  | none => exact .inr rfl
  | @some out body holds =>
    simp only [getOutputBuffer]
    split_ifs with full
    · exact .inr rfl
    · rw [holds.length] at full
      exact .inl ⟨out, rfl, holds, Nat.le_of_not_gt full⟩

section

variable {protocol : Protocol} (framing : protocol.rawMessages = false) (encryption : protocol.encryptionEnabled = true)
  (checksum : protocol.checksumEnabled = true) {events : List OutputEvent}

include framing encryption checksum

theorem Pending.wellFramed (pending : Pending outputBuffer body) (sendable : Sendable body.length) :
    ∀ out ∈ outputBuffer.toList, WellFramed protocol out := by
  cases pending with
  | none => exact fun out listed => absurd listed not_mem_nil
  | some holds =>
    intro out listed
    rw [mem_singleton.mp listed]
    exact wellFramed_of_sendable framing encryption checksum holds sendable

theorem Pending.sendable (pending : Pending outputBuffer body) (short : body.length ≤ 24582)
    (framed : ∀ out ∈ outputBuffer.toList, WellFramed protocol out) : Sendable body.length := by
  cases pending with
  | none => exact .inl (Nat.zero_le _)
  | some holds =>
    exact sendable_of_wellFramed framing encryption checksum holds short (framed _ (mem_singleton_self _))

/-- Messages that can be sent by themselves are sent well. -/
theorem sendAll_well (pending : Pending outputBuffer body) (first : Sendable body.length)
    (sendable : ∀ msg ∈ written events, Sendable msg.length) : ∃ outputs, sendAll outputBuffer events = some outputs ∧
      (outputs.map OutputMessage.output).flatten = body ++ ((written events).map NetworkMessage.body).flatten ∧
      ∀ out ∈ outputs, WellFramed protocol out := by
  have maxSize : networkMessageMaxSize = 24590 := rfl
  have limit : NetworkMessage.maxProtocolBodyLength = 24566 := rfl
  induction events generalizing outputBuffer body with
  | nil =>
    refine ⟨_, rfl, ?_, pending.wellFramed framing encryption checksum first⟩
    rw [pending.output]
    exact (append_nil _).symm
  | cons event events ih =>
    cases event with
    | send =>
      obtain ⟨outputs, sent, bytes, framed⟩ := ih .none (.inl (Nat.zero_le _)) sendable
      refine ⟨outputBuffer.toList ++ outputs, ?_, ?_, ?_⟩
      · rw [sendAll, sent, map_some]
      · rw [map_append, flatten_append, pending.output, bytes, nil_append]
        rfl
      · intro out listed
        rcases mem_append.mp listed with listed | listed
        · exact pending.wellFramed framing encryption checksum first out listed
        · exact framed out listed
    | write msg built memory =>
      have own := sendable msg (mem_cons_self ..)
      have rest := fun other listed => sendable other (mem_cons_of_mem _ listed)
      have size : msg.body.length = msg.length := length_slice ..
      rcases getOutputBuffer_cases pending memory msg.length with ⟨out, there, holds, fits⟩ | fresh
      · obtain ⟨next, appended, more⟩ := append_holds msg holds (by omega)
        have both : Sendable (body ++ msg.body).length := .inl (by rw [length_append, size]; exact fits)
        obtain ⟨outputs, sent, bytes, framed⟩ := ih (.some more) both rest
        refine ⟨outputs, ?_, ?_, framed⟩
        · rw [sendAll, there]
          simp only [bind_eq_bind, appended, bind_some, sent, map_some, nil_append]
        · rw [bytes, append_assoc]
          rfl
      · rw [Sendable] at own
        obtain ⟨next, appended, more⟩ := append_holds msg (holds_new memory) (by rw [length_nil]; omega)
        rw [nil_append] at more
        obtain ⟨outputs, sent, bytes, framed⟩ := ih (.some more) (by rw [size]; exact own) rest
        refine ⟨outputBuffer.toList ++ outputs, ?_, ?_, ?_⟩
        · rw [sendAll, fresh]
          simp only [bind_eq_bind, appended, bind_some, sent, map_some]
        · rw [map_append, flatten_append, pending.output, bytes]
          rfl
        · intro out listed
          rcases mem_append.mp listed with listed | listed
          · exact pending.wellFramed framing encryption checksum first out listed
          · exact framed out listed

theorem sendable_of_sent (pending : Pending outputBuffer body) (short : body.length ≤ 24582) {outputs : List OutputMessage}
    (sent : sendAll outputBuffer events = some outputs) (framed : ∀ out ∈ outputs, WellFramed protocol out) :
    Sendable body.length ∧ ∀ msg ∈ written events, Sendable msg.length := by
  have maxSize : networkMessageMaxSize = 24590 := rfl
  have limit : NetworkMessage.maxProtocolBodyLength = 24566 := rfl
  induction events generalizing outputBuffer body outputs with
  | nil =>
    cases sent
    exact ⟨pending.sendable framing encryption checksum short framed, fun msg listed => absurd listed not_mem_nil⟩
  | cons event events ih =>
    cases event with
    | send =>
      obtain ⟨later, run, rfl⟩ := map_eq_some_iff.mp sent
      have rest := ih .none (Nat.zero_le _) run (fun out listed => framed out (mem_append_right _ listed))
      exact ⟨pending.sendable framing encryption checksum short (fun out listed => framed out (mem_append_left _ listed)),
        rest.2⟩
    | write msg built memory =>
      have size : msg.body.length = msg.length := length_slice ..
      rw [sendAll] at sent
      rcases getOutputBuffer_cases pending memory msg.length with ⟨out, there, holds, fits⟩ | fresh
      · obtain ⟨next, appended, more⟩ := append_holds msg holds (by omega)
        rw [there] at sent
        simp only [bind_eq_bind, appended, bind_some] at sent
        obtain ⟨later, run, rfl⟩ := map_eq_some_iff.mp sent
        have rest := ih (.some more) (by rw [length_append, size]; omega) run framed
        refine ⟨.inl (by omega), ?_⟩
        intro other listed
        rcases mem_cons.mp listed with rfl | listed
        · exact .inl (by omega)
        · exact rest.2 other listed
      · rw [fresh] at sent
        simp only [bind_eq_bind] at sent
        obtain ⟨next, appended, sent⟩ := bind_eq_some_iff.mp sent
        obtain ⟨later, run, rfl⟩ := map_eq_some_iff.mp sent
        have room : 8 + (([] : Bytes).length + msg.length) ≤ networkMessageMaxSize := by
          by_contra long
          rw [append_overflow (holds_new memory) (Nat.lt_of_not_le long)] at appended
          cases appended
        obtain ⟨same, also, more⟩ := append_holds msg (holds_new memory) room
        cases appended.symm.trans also
        rw [length_nil] at room
        have rest := ih (.some more) (by rw [nil_append, size]; omega) run
          (fun out listed => framed out (mem_append_right _ listed))
        rw [nil_append, size] at rest
        refine ⟨pending.sendable framing encryption checksum short (fun out listed => framed out (mem_append_left _ listed)), ?_⟩
        intro other listed
        rcases mem_cons.mp listed with rfl | listed
        · exact rest.1
        · exact rest.2 other listed

/-- What is written is sent well just when each of the messages can be sent by itself: when its
length is that of a body that the protocol allows, or one that needs no padding. -/
theorem sentWell_iff (events : List OutputEvent) :
    SentWell protocol events ↔ ∀ msg ∈ written events, Sendable msg.length := by
  constructor
  · intro well
    obtain ⟨outputs, sent, _, framed⟩ := well.sent
    exact (sendable_of_sent framing encryption checksum .none (Nat.zero_le _) sent framed).2
  · intro sendable
    exact ⟨fun msg _ => addCall_total msg, sendAll_well framing encryption checksum .none (.inl (Nat.zero_le _)) sendable⟩

end

end

/-- Byte after byte can be added to a message. -/
theorem built_bytes {count : Nat} (room : count ≤ 24567) : ∃ msg, Built msg ∧ msg.length = count ∧ msg.position = 8 + count := by
  have limit : NetworkMessage.maxBodyLength = 24576 := rfl
  induction count with
  | zero => exact ⟨{ buffer := fun _ => 0 }, .new _, rfl, rfl⟩
  | succ count ih =>
    obtain ⟨msg, built, length, position⟩ := ih (Nat.le_of_succ_le room)
    have fits : ([0] : Bytes).length + msg.position < NetworkMessage.maxBodyLength := by
      rw [length_singleton]
      omega
    have can : msg.canAdd ([0] : Bytes).length = true := decide_eq_true fits
    have added : (AddCall.add [0]).run msg = some _ := (if_pos can).trans (put_of_canAdd msg fits)
    refine ⟨_, built.add (.add [0]) added, ?_, ?_⟩
    · simp only [length, length_singleton]
      omega
    · simp only [position, length_singleton]
      omega

theorem sentWell_iff_empty : SentWell gameProtocol [.write { buffer := fun _ => 0 } (.new _) (fun _ => 0), .send] ↔
    ∀ msg ∈ written [.write { buffer := fun _ => 0 } (.new _) (fun _ => 0), .send], Sendable msg.length :=
  sentWell_iff rfl rfl rfl _

/-- The longest message that can be built with bytes has no room for the padding that it needs. -/
theorem not_sentWell_longest : ∃ (msg : NetworkMessage) (built : Built msg), msg.length = 24567 ∧
    ¬ SentWell gameProtocol [.write msg built (fun _ => 0)] := by
  obtain ⟨msg, built, length, _⟩ := built_bytes (Nat.le_refl 24567)
  refine ⟨msg, built, length, ?_⟩
  intro well
  obtain ⟨outputs, sent, _, framed⟩ := well.sent
  have sendable := (sendable_of_sent rfl rfl rfl .none (Nat.zero_le _) sent framed).2 msg (mem_cons_self ..)
  rw [length] at sendable
  exact absurd sendable (by decide)

end Styller
