import Styller.Library.Run

/-! The messages of a connection, from `Connection::send` to the end of their writes. -/

namespace Styller

open List Library

/-- `Connection`. There are `writes` under way; the last fields say whether one has failed, whether the connection was closed by force, and
which messages `send` took and which were written. -/
structure Connection (Message : Type) where
  messageQueue : List Message := []
  closed : Bool := false
  isOpen : Bool := true
  writes : Nat := 0
  failed : Bool := false
  forced : Bool := false
  taken : List Message := []
  written : List Message := []

inductive ConnectionEvent (Message : Type) where
  | send (msg : Message) (throws : Bool)
  | close (force : Bool)
  | onWriteOperation (error throws : Bool)

namespace Connection

variable {Message : Type} (connection : Connection Message)

def close (force : Bool) : Connection Message :=
  if connection.closed then connection
  else
    { connection with
      closed := true
      isOpen := connection.isOpen && !(connection.messageQueue.isEmpty || force)
      forced := connection.forced || force }

/-- `async_write` starts, or throws. -/
def internalSend (throws : Bool) : Connection Message :=
  if throws then { connection with failed := true }.close true else { connection with writes := connection.writes + 1 }

def send (msg : Message) (throws : Bool) : Connection Message :=
  if connection.closed then connection
  else
    let sent := { connection with messageQueue := connection.messageQueue ++ [msg], taken := connection.taken ++ [msg] }
    if connection.messageQueue.isEmpty then sent.internalSend throws else sent

def onWriteOperation (error throws : Bool) : Connection Message :=
  match connection.messageQueue with
  | [] => connection
  | msg :: messageQueue =>
    let ended := { connection with writes := connection.writes - 1, messageQueue }
    if error then { ended with messageQueue := [], failed := true }.close true
    else
      let ended := { ended with written := connection.written ++ [msg] }
      if !messageQueue.isEmpty then ended.internalSend throws else { ended with isOpen := connection.isOpen && !connection.closed }

/-- A write ends when one is under way; the connection may be closed at any time, also by a timeout. -/
def step : ConnectionEvent Message → Connection Message
  | .send msg throws => connection.send msg throws
  | .close force => connection.close force
  | .onWriteOperation error throws => if connection.writes = 0 then connection else connection.onWriteOperation error throws

variable {connection}

/-- Messages are written as they were taken, in order and each once. While no write has failed none is lost, and one write is under way
just while messages wait. Unless it is forced, closing waits until they are written, and no longer. -/
structure Sound (connection : Connection Message) : Prop where
  order : (connection.written ++ connection.messageQueue).IsPrefix connection.taken
  whole : connection.failed = false → connection.taken = connection.written ++ connection.messageQueue
  busy : connection.failed = false → connection.writes = if connection.messageQueue = [] then 0 else 1
  closing : connection.failed = false → connection.forced = false →
    (connection.isOpen = true ↔ connection.closed = true → connection.messageQueue ≠ [])
  ended : connection.failed = true → connection.closed = true ∧ connection.writes = 0

/-- After a failure the connection is closed, and nothing is written. -/
theorem sound_of_failed (order : (connection.written ++ connection.messageQueue).IsPrefix connection.taken)
    (failed : connection.failed = true) (idle : connection.writes = 0) : (connection.close true).Sound := by
  unfold close
  split <;> constructor <;> simp_all

/-- A write starts when none is under way. -/
theorem sound_internalSend (whole : connection.taken = connection.written ++ connection.messageQueue)
    (idle : connection.writes = 0) (some : connection.messageQueue ≠ []) (unfailed : connection.failed = false)
    (stays : connection.forced = false → connection.isOpen = true) (throws : Bool) : (connection.internalSend throws).Sound := by
  cases throws with
  | false => constructor <;> simp_all [internalSend]
  | true => exact sound_of_failed (by simp [whole]) rfl idle

theorem Sound.step (sound : connection.Sound) (event : ConnectionEvent Message) : (connection.step event).Sound := by
  cases event with
  | send msg throws =>
    simp only [Connection.step, send]
    split
    · exact sound
    · next opened =>
      have unfailed : connection.failed = false := eq_false_of_ne_true fun failed => opened (sound.ended failed).1
      obtain ⟨order, whole, busy, closing, ended⟩ := sound
      split
      · apply sound_internalSend <;> simp_all
      · constructor <;> simp_all
  | close force =>
    simp only [Connection.step, close]
    split
    · exact sound
    · obtain ⟨order, whole, busy, closing, ended⟩ := sound
      constructor <;> cases empty : connection.messageQueue <;> simp_all
  | onWriteOperation error throws =>
    simp only [Connection.step, onWriteOperation]
    split
    · exact sound
    · next pending =>
      have unfailed : connection.failed = false := eq_false_of_ne_true fun failed => pending (sound.ended failed).2
      obtain ⟨order, whole, busy, closing, ended⟩ := sound
      split
      · exact ⟨order, whole, busy, closing, ended⟩
      · next msg messageQueue first =>
        cases error with
        | true => apply sound_of_failed <;> simp_all
        | false =>
          cases messageQueue with
          | nil => constructor <;> simp_all
          | cons next later => apply sound_internalSend <;> simp_all

theorem messages_once (events : List (ConnectionEvent Message)) : Always step Sound {} events :=
  always_of_kept (fun _ event sound => sound.step event) ⟨prefix_rfl, fun _ => rfl, fun _ => rfl, by simp, nofun⟩ events

end Connection

end Styller
