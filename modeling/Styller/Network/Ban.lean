import Mathlib.Algebra.Group.Int.Defs
import Mathlib.Algebra.GroupWithZero.Nat
import Mathlib.Data.List.Infix

/-! The guard against floods of connections: what `Ban::acceptConnection` answers to the attempts of an address. -/

namespace Styller

open List Function Option

/-- What is kept of an address. The times are `uint64_t`, and the count is a `uint32_t`. -/
structure ConnectBlock where
  lastAttempt : Nat
  blockTime : Nat
  count : Nat

/-- An attempt, with `OTSYS_TIME` at it: an `int64_t` that counts milliseconds from 1970 on. -/
structure Attempt where
  clientIP : UInt32
  time : Nat
  represented : time < 2 ^ 63

namespace ConnectBlock

/-- `acceptConnection` behind the lookup: the answer, and the block after it. -/
def accept (connectBlock : ConnectBlock) (currentTime : Nat) : Bool × ConnectBlock :=
  if connectBlock.blockTime > currentTime then
    (false, { connectBlock with blockTime := (connectBlock.blockTime + 250) % 2 ^ 64 })
  else
    -- an `int64_t` of the difference of two `uint64_t`
    let timeDiff := Int.bmod (currentTime - connectBlock.lastAttempt) (2 ^ 64)
    let connectBlock := { connectBlock with lastAttempt := currentTime }
    if timeDiff ≤ 5000 then
      let count := (connectBlock.count + 1) % 2 ^ 32
      if count > 5 then
        if timeDiff ≤ 500 then (false, { connectBlock with count := 0, blockTime := (currentTime + 3000) % 2 ^ 64 })
        else (true, { connectBlock with count := 0 })
      else (true, { connectBlock with count := count })
    else (true, { connectBlock with count := 1 })

/-- What holds of a block after attempts up to a time. -/
structure Kept (connectBlock : ConnectBlock) (time : Nat) : Prop where
  lastAttempt : connectBlock.lastAttempt ≤ time
  count : connectBlock.count ≤ 5

/-- All that an attempt can do to a block, in the order of the branches. -/
inductive Accepts (connectBlock : ConnectBlock) (time : Nat) : Bool × ConnectBlock → Prop where
  | blocked (early : time < connectBlock.blockTime) :
      Accepts connectBlock time (false, { connectBlock with blockTime := (connectBlock.blockTime + 250) % 2 ^ 64 })
  | stopped (late : connectBlock.blockTime ≤ time) (soon : time ≤ connectBlock.lastAttempt + 500)
      (full : connectBlock.count = 5) : Accepts connectBlock time (false, ⟨time, time + 3000, 0⟩)
  | forgiven (late : connectBlock.blockTime ≤ time) (apart : connectBlock.lastAttempt + 500 < time)
      (full : connectBlock.count = 5) : Accepts connectBlock time (true, ⟨time, connectBlock.blockTime, 0⟩)
  | counted (late : connectBlock.blockTime ≤ time) (fits : connectBlock.count < 5) :
      Accepts connectBlock time (true, ⟨time, connectBlock.blockTime, connectBlock.count + 1⟩)
  | rested (late : connectBlock.blockTime ≤ time) (apart : connectBlock.lastAttempt + 5000 < time) :
      Accepts connectBlock time (true, ⟨time, connectBlock.blockTime, 1⟩)

variable {connectBlock : ConnectBlock} {time : Nat}

/-- The clock does not run backwards, so the difference is the time since the last attempt. -/
private theorem timeDiff_eq (ordered : connectBlock.lastAttempt ≤ time) (represented : time < 2 ^ 63) :
    Int.bmod (time - connectBlock.lastAttempt) (2 ^ 64) = time - connectBlock.lastAttempt :=
  Int.bmod_eq_of_le (by omega) (by omega)

theorem accepts (kept : connectBlock.Kept time) (represented : time < 2 ^ 63) :
    Accepts connectBlock time (connectBlock.accept time) := by
  obtain ⟨ordered, bounded⟩ := kept
  have count : (connectBlock.count + 1) % 2 ^ 32 = connectBlock.count + 1 := Nat.mod_eq_of_lt (by omega)
  have until_ : (time + 3000) % 2 ^ 64 = time + 3000 := Nat.mod_eq_of_lt (by omega)
  unfold accept
  simp only [timeDiff_eq ordered represented, count, until_]
  split
  case isTrue early => exact .blocked early
  case isFalse late =>
    have late := Nat.not_lt.mp late
    split
    case isFalse apart => exact .rested late (by omega)
    case isTrue recent =>
      split
      case isFalse fits => exact .counted late (by omega)
      case isTrue full =>
        split
        case isTrue soon => exact .stopped late (by omega) (by omega)
        case isFalse apart => exact .forgiven late (by omega) (by omega)

theorem Kept.later {later : Nat} (kept : connectBlock.Kept time) (ordered : time ≤ later) : connectBlock.Kept later :=
  ⟨Nat.le_trans kept.lastAttempt ordered, kept.count⟩

theorem Kept.accept (kept : connectBlock.Kept time) (represented : time < 2 ^ 63) : (connectBlock.accept time).2.Kept time := by
  have result := accepts kept represented
  generalize connectBlock.accept time = answer at result
  cases result with
  | blocked early => exact ⟨kept.lastAttempt, kept.count⟩
  | stopped late soon full => exact ⟨Nat.le_refl _, Nat.zero_le _⟩
  | forgiven late apart full => exact ⟨Nat.le_refl _, Nat.zero_le _⟩
  | counted late fits => exact ⟨Nat.le_refl _, fits⟩
  | rested late apart => exact ⟨Nat.le_refl _, Nat.le_add_left 1 4⟩

/-- An attempt that is not refused is remembered. -/
theorem lastAttempt_of_accepted (kept : connectBlock.Kept time) (represented : time < 2 ^ 63)
    (accepted : (connectBlock.accept time).1 = true) : (connectBlock.accept time).2.lastAttempt = time := by
  have result := accepts kept represented
  generalize connectBlock.accept time = answer at result accepted
  cases result with
  | blocked early => cases accepted
  | stopped late soon full => cases accepted
  | forgiven late apart full => rfl
  | counted late fits => rfl
  | rested late apart => rfl

theorem count_of_close (kept : connectBlock.Kept time) (represented : time < 2 ^ 63)
    (accepted : (connectBlock.accept time).1 = true) (close : time ≤ connectBlock.lastAttempt + 500) :
    (connectBlock.accept time).2.count = connectBlock.count + 1 := by
  have result := accepts kept represented
  generalize connectBlock.accept time = answer at result accepted
  cases result with
  | blocked early => cases accepted
  | stopped late soon full => cases accepted
  | forgiven late apart full => omega
  | counted late fits => rfl
  | rested late apart => omega

/-- An attempt half a second after the last one is not refused unless the address is blocked. -/
theorem accept_of_apart (kept : connectBlock.Kept time) (represented : time < 2 ^ 63) (late : connectBlock.blockTime ≤ time)
    (apart : connectBlock.lastAttempt + 500 < time) :
    (connectBlock.accept time).1 = true ∧ (connectBlock.accept time).2.blockTime = connectBlock.blockTime := by
  have result := accepts kept represented
  generalize connectBlock.accept time = answer at result
  cases result with
  | blocked early => omega
  | stopped late soon full => omega
  | forgiven late apart full => exact ⟨rfl, rfl⟩
  | counted late fits => exact ⟨rfl, rfl⟩
  | rested late apart => exact ⟨rfl, rfl⟩

/-- Before its block time an address is refused. -/
theorem accept_of_blocked (early : time < connectBlock.blockTime) :
    connectBlock.accept time = (false, { connectBlock with blockTime := (connectBlock.blockTime + 250) % 2 ^ 64 }) :=
  if_pos early

/-- While the block time has room for a prolongation, no attempt moves it back, and a refusal leaves it later than the attempt. -/
theorem blockTime_accept (kept : connectBlock.Kept time) (represented : time < 2 ^ 63)
    (room : connectBlock.blockTime + 250 < 2 ^ 64) :
    (connectBlock.accept time).2.blockTime ≤ max (time + 3000) (connectBlock.blockTime + 250) ∧
      connectBlock.blockTime ≤ (connectBlock.accept time).2.blockTime ∧
        ((connectBlock.accept time).1 = false → time < (connectBlock.accept time).2.blockTime) := by
  have result := accepts kept represented
  generalize connectBlock.accept time = answer at result
  cases result with
  | blocked early =>
    rw [Nat.mod_eq_of_lt room]
    exact ⟨Nat.le_max_right _ _, Nat.le_add_right _ _, fun _ => Nat.lt_add_right 250 early⟩
  | stopped late soon full => exact ⟨Nat.le_max_left _ _, Nat.le_add_right_of_le late, fun _ => Nat.lt_add_of_pos_right (by decide)⟩
  | forgiven late apart full => exact ⟨Nat.le_trans (Nat.le_add_right _ _) (Nat.le_max_right _ _), Nat.le_refl _, nofun⟩
  | counted late fits => exact ⟨Nat.le_trans (Nat.le_add_right _ _) (Nat.le_max_right _ _), Nat.le_refl _, nofun⟩
  | rested late apart => exact ⟨Nat.le_trans (Nat.le_add_right _ _) (Nat.le_max_right _ _), Nat.le_refl _, nofun⟩

end ConnectBlock

structure Ban where
  ipConnectMap : UInt32 → Option ConnectBlock := fun _ => none

/-- `acceptConnection` at what the map has at the address. -/
def acceptAt : Option ConnectBlock → Nat → Bool × ConnectBlock
  | none, currentTime => (true, ⟨currentTime, 0, 1⟩)
  | some connectBlock, currentTime => connectBlock.accept currentTime

namespace Ban

def acceptConnection (ban : Ban) (clientIP : UInt32) (currentTime : Nat) : Bool × Ban :=
  let (accepted, connectBlock) := acceptAt (ban.ipConnectMap clientIP) currentTime
  (accepted, ⟨Function.update ban.ipConnectMap clientIP (some connectBlock)⟩)

def after (ban : Ban) (attempts : List Attempt) : Ban :=
  attempts.foldl (fun ban attempt => (ban.acceptConnection attempt.clientIP attempt.time).2) ban

def answers : Ban → List Attempt → List (Attempt × Bool)
  | _, [] => []
  | ban, attempt :: attempts =>
    (attempt, (ban.acceptConnection attempt.clientIP attempt.time).1) ::
      answers (ban.acceptConnection attempt.clientIP attempt.time).2 attempts

def blockTime (ban : Ban) (clientIP : UInt32) : Nat := ((ban.ipConnectMap clientIP).map ConnectBlock.blockTime).getD 0

/-- The answers to the attempts of one address alone. -/
def serve : Option ConnectBlock → List Attempt → List (Attempt × Bool)
  | _, [] => []
  | found, attempt :: attempts =>
    (attempt, (acceptAt found attempt.time).1) :: serve (some (acceptAt found attempt.time).2) attempts

/-- What an address is answered does not depend on the others. -/
theorem answers_filter (ban : Ban) (attempts : List Attempt) (clientIP : UInt32) :
    (ban.answers attempts).filter (·.1.clientIP = clientIP) =
      serve (ban.ipConnectMap clientIP) (attempts.filter (·.clientIP = clientIP)) := by
  induction attempts generalizing ban with
  | nil => rfl
  | cons attempt attempts ih =>
    rw [Ban.answers]
    by_cases same : attempt.clientIP = clientIP
    · subst same
      rw [filter_cons_of_pos (by simp), filter_cons_of_pos (by simp), ih, serve]
      simp only [Ban.acceptConnection, update_self]
    · rw [filter_cons_of_neg (by simpa using same), filter_cons_of_neg (by simpa using same), ih]
      simp only [Ban.acceptConnection, update_of_ne (Ne.symm same)]

section
variable {connectBlock : ConnectBlock} {attempts : List Attempt}

/-- Two attempts at most half a second apart, and two that are further apart. -/
def Close (first second : Attempt × Bool) : Prop := second.1.time ≤ first.1.time + 500

def Apart (first second : Attempt × Bool) : Prop := first.1.time + 500 < second.1.time

instance : DecidableRel Close := fun first second => inferInstanceAs (Decidable (second.1.time ≤ first.1.time + 500))

theorem count_of_accepted {time : Nat} (kept : connectBlock.Kept time) (inOrder : attempts.Pairwise (·.time ≤ ·.time))
    (later : ∀ attempt ∈ attempts, time ≤ attempt.time) {window : List (Attempt × Bool)} {first : Attempt × Bool}
    (begins : first.1.time = connectBlock.lastAttempt) (answered : window <+: serve (some connectBlock) attempts)
    (close : (first :: window).IsChain Close) (accepted : ∀ answer ∈ window, answer.2 = true) :
    connectBlock.count + window.length ≤ 5 := by
  induction attempts generalizing connectBlock time window first with
  | nil =>
    rw [serve, prefix_nil] at answered
    subst answered
    exact kept.count
  | cons attempt attempts ih =>
    cases window with
    | nil => exact kept.count
    | cons answer window =>
      obtain ⟨same, served⟩ := cons_prefix_cons.mp answered
      obtain ⟨near, close⟩ := isChain_cons_cons.mp close
      obtain ⟨following, inOrder⟩ := pairwise_cons.mp inOrder
      have kept := kept.later (later attempt mem_cons_self)
      have taken := accepted answer mem_cons_self
      subst same
      have remembered := ConnectBlock.lastAttempt_of_accepted kept attempt.represented taken
      have counted := ConnectBlock.count_of_close kept attempt.represented taken (begins ▸ near)
      have rest := ih (kept.accept attempt.represented) inOrder following remembered.symm served close
        fun answer member => accepted answer (mem_cons_of_mem _ member)
      rw [length_cons]
      omega

/-- What is found of an address after attempts up to a time. -/
def FoundKept (found : Option ConnectBlock) (time : Nat) : Prop := ∀ connectBlock ∈ found, connectBlock.Kept time

theorem foundKept_none (time : Nat) : FoundKept none time := by
  intro connectBlock member
  cases member

theorem FoundKept.accept {found : Option ConnectBlock} {time : Nat} (kept : FoundKept found time) (represented : time < 2 ^ 63) :
    (acceptAt found time).2.Kept time := by
  cases found with
  | none => exact ⟨Nat.le_refl _, Nat.le_add_left 1 4⟩
  | some connectBlock => exact (kept connectBlock rfl).accept represented

theorem FoundKept.later {found : Option ConnectBlock} {time later : Nat} (kept : FoundKept found time) (ordered : time ≤ later) :
    FoundKept found later := fun connectBlock member => (kept connectBlock member).later ordered

theorem FoundKept.lastAttempt {found : Option ConnectBlock} {time : Nat} (kept : FoundKept found time) (represented : time < 2 ^ 63)
    (accepted : (acceptAt found time).1 = true) : (acceptAt found time).2.lastAttempt = time := by
  cases found with
  | none => rfl
  | some connectBlock => exact ConnectBlock.lastAttempt_of_accepted (kept connectBlock rfl) represented accepted

/-- Of seven close attempts in a row one is refused: the first may only set the count back. -/
theorem refused_of_seven {found : Option ConnectBlock} {time : Nat} (kept : FoundKept found time)
    (inOrder : attempts.Pairwise (·.time ≤ ·.time)) (later : ∀ attempt ∈ attempts, time ≤ attempt.time)
    {window : List (Attempt × Bool)} (answered : window <:+: serve found attempts) (close : window.IsChain Close)
    (seven : window.length = 7) : ∃ answer ∈ window, answer.2 = false := by
  induction attempts generalizing found time with
  | nil =>
    rw [serve, infix_nil] at answered
    subst answered
    cases seven
  | cons attempt attempts ih =>
    obtain ⟨following, inOrder⟩ := pairwise_cons.mp inOrder
    have kept := kept.later (later attempt mem_cons_self)
    have next : FoundKept (some (acceptAt found attempt.time).2) attempt.time := by
      intro connectBlock member
      cases member
      exact kept.accept attempt.represented
    rcases infix_cons_iff.mp answered with starts | inside
    · cases window with
      | nil => cases seven
      | cons answer window =>
        obtain ⟨same, served⟩ := cons_prefix_cons.mp starts
        by_contra none
        have accepted : ∀ other ∈ answer :: window, other.2 = true := by
          intro other member
          by_contra refused
          exact none ⟨other, member, (Bool.not_eq_true _).mp refused⟩
        have taken := accepted answer mem_cons_self
        subst same
        have counted := count_of_accepted (kept.accept attempt.represented) inOrder following
          (kept.lastAttempt attempt.represented taken).symm served close
          fun other member => accepted other (mem_cons_of_mem _ member)
        rw [length_cons] at seven
        omega
    · exact ih next inOrder following inside

/-- An address whose attempts are all apart is not blocked, and none of them is refused. -/
theorem accepted_of_apart {time : Nat} (kept : connectBlock.Kept time) (free : connectBlock.blockTime = 0)
    (inOrder : attempts.Pairwise (·.time ≤ ·.time)) (later : ∀ attempt ∈ attempts, time ≤ attempt.time) {first : Attempt × Bool}
    (begins : first.1.time = connectBlock.lastAttempt) (apart : (first :: serve (some connectBlock) attempts).IsChain Apart) :
    ∀ answer ∈ serve (some connectBlock) attempts, answer.2 = true := by
  induction attempts generalizing connectBlock time first with
  | nil =>
    intro answer member
    cases member
  | cons attempt attempts ih =>
    obtain ⟨far, apart⟩ := isChain_cons_cons.mp apart
    obtain ⟨following, inOrder⟩ := pairwise_cons.mp inOrder
    have kept := kept.later (later attempt mem_cons_self)
    obtain ⟨accepted, same⟩ := ConnectBlock.accept_of_apart kept attempt.represented (free ▸ Nat.zero_le _) (begins ▸ far)
    intro answer member
    rcases mem_cons.mp member with now | afterwards
    · subst now
      exact accepted
    · exact ih (kept.accept attempt.represented) (same.trans free) inOrder following
        (ConnectBlock.lastAttempt_of_accepted kept attempt.represented accepted).symm apart answer afterwards

end

section
variable {ban : Ban} {attempts : List Attempt}

/-- What is kept of the addresses after some attempts up to a time: the block times have not run over yet. -/
structure Kept (ban : Ban) (time made : Nat) : Prop where
  found : ∀ clientIP, FoundKept (ban.ipConnectMap clientIP) time
  bounded : ∀ clientIP, ban.blockTime clientIP ≤ 2 ^ 63 + 3000 + 250 * made

theorem kept_start : Kept {} 0 0 := by
  constructor
  · intro clientIP
    exact foundKept_none 0
  · intro clientIP
    exact Nat.zero_le _

theorem Kept.later {time later made : Nat} (kept : ban.Kept time made) (ordered : time ≤ later) : ban.Kept later made :=
  ⟨fun clientIP => (kept.found clientIP).later ordered, kept.bounded⟩

theorem blockTime_acceptConnection (attempt : Attempt) {made : Nat} (kept : ban.Kept attempt.time made) (fits : made < 2 ^ 55)
    (clientIP : UInt32) :
    (ban.acceptConnection attempt.clientIP attempt.time).2.blockTime clientIP ≤ 2 ^ 63 + 3000 + 250 * (made + 1) ∧
      ban.blockTime clientIP ≤ (ban.acceptConnection attempt.clientIP attempt.time).2.blockTime clientIP := by
  have bounded := kept.bounded clientIP
  have represented := attempt.represented
  by_cases same : clientIP = attempt.clientIP
  · subst same
    have found := kept.found attempt.clientIP
    simp only [blockTime, acceptConnection, update_self, map_some, getD_some] at bounded ⊢
    cases present : ban.ipConnectMap attempt.clientIP with
    | none => exact ⟨Nat.zero_le _, Nat.le_refl _⟩
    | some connectBlock =>
      rw [present, map_some, getD_some] at bounded
      obtain ⟨below, above, _⟩ := ConnectBlock.blockTime_accept (found connectBlock present) represented (by omega)
      exact ⟨Nat.le_trans below (by omega), above⟩
  · simp only [blockTime, acceptConnection, update_of_ne same] at bounded ⊢
    exact ⟨by omega, Nat.le_refl _⟩

theorem Kept.acceptConnection (attempt : Attempt) {made : Nat} (kept : ban.Kept attempt.time made) (fits : made < 2 ^ 55) :
    (ban.acceptConnection attempt.clientIP attempt.time).2.Kept attempt.time (made + 1) := by
  constructor
  · intro clientIP
    by_cases same : clientIP = attempt.clientIP
    · subst same
      intro connectBlock member
      simp only [Ban.acceptConnection, update_self, mem_some] at member
      subst member
      exact (kept.found attempt.clientIP).accept attempt.represented
    · simp only [Ban.acceptConnection, update_of_ne same]
      exact kept.found clientIP
  · intro clientIP
    exact (blockTime_acceptConnection attempt kept fits clientIP).1

/-- Along attempts in the order of the clock, no block time moves back. -/
theorem Kept.after {time made : Nat} (kept : ban.Kept time made) (inOrder : attempts.Pairwise (·.time ≤ ·.time))
    (later : ∀ attempt ∈ attempts, time ≤ attempt.time) (fits : made + attempts.length ≤ 2 ^ 55) (clientIP : UInt32) :
    (∀ attempt : Attempt, time ≤ attempt.time → (∀ other ∈ attempts, other.time ≤ attempt.time) →
      (ban.after attempts).Kept attempt.time (made + attempts.length)) ∧
      ban.blockTime clientIP ≤ (ban.after attempts).blockTime clientIP := by
  induction attempts generalizing ban time made with
  | nil => exact ⟨fun attempt ordered _ => kept.later ordered, Nat.le_refl _⟩
  | cons attempt attempts ih =>
    obtain ⟨following, inOrder⟩ := pairwise_cons.mp inOrder
    rw [length_cons] at fits ⊢
    have kept := kept.later (later attempt mem_cons_self)
    obtain ⟨stays, rises⟩ := ih (kept.acceptConnection attempt (by omega)) inOrder following (by omega)
    constructor
    · intro last ordered bounds
      have reached := stays last (bounds attempt mem_cons_self) fun other member =>
        bounds other (mem_cons_of_mem _ member)
      rwa [show made + 1 + attempts.length = made + (attempts.length + 1) by omega] at reached
    · exact Nat.le_trans (blockTime_acceptConnection attempt kept (by omega) clientIP).2 rises

theorem refused_of_blocked (attempt : Attempt) (early : attempt.time < ban.blockTime attempt.clientIP) :
    (ban.acceptConnection attempt.clientIP attempt.time).1 = false := by
  simp only [blockTime, acceptConnection] at early ⊢
  cases present : ban.ipConnectMap attempt.clientIP with
  | none =>
    rw [present] at early
    exact absurd early (Nat.not_lt_zero _)
  | some connectBlock =>
    rw [present] at early
    exact congrArg Prod.fst (ConnectBlock.accept_of_blocked early)

theorem blockTime_of_refused (attempt : Attempt) {made : Nat} (kept : ban.Kept attempt.time made) (fits : made < 2 ^ 55)
    (refused : (ban.acceptConnection attempt.clientIP attempt.time).1 = false) :
    attempt.time < (ban.acceptConnection attempt.clientIP attempt.time).2.blockTime attempt.clientIP := by
  have bounded := kept.bounded attempt.clientIP
  have found := kept.found attempt.clientIP
  simp only [blockTime, acceptConnection, update_self, map_some, getD_some] at bounded refused ⊢
  cases present : ban.ipConnectMap attempt.clientIP with
  | none =>
    rw [present] at refused
    cases refused
  | some connectBlock =>
    rw [present] at bounded refused
    rw [map_some, getD_some] at bounded
    exact (ConnectBlock.blockTime_accept (found connectBlock present) attempt.represented (by omega)).2.2 refused

end

/-- Seven attempts in a row with at most half a second between two. -/
def Flood (window : List (Attempt × Bool)) : Prop := window.length = 7 ∧ window.IsChain Close

instance : DecidablePred Flood := fun window => inferInstanceAs (Decidable (window.length = 7 ∧ window.IsChain Close))

/-- After a refusal the block time lies ahead, and every attempt of the address before it is refused. -/
def Blocks (attempts : List Attempt) : Prop :=
  ∀ before refused between attempt later, attempts = before ++ refused :: (between ++ attempt :: later) →
    attempt.clientIP = refused.clientIP →
      let ban := Ban.after {} before
      (ban.acceptConnection refused.clientIP refused.time).1 = false →
        let blocked := (ban.acceptConnection refused.clientIP refused.time).2
        refused.time < blocked.blockTime refused.clientIP ∧
          (attempt.time < blocked.blockTime refused.clientIP →
            ((blocked.after between).acceptConnection attempt.clientIP attempt.time).1 = false)

theorem blocks_of_short {attempts : List Attempt} (inOrder : attempts.Pairwise (·.time ≤ ·.time))
    (short : attempts.length ≤ 2 ^ 55) : Blocks attempts := by
  intro before refused between attempt later split same
  subst split
  rw [length_append, length_cons, length_append, length_cons] at short
  obtain ⟨first, second, ordered⟩ := pairwise_append.mp inOrder
  obtain ⟨following, second⟩ := pairwise_cons.mp second
  have kept := (Ban.kept_start.after first (fun _ _ => Nat.zero_le _) (by omega) refused.clientIP).1 refused (Nat.zero_le _)
    fun other member => ordered other member refused mem_cons_self
  intro ban answered blocked
  have ahead := Ban.blockTime_of_refused refused kept (by omega) answered
  refine ⟨ahead, fun early => ?_⟩
  apply Ban.refused_of_blocked
  have inBetween : between.Pairwise (·.time ≤ ·.time) := (pairwise_append.mp second).1
  have reached := (kept.acceptConnection refused (by omega)).after inBetween
    (fun other member => following other (mem_append_left _ member)) (by omega) refused.clientIP
  rw [same]
  exact Nat.lt_of_lt_of_le early reached.2

/-- The guarantees of the guard, for every address among attempts of any addresses in the order of the clock. The third one is
about the block time as it is at the attempt; as long as no block time can have run over 64 bits it is also about the block time
at the refusal. -/
theorem acceptConnection_guards (attempts : List Attempt) (inOrder : attempts.Pairwise (·.time ≤ ·.time)) (clientIP : UInt32) :
    let answers := (Ban.answers {} attempts).filter (·.1.clientIP = clientIP)
    (∀ window, window <:+: answers → Flood window → ∃ answer ∈ window, answer.2 = false) ∧
    (answers.IsChain Apart → ∀ answer ∈ answers, answer.2 = true) ∧
    (∀ before attempt later, attempts = before ++ attempt :: later →
      attempt.time < (Ban.after {} before).blockTime attempt.clientIP →
        ((Ban.after {} before).acceptConnection attempt.clientIP attempt.time).1 = false) ∧
    (attempts.length ≤ 2 ^ 55 → Blocks attempts) := by
  have ordered : (attempts.filter (·.clientIP = clientIP)).Pairwise (·.time ≤ ·.time) := inOrder.filter _
  simp only [answers_filter]
  refine ⟨?_, ?_, ?_, blocks_of_short inOrder⟩
  · intro window inside flood
    exact refused_of_seven (foundKept_none 0) ordered (fun _ _ => Nat.zero_le _) inside flood.2 flood.1
  · intro apart
    cases made : attempts.filter (·.clientIP = clientIP) with
    | nil =>
      intro answer member
      cases member
    | cons attempt rest =>
      rw [made] at apart ordered
      obtain ⟨following, ordered⟩ := pairwise_cons.mp ordered
      intro answer member
      rcases mem_cons.mp member with now | afterwards
      · subst now
        rfl
      · exact accepted_of_apart ((foundKept_none _).accept attempt.represented) rfl ordered following rfl apart answer afterwards
  · intro before attempt later split early
    exact Ban.refused_of_blocked attempt early

/-- Attempts half a second apart from 1970 on. -/
def steadyAttempts : List Attempt :=
  [⟨1, 0, by decide⟩, ⟨1, 500, by decide⟩, ⟨1, 1000, by decide⟩, ⟨1, 1500, by decide⟩, ⟨1, 2000, by decide⟩, ⟨1, 2500, by decide⟩,
    ⟨1, 3000, by decide⟩]

theorem acceptConnection_guards_steady :
    ∃ answer ∈ (Ban.answers {} steadyAttempts).filter (·.1.clientIP = 1), answer.2 = false :=
  (acceptConnection_guards steadyAttempts (by decide) 1).1 _ infix_rfl (by decide)

end Ban

end Styller
