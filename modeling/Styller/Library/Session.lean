import Mathlib.Data.List.Basic

/-! Batches of statements in a transaction, over a connection that can be lost: a new connection discards the transaction, and
what is sent over it takes effect at once. -/

namespace Styller.Library

universe u

/-- What comes of one try of a query. -/
inductive Outcome where
  | success
  | error
  | lost

/-- What is stored, and what is stored when the open transaction is committed. -/
structure Session (Stored : Type u) where
  stored : Stored
  transaction : Option Stored := none

variable {Stored : Type u}

namespace Session

variable (session : Session Stored)

def apply (effect : Stored → Stored) : Session Stored :=
  match session.transaction with
  | none => { session with stored := effect session.stored }
  | some changed => { session with transaction := some (effect changed) }

def opened : Session Stored := { session with transaction := some session.stored }

def committed : Session Stored := { stored := session.transaction.getD session.stored }

def discarded : Session Stored := { stored := session.stored }

end Session

/-- A query that is sent again whenever the connection is lost: whether it succeeds, what it leaves, and the outcomes of the
tries that follow. Where no outcome is left, tries succeed. -/
def persist (effect : Session Stored → Session Stored) : Session Stored → List Outcome → Bool × Session Stored × List Outcome
  | session, [] => (true, effect session, [])
  | session, .success :: outcomes => (true, effect session, outcomes)
  | session, .error :: outcomes => (false, session, outcomes)
  | session, .lost :: outcomes => persist effect session.discarded outcomes

/-- Statements one after another, up to the first that does not succeed. -/
def sendAll : List (Stored → Stored) → Session Stored → List Outcome → Bool × Session Stored × List Outcome
  | [], session, outcomes => (true, session, outcomes)
  | effect :: effects, session, outcomes =>
    let (sent, session, outcomes) := persist (fun session => session.apply effect) session outcomes
    if sent then sendAll effects session outcomes else (false, session, outcomes)

/-- What is left of the outcomes when a query has succeeded. -/
def answered : List Outcome → Option (List Outcome)
  | [] => some []
  | .success :: outcomes => some outcomes
  | .error :: _ => none
  | .lost :: outcomes => answered outcomes

/-- How many of some queries succeed before one does not. -/
def done : List Outcome → Nat → Nat
  | [], count => count
  | _, 0 => 0
  | .success :: outcomes, count + 1 => done outcomes count + 1
  | .error :: _, _ + 1 => 0
  | .lost :: outcomes, count + 1 => done outcomes (count + 1)

/-- How many of them have succeeded when the connection is first lost. -/
def lostAfter : List Outcome → Nat → Option Nat
  | [], _ => none
  | _, 0 => none
  | .success :: outcomes, count + 1 => (lostAfter outcomes count).map (· + 1)
  | .error :: _, _ + 1 => none
  | .lost :: _, _ + 1 => some 0

/-- The effects one after another. -/
def applyAll (effects : List (Stored → Stored)) (stored : Stored) : Stored :=
  effects.foldl (fun stored effect => effect stored) stored

@[simp] theorem applyAll_nil (stored : Stored) : applyAll [] stored = stored := rfl

@[simp] theorem applyAll_cons (effect : Stored → Stored) (effects : List (Stored → Stored)) (stored : Stored) :
    applyAll (effect :: effects) stored = applyAll effects (effect stored) := rfl

theorem applyAll_append (first second : List (Stored → Stored)) (stored : Stored) :
    applyAll (first ++ second) stored = applyAll second (applyAll first stored) :=
  List.foldl_append

theorem done_le (outcomes : List Outcome) (count : Nat) : done outcomes count ≤ count := by
  fun_induction done outcomes count with
  | case1 => exact Nat.le_refl _
  | case2 => exact Nat.le_refl _
  | case3 outcomes count ih => exact Nat.succ_le_succ ih
  | case4 => exact Nat.zero_le _
  | case5 outcomes count ih => exact ih

theorem lostAfter_le {outcomes : List Outcome} {count first : Nat} (lost : lostAfter outcomes count = some first) :
    first ≤ done outcomes count := by
  induction outcomes generalizing count first with
  | nil => simp [lostAfter] at lost
  | cons outcome outcomes ih =>
    cases count with
    | zero => simp [lostAfter] at lost
    | succ count =>
      cases outcome with
      | success =>
        obtain ⟨before, there, rfl⟩ := Option.map_eq_some_iff.mp lost
        exact Nat.succ_le_succ (ih there)
      | error => simp [lostAfter] at lost
      | lost =>
        rw [show first = 0 from (Option.some.inj lost).symm]
        exact Nat.zero_le _

/-- Where no outcome is left, the statements of a transaction succeed. -/
theorem sendAll_transaction_nil (effects : List (Stored → Stored)) (stored changed : Stored) :
    sendAll effects { stored, transaction := some changed } [] =
      (true, { stored, transaction := some (applyAll effects changed) }, []) := by
  induction effects generalizing changed with
  | nil => rfl
  | cons effect effects ih => exact ih (effect changed)

theorem sendAll_autocommit_nil (effects : List (Stored → Stored)) (stored : Stored) :
    sendAll effects { stored } [] = (true, { stored := applyAll effects stored }, []) := by
  induction effects generalizing stored with
  | nil => rfl
  | cons effect effects ih => exact ih (effect stored)

/-- Without a transaction the statements take effect as far as they succeed. -/
theorem sendAll_autocommit (effects : List (Stored → Stored)) (stored : Stored) (outcomes : List Outcome) :
    (sendAll effects { stored } outcomes).1 = decide (done outcomes effects.length = effects.length) ∧
      (sendAll effects { stored } outcomes).2.1 = { stored := applyAll (effects.take (done outcomes effects.length)) stored } := by
  induction outcomes generalizing effects stored with
  | nil =>
    rw [sendAll_autocommit_nil]
    simp [done]
  | cons outcome outcomes ih =>
    cases effects with
    | nil => cases outcome <;> exact ⟨rfl, rfl⟩
    | cons effect effects =>
      cases outcome with
      | success =>
        have rest := ih effects (effect stored)
        constructor
        · simpa [sendAll, persist, done, Session.apply] using rest.1
        · simpa [sendAll, persist, done, Session.apply] using rest.2
      | error => exact ⟨rfl, rfl⟩
      | lost => exact ih (effect :: effects) stored

/-- In a transaction they take effect together, unless the connection is lost: then those before are discarded, and those
after take effect at once. -/
theorem sendAll_transaction (effects : List (Stored → Stored)) (stored changed : Stored) (outcomes : List Outcome) :
    (sendAll effects { stored, transaction := some changed } outcomes).1 =
        decide (done outcomes effects.length = effects.length) ∧
      (sendAll effects { stored, transaction := some changed } outcomes).2.1 =
        match lostAfter outcomes effects.length with
        | none => { stored, transaction := some (applyAll (effects.take (done outcomes effects.length)) changed) }
        | some first => { stored := applyAll ((effects.take (done outcomes effects.length)).drop first) stored } := by
  induction outcomes generalizing effects changed with
  | nil =>
    rw [sendAll_transaction_nil]
    simp [done, lostAfter]
  | cons outcome outcomes ih =>
    cases effects with
    | nil => cases outcome <;> exact ⟨rfl, rfl⟩
    | cons effect effects =>
      cases outcome with
      | success =>
        have rest := ih effects (effect changed)
        constructor
        · simpa [sendAll, persist, done, Session.apply] using rest.1
        · have is : (sendAll (effect :: effects) { stored, transaction := some changed } (.success :: outcomes)).2.1 =
              (sendAll effects { stored, transaction := some (effect changed) } outcomes).2.1 := rfl
          rw [is, rest.2]
          simp only [List.length_cons, done, lostAfter]
          cases lostAfter outcomes effects.length with
          | none => rfl
          | some first => rfl
      | error => exact ⟨rfl, rfl⟩
      | lost => exact sendAll_autocommit (effect :: effects) stored outcomes

/-- A query without a transaction. -/
theorem persist_single (effect : Session Stored → Session Stored) (stored : Stored) (outcomes : List Outcome) :
    persist effect { stored } outcomes =
      match answered outcomes with
      | none => (false, { stored }, (persist effect { stored } outcomes).2.2)
      | some rest => (true, effect { stored }, rest) := by
  induction outcomes with
  | nil => rfl
  | cons outcome outcomes ih =>
    cases outcome with
    | success => rfl
    | error => rfl
    | lost => exact ih

end Styller.Library
