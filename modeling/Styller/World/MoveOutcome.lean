import Styller.World.MoveItem

/-! The ways through `Game::internalMoveItem`. -/

namespace Styller.Game

abbrev addAnswer (env : Env) (game : Game) (move : Move) : ReturnValue :=
  game.queryAdd env (game.destination env move).cylinder (game.destination env move).index move.item
    move.count (game.destination env move).flags move.actor

/-- The exchange is carried out: the source takes the other item, and it may leave. -/
structure Exchanges (env : Env) (game : Game) (move : Move) (toItem : ItemPtr) : Prop where
  atDest : (game.destination env move).toItem = some toItem
  apart : toItem ≠ move.item
  needs : game.addAnswer env move = .needExchange
  answer : game.exchangeAnswer env move (game.destination env move) toItem = .noError
  removable : game.queryRemove env (game.destination env move).cylinder toItem
    (game.items toItem).count (game.destination env move).flags move.actor = .noError

abbrev freed (env : Env) (game : Game) (move : Move) : Destination :=
  { game.destination env move with toItem := none }

/-- What the checks after an exchange answer. -/
def answerAfterSwap (env : Env) (game : Game) (move : Move) (toItem : ItemPtr) : ReturnValue :=
  let swapped := game.swapOut env move (game.destination env move) toItem
  let ret := swapped.queryAdd env (game.freed env move).cylinder (game.freed env move).index move.item
    move.count (game.freed env move).flags move.actor
  if ret ≠ .noError then ret else swapped.refusal env move (game.freed env move)

/-- The ways through `internalMoveItem`. -/
inductive Outcome (env : Env) (game : Game) (move : Move) : ReturnValue × Game → Prop
  | unchanged (ret : ReturnValue) : Outcome env game move (ret, game)
  | moved (apart : (game.destination env move).toItem ≠ some move.item)
      (allowed : game.addAnswer env move = .noError ∨ game.addAnswer env move = .needExchange)
      (admitted : game.refusal env move (game.destination env move) = .noError) :
      Outcome env game move (game.transfer env move (game.destination env move))
  | refused (toItem : ItemPtr) (exchanges : Exchanges env game move toItem)
      (refused : game.answerAfterSwap env move toItem ≠ .noError) :
      Outcome env game move (game.answerAfterSwap env move toItem,
        game.swapOut env move (game.destination env move) toItem)
  | exchanged (toItem : ItemPtr) (exchanges : Exchanges env game move toItem)
      (admitted : game.answerAfterSwap env move toItem = .noError) :
      Outcome env game move ((game.swapOut env move (game.destination env move) toItem).transfer env
        move (game.freed env move))

variable {env : Env} {game : Game} {move : Move}

/-- What happens after an exchange. -/
theorem swapped_outcome {result : ReturnValue × Game} {toItem : ItemPtr}
    (exchanges : Exchanges env game move toItem)
    (moved : (let swapped := game.swapOut env move (game.destination env move) toItem
      let ret := swapped.queryAdd env (game.destination env move).cylinder
        (game.destination env move).index move.item move.count (game.destination env move).flags
        move.actor
      if ret = .noError then
        if swapped.refusal env move (game.freed env move) = .noError then
          some (swapped.transfer env move (game.freed env move))
        else some (swapped.refusal env move (game.freed env move), swapped)
      else some (ret, swapped)) = some result) : Outcome env game move result := by
  simp only at moved
  split at moved
  · rename_i allowed
    split at moved
    · rename_i admitted
      cases moved
      have answer : game.answerAfterSwap env move toItem = .noError := by
        simp [answerAfterSwap, allowed, admitted]
      exact .exchanged toItem exchanges answer
    · rename_i refused
      cases moved
      have answer : game.answerAfterSwap env move toItem = (game.swapOut env move
          (game.destination env move) toItem).refusal env move (game.freed env move) := by
        simp [answerAfterSwap, allowed]
      rw [← answer]
      exact .refused toItem exchanges (answer ▸ refused)
  · rename_i refused
    cases moved
    have answer : game.answerAfterSwap env move toItem = (game.swapOut env move
        (game.destination env move) toItem).queryAdd env (game.destination env move).cylinder
        (game.destination env move).index move.item move.count (game.destination env move).flags
        move.actor := by
      simp [answerAfterSwap, refused]
    rw [← answer]
    exact .refused toItem exchanges (answer ▸ refused)

theorem internalMoveItem_outcome {result : ReturnValue × Game}
    (moved : game.internalMoveItem env move = some result) : Outcome env game move result := by
  unfold internalMoveItem at moved
  simp only at moved
  split at moved
  · cases moved
    exact .unchanged _
  · split at moved
    · cases moved
      exact .unchanged _
    · rename_i apart
      by_cases needs : game.addAnswer env move = .needExchange
      · rw [if_pos needs] at moved
        unfold exchange at moved
        cases atDest : (game.destination env move).toItem with
        | none => simp [atDest] at moved
        | some toItem =>
          have different : toItem ≠ move.item := fun same => apart (same ▸ atDest)
          simp only [atDest] at moved
          by_cases answer : game.exchangeAnswer env move (game.destination env move) toItem = .noError
          · by_cases removable : game.queryRemove env (game.destination env move).cylinder toItem
                (game.items toItem).count (game.destination env move).flags move.actor = .noError
            · exact swapped_outcome ⟨atDest, different, needs, answer, removable⟩
                (by simpa [answer, removable] using moved)
            · have kept : { game.destination env move with toItem := some toItem } =
                  game.destination env move := by rw [← atDest]
              simp only [answer, removable, ne_eq, not_true, if_false, kept] at moved
              by_cases admitted : game.refusal env move (game.destination env move) = .noError
              · simp only [admitted, not_true, if_false] at moved
                cases moved
                exact .moved apart (.inr needs) admitted
              · simp only [admitted, not_false_eq_true, if_true] at moved
                cases moved
                exact .unchanged _
          · simp only [ne_eq, answer, not_false_eq_true, if_true] at moved
            cases moved
            exact .unchanged _
      · rw [if_neg needs] at moved
        simp only at moved
        split at moved
        · cases moved
          exact .unchanged _
        · rename_i allowed
          split at moved
          · cases moved
            exact .unchanged _
          · rename_i admitted
            cases moved
            exact .moved apart (.inl (not_not.mp allowed)) (not_not.mp admitted)

theorem answerAfterSwap_noError {toItem : ItemPtr}
    (admitted : game.answerAfterSwap env move toItem = .noError) :
    (game.swapOut env move (game.destination env move) toItem).queryAdd env
        (game.destination env move).cylinder (game.destination env move).index move.item move.count
        (game.destination env move).flags move.actor = .noError ∧
      (game.swapOut env move (game.destination env move) toItem).refusal env move
        (game.freed env move) = .noError := by
  unfold answerAfterSwap at admitted
  simp only at admitted
  split at admitted
  · rename_i refused
    exact absurd admitted refused
  · rename_i allowed
    exact ⟨not_not.mp allowed, admitted⟩

/-- The move is allowed by the event that is asked first. -/
abbrev Asked (env : Env) (game : Game) (move : Move) : Prop :=
  game.askMove env move move.item (toUInt16 move.count) move.fromCylinder move.toCylinder = .noError

theorem internalMoveItem_of_not_asked (refused : ¬ game.Asked env move) {result : ReturnValue × Game}
    (moved : game.internalMoveItem env move = some result) : result.2 = game := by
  unfold internalMoveItem at moved
  simp only [if_pos refused] at moved
  cases moved
  rfl

/-- An exchange that is followed by a refusal. -/
theorem internalMoveItem_of_exchanges (asked : game.Asked env move) {toItem : ItemPtr}
    (exchanges : Exchanges env game move toItem) (refused : game.answerAfterSwap env move toItem ≠ .noError) :
    game.internalMoveItem env move = some (game.answerAfterSwap env move toItem,
      game.swapOut env move (game.destination env move) toItem) := by
  have apart : ¬ some toItem = some move.item := fun same => exchanges.apart (Option.some.inj same)
  unfold internalMoveItem exchange
  simp only [asked, ne_eq, not_true, if_false, if_neg apart, exchanges.needs, if_true, exchanges.atDest,
    exchanges.answer, exchanges.removable]
  unfold answerAfterSwap at refused ⊢
  simp only at refused ⊢
  by_cases again : (game.swapOut env move (game.destination env move) toItem).queryAdd env
      (game.destination env move).cylinder (game.destination env move).index move.item move.count
      (game.destination env move).flags move.actor = .noError
  · simp only [again, ne_eq, not_true, if_false] at refused ⊢
    rw [if_pos refused]
  · simp only [again, ne_eq, not_false_eq_true, if_true]

/-- A move without an exchange. -/
theorem internalMoveItem_of_admitted (asked : game.Asked env move)
    (apart : (game.destination env move).toItem ≠ some move.item)
    (allowed : game.addAnswer env move = .noError)
    (admitted : game.refusal env move (game.destination env move) = .noError) :
    game.internalMoveItem env move = some (game.transfer env move (game.destination env move)) := by
  unfold internalMoveItem
  simp only [asked, ne_eq, not_true, if_false, if_neg apart, allowed, reduceCtorEq, admitted]

end Styller.Game
