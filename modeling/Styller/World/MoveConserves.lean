import Styller.World.Exchange
import Styller.World.MoveOutcome
import Styller.World.Table

/-! `Game::internalMoveItem` neither loses nor makes units. -/

namespace Styller.Game

open Library Layout

/-- What the move relies on: the destination is ready for the item, and for an exchange the
source keeps what comes back. -/
structure Orderly (env : Env) (game : Game) (move : Move) : Prop where
  ready : game.Ready env move.item (game.destination env move)
  exchange : ∀ toItem, (game.destination env move).toItem = some toItem →
    game.queryAdd env (game.destination env move).cylinder (game.destination env move).index move.item
      move.count (game.destination env move).flags move.actor = .needExchange →
    game.Keeps env move.fromCylinder toItem

variable {env : Env} {game : Game} {move : Move} {ret : ReturnValue} {after : Game}

theorem Exchanges.exchangeable {toItem : ItemPtr} (exchanges : Exchanges env game move toItem)
    (sound : game.layout.Sound env.items) (held : move.item ∈ game.contents move.fromCylinder) :
    game.Exchangeable env move (game.destination env move) toItem where
  sound := sound
  held := held
  atDest := exchanges.atDest
  settled := destination_settled env move
  needs := exchanges.needs
  back := by
    have answer := exchanges.answer
    unfold exchangeAnswer at answer
    simp only at answer
    split at answer
    · rename_i refused
      exact absurd answer refused
    · rename_i allowed
      exact not_not.mp allowed
  removable := exchanges.removable

/-- A move that finds its destination in order loses and makes nothing: the cylinders
that take part hold as many units of every type after it as before it, whatever is
answered, and every item is in one place. -/
theorem internalMoveItem_conserves (sound : game.layout.Sound env.items)
    (held : move.item ∈ game.contents move.fromCylinder) (orderly : Orderly env game move)
    (moved : game.internalMoveItem env move = some (ret, after)) :
    after.layout.Sound env.items ∧ ∀ type holders, move.fromCylinder ∈ holders →
      (game.destination env move).cylinder ∈ holders →
      after.layout.total env.items type holders = game.layout.total env.items type holders := by
  have ready := orderly.ready
  have calm : game.layout.Calm (game.destination env move).cylinder :=
    fun pos here => (ready.keeps pos here).1
  have quiet : ∀ pos, (game.destination env move).cylinder = .tile pos →
      (game.items move.item).kind.receives = false := fun pos here => (ready.keeps pos here).2.1
  generalize result_eq : (ret, after) = result at moved
  have afterEq : after = result.2 := congrArg Prod.snd result_eq
  subst afterEq
  cases internalMoveItem_outcome moved with
  | unchanged _ => exact ⟨sound, fun _ _ _ _ => rfl⟩
  | moved apart allowed admitted =>
    have deliverable := deliverable_of_settled sound held apart (destination_settled env move) ready
      allowed admitted
    have delivered := transfer_delivered deliverable calm quiet
    exact ⟨delivered.sound, fun type holders => delivered.total_same type⟩
  | refused toItem exchanges refused =>
    have exchangeable := exchanges.exchangeable sound held
    have delivered := exchangeable.delivered (orderly.exchange toItem exchanges.atDest exchanges.needs)
    exact ⟨delivered.sound, fun type holders fromHere toHere => delivered.total_same type toHere fromHere⟩
  | exchanged toItem exchanges admitted =>
    have exchangeable := exchanges.exchangeable sound held
    have keeps := orderly.exchange toItem exchanges.atDest exchanges.needs
    have swapped := exchangeable.delivered keeps
    obtain ⟨allowed, admitted⟩ := answerAfterSwap_noError admitted
    have deliverable := exchangeable.deliverable keeps ready exchanges.apart allowed admitted
    have sameKind : ((game.swapOut env move (game.destination env move) toItem).items move.item).kind =
        (game.items move.item).kind := by
      obtain ⟨take, put⟩ := exchangeable.swapOut keeps
      exact congrFun (put.kind.trans take.kind) move.item
    have delivered := transfer_delivered deliverable (exchangeable.calm keeps calm)
      (fun pos here => sameKind ▸ quiet pos here)
    refine ⟨delivered.sound, ?_⟩
    intro type holders fromHere toHere
    rw [delivered.total_same type fromHere toHere, swapped.total_same type toHere fromHere]

/-- A bag with 60 gold coins on the ground, and a player with 70 in the backpack. -/
def coinGame : Game :=
  ofTables
    [{ id := 1987, kind := .container, maxSize := 8, itemlist := [1], parent := some (.tile ⟨100, 100, 7⟩) },
     { id := 2148, count := 60, parent := some (.item 0) },
     { id := 1988, kind := .container, maxSize := 20, itemlist := [3], parent := some (.player 1) },
     { id := 2148, count := 70, parent := some (.item 2) },
     { id := 103, parent := some (.tile ⟨100, 100, 7⟩) }]
    [(1, { inventory := fun slot => if slot = 3 then some 2 else none, capacity := 40000,
           tile := some ⟨100, 100, 7⟩ })]
    [(⟨100, 100, 7⟩, { ground := some 4, downItems := [0] })]

def coinMove : Move :=
  { fromCylinder := .item 0, toCylinder := .item 2, index := 0, item := 1, count := 60 }

theorem coinMove_destination :
    coinGame.destination gameEnv coinMove = ⟨.item 2, 0, some 3, CylinderFlags.none⟩ := by decide

theorem coinMove_orderly : Orderly gameEnv coinGame coinMove where
  ready := by
    rw [coinMove_destination]
    refine ⟨?_, ?_, ?_⟩
    · intro owner here
      cases here
    · intro holder here
      cases here
      decide
    · intro pos here
      cases here
  exchange := by
    intro toItem _ _ pos here
    cases here

theorem internalMoveItem_conserves_coins : ∃ ret after,
    coinGame.internalMoveItem gameEnv coinMove = some (ret, after) ∧
      after.layout.total gameItems 2148 {.item 0, .item 2} =
        coinGame.layout.total gameItems 2148 {.item 0, .item 2} := by
  have moved : ∃ result, coinGame.internalMoveItem gameEnv coinMove = some result :=
    Option.isSome_iff_exists.mp (by decide)
  obtain ⟨⟨ret, after⟩, moved⟩ := moved
  have sound : coinGame.layout.Sound gameEnv.items := sound_ofTables (by decide)
  have conserved := internalMoveItem_conserves sound (by decide) coinMove_orderly moved
  rw [coinMove_destination] at conserved
  exact ⟨ret, after, moved, conserved.2 2148 _ (by decide) (by decide)⟩

/-- A bag with a sword next to a dustbin. -/
def dustbinGame : Game :=
  ofTables
    [{ id := 1987, kind := .container, maxSize := 8, itemlist := [1], parent := some (.tile ⟨100, 100, 7⟩) },
     { id := 2376, parent := some (.item 0) },
     { id := 103, parent := some (.tile ⟨100, 100, 7⟩) },
     { id := 103, parent := some (.tile ⟨100, 101, 7⟩) },
     { id := 1777, kind := .trashHolder, parent := some (.tile ⟨100, 101, 7⟩) }]
    []
    [(⟨100, 100, 7⟩, { ground := some 2, downItems := [0] }),
     (⟨100, 101, 7⟩, { ground := some 3, downItems := [4], flags := fun flag => flag = .trashHolder })]

/-- The sword goes to the tile of the dustbin. -/
def dustbinMove : Move :=
  { fromCylinder := .item 0, toCylinder := .tile ⟨100, 101, 7⟩, index := indexWhereever, item := 1,
    count := 1 }

theorem dustbin_takes_sword : dustbinGame.layout.Sound gameEnv.items ∧
    ∃ after, dustbinGame.internalMoveItem gameEnv dustbinMove = some (.noError, after) ∧
      dustbinGame.layout.total gameItems 2376 {.item 0, .tile ⟨100, 101, 7⟩} = 1 ∧
      after.layout.total gameItems 2376 {.item 0, .tile ⟨100, 101, 7⟩} = 0 := by
  refine ⟨sound_ofTables (by decide), _, rfl, ?_, ?_⟩
  · decide
  · decide

end Styller.Game
