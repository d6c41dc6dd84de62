import Styller.Library.Shift
import Styller.Tile.Description

/-! The positions at which clients are told that a creature leaves a tile: one loop over the spectators takes them while the
creature is there, another one sends them when it is gone. -/

namespace Styller

open Library List

inductive Spectator where
  | player (viewer : Viewer)
  | other (id : CreatureId)

def Spectator.getPlayer : Spectator → Option Viewer
  | .player viewer => some viewer
  | .other _ => none

namespace TileStack

section
variable (tile : TileStack) (creature : CreatureId)

def oldStackPos (player : Viewer) : Int :=
  if player.canSeeCreature creature then tile.getClientIndexOfCreature player creature else -1

/-- The first loop of `Game::removeCreature`. -/
def oldStackPosVector (spectators : List Spectator) : List Int :=
  (spectators.filterMap Spectator.getPlayer).map (tile.oldStackPos creature)

/-- The second loop of `Game::removeCreature`: the calls of `sendRemoveTileThing`. -/
def sendRemovals (oldStackPosVector : List Int) : Nat → List Spectator → List (Viewer × Int)
  | _, [] => []
  | i, spectator :: spectators =>
    match spectator.getPlayer with
    | some player =>
      if player.canSeeCreature creature then
        (player, oldStackPosVector.getD i 0) :: sendRemovals oldStackPosVector (i + 1) spectators
      else sendRemovals oldStackPosVector i spectators
    | none => sendRemovals oldStackPosVector i spectators

/-- `Tile::removeCreature`, on the list of the tile. -/
def removeCreature : TileStack := { tile with creatures := tile.creatures.erase creature }

end

end TileStack

structure Standing where
  creature : CreatureId
  tile : TileStack
  spectators : List Spectator
  isRemoved : Bool := false

namespace Standing
variable (standing : Standing)

/-- The answer of `Game::removeCreature`, what is sent to the clients, and what is left. The summons of the creature are removed
by calls of their own. -/
def removeCreature : Bool × List (Viewer × Int) × Standing :=
  if standing.isRemoved then (false, [], standing)
  else
    let positions := standing.tile.oldStackPosVector standing.creature standing.spectators
    (true, TileStack.sendRemovals standing.creature positions 0 standing.spectators,
      { standing with tile := standing.tile.removeCreature standing.creature, isRemoved := true })

def players : List Viewer := standing.spectators.filterMap Spectator.getPlayer

def seeing : List Viewer := standing.players.filter fun player => player.canSeeCreature standing.creature

/-- Every seeing player is told the position that the creature has for it. -/
def TellsOwn : Prop :=
  standing.removeCreature.2.1 =
    standing.seeing.map fun player => (player, standing.tile.getClientIndexOfCreature player standing.creature)

/-- No player that does not see the creature comes before one that does. -/
def SeeingFirst : Prop :=
  standing.players.Pairwise fun earlier later =>
    later.canSeeCreature standing.creature = true → earlier.canSeeCreature standing.creature = true

end Standing

namespace TileStack

section
variable {tile : TileStack} {creature : CreatureId}

private theorem filterMap_player (viewer : Viewer) (spectators : List Spectator) :
    (.player viewer :: spectators : List Spectator).filterMap Spectator.getPlayer =
      viewer :: spectators.filterMap Spectator.getPlayer := rfl

private theorem filterMap_other (id : CreatureId) (spectators : List Spectator) :
    (.other id :: spectators : List Spectator).filterMap Spectator.getPlayer =
      spectators.filterMap Spectator.getPlayer := rfl

theorem clientIndexFrom_of_absent {viewer : Viewer} (list : List CreatureId) (absent : creature ∉ list) (n : Int) :
    clientIndexFrom viewer creature n list = -1 := by
  induction list generalizing n with
  | nil => rfl
  | cons other rest ih =>
    rw [mem_cons, not_or] at absent
    rw [clientIndexFrom, if_neg (Ne.symm absent.1), ih absent.2, ih absent.2, ite_self]

theorem clientIndexFrom_ge {viewer : Viewer} (list : List CreatureId) (present : creature ∈ list) (n : Int) :
    n ≤ clientIndexFrom viewer creature n list := by
  induction list generalizing n with
  | nil => cases present
  | cons other rest ih =>
    rw [clientIndexFrom]
    split
    · exact Int.le_refl n
    next different =>
      have later : creature ∈ rest := mem_of_ne_of_mem (Ne.symm different) present
      split
      · exact Int.le_trans (by omega) (ih later (n + 1))
      · exact ih later n

theorem getClientIndexOfCreature_eq_neg (viewer : Viewer) :
    tile.getClientIndexOfCreature viewer creature = -1 ↔ creature ∉ tile.creatures := by
  unfold getClientIndexOfCreature
  constructor
  · intro none present
    have low := @clientIndexFrom_ge creature viewer tile.creatures.reverse (mem_reverse.mpr present)
      ((if tile.ground.isSome then 1 else 0) + tile.getTopItemCount)
    simp only at none
    split at none <;> split at low <;> simp_all <;> omega
  · intro absent
    exact clientIndexFrom_of_absent _ (fun listed => absent (mem_reverse.mp listed)) _

private theorem getD_of_lt {positions : List Int} {i : Nat} (inside : i < positions.length) :
    positions.getD i 0 = positions[i] := by
  rw [getD_eq_getElem?_getD, getElem?_eq_getElem inside, Option.getD_some]

theorem sendRemovals_eq (positions : List Int) (i : Nat) (spectators : List Spectator)
    (enough : i + (spectators.filterMap Spectator.getPlayer).length ≤ positions.length) :
    sendRemovals creature positions i spectators =
      ((spectators.filterMap Spectator.getPlayer).filter (·.canSeeCreature creature)).zip (positions.drop i) := by
  induction spectators generalizing i with
  | nil => rfl
  | cons spectator spectators ih =>
    cases spectator with
    | other id =>
      rw [filterMap_other] at enough ⊢
      exact ih i enough
    | player viewer =>
      rw [filterMap_player] at enough ⊢
      rw [length_cons] at enough
      simp only [sendRemovals, Spectator.getPlayer]
      split
      next sees =>
        have inside : i < positions.length := by omega
        have kept : viewer :: (spectators.filterMap Spectator.getPlayer).filter (·.canSeeCreature creature) =
            (viewer :: spectators.filterMap Spectator.getPlayer).filter (·.canSeeCreature creature) := by
          simp [sees]
        rw [ih (i + 1) (by omega), ← kept, drop_eq_getElem_cons inside, zip_cons_cons, getD_of_lt inside]
      next blind =>
        have passed : (viewer :: spectators.filterMap Spectator.getPlayer).filter (·.canSeeCreature creature) =
            (spectators.filterMap Spectator.getPlayer).filter (·.canSeeCreature creature) := by
          simp [blind]
        rw [ih i (by omega), passed]

end

end TileStack

namespace Standing

theorem removals_eq (standing : Standing) (here : standing.isRemoved = false) :
    standing.removeCreature.2.1 = Shift.readInTurn (·.canSeeCreature standing.creature)
      (fun player => standing.tile.getClientIndexOfCreature player standing.creature) (-1) standing.players := by
  rw [removeCreature, here, if_neg Bool.false_ne_true]
  have length : (standing.tile.oldStackPosVector standing.creature standing.spectators).length = standing.players.length :=
    length_map _
  exact TileStack.sendRemovals_eq _ 0 standing.spectators (by rw [length, players, Nat.zero_add])

/-- A creature that is removed is removed for every client at the position that it has for that client, just where the players
that see it come before those that do not. -/
theorem tellsOwn_iff (standing : Standing) (here : standing.isRemoved = false) :
    standing.TellsOwn ↔ standing.creature ∈ standing.tile.creatures → standing.SeeingFirst := by
  rw [TellsOwn, removals_eq standing here, seeing]
  by_cases present : standing.creature ∈ standing.tile.creatures
  · have placed : ∀ player, standing.tile.getClientIndexOfCreature player standing.creature ≠ -1 :=
      fun player none => (TileStack.getClientIndexOfCreature_eq_neg player).mp none present
    rw [Shift.readInTurn_eq_iff placed, SeeingFirst]
    exact ⟨fun first _ => first, fun first => first present⟩
  · have none : ∀ player, standing.tile.getClientIndexOfCreature player standing.creature = -1 :=
      fun player => (TileStack.getClientIndexOfCreature_eq_neg player).mpr present
    exact iff_of_true (Shift.readInTurn_of_blank none _) (fun listed => absurd listed present)

/-- A gamemaster who is not seen logs out beside a player and another gamemaster. -/
def ghostLogout : Standing where
  creature := 1
  tile := { ground := some 0, creatures := [1] }
  spectators :=
    [.player { id := 2, position := ⟨101, 100, 7⟩, canSeeCreature := fun id => id ≠ 1 },
     .player { id := 3, position := ⟨102, 100, 7⟩, canSeeCreature := fun _ => true }]

theorem tellsOwn_iff_logout : ({ ghostLogout with spectators := ghostLogout.spectators.reverse } : Standing).TellsOwn := by
  apply (tellsOwn_iff _ rfl).mpr
  intro _
  refine .cons ?_ (.cons nofun .nil)
  intro later _ _
  rfl

/-- The other gamemaster is told to remove the thing at the position -1, that is, nothing. -/
theorem ghostLogout_not_told : ¬ ghostLogout.TellsOwn := by
  intro own
  have positions := congrArg (List.map Prod.snd) own
  exact absurd positions (by decide)

end Standing

end Styller
