import Styller.Item.Item
import Styller.Library.Orbit

/-! Creatures on teleports: a teleport moves a creature on, and the tile where it arrives may have a teleport again. -/

namespace Styller

open Library Option

structure Teleport where
  destPos : Position
  magicEffect : Nat := 0

/-- The map as far as teleports are concerned: its tiles, each with what `getTeleportItem` finds. -/
structure TeleportMap where
  getTile : Position → Option (Option Teleport)
  /-- The tiles with a teleport. -/
  places : List Position
  finite : ∀ pos teleport, getTile pos = some (some teleport) → pos ∈ places

/-- What others get to know of a creature on its way: a turn, an effect, and the calls of the movement scripts. -/
inductive TravelEvent where
  | turnWest
  | turnEast
  | magicEffect (pos : Position) (effect : Nat)
  | stepOut (pos : Position)
  | stepIn (pos : Position)

/-- A creature, and what has come of it so far. -/
structure Traveller where
  position : Position
  events : List TravelEvent := []

def Traveller.tell (creature : Traveller) (events : List TravelEvent) : Traveller :=
  { creature with events := creature.events ++ events }

/-- `internalCreatureTurn` and `Map::moveCreature` from a teleport, up to the notification of the new tile. -/
def Traveller.moveTo (creature : Traveller) (destPos : Position) : Traveller :=
  { creature.tell [if creature.position.x > destPos.x then .turnWest else .turnEast, .stepOut creature.position] with
    position := destPos }

/-- The effects where a teleport has taken a creature away, and where it has brought it. -/
def Teleport.effects (teleport : Teleport) (origPos : Position) : List TravelEvent :=
  if teleport.magicEffect ≠ 0 then
    [.magicEffect origPos teleport.magicEffect, .magicEffect teleport.destPos teleport.magicEffect]
  else []

namespace TeleportMap

section
variable (map : TeleportMap)

/-- `getTeleportItem` of the tile at a position, if there is one. -/
def teleportAt (pos : Position) : Option Teleport := (map.getTile pos).join

/-- The loop of `Teleport::addThing`: whether it finds that the teleports come round. -/
def comesRound : Nat → List Position → Teleport → Option Bool
  | 0, _, _ => none
  | fuel + 1, lastPositions, destTeleport =>
    let nextPos := destTeleport.destPos
    if nextPos ∈ lastPositions then some true
    else
      match map.getTile nextPos with
      | none => some false
      | some none => some false
      | some (some destTeleport) => comesRound fuel (lastPositions ++ [nextPos]) destTeleport

/-- The check of `Teleport::addThing` before the creature is moved. -/
def refused (fuel : Nat) (pos : Position) (destTeleport : Option Teleport) : Option Bool :=
  match destTeleport with
  | some destTeleport => map.comesRound fuel [pos] destTeleport
  | none => some false

/-- `Tile::postAddNotification` for a creature at its position, with `Teleport::addThing` and `Map::moveCreature` as far as they
concern it. -/
def postAddNotification : Nat → Traveller → Option Traveller
  | 0, _ => none
  | fuel + 1, creature =>
    let addThing : Option Traveller :=
      match map.teleportAt creature.position with
      | none => some creature
      | some teleport =>
        match map.getTile teleport.destPos with
        | none => some creature
        | some destTeleport =>
          match map.refused fuel creature.position destTeleport with
          | none => none
          | some true => some creature
          | some false =>
            (postAddNotification fuel (creature.moveTo teleport.destPos)).map fun arrived =>
              arrived.tell (teleport.effects creature.position)
    addThing.map fun after => after.tell [.stepIn creature.position]

end

section
variable (map : TeleportMap)

def destination (pos : Position) : Option Position := (map.teleportAt pos).map Teleport.destPos

/-- A tile without a teleport. -/
def IsPlain (pos : Position) : Prop := map.getTile pos = some none

/-- The notification comes to this end, given enough fuel. -/
def ComesTo (creature final : Traveller) : Prop :=
  ∃ enough, ∀ fuel ≥ enough, map.postAddNotification fuel creature = some final

end

section
variable {map : TeleportMap} {creature : Traveller}

open Orbit

theorem destination_of_tile {pos : Position} {teleport : Teleport} (tile : map.getTile pos = some (some teleport)) :
    map.destination pos = some teleport.destPos := by
  rw [destination, teleportAt, tile]
  rfl

theorem destination_of_none {pos : Position} (none_here : map.teleportAt pos = none) : map.destination pos = none := by
  rw [destination, none_here]
  rfl

theorem tile_of_destination {pos other : Position} (leads : map.destination pos = some other) :
    ∃ teleport, map.getTile pos = some (some teleport) ∧ teleport.destPos = other := by
  obtain ⟨teleport, found, same⟩ := map_eq_some_iff.mp leads
  exact ⟨teleport, join_eq_some_iff.mp found, same⟩

/-- On a way that ends the loop meets no position twice. -/
theorem comesRound_of_ends {steps fuel : Nat} {lastPositions : List Position} {destTeleport : Teleport} {goal : Position}
    (ends : EndsIn map.destination steps destTeleport.destPos goal) (enough : steps < fuel)
    (before : ∀ pos ∈ lastPositions, ∃ more, steps < more ∧ EndsIn map.destination more pos goal) :
    map.comesRound fuel lastPositions destTeleport = some false := by
  induction fuel generalizing steps lastPositions destTeleport with
  | zero => cases enough
  | succ fuel ih =>
    have fresh : destTeleport.destPos ∉ lastPositions := by
      intro listed
      obtain ⟨more, far, again⟩ := before _ listed
      exact absurd (ends.unique again).1 (Nat.ne_of_lt far)
    simp only [comesRound, if_neg fresh]
    cases tile : map.getTile destTeleport.destPos with
    | none => rfl
    | some found =>
      cases found with
      | none => rfl
      | some nextTeleport =>
        obtain ⟨fewer, rfl, later⟩ := ends.further (destination_of_tile tile)
        apply ih later (Nat.lt_of_succ_lt_succ enough)
        intro pos listed
        rcases List.mem_append.mp listed with old | new
        · obtain ⟨more, far, again⟩ := before pos old
          exact ⟨more, Nat.lt_of_succ_lt far, again⟩
        · cases List.mem_singleton.mp new
          exact ⟨fewer + 1, Nat.lt_succ_self _, ends⟩

/-- On an endless way the loop meets a position again, when it has seen all teleports. -/
theorem comesRound_of_endless {fuel : Nat} {lastPositions : List Position} {destTeleport : Teleport}
    (endless : Endless map.destination destTeleport.destPos)
    (enough : (unseen map.places lastPositions).length < fuel) :
    map.comesRound fuel lastPositions destTeleport = some true := by
  induction fuel generalizing lastPositions destTeleport with
  | zero => cases enough
  | succ fuel ih =>
    rw [comesRound]
    split
    · rfl
    next fresh =>
      obtain ⟨other, leads⟩ := endless.leads
      obtain ⟨nextTeleport, tile, rfl⟩ := tile_of_destination leads
      rw [tile]
      apply ih (endless.step leads)
      have less := unseen_append (map.finite _ _ tile) fresh
      omega

/-- A teleport that ends its way, or that leads to no tile. -/
theorem comesTo_of_stays (stays : map.teleportAt creature.position = none ∨
      ∃ teleport, map.teleportAt creature.position = some teleport ∧ map.getTile teleport.destPos = none) :
    map.ComesTo creature (creature.tell [.stepIn creature.position]) := by
  refine ⟨1, fun fuel enough => ?_⟩
  obtain ⟨fuel, rfl⟩ := Nat.exists_eq_add_of_le' enough
  rcases stays with bare | ⟨teleport, found, missing⟩
  · simp only [postAddNotification, bare, map_some]
  · simp only [postAddNotification, found, missing, map_some]

theorem teleportAt_of_tile {pos : Position} {teleport : Teleport} (tile : map.getTile pos = some (some teleport)) :
    map.teleportAt pos = some teleport := by
  rw [teleportAt, tile]
  rfl

/-- An endless way is not begun. -/
theorem comesTo_of_endless (endless : Endless map.destination creature.position) :
    map.ComesTo creature (creature.tell [.stepIn creature.position]) := by
  obtain ⟨first, leads⟩ := endless.leads
  obtain ⟨teleport, tile, rfl⟩ := tile_of_destination leads
  obtain ⟨second, further⟩ := (endless.step leads).leads
  obtain ⟨destTeleport, destTile, rfl⟩ := tile_of_destination further
  refine ⟨(unseen map.places [creature.position]).length + 2, fun fuel enough => ?_⟩
  cases fuel with
  | zero => omega
  | succ fuel =>
    have round : map.comesRound fuel [creature.position] destTeleport = some true :=
      comesRound_of_endless ((endless.step leads).step further) (by omega)
    simp only [postAddNotification, teleportAt_of_tile tile, destTile, refused, round, map_some]

theorem comesTo_of_moved {steps : Nat} {teleport : Teleport} {destTeleport : Option Teleport} {goal : Position} {final : Traveller}
    (tile : map.getTile creature.position = some (some teleport)) (destTile : map.getTile teleport.destPos = some destTeleport)
    (ends : EndsIn map.destination steps teleport.destPos goal)
    (later : map.ComesTo (creature.moveTo teleport.destPos) final) :
    map.ComesTo creature ((final.tell (teleport.effects creature.position)).tell [.stepIn creature.position]) := by
  obtain ⟨enough, later⟩ := later
  have whole : EndsIn map.destination (steps + 1) creature.position goal := .step (destination_of_tile tile) ends
  have free : ∀ fuel > steps, map.refused fuel creature.position destTeleport = some false := by
    intro fuel more
    cases destTeleport with
    | none => rfl
    | some destTeleport =>
      obtain ⟨fewer, rfl, further⟩ := ends.further (destination_of_tile destTile)
      apply comesRound_of_ends further (Nat.lt_of_succ_lt more)
      intro pos listed
      cases List.mem_singleton.mp listed
      exact ⟨fewer + 1 + 1, by omega, whole⟩
  refine ⟨enough + steps + 2, fun fuel more => ?_⟩
  cases fuel with
  | zero => omega
  | succ fuel =>
    simp only [postAddNotification, teleportAt_of_tile tile, destTile, free fuel (by omega), later fuel (by omega),
      map_some]

/-- A way that ends is gone to its end, or to the last teleport if that leads to no tile. -/
theorem comesTo_of_ends {steps : Nat} {goal : Position} (ends : EndsIn map.destination steps creature.position goal) :
    ∃ final, map.ComesTo creature final ∧
      (final.position = goal ∨ map.getTile goal = none ∧ EndsIn map.destination 1 final.position goal) := by
  induction steps generalizing creature with
  | zero =>
    cases ends with
    | here last =>
      have bare : map.teleportAt creature.position = none := map_eq_none_iff.mp last
      exact ⟨_, comesTo_of_stays (.inl bare), .inl rfl⟩
  | succ steps ih =>
    have whole := ends
    cases ends with
    | step leads later =>
      obtain ⟨teleport, tile, rfl⟩ := tile_of_destination leads
      cases destTile : map.getTile teleport.destPos with
      | none =>
        refine ⟨_, comesTo_of_stays (.inr ⟨teleport, teleportAt_of_tile tile, destTile⟩), .inr ?_⟩
        cases later with
        | here last => exact ⟨destTile, whole⟩
        | step further _ =>
          obtain ⟨_, found, _⟩ := tile_of_destination further
          exact absurd (destTile.symm.trans found) nofun
      | some destTeleport =>
        obtain ⟨final, comes, place⟩ := @ih (creature.moveTo teleport.destPos) later
        exact ⟨_, comesTo_of_moved tile destTile later comes, place⟩

/-- A creature on a teleport always comes to an end: to the tile without a teleport that the teleports lead to, or, where they
come round, nowhere. -/
theorem comesTo_end (map : TeleportMap) (creature : Traveller) :
    ∃ final, map.ComesTo creature final ∧
      (∀ goal, Leads map.destination creature.position goal → map.IsPlain goal → final.position = goal) ∧
      (ComesRound map.destination creature.position → final = creature.tell [.stepIn creature.position]) := by
  by_cases ends : ∃ steps goal, EndsIn map.destination steps creature.position goal
  · obtain ⟨steps, goal, ends⟩ := ends
    obtain ⟨final, comes, place⟩ := comesTo_of_ends ends
    refine ⟨final, comes, ?_, fun round => absurd ends (round.endless steps goal)⟩
    intro other leads plain
    have bare : map.destination other = none := destination_of_none (by rw [teleportAt, plain]; rfl)
    obtain ⟨count, arrives⟩ := EndsIn.of_leads leads bare
    obtain ⟨-, rfl⟩ := ends.unique arrives
    rcases place with here | ⟨missing, -⟩
    · exact here
    · exact absurd (missing.symm.trans plain) nofun
  · have endless : Endless map.destination creature.position := fun steps goal arrives => ends ⟨steps, goal, arrives⟩
    refine ⟨_, comesTo_of_endless endless, ?_, fun _ => rfl⟩
    intro goal leads plain
    have bare : map.destination goal = none := destination_of_none (by rw [teleportAt, plain]; rfl)
    obtain ⟨steps, arrives⟩ := EndsIn.of_leads leads bare
    exact absurd arrives (endless steps goal)

end

end TeleportMap

end Styller
