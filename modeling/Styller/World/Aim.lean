import Styller.World.Destination

/-! What `queryDestination` knows about a container that it leads to: the item at the index, if the index is a place. -/

namespace Styller.Game

variable {env : Env} {game : Game} {ptr : ItemPtr}

/-- An index in a container comes with the item at it, and no limit is lifted. -/
structure Aimed (game : Game) (dest : Destination) : Prop where
  aim : ∀ container, dest.cylinder = .item container → (game.items container).isContainer = true →
    dest.index = indexWhereever ∨
      ∀ stack, game.getItemByIndex container dest.index = some stack → dest.toItem = some stack
  limited : ∀ container, dest.cylinder = .item container → dest.flags.noLimit = false

variable (env game ptr) in
/-- A container leads elsewhere with no place in mind, or to itself. -/
theorem containerQueryDestination_cases (container : ItemPtr) (index : Int) (destItem : Option ItemPtr)
    (flags : CylinderFlags) :
    let dest := game.containerQueryDestination env container index ptr destItem flags
    dest.flags = flags ∧ (dest.index = indexWhereever ∨ dest.cylinder = .item container ∧
      ∀ stack, game.getItemByIndex container dest.index = some stack → dest.toItem = some stack) := by
  unfold containerQueryDestination
  simp only
  split
  · split
    · split
      · exact ⟨rfl, .inl rfl⟩
      · exact ⟨rfl, .inl rfl⟩
    · exact ⟨rfl, .inl rfl⟩
  · generalize (if index = 255 ∨ index ≥ (game.items container).maxSize then indexWhereever else index) = place
    generalize (if index = 255 ∨ index ≥ (game.items container).maxSize then none else destItem) = old
    have found : place = indexWhereever ∨ ∀ stack, game.getItemByIndex container place = some stack →
        (if place ≠ indexWhereever then (game.getItemByIndex container place).or old else old) = some stack := by
      by_cases whereever : place = indexWhereever
      · exact .inl whereever
      · right
        intro stack there
        rw [if_pos whereever, there, Option.some_or]
    generalize (if place ≠ indexWhereever then (game.getItemByIndex container place).or old else old) = toItem at found
    have here : ∀ dest : Destination, dest = ⟨.item container, place, toItem, flags⟩ → dest.flags = flags ∧
        (dest.index = indexWhereever ∨ dest.cylinder = .item container ∧
          ∀ stack, game.getItemByIndex container dest.index = some stack → dest.toItem = some stack) := by
      rintro dest rfl
      exact ⟨rfl, found.imp_right (fun known => ⟨rfl, known⟩)⟩
    have searched : ∀ dest : Destination,
        (game.findStack env ptr (game.items container).itemlist 0 = none → dest = ⟨.item container, place, toItem, flags⟩) →
        (∀ n listItem, game.findStack env ptr (game.items container).itemlist 0 = some (n, listItem) →
          dest = ⟨.item container, n, some listItem, flags⟩) → dest.flags = flags ∧
          (dest.index = indexWhereever ∨ dest.cylinder = .item container ∧
            ∀ stack, game.getItemByIndex container dest.index = some stack → dest.toItem = some stack) := by
      intro dest missing same
      cases search : game.findStack env ptr (game.items container).itemlist 0 with
      | none => exact here dest (missing search)
      | some stack =>
        cases same stack.1 stack.2 search
        obtain ⟨_, atPlace, _⟩ := findStack_some env _ _ search
        refine ⟨rfl, .inr ⟨rfl, ?_⟩⟩
        intro other there
        have place : game.getItemByIndex container (stack.1 : Int) = (game.items container).itemlist[stack.1]? := by
          rw [getItemByIndex, if_neg (Int.not_lt.mpr (Int.natCast_nonneg _)), Int.toNat_natCast]
        rw [place] at there
        rw [Nat.sub_zero, there] at atPlace
        exact congrArg some (Option.some.inj atPlace).symm
    split
    · exact ⟨rfl, .inl rfl⟩
    · split
      · split
        · split
          · exact here _ rfl
          · exact searched _ (fun missing => by rw [missing]) (fun n listItem search => by rw [search])
        · split
          · exact here _ rfl
          · exact searched _ (fun missing => by rw [missing]) (fun n listItem search => by rw [search])
      · exact here _ rfl

variable (env game ptr) in
/-- Any cylinder but a player: it leads elsewhere with no place in mind, and where it is the end, it is aimed. -/
theorem queryDestination_aimed {cylinder : Cylinder} (noPlayer : ∀ owner, cylinder ≠ .player owner) (index : Int)
    (destItem : Option ItemPtr) {flags : CylinderFlags} (limited : flags.noLimit = false) :
    let dest := game.queryDestination env cylinder index ptr destItem flags
    game.Aimed dest ∧ (dest.cylinder ≠ cylinder → ∀ container, dest.cylinder = .item container → dest.index = indexWhereever) := by
  cases cylinder with
  | player owner => exact absurd rfl (noPlayer owner)
  | tile pos =>
    have tile : ∃ other, (game.queryDestination env (.tile pos) index ptr destItem flags).cylinder = .tile other := by
      simp only [queryDestination]
      split
      · unfold tileQueryDestination
        split
        · exact ⟨_, rfl⟩
        · split
          · exact ⟨_, rfl⟩
          · exact ⟨_, rfl⟩
      · exact ⟨_, rfl⟩
    obtain ⟨other, same⟩ := tile
    simp only
    constructor
    · constructor
      · intro container here
        cases same.symm.trans here
      · intro container here
        cases same.symm.trans here
    · intro _ container here
      cases same.symm.trans here
  | item holder =>
    simp only [queryDestination]
    split
    · obtain ⟨same, known⟩ := containerQueryDestination_cases env game ptr holder index destItem flags
      constructor
      · constructor
        · intro container here isContainer
          rcases known with whereever | ⟨itself, known⟩
          · exact .inl whereever
          · have equal := itself.symm.trans here
            cases equal
            exact .inr known
        · intro container here
          rw [same]
          exact limited
      · intro elsewhere container here
        rcases known with whereever | ⟨itself, _⟩
        · exact whereever
        · exact absurd itself elsewhere
    · next noContainer =>
      constructor
      · constructor
        · intro container here isContainer
          cases here
          exact absurd isContainer noContainer
        · intro container here
          exact limited
      · intro elsewhere
        exact absurd rfl elsewhere

theorem resolve_aimed (floors : Nat) {cylinder : Cylinder} (noPlayer : ∀ owner, cylinder ≠ .player owner) (index : Int)
    (toItem : Option ItemPtr) {flags : CylinderFlags} (limited : flags.noLimit = false)
    (last : floors = 0 → ∀ container, cylinder = .item container → index = indexWhereever) :
    game.Aimed (game.resolve env ptr floors cylinder index toItem flags) := by
  induction floors generalizing cylinder index toItem flags with
  | zero =>
    constructor
    · intro container here _
      exact .inl (last rfl container here)
    · intro container _
      exact limited
  | succ floors ih =>
    obtain ⟨aimed, elsewhere⟩ := queryDestination_aimed env game ptr noPlayer index toItem limited
    simp only [resolve]
    split
    · exact aimed
    · next other =>
      apply ih
      · exact queryDestination_noPlayer env noPlayer _ _ _ _
      · rfl
      · intro _
        exact elsewhere other

theorem destination_aimed (move : Move) (limited : move.flags.noLimit = false) : game.Aimed (game.destination env move) := by
  unfold destination mapMaxLayers
  cases start : move.toCylinder with
  | player owner =>
    rw [resolve]
    split
    · next same =>
      constructor
      · intro container here
        cases same.symm.trans here
      · intro container here
        cases same.symm.trans here
    · next other =>
      apply resolve_aimed
      · intro owner' here
        have answer : (game.queryDestination env (.player owner) move.index move.item none move.flags).cylinder = .player owner ∨
            ∃ holder, (game.queryDestination env (.player owner) move.index move.item none move.flags).cylinder = .item holder :=
          (playerQueryDestination_landed env move.index).1
        rcases answer with same | ⟨holder, inside⟩
        · exact other same
        · cases inside.symm.trans here
      · rfl
      · intro none
        cases none
  | tile pos =>
    apply resolve_aimed
    · intro owner here
      cases here
    · exact limited
    · intro none
      cases none
  | item holder =>
    apply resolve_aimed
    · intro owner here
      cases here
    · exact limited
    · intro none
      cases none

end Styller.Game
