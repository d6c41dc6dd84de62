import Styller.World.CylinderEffect

/-! What the answers of `queryAdd` and `queryRemove` tell about the state. -/

namespace Styller.Game

open Layout

variable (env : Env) {game : Game} {ptr : ItemPtr} {count : Nat} {flags : CylinderFlags}
  {actor : Option PlayerId}

theorem itemQueryRemove_noError {index : Int}
    (allowed : itemQueryRemove env game index ptr count flags = .noError) :
    index ≠ -1 ∧ 0 < count ∧
      ((game.items ptr).isStackable env.items = true → count ≤ (game.items ptr).count) := by
  unfold itemQueryRemove at allowed
  simp only at allowed
  split at allowed
  · cases allowed
  · rename_i inside
    split at allowed
    · cases allowed
    · rename_i enough
      rw [not_or] at enough
      refine ⟨inside, Nat.pos_of_ne_zero enough.1, ?_⟩
      intro stackable
      by_contra more
      exact enough.2 ⟨stackable, Nat.lt_of_not_le more⟩

theorem tileQueryRemove_noError {tile : Tile}
    (allowed : game.tileQueryRemove env tile ptr count flags actor = .noError) :
    itemQueryRemove env game (tileThingIndex env game tile ptr) ptr count flags = .noError := by
  unfold tileQueryRemove at allowed
  split at allowed
  · cases allowed
  · exact allowed

/-- An item that may be removed is there, and there is enough of it. -/
theorem queryRemove_noError {cylinder : Cylinder} (live : game.layout.Live cylinder)
    (allowed : game.queryRemove env cylinder ptr count flags actor = .noError) :
    game.getThingIndex env cylinder ptr ≠ -1 ∧ 0 < count ∧
      ((game.items ptr).isStackable env.items = true → count ≤ (game.items ptr).count) := by
  cases cylinder with
  | player id => exact itemQueryRemove_noError env allowed
  | tile pos =>
    cases here : game.tiles pos with
    | none => simp [queryRemove, here] at allowed
    | some tile =>
      simp only [queryRemove, here] at allowed
      simp only [getThingIndex, here]
      exact itemQueryRemove_noError env (tileQueryRemove_noError env allowed)
  | item holder =>
    have container : (game.items holder).isContainer = true := live holder rfl
    simp only [queryRemove, if_pos container, containerQueryRemove] at allowed
    split at allowed
    · rename_i refused
      exact absurd allowed refused
    · rename_i own
      exact itemQueryRemove_noError env (not_not.mp own)

theorem queryMaxCount_container {holder : ItemPtr} (container : (game.items holder).isContainer = true)
    (index : Int) (ptr : ItemPtr) (count : Nat) (flags : CylinderFlags) :
    game.queryMaxCount env (.item holder) index ptr count flags =
      game.containerQueryMaxCount env holder index ptr count flags := by
  unfold queryMaxCount
  unfold Item.isContainer at container
  cases kind : (game.items holder).kind <;> simp [kind, ItemClass.isContainer] at container ⊢

theorem tileQueryAdd_room {tile : Tile}
    (allowed : game.tileQueryAdd env tile ptr flags actor = .noError ∨
      game.tileQueryAdd env tile ptr flags actor = .needExchange) : tile.itemList.length < 0xFFFF := by
  by_contra full
  have full : tile.itemList.length ≥ 0xFFFF := by omega
  unfold tileQueryAdd at allowed
  simp only [if_pos full] at allowed
  split at allowed <;> simp at allowed

theorem queryAdd_tile {pos : Position} {index : Int}
    (allowed : game.queryAdd env (.tile pos) index ptr count flags actor = .noError ∨
      game.queryAdd env (.tile pos) index ptr count flags actor = .needExchange) (place : Int) :
    game.layout.Admits (.tile pos) place := by
  cases here : game.tiles pos with
  | none => simp [queryAdd, here] at allowed
  | some tile =>
    simp only [queryAdd, here] at allowed
    have room := tileQueryAdd_room env allowed
    refine ⟨by simp [layout, here], ?_⟩
    rw [layers_here game here]
    simpa [Tile.itemList, Tile.layer] using room

/-- Only a thing that hangs is exchanged on a tile. -/
theorem tileQueryAdd_needExchange {tile : Tile}
    (needs : game.tileQueryAdd env tile ptr flags actor = .needExchange) :
    (game.items ptr).isHangable env.items = true := by
  unfold tileQueryAdd at needs
  simp only at needs
  by_contra stands
  have stands : (game.items ptr).isHangable env.items = false := by simpa using stands
  simp only [stands, Bool.false_eq_true, false_and, if_false] at needs
  repeat' split at needs
  all_goals cases needs

section
variable {id : PlayerId} {index : Int}

private theorem ite_ne {condition : Prop} [Decidable condition] {first second answer : ReturnValue}
    (yes : first ≠ answer) (no : second ≠ answer) : (if condition then first else second) ≠ answer := by
  split
  · exact yes
  · exact no

theorem dressAnswer_ne (slotPosition : SlotPosition) : dressAnswer env slotPosition ≠ .needExchange := by
  unfold dressAnswer
  repeat' split
  all_goals decide

theorem otherHandAnswer_ne (other : ItemPtr) :
    otherHandAnswer env game ptr count other ≠ .needExchange := by
  unfold otherHandAnswer
  simp only
  repeat' split
  all_goals decide

theorem rightHandAnswer_ne : rightHandAnswer env game id ptr count ≠ .needExchange := by
  unfold rightHandAnswer
  simp only
  repeat' split
  all_goals first | decide | exact otherHandAnswer_ne env _

theorem leftHandAnswer_ne : leftHandAnswer env game id ptr count ≠ .needExchange := by
  unfold leftHandAnswer
  simp only
  repeat' split
  all_goals first | decide | exact otherHandAnswer_ne env _

theorem slotAnswer_ne : slotAnswer env game id index ptr count ≠ .needExchange := by
  unfold slotAnswer
  simp only
  repeat' first
    | exact dressAnswer_ne env _
    | exact rightHandAnswer_ne env
    | exact leftHandAnswer_ne env
    | apply ite_ne
  all_goals decide

/-- A player asks for an exchange when another thing is in the slot. -/
theorem playerQueryAdd_needExchange
    (needs : game.playerQueryAdd env id index ptr count flags = .needExchange) :
    ∃ other, game.getInventoryItem id index = some other ∧
      (¬ (game.items other).isStackable env.items = true ∨ (game.items other).id ≠ (game.items ptr).id) := by
  unfold playerQueryAdd at needs
  simp only at needs
  split at needs
  · split at needs <;> cases needs
  · split at needs
    · cases needs
    · split at needs
      · exact absurd needs (slotAnswer_ne env)
      · split at needs
        · cases needs
        · split at needs
          · exact absurd needs (env.onPlayerEquip_ne _ _ _ _)
          · split at needs
            · exact absurd needs (env.onPlayerEquip_ne _ _ _ _)
            · rename_i other here
              split at needs
              · rename_i differs
                exact ⟨other, here, differs⟩
              · exact absurd needs (env.onPlayerEquip_ne _ _ _ _)

/-- A slot that is in use takes only more of the same. -/
theorem playerQueryAdd_occupied {other : ItemPtr} (here : game.getInventoryItem id index = some other)
    (outside : flags.childIsOwner = false)
    (allowed : game.playerQueryAdd env id index ptr count flags = .noError) :
    (game.items other).isStackable env.items = true ∧ (game.items other).id = (game.items ptr).id := by
  unfold playerQueryAdd at allowed
  simp only [outside, Bool.false_eq_true, if_false, here] at allowed
  split at allowed
  · cases allowed
  · split at allowed
    · rename_i refused
      exact absurd allowed refused.1
    · split at allowed
      · cases allowed
      · split at allowed
        · rename_i refused
          exact absurd allowed refused
        · split at allowed
          · split at allowed
            · cases allowed
            · split at allowed <;> cases allowed
            · cases allowed
          · rename_i same
            rw [not_or, not_not, not_not] at same
            exact same

end

theorem carrierQueryAdd_needExchange {top : Cylinder}
    (needs : game.carrierQueryAdd env top ptr count flags actor = .needExchange) :
    (game.items ptr).isHangable env.items = true := by
  unfold carrierQueryAdd at needs
  split at needs
  · unfold playerQueryAdd at needs
    simp only [if_true] at needs
    split at needs <;> cases needs
  · split at needs
    · exact tileQueryAdd_needExchange env needs
    · cases needs
  · refine absurd needs ?_
    split
    · simp only
      repeat' apply ite_ne
      all_goals decide
    · decide
    · decide
    · decide
    · repeat' apply ite_ne
      all_goals decide
    · decide

/-- Besides a slot in use, only the place of a thing that hangs asks for an exchange. -/
theorem queryAdd_needExchange {cylinder : Cylinder} {index : Int}
    (needs : game.queryAdd env cylinder index ptr count flags actor = .needExchange) :
    (game.items ptr).isHangable env.items = true ∨ ∃ owner other, cylinder = .player owner ∧
      game.getInventoryItem owner index = some other ∧
      (¬ (game.items other).isStackable env.items = true ∨
        (game.items other).id ≠ (game.items ptr).id) := by
  cases cylinder with
  | player id =>
    obtain ⟨other, here, differs⟩ := playerQueryAdd_needExchange env needs
    exact .inr ⟨id, other, rfl, here, differs⟩
  | tile pos =>
    left
    simp only [queryAdd] at needs
    split at needs
    · exact tileQueryAdd_needExchange env needs
    · cases needs
  | item holder =>
    left
    have container : ∀ {index}, game.containerQueryAdd env holder index ptr count flags actor =
        .needExchange → (game.items ptr).isHangable env.items = true := by
      intro index needs
      unfold containerQueryAdd at needs
      simp only at needs
      repeat' split at needs
      all_goals first
        | cases needs
        | exact carrierQueryAdd_needExchange env needs
    simp only [queryAdd, holderQueryAdd] at needs
    split at needs
    · split at needs
      · exact carrierQueryAdd_needExchange env needs
      · unfold depotChestQueryAdd at needs
        simp only at needs
        split at needs
        · exact carrierQueryAdd_needExchange env needs
        · exact container needs
    · split at needs
      · cases needs
      · exact container needs
    · split at needs
      · cases needs
      · exact container needs
    · cases needs
    · split at needs <;> cases needs
    · cases needs

end Styller.Game
