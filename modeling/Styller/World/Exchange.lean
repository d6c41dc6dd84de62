import Styller.World.Answer
import Styller.World.Destination
import Styller.World.Transfer

/-! When `Game::internalMoveItem` may transfer: with a destination that is ready, and
after an exchange. -/

namespace Styller.Game

open Library Layout

variable (env : Env) (game : Game)

/-- A tile lets `ptr` lie, and lets lie what lies there: it has no teleport, trash holder or
mailbox, and `ptr` is none and takes no place of a ground, splash or field. -/
def Keeps (cylinder : Cylinder) (ptr : ItemPtr) : Prop :=
  ∀ pos, cylinder = .tile pos → game.layout.receives pos = false ∧
    (game.items ptr).kind.receives = false ∧ game.layout.Unrivalled env.items pos ptr

/-- The destination is a slot, a container or a tile that keeps what comes.  In a slot in
use a stack can grow to 100, which is how `Player::queryMaxCount` counts there. -/
structure Ready (item : ItemPtr) (dest : Destination) : Prop where
  slot : ∀ owner, dest.cylinder = .player owner → ∃ slot ∈ slots, dest.index = slot ∧
    ((game.players owner).inventory slot ≠ none → (game.items item).isStackable env.items = true →
      100 ≤ (game.items item).getStackSize env.items)
  container : ∀ holder, dest.cylinder = .item holder → (game.items holder).isContainer = true ∧
    (dest.index < (game.items holder).maxSize ∨ dest.flags.noLimit = false)
  keeps : game.Keeps env dest.cylinder item

section
variable {env game} {move : Move} {dest : Destination}

theorem refusal_noError (live : game.layout.Live move.fromCylinder)
    (allowed : game.refusal env move dest = .noError) :
    ((game.roomFor env move dest).1 = .noError ∨ 0 < (game.roomFor env move dest).2) ∧
      game.getThingIndex env move.fromCylinder move.item ≠ -1 ∧ 0 < game.moveCount env move dest ∧
      ((game.items move.item).isStackable env.items = true →
        game.moveCount env move dest ≤ (game.items move.item).count) := by
  unfold refusal at allowed
  simp only at allowed
  split at allowed
  · rename_i full
    exact absurd allowed full.1
  · rename_i room
    split at allowed
    · rename_i refused
      exact absurd allowed refused
    · rename_i removable
      refine ⟨?_, queryRemove_noError env live (not_not.mp removable)⟩
      rcases Nat.eq_zero_or_pos (game.roomFor env move dest).2 with zero | positive
      · left
        by_contra answer
        exact room ⟨answer, zero⟩
      · exact .inr positive

/-- Nothing is moved where there is no room. -/
theorem moveCount_le : game.moveCount env move dest ≤ (game.roomFor env move dest).2 := by
  unfold moveCount
  split
  · exact Nat.min_le_right _ _
  · exact Nat.le_refl _

theorem player_placeable {owner : PlayerId} {slot : Nat} (here : dest.cylinder = .player owner)
    (settled : game.Settled env move.item dest) (listed : slot ∈ slots) (index : dest.index = slot)
    (large : (game.players owner).inventory slot ≠ none →
      (game.items move.item).isStackable env.items = true →
      100 ≤ (game.items move.item).getStackSize env.items)
    (positive : 0 < game.moveCount env move dest) :
    game.Placeable env move dest (game.moveCount env move dest) := by
  cases inSlot : (game.players owner).inventory slot with
  | none =>
    right
    rw [here]
    exact ⟨slot, listed, index, inSlot⟩
  | some stack =>
    left
    have atDest : dest.toItem = some stack := (settled.slot env here listed index).trans inSlot
    have range := mem_slots.mp listed
    have notAnywhere : ¬ ((slot : Int) = indexWhereever) := by
      unfold indexWhereever
      omega
    have room := Nat.lt_of_lt_of_le positive moveCount_le
    have less : game.moveCount env move dest ≤ (game.roomFor env move dest).2 := moveCount_le
    simp only [roomFor, here, index, queryMaxCount, playerQueryMaxCount, if_neg notAnywhere,
      getInventoryItem_slot listed, inSlot] at room less
    split at room
    · rename_i merges
      rw [if_pos merges] at less
      have sameId : (game.items move.item).id = (game.items stack).id := Item.id_eq_of_equals merges.2.1
      have stackable : (game.items move.item).isStackable env.items = true := by
        rw [Item.isStackable, sameId]
        exact merges.1
      have sameSize : (game.items stack).getStackSize env.items =
          (game.items move.item).getStackSize env.items := by
        unfold Item.getStackSize Item.isStackable
        rw [sameId]
      have large := large (by simp [inSlot]) stackable
      refine ⟨stackable, stack, atDest, merges.2.1, ?_⟩
      simp only at less
      omega
    · exact absurd room (Nat.lt_irrefl 0)

theorem container_placeable {holder : ItemPtr} (here : dest.cylinder = .item holder)
    (settled : game.Settled env move.item dest) (container : (game.items holder).isContainer = true)
    (limited : dest.index < (game.items holder).maxSize ∨ dest.flags.noLimit = false)
    (positive : 0 < game.moveCount env move dest) :
    game.Placeable env move dest (game.moveCount env move dest) := by
  rcases settled.index holder here container with small | ⟨stackable, n, stack, index, atDest, listed, _⟩
  · right
    rw [here]
    exact ⟨container, small⟩
  · rcases limited with small | limited
    · right
      rw [here]
      exact ⟨container, small⟩
    · by_cases small : dest.index < (game.items holder).maxSize
      · right
        rw [here]
        exact ⟨container, small⟩
      · left
        -- a stack behind the capacity: only what it has room for is moved
        have notAnywhere : ¬ dest.index = indexWhereever := by
          unfold indexWhereever
          omega
        have full : (game.items holder).maxSize - (game.items holder).itemlist.length = 0 := by
          have inside := (List.getElem?_eq_some_iff.mp listed).1
          omega
        have found : game.getItemByIndex holder dest.index = some stack := by
          have nonneg : ¬ dest.index < 0 := by omega
          rw [getItemByIndex, if_neg nonneg, index]
          exact listed
        have less : game.moveCount env move dest ≤ (game.roomFor env move dest).2 := moveCount_le
        have room : 0 < (game.roomFor env move dest).2 := Nat.lt_of_lt_of_le positive less
        simp only [roomFor, here, queryMaxCount_container env container, containerQueryMaxCount, limited,
          Bool.false_eq_true, if_false, if_pos stackable, if_neg notAnywhere, found, full, Nat.zero_mul,
          Nat.zero_add] at room less
        split at room
        · rename_i merges
          rw [if_pos merges] at less
          refine ⟨stackable, stack, atDest, merges.1, ?_⟩
          split at less
          · exact less
          · omega
        · exact absurd room (Nat.lt_irrefl 0)

theorem tile_placeable {pos : Position} (here : dest.cylinder = .tile pos)
    (allowed : game.queryAdd env dest.cylinder dest.index move.item move.count dest.flags move.actor =
        .noError ∨
      game.queryAdd env dest.cylinder dest.index move.item move.count dest.flags move.actor =
        .needExchange) (m : Nat) : game.Placeable env move dest m := by
  rw [here] at allowed
  right
  rw [here]
  exact queryAdd_tile env allowed dest.index

theorem deliverable_of_settled (sound : game.layout.Sound env.items)
    (held : move.item ∈ game.contents move.fromCylinder) (apart : dest.toItem ≠ some move.item)
    (settled : game.Settled env move.item dest) (ready : game.Ready env move.item dest)
    (allowed : game.queryAdd env dest.cylinder dest.index move.item move.count dest.flags move.actor =
        .noError ∨
      game.queryAdd env dest.cylinder dest.index move.item move.count dest.flags move.actor =
        .needExchange)
    (admitted : game.refusal env move dest = .noError) :
    game.Deliverable env move dest (game.moveCount env move dest) := by
  obtain ⟨_, inside, positive, enough⟩ :=
    refusal_noError (sound.live move.fromCylinder move.item held) admitted
  refine ⟨sound, inside, enough, apart, settled.present, ?_, ?_, ?_⟩
  · intro holder here
    exact (ready.container holder here).1
  · intro pos here
    exact (ready.keeps pos here).2.2
  · cases here : dest.cylinder with
    | player owner =>
      obtain ⟨slot, listed, index, large⟩ := ready.slot owner here
      exact player_placeable here settled listed index large positive
    | tile pos => exact tile_placeable here allowed _
    | item holder =>
      obtain ⟨container, limited⟩ := ready.container holder here
      exact container_placeable here settled container limited positive

end

/-- What an exchange that is carried out relies on. -/
structure Exchangeable (move : Move) (dest : Destination) (toItem : ItemPtr) : Prop where
  sound : game.layout.Sound env.items
  held : move.item ∈ game.contents move.fromCylinder
  atDest : dest.toItem = some toItem
  settled : game.Settled env move.item dest
  needs : game.queryAdd env dest.cylinder dest.index move.item move.count dest.flags move.actor =
    .needExchange
  back : game.queryAdd env move.fromCylinder (game.getThingIndex env move.fromCylinder move.item) toItem
    (game.items toItem).count CylinderFlags.none none = .noError
  removable : game.queryRemove env dest.cylinder toItem (game.items toItem).count dest.flags move.actor =
    .noError

theorem mem_layer {pos : Position} {ptr : ItemPtr} (member : ptr ∈ game.contents (.tile pos)) :
    ∃ layer, ptr ∈ game.layout.layers pos layer := by
  cases here : game.tiles pos with
  | none => simp [contents, here] at member
  | some tile =>
    rw [contents_here game here] at member
    rw [layers_here game here]
    simp only [Tile.things, List.mem_append] at member
    rcases member with (ground | top) | down
    · exact ⟨.ground, ground⟩
    · exact ⟨.top, top⟩
    · exact ⟨.down, down⟩

section
variable {env game} {move : Move} {dest : Destination} {toItem : ItemPtr}
  (exchangeable : game.Exchangeable env move dest toItem)
include exchangeable

theorem Exchangeable.toItem_held : toItem ∈ game.contents dest.cylinder :=
  exchangeable.settled.present toItem exchangeable.atDest

/-- The item that is to move is no stack, or another thing is in the slot. -/
theorem Exchangeable.differs : ¬ (game.items move.item).isStackable env.items = true ∨
    (∃ owner, dest.cylinder = .player owner) ∧ (¬ (game.items toItem).isStackable env.items = true ∨
      (game.items toItem).id ≠ (game.items move.item).id) := by
  rcases queryAdd_needExchange env exchangeable.needs with hangs | ⟨owner, other, here, inSlot, differs⟩
  · left
    intro stackable
    have plain := (env.items.stackable_plain _ stackable).notHangable
    have hangs : (env.items.get (game.items move.item).id).isHangable = true := hangs
    rw [plain] at hangs
    cases hangs
  · right
    obtain ⟨slot, listed, index, inInventory⟩ := getInventoryItem_some inSlot
    have found := exchangeable.settled.slot env here listed index
    rw [exchangeable.atDest, inInventory] at found
    cases found
    exact ⟨⟨owner, here⟩, differs⟩

/-- A player never gets the other item in exchange. -/
theorem Exchangeable.noPlayer (owner : PlayerId) : move.fromCylinder ≠ .player owner := by
  intro source
  have held := exchangeable.held
  have back := exchangeable.back
  rw [source] at held back
  have inside := (playerThingIndex_ne_iff game owner).mpr held
  obtain ⟨slot, listed, index, inSlot⟩ := playerThingIndex_slot game owner inside
  simp only [queryAdd, getThingIndex, index] at back
  have occupied : game.getInventoryItem owner slot = some move.item :=
    (getInventoryItem_slot listed).trans inSlot
  obtain ⟨stackable, sameId⟩ := playerQueryAdd_occupied env occupied rfl back
  rcases exchangeable.differs with single | ⟨_, single | otherId⟩
  · exact single stackable
  · apply single
    rw [Item.isStackable, ← sameId]
    exact stackable
  · exact otherId sameId.symm

/-- The source cylinder has room for the other item. -/
theorem Exchangeable.admits : game.layout.Admits move.fromCylinder 0 := by
  cases source : move.fromCylinder with
  | player owner => exact absurd source (exchangeable.noPlayer owner)
  | tile pos =>
    have back := exchangeable.back
    rw [source] at back
    exact queryAdd_tile env (.inl back) 0
  | item holder =>
    have live := exchangeable.sound.live move.fromCylinder move.item exchangeable.held holder source
    have room := (exchangeable.sound.roomy holder live).2
    exact ⟨live, by exact_mod_cast room⟩

/-- The exchange takes the other item from the destination and puts it into the source. -/
theorem Exchangeable.swapOut (keeps : game.Keeps env move.fromCylinder toItem) :
    let removed := game.removeThing env dest.cylinder toItem (game.items toItem).count
    Take game.layout removed.layout dest.cylinder toItem ∧
      Put env.items removed.layout (game.swapOut env move dest toItem).layout move.fromCylinder toItem := by
  have live := exchangeable.sound.live dest.cylinder toItem exchangeable.toItem_held
  have inside := (queryRemove_noError env live exchangeable.removable).1
  have take := removeThing_take env game exchangeable.sound inside (game.items toItem).count
    (fun part => part.2 rfl)
  have alone : game.layout.Alone env.items move.fromCylinder toItem :=
    fun pos here => (keeps pos here).2.2
  have put := addThing_put env (game.removeThing env dest.cylinder toItem (game.items toItem).count) toItem
    (take.freer.admits exchangeable.admits)
    (alone.of_sublist take.id take.kind (fun pos layer other _ member => (take.layers pos layer).subset member))
  refine ⟨take, ?_⟩
  have added : (game.removeThing env dest.cylinder toItem (game.items toItem).count).addThingWhereever env
      move.fromCylinder toItem = (game.removeThing env dest.cylinder toItem
        (game.items toItem).count).addThing env move.fromCylinder 0 toItem := by
    have noPlayer := exchangeable.noPlayer
    unfold addThingWhereever
    cases source : move.fromCylinder with
    | player owner => exact absurd source (noPlayer owner)
    | tile pos => rfl
    | item holder => rfl
  simp only [Game.swapOut, added]
  generalize (game.removeThing env dest.cylinder toItem (game.items toItem).count).addThing env
    move.fromCylinder 0 toItem = after at put
  have removed : (if game.getThingIndex env dest.cylinder toItem ≠ -1
      then after.postRemoveNotification env dest.cylinder else after).layout = after.layout := by
    rw [if_pos inside]
    exact layout_postRemoveNotification env after _
  generalize (if game.getThingIndex env dest.cylinder toItem ≠ -1
    then after.postRemoveNotification env dest.cylinder else after) = settled at removed
  have calm : settled.layout.Calm move.fromCylinder := by
    intro pos here
    rw [removed, Bool.eq_false_iff]
    intro there
    obtain ⟨quiet, plain, _⟩ := keeps pos here
    rcases put.receives pos there with old | ⟨_, special⟩
    · have old := take.receives pos old
      rw [quiet] at old
      cases old
    · rw [take.kind] at special
      have special : (game.items toItem).kind.receives = true := special
      rw [plain] at special
      cases special
  have last : (if settled.getThingIndex env move.fromCylinder toItem ≠ -1
      then settled.postAddNotification env move.fromCylinder toItem else settled).layout =
        settled.layout := by
    split
    · exact layout_postAddNotification env settled calm toItem
    · rfl
  rw [last, removed]
  exact put

theorem Exchangeable.unheld (keeps : game.Keeps env move.fromCylinder toItem) :
    ((game.removeThing env dest.cylinder toItem (game.items toItem).count).layout.stock
      env.items).Unheld toItem :=
  (exchangeable.swapOut keeps).1.unheld exchangeable.sound

/-- The other item has gone from the destination to the source. -/
theorem Exchangeable.delivered (keeps : game.Keeps env move.fromCylinder toItem) :
    Delivered env game.layout (game.swapOut env move dest toItem).layout dest.cylinder
      move.fromCylinder toItem (game.layout.units env.items toItem) := by
  obtain ⟨take, put⟩ := exchangeable.swapOut keeps
  have sound := exchangeable.sound
  have held := exchangeable.toItem_held
  refine ⟨?_, ?_, ?_⟩
  · refine (sound.take take).put put ?_ (exchangeable.unheld keeps) ?_ ?_
    · exact take.freer.live (sound.live move.fromCylinder move.item exchangeable.held)
    · rw [take.next]
      exact sound.allocated dest.cylinder toItem held
    · rw [take.id, take.count]
      exact sound.stacked dest.cylinder toItem held
  · intro holder other different there
    rcases take.mem_iff.mp there with ⟨_, same⟩ | kept
    · exact absurd same different
    · exact put.mem_iff.mpr (.inr kept)
  · intro type holders
    have left : _ = game.layout.total env.items type holders := take.total type holders
    have come := put.total type holders
    have same : (game.removeThing env dest.cylinder toItem (game.items toItem).count).layout.share
        move.fromCylinder toItem ((game.removeThing env dest.cylinder toItem
          (game.items toItem).count).layout.units env.items toItem) type holders =
        game.layout.share move.fromCylinder toItem (game.layout.units env.items toItem) type holders := by
      rw [take.toSameItems.units]
      simp only [share, take.id]
    omega

/-- The slot of the other item is free after the exchange. -/
theorem Exchangeable.emptied (keeps : game.Keeps env move.fromCylinder toItem) {owner : PlayerId}
    (here : dest.cylinder = .player owner) {slot : Nat} (listed : slot ∈ slots) (index : dest.index = slot) :
    ((game.swapOut env move dest toItem).players owner).inventory slot = none := by
  obtain ⟨take, put⟩ := exchangeable.swapOut keeps
  have unheld := exchangeable.unheld keeps
  change (game.swapOut env move dest toItem).layout.inventory owner slot = none
  rw [put.inventory owner (exchangeable.noPlayer owner)]
  rcases take.inventory owner slot with same | gone
  · have inSlot := exchangeable.settled.slot env here listed index
    rw [exchangeable.atDest] at inSlot
    exact absurd (List.mem_filterMap.mpr ⟨slot, listed, same.trans inSlot.symm⟩)
      (unheld (.player owner))
  · exact gone

/-- After the exchange the transfer finds a free place. -/
theorem Exchangeable.deliverable (keeps : game.Keeps env move.fromCylinder toItem)
    (ready : game.Ready env move.item dest) (apart : toItem ≠ move.item)
    (allowed : (game.swapOut env move dest toItem).queryAdd env dest.cylinder dest.index move.item
      move.count dest.flags move.actor = .noError)
    (admitted : (game.swapOut env move dest toItem).refusal env move { dest with toItem := none } =
      .noError) :
    (game.swapOut env move dest toItem).Deliverable env move { dest with toItem := none }
      ((game.swapOut env move dest toItem).moveCount env move { dest with toItem := none }) := by
  obtain ⟨take, put⟩ := exchangeable.swapOut keeps
  have sound := (exchangeable.delivered keeps).sound
  generalize swapped : game.swapOut env move dest toItem = after at take put sound allowed admitted ⊢
  generalize game.removeThing env dest.cylinder toItem (game.items toItem).count = middle at take put
  have held : move.item ∈ after.contents move.fromCylinder := by
    rcases take.mem_iff.mp exchangeable.held with ⟨_, same⟩ | there
    · exact absurd same.symm apart
    · exact put.mem_iff.mpr (.inr there)
  obtain ⟨_, inside, _, enough⟩ := refusal_noError (sound.live move.fromCylinder move.item held) admitted
  have kind : after.layout.kind = game.layout.kind := put.kind.trans take.kind
  refine ⟨sound, inside, enough, by simp, by simp, ?_, ?_, .inr ?_⟩
  · intro holder here
    rw [kind]
    exact (ready.container holder here).1
  · have alone : game.layout.Alone env.items dest.cylinder move.item :=
      fun pos here => (ready.keeps pos here).2.2
    refine alone.of_sublist (put.id.trans take.id) kind ?_
    intro pos layer other here member
    rcases put.layers pos layer other member with old | ⟨_, rfl, rfl⟩
    · exact (take.layers pos layer).subset old
    · -- on one tile the other item comes back to the part it was in
      have there := exchangeable.toItem_held
      rw [here] at there
      obtain ⟨layer, inLayer⟩ := mem_layer game there
      have sameLayer := (exchangeable.sound.layered pos layer other inLayer).2
      rw [take.id, ← sameLayer]
      exact inLayer
  · cases here : dest.cylinder with
    | player owner =>
      obtain ⟨slot, listed, index, _⟩ := ready.slot owner here
      have empty := exchangeable.emptied keeps here listed index
      rw [swapped] at empty
      exact ⟨slot, listed, index, empty⟩
    | tile pos =>
      rw [here] at allowed
      exact queryAdd_tile env (.inl allowed) dest.index
    | item holder =>
      obtain ⟨container, _⟩ := ready.container holder here
      refine ⟨kind ▸ container, ?_⟩
      have size : after.layout.maxSize holder = (game.items holder).maxSize :=
        congrFun (put.maxSize.trans take.maxSize) holder
      rw [size]
      rcases exchangeable.settled.index holder here container with small | ⟨stackable, _⟩
      · exact small
      · rcases exchangeable.differs with single | ⟨⟨owner, elsewhere⟩, _⟩
        · exact absurd stackable single
        · rw [here] at elsewhere
          cases elsewhere

/-- No tile receives after an exchange that did not before. -/
theorem Exchangeable.calm (keeps : game.Keeps env move.fromCylinder toItem) {cylinder : Cylinder}
    (calm : game.layout.Calm cylinder) : (game.swapOut env move dest toItem).layout.Calm cylinder := by
  obtain ⟨take, put⟩ := exchangeable.swapOut keeps
  intro pos here
  rw [Bool.eq_false_iff]
  intro there
  rcases put.receives pos there with old | ⟨source, special⟩
  · have old := take.receives pos old
    rw [calm pos here] at old
    cases old
  · rw [take.kind] at special
    have special : (game.items toItem).kind.receives = true := special
    rw [(keeps pos source).2.1] at special
    cases special

end
end Styller.Game
