import Styller.World.Effect
import Styller.World.MoveItem

/-! Where `queryDestination` can send a thing: what is known about the cylinder, the
index and the item that it finds. -/

namespace Styller.Game

open List

variable (env : Env) (game : Game)

def Present (cylinder : Cylinder) (toItem : Option ItemPtr) : Prop :=
  ∀ stack, toItem = some stack → stack ∈ game.contents cylinder

/-- A stack of the same kind that is not full. -/
def Takes (ptr stack : ItemPtr) : Prop :=
  (game.items stack).equals (some (game.items ptr)) = true ∧
    (game.items stack).count < (game.items stack).getStackSize env.items

/-- A destination: the item found is in it and is the one in the slot; the index of a
container is below its capacity, or there is a stack to merge with. -/
structure Landed (ptr : ItemPtr) (dest : Destination) : Prop where
  present : game.Present dest.cylinder dest.toItem
  occupant : ∀ owner, dest.cylinder = .player owner →
    dest.toItem = game.getInventoryItem owner dest.index
  place : ∀ holder, dest.cylinder = .item holder → (game.items holder).isContainer = true →
    dest.index < (game.items holder).maxSize ∨ ((game.items ptr).isStackable env.items = true ∧
      ∃ stack, dest.toItem = some stack ∧ game.Takes env ptr stack)

/-- A destination that answers for itself: the item found is in it and is the one in
the slot; the index of a container is below its capacity, or that of a stack found for
a stack. -/
structure Settled (ptr : ItemPtr) (dest : Destination) : Prop where
  present : game.Present dest.cylinder dest.toItem
  occupant : ∀ owner, dest.cylinder = .player owner →
    dest.toItem = game.getInventoryItem owner dest.index
  index : ∀ holder, dest.cylinder = .item holder → (game.items holder).isContainer = true →
    dest.index < (game.items holder).maxSize ∨ ((game.items ptr).isStackable env.items = true ∧
      ∃ (n : Nat) (stack : ItemPtr), dest.index = n ∧ dest.toItem = some stack ∧
        (game.items holder).itemlist[n]? = some stack ∧ game.Takes env ptr stack)

variable {game} {ptr : ItemPtr}

theorem present_none (cylinder : Cylinder) : game.Present cylinder none := by
  intro stack found
  cases found

theorem Settled.landed {dest : Destination} (settled : game.Settled env ptr dest) :
    game.Landed env ptr dest where
  present := settled.present
  occupant := settled.occupant
  place := by
    intro holder here container
    rcases settled.index holder here container with small | ⟨stackable, _, stack, _, atDest, _, takes⟩
    · exact .inl small
    · exact .inr ⟨stackable, stack, atDest, takes⟩

/-- For a player the two are one. -/
theorem Landed.settled {dest : Destination} (landed : game.Landed env ptr dest) {owner : PlayerId}
    (here : dest.cylinder = .player owner) : game.Settled env ptr dest where
  present := landed.present
  occupant := landed.occupant
  index := by
    intro holder same
    rw [here] at same
    cases same

/-- A redirection into a container. -/
theorem settled_inside (holder : ItemPtr) (flags : CylinderFlags) :
    game.Settled env ptr ⟨.item holder, indexWhereever, none, flags⟩ where
  present := present_none _
  occupant := by
    intro owner same
    cases same
  index := by
    intro other same container
    exact .inl (by simp only [indexWhereever]; omega)

theorem settled_tile {pos : Position} {index : Int} {toItem : Option ItemPtr} {flags : CylinderFlags}
    (present : game.Present (.tile pos) toItem) : game.Settled env ptr ⟨.tile pos, index, toItem, flags⟩ where
  present := present
  occupant := by
    intro owner same
    cases same
  index := by
    intro holder same
    cases same

theorem settled_container {container : ItemPtr} {index : Int} {toItem : Option ItemPtr}
    {flags : CylinderFlags} (present : game.Present (.item container) toItem)
    (small : index < (game.items container).maxSize) :
    game.Settled env ptr ⟨.item container, index, toItem, flags⟩ where
  present := present
  occupant := by
    intro owner same
    cases same
  index := by
    intro holder same _
    cases same
    exact .inl small

theorem findStack_some (list : List ItemPtr) (n : Nat) {found : Nat × ItemPtr}
    (some_ : game.findStack env ptr list n = some found) :
    n ≤ found.1 ∧ list[found.1 - n]? = some found.2 ∧ game.Takes env ptr found.2 := by
  induction list generalizing n with
  | nil => cases some_
  | cons other rest ih =>
    unfold findStack at some_
    split at some_
    · rename_i takes
      cases some_
      exact ⟨Nat.le_refl _, by simp, takes.2⟩
    · obtain ⟨later, here, takes⟩ := ih (n + 1) some_
      refine ⟨by omega, ?_, takes⟩
      have shift : found.1 - n = (found.1 - (n + 1)) + 1 := by omega
      rw [shift, getElem?_cons_succ]
      exact here

theorem getItemByIndex_mem {container : ItemPtr} {index : Int} {stack : ItemPtr}
    (found : game.getItemByIndex container index = some stack) :
    stack ∈ game.contents (.item container) := by
  unfold getItemByIndex at found
  split at found
  · cases found
  · exact mem_of_getElem? found

/-- The search for a stack, with another answer when there is none. -/
theorem findStack_settled {container : ItemPtr} {flags : CylinderFlags} {dest : Destination}
    (settled : game.Settled env ptr dest) (stackable : (game.items ptr).isStackable env.items = true) :
    game.Settled env ptr (match game.findStack env ptr (game.items container).itemlist 0 with
      | some (n, listItem) => ⟨.item container, n, some listItem, flags⟩
      | none => dest) := by
  cases found : game.findStack env ptr (game.items container).itemlist 0 with
  | none => exact settled
  | some stack =>
    obtain ⟨_, here, takes⟩ := findStack_some env _ _ found
    exact
      { present := by
          intro other some_
          cases some_
          exact mem_of_getElem? here
        occupant := by
          intro owner same
          cases same
        index := by
          intro holder same _
          cases same
          exact .inr ⟨stackable, _, _, rfl, rfl, here, takes⟩ }

/-- The answer of a container: itself, its parent, or a container in it. -/
theorem containerQueryDestination_settled {container : ItemPtr} {index : Int}
    {destItem : Option ItemPtr} {flags : CylinderFlags}
    (present : game.Present (.item container) destItem) :
    game.Settled env ptr (game.containerQueryDestination env container index ptr destItem flags) := by
  unfold containerQueryDestination
  simp only
  split
  · split
    · split
      · exact settled_inside env _ _
      · exact settled_inside env _ _
    · exact settled_inside env _ _
  · have small : (if index = 255 ∨ index ≥ (game.items container).maxSize then indexWhereever
        else index) < (game.items container).maxSize := by
      unfold indexWhereever
      split <;> omega
    have kept : game.Present (.item container) (if index = 255 ∨
        index ≥ (game.items container).maxSize then none else destItem) := by
      split
      · exact present_none _
      · exact present
    generalize (if index = 255 ∨ index ≥ (game.items container).maxSize then indexWhereever
      else index) = place at small
    generalize (if index = 255 ∨ index ≥ (game.items container).maxSize then none else destItem) = old
      at kept
    have found : game.Present (.item container) (if place ≠ indexWhereever
        then (game.getItemByIndex container place).or old else old) := by
      split
      · intro stack some_
        rcases Option.or_eq_some_iff.mp some_ with here | ⟨_, here⟩
        · exact getItemByIndex_mem here
        · exact kept stack here
      · exact kept
    generalize (if place ≠ indexWhereever then (game.getItemByIndex container place).or old else old) =
      toItem at found
    split
    · exact settled_inside env _ _
    · split
      · rename_i autoStack
        have stackable := autoStack.2.1
        split
        · split
          · exact settled_container env found small
          · exact findStack_settled env (settled_container env found small) stackable
        · split
          · exact settled_container env found small
          · exact findStack_settled env (settled_container env found small) stackable
      · exact settled_container env found small

theorem tileQueryDestination_settled (tile : Tile) {pos : Position} (here : game.tiles pos = some tile)
    (index : Int) (flags : CylinderFlags) :
    game.Settled env ptr (game.tileQueryDestination tile pos index flags) := by
  have top : ∀ (place : Position) (other : Tile), game.tiles place = some other →
      game.Present (.tile place) other.getTopDownItem := by
    intro place other there stack found
    have member : stack ∈ other.downItems := mem_of_mem_head? found
    simp [contents, there, Tile.things, member]
  unfold tileQueryDestination
  split
  · exact settled_tile env (top pos tile here)
  · split
    · exact settled_tile env (top pos tile here)
    · rename_i there
      exact settled_tile env (top _ _ there)

theorem settled_other {holder : ItemPtr} {index : Int} {toItem : Option ItemPtr} {flags : CylinderFlags}
    (present : game.Present (.item holder) toItem)
    (noContainer : ¬ (game.items holder).isContainer = true) :
    game.Settled env ptr ⟨.item holder, index, toItem, flags⟩ where
  present := present
  occupant := by
    intro owner same
    cases same
  index := by
    intro other same container
    cases same
    exact absurd container noContainer

theorem queryDestination_settled {cylinder : Cylinder} {index : Int}
    {destItem : Option ItemPtr} {flags : CylinderFlags} (present : game.Present cylinder destItem)
    (noPlayer : ∀ owner, cylinder ≠ .player owner) :
    game.Settled env ptr (game.queryDestination env cylinder index ptr destItem flags) := by
  cases cylinder with
  | player owner => exact absurd rfl (noPlayer owner)
  | tile pos =>
    cases here : game.tiles pos with
    | none =>
      simp only [queryDestination, here]
      exact settled_tile env (present_none _)
    | some tile =>
      simp only [queryDestination, here]
      exact tileQueryDestination_settled env tile here index flags
  | item holder =>
    simp only [queryDestination]
    split
    · exact containerQueryDestination_settled env present
    · rename_i noContainer
      exact settled_other env present noContainer

section
variable {id : PlayerId} {flags : CylinderFlags}

theorem getInventoryItem_slot {slot : Nat} (listed : slot ∈ slots) :
    game.getInventoryItem id slot = (game.players id).inventory slot := by
  have range := mem_slots.mp listed
  have inside : ¬ ((slot : Int) < 1 ∨ (slot : Int) > 10) := by omega
  simp only [getInventoryItem, if_neg inside, Int.toNat_natCast]

theorem getInventoryItem_some {index : Int} {item : ItemPtr}
    (found : game.getInventoryItem id index = some item) :
    ∃ slot ∈ slots, index = slot ∧ (game.players id).inventory slot = some item := by
  unfold getInventoryItem at found
  split at found
  · cases found
  · rename_i inside
    refine ⟨index.toNat, mem_slots.mpr (by omega), by omega, found⟩

theorem Settled.slot {dest : Destination} (settled : game.Settled env ptr dest)
    (here : dest.cylinder = .player id) {slot : Nat} (listed : slot ∈ slots) (index : dest.index = slot) :
    dest.toItem = (game.players id).inventory slot := by
  rw [settled.occupant id here, index]
  exact getInventoryItem_slot listed

theorem slotSearch_error {slotList : List Nat} {containers : List ItemPtr} {slot : Nat}
    {toItem : Option ItemPtr}
    (found : game.slotSearch env id ptr flags slotList containers = .error (slot, toItem)) :
    slot ∈ slotList ∧ toItem = (game.players id).inventory slot ∧ ∀ stack, toItem = some stack →
      (game.items ptr).isStackable env.items = true ∧ game.Takes env ptr stack := by
  induction slotList generalizing containers with
  | nil => cases found
  | cons first rest ih =>
    have later : ∀ {containers}, game.slotSearch env id ptr flags rest containers = .error (slot, toItem) →
        slot ∈ first :: rest ∧ toItem = (game.players id).inventory slot ∧ ∀ stack, toItem = some stack →
          (game.items ptr).isStackable env.items = true ∧ game.Takes env ptr stack := by
      intro containers found
      obtain ⟨member, here, takes⟩ := ih found
      exact ⟨mem_cons_of_mem _ member, here, takes⟩
    unfold slotSearch at found
    simp only at found
    split at found
    · rename_i inventoryItem here
      split at found
      · exact later found
      · split at found
        · rename_i merges
          cases found
          refine ⟨mem_cons_self, here.symm, ?_⟩
          intro stack same
          cases same
          exact ⟨merges.1.2, merges.2.2⟩
        · exact later found
    · rename_i here
      split at found
      · cases found
        exact ⟨mem_cons_self, here.symm, fun _ same => by cases same⟩
      · exact later found

theorem stackSearch_error {list : List ItemPtr} {n : Nat} {nested : List ItemPtr} {stack : Nat × ItemPtr}
    (found : game.stackSearch env id ptr list n nested = .error stack) :
    stack.2 ∈ list ∧ game.Takes env ptr stack.2 := by
  induction list generalizing n nested with
  | nil => cases found
  | cons first rest ih =>
    have later : ∀ {n nested}, game.stackSearch env id ptr rest n nested = .error stack →
        stack.2 ∈ first :: rest ∧ game.Takes env ptr stack.2 := by
      intro n nested found
      obtain ⟨member, takes⟩ := ih found
      exact ⟨mem_cons_of_mem _ member, takes⟩
    unfold stackSearch at found
    simp only at found
    split at found
    · exact later found
    · split at found
      · rename_i takes
        cases found
        exact ⟨mem_cons_self, takes⟩
      · exact later found

/-- The search ends with a free place of a container or with a stack in it. -/
theorem containerSearch_landed {fuel : Nat} {containers : List ItemPtr} {container : ItemPtr}
    {index : Nat} {toItem : Option ItemPtr}
    (found : game.containerSearch env id ptr flags fuel containers = some (container, index, toItem)) :
    game.Landed env ptr ⟨.item container, index, toItem, flags⟩ := by
  have noOwner : ∀ owner, Cylinder.item container = .player owner →
      toItem = game.getInventoryItem owner index := by
    intro owner same
    cases same
  induction fuel generalizing containers with
  | zero => cases found
  | succ fuel ih =>
    cases containers with
    | nil => cases found
    | cons first rest =>
      unfold containerSearch at found
      simp only at found
      split at found
      · split at found
        · rename_i n free
          cases found
          have listed := mem_reverse.mp (mem_of_find?_eq_some free)
          have range := mem_range'_1.mp listed
          refine ⟨present_none _, noOwner, ?_⟩
          intro holder same _
          cases same
          exact .inl (by simp only; omega)
        · exact ih found
      · rename_i merging
        have stackable := (not_or.mp merging).2
        rw [not_not] at stackable
        split at found
        · rename_i stacked
          cases found
          obtain ⟨member, takes⟩ := stackSearch_error env stacked
          refine ⟨?_, noOwner, fun _ _ _ => .inr ⟨stackable, _, rfl, takes⟩⟩
          intro stack same
          cases same
          exact member
        · split at found
          · rename_i free
            cases found
            refine ⟨present_none _, noOwner, ?_⟩
            intro holder same _
            cases same
            exact .inl (by simpa using free.1)
          · exact ih found

/-- The answer of a player: one of the slots, or a container that is carried. -/
theorem playerQueryDestination_landed (index : Int) :
    let dest := game.playerQueryDestination env id index ptr none flags
    (dest.cylinder = .player id ∨ ∃ holder, dest.cylinder = .item holder) ∧
      game.Landed env ptr dest := by
  have inSlots : ∀ {index : Int} {toItem : Option ItemPtr}, toItem = game.getInventoryItem id index →
      game.Landed env ptr ⟨.player id, index, toItem, flags⟩ := by
    intro index toItem found
    refine ⟨?_, ?_, ?_⟩
    · intro stack some_
      obtain ⟨slot, listed, _, inSlot⟩ := getInventoryItem_some (found.symm.trans some_)
      exact mem_filterMap.mpr ⟨slot, listed, inSlot⟩
    · intro owner same
      cases same
      exact found
    · intro holder same
      cases same
  unfold playerQueryDestination
  simp only
  split
  · rename_i anywhere
    split
    · rename_i slot toItem searched
      obtain ⟨listed, here, _⟩ := slotSearch_error env searched
      exact ⟨.inl rfl, inSlots (here.trans (getInventoryItem_slot listed).symm)⟩
    · split
      · rename_i searched
        exact ⟨.inr ⟨_, rfl⟩, containerSearch_landed env searched⟩
      · have outside : index < 1 := by
          unfold indexWhereever at anywhere
          omega
        exact ⟨.inl rfl, inSlots (if_pos (.inl outside)).symm⟩
  · split
    · rename_i destThing here
      split
      · exact ⟨.inr ⟨_, rfl⟩, (settled_inside env destThing flags).landed⟩
      · exact ⟨.inl rfl, inSlots here.symm⟩
    · rename_i empty
      exact ⟨.inl rfl, inSlots empty.symm⟩

end

theorem containerQueryDestination_item (container : ItemPtr) (index : Int) (ptr : ItemPtr)
    (destItem : Option ItemPtr) (flags : CylinderFlags) : ∃ holder,
      (game.containerQueryDestination env container index ptr destItem flags).cylinder = .item holder := by
  unfold containerQueryDestination
  simp only
  repeat' split
  all_goals exact ⟨_, rfl⟩

theorem queryDestination_noPlayer {cylinder : Cylinder} (noPlayer : ∀ owner, cylinder ≠ .player owner)
    (index : Int) (ptr : ItemPtr) (destItem : Option ItemPtr) (flags : CylinderFlags) (owner : PlayerId) :
    (game.queryDestination env cylinder index ptr destItem flags).cylinder ≠ .player owner := by
  cases cylinder with
  | player other => exact absurd rfl (noPlayer other)
  | tile pos =>
    simp only [queryDestination, tileQueryDestination]
    split
    · split
      · simp
      · split <;> simp
    · simp
  | item holder =>
    simp only [queryDestination]
    split
    · obtain ⟨other, same⟩ : ∃ other, (game.containerQueryDestination env holder index ptr destItem
          flags).cylinder = .item other := containerQueryDestination_item env holder index ptr destItem flags
      rw [same]
      simp
    · simp

/-- The loop ends with a settled destination when it starts from one. -/
theorem resolve_settled (floors : Nat) {cylinder : Cylinder} {index : Int}
    {toItem : Option ItemPtr} {flags : CylinderFlags}
    (settled : ∀ flags, game.Settled env ptr ⟨cylinder, index, toItem, flags⟩)
    (noPlayer : ∀ owner, cylinder ≠ .player owner) :
    game.Settled env ptr (game.resolve env ptr floors cylinder index toItem flags) := by
  induction floors generalizing cylinder index toItem flags with
  | zero => exact settled flags
  | succ floors ih =>
    have next : game.Settled env ptr (game.queryDestination env cylinder index ptr toItem flags) :=
      queryDestination_settled env (settled flags).present noPlayer
    simp only [resolve]
    split
    · exact next
    · refine ih (fun other => ?_) (queryDestination_noPlayer env noPlayer _ _ _ _)
      exact ⟨next.present, next.occupant, next.index⟩

/-- One step is enough to settle. -/
theorem resolve_settled_succ (floors : Nat) {cylinder : Cylinder} {index : Int}
    {toItem : Option ItemPtr} {flags : CylinderFlags} (present : game.Present cylinder toItem)
    (noPlayer : ∀ owner, cylinder ≠ .player owner) :
    game.Settled env ptr (game.resolve env ptr (floors + 1) cylinder index toItem flags) := by
  have next : game.Settled env ptr (game.queryDestination env cylinder index ptr toItem flags) :=
    queryDestination_settled env present noPlayer
  rw [resolve]
  split
  · exact next
  · refine resolve_settled env _ (fun _ => ?_) (queryDestination_noPlayer env noPlayer _ _ _ _)
    exact ⟨next.present, next.occupant, next.index⟩

theorem destination_settled (move : Move) :
    game.Settled env move.item (game.destination env move) := by
  unfold destination mapMaxLayers
  have player_or : (∃ owner, move.toCylinder = .player owner) ∨
      ∀ owner, move.toCylinder ≠ .player owner := by
    cases move.toCylinder <;> simp
  rcases player_or with ⟨owner, same⟩ | noPlayer
  · rw [same, resolve]
    have answer : _ ∧ game.Landed env move.item (game.queryDestination env (.player owner) move.index
      move.item none move.flags) := playerQueryDestination_landed env move.index
    obtain ⟨here | ⟨holder, inside⟩, landed⟩ := answer
    · exact (if_pos here).symm ▸ landed.settled env here
    · have noPlayer : ∀ other, (game.queryDestination env (.player owner) move.index move.item none
          move.flags).cylinder ≠ .player other := by
        intro other found
        cases inside.symm.trans found
      rw [if_neg (noPlayer owner)]
      exact resolve_settled_succ env 14 landed.present noPlayer
  · exact resolve_settled_succ env 15 (present_none _) noPlayer

/-- When any place will do, a slot that is found is empty or has a stack to merge with. -/
theorem queryDestination_whereever {cylinder : Cylinder} {flags : CylinderFlags} {owner : PlayerId}
    (here : (game.queryDestination env cylinder indexWhereever ptr none flags).cylinder = .player owner)
    {slot : Nat} (listed : slot ∈ slots)
    (index : (game.queryDestination env cylinder indexWhereever ptr none flags).index = slot)
    {stack : ItemPtr} (inSlot : (game.players owner).inventory slot = some stack) :
    (game.items ptr).isStackable env.items = true ∧ game.Takes env ptr stack := by
  have range := mem_slots.mp listed
  have player_or : (∃ owner, cylinder = .player owner) ∨ ∀ owner, cylinder ≠ .player owner := by
    cases cylinder <;> simp
  rcases player_or with ⟨other, same⟩ | noPlayer
  · subst same
    simp only [queryDestination] at here index
    unfold playerQueryDestination at here index
    rw [if_pos (.inr rfl)] at here index
    split at here
    · rename_i found toItem searched
      cases here
      obtain ⟨_, atDest, takes⟩ := slotSearch_error env searched
      have same : found = slot := by
        simp only [searched] at index
        exact_mod_cast index
      rw [same, inSlot] at atDest
      exact takes stack atDest
    · rename_i searched
      split at here
      · cases here
      · rename_i none
        simp only [searched, none, indexWhereever] at index
        omega
  · exact absurd here (queryDestination_noPlayer env noPlayer _ _ _ _ _)

/-- A single question is enough for a destination. -/
theorem queryDestination_landed (cylinder : Cylinder) (index : Int) (flags : CylinderFlags) :
    game.Landed env ptr (game.queryDestination env cylinder index ptr none flags) := by
  have player_or : (∃ owner, cylinder = .player owner) ∨ ∀ owner, cylinder ≠ .player owner := by
    cases cylinder <;> simp
  rcases player_or with ⟨owner, same⟩ | noPlayer
  · subst same
    exact (playerQueryDestination_landed env index).2
  · exact (queryDestination_settled env (present_none _) noPlayer).landed env

end Styller.Game
