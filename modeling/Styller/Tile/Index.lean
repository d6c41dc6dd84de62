import Styller.Tile.FlagRuns

/-! The indices of the things on a tile: their logical order (the ground, the top items, the creatures, the down items)
against the order in which the tile keeps them. -/

namespace Styller

open Library List

namespace TileStack

/-- Where a thing stands in the logical order. -/
inductive At (tile : TileStack) : Nat → Thing → Prop where
  | ground {ptr : ItemPtr} (here : tile.ground = some ptr) : At tile 0 (.item ptr)
  | top {place : Nat} {ptr : ItemPtr} (here : tile.topItems[place]? = some ptr) :
      At tile (tile.ground.toList.length + place) (.item ptr)
  | creature {place : Nat} {id : CreatureId} (here : tile.creatures[place]? = some id) :
      At tile (tile.ground.toList.length + tile.topItems.length + place) (.creature id)
  | down {place : Nat} {ptr : ItemPtr} (here : tile.downItems[place]? = some ptr) :
      At tile (tile.ground.toList.length + tile.topItems.length + tile.creatures.length + place) (.item ptr)

section
variable {tile : TileStack}

theorem getElem?_append_iff {Value : Type} {front back : List Value} {index : Nat} {value : Value} :
    (front ++ back)[index]? = some value ↔
      front[index]? = some value ∨ ∃ place, index = front.length + place ∧ back[place]? = some value := by
  constructor
  · intro found
    rw [getElem?_append] at found
    split at found
    · exact .inl found
    · next behind => exact .inr ⟨_, (Nat.add_sub_of_le (Nat.le_of_not_lt behind)).symm, found⟩
  · rintro (found | ⟨place, rfl, found⟩)
    · obtain ⟨inside, _⟩ := List.getElem?_eq_some_iff.mp found
      rwa [getElem?_append_left inside]
    · rwa [getElem?_append_right (Nat.le_add_right _ _), Nat.add_sub_cancel_left]

theorem getElem?_map_iff {Value Other : Type} {list : List Value} {f : Value → Other} {index : Nat} {other : Other} :
    (list.map f)[index]? = some other ↔ ∃ value, list[index]? = some value ∧ f value = other := by
  rw [getElem?_map, Option.map_eq_some_iff]

theorem things_at {index : Nat} {thing : Thing} : tile.things[index]? = some thing ↔ tile.At index thing := by
  unfold things
  simp only [getElem?_append_iff, getElem?_map_iff, length_append, length_map]
  constructor
  · rintro (((⟨ptr, here, rfl⟩ | ⟨place, rfl, ptr, here, rfl⟩) | ⟨place, rfl, id, here, rfl⟩) | ⟨place, rfl, ptr, here, rfl⟩)
    · cases ground : tile.ground with
      | none =>
        rw [ground] at here
        cases here
      | some first =>
        rw [ground] at here
        obtain ⟨inside, rfl⟩ := List.getElem?_eq_some_iff.mp here
        cases Nat.lt_one_iff.mp inside
        exact .ground ground
    · exact .top here
    · exact .creature here
    · exact .down here
  · intro at_index
    cases at_index with
    | @ground ptr here => exact .inl (.inl (.inl ⟨ptr, by rw [here]; rfl, rfl⟩))
    | top here => exact .inl (.inl (.inr ⟨_, rfl, _, here, rfl⟩))
    | creature here => exact .inl (.inr ⟨_, rfl, _, here, rfl⟩)
    | down here => exact .inr ⟨_, rfl, _, here, rfl⟩

theorem length_things : tile.things.length = tile.getThingCount := by
  have whole : tile.items.length = tile.downItems.length + tile.topItems.length := length_items tile
  have ground : tile.ground.toList.length = if tile.ground.isSome then 1 else 0 := by
    cases tile.ground with
    | none => rfl
    | some ptr => rfl
  simp only [things, length_append, length_map, ground, getThingCount, whole]
  ac_rfl

theorem things_nodup (shaped : tile.Shaped) : tile.things.Nodup := by
  have items := shaped.items
  rw [shaped.split.allItems] at items
  simp only [nodup_append, mem_append] at items
  obtain ⟨ground, ⟨down, top, apart⟩, apartGround⟩ := items
  have item : Function.Injective Thing.item := fun _ _ same => Thing.item.inj same
  have creature : Function.Injective Thing.creature := fun _ _ same => Thing.creature.inj same
  simp only [things, nodup_append, mem_append, mem_map]
  refine ⟨⟨⟨ground.map item, top.map item, ?_⟩, shaped.creatures.map creature, ?_⟩, down.map item, ?_⟩
  · rintro _ ⟨first, here, rfl⟩ _ ⟨second, there, rfl⟩ same
    exact apartGround first here second (.inr there) (item same)
  · rintro _ (⟨first, _, rfl⟩ | ⟨first, _, rfl⟩) _ ⟨second, _, rfl⟩ same
    · cases same
    · cases same
  · rintro _ ((⟨first, here, rfl⟩ | ⟨first, here, rfl⟩) | ⟨first, _, rfl⟩) _ ⟨second, there, rfl⟩ same
    · exact apartGround first here second (.inl there) (item same)
    · exact apart second there first here (item same).symm
    · cases same

theorem getThingAbove_eq (shaped : tile.Shaped) (index : Nat) : tile.getThingAbove index =
    (tile.topItems.map .item ++ (tile.creatures.map .creature ++ tile.downItems.map .item))[index]? := by
  have tops : tile.topItems.length = tile.getTopItemCount := shaped.split.topItemCount.symm
  unfold getThingAbove
  simp only [getElem?_append, length_map, getElem?_map, tops]
  split
  · rw [topItems, getElem?_drop]
    rfl
  · split
    · rfl
    · rw [downItems, getElem?_take, getDownItemCount]
      split
      · rfl
      · rfl

/-- `getThing` goes by the logical order. -/
theorem getThing_eq (shaped : tile.Shaped) (index : Nat) : tile.getThing index = tile.things[index]? := by
  have whole : tile.things = tile.ground.toList.map .item ++ (tile.topItems.map .item ++
      (tile.creatures.map .creature ++ tile.downItems.map .item)) := by
    simp only [things, append_assoc]
  rw [whole, getThing]
  cases tile.ground with
  | none => exact getThingAbove_eq shaped index
  | some ground =>
    cases index with
    | zero => rfl
    | succ index => exact getThingAbove_eq shaped index

end

end TileStack

namespace TileState

def Belongs (layer : Layer) (it : ItemType) : Prop := layerOf it = layer

/-- What the code looks at when it searches for an item: the ground is known by itself. -/
def OnTop : Layer → ItemType → Prop
  | .ground, _ => True
  | .top, it => it.alwaysOnTop = true
  | .down, it => it.alwaysOnTop = false

/-- What comes to a tile comes to a part that it fits, and fitting is a matter of the kind of a type. -/
structure Sorting {Kind : Type} (fits : Layer → ItemType → Prop) (kind : ItemType → Kind) : Prop where
  placed : ∀ it, fits (layerOf it) it
  same : ∀ layer it other, kind other = kind it → fits layer it → fits layer other

theorem sorting_layer : Sorting Belongs layerOf where
  placed := fun _ => rfl
  same := by
    intro layer it other same fits
    exact same.trans fits

theorem sorting_top : Sorting OnTop ItemType.alwaysOnTop where
  placed := by
    intro it
    unfold layerOf
    split
    · trivial
    · split
      · assumption
      · next below => exact eq_false_of_ne_true below
  same := by
    intro layer it other same fits
    cases layer with
    | ground => trivial
    | top | down => exact same.trans fits

def Sorted (env : Env) (fits : Layer → ItemType → Prop) (state : TileState) : Prop :=
  ∀ layer, ∀ ptr ∈ state.tile.part layer, fits layer (state.typeOf env ptr)

section
variable {env : Env} {state : TileState}

theorem Sorted.onTop (sorted : state.Sorted env Belongs) : state.Sorted env OnTop := by
  intro layer ptr member
  rw [← sorted layer ptr member]
  exact sorting_top.placed _

theorem idxOf?_of_nodup {Value : Type} [DecidableEq Value] {list : List Value} (nodup : list.Nodup) {place : Nat} {value : Value}
    (here : list[place]? = some value) : list.idxOf? value = some place := by
  obtain ⟨inside, rfl⟩ := List.getElem?_eq_some_iff.mp here
  rw [idxOf?_eq_some_iff]
  refine ⟨inside, rfl, ?_⟩
  intro earlier before same
  have equal := nodup.getElem_inj_iff.mp same
  omega

/-- `getThingIndex` finds a thing at its place in the logical order. -/
theorem getThingIndex_at (shaped : state.tile.Shaped) (sorted : state.Sorted env OnTop) {index : Nat} {thing : Thing}
    (here : state.tile.At index thing) : state.tile.getThingIndex env state.game thing = index := by
  have tops : (state.tile.getTopItemCount : Int) = state.tile.topItems.length := by rw [shaped.split.topItemCount]
  have grounds : ((if state.tile.ground.isSome = true then (0 : Int) else -1) : Int) = state.tile.ground.toList.length - 1 := by
    cases state.tile.ground with
    | none => rfl
    | some ptr => rfl
  have nodup := shaped.items
  rw [shaped.split.allItems, nodup_append] at nodup
  obtain ⟨_, vector, apart⟩ := nodup
  have notGround : ∀ ptr, ptr ∈ state.tile.downItems ++ state.tile.topItems → ¬ state.tile.ground = some ptr := by
    intro ptr there ground
    exact apart ptr (Option.mem_toList.mpr ground) ptr there rfl
  rw [nodup_append] at vector
  cases here with
  | ground here => simp only [TileStack.getThingIndex, here, if_true, Int.ofNat_zero]
  | @top place ptr here =>
    have member := mem_of_getElem? here
    have onTop : (state.game.items ptr).isAlwaysOnTop env.items = true := sorted .top ptr member
    simp only [TileStack.getThingIndex, if_neg (notGround ptr (mem_append_right _ member)), if_pos onTop,
      idxOf?_of_nodup vector.2.1 here, grounds]
    omega
  | @creature place id here =>
    simp only [TileStack.getThingIndex, idxOf?_of_nodup shaped.creatures here, grounds, tops]
    omega
  | @down place ptr here =>
    have member := mem_of_getElem? here
    have below : ¬ (state.game.items ptr).isAlwaysOnTop env.items = true :=
      Bool.eq_false_iff.mp (sorted .down ptr member)
    simp only [TileStack.getThingIndex, if_neg (notGround ptr (mem_append_left _ member)), if_neg below,
      idxOf?_of_nodup vector.1 here, grounds, tops]
    omega

end

section
variable {tile : TileStack} {ptr old : ItemPtr} {index : Nat}

theorem swap_behind (place : Nat) : swap tile (tile.ground.toList.length + place) ptr = swapAbove tile place ptr := by
  unfold swap
  cases tile.ground with
  | none => rw [Option.toList_none, length_nil, Nat.zero_add]
  | some ground =>
    simp only [Option.toList_some, length_singleton, Nat.add_sub_cancel_left]
    rw [if_neg (by omega)]

theorem things_parts (tile : TileStack) : tile.things = (tile.part .ground).map .item ++ (tile.part .top).map .item ++
    tile.creatures.map .creature ++ (tile.part .down).map .item := rfl

variable (ptr) in
/-- `replaceThing` takes out the item that has the index, and puts the other one there. -/
theorem swap_at (shaped : tile.Shaped) (here : tile.At index (.item old)) :
    ∃ after, swap tile index ptr = some (old, after) ∧ after.things = tile.things.set index (.item ptr) := by
  have split := shaped.split
  cases here with
  | ground here =>
    refine ⟨{ tile with ground := some ptr }, ?_, ?_⟩
    · rw [swap, here]
      rfl
    · simp only [TileStack.things, here]
      rfl
  | @top place _ here =>
    obtain ⟨inside, _⟩ := List.getElem?_eq_some_iff.mp here
    refine ⟨{ tile with items := tile.items.set (tile.downItemCount + place) ptr }, ?_, ?_⟩
    · rw [TileStack.topItems, getElem?_drop] at here
      rw [swap_behind, swapAbove]
      simp only [if_pos (split.topItemCount ▸ inside), here, Option.map_some]
    · have relayer := TileStack.relayer_setTop ptr shaped place
      have front : ((tile.part .ground).map Thing.item).length = tile.ground.toList.length := length_map _
      have within : place < ((tile.part .top).map Thing.item).length := by
        rw [length_map]
        exact inside
      rw [things_parts, things_parts, relayer.part, relayer.part, relayer.part, relayer.creatures, if_neg (by decide), if_pos rfl,
        if_neg (by decide), map_set]
      simp only [append_assoc]
      rw [set_append_right _ _ (front ▸ Nat.le_add_right _ _), front, Nat.add_sub_cancel_left,
        set_append_left _ _ within]
      rfl
  | @down place _ here =>
    obtain ⟨inside, _⟩ := List.getElem?_eq_some_iff.mp here
    refine ⟨{ tile with items := tile.items.set place ptr }, ?_, ?_⟩
    · rw [TileStack.downItems, getElem?_take] at here
      rw [Nat.add_assoc, Nat.add_assoc, swap_behind, swapAbove]
      have behindTop : ¬ tile.topItems.length + (tile.creatures.length + place) < tile.getTopItemCount := by
        rw [split.topItemCount]
        omega
      have behindCreatures : ¬ tile.creatures.length + place < tile.creatures.length := by omega
      split at here
      · next below =>
        rw [if_neg behindTop, split.topItemCount, Nat.add_sub_cancel_left, if_neg behindCreatures, Nat.add_sub_cancel_left,
          TileStack.getDownItemCount, if_pos below, here]
        rfl
      · cases here
    · have relayer := TileStack.relayer_setDown ptr shaped inside
      have front : ((tile.part .ground).map Thing.item ++ (tile.part .top).map Thing.item ++
          tile.creatures.map Thing.creature).length =
          tile.ground.toList.length + tile.topItems.length + tile.creatures.length := by
        simp only [length_append, length_map]
        rfl
      rw [things_parts, things_parts, relayer.part, relayer.part, relayer.part, relayer.creatures, if_neg (by decide), if_neg (by decide),
        if_pos rfl, map_set, set_append_right _ _ (front ▸ Nat.le_add_right _ _), front, Nat.add_sub_cancel_left]
      rfl

/-- What `replaceThing` takes out is what `getThing` finds. -/
theorem getThing_of_swap {after : TileStack} (swapped : swap tile index ptr = some (old, after)) :
    tile.getThing index = some (.item old) := by
  have above : ∀ place, swapAbove tile place ptr = some (old, after) → tile.getThingAbove place = some (.item old) := by
    intro place swapped
    unfold swapAbove at swapped
    simp only at swapped
    unfold TileStack.getThingAbove
    simp only
    split at swapped
    · next top =>
      obtain ⟨_, found, same⟩ := Option.map_eq_some_iff.mp swapped
      cases same
      rw [if_pos top, TileStack.getDownItemCount, found]
      rfl
    · next behindTop =>
      rw [if_neg behindTop]
      split at swapped
      · cases swapped
      · next behindCreatures =>
        rw [if_neg behindCreatures]
        split at swapped
        · next down =>
          obtain ⟨_, found, same⟩ := Option.map_eq_some_iff.mp swapped
          cases same
          rw [if_pos down, found]
          rfl
        · cases swapped
  unfold swap at swapped
  unfold TileStack.getThing
  cases ground : tile.ground with
  | none =>
    rw [ground] at swapped
    exact above index swapped
  | some first =>
    rw [ground] at swapped
    simp only at swapped ⊢
    split at swapped
    · next zero =>
      cases swapped
      rw [if_pos zero]
    · next positive =>
      rw [if_neg positive]
      exact above _ swapped

end

section
variable {env : Env} {pos : Position} {state after : TileState} {ptr : ItemPtr} {Kind : Type} {kind : ItemType → Kind}
  {fits : Layer → ItemType → Prop}

theorem Sorted.relayer (sorted : state.Sorted env fits) {tile : TileStack} {layer : Layer} {list : List ItemPtr}
    (relayer : state.tile.Relayer tile layer list) (parts : ∀ other, after.tile.part other = tile.part other)
    (types : ∀ ptr, after.typeOf env ptr = state.typeOf env ptr) (right : ∀ ptr ∈ list, fits layer (state.typeOf env ptr)) :
    after.Sorted env fits := by
  intro other ptr member
  rw [parts, relayer.part] at member
  rw [types]
  split at member
  · next same =>
    rw [same]
    exact right ptr member
  · exact sorted other ptr member

theorem Sorted.congr (sorted : state.Sorted env fits) (tile : ∀ layer, after.tile.part layer = state.tile.part layer)
    (types : ∀ ptr, after.typeOf env ptr = state.typeOf env ptr) : after.Sorted env fits := by
  intro layer ptr member
  rw [tile] at member
  rw [types]
  exact sorted layer ptr member

theorem Sorted.setParent (sorted : state.Sorted env fits) (ptr : ItemPtr) (cylinder : Option Cylinder) :
    (state.setParent ptr cylinder).Sorted env fits :=
  sorted.congr (fun _ => rfl) (fun other => typeOf_setParent env state ptr other cylinder)

theorem typeOf_removeThing (shaped : state.tile.Shaped) (count : Nat) (other : ItemPtr) :
    (state.removeThing env (.item ptr) count).typeOf env other = state.typeOf env other := by
  by_cases removes : state.removes env ptr count = true
  · obtain ⟨layer, tile, _, same⟩ := removeThing_removes shaped removes
    rw [same]
    exact typeOf_setParent env state ptr other none
  · exact congrArg env.items.get ((removeThing_keeps removes).id other)

theorem Sorted.removeThing (sorted : state.Sorted env fits) (shaped : state.tile.Shaped) (count : Nat) :
    (state.removeThing env (.item ptr) count).Sorted env fits := by
  by_cases removes : state.removes env ptr count = true
  · obtain ⟨layer, tile, without, same⟩ := removeThing_removes shaped removes
    refine sorted.relayer without.relayer ?_ (typeOf_removeThing shaped count) ?_
    · rw [same]
      exact fun _ => rfl
    · intro other member
      exact sorted layer other (mem_of_mem_erase member)
  · refine sorted.congr ?_ (typeOf_removeThing shaped count)
    rw [(removeThing_keeps removes).tile]
    exact fun _ => rfl

theorem Sorted.removeOld (sorted : state.Sorted env fits) (shaped : state.tile.Shaped) (old : ItemPtr) :
    (state.removeOld env old).Sorted env fits :=
  (sorted.removeThing shaped 1).setParent old none

theorem typeOf_removeOld (shaped : state.tile.Shaped) (old other : ItemPtr) :
    (state.removeOld env old).typeOf env other = state.typeOf env other := by
  rw [removeOld, typeOf_setParent, typeOf_removeThing shaped]

theorem Sorted.insertTop (sorted : state.Sorted env fits) (shaped : state.tile.Shaped) (before : ItemType → Bool)
    (top : fits .top (state.typeOf env ptr)) : (state.insertTop env before ptr).Sorted env fits := by
  refine sorted.relayer (TileStack.relayer_insertTop ptr shaped _) (fun _ => rfl) (fun _ => rfl) ?_
  intro other member
  rcases eq_or_mem_of_mem_insertIdx member with same | member
  · rw [same]
    exact top
  · exact sorted .top other member

theorem Sorted.insertDown (sorted : state.Sorted env fits) (shaped : state.tile.Shaped) (room : state.tile.items.length < 0xFFFF)
    (down : fits .down (state.typeOf env ptr)) : (state.insertDown env ptr).Sorted env fits := by
  refine sorted.relayer (TileStack.relayer_insertDown ptr shaped room) (fun _ => rfl) (fun _ => rfl) ?_
  intro other member
  rcases mem_cons.mp member with same | member
  · rw [same]
    exact down
  · exact sorted .down other member

variable (ptr) in
/-- The ground of a tile becomes another one. -/
theorem Sorted.setGround (sorted : state.Sorted env fits) (shaped : state.tile.Shaped)
    (parts : ∀ layer, after.tile.part layer = TileStack.part { state.tile with ground := some ptr } layer)
    (types : ∀ ptr, after.typeOf env ptr = state.typeOf env ptr) (ground : fits .ground (state.typeOf env ptr)) :
    after.Sorted env fits := by
  refine sorted.relayer (TileStack.relayer_ground shaped (some ptr)) parts types ?_
  intro other member
  rw [mem_singleton.mp member]
  exact ground

theorem Sorted.addThing (sorting : Sorting fits kind) (sorted : state.Sorted env fits) (shaped : state.tile.Shaped) :
    (state.addThing env pos (.item ptr)).Sorted env fits := by
  have hung : ((state.setParent ptr (some (.tile pos))).tile).Shaped := shaped
  have started : (state.setParent ptr (some (.tile pos))).Sorted env fits := sorted.setParent ptr _
  have same : (state.setParent ptr (some (.tile pos))).typeOf env ptr = state.typeOf env ptr := typeOf_setParent ..
  simp only [TileState.addThing]
  split
  · exact sorted
  · next room =>
    have room : state.tile.items.length < 0xFFFF := Nat.lt_of_not_le room
    split
    · next ground =>
      have layer : fits .ground (state.typeOf env ptr) := by
        have placed := sorting.placed (state.typeOf env ptr)
        rwa [show layerOf _ = .ground from if_pos ground] at placed
      split
      · refine started.setGround ptr hung (fun _ => rfl) (fun _ => rfl) ?_
        rw [same]
        exact layer
      · next old _ =>
        refine (started.setParent old none).setGround ptr hung (fun _ => rfl) (fun _ => rfl) ?_
        rw [typeOf_setParent, same]
        exact layer
    · next notGround =>
      split
      · next onTop =>
        have layer : fits .top (state.typeOf env ptr) := by
          have placed := sorting.placed (state.typeOf env ptr)
          rwa [show layerOf _ = .top from (if_neg notGround).trans (if_pos onTop)] at placed
        split
        · next old _ =>
          apply (started.removeOld hung old).insertTop (removeOld_left env hung old).1
          rw [typeOf_removeOld hung, same]
          exact layer
        · apply started.insertTop hung
          rw [same]
          exact layer
      · next below =>
        have layer : fits .down (state.typeOf env ptr) := by
          have placed := sorting.placed (state.typeOf env ptr)
          rwa [show layerOf _ = .down from (if_neg notGround).trans (if_neg below)] at placed
        split
        · next old _ =>
          split
          · obtain ⟨left, fewer, _⟩ := removeOld_left env hung old
            apply (started.removeOld hung old).insertDown left (Nat.lt_of_le_of_lt fewer room)
            rw [typeOf_removeOld hung, same]
            exact layer
          · exact started.setParent ptr none
        · apply started.insertDown hung room
          rw [same]
          exact layer

theorem Sorted.internalAddThing (sorting : Sorting fits kind) (sorted : state.Sorted env fits) (shaped : state.tile.Shaped) :
    (state.internalAddThing env pos (.item ptr)).Sorted env fits := by
  have hung : ((state.setParent ptr (some (.tile pos))).tile).Shaped := shaped
  have started : (state.setParent ptr (some (.tile pos))).Sorted env fits := sorted.setParent ptr _
  have same : (state.setParent ptr (some (.tile pos))).typeOf env ptr = state.typeOf env ptr := typeOf_setParent ..
  simp only [TileState.internalAddThing]
  split
  · next ground =>
    split
    · refine started.setGround ptr hung (fun _ => rfl) (fun _ => rfl) ?_
      rw [same]
      have placed := sorting.placed (state.typeOf env ptr)
      rwa [show layerOf _ = .ground from if_pos ground] at placed
    · exact started
  · next notGround =>
    split
    · exact started
    · next room =>
      split
      · next onTop =>
        apply started.insertTop hung
        rw [same]
        have placed := sorting.placed (state.typeOf env ptr)
        rwa [show layerOf _ = .top from (if_neg notGround).trans (if_pos onTop)] at placed
      · next below =>
        apply started.insertDown hung (Nat.lt_of_not_le room)
        rw [same]
        have placed := sorting.placed (state.typeOf env ptr)
        rwa [show layerOf _ = .down from (if_neg notGround).trans (if_neg below)] at placed

theorem Sorted.updateThing (sorting : Sorting fits kind) (sorted : state.Sorted env fits) (shaped : state.tile.Shaped)
    {itemId count : Nat} (keeps : ptr ∈ state.tile.allItems → kind (env.items.get itemId) = kind (state.typeOf env ptr)) :
    (state.updateThing env (.item ptr) itemId count).Sorted env fits := by
  simp only [TileState.updateThing, game_resetFlags]
  split
  · exact sorted
  · next inside =>
    have same := keeps (mem_of_index shaped inside)
    have id : (((state.game.items ptr).setID env.items (env.normalRandom ptr) itemId).setSubType env.items (toUInt16 count)).id = itemId := by
      rw [(Item.setSubType_frame ..).1, Item.setID_moved]
    intro layer other member
    have right : fits layer (state.typeOf env other) := sorted layer other member
    change fits layer (env.items.get ((state.game.setItem ptr _).items other).id)
    by_cases updated : other = ptr
    · rw [updated, Game.setItem_self, id]
      rw [updated] at right
      exact sorting.same layer _ _ same right
    · rw [Game.setItem_other _ _ updated]
      exact right

theorem Sorted.replaceThing (sorting : Sorting fits kind) (sorted : state.Sorted env fits) (shaped : state.tile.Shaped)
    {index : Nat} (keeps : ∀ old, state.tile.getThing index = some (.item old) → kind (state.typeOf env ptr) = kind (state.typeOf env old)) :
    (state.replaceThing env pos index (.item ptr)).Sorted env fits := by
  simp only [TileState.replaceThing]
  cases swapped : swap state.tile index ptr with
  | none => exact sorted
  | some entry =>
    obtain ⟨old, tile⟩ := entry
    obtain ⟨layer, passed, found, relayer⟩ := swap_some shaped swapped
    have same := keeps old (getThing_of_swap swapped)
    refine sorted.relayer relayer (fun _ => rfl) ?_ ?_
    · intro other
      exact (typeOf_setParent ..).trans (typeOf_setParent ..)
    · intro other member
      rcases mem_or_eq_of_mem_set member with member | placed
      · exact sorted layer other member
      · rw [placed]
        exact sorting.same layer _ _ same (sorted layer old (mem_of_getElem? found))

end

end TileState

section
variable {env : Env} {pos : Position} {state : TileState} {op : TileOp} {Kind : Type} {kind : ItemType → Kind}
  {fits : Layer → ItemType → Prop}

def TileOp.KeepsKind (kind : ItemType → Kind) (env : Env) (state : TileState) : TileOp → Prop
  | updateThing (.item ptr) itemId _ => ptr ∈ state.tile.allItems → kind (env.items.get itemId) = kind (state.typeOf env ptr)
  | replaceThing index (.item ptr) =>
    ∀ old, state.tile.getThing index = some (.item old) → kind (state.typeOf env ptr) = kind (state.typeOf env old)
  | _ => True

theorem TileOp.run_sorted (sorting : TileState.Sorting fits kind) (sorted : state.Sorted env fits) (shaped : state.tile.Shaped)
    (fresh : op.Fresh state) (keeps : op.KeepsKind kind env state) : (op.run env pos state).Sorted env fits := by
  have creatures : ∀ creatures, TileState.Sorted env fits { state with tile := { state.tile with creatures } } :=
    fun _ => sorted.congr (fun layer => by cases layer <;> rfl) (fun _ => rfl)
  cases op with
  | addThing thing =>
    cases thing with
    | item ptr => exact TileState.Sorted.addThing sorting sorted shaped
    | creature id => exact creatures _
  | internalAddThing thing =>
    cases thing with
    | item ptr => exact TileState.Sorted.internalAddThing sorting sorted shaped
    | creature id => exact creatures _
  | updateThing thing itemId count =>
    cases thing with
    | item ptr => exact TileState.Sorted.updateThing sorting sorted shaped keeps
    | creature id => exact sorted
  | replaceThing index thing =>
    cases thing with
    | item ptr => exact TileState.Sorted.replaceThing sorting sorted shaped keeps
    | creature id => exact sorted
  | removeThing thing count =>
    cases thing with
    | item ptr => exact sorted.removeThing shaped count
    | creature id => exact creatures _
  | elsewhere ptr item =>
    intro layer other member
    have different : other ≠ ptr := by
      intro same
      apply fresh
      rw [TileStack.mem_things_item shaped, TileStack.mem_allItems shaped]
      exact ⟨layer, same ▸ member⟩
    change fits layer (env.items.get ((state.game.setItem ptr item).items other).id)
    rw [Game.setItem_other _ _ different]
    exact sorted layer other member

theorem TileStack.Blank.sorted (blank : state.tile.Blank) : state.Sorted env fits := by
  intro layer ptr member
  cases layer with
  | ground =>
    rw [TileStack.part, blank.ground] at member
    cases member
  | top =>
    rw [TileStack.part, TileStack.topItems, blank.items, drop_nil] at member
    cases member
  | down =>
    rw [TileStack.part, TileStack.downItems, blank.items, take_nil] at member
    cases member

/-- Along a run in which items keep their kind, the items lie where they fit. -/
theorem sorted_always (sorting : TileState.Sorting fits kind) (blank : state.tile.Blank) {ops : List TileOp}
    (keeps : Throughout (TileOp.step env pos) (fun state op => op.KeepsKind kind env state) state ops) :
    Always (TileOp.step env pos) (fun state => state.tile.Shaped ∧ state.Sorted env fits) state ops := by
  refine always_of_throughout ?_ ⟨blank.shaped, blank.sorted⟩ keeps
  rintro state op ⟨shaped, sorted⟩ keeps
  refine ⟨step_shaped shaped op, ?_⟩
  unfold TileOp.step
  split
  · next fresh => exact TileOp.run_sorted sorting sorted shaped fresh keeps
  · exact sorted

def TileStack.Holds (tile : TileStack) : Thing → Prop
  | .item ptr => ptr ∈ tile.allItems
  | .creature id => id ∈ tile.creatures

theorem TileStack.mem_things {tile : TileStack} (shaped : tile.Shaped) {thing : Thing} :
    thing ∈ tile.things ↔ tile.Holds thing := by
  cases thing with
  | item ptr => exact mem_things_item shaped ptr
  | creature id => exact mem_things_creature id

/-- What the indices of a tile are good for. -/
structure TileState.Indexed (env : Env) (pos : Position) (state : TileState) : Prop where
  /-- The down items are in front of the top items. -/
  order : state.tile.items = state.tile.items.filter (fun ptr => layerOf (state.typeOf env ptr) = .down) ++
    state.tile.items.filter (fun ptr => layerOf (state.typeOf env ptr) = .top)
  count : state.tile.downItemCount = (state.tile.items.filter (fun ptr => layerOf (state.typeOf env ptr) = .down)).length
  returned : ∀ thing, state.tile.Holds thing →
    ∃ index : Nat, state.tile.getThingIndex env state.game thing = index ∧ state.tile.getThing index = some thing
  injective : ∀ first second, state.tile.Holds first → state.tile.Holds second →
    state.tile.getThingIndex env state.game first = state.tile.getThingIndex env state.game second → first = second
  range : ∀ index : Int, (∃ thing, state.tile.Holds thing ∧ state.tile.getThingIndex env state.game thing = index) ↔
    0 ≤ index ∧ index < state.tile.getThingCount
  replaced : ∀ old ∈ state.tile.allItems, ∀ ptr,
    (state.replaceThing env pos (state.tile.getThingIndex env state.game (.item old)).toNat (.item ptr)).tile.things =
      state.tile.things.map (fun thing => if thing = .item old then .item ptr else thing)

theorem set_of_nodup {Value : Type} [DecidableEq Value] {list : List Value} (nodup : list.Nodup) {index : Nat} {old : Value}
    (here : list[index]? = some old) (new : Value) :
    list.set index new = list.map (fun value => if value = old then new else value) := by
  obtain ⟨inside, rfl⟩ := List.getElem?_eq_some_iff.mp here
  apply ext_getElem
  · rw [length_set, length_map]
  · intro place first second
    rw [getElem_set, getElem_map]
    simp only [nodup.getElem_inj_iff, eq_comm]

theorem TileState.Sorted.indexed (sorted : state.Sorted env TileState.Belongs) (shaped : state.tile.Shaped) : state.Indexed env pos := by
  have split := shaped.split
  have nodup := TileStack.things_nodup shaped
  -- each thing has a place in the logical order, and its index is that place
  have placed : ∀ thing, state.tile.Holds thing → ∃ index : Nat, state.tile.things[index]? = some thing ∧
      state.tile.getThingIndex env state.game thing = index := by
    intro thing there
    obtain ⟨index, here⟩ := mem_iff_getElem?.mp ((TileStack.mem_things shaped).mpr there)
    exact ⟨index, here, TileState.getThingIndex_at shaped sorted.onTop (TileStack.things_at.mp here)⟩
  have down : ∀ ptr ∈ state.tile.downItems, layerOf (state.typeOf env ptr) = .down := sorted .down
  have top : ∀ ptr ∈ state.tile.topItems, layerOf (state.typeOf env ptr) = .top := sorted .top
  have downs : state.tile.items.filter (fun ptr => layerOf (state.typeOf env ptr) = .down) = state.tile.downItems := by
    rw [split.items, filter_append, filter_eq_self.mpr (fun ptr member => decide_eq_true (down ptr member)),
      filter_eq_nil_iff.mpr ?_, append_nil]
    intro ptr member
    rw [top ptr member]
    decide
  have tops : state.tile.items.filter (fun ptr => layerOf (state.typeOf env ptr) = .top) = state.tile.topItems := by
    rw [split.items, filter_append, filter_eq_self.mpr (fun ptr member => decide_eq_true (top ptr member)),
      filter_eq_nil_iff.mpr ?_, nil_append]
    intro ptr member
    rw [down ptr member]
    decide
  constructor
  · rw [downs, tops]
    exact split.items
  · rw [downs]
    exact split.count
  · intro thing there
    obtain ⟨index, here, same⟩ := placed thing there
    refine ⟨index, same, ?_⟩
    rw [TileStack.getThing_eq shaped]
    exact here
  · intro first second one other same
    obtain ⟨index, here, is⟩ := placed first one
    obtain ⟨place, there, at_place⟩ := placed second other
    rw [is, at_place, Int.natCast_inj] at same
    rw [same, there] at here
    exact (Option.some.inj here).symm
  · intro index
    constructor
    · rintro ⟨thing, there, rfl⟩
      obtain ⟨place, here, same⟩ := placed thing there
      obtain ⟨inside, _⟩ := List.getElem?_eq_some_iff.mp here
      rw [TileStack.length_things] at inside
      rw [same]
      exact ⟨Int.natCast_nonneg _, Int.ofNat_lt.mpr inside⟩
    · rintro ⟨positive, inside⟩
      obtain ⟨place, rfl⟩ := Int.eq_ofNat_of_zero_le positive
      have inside : place < state.tile.things.length := by
        rw [TileStack.length_things]
        exact Int.ofNat_lt.mp inside
      have here := getElem?_eq_getElem inside
      exact ⟨_, (TileStack.mem_things shaped).mp (getElem_mem inside),
        TileState.getThingIndex_at shaped sorted.onTop (TileStack.things_at.mp here)⟩
  · intro old member ptr
    obtain ⟨index, here, same⟩ := placed (.item old) member
    obtain ⟨after, swapped, things⟩ := TileState.swap_at ptr shaped (TileStack.things_at.mp here)
    rw [same, Int.toNat_natCast, TileState.replaceThing]
    simp only [swapped]
    exact things.trans (set_of_nodup nodup here (.item ptr))

/-- Along every run in which items keep to their parts of the tile, as `Game::transformItem` sees to it, the indices are good
for what they are used for. -/
theorem tile_indexed (blank : state.tile.Blank) {ops : List TileOp}
    (keeps : Throughout (TileOp.step env pos) (fun state op => op.KeepsKind layerOf env state) state ops) :
    Always (TileOp.step env pos) (TileState.Indexed env pos) state ops :=
  (sorted_always TileState.sorting_layer blank keeps).mono (fun _ ⟨shaped, sorted⟩ => sorted.indexed shaped)

theorem tile_indexed_square : Always (TileOp.step squareEnv ⟨100, 100, 7⟩) (TileState.Indexed squareEnv ⟨100, 100, 7⟩) bareSquare
    [.addThing (.item 0), .addThing (.item 6), .addThing (.creature 7), .addThing (.item 1), .updateThing (.item 1) 1285 1,
      .replaceThing 3 (.item 2)] := by
  refine tile_indexed bareSquare_blank ⟨trivial, trivial, trivial, trivial, ?_, ?_, trivial⟩
  · exact fun _ => by decide
  · intro old taken
    have same : some (Thing.item old) = some (Thing.item 1) := taken.symm.trans (by decide)
    cases same
    decide

end

end Styller
