import Styller.World.TileEffect

/-! What `addThing`, `removeThing`, `updateThing`, the notifications and `clone` do to
the layout, for any cylinder. -/

namespace Styller.Game

open Library Layout

section
variable (env : Env) (game : Game) {cylinder : Cylinder} {ptr : ItemPtr}

theorem addThing_container {holder : ItemPtr} {index : Int}
    (container : (game.items holder).kind.isContainer = true) :
    game.addThing env (.item holder) index ptr = game.containerAddThing env holder index ptr := by
  unfold addThing
  cases kind : (game.items holder).kind <;> simp [kind, ItemClass.isContainer] at container ⊢

theorem addThing_put (ptr : ItemPtr) {index : Int} (admits : game.layout.Admits cylinder index)
    (alone : game.layout.Alone env.items cylinder ptr) :
    Put env.items game.layout (game.addThing env cylinder index ptr).layout cylinder ptr := by
  cases cylinder with
  | player id =>
    obtain ⟨slot, listed, rfl, empty⟩ := admits
    exact playerAddThing_put env game id listed empty
  | tile pos =>
    obtain ⟨mapped, few⟩ := admits
    obtain ⟨tile, here⟩ := Option.isSome_iff_exists.mp mapped
    rw [layers_here game here] at few
    simp only [addThing, here]
    apply tileAddThing_put env game here
    · simpa [Tile.itemList, Tile.layer] using few
    · exact (replacedThing_eq_none_iff env game here).mpr (alone pos rfl)
  | item holder =>
    obtain ⟨container, room⟩ := admits
    rw [addThing_container env game container]
    exact containerAddThing_put env game index room

theorem mem_of_thingIndex (inside : game.getThingIndex env cylinder ptr ≠ -1) :
    ptr ∈ game.contents cylinder := by
  cases cylinder with
  | player id => exact (playerThingIndex_ne_iff game id).mp inside
  | tile pos =>
    cases here : game.tiles pos with
    | none => simp [getThingIndex, here] at inside
    | some tile =>
      simp only [getThingIndex, here] at inside
      rw [contents_here game here]
      rcases tileThingIndex_cases env game inside with ground | ⟨_, top⟩ | ⟨_, down⟩
      · simp [Tile.things, ground]
      · simp [Tile.things, top]
      · simp [Tile.things, down]
  | item holder => exact indexIn_ne_iff.mp inside

/-- A stack is found where it lies. -/
theorem thingIndex_of_mem (sound : game.layout.Sound env.items)
    (stackable : (game.items ptr).isStackable env.items = true)
    (member : ptr ∈ game.contents cylinder) : game.getThingIndex env cylinder ptr ≠ -1 := by
  cases cylinder with
  | player id => exact (playerThingIndex_ne_iff game id).mpr member
  | tile pos =>
    cases here : game.tiles pos with
    | none => simp [contents, here] at member
    | some tile =>
      rw [contents_here game here] at member
      simp only [getThingIndex, here]
      apply tileThingIndex_ne_of_down env game (stack_not_onTop env game stackable)
      have fixed : ∀ layer, ptr ∈ tile.layer layer → layer = .down := by
        intro layer there
        rw [← layers_here game here] at there
        exact (sound.layered pos layer ptr there).2.trans (layerOf_stackable stackable)
      simp only [Tile.things, List.mem_append] at member
      rcases member with (ground | top) | down
      · cases fixed .ground ground
      · cases fixed .top top
      · exact down
  | item holder => exact indexIn_ne_iff.mpr member

variable (sound : game.layout.Sound env.items) (inside : game.getThingIndex env cylinder ptr ≠ -1)
include sound inside

theorem removeThing_take (size : Nat)
    (whole : ¬ ((game.items ptr).isStackable env.items ∧ size ≠ (game.items ptr).count)) :
    Take game.layout (game.removeThing env cylinder ptr size).layout cylinder ptr := by
  have member := mem_of_thingIndex env game inside
  cases cylinder with
  | player id => exact playerRemoveThing_take env game id inside whole
  | tile pos =>
    cases here : game.tiles pos with
    | none => simp [getThingIndex, here] at inside
    | some tile =>
      simp only [getThingIndex, here] at inside
      simp only [removeThing, here]
      exact tileRemoveThing_take env game here inside whole
  | item holder =>
    have container : (game.items holder).isContainer = true := sound.live (.item holder) ptr member holder rfl
    simp only [removeThing, if_pos container]
    exact containerRemoveThing_take env game member whole

theorem removeThing_recount (size : Nat)
    (part : (game.items ptr).isStackable env.items ∧ size ≠ (game.items ptr).count) :
    Recount game.layout (game.removeThing env cylinder ptr size).layout ptr
      (rest (game.items ptr).count size) := by
  have member := mem_of_thingIndex env game inside
  cases cylinder with
  | player id => exact playerRemoveThing_recount env game id inside part
  | tile pos =>
    cases here : game.tiles pos with
    | none => simp [getThingIndex, here] at inside
    | some tile =>
      simp only [getThingIndex, here] at inside
      simp only [removeThing, here]
      exact tileRemoveThing_recount env game sound here inside part
  | item holder =>
    have container : (game.items holder).isContainer = true := sound.live (.item holder) ptr member holder rfl
    simp only [removeThing, if_pos container]
    exact containerRemoveThing_recount env game member part

theorem updateThing_recount (size : Nat)
    (stackable : (game.items ptr).isStackable env.items = true) :
    Recount game.layout (game.updateThing env cylinder ptr (game.items ptr).id size).layout ptr
      (toUInt8 (toUInt16 size)) := by
  have member := mem_of_thingIndex env game inside
  cases cylinder with
  | player id => exact playerUpdateThing_recount env game id inside stackable
  | tile pos =>
    cases here : game.tiles pos with
    | none => simp [getThingIndex, here] at inside
    | some tile =>
      simp only [getThingIndex, here] at inside
      simp only [updateThing, here]
      have plain : (game.items ptr).kind = .item := sound.plain ptr stackable
      exact tileUpdateThing_recount env game here inside stackable (by rw [plain]; rfl)
  | item holder =>
    have container : (game.items holder).isContainer = true := sound.live (.item holder) ptr member holder rfl
    simp only [updateThing, if_pos container]
    exact containerUpdateThing_recount env game member stackable

end

section
variable (env : Env) (game : Game)

/-- The items of both states agree in type and attributes. -/
def Alike (game after : Game) : Prop := ∀ ptr, (after.items ptr).id = (game.items ptr).id ∧
  (after.items ptr).attributes = (game.items ptr).attributes

theorem Alike.equals {after : Game} (alike : game.Alike after) (ptr other : ItemPtr) :
    (after.items ptr).equals (some (after.items other)) =
      (game.items ptr).equals (some (game.items other)) := by
  simp only [Item.equals, alike ptr, alike other]

theorem alike_refl : game.Alike game := fun _ => ⟨rfl, rfl⟩

variable {game}

theorem Alike.setItem {after : Game} (alike : game.Alike after) {ptr : ItemPtr} {item : Item}
    (id : item.id = (after.items ptr).id) (attributes : item.attributes = (after.items ptr).attributes) :
    game.Alike (after.setItem ptr item) := by
  intro other
  by_cases same : other = ptr
  · subst same
    simp only [setItem_self, id, attributes]
    exact alike other
  · rw [setItem_other after item same]
    exact alike other

theorem Alike.updateItemWeight {after : Game} (alike : game.Alike after) (fuel : Nat)
    (container : ItemPtr) (diff : Int) :
    game.Alike (updateItemWeight fuel after container diff) := by
  induction fuel generalizing after container with
  | zero => exact alike
  | succ fuel ih =>
    simp only [Game.updateItemWeight]
    split
    · split
      · apply ih
        exact alike.setItem rfl rfl
      · exact alike.setItem rfl rfl
    · exact alike.setItem rfl rfl

theorem alike_removeThing (cylinder : Cylinder) (ptr : ItemPtr) (count : Nat) :
    game.Alike (game.removeThing env cylinder ptr count) := by
  have refl := alike_refl game
  cases cylinder with
  | player id =>
    simp only [removeThing, playerRemoveThing]
    split
    · exact refl
    · split
      · exact refl.setItem rfl rfl
      · exact refl.setItem rfl rfl
  | tile pos =>
    simp only [removeThing]
    split
    · simp only [tileRemoveThing]
      split
      · exact refl
      · split
        · exact refl.setItem rfl rfl
        · split
          · exact refl.setItem rfl rfl
          · split
            · exact refl.setItem rfl rfl
            · exact refl.setItem rfl rfl
    · exact refl
  | item holder =>
    simp only [removeThing, containerRemoveThing]
    split
    · split
      · exact refl
      · split
        · refine Alike.updateItemWeight ?_ _ _ _
          exact refl.setItem rfl rfl
        · refine Alike.setItem ?_ rfl rfl
          refine Alike.setItem ?_ rfl rfl
          exact refl.updateItemWeight _ _ _
    · exact refl

end

section
variable (env : Env) (game : Game)

theorem layout_updateInventoryWeight (id : PlayerId) :
    (game.updateInventoryWeight env.items id).layout = game.layout := by
  simp only [updateInventoryWeight]
  split
  · rfl
  · rw [layout_setPlayer]
    have same : (fun cylinder => if cylinder = .player id then
        slots.filterMap (game.players id).inventory else game.contents cylinder) = game.contents := by
      funext cylinder
      split
      · rename_i here
        rw [here]
        rfl
      · rfl
    have slotsSame : (fun owner => if owner = id then (game.players id).inventory
        else game.layout.inventory owner) = game.layout.inventory := by
      funext owner
      split
      · rename_i here
        rw [here]
        rfl
      · rfl
    simp only [same, slotsSame]
    rfl

/-- The way up ends with a player whose inventory weight changes, or with nothing. -/
theorem notify_cases (fuel : Nat) (cylinder : Cylinder) (link : CylinderLink) :
    notify env fuel game cylinder link = game ∨ ∃ id, notify env fuel game cylinder link = game.updateInventoryWeight env.items id := by
  induction fuel generalizing cylinder link with
  | zero => exact .inl rfl
  | succ fuel ih =>
    cases cylinder with
    | player id =>
      unfold notify
      split
      · exact .inr ⟨id, rfl⟩
      · exact .inl rfl
    | tile pos => exact .inl rfl
    | item holder =>
      unfold notify
      simp only
      split
      · split
        · exact ih _ _
        · split
          · exact ih _ _
          · split
            · split
              · exact ih _ _
              · exact .inl rfl
            · exact ih _ _
        · exact ih _ _
        · exact .inl rfl
      · split
        · exact ih _ _
        · exact .inl rfl

theorem layout_notify (fuel : Nat) (cylinder : Cylinder) (link : CylinderLink) :
    (notify env fuel game cylinder link).layout = game.layout := by
  rcases notify_cases env game fuel cylinder link with same | ⟨id, weighed⟩
  · rw [same]
  · rw [weighed, layout_updateInventoryWeight]

/-- `internalRemoveItem` changes nothing, or takes from the parent what it may and notifies it. -/
theorem internalRemoveItem_cases (ptr : ItemPtr) (count : Int) (test : Bool) (flags : CylinderFlags) :
    (game.internalRemoveItem env ptr count test flags).2 = game ∨
      ∃ cylinder size asked, game.queryRemove env cylinder ptr size asked none = .noError ∧
        (game.internalRemoveItem env ptr count test flags).2 =
          (game.removeThing env cylinder ptr size).postRemoveNotification env cylinder := by
  unfold internalRemoveItem
  simp only
  generalize toUInt32 (if count = -1 then ((game.items ptr).count : Int) else count) = size
  split
  · exact .inl rfl
  · split
    · exact .inl rfl
    · rename_i allowed
      split
      · exact .inl rfl
      · split
        · exact .inl rfl
        · exact .inr ⟨_, size, _, not_not.mp allowed, rfl⟩

@[simp] theorem layout_postRemoveNotification (cylinder : Cylinder) :
    (game.postRemoveNotification env cylinder).layout = game.layout :=
  layout_notify env game _ cylinder _

theorem layout_postAddNotification {cylinder : Cylinder} (calm : game.layout.Calm cylinder)
    (ptr : ItemPtr) :
    (game.postAddNotification env cylinder ptr).layout = game.layout := by
  cases cylinder with
  | player id => exact layout_notify env game _ _ _
  | item holder => exact layout_notify env game _ _ _
  | tile pos =>
    have calm := calm pos rfl
    cases here : game.tiles pos with
    | none => simp [postAddNotification, here]
    | some tile =>
      rw [receives_here game here] at calm
      simp only [Tile.receives, Bool.or_eq_false_iff] at calm
      simp [postAddNotification, here, tileReceives, calm.1.1, calm.1.2, calm.2]

end

section
variable (env : Env) (game : Game) {ptr : ItemPtr}

theorem allocate_create {item : Item} (sound : game.layout.Sound env.items) (empty : item.itemlist = []) :
    Create game.layout (game.allocate item).layout item where
  contents := by
    have free : game.contents (.item game.next) = [] := by
      apply List.eq_nil_iff_forall_not_mem.mpr
      intro other member
      have container := sound.live (.item game.next) other member game.next rfl
      exact Nat.lt_irrefl _ (sound.roomy game.next container).1
    exact contents_setItem_same game (empty.trans free.symm)
  inventory := rfl
  mapped := rfl
  layers := rfl
  receives := fun _ there => there
  parent := map_setItem Item.parent game game.next item
  id := map_setItem Item.id game game.next item
  kind := map_setItem Item.kind game game.next item
  count := map_setItem Item.count game game.next item
  maxSize := map_setItem Item.maxSize game game.next item
  next := rfl

theorem cloneWithCount_create (sound : game.layout.Sound env.items)
    (stackable : (game.items ptr).isStackable env.items = true) (newCount : Int) :
    ∃ copy : Item, Create game.layout (game.cloneWithCount env ptr newCount).layout copy ∧
      copy.id = (game.items ptr).id ∧ copy.kind = .item ∧ copy.count = toUInt8 newCount := by
  obtain ⟨copy, created, copyId, copyKind, copyEmpty⟩ : ∃ copy : Item,
      Item.createItem env.items (env.normalRandom game.next) (game.items ptr).id (game.items ptr).count =
        some copy ∧ copy.id = (game.items ptr).id ∧ copy.kind = .item ∧ copy.itemlist = [] := by
    obtain ⟨attributes, created⟩ := Item.createItem_stackable env.items (env.normalRandom game.next)
      stackable (game.items ptr).count
    exact ⟨_, created, rfl, rfl, rfl⟩
  -- whatever attributes the clone gets, and whether it decays or not
  have cloned : ∃ (after : Game) (made : Item), game.clone env ptr = after.allocate made ∧
      after.layout = game.layout ∧ made.id = (game.items ptr).id ∧ made.kind = .item ∧
      made.itemlist = [] := by
    simp only [clone, created]
    split
    · exact ⟨game, copy, rfl, rfl, copyId, copyKind, copyEmpty⟩
    · split
      · exact ⟨{ game with toDecayItems := game.next :: game.toDecayItems }, _, rfl, rfl, copyId,
          copyKind, copyEmpty⟩
      · exact ⟨game, _, rfl, rfl, copyId, copyKind, copyEmpty⟩
  obtain ⟨after, made, cloned, same, sameId, kind, empty⟩ := cloned
  have next : after.next = game.next := congrArg Layout.next same
  have create : Create game.layout (after.allocate made).layout made := by
    rw [← same]
    exact allocate_create env after (same ▸ sound) empty
  refine ⟨made.setItemCount newCount, ?_, sameId, kind, rfl⟩
  have here : (after.allocate made).items game.next = made := by
    rw [← next]
    exact setItem_self after after.next made
  have recount := recount_setItemCount (after.allocate made) game.next newCount
  rw [here] at recount
  simp only [cloneWithCount, cloned, here]
  exact create.recount recount

end

end Styller.Game
