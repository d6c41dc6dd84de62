import Styller.Tile.Flags
import Styller.World.Effect

/-! What the calls do to a tile: at most one item leaves it and at most one comes to it. -/

namespace Styller

open List

namespace TileStack

/-- The item vector is the down items and behind them the top items. -/
structure Split (tile : TileStack) (down top : List ItemPtr) : Prop where
  items : tile.items = down ++ top
  count : tile.downItemCount = down.length

/-- What holds of every tile, whatever becomes of its items: the vector has the down items that are counted, it is not
longer than a tile allows, and nothing is on the tile twice. -/
structure Shaped (tile : TileStack) : Prop where
  counted : tile.downItemCount ≤ tile.items.length
  size : tile.items.length ≤ 0xFFFF
  items : tile.allItems.Nodup
  creatures : tile.creatures.Nodup

section
variable {tile : TileStack} {down top : List ItemPtr}

theorem Split.downItems (split : tile.Split down top) : tile.downItems = down := by
  rw [TileStack.downItems, split.items, split.count, take_left]

theorem Split.topItems (split : tile.Split down top) : tile.topItems = top := by
  rw [TileStack.topItems, split.items, split.count, drop_left]

theorem Shaped.split (shaped : tile.Shaped) : tile.Split tile.downItems tile.topItems where
  items := (take_append_drop tile.downItemCount tile.items).symm
  count := (length_take_of_le shaped.counted).symm

theorem Split.topItemCount (split : tile.Split down top) : tile.getTopItemCount = top.length := by
  rw [getTopItemCount, split.items, split.count, length_append, Nat.add_sub_cancel_left]

/-- All items of a tile in two halves. -/
theorem Split.allItems (split : tile.Split down top) : tile.allItems = tile.ground.toList ++ (down ++ top) := by
  rw [TileStack.allItems, split.items]

theorem mem_things_item (shaped : tile.Shaped) (ptr : ItemPtr) : Thing.item ptr ∈ tile.things ↔ ptr ∈ tile.allItems := by
  rw [shaped.split.allItems]
  simp only [things, mem_append, mem_map, Thing.item.injEq, exists_eq_right, reduceCtorEq, and_false, exists_false,
    or_false]
  tauto

theorem mem_things_creature (id : CreatureId) : Thing.creature id ∈ tile.things ↔ id ∈ tile.creatures := by
  simp only [things, mem_append, mem_map, Thing.creature.injEq, exists_eq_right, reduceCtorEq, and_false,
    exists_false, or_false, false_or]

end

def part (tile : TileStack) : Layer → List ItemPtr
  | .ground => tile.ground.toList
  | .top => tile.topItems
  | .down => tile.downItems

theorem allItems_parts (tile : TileStack) :
    tile.allItems = tile.part .ground ++ (tile.part .down ++ tile.part .top) := by
  change tile.allItems = tile.ground.toList ++ (tile.items.take tile.downItemCount ++ tile.items.drop tile.downItemCount)
  rw [take_append_drop]
  rfl

theorem length_items (tile : TileStack) :
    tile.items.length = (tile.part .down).length + (tile.part .top).length := by
  change _ = (tile.items.take tile.downItemCount).length + (tile.items.drop tile.downItemCount).length
  rw [← length_append, take_append_drop]

theorem mem_allItems {tile : TileStack} (shaped : tile.Shaped) (ptr : ItemPtr) :
    ptr ∈ tile.allItems ↔ ∃ layer, ptr ∈ tile.part layer := by
  rw [shaped.split.allItems]
  simp only [mem_append]
  constructor
  · rintro (ground | down | top)
    · exact ⟨.ground, ground⟩
    · exact ⟨.down, down⟩
    · exact ⟨.top, top⟩
  · rintro ⟨layer, member⟩
    cases layer with
    | ground => exact .inl member
    | top => exact .inr (.inr member)
    | down => exact .inr (.inl member)

/-- One part of the tile becomes another list, and everything else stays. -/
structure Relayer (tile after : TileStack) (layer : Layer) (list : List ItemPtr) : Prop where
  part : ∀ other, after.part other = if other = layer then list else tile.part other
  counted : after.downItemCount ≤ after.items.length
  creatures : after.creatures = tile.creatures
  flags : after.flags = tile.flags

section
variable {tile after : TileStack} {down top : List ItemPtr} {ptr : ItemPtr}

/-- The top items become others. -/
theorem Split.relayer_top (split : after.Split tile.downItems top) (ground : after.ground = tile.ground)
    (creatures : after.creatures = tile.creatures) (flags : after.flags = tile.flags) : tile.Relayer after .top top where
  part := by
    intro other
    cases other with
    | ground => exact congrArg Option.toList ground
    | top => exact split.topItems
    | down => exact split.downItems
  counted := by
    rw [split.count, split.items, length_append]
    exact Nat.le_add_right _ _
  creatures := creatures
  flags := flags

/-- The down items become others. -/
theorem Split.relayer_down (split : after.Split down tile.topItems) (ground : after.ground = tile.ground)
    (creatures : after.creatures = tile.creatures) (flags : after.flags = tile.flags) : tile.Relayer after .down down where
  part := by
    intro other
    cases other with
    | ground => exact congrArg Option.toList ground
    | top => exact split.topItems
    | down => exact split.downItems
  counted := by
    rw [split.count, split.items, length_append]
    exact Nat.le_add_right _ _
  creatures := creatures
  flags := flags

theorem relayer_ground (shaped : tile.Shaped) (ground : Option ItemPtr) :
    tile.Relayer { tile with ground } .ground ground.toList where
  part := by
    intro other
    cases other with
    | ground | top | down => rfl
  counted := shaped.counted
  creatures := rfl
  flags := rfl

theorem insertIdx_append (front back : List ItemPtr) (passed : Nat) :
    (front ++ back).insertIdx (front.length + passed) ptr = front ++ back.insertIdx passed ptr := by
  induction front with
  | nil => rw [length_nil, Nat.zero_add, nil_append, nil_append]
  | cons first rest ih =>
    rw [length_cons, Nat.add_right_comm, cons_append, insertIdx_succ_cons, ih, cons_append]

variable (ptr) in
theorem relayer_insertTop (shaped : tile.Shaped) (passed : Nat) :
    tile.Relayer { tile with items := tile.items.insertIdx (tile.downItemCount + passed) ptr } .top
      (tile.topItems.insertIdx passed ptr) := by
  have split := shaped.split
  refine Split.relayer_top ⟨?_, split.count⟩ rfl rfl rfl
  rw [split.items, split.count]
  exact insertIdx_append _ _ passed

variable (ptr) in
theorem relayer_insertDown (shaped : tile.Shaped) (room : tile.items.length < 0xFFFF) :
    tile.Relayer { tile with items := ptr :: tile.items, downItemCount := toUInt16 ((tile.downItemCount : Int) + 1) } .down
      (ptr :: tile.downItems) := by
  have split := shaped.split
  have counted := shaped.counted
  refine Split.relayer_down ⟨?_, ?_⟩ rfl rfl rfl
  · exact congrArg (ptr :: ·) split.items
  · have same := split.count
    simp only [toUInt16, length_cons]
    omega

theorem relayer_eraseTop (shaped : tile.Shaped) {passed : Nat} (found : tile.topItems.idxOf? ptr = some passed) :
    tile.Relayer { tile with items := tile.items.eraseIdx (tile.downItemCount + passed) } .top (tile.topItems.erase ptr) := by
  have split := shaped.split
  refine Split.relayer_top ⟨?_, split.count⟩ rfl rfl rfl
  rw [split.items, split.count, eraseIdx_append_of_length_le (Nat.le_add_right _ _), Nat.add_sub_cancel_left,
    erase_eq_eraseIdx, found]

theorem relayer_eraseDown (shaped : tile.Shaped) {passed : Nat} (found : tile.downItems.idxOf? ptr = some passed) :
    tile.Relayer { tile with
      items := tile.items.eraseIdx passed, downItemCount := toUInt16 ((tile.downItemCount : Int) - 1) } .down
        (tile.downItems.erase ptr) := by
  have split := shaped.split
  obtain ⟨inside, _⟩ := idxOf?_eq_some_iff.mp found
  have erased : tile.downItems.erase ptr = tile.downItems.eraseIdx passed := by rw [erase_eq_eraseIdx, found]
  refine Split.relayer_down ⟨?_, ?_⟩ rfl rfl rfl
  · rw [split.items, eraseIdx_append_of_lt_length inside, erased]
  · have same := split.count
    have counted := shaped.counted
    have size := shaped.size
    rw [erased, length_eraseIdx_of_lt inside]
    simp only [toUInt16]
    omega

variable (ptr) in
theorem relayer_setTop (shaped : tile.Shaped) (passed : Nat) :
    tile.Relayer { tile with items := tile.items.set (tile.downItemCount + passed) ptr } .top (tile.topItems.set passed ptr) := by
  have split := shaped.split
  refine Split.relayer_top ⟨?_, split.count⟩ rfl rfl rfl
  rw [split.items, split.count, set_append_right _ _ (Nat.le_add_right _ _), Nat.add_sub_cancel_left]

variable (ptr) in
theorem relayer_setDown (shaped : tile.Shaped) {passed : Nat} (inside : passed < tile.downItems.length) :
    tile.Relayer { tile with items := tile.items.set passed ptr } .down (tile.downItems.set passed ptr) := by
  have split := shaped.split
  refine Split.relayer_down ⟨?_, ?_⟩ rfl rfl rfl
  · rw [split.items, set_append_left _ _ inside]
  · rw [length_set]
    exact split.count

theorem Relayer.perm {layer : Layer} {list : List ItemPtr} (relayer : tile.Relayer after layer list)
    (leaves comes : List ItemPtr) {rest : List ItemPtr} (before : (tile.part layer).Perm (leaves ++ rest)) (now : list.Perm (comes ++ rest)) :
    ∃ stays, tile.allItems.Perm (leaves ++ stays) ∧ after.allItems.Perm (comes ++ stays) := by
  have same : ∀ other, other ≠ layer → after.part other = tile.part other := by
    intro other different
    rw [relayer.part, if_neg different]
  have new : after.part layer = list := by rw [relayer.part, if_pos rfl]
  rw [← new] at now
  rw [allItems_parts, allItems_parts]
  simp only [perm_iff_count, count_append] at before now ⊢
  cases layer with
  | ground =>
    rw [same .down nofun, same .top nofun]
    refine ⟨rest ++ (tile.part .down ++ tile.part .top), ?_, ?_⟩
    · intro ptr
      have here := before ptr
      simp only [count_append]
      omega
    · intro ptr
      have here := now ptr
      simp only [count_append]
      omega
  | down =>
    rw [same .ground nofun, same .top nofun]
    refine ⟨rest ++ (tile.part .ground ++ tile.part .top), ?_, ?_⟩
    · intro ptr
      have here := before ptr
      simp only [count_append]
      omega
    · intro ptr
      have here := now ptr
      simp only [count_append]
      omega
  | top =>
    rw [same .ground nofun, same .down nofun]
    refine ⟨rest ++ (tile.part .ground ++ tile.part .down), ?_, ?_⟩
    · intro ptr
      have here := before ptr
      simp only [count_append]
      omega
    · intro ptr
      have here := now ptr
      simp only [count_append]
      omega

theorem Relayer.shaped (shaped : tile.Shaped) {layer : Layer} {list : List ItemPtr} (relayer : tile.Relayer after layer list)
    (nodup : after.allItems.Nodup) (size : after.items.length ≤ 0xFFFF) : after.Shaped where
  counted := relayer.counted
  size := size
  items := nodup
  creatures := relayer.creatures ▸ shaped.creatures

end

end TileStack

namespace TileState

section
variable (env : Env) (state : TileState)

@[simp] theorem gives_setParent (ptr other : ItemPtr) (cylinder : Option Cylinder) :
    ((state.setParent ptr cylinder).game.items other).gives env.items = (state.game.items other).gives env.items := by
  simp only [setParent, Game.setItem]
  split
  · next same => rw [same]; rfl
  · rfl

@[simp] theorem typeOf_setParent (ptr other : ItemPtr) (cylinder : Option Cylinder) :
    (state.setParent ptr cylinder).typeOf env other = state.typeOf env other := by
  simp only [typeOf, setParent, Game.setItem]
  split
  · next same => rw [same]; rfl
  · rfl

@[simp] theorem kind_setParent (ptr other : ItemPtr) (cylinder : Option Cylinder) :
    ((state.setParent ptr cylinder).game.items other).kind = (state.game.items other).kind := by
  simp only [setParent, Game.setItem]
  split
  · next same => rw [same]; rfl
  · rfl

@[simp] theorem count_setParent (ptr other : ItemPtr) (cylinder : Option Cylinder) :
    ((state.setParent ptr cylinder).game.items other).count = (state.game.items other).count := by
  simp only [setParent, Game.setItem]
  split
  · next same => rw [same]; rfl
  · rfl

@[simp] theorem tile_setParent (ptr : ItemPtr) (cylinder : Option Cylinder) :
    (state.setParent ptr cylinder).tile = state.tile := rfl

@[simp] theorem game_setFlags (tile : TileStack) (ptr : ItemPtr) : (state.setFlags env tile ptr).game = state.game := rfl

@[simp] theorem game_resetFlags (tile : TileStack) (ptr : ItemPtr) : (state.resetFlags env tile ptr).game = state.game := rfl

theorem flags_setFlags (tile : TileStack) (ptr : ItemPtr) : (state.setFlags env tile ptr).tile.flags =
    TileFlag.put ((state.game.items ptr).gives env.items) tile.flags :=
  setTileFlags_flags env state.game ptr tile.halves

theorem flags_resetFlags (tile : TileStack) (ptr : ItemPtr) : (state.resetFlags env tile ptr).tile.flags =
    TileFlag.take ((state.game.items ptr).gives env.items) (fun flag => (tile.allItems.filter (· ≠ ptr)).any
      (fun other => (state.game.items other).gives env.items flag)) tile.flags := by
  have whole : tile.halves.ground.toList ++ tile.halves.itemList = tile.allItems := by
    change tile.ground.toList ++ (tile.items.take tile.downItemCount ++ tile.items.drop tile.downItemCount) = _
    rw [take_append_drop]
    rfl
  rw [← whole]
  exact resetTileFlags_flags env state.game ptr tile.halves

end

section
variable (env : Env) (state : TileState)

def giving : List (TileFlag → Bool) := state.tile.allItems.map (fun ptr => (state.game.items ptr).gives env.items)

def staying (leaves : Option ItemPtr) : List (TileFlag → Bool) :=
  (state.tile.allItems.filter (fun ptr => leaves ≠ some ptr)).map (fun ptr => (state.game.items ptr).gives env.items)

/-- The effect of a call: an item that leaves the tile, and one that comes to it. -/
structure Turnover (after : TileState) (leaves : Option ItemPtr) (comes : Option Item) : Prop where
  listed : ∀ ptr, leaves = some ptr → ptr ∈ state.tile.allItems
  giving : (after.giving env).Perm ((comes.map (·.gives env.items)).toList ++ state.staying env leaves)
  flags : ∃ others : List (TileFlag → Bool), (others.Perm (state.staying env leaves) ∨
      others.Perm ((comes.map (·.gives env.items)).toList ++ state.staying env leaves)) ∧
    after.tile.flags = (comes.map (·.gives env.items)).elim id TileFlag.put
      ((leaves.map (fun ptr => (state.game.items ptr).gives env.items)).elim id
        (fun gives => TileFlag.take gives (fun flag => others.any (· flag))) state.tile.flags)

/-- `removeThing` takes the item away, and not only some of a stack. -/
def removes (ptr : ItemPtr) (count : Nat) : Bool :=
  if state.tile.ground = some ptr then true
  else if (state.typeOf env ptr).alwaysOnTop then ptr ∈ state.tile.topItems
  else ptr ∈ state.tile.downItems && !((state.typeOf env ptr).stackable && count ≠ (state.game.items ptr).count)

/-- The splash or the field that lies where the item goes. -/
def oldThing (ptr : ItemPtr) : Option ItemPtr :=
  let itemType := state.typeOf env ptr
  if itemType.alwaysOnTop then
    if itemType.isSplash then state.tile.topItems.find? (fun other => (state.typeOf env other).isSplash) else none
  else if itemType.isMagicField then
    state.tile.downItems.find? (fun other => (state.game.items other).kind = .magicField)
  else none

end

end TileState

namespace TileOp

variable (env : Env) (state : TileState)

def leaves : TileOp → Option ItemPtr
  | addThing (.item ptr) =>
    let itemType := state.typeOf env ptr
    if state.tile.items.length ≥ 0xFFFF then none
    else if itemType.isGroundTile then state.tile.ground
    else (state.oldThing env ptr).filter (fun old =>
      (itemType.alwaysOnTop || (state.typeOf env old).replaceable) && state.removes env old 1)
  | updateThing (.item ptr) _ _ => if state.tile.getThingIndex env state.game (.item ptr) = -1 then none else some ptr
  | replaceThing index (.item ptr) => (TileState.swap state.tile index ptr).map Prod.fst
  | removeThing (.item ptr) count => if state.removes env ptr count then some ptr else none
  | _ => none

def comes : TileOp → Option Item
  | addThing (.item ptr) =>
    let itemType := state.typeOf env ptr
    if state.tile.items.length ≥ 0xFFFF then none
    else if itemType.isGroundTile || itemType.alwaysOnTop then some (state.game.items ptr)
    else if (state.oldThing env ptr).all (fun old => (state.typeOf env old).replaceable) then some (state.game.items ptr)
    else none
  | internalAddThing (.item ptr) =>
    if (state.typeOf env ptr).isGroundTile then if state.tile.ground = none then some (state.game.items ptr) else none
    else if state.tile.items.length ≥ 0xFFFF then none else some (state.game.items ptr)
  | updateThing (.item ptr) itemId count =>
    if state.tile.getThingIndex env state.game (.item ptr) = -1 then none
    else some (((state.game.items ptr).setID env.items (env.normalRandom ptr) itemId).setSubType env.items (toUInt16 count))
  | replaceThing index (.item ptr) => (TileState.swap state.tile index ptr).map (fun _ => state.game.items ptr)
  | _ => none

end TileOp

namespace TileState

section
variable {env : Env} {state after : TileState} {tile : TileStack} {ptr old : ItemPtr} {rest : List ItemPtr}

variable (env) in
/-- Without the item that leaves, the others are left. -/
theorem staying_some (nodup : state.tile.allItems.Nodup) (perm : state.tile.allItems.Perm (old :: rest)) :
    (state.staying env (some old)).Perm (rest.map (fun ptr => (state.game.items ptr).gives env.items)) := by
  apply List.Perm.map
  have apart : old ∉ rest := (nodup_cons.mp (perm.nodup_iff.mp nodup)).1
  refine (perm.filter _).trans (List.Perm.of_eq ?_)
  rw [filter_cons_of_neg (by simp), filter_eq_self]
  intro other member
  have different : old ≠ other := fun same => apart (same ▸ member)
  exact decide_eq_true (fun same => different (Option.some.inj same))

theorem staying_none : state.staying env none = state.giving env := by
  have all : state.tile.allItems.filter (fun ptr => (none : Option ItemPtr) ≠ some ptr) = state.tile.allItems := by
    rw [filter_eq_self]
    intro other _
    rfl
  rw [staying, all]
  rfl

/-- The other items, where the one that is looked at is no longer there. -/
theorem filter_absent (absent : ptr ∉ tile.allItems) : tile.allItems.filter (· ≠ ptr) = tile.allItems := by
  rw [filter_eq_self]
  intro other member
  exact decide_eq_true (fun same => absent (same ▸ member))

theorem giving_congr (game : ∀ other, (after.game.items other).gives env.items = (state.game.items other).gives env.items)
    (tile : after.tile.allItems = state.tile.allItems) : after.giving env = state.giving env := by
  rw [giving, giving, tile]
  exact map_congr_left (fun other _ => game other)

/-- Nothing leaves and nothing comes. -/
theorem Turnover.kept (giving : after.giving env = state.giving env) (flags : after.tile.flags = state.tile.flags) :
    state.Turnover env after none none where
  listed := nofun
  giving := by
    rw [staying_none, giving]
    exact List.Perm.refl _
  flags := ⟨_, .inl (List.Perm.refl _), flags⟩

/-- An item comes. -/
theorem Turnover.came {middle : TileState} (same : ∀ other, (middle.game.items other).gives env.items = (state.game.items other).gives env.items)
    (perm : tile.allItems.Perm (ptr :: state.tile.allItems)) (flags : tile.flags = state.tile.flags) :
    state.Turnover env (middle.setFlags env tile ptr) none (some (state.game.items ptr)) where
  listed := nofun
  giving := by
    rw [staying_none]
    refine (perm.map _).trans (List.Perm.of_eq ?_)
    rw [map_cons, game_setFlags, same]
    exact congrArg _ (map_congr_left (fun other _ => same other))
  flags := by
    refine ⟨_, .inl (List.Perm.refl _), ?_⟩
    rw [flags_setFlags, same, flags]
    rfl

/-- An item leaves. -/
theorem Turnover.went {middle : TileState} (same : ∀ other, (middle.game.items other).gives env.items = (state.game.items other).gives env.items)
    (nodup : state.tile.allItems.Nodup) (perm : state.tile.allItems.Perm (old :: tile.allItems)) (flags : tile.flags = state.tile.flags) :
    state.Turnover env (middle.resetFlags env tile old) (some old) none := by
  have absent : old ∉ tile.allItems := (nodup_cons.mp (perm.nodup_iff.mp nodup)).1
  have stays := staying_some env nodup perm
  have others : (middle.resetFlags env tile old).giving env = tile.allItems.map (fun ptr => (state.game.items ptr).gives env.items) :=
    map_congr_left (fun other _ => same other)
  constructor
  · rintro ptr ⟨⟩
    exact perm.mem_iff.mpr mem_cons_self
  · rw [others]
    exact stays.symm
  · refine ⟨tile.allItems.map (fun ptr => (state.game.items ptr).gives env.items), .inl stays.symm, ?_⟩
    rw [flags_resetFlags, same, flags, filter_absent absent]
    simp only [same, Option.map_none, Option.elim_none, Option.map_some, Option.elim_some, any_map, id_eq]
    rfl

/-- One item takes the place of another. -/
theorem Turnover.exchanged {middle last : TileState} (same : ∀ other, (middle.game.items other).gives env.items = (state.game.items other).gives env.items)
    (nodup : state.tile.allItems.Nodup) (perm : state.tile.allItems.Perm (old :: rest)) (now : tile.allItems.Perm (ptr :: rest))
    (fresh : ptr ∉ state.tile.allItems) (flags : tile.flags = state.tile.flags)
    (reset : last = middle.resetFlags env tile old) :
    state.Turnover env (last.setFlags env last.tile ptr) (some old) (some (state.game.items ptr)) := by
  subst reset
  have listed : old ∈ state.tile.allItems := perm.mem_iff.mpr mem_cons_self
  have absent : old ∉ tile.allItems := by
    intro there
    rcases mem_cons.mp (now.mem_iff.mp there) with same | there
    · exact fresh (same ▸ listed)
    · exact (nodup_cons.mp (perm.nodup_iff.mp nodup)).1 there
  have stays := staying_some env nodup perm
  have others : (tile.allItems.map (fun other => (state.game.items other).gives env.items)).Perm
      ((state.game.items ptr).gives env.items :: state.staying env (some old)) :=
    (now.map _).trans (stays.symm.cons _)
  constructor
  · rintro other ⟨⟩
    exact listed
  · refine (List.Perm.of_eq ?_).trans others
    exact map_congr_left (fun other _ => same other)
  · refine ⟨_, .inr others, ?_⟩
    rw [flags_setFlags, flags_resetFlags, flags, filter_absent absent]
    simp only [game_resetFlags, same, Option.map_some, Option.elim_some, any_map]
    rfl

theorem Turnover.andThen {middle : TileState} {leaves : Option ItemPtr} {comes : Option Item} (first : state.Turnover env middle leaves none)
    (second : middle.Turnover env after none comes) : state.Turnover env after leaves comes where
  listed := first.listed
  giving := by
    refine second.giving.trans ?_
    rw [staying_none]
    exact first.giving.append_left _
  flags := by
    obtain ⟨others, left, went⟩ := first.flags
    obtain ⟨_, _, came⟩ := second.flags
    refine ⟨others, .inl (left.elim id id), ?_⟩
    rw [came]
    exact congrArg _ went

end

section
variable {env : Env} {state : TileState} {ptr : ItemPtr}

theorem idxOf?_ne_none {list : List ItemPtr} : list.idxOf? ptr ≠ none ↔ ptr ∈ list := by
  rw [ne_eq, idxOf?_eq_none_iff, not_not]

/-- The index of an item says whether it is in the part where it belongs. -/
theorem getThingIndex_item_ne : state.tile.getThingIndex env state.game (.item ptr) ≠ -1 ↔ state.tile.ground = some ptr ∨
    if (state.typeOf env ptr).alwaysOnTop then ptr ∈ state.tile.topItems else ptr ∈ state.tile.downItems := by
  have start : (-1 : Int) ≤ if state.tile.ground.isSome then 0 else -1 := by split <;> decide
  have onTop : (state.typeOf env ptr).alwaysOnTop = (state.game.items ptr).isAlwaysOnTop env.items := rfl
  simp only [TileStack.getThingIndex, onTop]
  by_cases ground : state.tile.ground = some ptr
  · simp only [ground, if_true, true_or, iff_true]
    decide
  · rw [if_neg ground, or_iff_right ground]
    generalize (if state.tile.ground.isSome = true then (0 : Int) else -1) = n at start
    by_cases onTop : (state.game.items ptr).isAlwaysOnTop env.items = true
    · rw [if_pos onTop, if_pos onTop, ← idxOf?_ne_none]
      cases state.tile.topItems.idxOf? ptr with
      | none => simp only [ne_eq, not_true]
      | some passed =>
        simp only [ne_eq, reduceCtorEq, not_false_eq_true, iff_true]
        omega
    · rw [if_neg onTop, if_neg onTop, ← idxOf?_ne_none]
      cases state.tile.downItems.idxOf? ptr with
      | none => simp only [ne_eq, not_true]
      | some passed =>
        simp only [ne_eq, reduceCtorEq, not_false_eq_true, iff_true]
        omega

theorem index_of_removes {count : Nat} (removes : state.removes env ptr count = true) :
    state.tile.getThingIndex env state.game (.item ptr) ≠ -1 := by
  rw [getThingIndex_item_ne]
  unfold TileState.removes at removes
  split at removes
  · next ground => exact .inl ground
  · right
    split at removes
    · next onTop =>
      rw [if_pos onTop]
      exact of_decide_eq_true removes
    · next below =>
      rw [if_neg below]
      exact of_decide_eq_true (Bool.and_eq_true_iff.mp removes).1

end

section
variable {env : Env} {state : TileState} {ptr : ItemPtr} {count : Nat}

/-- The tile without an item. -/
structure Without (state : TileState) (ptr : ItemPtr) (layer : Layer) (tile : TileStack) : Prop where
  member : ptr ∈ state.tile.part layer
  relayer : state.tile.Relayer tile layer ((state.tile.part layer).erase ptr)

theorem removeThing_removes (shaped : state.tile.Shaped) (removes : state.removes env ptr count = true) :
    ∃ layer tile, state.Without ptr layer tile ∧
      state.removeThing env (.item ptr) count = (state.setParent ptr none).resetFlags env tile ptr := by
  have found := index_of_removes removes
  unfold TileState.removes at removes
  simp only [removeThing, if_neg found]
  split at removes
  · next ground =>
    rw [if_pos ground]
    refine ⟨.ground, _, ⟨?_, ?_⟩, rfl⟩
    · exact Option.mem_toList.mpr ground
    · have empty : (state.tile.part .ground).erase ptr = (none : Option ItemPtr).toList := by
        change state.tile.ground.toList.erase ptr = _
        rw [ground, Option.toList_some, erase_cons_head]
        rfl
      rw [empty]
      exact TileStack.relayer_ground shaped none
  · next notGround =>
    rw [if_neg notGround]
    split at removes
    · next onTop =>
      rw [if_pos onTop]
      have member : ptr ∈ state.tile.topItems := of_decide_eq_true removes
      cases index : state.tile.topItems.idxOf? ptr with
      | none => exact absurd index (idxOf?_ne_none.mpr member)
      | some passed => exact ⟨.top, _, ⟨member, TileStack.relayer_eraseTop shaped index⟩, rfl⟩
    · next below =>
      rw [if_neg below]
      obtain ⟨member, whole⟩ := Bool.and_eq_true_iff.mp removes
      have member : ptr ∈ state.tile.downItems := of_decide_eq_true member
      have whole : ¬ ((state.typeOf env ptr).stackable = true ∧ count ≠ (state.game.items ptr).count) := by
        rintro ⟨stackable, part⟩
        simp only [stackable, part, ne_eq, not_false_eq_true, decide_true, Bool.and_self, Bool.not_true,
          Bool.false_eq_true] at whole
      cases index : state.tile.downItems.idxOf? ptr with
      | none => exact absurd index (idxOf?_ne_none.mpr member)
      | some passed =>
        simp only [if_neg whole]
        exact ⟨.down, _, ⟨member, TileStack.relayer_eraseDown shaped index⟩, rfl⟩

/-- What a call leaves alone: the tile, and the items but for their counts and parents. -/
structure Alike (state after : TileState) : Prop where
  tile : after.tile = state.tile
  id : ∀ other, (after.game.items other).id = (state.game.items other).id
  kind : ∀ other, (after.game.items other).kind = (state.game.items other).kind
  attributes : ∀ other, (after.game.items other).attributes = (state.game.items other).attributes

theorem Alike.refl (state : TileState) : state.Alike state := ⟨rfl, fun _ => rfl, fun _ => rfl, fun _ => rfl⟩

theorem Alike.gives {after : TileState} (alike : state.Alike after) (other : ItemPtr) :
    (after.game.items other).gives env.items = (state.game.items other).gives env.items := by
  funext flag
  simp only [Item.gives, Item.hasAttribute, alike.id other, alike.kind other, alike.attributes other]

theorem removeThing_keeps (stays : ¬ state.removes env ptr count = true) :
    state.Alike (state.removeThing env (.item ptr) count) := by
  have refl := Alike.refl state
  simp only [removeThing]
  split
  · exact refl
  · next found =>
    unfold TileState.removes at stays
    split
    · next ground => exact absurd (if_pos ground) stays
    · next notGround =>
      rw [if_neg notGround] at stays
      split
      · next onTop =>
        rw [if_pos onTop, decide_eq_true_eq] at stays
        have absent : state.tile.topItems.idxOf? ptr = none := idxOf?_eq_none_iff.mpr stays
        rw [absent]
        exact refl
      · next below =>
        split
        · exact refl
        · next index =>
          split
          · constructor
            · rfl
            all_goals
              intro other
              simp only [Game.setItem]
              split
              · next same => rw [same]; rfl
              · rfl
          · next whole =>
            have member : ptr ∈ state.tile.downItems := idxOf?_ne_none.mp (fun absent => by rw [index] at absent; cases absent)
            refine absurd ?_ stays
            rw [if_neg below, decide_eq_true member, Bool.true_and, Bool.not_eq_true', Bool.and_eq_false_iff]
            rcases not_and_or.mp whole with single | same
            · exact .inl (eq_false_of_ne_true single)
            · exact .inr (decide_eq_false same)

end

section
variable {tile after : TileStack} {ptr old : ItemPtr} {pos : Nat}

theorem swapAbove_some (shaped : tile.Shaped) (swapped : swapAbove tile pos ptr = some (old, after)) :
    ∃ layer passed, (tile.part layer)[passed]? = some old ∧ tile.Relayer after layer ((tile.part layer).set passed ptr) := by
  have split := shaped.split
  unfold swapAbove at swapped
  simp only at swapped
  split at swapped
  · next top =>
    obtain ⟨_, found, same⟩ := Option.map_eq_some_iff.mp swapped
    cases same
    refine ⟨.top, pos, ?_, TileStack.relayer_setTop ptr shaped pos⟩
    change tile.topItems[pos]? = _
    rw [TileStack.topItems, getElem?_drop]
    exact found
  · split at swapped
    · cases swapped
    · split at swapped
      · next below =>
        obtain ⟨_, found, same⟩ := Option.map_eq_some_iff.mp swapped
        cases same
        rw [TileStack.getDownItemCount] at below
        refine ⟨.down, _, ?_, TileStack.relayer_setDown ptr shaped (split.count ▸ below)⟩
        change tile.downItems[_]? = _
        rw [TileStack.downItems, getElem?_take_of_lt below]
        exact found
      · cases swapped

theorem swap_some (shaped : tile.Shaped) (swapped : swap tile pos ptr = some (old, after)) :
    ∃ layer passed, (tile.part layer)[passed]? = some old ∧ tile.Relayer after layer ((tile.part layer).set passed ptr) := by
  unfold swap at swapped
  split at swapped
  · next ground here =>
    split at swapped
    · cases swapped
      have part : tile.part .ground = [old] := congrArg Option.toList here
      refine ⟨.ground, 0, ?_, ?_⟩
      · rw [part]
        rfl
      · rw [part]
        exact TileStack.relayer_ground shaped (some ptr)
    · exact swapAbove_some shaped swapped
  · exact swapAbove_some shaped swapped

theorem swapped_perm {layer : Layer} {passed : Nat} (found : (tile.part layer)[passed]? = some old)
    (relayer : tile.Relayer after layer ((tile.part layer).set passed ptr)) :
    ∃ rest, tile.allItems.Perm (old :: rest) ∧ after.allItems.Perm (ptr :: rest) := by
  obtain ⟨inside, here⟩ := List.getElem?_eq_some_iff.mp found
  have before : (tile.part layer).Perm ([old] ++ (tile.part layer).eraseIdx passed) := by
    rw [← here]
    exact (getElem_cons_eraseIdx_perm inside).symm
  exact relayer.perm [old] [ptr] before (set_perm_cons_eraseIdx inside ptr)

end

section
variable {env : Env} {pos : Position} {state : TileState} {ptr : ItemPtr}

theorem Turnover.setParent {after : TileState} {leaves : Option ItemPtr} {comes : Option Item}
    (turnover : state.Turnover env after leaves comes) (other : ItemPtr) (cylinder : Option Cylinder) :
    state.Turnover env (after.setParent other cylinder) leaves comes where
  listed := turnover.listed
  giving := by
    rw [giving_congr (fun ptr => gives_setParent env after other ptr cylinder) rfl]
    exact turnover.giving
  flags := turnover.flags

theorem Without.perm {layer : Layer} {tile : TileStack} (without : state.Without ptr layer tile) :
    state.tile.allItems.Perm (ptr :: tile.allItems) := by
  obtain ⟨stays, before, after⟩ := without.relayer.perm [ptr] [] (perm_cons_erase without.member) (List.Perm.refl _)
  exact before.trans (after.symm.cons ptr)

theorem Without.length_le {layer : Layer} {tile : TileStack} (without : state.Without ptr layer tile) :
    tile.items.length ≤ state.tile.items.length := by
  have fewer : ∀ other, (tile.part other).length ≤ (state.tile.part other).length := by
    intro other
    rw [without.relayer.part]
    split
    · next same =>
      rw [same]
      exact length_erase_le
    · exact Nat.le_refl _
  rw [TileStack.length_items, TileStack.length_items]
  exact Nat.add_le_add (fewer .down) (fewer .top)

theorem Without.shaped (shaped : state.tile.Shaped) {layer : Layer} {tile : TileStack} (without : state.Without ptr layer tile) :
    tile.Shaped :=
  without.relayer.shaped shaped (nodup_cons.mp (without.perm.nodup_iff.mp shaped.items)).2
    (without.length_le.trans shaped.size)

variable (env ptr) in
theorem removeThing_turnover (shaped : state.tile.Shaped) (count : Nat) :
    state.Turnover env (state.removeThing env (.item ptr) count) (if state.removes env ptr count then some ptr else none) none := by
  split
  · next removes =>
    obtain ⟨layer, tile, without, same⟩ := removeThing_removes shaped removes
    rw [same]
    exact Turnover.went (fun other => gives_setParent env state ptr other none) shaped.items
      without.perm without.relayer.flags
  · next stays =>
    have alike := removeThing_keeps stays
    exact Turnover.kept (giving_congr (fun other => alike.gives other) (congrArg TileStack.allItems alike.tile))
      (congrArg TileStack.flags alike.tile)

theorem insertDown_turnover (shaped : state.tile.Shaped) (room : state.tile.items.length < 0xFFFF) :
    state.Turnover env (state.insertDown env ptr) none (some (state.game.items ptr)) := by
  obtain ⟨stays, before, after⟩ := (TileStack.relayer_insertDown ptr shaped room).perm [] [ptr]
    (List.Perm.refl _) (List.Perm.refl _)
  exact Turnover.came (fun _ => rfl) (after.trans (before.symm.cons ptr)) rfl

theorem insertTop_turnover (shaped : state.tile.Shaped) (before : ItemType → Bool) :
    state.Turnover env (state.insertTop env before ptr) none (some (state.game.items ptr)) := by
  have relayer := TileStack.relayer_insertTop ptr shaped
    (state.tile.topItems.findIdx (fun other => before (state.typeOf env other)))
  obtain ⟨stays, old, new⟩ := relayer.perm [] [ptr] (List.Perm.refl _)
    (perm_insertIdx _ _ findIdx_le_length)
  exact Turnover.came (fun _ => rfl) (new.trans (old.symm.cons ptr)) rfl

theorem gives_removeThing (shaped : state.tile.Shaped) (count : Nat) (other : ItemPtr) :
    ((state.removeThing env (.item ptr) count).game.items other).gives env.items = (state.game.items other).gives env.items := by
  by_cases removes : state.removes env ptr count = true
  · obtain ⟨layer, tile, _, same⟩ := removeThing_removes shaped removes
    rw [same]
    exact gives_setParent ..
  · exact (removeThing_keeps removes).gives other

variable (env ptr) in
/-- What is left when the old splash or field is removed. -/
theorem removeThing_shaped (shaped : state.tile.Shaped) (count : Nat) :
    (state.removeThing env (.item ptr) count).tile.Shaped ∧
      (state.removeThing env (.item ptr) count).tile.items.length ≤ state.tile.items.length ∧
        ∀ other, other ∉ state.tile.allItems → other ∉ (state.removeThing env (.item ptr) count).tile.allItems := by
  by_cases removes : state.removes env ptr count = true
  · obtain ⟨layer, tile, without, same⟩ := removeThing_removes shaped removes
    have left := without.shaped shaped
    rw [same]
    refine ⟨⟨left.counted, left.size, left.items, left.creatures⟩, without.length_le, ?_⟩
    intro other absent there
    exact absent (without.perm.mem_iff.mpr (mem_cons_of_mem _ there))
  · have same := (removeThing_keeps removes).tile
    rw [same]
    exact ⟨shaped, Nat.le_refl _, fun _ => id⟩

variable (env) in
theorem removeOld_left (shaped : state.tile.Shaped) (old : ItemPtr) : (state.removeOld env old).tile.Shaped ∧
    (state.removeOld env old).tile.items.length ≤ state.tile.items.length ∧
      ∀ other, other ∉ state.tile.allItems → other ∉ (state.removeOld env old).tile.allItems :=
  removeThing_shaped env old shaped 1

variable (env) in
theorem removeOld_turnover (shaped : state.tile.Shaped) (old : ItemPtr) :
    state.Turnover env (state.removeOld env old) (if state.removes env old 1 then some old else none) none :=
  (removeThing_turnover env old shaped 1).setParent old none

theorem gives_removeOld (shaped : state.tile.Shaped) (old other : ItemPtr) :
    ((state.removeOld env old).game.items other).gives env.items = (state.game.items other).gives env.items := by
  rw [removeOld, gives_setParent, gives_removeThing shaped]

/-- A call may start with a new parent for some item. -/
theorem Turnover.ofSetParent {after : TileState} {leaves : Option ItemPtr} {comes here : Option Item} {other : ItemPtr}
    {cylinder : Option Cylinder} (turnover : (state.setParent other cylinder).Turnover env after leaves comes)
    (same : comes.map (·.gives env.items) = here.map (·.gives env.items)) : state.Turnover env after leaves here := by
  have staying : (state.setParent other cylinder).staying env leaves = state.staying env leaves :=
    map_congr_left (fun ptr _ => gives_setParent env state other ptr cylinder)
  obtain ⟨listed, giving, flags⟩ := turnover
  rw [staying, same] at giving flags
  refine ⟨listed, giving, ?_⟩
  simp only [gives_setParent] at flags
  exact flags

theorem removes_setParent (other old : ItemPtr) (cylinder : Option Cylinder) (count : Nat) :
    (state.setParent other cylinder).removes env old count = state.removes env old count := by
  simp only [TileState.removes, typeOf_setParent, count_setParent, tile_setParent]
  rfl

theorem addThing_turnover (shaped : state.tile.Shaped) (fresh : ptr ∉ state.tile.allItems) :
    state.Turnover env (state.addThing env pos (.item ptr)) ((TileOp.addThing (.item ptr)).leaves env state)
      ((TileOp.addThing (.item ptr)).comes env state) := by
  have parentless : ∀ other, ((state.setParent ptr (some (.tile pos))).game.items other).gives env.items =
      (state.game.items other).gives env.items :=
    fun other => gives_setParent env state ptr other _
  simp only [addThing, TileOp.leaves, TileOp.comes]
  split
  · exact Turnover.kept rfl rfl
  · next room =>
    split
    · next ground =>
      rw [ground, Bool.true_or, if_pos rfl]
      cases old : state.tile.ground with
      | none =>
        refine Turnover.came parentless ?_ rfl
        simp only [TileStack.allItems, old, Option.toList_some, Option.toList_none, nil_append, singleton_append]
        exact List.Perm.refl _
      | some oldGround =>
        have perm : state.tile.allItems.Perm (oldGround :: state.tile.items) := by
          simp only [TileStack.allItems, old, Option.toList_some, singleton_append]
          exact List.Perm.refl _
        have now : (TileStack.allItems { state.tile with ground := some ptr }).Perm (ptr :: state.tile.items) := List.Perm.refl _
        refine Turnover.exchanged ?_ shaped.items perm now fresh rfl rfl
        intro other
        rw [gives_setParent, gives_setParent]
    · next notGround =>
      rw [eq_false_of_ne_true notGround, Bool.false_or]
      have hung : ((state.setParent ptr (some (.tile pos))).tile).Shaped := shaped
      have room : state.tile.items.length < 0xFFFF := Nat.lt_of_not_le room
      split
      · next onTop =>
        have oldSplash : (if (state.typeOf env ptr).isSplash = true then state.tile.topItems.find? (fun other =>
            ((state.setParent ptr (some (.tile pos))).typeOf env other).isSplash) else none) = state.oldThing env ptr := by
          simp only [typeOf_setParent, oldThing, if_pos onTop]
        rw [oldSplash]
        simp only [onTop, Bool.true_or, Bool.true_and]
        cases state.oldThing env ptr with
        | none => exact Turnover.ofSetParent (insertTop_turnover hung _) (congrArg some (gives_setParent ..))
        | some old =>
          obtain ⟨left, _, _⟩ := removeOld_left env hung old
          rw [Option.filter_some, ← removes_setParent ptr old (some (.tile pos)) 1]
          exact Turnover.ofSetParent ((removeOld_turnover env hung old).andThen (insertTop_turnover left _))
            (congrArg some ((gives_removeOld hung old ptr).trans (gives_setParent ..)))
      · next below =>
        have oldField : (if (state.typeOf env ptr).isMagicField = true then state.tile.downItems.find? (fun other =>
            decide (((state.setParent ptr (some (.tile pos))).game.items other).kind = .magicField)) else none) =
              state.oldThing env ptr := by
          simp only [kind_setParent, oldThing, if_neg below]
        rw [oldField]
        simp only [eq_false_of_ne_true below, Bool.false_or]
        cases state.oldThing env ptr with
        | none =>
          exact Turnover.ofSetParent (insertDown_turnover hung room) (congrArg some (gives_setParent ..))
        | some old =>
          simp only [Option.all_some, typeOf_setParent, Option.filter_some]
          split
          · next replaceable =>
            obtain ⟨left, fewer, _⟩ := removeOld_left env hung old
            rw [replaceable, Bool.true_and, ← removes_setParent ptr old (some (.tile pos)) 1]
            exact Turnover.ofSetParent
              ((removeOld_turnover env hung old).andThen (insertDown_turnover left (Nat.lt_of_le_of_lt fewer room)))
              (congrArg some ((gives_removeOld hung old ptr).trans (gives_setParent ..)))
          · next lasting =>
            rw [eq_false_of_ne_true lasting, Bool.false_and, if_neg Bool.false_ne_true]
            refine Turnover.kept (giving_congr ?_ rfl) rfl
            intro other
            rw [gives_setParent, gives_setParent]

theorem internalAddThing_turnover (shaped : state.tile.Shaped) :
    state.Turnover env (state.internalAddThing env pos (.item ptr)) none ((TileOp.internalAddThing (.item ptr)).comes env state) := by
  have hung : ((state.setParent ptr (some (.tile pos))).tile).Shaped := shaped
  have parentless : ∀ other, ((state.setParent ptr (some (.tile pos))).game.items other).gives env.items =
      (state.game.items other).gives env.items :=
    fun other => gives_setParent env state ptr other _
  have none_comes : state.Turnover env (state.setParent ptr (some (.tile pos))) none none :=
    Turnover.kept (giving_congr parentless rfl) rfl
  simp only [internalAddThing, TileOp.comes]
  split
  · cases old : state.tile.ground with
    | none =>
      rw [if_pos rfl]
      refine Turnover.came parentless ?_ rfl
      simp only [TileStack.allItems, old, Option.toList_some, Option.toList_none, nil_append, singleton_append]
      exact List.Perm.refl _
    | some oldGround => exact none_comes
  · split
    · exact none_comes
    · next room =>
      split
      · exact Turnover.ofSetParent (insertTop_turnover hung _) (congrArg some (gives_setParent ..))
      · exact Turnover.ofSetParent (insertDown_turnover hung (Nat.lt_of_not_le room)) (congrArg some (gives_setParent ..))

theorem mem_of_index (shaped : state.tile.Shaped) (inside : state.tile.getThingIndex env state.game (.item ptr) ≠ -1) :
    ptr ∈ state.tile.allItems := by
  rw [TileStack.mem_allItems shaped]
  rcases getThingIndex_item_ne.mp inside with ground | vector
  · exact ⟨.ground, Option.mem_toList.mpr ground⟩
  · split at vector
    · exact ⟨.top, vector⟩
    · exact ⟨.down, vector⟩

theorem updateThing_turnover (shaped : state.tile.Shaped) (itemId count : Nat) :
    state.Turnover env (state.updateThing env (.item ptr) itemId count) ((TileOp.updateThing (.item ptr) itemId count).leaves env state)
      ((TileOp.updateThing (.item ptr) itemId count).comes env state) := by
  simp only [updateThing, TileOp.leaves, TileOp.comes, game_resetFlags]
  split
  · exact Turnover.kept rfl rfl
  · next inside =>
    have member := mem_of_index shaped inside
    have perm : state.tile.allItems.Perm (ptr :: state.tile.allItems.erase ptr) := perm_cons_erase member
    have absent : ptr ∉ state.tile.allItems.erase ptr := (nodup_cons.mp (perm.nodup_iff.mp shaped.items)).1
    have stays := staying_some env shaped.items perm
    generalize ((state.game.items ptr).setID env.items (env.normalRandom ptr) itemId).setSubType env.items (toUInt16 count) = item
    constructor
    · rintro other ⟨⟩
      exact member
    · refine (perm.map _).trans ?_
      rw [map_cons]
      have first : ((state.game.setItem ptr item).items ptr).gives env.items = item.gives env.items := by
        rw [Game.setItem_self]
      have others : (state.tile.allItems.erase ptr).map (fun other => ((state.game.setItem ptr item).items other).gives env.items) =
          (state.tile.allItems.erase ptr).map (fun other => (state.game.items other).gives env.items) := by
        apply map_congr_left
        intro other there
        have different : other ≠ ptr := fun same => absent (same ▸ there)
        rw [Game.setItem_other _ _ different]
      exact (List.Perm.of_eq (congrArg₂ List.cons first others)).trans (stays.symm.cons _)
    · refine ⟨(state.tile.allItems.filter (· ≠ ptr)).map (fun other => (state.game.items other).gives env.items), .inl ?_, ?_⟩
      · apply List.Perm.of_eq
        rw [staying]
        congr 2
        funext other
        simp only [ne_eq, Option.some.injEq, eq_comm]
      · rw [flags_setFlags, flags_resetFlags]
        simp only [Game.setItem_self, Option.map_some, Option.elim_some, any_map]
        rfl

theorem replaceThing_turnover (shaped : state.tile.Shaped) (fresh : ptr ∉ state.tile.allItems) (index : Nat) :
    state.Turnover env (state.replaceThing env pos index (.item ptr)) ((TileOp.replaceThing index (.item ptr)).leaves env state)
      ((TileOp.replaceThing index (.item ptr)).comes env state) := by
  simp only [replaceThing, TileOp.leaves, TileOp.comes]
  cases swapped : swap state.tile index ptr with
  | none => exact Turnover.kept rfl rfl
  | some entry =>
    obtain ⟨old, tile⟩ := entry
    obtain ⟨layer, passed, found, relayer⟩ := swap_some shaped swapped
    obtain ⟨rest, was, now⟩ := swapped_perm found relayer
    exact (Turnover.exchanged (fun other => gives_setParent env state ptr other _) shaped.items was now fresh relayer.flags
      rfl).setParent old none

end

section
variable {env : Env} {pos : Position} {state : TileState} {ptr : ItemPtr}

theorem insertTop_shaped (shaped : state.tile.Shaped) (room : state.tile.items.length < 0xFFFF) (fresh : ptr ∉ state.tile.allItems)
    (before : ItemType → Bool) : (state.insertTop env before ptr).tile.Shaped := by
  have relayer := TileStack.relayer_insertTop ptr shaped
    (state.tile.topItems.findIdx (fun other => before (state.typeOf env other)))
  obtain ⟨stays, old, new⟩ := relayer.perm [] [ptr] (List.Perm.refl _) (perm_insertIdx _ _ findIdx_le_length)
  have perm := new.trans (old.symm.cons ptr)
  have left : TileStack.Shaped _ := relayer.shaped shaped (perm.nodup_iff.mpr (nodup_cons.mpr ⟨fresh, shaped.items⟩))
    (length_insertIdx_le_succ.trans room)
  exact ⟨left.counted, left.size, left.items, left.creatures⟩

theorem insertDown_shaped (shaped : state.tile.Shaped) (room : state.tile.items.length < 0xFFFF) (fresh : ptr ∉ state.tile.allItems) :
    (state.insertDown env ptr).tile.Shaped := by
  have relayer := TileStack.relayer_insertDown ptr shaped room
  obtain ⟨stays, old, new⟩ := relayer.perm [] [ptr] (List.Perm.refl _) (List.Perm.refl _)
  have perm := new.trans (old.symm.cons ptr)
  have left : TileStack.Shaped _ := relayer.shaped shaped (perm.nodup_iff.mpr (nodup_cons.mpr ⟨fresh, shaped.items⟩)) room
  exact ⟨left.counted, left.size, left.items, left.creatures⟩

/-- Another ground, or the first one. -/
theorem ground_shaped (shaped : state.tile.Shaped) (fresh : ptr ∉ state.tile.allItems) (flags : TileFlag → Bool) :
    TileStack.Shaped { state.tile with ground := some ptr, flags } where
  counted := shaped.counted
  size := shaped.size
  items := by
    have nodup := shaped.items
    simp only [TileStack.allItems, mem_append, not_or] at fresh nodup ⊢
    exact nodup_cons.mpr ⟨fresh.2, (nodup_append.mp nodup).2.1⟩
  creatures := shaped.creatures

theorem addThing_shaped (shaped : state.tile.Shaped) (fresh : ptr ∉ state.tile.allItems) :
    (state.addThing env pos (.item ptr)).tile.Shaped := by
  simp only [addThing]
  split
  · exact shaped
  · next room =>
    have room : state.tile.items.length < 0xFFFF := Nat.lt_of_not_le room
    have hung : ((state.setParent ptr (some (.tile pos))).tile).Shaped := shaped
    split
    · split
      · exact ground_shaped shaped fresh _
      · exact ground_shaped shaped fresh _
    · split
      · split
        · next old _ =>
          obtain ⟨left, fewer, absent⟩ := removeOld_left env hung old
          exact insertTop_shaped left (Nat.lt_of_le_of_lt fewer room) (absent ptr fresh) _
        · exact insertTop_shaped hung room fresh _
      · split
        · next old _ =>
          split
          · obtain ⟨left, fewer, absent⟩ := removeOld_left env hung old
            exact insertDown_shaped left (Nat.lt_of_le_of_lt fewer room) (absent ptr fresh)
          · exact shaped
        · exact insertDown_shaped hung room fresh

theorem internalAddThing_shaped (shaped : state.tile.Shaped) (fresh : ptr ∉ state.tile.allItems) :
    (state.internalAddThing env pos (.item ptr)).tile.Shaped := by
  have hung : ((state.setParent ptr (some (.tile pos))).tile).Shaped := shaped
  simp only [internalAddThing]
  split
  · split
    · exact ground_shaped shaped fresh _
    · exact shaped
  · split
    · exact shaped
    · next room =>
      have room : state.tile.items.length < 0xFFFF := Nat.lt_of_not_le room
      split
      · exact insertTop_shaped hung room fresh _
      · exact insertDown_shaped hung room fresh

theorem replaceThing_shaped (shaped : state.tile.Shaped) (fresh : ptr ∉ state.tile.allItems) (index : Nat) :
    (state.replaceThing env pos index (.item ptr)).tile.Shaped := by
  simp only [replaceThing]
  cases swapped : swap state.tile index ptr with
  | none => exact shaped
  | some entry =>
    obtain ⟨old, tile⟩ := entry
    obtain ⟨layer, passed, found, relayer⟩ := swap_some shaped swapped
    obtain ⟨rest, was, now⟩ := swapped_perm found relayer
    have apart : ptr ∉ rest := fun there => fresh (was.mem_iff.mpr (mem_cons_of_mem _ there))
    have nodup : tile.allItems.Nodup :=
      now.nodup_iff.mpr (nodup_cons.mpr ⟨apart, (nodup_cons.mp (was.nodup_iff.mp shaped.items)).2⟩)
    have size : ∀ other, (tile.part other).length = (state.tile.part other).length := by
      intro other
      rw [relayer.part]
      split
      · next same => rw [same, length_set]
      · rfl
    have left : tile.Shaped := by
      refine relayer.shaped shaped nodup ?_
      rw [TileStack.length_items, size, size, ← TileStack.length_items]
      exact shaped.size
    exact ⟨left.counted, left.size, left.items, left.creatures⟩

end

end TileState

namespace TileOp

variable {env : Env} {pos : Position} {state : TileState}

/-- The item that a call brings is not there yet. -/
theorem fresh_item {ptr : ItemPtr} (shaped : state.tile.Shaped) (fresh : Thing.item ptr ∉ state.tile.things) :
    ptr ∉ state.tile.allItems :=
  fun there => fresh ((TileStack.mem_things_item shaped ptr).mpr there)

theorem run_shaped (shaped : state.tile.Shaped) (op : TileOp) (fresh : op.Fresh state) : (op.run env pos state).tile.Shaped := by
  have added : ∀ id, Thing.creature id ∉ state.tile.things →
      TileStack.Shaped { state.tile with creatures := id :: state.tile.creatures } := by
    intro id absent
    have absent : id ∉ state.tile.creatures := fun there => absent ((TileStack.mem_things_creature id).mpr there)
    exact ⟨shaped.counted, shaped.size, shaped.items, nodup_cons.mpr ⟨absent, shaped.creatures⟩⟩
  cases op with
  | addThing thing =>
    cases thing with
    | item ptr => exact TileState.addThing_shaped shaped (fresh_item shaped fresh)
    | creature id => exact added id fresh
  | internalAddThing thing =>
    cases thing with
    | item ptr => exact TileState.internalAddThing_shaped shaped (fresh_item shaped fresh)
    | creature id => exact added id fresh
  | updateThing thing itemId count =>
    cases thing with
    | item ptr =>
      simp only [run, TileState.updateThing]
      split
      · exact shaped
      · exact ⟨shaped.counted, shaped.size, shaped.items, shaped.creatures⟩
    | creature id => exact shaped
  | replaceThing index thing =>
    cases thing with
    | item ptr => exact TileState.replaceThing_shaped shaped (fresh_item shaped fresh) index
    | creature id => exact shaped
  | removeThing thing count =>
    cases thing with
    | item ptr => exact (TileState.removeThing_shaped env ptr shaped count).1
    | creature id => exact ⟨shaped.counted, shaped.size, shaped.items, shaped.creatures.erase id⟩
  | elsewhere ptr item => exact shaped

variable (env pos) in
/-- At most one item leaves the tile in a call, and at most one comes. -/
theorem run_turnover (shaped : state.tile.Shaped) (op : TileOp) (fresh : op.Fresh state) :
    state.Turnover env (op.run env pos state) (op.leaves env state) (op.comes env state) := by
  cases op with
  | addThing thing =>
    cases thing with
    | item ptr => exact TileState.addThing_turnover shaped (fresh_item shaped fresh)
    | creature id => exact TileState.Turnover.kept rfl rfl
  | internalAddThing thing =>
    cases thing with
    | item ptr => exact TileState.internalAddThing_turnover shaped
    | creature id => exact TileState.Turnover.kept rfl rfl
  | updateThing thing itemId count =>
    cases thing with
    | item ptr => exact TileState.updateThing_turnover shaped itemId count
    | creature id => exact TileState.Turnover.kept rfl rfl
  | replaceThing index thing =>
    cases thing with
    | item ptr => exact TileState.replaceThing_turnover shaped (fresh_item shaped fresh) index
    | creature id => exact TileState.Turnover.kept rfl rfl
  | removeThing thing count =>
    cases thing with
    | item ptr => exact TileState.removeThing_turnover env ptr shaped count
    | creature id => exact TileState.Turnover.kept rfl rfl
  | elsewhere ptr item =>
    refine TileState.Turnover.kept ?_ rfl
    apply map_congr_left
    intro other there
    have different : other ≠ ptr := by
      intro same
      exact fresh_item shaped fresh (same ▸ there)
    change ((state.game.setItem ptr item).items other).gives env.items = _
    rw [Game.setItem_other _ _ different]

end TileOp

end Styller
