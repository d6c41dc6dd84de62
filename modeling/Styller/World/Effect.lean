import Styller.World.Layout
import Styller.World.Mutate

/-! What the operations of containers and players do to the layout: nothing, one item
put, one item taken, or one count changed. -/

namespace Styller.Game

open Library Layout List

@[simp] theorem setItem_self (game : Game) (ptr : ItemPtr) (item : Item) :
    (game.setItem ptr item).items ptr = item := by
  simp [setItem]

theorem setItem_other {other ptr : ItemPtr} (game : Game) (item : Item) (different : other ≠ ptr) :
    (game.setItem ptr item).items other = game.items other := by
  simp [setItem, different]

@[simp] theorem setItem_players (game : Game) (ptr : ItemPtr) (item : Item) :
    (game.setItem ptr item).players = game.players := rfl

@[simp] theorem setItem_tiles (game : Game) (ptr : ItemPtr) (item : Item) :
    (game.setItem ptr item).tiles = game.tiles := rfl

@[simp] theorem setItem_next (game : Game) (ptr : ItemPtr) (item : Item) :
    (game.setItem ptr item).next = game.next := rfl

@[simp] theorem setPlayer_items (game : Game) (id : PlayerId) (player : Player) :
    (game.setPlayer id player).items = game.items := rfl

@[simp] theorem setTile_items (game : Game) (pos : Position) (tile : Tile) :
    (game.setTile pos tile).items = game.items := rfl

theorem contents_setItem (game : Game) (ptr : ItemPtr) (item : Item) (cylinder : Cylinder) :
    (game.setItem ptr item).contents cylinder =
      if cylinder = .item ptr then item.itemlist else game.contents cylinder := by
  cases cylinder with
  | player id => simp [contents]
  | tile pos => simp [contents]
  | item holder =>
    by_cases same : holder = ptr
    · subst same; simp [contents]
    · simp [contents, setItem_other game item same, same]

theorem contents_setPlayer (game : Game) (id : PlayerId) (player : Player) (cylinder : Cylinder) :
    (game.setPlayer id player).contents cylinder =
      if cylinder = .player id then slots.filterMap player.inventory else game.contents cylinder := by
  cases cylinder with
  | player other =>
    by_cases same : other = id
    · subst same; simp [contents, setPlayer]
    · simp [contents, setPlayer, same]
  | tile pos => simp [contents, setPlayer]
  | item holder => simp [contents]

theorem contents_setTile (game : Game) (pos : Position) (tile : Tile) (cylinder : Cylinder) :
    (game.setTile pos tile).contents cylinder =
      if cylinder = .tile pos then tile.things else game.contents cylinder := by
  cases cylinder with
  | player id => simp [contents, setTile]
  | tile other =>
    by_cases same : other = pos
    · subst same; simp [contents, setTile]
    · simp [contents, setTile, same]
  | item holder => simp [contents]

/-- Two records of an item that the layout does not tell apart. -/
structure SameLayout (before after : Item) : Prop where
  id : after.id = before.id
  kind : after.kind = before.kind
  count : after.count = before.count
  parent : after.parent = before.parent
  itemlist : after.itemlist = before.itemlist
  maxSize : after.maxSize = before.maxSize

/-- One field of all items after one record has changed. -/
theorem map_setItem {Value : Type} (get : Item → Value) (game : Game) (ptr : ItemPtr) (item : Item) :
    (fun other => get ((game.setItem ptr item).items other)) =
      Function.update (fun other => get (game.items other)) ptr (get item) := by
  funext other
  by_cases self : other = ptr
  · subst self; simp
  · simp [setItem_other game item self, self]

/-- A field that the new record shares with the old one. -/
theorem map_setItem_same {Value : Type} (get : Item → Value) (game : Game) {ptr : ItemPtr} {item : Item}
    (agree : get item = get (game.items ptr)) :
    (fun other => get ((game.setItem ptr item).items other)) = fun other => get (game.items other) := by
  rw [map_setItem, agree]
  exact Function.update_eq_self ptr (fun other => get (game.items other))

theorem contents_setItem_same (game : Game) {ptr : ItemPtr} {item : Item}
    (agree : item.itemlist = (game.items ptr).itemlist) :
    (game.setItem ptr item).contents = game.contents := by
  funext cylinder
  rw [contents_setItem]
  split
  · rename_i self
    rw [self, agree]
    rfl
  · rfl

/-- Changes of weights and attributes leave the layout as it is. -/
theorem layout_setItem (game : Game) (ptr : ItemPtr) (item : Item)
    (same : SameLayout (game.items ptr) item) : (game.setItem ptr item).layout = game.layout := by
  simp only [layout, contents_setItem_same game same.itemlist, map_setItem_same Item.id game same.id,
    map_setItem_same Item.kind game same.kind, map_setItem_same Item.count game same.count,
    map_setItem_same Item.parent game same.parent, map_setItem_same Item.maxSize game same.maxSize,
    setItem_next, setItem_tiles, setItem_players]

theorem layout_updateItemWeight (fuel : Nat) (game : Game) (container : ItemPtr) (diff : Int) :
    (updateItemWeight fuel game container diff).layout = game.layout := by
  induction fuel generalizing game container with
  | zero => rfl
  | succ fuel ih =>
    have here := layout_setItem game container
      { game.items container with totalWeight := toUInt32 ((game.items container).totalWeight + diff) }
      ⟨rfl, rfl, rfl, rfl, rfl, rfl⟩
    simp only [updateItemWeight]
    split
    · split
      · rw [ih, here]
      · exact here
    · exact here

/-- A new count, with everything else the layout sees as it was. -/
theorem recount_setItem (game : Game) {ptr : ItemPtr} {item : Item} (id : item.id = (game.items ptr).id)
    (kind : item.kind = (game.items ptr).kind) (parent : item.parent = (game.items ptr).parent)
    (itemlist : item.itemlist = (game.items ptr).itemlist)
    (maxSize : item.maxSize = (game.items ptr).maxSize) :
    Recount game.layout (game.setItem ptr item).layout ptr item.count where
  contents := contents_setItem_same game itemlist
  inventory := rfl
  mapped := rfl
  layers := rfl
  receives := fun _ there => there
  parent := map_setItem_same Item.parent game parent
  id := map_setItem_same Item.id game id
  kind := map_setItem_same Item.kind game kind
  maxSize := map_setItem_same Item.maxSize game maxSize
  next := rfl
  count := map_setItem Item.count game ptr item

theorem reparented_setItem (game : Game) (ptr : ItemPtr) (cylinder : Option Cylinder) :
    Reparented game.layout (game.setItem ptr ((game.items ptr).setParent cylinder)).layout ptr
      cylinder where
  id := map_setItem_same Item.id game rfl
  kind := map_setItem_same Item.kind game rfl
  count := map_setItem_same Item.count game rfl
  maxSize := map_setItem_same Item.maxSize game rfl
  next := rfl
  mapped := rfl
  parent := map_setItem Item.parent game ptr _

theorem contents_setParent (game : Game) (ptr : ItemPtr) (cylinder : Option Cylinder) :
    (game.setItem ptr ((game.items ptr).setParent cylinder)).contents = game.contents :=
  contents_setItem_same game rfl

theorem indexIn_ne_iff {list : List ItemPtr} {ptr : ItemPtr} : indexIn list ptr ≠ -1 ↔ ptr ∈ list := by
  unfold indexIn
  cases found : list.idxOf? ptr with
  | none =>
    have absent : ptr ∉ list := idxOf?_eq_none_iff.mp found
    simp [absent]
  | some index =>
    have present : ptr ∈ list := by
      by_contra absent
      rw [idxOf?_eq_none_iff.mpr absent] at found
      cases found
    simp only [present, iff_true]
    omega

/-- What is left of a stack of `count` after `amount` of it is gone. -/
def rest (count amount : Nat) : Nat := toUInt8 (max 0 (toInt32 ((count : Int) - amount)))

theorem rest_eq {count amount : Nat} (enough : amount ≤ count) (small : count < 256) :
    rest count amount = count - amount := by
  have exactly : toInt32 ((count : Int) - amount) = count - amount := by
    apply Int.bmod_eq_of_le <;> omega
  unfold rest toUInt8
  rw [exactly]
  omega

theorem recount_setItemCount (game : Game) (ptr : ItemPtr) (n : Int) :
    Recount game.layout (game.setItem ptr ((game.items ptr).setItemCount n)).layout ptr (toUInt8 n) :=
  recount_setItem game rfl rfl rfl rfl rfl

section
variable (env : Env) (game : Game) {container ptr : ItemPtr} {size : Nat}

/-- New contents of one container. -/
theorem layout_setItemlist (container : ItemPtr) (itemlist : List ItemPtr) :
    (game.setItem container { game.items container with itemlist := itemlist }).layout =
      { game.layout with contents := fun cylinder =>
        if cylinder = .item container then itemlist else game.contents cylinder } := by
  have contents : (game.setItem container
      { game.items container with itemlist := itemlist }).contents = fun cylinder =>
        if cylinder = .item container then itemlist else game.contents cylinder := by
    funext cylinder
    exact contents_setItem game container _ cylinder
  have get : ∀ {Value : Type} (get : Item → Value),
      get { game.items container with itemlist := itemlist } = get (game.items container) →
      (fun other => get ((game.setItem container
        { game.items container with itemlist := itemlist }).items other)) =
          fun other => get (game.items other) :=
    fun get agree => map_setItem_same get game agree
  simp only [layout, contents, get Item.id rfl, get Item.kind rfl, get Item.count rfl,
    get Item.parent rfl, get Item.maxSize rfl, setItem_next, setItem_tiles, setItem_players]

theorem containerAddThing_put (index : Int) (room : index < (game.items container).maxSize) :
    Put env.items game.layout (game.containerAddThing env container index ptr).layout
      (.item container) ptr := by
  have inside : ¬ index ≥ (game.items container).maxSize := not_le.mpr room
  have hung := reparented_setItem game ptr (some (.item container))
  have contents := contents_setParent game ptr (some (.item container))
  unfold containerAddThing
  rw [if_neg inside, layout_updateItemWeight, layout_setItemlist]
  have list := congrFun contents (.item container)
  exact
    { toReparented := ⟨⟨hung.id, hung.kind, hung.count, hung.maxSize, hung.next, hung.mapped⟩, hung.parent⟩
      here := by
        simp only [if_pos]
        exact List.Perm.cons ptr (List.Perm.of_eq list)
      elsewhere := by
        intro other different
        simp only [if_neg different, contents]
        rfl
      inventory := fun _ _ => rfl
      layers := fun _ _ _ there => .inl there
      receives := fun _ there => .inl there }

theorem containerRemoveThing_take (member : ptr ∈ (game.items container).itemlist)
    (whole : ¬ ((game.items ptr).isStackable env.items ∧ size ≠ (game.items ptr).count)) :
    Take game.layout (game.containerRemoveThing env container ptr size).layout
      (.item container) ptr := by
  have inside := indexIn_ne_iff.mpr member
  unfold containerRemoveThing
  simp only [if_neg inside, if_neg whole]
  generalize lighter : updateItemWeight (game.next + 1) game container
    (-((game.items ptr).getWeight env.items : Int)) = lighterGame
  have same : lighterGame.layout = game.layout := by
    rw [← lighter]
    exact layout_updateItemWeight _ _ _ _
  have hung := reparented_setItem lighterGame ptr none
  have contents := contents_setParent lighterGame ptr none
  have list := congrFun contents (.item container)
  have old := congrFun (congrArg Layout.contents same) (.item container)
  rw [← same, layout_setItemlist]
  exact
    { toReparented := ⟨⟨hung.id, hung.kind, hung.count, hung.maxSize, hung.next, hung.mapped⟩, hung.parent⟩
      here := by
        simp only [if_pos]
        change ((lighterGame.items container).itemlist).Perm _
        rw [show ((lighterGame.setItem ptr ((lighterGame.items ptr).setParent none)).items
          container).itemlist = (lighterGame.items container).itemlist from list]
        rw [show (lighterGame.items container).itemlist = (game.items container).itemlist from old]
        exact perm_cons_erase member
      elsewhere := by
        intro other different
        simp only [if_neg different, contents]
        rfl
      inventory := fun _ _ => .inl rfl
      layers := fun _ _ => List.Sublist.refl _
      receives := fun _ there => there }

theorem containerRemoveThing_recount (member : ptr ∈ (game.items container).itemlist)
    (part : (game.items ptr).isStackable env.items ∧ size ≠ (game.items ptr).count) :
    Recount game.layout (game.containerRemoveThing env container ptr size).layout ptr
      (rest (game.items ptr).count size) := by
  have inside := indexIn_ne_iff.mpr member
  unfold containerRemoveThing
  simp only [if_neg inside, if_pos part, layout_updateItemWeight]
  have after := recount_setItemCount game ptr (rest (game.items ptr).count size)
  rwa [rest, toUInt8_toUInt8] at after

theorem containerUpdateThing_recount (member : ptr ∈ (game.items container).itemlist)
    (stackable : (game.items ptr).isStackable env.items = true) :
    Recount game.layout (game.containerUpdateThing env container ptr (game.items ptr).id size).layout
      ptr (toUInt8 (toUInt16 size)) := by
  have inside := indexIn_ne_iff.mpr member
  obtain ⟨attributes, frame⟩ := Item.updated_stack env.items (env.normalRandom ptr) (game.items ptr)
    (toUInt16 size) stackable
  unfold containerUpdateThing
  simp only [if_neg inside, layout_updateItemWeight, frame]
  exact recount_setItem game rfl rfl rfl rfl rfl

end

section
variable (env : Env) (game : Game) (id : PlayerId) {ptr : ItemPtr} {size : Nat}

/-- One more slot in use. -/
theorem filterMap_slot {slotList : List Nat} (nodup : slotList.Nodup) {slot : Nat}
    (listed : slot ∈ slotList) (inventory : Nat → Option ItemPtr) (empty : inventory slot = none)
    (ptr : ItemPtr) :
    (slotList.filterMap (fun other => if other = slot then some ptr else inventory other)).Perm
      (ptr :: slotList.filterMap inventory) := by
  obtain ⟨front, back, split⟩ := append_of_mem listed
  subst split
  have apart := nodup_append.mp nodup
  have front_ne : ∀ other ∈ front, other ≠ slot := fun other left same =>
    apart.2.2 other left slot mem_cons_self same
  have back_ne : ∀ other ∈ back, other ≠ slot := fun other right same =>
    (nodup_cons.mp apart.2.1).1 (same ▸ right)
  have same : ∀ part : List Nat, (∀ other ∈ part, other ≠ slot) →
      part.filterMap (fun other => if other = slot then some ptr else inventory other) =
        part.filterMap inventory :=
    fun part different => filterMap_congr (fun other there => if_neg (different other there))
  simp only [filterMap_append, filterMap_cons, if_pos, empty, same front front_ne,
    same back back_ne]
  exact perm_middle

theorem slots_nodup : slots.Nodup := by decide

theorem mem_slots {slot : Nat} : slot ∈ slots ↔ 1 ≤ slot ∧ slot ≤ 10 := by
  simp [slots, mem_range'_1]
  omega

/-- The layout after a player has changed. -/
theorem layout_setPlayer (player : Player) :
    (game.setPlayer id player).layout = { game.layout with
      contents := fun cylinder =>
        if cylinder = .player id then slots.filterMap player.inventory else game.contents cylinder
      inventory := fun owner =>
        if owner = id then player.inventory else game.layout.inventory owner } := by
  have contents : (game.setPlayer id player).contents = fun cylinder =>
      if cylinder = .player id then slots.filterMap player.inventory else game.contents cylinder := by
    funext cylinder
    exact contents_setPlayer game id player cylinder
  have inventory : (game.setPlayer id player).layout.inventory = fun owner =>
      if owner = id then player.inventory else game.layout.inventory owner := by
    funext owner
    by_cases here : owner = id
    · simp [layout, setPlayer, here]
    · simp [layout, setPlayer, here]
  rw [← contents, ← inventory]
  rfl

theorem playerAddThing_put {slot : Nat} (listed : slot ∈ slots)
    (empty : (game.players id).inventory slot = none) :
    Put env.items game.layout (game.playerAddThing id slot ptr).layout (.player id) ptr := by
  have range := mem_slots.mp listed
  have inside : ¬ ((slot : Int) < 1 ∨ (slot : Int) > 10) := by omega
  have hung := reparented_setItem game ptr (some (.player id))
  have contents := contents_setParent game ptr (some (.player id))
  unfold playerAddThing
  rw [if_neg inside, layout_setPlayer]
  exact
    { toReparented := ⟨⟨hung.id, hung.kind, hung.count, hung.maxSize, hung.next, hung.mapped⟩, hung.parent⟩
      here := by
        simp only [if_pos, Int.toNat_natCast]
        exact filterMap_slot slots_nodup listed _ empty ptr
      elsewhere := by
        intro other different
        simp only [if_neg different, contents]
        rfl
      inventory := by
        intro owner different
        have other : owner ≠ id := fun same => different (same ▸ rfl)
        simp only [if_neg other]
        rfl
      layers := fun _ _ _ there => .inl there
      receives := fun _ there => .inl there }

/-- The slot that `getThingIndex` finds. -/
theorem playerThingIndex_slot (inside : game.playerThingIndex id ptr ≠ -1) :
    ∃ slot ∈ slots, game.playerThingIndex id ptr = slot ∧ (game.players id).inventory slot = some ptr := by
  unfold playerThingIndex at inside ⊢
  cases found : slots.find? (fun slot => (game.players id).inventory slot = some ptr) with
  | none => simp [found] at inside
  | some slot =>
    refine ⟨slot, mem_of_find?_eq_some found, rfl, ?_⟩
    simpa using find?_some found

theorem playerThingIndex_ne_iff :
    game.playerThingIndex id ptr ≠ -1 ↔ ptr ∈ game.contents (.player id) := by
  constructor
  · intro inside
    obtain ⟨slot, listed, _, here⟩ := playerThingIndex_slot game id inside
    exact mem_filterMap.mpr ⟨slot, listed, here⟩
  · intro member
    obtain ⟨slot, listed, here⟩ := mem_filterMap.mp member
    unfold playerThingIndex
    cases found : slots.find? (fun slot => (game.players id).inventory slot = some ptr) with
    | none => exact absurd here (by simpa using find?_eq_none.mp found slot listed)
    | some other =>
      simp only
      omega

theorem playerRemoveThing_take (inside : game.playerThingIndex id ptr ≠ -1)
    (whole : ¬ ((game.items ptr).isStackable env.items ∧ size ≠ (game.items ptr).count)) :
    Take game.layout (game.playerRemoveThing env id ptr size).layout (.player id) ptr := by
  obtain ⟨slot, listed, index, here⟩ := playerThingIndex_slot game id inside
  have hung := reparented_setItem game ptr none
  have contents := contents_setParent game ptr none
  unfold playerRemoveThing
  simp only [if_neg inside, if_neg whole]
  rw [layout_setPlayer]
  exact
    { toReparented := ⟨⟨hung.id, hung.kind, hung.count, hung.maxSize, hung.next, hung.mapped⟩, hung.parent⟩
      here := by
        simp only [if_pos, index, Int.toNat_natCast]
        have back := filterMap_slot slots_nodup listed
          (fun other => if other = slot then none else (game.players id).inventory other) (if_pos rfl) ptr
        have same : (fun other => if other = slot then some ptr
            else if other = slot then none else (game.players id).inventory other) =
              (game.players id).inventory := by
          funext other
          by_cases here' : other = slot
          · simp [here', here]
          · simp [here']
        rw [same] at back
        exact back
      elsewhere := by
        intro other different
        simp only [if_neg different, contents]
        rfl
      inventory := by
        intro owner other
        by_cases self : owner = id
        · subst self
          simp only [if_pos]
          split
          · exact .inr rfl
          · exact .inl rfl
        · simp only [if_neg self]
          exact .inl rfl
      layers := fun _ _ => List.Sublist.refl _
      receives := fun _ there => there }

theorem playerRemoveThing_recount (inside : game.playerThingIndex id ptr ≠ -1)
    (part : (game.items ptr).isStackable env.items ∧ size ≠ (game.items ptr).count) :
    Recount game.layout (game.playerRemoveThing env id ptr size).layout ptr
      (rest (game.items ptr).count size) := by
  unfold playerRemoveThing
  simp only [if_neg inside, if_pos part]
  have after := recount_setItemCount game ptr (rest (game.items ptr).count size)
  rwa [rest, toUInt8_toUInt8] at after

theorem playerUpdateThing_recount (inside : game.playerThingIndex id ptr ≠ -1)
    (stackable : (game.items ptr).isStackable env.items = true) :
    Recount game.layout (game.playerUpdateThing env id ptr (game.items ptr).id size).layout ptr
      (toUInt8 (toUInt16 size)) := by
  obtain ⟨attributes, frame⟩ := Item.updated_stack env.items (env.normalRandom ptr) (game.items ptr)
    (toUInt16 size) stackable
  unfold playerUpdateThing
  simp only [if_neg inside, frame]
  exact recount_setItem game rfl rfl rfl rfl rfl

end

end Styller.Game
