import Styller.Money.Coins
import Styller.Player.ItemTypeCount

/-! What a player carries, as the forest below the inventory, and what one removal leaves of it. -/

namespace Styller.Game

open Library Layout List

section
variable {env : Env} {game : Game} {id : PlayerId} {ptr other : ItemPtr}

def held (game : Game) (ptr : ItemPtr) : List ItemPtr := (game.items ptr).itemlist

def LiesIn (game : Game) (top ptr : ItemPtr) : Prop := Reaches game.held [top] ptr

/-- An item of the inventory, or in one. -/
def Carried (game : Game) (id : PlayerId) (ptr : ItemPtr) : Prop := Reaches game.held (game.contents (.player id)) ptr

/-- The containers that the iterator comes to from one. -/
def filled (game : Game) (ptr : ItemPtr) : List ItemPtr :=
  (game.items ptr).itemlist.filter fun other => (game.items other).isContainer && !(game.items other).itemlist.isEmpty

theorem nestedItems_eq {fuel : Nat} {queue order : List ItemPtr} (found : visit game.filled fuel queue = some order) :
    game.nestedItems fuel queue = order.flatMap game.held := by
  induction fuel generalizing queue order with
  | zero =>
    cases queue with
    | nil =>
      cases found
      rfl
    | cons container queue => cases found
  | succ fuel ih =>
    cases queue with
    | nil =>
      cases found
      rfl
    | cons container queue =>
      obtain ⟨rest, later, same⟩ := Option.map_eq_some_iff.mp found
      rw [← same, flatMap_cons, ← ih later]
      rfl

variable (sound : game.layout.Sound env.items)
include sound

theorem rooted_carried : Rooted game.held (game.contents (.player id)) where
  single := by
    intro node first second inFirst inSecond
    have left := sound.parent (.item first) node inFirst
    have right := sound.parent (.item second) node inSecond
    exact Cylinder.item.inj (Option.some.inj (left.symm.trans right))
  outer := by
    intro root listed node inside
    have top := sound.parent (.player id) root listed
    have inner := sound.parent (.item node) root inside
    cases top.symm.trans inner

/-- Only containers hold something. -/
theorem isContainer_of_held (inside : other ∈ game.held ptr) : (game.items ptr).isContainer = true :=
  sound.live (.item ptr) other inside ptr rfl

theorem held_eq_nil (plain : (game.items ptr).isContainer = false) : game.held ptr = [] := by
  apply eq_nil_iff_forall_not_mem.mpr
  intro other inside
  rw [isContainer_of_held sound inside] at plain
  cases plain

/-- A filled item that is found is found over filled items. -/
theorem reaches_filled (reached : game.LiesIn ptr other) (some : game.held other ≠ []) : Reaches game.filled [ptr] other := by
  induction reached with
  | root listed => exact .root listed
  | @part node child _ member ih =>
    refine .part (ih (ne_nil_of_mem member)) ?_
    obtain ⟨inner, inside⟩ := exists_mem_of_ne_nil _ some
    have container := isContainer_of_held sound inside
    have full : (game.items child).itemlist.isEmpty = false := isEmpty_eq_false_iff.mpr some
    apply mem_filter.mpr
    rw [container, full]
    exact ⟨member, rfl⟩

omit sound in
theorem within_of_filled (reached : Reaches game.filled [ptr] other) : game.LiesIn ptr other := by
  induction reached with
  | root listed => exact .root listed
  | part _ member ih => exact .part ih (mem_of_mem_filter member)

theorem carried_lt (carried : game.Carried id ptr) : ptr < game.next := by
  cases carried with
  | root listed => exact sound.allocated (.player id) ptr listed
  | part _ member => exact sound.allocated (.item _) ptr member

theorem forest_filled (carried : game.Carried id ptr) : Forest game.filled [ptr] := by
  have rooted : Rooted game.held (game.contents (.player id)) := rooted_carried sound
  constructor
  · exact nodup_singleton ptr
  · exact fun node => (sound.nodup (.item node)).filter _
  · intro node first second inFirst inSecond
    exact rooted.single node first second (mem_of_mem_filter inFirst) (mem_of_mem_filter inSecond)
  · intro root listed node reached member
    have same := mem_singleton.mp listed
    subst same
    exact rooted.acyclic carried (within_of_filled reached) (mem_of_mem_filter member)

/-- The iterator visits every item in a carried one, and no item twice. -/
theorem iterate_carried (carried : game.Carried id ptr) :
    (game.iterate ptr).Nodup ∧ ∀ other, other ∈ game.iterate ptr ↔ ∃ parent, game.LiesIn ptr parent ∧ other ∈ game.held parent := by
  have forest := forest_filled sound carried
  have inside : ∀ node, Reaches game.filled [ptr] node → node ∈ Finset.range game.next := by
    intro node reached
    have carried := (within_of_filled reached).of_one carried
    exact Finset.mem_range.mpr (carried_lt sound carried)
  obtain ⟨order, found, nodup, reached⟩ := visit_some forest (Finset.range game.next) inside forest.start
    (by rw [Finset.card_range]; exact Nat.le_succ _ : (Finset.range game.next).card ≤ game.next + 1 + 0)
  have list : game.iterate ptr = order.flatMap game.held := nestedItems_eq found
  rw [list]
  constructor
  · apply nodup_flatMap.mpr
    refine ⟨fun container _ => sound.nodup (.item container), nodup.imp ?_⟩
    intro first second different other inFirst inSecond
    exact different ((@rooted_carried env game id sound).single other first second inFirst inSecond)
  · intro other
    rw [mem_flatMap]
    constructor
    · intro ⟨parent, listed, member⟩
      exact ⟨parent, within_of_filled (reached parent listed), member⟩
    · intro ⟨parent, within, member⟩
      have there := reaches_filled sound within (ne_nil_of_mem member)
      exact ⟨parent, mem_of_reaches there found, member⟩

theorem mem_iterate (carried : game.Carried id ptr) : other = ptr ∨ other ∈ game.iterate ptr ↔ game.LiesIn ptr other := by
  rw [(iterate_carried sound carried).2]
  exact reaches_one_iff.symm

/-- An item that is carried is not in itself. -/
theorem not_mem_iterate (carried : game.Carried id ptr) : ptr ∉ game.iterate ptr := by
  intro inside
  obtain ⟨parent, within, member⟩ := ((iterate_carried sound carried).2 ptr).mp inside
  exact (rooted_carried sound).acyclic carried within member

/-- Behind an item of the inventory comes what is in it, if it is a container or not. -/
theorem inventoryItems_eq : game.inventoryItems id = (game.contents (.player id)).flatMap fun ptr => ptr :: game.iterate ptr := by
  apply flatMap_congr
  intro ptr _
  by_cases container : (game.items ptr).isContainer = true
  · rw [if_pos container]
  · have empty : (game.items ptr).itemlist = [] := held_eq_nil sound (Bool.eq_false_iff.mpr container)
    rw [if_neg container]
    unfold iterate nestedItems
    rw [empty]
    cases game.next with
    | zero => rfl
    | succ next => rfl

theorem mem_inventoryItems : ptr ∈ game.inventoryItems id ↔ game.Carried id ptr := by
  rw [inventoryItems_eq sound, mem_flatMap]
  constructor
  · intro ⟨top, listed, member⟩
    have carried : game.Carried id top := .root listed
    exact ((mem_iterate sound carried).mp (mem_cons.mp member)).of_one carried
  · intro carried
    obtain ⟨top, listed, within⟩ := carried.from_root
    exact ⟨top, listed, mem_cons.mpr ((mem_iterate sound (.root listed)).mpr within)⟩

theorem mem_itemsOfType {itemId : Nat} : ptr ∈ game.itemsOfType id itemId ↔ game.Carried id ptr ∧ (game.items ptr).id = itemId := by
  unfold itemsOfType
  rw [mem_filter, mem_inventoryItems sound, decide_eq_true_iff]

/-- No carried item is listed twice. -/
theorem inventoryItems_nodup : (game.inventoryItems id).Nodup := by
  rw [inventoryItems_eq sound]
  apply nodup_flatMap.mpr
  constructor
  · intro top listed
    exact nodup_cons.mpr ⟨not_mem_iterate sound (.root listed), (iterate_carried sound (.root listed)).1⟩
  · apply (sound.nodup (.player id)).imp_of_mem
    intro first second inFirst inSecond different other left right
    have one := (mem_iterate sound (.root inFirst)).mp (mem_cons.mp left)
    have two := (mem_iterate sound (.root inSecond)).mp (mem_cons.mp right)
    exact different ((rooted_carried sound).unique inFirst inSecond one two)

theorem itemsOfType_nodup {itemId : Nat} : (game.itemsOfType id itemId).Nodup := (inventoryItems_nodup sound).filter _

omit sound in
/-- A carried item is in a player or in an item. -/
theorem Carried.cylinder (carried : game.Carried id ptr) :
    ∃ cylinder, ptr ∈ game.contents cylinder ∧ ∀ pos, cylinder ≠ .tile pos := by
  cases carried with
  | root listed => exact ⟨.player id, listed, fun _ => Cylinder.noConfusion⟩
  | @part node _ _ member => exact ⟨.item node, member, fun _ => Cylinder.noConfusion⟩

end

section

/-- A part of the items that a removal leaves as it is. -/
structure Inert {Value : Type} (get : Item → Value) : Prop where
  parent : ∀ (item : Item) parent, get (item.setParent parent) = get item
  itemlist : ∀ (item : Item) itemlist, get { item with itemlist } = get item
  totalWeight : ∀ (item : Item) totalWeight, get { item with totalWeight } = get item
  count : ∀ (item : Item) count, get (item.setItemCount count) = get item

variable {Value : Type} {get : Item → Value} (env : Env) (game : Game)

theorem get_setItem {ptr : ItemPtr} {item : Item} (same : get item = get (game.items ptr)) (other : ItemPtr) :
    get ((game.setItem ptr item).items other) = get (game.items other) :=
  congrFun (map_setItem_same get game same) other

variable (inert : Inert get)
include inert

theorem Inert.updateItemWeight (fuel : Nat) (container : ItemPtr) (diff : Int) (other : ItemPtr) :
    get ((Game.updateItemWeight fuel game container diff).items other) = get (game.items other) := by
  induction fuel generalizing game container with
  | zero => rfl
  | succ fuel ih =>
    have first := get_setItem game (inert.totalWeight (game.items container) (toUInt32 ((game.items container).totalWeight + diff))) other
    unfold Game.updateItemWeight
    dsimp only
    split
    · split
      · exact (ih _ _).trans first
      · exact first
    · exact first

theorem Inert.removeThing (cylinder : Cylinder) (ptr : ItemPtr) (count : Nat) (other : ItemPtr) :
    get ((game.removeThing env cylinder ptr count).items other) = get (game.items other) := by
  have parent := get_setItem game (inert.parent (game.items ptr) none) other
  have fewer := fun n => get_setItem game (inert.count (game.items ptr) n) other
  cases cylinder with
  | player id =>
    unfold Game.removeThing playerRemoveThing
    dsimp only
    split
    · rfl
    · split
      · exact fewer _
      · exact parent
  | tile pos =>
    unfold Game.removeThing
    dsimp only
    split
    · unfold tileRemoveThing
      dsimp only
      split
      · rfl
      · split
        · exact parent
        · split
          · exact parent
          · split
            · exact fewer _
            · exact parent
    · rfl
  | item holder =>
    unfold Game.removeThing
    dsimp only
    split
    · unfold containerRemoveThing
      dsimp only
      split
      · rfl
      · split
        · exact (inert.updateItemWeight _ _ _ _ _).trans (fewer _)
        · refine (get_setItem _ (inert.itemlist _ _) _).trans ?_
          refine (get_setItem _ (inert.parent _ _) _).trans ?_
          exact inert.updateItemWeight _ _ _ _ _
    · rfl

omit inert in
/-- The notifications change no item. -/
theorem items_notify (fuel : Nat) (cylinder : Cylinder) (link : CylinderLink) :
    (notify env fuel game cylinder link).items = game.items := by
  rcases notify_cases env game fuel cylinder link with same | ⟨id, weighed⟩
  · rw [same]
  · rw [weighed]
    unfold updateInventoryWeight
    dsimp only
    split
    · rfl
    · rfl

theorem Inert.internalRemoveItem (ptr : ItemPtr) (count : Int) (test : Bool) (flags : CylinderFlags) (other : ItemPtr) :
    get ((game.internalRemoveItem env ptr count test flags).2.items other) = get (game.items other) := by
  rcases internalRemoveItem_cases env game ptr count test flags with same | ⟨cylinder, size, _, _, taken⟩
  · rw [same]
  · rw [taken]
    unfold postRemoveNotification
    rw [items_notify]
    exact inert.removeThing env game cylinder ptr size other

end

section

/-- The test in `internalRemoveItem`: `Item::canRemove`. -/
def removable (item : Item) : Bool :=
  item.kind ≠ .depotLocker && item.kind ≠ .depotChest && !(item.kind = .bed && item.bedInHouse)

variable {env : Env} {game : Game} {cylinder : Cylinder} {ptr : ItemPtr}

theorem thingIndex_indoors (member : ptr ∈ game.contents cylinder) (indoors : ∀ pos, cylinder ≠ .tile pos) :
    game.getThingIndex env cylinder ptr ≠ -1 := by
  cases cylinder with
  | player owner => exact (playerThingIndex_ne_iff game owner).mpr member
  | tile pos => exact absurd rfl (indoors pos)
  | item holder => exact indexIn_ne_iff.mpr member

theorem internalRemoveItem_whole (sound : game.layout.Sound env.items) (member : ptr ∈ game.contents cylinder)
    (indoors : ∀ pos, cylinder ≠ .tile pos) (some : (game.items ptr).count ≠ 0) :
    if removable (game.items ptr) then
      Take game.layout (game.internalRemoveItem env ptr (-1) false CylinderFlags.none).2.layout cylinder ptr
    else (game.internalRemoveItem env ptr (-1) false CylinderFlags.none).2 = game := by
  have parent : (game.items ptr).parent = Option.some cylinder := sound.parent cylinder ptr member
  have small : (game.items ptr).count < 256 := sound.small ptr
  have size : toUInt32 (game.items ptr).count = (game.items ptr).count := by
    unfold toUInt32
    omega
  have allowed : game.queryRemove env cylinder ptr (game.items ptr).count
      { CylinderFlags.none with ignoreNotMoveable := true } none = .noError :=
    queryRemove_inside sound (thingIndex_indoors member indoors) (Nat.pos_of_ne_zero some) (Nat.le_refl _) rfl
  have whole : ¬ ((game.items ptr).isStackable env.items = true ∧ (game.items ptr).count ≠ (game.items ptr).count) :=
    fun part => part.2 rfl
  have take := removeThing_take env game sound (thingIndex_indoors member indoors) (game.items ptr).count whole
  by_cases can : removable (game.items ptr) = true
  · rw [if_pos can]
    unfold removable at can
    unfold internalRemoveItem
    simp only [parent, if_true, size, allowed, ne_eq, not_true_eq_false, if_false, can, Bool.false_eq_true]
    rw [layout_postRemoveNotification]
    exact take
  · rw [if_neg can]
    have kept := Bool.eq_false_iff.mpr can
    unfold removable at kept
    unfold internalRemoveItem
    simp only [parent, if_true, size, allowed, ne_eq, not_true_eq_false, if_false, kept, Bool.false_eq_true, not_false_eq_true]

/-- `internalRemoveItem` of a part of a stack. -/
theorem internalRemoveItem_part (sound : game.layout.Sound env.items) (member : ptr ∈ game.contents cylinder)
    (indoors : ∀ pos, cylinder ≠ .tile pos) (stackable : (game.items ptr).isStackable env.items = true) {count : Nat}
    (positive : 0 < count) (less : count < (game.items ptr).count) :
    Recount game.layout (game.internalRemoveItem env ptr count false CylinderFlags.none).2.layout ptr
      ((game.items ptr).count - count) := by
  have parent : (game.items ptr).parent = Option.some cylinder := sound.parent cylinder ptr member
  have small : (game.items ptr).count < 256 := sound.small ptr
  have size : toUInt32 (if (count : Int) = -1 then ((game.items ptr).count : Int) else count) = count := by
    rw [if_neg (by omega), toUInt32]
    omega
  have allowed : game.queryRemove env cylinder ptr count { CylinderFlags.none with ignoreNotMoveable := true } none = .noError :=
    queryRemove_inside sound (thingIndex_indoors member indoors) positive (Nat.le_of_lt less) rfl
  have kept : removable (game.items ptr) = true := by
    have plain : (game.items ptr).kind = .item := sound.plain ptr stackable
    unfold removable
    rw [plain]
    rfl
  have recount := removeThing_recount env game sound (thingIndex_indoors member indoors) count ⟨stackable, Nat.ne_of_lt less⟩
  rw [rest_eq (Nat.le_of_lt less) small] at recount
  unfold removable at kept
  unfold internalRemoveItem
  simp only [parent, size, allowed, ne_eq, not_true_eq_false, if_false, kept, Bool.false_eq_true]
  rw [layout_postRemoveNotification]
  exact recount

theorem internalRemoveItem_none (sound : game.layout.Sound env.items) (member : ptr ∈ game.contents cylinder)
    (indoors : ∀ pos, cylinder ≠ .tile pos) :
    (game.internalRemoveItem env ptr (0 : Nat) false CylinderFlags.none).2 = game := by
  have parent : (game.items ptr).parent = Option.some cylinder := sound.parent cylinder ptr member
  have own : ∀ index flags, itemQueryRemove env game index ptr 0 flags ≠ .noError := by
    intro index flags
    unfold itemQueryRemove
    simp only [true_or, if_true]
    split
    · exact ReturnValue.noConfusion
    · exact ReturnValue.noConfusion
  have refused : ∀ flags, game.queryRemove env cylinder ptr 0 flags none ≠ .noError := by
    intro flags
    cases cylinder with
    | player owner => exact own _ flags
    | tile pos => exact absurd rfl (indoors pos)
    | item holder =>
      have container : (game.items holder).isContainer = true := sound.live (.item holder) ptr member holder rfl
      unfold queryRemove containerQueryRemove
      simp only [if_pos container, if_pos (own _ flags)]
      exact own _ flags
  have size : toUInt32 (if ((0 : Nat) : Int) = -1 then ((game.items ptr).count : Int) else (0 : Nat)) = 0 := rfl
  unfold internalRemoveItem
  simp only [parent, size, if_pos (refused _)]

end

section

/-- What decides how an item counts and whether it may be removed. -/
def nature (item : Item) : Nat × Option ItemAttributes × ItemClass × Bool :=
  (item.id, item.attributes, item.kind, item.bedInHouse)

theorem inert_nature : Inert nature := ⟨fun _ _ => rfl, fun _ _ => rfl, fun _ _ => rfl, fun _ _ => rfl⟩

/-- Some items have been taken out, and all are what they were. -/
structure Pruned (env : Env) (before after : Game) (cut : ItemPtr → Prop) : Prop where
  sound : after.layout.Sound env.items
  nature : ∀ ptr, nature (after.items ptr) = nature (before.items ptr)
  count : ∀ ptr, (after.items ptr).count = (before.items ptr).count
  contents : ∀ cylinder ptr, ptr ∈ after.contents cylinder ↔ ptr ∈ before.contents cylinder ∧ ¬ cut ptr

variable {env : Env} {before after : Game} {id : PlayerId} {ptr : ItemPtr} {cut : ItemPtr → Prop}

theorem removable_of_nature {one other : Item} (same : nature one = nature other) : removable one = removable other := by
  unfold nature at same
  obtain ⟨_, _, kind, bed⟩ : _ ∧ _ ∧ one.kind = other.kind ∧ one.bedInHouse = other.bedInHouse := by
    simpa only [Prod.mk.injEq] using same
  unfold removable
  rw [kind, bed]

theorem countByType_of_nature {one other : Item} (same : nature one = nature other) (count : one.count = other.count)
    (items : ItemTypes) (subType : Int) : one.countByType items subType = other.countByType items subType := by
  unfold nature at same
  obtain ⟨id, attributes, _⟩ : one.id = other.id ∧ one.attributes = other.attributes ∧ _ := by
    simpa only [Prod.mk.injEq] using same
  unfold Item.countByType Item.getSubType Item.getIntAttr
  rw [id, attributes, count]

theorem Pruned.refl (sound : before.layout.Sound env.items) : Pruned env before before fun _ => False where
  sound := sound
  nature := fun _ => rfl
  count := fun _ => rfl
  contents := fun _ _ => (and_iff_left not_false).symm

/-- Where the contents stay, the same is carried. -/
theorem itemsOfType_perm {itemId : Nat} (soundBefore : before.layout.Sound env.items) (sound : after.layout.Sound env.items)
    (contents : after.contents = before.contents) (id_eq : ∀ ptr, (after.items ptr).id = (before.items ptr).id) :
    (after.itemsOfType id itemId).Perm (before.itemsOfType id itemId) := by
  apply (perm_ext_iff_of_nodup (itemsOfType_nodup sound) (itemsOfType_nodup soundBefore)).mpr
  intro ptr
  have held : after.held = before.held := by
    funext holder
    exact congrFun contents (.item holder)
  rw [mem_itemsOfType sound, mem_itemsOfType soundBefore, id_eq]
  unfold Carried
  rw [held, contents]

/-- One more item is taken out, if it may be removed. -/
theorem Pruned.remove (pruned : Pruned env before after cut) (carried : before.Carried id ptr) (uncut : ¬ cut ptr)
    (some : (before.items ptr).count ≠ 0) :
    Pruned env before (after.internalRemoveItem env ptr (-1) false CylinderFlags.none).2
      fun other => cut other ∨ other = ptr ∧ removable (before.items ptr) = true := by
  obtain ⟨cylinder, member, indoors⟩ := carried.cylinder
  have member : ptr ∈ after.contents cylinder := (pruned.contents cylinder ptr).mpr ⟨member, uncut⟩
  have whole := internalRemoveItem_whole pruned.sound member indoors (pruned.count ptr ▸ some)
  rw [removable_of_nature (pruned.nature ptr)] at whole
  by_cases can : removable (before.items ptr) = true
  · rw [if_pos can] at whole
    constructor
    · exact pruned.sound.take whole
    · intro other
      exact (inert_nature.internalRemoveItem env after _ _ _ _ other).trans (pruned.nature other)
    · intro other
      exact (congrFun whole.count other).trans (pruned.count other)
    · intro holder other
      by_cases same : other = ptr
      · subst same
        exact iff_of_false (whole.unheld pruned.sound holder) fun there => there.2 (.inr ⟨rfl, can⟩)
      · have kept : other ∈ after.contents holder ↔ _ := whole.mem_iff
        rw [or_iff_right fun both => same both.2, pruned.contents] at kept
        rw [or_iff_left fun both => same both.1]
        exact kept.symm
  · rw [if_neg can] at whole
    rw [whole]
    refine ⟨pruned.sound, pruned.nature, pruned.count, ?_⟩
    intro holder other
    rw [pruned.contents, or_iff_left fun both => can both.2]

/-- The items of a list are taken out, as far as they may be removed. -/
theorem Pruned.removeItems {amount : Nat} (list : List ItemPtr) (nodup : list.Nodup) (pruned : Pruned env before after cut)
    (carried : ∀ item ∈ list, before.Carried id item ∧ ¬ cut item ∧ (before.items item).count ≠ 0) :
    Pruned env before (internalRemoveItems env false list amount after)
      fun other => cut other ∨ other ∈ list ∧ removable (before.items other) = true := by
  induction list generalizing after cut with
  | nil =>
    have same : (fun other => cut other ∨ other ∈ ([] : List ItemPtr) ∧ removable (before.items other) = true) = cut := by
      funext other
      exact propext (or_iff_left fun both => not_mem_nil both.1)
    rw [same]
    exact pruned
  | cons item list ih =>
    obtain ⟨fresh, distinct⟩ := nodup_cons.mp nodup
    obtain ⟨here, uncut, some⟩ := carried item mem_cons_self
    have next := pruned.remove here uncut some
    have result := ih distinct next (by
      intro other listed
      obtain ⟨there, uncut, some⟩ := carried other (mem_cons_of_mem _ listed)
      refine ⟨there, ?_, some⟩
      intro either
      rcases either with cutOther | ⟨same, _⟩
      · exact uncut cutOther
      · exact fresh (same ▸ listed))
    have same : (fun other => cut other ∨ other ∈ item :: list ∧ removable (before.items other) = true) =
        fun other => (cut other ∨ other = item ∧ removable (before.items item) = true) ∨
          other ∈ list ∧ removable (before.items other) = true := by
      funext other
      apply propext
      rw [mem_cons, or_and_right, or_assoc]
      constructor
      · intro either
        rcases either with cutOther | ⟨same, can⟩ | later
        · exact .inl cutOther
        · exact .inr (.inl ⟨same, same ▸ can⟩)
        · exact .inr (.inr later)
      · intro either
        rcases either with cutOther | ⟨same, can⟩ | later
        · exact .inl cutOther
        · exact .inr (.inl ⟨same, same.symm ▸ can⟩)
        · exact .inr (.inr later)
    rw [same]
    exact result

/-- What is still carried is what is not in an item that was taken out. -/
theorem Pruned.carried (sound : before.layout.Sound env.items) (pruned : Pruned env before after cut) :
    after.Carried id ptr ↔ before.Carried id ptr ∧ ∀ top, cut top → ¬ before.LiesIn top ptr :=
  (rooted_carried sound).pruned (fun node child => pruned.contents (.item node) child) (pruned.contents (.player id))

theorem Pruned.total {itemId : Nat} {subType : Int} (sound : before.layout.Sound env.items) (pruned : Pruned env before after cut)
    (gone : ItemPtr → Bool) (gone_iff : ∀ ptr, before.Carried id ptr → (gone ptr = true ↔ ∃ top, cut top ∧ before.LiesIn top ptr)) :
    after.typeCount env subType (after.itemsOfType id itemId) +
        before.typeCount env subType ((before.itemsOfType id itemId).filter gone) =
      before.typeCount env subType (before.itemsOfType id itemId) := by
  have left : (after.itemsOfType id itemId).Perm ((before.itemsOfType id itemId).filter fun ptr => !gone ptr) := by
    apply (perm_ext_iff_of_nodup (itemsOfType_nodup pruned.sound) ((itemsOfType_nodup sound).filter _)).mpr
    intro ptr
    have id : (after.items ptr).id = (before.items ptr).id := congrArg Prod.fst (pruned.nature ptr)
    rw [mem_itemsOfType pruned.sound, mem_filter, mem_itemsOfType sound, pruned.carried sound, id]
    constructor
    · intro ⟨⟨carried, free⟩, type⟩
      have stays : gone ptr = false := by
        apply Bool.eq_false_iff.mpr
        intro lost
        obtain ⟨top, cutTop, inside⟩ := (gone_iff ptr carried).mp lost
        exact free top cutTop inside
      rw [stays]
      exact ⟨⟨carried, type⟩, rfl⟩
    · intro ⟨⟨carried, type⟩, left⟩
      refine ⟨⟨carried, ?_⟩, type⟩
      intro top cutTop inside
      have lost := (gone_iff ptr carried).mpr ⟨top, cutTop, inside⟩
      rw [lost] at left
      cases left
  have same : after.typeCount env subType (after.itemsOfType id itemId) =
      before.typeCount env subType ((before.itemsOfType id itemId).filter fun ptr => !gone ptr) := by
    unfold typeCount
    rw [← (left.map _).sum_eq]
    congr 1
    apply map_congr_left
    intro ptr _
    exact countByType_of_nature (pruned.nature ptr) (pruned.count ptr) env.items subType
  have parts := (filter_append_perm gone (before.itemsOfType id itemId)).map fun ptr =>
    (before.items ptr).countByType env.items subType
  rw [same, Nat.add_comm]
  unfold typeCount
  rw [← sum_append, ← map_append]
  exact parts.sum_eq

end

end Styller.Game
