import Styller.Library.Stock
import Styller.World.State

/-! The layout of a game: who holds which item, and what the item operations must
keep about items.  Weights, attributes, flags and decay are not part of it. -/

namespace Styller

open Library Function

/-- The three parts of a tile. -/
inductive Layer where
  | ground
  | top
  | down
  deriving DecidableEq

def layerOf (it : ItemType) : Layer :=
  if it.isGroundTile then .ground else if it.alwaysOnTop then .top else .down

def Tile.layer (tile : Tile) : Layer → List ItemPtr
  | .ground => tile.ground.toList
  | .top => tile.topItems
  | .down => tile.downItems

/-- A teleport, trash holder or mailbox on the tile takes what comes to it. -/
def Tile.receives (tile : Tile) : Bool :=
  tile.hasFlag .teleport || tile.hasFlag .trashHolder || tile.hasFlag .mailbox

def ItemClass.receives (kind : ItemClass) : Bool :=
  kind = .teleport ∨ kind = .trashHolder ∨ kind = .mailbox

/-- What cylinders hold, how players and tiles keep it and whether a tile takes it away
again, and the identity, class, count and parent of every item. -/
structure Layout where
  contents : Cylinder → List ItemPtr
  inventory : PlayerId → Nat → Option ItemPtr
  mapped : Position → Bool
  layers : Position → Layer → List ItemPtr
  receives : Position → Bool
  id : ItemPtr → Nat
  kind : ItemPtr → ItemClass
  count : ItemPtr → Nat
  parent : ItemPtr → Option Cylinder
  maxSize : ItemPtr → Nat
  next : ItemPtr

namespace Game

def layout (game : Game) : Layout where
  contents := game.contents
  inventory := fun owner => (game.players owner).inventory
  mapped := fun pos => (game.tiles pos).isSome
  layers := fun pos layer => ((game.tiles pos).map (·.layer layer)).getD []
  receives := fun pos => ((game.tiles pos).map Tile.receives).getD false
  id := fun ptr => (game.items ptr).id
  kind := fun ptr => (game.items ptr).kind
  count := fun ptr => (game.items ptr).count
  parent := fun ptr => (game.items ptr).parent
  maxSize := fun ptr => (game.items ptr).maxSize
  next := game.next

end Game

namespace Layout

def units (items : ItemTypes) (layout : Layout) (ptr : ItemPtr) : Nat :=
  if (items.get (layout.id ptr)).stackable then layout.count ptr else 1

def stock (items : ItemTypes) (layout : Layout) : Stock Cylinder ItemPtr Nat where
  piles := layout.contents
  kind := layout.id
  size := layout.units items

/-- A player, a tile, or an item that is a container. -/
def Live (layout : Layout) (cylinder : Cylinder) : Prop :=
  ∀ holder, cylinder = .item holder → (layout.kind holder).isContainer = true

/-- What the operations rely on and keep: every item is in one place, which is its
parent, and on a tile in the part its type belongs to; stacks are no larger than their
type allows; only containers hold items, and every container has room for some. -/
structure Sound (items : ItemTypes) (layout : Layout) : Prop where
  nodup : ∀ cylinder, (layout.contents cylinder).Nodup
  parent : ∀ cylinder ptr, ptr ∈ layout.contents cylinder → layout.parent ptr = some cylinder
  allocated : ∀ cylinder ptr, ptr ∈ layout.contents cylinder → ptr < layout.next
  live : ∀ cylinder ptr, ptr ∈ layout.contents cylinder → layout.Live cylinder
  roomy : ∀ ptr, (layout.kind ptr).isContainer = true → ptr < layout.next ∧ 0 < layout.maxSize ptr
  layered : ∀ pos layer ptr, ptr ∈ layout.layers pos layer →
    ptr < layout.next ∧ layer = layerOf (items.get (layout.id ptr))
  small : ∀ ptr, layout.count ptr < 256
  stacked : ∀ cylinder ptr, ptr ∈ layout.contents cylinder →
    (items.get (layout.id ptr)).stackable = true →
      layout.count ptr ≤ (items.get (layout.id ptr)).stackSize
  plain : ∀ ptr, (items.get (layout.id ptr)).stackable = true → layout.kind ptr = .item

/-- Whether `other` in the part of a tile where `ptr` would go gives way to it: a ground
to a ground, a splash to a splash, a magic field to a magic field. -/
def Rival (items : ItemTypes) (layout : Layout) (ptr other : ItemPtr) : Prop :=
  let it := items.get (layout.id ptr)
  match layerOf it with
  | .ground => True
  | .top => it.isSplash = true ∧ (items.get (layout.id other)).isSplash = true
  | .down => it.isMagicField = true ∧ layout.kind other = .magicField

/-- Nothing on the tile gives way to `ptr`. -/
def Unrivalled (items : ItemTypes) (layout : Layout) (pos : Position) (ptr : ItemPtr) : Prop :=
  ∀ other ∈ layout.layers pos (layerOf (items.get (layout.id ptr))), ¬ layout.Rival items ptr other

/-- The cylinder has a place for `addThing` with this index: an empty slot, a tile that
is not full, or an index below the capacity of the container. -/
def Admits (layout : Layout) (cylinder : Cylinder) (index : Int) : Prop :=
  match cylinder with
  | .player owner => ∃ slot ∈ slots, index = slot ∧ layout.inventory owner slot = none
  | .tile pos => layout.mapped pos = true ∧
      (layout.layers pos .down).length + (layout.layers pos .top).length < 0xFFFF
  | .item holder => (layout.kind holder).isContainer = true ∧ index < layout.maxSize holder

/-- Nothing in the cylinder gives way to `ptr`. -/
def Alone (items : ItemTypes) (layout : Layout) (cylinder : Cylinder) (ptr : ItemPtr) : Prop :=
  ∀ pos, cylinder = .tile pos → layout.Unrivalled items pos ptr

/-- No tile that would take away again what comes to it. -/
def Calm (layout : Layout) (cylinder : Cylinder) : Prop :=
  ∀ pos, cylinder = .tile pos → layout.receives pos = false

/-- The same items, wherever they are. -/
structure SameItems (before after : Layout) : Prop where
  id : after.id = before.id
  kind : after.kind = before.kind
  count : after.count = before.count
  maxSize : after.maxSize = before.maxSize
  next : after.next = before.next
  mapped : after.mapped = before.mapped

/-- The same items, and `ptr` has the given parent. -/
structure Reparented (before after : Layout) (ptr : ItemPtr) (cylinder : Option Cylinder) : Prop
    extends SameItems before after where
  parent : after.parent = Function.update before.parent ptr cylinder

/-- `ptr` comes to `cylinder`. -/
structure Put (items : ItemTypes) (before after : Layout) (cylinder : Cylinder) (ptr : ItemPtr) : Prop
    extends Reparented before after ptr (some cylinder) where
  here : (after.contents cylinder).Perm (ptr :: before.contents cylinder)
  elsewhere : ∀ other, other ≠ cylinder → after.contents other = before.contents other
  inventory : ∀ owner, cylinder ≠ .player owner → after.inventory owner = before.inventory owner
  layers : ∀ pos layer other, other ∈ after.layers pos layer → other ∈ before.layers pos layer ∨
    (cylinder = .tile pos ∧ other = ptr ∧ layer = layerOf (items.get (before.id ptr)))
  receives : ∀ pos, after.receives pos = true → before.receives pos = true ∨
    (cylinder = .tile pos ∧ (before.kind ptr).receives = true)

/-- `ptr` leaves `cylinder`. -/
structure Take (before after : Layout) (cylinder : Cylinder) (ptr : ItemPtr) : Prop
    extends Reparented before after ptr none where
  here : (before.contents cylinder).Perm (ptr :: after.contents cylinder)
  elsewhere : ∀ other, other ≠ cylinder → after.contents other = before.contents other
  inventory : ∀ owner slot, after.inventory owner slot = before.inventory owner slot ∨
    after.inventory owner slot = none
  layers : ∀ pos layer, (after.layers pos layer).Sublist (before.layers pos layer)
  receives : ∀ pos, after.receives pos = true → before.receives pos = true

/-- Only the count of `ptr` changes. -/
structure Recount (before after : Layout) (ptr : ItemPtr) (count : Nat) : Prop where
  contents : after.contents = before.contents
  inventory : after.inventory = before.inventory
  mapped : after.mapped = before.mapped
  layers : after.layers = before.layers
  receives : ∀ pos, after.receives pos = true → before.receives pos = true
  parent : after.parent = before.parent
  id : after.id = before.id
  kind : after.kind = before.kind
  maxSize : after.maxSize = before.maxSize
  next : after.next = before.next
  count : after.count = Function.update before.count ptr count

/-- A new item `before.next`, which nobody holds yet. -/
structure Create (before after : Layout) (item : Item) : Prop where
  contents : after.contents = before.contents
  inventory : after.inventory = before.inventory
  mapped : after.mapped = before.mapped
  layers : after.layers = before.layers
  receives : ∀ pos, after.receives pos = true → before.receives pos = true
  parent : after.parent = Function.update before.parent before.next item.parent
  id : after.id = Function.update before.id before.next item.id
  kind : after.kind = Function.update before.kind before.next item.kind
  count : after.count = Function.update before.count before.next item.count
  maxSize : after.maxSize = Function.update before.maxSize before.next item.maxSize
  next : after.next = before.next + 1

/-- A new stack that is counted anew before anything else happens to it. -/
theorem Create.recount {before middle after : Layout} {item : Item} {count : Nat}
    (create : Create before middle item) (recount : Recount middle after before.next count) :
    Create before after { item with count := count } where
  contents := recount.contents.trans create.contents
  inventory := recount.inventory.trans create.inventory
  mapped := recount.mapped.trans create.mapped
  layers := recount.layers.trans create.layers
  receives := fun pos there => create.receives pos (recount.receives pos there)
  parent := recount.parent.trans create.parent
  id := recount.id.trans create.id
  kind := recount.kind.trans create.kind
  count := by
    rw [recount.count, create.count, update_idem]
  maxSize := recount.maxSize.trans create.maxSize
  next := recount.next.trans create.next

/-- Every cylinder has as much room as before, and no tile receives that did not. -/
structure Freer (before after : Layout) : Prop where
  mapped : after.mapped = before.mapped
  inventory : ∀ owner slot, before.inventory owner slot = none → after.inventory owner slot = none
  layers : ∀ pos layer, (after.layers pos layer).Sublist (before.layers pos layer)
  receives : ∀ pos, after.receives pos = true → before.receives pos = true
  container : ∀ ptr, (before.kind ptr).isContainer = true →
    (after.kind ptr).isContainer = true ∧ after.maxSize ptr = before.maxSize ptr

variable {items : ItemTypes} {before after : Layout} {cylinder : Cylinder} {ptr : ItemPtr}
  {size : Nat}

theorem Sound.separate (sound : before.Sound items) : (before.stock items).Separate where
  nodup := sound.nodup
  apart := by
    intro holder other pile inFirst inSecond
    have first := sound.parent holder pile inFirst
    have second := sound.parent other pile inSecond
    rw [first] at second
    exact Option.some.inj second

theorem Sound.unheld_next (sound : before.Sound items) :
    (before.stock items).Unheld before.next := by
  intro holder member
  exact Nat.lt_irrefl _ (sound.allocated holder _ member)

theorem SameItems.units (same : SameItems before after) : after.units items = before.units items := by
  funext ptr
  simp only [Layout.units, same.id, same.count]

theorem Put.placed (put : Put items before after cylinder ptr) :
    Stock.Placed (before.stock items) (after.stock items) cylinder ptr where
  here := put.here
  elsewhere := put.elsewhere
  kind := put.id
  size := put.toSameItems.units

theorem Take.placed (take : Take before after cylinder ptr) :
    Stock.Placed (after.stock items) (before.stock items) cylinder ptr where
  here := take.here
  elsewhere := fun other different => (take.elsewhere other different).symm
  kind := take.id.symm
  size := take.toSameItems.units.symm

theorem Recount.touched (recount : Recount before after ptr size) :
    Stock.Touched (before.stock items) (after.stock items) ptr where
  piles := recount.contents
  kind := fun other _ => congrFun recount.id other
  size := by
    intro other different
    simp only [Layout.stock, Layout.units, recount.id, recount.count,
      update_of_ne different]

theorem Create.touched (create : Create before after item) :
    Stock.Touched (before.stock items) (after.stock items) before.next where
  piles := create.contents
  kind := by
    intro other different
    simp only [Layout.stock, create.id, update_of_ne different]
  size := by
    intro other different
    simp only [Layout.stock, Layout.units, create.id, create.count,
      update_of_ne different]

theorem Freer.trans {middle : Layout} (first : Freer before middle) (second : Freer middle after) :
    Freer before after where
  mapped := second.mapped.trans first.mapped
  inventory := fun owner slot empty => second.inventory owner slot (first.inventory owner slot empty)
  layers := fun pos layer => (second.layers pos layer).trans (first.layers pos layer)
  receives := fun pos there => first.receives pos (second.receives pos there)
  container := by
    intro ptr container
    obtain ⟨still, same⟩ := first.container ptr container
    obtain ⟨last, size⟩ := second.container ptr still
    exact ⟨last, size.trans same⟩

theorem Freer.admits {index : Int} (freer : Freer before after) (admits : before.Admits cylinder index) :
    after.Admits cylinder index := by
  cases cylinder with
  | player owner =>
    obtain ⟨slot, listed, same, empty⟩ := admits
    exact ⟨slot, listed, same, freer.inventory owner slot empty⟩
  | tile pos =>
    have down := (freer.layers pos .down).length_le
    have top := (freer.layers pos .top).length_le
    obtain ⟨mapped, few⟩ := admits
    refine ⟨freer.mapped ▸ mapped, ?_⟩
    omega
  | item holder =>
    obtain ⟨container, room⟩ := admits
    obtain ⟨still, same⟩ := freer.container holder container
    exact ⟨still, same ▸ room⟩

theorem Freer.live (freer : Freer before after) (live : before.Live cylinder) : after.Live cylinder :=
  fun holder same => (freer.container holder (live holder same)).1

theorem Take.freer (take : Take before after cylinder ptr) : Freer before after where
  mapped := take.mapped
  inventory := fun owner slot empty => (take.inventory owner slot).elim (fun same => same.trans empty)
    (fun gone => gone)
  layers := take.layers
  receives := take.receives
  container := fun holder container => ⟨take.kind ▸ container, congrFun take.maxSize holder⟩

theorem Recount.freer (recount : Recount before after ptr size) : Freer before after where
  mapped := recount.mapped
  inventory := fun owner slot empty => by rw [recount.inventory, empty]
  layers := fun pos layer => by rw [recount.layers]
  receives := recount.receives
  container := fun holder container => ⟨recount.kind ▸ container, congrFun recount.maxSize holder⟩

theorem Create.freer (sound : before.Sound items) (create : Create before after item) :
    Freer before after where
  mapped := create.mapped
  inventory := fun owner slot empty => by rw [create.inventory, empty]
  layers := fun pos layer => by rw [create.layers]
  receives := create.receives
  container := by
    intro holder container
    have different : holder ≠ before.next := Nat.ne_of_lt (sound.roomy holder container).1
    rw [create.kind, create.maxSize, update_of_ne different, update_of_ne different]
    exact ⟨container, rfl⟩

/-- What a stack may come to keeps everything that lies there. -/
theorem alone_of_stackable (stackable : (items.get (before.id ptr)).stackable = true) :
    before.Alone items cylinder ptr := by
  have plain := items.stackable_plain _ stackable
  intro pos _ other _ rival
  unfold Rival at rival
  simp only [layerOf, ItemType.isGroundTile, plain.group, plain.notOnTop, ItemType.isMagicField] at rival
  rcases plain.type with type | type | type <;> simp [type] at rival

/-- Fewer items on the tiles leave an item alone that was. -/
theorem Alone.of_sublist (alone : before.Alone items cylinder ptr) (id : after.id = before.id)
    (kind : after.kind = before.kind)
    (layers : ∀ pos layer other, cylinder = .tile pos → other ∈ after.layers pos layer →
      other ∈ before.layers pos layer) : after.Alone items cylinder ptr := by
  intro pos same other member
  rw [id] at member
  have rival := alone pos same other (layers pos _ other same member)
  unfold Rival at rival ⊢
  rw [id, kind]
  exact rival

theorem Put.mem_iff (put : Put items before after cylinder ptr) :
    item ∈ after.contents other ↔ (other = cylinder ∧ item = ptr) ∨ item ∈ before.contents other := by
  by_cases same : other = cylinder
  · subst same
    simp [put.here.mem_iff]
  · simp [same, put.elsewhere other same]

theorem Take.mem_iff (take : Take before after cylinder ptr) :
    item ∈ before.contents other ↔ (other = cylinder ∧ item = ptr) ∨ item ∈ after.contents other := by
  by_cases same : other = cylinder
  · subst same
    simp [take.here.mem_iff]
  · simp [same, take.elsewhere other same]

theorem Take.unheld (take : Take before after cylinder ptr) (sound : before.Sound items) :
    (after.stock items).Unheld ptr :=
  take.placed.unheld_of_separate sound.separate

theorem layerOf_stackable {type : Nat} (stackable : (items.get type).stackable = true) :
    layerOf (items.get type) = .down := by
  have plain := items.stackable_plain type stackable
  simp [layerOf, ItemType.isGroundTile, plain.group, plain.notOnTop]

theorem Sound.put (sound : before.Sound items) (put : Put items before after cylinder ptr)
    (live : before.Live cylinder) (unheld : (before.stock items).Unheld ptr)
    (allocated : ptr < before.next)
    (stacked : (items.get (before.id ptr)).stackable = true →
      before.count ptr ≤ (items.get (before.id ptr)).stackSize) : after.Sound items where
  nodup := (put.placed.separate sound.separate unheld).nodup
  parent := by
    intro other item member
    rw [put.parent]
    rcases put.mem_iff.mp member with ⟨rfl, rfl⟩ | old
    · exact update_self _ _ _
    · have different : item ≠ ptr := by
        rintro rfl
        exact unheld other old
      rw [update_of_ne different]
      exact sound.parent other item old
  allocated := by
    intro other item member
    rw [put.next]
    rcases put.mem_iff.mp member with ⟨_, rfl⟩ | old
    · exact allocated
    · exact sound.allocated other item old
  live := by
    intro other item member
    unfold Live
    rw [put.kind]
    rcases put.mem_iff.mp member with ⟨rfl, rfl⟩ | old
    · exact live
    · exact sound.live other item old
  roomy := by
    rw [put.kind, put.next, put.maxSize]
    exact sound.roomy
  layered := by
    intro pos layer item member
    rw [put.next, put.id]
    rcases put.layers pos layer item member with old | ⟨_, rfl, rfl⟩
    · exact sound.layered pos layer item old
    · exact ⟨allocated, rfl⟩
  small := by
    rw [put.count]
    exact sound.small
  stacked := by
    intro other item member
    rw [put.id, put.count]
    rcases put.mem_iff.mp member with ⟨_, rfl⟩ | old
    · exact stacked
    · exact sound.stacked other item old
  plain := by
    rw [put.id, put.kind]
    exact sound.plain

theorem Sound.take (sound : before.Sound items) (take : Take before after cylinder ptr) :
    after.Sound items where
  nodup := (take.placed.separate_of_separate sound.separate).nodup
  parent := by
    intro other item member
    have different : item ≠ ptr := by
      rintro rfl
      exact take.unheld sound other member
    rw [take.parent, update_of_ne different]
    exact sound.parent other item (take.mem_iff.mpr (.inr member))
  allocated := fun other item member =>
    take.next ▸ sound.allocated other item (take.mem_iff.mpr (.inr member))
  live := by
    intro other item member
    unfold Live
    rw [take.kind]
    exact sound.live other item (take.mem_iff.mpr (.inr member))
  roomy := by
    rw [take.kind, take.next, take.maxSize]
    exact sound.roomy
  layered := by
    intro pos layer item member
    rw [take.next, take.id]
    exact sound.layered pos layer item ((take.layers pos layer).subset member)
  small := by
    rw [take.count]
    exact sound.small
  stacked := by
    intro other item member
    rw [take.id, take.count]
    exact sound.stacked other item (take.mem_iff.mpr (.inr member))
  plain := by
    rw [take.id, take.kind]
    exact sound.plain

theorem Sound.recount (sound : before.Sound items) (recount : Recount before after ptr size)
    (small : size < 256) (stacked : (items.get (before.id ptr)).stackable = true →
      size ≤ (items.get (before.id ptr)).stackSize) : after.Sound items where
  nodup := recount.contents ▸ sound.nodup
  parent := by
    rw [recount.contents, recount.parent]
    exact sound.parent
  allocated := by
    rw [recount.contents, recount.next]
    exact sound.allocated
  live := by
    unfold Live
    rw [recount.contents, recount.kind]
    exact sound.live
  roomy := by
    rw [recount.kind, recount.next, recount.maxSize]
    exact sound.roomy
  layered := by
    rw [recount.layers, recount.next, recount.id]
    exact sound.layered
  small := by
    intro item
    rw [recount.count]
    by_cases same : item = ptr
    · subst same
      simpa using small
    · rw [update_of_ne same]
      exact sound.small item
  stacked := by
    intro other item member
    rw [recount.contents] at member
    rw [recount.id, recount.count]
    by_cases same : item = ptr
    · subst same
      simpa using stacked
    · rw [update_of_ne same]
      exact sound.stacked other item member
  plain := by
    rw [recount.id, recount.kind]
    exact sound.plain

/-- A new item that is no container. -/
theorem Sound.create (sound : before.Sound items) (create : Create before after item)
    (small : item.count < 256) (kind : item.kind = .item) : after.Sound items where
  nodup := create.contents ▸ sound.nodup
  parent := by
    intro other old member
    rw [create.contents] at member
    have different : old ≠ before.next := Nat.ne_of_lt (sound.allocated other old member)
    rw [create.parent, update_of_ne different]
    exact sound.parent other old member
  allocated := by
    intro other old member
    rw [create.contents] at member
    rw [create.next]
    exact Nat.lt_succ_of_lt (sound.allocated other old member)
  live := by
    intro other old member holder same
    rw [create.contents] at member
    have container := sound.live other old member holder same
    have different : holder ≠ before.next := Nat.ne_of_lt (sound.roomy holder container).1
    rw [create.kind, update_of_ne different]
    exact container
  roomy := by
    intro old container
    rw [create.kind] at container
    rw [create.maxSize, create.next]
    by_cases same : old = before.next
    · subst same
      simp [kind, ItemClass.isContainer] at container
    · rw [update_of_ne same] at container ⊢
      have room := sound.roomy old container
      exact ⟨Nat.lt_succ_of_lt room.1, room.2⟩
  layered := by
    intro pos layer old member
    rw [create.layers] at member
    have here := sound.layered pos layer old member
    rw [create.next, create.id, update_of_ne (Nat.ne_of_lt here.1)]
    exact ⟨Nat.lt_succ_of_lt here.1, here.2⟩
  small := by
    intro old
    rw [create.count]
    by_cases same : old = before.next
    · subst same
      simpa using small
    · rw [update_of_ne same]
      exact sound.small old
  stacked := by
    intro other old member
    rw [create.contents] at member
    have different : old ≠ before.next := Nat.ne_of_lt (sound.allocated other old member)
    rw [create.id, create.count, update_of_ne different, update_of_ne different]
    exact sound.stacked other old member
  plain := by
    intro old
    rw [create.id, create.kind]
    by_cases same : old = before.next
    · subst same
      simp [kind]
    · rw [update_of_ne same, update_of_ne same]
      exact sound.plain old

end Layout

end Styller
