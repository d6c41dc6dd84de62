import Styller.World.CylinderEffect

/-! How much of a type a set of cylinders has, before and after each operation. -/

namespace Styller

open Library Function

namespace Layout

variable {items : ItemTypes} {before after : Layout} {cylinder : Cylinder} {ptr : ItemPtr}
  {type size : Nat} {holders : Finset Cylinder}

def total (items : ItemTypes) (layout : Layout) (type : Nat) (holders : Finset Cylinder) : Nat :=
  (layout.stock items).total type holders

/-- What `size` units of `ptr` in `cylinder` are to a type and a set of cylinders. -/
def share (layout : Layout) (cylinder : Cylinder) (ptr : ItemPtr) (size type : Nat)
    (holders : Finset Cylinder) : Nat :=
  if cylinder ∈ holders ∧ layout.id ptr = type then size else 0

theorem share_add (layout : Layout) (cylinder : Cylinder) (ptr : ItemPtr) (first second type : Nat)
    (holders : Finset Cylinder) :
    layout.share cylinder ptr (first + second) type holders =
      layout.share cylinder ptr first type holders + layout.share cylinder ptr second type holders := by
  unfold share
  split <;> omega

theorem share_sub (layout : Layout) (cylinder : Cylinder) (ptr : ItemPtr) {first second : Nat}
    (less : first ≤ second) (type : Nat) (holders : Finset Cylinder) :
    layout.share cylinder ptr first type holders + layout.share cylinder ptr (second - first) type holders =
      layout.share cylinder ptr second type holders := by
  rw [← share_add, Nat.add_sub_cancel' less]

@[simp] theorem share_zero (layout : Layout) : layout.share cylinder ptr 0 type holders = 0 := by
  simp [share]

theorem share_amount (layout : Layout) :
    (if cylinder ∈ holders then (layout.stock items).amount type ptr else 0) =
      layout.share cylinder ptr (layout.units items ptr) type holders := by
  unfold share Stock.amount
  by_cases member : cylinder ∈ holders <;> by_cases same : layout.id ptr = type <;>
    simp [member, same, stock]

theorem Take.total (take : Take before after cylinder ptr) (type : Nat) (holders : Finset Cylinder) :
    after.total items type holders + before.share cylinder ptr (before.units items ptr) type holders =
      before.total items type holders := by
  have placed : Stock.Placed (after.stock items) (before.stock items) cylinder ptr := take.placed
  have given := placed.total type holders
  rw [← placed.amount type, share_amount] at given
  exact given.symm

theorem Put.total (put : Put items before after cylinder ptr) (type : Nat) (holders : Finset Cylinder) :
    after.total items type holders =
      before.total items type holders + before.share cylinder ptr (before.units items ptr) type holders := by
  rw [← share_amount]
  exact put.placed.total type holders

theorem Create.total (create : Create before after item) (sound : before.Sound items) (type : Nat)
    (holders : Finset Cylinder) :
    after.total items type holders = before.total items type holders :=
  create.touched.total_unheld type holders sound.unheld_next

theorem units_stackable (stackable : (items.get (before.id ptr)).stackable = true) :
    before.units items ptr = before.count ptr := if_pos stackable

theorem Recount.total (recount : Recount before after ptr size) (sound : before.Sound items)
    (held : ptr ∈ before.contents cylinder)
    (stackable : (items.get (before.id ptr)).stackable = true) (type : Nat) (holders : Finset Cylinder) :
    after.total items type holders + before.share cylinder ptr (before.count ptr) type holders =
      before.total items type holders + before.share cylinder ptr size type holders := by
  have counted := recount.touched.total type sound.separate held holders
  have stackableAfter : (items.get (after.id ptr)).stackable = true := by
    rw [recount.id]
    exact stackable
  rw [share_amount, share_amount, units_stackable stackable, units_stackable stackableAfter,
    recount.count, update_self] at counted
  simp only [share, recount.id] at counted ⊢
  exact counted

structure Reduced (items : ItemTypes) (before after : Layout) (cylinder : Cylinder) (ptr : ItemPtr)
    (size : Nat) : Prop where
  sound : after.Sound items
  freer : Freer before after
  id : after.id = before.id
  kind : after.kind = before.kind
  next : after.next = before.next
  count : ∀ other, other ≠ ptr → after.count other = before.count other
  inventory : ∀ owner slot item, after.inventory owner slot = some item →
    before.inventory owner slot = some item
  others : ∀ holder other, other ≠ ptr →
    (other ∈ after.contents holder ↔ other ∈ before.contents holder)
  total : ∀ type holders, after.total items type holders + before.share cylinder ptr size type holders =
    before.total items type holders

theorem Take.reduced (take : Take before after cylinder ptr) (sound : before.Sound items) :
    Reduced items before after cylinder ptr (before.units items ptr) where
  sound := sound.take take
  freer := take.freer
  id := take.id
  kind := take.kind
  next := take.next
  count := fun other _ => congrFun take.count other
  inventory := by
    intro owner slot item inSlot
    rcases take.inventory owner slot with same | gone
    · exact same ▸ inSlot
    · rw [gone] at inSlot
      cases inSlot
  others := by
    intro holder other different
    rw [take.mem_iff]
    simp [different]
  total := take.total

theorem Recount.reduced (recount : Recount before after ptr (before.count ptr - size))
    (sound : before.Sound items) (held : ptr ∈ before.contents cylinder)
    (stackable : (items.get (before.id ptr)).stackable = true) (enough : size ≤ before.count ptr) :
    Reduced items before after cylinder ptr size where
  sound := by
    have small := sound.small ptr
    refine sound.recount recount ?_ ?_
    · omega
    · intro _
      have stacked := sound.stacked cylinder ptr held stackable
      omega
  freer := recount.freer
  id := recount.id
  kind := recount.kind
  next := recount.next
  count := by
    intro other different
    rw [recount.count, update_of_ne different]
  inventory := fun _ _ _ inSlot => recount.inventory ▸ inSlot
  others := by
    intro holder other _
    rw [recount.contents]
  total := by
    intro type holders
    have counted := recount.total sound held stackable type holders
    have parts := share_sub before cylinder ptr enough type holders
    omega

theorem Recount.grows (recount : Recount before after ptr (before.count ptr + size))
    (sound : before.Sound items) (held : ptr ∈ before.contents cylinder)
    (stackable : (items.get (before.id ptr)).stackable = true)
    (fits : before.count ptr + size ≤ (items.get (before.id ptr)).stackSize) :
    after.Sound items ∧ ∀ type holders, after.total items type holders =
      before.total items type holders + before.share cylinder ptr size type holders := by
  refine ⟨?_, ?_⟩
  · have small := items.stackSize_lt (before.id ptr)
    exact sound.recount recount (by omega) (fun _ => fits)
  · intro type holders
    have counted := recount.total sound held stackable type holders
    rw [share_add] at counted
    omega

/-- A new stack that comes to a cylinder. -/
theorem Create.put {middle : Layout} (create : Create before middle item)
    (put : Put items middle after cylinder before.next) (sound : before.Sound items)
    (live : before.Live cylinder) (kind : item.kind = .item)
    (stackable : (items.get item.id).stackable = true)
    (fits : item.count ≤ (items.get item.id).stackSize) :
    after.Sound items ∧ ∀ type holders, after.total items type holders =
      before.total items type holders +
        if cylinder ∈ holders ∧ item.id = type then item.count else 0 := by
  have small := items.stackSize_lt item.id
  have soundMiddle := sound.create create (by omega) kind
  have sameId : middle.id before.next = item.id := by rw [create.id, update_self]
  have sameCount : middle.count before.next = item.count := by rw [create.count, update_self]
  refine ⟨?_, ?_⟩
  · refine soundMiddle.put put ((create.freer sound).live live) ?_ ?_ ?_
    · intro holder member
      rw [stock, create.contents] at member
      exact sound.unheld_next holder member
    · rw [create.next]
      exact Nat.lt_succ_self _
    · rw [sameId, sameCount]
      exact fun _ => fits
  · intro type holders
    rw [put.total, create.total sound, units_stackable (by rw [sameId]; exact stackable), share, sameId,
      sameCount]

end Layout

namespace Game

open Layout

variable (env : Env) (game : Game) {cylinder : Cylinder} {ptr : ItemPtr} {size : Nat}

/-- `removeThing` of `size` units, which is the whole item unless it is a larger stack. -/
theorem removeThing_reduced (sound : game.layout.Sound env.items)
    (inside : game.getThingIndex env cylinder ptr ≠ -1)
    (enough : (game.items ptr).isStackable env.items = true → size ≤ (game.items ptr).count) :
    Reduced env.items game.layout (game.removeThing env cylinder ptr size).layout cylinder ptr
      (if (game.items ptr).isStackable env.items then size else 1) := by
  by_cases part : (game.items ptr).isStackable env.items = true ∧ size ≠ (game.items ptr).count
  · have recount := removeThing_recount env game sound inside size part
    rw [rest_eq (enough part.1) (sound.small ptr)] at recount
    rw [if_pos part.1]
    exact recount.reduced sound (mem_of_thingIndex env game inside) part.1 (enough part.1)
  · have take := removeThing_take env game sound inside size part
    have reduced := take.reduced sound
    have units : game.layout.units env.items ptr =
        if (game.items ptr).isStackable env.items then size else 1 := by
      by_cases stackable : (game.items ptr).isStackable env.items = true
      · have whole : size = (game.items ptr).count := by
          by_contra differ
          exact part ⟨stackable, differ⟩
        rw [if_pos stackable, whole]
        exact units_stackable stackable
      · rw [if_neg stackable]
        exact if_neg stackable
    rwa [units] at reduced

end Game

end Styller
