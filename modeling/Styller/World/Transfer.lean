import Styller.World.Conservation
import Styller.World.MoveItem

/-! The last stage of `Game::internalMoveItem`: the units that leave the source are those
that come to the destination. -/

namespace Styller.Game

open Library Layout

variable (env : Env) (game : Game)

section
variable {cylinder : Cylinder} {stack : ItemPtr} {m : Nat}

theorem stack_fits (sound : game.layout.Sound env.items) (member : stack ∈ game.contents cylinder)
    (stackable : (game.items stack).isStackable env.items = true) :
    (game.items stack).count ≤ (game.items stack).getStackSize env.items ∧
      (game.items stack).getStackSize env.items < 256 := by
  rw [Item.getStackSize, if_pos stackable]
  exact ⟨sound.stacked cylinder stack member stackable, env.items.stackSize_lt _⟩

theorem mergeCount_eq (sound : game.layout.Sound env.items) (member : stack ∈ game.contents cylinder)
    (stackable : (game.items stack).isStackable env.items = true) :
    game.mergeCount env (some stack) m =
      min ((game.items stack).getStackSize env.items - (game.items stack).count) m := by
  have fits := stack_fits env game sound member stackable
  simp only [mergeCount, toUInt32]
  omega

/-- What merging does to the stack. -/
theorem mergeStack_recount (sound : game.layout.Sound env.items)
    (member : stack ∈ game.contents cylinder)
    (stackable : (game.items stack).isStackable env.items = true) :
    Recount game.layout (game.mergeStack env cylinder (some stack) m).layout stack
      ((game.items stack).count + game.mergeCount env (some stack) m) := by
  have inside := thingIndex_of_mem env game sound stackable member
  have recount := updateThing_recount env game sound inside
    ((game.items stack).count + game.mergeCount env (some stack) m) stackable
  have fits := stack_fits env game sound member stackable
  have merged := mergeCount_eq env game (m := m) sound member stackable
  have kept : toUInt8 (toUInt16 ((game.items stack).count + game.mergeCount env (some stack) m : Nat)) =
      (game.items stack).count + game.mergeCount env (some stack) m := by
    unfold toUInt8 toUInt16
    omega
  rwa [kept] at recount

end

section
variable {move : Move} {dest : Destination} {m : Nat}

/-- All of `m` goes to the item that the stack merges with. -/
def Fits (move : Move) (dest : Destination) (m : Nat) : Prop :=
  ∃ stack, dest.toItem = some stack ∧ (game.items move.item).equals (some (game.items stack)) = true ∧
    m ≤ (game.items stack).getStackSize env.items - (game.items stack).count

/-- Where the item goes: onto a stack that takes all of it, or to a free place. -/
def Placeable (move : Move) (dest : Destination) (m : Nat) : Prop :=
  ((game.items move.item).isStackable env.items = true ∧ game.Fits env move dest m) ∨
    game.layout.Admits dest.cylinder dest.index

/-- What `deliver` relies on. -/
structure Deliverable (move : Move) (dest : Destination) (m : Nat) : Prop where
  sound : game.layout.Sound env.items
  inside : game.getThingIndex env move.fromCylinder move.item ≠ -1
  enough : (game.items move.item).isStackable env.items = true → m ≤ (game.items move.item).count
  apart : dest.toItem ≠ some move.item
  found : ∀ stack, dest.toItem = some stack → stack ∈ game.contents dest.cylinder
  live : game.layout.Live dest.cylinder
  alone : game.layout.Alone env.items dest.cylinder move.item
  place : game.Placeable env move dest m

/-- `size` units have left the source and come to the target, and everything else is where
it was. -/
structure Delivered (before after : Layout) (source target : Cylinder) (item : ItemPtr) (size : Nat) :
    Prop where
  sound : after.Sound env.items
  others : ∀ holder other, other ≠ item → other ∈ before.contents holder → other ∈ after.contents holder
  total : ∀ type holders, after.total env.items type holders + before.share source item size type holders =
    before.total env.items type holders + before.share target item size type holders

variable (deliverable : game.Deliverable env move dest m)
include deliverable

theorem merged_stack (stackable : (game.items move.item).isStackable env.items = true) :
    let removed := game.removeThing env move.fromCylinder move.item m
    let updateItem := removed.mergesWith move.item dest.toItem
    let n := removed.mergeCount env updateItem m
    let after := removed.mergeStack env dest.cylinder updateItem m
    n ≤ m ∧ (game.Fits env move dest m → n = m) ∧ after.layout.Sound env.items ∧
      Freer game.layout after.layout ∧ after.layout.id = game.layout.id ∧
      (∀ holder other, other ≠ move.item →
        other ∈ game.contents holder → other ∈ after.contents holder) ∧
      ∀ type holders, after.layout.total env.items type holders +
          game.layout.share move.fromCylinder move.item m type holders =
        game.layout.total env.items type holders +
          game.layout.share dest.cylinder move.item n type holders := by
  have reduced := removeThing_reduced env game deliverable.sound deliverable.inside deliverable.enough
  rw [if_pos stackable] at reduced
  have alike : game.Alike (game.removeThing env move.fromCylinder move.item m) :=
    alike_removeThing env move.fromCylinder move.item m
  generalize game.removeThing env move.fromCylinder move.item m = removed at reduced alike
  simp only
  cases merge : removed.mergesWith move.item dest.toItem with
  | none =>
    refine ⟨Nat.zero_le _, ?_, reduced.sound, reduced.freer, reduced.id, ?_, ?_⟩
    · rintro ⟨stack, atDest, same, _⟩
      rw [← Alike.equals game alike] at same
      simp [mergesWith, atDest, same] at merge
    · exact fun holder other different => (reduced.others holder other different).mpr
    · intro type holders
      simpa [mergeCount, mergeStack] using reduced.total type holders
  | some stack =>
    obtain ⟨atDest, same⟩ := Option.filter_eq_some_iff.mp merge
    rw [Alike.equals game alike] at same
    have sameId : (game.items move.item).id = (game.items stack).id := Item.id_eq_of_equals same
    have different : stack ≠ move.item := by
      rintro rfl
      exact deliverable.apart atDest
    have member : stack ∈ removed.contents dest.cylinder :=
      (reduced.others dest.cylinder stack different).mpr (deliverable.found stack atDest)
    have keptId : (removed.items stack).id = (game.items stack).id := congrFun reduced.id stack
    have stackStackable : (removed.items stack).isStackable env.items = true := by
      rw [Item.isStackable, keptId, ← sameId]
      exact stackable
    have recount := mergeStack_recount env removed (m := m) reduced.sound member stackStackable
    have merged := mergeCount_eq env removed (m := m) reduced.sound member stackStackable
    have fits := stack_fits env removed reduced.sound member stackStackable
    have size : (removed.items stack).getStackSize env.items =
        (env.items.get (removed.items stack).id).stackSize := if_pos stackStackable
    have room : (removed.items stack).count + removed.mergeCount env (some stack) m ≤
        (env.items.get (removed.items stack).id).stackSize := by omega
    obtain ⟨sound, total⟩ := recount.grows reduced.sound member stackStackable room
    refine ⟨by omega, ?_, sound, reduced.freer.trans recount.freer, recount.id.trans reduced.id, ?_, ?_⟩
    · rintro ⟨other, alsoAtDest, _, small⟩
      cases atDest.symm.trans alsoAtDest
      have count : (removed.items stack).count = (game.items stack).count :=
        reduced.count stack different
      have sameSize : (removed.items stack).getStackSize env.items =
          (game.items stack).getStackSize env.items := by
        unfold Item.getStackSize Item.isStackable
        rw [keptId]
      omega
    · intro holder other apart there
      change other ∈ (removed.mergeStack env dest.cylinder (some stack) m).layout.contents holder
      rw [recount.contents]
      exact (reduced.others holder other apart).mpr there
    · intro type holders
      rw [total type holders]
      have before := reduced.total type holders
      have share : removed.layout.share dest.cylinder stack (removed.mergeCount env (some stack) m) type
          holders = game.layout.share dest.cylinder move.item (removed.mergeCount env (some stack) m) type
            holders := by
        have id : removed.layout.id stack = game.layout.id move.item :=
          (congrFun reduced.id stack).trans sameId.symm
        simp only [Layout.share, id]
      omega

/-- What is left of the stack after merging comes to a free place. -/
theorem split_stack {middle : Game} {n : Nat}
    (stackable : (game.items move.item).isStackable env.items = true)
    (sound : middle.layout.Sound env.items) (freer : Freer game.layout middle.layout)
    (id : middle.layout.id = game.layout.id) (less : n ≤ m)
    (full : game.Fits env move dest m → n = m) :
    let split := middle.splitStack env move.item (toInt32 ((m : Int) - n))
    let after := split.2.addMoved env dest.cylinder dest.index split.1
    after.layout.Sound env.items ∧
      (∀ pos, after.layout.receives pos = true → game.layout.receives pos = true) ∧
      (∀ holder other, other ∈ middle.contents holder → other ∈ after.contents holder) ∧
      ∀ type holders, after.layout.total env.items type holders =
        middle.layout.total env.items type holders +
          game.layout.share dest.cylinder move.item (m - n) type holders := by
  have enough := deliverable.enough stackable
  have small : (game.items move.item).count < 256 := deliverable.sound.small move.item
  have exactly : toInt32 ((m : Int) - n) = ((m - n : Nat) : Int) := by
    rw [toInt32, Int.bmod_eq_of_le] <;> omega
  simp only [exactly]
  by_cases whole : n = m
  · subst whole
    simp only [Nat.sub_self, Layout.share_zero, splitStack, addMoved]
    exact ⟨sound, fun pos there => freer.receives pos there, fun _ _ there => there, fun _ _ => rfl⟩
  · have positive : (0 : Int) < ((m - n : Nat) : Int) := by omega
    have admits : game.layout.Admits dest.cylinder dest.index := by
      rcases deliverable.place with fits | admits
      · exact absurd (full fits.2) whole
      · exact admits
    have sameId : (middle.items move.item).id = (game.items move.item).id := congrFun id move.item
    have stackableMiddle : (middle.items move.item).isStackable env.items = true := by
      rw [Item.isStackable, sameId]
      exact stackable
    obtain ⟨copy, create, copyId, copyKind, copyCount⟩ :=
      cloneWithCount_create env middle sound stackableMiddle ((m - n : Nat) : Int)
    have copyStackable : (env.items.get copy.id).stackable = true := by
      rw [copyId]
      exact stackableMiddle
    have count : copy.count = m - n := by
      rw [copyCount]
      unfold toUInt8
      omega
    have held : move.item ∈ game.contents move.fromCylinder :=
      mem_of_thingIndex env game deliverable.inside
    have fits : copy.count ≤ (env.items.get copy.id).stackSize := by
      have stacked := deliverable.sound.stacked move.fromCylinder move.item held stackable
      rw [copyId, sameId, count]
      have stacked : (game.items move.item).count ≤ (env.items.get (game.items move.item).id).stackSize :=
        stacked
      omega
    have createFreer := create.freer sound
    have cloneId : (middle.cloneWithCount env move.item ((m - n : Nat) : Int)).layout.id middle.next =
        copy.id := by
      rw [create.id]
      exact Function.update_self _ _ _
    have put := addThing_put env (middle.cloneWithCount env move.item ((m - n : Nat) : Int))
      middle.next ((freer.trans createFreer).admits admits)
      (alone_of_stackable (by rw [cloneId]; exact copyStackable))
    simp only [splitStack, if_pos positive, addMoved]
    obtain ⟨soundAfter, total⟩ := create.put put sound (freer.live deliverable.live) copyKind
      copyStackable fits
    refine ⟨soundAfter, ?_, ?_, ?_⟩
    · intro pos there
      rcases put.receives pos there with before | ⟨_, special⟩
      · exact (freer.trans createFreer).receives pos before
      · rw [create.kind] at special
        simp [Function.update_self, layout, copyKind, ItemClass.receives] at special
    · intro holder other there
      apply put.mem_iff.mpr
      right
      rw [create.contents]
      exact there
    · intro type holders
      rw [total, share, copyId, sameId, count]
      rfl

/-- A thing that is no stack goes over as it is. -/
theorem deliver_thing (single : ¬ (game.items move.item).isStackable env.items = true) :
    let after := (game.deliver env move dest m).2.2
    Delivered env game.layout after.layout move.fromCylinder dest.cylinder move.item 1 ∧
      ∀ pos, after.layout.receives pos = true → game.layout.receives pos = true ∨
        (dest.cylinder = .tile pos ∧ (game.items move.item).kind.receives = true) := by
  have take := removeThing_take env game deliverable.sound deliverable.inside m
    (fun part => single part.1)
  have held : move.item ∈ game.contents move.fromCylinder :=
    mem_of_thingIndex env game deliverable.inside
  have admits : game.layout.Admits dest.cylinder dest.index := by
    rcases deliverable.place with ⟨stackable, _⟩ | admits
    · exact absurd stackable single
    · exact admits
  have alone := deliverable.alone.of_sublist take.id take.kind
    (fun pos layer other _ member => (take.layers pos layer).subset member)
  have put := addThing_put env (game.removeThing env move.fromCylinder move.item m) move.item
    (take.freer.admits admits) alone
  simp only [deliver, if_neg single, mergeStack, addMoved]
  generalize game.removeThing env move.fromCylinder move.item m = removed at take put
  have units : game.layout.units env.items move.item = 1 := if_neg single
  have unitsRemoved : removed.layout.units env.items move.item = 1 := by
    rw [take.toSameItems.units]
    exact units
  refine ⟨⟨?_, ?_, ?_⟩, ?_⟩
  · refine (deliverable.sound.take take).put put (take.freer.live deliverable.live)
      (take.unheld deliverable.sound) ?_ ?_
    · rw [take.next]
      exact deliverable.sound.allocated _ _ held
    · intro stackable
      rw [take.id] at stackable
      exact absurd stackable single
  · intro holder other different there
    rcases take.mem_iff.mp there with ⟨_, same⟩ | kept
    · exact absurd same different
    · exact put.mem_iff.mpr (.inr kept)
  · intro type holders
    have left : _ = game.layout.total env.items type holders := take.total type holders
    have come := put.total type holders
    have same : removed.layout.share dest.cylinder move.item 1 type holders =
        game.layout.share dest.cylinder move.item 1 type holders := by
      simp only [share, take.id]
    rw [units] at left
    rw [unitsRemoved, same] at come
    omega
  · intro pos there
    rcases put.receives pos there with before | ⟨atDest, special⟩
    · exact .inl (take.receives pos before)
    · rw [take.kind] at special
      exact .inr ⟨atDest, special⟩

/-- The units of an item that one move of it takes. -/
theorem deliver_stack (stackable : (game.items move.item).isStackable env.items = true) :
    let after := (game.deliver env move dest m).2.2
    Delivered env game.layout after.layout move.fromCylinder dest.cylinder move.item m ∧
      ∀ pos, after.layout.receives pos = true → game.layout.receives pos = true := by
  obtain ⟨less, full, sound, freer, id, kept, merged⟩ := merged_stack env game deliverable stackable
  obtain ⟨soundAfter, receives, stay, total⟩ :=
    split_stack env game deliverable stackable sound freer id less full
  simp only [deliver, if_pos stackable]
  refine ⟨⟨soundAfter, ?_, ?_⟩, receives⟩
  · exact fun holder other different there => stay holder other (kept holder other different there)
  intro type holders
  have merged := merged type holders
  have total := total type holders
  have whole := share_sub game.layout dest.cylinder move.item less type holders
  omega

end

section
variable {env game}

theorem layout_notifyAdded {cylinder : Cylinder} (calm : game.layout.Calm cylinder)
    (added : Option ItemPtr) : (game.notifyAdded env cylinder added).layout = game.layout := by
  unfold notifyAdded
  split
  · split
    · exact layout_postAddNotification env game calm _
    · rfl
  · rfl

theorem layout_announce {move : Move} {dest : Destination} (calm : game.layout.Calm dest.cylinder)
    (itemIndex : Int) (moveItem updateItem : Option ItemPtr) :
    (game.announce env move dest itemIndex moveItem updateItem).layout = game.layout := by
  unfold announce
  simp only
  have removed : (if itemIndex ≠ -1 then game.postRemoveNotification env move.fromCylinder
      else game).layout = game.layout := by
    split
    · exact layout_postRemoveNotification env game _
    · rfl
  generalize (if itemIndex ≠ -1 then game.postRemoveNotification env move.fromCylinder
    else game) = after at removed
  have calmAfter : after.layout.Calm dest.cylinder := removed.symm ▸ calm
  have added : (after.notifyAdded env dest.cylinder moveItem).layout = after.layout :=
    layout_notifyAdded calmAfter moveItem
  rw [layout_notifyAdded (added.trans removed ▸ calm), added, removed]

theorem layout_startDecaying (moveItem : Option ItemPtr) :
    (game.startDecaying moveItem).layout = game.layout := by
  unfold startDecaying
  split
  · simp only
    split
    · exact layout_setItem game _ _ ⟨rfl, rfl, rfl, rfl, rfl, rfl⟩
    · rfl
  · rfl

/-- After the arrival nothing more happens to the items. -/
theorem layout_transfer {move : Move} {dest : Destination}
    (calm : (game.deliver env move dest (game.moveCount env move dest)).2.2.layout.Calm dest.cylinder) :
    (game.transfer env move dest).2.layout =
      (game.deliver env move dest (game.moveCount env move dest)).2.2.layout := by
  unfold transfer
  simp only
  split
  · exact layout_announce calm _ _ _
  · rw [layout_startDecaying]
    exact layout_announce calm _ _ _

end

section
variable {env game} {move : Move} {dest : Destination}

/-- The whole transfer, from a state that allows it. -/
theorem transfer_delivered (deliverable : game.Deliverable env move dest (game.moveCount env move dest))
    (calm : game.layout.Calm dest.cylinder)
    (quiet : ∀ pos, dest.cylinder = .tile pos → (game.items move.item).kind.receives = false) :
    Delivered env game.layout (game.transfer env move dest).2.layout move.fromCylinder dest.cylinder
      move.item (if (game.items move.item).isStackable env.items then game.moveCount env move dest
        else 1) := by
  by_cases stackable : (game.items move.item).isStackable env.items = true
  · obtain ⟨delivered, receives⟩ := deliver_stack env game deliverable stackable
    rw [if_pos stackable, layout_transfer]
    · exact delivered
    · intro pos here
      rw [Bool.eq_false_iff]
      intro there
      have old := receives pos there
      rw [calm pos here] at old
      cases old
  · obtain ⟨delivered, receives⟩ := deliver_thing env game deliverable stackable
    rw [if_neg stackable, layout_transfer]
    · exact delivered
    · intro pos here
      rw [Bool.eq_false_iff]
      intro there
      rcases receives pos there with old | ⟨_, special⟩
      · rw [calm pos here] at old
        cases old
      · rw [quiet pos here] at special
        cases special
theorem Delivered.total_same {before after : Layout} {source target : Cylinder} {item : ItemPtr} {size : Nat}
    (delivered : Delivered env before after source target item size) (type : Nat)
    {holders : Finset Cylinder} (fromHere : source ∈ holders) (toHere : target ∈ holders) :
    after.total env.items type holders = before.total env.items type holders := by
  have total := delivered.total type holders
  have same : before.share source item size type holders = before.share target item size type holders := by
    simp only [share, fromHere, toHere]
  omega

end

end Styller.Game
