import Styller.Money.MoneyFound
import Styller.World.AddKept

/-! What `Game::removeMoney` does to one stack of coins: a held coin can always be taken,
and the change is paid without touching coins that are worth more. -/

namespace Styller.Game

open Library Layout

section
variable {env : Env} {game : Game} {cylinder : Cylinder} {ptr : ItemPtr}

theorem climb_ne_tile (fuel : Nat) {below : Cylinder} (aux : Cylinder) (noTile : ∀ pos, below ≠ .tile pos)
    (pos : Position) : game.climb fuel (some below) aux ≠ .tile pos := by
  induction fuel generalizing below aux with
  | zero => exact noTile pos
  | succ fuel ih =>
    unfold climb
    split
    · exact noTile pos
    · rename_i up above
      refine ih up ?_
      rintro place rfl
      cases above

theorem getTopParent_ne_tile (container : (game.items ptr).isContainer = true) (pos : Position) :
    game.getTopParent ptr ≠ some (.tile pos) := by
  have isCylinder : (game.items ptr).isCylinder = true := by simp [Item.isCylinder, container]
  unfold getTopParent
  simp only [isCylinder, if_true]
  split
  · simp
  · intro same
    exact climb_ne_tile _ _ (by simp) pos (Option.some.inj same)

/-- What is found in its place may be taken whatever it is, if it is some of it and not more. -/
theorem queryRemove_inside (sound : game.layout.Sound env.items) (inside : game.getThingIndex env cylinder ptr ≠ -1)
    {count : Nat} (positive : 0 < count) (enough : count ≤ (game.items ptr).count) {flags : CylinderFlags}
    (ignore : flags.ignoreNotMoveable = true) : game.queryRemove env cylinder ptr count flags none = .noError := by
  have own : ∀ index, index ≠ -1 → itemQueryRemove env game index ptr count flags = .noError := by
    intro index inside
    have some : ¬ (count = 0 ∨ (game.items ptr).isStackable env.items = true ∧ count > (game.items ptr).count) := by
      omega
    simp only [itemQueryRemove, if_neg inside, if_neg some, ignore, not_true_eq_false, and_false, if_false]
  have member := mem_of_thingIndex env game inside
  cases cylinder with
  | player owner => exact own _ inside
  | tile pos =>
    cases here : game.tiles pos with
    | none => simp [contents, here] at member
    | some tile =>
      simp only [getThingIndex, here] at inside
      have invited : uninvited env tile none = false := by
        unfold uninvited
        cases tile.house <;> rfl
      simp only [queryRemove, here, tileQueryRemove, invited, Bool.and_false, Bool.false_eq_true, if_false]
      exact own _ inside
  | item holder =>
    have container : (game.items holder).isContainer = true := sound.live (.item holder) ptr member holder rfl
    have held := own (indexIn (game.items holder).itemlist ptr) inside
    simp only [queryRemove, if_pos container, containerQueryRemove, held, ne_eq, not_true_eq_false, if_false]
    split
    · rename_i pos top
      exact absurd top (getTopParent_ne_tile container pos)
    · rfl

/-- A stack that is held may be taken whatever it is. -/
theorem queryRemove_stack (sound : game.layout.Sound env.items) (member : ptr ∈ game.contents cylinder)
    (stackable : (game.items ptr).isStackable env.items = true) {count : Nat} (positive : 0 < count)
    (enough : count ≤ (game.items ptr).count) {flags : CylinderFlags} (ignore : flags.ignoreNotMoveable = true) :
    game.queryRemove env cylinder ptr count flags none = .noError :=
  queryRemove_inside sound (thingIndex_of_mem env game sound stackable member) positive enough ignore

/-- `internalRemoveItem` of some coins of a stack, or of all of them for -1. -/
theorem internalRemoveItem_stack (sound : game.layout.Sound env.items) (member : ptr ∈ game.contents cylinder)
    (stackable : (game.items ptr).isStackable env.items = true) {count : Int} {size : Nat}
    (asked : (if count = -1 then ((game.items ptr).count : Int) else count) = size) (positive : 0 < size)
    (enough : size ≤ (game.items ptr).count) :
    Reduced env.items game.layout (game.internalRemoveItem env ptr count false CylinderFlags.none).2.layout
      cylinder ptr size := by
  have parent : (game.items ptr).parent = some cylinder := sound.parent cylinder ptr member
  have kind : (game.items ptr).kind = .item := sound.plain ptr stackable
  have small : (game.items ptr).count < 256 := sound.small ptr
  have whole : toUInt32 (size : Int) = size := by
    unfold toUInt32
    omega
  have allowed : game.queryRemove env cylinder ptr size
      { CylinderFlags.none with ignoreNotMoveable := true } none = .noError :=
    queryRemove_stack sound member stackable positive enough rfl
  have reduced := removeThing_reduced env game sound (thingIndex_of_mem env game sound stackable member)
    (fun _ => enough)
  rw [if_pos stackable] at reduced
  unfold internalRemoveItem
  simp only [parent, asked, whole, allowed, kind]
  simpa using reduced

end

section
variable {env : Env} (cylinder : Cylinder) (flags : CylinderFlags)

/-- A new stack of coins, before it comes anywhere. -/
theorem allocate_coins {game : Game} (sound : game.layout.Sound env.items) (coin : Item)
    (empty : coin.itemlist = []) (kind : coin.kind = .item)
    (stackable : (env.items.get coin.id).stackable = true) (fits : coin.count ≤ (env.items.get coin.id).stackSize) :
    Kept env.items (fun _ => False) game.layout (game.allocate coin).layout ∧
      (game.allocate coin).Fresh env game.next ∧ (game.allocate coin).items game.next = coin := by
  have create := allocate_create env game sound empty
  have here : (game.allocate coin).items game.next = coin := setItem_self game game.next coin
  have small := env.items.stackSize_lt coin.id
  have grown := create.grown sound (by omega) kind ∅ 0
  refine ⟨grown.kept_but _, ⟨?_, Nat.lt_succ_self _, ?_⟩, here⟩
  · intro holder member
    change game.next ∈ (game.allocate coin).layout.contents holder at member
    rw [create.contents] at member
    exact sound.unheld_next holder member
  · intro _
    have isStackable : coin.isStackable env.items = true := stackable
    rw [here, Item.getStackSize, if_pos isStackable]
    exact fits

/-- Coins that are paid out touch no stack of another type. -/
theorem payOut_kept (gentle : env.Gentle) {game : Game} (sound : game.layout.Sound env.items) {id count : Nat}
    (stackable : (env.items.get id).stackable = true) (fits : count ≤ (env.items.get id).stackSize)
    (positive : 0 < count) :
    Kept env.items (fun other => (game.items other).id = id) game.layout
      (game.payOut env cylinder flags id count).layout := by
  obtain ⟨attributes, made⟩ := Item.createItem_stackable env.items (env.normalRandom game.next) stackable count
  have small := env.items.stackSize_lt id
  have size : toUInt8 ((if count = 0 then 1 else count : Nat) : Int) = count := by
    rw [if_neg (by omega), toUInt8]
    omega
  rw [size] at made
  obtain ⟨created, fresh, here⟩ := allocate_coins sound { id, count, attributes } rfl rfl stackable fits
  have coin : ((game.allocate { id, count, attributes }).items game.next).id = id := by rw [here]
  have isStackable : ((game.allocate { id, count, attributes }).items game.next).isStackable env.items = true := by
    rw [Item.isStackable, coin]
    exact stackable
  -- what another type has keeps its type when the coins are created
  have after : ∀ result : Game, Kept env.items (fun other =>
        ((game.allocate { id, count, attributes }).items other).id =
          ((game.allocate { id, count, attributes }).items game.next).id)
        (game.allocate { id, count, attributes }).layout result.layout →
      Kept env.items (fun other => (game.items other).id = id) game.layout result.layout := by
    intro result kept
    refine ⟨kept.sound, ?_⟩
    intro holder other different member
    obtain ⟨there, sameId, less⟩ := created.kept holder other not_false member
    have stays : ¬ ((game.allocate { id, count, attributes }).items other).id =
        ((game.allocate { id, count, attributes }).items game.next).id := by
      rw [coin]
      exact fun same => different (sameId.symm.trans same)
    obtain ⟨still, alsoId, more⟩ := kept.kept holder other stays there
    exact ⟨still, alsoId.trans sameId, less.trans more⟩
  have refl := Kept.refl created.sound (fun other => ((game.allocate { id, count, attributes }).items other).id =
    ((game.allocate { id, count, attributes }).items game.next).id)
  unfold payOut
  simp only [made]
  split
  · split
    · exact after _ (addItem_kept gentle _ created.sound fresh isStackable)
    · exact after _ refl
  · exact after _ (addItem_kept gentle _ created.sound fresh isStackable)

/-- A stack that is worth more apiece than all the coins paid out stays where it is. -/
theorem payOut_foldl_kept (gentle : env.Gentle) (change : List (Nat × Nat)) {game : Game}
    (sound : game.layout.Sound env.items) {holder : Cylinder} {ptr : ItemPtr} (member : ptr ∈ game.contents holder)
    (coins : ∀ stack ∈ change, (env.items.get stack.1).stackable = true ∧
      stack.2 ≤ (env.items.get stack.1).stackSize ∧ 0 < stack.2 ∧ stack.1 ≠ (game.items ptr).id) :
    let paid := change.foldl (fun game stack => game.payOut env cylinder flags stack.1 stack.2) game
    paid.layout.Sound env.items ∧ ptr ∈ paid.contents holder ∧ (paid.items ptr).id = (game.items ptr).id ∧
      (game.items ptr).count ≤ (paid.items ptr).count := by
  induction change generalizing game with
  | nil => exact ⟨sound, member, rfl, Nat.le_refl _⟩
  | cons stack rest ih =>
    obtain ⟨stackable, fits, positive, different⟩ := coins stack List.mem_cons_self
    have kept := payOut_kept cylinder flags gentle sound stackable fits positive
    obtain ⟨there, id, less⟩ := kept.kept holder ptr (fun same => different same.symm) member
    have id : ((game.payOut env cylinder flags stack.1 stack.2).items ptr).id = (game.items ptr).id := id
    obtain ⟨still, soundAfter, sameId, more⟩ := ih kept.sound there
      (fun other listed => id ▸ coins other (List.mem_cons_of_mem _ listed))
    exact ⟨still, soundAfter, sameId.trans id, Nat.le_trans less more⟩

end

end Styller.Game
