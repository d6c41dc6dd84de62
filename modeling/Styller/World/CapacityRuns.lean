import Styller.World.Capacity
import Styller.World.CloneWeight
import Styller.World.Aim
import Styller.World.Exchange
import Styller.World.MoveOutcome
import Styller.World.Table

/-! When runs of `internalMoveItem` and `internalAddItem` leave every container within its capacity. -/

namespace Styller

open Library

/-- All items but one are still of the same types. -/
structure Game.Steady (ptr : ItemPtr) (before after : Game) : Prop where
  next : before.next ≤ after.next
  id : ∀ other, other < before.next → other ≠ ptr → (after.items other).id = (before.items other).id

/-- What a teleport or a mailbox does with a thing overfills no container and changes the type of nothing else. -/
structure Env.Roomy (env : Env) : Prop where
  teleport : ∀ game place ptr, game.Within → (env.teleportAddThing game place ptr).Within
  mailbox : ∀ game place ptr, game.Within → (env.mailboxAddThing game place ptr).Within
  teleport_steady : ∀ game place ptr, Game.Steady ptr game (env.teleportAddThing game place ptr)
  mailbox_steady : ∀ game place ptr, Game.Steady ptr game (env.mailboxAddThing game place ptr)

namespace Game

section
variable {env : Env} {before after game : Game}

theorem Within.tileReceives (roomy : env.Roomy) (within : Within game) (tile : Tile) (ptr : ItemPtr) :
    Within (game.tileReceives env tile ptr) := by
  unfold Game.tileReceives
  simp only
  split
  · split
    · exact roomy.teleport game _ ptr within
    · exact within
  · split
    · split
      · exact within.slim (slim_trashHolderAddThing env _ ptr)
      · exact within
    · split
      · split
        · exact roomy.mailbox game _ ptr within
        · exact within
      · exact within

theorem Within.postAddNotification (roomy : env.Roomy) (within : Within game) (cylinder : Cylinder) (ptr : ItemPtr) :
    Within (game.postAddNotification env cylinder ptr) := by
  cases cylinder with
  | player id => exact within.slim (slim_notify env _ _ .owner)
  | item holder => exact within.slim (slim_notify env _ _ .owner)
  | tile pos =>
    simp only [Game.postAddNotification]
    split
    · exact within.tileReceives roomy _ ptr
    · exact within

theorem Within.notifyAdded (roomy : env.Roomy) (within : Within game) (cylinder : Cylinder) (added : Option ItemPtr) :
    Within (game.notifyAdded env cylinder added) := by
  unfold Game.notifyAdded
  split
  · split
    · exact within.postAddNotification roomy cylinder _
    · exact within
  · exact within

theorem Within.addThing (roomy : env.Roomy) (within : Within game) {cylinder : Cylinder} (index : Int) (ptr : ItemPtr)
    (room : ∀ container, cylinder = .item container → container < game.next → ¬ Tight game container index) :
    Within (game.addThing env cylinder index ptr) := by
  cases cylinder with
  | player id => exact within.slim (slim_playerAddThing id index ptr)
  | tile pos =>
    simp only [Game.addThing]
    split
    · exact within.slim (slim_tileAddThing env pos _ ptr)
    · exact within
  | item holder =>
    simp only [Game.addThing]
    split
    · exact within.containerAddThing env ptr index (room holder rfl)
    · exact within.containerAddThing env ptr index (room holder rfl)
    · exact within.containerAddThing env ptr index (room holder rfl)
    · exact within.slim (slim_trashHolderAddThing env holder ptr)
    · exact roomy.mailbox game holder ptr within
    · exact roomy.teleport game holder ptr within
    · exact within

theorem slim_allocate (item : Item) (single : item.isContainer = false) : Slim game (game.allocate item) := by
  constructor
  · exact Nat.le_succ _
  · intro ptr live
    rw [allocate]
    simp only [setItem_other _ _ (Nat.ne_of_lt live)]
    exact Slimmer.refl _
  · intro ptr behind early
    have here : ptr = game.next := Nat.le_antisymm (Nat.lt_succ_iff.mp early) behind
    rw [here, allocate]
    simp only [setItem_self]
    exact single

/-- The copy of a stack is a stack. -/
theorem slim_clone {ptr : ItemPtr} (stackable : (game.items ptr).isStackable env.items = true) : Slim game (game.clone env ptr) := by
  obtain ⟨attributes, created⟩ := Item.createItem_stackable env.items (env.normalRandom game.next) stackable (game.items ptr).count
  generalize shape : ({ id := _, count := _, attributes } : Item) = copy at created
  have single : copy.isContainer = false := by
    rw [← shape]
    rfl
  unfold Game.clone
  simp only [created]
  split
  · exact slim_allocate copy single
  · split
    · have queued : Slim game { game with toDecayItems := game.next :: game.toDecayItems } :=
        (Slim.refl game).beside rfl rfl
      exact queued.trans (slim_allocate _ single)
    · exact slim_allocate _ single

theorem slim_cloneWithCount {ptr : ItemPtr} (stackable : (game.items ptr).isStackable env.items = true) (newCount : Int) :
    Slim game (game.cloneWithCount env ptr newCount) :=
  (slim_clone stackable).setItemCount game.next newCount

theorem slim_mergeStack (cylinder : Cylinder) (updateItem : Option ItemPtr) (m : Nat) :
    Slim game (game.mergeStack env cylinder updateItem m) := by
  unfold mergeStack
  split
  · exact slim_updateThing env cylinder _ _
  · exact Slim.refl game

theorem slim_splitStack {item : ItemPtr} (stackable : (game.items item).isStackable env.items = true) (newCount : Int) :
    Slim game (game.splitStack env item newCount).2 := by
  unfold splitStack
  split
  · exact slim_cloneWithCount stackable newCount
  · exact Slim.refl game

theorem slim_startDecaying (moveItem : Option ItemPtr) : Slim game (game.startDecaying moveItem) := by
  have refl := Slim.refl game
  cases moveItem with
  | none => exact refl
  | some moved =>
    simp only [startDecaying]
    split
    · have decaying : Slim game (game.setItem moved ((game.items moved).setIntAttr .decayState 1)) :=
        refl.setItem ⟨rfl, rfl, rfl, Nat.le_refl _⟩
      exact decaying.beside rfl rfl
    · exact refl

end

section
variable {env : Env} {before middle after game : Game} {ptr : ItemPtr}

theorem Slim.steady (slim : Slim before after) : Steady ptr before after where
  next := slim.next
  id := fun other live _ => (slim.kept other live).id

theorem Steady.trans (first : Steady ptr before middle) (second : Steady ptr middle after) : Steady ptr before after where
  next := Nat.le_trans first.next second.next
  id := by
    intro other live different
    exact (second.id other (Nat.lt_of_lt_of_le live first.next) different).trans (first.id other live different)

variable (env game ptr) in
theorem steady_containerAddThing (container : ItemPtr) (index : Int) :
    Steady ptr game (game.containerAddThing env container index ptr) := by
  by_cases inside : index < (game.items container).maxSize
  · obtain ⟨hung, slim, added⟩ := containerAddThing_counts container env ptr inside
    refine Steady.trans slim.steady (Steady.trans ?_ added.steady)
    constructor
    · exact Nat.le_refl _
    · intro other _ _
      by_cases same : other = container
      · rw [same, setItem_self]
      · rw [setItem_other _ _ same]
  · rw [containerAddThing, if_pos (Int.not_lt.mp inside)]
    exact (Slim.refl game).steady

theorem steady_addThing (roomy : env.Roomy) (cylinder : Cylinder) (index : Int) :
    Steady ptr game (game.addThing env cylinder index ptr) := by
  cases cylinder with
  | player id => exact (slim_playerAddThing id index ptr).steady
  | tile pos =>
    simp only [addThing]
    split
    · exact (slim_tileAddThing env pos _ ptr).steady
    · exact (Slim.refl game).steady
  | item holder =>
    simp only [addThing]
    split
    · exact steady_containerAddThing env game ptr holder index
    · exact steady_containerAddThing env game ptr holder index
    · exact steady_containerAddThing env game ptr holder index
    · exact (slim_trashHolderAddThing env holder ptr).steady
    · exact roomy.mailbox_steady game holder ptr
    · exact roomy.teleport_steady game holder ptr
    · exact (Slim.refl game).steady

theorem steady_tileReceives (roomy : env.Roomy) (tile : Tile) : Steady ptr game (game.tileReceives env tile ptr) := by
  have refl : Steady ptr game game := (Slim.refl game).steady
  unfold tileReceives
  simp only
  split
  · split
    · exact roomy.teleport_steady game _ ptr
    · exact refl
  · split
    · split
      · exact (slim_trashHolderAddThing env _ ptr).steady
      · exact refl
    · split
      · split
        · exact roomy.mailbox_steady game _ ptr
        · exact refl
      · exact refl

theorem steady_postAddNotification (roomy : env.Roomy) (cylinder : Cylinder) :
    Steady ptr game (game.postAddNotification env cylinder ptr) := by
  cases cylinder with
  | player id => exact (slim_notify env _ _ .owner).steady
  | item holder => exact (slim_notify env _ _ .owner).steady
  | tile pos =>
    simp only [postAddNotification]
    split
    · exact steady_tileReceives roomy _
    · exact (Slim.refl game).steady

end

section
variable {env : Env} {game : Game} {move : Move} {dest : Destination} {toItem : ItemPtr}

variable (env) in
/-- The item of an exchange that is brought to the source, and the notification that it has left its place. -/
theorem swapOut_stages (game : Game) (move : Move) (dest : Destination) (toItem : ItemPtr) : ∃ removed swapped,
    Slim game removed ∧ Slim (removed.addThingWhereever env move.fromCylinder toItem) swapped ∧
      game.swapOut env move dest toItem = (if swapped.getThingIndex env move.fromCylinder toItem ≠ -1
        then swapped.postAddNotification env move.fromCylinder toItem else swapped) := by
  refine ⟨_, _, slim_removeThing env dest.cylinder toItem (game.items toItem).count, ?_, rfl⟩
  split
  · exact slim_postRemoveNotification env _
  · exact Slim.refl _

theorem steady_swapOut (roomy : env.Roomy) : Steady toItem game (game.swapOut env move dest toItem) := by
  obtain ⟨removed, swapped, taken, brought, same⟩ := swapOut_stages env game move dest toItem
  have added : Steady toItem removed (removed.addThingWhereever env move.fromCylinder toItem) := by
    unfold addThingWhereever
    split
    · exact (Slim.refl removed).steady
    · exact steady_addThing roomy _ 0
  have settled := taken.steady.trans (added.trans brought.steady)
  rw [same]
  split
  · exact settled.trans (steady_postAddNotification roomy _)
  · exact settled

/-- An exchange with a source that has room overfills nothing. -/
theorem Within.swapOut (roomy : env.Roomy) (within : Within game)
    (room : ∀ container, move.fromCylinder = .item container → container < game.next → ¬ Tight game container 0) :
    Within (game.swapOut env move dest toItem) := by
  obtain ⟨removed, swapped, taken, brought, same⟩ := swapOut_stages env game move dest toItem
  have added : Within (removed.addThingWhereever env move.fromCylinder toItem) := by
    unfold addThingWhereever
    split
    · exact within.slim taken
    · apply (within.slim taken).addThing roomy
      intro container here live
      exact taken.notTight live (room container here)
  have settled := added.slim brought
  rw [same]
  split
  · exact settled.postAddNotification roomy _ _
  · exact settled

variable (env dest toItem) in
/-- A full source is a container with one item too many. -/
theorem Within.swapOut_oneOver (within : Within game) {container : ItemPtr} (source : move.fromCylinder = .item container)
    (live : container < game.next) (isContainer : (game.items container).isContainer = true) :
    OneOver container (game.swapOut env move dest toItem) ∧
      ((game.swapOut env move dest toItem).items container).isContainer = true := by
  obtain ⟨removed, swapped, taken, brought, same⟩ := swapOut_stages env game move dest toItem
  rw [source] at brought same
  have stays : (removed.items container).isContainer = true := by
    rw [Item.isContainer, (taken.kept container live).kind]
    exact isContainer
  have added : removed.addThingWhereever env (.item container) toItem = removed.containerAddThing env container 0 toItem := by
    have kinds : (removed.items container).kind = .container ∨ (removed.items container).kind = .depotLocker ∨
        (removed.items container).kind = .depotChest :=
      of_decide_eq_true stays
    change removed.addThing env (.item container) 0 toItem = _
    rcases kinds with kind | kind | kind
    · simp only [Game.addThing, kind]
    · simp only [Game.addThing, kind]
    · simp only [Game.addThing, kind]
  rw [added] at brought
  have crowded := ((within.slim taken).oneOver container env toItem 0).slim brought
  have notified : Slim swapped (game.swapOut env move dest toItem) := by
    rw [same]
    split
    · exact slim_notify env _ _ .owner
    · exact Slim.refl _
  refine ⟨crowded.slim notified, ?_⟩
  have early := Nat.lt_of_lt_of_le live taken.next
  have steady := steady_containerAddThing env removed toItem container 0
  have kept := (containerAddThing_kind container env toItem 0 early).trans (taken.kept container live).kind
  have later := (brought.kept container (Nat.lt_of_lt_of_le early steady.next)).kind
  have last := (notified.kept container (Nat.lt_of_lt_of_le early (Nat.le_trans steady.next brought.next))).kind
  rw [Item.isContainer, last, later, kept]
  exact isContainer

end

section
variable {env : Env} {game : Game} {container ptr : ItemPtr} {count : Nat} {flags : CylinderFlags}

variable (env ptr count) in
theorem containerQueryMaxCount_full (full : Full game container) (limited : flags.noLimit = false) (index : Int) :
    let room := game.containerQueryMaxCount env container index ptr count flags
    ((game.items ptr).isStackable env.items = false → room.1 ≠ .noError ∧ room.2 = 0) ∧
      ((game.items ptr).isStackable env.items = true → index ≠ indexWhereever → room.2 = 0 ∨
        ∃ stack, game.getItemByIndex container index = some stack ∧
          (game.items ptr).equals (some (game.items stack)) = true ∧
            (game.items stack).count < (game.items stack).getStackSize env.items ∧
              room.2 ≤ (game.items stack).getStackSize env.items - (game.items stack).count) := by
  have free : (game.items container).maxSize - (game.items container).itemlist.length = 0 := Nat.sub_eq_zero_of_le full.2
  unfold containerQueryMaxCount
  simp only [limited, free, Bool.false_eq_true, if_false]
  constructor
  · intro single
    simp only [single, Bool.false_eq_true, if_false, if_true]
    exact ⟨nofun, trivial⟩
  · intro stackable place
    simp only [stackable, if_true, if_neg place, Nat.zero_mul, Nat.zero_add]
    cases there : game.getItemByIndex container index with
    | none => exact .inl rfl
    | some stack =>
      simp only
      split
      · next alike =>
        right
        refine ⟨stack, rfl, alike.1, alike.2, ?_⟩
        split
        · exact Nat.le_refl _
        · exact Nat.zero_le _
      · exact .inl rfl

/-- `queryAdd` refuses what may go anywhere in a full container. -/
theorem queryAdd_full (full : Full game container) (limited : flags.noLimit = false) (own : flags.childIsOwner = false)
    (actor : Option PlayerId) : game.queryAdd env (.item container) indexWhereever ptr count flags actor ≠ .noError := by
  have refused : game.containerQueryAdd env container indexWhereever ptr count flags actor ≠ .noError := by
    unfold containerQueryAdd
    simp only [limited, full.2, Bool.false_eq_true, not_false_eq_true, and_self, if_true]
    split
    · exact nofun
    · split
      · exact nofun
      · split
        · exact nofun
        · exact nofun
  have kinds : (game.items container).kind = .container ∨ (game.items container).kind = .depotLocker ∨
      (game.items container).kind = .depotChest :=
    of_decide_eq_true full.1
  rcases kinds with kind | kind | kind
  · simp only [queryAdd, holderQueryAdd, kind, own, Bool.false_eq_true, if_false]
    exact refused
  · simp only [queryAdd, holderQueryAdd, kind, own, Bool.false_eq_true, if_false]
    exact refused
  · simp only [queryAdd, holderQueryAdd, kind, own, Bool.false_eq_true, if_false, depotChestQueryAdd]
    split
    · next first => exact first
    · exact refused

end

section
variable {env : Env} {game : Game} {move : Move} {dest : Destination} {container : ItemPtr}

theorem roomFor_container (here : dest.cylinder = .item container) (isContainer : (game.items container).isContainer = true) :
    game.roomFor env move dest = game.containerQueryMaxCount env container dest.index move.item move.count dest.flags := by
  rw [roomFor, here]
  exact queryMaxCount_container env isContainer _ _ _ _

/-- Nothing but a stack gets into a full container. -/
theorem refusal_full (here : dest.cylinder = .item container) (full : Full game container) (limited : dest.flags.noLimit = false)
    (single : (game.items move.item).isStackable env.items = false) : game.refusal env move dest ≠ .noError := by
  obtain ⟨error, nothing⟩ := (containerQueryMaxCount_full env move.item move.count full limited
    dest.index).1 single
  unfold refusal
  simp only
  rw [roomFor_container here full.1, if_pos ⟨error, nothing⟩]
  exact error

theorem mergeCount_zero (updateItem : Option ItemPtr) : game.mergeCount env updateItem 0 = 0 := by
  cases updateItem with
  | none => rfl
  | some stack => exact Nat.min_zero _

theorem getStackSize_congr {before after : Item} (id : after.id = before.id) :
    after.getStackSize env.items = before.getStackSize env.items := by
  unfold Item.getStackSize Item.isStackable
  rw [id]

/-- A stack with room for it takes all that is merged with it. -/
theorem mergeCount_all {stack : ItemPtr} {m : Nat}
    (fits : m ≤ (game.items stack).getStackSize env.items - (game.items stack).count) :
    game.mergeCount env (some stack) m = m := by
  have size : (game.items stack).getStackSize env.items < 256 := by
    unfold Item.getStackSize
    split
    · exact env.items.stackSize_lt _
    · decide
  rw [mergeCount, toUInt32]
  omega

/-- A stack that gets into a full container merges with a stack that is there, all of it. -/
theorem deliver_full (here : dest.cylinder = .item container) (full : Full game container) (aimed : game.Aimed dest)
    (apart : dest.toItem ≠ some move.item)
    (allowed : game.queryAdd env dest.cylinder dest.index move.item move.count dest.flags move.actor = .noError)
    (admitted : game.refusal env move dest = .noError)
    (owner : dest.flags.childIsOwner = true → dest.index = indexWhereever → (game.roomFor env move dest).2 = 0) :
    (game.deliver env move dest (game.moveCount env move dest)).1 = none := by
  have limited := aimed.limited container here
  have stackable : (game.items move.item).isStackable env.items = true := by
    by_contra single
    exact refusal_full here full limited (eq_false_of_ne_true single) admitted
  have room : (game.roomFor env move dest).2 = 0 ∨ ∃ stack, dest.toItem = some stack ∧
      (game.items move.item).equals (some (game.items stack)) = true ∧
        (game.items stack).count < (game.items stack).getStackSize env.items ∧
          (game.roomFor env move dest).2 ≤ (game.items stack).getStackSize env.items - (game.items stack).count := by
    by_cases place : dest.index = indexWhereever
    · left
      by_cases own : dest.flags.childIsOwner = true
      · exact owner own place
      · rw [here, place] at allowed
        exact absurd allowed (queryAdd_full full limited (eq_false_of_ne_true own) move.actor)
    · have known := (containerQueryMaxCount_full env move.item move.count full limited
        dest.index).2 stackable place
      rw [roomFor_container here full.1]
      rcases known with nothing | ⟨stack, there, alike, part, enough⟩
      · exact .inl nothing
      · refine .inr ⟨stack, ?_, alike, part, enough⟩
        rcases aimed.aim container here full.1 with whereever | atPlace
        · exact absurd whereever place
        · exact atPlace stack there
  have count : game.moveCount env move dest ≤ (game.roomFor env move dest).2 := moveCount_le
  generalize game.moveCount env move dest = m at count ⊢
  have all : (game.removeThing env move.fromCylinder move.item m).mergeCount env
      ((game.removeThing env move.fromCylinder move.item m).mergesWith move.item dest.toItem) m = m := by
    rcases room with nothing | ⟨stack, atDest, alike, part, enough⟩
    · rw [nothing, Nat.le_zero] at count
      rw [count]
      exact mergeCount_zero _
    · have fits := count.trans enough
      have same : game.Alike (game.removeThing env move.fromCylinder move.item m) := alike_removeThing env _ _ _
      have counts : CountsBut move.item game (game.removeThing env move.fromCylinder move.item m) :=
        countsBut_removeThing env move.fromCylinder move.item m
      have sameCount := counts stack (fun here => apart (atDest.trans (congrArg some here)))
      have merges : (game.removeThing env move.fromCylinder move.item m).mergesWith move.item dest.toItem = some stack := by
        rw [mergesWith, atDest, Option.filter_some, same.equals game, if_pos alike]
      rw [merges]
      apply mergeCount_all
      rw [getStackSize_congr (same stack).1, sameCount]
      exact fits
  simp only [deliver, stackable, if_true]
  rw [all, splitStack, if_neg]
  rw [Int.sub_self]
  decide

/-- A transfer overfills no container if what comes to a full one merges. -/
theorem Within.transfer (roomy : env.Roomy) (live : move.item < game.next)
    (within : Within (game.removeThing env move.fromCylinder move.item (game.moveCount env move dest)))
    (merges : ∀ container, dest.cylinder = .item container → container < game.next → Tight game container dest.index →
      (game.deliver env move dest (game.moveCount env move dest)).1 = none) :
    Within (game.transfer env move dest).2 := by
  have delivered : Within (game.deliver env move dest (game.moveCount env move dest)).2.2 := by
    generalize game.moveCount env move dest = m at within merges ⊢
    have taken : Slim game (game.removeThing env move.fromCylinder move.item m) := slim_removeThing env _ _ _
    have sameId := (taken.kept move.item live).id
    simp only [deliver] at merges ⊢
    generalize game.removeThing env move.fromCylinder move.item m = removed at within taken sameId merges ⊢
    generalize (if (game.items move.item).isStackable env.items = true then removed.mergesWith move.item dest.toItem
      else none) = updateItem at merges ⊢
    have merged : Slim removed (removed.mergeStack env dest.cylinder updateItem m) := slim_mergeStack dest.cylinder updateItem m
    generalize toInt32 ((m : Int) - removed.mergeCount env updateItem m) = newCount at merges ⊢
    generalize removed.mergeStack env dest.cylinder updateItem m = stacked at merged merges ⊢
    have mergedId := (merged.kept move.item (Nat.lt_of_lt_of_le live taken.next)).id
    have split : Slim stacked (if (game.items move.item).isStackable env.items = true then
        stacked.splitStack env move.item newCount else (some move.item, stacked)).2 := by
      split
      · next stackable =>
        apply slim_splitStack
        rw [Item.isStackable, mergedId, sameId]
        exact stackable
      · exact Slim.refl stacked
    generalize (if (game.items move.item).isStackable env.items = true then
        stacked.splitStack env move.item newCount else (some move.item, stacked)) = parted at split merges ⊢
    have slim := merged.trans split
    cases parted with
    | mk moveItem parted =>
      cases moveItem with
      | none => exact within.slim slim
      | some moved =>
        refine (within.slim slim).addThing roomy dest.index moved ?_
        intro container here early
        apply (taken.trans slim).notTight early
        intro there tight
        cases merges container here there tight
  simp only [Game.transfer]
  generalize game.deliver env move dest (game.moveCount env move dest) = parts at delivered ⊢
  have announced : Within (parts.2.2.announce env move dest (game.getThingIndex env move.fromCylinder move.item) parts.1 parts.2.1) := by
    unfold announce
    apply Within.notifyAdded roomy
    apply Within.notifyAdded roomy
    split
    · exact delivered.slim (slim_postRemoveNotification env _)
    · exact delivered
  split
  · exact announced
  · exact announced.slim (slim_startDecaying _)

/-- In an exchange with a full source, the item leaves the source whole. -/
def LeavesWhole (env : Env) (game : Game) (move : Move) (toItem : ItemPtr) : Prop :=
  game.answerAfterSwap env move toItem = .noError ∧
    let swapped := game.swapOut env move (game.destination env move) toItem
    ((swapped.items move.item).isStackable env.items = true →
      swapped.moveCount env move (game.freed env move) = (swapped.items move.item).count)

/-- The moves that overfill nothing: no exchange puts another item into a full source that the moved item does not
leave, and a full container is not spared its own check. -/
structure MoveFits (env : Env) (game : Game) (move : Move) : Prop where
  exchange : game.Asked env move → ∀ container, move.fromCylinder = .item container → container < game.next →
    Tight game container 0 → ∀ toItem, Exchanges env game move toItem → game.LeavesWhole env move toItem
  owner : game.Asked env move → ∀ container, (game.destination env move).cylinder = .item container →
    container < game.next → Tight game container (game.destination env move).index →
      (game.destination env move).flags.childIsOwner = true → (game.destination env move).index = indexWhereever →
        game.addAnswer env move = .noError → game.refusal env move (game.destination env move) ≠ .noError

/-- A container that asks for an exchange is not meant for a stack. -/
theorem single_of_needExchange {container : ItemPtr} (here : dest.cylinder = .item container)
    (needs : game.queryAdd env dest.cylinder dest.index move.item move.count dest.flags move.actor = .needExchange) :
    (game.items move.item).isStackable env.items = false := by
  rw [here] at needs
  rcases queryAdd_needExchange env needs with hangable | ⟨owner, _, elsewhere, _⟩
  · by_contra stackable
    have plain := (env.items.stackable_plain _ (eq_true_of_ne_false stackable)).notHangable
    exact absurd hangable (Bool.eq_false_iff.mp plain)
  · cases elsewhere

theorem Within.internalMoveItem (roomy : env.Roomy) (within : Within game) (limited : move.flags.noLimit = false)
    (live : move.item < game.next) (fits : MoveFits env game move) {result : ReturnValue × Game}
    (moved : game.internalMoveItem env move = some result) : Within result.2 := by
  by_cases asked : game.Asked env move
  · have aimed : game.Aimed (game.destination env move) := destination_aimed move limited
    cases internalMoveItem_outcome moved with
    | unchanged ret => exact within
    | moved apart allowed admitted =>
      apply Within.transfer roomy live (within.slim (slim_removeThing env _ _ _))
      intro container here early tight
      rcases allowed with allowed | needs
      · apply deliver_full here tight.1 aimed apart allowed admitted
        intro own place
        exact absurd admitted (fits.owner asked container here early tight own place allowed)
      · exact absurd admitted (refusal_full here tight.1 (aimed.limited container here) (single_of_needExchange here needs))
    | refused toItem exchanges refused =>
      apply within.swapOut roomy
      intro container source early tight
      exact refused (fits.exchange asked container source early tight toItem exchanges).1
    | exchanged toItem exchanges admitted =>
      have steady : Steady toItem game (game.swapOut env move (game.destination env move) toItem) := steady_swapOut roomy
      have sameId := steady.id move.item live exchanges.apart.symm
      obtain ⟨_, allowed⟩ := answerAfterSwap_noError admitted
      apply Within.transfer roomy (Nat.lt_of_lt_of_le live steady.next)
      · by_cases full : ∃ container, move.fromCylinder = .item container ∧ container < game.next ∧ Tight game container 0
        · obtain ⟨container, source, early, tight⟩ := full
          obtain ⟨_, whole⟩ := fits.exchange asked container source early tight toItem exchanges
          obtain ⟨crowded, isContainer⟩ := within.swapOut_oneOver env (game.destination env move) toItem source early tight.1.1
          have alive : (game.swapOut env move (game.destination env move) toItem).layout.Live move.fromCylinder := by
            intro holder here
            cases source.symm.trans here
            exact isContainer
          obtain ⟨_, inside, _, _⟩ := refusal_noError alive allowed
          rw [source] at inside ⊢
          simp only [getThingIndex] at inside
          simp only [removeThing, isContainer, if_true]
          exact crowded.removed env (indexIn_ne_iff.mp inside) whole
        · refine (within.swapOut roomy ?_).slim (slim_removeThing env _ _ _)
          intro container source early tight
          exact full ⟨container, source, early, tight⟩
      · intro container here early tight
        have single := single_of_needExchange here exchanges.needs
        rw [Item.isStackable, ← sameId] at single
        exact absurd allowed (refusal_full here tight.1 (aimed.limited container here) single)
  · rw [internalMoveItem_of_not_asked asked moved]
    exact within

end

section
variable {env : Env} {game : Game} {toCylinder : Cylinder} {item : ItemPtr} {dest : Destination}

/-- What comes to a full container merges, at least in part, with a stack that is there. -/
def Merges (env : Env) (game : Game) (item : ItemPtr) (dest : Destination) : Prop :=
  ∀ container, dest.cylinder = .item container → container < game.next → Tight game container dest.index →
    ∃ toItem, game.addTarget env item dest = some toItem ∧ 0 < game.mergeCount env (some toItem) 1

/-- The additions that overfill nothing, with those of the remainders. -/
def AddFits (env : Env) : Nat → Game → Cylinder → ItemPtr → Int → CylinderFlags → Prop
  | 0, _, _, _, _, _ => True
  | fuel + 1, game, toCylinder, item, index, flags =>
    let dest := game.queryDestination env toCylinder index item none flags
    game.addRefusal env toCylinder item dest = .noError → game.Merges env item dest ∧
      ∀ toItem, game.addTarget env item dest = some toItem →
        let count := game.addRest env toCylinder item dest toItem
        let parted := (game.addMerged env toCylinder item dest toItem).cloneWithCount env item count
        0 < count → ((game.items item).count : Int) ≠ count →
          AddFits env fuel parted toCylinder (game.addMerged env toCylinder item dest toItem).next indexWhereever dest.flags

/-- What a stack leaves over is less than what was added, if it takes anything. -/
theorem addRest_less {toItem : ItemPtr} (takes : 0 < game.mergeCount env (some toItem) 1)
    (positive : 0 < game.addRest env toCylinder item dest toItem) :
    ((game.items item).count : Int) ≠ game.addRest env toCylinder item dest toItem := by
  have most : game.addCount env toCylinder item dest ≤ (game.items item).count := Nat.min_le_left _ _
  simp only [addRest] at positive ⊢
  generalize game.addCount env toCylinder item dest = m at most positive ⊢
  simp only [mergeCount] at takes positive ⊢
  generalize toUInt32 ((game.items toItem).getStackSize env.items - (game.items toItem).count) = room at takes positive ⊢
  have some : 0 < room := by omega
  have less : toInt32 ((m : Int) - (min room m : Nat)) ≤ (m : Int) - (min room m : Nat) := by
    rw [toInt32, Int.bmod_def]
    split
    · omega
    · omega
  omega

theorem Within.addPlaced (roomy : env.Roomy) (within : Within game)
    (room : ∀ container, dest.cylinder = .item container → container < game.next → ¬ Tight game container dest.index) :
    Within (game.addPlaced env item dest) :=
  (within.addThing roomy dest.index item room).notifyAdded roomy dest.cylinder (some item)

theorem slim_addDecay (ptr : ItemPtr) : Slim game (game.addDecay ptr) := by
  unfold addDecay
  split
  · have decaying : Slim game (game.setItem ptr ((game.items ptr).setIntAttr .decayState 1)) :=
      (Slim.refl game).setItem ⟨rfl, rfl, rfl, Nat.le_refl _⟩
    exact decaying.beside rfl rfl
  · exact Slim.refl game

/-- The copy of a stack gets the next address. -/
theorem cloneWithCount_next (stackable : (game.items item).isStackable env.items = true) (newCount : Int) :
    (game.cloneWithCount env item newCount).next = game.next + 1 := by
  obtain ⟨attributes, created⟩ := Item.createItem_stackable env.items (env.normalRandom game.next) stackable (game.items item).count
  simp only [cloneWithCount, clone, created, setItem_next]
  repeat' split
  all_goals rfl

theorem Within.addItem (roomy : env.Roomy) (within : Within game) (live : item < game.next) {fuel : Nat} {index : Int}
    {flags : CylinderFlags} (test : Bool) (fits : test = false → AddFits env fuel game toCylinder item index flags) :
    Within (game.addItem env fuel toCylinder item index flags test).game := by
  induction fuel generalizing game item index flags test with
  | zero => exact within
  | succ fuel ih =>
    simp only [AddFits] at fits
    simp only [Game.addItem]
    generalize game.queryDestination env toCylinder index item none flags = dest at fits ⊢
    split
    · exact within
    · next admitted =>
      split
      · exact within
      · next real =>
        obtain ⟨merges, remains⟩ := fits (eq_false_of_ne_true real) (not_not.mp admitted)
        refine Within.slim ?_ (slim_addDecay item)
        cases target : game.addTarget env item dest with
        | none =>
          apply within.addPlaced roomy
          intro container here early tight
          obtain ⟨toItem, there, _⟩ := merges container here early tight
          cases target.symm.trans there
        | some toItem =>
          have remains := remains toItem target
          have stackable : (game.items item).isStackable env.items = true := by
            by_contra single
            rw [addTarget, if_neg single] at target
            cases target
          have slim : Slim game (game.addMerged env toCylinder item dest toItem) := slim_mergeStack dest.cylinder _ _
          have mergedId := (slim.kept item live).id
          simp only
          generalize game.addMerged env toCylinder item dest toItem = merged at slim mergedId remains ⊢
          rw [Item.isStackable, ← mergedId] at stackable
          split
          · next positive =>
            split
            · next less =>
              apply ih
              · exact (within.slim slim).slim (slim_cloneWithCount stackable _)
              · rw [cloneWithCount_next stackable]
                exact Nat.lt_succ_self _
              · intro _
                exact remains positive less
            · next all =>
              apply (within.slim slim).addPlaced roomy
              intro container here early
              apply slim.notTight early
              intro there tight
              obtain ⟨other, same, takes⟩ := merges container here there tight
              cases target.symm.trans same
              exact all (addRest_less takes positive)
          · exact (within.slim slim).notifyAdded roomy dest.cylinder (some toItem)

end

inductive Call where
  | move (move : Move)
  | add (toCylinder : Cylinder) (item : ItemPtr) (index : Int) (flags : CylinderFlags) (test : Bool)

namespace Call

def item : Call → ItemPtr
  | .move moved => moved.item
  | .add _ item _ _ _ => item

def flags : Call → CylinderFlags
  | .move moved => moved.flags
  | .add _ _ _ flags _ => flags

/-- The state after the call, if it returns. -/
def run (env : Env) (game : Game) : Call → Option Game
  | .move moved => (game.internalMoveItem env moved).map Prod.snd
  | .add toCylinder item index flags test => some (game.internalAddItem env toCylinder item index flags test).game

end Call

/-- The calls that overfill nothing. -/
def CallFits (game : Game) : Env × Call → Prop
  | (env, .move move) => MoveFits env game move
  | (env, .add toCylinder item index flags test) =>
    test = false → AddFits env ((game.items item).count + 1) game toCylinder item index flags

/-- The runs of calls on existing items without `FLAG_NOLIMIT`, from games with no overfull container; scripts and
events may answer differently at every call. -/
def callSystem (worlds : Env → Prop) : System Game (Env × Call) where
  init game := game.Within
  step game call after := worlds call.1 ∧ call.2.flags.noLimit = false ∧ call.2.item < game.next ∧
    call.2.run call.1 game = some after

theorem within_invariant {worlds : Env → Prop} (roomy : ∀ env, worlds env → env.Roomy) :
    (callSystem worlds).Invariant CallFits Within := by
  constructor
  · intro game within
    exact within
  · intro game call after within fits taken
    obtain ⟨env, call⟩ := call
    obtain ⟨known, limited, live, ran⟩ := taken
    cases call with
    | move moving =>
      have ran : (game.internalMoveItem env moving).map Prod.snd = some after := ran
      obtain ⟨result, moved, same⟩ := Option.map_eq_some_iff.mp ran
      rw [← same]
      exact within.internalMoveItem (roomy env known) limited live fits moved
    | add toCylinder item index flags test =>
      cases ran
      exact within.addItem (roomy env known) live test fits

/-- In a backpack slot, a bag with seven swords and forty coins, and ten coins elsewhere. -/
def laden : Game :=
  ofTables
    ([{ id := 1987, kind := .container, maxSize := 8, parent := some (.player 0), itemlist := [1, 2, 3, 4, 5, 6, 7, 8] }] ++
      List.replicate 7 { id := 2376, parent := some (.item 0) } ++
      [{ id := 2148, count := 40, parent := some (.item 0) }, { id := 2148, count := 10 }])
    [(0, { inventory := fun slot => if slot = 3 then some 0 else none, capacity := 100000 })] []

theorem roomy_gameEnv (env : Env) (same : env = gameEnv) : env.Roomy := by
  subst same
  constructor
  · exact fun _ _ _ within => within
  · exact fun _ _ _ within => within
  · exact fun game _ _ => (Slim.refl game).steady
  · exact fun game _ _ => (Slim.refl game).steady

/-- A full bag with the sword that is being traded, full hands, an empty bag, and ten coins elsewhere. -/
def burdened : Game :=
  { ofTables
      ([{ id := 1987, kind := .container, maxSize := 8, parent := some (.player 0), itemlist := [1, 2, 3, 4, 5, 6, 7, 8] }] ++
        List.replicate 8 { id := 2376, parent := some (.item 0) } ++
        [{ id := 2376, parent := some (.player 0) }, { id := 2376, parent := some (.player 0) },
          { id := 1987, kind := .container, maxSize := 8, parent := some (.player 0) }, { id := 2148, count := 10 }])
      [(0, { inventory := fun slot => if slot = 3 then some 0 else if slot = 5 then some 9 else if slot = 6 then some 10
          else if slot = 10 then some 11 else none, capacity := 100000 })] [] with
    trading := { players := fun id => if id = 0 then { tradeItem := some 5 } else {}, tradeItems := ∅ } }

end Game

end Styller
