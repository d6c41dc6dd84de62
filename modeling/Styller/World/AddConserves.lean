import Styller.World.AddItem
import Styller.World.MoveConserves

/-! `Game::internalAddItem` adds exactly what it says and takes nothing away. -/

namespace Styller

open Library Function

namespace Layout

/-- What was anywhere and may not move is still there, and is not less. -/
structure Kept (items : ItemTypes) (moves : ItemPtr → Prop) (before after : Layout) : Prop where
  sound : after.Sound items
  kept : ∀ holder other, ¬ moves other → other ∈ before.contents holder → other ∈ after.contents holder ∧
    after.id other = before.id other ∧ before.count other ≤ after.count other

/-- `size` units of a type have come to `holders`, and what was anywhere is still there. -/
structure Grown (items : ItemTypes) (holders : Finset Cylinder) (type : Nat) (before after : Layout)
    (size : Nat) : Prop where
  sound : after.Sound items
  kept : ∀ holder other, other ∈ before.contents holder → other ∈ after.contents holder ∧
    after.id other = before.id other ∧ before.count other ≤ after.count other
  total : ∀ kind, after.total items kind holders =
    before.total items kind holders + if type = kind then size else 0

section
variable {items : ItemTypes} {holders : Finset Cylinder} {type first second : Nat}
  {before middle after : Layout} {cylinder : Cylinder} {ptr : ItemPtr} {item : Item} {size : Nat}

theorem Grown.trans (start : Grown items holders type before middle first)
    (last : Grown items holders type middle after second) :
    Grown items holders type before after (first + second) where
  sound := last.sound
  kept := by
    intro holder other member
    obtain ⟨there, id, less⟩ := start.kept holder other member
    obtain ⟨still, sameId, more⟩ := last.kept holder other there
    exact ⟨still, sameId.trans id, less.trans more⟩
  total := by
    intro kind
    rw [last.total kind, start.total kind]
    split <;> omega

theorem Put.grown (put : Put items before after cylinder ptr) (sound : before.Sound items)
    (live : before.Live cylinder) (unheld : ∀ holder, ptr ∉ before.contents holder)
    (allocated : ptr < before.next)
    (stacked : (items.get (before.id ptr)).stackable = true →
      before.count ptr ≤ (items.get (before.id ptr)).stackSize) (listed : cylinder ∈ holders) :
    Grown items holders (before.id ptr) before after (before.units items ptr) where
  sound := sound.put put live unheld allocated stacked
  kept := by
    intro holder other member
    rw [put.id, put.count]
    exact ⟨put.mem_iff.mpr (.inr member), rfl, Nat.le_refl _⟩
  total := by
    intro kind
    rw [put.total, share]
    simp only [listed, true_and]

theorem Recount.grown (recount : Recount before after ptr (before.count ptr + size))
    (sound : before.Sound items) (held : ptr ∈ before.contents cylinder)
    (stackable : (items.get (before.id ptr)).stackable = true)
    (fits : before.count ptr + size ≤ (items.get (before.id ptr)).stackSize)
    (listed : cylinder ∈ holders) : Grown items holders (before.id ptr) before after size where
  sound := (recount.grows sound held stackable fits).1
  kept := by
    intro holder other member
    rw [recount.contents, recount.id, recount.count]
    refine ⟨member, rfl, ?_⟩
    by_cases same : other = ptr
    · subst same
      rw [update_self]
      exact Nat.le_add_right _ _
    · rw [update_of_ne same]
  total := by
    intro kind
    rw [(recount.grows sound held stackable fits).2, share]
    simp only [listed, true_and]

theorem Create.grown (create : Create before after item) (sound : before.Sound items)
    (small : item.count < 256) (kind : item.kind = .item) (holders : Finset Cylinder) (type : Nat) :
    Grown items holders type before after 0 where
  sound := sound.create create small kind
  kept := by
    intro holder other member
    have old : other ≠ before.next := Nat.ne_of_lt (sound.allocated holder other member)
    rw [create.contents, create.id, create.count, update_of_ne old, update_of_ne old]
    exact ⟨member, rfl, Nat.le_refl _⟩
  total := by
    intro kind
    rw [create.total sound, ite_self]
    rfl

/-- A tile stays as it is when what comes to it is no teleport, trash holder or mailbox. -/
theorem Put.calm (put : Put items before after cylinder ptr) (calm : before.Calm cylinder)
    (quiet : (before.kind ptr).receives = false) : after.Calm cylinder := by
  intro pos here
  rw [Bool.eq_false_iff]
  intro there
  rcases put.receives pos there with old | ⟨_, special⟩
  · rw [calm pos here] at old
    cases old
  · rw [quiet] at special
    cases special

end

end Layout

namespace Game

open Layout

variable (env : Env) (game : Game)

/-- An item that is nowhere yet and no larger than a stack of its type may be. -/
structure Fresh (item : ItemPtr) : Prop where
  unheld : ∀ holder, item ∉ game.contents holder
  allocated : item < game.next
  stacked : (game.items item).isStackable env.items = true →
    (game.items item).count ≤ (game.items item).getStackSize env.items

/-- A part of a stack, as an item of its own. -/
structure Part (middle after : Game) (item : ItemPtr) (size : Nat) : Prop where
  fresh : after.Fresh env middle.next
  id : (after.items middle.next).id = (middle.items item).id
  count : (after.items middle.next).count = size

/-- The destination keeps the item and what it has: a slot that is empty or has a stack to
merge with, a container, or a tile that keeps what comes. -/
structure Open (item : ItemPtr) (dest : Destination) : Prop where
  slot : ∀ owner, dest.cylinder = .player owner → ∃ slot ∈ slots, dest.index = slot ∧
    ∀ stack, (game.players owner).inventory slot = some stack →
      (game.items item).isStackable env.items = true ∧ game.Takes env item stack
  container : ∀ holder, dest.cylinder = .item holder → (game.items holder).isContainer = true
  keeps : game.Keeps env dest.cylinder item

/-- Every destination on the way is open and among `holders`, and what is left over after
merging is added as a whole or not at all. -/
def Accepts (holders : Finset Cylinder) :
    Nat → Game → Cylinder → ItemPtr → Int → CylinderFlags → Prop
  | 0, _, _, _, _, _ => True
  | fuel + 1, game, toCylinder, item, index, flags =>
    let dest := game.queryDestination env toCylinder index item none flags
    dest.cylinder ∈ holders ∧ game.Open env item dest ∧
      ∀ toItem, game.addTarget env item dest = some toItem →
        0 < game.addRest env toCylinder item dest toItem →
        ((game.items item).count : Int) ≠ game.addRest env toCylinder item dest toItem →
        let merged := game.addMerged env toCylinder item dest toItem
        let split := merged.cloneWithCount env item (game.addRest env toCylinder item dest toItem)
        Accepts holders fuel split toCylinder merged.next indexWhereever dest.flags ∧
          ((addItem env fuel split toCylinder merged.next indexWhereever dest.flags false).ret = .noError →
            (addItem env fuel split toCylinder merged.next indexWhereever dest.flags
              false).remainderCount = 0)

section
variable {env game} {toCylinder : Cylinder} {item : ItemPtr} {dest : Destination} {holders : Finset Cylinder}

theorem le_of_answer {room count : Nat} {answer : ReturnValue} (fails : answer ≠ .noError)
    (allowed : (if room < count then answer else .noError) = .noError) : count ≤ room := by
  split at allowed
  · exact absurd allowed fails
  · omega

/-- There is room for the whole item when nothing is refused. -/
theorem addRefusal_noError (allowed : game.addRefusal env toCylinder item dest = .noError) :
    game.queryAdd env dest.cylinder dest.index item (game.items item).count dest.flags none = .noError ∧
      ((game.items item).isStackable env.items = true →
        game.addCount env toCylinder item dest = (game.items item).count) := by
  unfold addRefusal at allowed
  simp only at allowed
  split at allowed
  · rename_i refused
    exact absurd allowed refused
  · rename_i admitted
    refine ⟨not_not.mp admitted, ?_⟩
    intro stackable
    have room : (game.items item).count ≤ (game.addRoom env toCylinder item dest).2 := by
      unfold addRoom at allowed ⊢
      cases toCylinder with
      | tile pos => exact Nat.le_max_right _ _
      | player owner =>
        simp only [queryMaxCount, playerQueryMaxCount, if_true] at allowed ⊢
        exact le_of_answer (by decide) allowed
      | item holder =>
        have inContainer : (containerQueryMaxCount env game holder indexWhereever item
            (game.items item).count dest.flags).1 = .noError → (game.items item).count ≤
              (containerQueryMaxCount env game holder indexWhereever item (game.items item).count
                dest.flags).2 := by
          intro allowed
          unfold containerQueryMaxCount at allowed ⊢
          simp only at allowed ⊢
          by_cases unlimited : dest.flags.noLimit = true
          · rw [if_pos unlimited]
            exact Nat.le_max_right _ _
          · rw [if_neg unlimited, if_pos stackable] at allowed ⊢
            exact le_of_answer (by decide) allowed
        simp only [queryMaxCount] at allowed ⊢
        split at allowed
        · exact inContainer allowed
        · exact inContainer allowed
        · exact inContainer allowed
        · exact Nat.le_max_right _ _
        · exact Nat.le_max_right _ _
        · cases allowed
    unfold addCount
    omega

theorem addTarget_some {toItem : ItemPtr} (target : game.addTarget env item dest = some toItem) :
    (game.items item).isStackable env.items = true ∧ dest.toItem = some toItem ∧
      (game.items item).equals (some (game.items toItem)) = true := by
  unfold addTarget at target
  split at target
  · rename_i stackable
    exact ⟨stackable, Option.filter_eq_some_iff.mp target⟩
  · cases target

/-- Merging leaves an item fresh that is to come after it. -/
theorem Fresh.recount {after : Game} {stack : ItemPtr} {count : Nat} (fresh : game.Fresh env item)
    (recount : Recount game.layout after.layout stack count) (different : item ≠ stack) :
    after.Fresh env item ∧ (after.items item).count = (game.items item).count := by
  have id : (after.items item).id = (game.items item).id := congrFun recount.id item
  have kept : after.layout.count item = game.layout.count item := by
    rw [recount.count, update_of_ne different]
  have kept : (after.items item).count = (game.items item).count := kept
  refine ⟨⟨?_, ?_, ?_⟩, kept⟩
  · intro holder member
    change item ∈ after.layout.contents holder at member
    rw [recount.contents] at member
    exact fresh.unheld holder member
  · change item < after.layout.next
    rw [recount.next]
    exact fresh.allocated
  · intro stackable
    rw [kept]
    unfold Item.getStackSize Item.isStackable at stackable ⊢
    rw [id] at stackable ⊢
    exact fresh.stacked stackable

theorem parted {middle : Game} (holders : Finset Cylinder) (sound : middle.layout.Sound env.items)
    (stackable : (middle.items item).isStackable env.items = true) (rest : Int) (positive : 0 < rest)
    (small : rest < 256) (fits : rest.toNat ≤ (middle.items item).getStackSize env.items) :
    Grown env.items holders (middle.items item).id middle.layout
        (middle.cloneWithCount env item rest).layout 0 ∧
      Part env middle (middle.cloneWithCount env item rest) item rest.toNat := by
  obtain ⟨copy, create, copyId, copyKind, copyCount⟩ := cloneWithCount_create env middle sound stackable rest
  have count : copy.count = rest.toNat := by
    rw [copyCount]
    unfold toUInt8
    omega
  generalize middle.cloneWithCount env item rest = parted at create
  have partId : parted.layout.id middle.next = (middle.items item).id := by
    rw [create.id, ← copyId]
    exact update_self _ _ _
  have partCount : parted.layout.count middle.next = rest.toNat := by
    rw [create.count, ← count]
    exact update_self _ _ _
  have partId : (parted.items middle.next).id = (middle.items item).id := partId
  have partCount : (parted.items middle.next).count = rest.toNat := partCount
  have grown := create.grown sound (by omega) copyKind holders (middle.items item).id
  refine ⟨grown, ⟨?_, ?_, ?_⟩, partId, partCount⟩
  · intro holder member
    change middle.next ∈ parted.layout.contents holder at member
    rw [create.contents] at member
    exact sound.unheld_next holder member
  · change middle.next < parted.layout.next
    rw [create.next]
    exact Nat.lt_succ_self _
  · intro _
    unfold Item.getStackSize Item.isStackable at fits ⊢
    rw [partCount, partId]
    exact fits

/-- What does not merge with the item found has no room in it. -/
theorem not_takes (unmerged : game.addTarget env item dest = none) :
    ∀ stack, dest.toItem = some stack → (game.items item).isStackable env.items = true →
      ¬ game.Takes env item stack := by
  intro stack atDest stackable takes
  have same : (game.items item).equals (some (game.items stack)) = true := by
    rw [Item.equals_comm]
    exact takes.1
  rw [addTarget, if_pos stackable, mergesWith, atDest] at unmerged
  simp [Option.filter, same] at unmerged

theorem layout_addDecay : (game.addDecay item).layout = game.layout := by
  unfold addDecay
  split
  · exact layout_setItem game _ _ ⟨rfl, rfl, rfl, rfl, rfl, rfl⟩
  · rfl

variable (sound : game.layout.Sound env.items) (isOpen : game.Open env item dest)
include sound

/-- A stack that merges takes what it has room for. -/
theorem addMerged_grown (toCylinder : Cylinder) (present : game.Present dest.cylinder dest.toItem) {toItem : ItemPtr}
    (target : game.addTarget env item dest = some toItem) (listed : dest.cylinder ∈ holders) :
    let m := game.addCount env toCylinder item dest
    Recount game.layout (game.addMerged env toCylinder item dest toItem).layout toItem
        ((game.items toItem).count + game.mergeCount env (some toItem) m) ∧
      Grown env.items holders (game.items item).id game.layout
        (game.addMerged env toCylinder item dest toItem).layout (game.mergeCount env (some toItem) m) ∧
      game.mergeCount env (some toItem) m =
        min ((game.items toItem).getStackSize env.items - (game.items toItem).count) m := by
  obtain ⟨stackable, atDest, same⟩ := addTarget_some target
  have sameId : (game.items item).id = (game.items toItem).id := Item.id_eq_of_equals same
  have stackableTo : (game.items toItem).isStackable env.items = true := by
    rw [Item.isStackable, ← sameId]
    exact stackable
  have member := present toItem atDest
  have recount := mergeStack_recount env game (m := game.addCount env toCylinder item dest) sound member
    stackableTo
  have merged := mergeCount_eq env game (m := game.addCount env toCylinder item dest) sound member stackableTo
  have fits := stack_fits env game sound member stackableTo
  have size : (game.items toItem).getStackSize env.items =
      (env.items.get (game.items toItem).id).stackSize := if_pos stackableTo
  refine ⟨recount, ?_, merged⟩
  rw [sameId]
  refine recount.grown sound member stackableTo ?_ listed
  change (game.items toItem).count + _ ≤ (env.items.get (game.items toItem).id).stackSize
  omega

/-- An item that finds a free place stays there. -/
theorem addPlaced_grown (fresh : game.Fresh env item) (keeps : game.Keeps env dest.cylinder item)
    (live : game.layout.Live dest.cylinder) (admits : game.layout.Admits dest.cylinder dest.index)
    (listed : dest.cylinder ∈ holders) :
    Grown env.items holders (game.items item).id game.layout (game.addPlaced env item dest).layout
      (game.layout.units env.items item) := by
  have put := addThing_put env game item admits (fun pos here => (keeps pos here).2.2)
  have calm : (game.addThing env dest.cylinder dest.index item).layout.Calm dest.cylinder := by
    intro pos here
    obtain ⟨quiet, plain, _⟩ := keeps pos here
    refine put.calm ?_ plain pos here
    intro other there
    rw [here] at there
    cases there
    exact quiet
  have same : (game.addPlaced env item dest).layout =
      (game.addThing env dest.cylinder dest.index item).layout := layout_notifyAdded calm (some item)
  rw [same]
  refine put.grown sound live fresh.unheld fresh.allocated ?_ listed
  intro stackable
  have stackable : (game.items item).isStackable env.items = true := stackable
  have fits := fresh.stacked stackable
  rw [Item.getStackSize, if_pos stackable] at fits
  exact fits

omit sound in
/-- Merging lets a tile keep what it would have kept. -/
theorem Keeps.recount {after : Game} {cylinder : Cylinder} {ptr stack : ItemPtr} {count : Nat}
    (keeps : game.Keeps env cylinder ptr) (recount : Recount game.layout after.layout stack count) :
    after.Keeps env cylinder ptr := by
  intro pos here
  obtain ⟨quiet, plain, alone⟩ := keeps pos here
  refine ⟨?_, ?_, ?_⟩
  · rw [Bool.eq_false_iff]
    intro there
    have old := recount.receives pos there
    rw [quiet] at old
    cases old
  · have kind : (after.items ptr).kind = (game.items ptr).kind := congrFun recount.kind ptr
    rw [kind]
    exact plain
  · have same : game.layout.Alone env.items (.tile pos) ptr := by
      intro other there
      cases there
      exact alone
    exact same.of_sublist recount.id recount.kind (fun pos layer other _ member => recount.layers ▸ member) pos rfl

omit sound in
include isOpen in
/-- An item that is not merged has a free place. -/
theorem admits_of_unmerged (landed : game.Landed env item dest)
    (allowed : game.queryAdd env dest.cylinder dest.index item (game.items item).count dest.flags none =
      .noError)
    (full : ∀ stack, dest.toItem = some stack → (game.items item).isStackable env.items = true →
      ¬ game.Takes env item stack) : game.layout.Admits dest.cylinder dest.index := by
  cases here : dest.cylinder with
  | tile pos =>
    rw [here] at allowed
    exact queryAdd_tile env (.inl allowed) _
  | player owner =>
    obtain ⟨slot, listed, index, free⟩ := isOpen.slot owner here
    refine ⟨slot, listed, index, ?_⟩
    cases inSlot : (game.players owner).inventory slot with
    | none => exact inSlot
    | some stack =>
      have atDest := landed.occupant owner here
      rw [index, getInventoryItem_slot listed, inSlot] at atDest
      obtain ⟨stackable, takes⟩ := free stack inSlot
      exact absurd takes (full stack atDest stackable)
  | item holder =>
    have container := isOpen.container holder here
    refine ⟨container, ?_⟩
    rcases landed.place holder here container with small | ⟨stackable, stack, atDest, takes⟩
    · exact small
    · exact absurd takes (full stack atDest stackable)

end

section
variable {env} {toCylinder : Cylinder} {holders : Finset Cylinder}

/-- What is refused changes nothing. -/
theorem addItem_refused (fuel : Nat) {game : Game} {item : ItemPtr} {index : Int} {flags : CylinderFlags}
    {test : Bool} (refused : (addItem env fuel game toCylinder item index flags test).ret ≠ .noError) :
    (addItem env fuel game toCylinder item index flags test).game = game := by
  cases fuel with
  | zero => rfl
  | succ fuel =>
    unfold addItem at refused ⊢
    simp only at refused ⊢
    split
    · rfl
    · rename_i allowed
      rw [if_neg allowed] at refused
      split
      · rfl
      · rename_i real
        rw [if_neg real] at refused
        exact absurd rfl refused

/-- What is accepted arrives, but for the remainder. -/
theorem addItem_grown (fuel : Nat) {game : Game} {item : ItemPtr} {index : Int} {flags : CylinderFlags}
    (sound : game.layout.Sound env.items) (fresh : game.Fresh env item)
    (enough : (game.items item).count < fuel)
    (accepts : Accepts env holders fuel game toCylinder item index flags)
    (allowed : (addItem env fuel game toCylinder item index flags false).ret = .noError) :
    let result := addItem env fuel game toCylinder item index flags false
    result.remainderCount ≤ game.layout.units env.items item ∧
      Grown env.items holders (game.items item).id game.layout result.game.layout
        (game.layout.units env.items item - result.remainderCount) := by
  induction fuel generalizing game item index flags with
  | zero => exact absurd enough (Nat.not_lt_zero _)
  | succ fuel ih =>
    have landed : game.Landed env item (game.queryDestination env toCylinder index item none flags) :=
      queryDestination_landed env toCylinder index flags
    obtain ⟨listed, isOpen, next⟩ := accepts
    unfold addItem at allowed ⊢
    simp only at allowed ⊢
    generalize game.queryDestination env toCylinder index item none flags = dest at *
    split at allowed
    · rename_i refused
      exact absurd allowed refused
    · rename_i admitted
      rw [if_neg admitted]
      obtain ⟨answer, whole⟩ := addRefusal_noError (not_not.mp admitted)
      simp only [Bool.false_eq_true, if_false, layout_addDecay]
      have live : game.layout.Live dest.cylinder := fun holder here => isOpen.container holder here
      cases target : game.addTarget env item dest with
      | none =>
        have admits := admits_of_unmerged isOpen landed answer (not_takes target)
        refine ⟨Nat.zero_le _, ?_⟩
        exact addPlaced_grown sound fresh isOpen.keeps live admits listed
      | some toItem =>
        obtain ⟨stackable, atDest, same⟩ := addTarget_some target
        have whole := whole stackable
        have small : (game.items item).count < 256 := sound.small item
        have units : game.layout.units env.items item = (game.items item).count := if_pos stackable
        obtain ⟨recount, grown, merged⟩ := addMerged_grown sound toCylinder landed.present target listed
        rw [whole] at recount grown merged
        have different : item ≠ toItem := by
          rintro rfl
          exact fresh.unheld _ (landed.present item atDest)
        have rest : game.addRest env toCylinder item dest toItem = (game.items item).count -
            game.mergeCount env (some toItem) (game.items item).count := by
          simp only [addRest, whole]
          rw [toInt32, Int.bmod_eq_of_le] <;> omega
        have next := next toItem target
        simp only [rest] at next ⊢
        generalize game.addMerged env toCylinder item dest toItem = middle at recount grown next ⊢
        generalize game.mergeCount env (some toItem) (game.items item).count = n at *
        have sameId : (middle.items item).id = (game.items item).id := congrFun recount.id item
        rw [units]
        by_cases left : ((game.items item).count : Int) - n > 0
        · by_cases split : ((game.items item).count : Int) ≠ (game.items item).count - n
          · obtain ⟨acceptsRest, noRest⟩ := next left split
            have stackableMiddle : (middle.items item).isStackable env.items = true := by
              rw [Item.isStackable, sameId]
              exact stackable
            have fits : (((game.items item).count : Int) - n).toNat ≤ (middle.items item).getStackSize env.items := by
              have fits := fresh.stacked stackable
              rw [Item.getStackSize, if_pos stackableMiddle, sameId]
              rw [Item.getStackSize, if_pos stackable] at fits
              omega
            obtain ⟨created, part⟩ := parted holders grown.sound stackableMiddle
              (((game.items item).count : Int) - n) (by omega) (by omega) fits
            rw [if_pos left, if_pos split]
            generalize middle.cloneWithCount env item (((game.items item).count : Int) - n) = parted at *
            rw [sameId] at created
            have partId : (parted.items middle.next).id = (game.items item).id := part.id.trans sameId
            have partCount : (parted.items middle.next).count = (game.items item).count - n := by
              rw [part.count]
              omega
            have partUnits : parted.layout.units env.items middle.next = (game.items item).count - n := by
              have partStackable : (env.items.get (parted.items middle.next).id).stackable = true := by
                rw [partId]
                exact stackable
              exact (if_pos partStackable).trans partCount
            have start := grown.trans created
            by_cases arrives : (addItem env fuel parted toCylinder middle.next indexWhereever dest.flags
                false).ret = .noError
            · obtain ⟨_, all⟩ := ih created.sound part.fresh (by omega) acceptsRest arrives
              rw [noRest arrives, partUnits, partId] at all
              rw [if_neg (not_not.mpr arrives)]
              have sum : n + 0 + ((game.items item).count - n - 0) = (game.items item).count - 0 := by omega
              exact ⟨Nat.zero_le _, sum ▸ start.trans all⟩
            · rw [if_pos arrives, addItem_refused fuel arrives]
              have sum : n + 0 = (game.items item).count - (((game.items item).count : Int) - n).toNat := by
                omega
              exact ⟨by omega, sum ▸ start⟩
          · -- nothing was merged, so the item found is full
            rw [if_pos left, if_neg split]
            have full : ∀ stack, dest.toItem = some stack → (game.items item).isStackable env.items = true →
                ¬ game.Takes env item stack := by
              rintro stack found _ ⟨_, less⟩
              cases atDest.symm.trans found
              omega
            have admits := admits_of_unmerged isOpen landed answer full
            obtain ⟨middleFresh, count⟩ := fresh.recount recount different
            have placed := addPlaced_grown grown.sound middleFresh (isOpen.keeps.recount recount)
              (recount.freer.live live) (recount.freer.admits admits) listed
            have middleUnits : middle.layout.units env.items item = (game.items item).count := by
              have stackableMiddle : (env.items.get (middle.items item).id).stackable = true := by
                rw [sameId]
                exact stackable
              exact (if_pos stackableMiddle).trans count
            rw [middleUnits, sameId] at placed
            have sum : n + (game.items item).count = (game.items item).count - 0 := by omega
            exact ⟨Nat.zero_le _, sum ▸ grown.trans placed⟩
        · rw [if_neg left]
          have calm : middle.layout.Calm dest.cylinder :=
            fun pos here => (isOpen.keeps.recount recount pos here).1
          have all : n = (game.items item).count - 0 := by omega
          have same : (middle.notifyAdded env dest.cylinder (some toItem)).layout = middle.layout :=
            layout_notifyAdded calm (some toItem)
          rw [same]
          exact ⟨Nat.zero_le _, all ▸ grown⟩

/-- An addition that is refused changes nothing, and one that is accepted adds exactly the
units of the item but for the remainder to the cylinders where it ends up; nothing that
was anywhere disappears or shrinks. -/
theorem internalAddItem_conserves {game : Game} {item : ItemPtr} {index : Int} {flags : CylinderFlags}
    (sound : game.layout.Sound env.items) (fresh : game.Fresh env item) :
    let result := game.internalAddItem env toCylinder item index flags false
    (result.ret ≠ .noError → result.game = game) ∧
      (result.ret = .noError →
        Accepts env holders ((game.items item).count + 1) game toCylinder item index flags →
        result.remainderCount ≤ game.layout.units env.items item ∧
          Grown env.items holders (game.items item).id game.layout result.game.layout
            (game.layout.units env.items item - result.remainderCount)) :=
  ⟨addItem_refused _, fun allowed accepts =>
    addItem_grown _ sound fresh (Nat.lt_succ_self _) accepts allowed⟩

end

/-- 60 gold coins to be added, and a backpack with 70. -/
def purseGame : Game :=
  ofTables
    [{ id := 1988, kind := .container, maxSize := 20, itemlist := [1], parent := some (.player 1) },
     { id := 2148, count := 70, parent := some (.item 0) },
     { id := 2148, count := 60 },
     { id := 103, parent := some (.tile ⟨100, 100, 7⟩) }]
    [(1, { inventory := fun slot => if slot = 3 then some 0 else none, capacity := 40000,
           tile := some ⟨100, 100, 7⟩ })]
    [(⟨100, 100, 7⟩, { ground := some 3 })]

theorem purseGame_fresh : purseGame.Fresh gameEnv 2 := by
  refine ⟨?_, by decide, fun _ => by decide⟩
  intro holder member
  have sound : purseGame.layout.Sound gameEnv.items := sound_ofTables (by decide)
  have parent : purseGame.layout.parent 2 = some holder := sound.parent holder 2 member
  exact absurd parent (by simp [purseGame, ofTables, layout])

/-- A container never asks for a slot or for a tile that keeps things. -/
theorem open_container {env : Env} {game : Game} {item holder : ItemPtr} {dest : Destination}
    (here : dest.cylinder = .item holder) (container : (game.items holder).isContainer = true) :
    game.Open env item dest where
  slot := by
    intro owner there
    rw [here] at there
    cases there
  container := by
    intro other there
    rw [here] at there
    cases there
    exact container
  keeps := by
    intro pos there
    rw [here] at there
    cases there

theorem purseGame_accepts :
    Accepts gameEnv {.item 0} 61 purseGame (.item 0) 2 indexWhereever CylinderFlags.none := by
  refine ⟨by decide, open_container (show _ = Cylinder.item 0 from by decide) (by decide), ?_⟩
  intro toItem target _ _
  have coins : toItem = 1 := Option.some.inj (target.symm.trans (by decide))
  subst coins
  refine ⟨⟨by decide, open_container (show _ = Cylinder.item 0 from by decide) (by decide), ?_⟩, fun _ => by decide⟩
  intro toItem target
  cases target.symm.trans (show _ = (none : Option ItemPtr) from by decide)

/-- The 60 coins fill the stack of 70, and the rest becomes a stack of its own. -/
theorem internalAddItem_conserves_purse :
    let result := purseGame.internalAddItem gameEnv (.item 0) 2 indexWhereever CylinderFlags.none false
    result.ret = .noError ∧ result.game.layout.total gameItems 2148 {.item 0} = 130 := by
  have sound : purseGame.layout.Sound gameEnv.items := sound_ofTables (by decide)
  have accepted : (purseGame.internalAddItem gameEnv (.item 0) 2 indexWhereever CylinderFlags.none
      false).ret = .noError := by decide
  obtain ⟨_, grown⟩ := (internalAddItem_conserves sound purseGame_fresh).2 accepted purseGame_accepts
  refine ⟨accepted, (grown.total 2148).trans ?_⟩
  decide

/-- A sword to be added, and a tile with a dustbin. -/
def rubbishGame : Game :=
  ofTables
    [{ id := 2376 },
     { id := 103, parent := some (.tile ⟨100, 101, 7⟩) },
     { id := 1777, kind := .trashHolder, parent := some (.tile ⟨100, 101, 7⟩) }]
    []
    [(⟨100, 101, 7⟩, { ground := some 1, downItems := [2], flags := fun flag => flag = .trashHolder })]

/-- The dustbin takes the sword, though the answer is that it has been added. -/
theorem dustbin_takes_added : rubbishGame.layout.Sound gameEnv.items ∧ rubbishGame.Fresh gameEnv 0 ∧
    let result := rubbishGame.internalAddItem gameEnv (.tile ⟨100, 101, 7⟩) 0 indexWhereever
      CylinderFlags.none false
    result.ret = .noError ∧ result.remainderCount = 0 ∧
      result.game.layout.total gameItems 2376 {.tile ⟨100, 101, 7⟩} = 0 := by
  have sound : rubbishGame.layout.Sound gameEnv.items := sound_ofTables (by decide)
  refine ⟨sound, ⟨?_, by decide, fun _ => by decide⟩, by decide, by decide, by decide⟩
  intro holder member
  have parent : rubbishGame.layout.parent 0 = some holder := sound.parent holder 0 member
  exact absurd parent (by simp [rubbishGame, ofTables, layout])

end Game

end Styller
