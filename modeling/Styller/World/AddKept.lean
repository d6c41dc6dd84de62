import Styller.World.AddConserves

/-! An addition leaves everything else where it is, wherever it ends up itself. -/

namespace Styller

open Library Layout

/-- Teleports and mailboxes move the thing that comes to them and nothing else. -/
structure Env.Gentle (env : Env) : Prop where
  teleport : ∀ game place ptr, game.layout.Sound env.items →
    Kept env.items (· = ptr) game.layout (env.teleportAddThing game place ptr).layout
  mailbox : ∀ game place ptr, game.layout.Sound env.items →
    Kept env.items (· = ptr) game.layout (env.mailboxAddThing game place ptr).layout

namespace Layout
variable {items : ItemTypes} {before middle after : Layout} {ptr : ItemPtr} {cylinder : Cylinder} {size : Nat}
  {moves : ItemPtr → Prop}

theorem Kept.refl (sound : before.Sound items) (moves : ItemPtr → Prop) : Kept items moves before before where
  sound := sound
  kept := fun _ _ _ member => ⟨member, rfl, Nat.le_refl _⟩

theorem Kept.trans (first : Kept items moves before middle) (second : Kept items moves middle after) :
    Kept items moves before after where
  sound := second.sound
  kept := by
    intro holder other different member
    obtain ⟨there, id, less⟩ := first.kept holder other different member
    obtain ⟨still, sameId, more⟩ := second.kept holder other different there
    exact ⟨still, sameId.trans id, less.trans more⟩

theorem Grown.kept_but {holders : Finset Cylinder} {type : Nat}
    (grown : Grown items holders type before after size) (moves : ItemPtr → Prop) :
    Kept items moves before after where
  sound := grown.sound
  kept := fun holder other _ member => grown.kept holder other member

theorem Reduced.kept_but (reduced : Reduced items before after cylinder ptr size) :
    Kept items (· = ptr) before after where
  sound := reduced.sound
  kept := by
    intro holder other different member
    rw [reduced.id, reduced.count other different]
    exact ⟨(reduced.others holder other different).mpr member, rfl, Nat.le_refl _⟩

theorem Kept.mono {more : ItemPtr → Prop} (kept : Kept items moves before after)
    (wider : ∀ holder other, other ∈ before.contents holder → moves other → more other) :
    Kept items more before after where
  sound := kept.sound
  kept := fun holder other stays member =>
    kept.kept holder other (fun may => stays (wider holder other member may)) member

end Layout

namespace Game
variable {env : Env} {game : Game}

/-- What `queryRemove` lets go can be taken. -/
theorem removeThing_kept (sound : game.layout.Sound env.items) {cylinder : Cylinder} {ptr : ItemPtr}
    {count : Nat} {flags : CylinderFlags} {actor : Option PlayerId}
    (allowed : game.queryRemove env cylinder ptr count flags actor = .noError) :
    Kept env.items (· = ptr) game.layout (game.removeThing env cylinder ptr count).layout := by
  by_cases live : game.layout.Live cylinder
  · obtain ⟨inside, _, enough⟩ := queryRemove_noError env live allowed
    exact (removeThing_reduced env game sound inside enough).kept_but
  · -- nothing is taken from an item that is no container
    unfold Live at live
    rw [not_forall] at live
    obtain ⟨holder, live⟩ := live
    rw [Classical.not_imp] at live
    obtain ⟨rfl, noContainer⟩ := live
    have noContainer : ¬ (game.items holder).isContainer = true := noContainer
    simp only [removeThing, if_neg noContainer]
    exact Kept.refl sound (· = ptr)

theorem internalRemoveItem_kept (sound : game.layout.Sound env.items) (ptr : ItemPtr) (count : Int)
    (test : Bool) (flags : CylinderFlags) :
    Kept env.items (· = ptr) game.layout (game.internalRemoveItem env ptr count test flags).2.layout := by
  rcases internalRemoveItem_cases env game ptr count test flags with same | ⟨cylinder, size, _, allowed, taken⟩
  · rw [same]
    exact Kept.refl sound (· = ptr)
  · rw [taken, layout_postRemoveNotification]
    exact removeThing_kept sound allowed

theorem trashHolderAddThing_kept (sound : game.layout.Sound env.items) (trash ptr : ItemPtr) :
    Kept env.items (· = ptr) game.layout (game.trashHolderAddThing env trash ptr).layout := by
  unfold trashHolderAddThing
  simp only
  split
  · exact Kept.refl sound (· = ptr)
  · generalize ((game.items ptr).isHangable env.items && (env.items.get (game.items trash).id).isGroundTile &&
      _ : Bool) = onWall
    split
    · exact Kept.refl sound (· = ptr)
    · exact internalRemoveItem_kept sound ptr _ _ _

section
variable (gentle : env.Gentle)
include gentle

/-- Whatever a tile does with what comes to it. -/
theorem postAddNotification_kept (sound : game.layout.Sound env.items) (cylinder : Cylinder)
    (ptr : ItemPtr) : Kept env.items (· = ptr) game.layout (game.postAddNotification env cylinder ptr).layout := by
  have refl := Kept.refl sound (· = ptr)
  have calm : (∀ pos, cylinder ≠ .tile pos) → game.layout.Calm cylinder :=
    fun noTile pos here => absurd here (noTile pos)
  cases cylinder with
  | player owner =>
    rw [layout_postAddNotification env game (calm (by simp)) ptr]
    exact refl
  | item holder =>
    rw [layout_postAddNotification env game (calm (by simp)) ptr]
    exact refl
  | tile pos =>
    unfold postAddNotification tileReceives
    simp only
    split
    · split
      · split
        · exact gentle.teleport game _ ptr sound
        · exact refl
      · split
        · split
          · exact trashHolderAddThing_kept sound _ ptr
          · exact refl
        · split
          · split
            · exact gentle.mailbox game _ ptr sound
            · exact refl
          · exact refl
    · exact refl

theorem notifyAdded_kept (sound : game.layout.Sound env.items) (cylinder : Cylinder) (ptr : ItemPtr) :
    Kept env.items (· = ptr) game.layout (game.notifyAdded env cylinder (some ptr)).layout := by
  unfold notifyAdded
  simp only
  split
  · exact postAddNotification_kept gentle sound cylinder ptr
  · exact Kept.refl sound (· = ptr)

/-- A stack that comes to a free place, or to none. -/
theorem addThing_kept {item : ItemPtr} {dest : Destination} (sound : game.layout.Sound env.items)
    (fresh : game.Fresh env item) (stackable : (game.items item).isStackable env.items = true)
    (free : ∀ owner, dest.cylinder = .player owner → ∀ slot ∈ slots, dest.index = slot →
      (game.players owner).inventory slot = none)
    (mapped : ∀ pos, dest.cylinder = .tile pos → game.layout.Admits (.tile pos) dest.index) :
    Kept env.items (· = item) game.layout
      (game.addThing env dest.cylinder dest.index item).layout := by
  have refl := Kept.refl sound (· = item)
  have fits : game.layout.count item ≤ (env.items.get (game.layout.id item)).stackSize := by
    have fits := fresh.stacked stackable
    rw [Item.getStackSize, if_pos stackable] at fits
    exact fits
  have put : game.layout.Admits dest.cylinder dest.index → game.layout.Live dest.cylinder →
      Kept env.items (· = item) game.layout (game.addThing env dest.cylinder dest.index item).layout := by
    intro admits live
    have put := addThing_put env game item admits (alone_of_stackable stackable)
    have listed : dest.cylinder ∈ ({dest.cylinder} : Finset Cylinder) := Finset.mem_singleton_self _
    exact (put.grown sound live fresh.unheld fresh.allocated (fun _ => fits) listed).kept_but _
  cases here : dest.cylinder with
  | player owner =>
    rw [here] at put
    by_cases outside : dest.index < 1 ∨ dest.index > 10
    · simp only [addThing, playerAddThing, if_pos outside]
      exact refl
    · have listed : dest.index.toNat ∈ slots := mem_slots.mpr (by omega)
      have index : dest.index = (dest.index.toNat : Nat) := by omega
      exact put ⟨_, listed, index, free owner here _ listed index⟩ (fun holder same => by cases same)
  | tile pos =>
    rw [here] at put
    exact put (mapped pos here) (fun holder same => by cases same)
  | item holder =>
    rw [here] at put
    have inContainer : (game.items holder).isContainer = true →
        Kept env.items (· = item) game.layout (game.containerAddThing env holder dest.index item).layout := by
      intro container
      by_cases small : dest.index < (game.items holder).maxSize
      · rw [← addThing_container env game container]
        refine put ⟨container, small⟩ ?_
        intro other same
        cases same
        exact container
      · have large : dest.index ≥ (game.items holder).maxSize := by omega
        simp only [containerAddThing, if_pos large]
        exact refl
    simp only [addThing]
    split
    · rename_i kind
      exact inContainer (by simp [Item.isContainer, kind, ItemClass.isContainer])
    · rename_i kind
      exact inContainer (by simp [Item.isContainer, kind, ItemClass.isContainer])
    · rename_i kind
      exact inContainer (by simp [Item.isContainer, kind, ItemClass.isContainer])
    · exact trashHolderAddThing_kept sound _ item
    · exact gentle.mailbox game _ item sound
    · exact gentle.teleport game _ item sound
    · exact refl

theorem addPlaced_kept {item : ItemPtr} {dest : Destination} (sound : game.layout.Sound env.items)
    (fresh : game.Fresh env item) (stackable : (game.items item).isStackable env.items = true)
    (free : ∀ owner, dest.cylinder = .player owner → ∀ slot ∈ slots, dest.index = slot →
      (game.players owner).inventory slot = none)
    (mapped : ∀ pos, dest.cylinder = .tile pos → game.layout.Admits (.tile pos) dest.index) :
    Kept env.items (· = item) game.layout (game.addPlaced env item dest).layout := by
  have added := addThing_kept gentle sound fresh stackable free mapped
  exact added.trans (notifyAdded_kept gentle added.sound dest.cylinder item)

end

/-- A slot that is found for a stack is empty unless the stack merges. -/
theorem free_of_unmerged {item : ItemPtr} {cylinder : Cylinder} {flags : CylinderFlags}
    {dest : Destination} (asked : game.queryDestination env cylinder indexWhereever item none flags = dest)
    (full : ∀ stack, dest.toItem = some stack → (game.items item).isStackable env.items = true →
      ¬ game.Takes env item stack) (owner : PlayerId) (here : dest.cylinder = .player owner) (slot : Nat)
    (listed : slot ∈ slots) (index : dest.index = slot) :
    (game.players owner).inventory slot = none := by
  subst asked
  cases inSlot : (game.players owner).inventory slot with
  | none => rfl
  | some stack =>
    have landed : game.Landed env item (game.queryDestination env cylinder indexWhereever item none flags) :=
      queryDestination_landed env cylinder indexWhereever flags
    have atDest := landed.occupant owner here
    rw [index, getInventoryItem_slot listed, inSlot] at atDest
    obtain ⟨stackable, takes⟩ := queryDestination_whereever env here listed index inSlot
    exact absurd takes (full stack atDest stackable)

/-- Whatever becomes of a stack that is added anywhere, all that is of another type stays. -/
theorem addItem_kept (gentle : env.Gentle) {toCylinder : Cylinder} (fuel : Nat) {game : Game}
    {item : ItemPtr} {flags : CylinderFlags} (sound : game.layout.Sound env.items)
    (fresh : game.Fresh env item) (stackable : (game.items item).isStackable env.items = true) :
    Kept env.items (fun other => (game.items other).id = (game.items item).id) game.layout
      (addItem env fuel game toCylinder item indexWhereever flags false).game.layout := by
  induction fuel generalizing game item flags with
  | zero => exact Kept.refl sound _
  | succ fuel ih =>
    have landed : game.Landed env item
        (game.queryDestination env toCylinder indexWhereever item none flags) :=
      queryDestination_landed env toCylinder indexWhereever flags
    generalize asked : game.queryDestination env toCylinder indexWhereever item none flags = dest at landed
    unfold addItem
    simp only [asked, Bool.false_eq_true, if_false]
    split
    · exact Kept.refl sound _
    · rename_i admitted
      obtain ⟨answer, whole⟩ := addRefusal_noError (not_not.mp admitted)
      have whole := whole stackable
      have mapped : ∀ pos, dest.cylinder = .tile pos → game.layout.Admits (.tile pos) dest.index := by
        intro pos here
        rw [here] at answer
        exact queryAdd_tile env (.inl answer) _
      simp only [layout_addDecay]
      cases target : game.addTarget env item dest with
      | none =>
        have free := free_of_unmerged asked (not_takes target)
        exact (addPlaced_kept gentle sound fresh stackable free mapped).mono
          (fun _ _ _ same => congrArg (fun other => (game.items other).id) same)
      | some toItem =>
        obtain ⟨_, atDest, same⟩ := addTarget_some target
        have sameId : (game.items item).id = (game.items toItem).id := Item.id_eq_of_equals same
        have small : (game.items item).count < 256 := sound.small item
        have different : item ≠ toItem := by
          rintro rfl
          exact fresh.unheld _ (landed.present item atDest)
        have listed : dest.cylinder ∈ ({dest.cylinder} : Finset Cylinder) := Finset.mem_singleton_self _
        obtain ⟨recount, grown, merged⟩ := addMerged_grown sound toCylinder landed.present target listed
        rw [whole] at recount grown merged
        have rest : game.addRest env toCylinder item dest toItem = (game.items item).count -
            game.mergeCount env (some toItem) (game.items item).count := by
          simp only [addRest, whole]
          rw [toInt32, Int.bmod_eq_of_le] <;> omega
        simp only [rest]
        generalize game.addMerged env toCylinder item dest toItem = middle at recount grown ⊢
        generalize game.mergeCount env (some toItem) (game.items item).count = n at *
        have middleId : middle.layout.id = game.layout.id := recount.id
        have start := grown.kept_but (fun other => (game.items other).id = (game.items item).id)
        split
        · rename_i left
          split
          · have stackableMiddle : (middle.items item).isStackable env.items = true := by
              have id : (middle.items item).id = (game.items item).id := congrFun middleId item
              rw [Item.isStackable, id]
              exact stackable
            have fits : (((game.items item).count : Int) - n).toNat ≤
                (middle.items item).getStackSize env.items := by
              have id : (middle.items item).id = (game.items item).id := congrFun middleId item
              have fits := fresh.stacked stackable
              rw [Item.getStackSize, if_pos stackableMiddle, id]
              rw [Item.getStackSize, if_pos stackable] at fits
              omega
            obtain ⟨created, part⟩ := parted {dest.cylinder} grown.sound stackableMiddle
              (((game.items item).count : Int) - n) (by omega) (by omega) fits
            generalize middle.cloneWithCount env item (((game.items item).count : Int) - n) = parted at *
            have partId : (parted.items middle.next).id = (game.items item).id :=
              part.id.trans (congrFun middleId item)
            have partStackable : (parted.items middle.next).isStackable env.items = true := by
              rw [Item.isStackable, partId]
              exact stackable
            have start := start.trans (created.kept_but _)
            refine ⟨(ih created.sound part.fresh partStackable).sound, ?_⟩
            intro holder other stays member
            obtain ⟨there, id, less⟩ := start.kept holder other stays member
            have stays : ¬ (parted.items other).id = (parted.items middle.next).id := by
              rw [partId]
              exact fun same => stays (id.symm.trans same)
            obtain ⟨still, alsoId, more⟩ :=
              (ih created.sound part.fresh partStackable).kept holder other stays there
            exact ⟨still, alsoId.trans id, less.trans more⟩
          · -- nothing was merged, so the item found is full
            have full : ∀ stack, dest.toItem = some stack → (game.items item).isStackable env.items = true →
                ¬ game.Takes env item stack := by
              rintro stack found _ ⟨_, less⟩
              cases atDest.symm.trans found
              omega
            have free := free_of_unmerged asked full
            obtain ⟨middleFresh, _⟩ := fresh.recount recount different
            have stackableMiddle : (middle.items item).isStackable env.items = true := by
              have id : (middle.items item).id = (game.items item).id := congrFun middleId item
              rw [Item.isStackable, id]
              exact stackable
            have placed := addPlaced_kept gentle grown.sound middleFresh stackableMiddle
              (fun owner here slot listed index => (congrFun (congrFun recount.inventory owner) slot).trans
                (free owner here slot listed index))
              (fun pos here => recount.freer.admits (mapped pos here))
            exact start.trans (placed.mono
              (fun _ _ _ same => congrArg (fun other => (game.items other).id) same))
        · exact start.trans ((notifyAdded_kept gentle grown.sound dest.cylinder toItem).mono
            (fun _ other _ same => (congrArg (fun other => (game.items other).id) same).trans sameId.symm))

end Game

end Styller
