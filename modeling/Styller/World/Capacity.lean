import Styller.World.AddItem
import Styller.World.CylinderEffect

/-! How many items the containers hold: only `Container::addThing` adds to a container. -/

namespace Styller.Game

/-- Every container holds at most `capacity()` items. -/
def Within (game : Game) : Prop := ∀ ptr, ptr < game.next → (game.items ptr).isContainer = true →
  (game.items ptr).itemlist.length ≤ (game.items ptr).maxSize

/-- The item is a container with no room for another item. -/
def Full (game : Game) (ptr : ItemPtr) : Prop :=
  (game.items ptr).isContainer = true ∧ (game.items ptr).maxSize ≤ (game.items ptr).itemlist.length

/-- An item that is put at the index overfills the container. -/
def Tight (game : Game) (ptr : ItemPtr) (index : Int) : Prop := Full game ptr ∧ index < (game.items ptr).maxSize

/-- Every container but one holds at most `capacity()` items, and that one at most one more. -/
def OneOver (container : ItemPtr) (game : Game) : Prop := ∀ ptr, ptr < game.next → (game.items ptr).isContainer = true →
  (game.items ptr).itemlist.length ≤ (game.items ptr).maxSize + if ptr = container then 1 else 0

/-- The second record is of the same type and class, and has no more items in it than the first. -/
structure Slimmer (before after : Item) : Prop where
  id : after.id = before.id
  kind : after.kind = before.kind
  maxSize : after.maxSize = before.maxSize
  length : after.itemlist.length ≤ before.itemlist.length

/-- No container comes to hold more, and what is new is no container. -/
structure Slim (before after : Game) : Prop where
  next : before.next ≤ after.next
  kept : ∀ ptr, ptr < before.next → Slimmer (before.items ptr) (after.items ptr)
  fresh : ∀ ptr, before.next ≤ ptr → ptr < after.next → (after.items ptr).isContainer = false

variable {before middle after game : Game}

theorem Slimmer.refl (item : Item) : Slimmer item item := ⟨rfl, rfl, rfl, Nat.le_refl _⟩

theorem Slim.refl (game : Game) : Slim game game where
  next := Nat.le_refl _
  kept := fun ptr _ => Slimmer.refl (game.items ptr)
  fresh := fun _ behind early => absurd early (Nat.not_lt.mpr behind)

theorem Slim.trans (first : Slim before middle) (second : Slim middle after) : Slim before after where
  next := Nat.le_trans first.next second.next
  kept := by
    intro ptr live
    have one := first.kept ptr live
    have two := second.kept ptr (Nat.lt_of_lt_of_le live first.next)
    exact ⟨two.id.trans one.id, two.kind.trans one.kind, two.maxSize.trans one.maxSize, two.length.trans one.length⟩
  fresh := by
    intro ptr behind early
    by_cases there : ptr < middle.next
    · rw [Item.isContainer, (second.kept ptr there).kind]
      exact first.fresh ptr behind there
    · exact second.fresh ptr (Nat.not_lt.mp there) early

theorem Slim.setItem (slim : Slim before after) {ptr : ItemPtr} {item : Item} (slimmer : Slimmer (after.items ptr) item) :
    Slim before (after.setItem ptr item) := by
  refine slim.trans ?_
  constructor
  · exact Nat.le_refl _
  · intro other _
    by_cases same : other = ptr
    · rw [same, setItem_self]
      exact slimmer
    · rw [setItem_other _ _ same]
      exact Slimmer.refl _
  · intro other behind early
    exact absurd early (Nat.not_lt.mpr behind)

/-- What is no item has changed. -/
theorem Slim.beside {other : Game} (slim : Slim before after) (items : other.items = after.items) (next : other.next = after.next) :
    Slim before other := by
  constructor
  · rw [next]
    exact slim.next
  · intro ptr live
    rw [items]
    exact slim.kept ptr live
  · intro ptr behind early
    rw [items]
    rw [next] at early
    exact slim.fresh ptr behind early

theorem Within.slim (within : Within before) (slim : Slim before after) : Within after := by
  intro ptr live container
  by_cases there : ptr < before.next
  · obtain ⟨_, kind, maxSize, length⟩ := slim.kept ptr there
    rw [Item.isContainer, kind] at container
    rw [maxSize]
    exact length.trans (within ptr there container)
  · rw [slim.fresh ptr (Nat.not_lt.mp there) live] at container
    cases container

theorem OneOver.slim {container : ItemPtr} (crowded : OneOver container before) (slim : Slim before after) :
    OneOver container after := by
  intro ptr live isContainer
  by_cases there : ptr < before.next
  · obtain ⟨_, kind, maxSize, length⟩ := slim.kept ptr there
    rw [Item.isContainer, kind] at isContainer
    rw [maxSize]
    exact length.trans (crowded ptr there isContainer)
  · rw [slim.fresh ptr (Nat.not_lt.mp there) live] at isContainer
    cases isContainer

/-- A container that has room keeps it. -/
theorem Slim.notTight (slim : Slim before after) {ptr : ItemPtr} {index : Int} (live : ptr < after.next)
    (room : ptr < before.next → ¬ Tight before ptr index) : ¬ Tight after ptr index := by
  rintro ⟨⟨container, full⟩, inside⟩
  by_cases there : ptr < before.next
  · obtain ⟨_, kind, maxSize, length⟩ := slim.kept ptr there
    apply room there
    rw [Item.isContainer, kind] at container
    rw [maxSize] at full inside
    exact ⟨⟨container, full.trans length⟩, inside⟩
  · rw [slim.fresh ptr (Nat.not_lt.mp there) live] at container
    cases container

theorem Slim.updateItemWeight (slim : Slim before after) (fuel : Nat) (container : ItemPtr) (diff : Int) :
    Slim before (updateItemWeight fuel after container diff) := by
  induction fuel generalizing after container with
  | zero => exact slim
  | succ fuel ih =>
    have here : Slim before (after.setItem container { after.items container with
        totalWeight := toUInt32 ((after.items container).totalWeight + diff) }) :=
      slim.setItem ⟨rfl, rfl, rfl, Nat.le_refl _⟩
    simp only [Game.updateItemWeight]
    split
    · split
      · exact ih here _
      · exact here
    · exact here

section
variable (env : Env)

theorem Slim.setParent (slim : Slim before after) (ptr : ItemPtr) (cylinder : Option Cylinder) :
    Slim before (after.setItem ptr ((after.items ptr).setParent cylinder)) :=
  slim.setItem ⟨rfl, rfl, rfl, Nat.le_refl _⟩

theorem Slim.setItemCount (slim : Slim before after) (ptr : ItemPtr) (n : Int) :
    Slim before (after.setItem ptr ((after.items ptr).setItemCount n)) :=
  slim.setItem ⟨rfl, rfl, rfl, Nat.le_refl _⟩

theorem Slim.setTile (slim : Slim before after) (pos : Position) (tile : Tile) : Slim before (after.setTile pos tile) :=
  slim.beside rfl rfl

theorem Slim.setPlayer (slim : Slim before after) (id : PlayerId) (player : Player) : Slim before (after.setPlayer id player) :=
  slim.beside rfl rfl

theorem slim_containerRemoveThing (container ptr : ItemPtr) (count : Nat) :
    Slim game (game.containerRemoveThing env container ptr count) := by
  have refl := Slim.refl game
  unfold containerRemoveThing
  simp only
  split
  · exact refl
  · split
    · exact (refl.setItemCount ptr _).updateItemWeight _ container _
    · apply Slim.setItem ((refl.updateItemWeight _ container _).setParent ptr none)
      refine ⟨rfl, rfl, rfl, ?_⟩
      exact List.length_erase_le

theorem slim_playerRemoveThing (id : PlayerId) (ptr : ItemPtr) (count : Nat) :
    Slim game (game.playerRemoveThing env id ptr count) := by
  have refl := Slim.refl game
  unfold playerRemoveThing
  simp only
  split
  · exact refl
  · split
    · exact refl.setItemCount ptr _
    · exact (refl.setParent ptr none).setPlayer id _

theorem slim_tileRemoveThing (pos : Position) (tile : Tile) (ptr : ItemPtr) (count : Nat) :
    Slim game (game.tileRemoveThing env pos tile ptr count) := by
  have refl := Slim.refl game
  have taken := refl.setParent ptr none
  unfold tileRemoveThing
  simp only
  split
  · exact refl
  · split
    · exact taken.setTile pos _
    · split
      · exact taken.setTile pos _
      · split
        · exact refl.setItemCount ptr _
        · exact taken.setTile pos _

theorem slim_removeThing (cylinder : Cylinder) (ptr : ItemPtr) (count : Nat) :
    Slim game (game.removeThing env cylinder ptr count) := by
  cases cylinder with
  | player id => exact slim_playerRemoveThing env id ptr count
  | tile pos =>
    simp only [removeThing]
    split
    · exact slim_tileRemoveThing env pos _ ptr count
    · exact Slim.refl game
  | item holder =>
    simp only [removeThing]
    split
    · exact slim_containerRemoveThing env holder ptr count
    · exact Slim.refl game

def CountsBut (ptr : ItemPtr) (before after : Game) : Prop :=
  ∀ other, other ≠ ptr → (after.items other).count = (before.items other).count

theorem CountsBut.setSelf {ptr : ItemPtr} (counts : CountsBut ptr before after) (item : Item) :
    CountsBut ptr before (after.setItem ptr item) := by
  intro other different
  rw [setItem_other _ _ different]
  exact counts other different

theorem CountsBut.setItem {ptr : ItemPtr} (counts : CountsBut ptr before after) {place : ItemPtr} {item : Item}
    (same : item.count = (after.items place).count) : CountsBut ptr before (after.setItem place item) := by
  intro other different
  by_cases here : other = place
  · rw [here, setItem_self, same, ← here]
    exact counts other different
  · rw [setItem_other _ _ here]
    exact counts other different

theorem CountsBut.updateItemWeight {ptr : ItemPtr} (counts : CountsBut ptr before after) (fuel : Nat) (container : ItemPtr) (diff : Int) :
    CountsBut ptr before (updateItemWeight fuel after container diff) := by
  induction fuel generalizing after container with
  | zero => exact counts
  | succ fuel ih =>
    simp only [Game.updateItemWeight]
    split
    · split
      · apply ih
        exact counts.setItem rfl
      · exact counts.setItem rfl
    · exact counts.setItem rfl

theorem countsBut_removeThing (cylinder : Cylinder) (ptr : ItemPtr) (count : Nat) :
    CountsBut ptr game (game.removeThing env cylinder ptr count) := by
  have refl : CountsBut ptr game game := fun _ _ => rfl
  have changed : ∀ item, CountsBut ptr game (game.setItem ptr item) := refl.setSelf
  cases cylinder with
  | player id =>
    simp only [removeThing, playerRemoveThing]
    split
    · exact refl
    · split
      · exact changed _
      · exact changed _
  | tile pos =>
    simp only [removeThing]
    split
    · simp only [tileRemoveThing]
      split
      · exact refl
      · split
        · exact changed _
        · split
          · exact changed _
          · split
            · exact changed _
            · exact changed _
    · exact refl
  | item holder =>
    simp only [removeThing, containerRemoveThing]
    split
    · split
      · exact refl
      · split
        · exact (changed _).updateItemWeight _ _ _
        · refine CountsBut.setItem ?_ rfl
          exact (refl.updateItemWeight _ _ _).setSelf _
    · exact refl

/-- What `updateThing` makes of an item that keeps its type has the same items in it. -/
theorem slimmer_updated (item : Item) (normalRandom : Nat → Nat → Int) (n : Nat) :
    Slimmer item ((item.setID env.items normalRandom item.id).setSubType env.items n) := by
  obtain ⟨frame, _⟩ := Item.setSubType_frame env.items (item.setID env.items normalRandom item.id) n
  have moved := Item.setID_frame env.items normalRandom item
  rw [moved] at frame
  rw [moved, frame]
  exact ⟨rfl, rfl, rfl, Nat.le_refl _⟩

theorem slim_updateThing (cylinder : Cylinder) (ptr : ItemPtr) (count : Nat) :
    Slim game (game.updateThing env cylinder ptr (game.items ptr).id count) := by
  have refl := Slim.refl game
  have updated := refl.setItem (slimmer_updated env (game.items ptr) (env.normalRandom ptr) (toUInt16 count))
  cases cylinder with
  | player id =>
    simp only [updateThing, playerUpdateThing]
    split
    · exact refl
    · exact updated
  | tile pos =>
    simp only [updateThing]
    split
    · simp only [tileUpdateThing]
      split
      · exact refl
      · exact updated.setTile pos _
    · exact refl
  | item holder =>
    simp only [updateThing, containerUpdateThing]
    split
    · split
      · exact refl
      · exact updated.updateItemWeight _ holder _
    · exact refl

theorem slim_notify (fuel : Nat) (cylinder : Cylinder) (link : CylinderLink) : Slim game (notify env fuel game cylinder link) := by
  have refl := Slim.refl game
  rcases notify_cases env game fuel cylinder link with same | ⟨id, weighed⟩
  · rw [same]
    exact refl
  · rw [weighed]
    unfold updateInventoryWeight
    dsimp only
    split
    · exact refl
    · exact refl.setPlayer id _

theorem slim_postRemoveNotification (cylinder : Cylinder) : Slim game (game.postRemoveNotification env cylinder) :=
  slim_notify env _ cylinder .owner

theorem slim_internalRemoveItem (ptr : ItemPtr) (count : Int) (test : Bool) (flags : CylinderFlags) :
    Slim game (game.internalRemoveItem env ptr count test flags).2 := by
  rcases internalRemoveItem_cases env game ptr count test flags with same | ⟨cylinder, size, _, _, taken⟩
  · rw [same]
    exact Slim.refl game
  · rw [taken]
    exact (slim_removeThing env cylinder ptr size).trans (slim_postRemoveNotification env cylinder)

theorem slim_trashHolderAddThing (trash ptr : ItemPtr) : Slim game (game.trashHolderAddThing env trash ptr) := by
  have refl := Slim.refl game
  unfold trashHolderAddThing
  simp only
  split
  · exact refl
  · generalize ((game.items ptr).isHangable env.items && (env.items.get (game.items trash).id).isGroundTile &&
      _ : Bool) = onWall
    split
    · exact refl
    · exact slim_internalRemoveItem env ptr _ _ _

theorem slim_tileAddThing (pos : Position) (tile : Tile) (ptr : ItemPtr) : Slim game (game.tileAddThing env pos tile ptr) := by
  have refl := Slim.refl game
  have hung := refl.setParent ptr (some (.tile pos))
  unfold tileAddThing
  simp only
  split
  · exact refl
  · split
    · split
      · exact hung.setTile pos _
      · exact (hung.setParent _ none).setTile pos _
    · split
      · split
        · exact (hung.setTile pos tile).setTile pos _
        · exact ((hung.setTile pos tile).trans (slim_tileRemoveThing env pos tile _ 1)).setTile pos _
      · split
        · exact hung.setTile pos _
        · split
          · exact ((hung.setTile pos tile).trans (slim_tileRemoveThing env pos tile _ 1)).setTile pos _
          · exact hung.setParent ptr none

theorem slim_playerAddThing (id : PlayerId) (index : Int) (ptr : ItemPtr) : Slim game (game.playerAddThing id index ptr) := by
  have refl := Slim.refl game
  unfold playerAddThing
  split
  · exact refl
  · exact (refl.setParent ptr (some (.player id))).setPlayer id _

end

section
variable (container : ItemPtr)

/-- What `Container::addThing` does to the number of items. -/
theorem containerAddThing_counts (env : Env) (ptr : ItemPtr) {index : Int} (inside : index < (game.items container).maxSize) :
    ∃ hung, Slim game hung ∧ Slim (hung.setItem container { hung.items container with
      itemlist := ptr :: (hung.items container).itemlist }) (game.containerAddThing env container index ptr) := by
  refine ⟨game.setItem ptr ((game.items ptr).setParent (some (.item container))), (Slim.refl game).setParent ptr _, ?_⟩
  rw [containerAddThing, if_neg (Int.not_le.mpr inside)]
  exact (Slim.refl _).updateItemWeight _ container _

theorem containerAddThing_kind (env : Env) (ptr : ItemPtr) (index : Int) {other : ItemPtr} (live : other < game.next) :
    ((game.containerAddThing env container index ptr).items other).kind = (game.items other).kind := by
  by_cases inside : index < (game.items container).maxSize
  · obtain ⟨hung, slim, added⟩ := containerAddThing_counts container env ptr inside
    rw [(added.kept other (Nat.lt_of_lt_of_le live slim.next)).kind, ← (slim.kept other live).kind]
    by_cases same : other = container
    · rw [same, setItem_self]
    · rw [setItem_other _ _ same]
  · rw [containerAddThing, if_pos (Int.not_lt.mp inside)]

variable {container : ItemPtr}

theorem Within.containerAddThing (within : Within game) (env : Env) (ptr : ItemPtr) (index : Int)
    (room : container < game.next → ¬ Tight game container index) : Within (game.containerAddThing env container index ptr) := by
  by_cases inside : index < (game.items container).maxSize
  · obtain ⟨hung, slim, added⟩ := containerAddThing_counts container env ptr inside
    refine Within.slim ?_ added
    intro other live isContainer
    by_cases same : other = container
    · subst same
      rw [setItem_self] at isContainer ⊢
      by_cases there : other < game.next
      · obtain ⟨_, _, maxSize, _⟩ := slim.kept other there
        have room : ¬ Tight hung other index := slim.notTight live room
        have fewer : ¬ (hung.items other).maxSize ≤ (hung.items other).itemlist.length := by
          intro full
          exact room ⟨⟨isContainer, full⟩, maxSize.symm ▸ inside⟩
        exact Nat.lt_of_not_le fewer
      · exact absurd isContainer (Bool.eq_false_iff.mp (slim.fresh other (Nat.not_lt.mp there) live))
    · rw [setItem_other _ _ same] at isContainer ⊢
      exact within.slim slim other live isContainer
  · rw [Game.containerAddThing, if_pos (Int.not_lt.mp inside)]
    exact within

/-- An item that comes into a full container is one too many. -/
theorem Within.oneOver (within : Within game) (container : ItemPtr) (env : Env) (ptr : ItemPtr) (index : Int) :
    OneOver container (game.containerAddThing env container index ptr) := by
  have noMore : OneOver container game := by
    intro other live isContainer
    exact Nat.le_add_right_of_le (within other live isContainer)
  by_cases inside : index < (game.items container).maxSize
  · obtain ⟨hung, slim, added⟩ := containerAddThing_counts container env ptr inside
    refine OneOver.slim ?_ added
    intro other live isContainer
    by_cases same : other = container
    · subst same
      rw [setItem_self] at isContainer ⊢
      rw [if_pos rfl]
      exact Nat.succ_le_succ (within.slim slim other live isContainer)
    · rw [setItem_other _ _ same] at isContainer ⊢
      rw [if_neg same]
      exact within.slim slim other live isContainer
  · rw [Game.containerAddThing, if_pos (Int.not_lt.mp inside)]
    exact noMore

theorem OneOver.removed (crowded : OneOver container game) (env : Env) {ptr : ItemPtr} {count : Nat}
    (member : ptr ∈ (game.items container).itemlist)
    (whole : (game.items ptr).isStackable env.items = true → count = (game.items ptr).count) :
    Within (game.containerRemoveThing env container ptr count) := by
  have listed : indexIn (game.items container).itemlist ptr ≠ -1 := indexIn_ne_iff.mpr member
  have notPart : ¬ ((game.items ptr).isStackable env.items = true ∧ count ≠ (game.items ptr).count) :=
    fun part => part.2 (whole part.1)
  have weighed := layout_updateItemWeight (game.next + 1) game container (-((game.items ptr).getWeight env.items : Int))
  have weighedSlim := (Slim.refl game).updateItemWeight (game.next + 1) container (-((game.items ptr).getWeight env.items : Int))
  simp only [containerRemoveThing, if_neg listed, if_neg notPart]
  generalize updateItemWeight (game.next + 1) game container _ = lighter at weighed weighedSlim ⊢
  have list : (lighter.items container).itemlist = (game.items container).itemlist :=
    congrArg (fun layout => layout.contents (.item container)) weighed
  have loose : ((lighter.setItem ptr ((lighter.items ptr).setParent none)).items container).itemlist =
      (game.items container).itemlist := by
    by_cases self : container = ptr
    · rw [← self, setItem_self]
      exact list
    · rw [setItem_other _ _ self]
      exact list
  have crowded := crowded.slim (weighedSlim.setParent ptr none)
  generalize lighter.setItem ptr ((lighter.items ptr).setParent none) = taken at loose crowded ⊢
  intro other live isContainer
  have counted := crowded other live
  by_cases same : other = container
  · subst same
    rw [setItem_self] at isContainer ⊢
    have counted := counted isContainer
    rw [if_pos rfl] at counted
    have shorter := List.length_erase_of_mem (loose.symm ▸ member)
    exact shorter.trans_le (Nat.sub_le_of_le_add counted)
  · rw [setItem_other _ _ same] at isContainer ⊢
    have counted := counted isContainer
    rw [if_neg same] at counted
    exact counted

end

end Styller.Game
