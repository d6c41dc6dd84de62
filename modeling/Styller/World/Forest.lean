import Styller.World.Containers
import Styller.World.Effect

/-! The containers of the game and what is in them, as a forest that keeps sums. -/

namespace Styller

open Library Function

theorem toUInt32_cast (n : Int) : ((toUInt32 n : Nat) : ZMod (2 ^ 32)) = n := by
  rw [toUInt32, ← Int.cast_natCast, Int.toNat_of_nonneg (Int.emod_nonneg n (by decide))]
  exact ZMod.intCast_mod n (2 ^ 32)

namespace Game

section
variable (game : Game)

def upward (ptr : ItemPtr) : Option ItemPtr := if ptr < game.next then game.getParentContainer ptr else none

/-- What is in a container of the game. -/
def inside (ptr : ItemPtr) : List ItemPtr :=
  if ptr < game.next ∧ (game.items ptr).isContainer then (game.items ptr).itemlist else []

/-- The items of the game in their containers, with weights modulo 2^32. -/
def rollup (items : ItemTypes) : Rollup ItemPtr (ZMod (2 ^ 32)) where
  children := game.inside
  up := game.upward
  own ptr := (game.items ptr).ownWeight items
  cache ptr := if ptr < game.next ∧ (game.items ptr).isContainer then (game.items ptr).totalWeight else 0

theorem weight_rollup (items : ItemTypes) {ptr : ItemPtr} (live : ptr < game.next) :
    (game.rollup items).weight ptr = (game.items ptr).getWeight items := by
  rw [Item.getWeight_eq, Rollup.weight]
  by_cases container : (game.items ptr).isContainer = true
  · simp only [rollup, live, container, true_and, if_true]
    rw [ZMod.natCast_mod, Nat.cast_add]
  · simp only [rollup, container, and_false, if_false, add_zero, Bool.false_eq_true]

end

section
variable {game : Game} {up : ItemPtr → Option ItemPtr} {low : ItemPtr}

open Classical in
/-- The game after a change of weight under a container. -/
noncomputable def raised (up : ItemPtr → Option ItemPtr) (game : Game) (low : ItemPtr) (diff : Int) : Game :=
  { game with items := fun ptr => if Rollup.Above up low ptr
      then { game.items ptr with totalWeight := toUInt32 ((game.items ptr).totalWeight + diff) } else game.items ptr }

theorem updateItemWeight_succ (fuel : Nat) (game : Game) (container : ItemPtr) (diff : Int) :
    updateItemWeight (fuel + 1) game container diff =
      match game.getParentContainer container with
      | some parent => updateItemWeight fuel (game.setItem container { game.items container with
          totalWeight := toUInt32 ((game.items container).totalWeight + diff) }) parent diff
      | none => game.setItem container { game.items container with
          totalWeight := toUInt32 ((game.items container).totalWeight + diff) } := by
  have kind : ∀ holder, ((game.setItem container { game.items container with
      totalWeight := toUInt32 ((game.items container).totalWeight + diff) }).items holder).isContainer =
        (game.items holder).isContainer := by
    intro holder
    by_cases same : holder = container
    · rw [same, setItem_self]
      rfl
    · rw [setItem_other _ _ same]
  simp only [updateItemWeight, getParentContainer, kind]
  cases (game.items container).parent with
  | none => rfl
  | some cylinder =>
    cases cylinder with
    | player id => rfl
    | tile pos => rfl
    | item holder =>
      by_cases holds : (game.items holder).isContainer = true
      · simp only [holds, if_true]
      · simp only [holds, if_false, Bool.false_eq_true]

theorem raised_top (top : up low = none) (diff : Int) : game.setItem low { game.items low with
    totalWeight := toUInt32 ((game.items low).totalWeight + diff) } = raised up game low diff := by
  simp only [setItem, raised, Rollup.Above.root_iff top]
  congr 1
  funext ptr
  by_cases same : ptr = low
  · rw [if_pos same, if_pos same, same]
  · rw [if_neg same, if_neg same]

theorem raised_first (acyclic : ∀ {node parent}, up node = some parent → ¬ Rollup.Above up parent node)
    (link : up low = some parent) (diff : Int) : raised up (game.setItem low { game.items low with
      totalWeight := toUInt32 ((game.items low).totalWeight + diff) }) parent diff = raised up game low diff := by
  simp only [setItem, raised]
  congr 1
  funext ptr
  by_cases same : ptr = low
  · subst same
    rw [if_neg (acyclic link), if_pos rfl, if_pos (.refl ptr)]
  · have further : Rollup.Above up low ptr ↔ Rollup.Above up parent ptr := by
      rw [Rollup.Above.first_iff link, or_iff_right same]
    simp only [same, if_false]
    by_cases above : Rollup.Above up parent ptr
    · rw [if_pos above, if_pos (further.mpr above)]
    · rw [if_neg above, if_neg (fun far => above (further.mp far))]

/-- The difference goes to the container and to all containers above it. -/
theorem updateItemWeight_fuel (acyclic : ∀ {node parent}, up node = some parent → ¬ Rollup.Above up parent node)
    (diff : Int) {fuel : Nat} {nodes : Finset ItemPtr} (enough : nodes.card < fuel)
    (reach : ∀ node, Rollup.Above up low node → node ∈ nodes)
    (same : ∀ node, Rollup.Above up low node → game.getParentContainer node = up node) :
    updateItemWeight fuel game low diff = raised up game low diff := by
  induction fuel generalizing game low nodes with
  | zero => exact absurd enough (Nat.not_lt_zero _)
  | succ fuel ih =>
    rw [updateItemWeight_succ, same low (.refl low)]
    cases link : up low with
    | none => exact raised_top link diff
    | some parent =>
      have inNodes := reach low (.refl low)
      have fewer : (nodes.erase low).card < fuel := by
        have pos := Finset.card_pos.mpr ⟨low, inNodes⟩
        rw [Finset.card_erase_of_mem inNodes]
        omega
      rw [← raised_first acyclic link diff]
      apply ih fewer
      · intro node above
        rw [Finset.mem_erase]
        exact ⟨fun equal => acyclic link (equal ▸ above), reach node (.step link above)⟩
      · intro node above
        rw [← same node (.step link above)]
        have other : ∀ holder, ((game.setItem low { game.items low with
            totalWeight := toUInt32 ((game.items low).totalWeight + diff) }).items holder).parent =
              (game.items holder).parent ∧ ((game.setItem low { game.items low with
            totalWeight := toUInt32 ((game.items low).totalWeight + diff) }).items holder).isContainer =
              (game.items holder).isContainer := by
          intro holder
          by_cases equal : holder = low
          · rw [equal, setItem_self]
            exact ⟨rfl, rfl⟩
          · rw [setItem_other _ _ equal]
            exact ⟨rfl, rfl⟩
        simp only [getParentContainer, other]

end

section
variable {items : ItemTypes} {game : Game} {ptr container : ItemPtr}

/-- The container that a parent is, if it is one. -/
def containerOf (game : Game) : Option Cylinder → Option ItemPtr
  | some (.item holder) => if (game.items holder).isContainer then some holder else none
  | _ => none

theorem getParentContainer_eq (game : Game) (ptr : ItemPtr) : game.getParentContainer ptr = game.containerOf (game.items ptr).parent :=
  rfl

theorem setItem_isContainer {item : Item} (kind : item.kind = (game.items ptr).kind) (other : ItemPtr) :
    ((game.setItem ptr item).items other).isContainer = (game.items other).isContainer := by
  by_cases same : other = ptr
  · rw [same, setItem_self, Item.isContainer, kind]
    rfl
  · rw [setItem_other _ _ same]

theorem setItem_containerOf {item : Item} (kind : item.kind = (game.items ptr).kind) (parent : Option Cylinder) :
    (game.setItem ptr item).containerOf parent = game.containerOf parent := by
  simp only [containerOf, setItem_isContainer kind]

/-- What the change of one item does to the tree. -/
theorem rollup_setItem {item : Item} (kind : item.kind = (game.items ptr).kind) :
    (game.setItem ptr item).rollup items =
      { children := update game.inside ptr (if ptr < game.next ∧ (game.items ptr).isContainer then item.itemlist else [])
        up := update game.upward ptr (if ptr < game.next then game.containerOf item.parent else none)
        own := update (game.rollup items).own ptr (item.ownWeight items)
        cache := update (game.rollup items).cache ptr
          (if ptr < game.next ∧ (game.items ptr).isContainer then item.totalWeight else 0) } := by
  simp only [rollup, Rollup.mk.injEq]
  refine ⟨?_, ?_, ?_, ?_⟩
  all_goals
    funext other
    simp only [inside, upward, getParentContainer_eq, setItem_containerOf kind, setItem_isContainer kind, setItem_next,
      update_apply]
    by_cases same : other = ptr
    · rw [same, setItem_self, if_pos rfl]
    · rw [setItem_other _ _ same, if_neg same]

/-- An item whose class, parent and contents stay: only what it weighs by itself changes. -/
theorem rollup_setOwn {item : Item} (kind : item.kind = (game.items ptr).kind) (parent : item.parent = (game.items ptr).parent)
    (itemlist : item.itemlist = (game.items ptr).itemlist) (totalWeight : item.totalWeight = (game.items ptr).totalWeight) :
    (game.setItem ptr item).rollup items =
      { game.rollup items with own := update (game.rollup items).own ptr (item.ownWeight items) } := by
  rw [rollup_setItem kind, parent, itemlist, totalWeight, Rollup.mk.injEq]
  exact ⟨update_eq_self ptr _, update_eq_self ptr _, rfl, update_eq_self ptr _⟩

theorem rollup_setParent (items : ItemTypes) (game : Game) {ptr : ItemPtr} (live : ptr < game.next) (parent : Option Cylinder) :
    (game.setItem ptr ((game.items ptr).setParent parent)).rollup items =
      { game.rollup items with up := update (game.rollup items).up ptr (game.containerOf parent) } := by
  rw [rollup_setItem (by rfl), if_pos live, Rollup.mk.injEq]
  exact ⟨update_eq_self ptr _, rfl, update_eq_self ptr _, update_eq_self ptr _⟩

theorem rollup_setItemlist (items : ItemTypes) (game : Game) {container : ItemPtr} (live : container < game.next) (isContainer : (game.items container).isContainer = true)
    (itemlist : List ItemPtr) : (game.setItem container { game.items container with itemlist }).rollup items =
      { game.rollup items with children := update (game.rollup items).children container itemlist } := by
  rw [rollup_setItem (by rfl), Rollup.mk.injEq]
  exact ⟨congrArg (update _ container) (if_pos ⟨live, isContainer⟩), update_eq_self container _,
    update_eq_self container _, update_eq_self container _⟩

theorem rollup_setTotalWeight (items : ItemTypes) (game : Game) {container : ItemPtr} (live : container < game.next)
    (isContainer : (game.items container).isContainer = true) (totalWeight : Nat) :
    (game.setItem container { game.items container with totalWeight }).rollup items =
      { game.rollup items with cache := update (game.rollup items).cache container totalWeight } := by
  rw [rollup_setItem (by rfl), Rollup.mk.injEq]
  exact ⟨update_eq_self container _, update_eq_self container _, update_eq_self container _,
    congrArg (update _ container) (if_pos ⟨live, isContainer⟩)⟩

theorem raised_isContainer (up : ItemPtr → Option ItemPtr) (game : Game) (low : ItemPtr) (diff : Int) (other : ItemPtr) :
    ((raised up game low diff).items other).isContainer = (game.items other).isContainer := by
  simp only [raised]
  split
  · rfl
  · rfl

theorem rollup_raised (items : ItemTypes) {up : ItemPtr → Option ItemPtr} (game : Game) {low : ItemPtr}
    (reach : ∀ node, Rollup.Above up low node → node < game.next ∧ (game.items node).isContainer = true) (diff : Int) :
    (raised up game low diff).rollup items = { game.rollup items with
      cache := fun ptr => (game.rollup items).cache ptr + Rollup.rise up low (diff : ZMod (2 ^ 32)) ptr } := by
  have field : ∀ {Value : Type} (get : Item → Value), (∀ item totalWeight, get { item with totalWeight } = get item) →
      ∀ other, get ((raised up game low diff).items other) = get (game.items other) := by
    intro Value get same other
    simp only [raised]
    split
    · exact same _ _
    · rfl
  simp only [rollup, Rollup.mk.injEq]
  refine ⟨?_, ?_, ?_, ?_⟩
  · funext other
    simp only [inside, raised_isContainer, field Item.itemlist (fun _ _ => rfl)]
    rfl
  · funext other
    simp only [upward, getParentContainer_eq, containerOf, raised_isContainer, field Item.parent (fun _ _ => rfl)]
    rfl
  · funext other
    exact congrArg _ (field (Item.ownWeight items) (fun _ _ => rfl) other)
  · funext other
    simp only [raised_isContainer]
    by_cases above : Rollup.Above up low other
    · have there := reach other above
      rw [Rollup.rise_above above]
      simp only [raised, if_pos above, if_pos there, toUInt32_cast, Int.cast_add, Int.cast_natCast]
    · rw [Rollup.rise_apart above, add_zero]
      simp only [raised, if_neg above]

end

end Game

end Styller
