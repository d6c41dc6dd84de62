import Styller.Item.Setters
import Styller.World.ContainerWeight

/-! Copies of items and of containers with everything in them: they weigh what the originals do. -/

namespace Styller

open Library List Function

/-- A thing that is created under another id than that of its type weighs the same, and is single as well. -/
structure ItemTypes.Reissued (items : ItemTypes) : Prop where
  weight : ∀ type renamed, renamedItem (items.get type).id = some renamed → (items.get renamed).weight = (items.get type).weight
  single : ∀ type renamed, renamedItem (items.get type).id = some renamed → (items.get renamed).stackable = false

namespace Item

section
variable {items : ItemTypes} {normalRandom : Nat → Nat → Int} {item copy : Item}

theorem getBaseWeight_congr {other : Item} (attr : other.attr? .weight = item.attr? .weight)
    (type : (items.get other.id).weight = (items.get item.id).weight) : other.getBaseWeight items = item.getBaseWeight items := by
  rw [getBaseWeight, getBaseWeight, hasAttribute_eq, hasAttribute_eq, getIntAttr_eq, getIntAttr_eq, attr, type]

theorem Created.loose {type count : Nat} (created : Created items normalRandom type count item) :
    item.parent = none ∧ item.itemlist = [] ∧ item.totalWeight = 0 ∧ item.attr? .weight = none := by
  have made : ∀ type count, (new items normalRandom type count).parent = none ∧
      (new items normalRandom type count).itemlist = [] := by
    intro type count
    obtain ⟨begun, made, same⟩ := new_begun items normalRandom type count
    rw [same, setDefaultDuration_frame]
    cases made with
    | fluid | stack | charged | bare => exact ⟨rfl, rfl⟩
  have light : ∀ type count, (new items normalRandom type count).attr? .weight = none := by
    intro type count
    apply new_attr?
    · decide
    · decide
    · decide
  cases created with
  | plain | classed => exact ⟨(made _ _).1, (made _ _).2, new_totalWeight .., light _ _⟩

theorem createItem_ownWeight (known : items.Reissued) (small : item.count < 256)
    (created : createItem items normalRandom item.id item.count = some copy) (other : Item) (id : other.id = copy.id)
    (count : other.count = copy.count) (attr : other.attr? .weight = item.attr? .weight) :
    other.ownWeight items = item.ownWeight items ∧ copy.count < 256 := by
  by_cases stackable : (items.get item.id).stackable = true
  · obtain ⟨attributes, made⟩ := createItem_stackable items normalRandom stackable item.count
    rw [made, Option.some.injEq] at created
    rw [← created] at id count
    have base : other.getBaseWeight items = item.getBaseWeight items :=
      getBaseWeight_congr attr (by rw [id])
    have copied : max 1 other.count = max 1 item.count := by
      rw [count]
      change max 1 (toUInt8 (if item.count = 0 then 1 else item.count : Nat)) = max 1 item.count
      by_cases empty : item.count = 0
      · rw [if_pos empty, empty]
        rfl
      · have stored := toUInt8_of_lt (Int.natCast_nonneg item.count) (by omega)
        rw [if_neg empty]
        omega
    constructor
    · rw [ownWeight, ownWeight, isStackable, isStackable, id, base, copied]
    · rw [← created]
      exact toUInt8_lt (if item.count = 0 then 1 else item.count : Nat)
  · have single := eq_false_of_ne_true stackable
    have type : (items.get copy.id).weight = (items.get item.id).weight ∧ (items.get copy.id).stackable = false := by
      rw [createItem_id created]
      cases (items.get item.id).ownClass with
      | true => exact ⟨rfl, single⟩
      | false =>
        cases renamed : renamedItem (items.get item.id).id with
        | none => exact ⟨rfl, single⟩
        | some other => exact ⟨known.weight _ _ renamed, known.single _ _ renamed⟩
    constructor
    · rw [ownWeight, ownWeight, isStackable, isStackable, id, type.2, single]
      exact getBaseWeight_congr attr (by rw [id, type.1])
    · exact ((createItem_created created).wellSet (by omega)).count

end

end Item

namespace Game

section
variable {items : ItemTypes} {before after : Game} {original copy : Item}

/-- One new item has come to the next free address. -/
structure Born (before after : Game) (original copy : Item) : Prop where
  next : after.next = before.next + 1
  old : ∀ other, other ≠ before.next → after.items other = before.items other
  item : after.items before.next = { copy with attributes := (after.items before.next).attributes }
  attr : (after.items before.next).attr? .weight = original.attr? .weight

theorem clone_born {env : Env} {game : Game} {ptr : ItemPtr} (created : Item.createItem env.items (env.normalRandom game.next)
    (game.items ptr).id (game.items ptr).count = some copy) : Born game (game.clone env ptr) (game.items ptr) copy := by
  have allocated : ∀ (base : Game) (item : Item), base.next = game.next → base.items = game.items →
      item = { copy with attributes := item.attributes } → item.attr? .weight = (game.items ptr).attr? .weight →
        Born game (base.allocate item) (game.items ptr) copy := by
    intro base item next same shape attr
    have new : (base.allocate item).items game.next = item := by
      rw [← next]
      exact setItem_self ..
    constructor
    · rw [← next]
      rfl
    · intro other different
      rw [← same]
      exact setItem_other _ _ (next ▸ different)
    · rw [new]
      exact shape
    · rw [new]
      exact attr
  have light := (Item.createItem_created created).loose.2.2.2
  rw [clone]
  simp only [created]
  cases attributes : (game.items ptr).attributes with
  | none =>
    apply allocated _ _ rfl rfl rfl
    rw [light, Item.attr?, attributes]
    rfl
  | some own =>
    simp only
    split
    · refine allocated { game with toDecayItems := game.next :: game.toDecayItems } _ rfl rfl rfl ?_
      rw [Item.attr?_setIntAttr, if_neg (by decide), Item.attr?, Item.attr?, attributes]
    · apply allocated _ _ rfl rfl rfl
      rw [Item.attr?, Item.attr?, attributes]

/-- No item is in two places or inside itself, and nothing is in an item that is not there. -/
structure Standing (items : ItemTypes) (game : Game) : Prop where
  tidy : (game.rollup items).Tidy
  placed : ∀ ptr holder, ptr < game.next → (game.items ptr).parent = some (.item holder) → holder < game.next

/-- The new item is in nothing and has nothing in it. -/
theorem Born.rollup (born : Born before after original copy) (standing : Standing items before) (parent : copy.parent = none)
    (itemlist : copy.itemlist = []) (totalWeight : copy.totalWeight = 0) : after.rollup items = { before.rollup items with
      own := update (before.rollup items).own before.next ((after.items before.next).ownWeight items) } := by
  have live : ∀ {other : Nat}, other ≠ before.next → (other < after.next ↔ other < before.next) := by
    intro other different
    rw [born.next]
    omega
  have unborn : ¬ before.next < before.next := Nat.lt_irrefl _
  simp only [Game.rollup, Rollup.mk.injEq]
  refine ⟨?_, ?_, ?_, ?_⟩
  · funext other
    by_cases new : other = before.next
    · subst new
      simp only [inside, unborn, false_and, if_false]
      rw [born.item, itemlist, ite_self]
    · simp only [inside, born.old other new, live new]
  · funext other
    by_cases new : other = before.next
    · subst new
      simp only [upward, unborn, if_false, getParentContainer]
      rw [born.item, parent, ite_self]
    · simp only [upward, live new]
      by_cases known : other < before.next
      · rw [if_pos known, if_pos known, getParentContainer, getParentContainer, born.old other new]
        cases up : (before.items other).parent with
        | none => rfl
        | some cylinder =>
          cases cylinder with
          | player id => rfl
          | tile pos => rfl
          | item holder =>
            have there := standing.placed other holder known up
            simp only [born.old holder (Nat.ne_of_lt there)]
      · rw [if_neg known, if_neg known]
  · funext other
    rw [update_apply]
    by_cases new : other = before.next
    · rw [new, if_pos rfl]
    · rw [if_neg new, born.old other new]
  · funext other
    by_cases new : other = before.next
    · subst new
      simp only [unborn, false_and, if_false]
      rw [born.item, totalWeight, Nat.cast_zero, ite_self]
    · simp only [born.old other new, live new]

theorem Born.standing (born : Born before after original copy) (standing : Standing items before) (parent : copy.parent = none)
    (itemlist : copy.itemlist = []) (totalWeight : copy.totalWeight = 0) : Standing items after := by
  constructor
  · rw [born.rollup standing parent itemlist totalWeight]
    exact ⟨standing.tidy.linked, standing.tidy.nodup, standing.tidy.rooted⟩
  · intro ptr holder known up
    rw [born.next] at known ⊢
    by_cases new : ptr = before.next
    · rw [new, born.item, parent] at up
      cases up
    · rw [born.old ptr new] at up
      exact Nat.lt_succ_of_lt (standing.placed ptr holder (Nat.lt_of_le_of_ne (Nat.lt_succ_iff.mp known) new) up)

end

section
variable {items : ItemTypes} {before after : Game} {bound node : ItemPtr}

/-- The items under an address are what they were. -/
structure Old (bound : ItemPtr) (before after : Game) : Prop where
  same : ∀ other, other < bound → after.items other = before.items other
  before : bound ≤ before.next
  after : bound ≤ after.next

theorem Old.trans {last : Game} (first : Old bound before after) (second : Old bound after last) : Old bound before last := by
  constructor
  · intro other under
    rw [second.same other under, first.same other under]
  · exact first.before
  · exact second.after

theorem Old.lower {lower : ItemPtr} (old : Old bound before after) (le : lower ≤ bound) : Old lower before after := by
  constructor
  · intro other under
    exact old.same other (Nat.lt_of_lt_of_le under le)
  · exact Nat.le_trans le old.before
  · exact Nat.le_trans le old.after

theorem Old.inside (old : Old bound before after) (under : node < bound) : after.inside node = before.inside node := by
  have one := Nat.lt_of_lt_of_le under old.before
  have two := Nat.lt_of_lt_of_le under old.after
  simp only [Game.inside, old.same node under, one, two]

theorem Old.cache (old : Old bound before after) (under : node < bound) :
    (after.rollup items).cache node = (before.rollup items).cache node := by
  have one := Nat.lt_of_lt_of_le under old.before
  have two := Nat.lt_of_lt_of_le under old.after
  simp only [rollup, old.same node under, one, two]

theorem Old.weight (old : Old bound before after) (under : node < bound) :
    (after.rollup items).weight node = (before.rollup items).weight node := by
  rw [weight_rollup after items (Nat.lt_of_lt_of_le under old.after), weight_rollup before items (Nat.lt_of_lt_of_le under old.before),
    old.same node under]

/-- A container keeps the weight of what is in it. -/
def SumsAt (items : ItemTypes) (game : Game) (node : ItemPtr) : Prop :=
  (game.rollup items).cache node = ((game.inside node).map (game.rollup items).weight).sum

theorem SumsAt.congr (sums : SumsAt items before node) (inside : after.inside node = before.inside node)
    (cache : (after.rollup items).cache node = (before.rollup items).cache node)
    (weight : ∀ child ∈ before.inside node, (after.rollup items).weight child = (before.rollup items).weight child) :
    SumsAt items after node := by
  rw [SumsAt, cache, inside, sums]
  exact congrArg List.sum (map_congr_left (fun child member => (weight child member).symm))

theorem Standing.inside_live (standing : Standing items before) {child : ItemPtr} (member : child ∈ before.inside node) :
    child < before.next :=
  upward_live ((standing.tidy.linked node child).mp member)

/-- What stays, keeps its sum. -/
theorem SumsAt.old (sums : SumsAt items before node) (standing : Standing items before) (old : Old before.next before after)
    (live : node < before.next) : SumsAt items after node := by
  apply sums.congr
  · exact old.inside live
  · exact old.cache live
  · intro child member
    exact old.weight (standing.inside_live member)

end

section
variable {env : Env} {start : Game}

/-- A copy of an item, at the next free address, and of everything in it behind that. -/
structure Copied (items : ItemTypes) (before after : Game) (ptr : ItemPtr) : Prop where
  next : before.next < after.next
  old : ∀ other, other < before.next → after.items other = before.items other
  free : after.upward before.next = none
  weight : (after.rollup items).weight before.next = (before.rollup items).weight ptr
  standing : Standing items after
  sums : ∀ node, before.next ≤ node → node < after.next → SumsAt items after node
  small : ∀ node, before.next ≤ node → node < after.next → (after.items node).count < 256

/-- A copied container that is being filled: the copies of the items that have been done are in it. -/
structure Filling (items : ItemTypes) (start game : Game) (shell : Item) (filled : List ItemPtr) (now : Game) : Prop where
  next : game.next < now.next
  old : ∀ other, other < game.next → now.items other = game.items other
  container : ∃ roots, now.items game.next = { shell with itemlist := roots } ∧
    roots.map (now.rollup items).weight = filled.map (start.rollup items).weight
  standing : Standing items now
  sums : ∀ node, game.next < node → node < now.next → SumsAt items now node
  small : ∀ node, game.next < node → node < now.next → (now.items node).count < 256

variable {items : ItemTypes} {game now cloned : Game} {shell : Item} {filled : List ItemPtr} {child : ItemPtr}

theorem Filling.shell_items (filling : Filling items start game shell filled now) (copied : Copied items now cloned child) :
    ∃ roots, cloned.items game.next = { shell with itemlist := roots } ∧
      roots.map (now.rollup items).weight = filled.map (start.rollup items).weight := by
  rw [copied.old game.next filling.next]
  exact filling.container

/-- The copy of one more item comes into the container. -/
theorem Filling.step (filling : Filling items start game shell filled now) (isContainer : shell.isContainer = true)
    (parent : shell.parent = none) (base : Old start.next start game) (known : child < start.next)
    (copied : Copied items now cloned child) :
    Filling items start game shell (filled ++ [child]) (cloned.containerAddItem game.next now.next) := by
  obtain ⟨roots, shape, weights⟩ := filling.shell_items copied
  have behind : Old now.next now cloned := ⟨copied.old, Nat.le_refl _, Nat.le_of_lt copied.next⟩
  have under : Old game.next game now := ⟨filling.old, Nat.le_refl _, Nat.le_of_lt filling.next⟩
  have live : game.next < cloned.next := Nat.lt_trans filling.next copied.next
  have different : game.next ≠ now.next := Nat.ne_of_lt filling.next
  have holds : (cloned.items game.next).isContainer = true := by
    rw [shape]
    exact isContainer
  have list : (cloned.items game.next).itemlist = roots := by rw [shape]
  have listed : cloned.inside game.next = roots := (inside_eq live holds).trans list
  have listed_now : now.inside game.next = roots := (behind.inside filling.next).symm.trans listed
  have shape_eq : cloned.containerAddItem game.next now.next = cloned.listing game.next (roots ++ [now.next]) now.next := by
    rw [← list]
    rfl
  have forest := rollup_listing items live holds copied.next (roots ++ [now.next])
  have weight : ∀ node, ((cloned.listing game.next (roots ++ [now.next]) now.next).rollup items).weight node =
      (cloned.rollup items).weight node := by
    intro node
    rw [forest]
    rfl
  rw [shape_eq]
  constructor
  · exact live
  · intro other early
    have notShell : other ≠ game.next := Nat.ne_of_lt early
    have notRoot : other ≠ now.next := Nat.ne_of_lt (Nat.lt_trans early filling.next)
    rw [listing, setItem_other _ _ notRoot, setItem_other _ _ notShell, copied.old other (Nat.lt_trans early filling.next),
      filling.old other early]
  · refine ⟨roots ++ [now.next], ?_, ?_⟩
    · rw [listing, setItem_other _ _ different, setItem_self, shape]
    · rw [map_append, map_append, ← weights]
      congr 1
      · apply map_congr_left
        intro root member
        rw [weight]
        exact behind.weight (filling.standing.inside_live (listed_now ▸ member))
      · have one : (now.rollup items).weight child = (start.rollup items).weight child :=
          (base.trans (under.lower base.after)).weight known
        rw [map_singleton, map_singleton, weight, copied.weight, one]
  · constructor
    · rw [forest]
      have tidy := copied.standing.tidy
      have top : cloned.upward game.next = none := by
        simp only [upward, getParentContainer, shape, parent, ite_self]
      apply tidy.attach copied.free _ rfl
      · simp only [update_self]
        change (roots ++ [now.next]).Perm (now.next :: cloned.inside game.next)
        rw [listed]
        exact perm_append_singleton now.next roots
      · intro node other
        exact update_of_ne other ..
      · intro above
        exact different ((Rollup.Above.root_iff top).mp above).symm
    · intro ptr holder there up
      rcases listing_parent _ up with rfl | before
      · exact live
      · exact copied.standing.placed ptr holder there before
  · intro node late early
    have own : SumsAt items cloned node := by
      by_cases old : node < now.next
      · exact (filling.sums node late old).old filling.standing behind old
      · exact copied.sums node (Nat.le_of_not_lt old) early
    apply own.congr
    · rw [show (cloned.listing game.next (roots ++ [now.next]) now.next).inside = _ from congrArg Rollup.children forest]
      exact update_of_ne (Nat.ne_of_gt late) ..
    · rw [forest]
    · intro child _
      exact weight child
  · intro node late early
    have count := listing_field cloned game.next now.next Item.count (fun _ _ => rfl) (fun _ _ => rfl) (roots ++ [now.next]) node
    rw [count]
    by_cases old : node < now.next
    · rw [copied.old node old]
      exact filling.small node late old
    · exact copied.small node (Nat.le_of_not_lt old) early

theorem Filling.copied {ptr : ItemPtr} (filling : Filling items start game shell (game.items ptr).itemlist now)
    (isContainer : shell.isContainer = true) (parent : shell.parent = none) (base : Old start.next start game)
    (kept : WeightKept items start) (known : ptr < start.next) (original : (game.items ptr).isContainer = true)
    (own : shell.ownWeight items = (game.items ptr).ownWeight items) (small : shell.count < 256) :
    Copied items game (now.setItem game.next { now.items game.next with totalWeight := (game.items ptr).totalWeight }) ptr := by
  obtain ⟨roots, shape, weights⟩ := filling.container
  have live := filling.next
  have holds : (now.items game.next).isContainer = true := by
    rw [shape]
    exact isContainer
  have listed : now.inside game.next = roots := (inside_eq live holds).trans (by rw [shape])
  have forest := rollup_setTotalWeight items now live holds (game.items ptr).totalWeight
  have top : now.upward game.next = none := by
    simp only [upward, getParentContainer, shape, parent, ite_self]
  have kind : ({ now.items game.next with totalWeight := (game.items ptr).totalWeight } : Item).kind = (now.items game.next).kind := rfl
  generalize after_eq : now.setItem game.next { now.items game.next with totalWeight := (game.items ptr).totalWeight } = after at forest ⊢
  have elsewhere : ∀ node, node ≠ game.next → (after.rollup items).weight node = (now.rollup items).weight node := by
    intro node other
    rw [forest]
    simp only [Rollup.weight, update_of_ne other]
  have lonely : ∀ node, ∀ child ∈ now.inside node, child ≠ game.next := by
    rintro node child member rfl
    have up := (filling.standing.tidy.linked node game.next).mp member
    rw [show (now.rollup items).up game.next = none from top] at up
    cases up
  have next : after.next = now.next := by rw [← after_eq, setItem_next]
  have items_other : ∀ other, other ≠ game.next → after.items other = now.items other := by
    intro other different
    rw [← after_eq, setItem_other _ _ different]
  have items_self : after.items game.next = { now.items game.next with totalWeight := (game.items ptr).totalWeight } := by
    rw [← after_eq, setItem_self]
  have cache : (after.rollup items).cache game.next = (game.rollup items).cache ptr := by
    rw [forest]
    simp only [update_self]
    have there : ptr < game.next ∧ (game.items ptr).isContainer = true := ⟨Nat.lt_of_lt_of_le known base.after, original⟩
    simp only [rollup, if_pos there]
  have inside : after.inside = now.inside := congrArg Rollup.children forest
  constructor
  · rw [next]
    exact live
  · intro other early
    rw [items_other other (Nat.ne_of_lt early), filling.old other early]
  · rw [show after.upward = now.upward from congrArg Rollup.up forest]
    exact top
  · rw [Rollup.weight, cache, Rollup.weight]
    congr 1
    simp only [rollup, items_self, shape]
    rw [← own]
    rfl
  · constructor
    · rw [forest]
      exact ⟨filling.standing.tidy.linked, filling.standing.tidy.nodup, filling.standing.tidy.rooted⟩
    · intro other holder there up
      rw [next] at there ⊢
      by_cases same : other = game.next
      · rw [same, items_self] at up
        exact filling.standing.placed game.next holder live up
      · rw [items_other other same] at up
        exact filling.standing.placed other holder there up
  · intro node late early
    rw [next] at early
    rcases Nat.eq_or_lt_of_le late with rfl | late
    · have sums := kept.summed ptr
      have same : (game.rollup items).cache ptr = (start.rollup items).cache ptr := base.cache known
      have contents : start.inside ptr = (game.items ptr).itemlist := by
        rw [← base.inside known, inside_eq (Nat.lt_of_lt_of_le known base.after) original]
      have roots_weigh : roots.map (after.rollup items).weight = roots.map (now.rollup items).weight := by
        apply map_congr_left
        intro root member
        exact elsewhere root (lonely game.next root (listed ▸ member))
      rw [SumsAt, cache, same, sums, inside, listed, roots_weigh, weights, ← contents]
      rfl
    · apply (filling.sums node late early).congr
      · rw [inside]
      · rw [forest]
        exact update_of_ne (Nat.ne_of_gt late) ..
      · intro child member
        exact elsewhere child (lonely node child member)
  · intro node late early
    rw [next] at early
    rcases Nat.eq_or_lt_of_le late with rfl | late
    · rw [items_self, shape]
      exact small
    · rw [items_other node (Nat.ne_of_gt late)]
      exact filling.small node late early

theorem cloneThing_copied {ptr : ItemPtr} (known : env.items.Reissued) (kept : WeightKept env.items start) {fuel : Nat}
    {result : Game} (base : Old start.next start game) (standing : Standing env.items game) (live : ptr < start.next)
    (ran : cloneThing env fuel game ptr = some result) : Copied env.items game result ptr := by
  induction fuel generalizing game ptr result with
  | zero => cases ran
  | succ fuel ih =>
    simp only [cloneThing] at ran
    have original := base.same ptr live
    have small : (game.items ptr).count < 256 := by
      rw [original]
      exact kept.small ptr live
    cases created : Item.createItem env.items (env.normalRandom game.next) (game.items ptr).id (game.items ptr).count with
    | none =>
      rw [created] at ran
      cases ran
    | some copy =>
      rw [created] at ran
      simp only at ran
      have born := clone_born created
      obtain ⟨parent, itemlist, totalWeight, _⟩ := (Item.createItem_created created).loose
      have forest := born.rollup standing parent itemlist totalWeight
      have stands := born.standing standing parent itemlist totalWeight
      generalize game.clone env ptr = born_game at ran born forest stands
      have shape := born.item
      obtain ⟨own, fewer⟩ := Item.createItem_ownWeight known small created (born_game.items game.next)
        (by rw [shape]) (by rw [shape]) born.attr
      have next : game.next < born_game.next := by
        rw [born.next]
        exact Nat.lt_succ_self _
      have bare : (born_game.items game.next).parent = none ∧ (born_game.items game.next).itemlist = [] ∧
          (born_game.items game.next).count < 256 := by
        rw [shape]
        exact ⟨parent, itemlist, fewer⟩
      have alone : ∀ node, game.next < node → ¬ node < born_game.next := by
        intro node late early
        rw [born.next] at early
        exact Nat.lt_irrefl _ (Nat.lt_of_lt_of_le late (Nat.lt_succ_iff.mp early))
      by_cases container : (game.items ptr).isContainer = true
      · simp only [container, Bool.not_true, Bool.false_eq_true, if_false] at ran
        split at ran
        · cases ran
        · next copied =>
          have holds : (born_game.items game.next).isContainer = true := by
            have copied : copy.isContainer = true := by simpa using copied
            rw [shape]
            exact copied
          rw [Option.bind_eq_bind, Option.bind_eq_some_iff] at ran
          obtain ⟨now, loop, ran⟩ := ran
          rw [Option.pure_def, Option.some.injEq] at ran
          have started : Filling env.items start game (born_game.items game.next) [] born_game := by
            constructor
            · exact next
            · intro other early
              exact born.old other (Nat.ne_of_lt early)
            · refine ⟨[], ?_, rfl⟩
              rw [← bare.2.1]
            · exact stands
            · intro node late early
              exact absurd early (alone node late)
            · intro node late early
              exact absurd early (alone node late)
          have filling : Filling env.items start game (born_game.items game.next) (game.items ptr).itemlist now := by
            refine foldlM_done (Filling env.items start game (born_game.items game.next)) ?_ started loop
            intro done child state after member filling step
            rw [Option.bind_eq_some_iff] at step
            obtain ⟨cloned, copying, step⟩ := step
            rw [Option.pure_def, Option.some.injEq] at step
            rw [original, ← inside_eq live (original ▸ container)] at member
            have inner := upward_live ((kept.tidy.linked ptr child).mp member)
            have under : Old start.next start state :=
              base.trans ⟨fun other early => filling.old other (Nat.lt_of_lt_of_le early base.after), base.after,
                Nat.le_trans base.after (Nat.le_of_lt filling.next)⟩
            rw [← step]
            exact filling.step holds bare.1 base inner (ih under filling.standing inner copying)
          rw [← ran]
          exact filling.copied holds bare.1 base kept live container own bare.2.2
      · simp only [container, Bool.not_false, if_true, Option.some.injEq] at ran
        rw [← ran]
        have light : (born_game.rollup env.items).cache game.next = (game.rollup env.items).cache ptr := by
          simp only [rollup, container, and_false, if_false, Bool.false_eq_true]
          rw [shape, totalWeight, Nat.cast_zero, ite_self]
        constructor
        · exact next
        · intro other early
          exact born.old other (Nat.ne_of_lt early)
        · simp only [upward, getParentContainer, bare.1, ite_self]
        · rw [Rollup.weight, Rollup.weight, light]
          simp only [rollup, own]
        · exact stands
        · intro node late early
          rcases Nat.eq_or_lt_of_le late with rfl | late
          · rw [SumsAt, light]
            simp only [rollup, container, and_false, if_false, Bool.false_eq_true, inside]
            rw [bare.2.1, ite_self]
            rfl
          · exact absurd early (alone node late)
        · intro node late early
          rcases Nat.eq_or_lt_of_le late with rfl | late
          · exact bare.2.2
          · exact absurd early (alone node late)

/-- A copy leaves everything else as it was. -/
theorem WeightKept.clone {ptr : ItemPtr} (known : env.items.Reissued) (kept : WeightKept env.items start) (live : ptr < start.next)
    {fuel : Nat} {result : Game} (ran : cloneThing env fuel start ptr = some result) : WeightKept env.items result := by
  have base : Old start.next start start := ⟨fun _ _ => rfl, Nat.le_refl _, Nat.le_refl _⟩
  have standing : Standing env.items start := ⟨kept.tidy, kept.placed⟩
  have copied := cloneThing_copied known kept base standing live ran
  have behind : Old start.next start result := ⟨copied.old, Nat.le_refl _, Nat.le_of_lt copied.next⟩
  constructor
  · exact copied.standing.tidy
  · intro node
    by_cases old : node < start.next
    · exact SumsAt.old (kept.summed node) standing behind old
    · by_cases new : node < result.next
      · exact copied.sums node (Nat.le_of_not_lt old) new
      · simp only [rollup, inside, new, false_and, if_false]
        rfl
  · intro node early
    by_cases old : node < start.next
    · rw [copied.old node old]
      exact kept.small node old
    · exact copied.small node (Nat.le_of_not_lt old) early
  · exact copied.standing.placed

end

end Game

end Styller
