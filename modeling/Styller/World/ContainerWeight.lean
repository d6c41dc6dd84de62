import Mathlib.Tactic.Ring
import Styller.World.Forest

/-! What the operations of a container do to the weights that the containers keep. -/

namespace Styller.Game

open Library List Function

/-- No item is in two places or inside itself, and every container keeps the weight of what is in it. -/
structure WeightKept (items : ItemTypes) (game : Game) : Prop where
  tidy : (game.rollup items).Tidy
  summed : (game.rollup items).Summed
  small : ∀ ptr, ptr < game.next → (game.items ptr).count < 256
  placed : ∀ ptr holder, ptr < game.next → (game.items ptr).parent = some (.item holder) → holder < game.next

section
variable {items : ItemTypes} {game : Game} {ptr container : ItemPtr}

theorem inside_live (member : ptr ∈ game.inside container) : container < game.next ∧ (game.items container).isContainer = true := by
  rw [inside] at member
  split at member
  · next there => exact there
  · cases member

theorem inside_eq (live : container < game.next) (isContainer : (game.items container).isContainer = true) :
    game.inside container = (game.items container).itemlist :=
  if_pos ⟨live, isContainer⟩

theorem upward_live (link : game.upward ptr = some container) : ptr < game.next := by
  rw [upward] at link
  split at link
  · next there => exact there
  · cases link

theorem reach (tidy : (game.rollup items).Tidy) (live : container < game.next)
    (isContainer : (game.items container).isContainer = true) :
    ∀ node, Rollup.Above game.upward container node → node < game.next ∧ (game.items node).isContainer = true := by
  intro node above
  rcases above.last with rfl | ⟨child, _, link⟩
  · exact ⟨live, isContainer⟩
  · exact inside_live ((tidy.linked node child).mpr link)

theorem updateItemWeight_raised (tidy : (game.rollup items).Tidy) (live : container < game.next)
    (isContainer : (game.items container).isContainer = true) (changed : Game) (next : changed.next = game.next)
    (same : ∀ node, Rollup.Above game.upward container node → changed.upward node = game.upward node) (diff : Int) :
    updateItemWeight (changed.next + 1) changed container diff = raised game.upward changed container diff := by
  have reach := reach tidy live isContainer
  have acyclic : ∀ {node parent}, game.upward node = some parent → ¬ Rollup.Above game.upward parent node := tidy.acyclic
  have enough : (Finset.range changed.next).card < changed.next + 1 := by
    rw [Finset.card_range]
    exact Nat.lt_succ_self _
  apply updateItemWeight_fuel acyclic diff enough
  · intro node above
    rw [Finset.mem_range, next]
    exact (reach node above).1
  · intro node above
    have there := (reach node above).1
    rw [← same node above, upward, if_pos (next ▸ there)]

theorem raised_field {Value : Type} (get : Item → Value) (same : ∀ item totalWeight, get { item with totalWeight } = get item)
    (up : ItemPtr → Option ItemPtr) (game : Game) (low : ItemPtr) (diff : Int) (other : ItemPtr) :
    get ((raised up game low diff).items other) = get (game.items other) := by
  simp only [raised]
  split
  · exact same _ _
  · rfl

theorem raised_count (up : ItemPtr → Option ItemPtr) (game : Game) (low : ItemPtr) (diff : Int) (other : ItemPtr) :
    ((raised up game low diff).items other).count = (game.items other).count :=
  raised_field Item.count (fun _ _ => rfl) up game low diff other

theorem raised_parent (up : ItemPtr → Option ItemPtr) (game : Game) (low : ItemPtr) (diff : Int) (other : ItemPtr) :
    ((raised up game low diff).items other).parent = (game.items other).parent :=
  raised_field Item.parent (fun _ _ => rfl) up game low diff other

/-- A container gets other contents, and the difference goes to it and to all containers above it. -/
theorem WeightKept.rearranged (kept : WeightKept items game) (live : container < game.next) {itemlist : List ItemPtr} {up : ItemPtr → Option ItemPtr}
    {change : ZMod (2 ^ 32)} {after : Game} (next : after.next = game.next) (forest : after.rollup items =
      { children := update game.inside container itemlist, up, own := (game.rollup items).own
        cache := fun node => (game.rollup items).cache node + Rollup.rise game.upward container change node })
    (tidy : (after.rollup items).Tidy)
    (sum : (itemlist.map (game.rollup items).weight).sum =
      ((game.inside container).map (game.rollup items).weight).sum + change)
    (below : ∀ child ∈ itemlist, ¬ Rollup.Above game.upward container child)
    (counts : ∀ other, (after.items other).count = (game.items other).count)
    (parents : ∀ other holder, (after.items other).parent = some (.item holder) →
      holder = container ∨ (game.items other).parent = some (.item holder)) : WeightKept items after := by
  constructor
  · exact tidy
  · rw [forest]
    apply kept.summed.change kept.tidy container change
    · intro node other
      exact ⟨update_of_ne other .., fun _ _ => rfl⟩
    · simp only [update_self]
      exact sum
    · simp only [update_self]
      exact below
    · intro node
      rfl
  · intro other known
    rw [counts]
    exact kept.small other (next ▸ known)
  · intro other holder known parent
    rw [next] at known ⊢
    rcases parents other holder parent with rfl | before
    · exact live
    · exact kept.placed other holder known before

/-- The forest of a game that has been filled, after the weight of the new item has been added. -/
theorem rollup_filled (tidy : (game.rollup items).Tidy) (live : container < game.next)
    (isContainer : (game.items container).isContainer = true) {ptr : ItemPtr} (apart : ¬ Rollup.Above game.upward container ptr)
    {itemlist : List ItemPtr} (filled : Game) (next : filled.next = game.next) (forest : filled.rollup items =
      { game.rollup items with
        children := update game.inside container itemlist
        up := update game.upward ptr (some container) })
    (kinds : ∀ other, (filled.items other).isContainer = (game.items other).isContainer) (diff : Int) :
    updateItemWeight (filled.next + 1) filled container diff = raised game.upward filled container diff ∧
      (updateItemWeight (filled.next + 1) filled container diff).rollup items =
        { children := update game.inside container itemlist
          up := update game.upward ptr (some container)
          own := (game.rollup items).own
          cache := fun node => (game.rollup items).cache node + Rollup.rise game.upward container (diff : ZMod (2 ^ 32)) node } := by
  have still : ∀ node, Rollup.Above game.upward container node → filled.upward node = game.upward node := by
    intro node above
    have upward : filled.upward = update game.upward ptr (some container) := congrArg Rollup.up forest
    rw [upward, update_of_ne]
    rintro rfl
    exact apart above
  have reach : ∀ node, Rollup.Above game.upward container node →
      node < filled.next ∧ (filled.items node).isContainer = true := by
    intro node above
    rw [next, kinds]
    exact reach tidy live isContainer node above
  have same := updateItemWeight_raised tidy live isContainer filled next still diff
  refine ⟨same, ?_⟩
  rw [same, rollup_raised items filled reach diff, forest]

theorem WeightKept.added (kept : WeightKept items game) (live : container < game.next)
    (isContainer : (game.items container).isContainer = true) (known : ptr < game.next) (free : game.upward ptr = none)
    (apart : ¬ Rollup.Above game.upward container ptr) {itemlist : List ItemPtr}
    (listed : itemlist.Perm (ptr :: game.inside container)) {filled : Game} (next : filled.next = game.next)
    (forest : filled.rollup items = { game.rollup items with
      children := update game.inside container itemlist
      up := update game.upward ptr (some container) })
    (kinds : ∀ other, (filled.items other).isContainer = (game.items other).isContainer)
    (counts : ∀ other, (filled.items other).count = (game.items other).count)
    (parents : ∀ other holder, (filled.items other).parent = some (.item holder) →
      holder = container ∨ (game.items other).parent = some (.item holder)) :
    WeightKept items (updateItemWeight (filled.next + 1) filled container ((filled.items ptr).getWeight items)) := by
  have tidy := kept.tidy
  have weight : ((((filled.items ptr).getWeight items : Nat) : Int) : ZMod (2 ^ 32)) = (game.rollup items).weight ptr := by
    rw [Int.cast_natCast, ← weight_rollup filled items (next ▸ known), forest]
    rfl
  obtain ⟨same, after⟩ := rollup_filled tidy live isContainer apart filled next forest kinds ((filled.items ptr).getWeight items)
  rw [weight] at after
  refine kept.rearranged live ?_ after ?_ ?_ ?_ ?_ ?_
  · rw [same]
    exact next
  · rw [after]
    apply tidy.attach free apart rfl
    · simp only [update_self]
      exact listed
    · intro node other
      exact update_of_ne other ..
  · rw [(listed.map _).sum_eq, map_cons, sum_cons, add_comm]
  · intro child member
    rcases mem_cons.mp (listed.mem_iff.mp member) with rfl | member
    · exact apart
    · exact tidy.apart member
  · intro other
    rw [same, raised_count, counts]
  · intro other holder parent
    rw [same, raised_parent] at parent
    exact parents other holder parent

theorem upward_of_inside (kept : WeightKept items game) (member : ptr ∈ game.inside container) : game.upward ptr = some container :=
  (kept.tidy.linked container ptr).mp member

/-- An item in a container comes to weigh more or less. -/
theorem WeightKept.reweighed (kept : WeightKept items game) (member : ptr ∈ game.inside container) {item : Item}
    (kind : item.kind = (game.items ptr).kind) (parent : item.parent = (game.items ptr).parent)
    (itemlist : item.itemlist = (game.items ptr).itemlist) (totalWeight : item.totalWeight = (game.items ptr).totalWeight)
    (small : item.count < 256) : WeightKept items (updateItemWeight ((game.setItem ptr item).next + 1) (game.setItem ptr item)
      container (-((game.items ptr).getWeight items : Int) + ((game.setItem ptr item).items ptr).getWeight items)) := by
  have tidy := kept.tidy
  obtain ⟨live, isContainer⟩ := inside_live member
  have known := upward_live (upward_of_inside kept member)
  have forest : (game.setItem ptr item).rollup items = _ := rollup_setOwn kind parent itemlist totalWeight
  have upward : (game.setItem ptr item).upward = game.upward := congrArg Rollup.up forest
  have reach : ∀ node, Rollup.Above game.upward container node →
      node < (game.setItem ptr item).next ∧ ((game.setItem ptr item).items node).isContainer = true := by
    intro node above
    rw [setItem_isContainer kind]
    exact reach tidy live isContainer node above
  rw [updateItemWeight_raised tidy live isContainer (game.setItem ptr item) rfl (fun node _ => congrFun upward node)]
  generalize difference : -((game.items ptr).getWeight items : Int) + ((game.setItem ptr item).items ptr).getWeight items = diff
  have weight : (diff : ZMod (2 ^ 32)) = -(game.rollup items).weight ptr + (item.ownWeight items + (game.rollup items).cache ptr) := by
    rw [← difference, Int.cast_add, Int.cast_neg, Int.cast_natCast, Int.cast_natCast, ← weight_rollup game items known,
      ← weight_rollup (game.setItem ptr item) items known, forest]
    simp only [Rollup.weight, update_self]
  have after := rollup_raised items (game.setItem ptr item) reach diff
  rw [forest, weight] at after
  constructor
  · rw [after]
    exact ⟨tidy.linked, tidy.nodup, tidy.rooted⟩
  · rw [after]
    apply kept.summed.change tidy container (-(game.rollup items).weight ptr + (item.ownWeight items + (game.rollup items).cache ptr))
    · intro node other
      refine ⟨rfl, ?_⟩
      intro child listed
      apply update_of_ne
      rintro rfl
      have twice := ((tidy.linked node child).mp listed).symm.trans (upward_of_inside kept member)
      exact other (Option.some.inj twice)
    · have parts := perm_cons_erase member
      have fresh : ptr ∉ (game.inside container).erase ptr := (tidy.nodup container).not_mem_erase
      have rest : ((game.inside container).erase ptr).map (fun child =>
          update (game.rollup items).own ptr (item.ownWeight items : ZMod (2 ^ 32)) child + (game.rollup items).cache child) =
            ((game.inside container).erase ptr).map (game.rollup items).weight := by
        apply map_congr_left
        intro child listed
        rw [update_of_ne, Rollup.weight]
        rintro rfl
        exact fresh listed
      change ((game.inside container).map _).sum = ((game.inside container).map _).sum + _
      rw [(parts.map _).sum_eq, (parts.map (game.rollup items).weight).sum_eq, map_cons, map_cons, sum_cons,
        sum_cons, rest]
      simp only [update_self]
      ring
    · intro child listed
      exact tidy.apart listed
    · intro node
      rfl
  · intro other known
    rw [raised_count]
    by_cases same : other = ptr
    · rw [same, setItem_self]
      exact small
    · rw [setItem_other _ _ same]
      exact kept.small other known
  · intro other holder known found
    apply kept.placed other holder known
    rw [raised_parent] at found
    by_cases same : other = ptr
    · rw [same, setItem_self, parent] at found
      rwa [same]
    · rwa [setItem_other _ _ same] at found

theorem WeightKept.removed (kept : WeightKept items game) (member : ptr ∈ game.inside container) :
    WeightKept items (
      let lighter := updateItemWeight (game.next + 1) game container (-((game.items ptr).getWeight items : Int))
      let loose := lighter.setItem ptr ((lighter.items ptr).setParent none)
      loose.setItem container { loose.items container with itemlist := (loose.items container).itemlist.erase ptr }) := by
  have tidy := kept.tidy
  obtain ⟨live, isContainer⟩ := inside_live member
  have known := upward_live (upward_of_inside kept member)
  have reach := reach tidy live isContainer
  simp only
  rw [updateItemWeight_raised tidy live isContainer game rfl (fun _ _ => rfl)]
  generalize difference : -((game.items ptr).getWeight items : Int) = diff
  have weight : (diff : ZMod (2 ^ 32)) = -(game.rollup items).weight ptr := by
    rw [← difference, Int.cast_neg, Int.cast_natCast, weight_rollup game items known]
  generalize lighter : raised game.upward game container diff = after
  have forest := rollup_raised items game reach diff
  rw [lighter, weight] at forest
  have next : after.next = game.next := by
    rw [← lighter]
    rfl
  have kinds : ∀ other, (after.items other).isContainer = (game.items other).isContainer := by
    intro other
    rw [← lighter, raised_isContainer]
  have loose := rollup_setParent items after (next ▸ known : ptr < after.next) none
  have taken : ∀ {Value : Type} (get : Item → Value), (∀ item totalWeight, get { item with totalWeight } = get item) →
      (∀ item parent, get (Item.setParent item parent) = get item) →
        ∀ other, get ((after.setItem ptr ((after.items ptr).setParent none)).items other) = get (game.items other) := by
    intro Value get weightless parentless other
    rw [← raised_field get weightless game.upward game container diff other, lighter]
    by_cases same : other = ptr
    · rw [same, setItem_self, parentless]
    · rw [setItem_other _ _ same]
  have contents := taken Item.itemlist (fun _ _ => rfl) (fun _ _ => rfl) container
  have final := rollup_setItemlist items (after.setItem ptr ((after.items ptr).setParent none)) (next ▸ live)
    ((taken Item.isContainer (fun _ _ => rfl) (fun _ _ => rfl) container).trans isContainer)
    (((after.setItem ptr ((after.items ptr).setParent none)).items container).itemlist.erase ptr)
  rw [contents, ← inside_eq live isContainer] at final ⊢
  rw [loose, forest] at final
  have parts := perm_cons_erase member
  refine kept.rearranged live next final ?_ ?_ ?_ ?_ ?_
  · rw [final]
    apply tidy.detach member rfl
    · simp only [update_self]
      exact parts
    · intro node other
      exact update_of_ne other ..
  · rw [(parts.map (game.rollup items).weight).sum_eq, map_cons, sum_cons]
    ring
  · intro child listed
    exact tidy.apart (mem_of_mem_erase listed)
  · intro other
    by_cases same : other = container
    · rw [same, setItem_self]
      exact taken Item.count (fun _ _ => rfl) (fun _ _ => rfl) container
    · rw [setItem_other _ _ same]
      exact taken Item.count (fun _ _ => rfl) (fun _ _ => rfl) other
  · intro other holder parent
    right
    have loose : ((after.setItem ptr ((after.items ptr).setParent none)).items other).parent = some (.item holder) := by
      by_cases same : other = container
      · rw [same, setItem_self] at parent
        rw [same]
        exact parent
      · rwa [setItem_other _ _ same] at parent
    by_cases same : other = ptr
    · rw [same, setItem_self] at loose
      cases loose
    · rwa [setItem_other _ _ same, ← lighter, raised_parent] at loose

theorem containerOf_item (isContainer : (game.items container).isContainer = true) :
    game.containerOf (some (.item container)) = some container :=
  if_pos isContainer

/-- A container gets new contents, and an item among them its parent. -/
def listing (game : Game) (container : ItemPtr) (itemlist : List ItemPtr) (ptr : ItemPtr) : Game :=
  let listed := game.setItem container { game.items container with itemlist }
  listed.setItem ptr ((listed.items ptr).setParent (some (.item container)))

theorem listing_field {Value : Type} (game : Game) (container ptr : ItemPtr) (get : Item → Value) (listless : ∀ item itemlist, get { item with itemlist } = get item)
    (parentless : ∀ item parent, get (Item.setParent item parent) = get item) (itemlist : List ItemPtr) (other : ItemPtr) :
    get ((game.listing container itemlist ptr).items other) = get (game.items other) := by
  have one : get ((game.setItem container { game.items container with itemlist }).items other) = get (game.items other) := by
    by_cases same : other = container
    · rw [same, setItem_self, listless]
    · rw [setItem_other _ _ same]
  rw [← one, listing]
  by_cases same : other = ptr
  · rw [same, setItem_self, parentless]
  · rw [setItem_other _ _ same]

theorem listing_parent (itemlist : List ItemPtr) {other holder : ItemPtr}
    (parent : ((game.listing container itemlist ptr).items other).parent = some (.item holder)) :
    holder = container ∨ (game.items other).parent = some (.item holder) := by
  rw [listing] at parent
  by_cases same : other = ptr
  · rw [same, setItem_self] at parent
    cases parent
    exact .inl rfl
  · rw [setItem_other _ _ same] at parent
    by_cases equal : other = container
    · rw [equal, setItem_self] at parent
      rw [equal]
      exact .inr parent
    · rw [setItem_other _ _ equal] at parent
      exact .inr parent

theorem rollup_listing (items : ItemTypes) (live : container < game.next) (isContainer : (game.items container).isContainer = true)
    (known : ptr < game.next) (itemlist : List ItemPtr) :
    (game.listing container itemlist ptr).rollup items =
      { game.rollup items with
        children := update game.inside container itemlist
        up := update game.upward ptr (some container) } := by
  have forest := rollup_setItemlist items game live isContainer itemlist
  have isContainer : ((game.setItem container { game.items container with itemlist }).items container).isContainer = true := by
    rw [setItem_self]
    exact isContainer
  have lifted := rollup_setParent items (game.setItem container { game.items container with itemlist }) known (some (.item container))
  rw [containerOf_item isContainer, forest] at lifted
  exact lifted

/-- The item may get its parent first. -/
theorem listing_comm (game : Game) {container ptr : ItemPtr} (different : container ≠ ptr) (itemlist : List ItemPtr) :
    (let lifted := game.setItem ptr ((game.items ptr).setParent (some (.item container)))
    lifted.setItem container { lifted.items container with itemlist }) = game.listing container itemlist ptr := by
  simp only [listing, setItem, if_neg different, if_neg different.symm]
  congr 1
  funext other
  by_cases same : other = container
  · rw [if_pos same, if_pos same, if_neg (fun equal => different (same.symm.trans equal))]
  · rw [if_neg same, if_neg same]

theorem WeightKept.replaced {env : Env} (kept : WeightKept env.items game) (live : container < game.next)
    (isContainer : (game.items container).isContainer = true) (known : ptr < game.next) (free : game.upward ptr = none)
    (apart : ¬ Rollup.Above game.upward container ptr) (index : Nat) :
    WeightKept env.items (game.containerReplaceThing env container index ptr) := by
  rw [containerReplaceThing]
  cases found : (game.items container).itemlist[index]? with
  | none => exact kept
  | some replacedItem =>
    have tidy := kept.tidy
    have inside := inside_eq live isContainer
    have member : replacedItem ∈ game.inside container := by
      rw [inside]
      exact mem_of_getElem? found
    have known_old := upward_live (upward_of_inside kept member)
    have forest := rollup_listing env.items live isContainer known ((game.items container).itemlist.set index ptr)
    have kinds := listing_field game container ptr Item.isContainer (fun _ _ => rfl) (fun _ _ => rfl)
      ((game.items container).itemlist.set index ptr)
    have counts := listing_field game container ptr Item.count (fun _ _ => rfl) (fun _ _ => rfl)
      ((game.items container).itemlist.set index ptr)
    have parents : ∀ other holder,
        ((game.listing container ((game.items container).itemlist.set index ptr) ptr).items other).parent = some (.item holder) →
          holder = container ∨ (game.items other).parent = some (.item holder) :=
      fun _ _ => listing_parent _
    have next : (game.listing container ((game.items container).itemlist.set index ptr) ptr).next = game.next := rfl
    change WeightKept env.items (
      let listed := game.listing container ((game.items container).itemlist.set index ptr) ptr
      let game := updateItemWeight (listed.next + 1) listed container
        (-((listed.items replacedItem).getWeight env.items : Int) + (listed.items ptr).getWeight env.items)
      game.setItem replacedItem ((game.items replacedItem).setParent none))
    generalize game.listing container ((game.items container).itemlist.set index ptr) ptr = filled at forest kinds counts parents next ⊢
    simp only
    generalize difference : -((filled.items replacedItem).getWeight env.items : Int) + (filled.items ptr).getWeight env.items = diff
    have weight : (diff : ZMod (2 ^ 32)) = -(game.rollup env.items).weight replacedItem + (game.rollup env.items).weight ptr := by
      rw [← difference, Int.cast_add, Int.cast_neg, Int.cast_natCast, Int.cast_natCast,
        ← weight_rollup filled env.items (next ▸ known_old), ← weight_rollup filled env.items (next ▸ known), forest]
      rfl
    obtain ⟨same, after⟩ := rollup_filled tidy live isContainer apart filled next forest kinds diff
    rw [weight] at after
    generalize updateItemWeight (filled.next + 1) filled container diff = heavier at same after ⊢
    have next_heavier : heavier.next = game.next := by
      rw [same]
      exact next
    have final := rollup_setParent env.items heavier (next_heavier ▸ known_old) none
    rw [after] at final
    have place : index < (game.items container).itemlist.length := (List.getElem?_eq_some_iff.mp found).1
    have here : ((game.items container).itemlist.set index ptr).Perm (ptr :: (game.items container).itemlist.eraseIdx index) :=
      set_perm_cons_eraseIdx place ptr
    have left : (game.inside container).Perm (replacedItem :: (game.items container).itemlist.eraseIdx index) := by
      rw [inside, ← (List.getElem?_eq_some_iff.mp found).2]
      exact (getElem_cons_eraseIdx_perm place).symm
    refine kept.rearranged live next_heavier final ?_ ?_ ?_ ?_ ?_
    · rw [final]
      apply tidy.exchange free apart member rfl left
      · simp only [update_self]
        exact here
      · intro node other
        exact update_of_ne other ..
    · rw [(here.map (game.rollup env.items).weight).sum_eq, (left.map (game.rollup env.items).weight).sum_eq, map_cons,
        map_cons, sum_cons, sum_cons]
      ring
    · intro child listed
      rcases mem_cons.mp (here.mem_iff.mp listed) with rfl | listed
      · exact apart
      · exact tidy.apart (left.mem_iff.mpr (mem_cons_of_mem _ listed))
    · intro other
      rw [← counts, ← raised_count game.upward filled container diff other, ← same]
      by_cases equal : other = replacedItem
      · rw [equal, setItem_self]
        rfl
      · rw [setItem_other _ _ equal]
    · intro other holder parent
      by_cases equal : other = replacedItem
      · rw [equal, setItem_self] at parent
        cases parent
      · rw [setItem_other _ _ equal, same, raised_parent] at parent
        exact parents other holder parent

theorem fits_of_added (free : game.getParentContainer ptr = none) (apart : ¬ Rollup.Above game.getParentContainer container ptr) :
    game.upward ptr = none ∧ ¬ Rollup.Above game.upward container ptr := by
  constructor
  · rw [upward, free, ite_self]
  · intro above
    apply apart
    clear free apart
    induction above with
    | refl node => exact .refl node
    | step link _ ih =>
      have live := upward_live link
      rw [upward, if_pos live] at link
      exact .step link ih

theorem WeightKept.put {items : ItemTypes} (kept : WeightKept items game) (live : container < game.next)
    (isContainer : (game.items container).isContainer = true) (known : ptr < game.next) (free : game.upward ptr = none)
    (apart : ¬ Rollup.Above game.upward container ptr) {itemlist : List ItemPtr}
    (listed : itemlist.Perm (ptr :: (game.items container).itemlist)) :
    WeightKept items (updateItemWeight (game.next + 1) (game.listing container itemlist ptr) container
      (((game.listing container itemlist ptr).items ptr).getWeight items)) := by
  rw [← inside_eq live isContainer] at listed
  exact kept.added live isContainer known free apart listed rfl (rollup_listing items live isContainer known itemlist)
    (listing_field game container ptr Item.isContainer (fun _ _ => rfl) (fun _ _ => rfl) itemlist)
    (listing_field game container ptr Item.count (fun _ _ => rfl) (fun _ _ => rfl) itemlist)
    (fun _ _ => listing_parent itemlist)

/-- Both `addThing` and `internalAddThing`. -/
theorem WeightKept.putFront {items : ItemTypes} (kept : WeightKept items game) (live : container < game.next)
    (isContainer : (game.items container).isContainer = true) (known : ptr < game.next) (free : game.upward ptr = none)
    (apart : ¬ Rollup.Above game.upward container ptr) : WeightKept items (
      let lifted := game.setItem ptr ((game.items ptr).setParent (some (.item container)))
      let listed := lifted.setItem container { lifted.items container with itemlist := ptr :: (lifted.items container).itemlist }
      updateItemWeight (listed.next + 1) listed container ((listed.items ptr).getWeight items)) := by
  have different : container ≠ ptr := by
    rintro rfl
    exact apart (.refl container)
  have order := listing_comm game different (ptr :: (game.items container).itemlist)
  simp only [setItem_other _ _ different] at order ⊢
  rw [order]
  exact kept.put live isContainer known free apart (.refl _)

theorem WeightKept.containerAddThing {env : Env} (kept : WeightKept env.items game) (live : container < game.next)
    (isContainer : (game.items container).isContainer = true) (known : ptr < game.next) (free : game.upward ptr = none)
    (apart : ¬ Rollup.Above game.upward container ptr) (index : Int) :
    WeightKept env.items (game.containerAddThing env container index ptr) := by
  rw [Game.containerAddThing]
  split
  · exact kept
  · exact kept.putFront live isContainer known free apart

theorem WeightKept.containerAddItemBack {env : Env} (kept : WeightKept env.items game) (live : container < game.next)
    (isContainer : (game.items container).isContainer = true) (known : ptr < game.next) (free : game.upward ptr = none)
    (apart : ¬ Rollup.Above game.upward container ptr) : WeightKept env.items (game.containerAddItemBack env container ptr) :=
  kept.put live isContainer known free apart (perm_append_singleton ptr _)

theorem WeightKept.containerUpdateThing {env : Env} (kept : WeightKept env.items game) (live : container < game.next)
    (isContainer : (game.items container).isContainer = true) (itemId count : Nat) :
    WeightKept env.items (game.containerUpdateThing env container ptr itemId count) := by
  rw [Game.containerUpdateThing]
  split
  · exact kept
  · next listed =>
    have member := indexIn_ne_iff.mp listed
    rw [← inside_eq live isContainer] at member
    obtain ⟨frame, count_cases⟩ := Item.setSubType_frame env.items
      ((game.items ptr).setID env.items (env.normalRandom ptr) itemId) (toUInt16 count)
    have moved := Item.setID_moved env.items (env.normalRandom ptr) (game.items ptr) itemId
    rw [moved] at frame count_cases
    rw [moved]
    have known := upward_live (upward_of_inside kept member)
    apply kept.reweighed member
    · rw [frame]
    · rw [frame]
    · rw [frame]
    · rw [frame]
    · rcases count_cases with same | set
      · rw [same]
        exact kept.small ptr known
      · rw [set]
        exact toUInt8_lt _

theorem WeightKept.containerRemoveThing {env : Env} (kept : WeightKept env.items game) (live : container < game.next)
    (isContainer : (game.items container).isContainer = true) (count : Nat) :
    WeightKept env.items (game.containerRemoveThing env container ptr count) := by
  rw [Game.containerRemoveThing]
  simp only
  split
  · exact kept
  · next listed =>
    have member := indexIn_ne_iff.mp listed
    rw [← inside_eq live isContainer] at member
    split
    · apply kept.reweighed member
      · rfl
      · rfl
      · rfl
      · rfl
      · simp only [Item.setItemCount]
        exact toUInt8_lt _
    · exact kept.removed member

end

end Styller.Game
