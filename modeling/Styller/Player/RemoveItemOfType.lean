import Styller.Player.CarriedItems

/-! `removeItemOfType`, when it takes just the amount. -/

namespace Styller.Game

open Library Layout List

section
variable (env : Env) (game : Game) (id : PlayerId) (itemId : Nat) (subType : Int)

def counts (ptr : ItemPtr) : Bool := (game.items ptr).countByType env.items subType ≠ 0

def isEnough (amount : Nat) (list : List ItemPtr) : Bool := amount ≤ game.typeCount env subType list % 2 ^ 32

def firstEnough (amount : Nat) : Option (List ItemPtr) :=
  ((game.searchedItems id itemId false).filter (game.counts env subType)).inits.find? (game.isEnough env subType amount)

def goesWith (list : List ItemPtr) (ptr : ItemPtr) : Bool :=
  list.any fun top => removable (game.items top) && (ptr = top || (game.iterate top).contains ptr)

/-- The answer is right, and the count becomes less by the amount or nothing changes. -/
def Exact (amount : UInt32) : Prop :=
  let result := game.removeItemOfType env id itemId subType amount false
  (result.1 = true ↔ amount.toNat ≤ game.getItemTypeCount env id itemId subType) ∧
    (result.1 = true → result.2.getItemTypeCount env id itemId subType + amount.toNat = game.getItemTypeCount env id itemId subType) ∧
    (result.1 = false → result.2 = game)

/-- Nothing is asked for; or the search does not come to the amount, and the count is less; or the count is enough, and a subtype
of stacks divides the amount, or what goes with the first items that come to the amount is just that much. -/
def Apt (amount : UInt32) : Prop :=
  amount = 0 ∨
    match game.firstEnough env id itemId subType amount.toNat with
    | none => game.getItemTypeCount env id itemId subType < amount.toNat
    | some list =>
      amount.toNat ≤ game.getItemTypeCount env id itemId subType ∧
        if (env.items.get itemId).stackable then subType = -1 ∨ subType ∣ amount.toNat
        else game.typeCount env subType ((game.itemsOfType id itemId).filter (game.goesWith list)) % 2 ^ 32 = amount.toNat

end

section
variable {env : Env} {game : Game} {id : PlayerId} {itemId : Nat} {subType : Int} {amount : Nat} {ptr : ItemPtr}

theorem typeCount_append (first second : List ItemPtr) :
    game.typeCount env subType (first ++ second) = game.typeCount env subType first + game.typeCount env subType second := by
  unfold typeCount
  rw [map_append, sum_append]

theorem typeCount_cons (ptr : ItemPtr) (list : List ItemPtr) :
    game.typeCount env subType (ptr :: list) = (game.items ptr).countByType env.items subType + game.typeCount env subType list := by
  unfold typeCount
  rw [map_cons, sum_cons]

theorem inits_head (list : List ItemPtr) : ∃ longer, list.inits = [] :: longer := by
  cases list with
  | nil => exact ⟨[], rfl⟩
  | cons item rest => exact ⟨_, inits_cons item rest⟩

theorem typeCount_perm {first second : List ItemPtr} (perm : first.Perm second) :
    game.typeCount env subType first = game.typeCount env subType second :=
  (perm.map _).sum_eq

/-- From a beginning that is not enough the loops go on to the next ones. -/
theorem collectItems_front (list front : List ItemPtr) (less : game.isEnough env subType amount front = false) :
    game.collectItems env subType amount list front (game.typeCount env subType front % 2 ^ 32) =
      ((list.filter (game.counts env subType)).inits.map fun back => front ++ back).find? (game.isEnough env subType amount) := by
  induction list generalizing front with
  | nil =>
    rw [filter_nil, List.inits, map_singleton, append_nil, find?_singleton, less]
    rfl
  | cons item rest ih =>
    unfold collectItems
    dsimp only
    by_cases none : (game.items item).countByType env.items subType = 0
    · have passed : game.counts env subType item = false := decide_eq_false (not_not.mpr none)
      rw [if_pos none, filter_cons, passed]
      exact ih front less
    · have listed : game.counts env subType item = true := decide_eq_true none
      have count : (game.typeCount env subType front % 2 ^ 32 + (game.items item).countByType env.items subType) % 2 ^ 32 =
          game.typeCount env subType (front ++ [item]) % 2 ^ 32 := by
        rw [typeCount_append, typeCount_cons, Nat.mod_add_mod]
        rfl
      have later : (fun back => front ++ back) ∘ (fun back => item :: back) = fun back => (front ++ [item]) ++ back := by
        funext back
        exact (append_assoc front [item] back).symm
      rw [if_neg none, filter_cons, if_pos listed, count, inits_cons, map_cons, map_map, later,
        append_nil, find?_cons_of_neg (Bool.eq_false_iff.mp less)]
      by_cases enough : amount ≤ game.typeCount env subType (front ++ [item]) % 2 ^ 32
      · obtain ⟨longer, first⟩ := inits_head (rest.filter (game.counts env subType))
        have found : game.isEnough env subType amount (front ++ [item]) = true := decide_eq_true enough
        rw [if_pos enough, first, map_cons, append_nil, find?_cons_of_pos found]
      · rw [if_neg enough]
        exact ih (front ++ [item]) (decide_eq_false enough)

theorem collectItems_eq (positive : 0 < amount) :
    game.collectItems env subType amount (game.searchedItems id itemId false) [] 0 = game.firstEnough env id itemId subType amount := by
  have none : game.isEnough env subType amount [] = false := decide_eq_false (Nat.not_le_of_lt positive)
  have front := collectItems_front (game.searchedItems id itemId false) [] none
  have same : (fun back : List ItemPtr => [] ++ back) = fun back => back := rfl
  rw [same, map_id'] at front
  exact front

/-- What the search comes to is carried, and comes once. -/
theorem searchedItems_sublist : (game.searchedItems id itemId false).Sublist (game.itemsOfType id itemId) := by
  unfold searchedItems itemsOfType inventoryItems
  induction game.contents (.player id) with
  | nil => exact List.Sublist.slnil
  | cons ptr rest ih =>
    rw [flatMap_cons, flatMap_cons, filter_append]
    apply List.Sublist.append _ ih
    by_cases type : (game.items ptr).id = itemId
    · have here : (!false) = true ∧ (game.items ptr).id = itemId := ⟨rfl, type⟩
      rw [if_pos here, filter_cons, if_pos (decide_eq_true type)]
      exact List.Sublist.cons_cons ptr (nil_sublist _)
    · have other : ¬ ((!false) = true ∧ (game.items ptr).id = itemId) := fun both => type both.2
      rw [if_neg other, filter_cons, if_neg (Bool.eq_false_iff.mp (decide_eq_false type))]
      by_cases container : (game.items ptr).isContainer = true
      · rw [if_pos container, if_pos container]
      · rw [if_neg container, if_neg container]
        exact List.Sublist.refl _

/-- The first items that are enough. -/
structure Found (env : Env) (game : Game) (id : PlayerId) (itemId : Nat) (subType : Int) (amount : Nat) (list : List ItemPtr) : Prop where
  sublist : list.Sublist (game.itemsOfType id itemId)
  counts : ∀ ptr ∈ list, (game.items ptr).countByType env.items subType ≠ 0
  enough : amount ≤ game.typeCount env subType list

theorem found_of_firstEnough {list : List ItemPtr} (first : game.firstEnough env id itemId subType amount = some list) :
    Found env game id itemId subType amount list := by
  unfold firstEnough at first
  have enough : game.isEnough env subType amount list = true := find?_some first
  have front := (mem_inits _ _).mp (mem_of_find?_eq_some first)
  constructor
  · exact front.sublist.trans (filter_sublist.trans searchedItems_sublist)
  · intro ptr listed
    exact of_decide_eq_true (mem_filter.mp (front.subset listed)).2
  · exact Nat.le_trans (of_decide_eq_true enough) (Nat.mod_le _ _)

theorem count_ne_of_counts {item : Item} (counts : item.countByType env.items subType ≠ 0) : item.count ≠ 0 := by
  intro none
  apply counts
  unfold Item.countByType
  rw [none, ite_self]

end

section
variable {env : Env} {game : Game} {id : PlayerId} {itemId : Nat} {subType : Int} {amount : Nat} {list : List ItemPtr}

theorem goesWith_iff (sound : game.layout.Sound env.items) (carried : ∀ item ∈ list, game.Carried id item) (ptr : ItemPtr) :
    game.goesWith list ptr = true ↔ ∃ top, (top ∈ list ∧ removable (game.items top) = true) ∧ game.LiesIn top ptr := by
  unfold goesWith
  rw [any_eq_true]
  apply exists_congr
  intro top
  rw [Bool.and_eq_true, Bool.or_eq_true, decide_eq_true_iff, contains_iff_mem, and_assoc]
  apply and_congr_right
  intro listed
  rw [mem_iterate sound (carried top listed)]

/-- Items that do not stack are taken out with all that is in them. -/
theorem Found.removed (sound : game.layout.Sound env.items) (found : Found env game id itemId subType amount list) :
    (internalRemoveItems env false list amount game).typeCount env subType
          ((internalRemoveItems env false list amount game).itemsOfType id itemId) +
        game.typeCount env subType ((game.itemsOfType id itemId).filter (game.goesWith list)) =
      game.typeCount env subType (game.itemsOfType id itemId) := by
  have carried : ∀ item ∈ list, game.Carried id item := fun item listed =>
    ((mem_itemsOfType sound).mp (found.sublist.subset listed)).1
  have some : ∀ item ∈ list, game.Carried id item ∧ ¬ False ∧ (game.items item).count ≠ 0 :=
    fun item listed => ⟨carried item listed, not_false, count_ne_of_counts (found.counts item listed)⟩
  have pruned := @Pruned.removeItems env game game id _ amount list ((itemsOfType_nodup sound).sublist found.sublist) (Pruned.refl sound) some
  apply pruned.total sound
  intro ptr _
  rw [goesWith_iff sound carried]
  apply exists_congr
  intro top
  rw [false_or]

end

section
variable {env : Env} {game : Game} {id : PlayerId} {itemId : Nat} {subType : Int} {list : List ItemPtr} {ptr : ItemPtr}

/-- What is taken from stacks that count: the amount, or as many whole stacks of the subtype as it needs. -/
def taken (subType : Int) (amount : Nat) : Nat :=
  if subType = -1 then amount else (amount + subType.toNat - 1) / subType.toNat * subType.toNat

theorem taken_step {subType : Int} {amount count : Nat} (counts : subType = -1 ∨ subType = count) (some : count ≠ 0) (enough : count ≤ amount) :
    taken subType amount = count + taken subType (amount - count) := by
  unfold taken
  rcases counts with all | same
  · rw [if_pos all, if_pos all, Nat.add_sub_cancel' enough]
  · have only : ¬ subType = -1 := by omega
    have size : subType.toNat = count := by omega
    have less : amount + count - 1 = amount - count + count - 1 + count := by omega
    rw [if_neg only, if_neg only, size, less, Nat.add_div_right _ (Nat.pos_of_ne_zero some), Nat.succ_mul, Nat.add_comm]

theorem taken_last {subType : Int} {amount count : Nat} (counts : subType = -1 ∨ subType = count) (positive : 0 < amount)
    (less : amount < count) : (if subType = -1 then count - amount else 0) + taken subType amount = count := by
  unfold taken
  rcases counts with all | same
  · rw [if_pos all, if_pos all, Nat.sub_add_cancel (Nat.le_of_lt less)]
  · have only : ¬ subType = -1 := by omega
    have size : subType.toNat = count := by omega
    have one : amount + count - 1 = amount - 1 + count := by omega
    rw [if_neg only, if_neg only, size, one, Nat.add_div_right _ (Nat.lt_trans positive less), Nat.div_eq_of_lt (by omega),
      Nat.zero_add, Nat.one_mul]

theorem taken_zero {subType : Int} : taken subType 0 = 0 := by
  unfold taken
  split
  · rfl
  · rw [Nat.zero_add]
    by_cases none : subType.toNat = 0
    · rw [none, Nat.mul_zero]
    · rw [Nat.div_eq_of_lt (Nat.sub_lt (Nat.pos_of_ne_zero none) Nat.one_pos), Nat.zero_mul]

variable (sound : game.layout.Sound env.items) (stackable : (env.items.get itemId).stackable = true)

include stackable

theorem countByType_stack {item : Item} (type : item.id = itemId) :
    item.countByType env.items subType = if subType = -1 ∨ subType = item.count then item.count else 0 := by
  have plain := (env.items.stackable_plain itemId stackable).group
  have own : item.getSubType env.items = item.count := by
    unfold Item.getSubType ItemType.isFluidContainer ItemType.isSplash
    dsimp only
    rw [type, plain]
    exact if_pos stackable
  unfold Item.countByType
  rw [own]

theorem subType_of_counts {item : Item} (type : item.id = itemId) (counts : item.countByType env.items subType ≠ 0) :
    subType = -1 ∨ subType = item.count := by
  by_contra neither
  rw [countByType_stack stackable type, if_neg neither] at counts
  exact counts rfl

include sound

theorem kind_stack (type : (game.items ptr).id = itemId) : (game.items ptr).kind = .item := by
  apply sound.plain ptr
  show (env.items.get (game.items ptr).id).stackable = true
  rw [type]
  exact stackable

theorem liesIn_stack (type : (game.items ptr).id = itemId) (other : ItemPtr) : game.LiesIn ptr other ↔ other = ptr := by
  have container : (game.items ptr).isContainer = false := by
    unfold Item.isContainer
    rw [kind_stack sound stackable type]
    rfl
  constructor
  · intro inside
    induction inside with
    | root listed => exact mem_singleton.mp listed
    | part _ member ih =>
      subst ih
      rw [held_eq_nil sound container] at member
      cases member
  · intro same
    exact same ▸ reaches_self _

theorem removable_stack (type : (game.items ptr).id = itemId) : removable (game.items ptr) = true := by
  unfold removable
  rw [kind_stack sound stackable type]
  rfl

theorem pruned_stack (listed : ptr ∈ game.itemsOfType id itemId) (some : (game.items ptr).count ≠ 0) :
    Pruned env game (game.internalRemoveItem env ptr (-1) false CylinderFlags.none).2 (· = ptr) := by
  obtain ⟨carried, type⟩ := (mem_itemsOfType sound).mp listed
  have pruned := (Pruned.refl sound).remove carried not_false some
  have can := removable_stack sound stackable type
  have cut : (fun other => False ∨ other = ptr ∧ removable (game.items ptr) = true) = (· = ptr) := by
    funext other
    rw [false_or, and_iff_left can]
  rwa [cut] at pruned

theorem removed_whole (listed : ptr ∈ game.itemsOfType id itemId) (some : (game.items ptr).count ≠ 0) :
    (game.internalRemoveItem env ptr (-1) false CylinderFlags.none).2.typeCount env subType
          ((game.internalRemoveItem env ptr (-1) false CylinderFlags.none).2.itemsOfType id itemId) +
        (game.items ptr).countByType env.items subType =
      game.typeCount env subType (game.itemsOfType id itemId) := by
  have type := ((mem_itemsOfType sound).mp listed).2
  have pruned := pruned_stack sound stackable listed some
  have gone_iff : ∀ other, game.Carried id other → (decide (other = ptr) = true ↔ ∃ top, top = ptr ∧ game.LiesIn top other) := by
    intro other _
    rw [decide_eq_true_iff, exists_eq_left, liesIn_stack sound stackable type]
  have total := @Pruned.total env game _ id _ itemId subType sound pruned (fun other => other = ptr) gone_iff
  have one : (game.itemsOfType id itemId).filter (fun other => other = ptr) = [ptr] := by
    rw [filter_eq, count_eq_one_of_mem (itemsOfType_nodup sound) listed]
    rfl
  rw [one, typeCount_cons] at total
  exact total

theorem removed_part (listed : ptr ∈ game.itemsOfType id itemId) {amount : Nat} (less : amount < (game.items ptr).count)
    (counts : (game.items ptr).countByType env.items subType ≠ 0) :
    (game.internalRemoveItem env ptr amount false CylinderFlags.none).2.typeCount env subType
          ((game.internalRemoveItem env ptr amount false CylinderFlags.none).2.itemsOfType id itemId) +
        taken subType amount =
      game.typeCount env subType (game.itemsOfType id itemId) := by
  obtain ⟨carried, type⟩ := (mem_itemsOfType sound).mp listed
  obtain ⟨cylinder, member, indoors⟩ := carried.cylinder
  rcases Nat.eq_zero_or_pos amount with none | positive
  · subst none
    rw [internalRemoveItem_none sound member indoors, taken_zero]
    rfl
  · have isStackable : (game.items ptr).isStackable env.items = true := by
      unfold Item.isStackable
      rw [type]
      exact stackable
    have recount := internalRemoveItem_part sound member indoors isStackable positive less
    have nature : ∀ other, nature ((game.internalRemoveItem env ptr amount false CylinderFlags.none).2.items other) =
        nature (game.items other) := inert_nature.internalRemoveItem env game ptr amount false CylinderFlags.none
    generalize (game.internalRemoveItem env ptr amount false CylinderFlags.none).2 = after at recount nature ⊢
    have small : (game.items ptr).count - amount < 256 := Nat.lt_of_le_of_lt (Nat.sub_le ..) (sound.small ptr)
    have soundAfter : after.layout.Sound env.items := by
      apply sound.recount recount small
      intro allowed
      have most : (game.items ptr).count ≤ _ := sound.stacked cylinder ptr member allowed
      exact Nat.le_trans (Nat.sub_le ..) most
    have perm := @itemsOfType_perm env game after id itemId sound soundAfter recount.contents fun other => congrArg Prod.fst (nature other)
    have split := (perm_cons_erase listed)
    have rest : after.typeCount env subType ((game.itemsOfType id itemId).erase ptr) =
        game.typeCount env subType ((game.itemsOfType id itemId).erase ptr) := by
      unfold typeCount
      congr 1
      apply map_congr_left
      intro other member
      have different : other ≠ ptr := fun same => (itemsOfType_nodup sound).not_mem_erase (same ▸ member)
      have count : (after.items other).count = (game.items other).count := by
        have counts := congrFun recount.count other
        rwa [Function.update_of_ne different] at counts
      exact countByType_of_nature (nature other) count env.items subType
    have fewer : (after.items ptr).count = (game.items ptr).count - amount := by
      have counts := congrFun recount.count ptr
      rwa [Function.update_self] at counts
    have last : (after.items ptr).countByType env.items subType + taken subType amount =
        (game.items ptr).countByType env.items subType := by
      have either := subType_of_counts stackable type counts
      have only : (if subType = -1 ∨ subType = ((game.items ptr).count - amount : Nat) then (game.items ptr).count - amount else 0) =
          if subType = -1 then (game.items ptr).count - amount else 0 := by
        congr 1
        apply propext
        omega
      rw [countByType_stack stackable (congrArg Prod.fst (nature ptr) |>.trans type), countByType_stack stackable type,
        if_pos either, fewer, only]
      exact taken_last either positive less
    rw [typeCount_perm perm, typeCount_perm split, typeCount_perm split, typeCount_cons, typeCount_cons, rest]
    omega

omit sound stackable

theorem removed_stacks (sound : game.layout.Sound env.items) (stackable : (env.items.get itemId).stackable = true) (nodup : list.Nodup)
    (listed : ∀ item ∈ list, item ∈ game.itemsOfType id itemId ∧ (game.items item).countByType env.items subType ≠ 0) {amount : Nat}
    (enough : amount ≤ game.typeCount env subType list) :
    (internalRemoveItems env true list amount game).typeCount env subType
          ((internalRemoveItems env true list amount game).itemsOfType id itemId) + taken subType amount =
      game.typeCount env subType (game.itemsOfType id itemId) := by
  induction list generalizing game amount with
  | nil =>
    have none : amount = 0 := Nat.le_zero.mp enough
    rw [none, taken_zero]
    rfl
  | cons item list ih =>
    obtain ⟨fresh, distinct⟩ := nodup_cons.mp nodup
    obtain ⟨here, counts⟩ := listed item mem_cons_self
    have type := ((mem_itemsOfType sound).mp here).2
    unfold internalRemoveItems
    rw [if_pos rfl]
    by_cases less : (game.items item).count > amount
    · rw [if_pos less]
      exact removed_part sound stackable here less counts
    · rw [if_neg less]
      have some : (game.items item).count ≠ 0 := count_ne_of_counts counts
      have whole := @removed_whole env game id itemId subType item sound stackable here some
      have pruned := pruned_stack sound stackable here some
      generalize (game.internalRemoveItem env item (-1) false CylinderFlags.none).2 = after at whole pruned ⊢
      have same : ∀ other, (after.items other).countByType env.items subType = (game.items other).countByType env.items subType :=
        fun other => countByType_of_nature (pruned.nature other) (pruned.count other) env.items subType
      have either := subType_of_counts stackable type counts
      have count : (game.items item).countByType env.items subType = (game.items item).count := by
        rw [countByType_stack stackable type, if_pos either]
      have left : ∀ other ∈ list, other ∈ after.itemsOfType id itemId ∧ (after.items other).countByType env.items subType ≠ 0 := by
        intro other member
        obtain ⟨there, counts⟩ := listed other (mem_cons_of_mem _ member)
        obtain ⟨carried, otherType⟩ := (mem_itemsOfType sound).mp there
        have apart : ∀ top, top = item → ¬ game.LiesIn top other := by
          intro top isItem inside
          subst isItem
          exact fresh ((liesIn_stack sound stackable type other).mp inside ▸ member)
        have still : after.Carried id other := (pruned.carried sound).mpr ⟨carried, apart⟩
        have sameType : (after.items other).id = itemId := (congrArg Prod.fst (pruned.nature other)).trans otherType
        exact ⟨(mem_itemsOfType pruned.sound).mpr ⟨still, sameType⟩, same other ▸ counts⟩
      have rest : amount - (game.items item).count ≤ after.typeCount env subType list := by
        have sameCount : after.typeCount env subType list = game.typeCount env subType list := by
          unfold typeCount
          congr 1
          exact map_congr_left fun other _ => same other
        rw [typeCount_cons, count] at enough
        rw [sameCount]
        exact Nat.sub_le_iff_le_add'.mpr enough
      have later := ih pruned.sound distinct left rest
      rw [count] at whole
      rw [taken_step either some (Nat.le_of_not_lt less)]
      omega

end

section
variable {env : Env} {game : Game} {id : PlayerId} {itemId : Nat} {subType : Int} {amount : UInt32}

theorem exact_iff_lost {left lost total : Nat} (amount : UInt32) (parts : left + lost = total) (enough : amount.toNat ≤ total % 2 ^ 32) :
    left % 2 ^ 32 + amount.toNat = total % 2 ^ 32 ↔ lost % 2 ^ 32 = amount.toNat := by
  have small := amount.toNat_lt
  omega

/-- What is taken of stacks is the amount just where the subtype divides it. -/
theorem taken_eq_iff {count : Nat} (counts : subType = -1 ∨ subType = count) (some : 0 < count) (small : count < 256) :
    taken subType amount.toNat % 2 ^ 32 = amount.toNat ↔ subType = -1 ∨ subType ∣ amount.toNat := by
  have bound := amount.toNat_lt
  unfold taken
  by_cases all : subType = -1
  · rw [if_pos all, Nat.mod_eq_of_lt bound]
    exact iff_of_true rfl (.inl all)
  · have same : subType = count := counts.resolve_left all
    have size : subType.toNat = count := by omega
    rw [if_neg all, or_iff_right all, size, same, Int.natCast_dvd_natCast]
    have above := Nat.div_mul_le_self (amount.toNat + count - 1) count
    have below := @Nat.lt_div_mul_add (amount.toNat + count - 1) count some
    have divides : count ∣ (amount.toNat + count - 1) / count * count := Nat.dvd_mul_left ..
    generalize (amount.toNat + count - 1) / count * count = whole at above below divides ⊢
    constructor
    · intro exactly
      have equal : whole = amount.toNat := by omega
      exact equal ▸ divides
    · intro ofAmount
      have none : whole - amount.toNat = 0 := by
        apply Nat.eq_zero_of_dvd_of_lt (Nat.dvd_sub divides ofAmount)
        omega
      omega

theorem exact_iff_apt (sound : game.layout.Sound env.items) :
    Exact env game id itemId subType amount ↔ Apt env game id itemId subType amount := by
  unfold Exact Apt removeItemOfType
  by_cases none : amount = 0
  · subst none
    rw [if_pos rfl]
    refine iff_of_true ⟨?_, fun _ => rfl, fun no => absurd no.symm Bool.false_ne_true⟩ (.inl rfl)
    exact iff_of_true rfl (Nat.zero_le _)
  · have positive : 0 < amount.toNat := Nat.pos_of_ne_zero fun zero => none (UInt32.toNat_inj.mp zero)
    rw [if_neg none, collectItems_eq positive, or_iff_right none]
    cases first : game.firstEnough env id itemId subType amount.toNat with
    | none =>
      dsimp only
      constructor
      · intro ⟨answer, _⟩
        exact Nat.lt_of_not_le fun enough => Bool.false_ne_true (answer.mpr enough)
      · intro less
        exact ⟨iff_of_false Bool.false_ne_true (Nat.not_le_of_lt less), fun no => absurd no Bool.false_ne_true, fun _ => rfl⟩
    | some list =>
      have found := found_of_firstEnough first
      have key : amount.toNat ≤ game.getItemTypeCount env id itemId subType →
          ((internalRemoveItems env (env.items.get itemId).stackable list amount.toNat game).getItemTypeCount env id itemId subType +
              amount.toNat = game.getItemTypeCount env id itemId subType ↔
            if (env.items.get itemId).stackable then subType = -1 ∨ subType ∣ amount.toNat
            else game.typeCount env subType ((game.itemsOfType id itemId).filter (game.goesWith list)) % 2 ^ 32 = amount.toNat) := by
        intro enough
        by_cases stackable : (env.items.get itemId).stackable = true
        · have listed : ∀ item ∈ list, item ∈ game.itemsOfType id itemId ∧ (game.items item).countByType env.items subType ≠ 0 :=
            fun item member => ⟨found.sublist.subset member, found.counts item member⟩
          have parts := removed_stacks sound stackable ((itemsOfType_nodup sound).sublist found.sublist) listed found.enough
          rw [stackable, if_pos rfl]
          refine (exact_iff_lost amount parts enough).trans ?_
          obtain ⟨item, member⟩ : ∃ item, item ∈ list := exists_mem_of_ne_nil _ (by
            intro empty
            have none := found.enough
            rw [empty] at none
            exact absurd none (Nat.not_le_of_lt positive))
          have type := ((mem_itemsOfType sound).mp (listed item member).1).2
          have counts := subType_of_counts stackable type (listed item member).2
          exact taken_eq_iff counts (Nat.pos_of_ne_zero (count_ne_of_counts (listed item member).2)) (sound.small item)
        · have plain := Bool.eq_false_iff.mpr stackable
          rw [plain, if_neg Bool.false_ne_true]
          exact exact_iff_lost amount (found.removed sound) enough
      dsimp only
      constructor
      · intro ⟨answer, less, _⟩
        have enough := answer.mp rfl
        exact ⟨enough, (key enough).mp (less rfl)⟩
      · intro ⟨enough, apt⟩
        exact ⟨iff_of_true rfl enough, fun _ => (key enough).mpr apt, fun no => absurd no.symm Bool.false_ne_true⟩

end

def nestedBags : Game :=
  ofTables
    [{ id := 1987, kind := .container, maxSize := 8, itemlist := [1], parent := some (.player 1) },
     { id := 1987, kind := .container, maxSize := 8, parent := some (.item 0) }]
    [(1, { inventory := fun slot => if slot = 3 then some 0 else none })] []

/-- A player with five coins in a backpack and two in a hand. -/
def coinedPlayer : Game :=
  ofTables
    [{ id := 1988, kind := .container, maxSize := 20, itemlist := [1], parent := some (.player 1) },
     { id := 2148, count := 5, parent := some (.item 0) },
     { id := 2148, count := 2, parent := some (.player 1) }]
    [(1, { inventory := fun slot => if slot = 3 then some 0 else if slot = 5 then some 2 else none })] []

theorem exact_iff_apt_coins : Exact gameEnv coinedPlayer 1 2148 (-1) 6 := by
  have sound : coinedPlayer.layout.Sound gameEnv.items := sound_ofTables (by decide)
  apply (exact_iff_apt sound).mpr
  refine .inr ?_
  have found : coinedPlayer.firstEnough gameEnv 1 2148 (-1) (6 : UInt32).toNat = some [1, 2] := by decide
  rw [found]
  exact ⟨by decide, .inl rfl⟩

/-- The bag in the bag is counted, but it is not found. -/
theorem nestedBags_not_exact : nestedBags.layout.Sound gameEnv.items ∧ ¬ Exact gameEnv nestedBags 1 1987 (-1) 2 := by
  refine ⟨sound_ofTables (by decide), ?_⟩
  intro right
  have removed := right.1.mpr (by decide)
  exact absurd removed (by decide)

end Styller.Game
