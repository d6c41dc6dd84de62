import Mathlib.Algebra.BigOperators.Ring.Finset
import Styller.Library.Search
import Styller.Money.RemoveMoney
import Styller.World.Conservation

/-! The coins that `Game::removeMoney` finds, what a set of cylinders holds in coins, and
that a coin which was found can be taken. -/

namespace Styller

open Library Layout List

namespace Layout

/-- The worth of all coins that the cylinders hold. -/
def purse (items : ItemTypes) (layout : Layout) (holders : Finset Cylinder) : Nat :=
  (items.currencyItems.map (fun entry => entry.1 * layout.total items entry.2 holders)).sum

section
variable {items : ItemTypes} {before after : Layout} {cylinder : Cylinder} {ptr : ItemPtr}
  {holders : Finset Cylinder} {type size : Nat}

theorem sum_of_type {table : List (Nat × Nat)}
    (descending : table.Pairwise (fun larger smaller => smaller.1 < larger.1))
    (coined : ∀ entry ∈ table, (items.get entry.2).worth = entry.1)
    (listed : ((items.get type).worth, type) ∈ table) (size : Nat) :
    (table.map (fun entry => entry.1 * if type = entry.2 then size else 0)).sum =
      (items.get type).worth * size := by
  induction table with
  | nil => cases listed
  | cons entry rest ih =>
    obtain ⟨smaller, restDescending⟩ := pairwise_cons.mp descending
    have head := coined entry mem_cons_self
    have later : ∀ other ∈ rest, (items.get other.2).worth = other.1 :=
      fun other member => coined other (mem_cons_of_mem _ member)
    rw [map_cons, sum_cons]
    rcases mem_cons.mp listed with same | inRest
    · have none : ∀ other ∈ rest, (other.1 * if type = other.2 then size else 0) = 0 := by
        intro other member
        have less := smaller other member
        have worth := later other member
        rw [← same] at less
        have different : type ≠ other.2 := by
          rintro rfl
          simp only at less
          omega
        rw [if_neg different, Nat.mul_zero]
      rw [← same, if_pos rfl, map_congr_left none]
      simp
    · have less := smaller _ inRest
      have different : type ≠ entry.2 := by
        intro same
        rw [← same] at head
        simp only at less
        omega
      rw [if_neg different, Nat.mul_zero, Nat.zero_add]
      exact ih restDescending later inRest

theorem sum_map_comm {First Second : Type} (list : List First) (other : List Second) (f : First → Second → Nat) :
    (list.map (fun first => (other.map (f first)).sum)).sum =
      (other.map (fun second => (list.map (fun first => f first second)).sum)).sum := by
  induction list with
  | nil => simp
  | cons first rest ih =>
    simp only [map_cons, sum_cons, ih]
    exact sum_map_add.symm

theorem sum_map_finset {First Second : Type} (list : List First) (set : Finset Second) (f : First → Second → Nat) :
    (list.map (fun first => ∑ second ∈ set, f first second)).sum =
      ∑ second ∈ set, (list.map (fun first => f first second)).sum := by
  induction list with
  | nil => simp
  | cons first rest ih => simp only [map_cons, sum_cons, ih, Finset.sum_add_distrib]

theorem purse_eq (layout : Layout) (table : CurrencyTable items.currencyItems) (holders : Finset Cylinder) :
    layout.purse items holders = ∑ holder ∈ holders, ((layout.contents holder).map
      (fun ptr => (items.get (layout.id ptr)).worth * layout.count ptr)).sum := by
  have item : ∀ ptr, (items.currencyItems.map
      (fun entry => entry.1 * (layout.stock items).amount entry.2 ptr)).sum =
        (items.get (layout.id ptr)).worth * layout.count ptr := by
    intro ptr
    by_cases worth : (items.get (layout.id ptr)).worth = 0
    · have none : ∀ entry ∈ items.currencyItems, entry.1 * (layout.stock items).amount entry.2 ptr = 0 := by
        intro entry listed
        have coined := (items.currency_type entry listed).2
        by_cases same : layout.id ptr = entry.2
        · rw [← coined, ← same, worth, Nat.zero_mul]
        · have different : ¬ (layout.stock items).kind ptr = entry.2 := same
          rw [Stock.amount, if_neg different, Nat.mul_zero]
      rw [map_congr_left none, worth, Nat.zero_mul]
      simp
    · have listed := items.worth_currency _ worth
      have stackable := (items.currency_type _ listed).1
      have counted : layout.units items ptr = layout.count ptr := if_pos stackable
      rw [← counted]
      exact sum_of_type table.descending (fun entry member => (items.currency_type entry member).2) listed _
  unfold purse Layout.total Stock.total Stock.held
  simp only [Finset.mul_sum, sum_map_finset]
  refine Finset.sum_congr rfl ?_
  intro holder _
  simp only [← sum_map_mul_left]
  rw [sum_map_comm]
  simp only [item]
  rfl

/-- Taking coins lowers the purse by their worth. -/
theorem Reduced.purse (reduced : Reduced items before after cylinder ptr size)
    (table : CurrencyTable items.currencyItems) (worth : (items.get (before.id ptr)).worth ≠ 0)
    (listed : cylinder ∈ holders) :
    after.purse items holders + (items.get (before.id ptr)).worth * size = before.purse items holders := by
  have coined : ∀ entry ∈ items.currencyItems, (items.get entry.2).worth = entry.1 :=
    fun entry member => (items.currency_type entry member).2
  have taken := sum_of_type table.descending coined (items.worth_currency _ worth) size
  unfold Layout.purse
  rw [← taken, ← sum_map_add]
  apply congrArg List.sum
  apply map_congr_left
  intro entry _
  have total := reduced.total entry.2 holders
  simp only [share, listed, true_and] at total
  rw [← total, Nat.mul_add]

end

end Layout

namespace Game

section
variable (env : Env) (game : Game)

def partsOf (container : ItemPtr) : List ItemPtr :=
  (game.items container).itemlist.filter (fun ptr => (game.items ptr).isContainer)

def rootsOf (cylinder : Cylinder) : List ItemPtr :=
  (game.contents cylinder).filter (fun ptr => (game.items ptr).isContainer)

/-- The cylinder does not lie in one of its own containers. -/
def Outermost (cylinder : Cylinder) : Prop :=
  ∀ holder, cylinder = .item holder → ¬ Reaches game.partsOf (game.rootsOf cylinder) holder

theorem searchMoney_eq (fuel : Nat) (queue : List ItemPtr) : game.searchMoney env fuel queue =
    (visit game.partsOf fuel queue).map
      (List.flatMap (fun container => (game.items container).itemlist.filter (game.isMoney env))) := by
  induction fuel generalizing queue with
  | zero =>
    cases queue with
    | nil => rfl
    | cons container queue => rfl
  | succ fuel ih =>
    cases queue with
    | nil => rfl
    | cons container queue =>
      simp only [searchMoney, ih, visit, partsOf, Option.map_map]
      rfl

variable {env game} {cylinder : Cylinder}

theorem findMoney_mono {coins : List ItemPtr} {fuel more : Nat}
    (found : game.findMoney env fuel cylinder = some coins) (less : fuel ≤ more) :
    game.findMoney env more cylinder = some coins := by
  simp only [findMoney, searchMoney_eq, Option.map_map] at found ⊢
  obtain ⟨order, visited, same⟩ := Option.map_eq_some_iff.mp found
  rw [visit_mono visited less, ← same]
  rfl

variable (sound : game.layout.Sound env.items) (outermost : game.Outermost cylinder)
include sound outermost

theorem forest_of_sound : Forest game.partsOf (game.rootsOf cylinder) where
  distinct := (sound.nodup cylinder).filter _
  nodup := fun container => (sound.nodup (.item container)).filter _
  single := by
    intro node first second inFirst inSecond
    have left := sound.parent (.item first) node (mem_filter.mp inFirst).1
    have right := sound.parent (.item second) node (mem_filter.mp inSecond).1
    cases left.symm.trans right
    rfl
  apart := by
    intro root listed node reached member
    have top := sound.parent cylinder root (mem_filter.mp listed).1
    have inner := sound.parent (.item node) root (mem_filter.mp member).1
    exact outermost node (Option.some.inj (top.symm.trans inner)) reached

end

section
variable (env : Env) (game : Game) (cylinder : Cylinder)

def coinsOf : List ItemPtr := (game.findMoney env game.next cylinder).getD []

def stores : Finset Cylinder :=
  insert cylinder (((visit game.partsOf game.next (game.rootsOf cylinder)).getD []).map Cylinder.item).toFinset

def moneyIn : Nat := game.layout.purse env.items (game.stores cylinder)

def fullWorth (ptr : ItemPtr) : Nat := (env.items.get (game.items ptr).id).worth * (game.items ptr).count

end

section
variable (env : Env) {game : Game} {cylinder : Cylinder}
variable (sound : game.layout.Sound env.items) (outermost : game.Outermost cylinder)
include sound outermost

/-- The search ends, and visits every container once. -/
theorem visit_parts : ∃ order, visit game.partsOf game.next (game.rootsOf cylinder) = some order ∧
    order.Nodup ∧ ∀ node ∈ order, Reaches game.partsOf (game.rootsOf cylinder) node := by
  have forest := forest_of_sound sound outermost
  have inside : ∀ node, Reaches game.partsOf (game.rootsOf cylinder) node → node ∈ Finset.range game.next := by
    intro node reached
    have container : (game.items node).isContainer = true := by
      cases reached with
      | root listed => exact (mem_filter.mp listed).2
      | part _ member => exact (mem_filter.mp member).2
    exact Finset.mem_range.mpr (sound.roomy node container).1
  obtain ⟨order, visited, nodup, reached⟩ := visit_some forest (Finset.range game.next) inside forest.start
    (by simp : (Finset.range game.next).card ≤ game.next + _)
  exact ⟨order, visited, nodup, reached⟩

/-- The coins that are found: those of the cylinder, then those of its containers. -/
theorem coinsOf_eq : ∃ order : List ItemPtr, order.Nodup ∧ cylinder ∉ order.map Cylinder.item ∧
    game.stores cylinder = insert cylinder (order.map Cylinder.item).toFinset ∧
    game.coinsOf env cylinder = (game.contents cylinder).filter (game.isMoney env) ++
      order.flatMap (fun container => (game.items container).itemlist.filter (game.isMoney env)) ∧
    ∀ fuel, game.next ≤ fuel → game.findMoney env fuel cylinder = some (game.coinsOf env cylinder) := by
  obtain ⟨order, visited, nodup, reached⟩ := visit_parts env sound outermost
  have found : game.findMoney env game.next cylinder = some ((game.contents cylinder).filter (game.isMoney env) ++
      order.flatMap (fun container => (game.items container).itemlist.filter (game.isMoney env))) := by
    unfold rootsOf at visited
    simp only [findMoney, searchMoney_eq, Option.map_map]
    rw [visited]
    rfl
  refine ⟨order, nodup, ?_, ?_, ?_, ?_⟩
  · intro inside
    obtain ⟨container, listed, same⟩ := mem_map.mp inside
    exact outermost container same.symm (reached container listed)
  · rw [stores, visited]
    rfl
  · rw [coinsOf, found]
    rfl
  · intro fuel enough
    rw [coinsOf, findMoney_mono found enough, found]
    rfl

/-- Every coin is found once. -/
theorem coinsOf_nodup : (game.coinsOf env cylinder).Nodup := by
  obtain ⟨order, nodup, outside, _, same, _⟩ := coinsOf_eq env sound outermost
  rw [same]
  have inner : (order.flatMap (fun container =>
      (game.items container).itemlist.filter (game.isMoney env))).Nodup := by
    rw [nodup_flatMap]
    refine ⟨fun container _ => (sound.nodup (.item container)).filter _, ?_⟩
    refine nodup.imp ?_
    intro first second different ptr inFirst inSecond
    have left := sound.parent (.item first) ptr (mem_filter.mp inFirst).1
    have right := sound.parent (.item second) ptr (mem_filter.mp inSecond).1
    cases left.symm.trans right
    exact different rfl
  refine nodup_append.mpr ⟨(sound.nodup cylinder).filter _, inner, ?_⟩
  rintro ptr top other inside rfl
  obtain ⟨container, listed, member⟩ := mem_flatMap.mp inside
  have left := sound.parent cylinder ptr (mem_filter.mp top).1
  have right := sound.parent (.item container) ptr (mem_filter.mp member).1
  exact outside (mem_map.mpr ⟨container, listed, Option.some.inj (right.symm.trans left)⟩)

theorem mem_coinsOf {ptr : ItemPtr} (found : ptr ∈ game.coinsOf env cylinder) :
    game.isMoney env ptr = true ∧ ∃ holder ∈ game.stores cylinder, ptr ∈ game.contents holder := by
  obtain ⟨order, _, _, all, same, _⟩ := coinsOf_eq env sound outermost
  rw [same] at found
  rw [all]
  rcases mem_append.mp found with top | inside
  · have member := mem_filter.mp top
    exact ⟨member.2, cylinder, Finset.mem_insert_self _ _, member.1⟩
  · obtain ⟨container, listed, member⟩ := mem_flatMap.mp inside
    have member := mem_filter.mp member
    refine ⟨member.2, .item container, ?_, member.1⟩
    exact Finset.mem_insert_of_mem (mem_toFinset.mpr (mem_map.mpr ⟨container, listed, rfl⟩))

omit outermost in
/-- What the search passes over is worth nothing, unless its worth is cut. -/
theorem sum_isMoney (list : List ItemPtr) (whole : ∀ ptr ∈ list, game.fullWorth env ptr < 2 ^ 32) :
    ((list.filter (game.isMoney env)).map (game.fullWorth env)).sum = (list.map (game.fullWorth env)).sum := by
  induction list with
  | nil => rfl
  | cons ptr rest ih =>
    have later := ih (fun other member => whole other (mem_cons_of_mem _ member))
    by_cases money : game.isMoney env ptr = true
    · rw [filter_cons_of_pos money, map_cons, map_cons, sum_cons, sum_cons, later]
    · rw [filter_cons_of_neg money, map_cons, sum_cons, later]
      have none : game.fullWorth env ptr = 0 := by
        by_contra worth
        have uncut : (game.items ptr).getWorth env.items = game.fullWorth env ptr :=
          Nat.mod_eq_of_lt (whole ptr mem_cons_self)
        have coined : (env.items.get (game.items ptr).id).worth ≠ 0 := fun zero => worth (by simp [fullWorth, zero])
        have stackable := (env.items.currency_type _ (env.items.worth_currency _ coined)).1
        have kind : (game.items ptr).kind = .item := sound.plain ptr stackable
        exact money (by simp [isMoney, Item.isContainer, ItemClass.isContainer, kind, uncut, worth])
      rw [none, Nat.zero_add]

theorem moneyIn_eq (table : CurrencyTable env.items.currencyItems)
    (whole : ∀ holder ∈ game.stores cylinder, ∀ ptr ∈ game.contents holder, game.fullWorth env ptr < 2 ^ 32) :
    game.moneyIn env cylinder = ((game.coinsOf env cylinder).map (game.fullWorth env)).sum := by
  obtain ⟨order, nodup, outside, all, same, _⟩ := coinsOf_eq env sound outermost
  have distinct : (order.map Cylinder.item).Nodup :=
    nodup.map (fun first second same => Cylinder.item.inj same)
  rw [moneyIn, purse_eq game.layout table, all, same]
  rw [all] at whole
  rw [Finset.sum_insert (by simpa using outside), sum_toFinset _ distinct, map_map, map_append,
    sum_append, sum_isMoney env sound _ (whole cylinder (Finset.mem_insert_self _ _)), map_flatMap,
    flatMap_def, sum_flatten, map_map]
  refine congrArg (_ + ·) (congrArg List.sum (map_congr_left ?_))
  intro container listed
  have inside : Cylinder.item container ∈ insert cylinder (order.map Cylinder.item).toFinset :=
    Finset.mem_insert_of_mem (mem_toFinset.mpr (mem_map.mpr ⟨container, listed, rfl⟩))
  exact (sum_isMoney env sound _ (whole _ inside)).symm

end

end Game

end Styller
