import Styller.Item.GameItems
import Styller.Item.SameThing
import Styller.Player.ItemRows

/-! The items that are built from the rows of `saveItems`. -/

namespace Styller

open Library List Function

/-- `CreateItem` makes a thing with the id of the item, which can hold items just when this one can. -/
def Item.Remade (items : ItemTypes) (normalRandom : Nat → Nat → Int) (item : Item) : Prop :=
  ∀ count, ∃ created, Item.createItem items normalRandom item.id count = some created ∧ created.id = item.id ∧
    created.isContainer = item.isContainer

/-- What `CreateItem` makes under its own id, however many of it. -/
theorem Item.remade_of_createItem {items : ItemTypes} {item : Item} {drawn : Nat → Nat → Int} {count : Nat}
    (normalRandom : Nat → Nat → Int) (made : Item.createItem items drawn item.id count = some item) :
    item.Remade items normalRandom := by
  intro other
  obtain ⟨created, again⟩ := Item.createItem_some normalRandom other (Item.createItem_exists made)
  refine ⟨created, again, ?_, ?_⟩
  · exact (Item.createItem_id again).trans (Item.createItem_id made).symm
  · rw [Item.createItem_isContainer again, Item.createItem_isContainer made]

section

variable (items : ItemTypes) (place : Placement) (services : ItemServices) (normalRandom : Nat → Nat → Int)

def reread (object : ItemObject) : Option ItemObject :=
  loadItemRow items services normalRandom (itemRow items place 0 0 object)

/-- The item of the map under a `sid` is what is read of the row of the object, and has its id. -/
def Restored (itemMap : ItemMap) (sid : Nat) (object : ItemObject) : Prop :=
  ∃ entry, itemMap.find sid = some entry ∧ reread items place services normalRandom object = some entry.object ∧
    entry.object.item.id = object.item.id ∧ entry.object.item.isContainer = object.item.isContainer

/-- The items that were put into slots, lockers, chests and containers are those of the forest,
in its order, and each of them was put there once. -/
structure Rebuilt (forest : List (Int × ItemTree)) (itemMap : ItemMap) (contents : Place Int → List Nat) : Prop where
  roots : ∀ pid, List.Forall₂ (Hangs (Restored items place services normalRandom itemMap) contents) (rootsAt forest pid)
    (contents (.root pid))
  once : ∀ place, (contents place).Nodup
  apart : ∀ first second sid, sid ∈ contents first → sid ∈ contents second → first = second

variable {items place services normalRandom} {object : ItemObject}

/-- Neither the `pid` nor the `sid` of a row says what the item is. -/
theorem loadItemRow_itemRow (pid sid : Int) :
    loadItemRow items services normalRandom (itemRow items place pid sid object) =
      reread items place services normalRandom object := rfl

theorem itemRow_sid (pid sid : Int) : (itemRow items place pid sid object).sid = sid := rfl

theorem itemRow_pid (pid sid : Int) : (itemRow items place pid sid object).pid = pid := rfl

theorem reread_remade (remade : object.item.Remade items normalRandom) :
    ∃ loaded, reread items place services normalRandom object = some loaded ∧ loaded.item.id = object.item.id ∧
      loaded.item.isContainer = object.item.isContainer := by
  obtain ⟨created, made, id, holds⟩ := remade (object.item.getSubType items)
  have same := unserializeAttr_same items services { item := created }
  rw [reread, loadItemRow]
  dsimp only [itemRow]
  rw [made, Option.map_some]
  refine ⟨_, rfl, ?_⟩
  rcases read : (unserializeAttr items services { item := created }).run (serializeAttr items place object) with ⟨answer, rest⟩
  cases answer with
  | none => exact ⟨id, holds⟩
  | some answer =>
    have kept := same _ answer rest read
    rw [Item.isContainer, kept.kind]
    exact ⟨kept.id.trans id, holds⟩

variable (items services normalRandom) in
/-- The entry that `loadItems` sets for a row. -/
def rowEntry (row : ItemRow) : Option (Nat × MapItem) :=
  (loadItemRow items services normalRandom row).map (fun object => (toUInt32 row.sid, ⟨object, toUInt32 row.pid⟩))

theorem loadItems_eq (itemMap : ItemMap) (result : List ItemRow) :
    loadItems items services normalRandom itemMap result =
      (result.filterMap (rowEntry items services normalRandom)).foldl (fun itemMap entry => itemMap.set entry.1 entry.2)
        itemMap := by
  induction result generalizing itemMap with
  | nil => rfl
  | cons row result ih =>
    rw [loadItems, foldl_cons, ← loadItems, ih, filterMap_cons, rowEntry]
    cases loadItemRow items services normalRandom row with
    | none => rfl
    | some object => rfl

/-- The `sid`s of the entries that belong at a place. -/
def sidsAt (table : ItemTable) (itemMap : ItemMap) (entries : List (Nat × MapItem)) (spot : Place Int) : List Nat :=
  (entries.filter (fun entry => table.placeOf itemMap entry.2 = some spot)).map (·.1)

section

variable {table : ItemTable} {itemMap : ItemMap} {entries : List (Nat × MapItem)} {entry : Nat × MapItem} {spot : Place Int}

theorem sidsAt_cons_of_eq (here : table.placeOf itemMap entry.2 = some spot) :
    sidsAt table itemMap (entry :: entries) spot = entry.1 :: sidsAt table itemMap entries spot := by
  rw [sidsAt, filter_cons, if_pos (decide_eq_true here)]
  rfl

theorem sidsAt_cons_of_ne (elsewhere : table.placeOf itemMap entry.2 ≠ some spot) :
    sidsAt table itemMap (entry :: entries) spot = sidsAt table itemMap entries spot := by
  have other : ¬ decide (table.placeOf itemMap entry.2 = some spot) = true := by rwa [decide_eq_true_eq]
  rw [sidsAt, filter_cons, if_neg other]
  rfl

theorem length_sidsAt_le : (sidsAt table itemMap entries spot).length ≤ (sidsAt table itemMap (entry :: entries) spot).length := by
  rw [sidsAt, sidsAt, length_map, length_map]
  exact ((sublist_cons_self entry entries).filter _).length_le

/-- One turn of the loop. -/
theorem placeItem_eq {contents : Place Int → List Nat} (held : contents spot = sidsAt table itemMap entries spot)
    (single : table = .items → ∀ pid, (sidsAt table itemMap (entry :: entries) (.root pid)).length ≤ 1) :
    table.placeItem itemMap entry contents spot = sidsAt table itemMap (entry :: entries) spot := by
  by_cases here : table.placeOf itemMap entry.2 = some spot
  · rw [sidsAt_cons_of_eq here, ItemTable.placeItem, here, ← held]
    cases spot with
    | inside sid => exact update_self ..
    | root pid =>
      dsimp only
      rw [update_self]
      cases table with
      | depotLockerItems => rfl
      | depotItems => rfl
      | items =>
        have free : contents (.root pid) = [] := by
          have one := single rfl pid
          rw [sidsAt_cons_of_eq here, length_cons, ← held] at one
          exact eq_nil_of_length_eq_zero (Nat.le_zero.mp (Nat.le_of_succ_le_succ one))
        rw [free]
        rfl
  · rw [sidsAt_cons_of_ne here, ItemTable.placeItem, ← held]
    cases found : table.placeOf itemMap entry.2 with
    | none => rfl
    | some other =>
      have differ : spot ≠ other := fun same => here (same ▸ found)
      cases other with
      | root pid => exact update_of_ne differ ..
      | inside sid => exact update_of_ne differ ..

/-- The loop puts to every place what belongs there, in the order of the map, if no slot gets more
than one item. -/
theorem foldr_placeItem (single : table = .items → ∀ pid, (sidsAt table itemMap entries (.root pid)).length ≤ 1)
    (spot : Place Int) :
    entries.foldr (table.placeItem itemMap) (fun _ => []) spot = sidsAt table itemMap entries spot := by
  induction entries generalizing spot with
  | nil => rfl
  | cons entry later ih =>
    rw [foldr_cons]
    apply placeItem_eq (ih ?_ spot) single
    intro slots pid
    exact Nat.le_trans length_sidsAt_le (single slots pid)

end

/-- What a 32-bit number keeps of an id. -/
theorem toUInt32_toInt32 {n : Nat} (small : n < 2 ^ 31) : toUInt32 (toInt32 n) = n := by
  simp only [toUInt32, toInt32, Int.bmod]
  omega

theorem toInt32_toUInt32 {n : Int} (low : 0 ≤ n) (small : n < 2 ^ 31) : toInt32 (toUInt32 n) = n := by
  simp only [toUInt32, toInt32, Int.bmod]
  omega

theorem ItemTable.isRoot_range {table : ItemTable} {pid : Int} (root : table.isRoot pid = true) : 0 ≤ pid ∧ pid ≤ 100 := by
  cases table with
  | items =>
    have range : 1 ≤ pid ∧ pid ≤ 10 := of_decide_eq_true root
    omega
  | depotLockerItems | depotItems =>
    have range : 0 ≤ pid ∧ pid < 100 := of_decide_eq_true root
    omega

theorem ItemTable.isRoot_above {table : ItemTable} {pid : Int} (above : 100 < pid) : table.isRoot pid = false := by
  cases root : table.isRoot pid with
  | false => rfl
  | true =>
    have range := isRoot_range root
    omega

section

variable {table : ItemTable} {forest : List (Int × ItemTree)}

/-- The numbers that `saveItems` counts. -/
abbrev counted (forest : List (Int × ItemTree)) : List (Numbered Int ItemObject) :=
  levels (·.item.isContainer) 100 forest

theorem number_counted {item : Numbered Int ItemObject} (listed : item ∈ counted forest) :
    100 < item.number ∧ item.number ≤ 100 + (counted forest).length := by
  have number := mem_map_of_mem (f := (·.number)) listed
  rw [map_number_levels, mem_range'_1] at number
  exact ⟨number.1, Nat.le_of_lt_succ (Nat.lt_of_lt_of_eq number.2 (Nat.add_right_comm ..))⟩

theorem all_counted {holds : ItemObject → List ItemTree → Prop} (all : ∀ root ∈ forest, root.2.All holds)
    {item : Numbered Int ItemObject} (listed : item ∈ counted forest) : item.tree.All holds :=
  levels_all _ _ (fun _ all => all.under) all listed

variable (items place services normalRandom) in
def mapEntry (item : Numbered Int ItemObject) : Nat × MapItem :=
  (item.number, ⟨(reread items place services normalRandom item.tree.value).getD item.tree.value,
    toUInt32 (parentId item.place)⟩)

variable (items place services normalRandom forest) in
/-- The map that `loadItems` makes of the rows of a forest. -/
def savedMap : ItemMap where
  entries := (counted forest).map (mapEntry items place services normalRandom)
  sorted := by
    rw [map_map]
    have numbers := map_number_levels (·.item.isContainer) 100 forest
    exact numbers ▸ pairwise_lt_range' ..

section

variable (remade : ∀ root ∈ forest, root.2.All (fun object _ => object.item.Remade items normalRandom))
  (contained : ∀ root ∈ forest, root.2.Contained) (range : ∀ root ∈ forest, table.isRoot root.1 = true)
  (few : 100 + (forest.map (·.2.size)).sum < 2 ^ 31)

include few in
theorem number_lt {item : Numbered Int ItemObject} (listed : item ∈ counted forest) : item.number < 2 ^ 31 := by
  have length : (counted forest).length ≤ (forest.map (·.2.size)).sum := length_levels_le 100 forest
  have bound := (number_counted listed).2
  omega

variable (place services) in
include remade in
theorem reread_counted {item : Numbered Int ItemObject} (listed : item ∈ counted forest) :
    ∃ loaded, reread items place services normalRandom item.tree.value = some loaded ∧
      loaded.item.id = item.tree.value.item.id ∧ loaded.item.isContainer = item.tree.value.item.isContainer :=
  reread_remade (all_counted remade listed).top

include remade few in
/-- In whatever order the database answers with the rows, they make the same map. -/
theorem loadItems_saved {result : List ItemRow} (answer : result.Perm (saveItems items place forest)) :
    loadItems items services normalRandom .empty result = savedMap items place services normalRandom forest := by
  have entries : (saveItems items place forest).filterMap (rowEntry items services normalRandom) =
      (counted forest).map (mapEntry items place services normalRandom) := by
    rw [saveItems, filterMap_map, ← filterMap_eq_map]
    apply filterMap_congr
    intro item listed
    obtain ⟨loaded, read, _⟩ := reread_counted place services remade listed
    rw [Function.comp_apply, Function.comp_apply, rowEntry, loadItemRow_itemRow, read, Option.map_some, itemRow_sid,
      itemRow_pid, toUInt32_toInt32 (number_lt few listed), mapEntry, read, Option.getD_some]
  rw [loadItems_eq]
  apply OrderedMap.eq_of_perm
  have rows := answer.filterMap (rowEntry items services normalRandom)
  rw [entries] at rows
  have distinct := (rows.map (·.1)).nodup_iff.mpr (savedMap items place services normalRandom forest).nodup_keys
  have set := OrderedMap.foldl_set_perm .empty distinct (fun entry listed => absurd listed not_mem_nil)
  exact set.trans ((append_nil _).symm ▸ rows)

theorem find_savedMap {item : Numbered Int ItemObject} (listed : item ∈ counted forest) :
    (savedMap items place services normalRandom forest).find item.number =
      some (mapEntry items place services normalRandom item).2 :=
  OrderedMap.find_eq_some.mpr (mem_map_of_mem (f := mapEntry items place services normalRandom) listed)

include remade range few in
theorem placeOf_savedMap {item : Numbered Int ItemObject} (listed : item ∈ counted forest) :
    table.placeOf (savedMap items place services normalRandom forest)
      (mapEntry items place services normalRandom item).2 = some item.place := by
  rcases place_of_mem_levels listed with ⟨root, among, spot⟩ | ⟨outer, among, holds, spot⟩
  · have top := range root among
    have bounds := ItemTable.isRoot_range top
    have pid : toInt32 (toUInt32 root.1) = root.1 := toInt32_toUInt32 bounds.1 (by omega)
    rw [ItemTable.placeOf, mapEntry, spot, parentId, pid, if_pos top]
  · have small := number_lt few among
    have above := (number_counted among).1
    have pid : toInt32 (toUInt32 (toInt32 outer.number)) = outer.number := by
      rw [toUInt32_toInt32 small]
      simp only [toInt32, Int.bmod]
      omega
    have deep : table.isRoot outer.number = false := ItemTable.isRoot_above (Int.ofNat_lt.mpr above)
    have number : toUInt32 outer.number = outer.number := by
      rw [toUInt32]
      omega
    obtain ⟨loaded, read, _, container⟩ := reread_counted place services remade among
    rw [ItemTable.placeOf, mapEntry, spot, parentId, pid, if_neg (ne_true_of_eq_false deep), number,
      find_savedMap among, mapEntry, read]
    exact if_pos (container.trans holds)

include remade range few in
theorem sidsAt_savedMap (spot : Place Int) :
    sidsAt table (savedMap items place services normalRandom forest)
      (savedMap items place services normalRandom forest).entries spot = numbersAt (counted forest) spot := by
  have same : ∀ item ∈ counted forest, decide (table.placeOf (savedMap items place services normalRandom forest)
      (mapEntry items place services normalRandom item).2 = some spot) = decide (item.place = spot) := by
    intro item listed
    rw [decide_eq_decide, placeOf_savedMap remade range few listed, Option.some.injEq]
  rw [sidsAt, numbersAt, allAt, ← filter_congr same]
  exact filter_map .. ▸ map_map ..

include remade range few in
/-- The loop puts every number where its tree is if the slots of the forest are different. -/
theorem placeItems_saved (single : table = .items → (forest.map (·.1)).Nodup) :
    table.placeItems (savedMap items place services normalRandom forest) = numbersAt (counted forest) := by
  funext spot
  rw [ItemTable.placeItems, foldr_placeItem ?_ spot, sidsAt_savedMap remade range few]
  intro slots pid
  rw [sidsAt_savedMap remade range few, length_numbersAt_root, length_rootsAt]
  exact nodup_iff_count_le_one.mp (single slots) pid

include remade contained range few in
/-- The rows of a forest make the forest again, in whatever order the database answers with them,
if no slot of the player is given two items. -/
theorem rebuilt_of_rows (single : table = .items → (forest.map (·.1)).Nodup) {result : List ItemRow}
    (answer : result.Perm (saveItems items place forest)) :
    Rebuilt items place services normalRandom forest (loadItems items services normalRandom .empty result)
      (table.placeItems (loadItems items services normalRandom .empty result)) := by
  rw [loadItems_saved remade few answer, placeItems_saved remade range few single]
  have distinct := nodup_levels (·.item.isContainer) 100 forest
  constructor
  · intro pid
    apply hangs_roots contained ?_ pid
    intro item listed
    obtain ⟨loaded, read, id, holds⟩ := reread_counted place services remade listed
    exact ⟨_, find_savedMap listed, by rw [mapEntry, read, Option.getD_some], by rw [mapEntry, read, Option.getD_some, id],
      by rw [mapEntry, read, Option.getD_some, holds]⟩
  · exact nodup_numbersAt distinct
  · intro first second sid one other
    exact numbersAt_apart distinct one other

end

/-- A slot never gets more than one item. -/
theorem length_placeItems_le (itemMap : ItemMap) (pid : Int) :
    (ItemTable.items.placeItems itemMap (.root pid)).length ≤ 1 := by
  rw [ItemTable.placeItems]
  induction itemMap.entries with
  | nil => exact Nat.zero_le _
  | cons entry later ih =>
    rw [foldr_cons, ItemTable.placeItem]
    cases ItemTable.items.placeOf itemMap entry.2 with
    | none => exact ih
    | some other =>
      cases other with
      | inside sid =>
        have differ : Place.root pid ≠ .inside sid := nofun
        dsimp only
        rw [update_of_ne differ]
        exact ih
      | root index =>
        dsimp only
        by_cases same : pid = index
        · rw [same, update_self, ItemTable.internalAddThing]
          rw [same] at ih
          split_ifs
          · exact Nat.le_refl 1
          · exact ih
        · have differ : Place.root pid ≠ .root index := fun equal => same (Place.root.inj equal)
          rw [update_of_ne differ]
          exact ih

theorem Rebuilt.length_roots {itemMap : ItemMap} {contents : Place Int → List Nat}
    (rebuilt : Rebuilt items place services normalRandom forest itemMap contents) (pid : Int) :
    (contents (.root pid)).length = (rootsAt forest pid).length := (rebuilt.roots pid).length_eq.symm

end

end

theorem remade_store {item : Item} (stored : item ∈ [bag, locker, sword]) : item.Remade storeItems (fun _ _ => 0) := by
  simp only [mem_cons, not_mem_nil, or_false] at stored
  rcases stored with rfl | rfl | rfl
  · exact Item.remade_of_createItem _ (show Item.createItem storeItems (fun _ _ => 0) 1987 0 = some bag by decide +kernel)
  · exact Item.remade_of_createItem _ (show Item.createItem storeItems (fun _ _ => 0) 2589 0 = some locker by decide +kernel)
  · exact Item.remade_of_createItem _ (show Item.createItem storeItems (fun _ _ => 0) 2376 0 = some sword by decide +kernel)

theorem remade_inBag : (inBag sword).All (fun object _ => object.item.Remade storeItems (fun _ _ => 0)) := by
  refine .node (remade_store (by simp)) ?_
  intro child listed
  rw [mem_singleton] at listed
  rw [listed]
  exact .node (remade_store (by simp)) nofun

def bagInChest : List (Int × ItemTree) := [(3, inBag sword)]

theorem rebuilt_of_rows_bag :
    Rebuilt storeItems CustomAttribute.roundAddress emptyServices (fun _ _ => 0) bagInChest
      (loadItems storeItems emptyServices (fun _ _ => 0) .empty
        (saveItems storeItems CustomAttribute.roundAddress bagInChest))
      (ItemTable.depotItems.placeItems (loadItems storeItems emptyServices (fun _ _ => 0) .empty
        (saveItems storeItems CustomAttribute.roundAddress bagInChest))) := by
  have remade : ∀ root ∈ bagInChest, root.2.All (fun object _ => object.item.Remade storeItems (fun _ _ => 0)) := by
    intro root listed
    rw [mem_singleton.mp listed]
    exact remade_inBag
  have contained : ∀ root ∈ bagInChest, root.2.Contained := by
    intro root listed
    rw [mem_singleton.mp listed]
    exact contained_inBag sword
  have range : ∀ root ∈ bagInChest, ItemTable.depotItems.isRoot root.1 = true := by
    intro root listed
    rw [mem_singleton.mp listed]
    rfl
  have few : 100 + (bagInChest.map (·.2.size)).sum < 2 ^ 31 := by decide
  have single : ItemTable.depotItems = .items → (bagInChest.map (·.1)).Nodup := nofun
  exact rebuilt_of_rows remade contained range few single (.refl _)

def twoSwords : List (Int × ItemTree) := [(6, .node { item := sword } []), (6, .node { item := sword } [])]

/-- The rows of two items for one slot of the player make one item. -/
theorem not_rebuilt_slot : (∀ root ∈ twoSwords, root.2.All (fun object _ => object.item.Remade storeItems (fun _ _ => 0))) ∧
    (∀ root ∈ twoSwords, root.2.Contained) ∧ (∀ root ∈ twoSwords, ItemTable.items.isRoot root.1 = true) ∧
    ¬ Rebuilt storeItems CustomAttribute.roundAddress emptyServices (fun _ _ => 0) twoSwords
      (loadItems storeItems emptyServices (fun _ _ => 0) .empty
        (saveItems storeItems CustomAttribute.roundAddress twoSwords))
      (ItemTable.items.placeItems (loadItems storeItems emptyServices (fun _ _ => 0) .empty
        (saveItems storeItems CustomAttribute.roundAddress twoSwords))) := by
  have roots : ∀ root ∈ twoSwords, root = (6, .node { item := sword } []) := by
    intro root listed
    simpa [twoSwords] using listed
  refine ⟨?_, ?_, ?_, ?_⟩
  · intro root listed
    rw [roots root listed]
    exact .node (remade_store (by simp)) nofun
  · intro root listed
    rw [roots root listed]
    exact .node (fun _ => rfl) nofun
  · intro root listed
    rw [roots root listed]
    rfl
  · intro rebuilt
    have one := length_placeItems_le (loadItems storeItems emptyServices (fun _ _ => 0) .empty
      (saveItems storeItems CustomAttribute.roundAddress twoSwords)) 6
    rw [rebuilt.length_roots 6] at one
    exact absurd one (by decide)

end Styller
