import Mathlib.Data.List.TakeWhile
import Styller.Library.Piles
import Styller.Trade.OfflineGoods

/-! What comes to lie in a container that is filled again from the rows of what was in it. -/

namespace Styller

open Library List

namespace Item
variable {items : ItemTypes} {normalRandom : Nat → Nat → Int} {item other rest : Item} {count : Nat}

theorem attr?_removeAttribute (item : Item) (type other : ItemAttrType) :
    (item.removeAttribute type).attr? other = if other = type then none else item.attr? other := by
  have lookup : ∀ attributes : ItemAttributes, (attributes.removeAttribute type).lookup other =
      if other = type then none else attributes.lookup other := by
    intro attributes
    induction attributes with
    | nil => exact (ite_self _).symm
    | cons entry attributes ih =>
      unfold ItemAttributes.removeAttribute at ih ⊢
      rw [filter_cons, ItemAttributes.lookup_cons]
      by_cases here : entry.1 = type
      · rw [if_neg (by simp [here]), ih]
        by_cases same : other = type
        · rw [if_pos same, if_pos same]
        · rw [if_neg same, if_neg same, if_neg fun found => same (found.symm.trans here)]
      · rw [if_pos (by simp [here]), ItemAttributes.lookup_cons, ih]
        by_cases found : entry.1 = other
        · rw [if_pos found, if_pos found, if_neg fun same => here (found.trans same)]
        · rw [if_neg found, if_neg found]
  unfold attr? removeAttribute
  cases item.attributes with
  | none => exact (ite_self _).symm
  | some attributes => exact lookup attributes

theorem distinct_removeAttribute (distinct : item.Distinct) (type : ItemAttrType) : (item.removeAttribute type).Distinct := by
  unfold Distinct removeAttribute at *
  cases given : item.attributes with
  | none => exact nodup_nil
  | some attributes =>
    rw [given] at distinct
    exact distinct.sublist (filter_sublist.map _)

theorem distinct_of_bare (bare : ∀ type, item.attr? type = none) : item.Distinct := by
  unfold Distinct
  cases given : item.attributes.getD [] with
  | nil => exact nodup_nil
  | cons entry attributes =>
    have found := bare entry.1
    rw [attr?, given, ItemAttributes.lookup_cons, if_pos rfl] at found
    cases found

end Item

namespace TradeOff

abbrev Look := Nat × (ItemAttrType → Option AttrValue)

def look (item : Item) : Look := (item.id, item.attr?)

/-- What tells items apart, but for how many there are of what is stacked. -/
abbrev Mark := Look × Nat

theorem look_eq_iff {item other : Item} : look item = look other ↔ Alike item other :=
  ⟨fun same => ⟨congrArg Prod.fst same, congrFun (congrArg Prod.snd same)⟩, fun alike => Prod.ext alike.1 (funext alike.2)⟩

section
variable (items : ItemTypes) {item other : Item}

/-- Something that may be stacked: with a duration that runs, two items are never equal to one another. -/
def merges (item : Item) : Bool := item.isStackable items && decide (item.getDuration = 0)

def stacked (kind : Look) : Bool :=
  merges items { id := kind.1, attributes := (kind.2 .duration).map fun value => [(.duration, value)] }

def pile (item : Item) : Mark × Nat :=
  if merges items item then ((look item, 0), item.count) else ((look item, item.count), 1)

def pileSize (mark : Mark) : Nat := if stacked items mark.1 then max 1 (items.get mark.1.1).stackSize else 1

variable {items}

theorem merges_congr (alike : Alike item other) : merges items item = merges items other := by
  unfold merges Item.isStackable Item.getDuration
  rw [Item.getIntAttr_eq, Item.getIntAttr_eq, alike.1, alike.2]

theorem stacked_look (item : Item) : stacked items (look item) = merges items item := by
  have same : Item.attr? { id := item.id, attributes := (item.attr? .duration).map fun value => [(.duration, value)] } .duration =
      item.attr? .duration := by
    unfold Item.attr?
    cases (item.attributes.getD []).lookup .duration with
    | none => rfl
    | some value => rfl
  have duration : Item.getDuration
      { id := item.id, attributes := (item.attr? .duration).map fun value => [(.duration, value)] } = item.getDuration := by
    unfold Item.getDuration
    rw [Item.getIntAttr_eq, Item.getIntAttr_eq, same]
  exact congrArg (fun long => (items.get item.id).stackable && decide (long = 0)) duration

theorem mark_look (item : Item) : (pile items item).1.1 = look item := by
  unfold pile
  split <;> rfl

theorem pileSize_pile (item : Item) :
    pileSize items (pile items item).1 = if merges items item then max 1 (items.get item.id).stackSize else 1 := by
  rw [pileSize, mark_look, stacked_look]
  rfl

theorem pile_of_merges (stacked : merges items item = true) : pile items item = ((look item, 0), item.count) :=
  if_pos stacked

theorem pile_of_single (single : merges items item = false) : pile items item = ((look item, item.count), 1) :=
  if_neg (ne_true_of_eq_false single)

/-- Two items have one mark if they are of one kind, and as many unless they are stacked. -/
theorem mark_eq_iff : (pile items item).1 = (pile items other).1 ↔
    Alike item other ∧ (merges items item = false → item.count = other.count) := by
  constructor
  · intro same
    have alike : Alike item other := by
      rw [← look_eq_iff, ← @mark_look items item, same, mark_look]
    refine ⟨alike, fun single => ?_⟩
    rw [pile_of_single single, pile_of_single ((merges_congr alike).symm.trans single)] at same
    exact congrArg Prod.snd same
  · rintro ⟨alike, count⟩
    have kind := look_eq_iff.mpr alike
    cases stacked : merges items item with
    | true => rw [pile_of_merges stacked, pile_of_merges ((merges_congr alike).symm.trans stacked), kind]
    | false => rw [pile_of_single stacked, pile_of_single ((merges_congr alike).symm.trans stacked), kind, count stacked]

theorem pile_eq_iff : pile items item = pile items other ↔ Alike item other ∧ item.count = other.count := by
  rw [Prod.ext_iff, mark_eq_iff]
  constructor
  · rintro ⟨⟨alike, single⟩, many⟩
    refine ⟨alike, ?_⟩
    cases stacked : merges items item with
    | true => rwa [pile_of_merges stacked, pile_of_merges ((merges_congr alike).symm.trans stacked)] at many
    | false => exact single stacked
  · rintro ⟨alike, count⟩
    refine ⟨⟨alike, fun _ => count⟩, ?_⟩
    cases stacked : merges items item with
    | true => rw [pile_of_merges stacked, pile_of_merges ((merges_congr alike).symm.trans stacked), count]
    | false => rw [pile_of_single stacked, pile_of_single ((merges_congr alike).symm.trans stacked)]

end

section
variable (items : ItemTypes)

/-- An item that was just made. -/
structure Fresh (item : Item) : Prop where
  distinct : item.Distinct
  undecayed : item.attr? .decayState = none
  unowned : item.attr? .corpseOwner = none
  timeless : item.getDuration = 0 → item.attr? .duration = none ∧ (items.get item.id).Timeless
  plain : 1 < item.count → item.getDuration = 0 → ∀ type, item.attr? type = none
  count : item.isStackable items = true → 0 < item.count ∧ item.count ≤ (items.get item.id).stackSize

/-- An item that lies in a container which the script fills. -/
structure Settled (item : Item) : Prop where
  distinct : item.Distinct
  unowned : item.attr? .corpseOwner = none
  timeless : item.getDuration = 0 →
    item.attr? .duration = none ∧ item.attr? .decayState = none ∧ (items.get item.id).Timeless
  decays : item.getDuration ≠ 0 → item.attr? .decayState ≠ none

variable {items} {normalRandom : Nat → Nat → Int} {item listItem rest : Item} {count : Nat}

theorem begins_of_timeless (ends : item.getDuration = 0) : begins item = item := if_neg (by omega)

theorem begins_attr? (type : ItemAttrType) (other : type ≠ .decayState) : (begins item).attr? type = item.attr? type := by
  unfold begins
  split
  case isTrue => rw [Item.attr?_setIntAttr, if_neg other]
  case isFalse => rfl

theorem begins_getDuration (item : Item) : (begins item).getDuration = item.getDuration := by
  unfold Item.getDuration
  rw [Item.getIntAttr_eq, Item.getIntAttr_eq, begins_attr? .duration nofun]

theorem merges_begins (item : Item) : merges items (begins item) = merges items item := by
  unfold merges Item.isStackable
  rw [begins_getDuration, begins_id]

theorem begins_count (item : Item) : (begins item).count = item.count := by
  unfold begins
  split <;> rfl

theorem Fresh.settled (fresh : Fresh items item) : Settled items (begins item) := by
  refine ⟨?_, (begins_attr? .corpseOwner nofun).trans fresh.unowned, fun ends => ?_, fun lasts => ?_⟩
  · unfold begins
    split
    case isTrue => exact Item.distinct_setIntAttr fresh.distinct _ _
    case isFalse => exact fresh.distinct
  · rw [begins_getDuration] at ends
    rw [begins_of_timeless ends]
    exact ⟨(fresh.timeless ends).1, fresh.undecayed, (fresh.timeless ends).2⟩
  · rw [begins_getDuration] at lasts
    rw [begins, if_pos (Nat.pos_of_ne_zero lasts), Item.attr?_setIntAttr, if_pos rfl]
    nofun

/-- An item of the container is suitable if both are stacked, of one kind, and the one in the container is not full. -/
theorem suits_iff (fresh : Fresh items item) (settled : Settled items listItem) : suits items item listItem = true ↔
    merges items item = true ∧ Alike listItem item ∧ listItem.count < (items.get item.id).stackSize := by
  have size : listItem.id = item.id → item.isStackable items = true →
      listItem.getStackSize items = (items.get item.id).stackSize := by
    intro same stackable
    unfold Item.isStackable at stackable
    unfold Item.getStackSize Item.isStackable
    rw [same, if_pos stackable]
  unfold suits
  rw [Bool.and_eq_true, Bool.and_eq_true, decide_eq_true_eq, Item.equals_iff settled.distinct fresh.distinct]
  constructor
  · rintro ⟨⟨stackable, alike⟩, less⟩
    have ends : listItem.getDuration = 0 :=
      by_contra fun lasts => settled.decays lasts ((alike.2 .decayState).trans fresh.undecayed)
    have same := @merges_congr items _ _ alike
    refine ⟨same.symm.trans ?_, alike, size alike.1 stackable ▸ less⟩
    unfold Item.isStackable at stackable
    rw [merges, Item.isStackable, alike.1, stackable, decide_eq_true ends]
    rfl
  · rintro ⟨stacked, alike, less⟩
    have stackable := (Bool.and_eq_true_iff.mp stacked).1
    exact ⟨⟨stackable, alike⟩, (size alike.1 stackable).symm ▸ less⟩

/-- A remainder of a stack without attributes. -/
theorem remainder_some (stackable : item.isStackable items = true) (timeless : (items.get item.id).Timeless)
    (plain : ∀ type, item.attr? type = none) (small : count < 256) :
    ∃ rest, remainder items normalRandom item count = some rest ∧ rest.id = item.id ∧ rest.count = count ∧
      ∀ type, rest.attr? type = none := by
  obtain ⟨own, known, kept⟩ := items.stackable_id item.id stackable
  have exist : (items.get item.id).Exists := by
    refine ⟨fun deprecated => ?_, own.symm ▸ known⟩
    have group := (items.stackable_plain item.id stackable).group
    rw [group] at deprecated
    cases deprecated
  obtain ⟨copy, creates⟩ := Item.createItem_some normalRandom item.count exist
  have copied : copy.id = item.id ∧ ∀ type, copy.attr? type = none := by
    obtain ⟨attributes, stack⟩ := Item.createItem_stackable items normalRandom stackable item.count
    cases creates.symm.trans stack
    obtain ⟨dry, noClass⟩ := Item.stackable_dry stackable
    have begun := Item.createItem_created creates
    refine ⟨rfl, fun type => ?_⟩
    generalize made : ({ id := item.id, count := toUInt8 (if item.count = 0 then 1 else item.count : Nat), attributes } : Item) =
      copy at begun ⊢
    cases begun with
    | plain =>
      have bare := (Item.new_plain items normalRandom ((renamedItem (items.get item.id).id).getD item.id)
        (if (items.get item.id).stackable ∧ item.count = 0 then 1 else item.count)).mpr
      rw [own, kept] at bare ⊢
      exact bare ⟨dry, .inl stackable, Item.defaultDuration_timeless timeless normalRandom⟩ type
    | classed _ _ hasClass => exact nomatch noClass.symm.trans hasClass
  have counted : ∀ copy : Item, (copy.setItemCount (count : Int)).count = count := fun copy => by
    have stored := toUInt8_of_lt (Int.natCast_nonneg count) (by omega)
    exact_mod_cast stored
  have still : ∀ {copy : Item}, (∀ type, copy.attr? type = none) → ¬ copy.getDuration > 0 := by
    intro copy bare
    rw [Item.getDuration, Item.getIntAttr_of_none (bare .duration)]
    exact Nat.lt_irrefl 0
  unfold remainder
  rw [creates, Option.map_some]
  cases given : item.attributes with
  | none => exact ⟨_, rfl, copied.1, counted _, copied.2⟩
  | some attributes =>
    have same : ∀ type, ({ copy with attributes := some attributes } : Item).attr? type = none := by
      intro type
      rw [← plain type, Item.attr?, Item.attr?, given]
    dsimp only
    rw [if_neg (still same)]
    exact ⟨_, rfl, copied.1, counted _, same⟩

/-- A stack in the container that becomes larger. -/
theorem updated_stack (settled : Settled items listItem) (stacked : merges items listItem = true) (small : count < 256) :
    ∃ updated, (listItem.setID items normalRandom listItem.id).setSubType items count = updated ∧ Alike updated listItem ∧
      updated.count = count ∧ Settled items updated := by
  obtain ⟨stackable, ends⟩ := Bool.and_eq_true_iff.mp stacked
  have ends := of_decide_eq_true ends
  obtain ⟨unset, undecayed, timeless⟩ := settled.timeless ends
  -- the type gives no new duration, and there is nothing to remove
  have cleared : ∃ kept, listItem.setID items normalRandom listItem.id = Item.removeAttribute kept .corpseOwner ∧
      (kept = listItem ∨ kept = (listItem.removeAttribute .decayState).removeAttribute .duration) := by
    have none : toUInt32 (if (items.get listItem.id).decayTimeMin ≠ 0 ∧ (items.get listItem.id).decayTimeMax ≠ 0 then
        normalRandom (items.get listItem.id).decayTimeMin (items.get listItem.id).decayTimeMax * 1000
        else (items.get listItem.id).decayTimeMin * 1000) = 0 := by
      rw [timeless.1, if_neg fun both => both.1 rfl]
      rfl
    unfold Item.setID
    dsimp only
    rw [none, if_neg fun both => Nat.lt_irrefl 0 both.1]
    refine ⟨_, rfl, ?_⟩
    split
    case isTrue => exact .inr rfl
    case isFalse => exact .inl rfl
  obtain ⟨kept, same, cases⟩ := cleared
  have known : Item.Distinct kept ∧ (∀ type, kept.attr? type = listItem.attr? type) := by
    rcases cases with rfl | rfl
    · exact ⟨settled.distinct, fun _ => rfl⟩
    · refine ⟨Item.distinct_removeAttribute (Item.distinct_removeAttribute settled.distinct _) _, fun type => ?_⟩
      rw [Item.attr?_removeAttribute, Item.attr?_removeAttribute]
      split
      case isTrue same => rw [same, unset]
      case isFalse =>
        split
        case isTrue same => rw [same, undecayed]
        case isFalse => rfl
  have id : (listItem.setID items normalRandom listItem.id).id = listItem.id := by
    rw [Item.setID_frame]
  have stackable : (listItem.setID items normalRandom listItem.id).isStackable items = true := by
    rw [Item.isStackable, id]
    exact stackable
  have attributes : ∀ type, ((listItem.setID items normalRandom listItem.id).setItemCount count).attr? type = listItem.attr? type := by
    intro type
    rw [Item.attr?_setItemCount, same, Item.attr?_removeAttribute]
    split
    case isTrue same => rw [same, settled.unowned]
    case isFalse => exact known.2 type
  have alike : Alike ((listItem.setID items normalRandom listItem.id).setItemCount count) listItem := ⟨id, attributes⟩
  refine ⟨_, Item.setSubType_stackable items _ count stackable, alike, ?_, ?_⟩
  · have stored := toUInt8_of_lt (Int.natCast_nonneg count) (by omega)
    exact_mod_cast stored
  · refine ⟨?_, (attributes _).trans settled.unowned, fun _ => ?_, fun lasts => ?_⟩
    · rw [same]
      exact Item.distinct_removeAttribute known.1 _
    · rw [attributes, attributes, Item.id_setItemCount, id]
      exact ⟨unset, undecayed, timeless⟩
    · refine absurd ?_ lasts
      rw [Item.getDuration, Item.getIntAttr_eq, attributes, ← Item.getIntAttr_eq]
      exact ends

end

section
variable {items : ItemTypes} {draws : Draws} {capacity fuel : Nat} {shelf : Shelf} {item : Item}

/-- A new item lies in front if nothing is suitable to stack it with. -/
theorem addItemEx_front (takes : item.isPickupable items = true) (fits : roomFor items capacity shelf.contents item = true)
    (none : ∀ listItem ∈ shelf.contents, suits items item listItem = false) (room : shelf.contents.length < capacity) :
    addItemEx items draws capacity (fuel + 1) shelf item = { shelf with contents := begins item :: shelf.contents } := by
  have nothing : (shelf.contents.dropWhile fun listItem => !suits items item listItem) = [] :=
    dropWhile_eq_nil_iff.mpr fun listItem listed => congrArg not (none listItem listed)
  rw [addItemEx, takes, fits, nothing]
  exact if_neg (Nat.not_le.mpr room)

theorem roomFor_free (room : shelf.contents.length < capacity)
    (small : item.isStackable items = true → item.count ≤ (items.get item.id).stackSize) :
    roomFor items capacity shelf.contents item = true := by
  have free : 1 ≤ capacity - shelf.contents.length := by omega
  unfold roomFor
  dsimp only
  split
  case isTrue stackable =>
    have one := small stackable
    have many := Nat.mul_le_mul_right ((items.get item.id).stackSize) free
    unfold Item.isStackable at stackable
    rw [decide_eq_true_eq, Item.getStackSize, Item.isStackable, if_pos stackable]
    omega
  case isFalse => exact decide_eq_true free

/-- Where nothing is suitable, the piles of the kind of an item are full. -/
theorem full_of_unsuited (fresh : Fresh items item) (settled : ∀ listItem ∈ shelf.contents, Settled items listItem)
    (sized : Piles.Sized (pileSize items) (shelf.contents.map (pile items)))
    (none : ∀ listItem ∈ shelf.contents, suits items item listItem = false) :
    ∀ other ∈ shelf.contents.map (pile items), other.1 = (pile items (begins item)).1 →
      other.2 = pileSize items (pile items (begins item)).1 := by
  intro other listed same
  obtain ⟨listItem, member, rfl⟩ := mem_map.mp listed
  have small := (sized _ listed).2
  rw [same, pileSize_pile, merges_begins, begins_id] at small
  rw [pileSize_pile, merges_begins, begins_id]
  obtain ⟨alike, _⟩ := mark_eq_iff.mp same
  have kind := (@merges_congr items _ _ alike).trans (merges_begins item)
  cases stacked : merges items item with
  | false =>
    rw [if_neg Bool.false_ne_true, pile_of_single (kind.trans stacked)]
  | true =>
    have ends := of_decide_eq_true (Bool.and_eq_true_iff.mp stacked).2
    have size := fresh.count (Bool.and_eq_true_iff.mp stacked).1
    rw [begins_of_timeless ends] at alike
    have most : ¬ listItem.count < (items.get item.id).stackSize := fun less =>
      Bool.false_ne_true ((none listItem member).symm.trans ((suits_iff fresh (settled listItem member)).mpr ⟨stacked, alike, less⟩))
    rw [stacked, if_pos rfl, pile_of_merges (kind.trans stacked)] at small
    rw [if_pos rfl, pile_of_merges (kind.trans stacked)]
    dsimp only at small ⊢
    omega

/-- A new item goes onto a suitable one, and what is left over is added as an item of its own. -/
theorem addItemEx_onto {toItem updated : Item} {behind : List Item} {most : Nat} (takes : item.isPickupable items = true)
    (fits : roomFor items capacity shelf.contents item = true)
    (found : (shelf.contents.dropWhile fun listItem => !suits items item listItem) = toItem :: behind)
    (size : toItem.getStackSize items = most)
    (made : (toItem.setID items (draws.draw shelf.made) toItem.id).setSubType items
      (toItem.count + min (most - toItem.count) item.count) = updated) :
    addItemEx items draws capacity (fuel + 1) shelf item =
      let merged : Shelf :=
        { contents := (shelf.contents.takeWhile fun listItem => !suits items item listItem) ++ updated :: behind
          made := shelf.made + 2 }
      if item.count - min (most - toItem.count) item.count > 0 then
        match remainder items (draws.draw (shelf.made + 1)) item (item.count - min (most - toItem.count) item.count) with
        | none => merged
        | some rest => addItemEx items draws capacity fuel merged rest
      else merged := by
  subst size made
  rw [addItemEx, takes, fits, found]
  rfl

theorem addItemEx_put (takes : item.isPickupable items = true) (fresh : Fresh items item)
    (settled : ∀ listItem ∈ shelf.contents, Settled items listItem)
    (levelled : Piles.Levelled (pileSize items) (shelf.contents.map (pile items)))
    (sized : Piles.Sized (pileSize items) (shelf.contents.map (pile items))) (room : shelf.contents.length < capacity) :
    Piles.Put (pileSize items) (pile items (begins item)).1 (pile items (begins item)).2 (shelf.contents.map (pile items))
        ((addItemEx items draws capacity (item.count + 1) shelf item).contents.map (pile items)) ∧
      ∀ listItem ∈ (addItemEx items draws capacity (item.count + 1) shelf item).contents, Settled items listItem := by
  have fits := @roomFor_free items capacity shelf item room fun stackable => (fresh.count stackable).2
  cases found : shelf.contents.dropWhile fun listItem => !suits items item listItem with
  | nil =>
    have none : ∀ listItem ∈ shelf.contents, suits items item listItem = false := fun listItem listed =>
      Bool.not_eq_eq_eq_not.mp (dropWhile_eq_nil_iff.mp found listItem listed)
    rw [addItemEx_front takes fits none room]
    exact ⟨.front (full_of_unsuited fresh settled sized none), forall_mem_cons.mpr ⟨fresh.settled, settled⟩⟩
  | cons toItem behind =>
    have whole := takeWhile_append_dropWhile (p := fun listItem => !suits items item listItem) (l := shelf.contents)
    rw [found] at whole
    have suitable : suits items item toItem = true := by
      have first := head_dropWhile_not (fun listItem => !suits items item listItem) (l := shelf.contents) (by rw [found]; nofun)
      simpa [found] using first
    have member : toItem ∈ shelf.contents := by
      rw [← whole]
      exact mem_append_right _ mem_cons_self
    obtain ⟨stacked, alike, less⟩ := (suits_iff fresh (settled toItem member)).mp suitable
    obtain ⟨stackable, ends⟩ := Bool.and_eq_true_iff.mp stacked
    have ends := of_decide_eq_true ends
    have filled := fresh.count stackable
    have full := items.stackSize_lt item.id
    have other : merges items toItem = true := (merges_congr alike).trans stacked
    have size : toItem.getStackSize items = (items.get item.id).stackSize := by
      unfold Item.isStackable at stackable
      rw [Item.getStackSize, Item.isStackable, alike.1, if_pos stackable]
    obtain ⟨updated, made, same, count, kept⟩ := @updated_stack items (draws.draw shelf.made) toItem
      (toItem.count + min ((items.get item.id).stackSize - toItem.count) item.count) (settled toItem member) other (by omega)
    have mark : (pile items toItem).1 = (pile items item).1 := mark_eq_iff.mpr ⟨alike, fun single => nomatch other.symm.trans single⟩
    have rewritten : pile items updated = ((pile items item).1, updated.count) := by
      refine Prod.ext ?_ ?_
      · rw [← mark]
        exact mark_eq_iff.mpr ⟨same, fun single => nomatch other.symm.trans ((merges_congr same).symm.trans single)⟩
      · rw [pile_of_merges ((merges_congr same).trans other)]
    have piled : ∀ behind' before' : List Item, (before' ++ updated :: behind').map (pile items) =
        before'.map (pile items) ++ ((pile items item).1, updated.count) :: behind'.map (pile items) := by
      intro behind' before'
      rw [map_append, map_cons, rewritten]
    have here : pile items toItem = ((pile items item).1, toItem.count) :=
      Prod.ext mark (by rw [pile_of_merges other])
    have own : (pile items item).2 = item.count := by rw [pile_of_merges stacked]
    have most : pileSize items (pile items item).1 = (items.get item.id).stackSize := by
      rw [pileSize_pile, stacked, if_pos rfl]
      omega
    rw [addItemEx_onto takes fits found size made, begins_of_timeless ends, own]
    dsimp only
    generalize (shelf.contents.takeWhile fun listItem => !suits items item listItem) = front at whole ⊢
    rw [← whole, map_append, map_cons, here] at levelled sized ⊢
    rw [← whole, forall_mem_append, forall_mem_cons] at settled
    have settled' : ∀ listItem ∈ front ++ updated :: behind, Settled items listItem := by
      rw [forall_mem_append, forall_mem_cons]
      exact ⟨settled.1, kept, settled.2.2⟩
    by_cases more : item.count - min ((items.get item.id).stackSize - toItem.count) item.count > 0
    · have part : min ((items.get item.id).stackSize - toItem.count) item.count = (items.get item.id).stackSize - toItem.count := by
        omega
      rw [if_pos more]
      rw [part] at count more ⊢
      have timeless := (fresh.timeless ends).2
      have bare := fresh.plain (by omega) ends
      obtain ⟨rest, splits, id, left, none⟩ := @remainder_some items (draws.draw (shelf.made + 1)) item
        (item.count - ((items.get item.id).stackSize - toItem.count)) stackable timeless bare (by omega)
      have new : Fresh items rest := by
        refine ⟨Item.distinct_of_bare none, none _, none _, fun _ => ⟨none _, id.symm ▸ timeless⟩, fun _ _ => none, fun _ => ?_⟩
        rw [left, id]
        omega
      have still : rest.getDuration = 0 := by rw [Item.getDuration, Item.getIntAttr_of_none (none _)]; rfl
      have like : Alike rest item := ⟨id, fun type => (none type).trans (bare type).symm⟩
      have joined : merges items rest = true := (merges_congr like).trans stacked
      -- the suitable item was the first of its kind, and all behind it are full
      obtain ⟨_, behindFull, between⟩ := pairwise_append.mp levelled
      have frontFull : ∀ other ∈ front.map (pile items), other.1 ≠ (pile items item).1 := by
        intro other listed same
        have held := between other listed _ mem_cons_self same
        dsimp only at held
        omega
      have full : ∀ other ∈ front.map (pile items) ++ behind.map (pile items), other.1 = (pile items item).1 →
          other.2 = pileSize items (pile items item).1 := by
        intro other listed same
        rcases mem_append.mp listed with before | after
        · exact absurd same (frontFull other before)
        · exact ((pairwise_cons.mp behindFull).1 other after same.symm).trans (congrArg _ same)
      have unsuited : ∀ listItem ∈ front ++ updated :: behind, suits items rest listItem = false := by
        intro listItem listed
        refine eq_false_of_ne_true fun suits => ?_
        obtain ⟨_, kind, space⟩ := (suits_iff new (settled' listItem listed)).mp suits
        rw [id] at space
        have kind : Alike listItem item := ⟨kind.1.trans like.1, fun type => (kind.2 type).trans (like.2 type)⟩
        have single := (merges_congr kind).trans stacked
        have marked : (pile items listItem).1 = (pile items item).1 :=
          mark_eq_iff.mpr ⟨kind, fun other => nomatch single.symm.trans other⟩
        rcases mem_append.mp listed with before | found
        · exact frontFull _ (mem_map_of_mem before) marked
        · rcases mem_cons.mp found with rfl | after
          · omega
          · have held := full _ (mem_append_right _ (mem_map_of_mem after)) marked
            rw [pile_of_merges single, most] at held
            dsimp only at held
            omega
      obtain ⟨fuel, more⟩ := Nat.exists_eq_succ_of_ne_zero (Nat.ne_of_gt filled.1)
      have space : (front ++ updated :: behind).length < capacity := by
        rw [← whole, length_append, length_cons] at room
        rwa [length_append, length_cons]
      have pickupable : rest.isPickupable items = true := by
        rw [Item.isPickupable, id]
        exact takes
      have again : addItemEx items draws capacity item.count ⟨front ++ updated :: behind, shelf.made + 2⟩ rest =
          ⟨rest :: (front ++ updated :: behind), shelf.made + 2⟩ := by
        have fits := @roomFor_free items capacity ⟨front ++ updated :: behind, shelf.made + 2⟩ rest space
          fun _ => (new.count (Bool.and_eq_true_iff.mp joined).1).2
        rw [more, addItemEx_front pickupable fits unsuited space, begins_of_timeless still]
      rw [splits]
      dsimp only
      rw [again]
      refine ⟨?_, forall_mem_cons.mpr ⟨begins_of_timeless still ▸ new.settled, settled'⟩⟩
      have first : pile items rest = ((pile items item).1, item.count - ((items.get item.id).stackSize - toItem.count)) := by
        rw [← left]
        exact Prod.ext (mark_eq_iff.mpr ⟨like, fun single => nomatch joined.symm.trans single⟩) (by rw [pile_of_merges joined])
      rw [map_cons, piled, first, count]
      have all : toItem.count + ((items.get item.id).stackSize - toItem.count) = pileSize items (pile items item).1 := by omega
      rw [all]
      exact .spill (by omega) (by omega) (by omega) full
    · rw [if_neg more]
      refine ⟨?_, settled'⟩
      have all : min ((items.get item.id).stackSize - toItem.count) item.count = item.count := by omega
      rw [piled, count, all]
      exact .onto (by omega)

end

section
variable {items : ItemTypes} {draws : Draws} {capacity fuel : Nat} {shelf next : Shelf} {item rest made : Item} {row : Content}

theorem remainder_id {normalRandom : Nat → Nat → Int} {count : Nat} (stackable : item.isStackable items = true)
    (found : remainder items normalRandom item count = some rest) : rest.id = item.id := by
  obtain ⟨copy, creates, rfl⟩ := Option.map_eq_some_iff.mp found
  have same : copy.id = item.id := by
    obtain ⟨attributes, stack⟩ := Item.createItem_stackable items normalRandom stackable item.count
    cases creates.symm.trans stack
    rfl
  dsimp only
  rw [Item.id_setItemCount]
  split
  case h_1 => exact same
  case h_2 =>
    split
    case isTrue => exact same
    case isFalse => exact same

/-- What an addition does: nothing; a new item lies in front; or it goes onto another, and a remainder of the same id is added. -/
theorem addItemEx_cases (items : ItemTypes) (draws : Draws) (capacity fuel : Nat) (shelf : Shelf) (item : Item) :
    addItemEx items draws capacity (fuel + 1) shelf item = shelf ∨
      item.isPickupable items = true ∧ roomFor items capacity shelf.contents item = true ∧
        (shelf.contents.length < capacity ∧
            addItemEx items draws capacity (fuel + 1) shelf item = { shelf with contents := begins item :: shelf.contents } ∨
          ∃ merged : Shelf, merged.contents.map Item.id = shelf.contents.map Item.id ∧
            (addItemEx items draws capacity (fuel + 1) shelf item = merged ∨ ∃ rest : Item, rest.id = item.id ∧
              addItemEx items draws capacity (fuel + 1) shelf item = addItemEx items draws capacity fuel merged rest)) := by
  by_cases takes : item.isPickupable items = true
  · by_cases fits : roomFor items capacity shelf.contents item = true
    · cases found : shelf.contents.dropWhile fun listItem => !suits items item listItem with
      | nil =>
        by_cases full : shelf.contents.length ≥ capacity
        · left
          rw [addItemEx, takes, fits, found]
          exact if_pos full
        · refine .inr ⟨takes, fits, .inl ⟨Nat.lt_of_not_le full, ?_⟩⟩
          rw [addItemEx, takes, fits, found]
          exact if_neg full
      | cons toItem behind =>
        refine .inr ⟨takes, fits, .inr ?_⟩
        have whole := takeWhile_append_dropWhile (p := fun listItem => !suits items item listItem) (l := shelf.contents)
        rw [found] at whole
        have suitable : suits items item toItem = true := by
          have first := head_dropWhile_not (fun listItem => !suits items item listItem) (l := shelf.contents) (by rw [found]; nofun)
          simpa [found] using first
        have stackable := (Bool.and_eq_true_iff.mp (Bool.and_eq_true_iff.mp suitable).1).1
        rw [addItemEx_onto takes fits found rfl rfl]
        dsimp only
        generalize (shelf.contents.takeWhile fun listItem => !suits items item listItem) = front at whole ⊢
        generalize toItem.count + min (toItem.getStackSize items - toItem.count) item.count = count
        generalize updates : (toItem.setID items (draws.draw shelf.made) toItem.id).setSubType items count = updated
        have same : updated.id = toItem.id := by
          rw [← updates, (Item.setSubType_frame items _ count).1]
          change (toItem.setID items (draws.draw shelf.made) toItem.id).id = toItem.id
          rw [Item.setID_frame]
        have ids : (front ++ updated :: behind).map Item.id = shelf.contents.map Item.id := by
          rw [← whole, map_append, map_append, map_cons, map_cons, same]
        refine ⟨⟨front ++ updated :: behind, shelf.made + 2⟩, ids, ?_⟩
        split
        case isTrue =>
          cases splits : remainder items (draws.draw (shelf.made + 1)) item
              (item.count - min (toItem.getStackSize items - toItem.count) item.count) with
          | none => exact .inl rfl
          | some rest => exact .inr ⟨rest, remainder_id stackable splits, rfl⟩
        case isFalse => exact .inl rfl
    · left
      rw [addItemEx, takes, eq_false_of_ne_true fits]
      rfl
  · left
    rw [addItemEx, eq_false_of_ne_true takes]
    rfl

/-- An addition brings one more item at most, of the id of the new one, and not more than there is room for. -/
theorem addItemEx_bounds (items : ItemTypes) (draws : Draws) (capacity fuel : Nat) (shelf : Shelf) (item : Item) :
    (addItemEx items draws capacity fuel shelf item).contents.length ≤ shelf.contents.length + 1 ∧
      (shelf.contents.length ≤ capacity → (addItemEx items draws capacity fuel shelf item).contents.length ≤ capacity) ∧
      ∀ id ∈ (addItemEx items draws capacity fuel shelf item).contents.map Item.id,
        id = item.id ∨ id ∈ shelf.contents.map Item.id := by
  induction fuel generalizing shelf item with
  | zero => exact ⟨Nat.le_succ _, fun room => room, fun _ listed => .inr listed⟩
  | succ fuel ih =>
    rcases addItemEx_cases items draws capacity fuel shelf item with
      same | ⟨_, _, ⟨room, same⟩ | ⟨merged, ids, same | ⟨rest, id, same⟩⟩⟩
    · rw [same]
      exact ⟨Nat.le_succ _, fun room => room, fun _ listed => .inr listed⟩
    · rw [same]
      refine ⟨Nat.le_refl _, fun _ => room, fun id listed => ?_⟩
      rcases mem_cons.mp listed with rfl | old
      · exact .inl (begins_id item)
      · exact .inr old
    · have length := congrArg List.length ids
      rw [length_map, length_map] at length
      rw [same, length, ids]
      exact ⟨Nat.le_succ _, fun room => room, fun _ listed => .inr listed⟩
    · have length := congrArg List.length ids
      rw [length_map, length_map] at length
      have later := ih merged rest
      rw [length, id, ids] at later
      rw [same]
      exact later

/-- A refused item brings nothing. -/
theorem addItemEx_grows (grows : (addItemEx items draws capacity (fuel + 1) shelf item).contents.length = shelf.contents.length + 1) :
    item.isPickupable items = true ∧ roomFor items capacity shelf.contents item = true := by
  rcases addItemEx_cases items draws capacity fuel shelf item with same | ⟨takes, fits, _⟩
  · rw [same] at grows
    omega
  · exact ⟨takes, fits⟩

theorem stackSize_pos (fits : roomFor items capacity shelf.contents item = true) (stackable : item.isStackable items = true)
    (some : 0 < item.count) : 0 < (items.get item.id).stackSize := by
  have stack : (items.get item.id).stackable = true := stackable
  unfold roomFor at fits
  dsimp only at fits
  rw [if_pos stackable, decide_eq_true_eq, Item.getStackSize, if_pos stackable] at fits
  by_contra none
  have none : (items.get item.id).stackSize = 0 := Nat.eq_zero_of_not_pos none
  have nowhere : (shelf.contents.map fun listItem =>
      if suits items item listItem = true then listItem.getStackSize items - listItem.count else 0).sum = 0 := by
    rw [sum_eq_zero]
    intro free listed
    obtain ⟨listItem, _, rfl⟩ := mem_map.mp listed
    split
    case isFalse => rfl
    case isTrue suitable =>
      have suitable := Bool.and_eq_true_iff.mp suitable
      have same := Item.id_eq_of_equals (Bool.and_eq_true_iff.mp suitable.1).2
      rw [Item.getStackSize, Item.isStackable, same, if_pos stack, none, Nat.zero_sub]
  rw [nowhere, none, Nat.mul_zero] at fits
  omega

/-- What is filled from rows has one item for a row at most, of an id that something made of a row has, and not more than there is
room for; if it has as many as there are rows, each of them was taken. -/
theorem refilled_bounds {rows : List Content} (done : refilled items draws capacity rows shelf = some next) :
    next.contents.length ≤ shelf.contents.length + rows.length ∧
      (shelf.contents.length ≤ capacity → next.contents.length ≤ capacity) ∧
      (∀ id ∈ next.contents.map Item.id, id ∈ shelf.contents.map Item.id ∨ ∃ row ∈ rows, ∃ n made,
        remade items (draws.draw n) row = some made ∧ id = made.id) ∧
      (next.contents.length = shelf.contents.length + rows.length → ∀ row ∈ rows, ∃ n made,
        remade items (draws.draw n) row = some made ∧ made.isPickupable items = true ∧
          (made.isStackable items = true → 0 < made.count → 0 < (items.get made.id).stackSize)) := by
  induction rows generalizing shelf with
  | nil =>
    cases done
    exact ⟨Nat.le_refl _, fun room => room, fun _ listed => .inl listed, fun _ => nofun⟩
  | cons row rows ih =>
    unfold refilled at done
    cases found : remade items (draws.draw shelf.made) row with
    | none =>
      rw [found] at done
      dsimp only at done
      split at done
      case isTrue => cases done
      case isFalse =>
        obtain ⟨most, room, ids, _⟩ := ih done
        refine ⟨Nat.le_succ_of_le most, room, fun id listed => ?_, fun all => ?_⟩
        · rcases ids id listed with old | ⟨row, later, new⟩
          · exact .inl old
          · exact .inr ⟨row, mem_cons_of_mem _ later, new⟩
        · rw [length_cons] at all
          dsimp only at most
          omega
    | some made =>
      rw [found] at done
      dsimp only at done
      obtain ⟨most, room, ids, taken⟩ := ih done
      obtain ⟨one, limit, known⟩ := addItemEx_bounds items draws capacity (made.count + 1)
        { shelf with made := shelf.made + 1 } made
      dsimp only at one limit known
      rw [length_cons]
      refine ⟨by omega, fun space => room (limit space), fun id listed => ?_, fun all => ?_⟩
      · rcases ids id listed with old | ⟨row, later, new⟩
        · rcases known id old with rfl | older
          · exact .inr ⟨row, mem_cons_self, _, made, found, rfl⟩
          · exact .inl older
        · exact .inr ⟨row, mem_cons_of_mem _ later, new⟩
      · obtain ⟨takes, fits⟩ := @addItemEx_grows items draws capacity made.count { shelf with made := shelf.made + 1 } made (by
          dsimp only
          omega)
        refine forall_mem_cons.mpr ⟨⟨_, made, found, takes, stackSize_pos fits⟩, taken (by omega)⟩

end

section
variable {items : ItemTypes} {draws : Draws} {capacity fuel : Nat} {shelf next : Shelf} {item made : Item} {row : Content}

theorem remade_fresh {normalRandom : Nat → Nat → Int} (indexed : items.Indexed) (keeps : Item.Keeps items row.id) (sized : row.Sized)
    (chance : row.duration = 0 → (items.get row.id).defaultDuration normalRandom = 0 → (items.get row.id).Timeless)
    (whole : (items.get row.id).stackable = true → 0 < (items.get row.id).stackSize)
    (found : remade items normalRandom row = some made) : Fresh items made := by
  obtain ⟨id, distinct, count, undecayed, attributes⟩ := remade_some indexed keeps sized found
  have long : made.getDuration = lasting items normalRandom row :=
    getDuration_of_attr? (lasting_lt sized) (attributes .duration (by decide))
  have ended : made.getDuration = 0 → row.duration = 0 ∧ (items.get row.id).defaultDuration normalRandom = 0 := by
    rw [long, lasting]
    split
    case isTrue lasts => exact fun none => absurd none (Nat.ne_of_gt lasts)
    case isFalse ends => exact fun none => ⟨Nat.eq_zero_of_not_pos ends, none⟩
  refine ⟨distinct, undecayed, (attributes .corpseOwner (by decide)).trans rfl, fun ends => ⟨?_, ?_⟩, fun many ends type => ?_,
    fun stackable => ?_⟩
  · rw [attributes .duration (by decide), madeAttr, ← long, if_pos ends]
  · rw [id]
    exact chance (ended ends).1 (ended ends).2
  · -- of an item with charges there is one
    have stackable : (items.get row.id).stackable = true := by
      by_contra single
      rw [count, madeCount, if_neg single] at many
      exact Nat.lt_irrefl 1 many
    have uncharged : ¬ (row.duration = 0 ∧ 0 < row.charges) := by
      rintro ⟨_, charged⟩
      have one : asked row = 1 := if_pos (.inr charged)
      rw [count, madeCount, one] at many
      split at many <;> omega
    by_cases state : type = .decayState
    · rw [state, undecayed]
    · rw [attributes type state]
      cases type with
      | duration => rw [madeAttr, ← long, if_pos ends]
      | charges => rw [madeAttr, if_neg uncharged, ItemType.newCharges, if_pos (.inr (.inl stackable))]
      | fluidType => rw [madeAttr, (Item.stackable_dry stackable).1, if_neg Bool.false_ne_true]
      | decayState => exact absurd rfl state
      | _ => rfl
  · rw [Item.isStackable, id] at stackable
    have some := whole stackable
    rw [id, count, madeCount, if_pos stackable]
    omega

theorem Fresh.sized (fresh : Fresh items item) : 0 < (pile items (begins item)).2 ∧
    (pile items (begins item)).2 ≤ pileSize items (pile items (begins item)).1 := by
  rw [pileSize_pile, merges_begins, begins_id]
  cases stacked : merges items item with
  | true =>
    have count := fresh.count (Bool.and_eq_true_iff.mp stacked).1
    rw [pile_of_merges ((merges_begins item).trans stacked), begins_count, if_pos rfl]
    dsimp only
    omega
  | false =>
    rw [pile_of_single ((merges_begins item).trans stacked), if_neg Bool.false_ne_true]
    exact ⟨Nat.one_pos, Nat.le_refl 1⟩

/-- The rows are put on the piles one after the other, if there is room for each. -/
theorem refilled_filled {rows : List Content} (makes : Content → Mark × Nat)
    (each : ∀ row ∈ rows, ∀ n, ∃ made, remade items (draws.draw n) row = some made ∧ Fresh items made ∧
      made.isPickupable items = true ∧ pile items (begins made) = makes row)
    {brought : List (Mark × Nat)} (filled : Piles.Filled (pileSize items) brought (shelf.contents.map (pile items)))
    (sized : Piles.Sized (pileSize items) brought) (settled : ∀ listItem ∈ shelf.contents, Settled items listItem)
    (room : shelf.contents.length + rows.length ≤ capacity) :
    ∃ next, refilled items draws capacity rows shelf = some next ∧
      Piles.Filled (pileSize items) ((rows.map makes).reverse ++ brought) (next.contents.map (pile items)) := by
  induction rows generalizing shelf brought with
  | nil => exact ⟨shelf, rfl, filled⟩
  | cons row rows ih =>
    obtain ⟨made, found, fresh, takes, same⟩ := each row mem_cons_self shelf.made
    obtain ⟨levelled, small⟩ := filled.kept sized
    rw [length_cons] at room
    obtain ⟨put, kept⟩ := @addItemEx_put items draws capacity { shelf with made := shelf.made + 1 } made takes fresh settled
      levelled small (by dsimp only; omega)
    have more := put.length_le
    rw [length_map, length_map] at more
    have bounds := fresh.sized
    rw [same] at put bounds
    obtain ⟨last, done, whole⟩ := ih (fun row listed => each row (mem_cons_of_mem _ listed)) (.cons filled put)
      (forall_mem_cons.mpr ⟨bounds, sized⟩) kept (by dsimp only at more; omega)
    refine ⟨last, ?_, ?_⟩
    · rw [refilled, found]
      exact done
    · rw [map_cons, reverse_cons, append_assoc]
      exact whole

end

end TradeOff

end Styller
