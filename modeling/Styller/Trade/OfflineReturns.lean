import Styller.Trade.OfflineContents

/-! Which goods of `!tradeoff` come back as they were. -/

namespace Styller

open Library List

/-- What a thing is renamed to is not renamed again. -/
theorem renamedItem_once {type renamed : Nat} (found : renamedItem type = some renamed) : renamedItem renamed = none := by
  unfold renamedItem at found
  split_ifs at found <;> cases found <;> (unfold renamedItem; split_ifs <;> first | rfl | omega)

namespace TradeOff

section
variable {items : ItemTypes} {normalRandom : Nat → Nat → Int} {row : Content} {item other made otherMade : Item}

theorem remade_kept (indexed : items.Indexed) (found : remade items normalRandom row = some made) : Item.Keeps items made.id := by
  have id := (remade_id indexed found).2
  cases own : (items.get row.id).ownClass with
  | true =>
    rw [own, if_pos rfl] at id
    rw [id]
    exact .inl own
  | false =>
    rw [own, if_neg Bool.false_ne_true] at id
    cases renamed : renamedItem row.id with
    | none =>
      rw [renamed, Option.getD_none] at id
      rw [id]
      exact .inr renamed
    | some other =>
      rw [renamed, Option.getD_some] at id
      rw [id]
      exact .inr (renamedItem_once renamed)

theorem getDuration_made (sized : row.Sized) (attr : ∀ type, item.attr? type = madeAttr items normalRandom row type) :
    item.getDuration = lasting items normalRandom row := by
  refine getDuration_of_attr? (lasting_lt sized) ?_
  rw [attr, madeAttr]

theorem lasting_columns (lasts : item.getDuration ≠ 0) : lasting items normalRandom (columns item) = item.getDuration :=
  if_pos (Nat.pos_of_ne_zero lasts)

/-- Where a row has no stack, one of it is asked for if the item is single. -/
theorem asked_columns (count : item.count = 1) : asked (columns item) = 1 := by
  change (if item.getDuration > 0 ∨ item.getCharges > 0 then 1 else item.count) = 1
  rw [count]
  exact ite_self _

theorem madeCount_plain (plain : (items.get row.id).stackable = false) : madeCount items row = 1 :=
  if_neg (ne_true_of_eq_false plain)

theorem madeCount_pos (row : Content) : 0 < madeCount items row := by
  unfold madeCount
  split
  case isTrue => exact Nat.lt_of_lt_of_le Nat.one_pos (Nat.le_max_left _ _)
  case isFalse => exact Nat.one_pos

theorem madeCount_lasting (lasts : 0 < row.duration) : madeCount items row = 1 := by
  have one : asked row = 1 := if_pos (.inl lasts)
  rw [madeCount, one]
  split
  case isTrue => omega
  case isFalse => rfl

theorem getCharges_made (sized : row.Sized) (attr : ∀ type, item.attr? type = madeAttr items normalRandom row type)
    (ends : row.duration = 0) (charged : 0 < row.charges) : item.getCharges = row.charges := by
  have found : item.attr? .charges = some (.integer row.charges) := by
    rw [attr, madeAttr, if_pos ⟨ends, charged⟩]
  have small := sized.1
  rw [Item.getCharges, Item.getIntAttr_of_attr? found]
  unfold toUInt16
  omega

/-- Where two items are made of the rows of one another, they are made of their own rows as well. -/
theorem mark_of_pair (indexed : items.Indexed) (keeps : Item.Keeps items item.id) (otherKeeps : Item.Keeps items other.id)
    (found : remade items normalRandom (columns item) = some made)
    (otherFound : remade items normalRandom (columns other) = some otherMade)
    (here : (pile items item).1 = (pile items (begins otherMade)).1) (there : (pile items other).1 = (pile items (begins made)).1) :
    (pile items (begins made)).1 = (pile items item).1 := by
  obtain ⟨id, count, attributes⟩ := @begins_some items normalRandom (columns item) made indexed keeps (columns_sized item) found
  obtain ⟨otherId, otherCount, otherAttributes⟩ := @begins_some items normalRandom (columns other) otherMade indexed otherKeeps
    (columns_sized other) otherFound
  obtain ⟨alike, single⟩ := mark_eq_iff.mp here
  obtain ⟨otherAlike, otherSingle⟩ := mark_eq_iff.mp there
  have same : item.id = other.id := alike.1.trans otherId
  have attr : ∀ type, item.attr? type = madeAttr items normalRandom (columns other) type :=
    fun type => (alike.2 type).trans (otherAttributes type)
  have otherAttr : ∀ type, other.attr? type = madeAttr items normalRandom (columns item) type :=
    fun type => (otherAlike.2 type).trans (attributes type)
  have long := getDuration_made (columns_sized other) attr
  have otherLong := getDuration_made (columns_sized item) otherAttr
  have duration : item.getDuration = other.getDuration := by
    by_cases ends : item.getDuration = 0
    · by_contra differ
      rw [lasting_columns fun none => differ (ends.trans none.symm)] at long
      exact differ long
    · rw [lasting_columns ends] at otherLong
      exact otherLong.symm
  have charges : item.getDuration = 0 → item.getCharges = other.getCharges := by
    intro ends
    rcases Nat.eq_zero_or_pos item.getCharges with none | charged
    · rcases Nat.eq_zero_or_pos other.getCharges with otherNone | otherCharged
      · rw [none, otherNone]
      · exact getCharges_made (columns_sized other) attr (duration.symm.trans ends) otherCharged
    · exact (getCharges_made (columns_sized item) otherAttr ends charged).symm
  have one : (items.get item.id).stackable = false → item.count = 1 ∧ other.count = 1 := by
    intro plain
    have none : ∀ held : Item, held.id = item.id → merges items held = false := by
      intro held kind
      rw [merges, Item.isStackable, kind, plain]
      rfl
    rw [single (none item rfl), otherSingle (none other same.symm), count, otherCount]
    have otherPlain : (items.get other.id).stackable = false := same ▸ plain
    exact ⟨madeCount_plain otherPlain, madeCount_plain plain⟩
  have given := given_irrelevant (@Item.stackable_dry items item.id) fun plain => asked_columns (one plain).1
  have otherGiven := given_irrelevant (@Item.stackable_dry items item.id) fun plain => asked_columns (one plain).2
  have alike : Alike (begins made) item := by
    refine ⟨id, fun type => ?_⟩
    rw [attributes, attr]
    cases type with
    | duration | decayState => rw [madeAttr, madeAttr, ← long, ← otherLong, duration]
    | charges =>
      rw [madeAttr, madeAttr]
      change (if item.getDuration = 0 ∧ 0 < item.getCharges then some (AttrValue.integer item.getCharges)
        else (items.get item.id).newCharges (Item.given (items.get item.id) (asked (columns item)))) =
        if other.getDuration = 0 ∧ 0 < other.getCharges then some (AttrValue.integer other.getCharges)
        else (items.get other.id).newCharges (Item.given (items.get other.id) (asked (columns other)))
      rw [← same, given.1, otherGiven.1, ← duration]
      by_cases ends : item.getDuration = 0
      · rw [charges ends]
      · have unset : ∀ charges, ¬ (item.getDuration = 0 ∧ 0 < charges) := fun _ both => ends both.1
        rw [if_neg (unset _), if_neg (unset _)]
    | fluidType =>
      rw [madeAttr, madeAttr]
      change (if (items.get item.id).isFluid = true then
          some (AttrValue.integer (Item.given (items.get item.id) (asked (columns item)))) else none) =
        if (items.get other.id).isFluid = true then
          some (AttrValue.integer (Item.given (items.get other.id) (asked (columns other)))) else none
      rw [← same, given.2, otherGiven.2]
    | _ => rfl
  refine mark_eq_iff.mpr ⟨alike, fun plain => ?_⟩
  have plain := (merges_congr alike).symm.trans plain
  rw [count, single plain, otherCount]
  cases stackable : (items.get item.id).stackable with
  | false =>
    have otherStackable : (items.get other.id).stackable = false := same ▸ stackable
    rw [@madeCount_plain items (columns item) stackable, @madeCount_plain items (columns other) otherStackable]
  | true =>
    have lasts : 0 < item.getDuration := by
      refine Nat.pos_of_ne_zero fun ends => ?_
      rw [merges, Item.isStackable, stackable, ends] at plain
      cases plain
    have otherLasts : 0 < other.getDuration := duration ▸ lasts
    rw [@madeCount_lasting items (columns item) lasts, @madeCount_lasting items (columns other) otherLasts]

end

/-! Contents that come back. -/

/-- The contents of a container that come back: each item is restorable and is taken, there is room for all, what the items are
reads the same from the last to the first, and of stacks of one kind all but the first are full. -/
structure RestorableContents (items : ItemTypes) (capacity : Nat) (contents : List Item) : Prop where
  each : ∀ item ∈ contents, Restorable items item
  taken : ∀ item ∈ contents, item.isPickupable items = true ∧
    (item.isStackable items = true → 0 < (items.get item.id).stackSize)
  room : contents.length ≤ capacity
  mirrored : (contents.map look).reverse = contents.map look
  levelled : contents.Pairwise fun front back => merges items front = true → Alike front back →
    back.count = (items.get back.id).stackSize

section
variable {items : ItemTypes} {capacity drawn : Nat} {contents : List Item} {shelf : Shelf} {item other : Item}

theorem same_iff : Same items item other ↔ pile items item = pile items other := by
  rw [pile_eq_iff]
  exact ⟨fun same => ⟨⟨same.id, same.attributes⟩, same.count⟩, fun both => .of_alike both.1 both.2⟩

theorem forall_same_iff {found : List Item} :
    List.Forall₂ (Same items) found contents ↔ found.map (pile items) = contents.map (pile items) := by
  rw [← List.forall₂_eq_eq_eq, List.forall₂_map_left_iff, List.forall₂_map_right_iff]
  exact ⟨fun same => same.imp fun _ _ => same_iff.mp, fun same => same.imp fun _ _ => same_iff.mpr⟩

theorem Restorable.single (restorable : Restorable items item) (plain : merges items item = false) : item.count = 1 := by
  rw [restorable.count]
  cases stackable : (items.get item.id).stackable with
  | false => rfl
  | true =>
    have lasts : item.getDuration > 0 := by
      refine Nat.pos_of_ne_zero fun ends => ?_
      rw [merges, Item.isStackable, stackable, ends] at plain
      cases plain
    rw [if_pos rfl, if_pos (.inl lasts)]
    omega

theorem Restorable.count_pos (restorable : Restorable items item) : 0 < item.count := by
  rw [restorable.count]
  split
  case isTrue => exact Nat.lt_of_lt_of_le Nat.one_pos (Nat.le_max_left _ _)
  case isFalse => exact Nat.one_pos

theorem Restorable.count_le (restorable : Restorable items item) (stackable : item.isStackable items = true)
    (size : 0 < (items.get item.id).stackSize) : item.count ≤ (items.get item.id).stackSize := by
  have stack : (items.get item.id).stackable = true := stackable
  have count := restorable.count
  rw [if_pos stack] at count
  omega

theorem Restorable.mark (restorable : Restorable items item) :
    (pile items item).1 = (look item, if stacked items (look item) then 0 else 1) := by
  rw [stacked_look]
  cases plain : merges items item with
  | true => rw [pile_of_merges plain, if_pos rfl]
  | false => rw [pile_of_single plain, restorable.single plain, if_neg Bool.false_ne_true]

theorem RestorableContents.mark_eq (restorable : RestorableContents items capacity contents) :
    (contents.map (pile items)).map Prod.fst =
      (contents.map look).map fun kind => (kind, if stacked items kind then 0 else 1) := by
  rw [map_map, map_map]
  exact map_congr_left fun item listed => (restorable.each item listed).mark

theorem Restorable.makes (indexed : items.Indexed) (restorable : Restorable items item)
    (taken : item.isStackable items = true → 0 < (items.get item.id).stackSize) (normalRandom : Nat → Nat → Int) :
    ∃ made, remade items normalRandom (columns item) = some made ∧ Fresh items made ∧ made.id = item.id ∧
      pile items (begins made) = pile items item := by
  obtain ⟨made, found, alike, count⟩ := restorable.comes_back indexed (columns_reads items item) normalRandom
  refine ⟨made, found, ?_, (begins_id made).symm.trans alike.1, pile_eq_iff.mpr ⟨alike, count⟩⟩
  exact @remade_fresh items made (columns item) normalRandom indexed restorable.keeps (columns_sized item)
    (fun ends _ => restorable.timeless ends) taken found

theorem RestorableContents.piles_levelled (restorable : RestorableContents items capacity contents) :
    Piles.Levelled (pileSize items) (contents.map (pile items)) := by
  rw [Piles.Levelled, pairwise_map]
  refine restorable.levelled.imp_of_mem fun {front back} _ listed full same => ?_
  obtain ⟨alike, _⟩ := mark_eq_iff.mp same
  have kind : merges items front = merges items back := merges_congr alike
  rw [pileSize_pile]
  cases plain : merges items back with
  | true =>
    have size := (restorable.taken back listed).2 (Bool.and_eq_true_iff.mp plain).1
    rw [pile_of_merges plain, if_pos rfl, full (kind.trans plain) alike]
    dsimp only
    omega
  | false => rw [pile_of_single plain, if_neg Bool.false_ne_true]

variable (items) in
def madePile (draws : Draws) (row : Content) : Mark × Nat := pile items (begins ((remade items (draws.draw 0) row).getD default))

theorem RestorableContents.come_back (indexed : items.Indexed) (restorable : RestorableContents items capacity contents)
    (draws : Draws) (drawn : Nat) : ∃ shelf, refilled items draws capacity (contents.map columns) { made := drawn } = some shelf ∧
      List.Forall₂ (Same items) shelf.contents contents := by
  have makes : ∀ item ∈ contents, ∀ n, ∃ made, remade items (draws.draw n) (columns item) = some made ∧ Fresh items made ∧
      made.id = item.id ∧ pile items (begins made) = pile items item := fun item listed n =>
    (restorable.each item listed).makes indexed (restorable.taken item listed).2 (draws.draw n)
  have first : ∀ item ∈ contents, madePile items draws (columns item) = pile items item := by
    intro item listed
    obtain ⟨made, found, _, _, same⟩ := makes item listed 0
    rw [madePile, found]
    exact same
  have sized : Piles.Sized (pileSize items) (contents.map (pile items)) := by
    intro held listed
    obtain ⟨item, member, rfl⟩ := mem_map.mp listed
    obtain ⟨made, _, fresh, _, same⟩ := makes item member 0
    exact same ▸ fresh.sized
  obtain ⟨shelf, done, filled⟩ := @refilled_filled items draws capacity { made := drawn } (contents.map columns)
    (madePile items draws) (by
      intro row listed n
      obtain ⟨item, member, rfl⟩ := mem_map.mp listed
      obtain ⟨made, found, fresh, id, same⟩ := makes item member n
      refine ⟨made, found, fresh, ?_, same.trans (first item member).symm⟩
      rw [Item.isPickupable, id]
      exact (restorable.taken item member).1) [] .nil nofun nofun (by
      rw [length_map]
      exact Nat.le_trans (Nat.le_of_eq (Nat.zero_add _)) restorable.room)
  refine ⟨shelf, done, forall_same_iff.mpr ?_⟩
  have brought : (contents.map columns).map (madePile items draws) = contents.map (pile items) := by
    rw [map_map]
    exact map_congr_left first
  rw [append_nil, brought] at filled
  refine filled.restores restorable.piles_levelled sized ?_
  rw [restorable.mark_eq, ← map_reverse, restorable.mirrored]

/-- The longest durations. -/
def Draws.longest : Draws where
  draw := fun _ _ maxNumber => maxNumber
  within := fun _ _ _ less => ⟨Int.ofNat_le.mpr less, Int.le_refl _⟩

theorem longest_chance (timed : items.Timed) (id n : Nat)
    (none : (items.get id).defaultDuration (Draws.longest.draw n) = 0) : (items.get id).Timeless := by
  obtain ⟨least, most⟩ := timed id
  unfold ItemType.defaultDuration at none
  rw [Nat.mod_eq_of_lt least, Nat.mod_eq_of_lt most] at none
  split at none
  case isTrue some =>
    change toUInt32 (((items.get id).decayTimeMax * 1000 : Nat) : Int) = 0 at none
    unfold toUInt32 at none
    omega
  case isFalse zero => exact ⟨by omega, by omega⟩

/-- Lists of which one is the other from the last to the first: each place has one that faces it. -/
theorem facing {α β : Type} {contents : List α} {here there : α → β} (mirrored : contents.map here = (contents.map there).reverse)
    {item : α} (listed : item ∈ contents) : ∃ other ∈ contents, here item = there other ∧ here other = there item := by
  obtain ⟨place, small, rfl⟩ := mem_iff_getElem.mp listed
  have back : contents.length - 1 - place < contents.length := by omega
  have at_place : ∀ (place : Nat) (small : place < contents.length) (back : contents.length - 1 - place < contents.length),
      here contents[place] = there contents[contents.length - 1 - place] := by
    intro place small back
    have both := congrArg (fun list : List β => list[place]?) mirrored
    rw [getElem?_eq_getElem (by rwa [length_map]), getElem?_eq_getElem (by
      rwa [length_reverse, length_map])] at both
    simpa using both
  refine ⟨contents[contents.length - 1 - place], getElem_mem back, at_place place small back, ?_⟩
  have place_back : contents.length - 1 - (contents.length - 1 - place) = place := by omega
  have other := at_place _ back (by omega)
  simp only [place_back] at other
  exact other

section
variable (indexed : items.Indexed) (timed : items.Timed)
  (done : refilled items Draws.longest capacity (contents.map columns) { made := drawn } = some shelf)
  (same : List.Forall₂ (Same items) shelf.contents contents)
include indexed timed done same

theorem fresh_of_come_back : ∀ item ∈ contents, Item.Keeps items item.id ∧ ∃ made,
    remade items (Draws.longest.draw 0) (columns item) = some made ∧ made.isPickupable items = true ∧ Fresh items made ∧
      made.id = item.id ∧ made.count = madeCount items (columns item) := by
  obtain ⟨_, _, ids, taken⟩ := refilled_bounds done
  have all : shelf.contents.length = 0 + (contents.map columns).length := by
    rw [same.length_eq, length_map, Nat.zero_add]
  intro item listed
  obtain ⟨_, made, found, takes, size⟩ := taken all _ (mem_map_of_mem listed)
  have keeps : Item.Keeps items item.id := by
    have sameIds : shelf.contents.map Item.id = contents.map Item.id := by
      rw [← List.forall₂_eq_eq_eq, List.forall₂_map_left_iff, List.forall₂_map_right_iff]
      exact same.imp fun _ _ => Same.id
    rcases ids item.id (sameIds ▸ mem_map_of_mem listed) with nowhere | ⟨row, _, n, made, found, own⟩
    · cases nowhere
    · exact own ▸ remade_kept indexed found
  obtain ⟨id, _, count, _⟩ := @remade_some items _ (columns item) made indexed keeps (columns_sized item) found
  refine ⟨keeps, made, found, takes, ?_, id, count⟩
  refine @remade_fresh items made (columns item) _ indexed keeps (columns_sized item)
    (fun _ => longest_chance timed item.id 0) (fun stackable => ?_) found
  have more : 0 < made.count := count ▸ madeCount_pos _
  have own := size (by rw [Item.isStackable, id]; exact stackable) more
  rwa [id] at own

theorem filled_of_come_back :
    Piles.Filled (pileSize items) ((contents.map columns).map (madePile items Draws.longest)).reverse (contents.map (pile items)) ∧
      Piles.Sized (pileSize items) ((contents.map columns).map (madePile items Draws.longest)).reverse ∧
      contents.length ≤ capacity := by
  have fresh := fresh_of_come_back indexed timed done same
  have most : contents.length ≤ capacity := by
    rw [← same.length_eq]
    exact (refilled_bounds done).2.1 (Nat.zero_le _)
  obtain ⟨again, filled⟩ := @refilled_filled items Draws.longest capacity { made := drawn } (contents.map columns)
    (madePile items Draws.longest) (by
      intro row listed n
      obtain ⟨item, member, rfl⟩ := mem_map.mp listed
      obtain ⟨_, made, found, takes, fresh, _⟩ := fresh item member
      refine ⟨made, found, fresh, takes, ?_⟩
      rw [madePile, found]
      rfl) [] .nil nofun nofun (by
      rw [length_map]
      exact Nat.le_trans (Nat.le_of_eq (Nat.zero_add _)) most)
  cases done.symm.trans filled.1
  have piles := filled.2
  rw [forall_same_iff.mp same, append_nil] at piles
  refine ⟨piles, fun held listed => ?_, most⟩
  rw [mem_reverse, map_map] at listed
  obtain ⟨item, member, rfl⟩ := mem_map.mp listed
  obtain ⟨_, made, found, _, fresh, _⟩ := fresh item member
  rw [Function.comp_apply, madePile, found]
  exact fresh.sized

/-- Each item is made of the row of the one that faces it, so both are made of their own. -/
theorem mark_of_come_back : ∀ item ∈ contents, (madePile items Draws.longest (columns item)).1 = (pile items item).1 := by
  have fresh := fresh_of_come_back indexed timed done same
  have kinds := (filled_of_come_back indexed timed done same).1.kinds (by simp)
  rw [map_reverse, map_map, map_map, map_map] at kinds
  intro item listed
  obtain ⟨other, member, here, there⟩ := facing kinds listed
  obtain ⟨keeps, made, found, _⟩ := fresh item listed
  obtain ⟨otherKeeps, otherMade, otherFound, _⟩ := fresh other member
  simp only [Function.comp_apply, madePile, found, otherFound, Option.getD_some] at here there ⊢
  exact mark_of_pair indexed keeps otherKeeps found otherFound here there

/-- A row never makes more than there was, and altogether it is as much. -/
theorem pile_of_come_back : ∀ item ∈ contents, madePile items Draws.longest (columns item) = pile items item := by
  have fresh := fresh_of_come_back indexed timed done same
  obtain ⟨filled, sized, _⟩ := filled_of_come_back indexed timed done same
  have marks := mark_of_come_back indexed timed done same
  have less : ∀ item ∈ contents, (madePile items Draws.longest (columns item)).2 ≤ (pile items item).2 := by
    intro item listed
    obtain ⟨_, made, found, _, _, _, count⟩ := fresh item listed
    have mark := marks item listed
    have some := ((filled.kept sized).2 _ (mem_map_of_mem listed)).1
    rw [madePile, found, Option.getD_some] at mark ⊢
    have kind : merges items (begins made) = merges items item := merges_congr (mark_eq_iff.mp mark).1
    cases stack : merges items item with
    | false => rw [pile_of_single stack, pile_of_single (kind.trans stack)]
    | true =>
      rw [pile_of_merges stack] at some ⊢
      rw [pile_of_merges (kind.trans stack), begins_count, count, madeCount]
      have many : asked (columns item) ≤ item.count := by
        unfold asked
        split
        case isTrue => exact some
        case isFalse => exact Nat.le_refl _
      dsimp only at some ⊢
      split <;> omega
  have counts : contents.map (fun item => (madePile items Draws.longest (columns item)).2) =
      contents.map fun item => (pile items item).2 := by
    refine Piles.eq_of_sum_eq ?_ ?_
    · exact List.forall₂_map_left_iff.mpr (List.forall₂_map_right_iff.mpr (List.forall₂_same.mpr less))
    · have sum := filled.sum
      rw [map_reverse, sum_reverse, map_map, map_map, map_map] at sum
      exact sum.symm
  exact fun item listed => Prod.ext (marks item listed) (map_inj_left.mp counts item listed)

theorem restorable_of_come_back : RestorableContents items capacity contents := by
  have fresh := fresh_of_come_back indexed timed done same
  obtain ⟨filled, sized, most⟩ := filled_of_come_back indexed timed done same
  have piles := pile_of_come_back indexed timed done same
  obtain ⟨levelled, small⟩ := filled.kept sized
  have taken : ∀ item ∈ contents, item.isPickupable items = true ∧
      (item.isStackable items = true → 0 < (items.get item.id).stackSize) := by
    intro item listed
    obtain ⟨_, made, found, takes, fresh, id, _⟩ := fresh item listed
    rw [Item.isPickupable, id] at takes
    refine ⟨takes, fun stackable => ?_⟩
    rw [Item.isStackable, ← id] at stackable
    have size := fresh.count stackable
    rw [id] at size
    omega
  refine ⟨fun item listed => ?_, taken, most, ?_, ?_⟩
  · obtain ⟨_, made, found, _⟩ := fresh item listed
    have pile := piles item listed
    rw [madePile, found] at pile
    obtain ⟨alike, count⟩ := pile_eq_iff.mp pile
    exact restorable_of_alike indexed (columns_reads items item) (longest_chance timed item.id 0) found alike count
  · have brought : (contents.map columns).map (madePile items Draws.longest) = contents.map (pile items) := by
      rw [map_map]
      exact map_congr_left piles
    have looks := congrArg (List.map Prod.fst) (filled.kinds (by simp))
    rw [brought, map_reverse, map_reverse, map_map, map_map] at looks
    have look : contents.map ((Prod.fst ∘ Prod.fst) ∘ pile items) = contents.map look :=
      map_congr_left fun item _ => mark_look item
    rw [look] at looks
    exact looks.symm
  · rw [Piles.Levelled, pairwise_map] at levelled
    refine levelled.imp_of_mem fun {front back} _ listed full stack alike => ?_
    have kind : merges items front = merges items back := merges_congr alike
    have held := full (mark_eq_iff.mpr ⟨alike, fun single => absurd (single.symm.trans stack) Bool.false_ne_true⟩)
    have size := (taken back listed).2 (Bool.and_eq_true_iff.mp (kind.symm.trans stack)).1
    rw [pileSize_pile, ← kind, stack, if_pos rfl, pile_of_merges (kind.symm.trans stack)] at held
    dsimp only at held
    omega

end

end

/-! Goods that come back. -/

def capacityOf (it : ItemType) : Nat := if it.isDepot then 30 else it.maxItems

/-- The goods that come back: the item is restorable, a parcel takes it, and if it is a container, what is in it comes back. -/
structure RestorableGoods (items : ItemTypes) (goods : Rose Item) : Prop where
  item : Restorable items goods.value
  parcel : 0 < (items.get itemParcel).maxItems ∧
    (goods.value.isStackable items = true → 0 < (items.get goods.value.id).stackSize)
  contents : if (items.get goods.value.id).isContainer then
    RestorableContents items (capacityOf (items.get goods.value.id)) (goods.children.map Rose.value)
    else goods.children = []

section
variable {items : ItemTypes} {config : Config} {isCorpse : Nat → Bool} {draws : Draws} {goods : Rose Item}
  {rows : Content × List Content} {item made : Item} {row : Content} {normalRandom : Nat → Nat → Int}

theorem stored_some (accepts : stored config items isCorpse goods = some rows) :
    goods.value.isPickupable items = true ∧ rows.1 = offeredColumns items goods.value ∧
      rows.2 = if (items.get goods.value.id).isContainer then (goods.children.map Rose.value).map columns else [] := by
  unfold stored at accepts
  dsimp only at accepts
  split at accepts
  case isTrue => cases accepts
  case isFalse passes =>
    have pickupable : goods.value.isPickupable items = true :=
      eq_true_of_ne_false fun fixed => passes (.inr (.inl fixed))
    split at accepts
    case isTrue container =>
      obtain ⟨inside, reads, rfl⟩ := Option.map_eq_some_iff.mp accepts
      refine ⟨pickupable, rfl, ?_⟩
      rw [if_pos container]
      unfold retornarItemsdoContainer at reads
      split at reads
      case isTrue => cases reads
      case isFalse =>
        split at reads
        case isTrue => cases reads
        case isFalse =>
          rw [map_map]
          exact (Option.some.inj reads).symm
    case isFalse plain =>
      cases accepts
      rw [if_neg plain]
      exact ⟨pickupable, rfl, rfl⟩

theorem remade_maxSize (container : (items.get row.id).isContainer = true) (found : remade items normalRandom row = some made) :
    made.maxSize = capacityOf (items.get row.id) := by
  have created : ∀ {count item}, gameCreateItem items normalRandom row.id count = some item →
      item.maxSize = capacityOf (items.get row.id) := by
    intro count item creates
    obtain ⟨kept, known⟩ := Item.createItem_exists creates
    simp only [gameCreateItem, Item.createItem, if_neg kept, if_neg known, container, if_true] at creates
    unfold capacityOf
    split at creates
    case isTrue depot =>
      rw [← Option.some.inj creates, if_pos depot]
    case isFalse noDepot =>
      rw [← Option.some.inj creates, if_neg noDepot]
  unfold remade at found
  split at found
  case isTrue =>
    obtain ⟨item, creates, rfl⟩ := Option.map_eq_some_iff.mp found
    have size := created creates
    exact size
  case isFalse =>
    split at found
    case isTrue =>
      obtain ⟨item, creates, rfl⟩ := Option.map_eq_some_iff.mp found
      have size := created creates
      exact size
    case isFalse => exact created found

/-- What a new container takes lies in it alone. -/
theorem addItemEx_empty (items : ItemTypes) (draws : Draws) (capacity fuel drawn : Nat) (item : Item) :
    (addItemEx items draws capacity (fuel + 1) { made := drawn } item).contents =
      if item.isPickupable items = true ∧ roomFor items capacity [] item = true ∧ 0 < capacity then [begins item] else [] := by
  unfold addItemEx
  by_cases takes : item.isPickupable items = true
  · by_cases fits : roomFor items capacity [] item = true
    · by_cases space : 0 < capacity
      · simp [takes, fits, space, Nat.ne_of_gt space]
      · simp [takes, Nat.eq_zero_of_not_pos space]
    · simp [takes, fits]
  · simp [takes]

/-- What is made again of the rows of goods, step by step. -/
theorem rebuilt_some {sent : Item} {contents : List Item} (done : rebuilt items draws rows = some (sent, contents)) :
    ∃ made shelf, remade items (draws.draw 0) rows.1 = some made ∧
      (if (items.get rows.1.id).isContainer then refilled items draws made.maxSize rows.2 { made := 1 } else some { made := 1 }) =
        some shelf ∧ made.isPickupable items = true ∧ roomFor items (items.get itemParcel).maxItems [] made = true ∧
      0 < (items.get itemParcel).maxItems ∧ sent = begins made ∧ contents = shelf.contents := by
  unfold rebuilt at done
  split at done
  case h_1 => cases done
  case h_2 made found =>
    dsimp only at done
    split at done
    case h_1 => cases done
    case h_2 shelf inside =>
      rw [addItemEx_empty] at done
      split at done
      case h_1 => cases done
      case h_2 first rest lies =>
        split at lies
        case isTrue takes =>
          cases lies
          cases done
          exact ⟨made, shelf, found, inside, takes.1, takes.2.1, takes.2.2, rfl, rfl⟩
        case isFalse => cases lies

theorem roomFor_empty {capacity : Nat} (space : 0 < capacity) (small : item.isStackable items = true →
    item.count ≤ (items.get item.id).stackSize) : roomFor items capacity [] item = true :=
  @roomFor_free items capacity {} item space small

end

theorem restorable_plain {items : ItemTypes} {item : Item} (bare : item.attributes = none) (one : item.count = 1)
    (known : (items.get item.id).Exists) (keeps : Item.Keeps items item.id) (single : (items.get item.id).stackable = false)
    (dry : (items.get item.id).isFluid = false) (uncharged : (items.get item.id).charges = 0)
    (timeless : (items.get item.id).Timeless) : Restorable items item := by
  have none : ∀ type, item.attr? type = none := Item.attr?_of_none bare
  have ends : item.getDuration = 0 := by rw [Item.getDuration, Item.getIntAttr_of_none (none _)]; rfl
  have empty : ¬ (item.getDuration = 0 ∧ 0 < item.getCharges) := by
    rw [Item.getCharges, Item.getIntAttr_of_none (none _)]
    exact fun both => Nat.lt_irrefl 0 both.2
  refine ⟨known, keeps, ?_, fun _ => timeless, ?_, ?_, ?_, ?_, fun type _ => none type⟩
  · rw [single, one]
    rfl
  · rw [none, ends]
    rfl
  · rw [none, ends]
    rfl
  · rw [none, if_neg empty, ItemType.newCharges, if_pos (.inr (.inr uncharged))]
  · rw [none, dry]
    rfl

def marketTypes : List ItemType :=
  [{ id := 1987, weight := 800, group := .container, type := .container, maxItems := 8, pickupable := true, moveable := true },
   { id := 2376, weight := 3500, weaponType := .sword, pickupable := true, moveable := true },
   { id := 2398, weight := 3800, weaponType := .club, pickupable := true, moveable := true },
   { id := 2595, weight := 1800, group := .container, type := .container, maxItems := 10, pickupable := true, moveable := true }]

def marketItems : ItemTypes := ItemTypes.ofList marketTypes [] (by decide) (by decide)

theorem marketItems_timed : marketItems.Timed := by
  intro id
  have all : ∀ it ∈ marketTypes, it.decayTimeMin * 1000 < 2 ^ 32 ∧ it.decayTimeMax * 1000 < 2 ^ 32 := by decide
  rcases ItemTypes.ofList_get marketTypes [] (by decide) (by decide) id with none | listed
  · unfold marketItems
    rw [none]
    decide
  · exact all _ listed

def bagWith (ids : List Nat) : Rose Item :=
  .node { id := 1987, kind := .container, maxSize := 8 } (ids.map fun id => .node { id } [])

def bagRows (ids : List Nat) : Content × List Content := (⟨1987, 1, 0, 0⟩, ids.map fun id => ⟨id, 1, 0, 0⟩)

def openMarket : Config := ⟨0, 5, 1000, [], 10, [], 7⟩

end TradeOff

end Styller
