import Styller.Item.Clone
import Styller.Item.RoundTrip
import Styller.Trade.TradeOffline

/-! The goods of `!tradeoff`: which columns are stored of an item and of what is in it, and what is made of them again. -/

namespace Styller

open Library Option

namespace TradeOff

def itemParcel : Nat := 2595

/-- The durations that `normal_random` draws, one after the other. -/
structure Draws where
  draw : Nat → Nat → Nat → Int
  within : ∀ (n minNumber maxNumber : Nat), minNumber ≤ maxNumber →
    (minNumber : Int) ≤ draw n minNumber maxNumber ∧ draw n minNumber maxNumber ≤ maxNumber

section
variable (config : Config) (items : ItemTypes) (isCorpse : Nat → Bool)

/-- The columns of an item inside a container. -/
def columns (item : Item) : Content where
  id := item.id
  count := item.count
  charges := item.getCharges
  duration := item.getDuration

def offeredColumns (item : Item) : Content :=
  { columns item with count := if item.isStackable items then item.count else 1 }

def retornarItemsdoContainer (goods : Rose Item) : Option (List Content) :=
  if ¬ goods.value.isContainer then none
  else if goods.children.any fun child =>
    child.value.isContainer && !child.children.isEmpty || decide (child.value.id ∈ config.blockedItems) then none
  else some (goods.children.map fun child => columns child.value)

/-- The rows that `!tradeoff add` stores, if it accepts the item in the slot. -/
def stored (goods : Rose Item) : Option (Content × List Content) :=
  let itemType := items.get goods.value.id
  if goods.value.id = 0 ∨ itemType.pickupable = false ∨ isCorpse goods.value.id ∨ goods.value.id ∈ config.blockedItems then none
  else if itemType.isContainer then
    (retornarItemsdoContainer config goods).map fun inside => (offeredColumns items goods.value, inside)
  else some (offeredColumns items goods.value, [])

section
variable (normalRandom : Nat → Nat → Int)

def gameCreateItem (id count : Nat) : Option Item :=
  Item.createItem items normalRandom id (if (items.get id).stackable then min count (items.get id).stackSize else count)

/-- The item of a row. The branches of `!tradeoff remove`, of `!tradeoff buy` and of `onLogin` make it alike. -/
def remade (row : Content) : Option Item :=
  if row.duration > 0 then
    (gameCreateItem items normalRandom row.id 1).map (·.setIntAttr .duration (toInt32 row.duration))
  else if row.charges > 0 then
    (gameCreateItem items normalRandom row.id 1).map (·.setIntAttr .charges (toInt32 row.charges))
  else gameCreateItem items normalRandom row.id row.count

/-- `Item::clone` of an item without custom attributes, with another count. -/
def remainder (item : Item) (count : Nat) : Option Item :=
  (Item.createItem items normalRandom item.id item.count).map fun copy =>
    let copy := match item.attributes with
      | none => copy
      | some attributes =>
        let copy := { copy with attributes := some attributes }
        if copy.getDuration > 0 then copy.setIntAttr .decayState 1 else copy
    copy.setItemCount count

end

/-- What `internalAddItem` does at last: an item with a duration begins to decay. -/
def begins (item : Item) : Item := if item.getDuration > 0 then item.setIntAttr .decayState 1 else item

/-- `listItem` is suitable to stack `item` with. -/
def suits (item listItem : Item) : Bool :=
  item.isStackable items && listItem.equals (some item) && decide (listItem.count < listItem.getStackSize items)

/-- `Container::queryMaxCount` has room for an item. -/
def roomFor (capacity : Nat) (contents : List Item) (item : Item) : Bool :=
  let freeSlots := capacity - contents.length
  if item.isStackable items then
    let n := (contents.map fun listItem => if suits items item listItem then listItem.getStackSize items - listItem.count else 0).sum
    item.count ≤ freeSlots * item.getStackSize items + n
  else 0 < freeSlots

/-- What is in a container that lies nowhere, the first item in front, and how many durations were drawn. -/
structure Shelf where
  contents : List Item := []
  made : Nat := 0

variable (draws : Draws)

/-- `Container:addItemEx` of a container that lies nowhere; `fuel` bounds how often a remainder is added. -/
def addItemEx (capacity : Nat) : Nat → Shelf → Item → Shelf
  | 0, shelf, _ => shelf
  | fuel + 1, shelf, item =>
    if ¬ item.isPickupable items then shelf
    else if ¬ roomFor items capacity shelf.contents item then shelf
    else match shelf.contents.dropWhile fun listItem => !suits items item listItem with
      | [] =>
        if shelf.contents.length ≥ capacity then shelf
        else { shelf with contents := begins item :: shelf.contents }
      | toItem :: behind =>
        let n := min (toItem.getStackSize items - toItem.count) item.count
        let updated := (toItem.setID items (draws.draw shelf.made) toItem.id).setSubType items (toItem.count + n)
        let merged : Shelf :=
          { contents := (shelf.contents.takeWhile fun listItem => !suits items item listItem) ++ updated :: behind
            made := shelf.made + 2 }
        if item.count - n > 0 then
          match remainder items (draws.draw (shelf.made + 1)) item (item.count - n) with
          | none => merged
          | some rest => addItemEx capacity fuel merged rest
        else merged

/-- The loop over the rows of `trade_off_container_items`. To set an attribute of `nil` is an error, and nothing more is done. -/
def refilled (capacity : Nat) : List Content → Shelf → Option Shelf
  | [], shelf => some shelf
  | row :: later, shelf =>
    let next := { shelf with made := shelf.made + 1 }
    match remade items (draws.draw shelf.made) row with
    | none => if row.duration > 0 ∨ row.charges > 0 then none else refilled capacity later next
    | some item => refilled capacity later (addItemEx items draws capacity (item.count + 1) next item)

/-- The item that comes to lie in the parcel, and what is in it. -/
def rebuilt (rows : Content × List Content) : Option (Item × List Item) :=
  match remade items (draws.draw 0) rows.1 with
  | none => none
  | some item =>
    let inside := if (items.get rows.1.id).isContainer then refilled items draws item.maxSize rows.2 { made := 1 }
      else some { made := 1 }
    match inside with
    | none => none
    | some shelf =>
      match (addItemEx items draws (items.get itemParcel).maxItems (item.count + 1) { made := shelf.made } item).contents with
      | [] => none
      | sent :: _ => some (sent, shelf.contents)

/-- Two items that nobody can tell apart. -/
structure Same (item other : Item) : Prop where
  id : item.id = other.id
  count : item.count = other.count
  subType : item.getSubType items = other.getSubType items
  charges : item.getCharges = other.getCharges
  duration : item.getDuration = other.getDuration
  attributes : ∀ type, item.attr? type = other.attr? type

/-- The goods come back as they were. -/
def Returns (goods : Rose Item) (rows : Content × List Content) : Prop :=
  ∃ item contents, rebuilt items draws rows = some (item, contents) ∧ Same items item goods.value ∧
    List.Forall₂ (Same items) contents (goods.children.map Rose.value)

end

/-! What is made of a row. -/

end TradeOff

/-- The type gives new items no duration. -/
def ItemType.Timeless (it : ItemType) : Prop := it.decayTimeMin = 0 ∧ it.decayTimeMax = 0

def ItemType.newCharges (it : ItemType) (given : Nat) : Option AttrValue :=
  if it.isFluid ∨ it.stackable ∨ it.charges = 0 then none
  else some (.integer (if given ≠ 0 then given else toUInt16 it.charges : Nat))

/-- Decay times that are short enough to be counted in milliseconds. -/
def ItemTypes.Timed (items : ItemTypes) : Prop :=
  ∀ id, (items.get id).decayTimeMin * 1000 < 2 ^ 32 ∧ (items.get id).decayTimeMax * 1000 < 2 ^ 32

namespace Item
variable {items : ItemTypes} {normalRandom : Nat → Nat → Int} {type count : Nat} {item : Item}

theorem defaultDuration_lt (it : ItemType) (normalRandom : Nat → Nat → Int) : it.defaultDuration normalRandom < 2 ^ 32 := by
  unfold ItemType.defaultDuration
  split
  case isTrue => unfold toUInt32; omega
  case isFalse => exact Nat.mod_lt _ (by decide)

theorem storedInt_of_ne {type : ItemAttrType} {value : Int} (other : type ≠ .attackSpeed) : storedInt type value = value :=
  if_neg fun both => other both.1

theorem toInt32_natCast {number : Nat} (small : number < 2 ^ 31) : toInt32 number = number := by
  unfold toInt32
  rw [Int.bmod_def]
  split <;> omega

theorem toUInt32_toInt32 {number : Nat} (small : number < 2 ^ 32) : toUInt32 (toInt32 number) = number := by
  unfold toUInt32 toInt32
  rw [Int.bmod_def]
  split <;> omega

theorem defaultDuration_timeless {it : ItemType} (timeless : it.Timeless) (normalRandom : Nat → Nat → Int) :
    it.defaultDuration normalRandom = 0 := by
  unfold ItemType.defaultDuration
  rw [timeless.1, timeless.2]
  rfl

theorem new_attr?_duration (items : ItemTypes) (normalRandom : Nat → Nat → Int) (type count : Nat) :
    (new items normalRandom type count).attr? .duration =
      if (items.get type).defaultDuration normalRandom = 0 then none
      else some (.integer (toInt32 ((items.get type).defaultDuration normalRandom))) := by
  split
  case isTrue zero => exact (new_duration items normalRandom type count).mpr zero
  case isFalse lasts =>
    obtain ⟨begun, made, same⟩ := new_begun items normalRandom type count
    have id : begun.id = type := by
      cases made with
      | fluid | stack | charged | bare => rfl
    rw [same, setDefaultDuration_eq, id, if_pos lasts, attr?_setIntAttr, if_pos rfl, @storedInt_of_ne .duration _ nofun]

def given (it : ItemType) (count : Nat) : Nat := if it.ownClass then 0 else if it.stackable ∧ count = 0 then 1 else count

theorem createItem_given (indexed : items.Indexed) (created : createItem items normalRandom type count = some item)
    (keeps : Keeps items type) : item.id = type ∧
      item.attributes = (new items normalRandom type (given (items.get type) count)).attributes ∧
      item.count = (new items normalRandom type (given (items.get type) count)).count := by
  refine ⟨(createItem_keeps indexed created).mpr keeps, ?_⟩
  have own := (indexed type).resolve_left (createItem_exists created).2
  cases createItem_created created with
  | plain noClass =>
    have kept : renamedItem (items.get type).id = none :=
      (congrArg renamedItem own).trans (keeps.resolve_left (ne_true_of_eq_false noClass))
    rw [kept, given, noClass, if_neg Bool.false_ne_true]
    exact ⟨rfl, rfl⟩
  | classed _ _ hasClass =>
    rw [given, hasClass, if_pos rfl]
    exact ⟨rfl, rfl⟩

theorem stackable_dry (stackable : (items.get type).stackable = true) :
    (items.get type).isFluid = false ∧ (items.get type).ownClass = false := by
  have plain := items.stackable_plain type stackable
  constructor
  · simp [ItemType.isFluid, ItemType.isFluidContainer, ItemType.isSplash, plain.group]
  · rcases plain.type with kind | kind | kind <;>
      simp [ItemType.ownClass, ItemType.isDepot, ItemType.isContainer, ItemType.isTeleport, ItemType.isMagicField,
        ItemType.isDoor, ItemType.isTrashHolder, ItemType.isMailbox, ItemType.isBed, plain.group, kind]

/-- A new stack is as large as it was asked for. -/
theorem new_count_stackable (stackable : (items.get type).stackable = true) (some : count ≠ 0) (small : count < 256) :
    (new items normalRandom type count).count = count := by
  obtain ⟨dry, _⟩ := stackable_dry stackable
  have dry : ((items.get type).isFluidContainer || (items.get type).isSplash) = false := dry
  have frame := setDefaultDuration_frame items normalRandom { id := type, count := toUInt8 count }
  have made : new items normalRandom type count = setDefaultDuration items normalRandom { id := type, count := toUInt8 count } := by
    simp [new, dry, stackable, some, setItemCount]
  rw [made, frame]
  exact_mod_cast toUInt8_of_lt (Int.natCast_nonneg count) (by omega)

end Item

namespace TradeOff

section
variable {items : ItemTypes} {normalRandom : Nat → Nat → Int} {row : Content} {item made : Item}

/-- The columns hold numbers of their width. -/
def Content.Sized (row : Content) : Prop := row.charges < 65536 ∧ row.duration < 2 ^ 32

theorem columns_sized (item : Item) : (columns item).Sized := by
  constructor
  · exact item.getCharges_lt
  · change toUInt32 _ < _
    unfold toUInt32
    omega

/-- How many `Game.createItem` is asked for. -/
def asked (row : Content) : Nat := if row.duration > 0 ∨ row.charges > 0 then 1 else row.count

def madeCount (items : ItemTypes) (row : Content) : Nat :=
  if (items.get row.id).stackable then max 1 (min (asked row) (items.get row.id).stackSize) else 1

def lasting (items : ItemTypes) (normalRandom : Nat → Nat → Int) (row : Content) : Nat :=
  if row.duration > 0 then row.duration else (items.get row.id).defaultDuration normalRandom

/-- The attributes of what is made of a row, once it lies in a container. -/
def madeAttr (items : ItemTypes) (normalRandom : Nat → Nat → Int) (row : Content) : ItemAttrType → Option AttrValue
  | .duration => if lasting items normalRandom row = 0 then none else some (.integer (toInt32 (lasting items normalRandom row)))
  | .decayState => if lasting items normalRandom row = 0 then none else some (.integer 1)
  | .charges =>
    if row.duration = 0 ∧ 0 < row.charges then some (.integer row.charges)
    else (items.get row.id).newCharges (Item.given (items.get row.id) (asked row))
  | .fluidType =>
    if (items.get row.id).isFluid then some (.integer (Item.given (items.get row.id) (asked row))) else none
  | _ => none

theorem lasting_lt (sized : row.Sized) : lasting items normalRandom row < 2 ^ 32 := by
  unfold lasting
  split
  case isTrue => exact sized.2
  case isFalse => exact Item.defaultDuration_lt _ _

theorem new_madeAttr (items : ItemTypes) (normalRandom : Nat → Nat → Int) (id given : Nat) (type : ItemAttrType) :
    (Item.new items normalRandom id given).attr? type = match type with
      | .duration => if (items.get id).defaultDuration normalRandom = 0 then none
        else some (.integer (toInt32 ((items.get id).defaultDuration normalRandom)))
      | .charges => (items.get id).newCharges given
      | .fluidType => if (items.get id).isFluid then some (.integer given) else none
      | _ => none := by
  cases type with
  | fluidType => exact Item.new_fluidType ..
  | charges => exact Item.new_charges ..
  | duration => exact Item.new_attr?_duration ..
  | _ => exact Item.new_attr? _ _ _ _ nofun nofun nofun

/-- What `Game.createItem` makes of a type that keeps its id. -/
theorem gameCreateItem_some {id count : Nat} (indexed : items.Indexed) (keeps : Item.Keeps items id)
    (created : gameCreateItem items normalRandom id count = some made) : made.id = id ∧ made.Distinct ∧
      made.count = (if (items.get id).stackable then max 1 (min count (items.get id).stackSize) else 1) ∧
      ∀ type, made.attr? type = (Item.new items normalRandom id (Item.given (items.get id) count)).attr? type := by
  obtain ⟨same, attributes, number⟩ := Item.createItem_given indexed created keeps
  refine ⟨same, (Item.createItem_created created).light.2, ?_, fun type => ?_⟩
  · rw [number]
    cases stackable : (items.get id).stackable with
    | false => exact Item.new_count items normalRandom id _ stackable
    | true =>
      have small := items.stackSize_lt id
      have given : Item.given (items.get id) (min count (items.get id).stackSize) =
          max 1 (min count (items.get id).stackSize) := by
        rw [Item.given, (Item.stackable_dry stackable).2, if_neg Bool.false_ne_true]
        split
        case isTrue empty => have none := empty.2; omega
        case isFalse filled =>
          have filled : min count (items.get id).stackSize ≠ 0 := fun none => filled ⟨stackable, none⟩
          omega
      rw [if_pos rfl, if_pos rfl, given]
      exact Item.new_count_stackable stackable (by omega) (by omega)
  · rw [Item.attr?, attributes, ← Item.attr?]
    cases stackable : (items.get id).stackable with
    | false => rw [if_neg Bool.false_ne_true]
    | true =>
      -- a stack has nothing of the count among its attributes
      obtain ⟨dry, _⟩ := Item.stackable_dry stackable
      rw [new_madeAttr, new_madeAttr]
      cases type with
      | fluidType => dsimp only; rw [dry, if_neg Bool.false_ne_true, if_neg Bool.false_ne_true]
      | charges =>
        dsimp only
        rw [ItemType.newCharges, ItemType.newCharges, if_pos (.inr (.inl stackable)), if_pos (.inr (.inl stackable))]
      | _ => rfl

/-- What is made of a row, before it is put anywhere. -/
theorem remade_some (indexed : items.Indexed) (keeps : Item.Keeps items row.id) (sized : row.Sized)
    (found : remade items normalRandom row = some made) : made.id = row.id ∧ made.Distinct ∧ made.count = madeCount items row ∧
      made.attr? .decayState = none ∧ ∀ type, type ≠ .decayState → made.attr? type = madeAttr items normalRandom row type := by
  unfold remade at found
  split at found
  case isTrue lasts =>
    obtain ⟨created, creates, rfl⟩ := map_eq_some_iff.mp found
    obtain ⟨same, distinct, count, attributes⟩ := gameCreateItem_some indexed keeps creates
    have one : asked row = 1 := if_pos (.inl lasts)
    refine ⟨same, Item.distinct_setIntAttr distinct _ _, ?_, ?_, fun type other => ?_⟩
    · rw [Item.count_setIntAttr, count, madeCount, one]
    · rw [Item.attr?_setIntAttr, if_neg nofun, attributes, new_madeAttr]
    · rw [Item.attr?_setIntAttr, @Item.storedInt_of_ne .duration _ nofun, attributes, new_madeAttr]
      have long : lasting items normalRandom row = row.duration := if_pos lasts
      have unset : ¬ (row.duration = 0 ∧ 0 < row.charges) := fun both => Nat.ne_of_gt lasts both.1
      cases type with
      | duration => rw [if_pos rfl, madeAttr, long, if_neg (Nat.ne_of_gt lasts)]
      | charges => rw [if_neg nofun, madeAttr, if_neg unset, one]
      | fluidType => rw [if_neg nofun, madeAttr, one]
      | decayState => exact absurd rfl other
      | _ => rfl
  case isFalse ends =>
    have ends := Nat.eq_zero_of_not_pos ends
    have new : lasting items normalRandom row = (items.get row.id).defaultDuration normalRandom :=
      if_neg (Nat.not_lt.mpr (Nat.le_of_eq ends))
    split at found
    case isTrue charged =>
      obtain ⟨created, creates, rfl⟩ := map_eq_some_iff.mp found
      obtain ⟨same, distinct, count, attributes⟩ := gameCreateItem_some indexed keeps creates
      have one : asked row = 1 := if_pos (.inr charged)
      refine ⟨same, Item.distinct_setIntAttr distinct _ _, ?_, ?_, fun type other => ?_⟩
      · rw [Item.count_setIntAttr, count, madeCount, one]
      · rw [Item.attr?_setIntAttr, if_neg nofun, attributes, new_madeAttr]
      · rw [Item.attr?_setIntAttr, @Item.storedInt_of_ne .charges _ nofun, attributes, new_madeAttr]
        have stored : toInt32 row.charges = row.charges := Item.toInt32_natCast (Nat.lt_trans sized.1 (by decide))
        cases type with
        | duration => rw [if_neg nofun, madeAttr, new]
        | charges => rw [if_pos rfl, madeAttr, if_pos ⟨ends, charged⟩, stored]
        | fluidType => rw [if_neg nofun, madeAttr, one]
        | decayState => exact absurd rfl other
        | _ => rfl
    case isFalse uncharged =>
      obtain ⟨same, distinct, count, attributes⟩ := gameCreateItem_some indexed keeps found
      have many : asked row = row.count := if_neg (not_or.mpr ⟨Nat.not_lt.mpr (Nat.le_of_eq ends), uncharged⟩)
      have unset : ¬ (row.duration = 0 ∧ 0 < row.charges) := fun both => uncharged both.2
      refine ⟨same, distinct, ?_, ?_, fun type other => ?_⟩
      · rw [count, madeCount, many]
      · rw [attributes, new_madeAttr]
      · rw [attributes, new_madeAttr]
        cases type with
        | duration => rw [madeAttr, new]
        | charges => rw [madeAttr, if_neg unset, many]
        | fluidType => rw [madeAttr, many]
        | decayState => exact absurd rfl other
        | _ => rfl

theorem getDuration_of_attr? {long : Nat} (small : long < 2 ^ 32)
    (found : item.attr? .duration = if long = 0 then none else some (.integer (toInt32 long))) : item.getDuration = long := by
  unfold Item.getDuration
  split at found
  case isTrue zero => rw [Item.getIntAttr_of_none found, zero]; rfl
  case isFalse => rw [Item.getIntAttr_of_attr? found, Item.toUInt32_toInt32 small]

/-- What lies in a container of what is made of a row. -/
theorem begins_some (indexed : items.Indexed) (keeps : Item.Keeps items row.id) (sized : row.Sized)
    (found : remade items normalRandom row = some made) : (begins made).id = row.id ∧
      (begins made).count = madeCount items row ∧ ∀ type, (begins made).attr? type = madeAttr items normalRandom row type := by
  obtain ⟨id, _, count, undecayed, attributes⟩ := remade_some indexed keeps sized found
  have long : made.getDuration = lasting items normalRandom row :=
    getDuration_of_attr? (lasting_lt sized) (attributes .duration nofun)
  unfold begins
  rw [long]
  split
  case isTrue lasts =>
    refine ⟨id, count, fun type => ?_⟩
    rw [Item.attr?_setIntAttr]
    split
    case isTrue same => rw [same, madeAttr, if_neg (Nat.ne_of_gt lasts)]; rfl
    case isFalse other => exact attributes type other
  case isFalse ends =>
    refine ⟨id, count, fun type => ?_⟩
    by_cases same : type = .decayState
    · rw [same, undecayed, madeAttr, if_pos (Nat.eq_zero_of_not_pos ends)]
    · exact attributes type same

theorem remade_id (indexed : items.Indexed) (found : remade items normalRandom row = some made) :
    (items.get row.id).Exists ∧
      made.id = if (items.get row.id).ownClass then row.id else (renamedItem row.id).getD row.id := by
  have creates : ∃ created count, gameCreateItem items normalRandom row.id count = some created ∧ made.id = created.id := by
    unfold remade at found
    split at found
    case isTrue =>
      obtain ⟨created, creates, rfl⟩ := map_eq_some_iff.mp found
      exact ⟨created, 1, creates, rfl⟩
    case isFalse =>
      split at found
      case isTrue =>
        obtain ⟨created, creates, rfl⟩ := map_eq_some_iff.mp found
        exact ⟨created, 1, creates, rfl⟩
      case isFalse => exact ⟨made, row.count, found, rfl⟩
  obtain ⟨created, count, creates, same⟩ := creates
  have known := Item.createItem_exists creates
  have own := (indexed row.id).resolve_left known.2
  refine ⟨known, ?_⟩
  rw [same, Item.createItem_id creates, own]

theorem remade_keeps (indexed : items.Indexed) (found : remade items normalRandom row = some made) :
    made.id = row.id ↔ Item.Keeps items row.id := by
  rw [(remade_id indexed found).2, Item.Keeps]
  cases (items.get row.id).ownClass with
  | true => exact iff_of_true rfl (.inl rfl)
  | false =>
    rw [if_neg Bool.false_ne_true, or_iff_right Bool.false_ne_true]
    cases renamed : renamedItem row.id with
    | none => exact iff_of_true rfl rfl
    | some other => exact iff_of_false (Item.renamedItem_ne renamed) (some_ne_none other)

theorem remade_exists (known : (items.get row.id).Exists) : ∃ made, remade items normalRandom row = some made := by
  have creates : ∀ count, ∃ created, gameCreateItem items normalRandom row.id count = some created :=
    fun count => Item.createItem_some normalRandom _ known
  obtain ⟨single, one⟩ := creates 1
  unfold remade
  rw [one]
  split
  case isTrue => exact ⟨_, rfl⟩
  case isFalse =>
    split
    case isTrue => exact ⟨_, rfl⟩
    case isFalse => exact creates _

theorem begins_id (item : Item) : (begins item).id = item.id := by
  unfold begins
  split <;> rfl

end

/-! The items that come back. -/

/-- Items of one kind: how many they are does not matter. -/
def Alike (item other : Item) : Prop := item.id = other.id ∧ ∀ type, item.attr? type = other.attr? type

/-- The items of which the columns say everything. They are created under their own id; a stack is not larger than a full one, and a
single item where it has charges or a duration; other items have the count 1. The attributes are those of a duration that runs
out, if it does; of charges that are as many as the column says, if there is no duration; of the first fluid, if it is a fluid; of
charges that are new in any other case; and none besides. Without a duration the type gives none. -/
structure Restorable (items : ItemTypes) (item : Item) : Prop where
  known : (items.get item.id).Exists
  keeps : Item.Keeps items item.id
  count : item.count = if (items.get item.id).stackable then
    max 1 (min (if item.getDuration > 0 ∨ item.getCharges > 0 then 1 else item.count) (items.get item.id).stackSize) else 1
  timeless : item.getDuration = 0 → (items.get item.id).Timeless
  duration : item.attr? .duration = if item.getDuration = 0 then none else some (.integer (toInt32 item.getDuration))
  decayState : item.attr? .decayState = if item.getDuration = 0 then none else some (.integer 1)
  charges : item.attr? .charges =
    if item.getDuration = 0 ∧ 0 < item.getCharges then some (.integer item.getCharges)
    else (items.get item.id).newCharges (if (items.get item.id).ownClass then 0 else 1)
  fluidType : item.attr? .fluidType =
    if (items.get item.id).isFluid then some (.integer (if (items.get item.id).ownClass then 0 else 1)) else none
  others : ∀ type ∉ [ItemAttrType.duration, .decayState, .charges, .fluidType], item.attr? type = none

section
variable {items : ItemTypes} {normalRandom : Nat → Nat → Int} {row : Content} {item other made : Item}

/-- A row of an item: the count may be missing of an item that is no stack. -/
structure Reads (items : ItemTypes) (row : Content) (item : Item) : Prop where
  id : row.id = item.id
  charges : row.charges = item.getCharges
  duration : row.duration = item.getDuration
  count : (items.get item.id).stackable = true ∨ item.count = 1 → row.count = item.count

theorem columns_reads (items : ItemTypes) (item : Item) : Reads items (columns item) item := ⟨rfl, rfl, rfl, fun _ => rfl⟩

theorem offeredColumns_reads (items : ItemTypes) (item : Item) : Reads items (offeredColumns items item) item := by
  refine ⟨rfl, rfl, rfl, ?_⟩
  change _ → (if (items.get item.id).stackable = true then item.count else 1) = item.count
  intro simple
  split
  case isTrue => rfl
  case isFalse single => exact (simple.resolve_left single).symm

theorem Reads.sized (reads : Reads items row item) : row.Sized := by
  rw [Content.Sized, reads.charges, reads.duration]
  exact columns_sized item

theorem Same.of_alike (alike : Alike item other) (count : item.count = other.count) : Same items item other := by
  have integer : ∀ type, item.getIntAttr type = other.getIntAttr type := by
    intro type
    rw [Item.getIntAttr_eq, Item.getIntAttr_eq, alike.2]
  refine ⟨alike.1, count, ?_, ?_, ?_, alike.2⟩
  · unfold Item.getSubType
    rw [alike.1, integer, integer, count]
  · unfold Item.getCharges
    rw [integer]
  · unfold Item.getDuration
    rw [integer]

/-- What an item that is created is given does not matter for a stack, and is 1 for others of which the row says everything. -/
theorem given_irrelevant {it : ItemType} (dry : it.stackable = true → it.isFluid = false ∧ it.ownClass = false) {count : Nat}
    (one : it.stackable = false → count = 1) :
    it.newCharges (Item.given it count) = it.newCharges (if it.ownClass then 0 else 1) ∧
      (if it.isFluid then some (AttrValue.integer (Item.given it count)) else none) =
        if it.isFluid then some (.integer (if it.ownClass then 0 else 1)) else none := by
  cases stackable : it.stackable with
  | true =>
    obtain ⟨fluid, _⟩ := dry stackable
    rw [ItemType.newCharges, ItemType.newCharges, fluid]
    exact ⟨(if_pos (.inr (.inl stackable))).trans (if_pos (.inr (.inl stackable))).symm, rfl⟩
  | false =>
    have given : Item.given it count = if it.ownClass then 0 else 1 := by
      rw [Item.given, one stackable, ite_self]
    rw [given]
    refine ⟨rfl, ?_⟩
    cases it.ownClass with
    | true => rfl
    | false => rfl

theorem Restorable.madeAttr (restorable : Restorable items item) (reads : Reads items row item) (type : ItemAttrType) :
    TradeOff.madeAttr items normalRandom row type = item.attr? type := by
  have long : lasting items normalRandom row = item.getDuration := by
    rw [lasting, reads.duration, reads.id]
    split
    case isTrue => rfl
    case isFalse ends =>
      have ends := Nat.eq_zero_of_not_pos ends
      rw [Item.defaultDuration_timeless (restorable.timeless ends), ends]
  have one : (items.get item.id).stackable = false → asked row = 1 := by
    intro single
    have count := restorable.count
    rw [if_neg (ne_true_of_eq_false single)] at count
    rw [asked, reads.count (.inr count), count]
    exact ite_self _
  obtain ⟨charges, fluid⟩ := given_irrelevant Item.stackable_dry one
  cases type with
  | duration => rw [TradeOff.madeAttr, long, restorable.duration]
  | decayState => rw [TradeOff.madeAttr, long, restorable.decayState]
  | charges => rw [TradeOff.madeAttr, reads.duration, reads.charges, reads.id, charges, restorable.charges]
  | fluidType => rw [TradeOff.madeAttr, reads.id, fluid, restorable.fluidType]
  | _ => exact (restorable.others _ (by decide)).symm

theorem Restorable.madeCount (restorable : Restorable items item) (reads : Reads items row item) :
    TradeOff.madeCount items row = item.count := by
  conv_rhs => rw [restorable.count]
  rw [TradeOff.madeCount, reads.id]
  cases stackable : (items.get item.id).stackable with
  | true => rw [asked, reads.duration, reads.charges, reads.count (.inl stackable)]
  | false => rfl

theorem Restorable.comes_back (indexed : items.Indexed) (restorable : Restorable items item) (reads : Reads items row item)
    (normalRandom : Nat → Nat → Int) :
    ∃ made, remade items normalRandom row = some made ∧ Alike (begins made) item ∧ (begins made).count = item.count := by
  obtain ⟨made, found⟩ := @remade_exists items normalRandom row (reads.id ▸ restorable.known)
  obtain ⟨id, count, attributes⟩ := begins_some indexed (reads.id ▸ restorable.keeps) reads.sized found
  refine ⟨made, found, ⟨id.trans reads.id, fun type => ?_⟩, ?_⟩
  · rw [attributes, restorable.madeAttr reads]
  · rw [count, restorable.madeCount reads]

/-- An item that comes back is restorable, if the draws give no chance where the type gives a duration. -/
theorem restorable_of_alike (indexed : items.Indexed) (reads : Reads items row item)
    (chance : (items.get item.id).defaultDuration normalRandom = 0 → (items.get item.id).Timeless)
    (found : remade items normalRandom row = some made) (alike : Alike (begins made) item)
    (count : (begins made).count = item.count) : Restorable items item := by
  have known := (remade_id indexed found).1
  have keeps : Item.Keeps items row.id := by
    rw [← remade_keeps indexed found, ← begins_id, alike.1, reads.id]
  obtain ⟨_, number, attributes⟩ := begins_some indexed keeps reads.sized found
  have attr : ∀ type, item.attr? type = madeAttr items normalRandom row type := fun type =>
    (alike.2 type).symm.trans (attributes type)
  have number : item.count = madeCount items row := count.symm.trans number
  have long : item.getDuration = lasting items normalRandom row := getDuration_of_attr? (lasting_lt reads.sized) (attr .duration)
  have one : (items.get item.id).stackable = false → asked row = 1 := by
    intro single
    have count : item.count = 1 := by
      rw [number, madeCount, reads.id, if_neg (ne_true_of_eq_false single)]
    rw [asked, reads.count (.inr count), count]
    exact ite_self _
  obtain ⟨charges, fluid⟩ := given_irrelevant Item.stackable_dry one
  refine ⟨reads.id ▸ known, reads.id ▸ keeps, ?_, fun ends => ?_, ?_, ?_, ?_, ?_, fun type other => ?_⟩
  · rw [number, madeCount, reads.id]
    cases stackable : (items.get item.id).stackable with
    | true =>
      rw [if_pos rfl, if_pos rfl, asked, reads.duration, reads.charges, reads.count (.inl stackable)]
      rw [number, madeCount, reads.id, if_pos stackable, asked, reads.duration, reads.charges, reads.count (.inl stackable)]
      split
      case isTrue => rfl
      case isFalse => omega
    | false => rfl
  · rw [lasting, reads.duration, if_neg (by omega), reads.id] at long
    exact chance (long.symm.trans ends)
  · rw [attr, long]
    rfl
  · rw [attr, long]
    rfl
  · rw [attr, madeAttr, reads.duration, reads.charges, reads.id, charges]
  · rw [attr, madeAttr, reads.id, fluid]
  · rw [attr]
    cases type with
    | duration | decayState | charges | fluidType => exact absurd other (by decide)
    | _ => rfl

end

end TradeOff

end Styller
