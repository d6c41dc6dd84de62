import Styller.Item.Lookup
import Styller.Item.Codec

/-! The setters of an item, and the items that they reach from new ones. -/

namespace Styller

open Library

/-- An entry of the table has its own id, or none. -/
def ItemTypes.Indexed (items : ItemTypes) : Prop := ∀ id, (items.get id).id = 0 ∨ (items.get id).id = id

/-- `CreateItem` makes something of the type. -/
def ItemType.Exists (it : ItemType) : Prop := it.group ≠ .deprecated ∧ it.id ≠ 0

/-- `CreateItem` has a class of its own for the type. -/
def ItemType.ownClass (it : ItemType) : Bool :=
  it.isDepot || it.isContainer || it.isTeleport || it.isMagicField || it.isDoor || it.isTrashHolder ||
    it.isMailbox || it.isBed

def ItemType.isFluid (it : ItemType) : Bool := it.isFluidContainer || it.isSplash

/-- The attributes that hold a string. -/
inductive StringAttr where
  | text
  | writer
  | description
  | name
  | article
  | pluralName

def StringAttr.type : StringAttr → ItemAttrType
  | text => .text
  | writer => .writer
  | description => .description
  | name => .name
  | article => .article
  | pluralName => .pluralName

/-- The attributes that are set with `setIntAttr` and written with a width of their own. -/
inductive NumberAttr where
  | weight
  | attack
  | attackSpeed
  | defense
  | extraDefense
  | armor
  | hitChance
  | shootRange
  | decayTo

def NumberAttr.type : NumberAttr → ItemAttrType
  | weight => .weight
  | attack => .attack
  | attackSpeed => .attackSpeed
  | defense => .defense
  | extraDefense => .extraDefense
  | armor => .armor
  | hitChance => .hitChance
  | shootRange => .shootRange
  | decayTo => .decayTo

inductive ItemDecayState where
  | notDecaying
  | decaying
  | pending

def ItemDecayState.value : ItemDecayState → Int
  | notDecaying => 0
  | decaying => decayingTrue
  | pending => decayingPending

/-- A call of one of the setters; a string is of 65535 bytes at most. -/
inductive ItemSetter where
  | itemCount (n : UInt8)
  | charges (n : UInt16)
  | fluidType (n : UInt16)
  | date (n : Int32)
  | duration (time : Int32)
  | decaying (decayState : ItemDecayState)
  | string (attr : StringAttr) (value : Bytes) (fits : value.length ≤ 65535)
  | number (attr : NumberAttr) (value : Int64)

def ItemSetter.apply : ItemSetter → Item → Item
  | itemCount n, item => item.setItemCount n.toNat
  | charges n, item => item.setIntAttr .charges n.toNat
  | fluidType n, item => item.setIntAttr .fluidType n.toNat
  | date n, item => item.setIntAttr .date n.toInt
  | duration time, item => item.setIntAttr .duration time.toInt
  | decaying decayState, item => item.setIntAttr .decayState decayState.value
  | string attr value _, item => item.setStrAttr attr.type value
  | number attr value, item => item.setIntAttr attr.type value.toInt

/-- Items that `CreateItem` makes, and what the setters make of them. -/
inductive Reached (items : ItemTypes) : Item → Prop where
  | create {normalRandom : Nat → Nat → Int} {type : Nat} {count : UInt16}
      (created : Item.createItem items normalRandom type count.toNat = some item) : Reached items item
  | set (reached : Reached items item) (setter : ItemSetter) : Reached items (setter.apply item)

namespace Item

variable {items : ItemTypes} {normalRandom : Nat → Nat → Int} {type count : Nat} {item : Item}

variable (items normalRandom type count) in
/-- What `CreateItem` makes of a type: a plain thing under an id that may be another, or a thing of
the class of the type, which no count is given to. -/
inductive Created : Item → Prop where
  | plain (noClass : (items.get type).ownClass = false) :
      Created (new items normalRandom ((renamedItem (items.get type).id).getD type)
        (if (items.get type).stackable ∧ count = 0 then 1 else count))
  | classed (kind : ItemClass) (maxSize : Nat) (hasClass : (items.get type).ownClass = true)
      (door : kind = .door → (items.get type).isDoor = true) (bed : kind = .bed → (items.get type).isBed = true) :
      Created { new items normalRandom type 0 with kind, maxSize }

theorem createItem_exists (created : createItem items normalRandom type count = some item) :
    (items.get type).Exists := by
  unfold createItem at created
  constructor
  · intro deprecated
    simp [deprecated] at created
  · intro missing
    simp [missing] at created

theorem createItem_created (created : createItem items normalRandom type count = some item) :
    Created items normalRandom type count item := by
  obtain ⟨kept, known⟩ := createItem_exists created
  simp only [createItem, if_neg kept, if_neg known] at created
  by_cases noClass : (items.get type).ownClass = false
  · have plain := noClass
    simp only [ItemType.ownClass, Bool.or_eq_false_iff] at plain
    obtain ⟨⟨⟨⟨⟨⟨⟨depot, container⟩, teleport⟩, field⟩, door⟩, trash⟩, mailbox⟩, bed⟩ := plain
    simp only [depot, container, teleport, field, door, trash, mailbox, bed, Bool.false_eq_true, if_false] at created
    have made : Created items normalRandom type count _ := Created.plain noClass
    cases renamed : renamedItem (items.get type).id with
    | none =>
      rw [renamed] at created made
      exact Option.some.inj created ▸ made
    | some other =>
      rw [renamed] at created made
      exact Option.some.inj created ▸ made
  · have hasClass := eq_true_of_ne_false noClass
    have classed : ∀ kind maxSize, (kind = .door → (items.get type).isDoor = true) →
        (kind = .bed → (items.get type).isBed = true) →
        some { new items normalRandom type 0 with kind, maxSize } = some item →
        Created items normalRandom type count item := by
      intro kind maxSize door bed same
      exact Option.some.inj same ▸ Created.classed kind maxSize hasClass door bed
    rcases ite_eq_iff.mp created with ⟨_, created⟩ | ⟨noDepot, created⟩
    · exact classed .depotLocker 30 nofun nofun created
    rcases ite_eq_iff.mp created with ⟨_, created⟩ | ⟨noContainer, created⟩
    · exact classed .container _ nofun nofun created
    rcases ite_eq_iff.mp created with ⟨_, created⟩ | ⟨noTeleport, created⟩
    · exact classed .teleport _ nofun nofun created
    rcases ite_eq_iff.mp created with ⟨_, created⟩ | ⟨noField, created⟩
    · exact classed .magicField _ nofun nofun created
    rcases ite_eq_iff.mp created with ⟨door, created⟩ | ⟨noDoor, created⟩
    · exact classed .door _ (fun _ => door) nofun created
    rcases ite_eq_iff.mp created with ⟨_, created⟩ | ⟨noTrash, created⟩
    · exact classed .trashHolder _ nofun nofun created
    rcases ite_eq_iff.mp created with ⟨_, created⟩ | ⟨noMailbox, created⟩
    · exact classed .mailbox _ nofun nofun created
    rcases ite_eq_iff.mp created with ⟨bed, created⟩ | ⟨noBed, _⟩
    · exact classed .bed _ nofun (fun _ => bed) created
    · simp [ItemType.ownClass, noDepot, noContainer, noTeleport, noField, noDoor, noTrash, noMailbox, noBed] at hasClass

theorem createItem_some (normalRandom : Nat → Nat → Int) (count : Nat) (kept : (items.get type).Exists) :
    ∃ item, createItem items normalRandom type count = some item := by
  have choose : ∀ {condition : Prop} [Decidable condition] {first : Item} {second : Option Item},
      (∃ item, second = some item) → ∃ item, (if condition then some first else second) = some item := by
    intro condition _ first second found
    by_cases holds : condition
    · exact ⟨first, if_pos holds⟩
    · rwa [if_neg holds]
  rw [createItem, if_neg kept.1]
  simp only [if_neg kept.2]
  apply choose
  apply choose
  apply choose
  apply choose
  apply choose
  apply choose
  apply choose
  apply choose
  cases renamedItem (items.get type).id with
  | none => exact ⟨_, rfl⟩
  | some renamed => exact ⟨_, rfl⟩

variable (items normalRandom) in
theorem setDefaultDuration_cases (item : Item) : setDefaultDuration items normalRandom item = item ∨
    ∃ duration, setDefaultDuration items normalRandom item = item.setIntAttr .duration (toInt32 duration) := by
  simp only [setDefaultDuration]
  split_ifs
  · exact .inr ⟨_, rfl⟩
  · exact .inl rfl
  · exact .inr ⟨_, rfl⟩
  · exact .inl rfl

theorem attr?_setDefaultDuration (item : Item) (differ : other ≠ .duration) :
    (setDefaultDuration items normalRandom item).attr? other = item.attr? other := by
  obtain same | ⟨duration, same⟩ := setDefaultDuration_cases items normalRandom item
  · rw [same]
  · rw [same, attr?_setIntAttr, if_neg differ]

section

variable (items normalRandom type count)

/-- What the constructor has made before it sets the duration. -/
inductive Begun : Item → Prop where
  | fluid (fluid : (items.get type).isFluid = true) : Begun (({ id := type } : Item).setIntAttr .fluidType count)
  | stack (dry : (items.get type).isFluid = false) (stackable : (items.get type).stackable = true) (n : Int) :
      Begun (({ id := type } : Item).setItemCount n)
  | charged (dry : (items.get type).isFluid = false) (single : (items.get type).stackable = false)
      (charged : (items.get type).charges ≠ 0) :
      Begun (({ id := type } : Item).setIntAttr .charges
        (if count ≠ 0 then count else toUInt16 (items.get type).charges : Nat))
  | bare (dry : (items.get type).isFluid = false) (single : (items.get type).stackable = false)
      (uncharged : (items.get type).charges = 0) : Begun { id := type }

theorem new_begun : ∃ begun, Begun items type count begun ∧
    new items normalRandom type count = setDefaultDuration items normalRandom begun := by
  refine ⟨_, ?_, rfl⟩
  by_cases fluid : ((items.get type).isFluidContainer || (items.get type).isSplash) = true
  · rw [if_pos fluid]
    exact .fluid fluid
  · have dry := eq_false_of_ne_true fluid
    rw [if_neg fluid]
    by_cases stackable : (items.get type).stackable = true
    · rw [if_pos stackable]
      split_ifs
      · exact .stack dry stackable _
      · exact .stack dry stackable _
      · exact .stack dry stackable 1
    · have single := eq_false_of_ne_true stackable
      rw [if_neg stackable]
      by_cases charged : (items.get type).charges ≠ 0
      · have begun : Begun items type count _ := Begun.charged dry single charged
        rw [if_pos charged]
        by_cases given : count ≠ 0
        · rw [if_pos given] at begun ⊢
          exact begun
        · rw [if_neg given] at begun ⊢
          exact begun
      · rw [if_neg charged]
        exact .bare dry single (not_not.mp charged)

theorem attr?_blank : ({ id := type } : Item).attr? other = none := rfl

theorem new_id : (new items normalRandom type count).id = type := by
  obtain ⟨begun, made, same⟩ := new_begun items normalRandom type count
  rw [same, setDefaultDuration_frame]
  cases made with
  | fluid | stack | charged | bare => rfl

theorem new_kind : (new items normalRandom type count).kind = .item := by
  obtain ⟨begun, made, same⟩ := new_begun items normalRandom type count
  rw [same, setDefaultDuration_frame]
  cases made with
  | fluid | stack | charged | bare => rfl

theorem new_totalWeight : (new items normalRandom type count).totalWeight = 0 := by
  obtain ⟨begun, made, same⟩ := new_begun items normalRandom type count
  rw [same, setDefaultDuration_frame]
  cases made with
  | fluid | stack | charged | bare => rfl

theorem new_count (single : (items.get type).stackable = false) : (new items normalRandom type count).count = 1 := by
  obtain ⟨begun, made, same⟩ := new_begun items normalRandom type count
  rw [same, setDefaultDuration_frame]
  cases made with
  | fluid | charged | bare => rfl
  | stack _ stackable => rw [stackable] at single; cases single

theorem new_fluidType : (new items normalRandom type count).attr? .fluidType =
    if (items.get type).isFluid then some (.integer count) else none := by
  obtain ⟨begun, made, same⟩ := new_begun items normalRandom type count
  rw [same, attr?_setDefaultDuration _ (by decide)]
  cases made with
  | fluid fluid => rw [attr?_setIntAttr, if_pos rfl, if_pos fluid]; rfl
  | stack dry => rw [attr?_setItemCount, attr?_blank, if_neg (ne_true_of_eq_false dry)]
  | charged dry => rw [attr?_setIntAttr, if_neg (by decide), attr?_blank, if_neg (ne_true_of_eq_false dry)]
  | bare dry => rw [attr?_blank, if_neg (ne_true_of_eq_false dry)]

theorem new_charges : (new items normalRandom type count).attr? .charges =
    if (items.get type).isFluid ∨ (items.get type).stackable ∨ (items.get type).charges = 0 then none
    else some (.integer (if count ≠ 0 then count else toUInt16 (items.get type).charges : Nat)) := by
  obtain ⟨begun, made, same⟩ := new_begun items normalRandom type count
  rw [same, attr?_setDefaultDuration _ (by decide)]
  cases made with
  | fluid fluid => rw [attr?_setIntAttr, if_neg (by decide), attr?_blank, if_pos (.inl fluid)]
  | stack _ stackable => rw [attr?_setItemCount, attr?_blank, if_pos (.inr (.inl stackable))]
  | charged dry single charged =>
    have has : ¬ ((items.get type).isFluid = true ∨ (items.get type).stackable = true ∨ (items.get type).charges = 0) := by
      simp [dry, single, charged]
    rw [attr?_setIntAttr, if_pos rfl, if_neg has]
    rfl
  | bare _ _ uncharged => rw [attr?_blank, if_pos (.inr (.inr uncharged))]

theorem new_attr? (noCharges : other ≠ .charges) (noFluid : other ≠ .fluidType) (noDuration : other ≠ .duration) :
    (new items normalRandom type count).attr? other = none := by
  obtain ⟨begun, made, same⟩ := new_begun items normalRandom type count
  rw [same, attr?_setDefaultDuration _ noDuration]
  cases made with
  | fluid => rw [attr?_setIntAttr, if_neg noFluid, attr?_blank]
  | stack => rw [attr?_setItemCount, attr?_blank]
  | charged => rw [attr?_setIntAttr, if_neg noCharges, attr?_blank]
  | bare => rw [attr?_blank]

end

theorem createItem_id (created : createItem items normalRandom type count = some item) : item.id =
    if (items.get type).ownClass then type else (renamedItem (items.get type).id).getD type := by
  cases createItem_created created with
  | plain noClass => rw [new_id, noClass, if_neg Bool.false_ne_true]
  | classed _ _ hasClass => rw [hasClass, if_pos rfl, new_id]

/-- The type says whether what is made of it can hold items. -/
theorem createItem_isContainer (created : createItem items normalRandom type count = some item) :
    item.isContainer = ((items.get type).isDepot || (items.get type).isContainer) := by
  obtain ⟨kept, known⟩ := createItem_exists created
  simp only [createItem, if_neg kept, if_neg known] at created
  have other : ∀ {condition : Prop} [Decidable condition] {first : Item} {rest : Option Item}, first.isContainer = false →
      (rest = some item → item.isContainer = false) → (if condition then some first else rest) = some item →
      item.isContainer = false := by
    intro condition _ first rest closed later made
    rcases ite_eq_iff.mp made with ⟨_, same⟩ | ⟨_, same⟩
    · exact Option.some.inj same ▸ closed
    · exact later same
  rcases ite_eq_iff.mp created with ⟨depot, created⟩ | ⟨noDepot, created⟩
  · rw [depot, Bool.true_or, ← Option.some.inj created]
    rfl
  rcases ite_eq_iff.mp created with ⟨container, created⟩ | ⟨noContainer, created⟩
  · rw [container, Bool.or_true, ← Option.some.inj created]
    rfl
  rw [eq_false_of_ne_true noDepot, eq_false_of_ne_true noContainer, Bool.or_false]
  refine other rfl (other rfl (other rfl (other rfl (other rfl (other rfl ?_))))) created
  intro made
  cases renamed : renamedItem (items.get type).id with
  | none =>
    rw [renamed] at made
    rw [← Option.some.inj made, isContainer, new_kind]
    rfl
  | some id =>
    rw [renamed] at made
    rw [← Option.some.inj made, isContainer, new_kind]
    rfl

end Item

/-- The values that the setters and the constructor store. -/
def StoredAt : ItemAttrType → AttrValue → Prop
  | .text, .string value | .writer, .string value | .description, .string value | .name, .string value
  | .article, .string value | .pluralName, .string value => value ≠ [] ∧ value.length ≤ 65535
  | .date, .integer value | .duration, .integer value => -2 ^ 31 ≤ value ∧ value < 2 ^ 31
  | .decayState, .integer value => value = 0 ∨ value = decayingTrue ∨ value = decayingPending
  | .charges, .integer value | .fluidType, .integer value => 0 ≤ value ∧ value < 65536
  | .attackSpeed, .integer value => 100 ≤ value
  | .weight, .integer _ | .attack, .integer _ | .defense, .integer _ | .extraDefense, .integer _
  | .armor, .integer _ | .hitChance, .integer _ | .shootRange, .integer _ | .decayTo, .integer _ => True
  | _, _ => False

/-- An item whose attributes hold what the setters store. -/
structure Item.WellSet (item : Item) : Prop where
  stored : ∀ type value, item.attr? type = some value → StoredAt type value
  count : item.count < 256

namespace Item.WellSet

variable {item : Item}

theorem setIntAttr (wellSet : item.WellSet) {type : ItemAttrType} {value : Int}
    (stored : StoredAt type (.integer (storedInt type value))) : (item.setIntAttr type value).WellSet := by
  refine ⟨?_, wellSet.count⟩
  intro other found
  rw [attr?_setIntAttr]
  split
  · next same =>
    rintro ⟨⟩
    exact same ▸ stored
  · exact wellSet.stored other found

theorem setStrAttr (wellSet : item.WellSet) {type : ItemAttrType} {value : Bytes}
    (stored : value ≠ [] → StoredAt type (.string value)) : (item.setStrAttr type value).WellSet := by
  refine ⟨?_, wellSet.count⟩
  intro other found
  rw [attr?_setStrAttr]
  split
  · next same =>
    rintro ⟨⟩
    exact same.1 ▸ stored same.2
  · exact wellSet.stored other found

theorem setItemCount (wellSet : item.WellSet) (n : Int) : (item.setItemCount n).WellSet :=
  ⟨wellSet.stored, toUInt8_lt n⟩

theorem setDefaultDuration (wellSet : item.WellSet) (items : ItemTypes) (normalRandom : Nat → Nat → Int) :
    (setDefaultDuration items normalRandom item).WellSet := by
  obtain same | ⟨duration, same⟩ := setDefaultDuration_cases items normalRandom item
  · rw [same]
    exact wellSet
  · rw [same]
    apply wellSet.setIntAttr
    have low := Int.le_bmod (x := duration) (m := 2 ^ 32) (by decide)
    have high := Int.bmod_lt (x := duration) (m := 2 ^ 32) (by decide)
    exact ⟨low, high⟩

theorem new (items : ItemTypes) (normalRandom : Nat → Nat → Int) {type count : Nat} (small : count < 65536) :
    (new items normalRandom type count).WellSet := by
  obtain ⟨begun, made, same⟩ := new_begun items normalRandom type count
  have blank : ({ id := type } : Item).WellSet := ⟨nofun, show 1 < 256 by decide⟩
  rw [same]
  apply WellSet.setDefaultDuration
  cases made with
  | fluid =>
    apply blank.setIntAttr
    simp only [StoredAt, storedInt, reduceCtorEq, false_and, if_false]
    omega
  | stack _ _ n => exact blank.setItemCount n
  | charged =>
    apply blank.setIntAttr
    have charges : toUInt16 (items.get type).charges < 65536 := by
      unfold toUInt16
      omega
    simp only [StoredAt, storedInt, reduceCtorEq, false_and, if_false]
    split <;> omega
  | bare => exact blank

theorem apply (wellSet : item.WellSet) (setter : ItemSetter) : (setter.apply item).WellSet := by
  cases setter with
  | itemCount n => exact wellSet.setItemCount _
  | charges n => exact wellSet.setIntAttr ⟨Int.natCast_nonneg _, Int.ofNat_lt.mpr n.toNat_lt⟩
  | fluidType n => exact wellSet.setIntAttr ⟨Int.natCast_nonneg _, Int.ofNat_lt.mpr n.toNat_lt⟩
  | date n => exact wellSet.setIntAttr ⟨n.le_toInt, n.toInt_lt⟩
  | duration time => exact wellSet.setIntAttr ⟨time.le_toInt, time.toInt_lt⟩
  | decaying decayState =>
    apply wellSet.setIntAttr
    cases decayState with
    | notDecaying => exact .inl rfl
    | decaying => exact .inr (.inl rfl)
    | pending => exact .inr (.inr rfl)
  | string attr value fits =>
    apply wellSet.setStrAttr
    intro some
    cases attr <;> exact ⟨some, fits⟩
  | number attr value =>
    apply wellSet.setIntAttr
    cases attr with
    | attackSpeed =>
      simp only [NumberAttr.type, StoredAt, storedInt, true_and]
      split <;> omega
    | _ => trivial

end Item.WellSet

section

variable {items : ItemTypes} {item : Item}

theorem ItemSetter.id_apply (setter : ItemSetter) (item : Item) : (setter.apply item).id = item.id := by
  cases setter <;> rfl

theorem ItemSetter.kind_apply (setter : ItemSetter) (item : Item) : (setter.apply item).kind = item.kind := by
  cases setter <;> rfl

/-- No id that another one is replaced by is itself replaced. -/
theorem renamedItem_renamed {type renamed : Nat} (replaced : renamedItem type = some renamed) :
    renamedItem renamed = none := by
  unfold renamedItem at replaced ⊢
  split_ifs at replaced <;> grind

theorem Item.Created.totalWeight {normalRandom : Nat → Nat → Int} {type count : Nat}
    (created : Created items normalRandom type count item) : item.totalWeight = 0 := by
  cases created with
  | plain | classed => exact new_totalWeight ..

open Item in
theorem Item.Created.wellSet {normalRandom : Nat → Nat → Int} {type count : Nat}
    (created : Created items normalRandom type count item) (small : count < 65536) : item.WellSet := by
  cases created with
  | plain noClass =>
    apply WellSet.new
    split
    · decide
    · exact small
  | classed kind maxSize =>
    have wellSet : (new items normalRandom type 0).WellSet := WellSet.new items normalRandom (by decide)
    exact ⟨wellSet.stored, wellSet.count⟩

theorem Reached.wellSet (reached : Reached items item) : item.WellSet := by
  induction reached with
  | create created => exact (Item.createItem_created created).wellSet (UInt16.toNat_lt _)
  | set _ setter ih => exact ih.apply setter

/-- A thing of the class of its type has that type still. -/
theorem Reached.kind (reached : Reached items item) :
    (item.kind = .door → (items.get item.id).isDoor = true) ∧ (item.kind = .bed → (items.get item.id).isBed = true) := by
  induction reached with
  | create created =>
    cases Item.createItem_created created with
    | plain =>
      constructor
      · intro door
        rw [Item.new_kind] at door
        cases door
      · intro bed
        rw [Item.new_kind] at bed
        cases bed
    | classed kind maxSize hasClass door bed =>
      simp only [Item.new_id]
      exact ⟨door, bed⟩
  | set _ setter ih => rwa [setter.kind_apply, setter.id_apply]

/-- An item whose type exists is created under its own id again. -/
theorem Reached.sameId (indexed : items.Indexed) (reached : Reached items item) :
    (items.get item.id).ownClass = true ∨ (items.get item.id).id = 0 ∨ renamedItem (items.get item.id).id = none := by
  induction reached with
  | @create item _ type count created =>
    have known := (Item.createItem_exists created).2
    cases Item.createItem_created created with
    | plain noClass =>
      rw [Item.new_id]
      have same := (indexed type).resolve_left known
      cases renamed : renamedItem (items.get type).id with
      | none =>
        rw [Option.getD_none, renamed]
        exact .inr (.inr rfl)
      | some other =>
        rw [Option.getD_some]
        rcases indexed other with missing | own
        · exact .inr (.inl missing)
        · rw [own]
          exact .inr (.inr (renamedItem_renamed renamed))
    | classed kind maxSize hasClass =>
      simp only [Item.new_id]
      exact .inl hasClass
  | set _ setter ih => rwa [setter.id_apply]

end

end Styller
