import Mathlib.Data.Option.Basic
import Styller.Item.GameItems
import Styller.Item.Setters
import Styller.Library.Rose
import Styller.Library.Rows

/-! Copies of items, with the maps of their custom attributes, and when items are equal. -/

namespace Styller

open Library List

/-- The maps of custom attributes in memory, and how many items have been made: each one draws its own duration. -/
structure Heap where
  maps : Nat → Option CustomAttributeMap
  next : Nat
  unused : ∀ address, next ≤ address → maps address = none
  made : Nat

namespace Heap

/-- `new CustomAttributeMap(*map)`. -/
def copy (heap : Heap) (address : Nat) : Heap where
  maps := fun other => if other = heap.next then heap.maps address else heap.maps other
  next := heap.next + 1
  unused := by
    intro other behind
    rw [if_neg (Nat.ne_of_gt behind)]
    exact heap.unused other (Nat.le_of_succ_le behind)
  made := heap.made

/-- The copies of the attributes: only a map of custom attributes goes to a new place. -/
def copyAttributes : Heap → ItemAttributes → ItemAttributes × Heap
  | heap, [] => ([], heap)
  | heap, (type, .custom address) :: later =>
    let (copies, after) := copyAttributes (heap.copy address) later
    ((type, .custom heap.next) :: copies, after)
  | heap, entry :: later =>
    let (copies, after) := copyAttributes heap later
    (entry :: copies, after)

end Heap

/-- The duration that `setDefaultDuration` sets unless it is 0. -/
def ItemType.defaultDuration (it : ItemType) (normalRandom : Nat → Nat → Int) : Nat :=
  if (it.decayTimeMax * 1000) % 2 ^ 32 ≠ 0 then
    toUInt32 (normalRandom ((it.decayTimeMin * 1000) % 2 ^ 32) ((it.decayTimeMax * 1000) % 2 ^ 32))
  else (it.decayTimeMin * 1000) % 2 ^ 32

namespace Item

section
variable (items : ItemTypes) (normalRandom : Nat → Nat → Nat → Int)

/-- `Item::clone`. A copy with a duration is to decay, and is put among the items that begin to. -/
def clone (item : Item) (heap : Heap) : Option (Item × Heap) :=
  match createItem items (normalRandom heap.made) item.id item.count with
  | none => none
  | some copy =>
    let heap := { heap with made := heap.made + 1 }
    match item.attributes with
    | none => some (copy, heap)
    | some attributes =>
      let (copied, heap) := heap.copyAttributes attributes
      let copy := { copy with attributes := some copied }
      if copy.getDuration > 0 then some (copy.setIntAttr .decayState 1, heap) else some (copy, heap)

/-- The copies of the items of a container, one after the other. -/
def cloneAll : List (Heap → Option (Rose Item × Heap)) → Heap → Option (List (Rose Item) × Heap)
  | [], heap => some ([], heap)
  | one :: later, heap =>
    match one heap with
    | none => none
    | some (copy, heap) =>
      match cloneAll later heap with
      | none => none
      | some (copies, heap) => some (copy :: copies, heap)

/-- The virtual `clone`: that of a container copies what is in it, if what was created is a container again. -/
def cloneTree : Rose Item → Heap → Option (Rose Item × Heap) :=
  Rose.fold fun item contents heap =>
    match clone items normalRandom item heap with
    | none => none
    | some (copy, heap) =>
      if item.isContainer then
        if copy.isContainer then
          match cloneAll contents heap with
          | none => none
          | some (copies, heap) => some (.node { copy with totalWeight := item.totalWeight } copies, heap)
        else none
      else some (.node copy [], heap)

end

/-! Equal items. -/

/-- No type stands twice among the attributes. -/
def Distinct (item : Item) : Prop := ((item.attributes.getD []).map Prod.fst).Nodup

theorem agree_iff {first second : ItemAttributes} (one : (first.map Prod.fst).Nodup) (two : (second.map Prod.fst).Nodup) :
    first.agree second = true ↔ ∀ type, first.lookup type = second.lookup type := by
  have found : ∀ {attributes : ItemAttributes}, (attributes.map Prod.fst).Nodup → ∀ {type value},
      attributes.lookup type = some value ↔ (type, value) ∈ attributes := fun distinct => Rows.find_eq_some distinct
  simp only [ItemAttributes.agree, Bool.and_eq_true, all_eq_true, ItemAttributes.hasAttribute_eq, Bool.or_eq_true,
    decide_eq_true_eq]
  constructor
  · rintro ⟨⟨left, right⟩, values⟩ type
    cases here : first.lookup type with
    | none =>
      cases there : second.lookup type with
      | none => rfl
      | some value =>
        have present := right (type, value) ((found two).mp there)
        rw [here] at present
        cases present
    | some value =>
      have listed := (found one).mp here
      obtain ⟨other, there⟩ := Option.isSome_iff_exists.mp (left (type, value) listed)
      rcases values (type, value) listed (type, other) ((found two).mp there) with different | same
      · exact absurd rfl different
      · rw [there]
        exact congrArg some same
  · intro same
    refine ⟨⟨?_, ?_⟩, ?_⟩
    · rintro ⟨type, value⟩ listed
      rw [← same, (found one).mpr listed]
      rfl
    · rintro ⟨type, value⟩ listed
      rw [same, (found two).mpr listed]
      rfl
    · rintro ⟨type, value⟩ listed ⟨other, held⟩ member
      by_cases equal : type = other
      · subst equal
        have both := (found one).mpr listed
        rw [same, (found two).mpr member] at both
        exact .inr (Option.some.inj both).symm
      · exact .inl equal

theorem equals_iff {item other : Item} (one : item.Distinct) (two : other.Distinct) :
    item.equals (some other) = true ↔ item.id = other.id ∧ ∀ type, item.attr? type = other.attr? type := by
  have missing : ∀ attributes : ItemAttributes, ItemAttributes.agree [] attributes = attributes.isEmpty := by
    intro attributes
    cases attributes with
    | nil => rfl
    | cons entry attributes => simp [ItemAttributes.agree, ItemAttributes.hasAttribute]
  have compared : item.equals (some other) = true ↔
      item.id = other.id ∧ (item.attributes.getD []).agree (other.attributes.getD []) = true := by
    unfold equals
    dsimp only
    generalize item.attributes = first
    generalize other.attributes = second
    by_cases same : item.id = other.id
    · cases first with
      | none =>
        cases second with
        | none => simp [same, missing]
        | some attributes => simp [same, missing]
      | some attributes =>
        cases second with
        | none => simp [same, agree_comm attributes [], missing]
        | some otherAttributes => simp [same]
    · simp [same]
  rw [compared, agree_iff one two]
  rfl

end Item

/-! Copied attributes. -/

namespace Heap

/-- What a copied value is: another map of the same content, or the value itself. -/
def Copies (before after : Heap) : AttrValue → AttrValue → Prop
  | .custom address, .custom other => before.next ≤ other ∧ after.maps other = before.maps address
  | value, other => value = other ∧ ∀ address, value ≠ .custom address

/-- The same number or string, or maps of the same content. -/
def SameValue (before after : Heap) : AttrValue → AttrValue → Prop
  | .custom address, .custom other => after.maps other = before.maps address
  | value, other => value = other

/-- Maps that are there stay as they are. -/
def Kept (before after : Heap) : Prop :=
  before.next ≤ after.next ∧ ∀ address, address < before.next → after.maps address = before.maps address

theorem Kept.trans {first second third : Heap} (one : Kept first second) (two : Kept second third) : Kept first third :=
  ⟨Nat.le_trans one.1 two.1, fun address live => (two.2 address (Nat.lt_of_lt_of_le live one.1)).trans (one.2 address live)⟩

theorem kept_copy (heap : Heap) (address : Nat) : heap.Kept (heap.copy address) :=
  ⟨Nat.le_succ _, fun _ live => if_neg (Nat.ne_of_lt live)⟩

/-- A map that is there. -/
def Held (heap : Heap) (attributes : ItemAttributes) : Prop :=
  ∀ type address, (type, .custom address) ∈ attributes → address < heap.next

theorem copyAttributes_kept (heap : Heap) (attributes : ItemAttributes) : heap.Kept (heap.copyAttributes attributes).2 := by
  induction attributes generalizing heap with
  | nil => exact ⟨Nat.le_refl _, fun _ _ => rfl⟩
  | cons entry attributes ih =>
    obtain ⟨type, value⟩ := entry
    cases value with
    | integer value => exact ih heap
    | string value => exact ih heap
    | custom address => exact (kept_copy heap address).trans (ih _)

/-- The entries of a copied list stand in the same order. -/
theorem copyAttributes_copies {before : Heap} (heap : Heap) (since : before.Kept heap) {attributes : ItemAttributes}
    (held : before.Held attributes) :
    List.Forall₂ (fun entry copied => copied.1 = entry.1 ∧ before.Copies (heap.copyAttributes attributes).2 entry.2 copied.2)
      attributes (heap.copyAttributes attributes).1 := by
  induction attributes generalizing heap with
  | nil => exact .nil
  | cons entry attributes ih =>
    obtain ⟨type, value⟩ := entry
    have rest : before.Held attributes := fun type address listed => held type address (mem_cons_of_mem _ listed)
    cases value with
    | integer value => exact .cons ⟨rfl, rfl, nofun⟩ (ih heap since rest)
    | string value => exact .cons ⟨rfl, rfl, nofun⟩ (ih heap since rest)
    | custom address =>
      have kept := copyAttributes_kept (heap.copy address) attributes
      have same : (heap.copyAttributes ((type, .custom address) :: attributes)).2.maps heap.next = before.maps address :=
        calc
          _ = (heap.copy address).maps heap.next := kept.2 heap.next (Nat.lt_succ_self _)
          _ = heap.maps address := if_pos rfl
          _ = before.maps address := since.2 address (held type address mem_cons_self)
      exact .cons ⟨rfl, since.1, same⟩ (ih _ (since.trans (kept_copy heap address)) rest)

theorem kept_refl (heap : Heap) : heap.Kept heap := ⟨Nat.le_refl _, fun _ _ => rfl⟩

theorem keys_copyAttributes (heap : Heap) (attributes : ItemAttributes) :
    (heap.copyAttributes attributes).1.map Prod.fst = attributes.map Prod.fst := by
  induction attributes generalizing heap with
  | nil => rfl
  | cons entry attributes ih =>
    obtain ⟨type, value⟩ := entry
    cases value with
    | integer value => exact congrArg (type :: ·) (ih heap)
    | string value => exact congrArg (type :: ·) (ih heap)
    | custom address => exact congrArg (type :: ·) (ih _)

/-- What a type holds in a copied list. -/
theorem lookup_copyAttributes (heap : Heap) {attributes : ItemAttributes} (held : heap.Held attributes) (type : ItemAttrType) :
    Option.Rel (heap.Copies (heap.copyAttributes attributes).2) (attributes.lookup type)
      ((heap.copyAttributes attributes).1.lookup type) := by
  have copies := copyAttributes_copies heap heap.kept_refl held
  generalize (heap.copyAttributes attributes).1 = copied at copies
  generalize (heap.copyAttributes attributes).2 = after at copies
  induction copies with
  | nil => exact .none
  | cons entry _ ih =>
    rw [ItemAttributes.lookup_cons, ItemAttributes.lookup_cons, entry.1]
    split
    · exact .some entry.2
    · exact ih fun type address listed => held type address (mem_cons_of_mem _ listed)

end Heap

namespace Item
variable {items : ItemTypes} {item other copy : Item} {heap after : Heap}

theorem distinct_setIntAttr (distinct : item.Distinct) (type : ItemAttrType) (value : Int) : (item.setIntAttr type value).Distinct := by
  unfold Distinct setIntAttr ItemAttributes.setIntAttr at *
  dsimp only [Option.getD_some]
  generalize item.attributes.getD [] = attributes at distinct ⊢
  split
  case isTrue =>
    have keys : (attributes.map fun entry => if entry.1 = type then (type, AttrValue.integer (if type = .attackSpeed ∧ value < 100 then
        100 else value)) else entry).map Prod.fst = attributes.map Prod.fst := by
      rw [map_map]
      apply map_congr_left
      intro entry _
      rw [Function.comp_apply]
      split
      case isTrue same => exact same.symm
      case isFalse => rfl
    rw [keys]
    exact distinct
  case isFalse absent =>
    rw [map_append, map_singleton, ← concat_eq_append, nodup_concat]
    refine ⟨fun listed => absent ?_, distinct⟩
    obtain ⟨entry, member, same⟩ := mem_map.mp listed
    exact any_eq_true.mpr ⟨entry, member, decide_eq_true same⟩

theorem distinct_blank (id : Nat) : Distinct { id } := nodup_nil

section
variable (items) (normalRandom : Nat → Nat → Int) (type count : Nat)

theorem distinct_new : (new items normalRandom type count).Distinct := by
  obtain ⟨begun, made, same⟩ := new_begun items normalRandom type count
  have distinct : begun.Distinct := by
    cases made with
    | fluid | charged => exact distinct_setIntAttr (distinct_blank type) _ _
    | stack | bare => exact distinct_blank type
  rw [same]
  obtain same | ⟨duration, same⟩ := setDefaultDuration_cases items normalRandom begun
  · rw [same]
    exact distinct
  · rw [same]
    exact distinct_setIntAttr distinct _ _

theorem setDefaultDuration_eq (item : Item) : setDefaultDuration items normalRandom item =
    if (items.get item.id).defaultDuration normalRandom ≠ 0 then
      item.setIntAttr .duration (toInt32 ((items.get item.id).defaultDuration normalRandom))
    else item := by
  unfold setDefaultDuration ItemType.defaultDuration
  dsimp only

theorem new_duration : (new items normalRandom type count).attr? .duration = none ↔
    (items.get type).defaultDuration normalRandom = 0 := by
  obtain ⟨begun, made, same⟩ := new_begun items normalRandom type count
  have blank : begun.id = type ∧ begun.attr? .duration = none := by
    cases made with
    | fluid | charged => exact ⟨rfl, (attr?_setIntAttr ..).trans (if_neg (by decide))⟩
    | stack | bare => exact ⟨rfl, rfl⟩
  rw [same, setDefaultDuration_eq, blank.1]
  split
  case isTrue set => exact iff_of_false (by simp) set
  case isFalse unset => exact iff_of_true blank.2 (not_not.mp unset)

/-- The types whose items have no attributes when they are new. -/
theorem new_plain : (∀ other, (new items normalRandom type count).attr? other = none) ↔ (items.get type).isFluid = false ∧
    ((items.get type).stackable = true ∨ (items.get type).charges = 0) ∧ (items.get type).defaultDuration normalRandom = 0 := by
  constructor
  · intro plain
    have dry := (new_fluidType items normalRandom type count).symm.trans (plain .fluidType)
    have uncharged := (new_charges items normalRandom type count).symm.trans (plain .charges)
    have fluid : (items.get type).isFluid = false := by
      cases fluid : (items.get type).isFluid with
      | false => rfl
      | true => rw [fluid, if_pos rfl] at dry; cases dry
    refine ⟨fluid, ?_, (new_duration items normalRandom type count).mp (plain .duration)⟩
    split at uncharged
    case isTrue all => exact all.resolve_left (ne_true_of_eq_false fluid)
    case isFalse => cases uncharged
  · rintro ⟨dry, uncharged, timeless⟩ other
    by_cases fluid : other = .fluidType
    · rw [fluid, new_fluidType, dry, if_neg Bool.false_ne_true]
    · by_cases charges : other = .charges
      · rw [charges, new_charges, if_pos (.inr uncharged)]
      · by_cases duration : other = .duration
        · rw [duration, new_duration]
          exact timeless
        · exact new_attr? items normalRandom type count charges fluid duration

end

/-- A renamed thing gets another id. -/
theorem renamedItem_ne {type renamed : Nat} (found : renamedItem type = some renamed) : renamed ≠ type := by
  unfold renamedItem at found
  split_ifs at found <;> (cases found; omega)

/-- What `CreateItem` makes under the id that it is given. -/
def Keeps (items : ItemTypes) (type : Nat) : Prop := (items.get type).ownClass = true ∨ renamedItem type = none

section
variable {normalRandom : Nat → Nat → Int} {type count : Nat}

theorem Created.light (created : Created items normalRandom type count item) : item.totalWeight = 0 ∧ item.Distinct := by
  cases created with
  | plain => exact ⟨new_totalWeight .., distinct_new ..⟩
  | classed => exact ⟨new_totalWeight .., distinct_new items normalRandom type 0⟩

theorem createItem_keeps (indexed : items.Indexed) (created : createItem items normalRandom type count = some item) :
    item.id = type ↔ Keeps items type := by
  have own := (indexed type).resolve_left (createItem_exists created).2
  rw [createItem_id created, own, Keeps]
  cases (items.get type).ownClass with
  | true => exact iff_of_true rfl (.inl rfl)
  | false =>
    rw [if_neg Bool.false_ne_true, or_iff_right Bool.false_ne_true]
    cases renamed : renamedItem type with
    | none => exact iff_of_true rfl rfl
    | some other => exact iff_of_false (renamedItem_ne renamed) nofun

/-- A kept type is new in the copy. -/
theorem createItem_new (indexed : items.Indexed) (created : createItem items normalRandom type count = some item)
    (keeps : Keeps items type) : ∃ given, item.attributes = (new items normalRandom type given).attributes ∧
      ((items.get type).stackable = false → item.count = 1) := by
  have own := (indexed type).resolve_left (createItem_exists created).2
  cases createItem_created created with
  | plain noClass =>
    have kept : renamedItem (items.get type).id = none :=
      (congrArg renamedItem own).trans (keeps.resolve_left (ne_true_of_eq_false noClass))
    rw [kept]
    exact ⟨_, rfl, new_count items normalRandom type _⟩
  | classed => exact ⟨0, rfl, new_count items normalRandom type 0⟩

end

/-! What a copy has of its original. -/

section
variable {normalRandom : Nat → Nat → Nat → Int}

/-- An item whose attributes are what the setters leave: each type once, maps of custom attributes under their own type and in
memory, and a count of one byte. -/
structure Sound (heap : Heap) (item : Item) : Prop where
  distinct : item.Distinct
  typed : ∀ type value, item.attr? type = some value → (type = .custom ↔ ∃ address, value = .custom address)
  held : heap.Held (item.attributes.getD [])
  count : item.count < 256

theorem clone_some (made : clone items normalRandom item heap = some (copy, after)) :
    ∃ created, createItem items (normalRandom heap.made) item.id item.count = some created ∧
      copy = { created with attributes := copy.attributes } ∧ (item.attributes = none → copy.attributes = created.attributes) ∧
      ∀ attributes, item.attributes = some attributes →
        ∃ copied, copied = ({ heap with made := heap.made + 1 } : Heap).copyAttributes attributes ∧
        (0 < toUInt32 (copied.1.getIntAttr .duration) ∧ copy.attributes = some (copied.1.setIntAttr .decayState 1) ∨
          toUInt32 (copied.1.getIntAttr .duration) = 0 ∧ copy.attributes = some copied.1) := by
  unfold clone at made
  split at made
  case h_1 => cases made
  case h_2 created found =>
    refine ⟨created, found, ?_⟩
    dsimp only at made
    split at made
    case h_1 none =>
      cases made
      exact ⟨rfl, fun _ => rfl, fun attributes some => nomatch none.symm.trans some⟩
    case h_2 attributes some =>
      split at made
      case isTrue begun =>
        cases made
        refine ⟨rfl, fun none => (nomatch some.symm.trans none), fun other same => ?_⟩
        cases some.symm.trans same
        exact ⟨_, rfl, .inl ⟨begun, rfl⟩⟩
      case isFalse still =>
        cases made
        refine ⟨rfl, fun none => (nomatch some.symm.trans none), fun other same => ?_⟩
        cases some.symm.trans same
        exact ⟨_, rfl, .inr ⟨Nat.eq_zero_of_not_pos still, rfl⟩⟩

theorem attr?_of_attributes {attributes : ItemAttributes} (given : item.attributes = some attributes) (type : ItemAttrType) :
    item.attr? type = attributes.lookup type := by
  rw [attr?, given, Option.getD_some]

theorem attr?_of_none (bare : item.attributes = none) (type : ItemAttrType) : item.attr? type = none := by
  rw [attr?, bare]
  rfl

section
variable {attributes : ItemAttributes} {type : ItemAttrType}

/-- A number or a string is copied as it is. -/
theorem Sound.lookup_copied (sound : item.Sound heap) (given : item.attributes = some attributes) (plain : type = .custom → item.attr? type = none) :
    (({ heap with made := heap.made + 1 } : Heap).copyAttributes attributes).1.lookup type = item.attr? type := by
  have held := sound.held
  rw [given, Option.getD_some] at held
  have copied := Heap.lookup_copyAttributes { heap with made := heap.made + 1 } held type
  have typed := sound.typed type
  rw [attr?_of_attributes given] at typed plain ⊢
  revert typed plain copied
  generalize (({ heap with made := heap.made + 1 } : Heap).copyAttributes attributes) = result
  generalize attributes.lookup type = before
  generalize result.1.lookup type = now
  intro plain copied typed
  cases copied with
  | none => rfl
  | some same =>
    rename_i value other
    cases value with
    | custom address => exact nomatch plain ((typed _ rfl).mpr ⟨address, rfl⟩)
    | integer value => exact congrArg some same.1.symm
    | string value => exact congrArg some same.1.symm

/-- A map of custom attributes is copied to another place. -/
theorem Sound.custom_copied (sound : item.Sound heap) (given : item.attributes = some attributes) {value : AttrValue}
    (there : item.attr? .custom = some value) :
    (({ heap with made := heap.made + 1 } : Heap).copyAttributes attributes).1.lookup .custom ≠ some value := by
  have held := sound.held
  rw [given, Option.getD_some] at held
  have copied := Heap.lookup_copyAttributes { heap with made := heap.made + 1 } held .custom
  obtain ⟨address, rfl⟩ := (sound.typed .custom value there).mp rfl
  have distinct : (attributes.map Prod.fst).Nodup := by
    have distinct := sound.distinct
    rwa [Distinct, given, Option.getD_some] at distinct
  rw [attr?_of_attributes given] at there
  have live := held .custom address ((Rows.find_eq_some distinct).mp there)
  rw [there] at copied
  revert copied
  generalize (({ heap with made := heap.made + 1 } : Heap).copyAttributes attributes) = result
  generalize result.1.lookup .custom = now
  intro copied same
  subst same
  cases copied with
  | some same => exact absurd live (Nat.not_lt.mpr same.1)

theorem getIntAttr_lookup (attributes : ItemAttributes) (item : Item) (type : ItemAttrType)
    (same : attributes.lookup type = item.attr? type) : attributes.getIntAttr type = item.getIntAttr type := by
  rw [ItemAttributes.getIntAttr_eq, getIntAttr_eq, same]

theorem Sound.attributes_iff (sound : item.Sound heap) (still : item.getIntAttr .decayState ≠ 1)
    (given : item.attributes = some attributes) (made : clone items normalRandom item heap = some (copy, after)) :
    (∀ type, item.attr? type = copy.attr? type) ↔ item.hasAttribute .custom = false ∧ item.getDuration = 0 := by
  obtain ⟨created, _, _, _, cases⟩ := clone_some made
  obtain ⟨copied, rfl, cases⟩ := cases attributes given
  have plain := fun type => @Sound.lookup_copied _ _ _ type sound given
  have custom := fun value => @Sound.custom_copied _ _ _ sound given value
  generalize ({ heap with made := heap.made + 1 } : Heap).copyAttributes attributes = result at plain custom cases
  have duration : toUInt32 (result.1.getIntAttr .duration) = item.getDuration :=
    congrArg toUInt32 (getIntAttr_lookup result.1 item .duration (plain .duration nofun))
  rw [duration] at cases
  rcases cases with ⟨running, begun⟩ | ⟨timeless, kept⟩
  · apply iff_of_false
    · intro same
      have state := same .decayState
      have set : copy.attr? .decayState = some (.integer 1) :=
        calc
          _ = (({ id := 0, attributes := result.1 } : Item).setIntAttr .decayState 1).attr? .decayState := by
            rw [attr?_of_attributes begun]
            rfl
          _ = some (.integer (storedInt .decayState 1)) := by rw [attr?_setIntAttr, if_pos rfl]
      rw [set] at state
      exact still (getIntAttr_of_attr? state)
    · exact fun both => Nat.ne_of_gt running both.2
  · have lookup := attr?_of_attributes kept
    rw [and_iff_left timeless, hasAttribute_eq, Option.isSome_eq_false_iff, Option.isNone_iff_eq_none]
    constructor
    · intro same
      cases there : item.attr? .custom with
      | none => rfl
      | some value => exact absurd (((lookup .custom).symm.trans (same .custom).symm).trans there) (custom value there)
    · intro absent type
      rw [lookup, plain type fun same => same ▸ absent]

theorem bare_iff (indexed : items.Indexed) (keeps : Keeps items item.id) (bare : item.attributes = none)
    (made : clone items normalRandom item heap = some (copy, after)) :
    (∀ type, item.attr? type = copy.attr? type) ↔ (items.get item.id).isFluid = false ∧
      ((items.get item.id).stackable = true ∨ (items.get item.id).charges = 0) ∧
        (items.get item.id).defaultDuration (normalRandom heap.made) = 0 := by
  obtain ⟨created, found, _, same, _⟩ := clone_some made
  obtain ⟨given, new, _⟩ := createItem_new indexed found keeps
  have attr : ∀ type, copy.attr? type = (Item.new items (normalRandom heap.made) item.id given).attr? type := by
    intro type
    rw [attr?, attr?, same bare, new]
  rw [← new_plain items (normalRandom heap.made) item.id given]
  simp only [attr, attr?_of_none bare]
  exact forall_congr' fun type => eq_comm

theorem Sound.distinct_clone (sound : item.Sound heap) (made : clone items normalRandom item heap = some (copy, after)) :
    copy.Distinct := by
  obtain ⟨created, found, _, bare, given⟩ := clone_some made
  cases attributes : item.attributes with
  | none =>
    rw [Distinct, bare attributes]
    exact (createItem_created found).light.2
  | some own =>
    obtain ⟨copied, rfl, cases⟩ := given own attributes
    have distinct := sound.distinct
    rw [Distinct, attributes, Option.getD_some, ← Heap.keys_copyAttributes { heap with made := heap.made + 1 }] at distinct
    rcases cases with ⟨_, begun⟩ | ⟨_, kept⟩
    · rw [Distinct, begun]
      exact @distinct_setIntAttr { id := 0, attributes := some _ } distinct .decayState 1
    · rw [Distinct, kept]
      exact distinct

end

/-- What is copied besides the attributes. -/
theorem clone_shape (indexed : items.Indexed) (small : item.count < 256)
    (made : clone items normalRandom item heap = some (copy, after)) :
    (copy.id = item.id ↔ Keeps items item.id) ∧ copy.totalWeight = 0 ∧
      copy.isContainer = ((items.get item.id).isDepot || (items.get item.id).isContainer) ∧
      (Keeps items item.id → copy.count = if (items.get item.id).stackable then max 1 item.count else 1) := by
  obtain ⟨created, found, same, _⟩ := clone_some made
  have fields : copy.id = created.id ∧ copy.totalWeight = created.totalWeight ∧ copy.isContainer = created.isContainer ∧
      copy.count = created.count := by
    rw [same]
    exact ⟨rfl, rfl, rfl, rfl⟩
  obtain ⟨id, weight, container, count⟩ := fields
  rw [id, weight, container, count]
  refine ⟨createItem_keeps indexed found, (createItem_created found).light.1, createItem_isContainer found, ?_⟩
  intro keeps
  split
  case isTrue stackable =>
    obtain ⟨attributes, stack⟩ := createItem_stackable items (normalRandom heap.made) stackable item.count
    cases found.symm.trans stack
    have stored := toUInt8_of_lt (Int.natCast_nonneg (if item.count = 0 then 1 else item.count)) (by split <;> omega)
    dsimp only
    split at stored
    case isTrue empty => rw [if_pos empty]; omega
    case isFalse some => rw [if_neg some]; omega
  case isFalse single => exact (createItem_new indexed found keeps).choose_spec.2 (eq_false_of_ne_true single)

theorem getSubType_iff (id : copy.id = item.id) (attr : ∀ type, item.attr? type = copy.attr? type) :
    copy.getSubType items = item.getSubType items ↔ ((items.get item.id).isFluid = false →
      ((items.get item.id).stackable = true ∨ (items.get item.id).charges = 0) → copy.count = item.count) := by
  have integer : ∀ type, copy.getIntAttr type = item.getIntAttr type := by
    intro type
    rw [getIntAttr_eq, getIntAttr_eq, attr]
  unfold getSubType
  rw [id, integer, integer]
  change (if (items.get item.id).isFluid = true then _ else _) = (if (items.get item.id).isFluid = true then _ else _) ↔ _
  cases (items.get item.id).isFluid with
  | true => simp
  | false =>
    cases (items.get item.id).stackable with
    | true => simp
    | false =>
      by_cases charges : (items.get item.id).charges = 0
      · simp [charges]
      · simp [charges]

theorem ownWeight_lt (weights : ∀ id, (items.get id).weight < 2 ^ 32) (item : Item) : item.ownWeight items < 2 ^ 32 := by
  have base : item.getBaseWeight items < 2 ^ 32 := by
    unfold getBaseWeight
    split
    case isTrue => unfold toUInt32; omega
    case isFalse => exact weights _
  unfold ownWeight
  split
  case isTrue => exact Nat.mod_lt _ (by decide)
  case isFalse => exact base

theorem ownWeight_congr (id : copy.id = item.id) (attr : ∀ type, item.attr? type = copy.attr? type)
    (count : (items.get item.id).stackable = true → copy.count = item.count) : copy.ownWeight items = item.ownWeight items := by
  have base : copy.getBaseWeight items = item.getBaseWeight items := by
    unfold getBaseWeight
    rw [hasAttribute_eq, hasAttribute_eq, getIntAttr_eq, getIntAttr_eq, attr, id]
  unfold ownWeight isStackable
  rw [base, id]
  split
  case isTrue stackable => rw [count stackable]
  case isFalse => rfl

section
variable {tree copied : Rose Item}

variable (items) in
/-- Something is created for the item, and if the item holds others, what is created can. -/
def Copyable (item : Item) : Prop :=
  (items.get item.id).Exists ∧ (item.isContainer = true → ((items.get item.id).isDepot || (items.get item.id).isContainer) = true)

theorem clone_isSome (item : Item) (heap : Heap) :
    (clone items normalRandom item heap).isSome = true ↔ (items.get item.id).Exists := by
  constructor
  · intro made
    obtain ⟨⟨copy, after⟩, made⟩ := Option.isSome_iff_exists.mp made
    obtain ⟨created, found, _⟩ := clone_some made
    exact createItem_exists found
  · intro exist
    obtain ⟨created, found⟩ := createItem_some (normalRandom heap.made) item.count exist
    unfold clone
    rw [found]
    dsimp only
    split
    · rfl
    · split <;> rfl

theorem cloneTree_node (item : Item) (children : List (Rose Item)) (heap : Heap) :
    cloneTree items normalRandom (.node item children) heap =
      match clone items normalRandom item heap with
      | none => none
      | some (copy, heap) =>
        if item.isContainer then
          if copy.isContainer then
            match cloneAll (children.map (cloneTree items normalRandom)) heap with
            | none => none
            | some (copies, heap) => some (.node { copy with totalWeight := item.totalWeight } copies, heap)
          else none
        else some (.node copy [], heap) :=
  congrFun (Rose.fold_node _ item children) heap

theorem cloneAll_isSome {children : List (Rose Item)} (each : ∀ child ∈ children, ∀ heap,
      (cloneTree items normalRandom child heap).isSome = true ↔ child.All fun item _ => Copyable items item) (heap : Heap) :
    (cloneAll (children.map (cloneTree items normalRandom)) heap).isSome = true ↔
      ∀ child ∈ children, child.All fun item _ => Copyable items item := by
  induction children generalizing heap with
  | nil => exact iff_of_true rfl nofun
  | cons child children ih =>
    have first := each child mem_cons_self heap
    have rest := ih fun other listed => each other (mem_cons_of_mem _ listed)
    rw [map_cons, cloneAll, forall_mem_cons, ← first]
    cases cloneTree items normalRandom child heap with
    | none => exact iff_of_false nofun fun both => nomatch both.1
    | some made =>
      dsimp only
      rw [← rest made.2]
      cases cloneAll (children.map (cloneTree items normalRandom)) made.2 with
      | none => exact iff_of_false nofun fun both => nomatch both.2
      | some copies => exact iff_of_true rfl ⟨rfl, rfl⟩

/-- The copy of a tree succeeds if all of its items can be copied. -/
theorem cloneTree_isSome (indexed : items.Indexed) (contained : tree.All fun item children => item.isContainer = false → children = [])
    (small : tree.All fun item _ => item.count < 256) (heap : Heap) :
    (cloneTree items normalRandom tree heap).isSome = true ↔ tree.All fun item _ => Copyable items item := by
  induction tree using Rose.induct generalizing heap with
  | node item children ih =>
    have each : ∀ child ∈ children, ∀ heap,
        (cloneTree items normalRandom child heap).isSome = true ↔ child.All fun item _ => Copyable items item :=
      fun child listed => ih child listed (contained.inner child listed) (small.inner child listed)
    have one := @clone_isSome items normalRandom item heap
    have whole : (Rose.All (fun item _ => Copyable items item) (.node item children)) ↔
        Copyable items item ∧ ∀ child ∈ children, child.All fun item _ => Copyable items item :=
      ⟨fun all => ⟨all.here, all.inner⟩, fun both => .node both.1 both.2⟩
    rw [cloneTree_node, whole, Copyable, ← one]
    cases made : clone items normalRandom item heap with
    | none => exact iff_of_false nofun fun all => nomatch all.1.1
    | some result =>
      obtain ⟨copy, after⟩ := result
      obtain ⟨_, _, container, _⟩ := clone_shape indexed small.here made
      dsimp only
      rw [← container]
      cases holds : item.isContainer with
      | false =>
        rw [contained.here holds]
        exact iff_of_true rfl ⟨⟨rfl, nofun⟩, nofun⟩
      | true =>
        rw [if_pos rfl]
        cases copy.isContainer with
        | false => exact iff_of_false nofun fun all => Bool.false_ne_true (all.1.2 rfl)
        | true =>
          rw [if_pos rfl, ← cloneAll_isSome each after]
          cases cloneAll (children.map (cloneTree items normalRandom)) after with
          | none => exact iff_of_false nofun fun all => nomatch all.2
          | some copies => exact iff_of_true rfl ⟨⟨rfl, fun _ => rfl⟩, rfl⟩

theorem cloneTree_some (made : cloneTree items normalRandom tree heap = some (copied, after)) :
    ∃ copy now, clone items normalRandom tree.value heap = some (copy, now) ∧
      copied.value = if tree.value.isContainer then { copy with totalWeight := tree.value.totalWeight } else copy := by
  obtain ⟨item, children⟩ := tree
  rw [cloneTree_node] at made
  split at made
  case h_1 => cases made
  case h_2 copy now found =>
    refine ⟨copy, now, found, ?_⟩
    change copied.value = if item.isContainer then { copy with totalWeight := item.totalWeight } else copy
    split at made
    case isTrue holds =>
      rw [if_pos holds]
      split at made
      case isTrue =>
        split at made
        case h_1 => cases made
        case h_2 => cases made; rfl
      case isFalse => cases made
    case isFalse plain =>
      rw [if_neg plain]
      cases made
      rfl

variable (items normalRandom heap) in
/-- A copied item: the same id, sub type, attributes and weight, and equal to the item in both directions. -/
def Faithful (tree : Rose Item) : Prop :=
  ∃ copied after, cloneTree items normalRandom tree heap = some (copied, after) ∧ copied.value.id = tree.value.id ∧
    copied.value.getSubType items = tree.value.getSubType items ∧
    (∀ type, Option.Rel (heap.SameValue after) (tree.value.attr? type) (copied.value.attr? type)) ∧
    copied.value.getWeight items = tree.value.getWeight items ∧
    tree.value.equals (some copied.value) = true ∧ copied.value.equals (some tree.value) = true

variable (items normalRandom heap) in
/-- The items whose copies are the same: everything in them can be created again, under the same id, with a count that the
constructor keeps, and either there are attributes, none of them custom, and no duration, or the constructor sets none. -/
structure Cloneable (tree : Rose Item) : Prop where
  copyable : tree.All fun item _ => Copyable items item
  keeps : Keeps items tree.value.id
  count : (items.get tree.value.id).isFluid = false →
    if (items.get tree.value.id).stackable then tree.value.count ≠ 0
    else (items.get tree.value.id).charges = 0 → tree.value.count = 1
  attributes : if tree.value.attributes.isSome then tree.value.hasAttribute .custom = false ∧ tree.value.getDuration = 0
    else (items.get tree.value.id).isFluid = false ∧
      ((items.get tree.value.id).stackable = true ∨ (items.get tree.value.id).charges = 0) ∧
        (items.get tree.value.id).defaultDuration (normalRandom heap.made) = 0

/-- The attributes of a copy under the same id are those of the item just where the last condition holds. -/
theorem Sound.attr?_iff (indexed : items.Indexed) (sound : item.Sound heap) (still : item.getIntAttr .decayState ≠ 1)
    (keeps : Keeps items item.id) (made : clone items normalRandom item heap = some (copy, after)) :
    (∀ type, item.attr? type = copy.attr? type) ↔
      if item.attributes.isSome then item.hasAttribute .custom = false ∧ item.getDuration = 0
      else (items.get item.id).isFluid = false ∧ ((items.get item.id).stackable = true ∨ (items.get item.id).charges = 0) ∧
        (items.get item.id).defaultDuration (normalRandom heap.made) = 0 := by
  cases given : item.attributes with
  | none => exact bare_iff indexed keeps given made
  | some attributes => exact sound.attributes_iff still given made

theorem count_iff (count : copy.count = if (items.get item.id).stackable then max 1 item.count else 1) :
    ((items.get item.id).isFluid = false → ((items.get item.id).stackable = true ∨ (items.get item.id).charges = 0) →
      copy.count = item.count) ↔ ((items.get item.id).isFluid = false →
        if (items.get item.id).stackable then item.count ≠ 0 else (items.get item.id).charges = 0 → item.count = 1) := by
  apply forall_congr'
  intro _
  cases stackable : (items.get item.id).stackable with
  | true =>
    rw [stackable, if_pos rfl] at count
    rw [if_pos rfl, count]
    simp only [true_or, true_imp_iff]
    omega
  | false =>
    rw [stackable, if_neg Bool.false_ne_true] at count
    rw [if_neg Bool.false_ne_true, count]
    simp only [Bool.false_eq_true, false_or]
    exact forall_congr' fun _ => eq_comm

/-- Values that are not custom are the same as themselves. -/
theorem Sound.sameValue (sound : item.Sound heap) {bare : Prop}
    (plain : if item.attributes.isSome then item.hasAttribute .custom = false ∧ item.getDuration = 0 else bare) (type : ItemAttrType) :
    Option.Rel (heap.SameValue after) (item.attr? type) (item.attr? type) := by
  cases held : item.attr? type with
  | none => exact .none
  | some value =>
    cases value with
    | integer value => exact .some rfl
    | string value => exact .some rfl
    | custom address =>
      obtain rfl := (sound.typed type _ held).mpr ⟨address, rfl⟩
      cases given : item.attributes with
      | none =>
        rw [attr?_of_none given] at held
        cases held
      | some attributes =>
        rw [given] at plain
        have absent := plain.1
        rw [hasAttribute_eq, held] at absent
        cases absent

theorem faithful_iff (indexed : items.Indexed) (weights : ∀ id, (items.get id).weight < 2 ^ 32)
    (contained : tree.All fun item children => item.isContainer = false → children = [])
    (small : tree.All fun item _ => item.count < 256) (sound : tree.value.Sound heap)
    (still : tree.value.getIntAttr .decayState ≠ 1) : Faithful items heap normalRandom tree ↔ Cloneable items heap normalRandom tree := by
  have possible := @cloneTree_isSome _ normalRandom _ indexed contained small heap
  constructor
  · rintro ⟨copied, after, made, id, subType, _, _, equal, _⟩
    obtain ⟨copy, now, cloned, top⟩ := cloneTree_some made
    obtain ⟨kept, _, _, count⟩ := clone_shape indexed sound.count cloned
    have fields : copied.value.id = copy.id ∧ copied.value.count = copy.count ∧ (∀ type, copied.value.attr? type = copy.attr? type) ∧
        (copied.value.Distinct ↔ copy.Distinct) := by
      rw [top]
      split
      · exact ⟨rfl, rfl, fun _ => rfl, Iff.rfl⟩
      · exact ⟨rfl, rfl, fun _ => rfl, Iff.rfl⟩
    obtain ⟨sameId, sameCount, attr, distinct⟩ := fields
    have keeps := kept.mp (sameId.symm.trans id)
    have attributes := ((equals_iff sound.distinct (distinct.mpr (sound.distinct_clone cloned))).mp equal).2
    refine ⟨possible.mp (Option.isSome_of_eq_some made), keeps, ?_, ?_⟩
    · apply (count_iff (count keeps)).mp
      rw [← sameCount]
      exact (getSubType_iff id attributes).mp subType
    · exact (sound.attr?_iff indexed still keeps cloned).mp fun type => (attributes type).trans (attr type)
  · intro cloneable
    obtain ⟨⟨copied, after⟩, made⟩ := Option.isSome_iff_exists.mp (possible.mpr cloneable.copyable)
    obtain ⟨copy, now, cloned, top⟩ := cloneTree_some made
    obtain ⟨kept, light, container, count⟩ := clone_shape indexed sound.count cloned
    have id := kept.mpr cloneable.keeps
    have attributes := (sound.attr?_iff indexed still cloneable.keeps cloned).mpr cloneable.attributes
    have count := (count_iff (count cloneable.keeps)).mpr cloneable.count
    have fields : copied.value.id = copy.id ∧ copied.value.count = copy.count ∧ (∀ type, copied.value.attr? type = copy.attr? type) ∧
        (copied.value.Distinct ↔ copy.Distinct) ∧ copied.value.ownWeight items = copy.ownWeight items := by
      rw [top]
      split
      · exact ⟨rfl, rfl, fun _ => rfl, Iff.rfl, rfl⟩
      · exact ⟨rfl, rfl, fun _ => rfl, Iff.rfl, rfl⟩
    obtain ⟨sameId, sameCount, attr, distinct, own⟩ := fields
    have sameAttr : ∀ type, tree.value.attr? type = copied.value.attr? type := fun type => (attributes type).trans (attr type).symm
    have equal : tree.value.equals (some copied.value) = true :=
      (equals_iff sound.distinct (distinct.mpr (sound.distinct_clone cloned))).mpr ⟨(sameId.trans id).symm, sameAttr⟩
    refine ⟨copied, after, made, sameId.trans id, ?_, ?_, ?_, equal, ?_⟩
    · apply (getSubType_iff (sameId.trans id) sameAttr).mpr
      rw [sameCount]
      exact count
    · intro type
      rw [← sameAttr]
      exact sound.sameValue cloneable.attributes type
    · have dry : (items.get tree.value.id).stackable = true → (items.get tree.value.id).isFluid = false := by
        intro stackable
        have plain := (items.stackable_plain _ stackable).group
        simp [ItemType.isFluid, ItemType.isFluidContainer, ItemType.isSplash, plain]
      have weight : copied.value.ownWeight items = tree.value.ownWeight items :=
        own.trans (ownWeight_congr id attributes fun stackable => count (dry stackable) (.inl stackable))
      have bound := ownWeight_lt weights tree.value
      rw [getWeight_eq, getWeight_eq, weight, top]
      cases holds : tree.value.isContainer with
      | true =>
        have class_kept : copy.isContainer = true := container.trans (cloneable.copyable.top.2 holds)
        rw [if_pos rfl, if_pos rfl]
        exact if_pos class_kept
      | false =>
        rw [if_neg Bool.false_ne_true, if_neg Bool.false_ne_true, light, Nat.add_zero, Nat.mod_eq_of_lt bound, ite_self]
    · rw [← equals_comm]
      exact equal

end

end

/-- Copies of an item that is not decaying are the same just under the condition above, and equal items are those with the same id and
the same attributes, which is an equivalence. -/
theorem clone_equals (indexed : items.Indexed) (weights : ∀ id, (items.get id).weight < 2 ^ 32) :
    (∀ (heap : Heap) (normalRandom : Nat → Nat → Nat → Int) (tree : Rose Item),
      (tree.All fun item children => item.isContainer = false → children = []) → (tree.All fun item _ => item.count < 256) →
      tree.value.Sound heap → tree.value.getIntAttr .decayState ≠ 1 →
      (Faithful items heap normalRandom tree ↔ Cloneable items heap normalRandom tree)) ∧
    (∀ item : Item, item.Distinct → item.equals (some item) = true) ∧
    (∀ item other : Item, item.equals (some other) = other.equals (some item)) ∧
    (∀ one two three : Item, one.Distinct → two.Distinct → three.Distinct →
      one.equals (some two) = true → two.equals (some three) = true → one.equals (some three) = true) ∧
    ∀ item other : Item, item.Distinct → other.Distinct → item.equals (some other) = true →
      item.id = other.id ∧ ∀ type, item.attr? type = other.attr? type := by
  refine ⟨?_, ?_, equals_comm, ?_, ?_⟩
  · intro heap normalRandom tree contained small sound still
    exact faithful_iff indexed weights contained small sound still
  · intro item distinct
    exact (equals_iff distinct distinct).mpr ⟨rfl, fun _ => rfl⟩
  · intro one two three first second third left right
    obtain ⟨sameId, sameAttr⟩ := (equals_iff first second).mp left
    obtain ⟨nextId, nextAttr⟩ := (equals_iff second third).mp right
    exact (equals_iff first third).mpr ⟨sameId.trans nextId, fun type => (sameAttr type).trans (nextAttr type)⟩
  · intro item other first second equal
    exact (equals_iff first second).mp equal

theorem gameItems_weights (id : Nat) : (gameItems.get id).weight < 2 ^ 32 := by
  have light : ∀ it ∈ gameTypes, it.weight < 2 ^ 32 := by decide
  rcases ItemTypes.ofList_get gameTypes [(10000, 2160), (100, 2152), (1, 2148)] (by decide) (by decide) id with blank | listed
  · rw [gameItems, blank]
    decide
  · exact light _ listed

/-- A bag with coins in it can be copied. -/
theorem clone_equals_bag : Faithful gameItems ⟨fun _ => none, 0, fun _ _ => rfl, 0⟩ (fun _ _ _ => 0)
    (.node { id := 1987, kind := .container, totalWeight := 200 } [.node { id := 2148, count := 20 } []]) := by
  have exact_types : ItemType.Exists (gameItems.get 1987) ∧ ItemType.Exists (gameItems.get 2148) := by
    constructor <;> (constructor <;> decide)
  refine ((clone_equals (ItemTypes.ofList_id _ _ _ _) gameItems_weights).1 _ _ _ ?_ ?_ ?_ ?_).mpr ⟨?_, ?_, ?_, ?_⟩
  · exact .node nofun (by simp; exact .node (fun _ => rfl) nofun)
  · exact .node (by decide) (by simp; exact .node (by decide) nofun)
  · exact ⟨nodup_nil, nofun, nofun, by decide⟩
  · decide
  · exact .node ⟨exact_types.1, fun _ => by decide⟩ (by simp; exact .node ⟨exact_types.2, nofun⟩ nofun)
  · exact .inl (by decide)
  · decide
  · decide

def engraved : Item := { id := 2376, attributes := some [(.custom, .custom 0)] }

def engravedHeap : Heap where
  maps := fun address => if address = 0 then some (CustomAttributeMap.empty.setCustomAttribute [97] (.integer 1)) else none
  next := 1
  unused := fun _ behind => if_neg (Nat.ne_of_gt behind)
  made := 0

/-- The copy has the same custom attribute, but in another map, and is not equal. -/
theorem not_faithful_engraved : ¬ Faithful gameItems engravedHeap (fun _ _ _ => 0) (.node engraved []) := by
  rintro ⟨copied, after, made, _, _, _, _, equal, _⟩
  have copy : cloneTree gameItems (fun _ _ _ => 0) (.node engraved []) engravedHeap =
      some (.node { id := 2376, attributes := some [(.custom, .custom 1)] } [], { engravedHeap with made := 1 }.copy 0) := rfl
  cases made.symm.trans copy
  exact Bool.false_ne_true equal

end Item

end Styller
