import Styller.Item.CustomAttribute
import Styller.Item.Item
import Styller.Library.Rows

/-! How `ItemAttributes` keeps its values: a vector of attributes, and the bits of their types beside it. -/

namespace Styller

open Library List

/-- The bit of an enumerator. -/
def ItemAttrType.place : ItemAttrType → Nat
  | .actionId => 0
  | .uniqueId => 1
  | .description => 2
  | .text => 3
  | .date => 4
  | .writer => 5
  | .name => 6
  | .article => 7
  | .pluralName => 8
  | .weight => 9
  | .attack => 10
  | .defense => 11
  | .extraDefense => 12
  | .armor => 13
  | .hitChance => 14
  | .shootRange => 15
  | .owner => 16
  | .duration => 17
  | .decayState => 18
  | .corpseOwner => 19
  | .charges => 20
  | .fluidType => 21
  | .doorId => 22
  | .decayTo => 23
  | .wrapId => 24
  | .storeItem => 25
  | .attackSpeed => 26
  | .durationMax => 27
  | .custom => 31

/-- The value of an enumerator. -/
def ItemAttrType.code (type : ItemAttrType) : BitVec 32 := BitVec.twoPow 32 type.place

/-- `ITEM_ATTRIBUTE_DURATION_MIN` is another name of an enumerator. -/
def ItemAttrType.durationMin : ItemAttrType := .duration

/-- `Attribute::Value`; `null` is one that nothing was written to. -/
inductive AttributeStore.Value where
  | null
  | integer (value : Int64)
  | string (value : Bytes)
  | custom (map : CustomAttributeMap)

namespace AttributeStore.Value

def getInteger : Value → Int64
  | .integer value => value
  | _ => 0

def getString : Value → Bytes
  | .string value => value
  | _ => []

def getCustom : Value → CustomAttributeMap
  | .custom map => map
  | _ => .empty

end AttributeStore.Value

/-- `ItemAttributes` in memory. -/
structure AttributeStore where
  attributes : List (BitVec 32 × AttributeStore.Value) := []
  attributeBits : BitVec 32 := 0

namespace CustomAttributeMap

def find (map : CustomAttributeMap) (key : Bytes) : Option CustomAttribute := Rows.find map.entries (toLowerCopy key)

def erase (map : CustomAttributeMap) (key : Bytes) : CustomAttributeMap where
  entries := map.entries.filter fun entry => entry.1 ≠ toLowerCopy key
  distinct := List.Sublist.nodup (filter_sublist.map _) map.distinct
  lowerCase := fun entry listed => map.lowerCase entry (mem_filter.mp listed).1

theorem setCustomAttribute_erase (map : CustomAttributeMap) (key : Bytes) (value : CustomAttribute) :
    (map.erase key).setCustomAttribute key value = map.setCustomAttribute key value := by
  apply CustomAttributeMap.ext
  unfold setCustomAttribute erase
  dsimp only
  rw [filter_filter]
  simp only [Bool.and_self]

theorem find_erase (map : CustomAttributeMap) (key other : Bytes) :
    (map.erase key).find other = if toLowerCopy key = toLowerCopy other then none else map.find other := by
  apply Option.ext
  intro value
  rw [find, Rows.find_eq_some (map.erase key).distinct, erase, mem_filter, decide_eq_true_eq]
  split
  case isTrue same => exact iff_of_false (fun both => both.2 same.symm) nofun
  case isFalse different => rw [find, Rows.find_eq_some map.distinct, and_iff_left (Ne.symm different)]

/-- A key that is not there has nothing to take out. -/
theorem erase_of_find_none {map : CustomAttributeMap} {key : Bytes} (missing : map.find key = none) : map.erase key = map := by
  apply CustomAttributeMap.ext
  apply filter_eq_self.mpr
  intro entry listed
  have absent : toLowerCopy key ∉ map.entries.map Prod.fst := fun found =>
    Option.not_isSome_iff_eq_none.mpr missing (Rows.find_isSome.mpr found)
  exact decide_eq_true fun same => absent (same ▸ mem_map_of_mem listed)

theorem find_setCustomAttribute (map : CustomAttributeMap) (key other : Bytes) (value : CustomAttribute) :
    (map.setCustomAttribute key value).find other =
      if toLowerCopy key = toLowerCopy other then some value else map.find other := by
  have absent : toLowerCopy key ∉ (map.erase key).entries.map Prod.fst := by
    intro listed
    obtain ⟨entry, kept, same⟩ := mem_map.mp listed
    exact of_decide_eq_true (mem_filter.mp kept).2 same
  have rest := find_erase map key other
  have found : Rows.find ((map.erase key).entries ++ [(toLowerCopy key, value)]) (toLowerCopy other) = _ :=
    Rows.find_append_singleton absent (toLowerCopy other)
  rw [← find, rest] at found
  refine found.trans ?_
  split
  case isTrue same => exact (if_pos same.symm).symm
  case isFalse different => exact (if_neg (Ne.symm different)).trans (if_neg (Ne.symm different)).symm

end CustomAttributeMap

namespace AttributeStore

def mask (types : List ItemAttrType) : BitVec 32 := types.foldr (fun type bits => type.code ||| bits) 0

def intAttributeTypes : BitVec 32 :=
  mask [.actionId, .uniqueId, .date, .weight, .attack, .defense, .extraDefense, .armor, .hitChance, .shootRange, .owner, .duration,
    .decayState, .corpseOwner, .charges, .fluidType, .doorId, .decayTo, .attackSpeed]

def stringAttributeTypes : BitVec 32 := mask [.description, .text, .writer, .name, .article, .pluralName]

def isIntAttrType (type : BitVec 32) : Bool := type &&& intAttributeTypes = type

def isStrAttrType (type : BitVec 32) : Bool := type &&& stringAttributeTypes = type

def hasAttribute (store : AttributeStore) (type : BitVec 32) : Bool := type &&& store.attributeBits ≠ 0

def getExistingAttr (store : AttributeStore) (type : BitVec 32) : Option Value :=
  if store.hasAttribute type then Rows.find store.attributes type else none

/-- `getAttr`, with what is written through the reference that it returns. -/
def getAttr (store : AttributeStore) (type : BitVec 32) (write : Value → Value) : AttributeStore :=
  match store.getExistingAttr type with
  | some _ => { store with attributes := Rows.write type .null write store.attributes }
  | none => { attributes := store.attributes ++ [(type, write .null)], attributeBits := store.attributeBits ||| type }

def removeAttribute (store : AttributeStore) (type : BitVec 32) : AttributeStore :=
  if store.hasAttribute type then
    { attributes := Rows.remove store.attributes type, attributeBits := store.attributeBits &&& ~~~type }
  else store

def getIntAttr (store : AttributeStore) (type : BitVec 32) : Int64 :=
  if isIntAttrType type then ((store.getExistingAttr type).map Value.getInteger).getD 0 else 0

def setIntAttr (store : AttributeStore) (type : BitVec 32) (value : Int64) : AttributeStore :=
  if isIntAttrType type then
    let value := if type = ItemAttrType.attackSpeed.code ∧ value < 100 then 100 else value
    store.getAttr type fun _ => .integer value
  else store

def increaseIntAttr (store : AttributeStore) (type : BitVec 32) (value : Int64) : AttributeStore :=
  store.setIntAttr type (store.getIntAttr type + value)

def getStrAttr (store : AttributeStore) (type : BitVec 32) : Bytes :=
  if isStrAttrType type then ((store.getExistingAttr type).map Value.getString).getD [] else []

def setStrAttr (store : AttributeStore) (type : BitVec 32) (value : Bytes) : AttributeStore :=
  if isStrAttrType type then
    if value = [] then store else store.getAttr type fun _ => .string value
  else store

def getCustomAttributeMap (store : AttributeStore) : Option CustomAttributeMap :=
  (store.getExistingAttr ItemAttrType.custom.code).map Value.getCustom

def getCustomAttribute (store : AttributeStore) (key : Bytes) : Option CustomAttribute :=
  store.getCustomAttributeMap.bind fun map => map.find key

/-- `removeCustomAttribute`, with its answer. -/
def removeCustomAttribute (store : AttributeStore) (key : Bytes) : Bool × AttributeStore :=
  match store.getCustomAttributeMap with
  | some map =>
    if (map.find key).isSome then (true, store.getAttr ItemAttrType.custom.code fun held => .custom (held.getCustom.erase key))
    else (false, store)
  | none => (false, store)

def setCustomAttribute (store : AttributeStore) (key : Bytes) (value : CustomAttribute) : AttributeStore :=
  let store :=
    if store.hasAttribute ItemAttrType.custom.code then (store.removeCustomAttribute key).2
    else store.getAttr ItemAttrType.custom.code fun _ => .custom .empty
  store.getAttr ItemAttrType.custom.code fun held => .custom (held.getCustom.setCustomAttribute key value)

section
variable (store : AttributeStore)

def getOr (type : ItemAttrType) (default : Int32) : Int32 :=
  if store.hasAttribute type.code then (store.getIntAttr type.code).toInt32 else default

def getDecayTimeMin (decayTimeMin : Int32) : Int32 := store.getOr .durationMin decayTimeMin

def getDecayTimeMax (decayTimeMax : Int32) : Int32 := store.getOr .durationMax decayTimeMax

def getDecayTo (decayTo : Int32) : Int32 := store.getOr .decayTo decayTo

end

/-- What is done with the attributes of an item. A number as the key of a custom attribute is written in digits. -/
inductive Operation where
  | setIntAttr (type : ItemAttrType) (value : Int64)
  | increaseIntAttr (type : ItemAttrType) (value : Int64)
  | setStrAttr (type : ItemAttrType) (value : Bytes)
  | removeAttribute (type : ItemAttrType)
  | setCustomAttribute (key : Bytes) (value : CustomAttribute)
  | removeCustomAttribute (key : Bytes)

def apply (store : AttributeStore) : Operation → AttributeStore
  | .setIntAttr type value => store.setIntAttr type.code value
  | .increaseIntAttr type value => store.increaseIntAttr type.code value
  | .setStrAttr type value => store.setStrAttr type.code value
  | .removeAttribute type => store.removeAttribute type.code
  | .setCustomAttribute key value => store.setCustomAttribute key value
  | .removeCustomAttribute key => (store.removeCustomAttribute key).2

/-! What the attributes mean: each one has a history of its own. -/

namespace Operation
variable (type : ItemAttrType)

def atLeast (value : Int64) : Int64 := if type = .attackSpeed ∧ value < 100 then 100 else value

/-- Whether an attribute is there after an operation. -/
def present (held : Bool) : Operation → Bool
  | .setIntAttr other _ | .increaseIntAttr other _ => held || (other = type ∧ isIntAttrType type.code)
  | .setStrAttr other value => held || (other = type ∧ isStrAttrType type.code ∧ value ≠ [])
  | .removeAttribute other => held && other ≠ type
  | .setCustomAttribute _ _ => held || type = .custom
  | .removeCustomAttribute _ => held

/-- The number in an attribute after an operation. -/
def integer (held : Int64) : Operation → Int64
  | .setIntAttr other value => if other = type then atLeast type value else held
  | .increaseIntAttr other value => if other = type then atLeast type (held + value) else held
  | .removeAttribute other => if other = type then 0 else held
  | _ => held

/-- The string in an attribute after an operation: the empty one is not stored. -/
def string (held : Bytes) : Operation → Bytes
  | .setStrAttr other value => if other = type ∧ value ≠ [] then value else held
  | .removeAttribute other => if other = type then [] else held
  | _ => held

def custom (key : Bytes) (held : Option CustomAttribute) : Operation → Option CustomAttribute
  | .setCustomAttribute other value => if toLowerCopy other = toLowerCopy key then some value else held
  | .removeCustomAttribute other => if toLowerCopy other = toLowerCopy key then none else held
  | .removeAttribute other => if other = .custom then none else held
  | _ => held

end Operation


theorem place_lt (type : ItemAttrType) : type.place < 32 := by cases type <;> decide

theorem twoPow_ne_zero {place : Nat} (inside : place < 32) : BitVec.twoPow 32 place ≠ 0 := by
  intro zero
  have selected := congrArg (fun bits => bits.getLsbD place) zero
  simp [inside] at selected

theorem twoPow_inj {place other : Nat} (inside : place < 32) (same : BitVec.twoPow 32 place = BitVec.twoPow 32 other) :
    place = other := by
  have selected := congrArg (fun bits => bits.getLsbD place) same
  simpa [inside, eq_comm] using selected

/-- No two enumerators stand for one bit. -/
theorem code_inj {first second : ItemAttrType} (same : first.code = second.code) : first = second := by
  have places : ∀ type : ItemAttrType, type.ctorIdx = if type.place = 31 then 28 else type.place := by
    intro type
    cases type <;> rfl
  have equal := twoPow_inj (place_lt first) same
  have index : first.ctorIdx = second.ctorIdx := by rw [places, places, equal]
  cases first <;> cases second <;> first | rfl | cases index

/-- No type stands twice, and the bits are those of the types that stand there. -/
structure Sound (store : AttributeStore) : Prop where
  distinct : (store.attributes.map Prod.fst).Nodup
  bits : ∀ place < 32, store.attributeBits.getLsbD place = true ↔ BitVec.twoPow 32 place ∈ store.attributes.map Prod.fst

variable {store : AttributeStore} {type other : ItemAttrType}

def held (store : AttributeStore) (type : ItemAttrType) : Option Value := Rows.find store.attributes type.code

theorem hasAttribute_code (store : AttributeStore) (type : ItemAttrType) :
    store.hasAttribute type.code = store.attributeBits.getLsbD type.place := by
  rw [hasAttribute, ItemAttrType.code, BitVec.twoPow_and]
  split
  case isTrue selected => rw [selected, decide_eq_true (twoPow_ne_zero (place_lt type))]
  case isFalse clear => exact (decide_eq_false (not_not.mpr rfl)).trans (Bool.not_eq_true _ ▸ clear).symm

theorem Sound.hasAttribute (sound : store.Sound) (type : ItemAttrType) : store.hasAttribute type.code = (store.held type).isSome := by
  rw [hasAttribute_code, Bool.eq_iff_iff, sound.bits type.place (place_lt type), held, Rows.find_isSome]
  rfl

theorem Sound.getExistingAttr (sound : store.Sound) (type : ItemAttrType) : store.getExistingAttr type.code = store.held type := by
  rw [AttributeStore.getExistingAttr, sound.hasAttribute]
  split
  case isTrue => rfl
  case isFalse absent => exact (Option.not_isSome_iff_eq_none.mp absent).symm

theorem sound_empty : Sound {} := ⟨.nil, fun _ _ => iff_of_false (by simp) nofun⟩

theorem Sound.getAttr (sound : store.Sound) (type : ItemAttrType) (write : Value → Value) : (store.getAttr type.code write).Sound := by
  unfold AttributeStore.getAttr
  rw [sound.getExistingAttr]
  split
  case h_1 value found =>
    have listed : type.code ∈ store.attributes.map Prod.fst := Rows.find_isSome.mp (Option.isSome_of_eq_some found)
    have keys := Rows.keys_write_of_mem .null write listed
    exact ⟨keys ▸ sound.distinct, fun place inside => keys ▸ sound.bits place inside⟩
  case h_2 missing =>
    have absent : type.code ∉ store.attributes.map Prod.fst := fun listed =>
      Option.not_isSome_iff_eq_none.mpr missing (Rows.find_isSome.mpr listed)
    constructor
    · rw [map_append, map_singleton, ← concat_eq_append, nodup_concat]
      exact ⟨absent, sound.distinct⟩
    · intro place inside
      have same : BitVec.twoPow 32 place = type.code ↔ type.place = place :=
        ⟨fun equal => (twoPow_inj inside equal).symm, fun equal => equal ▸ rfl⟩
      rw [map_append, map_singleton, mem_append, mem_singleton, same, ← sound.bits place inside, BitVec.getLsbD_or,
        Bool.or_eq_true, ItemAttrType.code, BitVec.getLsbD_twoPow, Bool.and_eq_true, decide_eq_true_eq, decide_eq_true_eq,
        and_iff_right (place_lt type)]

theorem Sound.held_getAttr (sound : store.Sound) (type : ItemAttrType) (write : Value → Value) (other : ItemAttrType) :
    (store.getAttr type.code write).held other = if other = type then some (write ((store.held type).getD .null)) else store.held other := by
  have same : other.code = type.code ↔ other = type := ⟨code_inj, congrArg ItemAttrType.code⟩
  unfold AttributeStore.getAttr
  rw [sound.getExistingAttr]
  split
  case h_1 value found =>
    rw [held, Rows.find_write]
    simp only [same]
    rfl
  case h_2 missing =>
    have absent : type.code ∉ store.attributes.map Prod.fst := fun listed =>
      Option.not_isSome_iff_eq_none.mpr missing (Rows.find_isSome.mpr listed)
    rw [held, Rows.find_append_singleton absent, missing]
    simp only [same]
    rfl

theorem Sound.removeAttribute (sound : store.Sound) (type : ItemAttrType) : (store.removeAttribute type.code).Sound := by
  unfold AttributeStore.removeAttribute
  split
  case isFalse => exact sound
  case isTrue =>
    refine ⟨Rows.distinct_remove sound.distinct, ?_⟩
    intro place inside
    have same : BitVec.twoPow 32 place = type.code ↔ type.place = place :=
      ⟨fun equal => (twoPow_inj inside equal).symm, fun equal => equal ▸ rfl⟩
    rw [← Rows.find_isSome, Rows.find_remove sound.distinct, BitVec.getLsbD_and, BitVec.getLsbD_not, ItemAttrType.code,
      BitVec.getLsbD_twoPow, ← ItemAttrType.code, Bool.and_eq_true, sound.bits place inside, ← Rows.find_isSome]
    by_cases here : type.place = place
    · simp [same.mpr here, here, inside]
    · rw [if_neg fun equal => here (same.mp equal)]
      simp [here, inside]

theorem Sound.held_removeAttribute (sound : store.Sound) (type other : ItemAttrType) :
    (store.removeAttribute type.code).held other = if other = type then none else store.held other := by
  have same : other.code = type.code ↔ other = type := ⟨code_inj, congrArg ItemAttrType.code⟩
  unfold AttributeStore.removeAttribute
  split
  case isTrue =>
    rw [held, Rows.find_remove sound.distinct]
    simp only [same]
    rfl
  case isFalse absent =>
    split
    case isTrue equal =>
      rw [sound.hasAttribute] at absent
      exact equal ▸ Option.not_isSome_iff_eq_none.mp absent
    case isFalse => rfl


/-! What an operation does to the value of a type. -/

def Operation.value (type : ItemAttrType) (held : Option Value) : Operation → Option Value
  | .setIntAttr other value =>
    if other = type ∧ isIntAttrType type.code then some (.integer (Operation.atLeast type value)) else held
  | .increaseIntAttr other value =>
    if other = type ∧ isIntAttrType type.code then
      some (.integer (Operation.atLeast type ((held.map Value.getInteger).getD 0 + value)))
    else held
  | .setStrAttr other value => if other = type ∧ isStrAttrType type.code ∧ value ≠ [] then some (.string value) else held
  | .removeAttribute other => if other = type then none else held
  | .setCustomAttribute key value =>
    if type = .custom then some (.custom (((held.map Value.getCustom).getD .empty).setCustomAttribute key value)) else held
  | .removeCustomAttribute key =>
    if type = .custom then
      held.map fun value => if (value.getCustom.find key).isSome then .custom (value.getCustom.erase key) else value
    else held

theorem Sound.getIntAttr (sound : store.Sound) (type : ItemAttrType) : store.getIntAttr type.code =
    if isIntAttrType type.code then ((store.held type).map Value.getInteger).getD 0 else 0 := by
  rw [AttributeStore.getIntAttr, sound.getExistingAttr]

theorem Sound.setIntAttr (sound : store.Sound) (type : ItemAttrType) (value : Int64) : (store.setIntAttr type.code value).Sound := by
  unfold AttributeStore.setIntAttr
  split
  case isTrue => exact sound.getAttr type _
  case isFalse => exact sound

theorem Sound.held_setIntAttr (sound : store.Sound) (type other : ItemAttrType) (value : Int64) :
    (store.setIntAttr type.code value).held other =
      if type = other ∧ isIntAttrType other.code then some (.integer (Operation.atLeast other value)) else store.held other := by
  have speed : type.code = ItemAttrType.attackSpeed.code ↔ type = .attackSpeed := ⟨code_inj, congrArg ItemAttrType.code⟩
  unfold AttributeStore.setIntAttr
  split
  case isTrue integer =>
    dsimp only
    rw [sound.held_getAttr]
    split
    case isTrue same =>
      subst same
      have both : other = other ∧ isIntAttrType other.code = true := ⟨rfl, integer⟩
      rw [if_pos both]
      simp only [speed, Operation.atLeast]
    case isFalse different => rw [if_neg fun both => different both.1.symm]
  case isFalse refused =>
    rw [if_neg]
    rintro ⟨rfl, integer⟩
    exact refused integer

theorem Sound.setStrAttr (sound : store.Sound) (type : ItemAttrType) (value : Bytes) : (store.setStrAttr type.code value).Sound := by
  unfold AttributeStore.setStrAttr
  split
  case isTrue =>
    split
    case isTrue => exact sound
    case isFalse => exact sound.getAttr type _
  case isFalse => exact sound

theorem Sound.held_setStrAttr (sound : store.Sound) (type other : ItemAttrType) (value : Bytes) :
    (store.setStrAttr type.code value).held other =
      if type = other ∧ isStrAttrType other.code ∧ value ≠ [] then some (.string value) else store.held other := by
  unfold AttributeStore.setStrAttr
  split
  case isTrue string =>
    split
    case isTrue empty => rw [if_neg fun all => all.2.2 empty]
    case isFalse something =>
      rw [sound.held_getAttr]
      split
      case isTrue same => rw [if_pos ⟨same.symm, same ▸ string, something⟩]
      case isFalse different => rw [if_neg fun all => different all.1.symm]
  case isFalse refused =>
    rw [if_neg]
    rintro ⟨rfl, string, _⟩
    exact refused string

theorem Sound.getCustomAttributeMap (sound : store.Sound) :
    store.getCustomAttributeMap = (store.held .custom).map Value.getCustom := by
  rw [AttributeStore.getCustomAttributeMap, sound.getExistingAttr]

theorem Sound.removeCustomAttribute (sound : store.Sound) (key : Bytes) : (store.removeCustomAttribute key).2.Sound := by
  unfold AttributeStore.removeCustomAttribute
  split
  · split
    case isTrue => exact sound.getAttr .custom _
    case isFalse => exact sound
  · exact sound

theorem Sound.held_removeCustomAttribute (sound : store.Sound) (key : Bytes) (other : ItemAttrType) :
    (store.removeCustomAttribute key).2.held other = Operation.value other (store.held other) (.removeCustomAttribute key) := by
  unfold AttributeStore.removeCustomAttribute Operation.value
  rw [sound.getCustomAttributeMap]
  dsimp only
  cases found : store.held .custom with
  | none =>
    rw [Option.map_none]
    dsimp only
    split
    case isTrue same => rw [same, found, Option.map_none]
    case isFalse => rfl
  | some value =>
    rw [Option.map_some]
    dsimp only
    split
    case isTrue present =>
      rw [sound.held_getAttr, found, Option.getD_some]
      split
      case isTrue same => rw [same, found, Option.map_some, if_pos present]
      case isFalse => rfl
    case isFalse absent =>
      split
      case isTrue same => rw [same, found, Option.map_some, if_neg absent]
      case isFalse => rfl

theorem Sound.setCustomAttribute (sound : store.Sound) (key : Bytes) (value : CustomAttribute) :
    (store.setCustomAttribute key value).Sound := by
  unfold AttributeStore.setCustomAttribute
  dsimp only
  split
  case isTrue => exact (sound.removeCustomAttribute key).getAttr .custom _
  case isFalse => exact (sound.getAttr .custom _).getAttr .custom _

theorem Sound.held_setCustomAttribute (sound : store.Sound) (key : Bytes) (value : CustomAttribute) (other : ItemAttrType) :
    (store.setCustomAttribute key value).held other = Operation.value other (store.held other) (.setCustomAttribute key value) := by
  unfold AttributeStore.setCustomAttribute
  rw [sound.hasAttribute]
  dsimp only [Operation.value]
  cases found : store.held .custom with
  | none =>
    rw [if_neg (by simp), (sound.getAttr .custom _).held_getAttr, sound.held_getAttr, sound.held_getAttr, if_pos rfl, Option.getD_some]
    split
    case isTrue same => rw [same, found, Option.map_none, Option.getD_none]; rfl
    case isFalse => rfl
  | some old =>
    rw [if_pos (by simp), (sound.removeCustomAttribute key).held_getAttr, sound.held_removeCustomAttribute,
      sound.held_removeCustomAttribute, Operation.value, if_pos rfl, found, Option.map_some, Option.getD_some]
    split
    case isTrue same =>
      rw [same, found, Option.map_some, Option.getD_some]
      split
      case isTrue => rw [Value.getCustom, CustomAttributeMap.setCustomAttribute_erase]
      case isFalse => rfl
    case isFalse different => rw [Operation.value, if_neg different]

/-- Every operation keeps the bits right, and does to a type just what it does to its value. -/
theorem Sound.apply (sound : store.Sound) (operation : Operation) :
    (store.apply operation).Sound ∧ ∀ type, (store.apply operation).held type = operation.value type (store.held type) := by
  cases operation with
  | setIntAttr type value => exact ⟨sound.setIntAttr type value, fun other => sound.held_setIntAttr type other value⟩
  | increaseIntAttr type value =>
    refine ⟨sound.setIntAttr type _, fun other => (sound.held_setIntAttr type other _).trans ?_⟩
    dsimp only [Operation.value]
    split
    case isTrue both =>
      obtain ⟨rfl, integer⟩ := both
      rw [sound.getIntAttr, if_pos integer]
    case isFalse => rfl
  | setStrAttr type value => exact ⟨sound.setStrAttr type value, fun other => sound.held_setStrAttr type other value⟩
  | removeAttribute type =>
    refine ⟨sound.removeAttribute type, fun other => (sound.held_removeAttribute type other).trans ?_⟩
    exact if_congr eq_comm rfl rfl
  | setCustomAttribute key value => exact ⟨sound.setCustomAttribute key value, sound.held_setCustomAttribute key value⟩
  | removeCustomAttribute key => exact ⟨sound.removeCustomAttribute key, sound.held_removeCustomAttribute key⟩

theorem Sound.foldl (sound : store.Sound) (operations : List Operation) :
    (operations.foldl AttributeStore.apply store).Sound ∧
      ∀ type, (operations.foldl AttributeStore.apply store).held type = operations.foldl (Operation.value type) (store.held type) := by
  induction operations generalizing store with
  | nil => exact ⟨sound, fun _ => rfl⟩
  | cons operation operations ih =>
    obtain ⟨next, same⟩ := sound.apply operation
    refine ⟨(ih next).1, fun type => ?_⟩
    rw [foldl_cons, foldl_cons, (ih next).2, same]


/-! What is read of the values. -/

theorem not_isStrAttrType (integer : isIntAttrType type.code = true) : isStrAttrType type.code = false := by
  cases type <;> first | rfl | exact absurd integer (by decide)

theorem custom_plain : isIntAttrType ItemAttrType.custom.code = false ∧ isStrAttrType ItemAttrType.custom.code = false := by decide

theorem present_value (type : ItemAttrType) (held : Option Value) (operation : Operation) :
    operation.present type held.isSome = (operation.value type held).isSome := by
  cases operation <;> dsimp only [Operation.present, Operation.value]
  case removeAttribute => split <;> simp_all
  case removeCustomAttribute => split <;> simp
  all_goals split <;> simp_all

theorem integer_value (integer : isIntAttrType type.code = true) (held : Option Value) (operation : Operation) :
    operation.integer type ((held.map Value.getInteger).getD 0) = ((operation.value type held).map Value.getInteger).getD 0 := by
  have plain := not_isStrAttrType integer
  have other : type ≠ .custom := fun same => Bool.false_ne_true (custom_plain.1.symm.trans (same ▸ integer))
  cases operation <;> dsimp only [Operation.integer, Operation.value]
  case setIntAttr | increaseIntAttr =>
    simp only [integer, and_true]
    split <;> rfl
  case setStrAttr => rw [if_neg fun all => Bool.false_ne_true (plain.symm.trans all.2.1)]
  case removeAttribute => split <;> rfl
  case setCustomAttribute | removeCustomAttribute => rw [if_neg other]

theorem string_value (string : isStrAttrType type.code = true) (held : Option Value) (operation : Operation) :
    operation.string type ((held.map Value.getString).getD []) = ((operation.value type held).map Value.getString).getD [] := by
  have plain : isIntAttrType type.code ≠ true := fun integer => Bool.false_ne_true ((not_isStrAttrType integer).symm.trans string)
  have other : type ≠ .custom := fun same => Bool.false_ne_true (custom_plain.2.symm.trans (same ▸ string))
  cases operation <;> dsimp only [Operation.string, Operation.value]
  case setIntAttr | increaseIntAttr => rw [if_neg fun both => plain both.2]
  case setStrAttr =>
    simp only [string, true_and]
    split <;> rfl
  case removeAttribute => split <;> rfl
  case setCustomAttribute | removeCustomAttribute => rw [if_neg other]

theorem custom_value (key : Bytes) (held : Option Value) (operation : Operation) :
    operation.custom key ((held.map Value.getCustom).bind fun map => map.find key) =
      ((operation.value .custom held).map Value.getCustom).bind fun map => map.find key := by
  obtain ⟨integer, string⟩ := custom_plain
  cases operation <;> dsimp only [Operation.custom, Operation.value]
  case setIntAttr | increaseIntAttr => rw [if_neg fun both => Bool.false_ne_true (integer.symm.trans both.2)]
  case setStrAttr => rw [if_neg fun all => Bool.false_ne_true (string.symm.trans all.2.1)]
  case removeAttribute => split <;> rfl
  case setCustomAttribute other value =>
    rw [if_pos rfl, Option.map_some, Option.bind_some, Value.getCustom, CustomAttributeMap.find_setCustomAttribute]
    cases held <;> rfl
  case removeCustomAttribute other =>
    rw [if_pos rfl]
    cases held with
    | none => exact ite_self _
    | some value =>
      have erased : (if (value.getCustom.find other).isSome then Value.custom (value.getCustom.erase other) else value).getCustom =
          value.getCustom.erase other := by
        split
        case isTrue => rfl
        case isFalse absent => exact (CustomAttributeMap.erase_of_find_none (Option.not_isSome_iff_eq_none.mp absent)).symm
      rw [Option.map_some, Option.map_some, Option.map_some, Option.bind_some, Option.bind_some, erased, CustomAttributeMap.find_erase]

/-- After every run of operations each bit is set just where one attribute of its type stands in the vector, and each attribute has
what its own history leaves: the last number, at least 100 for the attack speed, the last string that is not empty, the last custom
attribute of the key, and the default where nothing was set since it was removed. A type that is neither of numbers nor of strings
nor the custom one is never there, so the maximal decay time is that of the item type, and the minimal one is the duration where
there is one. -/
theorem store_laws (operations : List Operation) :
    (∀ place < 32, (operations.foldl AttributeStore.apply {}).attributeBits.getLsbD place = true ↔
      ((operations.foldl AttributeStore.apply {}).attributes.countP fun entry => entry.1 = BitVec.twoPow 32 place) = 1) ∧
    (∀ type, (operations.foldl AttributeStore.apply {}).hasAttribute type.code = operations.foldl (Operation.present type) false) ∧
    (∀ type, (operations.foldl AttributeStore.apply {}).getIntAttr type.code =
      if isIntAttrType type.code then operations.foldl (Operation.integer type) 0 else 0) ∧
    (∀ type, (operations.foldl AttributeStore.apply {}).getStrAttr type.code =
      if isStrAttrType type.code then operations.foldl (Operation.string type) [] else []) ∧
    (∀ key, (operations.foldl AttributeStore.apply {}).getCustomAttribute key = operations.foldl (Operation.custom key) none) ∧
    (∀ decayTimeMin, (operations.foldl AttributeStore.apply {}).getDecayTimeMin decayTimeMin =
      if operations.foldl (Operation.present .duration) false then (operations.foldl (Operation.integer .duration) 0).toInt32
      else decayTimeMin) ∧
    (∀ decayTimeMax, (operations.foldl AttributeStore.apply {}).getDecayTimeMax decayTimeMax = decayTimeMax) ∧
    ∀ decayTo, (operations.foldl AttributeStore.apply {}).getDecayTo decayTo =
      if operations.foldl (Operation.present .decayTo) false then (operations.foldl (Operation.integer .decayTo) 0).toInt32
      else decayTo := by
  obtain ⟨sound, histories⟩ := sound_empty.foldl operations
  generalize operations.foldl AttributeStore.apply {} = store at sound histories ⊢
  have present : ∀ type, store.hasAttribute type.code = operations.foldl (Operation.present type) false := by
    intro type
    rw [sound.hasAttribute, histories]
    exact (foldl_hom Option.isSome (present_value type)).symm
  have integer : ∀ type, store.getIntAttr type.code =
      if isIntAttrType type.code then operations.foldl (Operation.integer type) 0 else 0 := by
    intro type
    rw [sound.getIntAttr, histories]
    split
    case isTrue integer =>
      exact (foldl_hom (fun held : Option Value => (held.map Value.getInteger).getD 0) (integer_value integer)).symm
    case isFalse => rfl
  have string : ∀ type, store.getStrAttr type.code =
      if isStrAttrType type.code then operations.foldl (Operation.string type) [] else [] := by
    intro type
    rw [AttributeStore.getStrAttr, sound.getExistingAttr, histories]
    split
    case isTrue string =>
      exact (foldl_hom (fun held : Option Value => (held.map Value.getString).getD []) (string_value string)).symm
    case isFalse => rfl
  have custom : ∀ key, store.getCustomAttribute key = operations.foldl (Operation.custom key) none := by
    intro key
    rw [AttributeStore.getCustomAttribute, sound.getCustomAttributeMap, histories]
    exact (foldl_hom (fun held : Option Value => (held.map Value.getCustom).bind fun map => map.find key) (custom_value key)).symm
  have never : operations.foldl (Operation.present .durationMax) false = false := by
    have keeps : ∀ operation : Operation, operation.present .durationMax false = false := by
      intro operation
      have plain : isIntAttrType ItemAttrType.durationMax.code = false ∧ isStrAttrType ItemAttrType.durationMax.code = false := by decide
      cases operation <;> simp [Operation.present, plain]
    exact foldl_fixed' keeps operations
  refine ⟨?_, present, integer, string, custom, ?_, ?_, ?_⟩
  · intro place inside
    rw [sound.bits place inside, Rows.count_keys sound.distinct, ← Rows.find_isSome]
    split
    case isTrue found => exact iff_of_true found rfl
    case isFalse missing => exact iff_of_false missing (by decide)
  · intro decayTimeMin
    rw [getDecayTimeMin, getOr, present, integer]
    rfl
  · intro decayTimeMax
    rw [getDecayTimeMax, getOr, present, never]
    rfl
  · intro decayTo
    rw [getDecayTo, getOr, present, integer]
    rfl

/-- Not everything that is set is read: an attack speed below 100 is raised, an empty string is not stored, the duration is read as
the minimal decay time, and a wrapped id is not kept at all. -/
theorem not_last_set :
    ((AttributeStore.apply {} (.setIntAttr .attackSpeed 50)).getIntAttr ItemAttrType.attackSpeed.code ≠ 50) ∧
    ([.setStrAttr .text [104], .setStrAttr .text []].foldl AttributeStore.apply {}).getStrAttr ItemAttrType.text.code ≠ [] ∧
    (AttributeStore.apply {} (.setIntAttr .duration 5000)).getDecayTimeMin 20 ≠ 20 ∧
    (AttributeStore.apply {} (.setIntAttr .wrapId 7)).getIntAttr ItemAttrType.wrapId.code ≠ 7 := by
  refine ⟨?_, ?_, ?_, ?_⟩ <;> decide

end AttributeStore

end Styller
