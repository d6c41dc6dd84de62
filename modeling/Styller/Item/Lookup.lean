import Styller.Item.Item

/-! What the attribute list of an item holds under a type, and what the setters make of it. -/

namespace Styller

namespace ItemAttributes

variable (attributes : ItemAttributes) (type other : ItemAttrType)

def lookup : Option AttrValue := (attributes.find? (·.1 = type)).map Prod.snd

theorem hasAttribute_eq : attributes.hasAttribute type = (attributes.lookup type).isSome := by
  rw [lookup, Option.isSome_map, List.isSome_find?]
  rfl

theorem getIntAttr_eq : attributes.getIntAttr type =
    match attributes.lookup type with
    | some (.integer value) => value
    | _ => 0 := by
  unfold getIntAttr lookup
  cases attributes.find? (·.1 = type) with
  | none => rfl
  | some entry =>
    obtain ⟨_, value⟩ := entry
    cases value with
    | integer value => rfl
    | string value => rfl
    | custom address => rfl

theorem getStrAttr_eq : attributes.getStrAttr type =
    match attributes.lookup type with
    | some (.string value) => value
    | _ => [] := by
  unfold getStrAttr lookup
  cases attributes.find? (·.1 = type) with
  | none => rfl
  | some entry =>
    obtain ⟨_, value⟩ := entry
    cases value with
    | integer value => rfl
    | string value => rfl
    | custom address => rfl

variable {attributes type}

theorem lookup_cons (entry : ItemAttrType × AttrValue) : lookup (entry :: attributes) other =
    if entry.1 = other then some entry.2 else attributes.lookup other := by
  by_cases same : entry.1 = other <;> simp [lookup, same]

/-- A value takes the place of the one that is there. -/
theorem lookup_replace (value : AttrValue) :
    lookup (attributes.map (fun entry => if entry.1 = type then (type, value) else entry)) other =
      if other = type ∧ attributes.hasAttribute type = true then some value else attributes.lookup other := by
  induction attributes with
  | nil => simp [lookup, hasAttribute]
  | cons entry attributes ih =>
    rw [List.map_cons, lookup_cons, lookup_cons, ih]
    simp only [hasAttribute, List.any_cons, Bool.or_eq_true, decide_eq_true_eq]
    by_cases here : entry.1 = type
    · by_cases same : other = type
      · simp [here, same]
      · simp [here, same, Ne.symm same]
    · by_cases found : entry.1 = other
      · have differ : other ≠ type := fun same => here (found.trans same)
        simp [found, differ]
      · simp only [here, found, if_false, false_or]
        rfl

theorem lookup_append (value : AttrValue) (absent : attributes.hasAttribute type = false) :
    lookup (attributes ++ [(type, value)]) other = if other = type then some value else attributes.lookup other := by
  induction attributes with
  | nil => simp [lookup, eq_comm]
  | cons entry attributes ih =>
    simp only [hasAttribute, List.any_cons, Bool.or_eq_false_iff, decide_eq_false_iff_not] at absent ih
    rw [List.cons_append, lookup_cons, lookup_cons, ih absent.2]
    by_cases found : entry.1 = other
    · have differ : other ≠ type := fun same => absent.1 (found.trans same)
      simp [found, differ]
    · simp [found]

end ItemAttributes

/-- What `setIntAttr` stores. -/
def storedInt (type : ItemAttrType) (value : Int) : Int :=
  if type = .attackSpeed ∧ value < 100 then 100 else value

namespace Item

variable (item : Item) (type other : ItemAttrType)

def attr? : Option AttrValue := (item.attributes.getD []).lookup type

theorem hasAttribute_eq : item.hasAttribute type = (item.attr? type).isSome :=
  ItemAttributes.hasAttribute_eq _ _

theorem getIntAttr_eq : item.getIntAttr type =
    match item.attr? type with
    | some (.integer value) => value
    | _ => 0 :=
  ItemAttributes.getIntAttr_eq _ _

theorem getStrAttr_eq : item.getStrAttr type =
    match item.attr? type with
    | some (.string value) => value
    | _ => [] :=
  ItemAttributes.getStrAttr_eq _ _

variable {item type} in
theorem getIntAttr_of_attr? {value : Int} (found : item.attr? type = some (.integer value)) :
    item.getIntAttr type = value := by
  rw [getIntAttr_eq, found]

variable {item type} in
theorem getIntAttr_of_none (absent : item.attr? type = none) : item.getIntAttr type = 0 := by
  rw [getIntAttr_eq, absent]

@[simp] theorem attr?_setIntAttr (value : Int) : (item.setIntAttr type value).attr? other =
    if other = type then some (.integer (storedInt type value)) else item.attr? other := by
  change ItemAttributes.lookup (if (item.attributes.getD []).hasAttribute type then
    (item.attributes.getD []).map (fun entry => if entry.1 = type then (type, .integer (storedInt type value)) else entry)
    else item.attributes.getD [] ++ [(type, .integer (storedInt type value))]) other = _
  split
  · next has =>
      rw [ItemAttributes.lookup_replace]
      simp only [has, and_true]
      rfl
  · next has => exact ItemAttributes.lookup_append other _ (Bool.eq_false_iff.mpr has)

@[simp] theorem attr?_setStrAttr (value : Library.Bytes) : (item.setStrAttr type value).attr? other =
    if other = type ∧ value ≠ [] then some (.string value) else item.attr? other := by
  change ItemAttributes.lookup (ItemAttributes.setStrAttr (item.attributes.getD []) type value) other = _
  unfold ItemAttributes.setStrAttr
  split
  · next empty => simp [empty, attr?]
  · next some =>
    simp only [ne_eq, some, not_false_eq_true, and_true]
    split
    · next has =>
      rw [ItemAttributes.lookup_replace]
      simp only [has, and_true]
      rfl
    · next has => exact ItemAttributes.lookup_append other _ (Bool.eq_false_iff.mpr has)

@[simp] theorem attr?_setItemCount (n : Int) : (item.setItemCount n).attr? other = item.attr? other := rfl

@[simp] theorem count_setIntAttr (value : Int) : (item.setIntAttr type value).count = item.count := rfl
@[simp] theorem count_setItemCount (n : Int) : (item.setItemCount n).count = toUInt8 n := rfl
@[simp] theorem id_setIntAttr (value : Int) : (item.setIntAttr type value).id = item.id := rfl
@[simp] theorem id_setItemCount (n : Int) : (item.setItemCount n).id = item.id := rfl

end Item

end Styller
