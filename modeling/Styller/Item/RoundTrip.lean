import Styller.Item.Setters
import Styller.Item.GameItems

/-! What `unserializeAttr` makes of the bytes of `serializeAttr`. -/

namespace Styller

open Library Option

/-- A number that was written in the width of its attribute and read. -/
def NumberAttr.narrow : NumberAttr → Int → Int
  | weight, value => (UInt32.ofInt value).toNat
  | attack, value => (Int32.ofInt value).toInt
  | attackSpeed, value => (UInt32.ofInt value).toNat
  | defense, value => (Int32.ofInt value).toInt
  | extraDefense, value => (Int32.ofInt value).toInt
  | armor, value => (Int32.ofInt value).toInt
  | hitChance, value => (Int8.ofInt value).toInt
  | shootRange, value => (UInt8.ofInt value).toNat
  | decayTo, value => (Int32.ofInt value).toInt

/-- The numbers that the width of the attribute has room for. -/
def NumberAttr.Fits : NumberAttr → Int → Prop
  | weight, value => 0 ≤ value ∧ value < 2 ^ 32
  | attackSpeed, value => 0 ≤ value ∧ value < 2 ^ 32
  | hitChance, value => -2 ^ 7 ≤ value ∧ value < 2 ^ 7
  | shootRange, value => 0 ≤ value ∧ value < 2 ^ 8
  | _, value => -2 ^ 31 ≤ value ∧ value < 2 ^ 31

theorem int32_ofInt_eq_iff (value : Int) : (Int32.ofInt value).toInt = value ↔ -2 ^ 31 ≤ value ∧ value < 2 ^ 31 := by
  constructor
  · intro same
    rw [← same]
    exact ⟨Int32.le_toInt _, Int32.toInt_lt _⟩
  · rintro ⟨low, high⟩
    exact Int32.toInt_ofInt_of_le low high

/-- `hitChance` is the only number of one signed byte. -/
theorem NumberAttr.narrow_eq_iff (attr : NumberAttr) (value : Int) : attr.narrow value = value ↔ attr.Fits value := by
  have unsigned : ((UInt32.ofInt value).toNat : Int) = value ↔ 0 ≤ value ∧ value < 2 ^ 32 := by
    simp only [UInt32.ofInt, UInt32.toNat_ofNat']
    omega
  cases attr with
  | weight | attackSpeed => exact unsigned
  | hitChance =>
    constructor
    · intro same
      rw [← same]
      exact ⟨Int8.le_toInt _, Int8.toInt_lt _⟩
    · rintro ⟨low, high⟩
      exact Int8.toInt_ofInt_of_le low high
  | shootRange =>
    simp only [narrow, Fits, UInt8.ofInt, UInt8.toNat_ofNat']
    omega
  | _ => exact int32_ofInt_eq_iff value

/-- The attributes that a class reads itself. -/
def AttrTypes.isOf : AttrTypes → ItemClass → Bool
  | .containerItems, .container | .containerItems, .depotChest | .depotId, .depotLocker | .teleDest, .teleport
  | .houseDoorId, .door | .sleeperGuid, .bed | .sleepStart, .bed => true
  | _, _ => false

section

variable (items : ItemTypes) (services : ItemServices)

/-- The other attributes are left to `Item::readAttr`. -/
theorem readAttr_else (object : ItemObject) {attr : AttrTypes} (other : attr.isOf object.item.kind = false) :
    readAttr items services object attr = readItemAttr items services object attr := by
  unfold readAttr
  split
  all_goals first
    | rfl
    | next kind =>
      rw [kind] at other
      cases other

/-- Reading the bytes makes another item of the item, and leaves the rest of the object as it is. -/
def Reading (item : Item) (written : Bytes) (last : Item) : Prop :=
  ∀ object, object.item = item → Through 0 (readAttrCode items services) object written (object.setItem last)

namespace Reading

variable {items services} {item middle last : Item}

theorem append {written later : Bytes} (first : Reading items services item written middle)
    (second : Reading items services middle later last) : Reading items services item (written ++ later) last :=
  fun object same => (first object same).append (second (object.setItem middle) rfl)

theorem ite {condition : Prop} [Decidable condition] {written : Bytes}
    (reading : condition → Reading items services item written last) :
    Reading items services item (if condition then written else []) (if condition then last else item) := by
  intro object same
  by_cases holds : condition
  · rw [if_pos holds, if_pos holds]
    exact reading holds object same
  · rw [if_neg holds, if_neg holds, ← same]
    exact Through.nil object

theorem skip {condition : Prop} [Decidable condition] {written : Bytes} (fails : ¬ condition) :
    Reading items services item (if condition then written else []) item := by
  intro object same
  rw [if_neg fails, ← same]
  exact Through.nil object

theorem field {attr : AttrTypes} (common : ∀ kind, attr.isOf kind = false) {written : Bytes}
    (handled : ∀ object, object.item = item →
      (readItemAttr items services object attr).Reads written (.more (object.setItem last))) :
    Reading items services item (attr.code :: written) last := by
  intro object same
  apply Through.field attr.code_ne_zero
  rw [readAttrCode, AttrTypes.ofCode_code]
  change (readAttr items services object attr).Reads _ _
  rw [readAttr_else items services object (common object.item.kind)]
  exact handled object same

/-- A field that holds one value. -/
theorem value {attr : AttrTypes} (common : ∀ kind, attr.isOf kind = false) {α : Type} [Raw α] (value : α) (next : α → Item)
    (handles : ∀ object, object.item = item → readItemAttr items services object attr =
      (do let value ← Reader.read α; pure (.more (object.setItem (next value))))) :
    Reading items services item (writeAttr attr value) (next value) := by
  apply field common
  intro object same
  rw [handles object same]
  exact Reader.Reads.finish (Reader.Reads.read value) (Reader.Reads.pure _)

/-- A field that holds a string. -/
theorem string {attr : AttrTypes} (common : ∀ kind, attr.isOf kind = false) {string : Bytes} (fits : string.length ≤ 65535)
    (next : Bytes → Item)
    (handles : ∀ object, object.item = item → readItemAttr items services object attr =
      (do let string ← Reader.readString; pure (.more (object.setItem (next string))))) :
    Reading items services item (writeStringAttr attr string) (next string) := by
  apply field common
  intro object same
  rw [handles object same]
  exact Reader.Reads.finish (Reader.Reads.string fits) (Reader.Reads.pure _)

end Reading

end

section

variable (items : ItemTypes) (saved : Item)

/-- What each field that was written for the saved item does to the item that is read. -/
def restoreCount (item : Item) : Item :=
  if (items.get saved.id).stackable || (items.get saved.id).isFluidContainer || (items.get saved.id).isSplash then
    item.setSubType items (UInt8.ofNat (saved.getSubType items)).toNat
  else item

def restoreCharges (item : Item) : Item :=
  if saved.getCharges ≠ 0 then item.setSubType items (UInt16.ofNat saved.getCharges).toNat else item

def restoreString (attr : StringAttr) (item : Item) : Item :=
  if saved.getStrAttr attr.type ≠ [] then item.setStrAttr attr.type (saved.getStrAttr attr.type) else item

def restoreDate (item : Item) : Item :=
  if saved.getIntAttr .date ≠ 0 then
    item.setIntAttr .date (UInt32.ofInt (saved.getIntAttr .date)).toInt32.toInt
  else item

def restoreDuration (item : Item) : Item :=
  if saved.hasAttribute .duration then
    item.setIntAttr .duration (max 0 (UInt32.ofInt (saved.getIntAttr .duration)).toInt32.toInt)
  else item

def restoreDecaying (item : Item) : Item :=
  if saved.getIntAttr .decayState = decayingTrue ∨ saved.getIntAttr .decayState = decayingPending then
    item.setIntAttr .decayState decayingPending
  else item

def restoreNumber (attr : NumberAttr) (item : Item) : Item :=
  if saved.hasAttribute attr.type then item.setIntAttr attr.type (attr.narrow (saved.getIntAttr attr.type)) else item

/-- All fields of `serializeAttr`, in their order. -/
def restoreItem (item : Item) : Item :=
  restoreCount items saved item |> restoreCharges items saved |> restoreString saved .text |> restoreDate saved |>
    restoreString saved .writer |> restoreString saved .description |> restoreDuration saved |>
    restoreDecaying saved |> restoreString saved .name |> restoreString saved .article |>
    restoreString saved .pluralName |> restoreNumber saved .weight |> restoreNumber saved .attack |>
    restoreNumber saved .attackSpeed |> restoreNumber saved .defense |> restoreNumber saved .extraDefense |>
    restoreNumber saved .armor |> restoreNumber saved .hitChance |> restoreNumber saved .shootRange |>
    restoreNumber saved .decayTo

end

namespace Item.WellSet

variable {item : Item} (wellSet : item.WellSet)
include wellSet

theorem string (attr : StringAttr) : item.attr? attr.type = none ∨
    ∃ value, item.attr? attr.type = some (.string value) ∧ value ≠ [] ∧ value.length ≤ 65535 := by
  cases found : item.attr? attr.type with
  | none => exact .inl rfl
  | some value =>
    have stored := wellSet.stored _ _ found
    cases value with
    | string value => cases attr <;> exact .inr ⟨value, rfl, stored⟩
    | integer value => cases attr <;> cases stored
    | custom address => cases attr <;> cases stored

theorem number (attr : NumberAttr) : item.attr? attr.type = none ∨ ∃ value, item.attr? attr.type = some (.integer value) := by
  cases found : item.attr? attr.type with
  | none => exact .inl rfl
  | some value =>
    have stored := wellSet.stored _ _ found
    cases value with
    | string value => cases attr <;> cases stored
    | integer value => exact .inr ⟨value, rfl⟩
    | custom address => cases attr <;> cases stored

theorem hasString (attr : StringAttr) : item.hasAttribute attr.type = true ↔ item.getStrAttr attr.type ≠ [] := by
  rw [hasAttribute_eq, getStrAttr_eq]
  rcases wellSet.string attr with absent | ⟨value, found, some, _⟩
  · simp [absent]
  · simp [found, some]

theorem string_fits (attr : StringAttr) : (item.getStrAttr attr.type).length ≤ 65535 := by
  rw [getStrAttr_eq]
  rcases wellSet.string attr with absent | ⟨value, found, _, fits⟩
  · simp [absent]
  · simpa [found] using fits

theorem unset (type : ItemAttrType) (never : ∀ value, ¬ StoredAt type value) : item.hasAttribute type = false := by
  rw [hasAttribute_eq, isSome_eq_false_iff, isNone_iff_eq_none]
  cases found : item.attr? type with
  | none => rfl
  | some value => exact absurd (wellSet.stored _ _ found) (never value)

end Item.WellSet

section

variable {items : ItemTypes} {services : ItemServices} {saved item : Item}

theorem reading_count : Reading items services item
    (if (items.get saved.id).stackable || (items.get saved.id).isFluidContainer || (items.get saved.id).isSplash then
      writeAttr .count (UInt8.ofNat (saved.getSubType items)) else []) (restoreCount items saved item) := by
  unfold restoreCount
  apply Reading.ite
  intro _
  apply Reading.value (fun _ => rfl) (UInt8.ofNat (saved.getSubType items)) (fun count => item.setSubType items count.toNat)
  rintro _ rfl
  rfl

theorem reading_charges : Reading items services item
    (if saved.getCharges ≠ 0 then writeAttr .charges (UInt16.ofNat saved.getCharges) else [])
    (restoreCharges items saved item) := by
  unfold restoreCharges
  apply Reading.ite
  intro _
  apply Reading.value (fun _ => rfl) (UInt16.ofNat saved.getCharges) (fun charges => item.setSubType items charges.toNat)
  rintro _ rfl
  rfl

theorem reading_string (wellSet : saved.WellSet) (attr : StringAttr) {field : AttrTypes} (common : ∀ kind, field.isOf kind = false)
    (handles : ∀ object, readItemAttr items services object field =
      (do let string ← Reader.readString; pure (.more (object.setItem (object.item.setStrAttr attr.type string))))) :
    Reading items services item
      (if saved.getStrAttr attr.type ≠ [] then writeStringAttr field (saved.getStrAttr attr.type) else [])
      (restoreString saved attr item) := by
  unfold restoreString
  apply Reading.ite
  intro _
  apply Reading.string common (wellSet.string_fits attr) (item.setStrAttr attr.type)
  rintro object rfl
  exact handles object

/-- A string that is not there is an empty one. -/
theorem reading_present (wellSet : saved.WellSet) (attr : StringAttr) {field : AttrTypes} (common : ∀ kind, field.isOf kind = false)
    (handles : ∀ object, readItemAttr items services object field =
      (do let string ← Reader.readString; pure (.more (object.setItem (object.item.setStrAttr attr.type string))))) :
    Reading items services item
      (if saved.hasAttribute attr.type then writeStringAttr field (saved.getStrAttr attr.type) else [])
      (restoreString saved attr item) := by
  simp only [wellSet.hasString attr]
  exact reading_string wellSet attr common handles

theorem reading_number (attr : NumberAttr) {field : AttrTypes} (common : ∀ kind, field.isOf kind = false) {α : Type} [Raw α]
    (value : α) (number : α → Int) (narrow : number value = attr.narrow (saved.getIntAttr attr.type))
    (handles : ∀ object, readItemAttr items services object field =
      (do let value ← Reader.read α; pure (.more (object.setItem (object.item.setIntAttr attr.type (number value)))))) :
    Reading items services item (if saved.hasAttribute attr.type then writeAttr field value else [])
      (restoreNumber saved attr item) := by
  unfold restoreNumber
  rw [← narrow]
  apply Reading.ite
  intro _
  apply Reading.value common value (fun value => item.setIntAttr attr.type (number value))
  rintro object rfl
  exact handles object

theorem reading_date : Reading items services item
    (if saved.getIntAttr .date ≠ 0 then writeAttr .writtenDate (UInt32.ofInt (saved.getIntAttr .date)) else [])
    (restoreDate saved item) := by
  unfold restoreDate
  apply Reading.ite
  intro _
  apply Reading.value (fun _ => rfl) (UInt32.ofInt (saved.getIntAttr .date)) (fun date => item.setIntAttr .date date.toInt32.toInt)
  rintro _ rfl
  rfl

/-- The duration is written without a sign and read with one. -/
theorem reading_duration : Reading items services item
    (if saved.hasAttribute .duration then writeAttr .duration (UInt32.ofInt (saved.getIntAttr .duration)) else [])
    (restoreDuration saved item) := by
  unfold restoreDuration
  apply Reading.ite
  intro _
  have signed : writeAttr .duration (UInt32.ofInt (saved.getIntAttr .duration)) =
      writeAttr .duration (UInt32.ofInt (saved.getIntAttr .duration)).toInt32 := rfl
  rw [signed]
  apply Reading.value (fun _ => rfl) (UInt32.ofInt (saved.getIntAttr .duration)).toInt32
    (fun duration => item.setIntAttr .duration (max 0 duration.toInt))
  rintro _ rfl
  rfl

theorem reading_decaying : Reading items services item
    (if saved.getIntAttr .decayState = decayingTrue ∨ saved.getIntAttr .decayState = decayingPending then
      writeAttr .decayingState (UInt8.ofInt (saved.getIntAttr .decayState)) else [])
    (restoreDecaying saved item) := by
  unfold restoreDecaying
  apply Reading.ite
  intro decaying
  have some : UInt8.ofInt (saved.getIntAttr .decayState) ≠ 0 := by
    rcases decaying with same | same
    · rw [same]
      decide
    · rw [same]
      decide
  have kept : item.setIntAttr .decayState decayingPending =
      (fun state : UInt8 => if state ≠ 0 then item.setIntAttr .decayState decayingPending else item)
        (UInt8.ofInt (saved.getIntAttr .decayState)) :=
    (if_pos some).symm
  rw [kept]
  apply Reading.value (fun _ => rfl) (UInt8.ofInt (saved.getIntAttr .decayState))
    (fun state : UInt8 => if state ≠ 0 then item.setIntAttr .decayState decayingPending else item)
  rintro _ rfl
  rfl

/-- What is written for an item is read field by field. -/
theorem reading_item (place : Placement) (object : ItemObject) (wellSet : object.item.WellSet) (item : Item) :
    Reading items services item (serializeItemAttr items place object) (restoreItem items object.item item) := by
  have noActionId : object.item.getActionId = 0 := by
    have absent := wellSet.unset .actionId (by rintro ⟨⟩ <;> exact id)
    rw [Item.hasAttribute_eq, isSome_eq_false_iff, isNone_iff_eq_none] at absent
    rw [Item.getActionId, Item.getIntAttr_eq, absent]
    rfl
  have noCustom := wellSet.unset .custom (by rintro ⟨⟩ <;> exact id)
  unfold serializeItemAttr restoreItem
  apply Reading.append reading_count
  apply Reading.append reading_charges
  apply Reading.append (Reading.skip (fun both => both.2 noActionId))
  apply Reading.append (reading_string wellSet .text (fun _ => rfl) (fun _ => rfl))
  apply Reading.append reading_date
  apply Reading.append (reading_string wellSet .writer (fun _ => rfl) (fun _ => rfl))
  apply Reading.append (reading_string wellSet .description (fun _ => rfl) (fun _ => rfl))
  apply Reading.append reading_duration
  apply Reading.append reading_decaying
  apply Reading.append (reading_present wellSet .name (fun _ => rfl) (fun _ => rfl))
  apply Reading.append (reading_present wellSet .article (fun _ => rfl) (fun _ => rfl))
  apply Reading.append (reading_present wellSet .pluralName (fun _ => rfl) (fun _ => rfl))
  apply Reading.append (reading_number .weight (fun _ => rfl) _ (fun value => value.toNat) rfl (fun _ => rfl))
  apply Reading.append (reading_number .attack (fun _ => rfl) _ Int32.toInt rfl (fun _ => rfl))
  apply Reading.append (reading_number .attackSpeed (fun _ => rfl) _ (fun value => value.toNat) rfl (fun _ => rfl))
  apply Reading.append (reading_number .defense (fun _ => rfl) _ Int32.toInt rfl (fun _ => rfl))
  apply Reading.append (reading_number .extraDefense (fun _ => rfl) _ Int32.toInt rfl (fun _ => rfl))
  apply Reading.append (reading_number .armor (fun _ => rfl) _ Int32.toInt rfl (fun _ => rfl))
  apply Reading.append (reading_number .hitChance (fun _ => rfl) _ Int8.toInt rfl (fun _ => rfl))
  apply Reading.append (reading_number .shootRange (fun _ => rfl) _ (fun value => value.toNat) rfl (fun _ => rfl))
  apply Reading.append (reading_number .decayTo (fun _ => rfl) _ Int32.toInt rfl (fun _ => rfl))
  exact Reading.skip (ne_true_of_eq_false noCustom)

end

section

variable (items : ItemTypes) (saved item : Item) (other : ItemAttrType)

theorem setSubType_cases (n : Nat) : item.setSubType items n = item.setIntAttr .fluidType n ∨
    item.setSubType items n = item.setIntAttr .charges n ∨ item.setSubType items n = item.setItemCount n := by
  simp only [Item.setSubType]
  split_ifs
  · exact .inl rfl
  · exact .inr (.inr rfl)
  · exact .inr (.inl rfl)
  · exact .inr (.inr rfl)

@[simp] theorem id_setSubType (n : Nat) : (item.setSubType items n).id = item.id := by
  rcases setSubType_cases items item n with same | same | same <;> rw [same] <;> rfl

variable {other} in
theorem attr?_setSubType (n : Nat) (noCharges : other ≠ .charges) (noFluid : other ≠ .fluidType) :
    (item.setSubType items n).attr? other = item.attr? other := by
  rcases setSubType_cases items item n with same | same | same
  · rw [same, Item.attr?_setIntAttr, if_neg noFluid]
  · rw [same, Item.attr?_setIntAttr, if_neg noCharges]
  · rw [same, Item.attr?_setItemCount]

@[simp] theorem id_restoreCount : (restoreCount items saved item).id = item.id := by
  unfold restoreCount
  split
  · exact id_setSubType items item _
  · rfl

@[simp] theorem id_restoreCharges : (restoreCharges items saved item).id = item.id := by
  unfold restoreCharges
  split
  · exact id_setSubType items item _
  · rfl

variable {other} in
theorem attr?_restoreCount (noCharges : other ≠ .charges) (noFluid : other ≠ .fluidType) :
    (restoreCount items saved item).attr? other = item.attr? other := by
  unfold restoreCount
  split
  · exact attr?_setSubType items item _ noCharges noFluid
  · rfl

variable {other} in
theorem attr?_restoreCharges (noCharges : other ≠ .charges) (noFluid : other ≠ .fluidType) :
    (restoreCharges items saved item).attr? other = item.attr? other := by
  unfold restoreCharges
  split
  · exact attr?_setSubType items item _ noCharges noFluid
  · rfl

@[simp] theorem attr?_restoreString (attr : StringAttr) : (restoreString saved attr item).attr? other =
    if other = attr.type ∧ saved.getStrAttr attr.type ≠ [] then some (.string (saved.getStrAttr attr.type))
    else item.attr? other := by
  unfold restoreString
  split
  · next some => rw [Item.attr?_setStrAttr]
  · next none => rw [if_neg (fun both => none both.2)]

@[simp] theorem attr?_restoreDate : (restoreDate saved item).attr? other =
    if other = .date ∧ saved.getIntAttr .date ≠ 0 then
      some (.integer (UInt32.ofInt (saved.getIntAttr .date)).toInt32.toInt)
    else item.attr? other := by
  unfold restoreDate
  split
  · next some => simp [some, storedInt]
  · next none => rw [if_neg (fun both => none both.2)]

@[simp] theorem attr?_restoreDuration : (restoreDuration saved item).attr? other =
    if other = .duration ∧ saved.hasAttribute .duration then
      some (.integer (max 0 (UInt32.ofInt (saved.getIntAttr .duration)).toInt32.toInt))
    else item.attr? other := by
  unfold restoreDuration
  split
  · next some => simp [some, storedInt]
  · next none => rw [if_neg (fun both => none both.2)]

@[simp] theorem attr?_restoreDecaying : (restoreDecaying saved item).attr? other =
    if other = .decayState ∧ (saved.getIntAttr .decayState = decayingTrue ∨ saved.getIntAttr .decayState = decayingPending)
    then some (.integer decayingPending) else item.attr? other := by
  unfold restoreDecaying
  split
  · next some => simp [some, storedInt]
  · next none => rw [if_neg (fun both => none both.2)]

@[simp] theorem attr?_restoreNumber (attr : NumberAttr) : (restoreNumber saved attr item).attr? other =
    if other = attr.type ∧ saved.hasAttribute attr.type then
      some (.integer (storedInt attr.type (attr.narrow (saved.getIntAttr attr.type))))
    else item.attr? other := by
  unfold restoreNumber
  split
  · next some => simp [some]
  · next none => rw [if_neg (fun both => none both.2)]

section

variable {saved item} {first : Item}

theorem restoreString_frame (attr : StringAttr) (same : Item.Reattributed first item) :
    Item.Reattributed first (restoreString saved attr item) :=
  .ite (.setStrAttr same _ _) same

theorem restoreNumber_frame (attr : NumberAttr) (same : Item.Reattributed first item) :
    Item.Reattributed first (restoreNumber saved attr item) :=
  .ite (.setIntAttr same _ _) same

theorem restoreDate_frame (same : Item.Reattributed first item) : Item.Reattributed first (restoreDate saved item) :=
  .ite (.setIntAttr same _ _) same

theorem restoreDuration_frame (same : Item.Reattributed first item) :
    Item.Reattributed first (restoreDuration saved item) :=
  .ite (.setIntAttr same _ _) same

theorem restoreDecaying_frame (same : Item.Reattributed first item) :
    Item.Reattributed first (restoreDecaying saved item) :=
  .ite (.setIntAttr same _ _) same

end

/-- After the sub type only attributes are restored. -/
theorem restoreItem_frame : Item.Reattributed (restoreCharges items saved (restoreCount items saved item))
    (restoreItem items saved item) := by
  unfold restoreItem
  iterate 9 apply restoreNumber_frame
  iterate 3 apply restoreString_frame
  apply restoreDecaying_frame
  apply restoreDuration_frame
  iterate 2 apply restoreString_frame
  apply restoreDate_frame
  apply restoreString_frame
  exact .refl _

theorem restoreItem_count : (restoreItem items saved item).count =
    (restoreCharges items saved (restoreCount items saved item)).count := by
  rw [restoreItem_frame]

theorem restoreItem_id : (restoreItem items saved item).id = item.id := by
  rw [restoreItem_frame, id_restoreCharges, id_restoreCount]

theorem restoreItem_charges : (restoreItem items saved item).attr? .charges =
    (restoreCharges items saved (restoreCount items saved item)).attr? .charges := by
  simp [restoreItem, StringAttr.type, NumberAttr.type]

theorem restoreItem_fluidType : (restoreItem items saved item).attr? .fluidType =
    (restoreCharges items saved (restoreCount items saved item)).attr? .fluidType := by
  simp [restoreItem, StringAttr.type, NumberAttr.type]

/-- Neither the count nor the charges are any other attribute. -/
theorem attr?_restoreFirst {type : ItemAttrType} (noCharges : type ≠ .charges) (noFluid : type ≠ .fluidType) :
    (restoreCharges items saved (restoreCount items saved item)).attr? type = item.attr? type := by
  rw [attr?_restoreCharges items saved _ noCharges noFluid, attr?_restoreCount items saved _ noCharges noFluid]

theorem restoreItem_string (attr : StringAttr) : (restoreItem items saved item).attr? attr.type =
    if saved.getStrAttr attr.type ≠ [] then some (.string (saved.getStrAttr attr.type)) else item.attr? attr.type := by
  have kept := @attr?_restoreFirst items saved item attr.type (by cases attr <;> decide) (by cases attr <;> decide)
  by_cases some : saved.getStrAttr attr.type ≠ []
  · rw [if_pos some]
    cases attr <;> simp_all [restoreItem, StringAttr.type, NumberAttr.type]
  · rw [if_neg some, ← kept]
    cases attr <;> simp_all [restoreItem, StringAttr.type, NumberAttr.type]

theorem restoreItem_number (attr : NumberAttr) : (restoreItem items saved item).attr? attr.type =
    if saved.hasAttribute attr.type then
      some (.integer (storedInt attr.type (attr.narrow (saved.getIntAttr attr.type)))) else item.attr? attr.type := by
  have kept := @attr?_restoreFirst items saved item attr.type (by cases attr <;> decide) (by cases attr <;> decide)
  by_cases has : saved.hasAttribute attr.type = true
  · rw [if_pos has]
    cases attr <;> simp_all [restoreItem, NumberAttr.type]
  · rw [if_neg has, ← kept]
    cases attr <;> simp_all [restoreItem, StringAttr.type, NumberAttr.type]

theorem restoreItem_date : (restoreItem items saved item).attr? .date =
    if saved.getIntAttr .date ≠ 0 then some (.integer (UInt32.ofInt (saved.getIntAttr .date)).toInt32.toInt)
    else item.attr? .date := by
  have kept := @attr?_restoreFirst items saved item .date (by decide) (by decide)
  by_cases some : saved.getIntAttr .date ≠ 0
  · simp_all [restoreItem, StringAttr.type, NumberAttr.type]
  · simp_all [restoreItem, StringAttr.type, NumberAttr.type]

theorem restoreItem_duration : (restoreItem items saved item).attr? .duration =
    if saved.hasAttribute .duration then
      some (.integer (max 0 (UInt32.ofInt (saved.getIntAttr .duration)).toInt32.toInt))
    else item.attr? .duration := by
  have kept := @attr?_restoreFirst items saved item .duration (by decide) (by decide)
  by_cases some : saved.hasAttribute .duration = true
  · simp_all [restoreItem, StringAttr.type, NumberAttr.type]
  · simp_all [restoreItem, StringAttr.type, NumberAttr.type]

theorem restoreItem_decayState : (restoreItem items saved item).attr? .decayState =
    if saved.getIntAttr .decayState = decayingTrue ∨ saved.getIntAttr .decayState = decayingPending then
      some (.integer decayingPending) else item.attr? .decayState := by
  have kept := @attr?_restoreFirst items saved item .decayState (by decide) (by decide)
  by_cases some : saved.getIntAttr .decayState = decayingTrue ∨ saved.getIntAttr .decayState = decayingPending
  · simp_all [restoreItem, StringAttr.type, NumberAttr.type]
  · simp_all [restoreItem, StringAttr.type, NumberAttr.type]

end

def Item.writesAttributes (item : Item) : Bool := item.kind ≠ .door && item.kind ≠ .bed

section

variable (items : ItemTypes) (services : ItemServices)

/-- The same thing but for its special description. -/
structure Item.Beside (first last : Item) : Prop where
  id : last.id = first.id
  count : last.count = first.count
  attr? : ∀ type, type ≠ .description → last.attr? type = first.attr? type

theorem Item.Beside.refl (item : Item) : item.Beside item := ⟨rfl, rfl, fun _ _ => rfl⟩

theorem Item.Beside.describe (item : Item) (description : Bytes) :
    item.Beside (item.setStrAttr .description description) := by
  refine ⟨rfl, rfl, ?_⟩
  intro type other
  rw [attr?_setStrAttr, if_neg (fun both => other both.1)]

variable {items services} in
theorem through_field {object last : ItemObject} {attr : AttrTypes} {written : Bytes}
    (handled : (readAttr items services object attr).Reads written (.more last)) :
    Through 0 (readAttrCode items services) object (attr.code :: written) last := by
  apply Through.field attr.code_ne_zero
  rw [readAttrCode, AttrTypes.ofCode_code]
  exact handled

/-- The sleeper of a bed is read by beds and skipped by others. -/
theorem through_sleeper (object : ItemObject) (guid : UInt32) :
    ∃ last, Through 0 (readAttrCode items services) object (writeAttr .sleeperGuid guid) last ∧
      object.item.Beside last.item := by
  by_cases bed : object.item.kind = .bed
  · by_cases named : guid ≠ 0 ∧ services.getNameByGuid guid ≠ []
    · refine ⟨{ object.setItem (object.item.setStrAttr .description
        (services.getNameByGuid guid ++ " is sleeping there.".toUTF8.data.toList)) with sleeperGUID := guid },
        through_field ?_, Item.Beside.describe _ _⟩
      simp only [readAttr, bed]
      apply Reader.Reads.finish (Reader.Reads.read guid)
      rw [if_pos named]
      exact Reader.Reads.pure _
    · refine ⟨object, through_field ?_, Item.Beside.refl _⟩
      simp only [readAttr, bed]
      apply Reader.Reads.finish (Reader.Reads.read guid)
      rw [if_neg named]
      exact Reader.Reads.pure _
  · refine ⟨object, through_field ?_, Item.Beside.refl _⟩
    have other : AttrTypes.isOf .sleeperGuid object.item.kind = false := by
      cases kind : object.item.kind <;> first | rfl | exact absurd kind bed
    rw [readAttr_else items services object other]
    exact Reader.Reads.finish (Reader.Reads.take (write guid)) (Reader.Reads.pure _)

theorem through_sleepStart (object : ItemObject) (time : UInt32) :
    ∃ last, Through 0 (readAttrCode items services) object (writeAttr .sleepStart time) last ∧
      object.item.Beside last.item := by
  by_cases bed : object.item.kind = .bed
  · refine ⟨{ object with sleepStart := time.toUInt64 }, through_field ?_, Item.Beside.refl _⟩
    simp only [readAttr, bed]
    exact Reader.Reads.finish (Reader.Reads.read time) (Reader.Reads.pure _)
  · refine ⟨object, through_field ?_, Item.Beside.refl _⟩
    have other : AttrTypes.isOf .sleepStart object.item.kind = false := by
      cases kind : object.item.kind <;> first | rfl | exact absurd kind bed
    rw [readAttr_else items services object other]
    exact Reader.Reads.finish (Reader.Reads.take (write time)) (Reader.Reads.pure _)

/-- The destination of a teleport is read by teleports and skipped by others. -/
theorem through_teleDest (object : ItemObject) (destPos : UInt16 × UInt16 × UInt8) :
    ∃ last, Through 0 (readAttrCode items services) object (writeAttr .teleDest destPos) last ∧
      last.item = object.item := by
  by_cases teleport : object.item.kind = .teleport
  · refine ⟨{ object with destPos }, through_field ?_, rfl⟩
    simp only [readAttr, teleport]
    exact Reader.Reads.finish (Reader.Reads.read destPos) (Reader.Reads.pure _)
  · refine ⟨object, through_field ?_, rfl⟩
    have other : AttrTypes.isOf .teleDest object.item.kind = false := by
      cases kind : object.item.kind <;> first | rfl | exact absurd kind teleport
    rw [readAttr_else items services object other]
    have size : (write destPos).length = 5 := length_write destPos
    exact Reader.Reads.finish (size ▸ Reader.Reads.take (write destPos)) (Reader.Reads.pure _)

theorem Item.Beside.trans {first middle last : Item} (one : first.Beside middle) (two : middle.Beside last) :
    first.Beside last := by
  refine ⟨two.id.trans one.id, two.count.trans one.count, ?_⟩
  intro type other
  rw [two.attr? type other, one.attr? type other]

/-- What a bed writes. -/
theorem through_bed (object : ItemObject) (guid : UInt32) (time : UInt64) :
    ∃ last, Through 0 (readAttrCode items services) object
      ((if guid ≠ 0 then writeAttr .sleeperGuid guid else []) ++
        (if time ≠ 0 then writeAttr .sleepStart time.toUInt32 else [])) last ∧ object.item.Beside last.item := by
  obtain ⟨middle, first, one⟩ : ∃ middle, Through 0 (readAttrCode items services) object
      (if guid ≠ 0 then writeAttr .sleeperGuid guid else []) middle ∧ object.item.Beside middle.item := by
    split
    · exact through_sleeper items services object guid
    · exact ⟨object, Through.nil object, Item.Beside.refl _⟩
  obtain ⟨last, second, two⟩ : ∃ last, Through 0 (readAttrCode items services) middle
      (if time ≠ 0 then writeAttr .sleepStart time.toUInt32 else []) last ∧ middle.item.Beside last.item := by
    split
    · exact through_sleepStart items services middle time.toUInt32
    · exact ⟨middle, Through.nil middle, Item.Beside.refl _⟩
  exact ⟨last, first.append second, one.trans two⟩

/-- What is written for an object takes any new object to one with the attributes that were written. -/
theorem through_object (place : Placement) (object : ItemObject) (wellSet : object.item.WellSet) (created : ItemObject) :
    ∃ last, Through 0 (readAttrCode items services) created (serializeAttr items place object) last ∧
      (object.item.writesAttributes = true → last.item = restoreItem items object.item created.item) ∧
      (object.item.writesAttributes = false → created.item.Beside last.item) := by
  have written : Through 0 (readAttrCode items services) created (serializeItemAttr items place object)
      (created.setItem (restoreItem items object.item created.item)) :=
    reading_item place object wellSet created.item created rfl
  have plain : object.item.writesAttributes = true → serializeAttr items place object = serializeItemAttr items place object →
      ∃ last, Through 0 (readAttrCode items services) created (serializeAttr items place object) last ∧
        (object.item.writesAttributes = true → last.item = restoreItem items object.item created.item) ∧
        (object.item.writesAttributes = false → created.item.Beside last.item) := by
    intro writes same
    refine ⟨_, same ▸ written, fun _ => rfl, ?_⟩
    intro none
    rw [writes] at none
    cases none
  cases kind : object.item.kind with
  | door =>
    have bytes : serializeAttr items place object = [] := by simp [serializeAttr, kind]
    refine ⟨created, bytes ▸ Through.nil created, ?_, fun _ => Item.Beside.refl _⟩
    simp [Item.writesAttributes, kind]
  | bed =>
    obtain ⟨last, through, beside⟩ := through_bed items services created object.sleeperGUID object.sleepStart
    refine ⟨last, ?_, ?_, fun _ => beside⟩
    · simpa only [serializeAttr, kind] using through
    · simp [Item.writesAttributes, kind]
  | teleport =>
    obtain ⟨last, through, same⟩ := through_teleDest items services
      (created.setItem (restoreItem items object.item created.item)) object.destPos
    refine ⟨last, ?_, fun _ => same, ?_⟩
    · simp only [serializeAttr, kind]
      exact written.append through
    · simp [Item.writesAttributes, kind]
  | _ => exact plain (by simp [Item.writesAttributes, kind]) (by simp [serializeAttr, kind])

end

/-- The state that every item has: its sub type, its count and its charges. -/
structure SameState (items : ItemTypes) (item restored : Item) : Prop where
  id : restored.id = item.id
  subType : restored.getSubType items = item.getSubType items
  count : restored.count = item.count
  charges : restored.getCharges = item.getCharges

/-- The values of the attributes that are written, a duration without what is below zero and any
decay as pending. -/
structure SameAttributes (item restored : Item) : Prop where
  strings : ∀ attr : StringAttr, restored.attr? attr.type = item.attr? attr.type
  numbers : ∀ attr : NumberAttr, restored.attr? attr.type = item.attr? attr.type
  date : restored.getIntAttr .date = item.getIntAttr .date
  duration : item.hasAttribute .duration = true → restored.getIntAttr .duration = max 0 (item.getIntAttr .duration)
  decaying : restored.getIntAttr .decayState = if item.getIntAttr .decayState = 0 then 0 else decayingPending

section

variable {items : ItemTypes}

theorem getSubType_eq (item : Item) : item.getSubType items =
    if (items.get item.id).isFluid then item.getFluidType
    else if (items.get item.id).stackable then item.count
    else if (items.get item.id).charges ≠ 0 then item.getCharges
    else item.count := rfl

theorem setSubType_eq (item : Item) (n : Nat) : item.setSubType items n =
    if (items.get item.id).isFluid then item.setIntAttr .fluidType n
    else if (items.get item.id).stackable then item.setItemCount n
    else if (items.get item.id).charges ≠ 0 then item.setIntAttr .charges n
    else item.setItemCount n := rfl

theorem stackable_dry {id : Nat} (stackable : (items.get id).stackable = true) : (items.get id).isFluid = false := by
  have group := (items.stackable_plain id stackable).group
  simp [ItemType.isFluid, ItemType.isFluidContainer, ItemType.isSplash, group]

theorem toUInt16_natCast {n : Nat} (small : n < 65536) : toUInt16 n = n := by
  unfold toUInt16
  omega

theorem toUInt8_natCast {n : Nat} (small : n < 256) : toUInt8 n = n := by
  unfold toUInt8
  omega

theorem Item.getCharges_lt (item : Item) : item.getCharges < 65536 := by
  unfold getCharges toUInt16
  omega

theorem getCharges_of_attr? {item : Item} {value : Int} (found : item.attr? .charges = some (.integer value)) :
    item.getCharges = toUInt16 value := by
  rw [Item.getCharges, Item.getIntAttr_of_attr? found]

theorem getCharges_of_none {item : Item} (absent : item.attr? .charges = none) : item.getCharges = 0 := by
  rw [Item.getCharges, Item.getIntAttr_of_none absent]
  rfl

theorem getFluidType_of_attr? {item : Item} {value : Int} (found : item.attr? .fluidType = some (.integer value)) :
    item.getFluidType = toUInt16 value := by
  rw [Item.getFluidType, Item.getIntAttr_of_attr? found]

/-- An item that has the count and the attributes of a new one of so many. -/
structure Item.LikeNew (items : ItemTypes) (normalRandom : Nat → Nat → Int) (type n : Nat) (item : Item) : Prop where
  id : item.id = type
  count : item.count = (new items normalRandom type n).count
  attr? : ∀ other, item.attr? other = (new items normalRandom type n).attr? other

open Item in
/-- What `CreateItem` makes of a type that it keeps. -/
theorem Item.Created.likeNew {normalRandom : Nat → Nat → Int} {type count : Nat} {item : Item}
    (created : Created items normalRandom type count item) (known : (items.get type).id ≠ 0)
    (same : (items.get type).ownClass = true ∨ (items.get type).id = 0 ∨ renamedItem (items.get type).id = none) :
    ∃ n, LikeNew items normalRandom type n item ∧
      (n = 0 ∨ (items.get type).ownClass = false ∧ n = if (items.get type).stackable ∧ count = 0 then 1 else count) := by
  cases created with
  | plain noClass =>
    have kept : renamedItem (items.get type).id = none := by
      rcases same with hasClass | missing | kept
      · rw [noClass] at hasClass
        cases hasClass
      · exact absurd missing known
      · exact kept
    rw [kept, getD_none]
    exact ⟨_, ⟨new_id .., rfl, fun _ => rfl⟩, .inr ⟨noClass, rfl⟩⟩
  | classed kind maxSize => exact ⟨0, ⟨new_id .., rfl, fun _ => rfl⟩, .inl rfl⟩

variable {normalRandom : Nat → Nat → Int} {n : Nat} {saved created : Item}

theorem restoreCharges_eq (item : Item) : restoreCharges items saved item =
    if saved.getCharges ≠ 0 then item.setSubType items saved.getCharges else item := by
  have small : (UInt16.ofNat saved.getCharges).toNat = saved.getCharges := by
    rw [UInt16.toNat_ofNat']
    exact Nat.mod_eq_of_lt saved.getCharges_lt
  rw [restoreCharges, small]

/-- A fluid is written in one byte, and charges are read as one. -/
theorem sameState_fluid (likeNew : created.LikeNew items normalRandom saved.id n)
    (fluid : (items.get saved.id).isFluid = true) :
    SameState items saved (restoreItem items saved created) ↔
      saved.count = 1 ∧ saved.getCharges = 0 ∧ saved.getFluidType < 256 := by
  have single : (items.get saved.id).stackable = false := by
    apply eq_false_of_ne_true
    intro stackable
    rw [stackable_dry stackable] at fluid
    cases fluid
  have first : restoreCount items saved created = created.setIntAttr .fluidType (saved.getFluidType % 256 : Nat) := by
    have written : ((items.get saved.id).stackable || (items.get saved.id).isFluidContainer ||
        (items.get saved.id).isSplash) = true := by
      rw [single]
      exact fluid
    rw [restoreCount, if_pos written, setSubType_eq, likeNew.id, if_pos fluid, getSubType_eq, if_pos fluid,
      UInt8.toNat_ofNat']
  have second : restoreCharges items saved (restoreCount items saved created) =
      if saved.getCharges ≠ 0 then
        (created.setIntAttr .fluidType (saved.getFluidType % 256 : Nat)).setIntAttr .fluidType saved.getCharges
      else created.setIntAttr .fluidType (saved.getFluidType % 256 : Nat) := by
    rw [restoreCharges_eq, first, setSubType_eq, Item.id_setIntAttr, likeNew.id, if_pos fluid]
  have id : (restoreItem items saved created).id = saved.id := (restoreItem_id ..).trans likeNew.id
  have count : (restoreItem items saved created).count = 1 := by
    have one : created.count = 1 := likeNew.count.trans (Item.new_count _ _ _ _ single)
    rw [restoreItem_count, second]
    split
    · exact one
    · exact one
  have charges : (restoreItem items saved created).getCharges = 0 := by
    apply getCharges_of_none
    have none : created.attr? .charges = none := by
      rw [likeNew.attr?, Item.new_charges, if_pos (.inl fluid)]
    rw [restoreItem_charges, second]
    split <;> simp [none]
  have fluidType : (restoreItem items saved created).getFluidType =
      if saved.getCharges ≠ 0 then saved.getCharges else saved.getFluidType % 256 := by
    have found : (restoreItem items saved created).attr? .fluidType = some (.integer
        (if saved.getCharges ≠ 0 then saved.getCharges else saved.getFluidType % 256 : Nat)) := by
      rw [restoreItem_fluidType, second]
      split <;> simp [storedInt]
    rw [getFluidType_of_attr? found, toUInt16_natCast]
    split
    · exact saved.getCharges_lt
    · omega
  have subType : ((restoreItem items saved created).getSubType items = saved.getSubType items) ↔
      (if saved.getCharges ≠ 0 then saved.getCharges else saved.getFluidType % 256) = saved.getFluidType := by
    rw [getSubType_eq, getSubType_eq, id, if_pos fluid, if_pos fluid, fluidType]
  constructor
  · intro same
    have noCharges : saved.getCharges = 0 := same.charges.symm.trans charges
    have kept := subType.mp same.subType
    rw [if_neg (not_not.mpr noCharges)] at kept
    refine ⟨same.count.symm.trans count, noCharges, ?_⟩
    omega
  · rintro ⟨one, noCharges, small⟩
    refine ⟨id, subType.mpr ?_, count.trans one.symm, charges.trans noCharges.symm⟩
    rw [if_neg (not_not.mpr noCharges)]
    exact Nat.mod_eq_of_lt small

theorem sameState_stack (likeNew : created.LikeNew items normalRandom saved.id n)
    (stackable : (items.get saved.id).stackable = true) (small : saved.count < 256) :
    SameState items saved (restoreItem items saved created) ↔ saved.getCharges = 0 := by
  have dry := ne_true_of_eq_false (stackable_dry stackable)
  have first : restoreCount items saved created = created.setItemCount saved.count := by
    have written : ((items.get saved.id).stackable || (items.get saved.id).isFluidContainer ||
        (items.get saved.id).isSplash) = true := by
      rw [stackable]
      rfl
    rw [restoreCount, if_pos written, setSubType_eq, likeNew.id, if_neg dry, if_pos stackable, getSubType_eq, if_neg dry,
      if_pos stackable, UInt8.toNat_ofNat', Nat.mod_eq_of_lt small]
  have second : restoreCharges items saved (restoreCount items saved created) =
      if saved.getCharges ≠ 0 then (created.setItemCount saved.count).setItemCount saved.getCharges
      else created.setItemCount saved.count := by
    rw [restoreCharges_eq, first, setSubType_eq, Item.id_setItemCount, likeNew.id, if_neg dry, if_pos stackable]
  have id : (restoreItem items saved created).id = saved.id := (restoreItem_id ..).trans likeNew.id
  have charges : (restoreItem items saved created).getCharges = 0 := by
    apply getCharges_of_none
    have none : created.attr? .charges = none := by
      rw [likeNew.attr?, Item.new_charges, if_pos (.inr (.inl stackable))]
    rw [restoreItem_charges, second]
    split <;> simp [none]
  constructor
  · intro same
    exact same.charges.symm.trans charges
  · intro noCharges
    have count : (restoreItem items saved created).count = saved.count := by
      rw [restoreItem_count, second, if_neg (not_not.mpr noCharges), Item.count_setItemCount, toUInt8_natCast small]
    refine ⟨id, ?_, count, charges.trans noCharges.symm⟩
    rw [getSubType_eq, getSubType_eq, id, if_neg dry, if_neg dry, if_pos stackable, if_pos stackable, count]

/-- Charges that are used up are not written, and a new item is full. -/
theorem sameState_charged (likeNew : created.LikeNew items normalRandom saved.id n)
    (given : n = 0 ∨ n = saved.getCharges)
    (dry : (items.get saved.id).isFluid = false) (single : (items.get saved.id).stackable = false)
    (charged : (items.get saved.id).charges ≠ 0) :
    SameState items saved (restoreItem items saved created) ↔
      saved.count = 1 ∧ (saved.getCharges = 0 → toUInt16 (items.get saved.id).charges = 0) := by
  have wet := ne_true_of_eq_false dry
  have stack := ne_true_of_eq_false single
  have first : restoreCount items saved created = created := by
    apply if_neg
    have dry : ((items.get saved.id).isFluidContainer || (items.get saved.id).isSplash) = false := dry
    rw [single, Bool.false_or, dry]
    exact Bool.false_ne_true
  have second : restoreCharges items saved (restoreCount items saved created) =
      if saved.getCharges ≠ 0 then created.setIntAttr .charges saved.getCharges else created := by
    rw [restoreCharges_eq, first, setSubType_eq, likeNew.id, if_neg wet, if_neg stack, if_pos charged]
  have id : (restoreItem items saved created).id = saved.id := (restoreItem_id ..).trans likeNew.id
  have count : (restoreItem items saved created).count = 1 := by
    have one : created.count = 1 := likeNew.count.trans (Item.new_count _ _ _ _ single)
    rw [restoreItem_count, second]
    split
    · exact one
    · exact one
  have charges : (restoreItem items saved created).getCharges =
      if saved.getCharges ≠ 0 then saved.getCharges else toUInt16 (items.get saved.id).charges := by
    have found : (restoreItem items saved created).attr? .charges = some (.integer
        (if saved.getCharges ≠ 0 then saved.getCharges else toUInt16 (items.get saved.id).charges : Nat)) := by
      rw [restoreItem_charges, second]
      split
      · simp [storedInt]
      · next used =>
        have none : n = 0 := by
          rcases given with none | same
          · exact none
          · exact same.trans (not_not.mp used)
        rw [likeNew.attr?, Item.new_charges, if_neg, none, if_neg (not_not.mpr rfl)]
        simp [dry, single, charged]
    rw [getCharges_of_attr? found, toUInt16_natCast]
    split
    · exact saved.getCharges_lt
    · unfold toUInt16
      omega
  have subType : (restoreItem items saved created).getSubType items = (restoreItem items saved created).getCharges := by
    rw [getSubType_eq, id, if_neg wet, if_neg stack, if_pos charged]
  have subTypeSaved : saved.getSubType items = saved.getCharges := by
    rw [getSubType_eq, if_neg wet, if_neg stack, if_pos charged]
  constructor
  · intro same
    refine ⟨same.count.symm.trans count, ?_⟩
    intro used
    rw [if_neg (not_not.mpr used)] at charges
    rw [← charges, same.charges, used]
  · rintro ⟨one, refilled⟩
    have kept : (restoreItem items saved created).getCharges = saved.getCharges := by
      rw [charges]
      split
      · rfl
      · next used => rw [not_not.mp used, refilled (not_not.mp used)]
    exact ⟨id, (subType.trans kept).trans subTypeSaved.symm, count.trans one.symm, kept⟩

/-- Charges of a thing that has none are read as its count. -/
theorem sameState_bare (likeNew : created.LikeNew items normalRandom saved.id n)
    (dry : (items.get saved.id).isFluid = false) (single : (items.get saved.id).stackable = false)
    (uncharged : (items.get saved.id).charges = 0) :
    SameState items saved (restoreItem items saved created) ↔ saved.count = 1 ∧ saved.getCharges = 0 := by
  have wet := ne_true_of_eq_false dry
  have stack := ne_true_of_eq_false single
  have first : restoreCount items saved created = created := by
    apply if_neg
    have dry : ((items.get saved.id).isFluidContainer || (items.get saved.id).isSplash) = false := dry
    rw [single, Bool.false_or, dry]
    exact Bool.false_ne_true
  have second : restoreCharges items saved (restoreCount items saved created) =
      if saved.getCharges ≠ 0 then created.setItemCount saved.getCharges else created := by
    rw [restoreCharges_eq, first, setSubType_eq, likeNew.id, if_neg wet, if_neg stack, if_neg (not_not.mpr uncharged)]
  have id : (restoreItem items saved created).id = saved.id := (restoreItem_id ..).trans likeNew.id
  have charges : (restoreItem items saved created).getCharges = 0 := by
    apply getCharges_of_none
    have none : created.attr? .charges = none := by
      rw [likeNew.attr?, Item.new_charges, if_pos (.inr (.inr uncharged))]
    rw [restoreItem_charges, second]
    split <;> simp [none]
  have one : saved.getCharges = 0 → (restoreItem items saved created).count = 1 := by
    intro noCharges
    rw [restoreItem_count, second, if_neg (not_not.mpr noCharges)]
    exact likeNew.count.trans (Item.new_count _ _ _ _ single)
  constructor
  · intro same
    have noCharges := same.charges.symm.trans charges
    exact ⟨same.count.symm.trans (one noCharges), noCharges⟩
  · rintro ⟨count, noCharges⟩
    have kept := (one noCharges).trans count.symm
    refine ⟨id, ?_, kept, charges.trans noCharges.symm⟩
    rw [getSubType_eq, getSubType_eq, id, if_neg wet, if_neg wet, if_neg stack, if_neg stack,
      if_neg (not_not.mpr uncharged), if_neg (not_not.mpr uncharged), kept]

/-- A thing of which nothing is written is new again. -/
theorem sameState_beside {last : Item} (likeNew : created.LikeNew items normalRandom saved.id 0)
    (beside : created.Beside last) (single : (items.get saved.id).stackable = false) :
    SameState items saved last ↔ saved.count = 1 ∧
      (if (items.get saved.id).isFluid ∨ (items.get saved.id).charges = 0 then saved.getCharges = 0
        else saved.getCharges = toUInt16 (items.get saved.id).charges) ∧
      ((items.get saved.id).isFluid = true → saved.getFluidType = 0) := by
  have stack := ne_true_of_eq_false single
  have id : last.id = saved.id := beside.id.trans likeNew.id
  have count : last.count = 1 := (beside.count.trans likeNew.count).trans (Item.new_count _ _ _ _ single)
  have charges : last.attr? .charges = (Item.new items normalRandom saved.id 0).attr? .charges :=
    (beside.attr? .charges (by decide)).trans (likeNew.attr? .charges)
  have fluid : last.attr? .fluidType = (Item.new items normalRandom saved.id 0).attr? .fluidType :=
    (beside.attr? .fluidType (by decide)).trans (likeNew.attr? .fluidType)
  rw [Item.new_charges] at charges
  rw [Item.new_fluidType] at fluid
  by_cases wet : (items.get saved.id).isFluid = true
  · rw [if_pos (.inl wet)] at charges
    rw [if_pos wet] at fluid
    have none := getCharges_of_none charges
    have blank : last.getFluidType = 0 := getFluidType_of_attr? fluid
    rw [if_pos (.inl wet)]
    constructor
    · intro same
      have subType := same.subType
      rw [getSubType_eq, getSubType_eq, id, if_pos wet, if_pos wet, blank] at subType
      exact ⟨same.count.symm.trans count, same.charges.symm.trans none, fun _ => subType.symm⟩
    · rintro ⟨one, noCharges, noFluid⟩
      refine ⟨id, ?_, count.trans one.symm, none.trans noCharges.symm⟩
      rw [getSubType_eq, getSubType_eq, id, if_pos wet, if_pos wet, blank, noFluid wet]
  · by_cases uncharged : (items.get saved.id).charges = 0
    · rw [if_pos (.inr (.inr uncharged))] at charges
      have none := getCharges_of_none charges
      rw [if_pos (.inr uncharged)]
      constructor
      · intro same
        exact ⟨same.count.symm.trans count, same.charges.symm.trans none, fun fluid => absurd fluid wet⟩
      · rintro ⟨one, noCharges, _⟩
        refine ⟨id, ?_, count.trans one.symm, none.trans noCharges.symm⟩
        rw [getSubType_eq, getSubType_eq, id, if_neg wet, if_neg wet, if_neg stack, if_neg stack,
          if_neg (not_not.mpr uncharged), if_neg (not_not.mpr uncharged), count, one]
    · have has : ¬ ((items.get saved.id).isFluid = true ∨ (items.get saved.id).stackable = true ∨
          (items.get saved.id).charges = 0) := by
        rintro (fluid | stackable | none)
        · exact wet fluid
        · exact stack stackable
        · exact uncharged none
      rw [if_neg has, if_neg (not_not.mpr rfl)] at charges
      have full : last.getCharges = toUInt16 (items.get saved.id).charges := by
        rw [getCharges_of_attr? charges, toUInt16_natCast]
        unfold toUInt16
        omega
      have some : ¬ ((items.get saved.id).isFluid = true ∨ (items.get saved.id).charges = 0) := by
        rintro (fluid | none)
        · exact wet fluid
        · exact uncharged none
      rw [if_neg some]
      constructor
      · intro same
        exact ⟨same.count.symm.trans count, same.charges.symm.trans full, fun fluid => absurd fluid wet⟩
      · rintro ⟨one, kept, _⟩
        have charges := full.trans kept.symm
        refine ⟨id, ?_, count.trans one.symm, charges⟩
        rw [getSubType_eq, getSubType_eq, id, if_neg wet, if_neg wet, if_neg stack, if_neg stack, if_pos uncharged,
          if_pos uncharged, charges]

theorem stored_number (wellSet : saved.WellSet) (attr : NumberAttr) {value : Int}
    (found : saved.attr? attr.type = some (.integer value)) :
    storedInt attr.type (attr.narrow value) = value ↔ attr.Fits value := by
  rw [← attr.narrow_eq_iff]
  have stored := wellSet.stored _ _ found
  cases attr with
  | attackSpeed =>
    have low : 100 ≤ value := stored
    have narrow : NumberAttr.narrow .attackSpeed value = value % 4294967296 := by
      simp only [NumberAttr.narrow, UInt32.ofInt, UInt32.toNat_ofNat']
      omega
    rw [narrow]
    simp only [storedInt, NumberAttr.type, true_and]
    split <;> omega
  | _ => rfl

theorem toInt32_ofInt {value : Int} (low : -2 ^ 31 ≤ value) (high : value < 2 ^ 31) :
    (UInt32.ofInt value).toInt32.toInt = value := by
  change (UInt32.ofInt value).toBitVec.toInt = value
  rw [BitVec.toInt_eq_toNat_bmod]
  have word : ((UInt32.ofInt value).toBitVec.toNat : Int) = value % 2 ^ 32 := by
    change ((UInt32.ofInt value).toNat : Int) = value % 2 ^ 32
    simp only [UInt32.ofInt, UInt32.toNat_ofNat']
    omega
  rw [word]
  change (value % ((2 ^ 32 : Nat) : Int)).bmod (2 ^ 32) = value
  rw [Int.emod_bmod, Int.bmod_eq_of_le]
  · exact low
  · exact high

theorem Item.WellSet.signed (wellSet : saved.WellSet) {type : ItemAttrType} (word : type = .date ∨ type = .duration) :
    -2 ^ 31 ≤ saved.getIntAttr type ∧ saved.getIntAttr type < 2 ^ 31 := by
  rw [Item.getIntAttr_eq]
  cases found : saved.attr? type with
  | none => decide
  | some value =>
    have stored := wellSet.stored _ _ found
    cases value with
    | integer value => rcases word with rfl | rfl <;> exact stored
    | string value => rcases word with rfl | rfl <;> cases stored
    | custom address => rcases word with rfl | rfl <;> cases stored

theorem sameAttributes_iff (wellSet : saved.WellSet) (blank : ∀ type, type ≠ .charges → type ≠ .fluidType →
      type ≠ .duration → created.attr? type = none) :
    SameAttributes saved (restoreItem items saved created) ↔
      ∀ (attr : NumberAttr) (value : Int), saved.attr? attr.type = some (.integer value) → attr.Fits value := by
  have numbers : ∀ attr : NumberAttr, (restoreItem items saved created).attr? attr.type = saved.attr? attr.type ↔
      ∀ value, saved.attr? attr.type = some (.integer value) → attr.Fits value := by
    intro attr
    have new : created.attr? attr.type = none := by cases attr <;> exact blank _ (by decide) (by decide) (by decide)
    rw [restoreItem_number, new, Item.hasAttribute_eq, Item.getIntAttr_eq]
    rcases wellSet.number attr with absent | ⟨value, found⟩
    · simp [absent]
    · simpa [found] using stored_number wellSet attr found
  constructor
  · intro same attr
    exact (numbers attr).mp (same.numbers attr)
  · intro fits
    refine ⟨?_, fun attr => (numbers attr).mpr (fits attr), ?_, ?_, ?_⟩
    · intro attr
      have new : created.attr? attr.type = none := by cases attr <;> exact blank _ (by decide) (by decide) (by decide)
      rw [restoreItem_string, new, Item.getStrAttr_eq]
      rcases wellSet.string attr with absent | ⟨value, found, some, _⟩
      · simp [absent]
      · simp [found, some]
    · obtain ⟨low, high⟩ := wellSet.signed (.inl rfl)
      have restored := restoreItem_date items saved created
      rw [toInt32_ofInt low high, blank .date (by decide) (by decide) (by decide)] at restored
      by_cases some : saved.getIntAttr .date ≠ 0
      · rw [if_pos some] at restored
        exact Item.getIntAttr_of_attr? restored
      · rw [if_neg some] at restored
        rw [Item.getIntAttr_of_none restored, not_not.mp some]
    · intro has
      obtain ⟨low, high⟩ := wellSet.signed (.inr rfl)
      have restored := restoreItem_duration items saved created
      rw [if_pos has, toInt32_ofInt low high] at restored
      exact Item.getIntAttr_of_attr? restored
    · have restored := restoreItem_decayState items saved created
      rw [blank .decayState (by decide) (by decide) (by decide)] at restored
      have values : saved.getIntAttr .decayState = 0 ∨ saved.getIntAttr .decayState = decayingTrue ∨
          saved.getIntAttr .decayState = decayingPending := by
        cases found : saved.attr? .decayState with
        | none => exact .inl (Item.getIntAttr_of_none found)
        | some value =>
          have stored := wellSet.stored _ _ found
          cases value with
          | integer value =>
            rw [Item.getIntAttr_of_attr? found]
            exact stored
          | string value => cases stored
          | custom address => cases stored
      rcases values with still | decays
      · have not : ¬ (saved.getIntAttr .decayState = decayingTrue ∨ saved.getIntAttr .decayState = decayingPending) := by
          rw [still]
          decide
        rw [if_neg not] at restored
        rw [Item.getIntAttr_of_none restored, if_pos still]
      · have not : saved.getIntAttr .decayState ≠ 0 := by
          rcases decays with same | same
          · rw [same]
            decide
          · rw [same]
            decide
        rw [if_pos decays] at restored
        rw [Item.getIntAttr_of_attr? restored, if_neg not]

end

/-- Whatever the rest of the server answers, creating an item of the id and the sub type and reading
what was written for the object makes it again. -/
def ItemObject.RoundTrips (items : ItemTypes) (object : ItemObject) : Prop :=
  ∀ (place : Placement) (services : ItemServices) (normalRandom : Nat → Nat → Int), ∃ created restored,
    Item.createItem items normalRandom object.item.id (object.item.getSubType items) = some created ∧
    (unserializeAttr items services { item := created }).run (serializeAttr items place object) =
      (some (true, restored), []) ∧
    SameState items object.item restored.item ∧
    (object.item.writesAttributes = true → SameAttributes object.item restored.item)

/-- The fields that the reader does not tell apart hold what it makes of them. -/
structure Item.KeepsState (items : ItemTypes) (item : Item) : Prop where
  count : (items.get item.id).stackable = false → item.count = 1
  uncharged : (items.get item.id).isFluid = true ∨ (items.get item.id).stackable = true ∨ (items.get item.id).charges = 0 →
    item.getCharges = 0
  charged : (items.get item.id).isFluid = false → (items.get item.id).stackable = false →
    (items.get item.id).charges ≠ 0 →
    if item.writesAttributes then item.getCharges = 0 → toUInt16 (items.get item.id).charges = 0
    else item.getCharges = toUInt16 (items.get item.id).charges
  fluidType : (items.get item.id).isFluid = true →
    if item.writesAttributes then item.getFluidType < 256 else item.getFluidType = 0

/-- The items that are made again: their type exists, their state is kept, and the numbers fit. -/
structure Item.Kept (items : ItemTypes) (item : Item) : Prop extends item.KeepsState items where
  known : (items.get item.id).Exists
  numbers : item.writesAttributes = true → ∀ (attr : NumberAttr) (value : Int),
    item.attr? attr.type = some (.integer value) → attr.Fits value

section

variable {items : ItemTypes} {normalRandom : Nat → Nat → Int} {saved created last : Item} {n : Nat}

theorem keepsState_written (wellSet : saved.WellSet) (likeNew : created.LikeNew items normalRandom saved.id n)
    (given : n = 0 ∨ n = if (items.get saved.id).stackable ∧ saved.getSubType items = 0 then 1 else saved.getSubType items)
    (writes : saved.writesAttributes = true) :
    SameState items saved (restoreItem items saved created) ↔ saved.KeepsState items := by
  by_cases stackable : (items.get saved.id).stackable = true
  · have dry := stackable_dry stackable
    rw [sameState_stack likeNew stackable wellSet.count]
    constructor
    · intro none
      refine ⟨?_, fun _ => none, ?_, ?_⟩
      · simp [stackable]
      · simp [stackable]
      · simp [dry]
    · intro keeps
      exact keeps.uncharged (.inr (.inl stackable))
  · have single := eq_false_of_ne_true stackable
    by_cases fluid : (items.get saved.id).isFluid = true
    · rw [sameState_fluid likeNew fluid]
      constructor
      · rintro ⟨one, none, small⟩
        refine ⟨fun _ => one, fun _ => none, ?_, ?_⟩
        · simp [fluid]
        · simp [writes, small]
      · intro keeps
        exact ⟨keeps.count single, keeps.uncharged (.inl fluid), by simpa [writes] using keeps.fluidType fluid⟩
    · have dry := eq_false_of_ne_true fluid
      by_cases charged : (items.get saved.id).charges = 0
      · rw [sameState_bare likeNew dry single charged]
        constructor
        · rintro ⟨one, none⟩
          refine ⟨fun _ => one, fun _ => none, ?_, ?_⟩
          · simp [charged]
          · simp [dry]
        · intro keeps
          exact ⟨keeps.count single, keeps.uncharged (.inr (.inr charged))⟩
      · have given : n = 0 ∨ n = saved.getCharges := by
          rw [getSubType_eq, if_neg fluid, if_neg stackable, if_pos charged] at given
          simpa [single] using given
        rw [sameState_charged likeNew given dry single charged]
        constructor
        · rintro ⟨one, refilled⟩
          refine ⟨fun _ => one, ?_, ?_, ?_⟩
          · simp [dry, single, charged]
          · simpa [writes] using fun _ _ _ => refilled
          · simp [dry]
        · intro keeps
          exact ⟨keeps.count single, by simpa [writes] using keeps.charged dry single charged⟩

theorem keepsState_unwritten (likeNew : created.LikeNew items normalRandom saved.id 0) (beside : created.Beside last)
    (single : (items.get saved.id).stackable = false) (unwritten : saved.writesAttributes = false) :
    SameState items saved last ↔ saved.KeepsState items := by
  rw [sameState_beside likeNew beside single]
  constructor
  · rintro ⟨one, charges, fluid⟩
    refine ⟨fun _ => one, ?_, ?_, ?_⟩
    · rintro (wet | stackable | none)
      · rwa [if_pos (.inl wet)] at charges
      · rw [single] at stackable
        cases stackable
      · rwa [if_pos (.inr none)] at charges
    · intro dry _ charged
      rw [if_neg (by simp [dry, charged])] at charges
      simpa [unwritten] using charges
    · simpa [unwritten] using fluid
  · intro keeps
    refine ⟨keeps.count single, ?_, by simpa [unwritten] using keeps.fluidType⟩
    split
    · next none => exact keeps.uncharged (none.imp_right .inr)
    · next some =>
      obtain ⟨dry, charged⟩ := not_or.mp some
      simpa [unwritten] using keeps.charged (eq_false_of_ne_true dry) single charged

/-- A thing of which nothing is written is of a class of its own, and no stack. -/
theorem Reached.unwritten (reached : Reached items saved) (unwritten : saved.writesAttributes = false) :
    (items.get saved.id).ownClass = true ∧ (items.get saved.id).stackable = false := by
  have kind : saved.kind = .door ∨ saved.kind = .bed := by
    simpa [Item.writesAttributes, or_iff_not_imp_left] using unwritten
  have types : (items.get saved.id).isDoor = true ∨ (items.get saved.id).isBed = true :=
    kind.imp reached.kind.1 reached.kind.2
  constructor
  · rcases types with door | bed
    · simp [ItemType.ownClass, door]
    · simp [ItemType.ownClass, bed]
  · apply eq_false_of_ne_true
    intro stackable
    have plain := (items.stackable_plain _ stackable).type
    rcases types with door | bed
    · simp only [ItemType.isDoor, decide_eq_true_eq] at door
      simp [door] at plain
    · simp only [ItemType.isBed, decide_eq_true_eq] at bed
      simp [bed] at plain

theorem Reached.restored (indexed : items.Indexed) {object : ItemObject} (reached : Reached items object.item)
    (place : Placement) (services : ItemServices) {created : Item}
    (made : Item.createItem items normalRandom object.item.id (object.item.getSubType items) = some created) :
    ∃ last : ItemObject, (unserializeAttr items services { item := created }).run (serializeAttr items place object) =
      (some (true, last), []) ∧ (SameState items object.item last.item ↔ object.item.KeepsState items) ∧
      (object.item.writesAttributes = true → (SameAttributes object.item last.item ↔
        ∀ (attr : NumberAttr) (value : Int), object.item.attr? attr.type = some (.integer value) → attr.Fits value)) := by
  have wellSet := reached.wellSet
  have known := (Item.createItem_exists made).2
  obtain ⟨n, likeNew, given⟩ := (Item.createItem_created made).likeNew known (reached.sameId indexed)
  obtain ⟨last, through, written, unwritten⟩ := through_object items services place object wellSet { item := created }
  refine ⟨last, through.run, ?_, ?_⟩
  · cases writes : object.item.writesAttributes with
    | true =>
      rw [written writes]
      exact keepsState_written wellSet likeNew (given.imp_right And.right) writes
    | false =>
      obtain ⟨hasClass, single⟩ := reached.unwritten writes
      have none : n = 0 := by
        rcases given with none | ⟨noClass, _⟩
        · exact none
        · rw [hasClass] at noClass
          cases noClass
      subst none
      exact keepsState_unwritten likeNew (unwritten writes) single writes
  · intro writes
    rw [written writes]
    apply sameAttributes_iff wellSet
    intro type noCharges noFluid noDuration
    rw [likeNew.attr?, Item.new_attr? _ _ _ _ noCharges noFluid noDuration]

theorem ItemObject.RoundTrips.kept (indexed : items.Indexed) {object : ItemObject} (reached : Reached items object.item)
    (roundTrips : object.RoundTrips items) : object.item.Kept items := by
  have place := CustomAttribute.roundAddress
  have services : ItemServices := ⟨fun _ => true, fun _ => [], 0⟩
  obtain ⟨created, restored, made, read, state, attributes⟩ := roundTrips place services (fun _ _ => 0)
  obtain ⟨last, run, stateIff, attributesIff⟩ := reached.restored indexed place services made
  have same : restored = last := by
    rw [run] at read
    cases read
    rfl
  subst same
  exact ⟨stateIff.mp state, Item.createItem_exists made, fun writes => (attributesIff writes).mp (attributes writes)⟩

/-- An item is made again just when it is one of the kept. -/
theorem roundTrips_iff_kept (indexed : items.Indexed) {object : ItemObject} (reached : Reached items object.item) :
    object.RoundTrips items ↔ object.item.Kept items := by
  constructor
  · exact ItemObject.RoundTrips.kept indexed reached
  · intro kept place services normalRandom
    obtain ⟨created, made⟩ := Item.createItem_some normalRandom (object.item.getSubType items) kept.known
    obtain ⟨last, run, stateIff, attributesIff⟩ := reached.restored indexed place services made
    exact ⟨created, last, made, run, stateIff.mpr kept.toKeepsState,
      fun writes => (attributesIff writes).mpr (kept.numbers writes)⟩

end

theorem gameItems_indexed : gameItems.Indexed := ItemTypes.ofList_id _ _ _ _

def fiveCoins : Item := { id := 2148, count := 5 }

theorem fiveCoins_reached : Reached gameItems fiveCoins := by
  have made : Item.createItem gameItems (fun _ _ => 0) 2148 (5 : UInt16).toNat = some fiveCoins := by decide +kernel
  exact .create made

theorem roundTrips_iff_kept_coins :
    ItemObject.RoundTrips gameItems { item := fiveCoins } ↔ fiveCoins.Kept gameItems :=
  roundTrips_iff_kept gameItems_indexed fiveCoins_reached

/-- Coins that were given three charges come back as three coins. -/
theorem not_roundTrips_charges : Reached gameItems ((ItemSetter.charges 3).apply fiveCoins) ∧
    ¬ ItemObject.RoundTrips gameItems { item := (ItemSetter.charges 3).apply fiveCoins } := by
  have reached := fiveCoins_reached.set (.charges 3)
  refine ⟨reached, ?_⟩
  intro roundTrips
  have kept := ItemObject.RoundTrips.kept gameItems_indexed reached roundTrips
  exact absurd (kept.uncharged (.inr (.inl rfl))) (by decide)

end Styller
