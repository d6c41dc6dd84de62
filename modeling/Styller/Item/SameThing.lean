import Styller.Item.Codec

/-! Reading attributes leaves an item what it is. -/

namespace Styller

open Library Reader

/-- The same thing with other attributes or of another count. -/
structure Item.SameThing (first last : Item) : Prop where
  id : last.id = first.id
  kind : last.kind = first.kind
  totalWeight : last.totalWeight = first.totalWeight

namespace Item.SameThing

variable {first item : Item}

theorem refl (item : Item) : item.SameThing item := ⟨rfl, rfl, rfl⟩

theorem setIntAttr (same : first.SameThing item) (type : ItemAttrType) (value : Int) :
    first.SameThing (item.setIntAttr type value) := ⟨same.id, same.kind, same.totalWeight⟩

theorem setStrAttr (same : first.SameThing item) (type : ItemAttrType) (value : Bytes) :
    first.SameThing (item.setStrAttr type value) := ⟨same.id, same.kind, same.totalWeight⟩

theorem setItemCount (same : first.SameThing item) (n : Int) : first.SameThing (item.setItemCount n) :=
  ⟨same.id, same.kind, same.totalWeight⟩

theorem ite {condition : Prop} [Decidable condition] {one two : Item} (yes : first.SameThing one)
    (no : first.SameThing two) : first.SameThing (if condition then one else two) := by
  split
  · exact yes
  · exact no

theorem setSubType (same : first.SameThing item) (items : ItemTypes) (n : Nat) :
    first.SameThing (item.setSubType items n) :=
  .ite (same.setIntAttr _ _) (.ite (same.setItemCount _) (.ite (same.setIntAttr _ _) (same.setItemCount _)))

theorem setCustom {object : ItemObject} (same : first.SameThing object.item) (services : ItemServices)
    (map : CustomAttributeMap) : first.SameThing (object.setCustom services map).item :=
  .ite same ⟨same.id, same.kind, same.totalWeight⟩

end Item.SameThing

section

variable (items : ItemTypes) (services : ItemServices) {first : Item} {object : ItemObject}

theorem readItemAttr_same (same : first.SameThing object.item) (attr : AttrTypes) :
    (readItemAttr items services object attr).Yields (fun handled => first.SameThing handled.state.item) := by
  cases attr with
  | count | runeCharges => exact Yields.then fun count => Yields.pure (same.setSubType items _)
  | charges => exact Yields.then fun charges => Yields.pure (same.setSubType items _)
  | uniqueId =>
    apply Yields.then
    intro uniqueId
    split
    · exact Yields.pure same
    · exact Yields.pure (same.setIntAttr _ _)
  | decayingState => exact Yields.then fun state => Yields.pure (.ite (same.setIntAttr _ _) same)
  | containerItems => exact Yields.pure same
  | depotId | houseDoorId | sleeperGuid | sleepStart | teleDest => exact Yields.then fun _ => Yields.pure same
  | customAttributes =>
    apply Yields.then
    intro handled
    cases handled with
    | more map => exact Yields.pure (same.setCustom services map)
    | last map => exact Yields.pure (same.setCustom services map)
    | error map => exact Yields.pure (same.setCustom services map)
  | text | desc | writtenBy | name | article | pluralName => exact Yields.then fun _ => Yields.pure (same.setStrAttr _ _)
  | _ => exact Yields.then fun _ => Yields.pure (same.setIntAttr _ _)

theorem readAttr_same (same : first.SameThing object.item) (attr : AttrTypes) :
    (readAttr items services object attr).Yields (fun handled => first.SameThing handled.state.item) := by
  unfold readAttr
  split
  · exact Yields.then fun _ => Yields.pure same
  · exact Yields.then fun _ => Yields.pure same
  · exact Yields.then fun _ => Yields.pure same
  · exact Yields.then fun _ => Yields.pure same
  · exact Yields.then fun _ => Yields.pure (same.setIntAttr _ _)
  · apply Yields.then
    intro guid
    dsimp only
    split
    · exact Yields.pure (same.setStrAttr _ _)
    · exact Yields.pure same
  · exact Yields.then fun _ => Yields.pure same
  · exact readItemAttr_same items services same _

/-- Reading attributes does not make another thing of an item. -/
theorem unserializeAttr_same (object : ItemObject) :
    (unserializeAttr items services object).Yields (fun result => object.item.SameThing result.2.item) := by
  apply readFields_yields (fun state : ItemObject => object.item.SameThing state.item) (Item.SameThing.refl object.item)
  intro state tag same
  unfold readAttrCode
  split
  · exact readAttr_same items services same _
  · exact Yields.pure same

end

end Styller
