import Mathlib.Data.Finset.Basic
import Styller.Library.Run

/-! The creatures that a client knows: the set that `isKnownCreature` keeps of them, and the one that the client makes of the
headers of the creatures that are described to it. -/

namespace Styller.KnownCreatures

open Library List

/-- What `isKnownCreature` finds when it is called. -/
structure Inquiry where
  id : UInt32
  /-- `setID` gives no creature this id. -/
  nonzero : id ≠ 0
  /-- The order in which the set is gone through once it has its entries. -/
  order : List UInt32 → List UInt32
  perm : ∀ ids, (order ids).Perm ids
  /-- Whether the player sees the creature with an id; it does not if there is none. -/
  canSee : UInt32 → Bool
  /-- What is read through a reference to an entry once it is erased. -/
  erased : UInt32 → UInt32

namespace Inquiry
variable (inquiry : Inquiry)

/-- The set after the insertion, in its order. -/
def inserted (known : List UInt32) : List UInt32 := inquiry.order (inquiry.id :: known)

/-- The first entry of which the player does not see the creature. -/
def unseen (ids : List UInt32) : Option UInt32 := ids.find? fun creatureId => !inquiry.canSee creatureId

/-- The first entry, or the second one if the first one is the new one. -/
def anyone (ids : List UInt32) : UInt32 :=
  if ids.getD 0 0 = inquiry.id then ids.getD 1 0 else ids.getD 0 0

/-- `ProtocolGame::isKnownCreature`: whether the creature is known and which one is to be removed, and the set after that. -/
def isKnownCreature (known : List UInt32) : (Bool × UInt32) × List UInt32 :=
  if inquiry.id ∈ known then ((true, 0), known)
  else
    let ids := inquiry.inserted known
    if ids.length > 250 then
      -- the entry is erased before the reference or the iterator to it is read for the answer
      match inquiry.unseen ids with
      | some creatureId => ((false, inquiry.erased creatureId), ids.erase creatureId)
      | none => ((false, inquiry.erased (inquiry.anyone ids)), ids.erase (inquiry.anyone ids))
    else ((false, 0), ids)

end Inquiry

/-- The set of the server in some order, and the set of the client. -/
structure Pair where
  server : List UInt32 := []
  client : Finset UInt32 := ∅

def hear (client : Finset UInt32) (id : UInt32) (known : Bool) (removed : UInt32) : Finset UInt32 :=
  if known then client else insert id (client.erase removed)

/-- A creature is described: the server looks it up, and the client reads what it answers. -/
def describe (pair : Pair) (inquiry : Inquiry) : Pair :=
  let ((known, removed), server) := inquiry.isKnownCreature pair.server
  ⟨server, hear pair.client inquiry.id known removed⟩

/-- Both sets hold the same creatures. -/
structure Mirrored (pair : Pair) : Prop where
  nodup : pair.server.Nodup
  few : pair.server.length ≤ 250
  ids : 0 ∉ pair.server
  same : ∀ id, id ∈ pair.server ↔ id ∈ pair.client

/-- After a creature is described both sets are the same and small enough, and a creature that is reported as removed was in
the set and is another one. -/
structure Right (pair : Pair) (inquiry : Inquiry) : Prop where
  same : ∀ id, id ∈ (describe pair inquiry).server ↔ id ∈ (describe pair inquiry).client
  few : (describe pair inquiry).server.length ≤ 250
  removed : ∀ removed, (inquiry.isKnownCreature pair.server).1 = (false, removed) → removed ≠ 0 →
    removed ∈ pair.server ∧ removed ≠ inquiry.id

/-- The creature is known, or there is room for it, or the entry that has to go is another one and can still be read. -/
def Clear (pair : Pair) (inquiry : Inquiry) : Prop :=
  inquiry.id ∈ pair.server ∨ pair.server.length < 250 ∨
    match inquiry.unseen (inquiry.inserted pair.server) with
    | some creatureId => creatureId ≠ inquiry.id ∧ inquiry.erased creatureId = creatureId
    | none =>
      let creatureId := inquiry.anyone (inquiry.inserted pair.server)
      inquiry.erased creatureId = creatureId

section
variable {inquiry : Inquiry} {pair : Pair} {known : List UInt32}

theorem mem_inserted {id : UInt32} : id ∈ inquiry.inserted known ↔ id = inquiry.id ∨ id ∈ known := by
  rw [Inquiry.inserted, (inquiry.perm _).mem_iff, mem_cons]

theorem length_inserted : (inquiry.inserted known).length = known.length + 1 :=
  (inquiry.perm _).length_eq

theorem nodup_inserted (new : inquiry.id ∉ known) (nodup : known.Nodup) : (inquiry.inserted known).Nodup :=
  (inquiry.perm _).nodup_iff.mpr (nodup_cons.mpr ⟨new, nodup⟩)

theorem mem_of_unseen {ids : List UInt32} {creatureId : UInt32} (found : inquiry.unseen ids = some creatureId) :
    creatureId ∈ ids := mem_of_find?_eq_some found

/-- The second entry stands in for the first one only where that is the new one. -/
theorem anyone_other {ids : List UInt32} (nodup : ids.Nodup) (two : 2 ≤ ids.length) :
    inquiry.anyone ids ∈ ids ∧ inquiry.anyone ids ≠ inquiry.id := by
  cases ids with
  | nil => cases two
  | cons first rest =>
    cases rest with
    | nil => simp at two
    | cons second rest =>
      have different : first ≠ second := fun same => (nodup_cons.mp nodup).1 (same ▸ mem_cons_self)
      unfold Inquiry.anyone
      simp only [getD_cons_zero, getD_cons_succ]
      split
      · rename_i new
        exact ⟨by simp, fun same => different (new.trans same.symm)⟩
      · rename_i other
        exact ⟨by simp, other⟩

/-- The entry that has to go. -/
def evicted (inquiry : Inquiry) (ids : List UInt32) : UInt32 := (inquiry.unseen ids).getD (inquiry.anyone ids)

theorem isKnownCreature_full (new : inquiry.id ∉ known) (full : 250 ≤ known.length) :
    inquiry.isKnownCreature known = ((false, inquiry.erased (evicted inquiry (inquiry.inserted known))),
      (inquiry.inserted known).erase (evicted inquiry (inquiry.inserted known))) := by
  have many : (inquiry.inserted known).length > 250 := by
    rw [length_inserted]
    omega
  unfold Inquiry.isKnownCreature evicted
  simp only
  rw [if_neg new, if_pos many]
  cases inquiry.unseen (inquiry.inserted known) with
  | none => rfl
  | some creatureId => rfl

theorem isKnownCreature_room (new : inquiry.id ∉ known) (room : known.length < 250) :
    inquiry.isKnownCreature known = ((false, 0), inquiry.inserted known) := by
  have few : ¬ (inquiry.inserted known).length > 250 := by
    rw [length_inserted]
    omega
  unfold Inquiry.isKnownCreature
  simp only
  rw [if_neg new, if_neg few]

theorem isKnownCreature_known (old : inquiry.id ∈ known) : inquiry.isKnownCreature known = ((true, 0), known) :=
  if_pos old

theorem evicted_mem (nodup : (inquiry.inserted known).Nodup) (full : 250 ≤ known.length) :
    evicted inquiry (inquiry.inserted known) ∈ inquiry.inserted known := by
  unfold evicted
  cases found : inquiry.unseen (inquiry.inserted known) with
  | none =>
    apply (anyone_other nodup _).1
    rw [length_inserted]
    omega
  | some creatureId => exact mem_of_unseen found

theorem clear_full (mirrored : Mirrored pair) (new : inquiry.id ∉ pair.server) (full : 250 ≤ pair.server.length) :
    Clear pair inquiry ↔ evicted inquiry (inquiry.inserted pair.server) ≠ inquiry.id ∧
      inquiry.erased (evicted inquiry (inquiry.inserted pair.server)) = evicted inquiry (inquiry.inserted pair.server) := by
  have two : 2 ≤ (inquiry.inserted pair.server).length := by
    rw [length_inserted]
    omega
  have other : inquiry.anyone (inquiry.inserted pair.server) ≠ inquiry.id :=
    (anyone_other (nodup_inserted new mirrored.nodup) two).2
  unfold Clear evicted
  rw [or_iff_right new, or_iff_right (Nat.not_lt.mpr full)]
  cases inquiry.unseen (inquiry.inserted pair.server) with
  | none =>
    constructor
    · exact fun readable => ⟨other, readable⟩
    · exact And.right
  | some creatureId => exact Iff.rfl

/-- An entry goes and one is reported: the sets stay the same just if these are one and it is not the new one. -/
theorem same_erase {ids : List UInt32} {client : Finset UInt32} {id gone reported : UInt32} (new : id ∉ known) (nodup : ids.Nodup)
    (listed : ∀ other, other ∈ ids ↔ other = id ∨ other ∈ known) (same : ∀ other, other ∈ known ↔ other ∈ client)
    (member : gone ∈ ids) :
    (∀ other, other ∈ ids.erase gone ↔ other ∈ hear client id false reported) ↔ gone ≠ id ∧ reported = gone := by
  have left : ∀ other, other ∈ ids.erase gone ↔ other ≠ gone ∧ (other = id ∨ other ∈ known) := by
    intro other
    rw [nodup.mem_erase_iff, listed]
  have right : ∀ other, other ∈ hear client id false reported ↔ other = id ∨ other ≠ reported ∧ other ∈ known := by
    intro other
    rw [hear, if_neg Bool.false_ne_true, Finset.mem_insert, Finset.mem_erase, same]
  constructor
  · intro agree
    have stays : id ≠ gone := ((left id).mp ((agree id).mpr ((right id).mpr (.inl rfl)))).1
    refine ⟨stays.symm, ?_⟩
    have before : gone ∈ known := ((listed gone).mp member).resolve_left stays.symm
    by_contra apart
    have back := (agree gone).mpr ((right gone).mpr (.inr ⟨fun same => apart same.symm, before⟩))
    exact ((left gone).mp back).1 rfl
  · rintro ⟨other, rfl⟩ id
    rw [left, right]
    constructor
    · rintro ⟨apart, rfl | before⟩
      · exact .inl rfl
      · exact .inr ⟨apart, before⟩
    · rintro (rfl | ⟨apart, before⟩)
      · exact ⟨other.symm, .inl rfl⟩
      · exact ⟨apart, .inr before⟩

theorem right_of_known (mirrored : Mirrored pair) (old : inquiry.id ∈ pair.server) : Right pair inquiry := by
  have answer := isKnownCreature_known old
  have after : describe pair inquiry = pair := by
    rw [describe, answer]
    rfl
  constructor
  · rw [after]
    exact mirrored.same
  · rw [after]
    exact mirrored.few
  · intro removed told
    rw [answer] at told
    cases told

theorem right_of_room (mirrored : Mirrored pair) (new : inquiry.id ∉ pair.server) (room : pair.server.length < 250) :
    Right pair inquiry := by
  have answer := isKnownCreature_room new room
  have after : describe pair inquiry = ⟨inquiry.inserted pair.server, hear pair.client inquiry.id false 0⟩ := by
    rw [describe, answer]
  constructor
  · intro id
    rw [after]
    simp only
    rw [mem_inserted, hear, if_neg Bool.false_ne_true, Finset.mem_insert, Finset.mem_erase, ← mirrored.same]
    constructor
    · rintro (rfl | before)
      · exact .inl rfl
      · exact .inr ⟨fun zero => mirrored.ids (zero ▸ before), before⟩
    · rintro (rfl | ⟨_, before⟩)
      · exact .inl rfl
      · exact .inr before
  · rw [after]
    exact length_inserted.trans_le room
  · intro removed told
    rw [answer] at told
    cases told
    exact fun none => absurd rfl none

theorem right_iff_of_full (mirrored : Mirrored pair) (new : inquiry.id ∉ pair.server) (full : 250 ≤ pair.server.length) :
    Right pair inquiry ↔ Clear pair inquiry := by
  have nodup := nodup_inserted new mirrored.nodup
  have member := evicted_mem nodup full
  have answer := isKnownCreature_full new full
  have after : describe pair inquiry = ⟨(inquiry.inserted pair.server).erase (evicted inquiry (inquiry.inserted pair.server)),
      hear pair.client inquiry.id false (inquiry.erased (evicted inquiry (inquiry.inserted pair.server)))⟩ := by
    rw [describe, answer]
  have agree : (∀ id, id ∈ (describe pair inquiry).server ↔ id ∈ (describe pair inquiry).client) ↔
      evicted inquiry (inquiry.inserted pair.server) ≠ inquiry.id ∧
        inquiry.erased (evicted inquiry (inquiry.inserted pair.server)) = evicted inquiry (inquiry.inserted pair.server) := by
    rw [after]
    exact same_erase new nodup (fun _ => mem_inserted) mirrored.same member
  rw [clear_full mirrored new full, ← agree]
  constructor
  · exact Right.same
  · intro same
    obtain ⟨other, readable⟩ := agree.mp same
    constructor
    · exact same
    · rw [after]
      simp only
      rw [length_erase_of_mem member, length_inserted, Nat.add_sub_cancel]
      exact mirrored.few
    · intro removed told _
      rw [answer, readable] at told
      cases told
      exact ⟨(mem_inserted.mp member).resolve_left other, other⟩

/-- One description is right just if the entry that has to go, if there is one, is clear. -/
theorem right_iff_clear (mirrored : Mirrored pair) : Right pair inquiry ↔ Clear pair inquiry := by
  by_cases old : inquiry.id ∈ pair.server
  · exact iff_of_true (right_of_known mirrored old) (.inl old)
  · by_cases room : pair.server.length < 250
    · exact iff_of_true (right_of_room mirrored old room) (.inr (.inl room))
    · exact right_iff_of_full mirrored old (Nat.not_lt.mp room)

/-- The entries stay different and none of them is 0. -/
theorem Right.mirrored (mirrored : Mirrored pair) (right : Right pair inquiry) : Mirrored (describe pair inquiry) := by
  have entries : (describe pair inquiry).server.Nodup ∧ 0 ∉ (describe pair inquiry).server := by
    have ids : 0 ∉ inquiry.inserted pair.server := by
      rw [mem_inserted]
      rintro (zero | before)
      · exact inquiry.nonzero zero.symm
      · exact mirrored.ids before
    by_cases old : inquiry.id ∈ pair.server
    · rw [describe, isKnownCreature_known old]
      exact ⟨mirrored.nodup, mirrored.ids⟩
    · have nodup := nodup_inserted old mirrored.nodup
      by_cases room : pair.server.length < 250
      · rw [describe, isKnownCreature_room old room]
        exact ⟨nodup, ids⟩
      · rw [describe, isKnownCreature_full old (Nat.not_lt.mp room)]
        exact ⟨nodup.erase _, fun listed => ids (mem_of_mem_erase listed)⟩
  exact ⟨entries.1, right.few, entries.2, right.same⟩

theorem mirrored_empty : Mirrored {} := by
  constructor
  · exact nodup_nil
  · exact Nat.zero_le _
  · exact not_mem_nil
  · intro id
    exact iff_of_false not_mem_nil (Finset.notMem_empty id)

theorem right_throughout (start : Mirrored pair) (inquiries : List Inquiry) :
    Throughout describe Right pair inquiries ↔ Throughout describe Clear pair inquiries := by
  have kept : ∀ pair inquiry, Mirrored pair → Right pair inquiry → Mirrored (describe pair inquiry) :=
    fun _ _ mirrored right => right.mirrored mirrored
  have correct : ∀ pair inquiry, Mirrored pair → (Right pair inquiry ↔ Clear pair inquiry) :=
    fun _ _ mirrored => right_iff_clear mirrored
  exact throughout_iff kept correct start inquiries

end

/-- Along a run of descriptions, from the login on, the client's set is the server's after each of them, with at most 250
creatures, and what is reported as removed was in it and is not the one described, just if at each of them the creature is
known or there is room for it, or the entry that has to go is another one and can still be read. -/
theorem mirrored_along_iff (inquiries : List Inquiry) :
    Throughout describe Right {} inquiries ↔ Throughout describe Clear {} inquiries :=
  right_throughout mirrored_empty inquiries

/-- A creature is described that the player does not see, such as one on a tile that it has just left: entries come to the
front, and they read as before when they are erased. -/
def glimpse (id : UInt32) : Inquiry where
  id := if id = 0 then 1 else id
  nonzero := by
    split
    · decide
    · assumption
  order := fun ids => ids
  perm := fun ids => List.Perm.refl ids
  canSee := fun _ => false
  erased := fun creatureId => creatureId

/-- Descriptions of creatures with different ids. -/
def crowd (count : Nat) : List Inquiry := (List.range count).map fun index => glimpse (UInt32.ofNat (index + 1))

theorem toNat_ofNat_small {value : Nat} (small : value ≤ 1000) : (UInt32.ofNat value).toNat = value :=
  UInt32.toNat_ofNat_of_lt' (Nat.lt_of_le_of_lt small (by decide))

theorem glimpse_id {index : Nat} (small : index < 1000) : (glimpse (UInt32.ofNat (index + 1))).id = UInt32.ofNat (index + 1) := by
  have nonzero : UInt32.ofNat (index + 1) ≠ 0 := by
    intro zero
    have value := congrArg UInt32.toNat zero
    rw [toNat_ofNat_small (show index + 1 ≤ 1000 by omega)] at value
    cases value
  exact if_neg nonzero

/-- As long as there is room each of them is put to the front. -/
theorem crowd_server {count : Nat} (room : count ≤ 250) :
    ((crowd count).foldl describe {}).server = (List.range count).reverse.map fun index => UInt32.ofNat (index + 1) := by
  induction count with
  | zero => rfl
  | succ count ih =>
    have before := ih (Nat.le_of_succ_le room)
    have id := glimpse_id (show count < 1000 by omega)
    have new : (glimpse (UInt32.ofNat (count + 1))).id ∉ ((crowd count).foldl describe {}).server := by
      rw [before, id, mem_map]
      rintro ⟨index, listed, same⟩
      have below := mem_range.mp (mem_reverse.mp listed)
      have value := congrArg UInt32.toNat same
      rw [toNat_ofNat_small (show index + 1 ≤ 1000 by omega), toNat_ofNat_small (show count + 1 ≤ 1000 by omega)] at value
      omega
    have few : ((crowd count).foldl describe {}).server.length < 250 := by
      rw [before, length_map, length_reverse, length_range]
      exact room
    have more : crowd (count + 1) = crowd count ++ [glimpse (UInt32.ofNat (count + 1))] := by
      rw [crowd, range_succ, map_append]
      rfl
    rw [more, foldl_append, foldl_cons, foldl_nil, describe, isKnownCreature_room new few, range_succ,
      reverse_append, reverse_singleton, singleton_append, map_cons, ← before]
    exact congrArg (fun id => id :: _) id

/-- The 251st creature is described out of sight and is the first one in the set, which forgets it at once. -/
theorem crowd_forgotten : ¬ ∀ inquiries, Throughout describe Right {} inquiries := by
  intro always
  have whole := (right_throughout mirrored_empty _).mp (always (crowd 250 ++ [glimpse 251]))
  have last : Clear ((crowd 250).foldl describe {}) (glimpse 251) := (throughout_append whole).1
  have server := crowd_server (Nat.le_refl 250)
  rcases last with known | room | other
  · rw [server] at known
    exact absurd known (by decide +kernel)
  · rw [server, length_map, length_reverse, length_range] at room
    exact absurd room (Nat.lt_irrefl _)
  · exact other.1 rfl

end Styller.KnownCreatures
