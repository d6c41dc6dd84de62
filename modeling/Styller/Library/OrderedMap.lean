import Mathlib.Algebra.Group.Int.Defs
import Mathlib.Algebra.GroupWithZero.Nat
import Mathlib.Data.List.Pairwise
import Mathlib.Data.List.Perm.Lattice

/-! Maps whose entries stand in the order of their keys. -/

namespace Styller.Library

open List Option

universe u

variable {α : Type u}

/-- The entries with a value at a key: one that the key had is replaced. -/
def setEntry (key : Nat) (value : α) : List (Nat × α) → List (Nat × α)
  | [] => [(key, value)]
  | (first, held) :: later =>
    if key < first then (key, value) :: (first, held) :: later
    else if key = first then (key, value) :: later
    else (first, held) :: setEntry key value later

theorem mem_setEntry {key : Nat} {value : α} {entries : List (Nat × α)} (sorted : (entries.map (·.1)).Pairwise (· < ·))
    {entry : Nat × α} : entry ∈ setEntry key value entries ↔ entry = (key, value) ∨ entry ∈ entries ∧ entry.1 ≠ key := by
  induction entries with
  | nil => simp [setEntry]
  | cons head later ih =>
    obtain ⟨first, held⟩ := head
    rw [map_cons, pairwise_cons] at sorted
    obtain ⟨low, sorted⟩ := sorted
    have above : ∀ entry ∈ later, first < entry.1 := fun entry listed => low _ (mem_map_of_mem listed)
    rw [setEntry]
    split_ifs with less same
    · have others : ∀ entry ∈ (first, held) :: later, entry.1 ≠ key := by
        intro entry listed
        rcases mem_cons.mp listed with rfl | listed
        · exact Nat.ne_of_gt less
        · exact Nat.ne_of_gt (Nat.lt_trans less (above entry listed))
      rw [mem_cons]
      exact or_congr_right ⟨fun listed => ⟨listed, others entry listed⟩, And.left⟩
    · subst same
      have others : ∀ entry ∈ later, entry.1 ≠ key := fun entry listed => Nat.ne_of_gt (above entry listed)
      rw [mem_cons, mem_cons]
      constructor
      · rintro (rfl | listed)
        · exact .inl rfl
        · exact .inr ⟨.inr listed, others entry listed⟩
      · rintro (rfl | ⟨rfl | listed, other⟩)
        · exact .inl rfl
        · exact absurd rfl other
        · exact .inr listed
    · rw [mem_cons, mem_cons, ih sorted]
      constructor
      · rintro (rfl | rfl | ⟨listed, other⟩)
        · exact .inr ⟨.inl rfl, Ne.symm same⟩
        · exact .inl rfl
        · exact .inr ⟨.inr listed, other⟩
      · rintro (rfl | ⟨rfl | listed, other⟩)
        · exact .inr (.inl rfl)
        · exact .inl rfl
        · exact .inr (.inr ⟨listed, other⟩)

theorem sorted_setEntry (key : Nat) (value : α) {entries : List (Nat × α)}
    (sorted : (entries.map (·.1)).Pairwise (· < ·)) : ((setEntry key value entries).map (·.1)).Pairwise (· < ·) := by
  induction entries with
  | nil => exact pairwise_singleton _ _
  | cons head later ih =>
    obtain ⟨first, held⟩ := head
    have whole := sorted
    rw [map_cons, pairwise_cons] at sorted
    obtain ⟨low, sorted⟩ := sorted
    rw [setEntry]
    split_ifs with less same
    · rw [map_cons, pairwise_cons]
      refine ⟨?_, whole⟩
      intro other listed
      rcases mem_cons.mp listed with rfl | listed
      · exact less
      · exact Nat.lt_trans less (low other listed)
    · rw [map_cons, pairwise_cons]
      exact ⟨same ▸ low, sorted⟩
    · rw [map_cons, pairwise_cons]
      refine ⟨?_, ih sorted⟩
      intro other listed
      obtain ⟨entry, found, rfl⟩ := mem_map.mp listed
      rcases (mem_setEntry sorted).mp found with rfl | ⟨found, _⟩
      · exact Nat.lt_of_le_of_ne (Nat.le_of_not_lt less) (Ne.symm same)
      · exact low _ (mem_map_of_mem found)

/-- A map from numbers that is gone through in the order of the keys. -/
structure OrderedMap (α : Type u) where
  entries : List (Nat × α)
  sorted : (entries.map (·.1)).Pairwise (· < ·)

namespace OrderedMap

def empty : OrderedMap α := ⟨[], .nil⟩

def set (map : OrderedMap α) (key : Nat) (value : α) : OrderedMap α :=
  ⟨setEntry key value map.entries, sorted_setEntry key value map.sorted⟩

def find (map : OrderedMap α) (key : Nat) : Option α := map.entries.lookup key

variable {map : OrderedMap α} {key : Nat} {value : α}

theorem mem_set {entry : Nat × α} :
    entry ∈ (map.set key value).entries ↔ entry = (key, value) ∨ entry ∈ map.entries ∧ entry.1 ≠ key :=
  mem_setEntry map.sorted

theorem nodup_keys (map : OrderedMap α) : (map.entries.map (·.1)).Nodup := map.sorted.imp Nat.ne_of_lt

theorem find_eq_some : map.find key = some value ↔ (key, value) ∈ map.entries := by
  have distinct := map.nodup_keys
  rw [find]
  generalize map.entries = entries at distinct ⊢
  induction entries with
  | nil => simp
  | cons head later ih =>
    obtain ⟨first, held⟩ := head
    rw [map_cons, nodup_cons] at distinct
    rw [lookup_cons, mem_cons]
    by_cases same : key = first
    · subst same
      have missing : (key, value) ∉ later := fun listed => distinct.1 (mem_map_of_mem (f := (·.1)) listed)
      simp [missing, eq_comm]
    · have other : (key == first) = false := beq_eq_false_iff_ne.mpr same
      simp only [other, ih distinct.2, Prod.mk.injEq, same, false_and, false_or]

@[simp] theorem find_empty (key : Nat) : (empty : OrderedMap α).find key = none := rfl

theorem find_set (map : OrderedMap α) (key : Nat) (value : α) (other : Nat) :
    (map.set key value).find other = if other = key then some value else map.find other := by
  apply Option.ext
  intro held
  rw [find_eq_some, mem_set]
  split
  next same =>
    subst same
    simp [eq_comm]
  next different =>
    rw [find_eq_some]
    simp [different]

section
universe v
variable {β : Type v}

theorem keys_filterMap_sublist (keep : Nat → α → Option β) (entries : List (Nat × α)) :
    ((entries.filterMap fun entry => (keep entry.1 entry.2).map fun value => (entry.1, value)).map (·.1)).Sublist
      (entries.map (·.1)) := by
  induction entries with
  | nil => exact .slnil
  | cons entry entries ih =>
    rw [filterMap_cons]
    cases keep entry.1 entry.2 with
    | none => exact ih.cons _
    | some value => exact ih.cons_cons _

/-- The entries that are kept, with their values changed. -/
def filterMap (map : OrderedMap α) (keep : Nat → α → Option β) : OrderedMap β :=
  ⟨map.entries.filterMap fun entry => (keep entry.1 entry.2).map fun value => (entry.1, value),
    map.sorted.sublist (keys_filterMap_sublist keep map.entries)⟩

theorem find_filterMap (map : OrderedMap α) (keep : Nat → α → Option β) (key : Nat) :
    (map.filterMap keep).find key = (map.find key).bind (keep key) := by
  apply Option.ext
  intro value
  rw [find_eq_some, bind_eq_some_iff]
  simp only [filterMap, mem_filterMap, map_eq_some_iff, find_eq_some]
  constructor
  · rintro ⟨⟨first, held⟩, listed, _, kept, same⟩
    cases same
    exact ⟨held, listed, kept⟩
  · rintro ⟨held, listed, kept⟩
    exact ⟨(key, held), listed, value, kept, rfl⟩

def erase (map : OrderedMap α) (key : Nat) : OrderedMap α := map.filterMap fun other value => if other = key then none else some value

theorem find_erase (map : OrderedMap α) (key other : Nat) : (map.erase key).find other = if other = key then none else map.find other := by
  rw [erase, find_filterMap]
  split
  · exact bind_fun_none _
  · exact bind_fun_some _

end

theorem eq_of_perm {first second : OrderedMap α} (same : first.entries.Perm second.entries) : first = second := by
  have strict : ∀ map : OrderedMap α, map.entries.Pairwise (fun one other => one.1 < other.1) :=
    fun map => pairwise_map.mp map.sorted
  have equal := same.eq_of_pairwise (fun _ _ _ _ one other => absurd other (Nat.lt_asymm one)) (strict first) (strict second)
  cases first
  cases second
  cases equal
  rfl

theorem eq_of_find {first second : OrderedMap α} (same : ∀ key, first.find key = second.find key) : first = second := by
  apply eq_of_perm
  have distinct : ∀ map : OrderedMap α, map.entries.Nodup := fun map => .of_map _ map.nodup_keys
  rw [perm_ext_iff_of_nodup (distinct first) (distinct second)]
  intro entry
  rw [← find_eq_some, ← find_eq_some, same]

section
variable {β : Type u} (key : β → Nat) (amount : β → Nat) (modulus : Nat)

/-- A list counted up at the keys of its members. -/
def tally (list : List β) (map : OrderedMap Nat) : OrderedMap Nat :=
  list.foldl (fun map item => map.set (key item) (((map.find (key item)).getD 0 + amount item) % modulus)) map

theorem find_tally (list : List β) {map : OrderedMap Nat} {place : Nat} (small : (map.find place).getD 0 < modulus) :
    ((tally key amount modulus list map).find place).getD 0 =
      ((map.find place).getD 0 + ((list.filter fun item => key item = place).map amount).sum) % modulus := by
  induction list generalizing map with
  | nil => exact (Nat.mod_eq_of_lt small).symm
  | cons item later ih =>
    rw [tally, foldl_cons, ← tally]
    have step := find_set map (key item) (((map.find (key item)).getD 0 + amount item) % modulus) place
    by_cases here : key item = place
    · subst here
      rw [if_pos rfl] at step
      have held : (((map.find (key item)).getD 0 + amount item) % modulus) < modulus :=
        Nat.mod_lt _ (Nat.zero_lt_of_lt small)
      rw [ih (by rw [step]; exact held), step, filter_cons_of_pos (by simp), map_cons, sum_cons,
        getD_some, Nat.mod_add_mod, Nat.add_assoc]
    · rw [if_neg (Ne.symm here)] at step
      rw [ih (by rw [step]; exact small), step, filter_cons_of_neg (by simpa using here)]

end

/-- Values that are set at different keys are the entries, in whatever order they are set. -/
theorem foldl_set_perm (map : OrderedMap α) {entries : List (Nat × α)} (distinct : (entries.map (·.1)).Nodup)
    (apart : ∀ entry ∈ map.entries, entry.1 ∉ entries.map (·.1)) :
    (entries.foldl (fun map entry => map.set entry.1 entry.2) map).entries.Perm (entries ++ map.entries) := by
  induction entries generalizing map with
  | nil => exact .refl _
  | cons head later ih =>
    obtain ⟨key, value⟩ := head
    rw [map_cons, nodup_cons] at distinct
    have missing : ∀ entry ∈ map.entries, entry.1 ≠ key := by
      intro entry listed same
      exact apart entry listed (same ▸ mem_cons_self ..)
    have step : (map.set key value).entries.Perm ((key, value) :: map.entries) := by
      have apartKey : (key, value) ∉ map.entries := fun listed => missing _ listed rfl
      apply (perm_ext_iff_of_nodup ?_ ?_).mpr
      · intro entry
        rw [mem_set, mem_cons]
        exact or_congr_right ⟨And.left, fun listed => ⟨listed, missing entry listed⟩⟩
      · exact List.Nodup.of_map _ (nodup_keys _)
      · exact nodup_cons.mpr ⟨apartKey, List.Nodup.of_map _ (nodup_keys map)⟩
    have fresh : ∀ entry ∈ (map.set key value).entries, entry.1 ∉ later.map (·.1) := by
      intro entry listed
      rcases mem_set.mp listed with rfl | ⟨listed, _⟩
      · exact distinct.1
      · exact fun found => apart entry listed (mem_cons_of_mem _ found)
    exact (ih _ distinct.2 fresh).trans ((step.append_left later).trans perm_middle)

end OrderedMap

end Styller.Library
