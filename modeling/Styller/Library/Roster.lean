import Mathlib.Data.List.Nodup

/-! Lists that hold a reference on each of their members, where other lists hold references on them too. -/

namespace Styller.Library

open List Function

universe u

/-- The members of a list, and how many references are held on everything. -/
structure Roster (Member : Type u) where
  members : List Member
  references : Member → Int

namespace Roster

variable {Member : Type u} [DecidableEq Member]

def increment (references : Member → Int) (member : Member) : Member → Int :=
  Function.update references member (references member + 1)

def decrement (references : Member → Int) (member : Member) : Member → Int :=
  Function.update references member (references member - 1)

/-- A member comes to the front or to the back, unless it is there. -/
def insert (roster : Roster Member) (member : Member) (front : Bool) : Roster Member :=
  if member ∈ roster.members then roster
  else
    { members := if front then member :: roster.members else roster.members ++ [member]
      references := increment roster.references member }

def erase (roster : Roster Member) (member : Member) : Roster Member :=
  if member ∈ roster.members then
    { members := roster.members.erase member, references := decrement roster.references member }
  else roster

/-- A walk through the list that drops some of the members. -/
def sweep (drop : Member → Bool) : List Member → (Member → Int) → Roster Member
  | [], references => { members := [], references }
  | member :: rest, references =>
    if drop member then sweep drop rest (decrement references member)
    else
      let swept := sweep drop rest references
      { swept with members := member :: swept.members }

def clear (roster : Roster Member) : Roster Member :=
  { members := [], references := roster.members.foldl decrement roster.references }

/-- No member is there twice, and the list holds one reference on each of them, besides those of others. -/
structure Counts (others : Member → Int) (roster : Roster Member) : Prop where
  nodup : roster.members.Nodup
  references : ∀ member, roster.references member = others member + if member ∈ roster.members then 1 else 0

section
variable {roster : Roster Member} {member other : Member} {front : Bool}

theorem mem_insert : other ∈ (roster.insert member front).members ↔ other ∈ roster.members ∨ other = member := by
  unfold insert
  split
  · next listed => exact ⟨.inl, fun either => either.elim id fun same => same ▸ listed⟩
  · cases front
    · exact mem_append.trans (or_congr_right mem_singleton)
    · exact mem_cons.trans Or.comm

theorem erase_members : (roster.erase member).members = roster.members.erase member := by
  unfold erase
  split
  · rfl
  · next absent => exact (erase_of_not_mem absent).symm

theorem sweep_members (drop : Member → Bool) (members : List Member) (references : Member → Int) :
    (sweep drop members references).members = members.filter fun member => !drop member := by
  induction members generalizing references with
  | nil => rfl
  | cons member rest ih =>
    rw [sweep, filter_cons]
    cases drop member
    · exact congrArg (member :: ·) (ih references)
    · exact ih (decrement references member)

end

section
variable {others : Member → Int} {roster : Roster Member}

theorem Counts.insert (counts : roster.Counts others) (member : Member) (front : Bool) :
    (roster.insert member front).Counts others := by
  by_cases listed : member ∈ roster.members
  · rw [Roster.insert, if_pos listed]
    exact counts
  · constructor
    · rw [Roster.insert, if_neg listed]
      cases front
      · exact nodup_append_comm.mp (nodup_cons.mpr ⟨listed, counts.nodup⟩)
      · exact nodup_cons.mpr ⟨listed, counts.nodup⟩
    · intro other
      have mem := @mem_insert Member _ roster member other front
      rw [Roster.insert, if_neg listed] at mem ⊢
      by_cases here : other = member
      · subst here
        have same : increment roster.references other other = roster.references other + 1 := update_self ..
        rw [if_pos (mem.mpr (.inr rfl))]
        dsimp only
        rw [same, counts.references, if_neg listed, Int.add_zero]
      · have kept : increment roster.references member other = roster.references other := update_of_ne here ..
        simp only [kept, mem, here, or_false]
        exact counts.references other

theorem Counts.erase (counts : roster.Counts others) (member : Member) : (roster.erase member).Counts others := by
  by_cases listed : member ∈ roster.members
  · rw [Roster.erase, if_pos listed]
    constructor
    · exact counts.nodup.erase member
    · intro other
      by_cases here : other = member
      · subst here
        have same : decrement roster.references other other = roster.references other - 1 := update_self ..
        dsimp only
        rw [same, counts.references, if_pos listed, if_neg counts.nodup.not_mem_erase]
        omega
      · have kept : decrement roster.references member other = roster.references other := update_of_ne here ..
        simp only [kept, mem_erase_of_ne here]
        exact counts.references other
  · rw [Roster.erase, if_neg listed]
    exact counts

theorem sweep_references (drop : Member → Bool) {members : List Member} (nodup : members.Nodup) (references : Member → Int)
    (other : Member) : (sweep drop members references).references other =
      references other - if other ∈ members ∧ drop other = true then 1 else 0 := by
  induction members generalizing references with
  | nil => simp [sweep]
  | cons member rest ih =>
    obtain ⟨fresh, nodup⟩ := nodup_cons.mp nodup
    rw [sweep]
    cases dropped : drop member
    · refine (ih nodup references).trans ?_
      by_cases here : other = member
      · subst here
        simp [dropped]
      · simp [here]
    · refine (ih nodup (decrement references member)).trans ?_
      by_cases here : other = member
      · subst here
        simp [decrement, dropped, fresh]
      · simp [decrement, here]

theorem clear_eq_sweep (roster : Roster Member) : roster.clear = sweep (fun _ => true) roster.members roster.references := by
  obtain ⟨members, references⟩ := roster
  unfold clear
  dsimp only
  induction members generalizing references with
  | nil => rfl
  | cons member rest ih => exact ih (decrement references member)

theorem Counts.sweep (counts : roster.Counts others) (drop : Member → Bool) :
    (sweep drop roster.members roster.references).Counts others := by
  constructor
  · rw [sweep_members]
    exact counts.nodup.filter _
  · intro other
    rw [sweep_references drop counts.nodup, counts.references, sweep_members]
    by_cases listed : other ∈ roster.members
    · cases dropped : drop other
      · simp [listed, dropped]
      · simp [listed, dropped]
    · simp [listed]

theorem Counts.clear (counts : roster.Counts others) : roster.clear.Counts others := by
  rw [clear_eq_sweep]
  exact counts.sweep _

/-- The order of the members does not matter. -/
theorem Counts.perm (counts : roster.Counts others) {members : List Member} (perm : members.Perm roster.members) :
    ({ roster with members } : Roster Member).Counts others := by
  constructor
  · exact perm.nodup_iff.mpr counts.nodup
  · intro other
    simp only [perm.mem_iff]
    exact counts.references other

end

end Roster

end Styller.Library
