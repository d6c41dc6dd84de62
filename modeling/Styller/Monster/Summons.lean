import Styller.Tile.Stack

/-! Who is the master of whom, and the summons that a master lists. -/

namespace Styller

open Function

/-- The fields of the creatures that `Creature::setMaster` reads and writes, and the creatures that are deleted. -/
structure Masters where
  master : CreatureId → Option CreatureId := fun _ => none
  summons : CreatureId → List CreatureId := fun _ => []
  referenceCounter : CreatureId → Nat
  deleted : List CreatureId := []

namespace Masters

section
variable (world : Masters) (creature : CreatureId)

def incrementReferenceCounter : Masters :=
  { world with referenceCounter := Function.update world.referenceCounter creature (world.referenceCounter creature + 1) }

def decrementReferenceCounter : Masters :=
  let counter := world.referenceCounter creature - 1
  { world with
    referenceCounter := Function.update world.referenceCounter creature counter
    deleted := if counter = 0 then creature :: world.deleted else world.deleted }

/-- The creature is put behind the summons of its new master. -/
def take : Option CreatureId → Masters
  | none => world
  | some newMaster =>
    let world := world.incrementReferenceCounter creature
    { world with summons := Function.update world.summons newMaster (world.summons newMaster ++ [creature]) }

/-- The creature is erased where it first is among the summons of its old master. -/
def release : Option CreatureId → Masters
  | none => world
  | some oldMaster =>
    if creature ∈ world.summons oldMaster then
      let summons := Function.update world.summons oldMaster ((world.summons oldMaster).erase creature)
      { world with summons }.decrementReferenceCounter creature
    else world

def setMaster (newMaster : Option CreatureId) : Masters × Bool :=
  if newMaster = none ∧ world.master creature = none then (world, false)
  else
    let taken := world.take creature newMaster
    let changed := { taken with master := Function.update taken.master creature newMaster }
    (changed.release creature (world.master creature), true)

end

variable {world : Masters} {others : CreatureId → Nat}

/-- A creature is listed once by its master and not by others, and has a reference for it besides those held by
others, of which there is one at least. -/
structure Linked (others : CreatureId → Nat) (world : Masters) : Prop where
  listed : ∀ creature other, (world.summons other).count creature = if world.master creature = some other then 1 else 0
  counted : ∀ creature, world.referenceCounter creature = others creature + 1 + if world.master creature = none then 0 else 1
  kept : world.deleted = []

theorem take_master (creature : CreatureId) (newMaster : Option CreatureId) : (world.take creature newMaster).master = world.master := by
  cases newMaster <;> rfl

theorem take_deleted (creature : CreatureId) (newMaster : Option CreatureId) : (world.take creature newMaster).deleted = world.deleted := by
  cases newMaster <;> rfl

theorem count_take (creature listed other : CreatureId) (newMaster : Option CreatureId) :
    ((world.take creature newMaster).summons other).count listed =
      (world.summons other).count listed + if listed = creature ∧ newMaster = some other then 1 else 0 := by
  cases newMaster with
  | none => simp [take]
  | some newMaster =>
    simp only [take, incrementReferenceCounter, update_apply]
    grind

theorem counter_take (creature counted : CreatureId) (newMaster : Option CreatureId) :
    (world.take creature newMaster).referenceCounter counted =
      world.referenceCounter counted + if counted = creature ∧ newMaster ≠ none then 1 else 0 := by
  cases newMaster with
  | none => simp [take]
  | some newMaster =>
    simp only [take, incrementReferenceCounter, update_apply]
    grind

section
variable {creature : CreatureId} {oldMaster : Option CreatureId}

theorem release_master : (world.release creature oldMaster).master = world.master := by
  unfold release
  split
  · rfl
  · split <;> rfl

theorem count_release (listed other : CreatureId) : ((world.release creature oldMaster).summons other).count listed =
    (world.summons other).count listed - if listed = creature ∧ oldMaster = some other then 1 else 0 := by
  cases oldMaster with
  | none => simp [release]
  | some oldMaster =>
    rw [release]
    split
    · simp only [decrementReferenceCounter, update_apply]
      grind
    · next missing =>
      have none := List.count_eq_zero.mpr missing
      grind

theorem counter_release (listed : ∀ other, oldMaster = some other → creature ∈ world.summons other) (counted : CreatureId) :
    (world.release creature oldMaster).referenceCounter counted =
      world.referenceCounter counted - if counted = creature ∧ oldMaster ≠ none then 1 else 0 := by
  cases oldMaster with
  | none => simp [release]
  | some oldMaster =>
    rw [release, if_pos (listed oldMaster rfl)]
    simp only [decrementReferenceCounter, update_apply]
    grind

theorem release_deleted (held : 1 < world.referenceCounter creature) :
    (world.release creature oldMaster).deleted = world.deleted := by
  unfold release
  split
  · rfl
  · split
    · exact if_neg (Nat.sub_ne_zero_of_lt held)
    · rfl

theorem Linked.setMaster (linked : Linked others world) (creature : CreatureId) (newMaster : Option CreatureId) :
    Linked others (world.setMaster creature newMaster).1 := by
  unfold Masters.setMaster
  split
  · exact linked
  · obtain ⟨listed, counted, kept⟩ := linked
    refine ⟨fun other owner => ?_, fun other => ?_, ?_⟩
    · have before := listed other owner
      simp only [count_release, release_master, count_take, take_master, update_apply]
      grind
    · have before := counted other
      rw [counter_release, release_master]
      · simp only [counter_take, take_master, update_apply]
        grind
      · intro other was
        rw [← List.count_pos_iff]
        simp only [count_take, listed, was]
        grind
    · have before := counted creature
      by_cases none : world.master creature = none
      · rw [none]
        exact (take_deleted creature newMaster).trans kept
      · rw [release_deleted, take_deleted]
        · exact kept
        · simp only [counter_take, before]
          grind

end

/-- However masters are set, changed and taken away. -/
theorem linked_calls (others : CreatureId → Nat) (calls : List (CreatureId × Option CreatureId)) :
    let start : Masters := { referenceCounter := fun creature => others creature + 1 }
    Linked others (calls.foldl (fun world call => (world.setMaster call.1 call.2).1) start) := by
  intro start
  have linked : Linked others start := ⟨fun _ _ => rfl, fun _ => rfl, rfl⟩
  exact List.foldlRecOn calls _ linked fun _ before call _ => before.setMaster call.1 call.2

end Masters

end Styller
