import Mathlib.Algebra.Order.Monoid.Defs
import Mathlib.Order.Bounds.Basic

/-! Cheapest ways in a graph, and labels that find them though not every edge is looked at. -/

namespace Styller.Library

universe u v

variable {Node : Type u} {Cost : Type v} [AddCommMonoid Cost] [LinearOrder Cost] [IsOrderedAddMonoid Cost]

/-- The ways from a start, by where they end and what they cost. -/
inductive Way (edge : Node → Node → Prop) (cost : Node → Node → Cost) (start : Node) : Node → Cost → Prop where
  | start : Way edge cost start start 0
  | step {node next : Node} {total : Cost} (before : Way edge cost start node total) (taken : edge node next) :
      Way edge cost start next (total + cost node next)

/-- What the cheapest way to a node costs. -/
def Cheapest (edge : Node → Node → Prop) (cost : Node → Node → Cost) (start node : Node) (total : Cost) : Prop :=
  IsLeast {total | Way edge cost start node total} total

/-- Every label is what some way costs, and settled nodes have passed on theirs. -/
structure Labelled (edge : Node → Node → Prop) (cost : Node → Node → Cost) (start : Node) (label : Node → Option Cost)
    (settled : Node → Prop) : Prop where
  rooted : label start = some 0
  way : ∀ node total, label node = some total → Way edge cost start node total
  spread : ∀ node next total, settled node → label node = some total → edge node next →
    ∃ other, label next = some other ∧ other ≤ total + cost node next

variable {edge : Node → Node → Prop} {cost : Node → Node → Cost} {start : Node}

theorem Way.nonneg (positive : ∀ node next, 0 ≤ cost node next) {node : Node} {total : Cost}
    (way : Way edge cost start node total) : 0 ≤ total := by
  induction way with
  | start => exact le_rfl
  | step before _ ih => exact add_nonneg ih (positive _ _)

namespace Labelled

variable {label after : Node → Option Cost} {settled : Node → Prop} {node parent next : Node} {total first : Cost}

omit [IsOrderedAddMonoid Cost] in
theorem fewer {fewer : Node → Prop} (labelled : Labelled edge cost start label settled) (less : ∀ node, fewer node → settled node) :
    Labelled edge cost start label fewer where
  rooted := labelled.rooted
  way := labelled.way
  spread := fun node next total done => labelled.spread node next total (less node done)

theorem along (labelled : Labelled edge cost start label settled) (positive : ∀ node next, 0 ≤ cost node next)
    (way : Way edge cost start node total) :
    (∃ value, label node = some value ∧ value ≤ total) ∨
      ∃ other value, ¬ settled other ∧ label other = some value ∧ value ≤ total := by
  induction way with
  | start => exact .inl ⟨0, labelled.rooted, le_rfl⟩
  | @step node next total _ taken ih =>
    have more : total ≤ total + cost node next := le_add_of_nonneg_right (positive node next)
    rcases ih with ⟨value, is, below⟩ | ⟨other, value, frontier, is, below⟩
    · by_cases done : settled node
      · obtain ⟨found, there, least⟩ := labelled.spread node next value done is taken
        exact .inl ⟨found, there, le_trans least (add_le_add_left below _)⟩
      · exact .inr ⟨node, value, done, is, le_trans below more⟩
    · exact .inr ⟨other, value, frontier, is, le_trans below more⟩

theorem cheapest (labelled : Labelled edge cost start label settled) (positive : ∀ node next, 0 ≤ cost node next)
    (is : label node = some total) (least : ∀ other value, ¬ settled other → label other = some value → total ≤ value) :
    Cheapest edge cost start node total := by
  constructor
  · exact labelled.way node total is
  · intro amount way
    rcases labelled.along positive way with ⟨value, there, below⟩ | ⟨other, value, frontier, there, below⟩
    · rw [is, Option.some.injEq] at there
      exact there ▸ below
    · exact le_trans (least other value frontier there) below

/-- A neighbour that the node before reaches as cheaply has had its label from there. -/
theorem shortcut (labelled : Labelled edge cost start label settled) (positive : ∀ node next, 0 ≤ cost node next)
    (done : settled parent) (is : label parent = some first) (through : first + cost parent node ≤ total)
    (short : next = parent ∨ edge parent next ∧ cost parent next ≤ cost node next) :
    ∃ other, label next = some other ∧ other ≤ total + cost node next := by
  have lower : first ≤ total := le_trans (le_add_of_nonneg_right (positive parent node)) through
  rcases short with back | ⟨taken, cheaper⟩
  · rw [back]
    exact ⟨first, is, le_trans lower (le_add_of_nonneg_right (positive node parent))⟩
  · obtain ⟨other, there, below⟩ := labelled.spread parent next first done is taken
    exact ⟨other, there, le_trans below (add_le_add lower cheaper)⟩

theorem settle (labelled : Labelled edge cost start label settled) (positive : ∀ node next, 0 ≤ cost node next)
    (is : label node = some total) (early : ∀ other, settled other → ∃ value, label other = some value ∧ value ≤ total)
    (change : ∀ other, after other = label other ∨ edge node other ∧ after other = some (total + cost node other) ∧
      ∀ value, label other = some value → total + cost node other < value)
    (spread : ∀ next, edge node next → ∃ other, after next = some other ∧ other ≤ total + cost node next) :
    Labelled edge cost start after fun other => settled other ∨ other = node := by
  have more (other : Node) : total ≤ total + cost node other := le_add_of_nonneg_right (positive node other)
  -- labels that are not above that of the node stay
  have stays (other : Node) (value : Cost) (there : label other = some value) (below : value ≤ total) :
      after other = some value := by
    rcases change other with same | ⟨_, _, lower⟩
    · rw [same, there]
    · exact absurd (lower value there) (not_lt_of_ge (le_trans below (more other)))
  constructor
  · exact stays start 0 labelled.rooted ((labelled.way node total is).nonneg positive)
  · intro other value there
    rcases change other with same | ⟨taken, now, _⟩
    · exact labelled.way other value (same ▸ there)
    · rw [now, Option.some.injEq] at there
      exact there ▸ (labelled.way node total is).step taken
  · intro other next value done there taken
    rcases done with done | rfl
    · obtain ⟨known, is, below⟩ := early other done
      rw [stays other known is below, Option.some.injEq] at there
      subst there
      obtain ⟨found, present, least⟩ := labelled.spread other next known done is taken
      rcases change next with same | ⟨_, now, lower⟩
      · exact ⟨found, same ▸ present, least⟩
      · exact ⟨_, now, le_trans (le_of_lt (lower found present)) least⟩
    · rw [stays other total is le_rfl, Option.some.injEq] at there
      exact there ▸ spread next taken

end Labelled

end Styller.Library
