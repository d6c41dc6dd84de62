import Mathlib.Algebra.Group.Int.Defs
import Mathlib.Algebra.GroupWithZero.Nat
import Mathlib.Data.List.Basic

/-! Trees whose nodes have any number of children, in an order. -/

namespace Styller.Library

universe u v

inductive Rose (α : Type u) where
  | node (value : α) (children : List (Rose α))

namespace Rose

variable {α : Type u} {β : Type v}

/-- What holds of a node whenever it holds of its children holds of every tree. -/
theorem induct {motive : Rose α → Prop}
    (node : ∀ value children, (∀ child ∈ children, motive child) → motive (.node value children)) (tree : Rose α) :
    motive tree := by
  have none : ∀ child ∈ ([] : List (Rose α)), motive child := fun child listed => absurd listed List.not_mem_nil
  have more : ∀ (head : Rose α) (tail : List (Rose α)), motive head → (∀ child ∈ tail, motive child) →
      ∀ child ∈ head :: tail, motive child := by
    intro head tail first others child listed
    rcases List.mem_cons.mp listed with rfl | later
    · exact first
    · exact others child later
  exact @Rose.rec α motive (fun children => ∀ child ∈ children, motive child) node none more tree

def value : Rose α → α
  | .node value _ => value

def children : Rose α → List (Rose α)
  | .node _ children => children

mutual

/-- What is made of a tree from what is made of the children. -/
def fold (step : α → List β → β) : Rose α → β
  | .node value children => step value (foldAll step children)

def foldAll (step : α → List β → β) : List (Rose α) → List β
  | [] => []
  | child :: later => fold step child :: foldAll step later

end

theorem foldAll_eq (step : α → List β → β) (trees : List (Rose α)) : foldAll step trees = trees.map (fold step) := by
  induction trees with
  | nil => rfl
  | cons child later ih => rw [foldAll, ih, List.map_cons]

theorem fold_node (step : α → List β → β) (value : α) (children : List (Rose α)) :
    fold step (.node value children) = step value (children.map (fold step)) := by
  rw [fold, foldAll_eq]

/-- The tree of other values. -/
def map (change : α → β) : Rose α → Rose β := fold (fun value children => .node (change value) children)

theorem map_node (change : α → β) (value : α) (children : List (Rose α)) :
    map change (.node value children) = .node (change value) (children.map (map change)) :=
  fold_node _ _ _

/-- Something holds of every value in a tree and the children below it. -/
inductive All (holds : α → List (Rose α) → Prop) : Rose α → Prop where
  | node {value : α} {children : List (Rose α)} (here : holds value children)
      (below : ∀ child ∈ children, All holds child) : All holds (.node value children)

variable {holds other : α → List (Rose α) → Prop} {value : α} {children : List (Rose α)} {tree : Rose α}

theorem All.here (all : All holds (.node value children)) : holds value children := by
  cases all with
  | node here _ => exact here

theorem All.inner (all : All holds (.node value children)) : ∀ child ∈ children, All holds child := by
  cases all with
  | node _ below => exact below

theorem All.top (all : tree.All holds) : holds tree.value tree.children := by
  cases all with
  | node here _ => exact here

theorem All.under (all : tree.All holds) : ∀ child ∈ tree.children, child.All holds := by
  cases all with
  | node _ below => exact below

theorem all_node : All holds (.node value children) ↔ holds value children ∧ ∀ child ∈ children, All holds child :=
  ⟨fun all => ⟨all.here, all.inner⟩, fun both => .node both.1 both.2⟩

/-- What is not true of a whole tree fails somewhere: at the top or below. -/
theorem not_all_node : ¬ All holds (.node value children) ↔ ¬ holds value children ∨ ∃ child ∈ children, ¬ All holds child := by
  rw [all_node, not_and_or]
  simp only [not_forall, exists_prop]

/-- How many children there are does not depend on the values. -/
theorem all_length_map (change : α → β) (count : Nat → Prop) :
    (map change tree).All (fun _ children => count children.length) ↔ tree.All (fun _ children => count children.length) := by
  induction tree using induct with
  | node value children ih =>
    rw [map_node, all_node, all_node, List.length_map, List.forall_mem_map]
    exact and_congr_right' (forall₂_congr ih)

end Rose

end Styller.Library
