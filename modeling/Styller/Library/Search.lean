import Mathlib.Data.Finset.Card

/-! Breadth-first search of a forest with a queue and without marks: it ends, and visits
no node twice. -/

namespace Styller.Library

open List

variable {Node : Type} (parts : Node → List Node)

/-- The nodes in the order of their visits; `none` when the fuel is used up before. -/
def visit : Nat → List Node → Option (List Node)
  | _, [] => some []
  | 0, _ :: _ => none
  | fuel + 1, node :: queue => (visit fuel (queue ++ parts node)).map (node :: ·)

/-- What can be found from the roots. -/
inductive Reaches (roots : List Node) : Node → Prop
  | root {node : Node} (listed : node ∈ roots) : Reaches roots node
  | part {node child : Node} (reached : Reaches roots node) (member : child ∈ parts node) :
      Reaches roots child

/-- Every node is part of one node at most, and a root of none that can be found. -/
structure Forest (roots : List Node) : Prop where
  distinct : roots.Nodup
  nodup : ∀ node, (parts node).Nodup
  single : ∀ node first second, node ∈ parts first → node ∈ parts second → first = second
  apart : ∀ root ∈ roots, ∀ node, Reaches parts roots node → root ∉ parts node

/-- No root is part of a node, and no node part of two. -/
structure Rooted (roots : List Node) : Prop where
  single : ∀ node first second, node ∈ parts first → node ∈ parts second → first = second
  outer : ∀ root ∈ roots, ∀ node, root ∉ parts node

/-- The state of the search: what was visited, and what is still to be. -/
structure Searching (roots visited queue : List Node) : Prop where
  nodup : (visited ++ queue).Nodup
  reached : ∀ node ∈ visited ++ queue, Reaches parts roots node
  origin : ∀ node ∈ visited ++ queue, node ∈ roots ∨ ∃ parent ∈ visited, node ∈ parts parent

variable {parts} {roots visited queue : List Node} {node : Node}

theorem Forest.start (forest : Forest parts roots) : Searching parts roots [] roots where
  nodup := forest.distinct
  reached := fun _ listed => .root listed
  origin := fun _ listed => .inl listed

theorem Searching.step (searching : Searching parts roots visited (node :: queue))
    (forest : Forest parts roots) :
    Searching parts roots (visited ++ [node]) (queue ++ parts node) := by
  have here : node ∈ visited ++ node :: queue := by simp
  have old : visited ++ [node] ++ (queue ++ parts node) = (visited ++ node :: queue) ++ parts node := by simp
  have fresh : node ∉ visited := fun member =>
    (nodup_append.mp searching.nodup).2.2 node member node mem_cons_self rfl
  refine ⟨?_, ?_, ?_⟩
  · rw [old]
    refine nodup_append.mpr ⟨searching.nodup, forest.nodup node, ?_⟩
    -- a part of `node` that was listed before would have another origin
    rintro child listed other member rfl
    rcases searching.origin child listed with root | ⟨parent, was, also⟩
    · exact forest.apart child root node (searching.reached node here) member
    · exact fresh (forest.single child parent node also member ▸ was)
  · rw [old]
    intro other listed
    rcases mem_append.mp listed with before | new
    · exact searching.reached other before
    · exact .part (searching.reached node here) new
  · rw [old]
    intro other listed
    rcases mem_append.mp listed with before | new
    · rcases searching.origin other before with root | ⟨parent, was, also⟩
      · exact .inl root
      · exact .inr ⟨parent, mem_append_left _ was, also⟩
    · exact .inr ⟨node, by simp, new⟩

/-- The search ends, and visits what it can reach at most once. -/
theorem visit_some [DecidableEq Node] (forest : Forest parts roots) (all : Finset Node)
    (inside : ∀ node, Reaches parts roots node → node ∈ all)
    (searching : Searching parts roots visited queue) (enough : all.card ≤ fuel + visited.length) :
    ∃ order, visit parts fuel queue = some order ∧ (visited ++ order).Nodup ∧
      ∀ node ∈ order, Reaches parts roots node := by
  induction fuel generalizing visited queue with
  | zero =>
    cases queue with
    | nil => exact ⟨[], rfl, searching.nodup, fun _ listed => by cases listed⟩
    | cons node queue =>
      have few : (visited ++ node :: queue).toFinset.card ≤ all.card := by
        apply Finset.card_le_card
        intro other listed
        exact inside other (searching.reached other (mem_toFinset.mp listed))
      rw [toFinset_card_of_nodup searching.nodup, length_append, length_cons] at few
      omega
  | succ fuel ih =>
    cases queue with
    | nil => exact ⟨[], rfl, searching.nodup, fun _ listed => by cases listed⟩
    | cons node queue =>
      have next := searching.step forest
      obtain ⟨order, found, nodup, reached⟩ := ih next (by simp only [length_append, length_singleton]; omega)
      refine ⟨node :: order, by simp [visit, found], by simpa using nodup, ?_⟩
      intro other listed
      rcases mem_cons.mp listed with rfl | later
      · exact searching.reached other (by simp)
      · exact reached other later

theorem visit_mono {order : List Node} {more : Nat} (found : visit parts fuel queue = some order)
    (less : fuel ≤ more) : visit parts more queue = some order := by
  induction fuel generalizing queue order more with
  | zero =>
    cases queue with
    | nil => simpa [visit] using found
    | cons node queue => cases found
  | succ fuel ih =>
    cases queue with
    | nil => simpa [visit] using found
    | cons node queue =>
      obtain ⟨rest, later, same⟩ := Option.map_eq_some_iff.mp found
      obtain ⟨more, rfl⟩ : ∃ n, more = n + 1 := ⟨more - 1, by omega⟩
      have again : visit parts more (queue ++ parts node) = some rest := ih later (by omega)
      rw [visit, again, ← same]
      rfl

theorem visit_closed {order : List Node} (found : visit parts fuel queue = some order) :
    (∀ node ∈ queue, node ∈ order) ∧ ∀ node ∈ order, ∀ child ∈ parts node, child ∈ order := by
  induction fuel generalizing queue order with
  | zero =>
    cases queue with
    | nil =>
      cases found
      exact ⟨fun _ listed => listed, fun _ listed => by cases listed⟩
    | cons node queue => cases found
  | succ fuel ih =>
    cases queue with
    | nil =>
      cases found
      exact ⟨fun _ listed => listed, fun _ listed => by cases listed⟩
    | cons node queue =>
      obtain ⟨rest, later, same⟩ := Option.map_eq_some_iff.mp found
      obtain ⟨queued, closed⟩ := ih later
      subst same
      constructor
      · intro other listed
        rcases mem_cons.mp listed with same | queue
        · exact same ▸ mem_cons_self
        · exact mem_cons_of_mem _ (queued other (mem_append_left _ queue))
      · intro other listed child member
        apply mem_cons_of_mem
        rcases mem_cons.mp listed with same | visited
        · exact queued child (mem_append_right _ (same ▸ member))
        · exact closed other visited child member

theorem mem_of_reaches {order : List Node} (reached : Reaches parts queue node)
    (found : visit parts fuel queue = some order) : node ∈ order := by
  obtain ⟨queued, closed⟩ := visit_closed found
  induction reached with
  | root listed => exact queued _ listed
  | part _ member ih => exact closed _ ih _ member

section

theorem Reaches.of_one {top : Node} (reached : Reaches parts [top] node) (there : Reaches parts roots top) :
    Reaches parts roots node := by
  induction reached with
  | root listed => exact mem_singleton.mp listed ▸ there
  | part _ member ih => exact .part ih member

theorem reaches_self (node : Node) : Reaches parts [node] node := .root (mem_singleton.mpr rfl)

/-- What can be found can be found from one of the roots. -/
theorem Reaches.from_root (reached : Reaches parts roots node) : ∃ root ∈ roots, Reaches parts [root] node := by
  induction reached with
  | root listed => exact ⟨_, listed, reaches_self _⟩
  | part _ member ih =>
    obtain ⟨root, listed, reached⟩ := ih
    exact ⟨root, listed, .part reached member⟩

/-- A node is the one that the search starts from, or part of one that it finds. -/
theorem reaches_one_iff {top : Node} :
    Reaches parts [top] node ↔ node = top ∨ ∃ parent, Reaches parts [top] parent ∧ node ∈ parts parent := by
  constructor
  · intro reached
    cases reached with
    | root listed => exact .inl (mem_singleton.mp listed)
    | part reached member => exact .inr ⟨_, reached, member⟩
  · intro either
    rcases either with same | ⟨parent, reached, member⟩
    · exact same ▸ reaches_self _
    · exact .part reached member

variable (rooted : Rooted parts roots)
include rooted

theorem Rooted.unique {first second : Node} (one : first ∈ roots) (two : second ∈ roots)
    (inFirst : Reaches parts [first] node) (inSecond : Reaches parts [second] node) : first = second := by
  induction inFirst with
  | root listed =>
    have same := mem_singleton.mp listed
    subst same
    rcases reaches_one_iff.mp inSecond with equal | ⟨parent, _, member⟩
    · exact equal
    · exact absurd member (rooted.outer _ one parent)
  | @part node child _ member ih =>
    rcases reaches_one_iff.mp inSecond with equal | ⟨parent, reached, also⟩
    · exact absurd (equal ▸ member) (rooted.outer _ two node)
    · exact ih (rooted.single child node parent member also ▸ reached)

/-- What can be found is not part of anything that is found from it. -/
theorem Rooted.acyclic {below : Node} (reached : Reaches parts roots node) (under : Reaches parts [node] below) :
    node ∉ parts below := by
  induction reached generalizing below with
  | root listed => exact rooted.outer _ listed below
  | @part node child reached member ih =>
    intro also
    have same := rooted.single child node below member also
    subst same
    rcases reaches_one_iff.mp under with equal | ⟨parent, lower, inside⟩
    · exact ih (reaches_self node) (equal ▸ member)
    · exact ih (lower.of_one (.part (reaches_self node) member)) inside

/-- With some nodes cut off, what can be found is what is not below one of them. -/
theorem Rooted.pruned {cut : Node → Prop} {left : Node → List Node} {rest : List Node}
    (parts_iff : ∀ node child, child ∈ left node ↔ child ∈ parts node ∧ ¬ cut child)
    (roots_iff : ∀ node, node ∈ rest ↔ node ∈ roots ∧ ¬ cut node) :
    Reaches left rest node ↔ Reaches parts roots node ∧ ∀ top, cut top → ¬ Reaches parts [top] node := by
  constructor
  · intro reached
    induction reached with
    | @root node listed =>
      obtain ⟨root, uncut⟩ := (roots_iff node).mp listed
      refine ⟨.root root, ?_⟩
      intro top cutTop below
      rcases reaches_one_iff.mp below with same | ⟨parent, _, member⟩
      · exact uncut (same ▸ cutTop)
      · exact rooted.outer node root parent member
    | @part node child _ member ih =>
      obtain ⟨member, uncut⟩ := (parts_iff node child).mp member
      refine ⟨.part ih.1 member, ?_⟩
      intro top cutTop below
      rcases reaches_one_iff.mp below with same | ⟨parent, under, also⟩
      · exact uncut (same ▸ cutTop)
      · exact ih.2 top cutTop (rooted.single child node parent member also ▸ under)
  · intro ⟨reached, free⟩
    induction reached with
    | @root node listed => exact .root ((roots_iff node).mpr ⟨listed, fun cutNode => free node cutNode (reaches_self node)⟩)
    | @part node child _ member ih =>
      have above := ih fun top cutTop below => free top cutTop (.part below member)
      exact .part above ((parts_iff node child).mpr ⟨member, fun cutChild => free child cutChild (reaches_self child)⟩)

end

end Styller.Library
