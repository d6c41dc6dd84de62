import Mathlib.Algebra.BigOperators.Group.List.Basic
import Mathlib.Algebra.GroupWithZero.Nat
import Mathlib.Data.List.Nodup

/-! Forests whose nodes keep the sum of what is under them, and what a change under one node must add to the nodes
above it. -/

namespace Styller.Library

open List Function

universe u v

/-- A forest: the children of every node and the node above it, what a node weighs by itself, and the sum it keeps. -/
structure Rollup (Node : Type u) (Weight : Type v) where
  children : Node → List Node
  up : Node → Option Node
  own : Node → Weight
  cache : Node → Weight

namespace Rollup

variable {Node : Type u} {Weight : Type v}

/-- The node itself and the nodes above it. -/
inductive Above (up : Node → Option Node) : Node → Node → Prop where
  | refl (node : Node) : Above up node node
  | step {node parent top : Node} (link : up node = some parent) (above : Above up parent top) : Above up node top

namespace Above

variable {up : Node → Option Node} {node middle top other : Node}

theorem snoc (above : Above up node middle) (link : up middle = some top) : Above up node top := by
  induction above with
  | refl node => exact step link (refl top)
  | step first _ ih => exact step first (ih link)

/-- The last step of a way up. -/
theorem last (above : Above up node top) : node = top ∨ ∃ child, Above up node child ∧ up child = some top := by
  induction above with
  | refl node => exact .inl rfl
  | step link above ih =>
    right
    rcases ih with rfl | ⟨child, below, found⟩
    · exact ⟨_, refl _, link⟩
    · exact ⟨child, step link below, found⟩

/-- There is one way up. -/
theorem linear (first : Above up node middle) (second : Above up node other) : Above up middle other ∨ Above up other middle := by
  induction first with
  | refl node => exact .inl second
  | step link above ih =>
    cases second with
    | refl => exact .inr (step link above)
    | step other_link second =>
      rw [link, Option.some.injEq] at other_link
      subst other_link
      exact ih second

/-- Where no node on the way has changed, the way is the same. -/
theorem congr {up' : Node → Option Node} (above : Above up node top)
    (same : ∀ between, Above up node between → up' between = up between) : Above up' node top := by
  induction above with
  | refl node => exact refl node
  | step link above ih =>
    refine step ((same _ (refl _)).trans link) (ih ?_)
    intro between below
    exact same between (step link below)

/-- A node that is not on the way up may get another parent. -/
theorem update [DecidableEq Node] {item : Node} (apart : ¬ Above up node item) (parent : Option Node) :
    Above (update up item parent) node top ↔ Above up node top := by
  constructor
  · intro above
    induction above with
    | refl node => exact refl node
    | @step node _ _ link above ih =>
      have other : node ≠ item := by
        rintro rfl
        exact apart (refl node)
      rw [update_of_ne other] at link
      exact step link (ih (fun below => apart (step link below)))
  · intro above
    refine above.congr ?_
    intro between below
    have other : between ≠ item := by
      rintro rfl
      exact apart below
    exact update_of_ne other _ _

/-- The first step of a way up. -/
theorem first_iff {parent : Node} (link : up node = some parent) : Above up node top ↔ top = node ∨ Above up parent top := by
  constructor
  · intro above
    cases above with
    | refl => exact .inl rfl
    | step found above =>
      rw [link, Option.some.injEq] at found
      exact .inr (found ▸ above)
  · rintro (rfl | above)
    · exact refl _
    · exact step link above

theorem root_iff (root : up node = none) : Above up node top ↔ top = node := by
  constructor
  · intro above
    cases above with
    | refl => rfl
    | step found => rw [root] at found; cases found
  · rintro rfl
    exact refl _

end Above

variable (forest : Rollup Node Weight)

/-- Parents and children fit together, and every way up ends. -/
structure Tidy : Prop where
  linked : ∀ node child, child ∈ forest.children node ↔ forest.up child = some node
  nodup : ∀ node, (forest.children node).Nodup
  rooted : ∀ node, Acc (fun parent child => forest.up child = some parent) node

variable {forest}

namespace Tidy

variable (tidy : forest.Tidy)

include tidy

theorem acyclic {node parent : Node} (link : forest.up node = some parent) : ¬ Above forest.up parent node := by
  intro above
  induction tidy.rooted node generalizing parent with
  | intro node _ ih =>
    cases above with
    | refl => exact ih node link link (.refl node)
    | step first above => exact ih parent link first (above.snoc link)

/-- Two children of a node are not both on one way up. -/
theorem unique {low node first second : Node} (one : Above forest.up low first) (two : Above forest.up low second)
    (first_up : forest.up first = some node) (second_up : forest.up second = some node) : first = second := by
  have apart : ∀ {first second : Node}, forest.up first = some node → forest.up second = some node →
      Above forest.up first second → first = second := by
    intro first second first_up second_up above
    cases above with
    | refl => rfl
    | step link above =>
      rw [first_up, Option.some.injEq] at link
      subst link
      exact absurd above (tidy.acyclic second_up)
  rcases one.linear two with above | above
  · exact apart first_up second_up above
  · exact (apart second_up first_up above).symm

theorem apart {low child : Node} (member : child ∈ forest.children low) : ¬ Above forest.up low child :=
  tidy.acyclic ((tidy.linked low child).mp member)

end Tidy

section

open Classical in
/-- What a change under a node adds to the sums above it. -/
noncomputable def rise [Zero Weight] (up : Node → Option Node) (low : Node) (change : Weight) (node : Node) : Weight :=
  if Above up low node then change else 0

theorem rise_above [Zero Weight] {up : Node → Option Node} {low node : Node} (above : Above up low node) (change : Weight) :
    rise up low change node = change :=
  if_pos above

theorem rise_apart [Zero Weight] {up : Node → Option Node} {low node : Node} (apart : ¬ Above up low node) (change : Weight) :
    rise up low change node = 0 :=
  if_neg apart

variable [AddCommMonoid Weight]

def weight (forest : Rollup Node Weight) (node : Node) : Weight := forest.own node + forest.cache node

/-- Every node keeps the sum of the weights of its children. -/
def Summed (forest : Rollup Node Weight) : Prop :=
  ∀ node, forest.cache node = ((forest.children node).map forest.weight).sum

/-- Of the children of a node above, one rises; of those of the lowest node, none. -/
theorem Tidy.sum_rise (tidy : forest.Tidy) (low : Node) (change : Weight) (node : Node) (other : node ≠ low) :
    ((forest.children node).map (rise forest.up low change)).sum = rise forest.up low change node := by
  classical
  by_cases above : Above forest.up low node
  · obtain ⟨child, below, link⟩ := above.last.resolve_left (Ne.symm other)
    have member := (tidy.linked node child).mpr link
    rw [sum_map_eq_nsmul_single child, rise_above below, rise_above above, count_eq_one_of_mem (tidy.nodup node) member,
      one_nsmul]
    intro sibling different member
    apply rise_apart
    intro also
    exact different (tidy.unique also below ((tidy.linked node sibling).mp member) link)
  · rw [rise_apart above, sum_eq_zero]
    intro part listed
    obtain ⟨child, member, rfl⟩ := mem_map.mp listed
    apply rise_apart
    exact fun below => above (below.snoc ((tidy.linked node child).mp member))

theorem Summed.change {before after : Rollup Node Weight} (summed : before.Summed) (tidy : before.Tidy) (low : Node) (change : Weight)
    (elsewhere : ∀ node, node ≠ low → after.children node = before.children node ∧
      ∀ child ∈ before.children node, after.own child = before.own child)
    (here : ((after.children low).map (fun child => after.own child + before.cache child)).sum =
      ((before.children low).map before.weight).sum + change)
    (below : ∀ child ∈ after.children low, ¬ Above before.up low child)
    (cache : ∀ node, after.cache node = before.cache node + rise before.up low change node) : after.Summed := by
  intro node
  have view : ∀ child, after.weight child = (after.own child + before.cache child) + rise before.up low change child := by
    intro child
    rw [weight, cache, add_assoc]
  by_cases lowest : node = low
  · subst lowest
    have still : (after.children node).map after.weight =
        (after.children node).map (fun child => after.own child + before.cache child) := by
      apply map_congr_left
      intro child member
      rw [view, rise_apart (below child member), add_zero]
    rw [still, here, cache, rise_above (.refl node), summed node]
  · obtain ⟨children, own⟩ := elsewhere node lowest
    have parts : (after.children node).map after.weight =
        (before.children node).map (fun child => before.weight child + rise before.up low change child) := by
      rw [children]
      apply map_congr_left
      intro child member
      rw [view, own child member, weight]
    rw [parts, sum_map_add, ← summed node, tidy.sum_rise low change node lowest, cache]

end

section

variable {before after : Rollup Node Weight} {low item : Node}

variable [DecidableEq Node]

/-- A node that is not above the other one, and has nobody above it, comes under it. -/
theorem Tidy.attach (tidy : before.Tidy) (free : before.up item = none) (apart : ¬ Above before.up low item)
    (up : after.up = update before.up item (some low)) (here : (after.children low).Perm (item :: before.children low))
    (elsewhere : ∀ node, node ≠ low → after.children node = before.children node) : after.Tidy := by
  have unlisted : ∀ node, item ∉ before.children node := by
    intro node member
    rw [tidy.linked, free] at member
    cases member
  have links : ∀ node, node ≠ item → after.up node = before.up node := fun node other => by rw [up, update_of_ne other]
  have lifted : after.up item = some low := by rw [up, update_self]
  have clear : ∀ node, ¬ Above before.up node item → Acc (fun parent child => after.up child = some parent) node := by
    intro node apart
    induction tidy.rooted node with
    | intro node _ ih =>
      constructor
      intro parent link
      rw [links node (fun same => apart (same ▸ .refl node))] at link
      exact ih parent link (fun above => apart (.step link above))
  constructor
  · intro node child
    by_cases new : child = item
    · subst new
      rw [lifted]
      by_cases lowest : node = low
      · subst lowest
        simp only [here.mem_iff, mem_cons_self]
      · rw [elsewhere node lowest, Option.some.injEq]
        exact iff_of_false (unlisted node) (Ne.symm lowest)
    · rw [links child new, ← tidy.linked]
      by_cases lowest : node = low
      · subst lowest
        rw [here.mem_iff, mem_cons, or_iff_right new]
      · rw [elsewhere node lowest]
  · intro node
    by_cases lowest : node = low
    · subst lowest
      exact here.nodup_iff.mpr (nodup_cons.mpr ⟨unlisted node, tidy.nodup node⟩)
    · rw [elsewhere node lowest]
      exact tidy.nodup node
  · intro node
    induction tidy.rooted node with
    | intro node _ ih =>
      constructor
      intro parent link
      by_cases new : node = item
      · rw [new, lifted, Option.some.injEq] at link
        exact link ▸ clear low apart
      · rw [links node new] at link
        exact ih parent link

/-- A child is taken away. -/
theorem Tidy.detach (tidy : before.Tidy) (member : item ∈ before.children low) (up : after.up = update before.up item none)
    (here : (before.children low).Perm (item :: after.children low))
    (elsewhere : ∀ node, node ≠ low → after.children node = before.children node) : after.Tidy := by
  have links : ∀ node, node ≠ item → after.up node = before.up node := fun node other => by rw [up, update_of_ne other]
  have alone : after.up item = none := by rw [up, update_self]
  obtain ⟨apart, nodup⟩ := nodup_cons.mp (here.nodup_iff.mp (tidy.nodup low))
  have parent := (tidy.linked low item).mp member
  constructor
  · intro node child
    by_cases gone : child = item
    · subst gone
      rw [alone]
      refine iff_of_false ?_ nofun
      by_cases lowest : node = low
      · exact lowest ▸ apart
      · rw [elsewhere node lowest, tidy.linked, parent, Option.some.injEq]
        exact Ne.symm lowest
    · rw [links child gone, ← tidy.linked]
      by_cases lowest : node = low
      · subst lowest
        rw [here.mem_iff, mem_cons, or_iff_right gone]
      · rw [elsewhere node lowest]
  · intro node
    by_cases lowest : node = low
    · exact lowest ▸ nodup
    · rw [elsewhere node lowest]
      exact tidy.nodup node
  · intro node
    induction tidy.rooted node with
    | intro node _ ih =>
      constructor
      intro parent link
      by_cases gone : node = item
      · rw [gone, alone] at link
        cases link
      · rw [links node gone] at link
        exact ih parent link

/-- A child is replaced by a node that has nobody above it. -/
theorem Tidy.exchange {old : Node} {rest : List Node} (tidy : before.Tidy) (free : before.up item = none)
    (apart : ¬ Above before.up low item) (member : old ∈ before.children low)
    (up : after.up = update (update before.up item (some low)) old none)
    (left : (before.children low).Perm (old :: rest)) (here : (after.children low).Perm (item :: rest))
    (elsewhere : ∀ node, node ≠ low → after.children node = before.children node) : after.Tidy := by
  have different : item ≠ old := by
    rintro rfl
    have parent := (tidy.linked low item).mp member
    rw [free] at parent
    cases parent
  let between : Rollup Node Weight :=
    { before with children := update before.children low rest, up := update before.up old none }
  have emptied : between.children low = rest := update_self ..
  have tidied : between.Tidy := by
    apply tidy.detach member rfl
    · rw [emptied]
      exact left
    · intro node other
      exact update_of_ne other ..
  apply tidied.attach
  · exact (update_of_ne different ..).trans free
  · intro above
    exact apart ((Above.update (tidy.apart member) none).mp above)
  · rw [up, update_comm different]
  · rw [emptied]
    exact here
  · intro node other
    exact (elsewhere node other).trans (update_of_ne other ..).symm

end

end Rollup

end Styller.Library
