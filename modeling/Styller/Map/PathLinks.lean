import Mathlib.Algebra.Order.Ring.Int
import Styller.Map.PathMatching

/-! What a pass of the search does to its nodes: those that it looks at get the node that is taken for a parent where that makes
them cheaper, and the node that is taken is closed for good. -/

namespace Styller.PathFinding

open Library List Function Option

/-- A neighbour at one of the eight offsets, with coordinates that are as far apart. -/
def Adjacent (pos next : Position) : Prop :=
  ∃ offset ∈ allNeighbors, next = offsetBy pos offset ∧ (next.x : Int) = pos.x + offset.1 ∧ (next.y : Int) = pos.y + offset.2

section

variable (query : Query)

/-- A position that the search may go to. -/
def Allowed (pos : Position) : Prop :=
  inLimits query pos = true ∧ query.walker.canWalkTo query.useCacheMap pos = true

/-- The graph of all eight neighbours within the limits. -/
def Edge (pos next : Position) : Prop := Adjacent pos next ∧ Allowed query next

/-- No walkable position within the limits is across the edge of the coordinates from the node that is taken. -/
def Inland (_ : Search) (pos : Position) : Prop :=
  ∀ offset ∈ allNeighbors, Allowed query (offsetBy pos offset) → Adjacent pos (offsetBy pos offset)

end

variable {query : Query} {pos next parent other : Position}

theorem mapWalkCost_cases (pos next : Position) : getMapWalkCost pos next = 10 ∨ getMapWalkCost pos next = 25 := by
  unfold getMapWalkCost
  split
  · exact .inr rfl
  · exact .inl rfl

theorem tileWalkCost_nonneg (obstacles : Obstacles) (pos : Position) : 0 ≤ getTileWalkCost obstacles pos := by
  unfold getTileWalkCost mapNormalWalkCost
  have first : (0 : Int) ≤ if obstacles.getTopVisibleCreature pos then 10 * 3 else 0 := by split <;> decide
  cases obstacles.getFieldItem pos with
  | none => exact first
  | some combatType =>
    dsimp only
    split
    · exact Int.add_nonneg first (by decide)
    · exact first

theorem stepCost_nonneg (query : Query) (pos next : Position) : 0 ≤ stepCost query pos next := by
  have tile := tileWalkCost_nonneg query.obstacles next
  unfold stepCost
  rcases mapWalkCost_cases pos next with is | is
  · rw [is]
    exact Int.add_nonneg (by decide) tile
  · rw [is]
    exact Int.add_nonneg (by decide) tile

theorem stepCost_pos (query : Query) (pos next : Position) : 0 < stepCost query pos next := by
  have tile := tileWalkCost_nonneg query.obstacles next
  unfold stepCost
  rcases mapWalkCost_cases pos next with is | is
  · rw [is]
    exact Int.add_pos_of_pos_of_nonneg (by decide) tile
  · rw [is]
    exact Int.add_pos_of_pos_of_nonneg (by decide) tile

theorem neighbors_all (allowDiagonal : Bool) (pos : Position) (parent : Option Position) :
    ∀ offset ∈ neighbors allowDiagonal pos parent, offset ∈ allNeighbors := by
  have listed (direction : Direction) : ∀ offset ∈ dirNeighbors direction, offset ∈ allNeighbors := by
    cases direction <;> decide
  intro offset mem
  cases parent with
  | none => exact mem
  | some parent => exact listed _ offset (mem_of_mem_take mem)

theorem toUInt16_cast {coordinate : Int} {word : Nat} (is : (word : Int) = coordinate) (small : word < 65536) :
    Walker.toUInt16 coordinate = word := by
  unfold Walker.toUInt16
  rw [← is, Int.emod_eq_of_lt (Int.natCast_nonneg word) (by exact_mod_cast small)]
  exact Int.toNat_natCast word

theorem toUInt16_lt (coordinate : Int) : Walker.toUInt16 coordinate < 65536 := by
  unfold Walker.toUInt16
  have upper := Int.emod_lt_of_pos coordinate (by decide : (0 : Int) < 65536)
  have lower := Int.emod_nonneg coordinate (by decide : (65536 : Int) ≠ 0)
  omega

theorem Adjacent.small (adjacent : Adjacent pos next) : next.x < 65536 ∧ next.y < 65536 ∧ next.z = pos.z := by
  obtain ⟨offset, _, rfl, _, _⟩ := adjacent
  exact ⟨toUInt16_lt _, toUInt16_lt _, rfl⟩

section

variable {nodes : AStarNodes}

/-- Every node of the table is in the list that `getBestNode` goes through. -/
def Listed (nodes : AStarNodes) : Prop := ∀ pos, (nodes.nodeTable pos).isSome → pos ∈ nodes.nodes

theorem foldl_better (list : List Position) (best : Option Position × Int) :
    (list.foldl nodes.better best).2 ≤ best.2 ∧
      (∀ pos ∈ list, ∀ node, nodes.nodeTable pos = some node → node.isOpen = true → (list.foldl nodes.better best).2 ≤ node.f) ∧
      (list.foldl nodes.better best = best ∨ ∃ pos node, list.foldl nodes.better best = (some pos, node.f) ∧
        nodes.nodeTable pos = some node ∧ node.isOpen = true) := by
  induction list generalizing best with
  | nil => exact ⟨le_rfl, fun pos mem => absurd mem not_mem_nil, .inl rfl⟩
  | cons first rest ih =>
    obtain ⟨lower, least, found⟩ := ih (nodes.better best first)
    have one : (nodes.better best first).2 ≤ best.2 ∧
        (∀ node, nodes.nodeTable first = some node → node.isOpen = true → (nodes.better best first).2 ≤ node.f) ∧
        (nodes.better best first = best ∨ ∃ node, nodes.better best first = (some first, node.f) ∧
          nodes.nodeTable first = some node ∧ node.isOpen = true) := by
      unfold AStarNodes.better
      cases there : nodes.nodeTable first with
      | none => exact ⟨le_rfl, fun node is => absurd is.symm (some_ne_none node), .inl rfl⟩
      | some node =>
        dsimp only
        by_cases takes : node.isOpen = true ∧ node.f < best.2
        · rw [if_pos takes]
          refine ⟨le_of_lt takes.2, ?_, .inr ⟨node, rfl, rfl, takes.1⟩⟩
          intro other is _
          rw [some.inj is]
        · rw [if_neg takes]
          refine ⟨le_rfl, ?_, .inl rfl⟩
          intro other is isOpen
          rw [some.injEq] at is
          subst is
          exact not_lt.mp fun less => takes ⟨isOpen, less⟩
    refine ⟨le_trans lower one.1, ?_, ?_⟩
    · intro pos mem node is isOpen
      rcases mem_cons.mp mem with rfl | mem
      · exact le_trans lower (one.2.1 node is isOpen)
      · exact least pos mem node is isOpen
    · rcases found with same | ⟨pos, node, is, there, isOpen⟩
      · rcases one.2.2 with before | ⟨node, is, there, isOpen⟩
        · exact .inl (same.trans before)
        · exact .inr ⟨first, node, same.trans is, there, isOpen⟩
      · exact .inr ⟨pos, node, is, there, isOpen⟩

theorem getBestNode_least (listed : Listed nodes) (is : nodes.getBestNode = some pos) {node : AStarNode}
    (there : nodes.nodeTable pos = some node) :
    node.isOpen = true ∧
      ∀ other late, nodes.nodeTable other = some late → late.isOpen = true → node.f ≤ late.f := by
  unfold AStarNodes.getBestNode at is
  have scan := @foldl_better nodes nodes.nodes (none, 2147483647)
  obtain ⟨_, least, found⟩ := scan
  rcases found with same | ⟨best, found, best_is, present, isOpen⟩
  · rw [same] at is
    exact absurd is.symm (some_ne_none pos)
  · rw [best_is, some.injEq] at is
    subst is
    rw [there, some.injEq] at present
    subst present
    refine ⟨isOpen, ?_⟩
    intro other late is stillOpen
    have below := least other (listed other (by rw [is]; rfl)) late is stillOpen
    rw [best_is] at below
    exact below

end

section

variable {before nodes now : AStarNodes} {f : Int} {offsets : List (Int × Int)}

/-- The nodes are where the search may go, but for the start. -/
def Known (query : Query) (nodes : AStarNodes) : Prop :=
  ∀ other node, nodes.nodeTable other = some node → Allowed query other ∨ node.f ≤ 0

/-- There is a node with no more than what the step costs. -/
def Reached (query : Query) (pos : Position) (f : Int) (now : AStarNodes) (other : Position) : Prop :=
  ∃ node, now.nodeTable other = some node ∧ node.f ≤ f + stepCost query pos other

/-- The list has every node of the table once. -/
structure Tabled (nodes : AStarNodes) : Prop where
  listed : Listed nodes
  nodup : nodes.nodes.Nodup
  present : ∀ pos ∈ nodes.nodes, (nodes.nodeTable pos).isSome

/-- A step over one of some offsets to where the search may go. -/
def Steps (query : Query) (offsets : List (Int × Int)) (pos next : Position) : Prop :=
  (∃ offset ∈ offsets, next = offsetBy pos offset) ∧ Allowed query next

/-- What looking at neighbours at some offsets changes. -/
structure Looked (query : Query) (pos : Position) (f : Int) (offsets : List (Int × Int)) (before now : AStarNodes) : Prop where
  change : ∀ other, now.nodeTable other = before.nodeTable other ∨
    Steps query offsets pos other ∧
      now.nodeTable other = some { parent := some pos, f := f + stepCost query pos other, isOpen := true } ∧
      ∀ node, before.nodeTable other = some node → f + stepCost query pos other < node.f
  listed : Listed before → Listed now
  tabled : Tabled before → Tabled now
  older : before.nodes <+: now.nodes
  size : now.nodes.length ≤ before.nodes.length + offsets.length
  room : before.nodes.length ≤ maxNodes → now.nodes.length ≤ maxNodes

theorem Looked.refl (offsets : List (Int × Int)) : Looked query pos f offsets before before where
  change := fun _ => .inl rfl
  listed := id
  tabled := id
  older := prefix_rfl
  size := Nat.le_add_right ..
  room := id

theorem Looked.trans {others : List (Int × Int)} (first : Looked query pos f offsets before nodes)
    (second : Looked query pos f others nodes now) : Looked query pos f (offsets ++ others) before now where
  change := by
    intro other
    rcases second.change other with same | ⟨⟨⟨offset, mem, is⟩, allowed⟩, now_is, lower⟩
    · rcases first.change other with before_same | ⟨⟨⟨offset, mem, is⟩, allowed⟩, now_is, lower⟩
      · exact .inl (same.trans before_same)
      · exact .inr ⟨⟨⟨offset, mem_append_left _ mem, is⟩, allowed⟩, same.trans now_is, lower⟩
    · rcases first.change other with same | ⟨_, already, _⟩
      · exact .inr ⟨⟨⟨offset, mem_append_right _ mem, is⟩, allowed⟩, now_is, same ▸ lower⟩
      · exact absurd (lower _ already) (lt_irrefl _)
  listed := second.listed ∘ first.listed
  tabled := second.tabled ∘ first.tabled
  older := first.older.trans second.older
  size := by
    have one := first.size
    have two := second.size
    rw [length_append]
    omega
  room := second.room ∘ first.room

/-- A value does not rise. -/
theorem Looked.lower (looked : Looked query pos f offsets before now) {node : AStarNode} (there : before.nodeTable other = some node) :
    ∃ later, now.nodeTable other = some later ∧ later.f ≤ node.f := by
  rcases looked.change other with same | ⟨_, is, lower⟩
  · exact ⟨node, same.trans there, le_rfl⟩
  · exact ⟨_, is, le_of_lt (lower node there)⟩

/-- A node that is no dearer than where the way comes from stays. -/
theorem Looked.stays (looked : Looked query pos f offsets before now) {node : AStarNode} (there : before.nodeTable other = some node)
    (below : node.f ≤ f) : now.nodeTable other = some node := by
  rcases looked.change other with same | ⟨_, _, lower⟩
  · exact same.trans there
  · have more := stepCost_nonneg query pos other
    exact absurd (lower node there) (not_lt_of_ge (le_trans below (Int.le_add_of_nonneg_right more)))

theorem Looked.known (looked : Looked query pos f offsets before now) (known : Known query before) : Known query now := by
  intro other node there
  rcases looked.change other with same | ⟨step, _, _⟩
  · exact known other node (same ▸ there)
  · exact .inl step.2

/-- A node gets another parent. -/
theorem looked_reopen {offset : Int × Int} {node : AStarNode} (allowed : Allowed query (offsetBy pos offset))
    (there : nodes.nodeTable (offsetBy pos offset) = some node) (dearer : f + stepCost query pos (offsetBy pos offset) < node.f) :
    Looked query pos f [offset] nodes
      (nodes.reopen (offsetBy pos offset) pos (f + stepCost query pos (offsetBy pos offset)) node) := by
  have present : (nodes.nodeTable (offsetBy pos offset)).isSome := by
    rw [there]
    rfl
  have table (other : Position) (apart : other ≠ offsetBy pos offset) :
      (nodes.reopen (offsetBy pos offset) pos (f + stepCost query pos (offsetBy pos offset)) node).nodeTable other =
        nodes.nodeTable other := update_of_ne apart ..
  have listed (listed : Listed nodes) :
      Listed (nodes.reopen (offsetBy pos offset) pos (f + stepCost query pos (offsetBy pos offset)) node) := by
    intro other some
    by_cases here : other = offsetBy pos offset
    · rw [here]
      exact listed _ present
    · rw [table other here] at some
      exact listed other some
  constructor
  · intro other
    by_cases here : other = offsetBy pos offset
    · subst here
      refine .inr ⟨⟨⟨offset, mem_singleton_self _, rfl⟩, allowed⟩, update_self .., ?_⟩
      intro old is
      rw [there, some.injEq] at is
      exact is ▸ dearer
    · exact .inl (table other here)
  · exact listed
  · intro tabled
    refine ⟨listed tabled.listed, tabled.nodup, ?_⟩
    intro other mem
    by_cases here : other = offsetBy pos offset
    · subst here
      exact isSome_iff_exists.mpr ⟨_, update_self ..⟩
    · rw [table other here]
      exact tabled.present other mem
  · exact prefix_rfl
  · exact Nat.le_add_right ..
  · exact id

/-- A new node. -/
theorem looked_create {offset : Int × Int} (allowed : Allowed query (offsetBy pos offset))
    (none : nodes.nodeTable (offsetBy pos offset) = none)
    (ran : nodes.createOpenNode pos (offsetBy pos offset) (f + stepCost query pos (offsetBy pos offset)) = some now) :
    Looked query pos f [offset] nodes now := by
  unfold AStarNodes.createOpenNode at ran
  by_cases full : nodes.nodes.length ≥ maxNodes
  · rw [if_pos full] at ran
    exact absurd ran.symm (some_ne_none now)
  · rw [if_neg full, some.injEq] at ran
    subst ran
    have fresh (listed : Tabled nodes) : offsetBy pos offset ∉ nodes.nodes := by
      intro mem
      have present := listed.present _ mem
      rw [none] at present
      exact Bool.false_ne_true present
    have listed (listed : Listed nodes) (other : Position) (some : (update nodes.nodeTable (offsetBy pos offset)
          (some { parent := pos, f := f + stepCost query pos (offsetBy pos offset), isOpen := true }) other).isSome) :
        other ∈ nodes.nodes ++ [offsetBy pos offset] := by
      by_cases here : other = offsetBy pos offset
      · rw [here]
        exact mem_append_right _ (mem_singleton_self _)
      · rw [update_of_ne here] at some
        exact mem_append_left _ (listed other some)
    constructor
    · intro other
      by_cases here : other = offsetBy pos offset
      · subst here
        refine .inr ⟨⟨⟨offset, mem_singleton_self _, rfl⟩, allowed⟩, update_self .., ?_⟩
        intro old is
        rw [none] at is
        exact absurd is.symm (some_ne_none old)
      · exact .inl (update_of_ne here ..)
    · exact listed
    · intro tabled
      refine ⟨listed tabled.listed, nodup_append.mpr ⟨tabled.nodup, nodup_singleton _, ?_⟩, ?_⟩
      · intro other mem last is same
        rw [mem_singleton.mp is] at same
        exact fresh tabled (same ▸ mem)
      · intro other mem
        by_cases here : other = offsetBy pos offset
        · subst here
          exact isSome_iff_exists.mpr ⟨_, update_self ..⟩
        · rcases mem_append.mp mem with old | new
          · show (update nodes.nodeTable _ _ other).isSome = true
            rw [update_of_ne here]
            exact tabled.present other old
          · exact absurd (mem_singleton.mp new) here
    · exact prefix_append ..
    · exact Nat.le_of_eq length_append
    · intro _
      show (nodes.nodes ++ [offsetBy pos offset]).length ≤ maxNodes
      rw [length_append, length_singleton]
      exact Nat.lt_of_not_le full

theorem visit_looked (known : Known query nodes) (zero : 0 ≤ f) {offset : Int × Int}
    (ran : visit query pos f nodes offset = some now) :
    Looked query pos f [offset] nodes now ∧ (Allowed query (offsetBy pos offset) → Reached query pos f now (offsetBy pos offset)) := by
  have more : 0 ≤ f + stepCost query pos (offsetBy pos offset) := Int.add_nonneg zero (stepCost_nonneg query pos _)
  unfold visit at ran
  simp only [Bool.not_eq_true'] at ran
  by_cases outside : inLimits query (offsetBy pos offset) = false
  · rw [if_pos outside, some.injEq] at ran
    subst ran
    refine ⟨Looked.refl _, ?_⟩
    intro allowed
    exact absurd (outside.symm.trans allowed.1) Bool.false_ne_true
  · rw [if_neg outside] at ran
    have inside := Bool.eq_true_of_not_eq_false outside
    cases there : nodes.nodeTable (offsetBy pos offset) with
    | some node =>
      simp only [there] at ran
      by_cases cheaper : node.f ≤ f + stepCost query pos (offsetBy pos offset)
      · rw [if_pos cheaper, some.injEq] at ran
        subst ran
        exact ⟨Looked.refl _, fun _ => ⟨node, there, cheaper⟩⟩
      · rw [if_neg cheaper, some.injEq] at ran
        subst ran
        have dearer := not_le.mp cheaper
        have allowed : Allowed query (offsetBy pos offset) := by
          rcases known _ node there with allowed | bottom
          · exact allowed
          · exact absurd (lt_of_le_of_lt more dearer) (not_lt_of_ge bottom)
        exact ⟨looked_reopen allowed there dearer, fun _ => ⟨_, update_self .., le_rfl⟩⟩
    | none =>
      simp only [there] at ran
      by_cases blocked : query.walker.canWalkTo query.useCacheMap (offsetBy pos offset) = false
      · rw [if_pos blocked, some.injEq] at ran
        subst ran
        refine ⟨Looked.refl _, ?_⟩
        intro allowed
        exact absurd (blocked.symm.trans allowed.2) Bool.false_ne_true
      · rw [if_neg blocked] at ran
        have looked := looked_create ⟨inside, Bool.eq_true_of_not_eq_false blocked⟩ there ran
        refine ⟨looked, fun _ => ?_⟩
        unfold AStarNodes.createOpenNode at ran
        split at ran
        · exact absurd ran.symm (some_ne_none now)
        · rw [some.injEq] at ran
          subst ran
          exact ⟨_, update_self .., le_rfl⟩

theorem visit_full {offset : Int × Int} (ran : visit query pos f nodes offset = none) : maxNodes ≤ nodes.nodes.length := by
  unfold visit at ran
  simp only [Bool.not_eq_true'] at ran
  split at ran
  · exact absurd ran (some_ne_none nodes)
  · split at ran
    · split at ran
      · exact absurd ran (some_ne_none _)
      · exact absurd ran (some_ne_none _)
    · split at ran
      · exact absurd ran (some_ne_none nodes)
      · unfold AStarNodes.createOpenNode at ran
        split at ran
        · next full => exact full
        · exact absurd ran (some_ne_none _)

/-- The loop over some neighbours: it ends early only where the table is full. -/
theorem visitAll_looked (known : Known query nodes) (zero : 0 ≤ f) {full : Bool}
    (ran : visitAll query pos f nodes offsets = (now, full)) :
    Looked query pos f offsets nodes now ∧ (full = true → maxNodes ≤ now.nodes.length) ∧
      (full = false → ∀ offset ∈ offsets, Allowed query (offsetBy pos offset) → Reached query pos f now (offsetBy pos offset)) := by
  induction offsets generalizing nodes with
  | nil =>
    unfold visitAll at ran
    rw [Prod.mk.injEq] at ran
    obtain ⟨rfl, rfl⟩ := ran
    refine ⟨Looked.refl _, fun never => absurd never Bool.false_ne_true, fun _ offset mem => absurd mem not_mem_nil⟩
  | cons offset offsets ih =>
    unfold visitAll at ran
    cases one : visit query pos f nodes offset with
    | none =>
      simp only [one, Prod.mk.injEq] at ran
      obtain ⟨rfl, rfl⟩ := ran
      exact ⟨Looked.refl _, fun _ => visit_full one, fun never => absurd never.symm Bool.false_ne_true⟩
    | some mid =>
      simp only [one] at ran
      obtain ⟨first, reached⟩ := visit_looked known zero one
      obtain ⟨rest, room, others⟩ := ih (first.known known) ran
      refine ⟨first.trans rest, room, ?_⟩
      intro some other mem allowed
      rcases mem_cons.mp mem with rfl | mem
      · obtain ⟨node, there, below⟩ := reached allowed
        obtain ⟨later, is, lower⟩ := rest.lower there
        exact ⟨later, is, le_trans lower below⟩
      · exact others some other mem allowed

end

section

variable {nodes now : AStarNodes} {node : AStarNode}

theorem takes_eq {state : Search} (taken : takes query state = some (pos, node)) :
    state.nodes.getBestNode = some pos ∧ state.nodes.nodeTable pos = some node := by
  unfold takes at taken
  by_cases goes : query.fpp.maxSearchDist ≠ 0 ∨ state.nodes.closedNodes < 100
  · rw [if_pos goes, bind_eq_some_iff] at taken
    obtain ⟨best, is, taken⟩ := taken
    obtain ⟨entry, there, same⟩ := map_eq_some_iff.mp taken
    rw [Prod.mk.injEq] at same
    obtain ⟨rfl, rfl⟩ := same
    exact ⟨is, there⟩
  · rw [if_neg goes] at taken
    exact absurd taken.symm (some_ne_none _)

theorem pass_eq {state next : Search} {full : Bool} (ran : pass query state pos node = some (next, full)) :
    ∃ now, visitAll query pos node.f state.nodes (neighbors query.fpp.allowDiagonal pos node.parent) = (now, full) ∧
      next.nodes = now.closeNode pos := by
  unfold pass at ran
  generalize query.pathCondition.call (start query) pos state.bestMatch = answer at ran
  generalize visitAll query pos node.f state.nodes (neighbors query.fpp.allowDiagonal pos node.parent) = looked at ran
  dsimp only at ran
  generalize (if answer.1 = true then some pos else state.found) = found at ran
  split at ran
  · exact absurd ran.symm (some_ne_none _)
  · split at ran
    · exact absurd ran.symm (some_ne_none _)
    · rw [some.injEq, Prod.mk.injEq] at ran
      obtain ⟨rfl, rfl⟩ := ran
      exact ⟨looked.1, rfl, rfl⟩

/-- The nodes after a pass: those that were looked at, and the one that was taken is closed. -/
theorem closeNode_table (here : now.nodeTable pos = some node) (other : Position) :
    (now.closeNode pos).nodeTable other =
      if other = pos then some { node with isOpen := false } else now.nodeTable other := by
  unfold AStarNodes.closeNode
  by_cases same : other = pos
  · rw [if_pos same, same]
    dsimp only
    rw [update_self, here]
    rfl
  · rw [if_neg same]
    exact update_of_ne same ..

end

end Styller.PathFinding
