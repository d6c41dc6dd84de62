import Styller.Library.Cheapest
import Styller.Map.PathLinks

/-! The search for a way looks at five neighbours of most nodes, and takes every node with what the cheapest way to it costs. -/

namespace Styller.PathFinding

open Library Option

variable {query : Query} {pos next parent other : Position}

def sides : List (Int × Int) := [(-1, 0), (0, 1), (1, 0), (0, -1)]

/-- An offset that is left out leads back or to a side of the parent. -/
theorem left_out : ∀ offset ∈ allNeighbors, ∀ further ∈ allNeighbors,
    further ∈ dirNeighbors (directionOf true (-offset.1, -offset.2)) ∨ (offset.1 + further.1, offset.2 + further.2) = (0, 0) ∨
      (offset.1 + further.1, offset.2 + further.2) ∈ sides := by
  decide

theorem sides_all : ∀ offset ∈ sides, offset ∈ allNeighbors := by
  decide

theorem sides_apart : ∀ offset ∈ sides, offset.1.natAbs ≠ offset.2.natAbs := by
  decide

theorem length_dirNeighbors (direction : Direction) : (dirNeighbors direction).length = 5 := by
  cases direction <;> rfl

theorem neighbors_diagonal (pos parent : Position) : neighbors true pos (some parent) =
    dirNeighbors (directionOf true ((parent.x : Int) - pos.x, (parent.y : Int) - pos.y)) := by
  apply List.take_of_length_le
  rw [length_dirNeighbors]
  exact le_rfl

theorem adjacent_of (mem : offset ∈ allNeighbors) (small : next.x < 65536 ∧ next.y < 65536 ∧ next.z = pos.z)
    (x : (next.x : Int) = pos.x + offset.1) (y : (next.y : Int) = pos.y + offset.2) : Adjacent pos next := by
  refine ⟨offset, mem, ?_, x, y⟩
  unfold offsetBy
  rw [toUInt16_cast x small.1, toUInt16_cast y small.2.1, ← small.2.2]

/-- A neighbour that the search leaves out is the parent or beside it. -/
theorem Adjacent.pruned (first : Adjacent parent pos) (second : Adjacent pos next) :
    (∃ offset ∈ neighbors true pos (some parent), next = offsetBy pos offset) ∨ next = parent ∨
      Adjacent parent next ∧ getMapWalkCost parent next ≤ getMapWalkCost pos next := by
  have ⟨offset, mem, _, x, y⟩ := first
  have ⟨further, more, is, nextX, nextY⟩ := second
  have back : ((parent.x : Int) - pos.x, (parent.y : Int) - pos.y) = (-offset.1, -offset.2) := by
    rw [x, y]
    ext <;> simp
  have sumX : (next.x : Int) = parent.x + (offset.1 + further.1) := by rw [nextX, x, Int.add_assoc]
  have sumY : (next.y : Int) = parent.y + (offset.2 + further.2) := by rw [nextY, y, Int.add_assoc]
  have level : next.z = parent.z := second.small.2.2.trans first.small.2.2
  rcases left_out offset mem further more with kept | none | side
  · left
    refine ⟨further, ?_, is⟩
    rw [neighbors_diagonal, back]
    exact kept
  · right
    left
    rw [Prod.mk.injEq] at none
    rw [none.1, Int.add_zero, Int.natCast_inj] at sumX
    rw [none.2, Int.add_zero, Int.natCast_inj] at sumY
    cases next
    cases parent
    simp_all
  · right
    right
    constructor
    · exact adjacent_of (sides_all _ side) ⟨second.small.1, second.small.2.1, level⟩ sumX sumY
    · have straight : getMapWalkCost parent next = 10 := by
        have apart := sides_apart _ side
        unfold getMapWalkCost
        rw [if_neg]
        · rfl
        · dsimp only at apart
          omega
      rcases mapWalkCost_cases pos next with is | is
      · rw [straight, is]
      · rw [straight, is]
        decide

def AStarNodes.label (nodes : AStarNodes) (pos : Position) : Option Int := (nodes.nodeTable pos).map AStarNode.f

def AStarNodes.Closed (nodes : AStarNodes) (pos : Position) : Prop :=
  ∃ node, nodes.nodeTable pos = some node ∧ node.isOpen = false

/-- Between the passes of the loop. -/
structure Sound (query : Query) (nodes : AStarNodes) : Prop where
  listed : Listed nodes
  labelled : Labelled (Edge query) (stepCost query) (start query) nodes.label nodes.Closed
  below : ∀ pos other early late, nodes.nodeTable pos = some early → early.isOpen = false →
    nodes.nodeTable other = some late → late.isOpen = true → early.f ≤ late.f
  /-- The start has no parent, and no way to it is cheaper. -/
  root : ∀ pos node, nodes.nodeTable pos = some node → node.parent = none → node.f ≤ 0
  parents : ∀ pos node parent, nodes.nodeTable pos = some node → node.parent = some parent → Edge query parent pos ∧
    ∃ first, nodes.nodeTable parent = some first ∧ first.isOpen = false ∧ first.f + stepCost query parent pos ≤ node.f

section

variable {before nodes now : AStarNodes} {f : Int}

/-- What looking at neighbours of a node changes. -/
structure Visited (query : Query) (pos : Position) (f : Int) (before now : AStarNodes) : Prop where
  change : ∀ other, now.nodeTable other = before.nodeTable other ∨
    Edge query pos other ∧
      now.nodeTable other = some { parent := some pos, f := f + stepCost query pos other, isOpen := true } ∧
      ∀ node, before.nodeTable other = some node → f + stepCost query pos other < node.f
  listed : Listed before → Listed now

/-- A value does not rise. -/
theorem Visited.lower (visited : Visited query pos f before now) {node : AStarNode} (there : before.nodeTable other = some node) :
    ∃ later, now.nodeTable other = some later ∧ later.f ≤ node.f := by
  rcases visited.change other with same | ⟨_, is, lower⟩
  · exact ⟨node, same.trans there, le_rfl⟩
  · exact ⟨_, is, le_of_lt (lower node there)⟩

/-- A node that is no dearer than where the way comes from stays. -/
theorem Visited.stays (visited : Visited query pos f before now) {node : AStarNode} (there : before.nodeTable other = some node)
    (below : node.f ≤ f) : now.nodeTable other = some node := by
  rcases visited.change other with same | ⟨_, _, lower⟩
  · exact same.trans there
  · have more := stepCost_nonneg query pos other
    exact absurd (lower node there) (not_lt_of_ge (le_trans below (Int.le_add_of_nonneg_right more)))

theorem visitAll_visited {search : Search} (known : Known query nodes) (zero : 0 ≤ f) (inland : Inland query search pos)
    {offsets : List (Int × Int)} (all : ∀ offset ∈ offsets, offset ∈ allNeighbors)
    (ran : visitAll query pos f nodes offsets = (now, false)) :
    Visited query pos f nodes now ∧
      ∀ offset ∈ offsets, Allowed query (offsetBy pos offset) → Reached query pos f now (offsetBy pos offset) := by
  obtain ⟨looked, _, reached⟩ := visitAll_looked known zero ran
  refine ⟨⟨?_, looked.listed⟩, reached rfl⟩
  intro other
  rcases looked.change other with same | ⟨⟨⟨offset, mem, rfl⟩, allowed⟩, is, lower⟩
  · exact .inl same
  · exact .inr ⟨⟨inland offset (all offset mem) allowed, allowed⟩, is, lower⟩

end

section

variable {nodes now : AStarNodes} {node : AStarNode}

theorem Sound.known (sound : Sound query nodes) : Known query nodes := by
  intro other node there
  cases is : node.parent with
  | none => exact .inr (sound.root other node there is)
  | some parent => exact .inl (sound.parents other node parent there is).1.2

theorem Sound.nonneg (sound : Sound query nodes) (there : nodes.nodeTable pos = some node) : 0 ≤ node.f := by
  have labelled : nodes.label pos = some node.f := congrArg (Option.map AStarNode.f) there
  exact (sound.labelled.way pos node.f labelled).nonneg (stepCost_nonneg query)

/-- The node that is taken has passed on its label, also to the neighbours that are left out. -/
theorem Sound.passes (sound : Sound query nodes) (there : nodes.nodeTable pos = some node) (visited : Visited query pos node.f nodes now)
    (reached : ∀ offset ∈ neighbors true pos node.parent, Allowed query (offsetBy pos offset) →
      Reached query pos node.f now (offsetBy pos offset)) (edge : Edge query pos next) :
    Reached query pos node.f now next := by
  obtain ⟨adjacent, allowed⟩ := edge
  cases is : node.parent with
  | none =>
    rw [is] at reached
    obtain ⟨offset, mem, rfl, _⟩ := adjacent
    exact reached offset mem allowed
  | some parent =>
    rw [is] at reached
    obtain ⟨⟨first, _⟩, entry, present, isClosed, through⟩ := sound.parents pos node parent there is
    have short (shorter : next = parent ∨ Edge query parent next ∧ stepCost query parent next ≤ stepCost query pos next) :
        Reached query pos node.f now next := by
      have labelled : nodes.label parent = some entry.f := congrArg (Option.map AStarNode.f) present
      obtain ⟨value, known, below⟩ :=
        sound.labelled.shortcut (stepCost_nonneg query) ⟨entry, present, isClosed⟩ labelled through shorter
      obtain ⟨old, oldThere, rfl⟩ := map_eq_some_iff.mp known
      obtain ⟨later, later_is, lower⟩ := visited.lower oldThere
      exact ⟨later, later_is, le_trans lower below⟩
    rcases first.pruned adjacent with ⟨offset, mem, rfl⟩ | back | ⟨side, cheaper⟩
    · exact reached offset mem allowed
    · exact short (.inl back)
    · exact short (.inr ⟨⟨side, allowed⟩, Int.add_le_add_right cheaper _⟩)

/-- A node after a pass: the one that was taken, one as it was, or one that has got a way from there. -/
theorem Visited.entry (visited : Visited query pos node.f nodes now) (there : nodes.nodeTable pos = some node) {entry : AStarNode}
    (is : (now.closeNode pos).nodeTable other = some entry) :
    other = pos ∧ entry = { node with isOpen := false } ∨ other ≠ pos ∧ nodes.nodeTable other = some entry ∨
      Edge query pos other ∧ entry = { parent := some pos, f := node.f + stepCost query pos other, isOpen := true } := by
  rw [closeNode_table (visited.stays there le_rfl)] at is
  by_cases same : other = pos
  · rw [if_pos same, some.injEq] at is
    exact .inl ⟨same, is.symm⟩
  · rw [if_neg same] at is
    rcases visited.change other with before | ⟨edge, now_is, _⟩
    · exact .inr (.inl ⟨same, before ▸ is⟩)
    · rw [now_is, some.injEq] at is
      exact .inr (.inr ⟨edge, is.symm⟩)

theorem closeNode_label (here : now.nodeTable pos = some node) : (now.closeNode pos).label = now.label := by
  funext other
  unfold AStarNodes.label
  rw [closeNode_table here]
  by_cases same : other = pos
  · rw [if_pos same, same, here]
    rfl
  · rw [if_neg same]

theorem Visited.label (visited : Visited query pos node.f nodes now) (other : Position) :
    now.label other = nodes.label other ∨ Edge query pos other ∧ now.label other = some (node.f + stepCost query pos other) ∧
      ∀ value, nodes.label other = some value → node.f + stepCost query pos other < value := by
  unfold AStarNodes.label
  rcases visited.change other with same | ⟨edge, is, lower⟩
  · exact .inl (congrArg _ same)
  · refine .inr ⟨edge, by rw [is]; rfl, ?_⟩
    intro value known
    obtain ⟨entry, present, rfl⟩ := map_eq_some_iff.mp known
    exact lower entry present

theorem Sound.close (sound : Sound query nodes) (is : nodes.getBestNode = some pos) (there : nodes.nodeTable pos = some node)
    (visited : Visited query pos node.f nodes now)
    (reached : ∀ offset ∈ neighbors true pos node.parent, Allowed query (offsetBy pos offset) →
      Reached query pos node.f now (offsetBy pos offset)) :
    Sound query (now.closeNode pos) := by
  obtain ⟨isOpen, least⟩ := getBestNode_least sound.listed is there
  have here : now.nodeTable pos = some node := visited.stays there le_rfl
  have early (other : Position) (entry : AStarNode) (is : nodes.nodeTable other = some entry) (isClosed : entry.isOpen = false) :
      entry.f ≤ node.f := sound.below other pos entry node is isClosed there isOpen
  -- closed nodes stay as they are, and so does what is closed
  have kept (other : Position) (entry : AStarNode) (is : nodes.nodeTable other = some entry) (isClosed : entry.isOpen = false) :
      (now.closeNode pos).nodeTable other = some entry := by
    have apart : other ≠ pos := by
      intro same
      rw [same, there, some.injEq] at is
      rw [is, isClosed] at isOpen
      exact Bool.false_ne_true isOpen
    rw [closeNode_table here, if_neg apart]
    exact visited.stays is (early other entry is isClosed)
  have closed : (now.closeNode pos).nodeTable pos = some { node with isOpen := false } := by
    rw [closeNode_table here, if_pos rfl]
  constructor
  · intro other present
    obtain ⟨entry, present⟩ := isSome_iff_exists.mp present
    have some : (now.nodeTable other).isSome := by
      rw [closeNode_table here] at present
      by_cases same : other = pos
      · rw [same, here]
        rfl
      · rw [if_neg same] at present
        rw [present]
        rfl
    exact visited.listed sound.listed other some
  · rw [closeNode_label here]
    have settled : Labelled (Edge query) (stepCost query) (start query) now.label fun other => nodes.Closed other ∨ other = pos := by
      apply sound.labelled.settle (stepCost_nonneg query) (congrArg (Option.map AStarNode.f) there)
      · rintro other ⟨entry, is, isClosed⟩
        exact ⟨entry.f, congrArg (Option.map AStarNode.f) is, early other entry is isClosed⟩
      · exact visited.label
      · intro next edge
        obtain ⟨entry, present, below⟩ := sound.passes there visited reached edge
        exact ⟨entry.f, congrArg (Option.map AStarNode.f) present, below⟩
    apply settled.fewer
    rintro other ⟨entry, is, isClosed⟩
    rcases visited.entry there is with ⟨same, _⟩ | ⟨_, before⟩ | ⟨_, rfl⟩
    · exact .inr same
    · exact .inl ⟨entry, before, isClosed⟩
    · exact absurd isClosed.symm Bool.false_ne_true
  · intro one other first last one_is isClosed other_is stillOpen
    have upper : first.f ≤ node.f := by
      rcases visited.entry there one_is with ⟨_, rfl⟩ | ⟨_, before⟩ | ⟨_, rfl⟩
      · exact le_rfl
      · exact early one first before isClosed
      · exact absurd isClosed.symm Bool.false_ne_true
    rcases visited.entry there other_is with ⟨_, rfl⟩ | ⟨_, before⟩ | ⟨_, rfl⟩
    · exact absurd stillOpen Bool.false_ne_true
    · exact le_trans upper (least other last before stillOpen)
    · exact le_trans upper (Int.le_add_of_nonneg_right (stepCost_nonneg query pos other))
  · intro other entry is none
    rcases visited.entry there is with ⟨_, rfl⟩ | ⟨_, before⟩ | ⟨_, rfl⟩
    · exact sound.root pos node there none
    · exact sound.root other entry before none
    · exact absurd none (some_ne_none pos)
  · have old (other : Position) (entry : AStarNode) (parent : Position) (is : nodes.nodeTable other = some entry)
        (child : entry.parent = some parent) : Edge query parent other ∧ ∃ first, (now.closeNode pos).nodeTable parent = some first ∧
          first.isOpen = false ∧ first.f + stepCost query parent other ≤ entry.f := by
      obtain ⟨edge, first, present, isClosed, through⟩ := sound.parents other entry parent is child
      exact ⟨edge, first, kept parent first present isClosed, isClosed, through⟩
    intro other entry parent is child
    rcases visited.entry there is with ⟨rfl, rfl⟩ | ⟨_, before⟩ | ⟨edge, rfl⟩
    · exact old other node parent there child
    · exact old other entry parent before child
    · rw [some.injEq] at child
      subst child
      exact ⟨edge, _, closed, rfl, le_rfl⟩

theorem Sound.cheapest (sound : Sound query nodes) (is : nodes.getBestNode = some pos) (there : nodes.nodeTable pos = some node) :
    Cheapest (Edge query) (stepCost query) (start query) pos node.f := by
  obtain ⟨_, least⟩ := getBestNode_least sound.listed is there
  apply sound.labelled.cheapest (stepCost_nonneg query) (congrArg (Option.map AStarNode.f) there)
  intro other value frontier known
  obtain ⟨entry, present, rfl⟩ := map_eq_some_iff.mp known
  apply least other entry present
  cases isOpen : entry.isOpen with
  | true => rfl
  | false => exact absurd ⟨entry, present, isOpen⟩ frontier

theorem sound_new (query : Query) : Sound query (AStarNodes.new (start query)) := by
  have table (other : Position) (entry : AStarNode) (is : (AStarNodes.new (start query)).nodeTable other = some entry) :
      other = start query ∧ entry = { parent := none, f := 0, isOpen := true } := by
    unfold AStarNodes.new at is
    by_cases same : other = start query
    · rw [same] at is
      dsimp only at is
      rw [Function.update_self, some.injEq] at is
      exact ⟨same, is.symm⟩
    · dsimp only at is
      rw [Function.update_of_ne same] at is
      exact absurd is.symm (some_ne_none entry)
  have label : (AStarNodes.new (start query)).label (start query) = some 0 := by
    unfold AStarNodes.label AStarNodes.new
    dsimp only
    rw [Function.update_self]
    rfl
  constructor
  · intro other present
    obtain ⟨entry, is⟩ := isSome_iff_exists.mp present
    rw [(table other entry is).1]
    exact List.mem_singleton_self _
  · constructor
    · exact label
    · intro other total known
      obtain ⟨entry, is, rfl⟩ := map_eq_some_iff.mp known
      obtain ⟨rfl, rfl⟩ := table other entry is
      exact Way.start
    · rintro other next total ⟨entry, is, isClosed⟩ _ _
      obtain ⟨_, rfl⟩ := table other entry is
      exact absurd isClosed.symm Bool.false_ne_true
  · intro other next early late is isClosed _ _
    obtain ⟨_, rfl⟩ := table other early is
    exact absurd isClosed.symm Bool.false_ne_true
  · intro other entry is _
    obtain ⟨_, rfl⟩ := table other entry is
    exact le_rfl
  · intro other entry parent is child
    obtain ⟨_, rfl⟩ := table other entry is
    exact absurd child.symm (some_ne_none parent)

/-- A pass with room for the new nodes. -/
theorem sound_pass {state next : Search} (diagonal : query.fpp.allowDiagonal = true) (sound : Sound query state.nodes)
    (inland : Inland query state pos) (taken : takes query state = some (pos, node))
    (ran : pass query state pos node = some (next, false)) : Sound query next.nodes := by
  obtain ⟨best, there⟩ := takes_eq taken
  obtain ⟨now, visits, is⟩ := pass_eq ran
  rw [diagonal] at visits
  obtain ⟨visited, reached⟩ :=
    visitAll_visited sound.known (sound.nonneg there) inland (neighbors_all true pos node.parent) visits
  rw [is]
  exact sound.close best there visited reached

/-- As long as there is room for new nodes and no node that is taken has a walkable neighbour across the edge of the
coordinates, the value of every node that is taken is what the cheapest way to it costs. -/
theorem taken_cheapest (diagonal : query.fpp.allowDiagonal = true) {state : Search}
    (reached : (search query).Reachable (Inland query) state) {pos : Position} {node : AStarNode}
    (taken : takes query state = some (pos, node)) :
    Cheapest (Edge query) (stepCost query) (start query) pos node.f := by
  have invariant : (search query).Invariant (Inland query) fun state => Sound query state.nodes := by
    constructor
    · rintro state rfl
      exact sound_new query
    · rintro state pos next sound inland ⟨node, taken, ran⟩
      exact sound_pass diagonal sound inland taken ran
  obtain ⟨best, there⟩ := takes_eq taken
  exact (invariant.reachable reached).cheapest best there

end

instance (pos next : Position) : Decidable (Adjacent pos next) :=
  inferInstanceAs (Decidable (∃ offset ∈ allNeighbors, next = offsetBy pos offset ∧ (next.x : Int) = pos.x + offset.1 ∧
    (next.y : Int) = pos.y + offset.2))

instance (query : Query) (pos : Position) : Decidable (Allowed query pos) :=
  inferInstanceAs (Decidable (inLimits query pos = true ∧ query.walker.canWalkTo query.useCacheMap pos = true))

/-- What the second pass takes, and whether there was room in the first. -/
def second (query : Query) : Option (Bool × Position × Int) := do
  let state : Search := { nodes := AStarNodes.new (start query), found := none, bestMatch := 0 }
  let first ← takes query state
  let after ← pass query state first.1 first.2
  let next ← takes query after.1
  return (first.1 = start query ∧ ¬ after.2, next.1, next.2.f)

theorem second_reached {allow : Search → Position → Prop} {f : Int} (is : second query = some (true, pos, f))
    (allowed : ∀ state, allow state (start query)) :
    ∃ state node, (search query).Reachable allow state ∧ takes query state = some (pos, node) ∧ node.f = f := by
  unfold second at is
  obtain ⟨first, taken, is⟩ := bind_eq_some_iff.mp is
  obtain ⟨⟨after, full⟩, ran, is⟩ := bind_eq_some_iff.mp is
  obtain ⟨next, then_taken, is⟩ := bind_eq_some_iff.mp is
  rw [Option.pure_def, some.injEq, Prod.mk.injEq, Prod.mk.injEq, decide_eq_true_eq, Bool.not_eq_true] at is
  obtain ⟨⟨began, rfl⟩, rfl, rfl⟩ := is
  refine ⟨after, next.2, ?_, then_taken, rfl⟩
  apply System.Reachable.step (System.Reachable.init rfl) (allowed _)
  exact ⟨first.2, began ▸ taken, began ▸ ran⟩

/-- A creature on one of two tiles. -/
def pair (first second : Position) : Query where
  walker :=
    { position := first
      footing := { tile := fun pos => pos = first ∨ pos = second, queryAdd := fun _ => true } }
  useCacheMap := false
  obstacles :=
    { getTopVisibleCreature := fun _ => false
      getFieldItem := fun _ => none
      isImmune := fun _ => false
      hasCondition := fun _ => false
      monster := none }
  pathCondition := { call := fun _ _ bestMatch => (false, bestMatch), isInRange := fun _ _ => true }
  fpp := {}

/-- The second tile is a step to the east. -/
theorem taken_cheapest_east : Cheapest (Edge (pair ⟨100, 100, 7⟩ ⟨101, 100, 7⟩)) (stepCost (pair ⟨100, 100, 7⟩ ⟨101, 100, 7⟩))
    ⟨100, 100, 7⟩ ⟨101, 100, 7⟩ 10 := by
  have inland : ∀ state, Inland (pair ⟨100, 100, 7⟩ ⟨101, 100, 7⟩) state ⟨100, 100, 7⟩ := by
    intro state
    unfold Inland
    decide
  have taken : second (pair ⟨100, 100, 7⟩ ⟨101, 100, 7⟩) = some (true, ⟨101, 100, 7⟩, 10) := by decide +kernel
  obtain ⟨state, node, reached, taken, is⟩ := second_reached taken inland
  rw [← is]
  exact taken_cheapest rfl reached taken

/-- The second tile is across the edge of the coordinates, and is taken with the cost of a step though there is no way to it. -/
theorem across_taken : ¬ ∀ state pos node,
    (search (pair ⟨0, 0, 7⟩ ⟨65535, 0, 7⟩)).Reachable (fun _ _ => True) state →
      takes (pair ⟨0, 0, 7⟩ ⟨65535, 0, 7⟩) state = some (pos, node) →
        Cheapest (Edge (pair ⟨0, 0, 7⟩ ⟨65535, 0, 7⟩)) (stepCost (pair ⟨0, 0, 7⟩ ⟨65535, 0, 7⟩)) ⟨0, 0, 7⟩ pos node.f := by
  intro always
  have taken : second (pair ⟨0, 0, 7⟩ ⟨65535, 0, 7⟩) = some (true, ⟨65535, 0, 7⟩, 10) := by decide +kernel
  have reached : ∃ state node, (search (pair ⟨0, 0, 7⟩ ⟨65535, 0, 7⟩)).Reachable (fun _ _ => True) state ∧
      takes (pair ⟨0, 0, 7⟩ ⟨65535, 0, 7⟩) state = some (⟨65535, 0, 7⟩, node) ∧ node.f = 10 :=
    second_reached taken fun _ => trivial
  obtain ⟨state, node, reached, taken, _⟩ := reached
  have blocked : ∀ offset ∈ allNeighbors, ¬ (Adjacent ⟨0, 0, 7⟩ (offsetBy ⟨0, 0, 7⟩ offset) ∧
      Allowed (pair ⟨0, 0, 7⟩ ⟨65535, 0, 7⟩) (offsetBy ⟨0, 0, 7⟩ offset)) := by decide
  -- no way leaves the start
  have stays (pos : Position) (total : Int) (way : Way (Edge (pair ⟨0, 0, 7⟩ ⟨65535, 0, 7⟩))
      (stepCost (pair ⟨0, 0, 7⟩ ⟨65535, 0, 7⟩)) ⟨0, 0, 7⟩ pos total) : pos = ⟨0, 0, 7⟩ := by
    induction way with
    | start => rfl
    | step before edge ih =>
      subst ih
      have ⟨⟨offset, mem, is, _⟩, _⟩ := edge
      exact absurd (is ▸ edge) (blocked offset mem)
  have ends := stays _ _ (always state _ node reached taken).1
  exact absurd ends (by decide)

end Styller.PathFinding
