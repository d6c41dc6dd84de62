import Mathlib.Data.List.Perm.Subperm
import Styller.Map.PathWalkable

/-! Where diagonal steps are forbidden, only the first step from the start can be diagonal. -/

namespace Styller.PathFinding

open Library List Option

/-- `DIRECTION_DIAGONAL_MASK` -/
def Direction.isDiagonal : Direction → Bool
  | .southwest | .southeast | .northwest | .northeast => true
  | .north | .east | .south | .west => false

def corners : List (Int × Int) := [(-1, -1), (1, -1), (1, 1), (-1, 1)]

/-- An offset that is as far in coordinates. -/
def Straight (pos : Position) (offset : Int × Int) : Prop :=
  ((offsetBy pos offset).x : Int) = pos.x + offset.1 ∧ ((offsetBy pos offset).y : Int) = pos.y + offset.2

section

variable (query : Query)

/-- The search may go there, and the tile costs nothing more. -/
def Free (pos : Position) : Prop := Allowed query pos ∧ getTileWalkCost query.obstacles pos = 0

/-- At every corner of the start that the search may go to, one of the two tiles beside it and the start is free. -/
def Rounded : Prop :=
  ∀ offset ∈ corners, Straight (start query) offset → Allowed query (offsetBy (start query) offset) →
    Free query (offsetBy (start query) (offset.1, 0)) ∨ Free query (offsetBy (start query) (0, offset.2))

/-- A node is not at a corner of its parent if this is the start. -/
def Square (pos : Position) (parent : Option Position) : Prop :=
  parent = some (start query) → ∀ offset ∈ corners, pos = offsetBy (start query) offset → ¬ Straight (start query) offset

end

variable {query : Query} {pos next parent other : Position} {nodes now : AStarNodes} {node : AStarNode}

theorem directionOver_diagonal {dx dy : Int} {direction : Direction} (via : directionOver dx dy = some direction)
    (diagonal : direction.isDiagonal = true) : (dx = 1 ∨ dx = -1) ∧ (dy = 1 ∨ dy = -1) := by
  unfold directionOver at via
  split_ifs at via with first second third fourth
  · exact ⟨.inl first.1, .inl first.2⟩
  · exact ⟨.inr second.1, .inl second.2⟩
  · exact ⟨.inl third.1, .inr third.2⟩
  · exact ⟨.inr fourth.1, .inr fourth.2⟩
  all_goals
    rw [some.injEq] at via
    subst via
    exact absurd diagonal Bool.false_ne_true

theorem toUInt16_step {coordinate : Nat} {by_ : Int} (lower : -1 ≤ by_) (upper : by_ ≤ 1)
    (differs : (coordinate : Int) - Walker.toUInt16 (coordinate + by_) = 1 ∨ (coordinate : Int) - Walker.toUInt16 (coordinate + by_) = -1) :
    (Walker.toUInt16 (coordinate + by_) : Int) = coordinate + by_ ∧ by_ ≠ 0 := by
  unfold Walker.toUInt16 at differs ⊢
  omega

theorem allNeighbors_range : ∀ offset ∈ allNeighbors, (-1 ≤ offset.1 ∧ offset.1 ≤ 1) ∧ (-1 ≤ offset.2 ∧ offset.2 ≤ 1) := by
  decide

theorem corners_of : ∀ offset ∈ allNeighbors, offset.1 ≠ 0 → offset.2 ≠ 0 → offset ∈ corners := by
  decide

theorem corners_all : ∀ offset ∈ corners, offset ∈ allNeighbors ∧ (offset.1 = 1 ∨ offset.1 = -1) ∧ (offset.2 = 1 ∨ offset.2 = -1) ∧
    (offset.1, (0 : Int)) ∈ allNeighbors ∧ ((0 : Int), offset.2) ∈ allNeighbors := by
  decide

theorem corner_of_diagonal {offset : Int × Int} (mem : offset ∈ allNeighbors) {direction : Direction}
    (via : directionOver ((pos.x : Int) - (offsetBy pos offset).x) ((pos.y : Int) - (offsetBy pos offset).y) = some direction)
    (diagonal : direction.isDiagonal = true) : offset ∈ corners ∧ Straight pos offset := by
  obtain ⟨dx, dy⟩ := directionOver_diagonal via diagonal
  obtain ⟨⟨lowX, highX⟩, lowY, highY⟩ := allNeighbors_range offset mem
  obtain ⟨x, someX⟩ := toUInt16_step lowX highX dx
  obtain ⟨y, someY⟩ := toUInt16_step lowY highY dy
  exact ⟨corners_of offset mem someX someY, x, y⟩

/-- Where diagonal steps are forbidden, none leads from a node with a parent. -/
theorem neighbors_straight (pos parent : Position) : ∀ offset ∈ neighbors false pos (some parent), offset ∉ corners := by
  intro offset mem
  unfold neighbors at mem
  have listed (direction : Direction) (which : direction = .north ∨ direction = .south ∨ direction = .east ∨ direction = .west) :
      ∀ offset ∈ (dirNeighbors direction).take 3, offset ∉ corners := by
    rcases which with rfl | rfl | rfl | rfl <;> decide
  apply listed _ ?_ offset mem
  unfold directionOf
  split_ifs <;> simp_all

/-- The way back has no diagonal step. -/
theorem walkBack_straight (forbidden : query.fpp.allowDiagonal = false) (linked : Linked query (Square query) nodes) {fuel : Nat}
    {dirList : List Direction} (there : nodes.nodeTable pos = some node) (square : Square query pos node.parent)
    (walks : walkBack nodes fuel pos = some dirList) : ∀ direction ∈ dirList, direction.isDiagonal = false := by
  induction fuel generalizing pos node dirList with
  | zero => exact absurd walks.symm (some_ne_none dirList)
  | succ fuel ih =>
    unfold walkBack at walks
    rw [there, bind_some] at walks
    cases child : node.parent with
    | none =>
      rw [child, some.injEq] at walks
      subst walks
      exact fun direction mem => absurd mem not_mem_nil
    | some parent =>
      rw [child] at walks square
      obtain ⟨before, rest, rfl⟩ := map_eq_some_iff.mp walks
      obtain ⟨first, first_is, isClosed, ⟨⟨offset, mem, rfl⟩, _⟩, _⟩ := linked.parents pos node parent there child
      intro direction listed
      rcases mem_append.mp listed with here | earlier
      · have via := mem_toList.mp here
        by_contra diagonal
        obtain ⟨corner, straight⟩ := corner_of_diagonal (neighbors_all _ _ _ offset mem) via (Bool.eq_true_of_not_eq_false diagonal)
        cases grand : first.parent with
        | none =>
          have begins := (linked.root parent first first_is grand).1
          subst begins
          exact square rfl offset corner rfl straight
        | some grandparent =>
          rw [grand, forbidden] at mem
          exact neighbors_straight parent grandparent offset mem corner
      · exact ih first_is (linked.closed parent first first_is isClosed) rest direction earlier

theorem mapWalkCost_corner {offset : Int × Int} (corner : offset ∈ corners) (straight : Straight pos offset) :
    getMapWalkCost pos (offsetBy pos offset) = 25 := by
  obtain ⟨_, x, y, _⟩ := corners_all offset corner
  unfold getMapWalkCost
  rw [if_pos]
  · rfl
  · rw [straight.1, straight.2]
    omega

/-- A corner as two steps to sides. -/
def Halves (offset side rest : Int × Int) : Prop :=
  side = (offset.1, 0) ∧ rest = (0, offset.2) ∨ side = (0, offset.2) ∧ rest = (offset.1, 0)

theorem Halves.all {offset side rest : Int × Int} (halves : Halves offset side rest) (corner : offset ∈ corners) :
    side ∈ allNeighbors := by
  obtain ⟨_, _, _, across, down⟩ := corners_all offset corner
  rcases halves with ⟨rfl, _⟩ | ⟨rfl, _⟩
  · exact across
  · exact down

theorem Halves.sum {offset side rest : Int × Int} (halves : Halves offset side rest) (pos : Position) :
    offsetBy (offsetBy pos side) rest = offsetBy pos offset := by
  unfold offsetBy Walker.toUInt16
  rcases halves with ⟨rfl, rfl⟩ | ⟨rfl, rfl⟩
  · simp only [Position.mk.injEq, and_true]
    constructor <;> omega
  · simp only [Position.mk.injEq, and_true]
    constructor <;> omega

theorem Halves.first {offset side rest : Int × Int} (halves : Halves offset side rest) (corner : offset ∈ corners)
    (straight : Straight pos offset) : getMapWalkCost pos (offsetBy pos side) = 10 := by
  obtain ⟨_, x, y, _⟩ := corners_all offset corner
  obtain ⟨alongX, alongY⟩ := straight
  unfold getMapWalkCost
  rw [if_neg]
  · rfl
  · unfold offsetBy Walker.toUInt16 at *
    dsimp only at *
    rcases halves with ⟨rfl, _⟩ | ⟨rfl, _⟩
    · dsimp only
      omega
    · dsimp only
      omega

theorem Halves.second {offset side rest : Int × Int} (halves : Halves offset side rest) (corner : offset ∈ corners)
    (pos : Position) : getMapWalkCost (offsetBy pos side) (offsetBy pos offset) = 10 := by
  obtain ⟨_, x, y, _⟩ := corners_all offset corner
  unfold getMapWalkCost
  rw [if_neg]
  · rfl
  · unfold offsetBy Walker.toUInt16
    rcases halves with ⟨rfl, _⟩ | ⟨rfl, _⟩
    · dsimp only
      omega
    · dsimp only
      omega

theorem Halves.apart {offset side rest : Int × Int} (halves : Halves offset side rest) (corner : offset ∈ corners)
    (straight : Straight pos offset) : offsetBy pos side ≠ pos := by
  intro same
  obtain ⟨_, x, y, _⟩ := corners_all offset corner
  obtain ⟨alongX, alongY⟩ := straight
  have sameX := congrArg (fun pos => (pos.x : Int)) same
  have sameY := congrArg (fun pos => (pos.y : Int)) same
  unfold offsetBy Walker.toUInt16 at *
  dsimp only at *
  rcases halves with ⟨rfl, _⟩ | ⟨rfl, _⟩
  · dsimp only at *
    omega
  · dsimp only at *
    omega

theorem looks_down (dx : Int) {step : Int} (one : step = 1 ∨ step = -1) : (0, step) ∈ (dirNeighbors (directionOf false (dx, 0))).take 3 := by
  unfold directionOf
  rw [if_pos rfl]
  split
  · rcases one with rfl | rfl <;> decide
  · rcases one with rfl | rfl <;> decide

theorem looks_across (dx : Int) {dy step : Int} (some : dy ≠ 0) (one : step = 1 ∨ step = -1) :
    (step, 0) ∈ (dirNeighbors (directionOf false (dx, dy))).take 3 := by
  unfold directionOf
  rw [if_neg some, if_pos (.inl rfl)]
  split
  · rcases one with rfl | rfl <;> decide
  · rcases one with rfl | rfl <;> decide

theorem Halves.looks {offset side rest : Int × Int} (halves : Halves offset side rest) (corner : offset ∈ corners)
    (straight : Straight pos offset) : rest ∈ neighbors false (offsetBy pos side) (some pos) := by
  obtain ⟨_, x, y, _⟩ := corners_all offset corner
  obtain ⟨_, alongY⟩ := straight
  show rest ∈ (dirNeighbors (directionOf false
    ((pos.x : Int) - (offsetBy pos side).x, (pos.y : Int) - (offsetBy pos side).y))).take 3
  rcases halves with ⟨rfl, rfl⟩ | ⟨rfl, rfl⟩
  · by_cases level : (pos.y : Int) - (offsetBy pos (offset.1, 0)).y = 0
    · rw [level]
      exact looks_down _ y
    · -- a coordinate that is no word: only a step up stays in words
      have up : offset.2 = -1 ∧ (pos.y : Int) - (offsetBy pos (offset.1, 0)).y ≠ -1 := by
        unfold offsetBy Walker.toUInt16 at *
        dsimp only at *
        omega
      unfold directionOf
      rw [if_neg level, if_pos (.inl rfl), if_neg up.2, up.1]
      decide
  · apply looks_across _ ?_ x
    unfold offsetBy Walker.toUInt16
    dsimp only
    omega

section

/-- The nodes at a corner and at a side of the start: once the side has been taken, the corner has a way over it. -/
def CutAt (query : Query) (nodes : AStarNodes) (offset side : Int × Int) : Prop :=
  ∃ far near, nodes.nodeTable (offsetBy (start query) offset) = some far ∧
    nodes.nodeTable (offsetBy (start query) side) = some near ∧ near.f ≤ 10 ∧
      (near.isOpen = false → far.f ≤ 20 + getTileWalkCost query.obstacles (offsetBy (start query) offset))

/-- Nothing has been taken yet, or every corner that the search may go to is cut. -/
def Cut (query : Query) (nodes : AStarNodes) : Prop :=
  nodes = AStarNodes.new (start query) ∨ ∀ offset ∈ corners, Straight (start query) offset →
    Allowed query (offsetBy (start query) offset) → ∃ side rest, Halves offset side rest ∧ CutAt query nodes offset side

variable {taken : Position → Option Position → Prop}

theorem Linked.near (linked : Linked query taken nodes) (there : nodes.nodeTable pos = some node) (cheap : node.f ≤ 10) :
    node.parent = none ∧ pos = start query ∨ node.parent = some (start query) := by
  cases child : node.parent with
  | none => exact .inl ⟨rfl, (linked.root pos node there child).1⟩
  | some parent =>
    obtain ⟨first, first_is, _, _, through⟩ := linked.parents pos node parent there child
    have bottom := linked.nonneg parent first first_is
    have more (pos next : Position) : 10 ≤ stepCost query pos next := by
      have tile := tileWalkCost_nonneg query.obstacles next
      unfold stepCost
      rcases mapWalkCost_cases pos next with is | is <;> omega
    have least := more parent pos
    cases grand : first.parent with
    | none => rw [(linked.root parent first first_is grand).1]; exact .inr rfl
    | some grandparent =>
      obtain ⟨second, second_is, _, _, beyond⟩ := linked.parents parent first grandparent first_is grand
      have lower := linked.nonneg grandparent second second_is
      have again := more grandparent parent
      omega

/-- While only the start and nodes a step from it have been taken, there are few nodes. -/
theorem Linked.length_near (linked : Linked query taken nodes)
    (near : ∀ pos node, nodes.nodeTable pos = some node → node.isOpen = false → node.f ≤ 10) : nodes.nodes.length ≤ 73 := by
  have within : nodes.nodes ⊆ start query :: (allNeighbors.map (offsetBy (start query)) ++
      allNeighbors.flatMap fun offset => allNeighbors.map (offsetBy (offsetBy (start query) offset))) := by
    intro pos mem
    have step (pos parent : Position) (node : AStarNode) (there : nodes.nodeTable pos = some node) (child : node.parent = some parent) :
        pos ∈ allNeighbors.map (offsetBy parent) ∧ ∃ first, nodes.nodeTable parent = some first ∧ first.isOpen = false := by
      obtain ⟨first, first_is, isClosed, ⟨⟨offset, mem, rfl⟩, _⟩, _⟩ := linked.parents pos node parent there child
      exact ⟨mem_map_of_mem (neighbors_all _ _ _ offset mem), first, first_is, isClosed⟩
    obtain ⟨node, there⟩ := isSome_iff_exists.mp (linked.tabled.present pos mem)
    cases child : node.parent with
    | none =>
      rw [(linked.root pos node there child).1]
      exact mem_cons_self
    | some parent =>
      obtain ⟨beside, first, first_is, isClosed⟩ := step pos parent node there child
      apply mem_cons_of_mem
      rcases linked.near first_is (near parent first first_is isClosed) with ⟨_, begins⟩ | grand
      · subst begins
        exact mem_append_left _ beside
      · obtain ⟨between, _⟩ := step parent (start query) first first_is grand
        obtain ⟨offset, mem, rfl⟩ := mem_map.mp between
        exact mem_append_right _ (mem_flatMap.mpr ⟨offset, mem, beside⟩)
  exact (subperm_of_subset linked.tabled.nodup within).length_le

variable {search after : Search} {full : Bool}

theorem table_new (there : (AStarNodes.new (start query)).nodeTable pos = some node) : pos = start query ∧ node.parent = none ∧ node.f = 0 := by
  unfold AStarNodes.new at there
  dsimp only at there
  by_cases same : pos = start query
  · rw [same, Function.update_self, some.injEq] at there
    exact ⟨same, there ▸ rfl, there ▸ rfl⟩
  · rw [Function.update_of_ne same] at there
    exact absurd there.symm (some_ne_none node)

theorem neighbors_length (allowDiagonal : Bool) (pos : Position) (parent : Option Position) :
    (neighbors allowDiagonal pos parent).length ≤ 8 := by
  cases parent with
  | none => exact le_rfl
  | some parent =>
    apply le_trans (length_take_le ..)
    split
    · decide
    · decide

/-- A value after the node that was taken is closed. -/
theorem closeNode_value {first : AStarNode} (here : nodes.nodeTable pos = some node) (is : nodes.nodeTable other = some first) :
    ∃ later, (nodes.closeNode pos).nodeTable other = some later ∧ later.f = first.f := by
  rw [closeNode_table here]
  by_cases same : other = pos
  · rw [same, here, some.injEq] at is
    rw [if_pos same]
    exact ⟨_, rfl, is ▸ rfl⟩
  · rw [if_neg same]
    exact ⟨first, is, rfl⟩

theorem cut_first (rounded : Rounded query) (first : search.nodes = AStarNodes.new (start query))
    (linked : Linked query taken search.nodes) (takes_is : takes query search = some (pos, node))
    (ran : pass query search pos node = some (after, full)) : Cut query after.nodes := by
  obtain ⟨_, there⟩ := takes_eq takes_is
  obtain ⟨now, visits, is⟩ := pass_eq ran
  obtain ⟨looked, room, reached⟩ := visitAll_looked linked.known (linked.nonneg pos node there) visits
  have here := looked.stays there le_rfl
  obtain ⟨begins, root, zero⟩ := table_new (first ▸ there)
  have empty : full = false := by
    apply Bool.eq_false_of_not_eq_true
    intro isFull
    have size := looked.size
    have eight := neighbors_length query.fpp.allowDiagonal pos node.parent
    have one : search.nodes.nodes.length = 1 := congrArg (fun nodes => nodes.nodes.length) first
    have many := room isFull
    unfold maxNodes at many
    omega
  rw [root] at reached
  have reaches := reached empty
  rw [begins] at reaches
  right
  intro offset corner straight allowed
  have cuts (side rest : Int × Int) (halves : Halves offset side rest) (free : Free query (offsetBy (start query) side)) :
      ∃ side rest, Halves offset side rest ∧ CutAt query after.nodes offset side := by
    obtain ⟨far, far_is, _⟩ := reaches offset (corners_all offset corner).1 allowed
    obtain ⟨near, near_is, cheap⟩ := reaches side (halves.all corner) free.1
    obtain ⟨far_after, far_there, _⟩ := closeNode_value here far_is
    obtain ⟨near_after, near_there, same⟩ := closeNode_value here near_is
    refine ⟨side, rest, halves, far_after, near_after, is ▸ far_there, is ▸ near_there, ?_, ?_⟩
    · unfold stepCost at cheap
      rw [halves.first corner straight, free.2] at cheap
      omega
    · intro isClosed
      rcases looked.entry there near_there with ⟨same, _⟩ | ⟨_, before⟩ | ⟨_, opened⟩
      · exact absurd (same.trans begins) (halves.apart corner straight)
      · exact absurd (table_new (first ▸ before)).1 (halves.apart corner straight)
      · rw [opened] at isClosed
        exact absurd isClosed.symm Bool.false_ne_true
  rcases rounded offset corner straight allowed with across | down
  · exact cuts (offset.1, 0) (0, offset.2) (.inl ⟨rfl, rfl⟩) across
  · exact cuts (0, offset.2) (offset.1, 0) (.inr ⟨rfl, rfl⟩) down

theorem cutAt_pass (forbidden : query.fpp.allowDiagonal = false) (linked : Linked query taken search.nodes)
    (takes_is : takes query search = some (pos, node)) (ran : pass query search pos node = some (after, full))
    {offset side rest : Int × Int} (halves : Halves offset side rest) (corner : offset ∈ corners)
    (straight : Straight (start query) offset) (allowed : Allowed query (offsetBy (start query) offset))
    (cut : CutAt query search.nodes offset side) : CutAt query after.nodes offset side := by
  obtain ⟨best, there⟩ := takes_eq takes_is
  obtain ⟨now, visits, is⟩ := pass_eq ran
  obtain ⟨looked, room, reached⟩ := visitAll_looked linked.known (linked.nonneg pos node there) visits
  have here := looked.stays there le_rfl
  obtain ⟨isOpen, _⟩ := getBestNode_least linked.tabled.listed best there
  obtain ⟨far, near, far_is, near_is, cheap, via⟩ := cut
  obtain ⟨far_now, far_then, far_lower⟩ := looked.lower far_is
  obtain ⟨near_now, near_then, near_lower⟩ := looked.lower near_is
  obtain ⟨far_after, far_there, far_same⟩ := closeNode_value here far_then
  obtain ⟨near_after, near_there, near_same⟩ := closeNode_value here near_then
  refine ⟨far_after, near_after, is ▸ far_there, is ▸ near_there, by omega, ?_⟩
  intro isClosed
  rcases looked.entry there near_there with ⟨taken_is, _⟩ | ⟨_, before⟩ | ⟨_, opened⟩
  · have same : node = near := by
      rw [taken_is, there, some.injEq] at near_is
      exact near_is
    subst same
    have child : node.parent = some (start query) := by
      rcases linked.near there cheap with ⟨_, begins⟩ | child
      · exact absurd (taken_is.trans begins) (halves.apart corner straight)
      · exact child
    have few : search.nodes.nodes.length ≤ 73 := by
      apply linked.length_near
      intro early entry early_is shut
      exact le_trans (linked.below early pos entry node early_is shut there isOpen) cheap
    have empty : full = false := by
      apply Bool.eq_false_of_not_eq_true
      intro isFull
      have size := looked.size
      have eight := neighbors_length query.fpp.allowDiagonal pos node.parent
      have many := room isFull
      unfold maxNodes at many
      omega
    have looks : rest ∈ neighbors query.fpp.allowDiagonal pos node.parent := by
      rw [forbidden, child, ← taken_is]
      exact halves.looks corner straight
    have sum : offsetBy pos rest = offsetBy (start query) offset := by
      rw [← taken_is]
      exact halves.sum (start query)
    obtain ⟨entry, entry_is, through⟩ := reached empty rest looks (sum ▸ allowed)
    rw [sum, far_then, some.injEq] at entry_is
    subst entry_is
    rw [sum] at through
    unfold stepCost at through
    rw [← taken_is, halves.second corner (start query)] at through
    omega
  · rw [near_is, some.injEq] at before
    have already := via (before ▸ isClosed)
    omega
  · rw [opened] at isClosed
    exact absurd isClosed.symm Bool.false_ne_true

theorem cut_reached (forbidden : query.fpp.allowDiagonal = false) (rounded : Rounded query)
    (reached : (passes query).Reachable (fun _ _ => True) search) : Cut query search.nodes := by
  induction reached with
  | init initial => exact .inl (congrArg Search.nodes initial)
  | step before _ step ih =>
    obtain ⟨node, full, takes_is, ran⟩ := step
    have linked := linked_reached before
    rcases ih with first | later
    · exact cut_first rounded first linked takes_is ran
    · right
      intro offset corner straight allowed
      obtain ⟨side, rest, halves, cut⟩ := later offset corner straight allowed
      exact ⟨side, rest, halves, cutAt_pass forbidden linked takes_is ran halves corner straight allowed cut⟩

/-- A corner is never taken from the start: the way over the side is cheaper. -/
theorem Cut.square (cut : Cut query search.nodes) (linked : Linked query taken search.nodes)
    (takes_is : takes query search = some (pos, node)) : Square query pos node.parent := by
  obtain ⟨best, there⟩ := takes_eq takes_is
  obtain ⟨_, least⟩ := getBestNode_least linked.tabled.listed best there
  rintro child offset corner rfl straight
  obtain ⟨first, first_is, _, step, through⟩ := linked.parents _ node (start query) there child
  have bottom := linked.nonneg (start query) first first_is
  have tile := tileWalkCost_nonneg query.obstacles (offsetBy (start query) offset)
  unfold stepCost at through
  rw [mapWalkCost_corner corner straight] at through
  rcases cut with new | later
  · have root := (table_new (new ▸ there)).2.1
    rw [child] at root
    exact some_ne_none _ root
  · obtain ⟨side, rest, halves, far, near, far_is, near_is, cheap, via⟩ := later offset corner straight step.2
    rw [there, some.injEq] at far_is
    subst far_is
    cases isOpen : near.isOpen with
    | true =>
      have below := least _ near near_is isOpen
      omega
    | false =>
      have already := via isOpen
      omega

/-- Where the start already matches, the search returns no directions. -/
theorem getPathMatching_here (matched : query.pathCondition.call (start query) (start query) 0 = (true, 0)) (passes : Nat) :
    getPathMatching query (passes + 1) = some (some []) := by
  have best : takes query (initial query) = some (start query, { parent := none, f := 0, isOpen := true }) := by
    unfold takes initial AStarNodes.new AStarNodes.getBestNode
    simp [AStarNodes.better]
  have ends : pass query (initial query) (start query) { parent := none, f := 0, isOpen := true } = none := by
    unfold pass initial
    simp only [matched]
    exact if_pos ⟨trivial, trivial⟩
  unfold getPathMatching searchLoop
  rw [best]
  dsimp only
  rw [ends]
  simp [initial, matched, walkBack, AStarNodes.new]

/-- Where diagonal steps are forbidden, the directions have none, if the start already matches or every corner of it that the search
may go to has a free tile beside it. -/
theorem no_diagonal (query : Query) (forbidden : query.fpp.allowDiagonal = false)
    (cheap : Rounded query ∨ query.pathCondition.call (start query) (start query) 0 = (true, 0)) (dirList : List Direction)
    (returns : getPathMatching query (maxNodes + 1) = some (some dirList)) : ∀ direction ∈ dirList, direction.isDiagonal = false := by
  rcases cheap with rounded | matched
  · have meets : ∀ search pos node, Searched query (Square query) search → takes query search = some (pos, node) →
        Square query pos node.parent := by
      intro search pos node searched takes_is
      exact (cut_reached forbidden rounded searched.reached).square searched.linked takes_is
    obtain ⟨last, found, searched, ends, present⟩ := search_ends meets
    obtain ⟨result, is, walks⟩ := getPathMatching_eq searched.linked ends fun pos some => by
      obtain ⟨_, node, there, _⟩ := present pos some
      exact ⟨node, there⟩
    rw [returns, some.injEq] at is
    obtain ⟨pos, found_is, back⟩ := walks dirList is.symm
    obtain ⟨_, node, there, square⟩ := present pos found_is
    exact walkBack_straight forbidden searched.linked there square back
  · rw [getPathMatching_here matched, some.injEq, some.injEq] at returns
    rw [← returns]
    exact fun direction mem => absurd mem not_mem_nil

end

/-- A creature that may not go diagonally. -/
def straightSeeker (first second : Position) : Query := { seeker first second with fpp := { allowDiagonal := false } }

/-- The second tile is a step to the east: no corner of the start is walkable. -/
theorem no_diagonal_east : Direction.east.isDiagonal = false := by
  have rounded : Rounded (straightSeeker ⟨100, 100, 7⟩ ⟨101, 100, 7⟩) := by
    intro offset corner _ allowed
    exfalso
    obtain ⟨_, walkable⟩ := allowed
    have blocked : ∀ offset ∈ corners, (straightSeeker ⟨100, 100, 7⟩ ⟨101, 100, 7⟩).walker.canWalkTo
        (straightSeeker ⟨100, 100, 7⟩ ⟨101, 100, 7⟩).useCacheMap
        (offsetBy (start (straightSeeker ⟨100, 100, 7⟩ ⟨101, 100, 7⟩)) offset) = false := by decide +kernel
    rw [blocked offset corner] at walkable
    exact Bool.false_ne_true walkable
  have returns : getPathMatching (straightSeeker ⟨100, 100, 7⟩ ⟨101, 100, 7⟩) (maxNodes + 1) = some (some [.east]) := by decide +kernel
  exact no_diagonal (straightSeeker ⟨100, 100, 7⟩ ⟨101, 100, 7⟩) rfl (.inl rounded) [.east] returns .east (mem_singleton_self _)

/-- The second tile is at a corner of the start. -/
theorem diagonal_southeast : ¬ ∀ dirList, getPathMatching (straightSeeker ⟨100, 100, 7⟩ ⟨101, 101, 7⟩) (maxNodes + 1) = some (some dirList) →
    ∀ direction ∈ dirList, direction.isDiagonal = false := by
  intro straight
  have returns : getPathMatching (straightSeeker ⟨100, 100, 7⟩ ⟨101, 101, 7⟩) (maxNodes + 1) = some (some [.southeast]) := by
    decide +kernel
  exact absurd (straight _ returns .southeast (mem_singleton_self _)).symm Bool.false_ne_true

end Styller.PathFinding
