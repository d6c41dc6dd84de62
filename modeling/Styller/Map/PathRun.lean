import Styller.Map.PathLinks

/-! The loop of the search comes to an end: every pass closes a node for good. The parents of a node lead back to the start. -/

namespace Styller.PathFinding

open Library List Option

variable {query : Query} {pos next parent other : Position} {nodes now : AStarNodes} {node : AStarNode}
variable {taken : Position → Option Position → Prop}

/-- Between the passes of the loop, with what holds of the nodes that have been taken and of their parents. -/
structure Linked (query : Query) (taken : Position → Option Position → Prop) (nodes : AStarNodes) : Prop where
  tabled : Tabled nodes
  few : nodes.nodes.length ≤ maxNodes
  below : ∀ pos other early late, nodes.nodeTable pos = some early → early.isOpen = false →
    nodes.nodeTable other = some late → late.isOpen = true → early.f ≤ late.f
  root : ∀ pos node, nodes.nodeTable pos = some node → node.parent = none → pos = start query ∧ node.f = 0
  nonneg : ∀ pos node, nodes.nodeTable pos = some node → 0 ≤ node.f
  parents : ∀ pos node parent, nodes.nodeTable pos = some node → node.parent = some parent →
    ∃ first, nodes.nodeTable parent = some first ∧ first.isOpen = false ∧
      Steps query (neighbors query.fpp.allowDiagonal parent first.parent) parent pos ∧
      first.f + stepCost query parent pos ≤ node.f
  closed : ∀ pos node, nodes.nodeTable pos = some node → node.isOpen = false → taken pos node.parent

theorem Linked.known (linked : Linked query taken nodes) : Known query nodes := by
  intro other node there
  cases is : node.parent with
  | none => exact .inr (le_of_eq (linked.root other node there is).2)
  | some parent =>
    obtain ⟨_, _, _, step, _⟩ := linked.parents other node parent there is
    exact .inl step.2

/-- A node after a pass: the one that was taken, one as it was, or one that has got a way from there. -/
theorem Looked.entry {offsets : List (Int × Int)} (looked : Looked query pos node.f offsets nodes now)
    (there : nodes.nodeTable pos = some node) {entry : AStarNode} (is : (now.closeNode pos).nodeTable other = some entry) :
    other = pos ∧ entry = { node with isOpen := false } ∨ other ≠ pos ∧ nodes.nodeTable other = some entry ∨
      Steps query offsets pos other ∧
        entry = { parent := some pos, f := node.f + stepCost query pos other, isOpen := true } := by
  rw [closeNode_table (looked.stays there le_rfl)] at is
  by_cases same : other = pos
  · rw [if_pos same, some.injEq] at is
    exact .inl ⟨same, is.symm⟩
  · rw [if_neg same] at is
    rcases looked.change other with before | ⟨step, now_is, _⟩
    · exact .inr (.inl ⟨same, before ▸ is⟩)
    · rw [now_is, some.injEq] at is
      exact .inr (.inr ⟨step, is.symm⟩)

theorem Linked.kept (linked : Linked query taken nodes) {offsets : List (Int × Int)} (isOpen : node.isOpen = true)
    (there : nodes.nodeTable pos = some node) (looked : Looked query pos node.f offsets nodes now) {entry : AStarNode}
    (is : nodes.nodeTable other = some entry) (isClosed : entry.isOpen = false) :
    (now.closeNode pos).nodeTable other = some entry := by
  have apart : other ≠ pos := by
    intro same
    rw [same, there, some.injEq] at is
    rw [is, isClosed] at isOpen
    exact Bool.false_ne_true isOpen
  rw [closeNode_table (looked.stays there le_rfl), if_neg apart]
  exact looked.stays is (linked.below other pos entry node is isClosed there isOpen)

theorem Linked.close (linked : Linked query taken nodes) (is : nodes.getBestNode = some pos) (there : nodes.nodeTable pos = some node)
    (looked : Looked query pos node.f (neighbors query.fpp.allowDiagonal pos node.parent) nodes now)
    (meets : taken pos node.parent) : Linked query taken (now.closeNode pos) := by
  obtain ⟨isOpen, least⟩ := getBestNode_least linked.tabled.listed is there
  have here : now.nodeTable pos = some node := looked.stays there le_rfl
  have closed : (now.closeNode pos).nodeTable pos = some { node with isOpen := false } := by
    rw [closeNode_table here, if_pos rfl]
  have tabled := looked.tabled linked.tabled
  have present (other : Position) : ((now.closeNode pos).nodeTable other).isSome = (now.nodeTable other).isSome := by
    rw [closeNode_table here]
    by_cases same : other = pos
    · rw [if_pos same, same, here]
      rfl
    · rw [if_neg same]
  constructor
  · refine ⟨?_, tabled.nodup, ?_⟩
    · intro other some
      exact tabled.listed other (present other ▸ some)
    · intro other mem
      rw [present]
      exact tabled.present other mem
  · exact looked.room linked.few
  · intro one other first last one_is isClosed other_is stillOpen
    have upper : first.f ≤ node.f := by
      rcases looked.entry there one_is with ⟨_, rfl⟩ | ⟨_, before⟩ | ⟨_, rfl⟩
      · exact le_rfl
      · exact linked.below one pos first node before isClosed there isOpen
      · exact absurd isClosed.symm Bool.false_ne_true
    rcases looked.entry there other_is with ⟨_, rfl⟩ | ⟨_, before⟩ | ⟨_, rfl⟩
    · exact absurd stillOpen Bool.false_ne_true
    · exact le_trans upper (least other last before stillOpen)
    · exact le_trans upper (Int.le_add_of_nonneg_right (stepCost_nonneg query pos other))
  · intro other entry is none
    rcases looked.entry there is with ⟨rfl, rfl⟩ | ⟨_, before⟩ | ⟨_, rfl⟩
    · exact linked.root other node there none
    · exact linked.root other entry before none
    · exact absurd none (some_ne_none pos)
  · intro other entry is
    rcases looked.entry there is with ⟨rfl, rfl⟩ | ⟨_, before⟩ | ⟨_, rfl⟩
    · exact linked.nonneg other node there
    · exact linked.nonneg other entry before
    · exact Int.add_nonneg (linked.nonneg pos node there) (stepCost_nonneg query pos other)
  · have old (other : Position) (entry : AStarNode) (parent : Position) (is : nodes.nodeTable other = some entry)
        (child : entry.parent = some parent) : ∃ first, (now.closeNode pos).nodeTable parent = some first ∧
          first.isOpen = false ∧ Steps query (neighbors query.fpp.allowDiagonal parent first.parent) parent other ∧
          first.f + stepCost query parent other ≤ entry.f := by
      obtain ⟨first, first_is, isClosed, step, through⟩ := linked.parents other entry parent is child
      exact ⟨first, linked.kept isOpen there looked first_is isClosed, isClosed, step, through⟩
    intro other entry parent is child
    rcases looked.entry there is with ⟨rfl, rfl⟩ | ⟨_, before⟩ | ⟨step, rfl⟩
    · exact old other node parent there child
    · exact old other entry parent before child
    · rw [some.injEq] at child
      subst child
      exact ⟨_, closed, rfl, step, le_rfl⟩
  · intro other entry is isClosed
    rcases looked.entry there is with ⟨rfl, rfl⟩ | ⟨_, before⟩ | ⟨_, rfl⟩
    · exact meets
    · exact linked.closed other entry before isClosed
    · exact absurd isClosed.symm Bool.false_ne_true

theorem linked_new (query : Query) (taken : Position → Option Position → Prop) : Linked query taken (AStarNodes.new (start query)) := by
  have table (other : Position) (entry : AStarNode) (is : (AStarNodes.new (start query)).nodeTable other = some entry) :
      other = start query ∧ entry = { parent := none, f := 0, isOpen := true } := by
    unfold AStarNodes.new at is
    dsimp only at is
    by_cases same : other = start query
    · rw [same, Function.update_self, some.injEq] at is
      exact ⟨same, is.symm⟩
    · rw [Function.update_of_ne same] at is
      exact absurd is.symm (some_ne_none entry)
  constructor
  · refine ⟨?_, nodup_singleton _, ?_⟩
    · intro other present
      obtain ⟨entry, is⟩ := isSome_iff_exists.mp present
      rw [(table other entry is).1]
      exact mem_singleton_self _
    · intro other mem
      rw [mem_singleton.mp mem]
      unfold AStarNodes.new
      dsimp only
      rw [Function.update_self]
      rfl
  · exact (by decide : 1 ≤ maxNodes)
  · intro other next early late is isClosed _ _
    obtain ⟨_, rfl⟩ := table other early is
    exact absurd isClosed.symm Bool.false_ne_true
  · intro other entry is _
    obtain ⟨same, rfl⟩ := table other entry is
    exact ⟨same, rfl⟩
  · intro other entry is
    obtain ⟨_, rfl⟩ := table other entry is
    exact le_rfl
  · intro other entry parent is child
    obtain ⟨_, rfl⟩ := table other entry is
    exact absurd child.symm (some_ne_none parent)
  · intro other entry is isClosed
    obtain ⟨_, rfl⟩ := table other entry is
    exact absurd isClosed.symm Bool.false_ne_true

section

/-- The passes of the loop, by the nodes that they take. -/
def passes (query : Query) : System Search Position where
  init search := search = initial query
  step search pos next := ∃ node full, takes query search = some (pos, node) ∧ pass query search pos node = some (next, full)

variable {search : Search}

theorem linked_pass {full : Bool} {after : Search} (linked : Linked query taken search.nodes)
    (takes_is : takes query search = some (pos, node)) (ran : pass query search pos node = some (after, full))
    (meets : taken pos node.parent) :
    ∃ now, Looked query pos node.f (neighbors query.fpp.allowDiagonal pos node.parent) search.nodes now ∧
      after.nodes = now.closeNode pos ∧ Linked query taken after.nodes := by
  obtain ⟨best, there⟩ := takes_eq takes_is
  obtain ⟨now, visits, is⟩ := pass_eq ran
  obtain ⟨looked, _⟩ := visitAll_looked linked.known (linked.nonneg pos node there) visits
  exact ⟨now, looked, is, is ▸ linked.close best there looked meets⟩

theorem linked_reached (reached : (passes query).Reachable (fun _ _ => True) search) :
    Linked query (fun _ _ => True) search.nodes := by
  induction reached with
  | init initial =>
    rw [show _ = _ from initial]
    exact linked_new query _
  | step before _ step ih =>
    obtain ⟨node, full, takes_is, ran⟩ := step
    obtain ⟨_, _, _, linked⟩ := linked_pass ih takes_is ran trivial
    exact linked

def isClosed (nodes : AStarNodes) (pos : Position) : Bool := (nodes.nodeTable pos).any fun node => !node.isOpen

theorem isClosed_iff : isClosed nodes pos = true ↔ ∃ node, nodes.nodeTable pos = some node ∧ node.isOpen = false := by
  unfold isClosed
  cases nodes.nodeTable pos with
  | none => simp
  | some node => simp

theorem countP_lt {α : Type*} {list : List α} {first second : α → Bool} (more : ∀ x ∈ list, first x = true → second x = true)
    {x : α} (mem : x ∈ list) (new : second x = true) (old : first x = false) : list.countP first < list.countP second := by
  induction list with
  | nil => exact absurd mem not_mem_nil
  | cons head tail ih =>
    have rest : ∀ x ∈ tail, first x = true → second x = true := fun x mem => more x (mem_cons_of_mem head mem)
    have tails : tail.countP first ≤ tail.countP second := countP_mono_left rest
    rw [countP_cons, countP_cons]
    rcases mem_cons.mp mem with rfl | mem
    · rw [new, old]
      exact Nat.lt_succ_of_le tails
    · have less := ih rest mem
      cases here : first head with
      | true =>
        rw [more head mem_cons_self here]
        exact Nat.succ_lt_succ less
      | false => exact lt_of_lt_of_le less (Nat.le_add_right ..)

theorem closed_more {full : Bool} {after : Search} (linked : Linked query taken search.nodes)
    (takes_is : takes query search = some (pos, node)) (ran : pass query search pos node = some (after, full)) :
    search.nodes.nodes.countP (isClosed search.nodes) < after.nodes.nodes.countP (isClosed after.nodes) := by
  obtain ⟨best, there⟩ := takes_eq takes_is
  obtain ⟨now, visits, is⟩ := pass_eq ran
  obtain ⟨looked, _⟩ := visitAll_looked linked.known (linked.nonneg pos node there) visits
  obtain ⟨isOpen, _⟩ := getBestNode_least linked.tabled.listed best there
  rw [is]
  have less : search.nodes.nodes.countP (isClosed search.nodes) < search.nodes.nodes.countP (isClosed (now.closeNode pos)) := by
    apply countP_lt (x := pos)
    · intro other _ old
      obtain ⟨entry, there_is, shut⟩ := isClosed_iff.mp old
      exact isClosed_iff.mpr ⟨entry, linked.kept isOpen there looked there_is shut, shut⟩
    · exact linked.tabled.listed pos (by rw [there]; rfl)
    · apply isClosed_iff.mpr
      exact ⟨{ node with isOpen := false }, by rw [closeNode_table (looked.stays there le_rfl), if_pos rfl], rfl⟩
    · unfold isClosed
      rw [there]
      exact congrArg (! ·) isOpen
  exact lt_of_lt_of_le less (looked.older.sublist.countP_le)

/-- As long as the passes keep something, the loop comes to an end that it holds at. -/
theorem searchLoop_ends {holds : Search → Prop}
    (keeps : ∀ search pos node after full, holds search → takes query search = some (pos, node) →
      pass query search pos node = some (after, full) → holds after)
    (links : ∀ search, holds search → Linked query taken search.nodes) (fuel : Nat) {search : Search} (here : holds search)
    (enough : maxNodes < search.nodes.nodes.countP (isClosed search.nodes) + fuel) :
    ∃ last found, holds last ∧ searchLoop query fuel search = some (found, last.nodes) ∧
      (found = last.found ∨ ∃ pos node, takes query last = some (pos, node) ∧ found = some pos ∧
        (query.pathCondition.call (start query) pos last.bestMatch).1 = true) := by
  induction fuel generalizing search with
  | zero =>
    have counted : search.nodes.nodes.countP (isClosed search.nodes) ≤ search.nodes.nodes.length := countP_le_length
    exact absurd (le_trans counted (links search here).few) (not_le_of_gt enough)
  | succ fuel ih =>
    unfold searchLoop
    cases takes_is : takes query search with
    | none => exact ⟨search, search.found, here, rfl, .inl rfl⟩
    | some best =>
      obtain ⟨pos, node⟩ := best
      dsimp only
      cases ran : pass query search pos node with
      | some result =>
        obtain ⟨after, full⟩ := result
        have more := closed_more (links search here) takes_is ran
        exact ih (keeps search pos node after full here takes_is ran) (by omega)
      | none =>
        refine ⟨search, _, here, rfl, ?_⟩
        cases accepts : (query.pathCondition.call (start query) pos search.bestMatch).1 with
        | true => exact .inr ⟨pos, node, takes_is, rfl, accepts⟩
        | false => exact .inl rfl

end

def cheaper (nodes : AStarNodes) (f : Int) : Nat := nodes.nodes.countP fun other => (nodes.nodeTable other).any fun node => node.f < f

theorem any_iff {p : AStarNode → Bool} : (nodes.nodeTable pos).any p = true ↔ ∃ node, nodes.nodeTable pos = some node ∧ p node = true := by
  cases nodes.nodeTable pos with
  | none => simp
  | some node => simp

/-- The way back along the parents comes to an end at the start. -/
theorem walkBack_ends (linked : Linked query taken nodes) (fuel : Nat) (there : nodes.nodeTable pos = some node)
    (enough : cheaper nodes node.f < fuel) : ∃ dirList, walkBack nodes fuel pos = some dirList := by
  induction fuel generalizing pos node with
  | zero => exact absurd enough (Nat.not_lt_zero _)
  | succ fuel ih =>
    unfold walkBack
    rw [there, bind_some]
    cases child : node.parent with
    | none => exact ⟨[], rfl⟩
    | some parent =>
      obtain ⟨first, first_is, _, _, through⟩ := linked.parents pos node parent there child
      have less : first.f < node.f := lt_of_lt_of_le (Int.lt_add_of_pos_right _ (stepCost_pos query parent pos)) through
      have fewer : cheaper nodes first.f < cheaper nodes node.f := by
        apply countP_lt (x := parent)
        · intro other _ old
          obtain ⟨entry, is, lower⟩ := any_iff.mp old
          exact any_iff.mpr ⟨entry, is, decide_eq_true (lt_trans (of_decide_eq_true lower) less)⟩
        · exact linked.tabled.listed parent (by rw [first_is]; rfl)
        · exact any_iff.mpr ⟨first, first_is, decide_eq_true less⟩
        · rw [first_is]
          exact decide_eq_false (lt_irrefl _)
      obtain ⟨dirList, is⟩ := ih first_is (by omega)
      dsimp only
      rw [is]
      exact ⟨_, rfl⟩

theorem cheaper_le (nodes : AStarNodes) (f : Int) : cheaper nodes f < nodes.nodes.length + 1 :=
  Nat.lt_succ_of_le countP_le_length

end Styller.PathFinding
