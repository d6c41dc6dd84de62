import Styller.Map.PathPruning
import Styller.Map.PathRun

/-! The directions that the search returns lead over walkable tiles to where the path condition holds. -/

namespace Styller.PathFinding

open Library Option

section

variable (query : Query)

/-- Directions that lead from one position to another, over positions that `canWalkTo` accepts. -/
def Follows : Position → List Direction → Position → Prop
  | pos, [], last => pos = last
  | pos, direction :: directions, last =>
    query.walker.canWalkTo query.useCacheMap (getNextPosition direction pos) = true ∧
      Follows (getNextPosition direction pos) directions last

/-- The path condition accepts the position, with some best match. -/
def Accepted (pos : Position) : Prop := ∃ bestMatch, (query.pathCondition.call (start query) pos bestMatch).1 = true

/-- No node that the search takes has a walkable neighbour within the limits across the edge of the coordinates. -/
def StaysInland : Prop :=
  ∀ search pos node, (passes query).Reachable (fun _ _ => True) search → takes query search = some (pos, node) →
    Inland query search pos

end

variable {query : Query} {pos next last : Position} {nodes : AStarNodes} {node : AStarNode}

theorem Follows.snoc {directions : List Direction} {direction : Direction} (follows : Follows query pos directions next)
    (is : getNextPosition direction next = last) (walkable : query.walker.canWalkTo query.useCacheMap last = true) :
    Follows query pos (directions ++ [direction]) last := by
  induction directions generalizing pos with
  | nil =>
    rw [show pos = next from follows, List.nil_append]
    exact ⟨is ▸ walkable, is⟩
  | cons first rest ih => exact ⟨follows.1, ih follows.2⟩

/-- Over an offset that is as far in coordinates, the direction back is that of the step. -/
theorem directionOver_offset : ∀ offset ∈ allNeighbors, ∃ direction, directionOver (-offset.1) (-offset.2) = some direction ∧
    ∀ pos, getNextPosition direction pos = offsetBy pos offset := by
  intro offset mem
  simp only [allNeighbors, List.mem_cons, List.not_mem_nil, or_false] at mem
  rcases mem with rfl | rfl | rfl | rfl | rfl | rfl | rfl | rfl
  · exact ⟨.west, by decide, fun _ => rfl⟩
  · exact ⟨.south, by decide, fun _ => rfl⟩
  · exact ⟨.east, by decide, fun _ => rfl⟩
  · exact ⟨.north, by decide, fun _ => rfl⟩
  · exact ⟨.northwest, by decide, fun _ => rfl⟩
  · exact ⟨.northeast, by decide, fun _ => rfl⟩
  · exact ⟨.southeast, by decide, fun _ => rfl⟩
  · exact ⟨.southwest, by decide, fun _ => rfl⟩

theorem Adjacent.direction (adjacent : Adjacent pos next) :
    ∃ direction, directionOver ((pos.x : Int) - next.x) ((pos.y : Int) - next.y) = some direction ∧
      getNextPosition direction pos = next := by
  obtain ⟨offset, mem, is, x, y⟩ := adjacent
  obtain ⟨direction, via, leads⟩ := directionOver_offset offset mem
  refine ⟨direction, ?_, (leads pos).trans is.symm⟩
  rw [x, y, ← via]
  congr 1
  · omega
  · omega

/-- What holds of the nodes that are taken. -/
def InlandNode (query : Query) (pos : Position) (_ : Option Position) : Prop :=
  ∀ offset ∈ allNeighbors, Allowed query (offsetBy pos offset) → Adjacent pos (offsetBy pos offset)

/-- The way back along the parents, the other way round. -/
theorem walkBack_follows (linked : Linked query (InlandNode query) nodes) {fuel : Nat} {dirList : List Direction}
    (there : nodes.nodeTable pos = some node) (walks : walkBack nodes fuel pos = some dirList) :
    Follows query (start query) dirList.reverse pos := by
  induction fuel generalizing pos node dirList with
  | zero => exact absurd walks.symm (some_ne_none dirList)
  | succ fuel ih =>
    unfold walkBack at walks
    rw [there, bind_some] at walks
    cases child : node.parent with
    | none =>
      rw [child, some.injEq] at walks
      subst walks
      exact (linked.root pos node there child).1.symm
    | some parent =>
      rw [child] at walks
      obtain ⟨before, rest, rfl⟩ := map_eq_some_iff.mp walks
      obtain ⟨first, first_is, isClosed, ⟨⟨offset, mem, rfl⟩, allowed⟩, _⟩ := linked.parents pos node parent there child
      have adjacent := linked.closed parent first first_is isClosed offset (neighbors_all _ _ _ offset mem) allowed
      obtain ⟨direction, via, leads⟩ := adjacent.direction
      rw [via, toList_some, List.singleton_append, List.reverse_cons]
      exact (ih first_is rest).snoc leads allowed.2

/-- Between the passes of the loop, what has been found is accepted and is in the table. -/
structure Searched (query : Query) (taken : Position → Option Position → Prop) (search : Search) : Prop where
  reached : (passes query).Reachable (fun _ _ => True) search
  linked : Linked query taken search.nodes
  found : ∀ pos, search.found = some pos → Accepted query pos ∧
    ∃ node, search.nodes.nodeTable pos = some node ∧ node.isOpen = false

theorem searched_initial (query : Query) (taken : Position → Option Position → Prop) : Searched query taken (initial query) where
  reached := System.Reachable.init rfl
  linked := linked_new query taken
  found := fun pos none => absurd none.symm (some_ne_none pos)

theorem pass_found {search after : Search} {full : Bool} (ran : pass query search pos node = some (after, full)) :
    after.found = if (query.pathCondition.call (start query) pos search.bestMatch).1 then some pos else search.found := by
  unfold pass at ran
  generalize query.pathCondition.call (start query) pos search.bestMatch = answer at ran ⊢
  generalize visitAll query pos node.f search.nodes (neighbors query.fpp.allowDiagonal pos node.parent) = looked at ran
  dsimp only at ran
  split at ran
  · exact absurd ran.symm (some_ne_none _)
  · generalize is : (if answer.1 = true then some pos else search.found) = found at ran
    split at ran
    · exact absurd ran.symm (some_ne_none _)
    · rw [some.injEq, Prod.mk.injEq] at ran
      rw [← ran.1]

theorem Searched.pass {taken : Position → Option Position → Prop} {search after : Search} {full : Bool}
    (searched : Searched query taken search) (takes_is : takes query search = some (pos, node))
    (ran : pass query search pos node = some (after, full)) (meets : taken pos node.parent) : Searched query taken after := by
  obtain ⟨best, there⟩ := takes_eq takes_is
  obtain ⟨now, looked, is, linked⟩ := linked_pass searched.linked takes_is ran meets
  obtain ⟨isOpen, _⟩ := getBestNode_least searched.linked.tabled.listed best there
  refine ⟨System.Reachable.step searched.reached trivial ⟨node, full, takes_is, ran⟩, linked, ?_⟩
  intro other found
  rw [pass_found ran] at found
  split at found
  · next accepts =>
    rw [some.injEq] at found
    subst found
    refine ⟨⟨search.bestMatch, accepts⟩, { node with isOpen := false }, ?_, rfl⟩
    rw [is, closeNode_table (looked.stays there le_rfl), if_pos rfl]
  · obtain ⟨accepted, entry, present, isClosed⟩ := searched.found other found
    exact ⟨accepted, entry, is ▸ searched.linked.kept isOpen there looked present isClosed, isClosed⟩

/-- The search comes to an end within a pass for every node that there is room for, whatever the nodes that it takes have in
common. -/
theorem search_ends {taken : Position → Option Position → Prop}
    (meets : ∀ search pos node, Searched query taken search → takes query search = some (pos, node) → taken pos node.parent) :
    ∃ last found, Searched query taken last ∧ searchLoop query (maxNodes + 1) (initial query) = some (found, last.nodes) ∧
      ∀ pos, found = some pos → Accepted query pos ∧ ∃ node, last.nodes.nodeTable pos = some node ∧ taken pos node.parent := by
  have keeps : ∀ search pos node after full, Searched query taken search → takes query search = some (pos, node) →
      pass query search pos node = some (after, full) → Searched query taken after := by
    intro search pos node after full searched takes_is ran
    exact searched.pass takes_is ran (meets search pos node searched takes_is)
  obtain ⟨last, found, searched, ends, which⟩ := searchLoop_ends keeps (fun _ searched => searched.linked) (maxNodes + 1)
    (searched_initial query taken) (Nat.lt_of_lt_of_le (Nat.lt_succ_self _) (Nat.le_add_left ..))
  refine ⟨last, found, searched, ends, ?_⟩
  intro pos is
  rcases which with old | ⟨best, node, takes_is, best_is, accepts⟩
  · obtain ⟨accepted, node, there, isClosed⟩ := searched.found pos (old ▸ is)
    exact ⟨accepted, node, there, searched.linked.closed pos node there isClosed⟩
  · rw [best_is, some.injEq] at is
    subst is
    exact ⟨⟨last.bestMatch, accepts⟩, node, (takes_eq takes_is).2, meets last best node searched takes_is⟩

/-- The directions of a search, as far back as there are parents. -/
theorem getPathMatching_eq {taken : Position → Option Position → Prop} {last : Search} {found : Option Position}
    (linked : Linked query taken last.nodes)
    (ends : searchLoop query (maxNodes + 1) (initial query) = some (found, last.nodes))
    (present : ∀ pos, found = some pos → ∃ node, last.nodes.nodeTable pos = some node) :
    ∃ result, getPathMatching query (maxNodes + 1) = some result ∧ ∀ dirList, result = some dirList →
      ∃ pos, found = some pos ∧ walkBack last.nodes (last.nodes.nodes.length + 1) pos = some dirList := by
  unfold getPathMatching
  rw [ends, bind_some]
  cases found with
  | none => exact ⟨none, rfl, fun dirList none => absurd none.symm (some_ne_none dirList)⟩
  | some pos =>
    obtain ⟨node, there⟩ := present pos rfl
    obtain ⟨dirList, walks⟩ := walkBack_ends linked _ there (cheaper_le last.nodes node.f)
    dsimp only
    rw [walks]
    refine ⟨some dirList, rfl, ?_⟩
    intro other is
    rw [some.injEq] at is
    exact ⟨pos, rfl, is ▸ walks⟩

/-- A map where no position that the search may go to has one across the edge. -/
theorem staysInland_of (apart : ∀ pos, pos = start query ∨ Allowed query pos → InlandNode query pos none) : StaysInland query := by
  intro search pos node reached takes_is
  have linked := linked_reached reached
  obtain ⟨_, there⟩ := takes_eq takes_is
  apply apart
  cases child : node.parent with
  | none => exact .inl (linked.root pos node there child).1
  | some parent =>
    obtain ⟨_, _, _, step, _⟩ := linked.parents pos node parent there child
    exact .inr step.2

/-- A creature on one of two tiles that looks for the other. -/
def seeker (first second : Position) : Query :=
  { pair first second with pathCondition := { call := fun _ pos _ => (pos = second, 0), isInRange := fun _ _ => true } }

end Styller.PathFinding
