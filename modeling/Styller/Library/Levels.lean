import Mathlib.Algebra.Order.BigOperators.Group.List
import Mathlib.Algebra.Order.Group.Nat
import Mathlib.Data.List.Nodup
import Styller.Library.Rose

/-! Forests that are numbered level by level, every tree with the number of the tree it is in, and
the forests that such numbers stand for. -/

namespace Styller.Library

open Rose List

universe u v

namespace Rose

variable {α : Type u}

/-- The number of values in a tree. -/
def size : Rose α → Nat := fold (fun _ sizes => sizes.sum + 1)

theorem size_node (value : α) (children : List (Rose α)) :
    size (.node value children) = (children.map size).sum + 1 := fold_node _ _ _

theorem size_eq (tree : Rose α) : tree.size = (tree.children.map size).sum + 1 := by
  cases tree with
  | node value children => exact size_node value children

end Rose

/-- Where a tree is: at an index of the top, or in the tree of a number. -/
inductive Place (ι : Type u) where
  | root (index : ι)
  | inside (number : Nat)
  deriving DecidableEq

/-- A tree at its place, with a number of its own. -/
structure Numbered (ι : Type u) (α : Type v) where
  place : Place ι
  number : Nat
  tree : Rose α

variable {ι : Type u} {α : Type v}

/-- The trees with the numbers after one. -/
def numbered (last : Nat) : List (Place ι × Rose α) → List (Numbered ι α)
  | [] => []
  | (place, tree) :: later => ⟨place, last + 1, tree⟩ :: numbered (last + 1) later

/-- What is in a numbered tree. -/
def Numbered.inner (item : Numbered ι α) : List (Place ι × Rose α) :=
  item.tree.children.map (fun child => (.inside item.number, child))

theorem map_tree_numbered (last : Nat) (trees : List (Place ι × Rose α)) :
    (numbered last trees).map (·.tree) = trees.map (·.2) := by
  induction trees generalizing last with
  | nil => rfl
  | cons head later ih => rw [numbered, map_cons, map_cons, ih]

theorem length_numbered (last : Nat) (trees : List (Place ι × Rose α)) :
    (numbered last trees).length = trees.length := by
  have same := congrArg List.length (map_tree_numbered last trees)
  rwa [length_map, length_map] at same

theorem map_place_numbered (last : Nat) (trees : List (Place ι × Rose α)) :
    (numbered last trees).map (·.place) = trees.map (·.1) := by
  induction trees generalizing last with
  | nil => rfl
  | cons head later ih => rw [numbered, map_cons, map_cons, ih]

theorem map_number_numbered (last : Nat) (trees : List (Place ι × Rose α)) :
    (numbered last trees).map (·.number) = List.range' (last + 1) trees.length := by
  induction trees generalizing last with
  | nil => rfl
  | cons head later ih => rw [numbered, map_cons, ih, length_cons, range'_succ]

theorem nodup_numbered (last : Nat) (trees : List (Place ι × Rose α)) : ((numbered last trees).map (·.number)).Nodup := by
  rw [map_number_numbered]
  exact nodup_range'

theorem lt_number_numbered {last : Nat} {trees : List (Place ι × Rose α)} {item : Numbered ι α}
    (listed : item ∈ numbered last trees) : last < item.number ∧ item.number ≤ last + (numbered last trees).length := by
  have number := mem_map_of_mem (f := (·.number)) listed
  rw [map_number_numbered, ← length_numbered last, mem_range'_1] at number
  omega

theorem map_tree_inner (last : Nat) (item : Numbered ι α) :
    (numbered last item.inner).map (·.tree) = item.tree.children := by
  rw [map_tree_numbered, Numbered.inner, map_map]
  exact map_id _

theorem place_inner {last : Nat} {item inner : Numbered ι α} (listed : inner ∈ numbered last item.inner) :
    inner.place = .inside item.number := by
  have place := mem_map_of_mem (f := (·.place)) listed
  rw [map_place_numbered, Numbered.inner, map_map] at place
  obtain ⟨_, _, same⟩ := mem_map.mp place
  exact same.symm

section

variable (holds : α → Bool)

/-- The trees that are looked into later. -/
def holding (items : List (Numbered ι α)) : List (Numbered ι α) := items.filter (fun item => holds item.tree.value)

/-- The number of values below the trees of a queue. -/
def below (queue : List (Numbered ι α)) : Nat := (queue.map (·.tree.size)).sum

theorem below_holding_le (items : List (Numbered ι α)) : below (holding holds items) ≤ below items :=
  List.Sublist.sum_le_sum (filter_sublist.map _) (fun _ _ => Nat.zero_le _)

theorem below_inner (last : Nat) (item : Numbered ι α) : below (numbered last item.inner) + 1 = item.tree.size := by
  rw [below, Rose.size_eq, ← map_tree_inner last item, map_map]
  rfl

theorem below_next_lt (last : Nat) (item : Numbered ι α) (queue : List (Numbered ι α)) :
    below (queue ++ holding holds (numbered last item.inner)) < below (item :: queue) := by
  have less := below_holding_le holds (numbered last item.inner)
  have inner := below_inner last item
  simp only [below, map_append, sum_append, map_cons, sum_cons] at less inner ⊢
  omega

/-- What is in the trees of a queue, and then in the trees in them that are looked into. -/
def inside (last : Nat) : List (Numbered ι α) → List (Numbered ι α)
  | [] => []
  | item :: queue =>
    let inner := numbered last item.inner
    inner ++ inside (last + inner.length) (queue ++ holding holds inner)
termination_by queue => below queue
decreasing_by exact below_next_lt holds last item queue

/-- The trees of a forest, and what is in them, with the numbers after one. -/
def levels (last : Nat) (forest : List (ι × Rose α)) : List (Numbered ι α) :=
  let roots := numbered last (forest.map (fun root => (.root root.1, root.2)))
  roots ++ inside holds (last + roots.length) (holding holds roots)

variable {holds} {last : Nat} {queue : List (Numbered ι α)} {forest : List (ι × Rose α)}

theorem map_number_inside (last : Nat) (queue : List (Numbered ι α)) :
    (inside holds last queue).map (·.number) = List.range' (last + 1) (inside holds last queue).length := by
  induction last, queue using inside.induct holds with
  | case1 last => rw [inside]; rfl
  | case2 last item queue inner ih =>
    have first : inner.map (·.number) = List.range' (last + 1) inner.length := by
      rw [map_number_numbered, length_numbered]
    rw [inside, map_append, length_append, first, ih, ← range'_append_1, Nat.add_right_comm]

variable (holds) in
/-- The numbers are those that follow, in their order. -/
theorem map_number_levels (last : Nat) (forest : List (ι × Rose α)) :
    (levels holds last forest).map (·.number) = List.range' (last + 1) (levels holds last forest).length := by
  have first : ∀ trees : List (Place ι × Rose α),
      (numbered last trees).map (·.number) = List.range' (last + 1) (numbered last trees).length := by
    intro trees
    rw [map_number_numbered, length_numbered]
  rw [levels, map_append, length_append, first, map_number_inside, ← range'_append_1, Nat.add_right_comm]

theorem lt_number_inside {item : Numbered ι α} (listed : item ∈ inside holds last queue) : last < item.number := by
  have number := mem_map_of_mem (f := (·.number)) listed
  rw [map_number_inside] at number
  exact (mem_range'_1.mp number).1

/-- A tree that is found is in one of the queue, or in one that is found and looked into. -/
theorem place_of_mem_inside {item : Numbered ι α} (listed : item ∈ inside holds last queue) :
    ∃ outer, (outer ∈ queue ∨ outer ∈ inside holds last queue ∧ holds outer.tree.value = true) ∧
      item.place = .inside outer.number := by
  induction last, queue using inside.induct holds with
  | case1 last =>
    rw [inside] at listed
    exact absurd listed not_mem_nil
  | case2 last head queue inner ih =>
    rw [inside] at listed ⊢
    rcases mem_append.mp listed with listed | listed
    · exact ⟨head, .inl (mem_cons_self ..), place_inner listed⟩
    · obtain ⟨outer, found | ⟨found, looked⟩, place⟩ := ih listed
      · rcases mem_append.mp found with found | found
        · exact ⟨outer, .inl (mem_cons_of_mem _ found), place⟩
        · obtain ⟨among, looked⟩ := mem_filter.mp found
          exact ⟨outer, .inr ⟨mem_append_left _ among, looked⟩, place⟩
      · exact ⟨outer, .inr ⟨mem_append_right _ found, looked⟩, place⟩

theorem place_of_mem_levels {item : Numbered ι α} (listed : item ∈ levels holds last forest) :
    (∃ root ∈ forest, item.place = .root root.1) ∨
      ∃ outer ∈ levels holds last forest, holds outer.tree.value = true ∧ item.place = .inside outer.number := by
  rw [levels] at listed ⊢
  rcases mem_append.mp listed with listed | listed
  · have place := mem_map_of_mem (f := (·.place)) listed
    rw [map_place_numbered, map_map] at place
    obtain ⟨root, among, same⟩ := mem_map.mp place
    exact .inl ⟨root, among, same.symm⟩
  · obtain ⟨outer, found | ⟨found, looked⟩, place⟩ := place_of_mem_inside listed
    · obtain ⟨among, looked⟩ := mem_filter.mp found
      exact .inr ⟨outer, mem_append_left _ among, looked, place⟩
    · exact .inr ⟨outer, mem_append_right _ found, looked, place⟩

variable (holds) in
theorem length_add_below_holding_le (items : List (Numbered ι α)) :
    items.length + below (holding holds items) ≤ below items + (holding holds items).length := by
  induction items with
  | nil => exact Nat.le_refl _
  | cons item later ih =>
    have size := Rose.size_eq item.tree
    simp only [below, holding, filter_cons, map_cons, sum_cons, length_cons] at ih ⊢
    split_ifs
    · simp only [map_cons, sum_cons, length_cons]
      omega
    · omega

variable (holds) in
theorem length_inside_le (last : Nat) (queue : List (Numbered ι α)) :
    (inside holds last queue).length + queue.length ≤ below queue := by
  induction last, queue using inside.induct holds with
  | case1 last =>
    rw [inside]
    exact Nat.le_refl _
  | case2 last head queue inner ih =>
    have inside := below_inner last head
    have kept : inner.length + below (holding holds inner) ≤ below inner + (holding holds inner).length :=
      length_add_below_holding_le holds inner
    have both : below (queue ++ holding holds inner) = below queue + below (holding holds inner) := by
      rw [below, map_append, sum_append, below, below]
    have whole : below (head :: queue) = head.tree.size + below queue := by
      rw [below, map_cons, sum_cons, below]
    rw [Library.inside, length_append, length_cons]
    rw [both, length_append] at ih
    change inner.length + (Library.inside holds (last + inner.length) (queue ++ holding holds inner)).length + _ ≤ _
    change below inner + 1 = _ at inside
    omega

/-- No more trees are numbered than there are values. -/
theorem length_levels_le (last : Nat) (forest : List (ι × Rose α)) :
    (levels holds last forest).length ≤ (forest.map (·.2.size)).sum := by
  have sizes : below (numbered last (forest.map (fun root => (Place.root root.1, root.2)))) = (forest.map (·.2.size)).sum := by
    have trees := congrArg (fun trees => (trees.map Rose.size).sum)
      (map_tree_numbered last (forest.map (fun root => (Place.root root.1, root.2))))
    simp only [map_map] at trees
    exact trees
  have roots := length_add_below_holding_le holds (numbered last (forest.map (fun root => (Place.root root.1, root.2))))
  have inner := length_inside_le holds (last + (numbered last (forest.map (fun root => (Place.root root.1, root.2)))).length)
    (holding holds (numbered last (forest.map (fun root => (Place.root root.1, root.2)))))
  rw [levels, length_append]
  omega

theorem inside_all {property : Rose α → Prop} (down : ∀ tree, property tree → ∀ child ∈ tree.children, property child)
    (all : ∀ item ∈ queue, property item.tree) {item : Numbered ι α} (listed : item ∈ inside holds last queue) :
    property item.tree := by
  induction last, queue using inside.induct holds with
  | case1 last =>
    rw [inside] at listed
    exact absurd listed not_mem_nil
  | case2 last head queue inner ih =>
    have first : ∀ child ∈ numbered last head.inner, property child.tree := by
      intro child among
      have tree := mem_map_of_mem (f := (·.tree)) among
      rw [map_tree_inner] at tree
      exact down _ (all head (mem_cons_self ..)) _ tree
    rw [inside] at listed
    rcases mem_append.mp listed with listed | listed
    · exact first item listed
    · apply ih ?_ listed
      intro other among
      rcases mem_append.mp among with among | among
      · exact all other (mem_cons_of_mem _ among)
      · exact first other (mem_of_mem_filter among)

variable (holds last) in
theorem levels_all {property : Rose α → Prop} (down : ∀ tree, property tree → ∀ child ∈ tree.children, property child)
    (all : ∀ root ∈ forest, property root.2) {item : Numbered ι α} (listed : item ∈ levels holds last forest) :
    property item.tree := by
  have first : ∀ root ∈ numbered last (forest.map (fun root => (.root root.1, root.2))), property root.tree := by
    intro root among
    have tree := mem_map_of_mem (f := (·.tree)) among
    rw [map_tree_numbered, map_map] at tree
    obtain ⟨one, found, same⟩ := mem_map.mp tree
    exact same ▸ all one found
  rw [levels] at listed
  rcases mem_append.mp listed with listed | listed
  · exact first item listed
  · exact inside_all down (fun root among => first root (mem_of_mem_filter among)) listed

variable [DecidableEq ι]

/-- The trees of a list that are at a place. -/
def allAt (items : List (Numbered ι α)) (place : Place ι) : List (Numbered ι α) :=
  items.filter (fun item => item.place = place)

theorem mem_allAt {items : List (Numbered ι α)} {place : Place ι} {item : Numbered ι α} :
    item ∈ allAt items place ↔ item ∈ items ∧ item.place = place := by
  rw [allAt, mem_filter, decide_eq_true_eq]

theorem allAt_append (first second : List (Numbered ι α)) (place : Place ι) :
    allAt (first ++ second) place = allAt first place ++ allAt second place := filter_append ..

theorem allAt_eq_nil {items : List (Numbered ι α)} {place : Place ι} (others : ∀ item ∈ items, item.place ≠ place) :
    allAt items place = [] := by
  apply filter_eq_nil_iff.mpr
  intro item listed
  rw [decide_eq_true_eq]
  exact others item listed

theorem allAt_eq_self {items : List (Numbered ι α)} {place : Place ι} (all : ∀ item ∈ items, item.place = place) :
    allAt items place = items := by
  apply filter_eq_self.mpr
  intro item listed
  rw [decide_eq_true_eq]
  exact all item listed

theorem allAt_inside_eq_nil {number : Nat} (known : number ≤ last) (missing : number ∉ queue.map (·.number)) :
    allAt (inside holds last queue) (.inside number) = [] := by
  apply allAt_eq_nil
  intro item listed same
  obtain ⟨outer, found | ⟨found, _⟩, place⟩ := place_of_mem_inside listed
  · cases place.symm.trans same
    exact missing (mem_map_of_mem found)
  · cases place.symm.trans same
    exact absurd known (Nat.not_le_of_lt (lt_number_inside found))

theorem allAt_inner (last : Nat) (item : Numbered ι α) :
    allAt (numbered last item.inner) (.inside item.number) = numbered last item.inner :=
  allAt_eq_self (fun _ listed => place_inner listed)

theorem allAt_inner_other {item : Numbered ι α} {number : Nat} (other : number ≠ item.number) :
    allAt (numbered last item.inner) (.inside number) = [] := by
  apply allAt_eq_nil
  intro inner listed same
  cases (place_inner listed).symm.trans same
  exact other rfl

/-- The numbers of a queue are different, and none of them is still to be given. -/
structure Queued (last : Nat) (queue : List (Numbered ι α)) : Prop where
  known : ∀ item ∈ queue, item.number ≤ last
  distinct : (queue.map (·.number)).Nodup

variable (holds) in
omit [DecidableEq ι] in
theorem Queued.holding (last : Nat) (trees : List (Place ι × Rose α)) :
    Queued (last + (numbered last trees).length) (holding holds (numbered last trees)) := by
  constructor
  · intro item listed
    exact (lt_number_numbered (mem_of_mem_filter listed)).2
  · exact (nodup_numbered last trees).sublist (filter_sublist.map _)

omit [DecidableEq ι] in
theorem Queued.next {item : Numbered ι α} (queued : Queued last (item :: queue)) :
    Queued (last + (numbered last item.inner).length) (queue ++ Library.holding holds (numbered last item.inner)) := by
  have inner := Queued.holding holds last item.inner
  constructor
  · intro other listed
    rcases mem_append.mp listed with listed | listed
    · exact Nat.le_add_right_of_le (queued.known other (mem_cons_of_mem _ listed))
    · exact inner.known other listed
  · rw [map_append, nodup_append]
    refine ⟨(nodup_cons.mp queued.distinct).2, inner.distinct, ?_⟩
    rintro _ first _ second rfl
    obtain ⟨one, listed, number⟩ := mem_map.mp first
    obtain ⟨other, among, same⟩ := mem_map.mp second
    have both : one.number = other.number := number.trans same.symm
    have known := queued.known one (mem_cons_of_mem _ listed)
    have later := (lt_number_numbered (mem_of_mem_filter among)).1
    omega

theorem allAt_inside (queued : Queued last queue) {item : Numbered ι α} (listed : item ∈ queue) :
    (allAt (inside holds last queue) (.inside item.number)).map (·.tree) = item.tree.children := by
  induction last, queue using inside.induct holds with
  | case1 last => exact absurd listed not_mem_nil
  | case2 last head queue inner ih =>
    rw [inside, allAt_append, map_append]
    rcases mem_cons.mp listed with rfl | listed
    · have missing : item.number ∉ (queue ++ holding holds (numbered last item.inner)).map (·.number) := by
        rw [map_append, mem_append, not_or]
        refine ⟨(nodup_cons.mp queued.distinct).1, ?_⟩
        intro found
        have among := (filter_sublist.map _).subset found
        rw [map_number_numbered, mem_range'_1] at among
        have known := queued.known item (mem_cons_self ..)
        omega
      have known := Nat.le_add_right_of_le (k := (numbered last item.inner).length) (queued.known item (mem_cons_self ..))
      rw [allAt_inner, allAt_inside_eq_nil known missing, map_tree_inner, map_nil, append_nil]
    · have other : item.number ≠ head.number := by
        intro same
        exact (nodup_cons.mp queued.distinct).1 (mem_map.mpr ⟨item, listed, same⟩)
      rw [allAt_inner_other other, ih queued.next (mem_append_left _ listed), map_nil, nil_append]

variable (holds) in
/-- Nothing is in a tree that is not looked into. -/
def Contained (tree : Rose α) : Prop := tree.All (fun value children => holds value = false → children = [])

omit [DecidableEq ι] in
theorem contained_inner {item inner : Numbered ι α} (contained : Contained holds item.tree)
    (listed : inner ∈ numbered last item.inner) : Contained holds inner.tree := by
  have child := mem_map_of_mem (f := (·.tree)) listed
  rw [map_tree_inner] at child
  exact All.under contained _ child

theorem allAt_numbered {trees : List (Place ι × Rose α)} {item : Numbered ι α}
    (queued : Queued (last + (numbered last trees).length) (queue ++ holding holds (numbered last trees)))
    (known : ∀ item ∈ queue, item.number ≤ last) (listed : item ∈ numbered last trees) (contained : Contained holds item.tree) :
    (allAt (inside holds (last + (numbered last trees).length) (queue ++ holding holds (numbered last trees)))
      (.inside item.number)).map (·.tree) = item.tree.children := by
  have bounds := lt_number_numbered listed
  cases closed : holds item.tree.value with
  | true => exact allAt_inside queued (mem_append_right _ (mem_filter.mpr ⟨listed, closed⟩))
  | false =>
    have missing : item.number ∉ (queue ++ holding holds (numbered last trees)).map (·.number) := by
      intro found
      obtain ⟨one, among, same⟩ := mem_map.mp found
      rcases mem_append.mp among with among | among
      · have less := known one among
        omega
      · have equal := inj_on_of_nodup_map (nodup_numbered last trees) (mem_of_mem_filter among) listed same
        rw [equal, holding, mem_filter, closed] at among
        exact Bool.false_ne_true among.2
    rw [allAt_inside_eq_nil bounds.2 missing, All.top contained closed]
    rfl

theorem allAt_found (queued : Queued last queue) (contained : ∀ item ∈ queue, Contained holds item.tree)
    {item : Numbered ι α} (listed : item ∈ inside holds last queue) :
    (allAt (inside holds last queue) (.inside item.number)).map (·.tree) = item.tree.children := by
  have later := lt_number_inside listed
  induction last, queue using inside.induct holds with
  | case1 last =>
    rw [inside] at listed
    exact absurd listed not_mem_nil
  | case2 last head queue inner ih =>
    have other : item.number ≠ head.number := by
      have known := queued.known head (mem_cons_self ..)
      omega
    have apart := contained head (mem_cons_self ..)
    rw [inside, allAt_append, allAt_inner_other other, nil_append]
    rw [inside] at listed
    rcases mem_append.mp listed with listed | listed
    · exact allAt_numbered queued.next (fun one among => queued.known one (mem_cons_of_mem _ among)) listed
        (contained_inner apart listed)
    · apply ih queued.next ?_ listed (lt_number_inside listed)
      intro next among
      rcases mem_append.mp among with among | among
      · exact contained next (mem_cons_of_mem _ among)
      · exact contained_inner apart (mem_of_mem_filter among)

/-- The trees of a forest that are at an index. -/
def rootsAt (forest : List (ι × Rose α)) (index : ι) : List (Rose α) :=
  (forest.filter (fun root => root.1 = index)).map (·.2)

theorem allAt_roots (last : Nat) (forest : List (ι × Rose α)) (index : ι) :
    (allAt (numbered last (forest.map (fun root => (.root root.1, root.2)))) (.root index)).map (·.tree) =
      rootsAt forest index := by
  induction forest generalizing last with
  | nil => rfl
  | cons head later ih =>
    have same : (Place.root head.1 = .root index) ↔ head.1 = index := by rw [Place.root.injEq]
    rw [map_cons, numbered, allAt, rootsAt, filter_cons, filter_cons]
    simp only [same]
    split_ifs
    · exact congrArg (head.2 :: ·) (ih (last + 1))
    · exact ih (last + 1)

variable (holds) in
/-- At an index of the top are its trees. -/
theorem allAt_levels_root (last : Nat) (forest : List (ι × Rose α)) (index : ι) :
    (allAt (levels holds last forest) (.root index)).map (·.tree) = rootsAt forest index := by
  rw [levels, allAt_append, map_append, allAt_roots]
  apply append_right_eq_self.mpr
  apply map_eq_nil_iff.mpr
  apply allAt_eq_nil
  intro item listed same
  obtain ⟨outer, _, place⟩ := place_of_mem_inside listed
  cases place.symm.trans same

theorem allAt_levels_inside (contained : ∀ root ∈ forest, Contained holds root.2) {item : Numbered ι α}
    (listed : item ∈ levels holds last forest) :
    (allAt (levels holds last forest) (.inside item.number)).map (·.tree) = item.tree.children := by
  have kept : ∀ root ∈ numbered last (forest.map (fun root => (.root root.1, root.2))), Contained holds root.tree :=
    fun root among => levels_all holds last (fun _ contained => All.under contained) contained (mem_append_left _ among)
  have none : allAt (numbered last (forest.map (fun root => (.root root.1, root.2)))) (.inside item.number) = [] := by
    apply allAt_eq_nil
    intro root among same
    have place := mem_map_of_mem (f := (·.place)) among
    rw [map_place_numbered, map_map] at place
    obtain ⟨one, _, other⟩ := mem_map.mp place
    cases other.trans same
  have queued := Queued.holding holds last (forest.map (fun root => (Place.root root.1, root.2)))
  rw [levels, allAt_append, none, nil_append]
  rw [levels] at listed
  rcases mem_append.mp listed with listed | listed
  · have empty : ∀ item ∈ ([] : List (Numbered ι α)), item.number ≤ last := fun item among => absurd among not_mem_nil
    exact allAt_numbered queued empty listed (kept item listed)
  · exact allAt_found queued (fun root among => kept root (mem_of_mem_filter among)) listed

end

section

variable (like : Nat → α → Prop) (contents : Place ι → List Nat)

/-- A tree hangs at a number when the thing of the number is like the value, and the numbers in it
are those at which the children hang, in their order. -/
def Hangs : Rose α → Nat → Prop :=
  Rose.fold (fun value hang number => like number value ∧
    List.Forall₂ (fun hangs inner => hangs inner) hang (contents (.inside number)))

variable {like contents}

theorem hangs_node {value : α} {children : List (Rose α)} {number : Nat} :
    Hangs like contents (.node value children) number ↔
      like number value ∧ List.Forall₂ (Hangs like contents) children (contents (.inside number)) := by
  rw [Hangs, Rose.fold_node, List.forall₂_map_left_iff]

variable [DecidableEq ι] {holds : α → Bool} {last : Nat} {forest : List (ι × Rose α)}

/-- The numbers that are at every place when every number of a list is put where its tree is. -/
def numbersAt (items : List (Numbered ι α)) (place : Place ι) : List Nat := (allAt items place).map (·.number)

theorem hangs_of_levels (contained : ∀ root ∈ forest, Contained holds root.2)
    (alike : ∀ item ∈ levels holds last forest, like item.number item.tree.value) {item : Numbered ι α}
    (listed : item ∈ levels holds last forest) :
    Hangs like (numbersAt (levels holds last forest)) item.tree item.number := by
  obtain ⟨place, number, tree⟩ := item
  induction tree using Rose.induct generalizing place number with
  | node value children ih =>
    have inner : (allAt (levels holds last forest) (.inside number)).map (·.tree) = children :=
      allAt_levels_inside contained listed
    rw [hangs_node]
    refine ⟨alike _ listed, ?_⟩
    rw [← inner, numbersAt, List.forall₂_map_left_iff, List.forall₂_map_right_iff, List.forall₂_same]
    intro child found
    have among : child.tree ∈ children := inner ▸ mem_map_of_mem found
    exact ih child.tree among child.place child.number (mem_allAt.mp found).1

theorem hangs_roots (contained : ∀ root ∈ forest, Contained holds root.2)
    (alike : ∀ item ∈ levels holds last forest, like item.number item.tree.value) (index : ι) :
    List.Forall₂ (Hangs like (numbersAt (levels holds last forest))) (rootsAt forest index)
      (numbersAt (levels holds last forest) (.root index)) := by
  rw [← allAt_levels_root holds last, numbersAt, List.forall₂_map_left_iff, List.forall₂_map_right_iff, List.forall₂_same]
  intro item found
  exact hangs_of_levels contained alike (mem_allAt.mp found).1

variable (holds) in
omit [DecidableEq ι] in
theorem nodup_levels (last : Nat) (forest : List (ι × Rose α)) : ((levels holds last forest).map (·.number)).Nodup := by
  rw [map_number_levels]
  exact nodup_range'

/-- No number is put twice. -/
theorem nodup_numbersAt {items : List (Numbered ι α)} (distinct : (items.map (·.number)).Nodup) (place : Place ι) :
    (numbersAt items place).Nodup := distinct.sublist (filter_sublist.map _)

theorem numbersAt_apart {items : List (Numbered ι α)} (distinct : (items.map (·.number)).Nodup) {first second : Place ι}
    {number : Nat} (one : number ∈ numbersAt items first) (other : number ∈ numbersAt items second) : first = second := by
  obtain ⟨item, found, rfl⟩ := mem_map.mp one
  obtain ⟨same, among, equal⟩ := mem_map.mp other
  have here := mem_allAt.mp found
  have there := mem_allAt.mp among
  cases inj_on_of_nodup_map distinct there.1 here.1 equal
  exact here.2.symm.trans there.2

theorem length_numbersAt_root (index : ι) :
    (numbersAt (levels holds last forest) (.root index)).length = (rootsAt forest index).length := by
  rw [← allAt_levels_root holds last, numbersAt, length_map, length_map]

theorem length_rootsAt (forest : List (ι × Rose α)) (index : ι) :
    (rootsAt forest index).length = (forest.map (·.1)).count index := by
  rw [rootsAt, length_map, List.count, countP_map, countP_eq_length_filter]
  rfl

end

end Styller.Library
