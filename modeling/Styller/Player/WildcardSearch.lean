import Mathlib.Data.List.Nodup
import Mathlib.Data.Set.Subsingleton
import Styller.Item.ReturnValue
import Styller.Player.WildcardTree

/-! The search for a name by its beginning in the tree of names. -/

namespace Styller.WildcardTreeNode

open List Function Option

/-- The characters that have a child. -/
def keys (tree : WildcardTreeNode) : List UInt8 :=
  ((List.range 256).map UInt8.ofNat).filter fun ch => (tree.getChild ch).isSome

mutual

/-- The loop of `findOne` behind the query: down as long as there is one child and no name ends. -/
def findBelow : WildcardTreeNode → List UInt8 → ReturnValue × List UInt8
  | node breakpoint children, result =>
    -- `children.size()`, and `children.begin()` of the only child
    match (node breakpoint children).keys with
    | [] => (.noError, result)
    | ch :: others =>
      if (ch :: others).length > 1 ∨ breakpoint then (.nameIsTooAmbiguous, result)
      else findChild (children ch) (result ++ [ch])

/-- On with the child that `begin` points to; there is one. -/
def findChild : Option WildcardTreeNode → List UInt8 → ReturnValue × List UInt8
  | none, result => (.noError, result)
  | some child, result => findBelow child result

end

/-- The node that the characters of a query lead to. -/
def walk : WildcardTreeNode → List UInt8 → Option WildcardTreeNode
  | tree, [] => some tree
  | tree, pos :: query => (tree.getChild pos).bind fun cur => cur.walk query

/-- `WildcardTreeNode::findOne`: the answer and the string that `result` is after it. -/
def findOne (tree : WildcardTreeNode) (query result : List UInt8) : ReturnValue × List UInt8 :=
  match tree.walk query with
  | none => (.playerWithThisNameIsNotOnline, result)
  | some cur => cur.findBelow query

/-- Below the root every node leads to a name: one without children is the end of one. -/
inductive Pruned : WildcardTreeNode → Prop where
  | node {breakpoint : Bool} {children : UInt8 → Option WildcardTreeNode}
      (used : ∀ ch child, children ch = some child → child.unused = false)
      (below : ∀ ch child, children ch = some child → Pruned child) : Pruned (node breakpoint children)

section
variable {tree : WildcardTreeNode} {ch : UInt8}

theorem mem_keys : ch ∈ tree.keys ↔ (tree.getChild ch).isSome = true := by
  rw [keys, mem_filter]
  constructor
  · exact And.right
  · intro present
    refine ⟨mem_map.mpr ⟨ch.toNat, mem_range.mpr ch.toNat_lt, UInt8.ofNat_toNat⟩, present⟩

theorem keys_nodup : tree.keys.Nodup := by
  apply List.Nodup.filter
  decide +kernel

theorem childless_of_keys (none : tree.keys = []) : tree.childless = true := by
  rw [childless_iff]
  intro ch
  cases found : tree.getChild ch with
  | none => rfl
  | some child =>
    have listed : ch ∈ tree.keys := mem_keys.mpr (found ▸ rfl)
    rw [none] at listed
    cases listed

theorem unused_of_child {child : WildcardTreeNode} (found : tree.getChild ch = some child) : tree.unused = false := by
  cases childless : tree.childless with
  | false => rw [unused, childless, Bool.false_and]
  | true =>
    rw [childless_iff.mp childless ch] at found
    cases found

end

section
variable {tree : WildcardTreeNode} {str query other : List UInt8}

theorem Pruned.used (pruned : tree.Pruned) {ch : UInt8} {child : WildcardTreeNode} (found : tree.getChild ch = some child) :
    child.unused = false := by
  cases pruned with
  | node used below => exact used ch child found

theorem Pruned.child (pruned : tree.Pruned) {ch : UInt8} {child : WildcardTreeNode} (found : tree.getChild ch = some child) :
    child.Pruned := by
  cases pruned with
  | node used below => exact below ch child found

/-- Whether a node ends a name says nothing about what is below it. -/
theorem Pruned.node_getChild (pruned : tree.Pruned) (breakpoint : Bool) : (WildcardTreeNode.node breakpoint tree.getChild).Pruned :=
  .node (fun _ _ found => pruned.used found) fun _ _ found => pruned.child found

theorem pruned_leaf (breakpoint : Bool) : (leaf breakpoint).Pruned := .node nofun nofun

theorem Pruned.setChild (pruned : tree.Pruned) (ch : UInt8) {child : Option WildcardTreeNode}
    (used : ∀ node ∈ child, node.unused = false) (below : ∀ node ∈ child, node.Pruned) : (tree.setChild ch child).Pruned := by
  constructor
  · intro other node found
    by_cases same : other = ch
    · rw [same, update_self] at found
      exact used node found
    · rw [update_of_ne same] at found
      exact pruned.used found
  · intro other node found
    by_cases same : other = ch
    · rw [same, update_self] at found
      exact below node found
    · rw [update_of_ne same] at found
      exact pruned.child found

theorem Pruned.addChild (pruned : tree.Pruned) (ch : UInt8) (breakpoint : Bool) : (tree.addChild ch breakpoint).Pruned := by
  rw [WildcardTreeNode.addChild]
  cases found : tree.getChild ch with
  | none => exact pruned_leaf breakpoint
  | some child => exact (pruned.child found).node_getChild _

/-- The last character of a name makes a breakpoint. -/
theorem unused_addChild (ch : UInt8) : (tree.addChild ch true).unused = false := by
  rw [WildcardTreeNode.addChild]
  cases tree.getChild ch with
  | none => exact Bool.and_false _
  | some child => rw [unused, breakpoint, Bool.or_true, Bool.not_true, Bool.and_false]

theorem getChild_setChild (ch : UInt8) (child : Option WildcardTreeNode) : (tree.setChild ch child).getChild ch = child :=
  update_self ..

/-- A name that is inserted has a child for its first character. -/
theorem unused_insert (nonempty : str ≠ []) : (tree.insert str).unused = false := by
  cases str with
  | nil => exact absurd rfl nonempty
  | cons ch rest =>
    cases rest with
    | nil => exact unused_of_child (getChild_setChild ch _)
    | cons next rest => exact unused_of_child (getChild_setChild ch _)

theorem Pruned.insert (pruned : tree.Pruned) (str : List UInt8) : (tree.insert str).Pruned := by
  induction str generalizing tree with
  | nil => exact pruned
  | cons ch rest ih =>
    cases rest with
    | nil =>
      apply pruned.setChild
      · intro node same
        cases same
        exact unused_addChild ch
      · intro node same
        cases same
        exact pruned.addChild ch true
    | cons next rest =>
      apply pruned.setChild
      · intro node same
        cases same
        exact unused_insert (cons_ne_nil next rest)
      · intro node same
        cases same
        exact ih (pruned.addChild ch false)

theorem Pruned.removePath (pruned : tree.Pruned) {after : WildcardTreeNode} (removed : tree.removePath str = some after) :
    after.Pruned := by
  induction str generalizing tree after with
  | nil =>
    cases some.inj removed
    exact pruned.node_getChild false
  | cons ch rest ih =>
    simp only [WildcardTreeNode.removePath, bind_eq_bind, bind_eq_some_iff, some.injEq] at removed
    obtain ⟨child, found, below, removed, rfl⟩ := removed
    apply pruned.setChild
    · intro node kept
      split at kept
      · cases kept
      · rename_i used
        cases kept
        exact (Bool.not_eq_true _).mp used
    · intro node kept
      split at kept
      · cases kept
      · cases kept
        exact ih (pruned.child found) removed

theorem Pruned.remove (pruned : tree.Pruned) (str : List UInt8) : (tree.remove str).Pruned := by
  rw [WildcardTreeNode.remove]
  cases removed : tree.removePath str with
  | none => exact pruned
  | some after => exact pruned.removePath removed

/-- A node that is used leads to a name. -/
theorem Pruned.exists_contains (pruned : tree.Pruned) (used : tree.unused = false) : ∃ name, tree.contains name = true := by
  induction pruned with
  | @node breakpoint children below_used _ ih =>
    by_cases ends : breakpoint = true
    · exact ⟨[], ends⟩
    · cases listed : (WildcardTreeNode.node breakpoint children).keys with
      | nil =>
        rw [unused, childless_of_keys listed, Bool.true_and, Bool.not_eq_false'] at used
        exact absurd used ends
      | cons ch others =>
        have present : ch ∈ (WildcardTreeNode.node breakpoint children).keys := listed ▸ mem_cons_self
        obtain ⟨child, found⟩ := isSome_iff_exists.mp (mem_keys.mp present)
        obtain ⟨name, contained⟩ := ih ch child found (below_used ch child found)
        refine ⟨ch :: name, ?_⟩
        rw [contains_cons, found]
        exact contained

/-- What the loop answers at a node: the only name below it, or that there are two. -/
inductive Below (tree : WildcardTreeNode) (result : List UInt8) : ReturnValue × List UInt8 → Prop where
  | only {name : List UInt8} (contained : ∀ other, tree.contains other = true ↔ other = name) :
      Below tree result (.noError, result ++ name)
  | several {first second so_far : List UInt8} (different : first ≠ second) (one : tree.contains first = true)
      (two : tree.contains second = true) : Below tree result (.nameIsTooAmbiguous, so_far)

theorem Pruned.findBelow (pruned : tree.Pruned) (used : tree.unused = false) (result : List UInt8) :
    Below tree result (tree.findBelow result) := by
  induction pruned generalizing result with
  | @node breakpoint children below_used below ih =>
    have named : ∀ ch ∈ (WildcardTreeNode.node breakpoint children).keys, ∃ child name, children ch = some child ∧
        child.contains name = true := by
      intro ch present
      obtain ⟨child, found⟩ := isSome_iff_exists.mp (mem_keys.mp present)
      obtain ⟨name, contained⟩ := (below ch child found).exists_contains (below_used ch child found)
      exact ⟨child, name, found, contained⟩
    have under : ∀ ch child name, children ch = some child → child.contains name = true →
        (WildcardTreeNode.node breakpoint children).contains (ch :: name) = true := by
      intro ch child name found contained
      rw [contains_cons, getChild, found]
      exact contained
    rw [WildcardTreeNode.findBelow]
    cases listed : (WildcardTreeNode.node breakpoint children).keys with
    | nil =>
      have childless := childless_iff.mp (childless_of_keys listed)
      have ends : breakpoint = true := by
        rw [unused, childless_of_keys listed, Bool.true_and, Bool.not_eq_false'] at used
        exact used
      have only : Below (WildcardTreeNode.node breakpoint children) result (.noError, result ++ []) := by
        constructor
        intro other
        cases other with
        | nil => exact iff_of_true ends rfl
        | cons first rest =>
          rw [contains_cons, childless]
          exact iff_of_false Bool.false_ne_true (cons_ne_nil first rest)
      rwa [append_nil] at only
    | cons ch others =>
      obtain ⟨child, name, found, contained⟩ := named ch (listed ▸ mem_cons_self)
      dsimp only
      split
      · rename_i several
        rcases several with many | ends
        · cases others with
          | nil => exact absurd many (Nat.lt_irrefl 1)
          | cons next others =>
            have apart : ch ≠ next := by
              have distinct := listed ▸ @keys_nodup (WildcardTreeNode.node breakpoint children)
              exact ne_of_not_mem_cons (nodup_cons.mp distinct).1
            obtain ⟨second, other, found_second, contained_second⟩ :=
              named next (listed ▸ mem_cons_of_mem _ mem_cons_self)
            exact .several (fun same => apart (head_eq_of_cons_eq same)) (under ch child name found contained)
              (under next second other found_second contained_second)
        · exact .several (cons_ne_nil ch name) (under ch child name found contained) ends
      · rename_i single
        rw [not_or] at single
        have alone : others = [] := eq_nil_of_length_eq_zero (by rw [length_cons] at single; omega)
        have others_none : ∀ other, other ≠ ch → children other = none := by
          intro other different
          cases there : children other with
          | none => rfl
          | some node =>
            have present : other ∈ (WildcardTreeNode.node breakpoint children).keys :=
              mem_keys.mpr (by rw [getChild, there]; rfl)
            rw [listed, alone, mem_singleton] at present
            exact absurd present different
        rw [found, findChild]
        have rest := ih ch child found (below_used ch child found) (result ++ [ch])
        generalize child.findBelow (result ++ [ch]) = answer at rest
        cases rest with
        | @only name contained =>
          rw [append_assoc]
          constructor
          intro other
          cases other with
          | nil => exact iff_of_false single.2 (cons_ne_nil ch name).symm
          | cons first rest =>
            rw [contains_cons, getChild]
            by_cases same : first = ch
            · rw [same, found, map_some, getD_some, contained]
              simp
            · rw [others_none first same]
              simp [same]
        | several different one two =>
          exact .several (fun same => different (cons_injective same)) (under ch child _ found one)
            (under ch child _ found two)

/-- The names below the node that the query leads to are the ones that begin with the query. -/
theorem contains_walk {cur : WildcardTreeNode} (walked : tree.walk query = some cur) :
    tree.contains (query ++ other) = cur.contains other := by
  induction query generalizing tree with
  | nil =>
    cases some.inj walked
    rfl
  | cons pos query ih =>
    rw [walk, bind_eq_some_iff] at walked
    obtain ⟨child, found, walked⟩ := walked
    rw [cons_append, contains_cons, found, map_some, getD_some, ih walked]

theorem contains_of_lost (lost : tree.walk query = none) : tree.contains (query ++ other) = false := by
  induction query generalizing tree with
  | nil => cases lost
  | cons pos query ih =>
    rw [walk, bind_eq_none_iff] at lost
    rw [cons_append, contains_cons]
    cases found : tree.getChild pos with
    | none => rfl
    | some child => exact ih (lost child found)

/-- A query with a character does not lead back to the root. -/
theorem Pruned.walk (pruned : tree.Pruned) (nonempty : query ≠ []) {cur : WildcardTreeNode} (walked : tree.walk query = some cur) :
    cur.unused = false ∧ cur.Pruned := by
  induction query generalizing tree with
  | nil => exact absurd rfl nonempty
  | cons pos query ih =>
    rw [WildcardTreeNode.walk, bind_eq_some_iff] at walked
    obtain ⟨child, found, walked⟩ := walked
    cases query with
    | nil =>
      cases some.inj walked
      exact ⟨pruned.used found, pruned.child found⟩
    | cons next query => exact ih (pruned.child found) (cons_ne_nil next query) walked

end

abbrev Name := { str : List UInt8 // str ≠ [] }

inductive Change where
  | insert (name : Name)
  | remove (name : Name)

def Change.apply (tree : WildcardTreeNode) : Change → WildcardTreeNode
  | insert name => tree.insert name
  | remove name => tree.remove name

def Change.stored (names : Set (List UInt8)) : Change → Set (List UInt8)
  | insert name => Insert.insert name.val names
  | remove name => names \ {name.val}

def root (changes : List Change) : WildcardTreeNode := changes.foldl Change.apply (leaf false)

def matching (changes : List Change) (query : List UInt8) : Set (List UInt8) :=
  { name | name ∈ changes.foldl Change.stored ∅ ∧ query <+: name }

theorem pruned_root (changes : List Change) : (root changes).Pruned := by
  unfold root
  generalize start : leaf false = tree
  have pruned : tree.Pruned := start ▸ pruned_leaf false
  clear start
  induction changes generalizing tree with
  | nil => exact pruned
  | cons change changes ih =>
    apply ih
    cases change with
    | insert name => exact pruned.insert name
    | remove name => exact pruned.remove name

/-- The tree is a set of names. -/
theorem contains_root (changes : List Change) (name : List UInt8) :
    (root changes).contains name = true ↔ name ∈ changes.foldl Change.stored ∅ := by
  have along : ∀ (tree : WildcardTreeNode) (names : Set (List UInt8)), (∀ name, tree.contains name = true ↔ name ∈ names) →
      ((changes.foldl Change.apply tree).contains name = true ↔ name ∈ changes.foldl Change.stored names) := by
    induction changes with
    | nil => exact fun tree names same => same name
    | cons change changes ih =>
      intro tree names same
      apply ih
      intro name
      cases change with
      | insert str => rw [Change.apply, Change.stored, contains_insert str.property, same, Set.mem_insert_iff]
      | remove str => rw [Change.apply, Change.stored, contains_remove, same, Set.mem_sdiff, Set.mem_singleton_iff, and_comm]
  apply along
  intro name
  rw [contains_leaf, Bool.false_and]
  exact iff_of_false Bool.false_ne_true (Set.notMem_empty name)

theorem mem_matching (changes : List Change) (query name : List UInt8) :
    query ++ name ∈ matching changes query ↔ (root changes).contains (query ++ name) = true := by
  rw [contains_root]
  exact and_iff_left (prefix_append query name)

theorem exists_of_mem_matching {changes : List Change} {query name : List UInt8} (found : name ∈ matching changes query) :
    ∃ rest, name = query ++ rest := by
  obtain ⟨rest, same⟩ := found.2
  exact ⟨rest, same.symm⟩

/-- What is found, by how many stored names begin with the query. -/
theorem findOne_root (changes : List Change) (query : Name) (result : List UInt8) :
    (∀ name, matching changes query = {name} → (root changes).findOne query result = (.noError, name)) ∧
    ((matching changes query).Nontrivial → ((root changes).findOne query result).1 = .nameIsTooAmbiguous) ∧
    (matching changes query = ∅ → ((root changes).findOne query result).1 = .playerWithThisNameIsNotOnline) := by
  obtain ⟨query, nonempty⟩ := query
  simp only [findOne]
  cases walked : (root changes).walk query with
  | none =>
    have empty : matching changes query = ∅ := by
      apply Set.eq_empty_of_forall_notMem
      intro name found
      obtain ⟨rest, rfl⟩ := exists_of_mem_matching found
      rw [mem_matching, contains_of_lost walked] at found
      cases found
    rw [empty]
    refine ⟨fun name only => ?_, fun several => ?_, fun _ => rfl⟩
    · exact absurd only.symm (Set.singleton_ne_empty name)
    · exact absurd several Set.not_nontrivial_empty
  | some cur =>
    obtain ⟨used, pruned⟩ := (pruned_root changes).walk nonempty walked
    have below := pruned.findBelow used query
    have member : ∀ rest, query ++ rest ∈ matching changes query ↔ cur.contains rest = true := by
      intro rest
      rw [mem_matching, contains_walk walked]
    dsimp only
    generalize cur.findBelow query = answer at below
    cases below with
    | @only rest contained =>
      have only : matching changes query = {query ++ rest} := by
        ext name
        rw [Set.mem_singleton_iff]
        constructor
        · intro found
          obtain ⟨other, rfl⟩ := exists_of_mem_matching found
          rw [(contained other).mp ((member other).mp found)]
        · intro same
          rw [same]
          exact (member rest).mpr ((contained rest).mpr rfl)
      rw [only]
      refine ⟨fun name same => ?_, fun several => ?_, fun none => ?_⟩
      · rw [Set.singleton_injective same]
      · exact absurd several Set.not_nontrivial_singleton
      · exact absurd none (Set.singleton_ne_empty _)
    | @several first second _ different one two =>
      have one := (member first).mpr one
      have two := (member second).mpr two
      have apart : query ++ first ≠ query ++ second := fun same => different (append_cancel_left same)
      refine ⟨fun name only => ?_, fun _ => rfl, fun none => ?_⟩
      · rw [only] at one two
        exact absurd (one.trans two.symm) apart
      · rw [none] at one
        cases one

end Styller.WildcardTreeNode
