import Styller.Item.CustomAttribute

/-! The tree of the names of the players that are online, in which a name is found by its beginning. -/

namespace Styller

open Option

inductive WildcardTreeNode where
  | node (breakpoint : Bool) (children : UInt8 → Option WildcardTreeNode)

namespace WildcardTreeNode

def breakpoint : WildcardTreeNode → Bool
  | node breakpoint _ => breakpoint

def getChild : WildcardTreeNode → UInt8 → Option WildcardTreeNode
  | node _ children => children

def leaf (breakpoint : Bool) : WildcardTreeNode := node breakpoint fun _ => none

/-- `children.empty()`. -/
def childless (tree : WildcardTreeNode) : Bool :=
  (List.range 256).all fun ch => (tree.getChild (UInt8.ofNat ch)).isNone

def setChild (tree : WildcardTreeNode) (ch : UInt8) (child : Option WildcardTreeNode) : WildcardTreeNode :=
  node tree.breakpoint (Function.update tree.getChild ch child)

/-- The child that `addChild` answers: a new one, or the one that is there, made a breakpoint if it has to be. -/
def addChild (tree : WildcardTreeNode) (ch : UInt8) (breakpoint : Bool) : WildcardTreeNode :=
  match tree.getChild ch with
  | some child => node (child.breakpoint || breakpoint) child.getChild
  | none => leaf breakpoint

def insert : WildcardTreeNode → List UInt8 → WildcardTreeNode
  | tree, [] => tree
  | tree, [ch] => tree.setChild ch (some (tree.addChild ch true))
  | tree, ch :: next :: rest => tree.setChild ch (some ((tree.addChild ch false).insert (next :: rest)))

/-- The node is dropped from its parent when the name below it is removed. -/
def unused (tree : WildcardTreeNode) : Bool := tree.childless && !tree.breakpoint

/-- The tree after the walk down and up again, if there is a path for the name. Above a node that is still used nothing is
dropped. -/
def removePath : WildcardTreeNode → List UInt8 → Option WildcardTreeNode
  | tree, [] => some (node false tree.getChild)
  | tree, ch :: rest => do
    let child ← tree.getChild ch
    let child ← child.removePath rest
    some (tree.setChild ch (if child.unused then none else some child))

def remove (tree : WildcardTreeNode) (str : List UInt8) : WildcardTreeNode := (tree.removePath str).getD tree

/-- The path of a name ends at a breakpoint. -/
def contains : WildcardTreeNode → List UInt8 → Bool
  | tree, [] => tree.breakpoint
  | tree, ch :: rest =>
    match tree.getChild ch with
    | some child => child.contains rest
    | none => false

section
variable {tree : WildcardTreeNode} {str other : List UInt8}

theorem childless_iff : tree.childless = true ↔ ∀ ch, tree.getChild ch = none := by
  unfold childless
  rw [List.all_eq_true]
  constructor
  · intro all ch
    have one := all ch.toNat (List.mem_range.mpr ch.toNat_lt)
    rwa [UInt8.ofNat_toNat, isNone_iff_eq_none] at one
  · intro all ch _
    rw [all]
    rfl

@[simp] theorem contains_cons_setChild (ch first : UInt8) (child : Option WildcardTreeNode) :
    (tree.setChild ch child).contains (first :: other) =
      if first = ch then (child.map (·.contains other)).getD false else tree.contains (first :: other) := by
  unfold setChild
  simp only [contains, getChild, Function.update_apply]
  by_cases same : first = ch
  · rw [if_pos same, if_pos same]
    cases child with
    | none => rfl
    | some child => rfl
  · rw [if_neg same, if_neg same]

@[simp] theorem contains_nil_setChild (ch : UInt8) (child : Option WildcardTreeNode) :
    (tree.setChild ch child).contains [] = tree.contains [] := rfl

/-- A name that is under a character is under its child. -/
theorem contains_cons (ch : UInt8) :
    tree.contains (ch :: other) = ((tree.getChild ch).map (·.contains other)).getD false := by
  rw [contains]
  cases tree.getChild ch with
  | none => rfl
  | some child => rfl

theorem contains_leaf (breakpoint : Bool) : (leaf breakpoint).contains other = (breakpoint && other.isEmpty) := by
  cases other with
  | nil => exact (Bool.and_true breakpoint).symm
  | cons ch rest => exact (Bool.and_false breakpoint).symm

theorem contains_addChild (ch : UInt8) (breakpoint : Bool) :
    (tree.addChild ch breakpoint).contains other = (tree.contains (ch :: other) || breakpoint && other.isEmpty) := by
  rw [addChild, contains_cons]
  cases tree.getChild ch with
  | none => exact contains_leaf breakpoint
  | some child =>
    cases other with
    | nil =>
      simp only [contains, WildcardTreeNode.breakpoint, map_some, getD_some, List.isEmpty_nil, Bool.and_true]
    | cons first rest =>
      simp only [contains, getChild, map_some, getD_some, List.isEmpty_cons, Bool.and_false, Bool.or_false]

/-- An insertion adds the name and no other one. -/
theorem contains_insert (nonempty : str ≠ []) :
    (tree.insert str).contains other = true ↔ other = str ∨ tree.contains other = true := by
  induction str generalizing tree other with
  | nil => exact absurd rfl nonempty
  | cons ch rest ih =>
    have split : ∀ child, (∀ name, child.contains name = true ↔ name = rest ∨ tree.contains (ch :: name) = true) →
        ((tree.setChild ch (some child)).contains other = true ↔ other = ch :: rest ∨ tree.contains other = true) := by
      intro child below
      cases other with
      | nil => simp
      | cons first name =>
        rw [contains_cons_setChild]
        by_cases same : first = ch
        · subst same
          simp [below]
        · simp [same]
    cases rest with
    | nil =>
      apply split
      intro name
      rw [contains_addChild]
      cases name with
      | nil => simp
      | cons first rest => simp
    | cons next rest =>
      apply split
      intro name
      rw [ih (List.cons_ne_nil next rest), contains_addChild]
      simp

/-- What is dropped holds no name. -/
theorem contains_of_unused (unused : tree.unused = true) : tree.contains other = false := by
  rw [WildcardTreeNode.unused, Bool.and_eq_true, Bool.not_eq_true', childless_iff] at unused
  cases other with
  | nil => exact unused.2
  | cons ch rest => rw [contains, unused.1]

theorem contains_removePath {after : WildcardTreeNode} (removed : tree.removePath str = some after) :
    after.contains other = true ↔ other ≠ str ∧ tree.contains other = true := by
  induction str generalizing tree after other with
  | nil =>
    cases some.inj removed
    cases other with
    | nil => simp [contains, WildcardTreeNode.breakpoint]
    | cons ch rest => simp [contains, getChild]
  | cons ch rest ih =>
    simp only [removePath, bind_eq_bind, bind_eq_some_iff, some.injEq] at removed
    obtain ⟨child, found, below, removed, rfl⟩ := removed
    have kept : ∀ name, (((if below.unused then none else some below).map (·.contains name)).getD false = true) ↔
        name ≠ rest ∧ child.contains name = true := by
      intro name
      rw [← ih removed]
      split
      · rename_i unused
        simp [contains_of_unused unused]
      · simp
    cases other with
    | nil => simp
    | cons first name =>
      rw [contains_cons_setChild]
      by_cases same : first = ch
      · subst same
        rw [if_pos rfl, kept, contains_cons, found]
        simp
      · simp [same]

theorem removePath_none (missing : tree.removePath str = none) : tree.contains str = false := by
  induction str generalizing tree with
  | nil => cases missing
  | cons ch rest ih =>
    rw [contains_cons]
    simp only [removePath, bind_eq_bind, bind_eq_none_iff] at missing
    cases found : tree.getChild ch with
    | none => rfl
    | some child =>
      apply ih
      cases below : child.removePath rest with
      | none => rfl
      | some after => cases missing child found after below

/-- A removal takes the name out and no other one. -/
theorem contains_remove : (tree.remove str).contains other = true ↔ other ≠ str ∧ tree.contains other = true := by
  rw [remove]
  cases removed : tree.removePath str with
  | some after => exact contains_removePath removed
  | none =>
    have absent := removePath_none removed
    constructor
    · intro contained
      refine ⟨?_, contained⟩
      rintro rfl
      exact Bool.false_ne_true (absent.symm.trans contained)
    · exact And.right

end

end WildcardTreeNode

end Styller
