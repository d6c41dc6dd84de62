import Mathlib.Logic.Function.Basic

/-! Trees that read a key digit by digit down to the value at the end of the path. -/

namespace Styller.Library

open Function

universe u v w

inductive Trie (Digit : Type u) (Value : Type v) where
  | empty
  | leaf (value : Value)
  | node (child : Digit → Trie Digit Value)

namespace Trie

variable {Digit : Type u} {Value : Type v} {Key : Type w} (digit : Key → Digit) (shift : Key → Key)

/-- The value that the digits of a key lead to. -/
def find : Trie Digit Value → Key → Option Value
  | empty, _ => none
  | leaf value, _ => some value
  | node child, key => find (child (digit key)) (shift key)

/-- The tree with the path of a key down to a leaf; a leaf that is missing gets the value. -/
def create [DecidableEq Digit] (value : Value) : Nat → Trie Digit Value → Key → Trie Digit Value
  | _, leaf old, _ => leaf old
  | 0, empty, _ => leaf value
  | 0, node child, _ => node child
  | depth + 1, empty, key => node (Function.update (fun _ => empty) (digit key) (create value depth empty (shift key)))
  | depth + 1, node child, key =>
    node (Function.update child (digit key) (create value depth (child (digit key)) (shift key)))

/-- All leaves are at one depth. -/
inductive Even : Nat → Trie Digit Value → Prop where
  | empty {depth : Nat} : Even depth empty
  | leaf {value : Value} : Even 0 (leaf value)
  | node {depth : Nat} {child : Digit → Trie Digit Value} (children : ∀ at_digit, Even depth (child at_digit)) :
      Even (depth + 1) (node child)

/-- Two keys have the same first digits. -/
def Agree : Nat → Key → Key → Prop
  | 0, _, _ => True
  | depth + 1, key, other => digit key = digit other ∧ Agree depth (shift key) (shift other)

variable {digit shift} {tree : Trie Digit Value} {depth : Nat} {key other : Key} {value : Value}

theorem find_node {child : Digit → Trie Digit Value} :
    find digit shift (node child) key = find digit shift (child (digit key)) (shift key) := rfl

theorem find_congr (even : Even depth tree) (agree : Agree digit shift depth key other) :
    find digit shift tree key = find digit shift tree other := by
  induction even generalizing key other with
  | empty | leaf => rfl
  | node children ih =>
    obtain ⟨same, agree⟩ := agree
    rw [find_node, find_node, ← same]
    exact ih (digit key) agree

section
variable [DecidableEq Digit]

theorem Even.create (even : Even depth tree) (value : Value) (key : Key) :
    Even depth (create digit shift value depth tree key) := by
  induction depth generalizing tree key with
  | zero =>
    cases even with
    | empty => exact .leaf
    | leaf => exact .leaf
  | succ depth ih =>
    cases even with
    | empty =>
      apply Even.node
      intro at_digit
      by_cases same : at_digit = digit key
      · subst same
        rw [update_self]
        exact ih .empty (shift key)
      · rw [update_of_ne same]
        exact .empty
    | node children =>
      apply Even.node
      intro at_digit
      by_cases same : at_digit = digit key
      · subst same
        rw [update_self]
        exact ih (children _) (shift key)
      · rw [update_of_ne same]
        exact children at_digit

theorem find_create_agree (even : Even depth tree) (agree : Agree digit shift depth key other) :
    find digit shift (create digit shift value depth tree key) other = some ((find digit shift tree key).getD value) := by
  induction depth generalizing tree key other with
  | zero =>
    cases even with
    | empty => rfl
    | leaf => rfl
  | succ depth ih =>
    obtain ⟨same, agree⟩ := agree
    cases even with
    | empty =>
      rw [create, find_node, ← same, update_self]
      exact ih .empty agree
    | node children =>
      rw [create, find_node, find_node, ← same, update_self]
      exact ih (children _) agree

theorem find_create_apart (even : Even depth tree) (apart : ¬ Agree digit shift depth key other) :
    find digit shift (create digit shift value depth tree key) other = find digit shift tree other := by
  induction depth generalizing tree key other with
  | zero => exact absurd trivial apart
  | succ depth ih =>
    by_cases same : digit other = digit key
    · have further : ¬ Agree digit shift depth (shift key) (shift other) := fun agree => apart ⟨same.symm, agree⟩
      cases even with
      | empty =>
        rw [create, find_node, same, update_self]
        exact ih .empty further
      | node children =>
        rw [create, find_node, find_node, same, update_self]
        exact ih (children _) further
    · cases even with
      | empty =>
        rw [create, find_node, update_of_ne same]
        rfl
      | node children =>
        rw [create, find_node, find_node, update_of_ne same]

end

end Trie

end Styller.Library
