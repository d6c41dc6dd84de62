import Styller.Library.Levels

/-! Trees level by level: what a queue of trees brings out when each is followed, at the end, by its children. -/

namespace Styller.Library.Rose

open List

variable {α : Type*}

/-- The values in a tree, each in front of those below it. -/
def values : Rose α → List α := fold (fun value lists => value :: lists.flatten)

theorem values_eq (tree : Rose α) : tree.values = tree.value :: tree.children.flatMap values := by
  cases tree with
  | node value children =>
    rw [values, fold_node, flatMap_def]
    rfl

/-- The trees one level below some trees. -/
def lower (level : List (Rose α)) : List (Rose α) := level.flatMap children

/-- What is left of a queue behind its first tree, and then the children of that. -/
def next : List (Rose α) → List (Rose α)
  | [] => []
  | tree :: queue => queue ++ tree.children

/-- The trees that come to the front of a queue. -/
def inTurn : Nat → List (Rose α) → List (Rose α)
  | 0, _ => []
  | _, [] => []
  | count + 1, tree :: queue => tree :: inTurn count (next (tree :: queue))

def total (queue : List (Rose α)) : Nat := (queue.map size).sum

variable {count : Nat} {queue level : List (Rose α)}

theorem total_next (tree : Rose α) (queue : List (Rose α)) : total (next (tree :: queue)) + 1 = total (tree :: queue) := by
  simp only [total, next, map_append, sum_append, map_cons, sum_cons, size_eq tree]
  omega

theorem length_inTurn (enough : total queue ≤ count) : (inTurn count queue).length = total queue := by
  induction count generalizing queue with
  | zero => exact (Nat.le_zero.mp enough).symm
  | succ count ih =>
    cases queue with
    | nil => rfl
    | cons tree queue =>
      have fewer := total_next tree queue
      rw [inTurn, length_cons, ih (by omega), fewer]

/-- The trees of a queue and those below them come to the front once each. -/
theorem inTurn_perm (enough : total queue ≤ count) : ((inTurn count queue).map value).Perm (queue.flatMap values) := by
  induction count generalizing queue with
  | zero =>
    cases queue with
    | nil => exact .nil
    | cons tree queue => exact absurd (total_next tree queue) (by omega)
  | succ count ih =>
    cases queue with
    | nil => exact .nil
    | cons tree queue =>
      have fewer := total_next tree queue
      have rest := @ih (next (tree :: queue)) (by omega)
      rw [next, flatMap_append] at rest
      rw [inTurn, map_cons, flatMap_cons, values_eq, cons_append]
      exact (rest.trans perm_append_comm).cons _

theorem getElem?_inTurn (enough : total queue ≤ count) (n : Nat) : (inTurn count queue)[n]? = (next^[n] queue).head? := by
  have stays : ∀ n, next^[n] ([] : List (Rose α)) = [] := Function.iterate_fixed rfl
  induction count generalizing queue n with
  | zero =>
    cases queue with
    | nil => rw [stays]; rfl
    | cons tree queue => exact absurd (total_next tree queue) (by omega)
  | succ count ih =>
    cases queue with
    | nil => rw [stays]; rfl
    | cons tree queue =>
      have fewer := total_next tree queue
      cases n with
      | zero => rfl
      | succ n => exact ih (by omega) n

/-- A level comes before the one below it. -/
theorem inTurn_append (level later : List (Rose α)) :
    inTurn (level.length + count) (level ++ later) = level ++ inTurn count (later ++ lower level) := by
  induction level generalizing later with
  | nil => simp [lower]
  | cons tree level ih =>
    have step := ih (later ++ tree.children)
    rw [append_assoc, ← append_assoc] at step
    rw [length_cons, Nat.add_right_comm, cons_append, inTurn, next, step]
    rfl

theorem total_lower (level : List (Rose α)) : total (lower level) + level.length = total level := by
  induction level with
  | nil => rfl
  | cons tree level ih =>
    simp only [total, lower, flatMap_cons, map_append, sum_append, map_cons, sum_cons, size_eq tree,
      length_cons] at ih ⊢
    omega

theorem inTurn_eq_levels (enough : total level ≤ count) {depths : Nat} (deep : total level ≤ depths) :
    inTurn count level = (List.range depths).flatMap fun depth => lower^[depth] level := by
  induction depths generalizing count level with
  | zero =>
    have none := length_inTurn enough
    exact eq_nil_of_length_eq_zero (by omega)
  | succ depths ih =>
    have fewer := total_lower level
    obtain ⟨rest, rfl⟩ := Nat.exists_eq_add_of_le (show level.length ≤ count by omega)
    have first := @inTurn_append α rest level []
    have shallow : total (lower level) ≤ depths := by
      cases level with
      | nil => exact Nat.zero_le _
      | cons tree level =>
        rw [length_cons] at fewer
        omega
    rw [append_nil, nil_append] at first
    rw [first, ih (by omega) shallow, range_succ_eq_map, flatMap_cons, flatMap_map]
    rfl

end Styller.Library.Rose
