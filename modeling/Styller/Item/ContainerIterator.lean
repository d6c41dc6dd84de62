import Styller.Item.Item
import Styller.Library.BreadthFirst

/-! The iterator over everything that is in a container. -/

namespace Styller

open Library List

/-- `ContainerIterator`. The queue, its `over`, holds containers; of `cur` there is what is left of the items of the first one. -/
structure ContainerIterator where
  queue : List (Rose ItemPtr) := []
  cur : List (Rose ItemPtr) := []

namespace ContainerIterator

def iterator (container : Rose ItemPtr) : ContainerIterator :=
  if container.children = [] then {} else { queue := [container], cur := container.children }

section
variable (isContainer : ItemPtr → Bool) (cit : ContainerIterator)

def hasNext : Prop := cit.queue ≠ []

/-- `operator*` -/
def item : Option ItemPtr := cit.cur.head?.map Rose.value

/-- `advance` -/
def advance : ContainerIterator :=
  let queue := match cit.cur with
    | i :: _ => if isContainer i.value ∧ i.children ≠ [] then cit.queue ++ [i] else cit.queue
    | [] => cit.queue
  match cit.cur.tail with
  | [] =>
    match queue.tail with
    | [] => {}
    | front :: later => { queue := front :: later, cur := front.children }
  | i :: rest => { queue, cur := i :: rest }

end

variable {isContainer : ItemPtr → Bool} {cit : ContainerIterator}

/-- What the iterator still comes to when nothing more is put into the queue. -/
def pending (cit : ContainerIterator) : List (Rose ItemPtr) := cit.cur ++ Rose.lower cit.queue.tail

/-- Only containers with something in them are in the queue, and something is left of the first one. -/
structure Sound (isContainer : ItemPtr → Bool) (cit : ContainerIterator) : Prop where
  contained : ∀ i ∈ cit.pending, Contained isContainer i
  filled : ∀ container ∈ cit.queue, container.children ≠ []
  left : cit.hasNext ↔ cit.cur ≠ []

theorem Sound.hasNext_iff (sound : Sound isContainer cit) : cit.hasNext ↔ cit.pending ≠ [] := by
  rw [sound.left, pending]
  constructor
  · exact fun left none => left (append_eq_nil_iff.mp none).1
  · intro some none
    have queue : cit.queue = [] := not_not.mp (mt sound.left.mp (not_not.mpr none))
    rw [none, queue] at some
    exact some rfl

theorem Sound.item_eq (sound : Sound isContainer cit) : cit.item = cit.pending.head?.map Rose.value := by
  cases left : cit.cur with
  | nil =>
    have none := mt sound.hasNext_iff.mpr (mt sound.left.mp (not_not.mpr left))
    rw [item, left, not_not.mp none]
  | cons i rest =>
    rw [item, pending, left]
    rfl

/-- What `advance` puts into the queue for an item. -/
def opened (isContainer : ItemPtr → Bool) (i : Rose ItemPtr) : List (Rose ItemPtr) :=
  if isContainer i.value ∧ i.children ≠ [] then [i] else []

theorem lower_opened {i : Rose ItemPtr} (contained : Contained isContainer i) : Rose.lower (opened isContainer i) = i.children := by
  unfold opened
  split
  · exact append_nil _
  · next closed =>
    rcases not_and_or.mp closed with plain | empty
    · exact (contained.top (Bool.eq_false_iff.mpr plain)).symm
    · exact (not_not.mp empty).symm

theorem advance_eq (front i : Rose ItemPtr) (later rest : List (Rose ItemPtr)) :
    advance isContainer ⟨front :: later, i :: rest⟩ = match rest with
      | [] => match later ++ opened isContainer i with
        | [] => {}
        | front :: later => ⟨front :: later, front.children⟩
      | next :: rest => ⟨front :: (later ++ opened isContainer i), next :: rest⟩ := by
  by_cases opens : isContainer i.value ∧ i.children ≠ []
  · simp only [advance, opened, if_pos opens]
    cases rest <;> rfl
  · simp only [advance, opened, if_neg opens, append_nil]
    cases rest <;> rfl

theorem Sound.advance (sound : Sound isContainer cit) (some : cit.hasNext) :
    Sound isContainer (cit.advance isContainer) ∧ (cit.advance isContainer).pending = Rose.next cit.pending := by
  obtain ⟨queue, cur⟩ := cit
  obtain ⟨contained, filled, left⟩ := sound
  obtain ⟨front, later, rfl⟩ := exists_cons_of_ne_nil some
  obtain ⟨i, rest, rfl⟩ := exists_cons_of_ne_nil (left.mp some)
  have inner := lower_opened (contained i (mem_append_left _ mem_cons_self))
  have inTurn : Rose.lower (later ++ opened isContainer i) = Rose.lower later ++ i.children := by
    rw [← inner]
    exact flatMap_append
  have kept : ∀ j ∈ Rose.next (pending ⟨front :: later, i :: rest⟩), Contained isContainer j := by
    intro j listed
    rcases mem_append.mp listed with earlier | child
    · exact contained j (mem_cons_of_mem _ earlier)
    · exact (contained i (mem_append_left _ mem_cons_self)).under j child
  have full : ∀ container ∈ later ++ opened isContainer i, container.children ≠ [] := by
    intro container listed
    rcases mem_append.mp listed with earlier | new
    · exact filled container (mem_cons_of_mem _ earlier)
    · unfold opened at new
      split at new
      · next both => exact mem_singleton.mp new ▸ both.2
      · cases new
  have same : (ContainerIterator.advance isContainer ⟨front :: later, i :: rest⟩).pending =
      Rose.next (pending ⟨front :: later, i :: rest⟩) := by
    show _ = rest ++ Rose.lower later ++ i.children
    rw [advance_eq, append_assoc, ← inTurn]
    cases rest with
    | nil => cases later ++ opened isContainer i <;> rfl
    | cons next rest => rfl
  refine ⟨⟨same ▸ kept, ?_, ?_⟩, same⟩
  · rw [advance_eq]
    cases rest with
    | nil =>
      cases queued : later ++ opened isContainer i with
      | nil => nofun
      | cons front later =>
        rw [queued] at full
        exact full
    | cons next rest => exact forall_mem_cons.mpr ⟨filled front mem_cons_self, full⟩
  · rw [advance_eq]
    cases rest with
    | nil =>
      cases queued : later ++ opened isContainer i with
      | nil => exact Iff.rfl
      | cons front later =>
        rw [queued] at full
        exact iff_of_true (cons_ne_nil _ _) (full front mem_cons_self)
    | cons next rest => exact iff_of_true (cons_ne_nil _ _) (cons_ne_nil _ _)

theorem sound_iterator {container : Rose ItemPtr} (contained : Contained isContainer container) :
    Sound isContainer (iterator container) ∧ (iterator container).pending = container.children := by
  unfold iterator
  split
  · next empty => exact ⟨⟨nofun, nofun, Iff.rfl⟩, empty.symm⟩
  · next some =>
    have same : pending ⟨[container], container.children⟩ = container.children := append_nil _
    refine ⟨⟨?_, ?_, iff_of_true (cons_ne_nil _ _) some⟩, same⟩
    · rw [same]
      exact contained.under
    · exact fun other listed => mem_singleton.mp listed ▸ some

/-- As long as there is something left, the iterator is where the queue of the search is. -/
theorem sound_advances {container : Rose ItemPtr} (contained : Contained isContainer container) (n : Nat)
    (running : ∀ m < n, ((advance isContainer)^[m] (iterator container)).hasNext) :
    Sound isContainer ((advance isContainer)^[n] (iterator container)) ∧
      ((advance isContainer)^[n] (iterator container)).pending = Rose.next^[n] container.children := by
  induction n with
  | zero => exact sound_iterator contained
  | succ n ih =>
    obtain ⟨sound, same⟩ := ih fun m less => running m (Nat.lt_succ_of_lt less)
    rw [Function.iterate_succ_apply', Function.iterate_succ_apply', ← same]
    exact sound.advance (running n (Nat.lt_succ_self n))

/-- The items that the iterator is to visit: those on each level below the container, from the top. -/
def levels (container : Rose ItemPtr) : List (Rose ItemPtr) :=
  (List.range container.size).flatMap fun depth => Rose.lower^[depth] container.children

/-- The iterator goes through the levels item by item and ends behind the last one; they have every item in the container once. -/
theorem iterator_complete {container : Rose ItemPtr} (contained : Contained isContainer container) :
    (container.value :: (levels container).map Rose.value).Perm container.values ∧
      ∀ n ≤ (levels container).length,
        (((advance isContainer)^[n] (iterator container)).hasNext ↔ n < (levels container).length) ∧
          ((advance isContainer)^[n] (iterator container)).item = (levels container)[n]?.map Rose.value := by
  have enough : Rose.total container.children ≤ container.size := Rose.size_eq container ▸ Nat.le_succ _
  have inTurn : levels container = Rose.inTurn container.size container.children :=
    (Rose.inTurn_eq_levels enough enough).symm
  rw [inTurn]
  refine ⟨?_, fun n within => ?_⟩
  · rw [Rose.values_eq]
    exact (Rose.inTurn_perm enough).cons _
  · have next : ∀ m, (Rose.inTurn container.size container.children)[m]? = (Rose.next^[m] container.children).head? :=
      Rose.getElem?_inTurn enough
    have some : ∀ m, Rose.next^[m] container.children ≠ [] ↔ m < (Rose.inTurn container.size container.children).length := by
      intro m
      rw [← not_le, ← List.getElem?_eq_none_iff, next, head?_eq_none_iff]
    have running : ∀ m < n, ((advance isContainer)^[m] (iterator container)).hasNext := by
      intro m
      induction m using Nat.strong_induction_on with
      | _ m ih =>
        intro less
        obtain ⟨sound, same⟩ := sound_advances contained m fun k before => ih k before (before.trans less)
        rw [sound.hasNext_iff, same, some]
        exact Nat.lt_of_lt_of_le less within
    obtain ⟨sound, same⟩ := sound_advances contained n running
    rw [sound.hasNext_iff, sound.item_eq, same, next]
    exact ⟨some n, rfl⟩

/-- A bag with a bag of two swords, an axe and an empty bag in it. -/
theorem iterator_bag :
    let bag : Rose ItemPtr := .node 0 [.node 1 [.node 2 [], .node 3 []], .node 4 [], .node 5 []]
    (levels bag).map Rose.value = [1, 4, 5, 2, 3] ∧
      ∀ n ≤ 5, ((advance (fun ptr => ptr ∈ [0, 1, 5]))^[n] (iterator bag)).item = [1, 4, 5, 2, 3][n]? := by
  intro bag
  have visited : (levels bag).map Rose.value = [1, 4, 5, 2, 3] := rfl
  have contained : Contained (fun ptr => ptr ∈ [0, 1, 5]) bag := by
    simp [bag, Contained, Rose.all_node]
  refine ⟨visited, fun n within => ?_⟩
  have there := ((iterator_complete contained).2 n (by simpa using congrArg List.length visited ▸ within)).2
  rw [there, ← getElem?_map, visited]

end ContainerIterator

end Styller
