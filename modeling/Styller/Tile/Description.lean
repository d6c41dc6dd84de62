import Styller.Tile.Index

/-! What a client is told about a tile, and where on the tile the server takes things to be that it tells the client about. -/

namespace Styller

open Library List Option

def maxStackposThings : Nat := 10

/-- The player that looks at a tile. -/
structure Viewer where
  id : CreatureId
  position : Position
  canSeeCreature : CreatureId → Bool

namespace TileStack

section
variable (viewer : Viewer) (isStacked : Bool)

/-- The loop of `GetTileDescription` over the top items: what it writes, and whether the function returns in it. -/
def describeTop : Nat → List ItemPtr → List Thing × Bool
  | _, [] => ([], false)
  | count, ptr :: rest =>
    if count + 1 = 9 ∧ isStacked then ([.item ptr], false)
    else if count + 1 = maxStackposThings then ([.item ptr], true)
    else Prod.map (.item ptr :: ·) id (describeTop (count + 1) rest)

/-- The loop over the creatures; the tenth thing on a stacked tile is the player. -/
def describeCreatures : Nat → List CreatureId → List Thing × Bool
  | _, [] => ([], false)
  | count, creature :: rest =>
    if ¬ (count = 9 ∧ isStacked) ∧ ¬ viewer.canSeeCreature creature then describeCreatures count rest
    else
      let thing : Thing := .creature (if count = 9 ∧ isStacked then viewer.id else creature)
      if count + 1 = maxStackposThings then ([thing], true)
      else Prod.map (thing :: ·) id (describeCreatures (count + 1) rest)

def describeDown : Nat → List ItemPtr → List Thing
  | _, [] => []
  | count, ptr :: rest =>
    if count + 1 = maxStackposThings then [.item ptr] else .item ptr :: describeDown (count + 1) rest

end

section
variable (viewer : Viewer) (pos : Position) (tile : TileStack)

/-- `ProtocolGame::GetTileDescription`: the things that are written, in their order. -/
def getTileDescription : List Thing :=
  let isStacked : Bool := viewer.position = pos
  let written : List Thing := tile.ground.toList.map .item
  let (tops, returned) := describeTop isStacked written.length tile.topItems
  let written := written ++ tops
  if returned then written
  else
    let (creatures, returned) := describeCreatures viewer isStacked written.length tile.creatures.reverse
    let written := written ++ creatures
    if returned then written else written ++ describeDown written.length tile.downItems

/-- The loop of `getClientIndexOfCreature`. -/
def clientIndexFrom (id : CreatureId) : Int → List CreatureId → Int
  | _, [] => -1
  | n, other :: rest =>
    if other = id then n
    else if viewer.canSeeCreature other then clientIndexFrom id (n + 1) rest
    else clientIndexFrom id n rest

def getClientIndexOfCreature (id : CreatureId) : Int :=
  let n : Int := if tile.ground.isSome then 1 else 0
  clientIndexFrom viewer id (n + tile.getTopItemCount) tile.creatures.reverse

def getStackposOfItem (env : Env) (game : Game) (ptr : ItemPtr) : Int :=
  if tile.ground = some ptr then 0
  else
    let n : Int := if tile.ground.isSome then 1 else 0
    if (game.items ptr).isAlwaysOnTop env.items then
      match tile.topItems.idxOf? ptr with
      | some passed => n + passed
      | none => -1
    else
      match tile.downItems.idxOf? ptr with
      | some passed => n + tile.getTopItemCount + tile.creatures.countP viewer.canSeeCreature + passed
      | none => -1

/-- The things of a tile that a client would be told about, without the limit. -/
def shown : List Thing :=
  tile.ground.toList.map .item ++ tile.topItems.map .item ++
    (tile.creatures.reverse.filter viewer.canSeeCreature).map .creature ++ tile.downItems.map .item

end

section
variable {viewer : Viewer}

theorem describeTop_eq {count : Nat} (room : count < maxStackposThings) (list : List ItemPtr) : describeTop false count list =
    ((list.map .item).take (maxStackposThings - count), decide (maxStackposThings ≤ count + list.length)) := by
  induction list generalizing count with
  | nil =>
    rw [map_nil, take_nil, length_nil, Nat.add_zero, decide_eq_false (Nat.not_le_of_lt room)]
    rfl
  | cons ptr rest ih =>
    simp only [describeTop, Bool.false_eq_true, and_false, if_false]
    split
    · next last =>
      have one : maxStackposThings - count = 0 + 1 := by omega
      rw [one, map_cons, take_succ_cons, take_zero, length_cons, decide_eq_true (by omega)]
    · next more =>
      have fewer : maxStackposThings - count = maxStackposThings - (count + 1) + 1 := by omega
      rw [ih (by omega), fewer, map_cons, take_succ_cons, length_cons, Nat.add_right_comm, Nat.add_assoc count]
      rfl

theorem describeCreatures_eq {count : Nat} (room : count < maxStackposThings) (list : List CreatureId) :
    describeCreatures viewer false count list =
      (((list.filter viewer.canSeeCreature).map .creature).take (maxStackposThings - count),
        decide (maxStackposThings ≤ count + (list.filter viewer.canSeeCreature).length)) := by
  induction list generalizing count with
  | nil =>
    rw [filter_nil, map_nil, take_nil, length_nil, Nat.add_zero, decide_eq_false (Nat.not_le_of_lt room)]
    rfl
  | cons creature rest ih =>
    simp only [describeCreatures, Bool.false_eq_true, and_false, if_false, not_false_eq_true, true_and]
    by_cases seen : viewer.canSeeCreature creature = true
    · rw [if_neg (not_not.mpr seen), filter_cons_of_pos seen]
      split
      · next last =>
        have one : maxStackposThings - count = 0 + 1 := by omega
        rw [one, map_cons, take_succ_cons, take_zero, length_cons, decide_eq_true (by omega)]
      · next more =>
        have fewer : maxStackposThings - count = maxStackposThings - (count + 1) + 1 := by omega
        rw [ih (by omega), fewer, map_cons, take_succ_cons, length_cons, Nat.add_right_comm, Nat.add_assoc count]
        rfl
    · rw [if_pos seen, filter_cons_of_neg seen]
      exact ih room

theorem describeDown_eq {count : Nat} (room : count < maxStackposThings) (list : List ItemPtr) :
    describeDown count list = (list.map .item).take (maxStackposThings - count) := by
  induction list generalizing count with
  | nil => rw [map_nil, take_nil, describeDown]
  | cons ptr rest ih =>
    rw [describeDown]
    split
    · next last =>
      have one : maxStackposThings - count = 0 + 1 := by omega
      rw [one, map_cons, take_succ_cons, take_zero]
    · next more =>
      have fewer : maxStackposThings - count = maxStackposThings - (count + 1) + 1 := by omega
      rw [ih (by omega), fewer, map_cons, take_succ_cons]

theorem take_behind {Value : Type} {front : List Value} {limit : Nat} (within : front.length ≤ limit) (back : List Value) :
    (front ++ back).take limit = front ++ back.take (limit - front.length) := by
  rw [take_append, take_of_length_le within]

/-- On another tile than that of the player the first ten things are written. -/
theorem getTileDescription_eq {pos : Position} (elsewhere : viewer.position ≠ pos) (tile : TileStack) :
    tile.getTileDescription viewer pos = (tile.shown viewer).take maxStackposThings := by
  have ground : (tile.ground.toList.map Thing.item).length < maxStackposThings := by
    cases tile.ground with
    | none => decide
    | some ptr => exact (by decide : 1 < maxStackposThings)
  simp only [getTileDescription, decide_eq_false elsewhere, shown]
  generalize tile.ground.toList.map Thing.item = written at ground
  rw [describeTop_eq ground]
  simp only [decide_eq_true_eq]
  split
  · next full =>
    have within : maxStackposThings - written.length ≤ (tile.topItems.map Thing.item).length := by
      rw [length_map]
      omega
    rw [append_assoc, append_assoc, take_behind (Nat.le_of_lt ground), take_append_of_le_length within]
  · next room =>
    have all : (tile.topItems.map Thing.item).take (maxStackposThings - written.length) = tile.topItems.map .item := by
      apply take_of_length_le
      rw [length_map]
      omega
    have count : (written ++ tile.topItems.map Thing.item).length < maxStackposThings := by
      rw [length_append, length_map]
      omega
    rw [all]
    generalize written ++ tile.topItems.map Thing.item = written at count
    rw [describeCreatures_eq count]
    simp only [decide_eq_true_eq]
    generalize tile.creatures.reverse.filter viewer.canSeeCreature = seen
    split
    · next full =>
      have within : maxStackposThings - written.length ≤ (seen.map Thing.creature).length := by
        rw [length_map]
        omega
      rw [append_assoc, take_behind (Nat.le_of_lt count), take_append_of_le_length within]
    · next room =>
      have all : (seen.map Thing.creature).take (maxStackposThings - written.length) = seen.map .creature := by
        apply take_of_length_le
        rw [length_map]
        omega
      have count : (written ++ seen.map Thing.creature).length < maxStackposThings := by
        rw [length_append, length_map]
        omega
      rw [all, describeDown_eq count, take_behind (Nat.le_of_lt count)]

end

end TileStack

def Viewer.sees (viewer : Viewer) : Thing → Bool
  | .item _ => true
  | .creature id => viewer.canSeeCreature id

/-- Where the server says that a thing is, when it tells the client about it. -/
def TileState.clientIndex (env : Env) (viewer : Viewer) (state : TileState) : Thing → Int
  | .item ptr => state.tile.getStackposOfItem viewer env state.game ptr
  | .creature id => state.tile.getClientIndexOfCreature viewer id

section
variable {env : Env} {pos : Position} {viewer : Viewer} {state : TileState}

theorem clientIndexFrom_eq {id : CreatureId} (seen : viewer.canSeeCreature id = true) (start : Int) (list : List CreatureId) :
    TileStack.clientIndexFrom viewer id start list =
      ((list.filter viewer.canSeeCreature).idxOf? id).elim (-1) (fun passed => start + (passed : Nat)) := by
  induction list generalizing start with
  | nil => rfl
  | cons other rest ih =>
    rw [TileStack.clientIndexFrom]
    split
    · next same =>
      rw [same, filter_cons_of_pos seen, idxOf?_cons, if_pos (beq_self_eq_true id)]
      exact (Int.add_zero start).symm
    · next different =>
      split
      · next visible =>
        rw [ih, filter_cons_of_pos visible, idxOf?_cons, if_neg (by simpa using different)]
        cases (rest.filter viewer.canSeeCreature).idxOf? id with
        | none => rfl
        | some passed =>
          simp only [map_some, elim_some]
          omega
      · next hidden => rw [ih, filter_cons_of_neg hidden]

theorem getElem?_of_idxOf? {Value : Type} [DecidableEq Value] {list : List Value} {place : Nat} {value : Value}
    (found : list.idxOf? value = some place) : list[place]? = some value := by
  obtain ⟨inside, same, _⟩ := idxOf?_eq_some_iff.mp found
  rw [getElem?_eq_getElem inside, same]

/-- The things that are shown, in their order, are those that the client is told to find there. -/
theorem shown_index (shaped : state.tile.Shaped) (sorted : state.Sorted env TileState.OnTop) {index : Nat} {thing : Thing} :
    (state.tile.shown viewer)[index]? = some thing ↔ viewer.sees thing = true ∧ state.clientIndex env viewer thing = index := by
  have tops : (state.tile.getTopItemCount : Int) = state.tile.topItems.length := by rw [shaped.split.topItemCount]
  have grounds : ((if state.tile.ground.isSome = true then (1 : Int) else 0) : Int) = state.tile.ground.toList.length := by
    cases state.tile.ground with
    | none => rfl
    | some ptr => rfl
  have seen : state.tile.creatures.countP viewer.canSeeCreature =
      (state.tile.creatures.reverse.filter viewer.canSeeCreature).length := by
    rw [countP_eq_length_filter, filter_reverse, length_reverse]
  unfold TileStack.shown
  simp only [TileStack.getElem?_append_iff, TileStack.getElem?_map_iff, length_append, length_map]
  constructor
  · have nodup := shaped.items
    rw [shaped.split.allItems, nodup_append] at nodup
    obtain ⟨_, vector, apart⟩ := nodup
    have notGround : ∀ ptr, ptr ∈ state.tile.downItems ++ state.tile.topItems → ¬ state.tile.ground = some ptr := by
      intro ptr there ground
      exact apart ptr (mem_toList.mpr ground) ptr there rfl
    rw [nodup_append] at vector
    rintro (((⟨ptr, here, rfl⟩ | ⟨place, rfl, ptr, here, rfl⟩) | ⟨place, rfl, id, here, rfl⟩) | ⟨place, rfl, ptr, here, rfl⟩)
    · cases ground : state.tile.ground with
      | none =>
        rw [ground] at here
        cases here
      | some first =>
        rw [ground] at here
        obtain ⟨inside, rfl⟩ := List.getElem?_eq_some_iff.mp here
        cases Nat.lt_one_iff.mp inside
        exact ⟨rfl, if_pos ground⟩
    · have member := mem_of_getElem? here
      have onTop : (state.game.items ptr).isAlwaysOnTop env.items = true := sorted .top ptr member
      refine ⟨rfl, ?_⟩
      simp only [TileState.clientIndex, TileStack.getStackposOfItem, if_neg (notGround ptr (mem_append_right _ member)),
        if_pos onTop, TileState.idxOf?_of_nodup vector.2.1 here, grounds]
      omega
    · have visible : viewer.canSeeCreature id = true := (mem_filter.mp (mem_of_getElem? here)).2
      have once : (state.tile.creatures.reverse.filter viewer.canSeeCreature).Nodup :=
        (nodup_reverse.mpr shaped.creatures).filter _
      refine ⟨visible, ?_⟩
      simp only [TileState.clientIndex, TileStack.getClientIndexOfCreature, clientIndexFrom_eq visible,
        TileState.idxOf?_of_nodup once here, elim_some, grounds, tops]
      omega
    · have member := mem_of_getElem? here
      have below : ¬ (state.game.items ptr).isAlwaysOnTop env.items = true := Bool.eq_false_iff.mp (sorted .down ptr member)
      refine ⟨rfl, ?_⟩
      simp only [TileState.clientIndex, TileStack.getStackposOfItem, if_neg (notGround ptr (mem_append_left _ member)),
        if_neg below, TileState.idxOf?_of_nodup vector.1 here, grounds, tops, seen]
      omega
  · rintro ⟨sees, is⟩
    cases thing with
    | item ptr =>
      simp only [TileState.clientIndex, TileStack.getStackposOfItem, grounds, tops, seen] at is
      split at is
      · next ground =>
        cases Int.ofNat_eq_zero.mp is.symm
        exact .inl (.inl (.inl ⟨ptr, by rw [ground]; rfl, rfl⟩))
      · split at is
        · split at is
          · next passed found =>
            exact .inl (.inl (.inr ⟨passed, by omega, ptr, getElem?_of_idxOf? found, rfl⟩))
          · omega
        · split at is
          · next passed found => exact .inr ⟨passed, by omega, ptr, getElem?_of_idxOf? found, rfl⟩
          · omega
    | creature id =>
      simp only [TileState.clientIndex, TileStack.getClientIndexOfCreature, clientIndexFrom_eq sees, grounds, tops] at is
      cases found : (state.tile.creatures.reverse.filter viewer.canSeeCreature).idxOf? id with
      | none =>
        rw [found, elim_none] at is
        omega
      | some passed =>
        rw [found, elim_some] at is
        exact .inl (.inr ⟨passed, by omega, id, getElem?_of_idxOf? found, rfl⟩)

/-- What is written for a tile is what the client is told about it. -/
structure TileState.Described (env : Env) (pos : Position) (viewer : Viewer) (state : TileState) : Prop where
  length : (state.tile.getTileDescription viewer pos).length ≤ maxStackposThings
  placed : ∀ (k : Nat) (thing : Thing), (state.tile.getTileDescription viewer pos)[k]? = some thing ↔
    k < maxStackposThings ∧ viewer.sees thing = true ∧ state.clientIndex env viewer thing = k

/-- Along every run in which items stay always on top, or never are, at most ten things of a tile are written, and the one
at a position is the one that has this position as its index. -/
theorem description_agrees (blank : state.tile.Blank) {ops : List TileOp}
    (keeps : Throughout (TileOp.step env pos) (fun state op => op.KeepsKind ItemType.alwaysOnTop env state) state ops) :
    Always (TileOp.step env pos) (fun state => ∀ viewer : Viewer, viewer.position ≠ pos → state.Described env pos viewer) state ops := by
  refine (sorted_always TileState.sorting_top blank keeps).mono ?_
  intro state holds viewer elsewhere
  have written := TileStack.getTileDescription_eq elsewhere state.tile
  constructor
  · rw [written]
    exact length_take_le _ _
  · intro k thing
    rw [written, getElem?_take, ← shown_index holds.1 holds.2]
    split
    · next within => exact (and_iff_right within).symm
    · next beyond =>
      constructor
      · nofun
      · exact fun within => absurd within.1 beyond

theorem description_agrees_square : Always (TileOp.step squareEnv ⟨100, 100, 7⟩)
    (fun state => ∀ viewer : Viewer, viewer.position ≠ ⟨100, 100, 7⟩ → state.Described squareEnv ⟨100, 100, 7⟩ viewer) bareSquare
    [.addThing (.item 0), .addThing (.item 6), .addThing (.creature 7), .addThing (.creature 8), .addThing (.item 1),
      .replaceThing 4 (.item 2)] := by
  refine description_agrees bareSquare_blank ⟨trivial, trivial, trivial, trivial, trivial, ?_, trivial⟩
  intro old taken
  have same : some (Thing.item old) = some (Thing.item 1) := taken.symm.trans (by decide)
  cases same
  decide

end

end Styller
