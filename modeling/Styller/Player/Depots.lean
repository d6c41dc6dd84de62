import Mathlib.Data.List.FinRange
import Styller.Player.Rebuilt

/-! The depots of a player: which of their changes `savePlayer` writes, and what `loadPlayer` gives back. -/

namespace Styller.Depot

open Library List Function

/-- What a notification climbs through. The lockers of `depotLockerMap` are told from those that are items somewhere. -/
inductive Node where
  | container
  | depotChest
  | depotLocker (own : Bool)
  | tile

/-- `getTopParent` of the first of a chain of parents, with its own parents: the outermost but one. -/
def getTopParent : List Node → List Node
  | _ :: parent :: next :: parents => getTopParent (parent :: next :: parents)
  | chain => chain

theorem getTopParent_eq_drop (chain : List Node) : getTopParent chain = chain.drop (chain.length - 2) := by
  fun_induction getTopParent chain with
  | case1 node parent next parents ih => exact ih
  | case2 chain short =>
    match chain with
    | [] => rfl
    | [_] => rfl
    | [_, _] => rfl
    | node :: parent :: next :: parents => exact absurd rfl (short node parent next parents)

/-- `postAddNotification` and `postRemoveNotification` of the first of a chain: whether they come to a locker of the player,
which then is to be saved. -/
def notifies : List Node → Bool
  | [] => false
  | .depotLocker own :: parents => own || notifies parents
  | .depotChest :: parents => notifies parents
  | .tile :: _ => false
  | .container :: parents =>
    if (getTopParent (.container :: parents)).length < parents.length + 1 then notifies (getTopParent (.container :: parents))
    else notifies parents
  termination_by chain => chain.length
  decreasing_by
    · exact Nat.lt_succ_self _
    · exact Nat.lt_succ_self _
    · assumption
    · exact Nat.lt_succ_self _

/-- A depot locker, with the items in it besides its chest. -/
structure Locker where
  items : List ItemTree
  save : Bool := false
  /-- Its parent is a tile. -/
  onTile : Bool := false

structure Player where
  depotLockerMap : Fin 100 → Option Locker
  depotChests : Fin 100 → Option (List ItemTree)

/-- The items of `player_depotlockeritems` and `player_depotitems` that are in nothing, with the depots that they are in and
with what is in them. -/
structure Tables where
  lockerItems : List (Fin 100 × ItemTree)
  depotItems : List (Fin 100 × ItemTree)

def itemDepot : Nat := 2594

section

variable (player : Player) (id : Fin 100)

/-- `getDepotChest` with `autoCreate`. -/
def getDepotChest : Player :=
  match player.depotChests id with
  | some _ => player
  | none => { player with depotChests := Function.update player.depotChests id (some []) }

/-- `getDepotLocker`: a new locker gets the chest of its id. -/
def getDepotLocker : Player :=
  match player.depotLockerMap id with
  | some _ => player
  | none =>
    { getDepotChest player id with depotLockerMap := Function.update player.depotLockerMap id (some { items := [] }) }

/-- What `internalUseItem` does with a locker, which is on a tile or has none. -/
def useLocker (onTile : Bool) : Player :=
  let player := getDepotLocker player id
  { player with
    depotLockerMap := Function.update player.depotLockerMap id
      ((player.depotLockerMap id).map fun locker => { locker with onTile }) }

/-- The locker of an id and the tile that it is on, as the last parents of a chain. -/
def lockerChain : List Node :=
  match player.depotLockerMap id with
  | none => []
  | some locker => .depotLocker true :: if locker.onTile then [.tile] else []

/-- The locker of an id is to be saved if a notification comes to it. -/
def notify (chain : List Node) : Player :=
  if notifies chain then
    { player with
      depotLockerMap := Function.update player.depotLockerMap id
        ((player.depotLockerMap id).map fun locker => { locker with save := true }) }
  else player

end

/-- A container that is an item. -/
def nodeOf (item : Item) : Option Node :=
  match item.kind with
  | .container => some .container
  | .depotLocker => some (.depotLocker false)
  | .depotChest => some .depotChest
  | _ => none

/-- The containers that a path leads through, from the last to the first. -/
def climb : List Nat → List ItemTree → Option (List Node)
  | [], _ => some []
  | index :: path, trees => do
    let tree ← trees[index]?
    let node ← nodeOf tree.value.item
    let chain ← climb path tree.children
    return chain ++ [node]

inductive Label where
  | getDepotChest (id : Fin 100)
  | getDepotLocker (id : Fin 100)
  | useLocker (id : Fin 100) (onTile : Bool)
  /-- Something is added to a chest, or to the container in it that a path leads to, or is removed from there; the items are
  those of the chest after that. -/
  | inChest (id : Fin 100) (path : List Nat) (items : List ItemTree)
  /-- The same for a locker, besides its chest. -/
  | inLocker (id : Fin 100) (path : List Nat) (items : List ItemTree)

def step (player : Player) : Label → Player
  | .getDepotChest id => getDepotChest player id
  | .getDepotLocker id => getDepotLocker player id
  | .useLocker id onTile => useLocker player id onTile
  | .inChest id path items =>
    match player.depotChests id, climb path items with
    | some _, some chain =>
      notify { player with depotChests := Function.update player.depotChests id (some items) } id
        (chain ++ .depotChest :: lockerChain player id)
    | _, _ => player
  | .inLocker id path items =>
    match player.depotLockerMap id, climb path items with
    | some locker, some chain =>
      notify { player with depotLockerMap := Function.update player.depotLockerMap id (some { locker with items }) } id
        (chain ++ lockerChain player id)
    | _, _ => player

section

variable (player : Player)

def needsSave : Bool := (List.finRange 100).any fun id => (player.depotLockerMap id).any Locker.save

def lockerItems (id : Fin 100) : List ItemTree := (player.depotLockerMap id).elim [] Locker.items

def chestItems (id : Fin 100) : List ItemTree := (player.depotChests id).getD []

def itemList (items : Fin 100 → List ItemTree) : List (Fin 100 × ItemTree) :=
  (List.finRange 100).flatMap fun id => (items id).map (id, ·)

/-- The depots in `savePlayer`. -/
def savePlayer (tables : Tables) : Tables :=
  if needsSave player then
    { lockerItems := itemList fun id => (lockerItems player id).filter fun item => item.value.item.id ≠ itemDepot
      depotItems := itemList (chestItems player) }
  else tables

def itemsOf (rows : List (Fin 100 × ItemTree)) (id : Fin 100) : List ItemTree :=
  rows.filterMap fun row => if row.1 = id then some row.2 else none

/-- The depots in `loadPlayer`: a locker comes with its chest, a chest comes without its locker. -/
def loadPlayer (tables : Tables) : Player where
  depotLockerMap := fun id =>
    if (itemsOf tables.lockerItems id).isEmpty then none else some { items := itemsOf tables.lockerItems id }
  depotChests := fun id =>
    if (itemsOf tables.lockerItems id).isEmpty ∧ (itemsOf tables.depotItems id).isEmpty then none
    else some (itemsOf tables.depotItems id)

/-- The depots of two players hold the same. -/
def SameItems (other : Player) : Prop :=
  ∀ id, lockerItems player id = lockerItems other id ∧ chestItems player id = chestItems other id

end

/-- A node that is an item in a depot. -/
def Stored (node : Node) : Prop := node ≠ .tile ∧ node ≠ .depotLocker true

theorem stored_of_nodeOf {item : Item} {node : Node} (found : nodeOf item = some node) : Stored node := by
  unfold nodeOf at found
  cases kind : item.kind <;> rw [kind] at found <;> cases found <;> exact ⟨nofun, nofun⟩

theorem stored_of_climb {path : List Nat} {trees : List ItemTree} {chain : List Node} (found : climb path trees = some chain) :
    ∀ node ∈ chain, Stored node := by
  induction path generalizing trees chain with
  | nil =>
    rw [climb] at found
    cases found
    exact nofun
  | cons index path ih =>
    rw [climb] at found
    obtain ⟨tree, _, found⟩ := Option.bind_eq_some_iff.mp found
    obtain ⟨node, kind, found⟩ := Option.bind_eq_some_iff.mp found
    obtain ⟨inner, below, found⟩ := Option.bind_eq_some_iff.mp found
    cases found
    intro other listed
    rcases mem_append.mp listed with under | here
    · exact ih below other under
    · rw [mem_singleton.mp here]
      exact stored_of_nodeOf kind

/-- Without a locker of the player nothing is to be saved. -/
theorem notifies_unseen {chain : List Node} (unseen : .depotLocker true ∉ chain) : notifies chain = false := by
  fun_induction notifies chain with
  | case1 => rfl
  | case2 own parents ih =>
    cases own with
    | true => exact absurd mem_cons_self unseen
    | false => exact ih (fun listed => unseen (mem_cons_of_mem _ listed))
  | case3 parents ih => exact ih (fun listed => unseen (mem_cons_of_mem _ listed))
  | case4 => rfl
  | case5 parents higher ih =>
    apply ih
    intro listed
    rw [getTopParent_eq_drop] at listed
    exact unseen (mem_of_mem_drop listed)
  | case6 parents lowest ih => exact ih (fun listed => unseen (mem_cons_of_mem _ listed))

/-- A locker of the player with what it is on. -/
def own (onTile : Bool) : List Node := .depotLocker true :: if onTile then [.tile] else []

/-- The root of what is in a locker is the locker or something in it. -/
theorem getTopParent_own (front : List Node) (onTile : Bool) :
    ∃ count, getTopParent (front ++ own onTile) = front.drop count ++ own onTile := by
  rw [getTopParent_eq_drop, length_append]
  cases onTile with
  | true =>
    have here : front.length + (own true).length - 2 = front.length := rfl
    refine ⟨front.length, ?_⟩
    rw [here, drop_append_of_le_length (Nat.le_refl _)]
  | false =>
    have here : front.length + (own false).length - 2 = front.length - 1 := rfl
    refine ⟨front.length - 1, ?_⟩
    rw [here, drop_append_of_le_length (Nat.sub_le _ _)]

/-- From any depth in a locker the notifications come to it. -/
theorem notifies_own (front : List Node) (stored : ∀ node ∈ front, Stored node) (onTile : Bool) :
    notifies (front ++ own onTile) = true := by
  induction length : front.length using Nat.strong_induction_on generalizing front with
  | _ size ih =>
    cases front with
    | nil =>
      rw [nil_append, own, notifies]
      rfl
    | cons node front =>
      have below : notifies (front ++ own onTile) = true := by
        refine ih front.length ?_ front (fun other listed => stored other (mem_cons_of_mem _ listed)) rfl
        rw [← length]
        exact Nat.lt_succ_self _
      rw [cons_append]
      cases node with
      | tile => exact absurd rfl (stored .tile mem_cons_self).1
      | depotLocker mine =>
        rw [notifies, below]
        exact Bool.or_true _
      | depotChest =>
        rw [notifies]
        exact below
      | container =>
        rw [notifies]
        split_ifs with higher
        · obtain ⟨count, top⟩ := getTopParent_own (.container :: front) onTile
          rw [cons_append] at top
          rw [top] at higher ⊢
          refine ih (List.drop count (.container :: front)).length ?_ _ ?_ rfl
          · rw [length_append, length_append] at higher
            rw [← length, length_cons]
            omega
          · exact fun other listed => stored other (mem_of_mem_drop listed)
        · exact below

theorem lockerChain_some {player : Player} {id : Fin 100} {locker : Locker} (found : player.depotLockerMap id = some locker) :
    lockerChain player id = own locker.onTile := by
  rw [lockerChain, found]
  rfl

theorem notifies_chest {chain : List Node} (stored : ∀ node ∈ chain, Stored node) (player : Player) (id : Fin 100) :
    notifies (chain ++ .depotChest :: lockerChain player id) = (player.depotLockerMap id).isSome := by
  cases found : player.depotLockerMap id with
  | none =>
    apply notifies_unseen
    rw [lockerChain, found]
    intro listed
    rcases mem_append.mp listed with under | here
    · exact (stored _ under).2 rfl
    · cases mem_singleton.mp here
  | some locker =>
    rw [lockerChain_some found, append_cons]
    apply notifies_own
    intro node listed
    rcases mem_append.mp listed with under | here
    · exact stored node under
    · rw [mem_singleton.mp here]
      exact ⟨nofun, nofun⟩

section

/-- A change that a locker is told of: one in the locker, or one in its chest. -/
def Notices (player : Player) : Label → Prop
  | .inChest id path items =>
    (player.depotChests id).isSome ∧ (climb path items).isSome ∧ (player.depotLockerMap id).isSome
  | .inLocker id path items => (climb path items).isSome ∧ (player.depotLockerMap id).isSome
  | .getDepotChest _ | .getDepotLocker _ | .useLocker _ _ => False

/-- A run in which a locker is told of some change. -/
def Noticed : Player → List Label → Prop
  | _, [] => False
  | player, label :: labels => Notices player label ∨ Noticed (step player label) labels

variable {player : Player} {id : Fin 100}

theorem needsSave_iff : needsSave player = true ↔ ∃ id, (player.depotLockerMap id).any Locker.save = true := by
  simp [needsSave]

/-- A locker that comes or changes, but not whether it is to be saved. -/
theorem needsSave_update {locker : Option Locker} (same : locker.any Locker.save = (player.depotLockerMap id).any Locker.save)
    (chests : Fin 100 → Option (List ItemTree)) :
    needsSave ⟨update player.depotLockerMap id locker, chests⟩ = needsSave player := by
  unfold needsSave
  congr 1
  funext other
  dsimp only
  by_cases here : other = id
  · rw [here, update_self, same]
  · rw [update_of_ne here]

theorem needsSave_notify (chain : List Node) :
    needsSave (notify player id chain) = true ↔
      needsSave player = true ∨ notifies chain = true ∧ (player.depotLockerMap id).isSome = true := by
  rw [notify]
  split_ifs with noticed
  · rw [needsSave_iff, needsSave_iff]
    constructor
    · intro saved
      obtain ⟨other, save⟩ := saved
      by_cases here : other = id
      · dsimp only at save
        rw [here, update_self] at save
        cases found : player.depotLockerMap id with
        | none =>
          rw [found] at save
          cases save
        | some locker => exact .inr ⟨noticed, rfl⟩
      · refine .inl ⟨other, ?_⟩
        dsimp only at save
        rwa [update_of_ne here] at save
    · intro saved
      rcases saved with ⟨other, save⟩ | ⟨_, found⟩
      · refine ⟨other, ?_⟩
        dsimp only
        by_cases here : other = id
        · rw [here] at save ⊢
          rw [update_self]
          cases found : player.depotLockerMap id with
          | none =>
            rw [found] at save
            cases save
          | some locker => rfl
        · rw [update_of_ne here]
          exact save
      · refine ⟨id, ?_⟩
        obtain ⟨locker, found⟩ := Option.isSome_iff_exists.mp found
        dsimp only
        rw [update_self, found]
        rfl
  · constructor
    · exact .inl
    · intro saved
      rcases saved with already | ⟨climbs, _⟩
      · exact already
      · exact absurd climbs noticed

theorem depotChests_notify (chain : List Node) : (notify player id chain).depotChests = player.depotChests := by
  rw [notify]
  split_ifs <;> rfl

theorem depotLockerMap_getDepotChest : (getDepotChest player id).depotLockerMap = player.depotLockerMap := by
  rw [getDepotChest]
  cases player.depotChests id <;> rfl

theorem needsSave_getDepotLocker : needsSave (getDepotLocker player id) = needsSave player := by
  rw [getDepotLocker]
  cases found : player.depotLockerMap id with
  | some locker => rfl
  | none =>
    apply needsSave_update
    rw [found]
    rfl

/-- What a step does to whether the depots are to be saved. -/
theorem needsSave_step (player : Player) (label : Label) :
    needsSave (step player label) = true ↔ needsSave player = true ∨ Notices player label := by
  cases label with
  | getDepotChest id =>
    have same : needsSave (getDepotChest player id) = needsSave player := by
      rw [needsSave, depotLockerMap_getDepotChest, ← needsSave]
    rw [step, same, Notices, or_false]
  | getDepotLocker id => rw [step, needsSave_getDepotLocker, Notices, or_false]
  | useLocker id onTile =>
    have same : needsSave (useLocker player id onTile) = needsSave (getDepotLocker player id) := by
      apply needsSave_update
      cases (getDepotLocker player id).depotLockerMap id <;> rfl
    rw [step, same, needsSave_getDepotLocker, Notices, or_false]
  | inChest id path items =>
    rw [step, Notices]
    cases player.depotChests id with
    | none => simp
    | some before =>
      cases found : climb path items with
      | none => simp
      | some chain =>
        dsimp only
        rw [needsSave_notify, notifies_chest (stored_of_climb found)]
        simp [needsSave]
  | inLocker id path items =>
    rw [step, Notices]
    cases here : player.depotLockerMap id with
    | none => simp
    | some locker =>
      cases found : climb path items with
      | none => simp
      | some chain =>
        have same : (some { locker with items : Locker }).any Locker.save = (player.depotLockerMap id).any Locker.save := by
          rw [here]
          rfl
        dsimp only
        rw [needsSave_notify, needsSave_update same, lockerChain_some here, notifies_own _ (stored_of_climb found)]
        simp

theorem needsSave_run (player : Player) (labels : List Label) :
    needsSave (labels.foldl step player) = true ↔ needsSave player = true ∨ Noticed player labels := by
  induction labels generalizing player with
  | nil => exact (or_false _).symm ▸ Iff.rfl
  | cons label labels ih => rw [foldl_cons, ih, needsSave_step, Noticed, or_assoc]

end

section

variable {player : Player}

/-- The items of a depot are found among those of all depots. -/
theorem itemsOf_itemList (items : Fin 100 → List ItemTree) (id : Fin 100) : itemsOf (itemList items) id = items id := by
  have each (ids : List (Fin 100)) (distinct : ids.Nodup) :
      itemsOf (ids.flatMap fun id => (items id).map (id, ·)) id = if id ∈ ids then items id else [] := by
    induction ids with
    | nil => rfl
    | cons other ids ih =>
      have rest := ih distinct.of_cons
      rw [flatMap_cons, itemsOf, filterMap_append, ← itemsOf, ← itemsOf, rest, itemsOf, filterMap_map]
      by_cases here : other = id
      · have later : id ∉ ids := here ▸ (nodup_cons.mp distinct).1
        rw [if_neg later, if_pos (here ▸ mem_cons_self), append_nil, here]
        simp
      · have absent : List.filterMap ((fun row : Fin 100 × ItemTree => if row.1 = id then some row.2 else none) ∘ (other, ·))
            (items other) = [] := by
          simp [here]
        rw [absent, nil_append]
        simp [mem_cons, Ne.symm here]
  rw [itemList, each _ (nodup_finRange 100), if_pos (mem_finRange id)]

theorem lockerItems_loadPlayer (tables : Tables) (id : Fin 100) :
    lockerItems (loadPlayer tables) id = itemsOf tables.lockerItems id := by
  rw [lockerItems, loadPlayer]
  dsimp only
  split_ifs with empty
  · exact (List.isEmpty_iff.mp empty).symm
  · rfl

theorem chestItems_loadPlayer (tables : Tables) (id : Fin 100) :
    chestItems (loadPlayer tables) id = itemsOf tables.depotItems id := by
  rw [chestItems, loadPlayer]
  dsimp only
  split_ifs with empty
  · exact (List.isEmpty_iff.mp empty.2).symm
  · rfl

theorem needsSave_loadPlayer (tables : Tables) : needsSave (loadPlayer tables) = false := by
  rw [Bool.eq_false_iff, Ne, needsSave_iff]
  intro saved
  obtain ⟨id, save⟩ := saved
  rw [loadPlayer] at save
  dsimp only at save
  split_ifs at save
  · cases save
  · exact nomatch save

/-- Depots that are written come back, but for what is taken for the chest of a locker. -/
theorem sameItems_of_needsSave (saved : needsSave player = true) (tables : Tables) :
    SameItems (loadPlayer (savePlayer player tables)) player ↔
      ∀ id, ∀ item ∈ lockerItems player id, item.value.item.id ≠ itemDepot := by
  rw [savePlayer, if_pos saved]
  constructor
  · intro same id item listed chest
    have kept := (same id).1
    rw [lockerItems_loadPlayer, itemsOf_itemList, filter_eq_self] at kept
    exact of_decide_eq_true (kept item listed) chest
  · intro plain id
    rw [lockerItems_loadPlayer, chestItems_loadPlayer, itemsOf_itemList, itemsOf_itemList]
    refine ⟨?_, rfl⟩
    rw [filter_eq_self]
    exact fun item listed => decide_eq_true (plain id item listed)

/-- A reload gives the depots back just when some locker was told of a change and no locker holds another thing with the id of
a depot chest, or no locker was told and nothing is other than it was loaded. -/
theorem reload_iff (tables : Tables) (labels : List Label) :
    SameItems (loadPlayer (savePlayer (labels.foldl step (loadPlayer tables)) tables)) (labels.foldl step (loadPlayer tables)) ↔
      (Noticed (loadPlayer tables) labels ∧
        ∀ id, ∀ item ∈ lockerItems (labels.foldl step (loadPlayer tables)) id, item.value.item.id ≠ itemDepot) ∨
      (¬ Noticed (loadPlayer tables) labels ∧ SameItems (loadPlayer tables) (labels.foldl step (loadPlayer tables))) := by
  have told : needsSave (labels.foldl step (loadPlayer tables)) = true ↔ Noticed (loadPlayer tables) labels := by
    rw [needsSave_run, needsSave_loadPlayer]
    exact or_iff_right nofun
  by_cases noticed : Noticed (loadPlayer tables) labels
  · rw [sameItems_of_needsSave (told.mpr noticed)]
    exact ⟨fun plain => .inl ⟨noticed, plain⟩, fun cases => cases.elim And.right fun other => absurd noticed other.1⟩
  · rw [savePlayer, if_neg (fun saved => noticed (told.mp saved))]
    exact ⟨fun same => .inr ⟨noticed, same⟩, fun cases => cases.elim (fun other => absurd other.1 noticed) And.right⟩

def givenSword : List Label := [.getDepotChest 1, .inChest 1 [] [.node { item := sword } []]]

/-- The sword is not written. -/
theorem sword_forgotten :
    ¬ SameItems (loadPlayer (savePlayer (givenSword.foldl step (loadPlayer ⟨[], []⟩)) ⟨[], []⟩))
      (givenSword.foldl step (loadPlayer ⟨[], []⟩)) := by
  have silent : ¬ Noticed (loadPlayer ⟨[], []⟩) givenSword := by
    simp [givenSword, Noticed, Notices, step, getDepotChest, loadPlayer, itemsOf]
  have kept : ¬ needsSave (givenSword.foldl step (loadPlayer ⟨[], []⟩)) = true := by
    rw [needsSave_run, needsSave_loadPlayer]
    exact fun saved => saved.elim nofun silent
  have held : chestItems (givenSword.foldl step (loadPlayer ⟨[], []⟩)) 1 = [.node { item := sword } []] := by
    simp [givenSword, step, getDepotChest, loadPlayer, itemsOf, climb, chestItems, depotChests_notify]
  intro same
  have lost := (same 1).2
  rw [savePlayer, if_neg kept, chestItems_loadPlayer, held] at lost
  cases lost

end

end Styller.Depot
