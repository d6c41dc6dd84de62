import Styller.World.MoveConserves

/-! `Game::internalMoveItem` when it fails: what it has changed by then. -/

namespace Styller.Game

open Library Layout

/-- Both cylinders hold the same items with the same counts, a player in the same slots. -/
structure Untouched (before after : Layout) (source target : Cylinder) : Prop where
  contents : ∀ cylinder, cylinder = source ∨ cylinder = target →
    (after.contents cylinder).Perm (before.contents cylinder)
  inventory : ∀ owner, .player owner = source ∨ .player owner = target →
    after.inventory owner = before.inventory owner
  same : ∀ cylinder ptr, cylinder = source ∨ cylinder = target → ptr ∈ before.contents cylinder →
    after.id ptr = before.id ptr ∧ after.count ptr = before.count ptr

/-- As much of a stack as the destination has room for has moved, and nothing else. -/
structure PartlyMoved (env : Env) (game after : Game) (move : Move) : Prop where
  stackable : (game.items move.item).isStackable env.items = true
  short : (game.roomFor env move (game.destination env move)).2 < move.count
  delivered : Delivered env game.layout after.layout move.fromCylinder
    (game.destination env move).cylinder move.item (game.roomFor env move (game.destination env move)).2

/-- A move that answers with an error has moved nothing, or the part that fits. -/
def Atomic (env : Env) (game : Game) (move : Move) : Prop :=
  ∀ ret after, game.internalMoveItem env move = some (ret, after) → ret ≠ .noError →
    Untouched game.layout after.layout move.fromCylinder (game.destination env move).cylinder ∨
      PartlyMoved env game after move

/-- The move is carried out with a part of a stack, since there is no room for more. -/
structure Short (env : Env) (game : Game) (move : Move) : Prop where
  apart : (game.destination env move).toItem ≠ some move.item
  allowed : game.addAnswer env move = .noError
  admitted : game.refusal env move (game.destination env move) = .noError
  stackable : (game.items move.item).isStackable env.items = true
  less : (game.roomFor env move (game.destination env move)).2 < move.count
  answer : (game.roomFor env move (game.destination env move)).1 ≠ .noError

/-- What keeps a failing move from doing harm: an exchange between two cylinders is
followed by no refusal, and a part of a stack comes to a slot where it can grow to 100. -/
structure Careful (env : Env) (game : Game) (move : Move) : Prop where
  exchange : ∀ toItem, Exchanges env game move toItem → game.Keeps env move.fromCylinder toItem ∧
    (move.fromCylinder ≠ (game.destination env move).cylinder →
      game.answerAfterSwap env move toItem = .noError)
  slot : ∀ owner, (game.destination env move).cylinder = .player owner → Short env game move →
    ∃ slot ∈ slots, (game.destination env move).index = slot ∧
      100 ≤ (game.items move.item).getStackSize env.items

theorem Untouched.refl (layout : Layout) (source target : Cylinder) :
    Untouched layout layout source target where
  contents := fun _ _ => List.Perm.refl _
  inventory := fun _ _ => rfl
  same := fun _ _ _ _ => ⟨rfl, rfl⟩

theorem Untouched.total {before after : Layout} {source target : Cylinder} (items : ItemTypes)
    (untouched : Untouched before after source target) (type : Nat) :
    after.total items type {source, target} = before.total items type {source, target} := by
  apply Stock.total_congr
  intro cylinder listed
  have here : cylinder = source ∨ cylinder = target := by simpa using listed
  have amounts : ∀ ptr ∈ before.contents cylinder,
      (after.stock items).amount type ptr = (before.stock items).amount type ptr := by
    intro ptr member
    obtain ⟨id, count⟩ := untouched.same cylinder ptr here member
    have units : after.units items ptr = before.units items ptr := by simp only [units, id, count]
    change (if after.id ptr = type then after.units items ptr else 0) =
      if before.id ptr = type then before.units items ptr else 0
    rw [id, units]
  have sums := ((untouched.contents cylinder here).map ((after.stock items).amount type)).sum_eq
  unfold Stock.held
  exact sums.trans (congrArg List.sum (List.map_congr_left amounts))

variable {env : Env} {game : Game} {move : Move}

theorem Atomic.kept (atomic : Atomic env game move) {ret : ReturnValue} {after : Game}
    (moved : game.internalMoveItem env move = some (ret, after)) (failed : ret ≠ .noError)
    {other : ItemPtr} (different : other ≠ move.item)
    (member : other ∈ game.contents (game.destination env move).cylinder) :
    other ∈ after.contents (game.destination env move).cylinder := by
  rcases atomic ret after moved failed with untouched | part
  · exact (untouched.contents _ (.inr rfl)).symm.subset member
  · exact part.delivered.others _ other different member

/-- The units of the item's type are all there. -/
theorem Atomic.total (atomic : Atomic env game move) {ret : ReturnValue} {after : Game}
    (moved : game.internalMoveItem env move = some (ret, after)) (failed : ret ≠ .noError) (type : Nat) :
    after.layout.total env.items type {move.fromCylinder, (game.destination env move).cylinder} =
      game.layout.total env.items type {move.fromCylinder, (game.destination env move).cylinder} := by
  rcases atomic ret after moved failed with untouched | part
  · exact untouched.total env.items type
  · exact part.delivered.total_same type (by simp) (by simp)

/-- Where a transfer fails, only a part of a stack has been moved. -/
theorem transfer_failed {dest : Destination} (failed : (game.transfer env move dest).1 ≠ .noError) :
    (game.items move.item).isStackable env.items = true ∧ (game.roomFor env move dest).2 < move.count ∧
      (game.roomFor env move dest).1 ≠ .noError := by
  unfold transfer at failed
  simp only at failed
  split at failed
  · rename_i part
    exact ⟨part.1, part.2, failed⟩
  · exact absurd rfl failed

section
variable (sound : game.layout.Sound env.items) (held : move.item ∈ game.contents move.fromCylinder)

/-- A slot that asks for an exchange has no room. -/
theorem refusal_needExchange {owner : PlayerId} {dest : Destination}
    (live : game.layout.Live move.fromCylinder) (here : dest.cylinder = .player owner)
    (needs : game.queryAdd env dest.cylinder dest.index move.item move.count dest.flags move.actor =
      .needExchange) : game.refusal env move dest ≠ .noError := by
  intro admitted
  rw [here] at needs
  obtain ⟨other, inSlot, differs⟩ := playerQueryAdd_needExchange env needs
  obtain ⟨slot, listed, index, _⟩ := getInventoryItem_some inSlot
  have range := mem_slots.mp listed
  have notAnywhere : ¬ dest.index = indexWhereever := by
    unfold indexWhereever
    omega
  have apart : ¬ ((game.items other).isStackable env.items = true ∧
      (game.items move.item).equals (some (game.items other)) = true ∧ (game.items other).count < 100) := by
    rintro ⟨stackable, same, _⟩
    rcases differs with single | otherId
    · exact single stackable
    · exact otherId (Item.id_eq_of_equals same).symm
  have full : (game.roomFor env move dest).2 = 0 := by
    simp only [roomFor, here, queryMaxCount, playerQueryMaxCount, if_neg notAnywhere, inSlot, if_neg apart]
  obtain ⟨_, _, positive, _⟩ := refusal_noError live admitted
  have less : game.moveCount env move dest ≤ (game.roomFor env move dest).2 := moveCount_le
  omega

include sound held

theorem partlyMoved_of_short (careful : Careful env game move)
    (apart : (game.destination env move).toItem ≠ some move.item)
    (allowed : game.addAnswer env move = .noError ∨ game.addAnswer env move = .needExchange)
    (admitted : game.refusal env move (game.destination env move) = .noError)
    (failed : (game.transfer env move (game.destination env move)).1 ≠ .noError) :
    PartlyMoved env game (game.transfer env move (game.destination env move)).2 move := by
  obtain ⟨stackable, less, answer⟩ := transfer_failed failed
  have live := sound.live move.fromCylinder move.item held
  obtain ⟨_, inside, positive, enough⟩ := refusal_noError live admitted
  have settled : game.Settled env move.item (game.destination env move) := destination_settled env move
  have noTile : ∀ pos, (game.destination env move).cylinder ≠ .tile pos := by
    intro pos here
    exact answer (by simp only [roomFor, here, queryMaxCount])
  have placed : game.Placeable env move (game.destination env move)
      (game.moveCount env move (game.destination env move)) ∧
      game.layout.Live (game.destination env move).cylinder := by
    cases here : (game.destination env move).cylinder with
    | tile pos => exact absurd here (noTile pos)
    | player owner =>
      refine ⟨?_, fun holder same => by cases same⟩
      rcases allowed with allowed | needs
      · obtain ⟨slot, listed, index, large⟩ :=
          careful.slot owner here ⟨apart, allowed, admitted, stackable, less, answer⟩
        exact player_placeable here settled listed index (fun _ _ => large) positive
      · exact absurd admitted (refusal_needExchange live here needs)
    | item holder =>
      have container : (game.items holder).isContainer = true := by
        by_contra none
        have answer' := answer
        have room : 0 < (game.roomFor env move (game.destination env move)).2 :=
          Nat.lt_of_lt_of_le positive moveCount_le
        simp only [roomFor, here, queryMaxCount] at answer' room
        unfold Item.isContainer at none
        cases kind : (game.items holder).kind <;> simp [kind, ItemClass.isContainer] at none answer' room
      have limited : (game.destination env move).flags.noLimit = false := by
        rw [Bool.eq_false_iff]
        intro unlimited
        apply answer
        simp only [roomFor, here, queryMaxCount_container env container, containerQueryMaxCount, unlimited,
          if_true]
      refine ⟨container_placeable here settled container (.inr limited) positive, ?_⟩
      intro other same
      cases same
      exact container
  have deliverable : game.Deliverable env move (game.destination env move)
      (game.moveCount env move (game.destination env move)) :=
    ⟨sound, inside, enough, apart, settled.present, placed.2, fun pos here => absurd here (noTile pos),
      placed.1⟩
  have delivered := transfer_delivered deliverable (fun pos here => absurd here (noTile pos))
    (fun pos here => absurd here (noTile pos))
  have all : game.moveCount env move (game.destination env move) =
      (game.roomFor env move (game.destination env move)).2 := by
    rw [moveCount, if_pos stackable]
    omega
  rw [if_pos stackable, all] at delivered
  exact ⟨stackable, less, delivered⟩

/-- An exchange within one cylinder. -/
theorem Exchanges.untouched {toItem : ItemPtr} (exchanges : Exchanges env game move toItem)
    (keeps : game.Keeps env move.fromCylinder toItem)
    (same : move.fromCylinder = (game.destination env move).cylinder) :
    Untouched game.layout (game.swapOut env move (game.destination env move) toItem).layout
      move.fromCylinder (game.destination env move).cylinder := by
  have exchangeable := exchanges.exchangeable sound held
  obtain ⟨take, put⟩ := exchangeable.swapOut keeps
  refine ⟨?_, ?_, ?_⟩
  · intro cylinder here
    have here : cylinder = move.fromCylinder := here.elim id (fun target => target.trans same.symm)
    have taken := take.here
    have here' := put.here
    generalize game.removeThing env (game.destination env move).cylinder toItem
      (game.items toItem).count = removed at taken here'
    rw [← same] at taken
    rw [here]
    exact here'.trans taken.symm
  · intro owner here
    have here : .player owner = move.fromCylinder := here.elim id (fun target => target.trans same.symm)
    exact absurd here.symm (exchangeable.noPlayer owner)
  · intro _ ptr _ _
    rw [put.id, put.count, take.id, take.count]
    exact ⟨rfl, rfl⟩

/-- A transfer after an exchange does not fail. -/
theorem Exchanges.transfer_noError {toItem : ItemPtr} (exchanges : Exchanges env game move toItem)
    (keeps : game.Keeps env move.fromCylinder toItem)
    (admitted : game.answerAfterSwap env move toItem = .noError) :
    ((game.swapOut env move (game.destination env move) toItem).transfer env move
      (game.freed env move)).1 = .noError := by
  have exchangeable := exchanges.exchangeable sound held
  obtain ⟨take, put⟩ := exchangeable.swapOut keeps
  obtain ⟨allowed, _⟩ := answerAfterSwap_noError admitted
  by_contra failed
  obtain ⟨stackable, _, answer⟩ := transfer_failed failed
  have sameId : ((game.swapOut env move (game.destination env move) toItem).items move.item).id =
      (game.items move.item).id := congrFun (put.id.trans take.id) move.item
  have stackable : (game.items move.item).isStackable env.items = true := by
    rw [Item.isStackable, ← sameId]
    exact stackable
  rcases queryAdd_needExchange env exchanges.needs with hangs | ⟨owner, other, here, inSlot, _⟩
  · have plain := (env.items.stackable_plain _ stackable).notHangable
    have hangs : (env.items.get (game.items move.item).id).isHangable = true := hangs
    rw [plain] at hangs
    cases hangs
  · obtain ⟨slot, listed, index, _⟩ := getInventoryItem_some inSlot
    have range := mem_slots.mp listed
    have notAnywhere : ¬ ((slot : Int) = indexWhereever) := by
      unfold indexWhereever
      omega
    have empty := exchangeable.emptied keeps here listed index
    rw [here, index] at allowed
    apply answer
    simp only [roomFor, here, index, queryMaxCount, playerQueryMaxCount, if_neg notAnywhere,
      getInventoryItem_slot listed, empty]
    exact congrArg Prod.fst (if_pos allowed)

theorem atomic_of_careful (careful : game.Asked env move → Careful env game move) :
    Atomic env game move := by
  intro ret after moved failed
  by_cases asked : game.Asked env move
  · have careful := careful asked
    generalize result_eq : (ret, after) = result at moved
    have retEq : ret = result.1 := congrArg Prod.fst result_eq
    have afterEq : after = result.2 := congrArg Prod.snd result_eq
    subst retEq afterEq
    cases internalMoveItem_outcome moved with
    | unchanged _ => exact .inl (Untouched.refl _ _ _)
    | moved apart allowed admitted =>
      exact .inr (partlyMoved_of_short sound held careful apart allowed admitted failed)
    | refused toItem exchanges refused =>
      obtain ⟨keeps, goesOn⟩ := careful.exchange toItem exchanges
      by_cases same : move.fromCylinder = (game.destination env move).cylinder
      · exact .inl (exchanges.untouched sound held keeps same)
      · exact absurd (goesOn same) refused
    | exchanged toItem exchanges admitted =>
      obtain ⟨keeps, _⟩ := careful.exchange toItem exchanges
      exact absurd (exchanges.transfer_noError sound held keeps admitted) failed
  · have same : after = game := internalMoveItem_of_not_asked asked moved
    subst same
    exact .inl (Untouched.refl _ _ _)

end

section

theorem updateThing_player (owner : PlayerId) (stack : ItemPtr) (itemId count : Nat) :
    (game.updateThing env (.player owner) stack itemId count).players = game.players ∧
      (game.updateThing env (.player owner) stack itemId count).next = game.next := by
  simp only [updateThing, playerUpdateThing]
  split
  · exact ⟨rfl, rfl⟩
  · exact ⟨rfl, rfl⟩

theorem cloneWithCount_players (ptr : ItemPtr) (newCount : Int) :
    (game.cloneWithCount env ptr newCount).players = game.players := by
  simp only [cloneWithCount, clone, setItem_players]
  split
  · rfl
  · split
    · rfl
    · split
      · rfl
      · rfl

theorem slot_unique (nodup : (game.contents (.player owner)).Nodup) {first second : Nat} {ptr : ItemPtr}
    (inFirst : first ∈ slots) (inSecond : second ∈ slots)
    (firstHas : (game.players owner).inventory first = some ptr)
    (secondHas : (game.players owner).inventory second = some ptr) : first = second := by
  by_contra different
  have pairs := List.pairwise_filterMap.mp nodup
  have symm : Std.Symm (fun a b : Nat => ∀ item, (game.players owner).inventory a = some item →
      ∀ other, (game.players owner).inventory b = some other → item ≠ other) :=
    ⟨fun _ _ apart item inFirst other inSecond => (apart other inSecond item inFirst).symm⟩
  exact pairs.forall inFirst inSecond different ptr firstHas ptr secondHas rfl

variable {owner : PlayerId}

/-- An empty or unknown slot takes all that may come to it. -/
theorem Short.occupied (short : Short env game move)
    (here : (game.destination env move).cylinder = .player owner)
    (notAnywhere : (game.destination env move).index ≠ indexWhereever) :
    game.getInventoryItem owner (game.destination env move).index ≠ none := by
  intro empty
  have allowed := short.allowed
  unfold addAnswer at allowed
  apply short.answer
  rw [here] at allowed
  simp only [roomFor, here, queryMaxCount, playerQueryMaxCount, if_neg notAnywhere, empty]
  exact congrArg Prod.fst (if_pos allowed)

variable (sound : game.layout.Sound env.items) (held : move.item ∈ game.contents move.fromCylinder)
include sound held

/-- What comes to a player but to no slot is dropped. -/
theorem Short.dropped (short : Short env game move)
    (here : (game.destination env move).cylinder = .player owner)
    (anywhere : (game.destination env move).index = indexWhereever) :
    (game.transfer env move (game.destination env move)).2.layout.total env.items
        (game.items move.item).id {move.fromCylinder, (game.destination env move).cylinder} <
      game.layout.total env.items (game.items move.item).id
        {move.fromCylinder, (game.destination env move).cylinder} := by
  obtain ⟨_, inside, positive, enough⟩ :=
    refusal_noError (sound.live move.fromCylinder move.item held) short.admitted
  have enough := enough short.stackable
  have reduced := removeThing_reduced env game sound inside (fun _ => enough)
  rw [if_pos short.stackable] at reduced
  have noItem : (game.destination env move).toItem = none := by
    rw [(destination_settled env move).occupant owner here, anywhere]
    rfl
  rw [layout_transfer (fun pos tile => by rw [here] at tile; cases tile)]
  generalize game.moveCount env move (game.destination env move) = m at positive enough reduced
  have small := sound.small move.item
  have small : (game.items move.item).count < 256 := small
  have exactly : toInt32 ((m : Int) - (0 : Nat)) = (m : Int) := by
    rw [toInt32, Int.bmod_eq_of_le] <;> omega
  have more : (m : Int) > 0 := by omega
  simp only [deliver, if_pos short.stackable, noItem, mergesWith, Option.filter_none, mergeCount, mergeStack,
    exactly, splitStack, if_pos more, addMoved, here, anywhere, addThing, playerAddThing]
  rw [if_pos (.inl (by decide))]
  have stackable : ((game.removeThing env move.fromCylinder move.item m).items move.item).isStackable
      env.items = true := by
    have sameId : ((game.removeThing env move.fromCylinder move.item m).items move.item).id =
        (game.items move.item).id := congrFun reduced.id move.item
    rw [Item.isStackable, sameId]
    exact short.stackable
  obtain ⟨copy, create, _⟩ := cloneWithCount_create env _ reduced.sound stackable (m : Int)
  rw [create.total reduced.sound]
  have total := reduced.total (game.items move.item).id {move.fromCylinder, .player owner}
  have share : game.layout.share move.fromCylinder move.item m (game.items move.item).id
      {move.fromCylinder, .player owner} = m := if_pos ⟨by simp, rfl⟩
  omega

/-- A stack that cannot grow to 100 is overwritten by what is left over. -/
theorem Short.overwritten (short : Short env game move)
    (here : (game.destination env move).cylinder = .player owner) {slot : Nat} (listed : slot ∈ slots)
    (index : (game.destination env move).index = slot)
    (limited : (game.items move.item).getStackSize env.items < 100) :
    ∃ stack, stack ≠ move.item ∧ stack ∈ game.contents (game.destination env move).cylinder ∧
      stack ∉ (game.transfer env move (game.destination env move)).2.contents
        (game.destination env move).cylinder := by
  have range := mem_slots.mp listed
  have notAnywhere : ¬ ((slot : Int) = indexWhereever) := by
    unfold indexWhereever
    omega
  have occupied := short.occupied here (index ▸ notAnywhere)
  rw [index, getInventoryItem_slot listed] at occupied
  obtain ⟨stack, inSlot⟩ := Option.ne_none_iff_exists'.mp occupied
  have atDest : (game.destination env move).toItem = some stack :=
    ((destination_settled env move).slot env here listed index).trans inSlot
  have member : stack ∈ game.contents (.player owner) := List.mem_filterMap.mpr ⟨slot, listed, inSlot⟩
  have different : stack ≠ move.item := fun same => short.apart (same ▸ atDest)
  refine ⟨stack, different, here ▸ member, ?_⟩
  obtain ⟨_, inside, positive, enough⟩ :=
    refusal_noError (sound.live move.fromCylinder move.item held) short.admitted
  have enough := enough short.stackable
  have less := short.less
  have room : game.moveCount env move (game.destination env move) =
      (game.roomFor env move (game.destination env move)).2 := by
    rw [moveCount, if_pos short.stackable]
    omega
  -- the room is what is missing to 100
  have merges : (game.items move.item).equals (some (game.items stack)) = true ∧
      game.moveCount env move (game.destination env move) = 100 - (game.items stack).count := by
    rw [room] at positive ⊢
    simp only [roomFor, here, index, queryMaxCount, playerQueryMaxCount, if_neg notAnywhere,
      getInventoryItem_slot listed, inSlot] at positive ⊢
    split at positive
    · rename_i merges
      rw [if_pos merges]
      exact ⟨merges.2.1, rfl⟩
    · exact absurd positive (Nat.lt_irrefl 0)
  obtain ⟨same, missing⟩ := merges
  have reduced := removeThing_reduced env game sound inside (fun _ => enough)
  rw [if_pos short.stackable] at reduced
  have alike : game.Alike (game.removeThing env move.fromCylinder move.item
      (game.moveCount env move (game.destination env move))) := alike_removeThing env _ _ _
  intro kept
  change stack ∈ (game.transfer env move (game.destination env move)).2.layout.contents _ at kept
  rw [layout_transfer (fun pos tile => by rw [here] at tile; cases tile)] at kept
  generalize game.moveCount env move (game.destination env move) = m
    at positive enough missing reduced alike kept
  generalize removed_eq : game.removeThing env move.fromCylinder move.item m = removed at reduced alike
  have memberRemoved : stack ∈ removed.contents (.player owner) :=
    (reduced.others (.player owner) stack different).mpr member
  have sameId : (removed.items stack).id = (game.items move.item).id :=
    (congrFun reduced.id stack).trans (Item.id_eq_of_equals same).symm
  have stackable : (removed.items stack).isStackable env.items = true := by
    rw [Item.isStackable, sameId]
    exact short.stackable
  have size : (removed.items stack).getStackSize env.items = (game.items move.item).getStackSize env.items := by
    unfold Item.getStackSize Item.isStackable
    rw [sameId]
  have count : (removed.items stack).count = (game.items stack).count := reduced.count stack different
  have merged := mergeCount_eq env removed (m := m) reduced.sound memberRemoved stackable
  have small : (game.items move.item).count < 256 := sound.small move.item
  have merges : removed.mergesWith move.item (some stack) = some stack := by
    have equal : (removed.items move.item).equals (some (removed.items stack)) = true := by
      rw [Alike.equals game alike]
      exact same
    simp [mergesWith, Option.filter, equal]
  have more : toInt32 ((m : Int) - removed.mergeCount env (some stack) m) > 0 := by
    rw [toInt32, Int.bmod_eq_of_le] <;> omega
  have players : (removed.mergeStack env (.player owner) (some stack) m).players = removed.players :=
    (updateThing_player owner stack _ _).1
  have next : (removed.mergeStack env (.player owner) (some stack) m).next = game.next :=
    (updateThing_player owner stack _ _).2.trans reduced.next
  have inside : ¬ ((slot : Int) < 1 ∨ (slot : Int) > 10) := by omega
  simp only [deliver, if_pos short.stackable, removed_eq, atDest, merges, splitStack, if_pos more, addMoved,
    here, index, addThing, playerAddThing, if_neg inside] at kept
  obtain ⟨other, otherListed, inOther⟩ := List.mem_filterMap.mp kept
  simp only [setPlayer, if_true, Int.toNat_natCast, setItem_players, cloneWithCount_players, players, next]
    at inOther
  split at inOther
  · have fresh := sound.allocated (.player owner) stack member
    cases inOther
    exact Nat.lt_irrefl _ fresh
  · rename_i elsewhere
    exact elsewhere (slot_unique (sound.nodup (.player owner)) otherListed listed
      (reduced.inventory owner other stack inOther) inSlot)

theorem careful_of_atomic
    (keeps : ∀ toItem, Exchanges env game move toItem → game.Keeps env move.fromCylinder toItem)
    (atomic : Atomic env game move) (asked : game.Asked env move) : Careful env game move where
  exchange := by
    intro toItem exchanges
    have keeps := keeps toItem exchanges
    refine ⟨keeps, ?_⟩
    intro apart
    by_contra refused
    have exchangeable := exchanges.exchangeable sound held
    obtain ⟨take, put⟩ := exchangeable.swapOut keeps
    have kept := atomic.kept (internalMoveItem_of_exchanges asked exchanges refused) refused exchanges.apart
      exchangeable.toItem_held
    -- the other item is at the source by now
    rcases put.mem_iff.mp kept with ⟨same, _⟩ | there
    · exact apart same.symm
    · exact exchangeable.unheld keeps _ there
  slot := by
    intro owner here short
    have moved : game.internalMoveItem env move =
        some ((game.transfer env move (game.destination env move)).1,
          (game.transfer env move (game.destination env move)).2) :=
      internalMoveItem_of_admitted asked short.apart short.allowed short.admitted
    have failed : (game.transfer env move (game.destination env move)).1 ≠ .noError := by
      unfold transfer
      simp only [if_pos (And.intro short.stackable short.less)]
      exact short.answer
    by_cases anywhere : (game.destination env move).index = indexWhereever
    · have lost := short.dropped sound held here anywhere
      have conserved := atomic.total moved failed (game.items move.item).id
      omega
    · obtain ⟨other, inSlot⟩ := Option.ne_none_iff_exists'.mp (short.occupied here anywhere)
      obtain ⟨slot, listed, index, _⟩ := getInventoryItem_some inSlot
      refine ⟨slot, listed, index, ?_⟩
      by_contra limited
      obtain ⟨stack, different, member, gone⟩ :=
        short.overwritten sound held here listed index (Nat.lt_of_not_le limited)
      exact gone (atomic.kept moved failed different member)

end

/-- A player with 5 gold coins in the backpack and a sword in the right hand. -/
def swordGame : Game :=
  ofTables
    [{ id := 1988, kind := .container, maxSize := 20, itemlist := [1], parent := some (.player 1) },
     { id := 2148, count := 5, parent := some (.item 0) },
     { id := 2376, parent := some (.player 1) },
     { id := 103, parent := some (.tile ⟨100, 100, 7⟩) }]
    [(1, { inventory := fun slot => if slot = 3 then some 0 else if slot = 5 then some 2 else none,
           capacity := 40000, tile := some ⟨100, 100, 7⟩ })]
    [(⟨100, 100, 7⟩, { ground := some 3 })]

/-- The player drags a number of the coins to the hand. -/
def swordMove (count : Nat) : Move :=
  { fromCylinder := .item 0, toCylinder := .player 1, index := 5, item := 1, count := count,
    actor := some 1, positions := true }

end Styller.Game
