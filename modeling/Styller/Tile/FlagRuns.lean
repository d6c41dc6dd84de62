import Styller.Tile.Turnover
import Styller.World.Table

/-! The flags of a tile along every run of calls: which of them always tell what lies on the tile, and when the others do. -/

namespace Styller

open Library List

namespace TileState

variable (env : Env) (state : TileState)

def given (flag : TileFlag) : Bool :=
  state.tile.allItems.any (fun ptr => (state.game.items ptr).gives env.items flag)

/-- The flag is set exactly when some item on the tile gives it. -/
def Tells (flag : TileFlag) : Prop := state.tile.flags flag = state.given env flag

end TileState

namespace TileOp

variable (env : Env) (state : TileState) (op : TileOp)

def leaving (flag : TileFlag) : Bool :=
  (op.leaves env state).any (fun ptr => (state.game.items ptr).gives env.items flag)

def coming (flag : TileFlag) : Bool := (op.comes env state).any (fun item => item.gives env.items flag)

/-- Whether some other item on the tile gives the flag. -/
def left (flag : TileFlag) : Bool :=
  (state.tile.allItems.filter (fun ptr => op.leaves env state ≠ some ptr)).any (fun ptr =>
    (state.game.items ptr).gives env.items flag)

end TileOp

section
variable {env : Env} {pos : Position} {state : TileState} {op : TileOp}

theorem any_perm {Value : Type} {before after : List Value} (perm : before.Perm after) (test : Value → Bool) :
    before.any test = after.any test := by
  rw [Bool.eq_iff_iff, any_eq_true, any_eq_true]
  exact exists_congr (fun value => and_congr_left (fun _ => perm.mem_iff))

theorem TileFlag.put_nothing (flags : TileFlag → Bool) : TileFlag.put (fun _ => false) flags = flags := by
  funext flag
  unfold put
  split
  · rw [Bool.and_false, Bool.or_false]
  · rw [Bool.false_and, Bool.or_false]

theorem TileFlag.take_nothing (others flags : TileFlag → Bool) : TileFlag.take (fun _ => false) others flags = flags := by
  have none : changesFloor (fun _ => false) = false := by decide
  funext flag
  unfold take
  split
  · rw [none, Bool.not_false, Bool.and_true]
  · rw [Bool.false_and, Bool.not_false, Bool.and_true]

/-- What a call does to the flags, and what gives them before and after it. -/
structure FlagStep (env : Env) (state : TileState) (op : TileOp) (after : TileState) (others : TileFlag → Bool) : Prop where
  among : (∀ flag, others flag = op.left env state flag) ∨ ∀ flag, others flag = (op.coming env state flag || op.left env state flag)
  flags : after.tile.flags = TileFlag.put (op.coming env state) (TileFlag.take (op.leaving env state) others state.tile.flags)
  was : ∀ flag, state.given env flag = (op.leaving env state flag || op.left env state flag)
  now : ∀ flag, after.given env flag = (op.coming env state flag || op.left env state flag)

theorem given_eq (flag : TileFlag) : state.given env flag = (state.giving env).any (· flag) := by
  rw [TileState.given, TileState.giving, any_map]
  rfl

theorem left_eq (flag : TileFlag) : op.left env state flag = (state.staying env (op.leaves env state)).any (· flag) := by
  rw [TileOp.left, TileState.staying, any_map]
  rfl

variable (env pos) in
theorem run_flagStep (shaped : state.tile.Shaped) (fresh : op.Fresh state) :
    ∃ others, FlagStep env state op (op.run env pos state) others := by
  obtain ⟨listed, giving, others, which, flags⟩ := TileOp.run_turnover env pos shaped op fresh
  have come : ∀ flag, (((op.comes env state).map (·.gives env.items)).toList ++ state.staying env (op.leaves env state)).any (· flag) =
      (op.coming env state flag || op.left env state flag) := by
    intro flag
    rw [any_append, ← left_eq, TileOp.coming]
    cases op.comes env state with
    | none => rfl
    | some item => simp only [Option.map_some, Option.toList_some, any_cons, any_nil, Bool.or_false, Option.any_some]
  refine ⟨fun flag => others.any (· flag), ?_, ?_, ?_, ?_⟩
  · rcases which with stay | with_new
    · left
      intro flag
      rw [any_perm stay, left_eq]
    · right
      intro flag
      rw [any_perm with_new, come]
  · rw [flags]
    have taken : ∀ flags, ((op.leaves env state).map (fun ptr => (state.game.items ptr).gives env.items)).elim id
        (fun gives => TileFlag.take gives (fun flag => others.any (· flag))) flags =
          TileFlag.take (op.leaving env state) (fun flag => others.any (· flag)) flags := by
      intro flags
      unfold TileOp.leaving
      cases op.leaves env state with
      | none => exact (TileFlag.take_nothing _ flags).symm
      | some ptr => rfl
    have put : ∀ flags, ((op.comes env state).map (·.gives env.items)).elim id TileFlag.put flags =
        TileFlag.put (op.coming env state) flags := by
      intro flags
      unfold TileOp.coming
      cases op.comes env state with
      | none => exact (TileFlag.put_nothing flags).symm
      | some item => rfl
    rw [put, taken]
  · intro flag
    rw [given_eq, left_eq, TileOp.leaving]
    cases gone : op.leaves env state with
    | none => rw [TileState.staying_none, Option.any_none, Bool.false_or]
    | some ptr =>
      have perm : state.tile.allItems.Perm (ptr :: state.tile.allItems.erase ptr) := perm_cons_erase (listed ptr gone)
      rw [any_perm (TileState.staying_some env shaped.items perm), Option.any_some]
      exact any_perm (perm.map _) _
  · intro flag
    rw [given_eq, any_perm giving, come]

end

section
variable {env : Env} {pos : Position}

/-- The flags that always tell, with the property that they tell of. -/
def blockingFlags : List (Game.ItemProperty × TileFlag) :=
  [(.blockSolid, .blockSolid), (.immovableBlockSolid, .immovableBlockSolid), (.blockPath, .blockPath),
    (.noFieldBlockPath, .noFieldBlockPath), (.immovableNoFieldBlockPath, .immovableNoFieldBlockPath)]

/-- A tile with nothing on it, whose only flags are those of its zone. -/
structure TileStack.Blank (tile : TileStack) : Prop where
  ground : tile.ground = none
  items : tile.items = []
  downItemCount : tile.downItemCount = 0
  creatures : tile.creatures = []
  flags : ∀ flag, flag ≠ .protectionZone → flag ≠ .noPvpZone → flag ≠ .noLogout → flag ≠ .pvpZone → tile.flags flag = false

theorem TileStack.Blank.shaped {tile : TileStack} (blank : tile.Blank) : tile.Shaped where
  counted := by
    rw [blank.downItemCount]
    exact Nat.zero_le _
  size := by
    rw [blank.items]
    exact Nat.zero_le _
  items := by
    rw [TileStack.allItems, blank.ground, blank.items]
    exact nodup_nil
  creatures := by
    rw [blank.creatures]
    exact nodup_nil

theorem TileStack.Blank.tells {state : TileState} (blank : state.tile.Blank) {flag : TileFlag} (protection : flag ≠ .protectionZone)
    (noPvp : flag ≠ .noPvpZone) (noLogout : flag ≠ .noLogout) (pvp : flag ≠ .pvpZone) : state.Tells env flag := by
  rw [TileState.Tells, blank.flags flag protection noPvp noLogout pvp, TileState.given, TileStack.allItems, blank.ground, blank.items]
  rfl

theorem step_shaped {state : TileState} (shaped : state.tile.Shaped) (op : TileOp) : (op.step env pos state).tile.Shaped := by
  unfold TileOp.step
  split
  · next fresh => exact TileOp.run_shaped shaped op fresh
  · exact shaped

/-- A flag that is reset only when no other item gives it goes on telling. -/
theorem FlagStep.tells_shared {state after : TileState} {op : TileOp} {others : TileFlag → Bool}
    (step : FlagStep env state op after others) {flag : TileFlag} (shared : flag.shared = true) (comes : flag ≠ .immovableBlockPath)
    (tells : state.Tells env flag) : after.Tells env flag := by
  have ordinary : ¬ flag.isFloorChange = true := by
    intro floor
    cases flag <;> cases floor <;> cases shared
  rw [TileState.Tells, step.was] at tells
  rw [TileState.Tells, step.now, step.flags, TileFlag.put, if_neg ordinary, TileFlag.take, if_neg ordinary, tells, shared,
    decide_eq_true comes]
  rcases step.among with stay | with_new
  · rw [stay]
    cases op.leaving env state flag <;> cases op.left env state flag <;> cases op.coming env state flag <;> rfl
  · rw [with_new]
    cases op.leaving env state flag <;> cases op.left env state flag <;> cases op.coming env state flag <;> rfl

/-- The flags that keep things from coming always tell: each is set exactly when some item on the tile has the property. -/
theorem blockingFlags_tell {state : TileState} (blank : state.tile.Blank) (ops : List TileOp) :
    Always (TileOp.step env pos) (fun state => ∀ entry ∈ blockingFlags,
      state.tile.flags entry.2 = true ↔ ∃ ptr ∈ state.tile.allItems, Game.hasProperty env state.game ptr entry.1 = true) state ops := by
  have kept : ∀ state op, (state.tile.Shaped ∧ ∀ entry ∈ blockingFlags, state.Tells env entry.2) →
      ((TileOp.step env pos state op).tile.Shaped ∧ ∀ entry ∈ blockingFlags, (TileOp.step env pos state op).Tells env entry.2) := by
    rintro state op ⟨shaped, tells⟩
    refine ⟨step_shaped shaped op, ?_⟩
    intro entry listed
    have kind : entry.2.shared = true ∧ entry.2 ≠ .immovableBlockPath := by
      revert entry
      decide
    unfold TileOp.step
    split
    · next fresh =>
      obtain ⟨others, step⟩ := run_flagStep env pos shaped fresh
      exact step.tells_shared kind.1 kind.2 (tells entry listed)
    · exact tells entry listed
  have start : state.tile.Shaped ∧ ∀ entry ∈ blockingFlags, state.Tells env entry.2 := by
    refine ⟨blank.shaped, ?_⟩
    intro entry listed
    have kind : entry.2 ≠ .protectionZone ∧ entry.2 ≠ .noPvpZone ∧ entry.2 ≠ .noLogout ∧ entry.2 ≠ .pvpZone := by
      revert entry
      decide
    exact blank.tells kind.1 kind.2.1 kind.2.2.1 kind.2.2.2
  refine (always_of_kept kept start ops).mono ?_
  rintro state ⟨_, tells⟩ entry listed
  have same : ∀ ptr, (state.game.items ptr).gives env.items entry.2 = Game.hasProperty env state.game ptr entry.1 := by
    intro ptr
    simp only [blockingFlags, mem_cons, not_mem_nil, or_false] at listed
    rcases listed with rfl | rfl | rfl | rfl | rfl <;> rfl
  rw [tells entry listed, TileState.given, any_eq_true]
  simp only [same]

/-- Grass, the magic forcefield, a stone, stairs, a fire field and a pool. -/
def squareItems : ItemTypes :=
  ItemTypes.ofList
    [{ id := 103, group := .ground },
     { id := 1387, type := .teleport },
     { id := 1285, blockSolid := true, blockPathFind := true },
     { id := 459, group := .ground, floorChange := [.floorChangeDown] },
     { id := 1487, type := .magicField, blockPathFind := true },
     { id := 2016, group := .splash, alwaysOnTop := true, alwaysOnTopOrder := 2 }] [] (by decide) (by decide)

def squareEnv : Env := { items := squareItems }

/-- An empty tile, and these items elsewhere: an address is an index. -/
def bareSquare : TileState where
  game := Game.ofTables
    [{ id := 103 }, { id := 1387, kind := .teleport }, { id := 1387, kind := .teleport }, { id := 1285 }, { id := 459 },
      { id := 1487, kind := .magicField }, { id := 2016 }] [] []
  tile := {}

theorem bareSquare_blank : bareSquare.tile.Blank := ⟨rfl, rfl, rfl, rfl, fun _ _ _ _ _ => rfl⟩

theorem blockingFlags_tell_square : Always (TileOp.step squareEnv ⟨100, 100, 7⟩) (fun state => ∀ entry ∈ blockingFlags,
    state.tile.flags entry.2 = true ↔ ∃ ptr ∈ state.tile.allItems, Game.hasProperty squareEnv state.game ptr entry.1 = true)
      bareSquare [.addThing (.item 0), .addThing (.item 3), .addThing (.item 5), .removeThing (.item 3) 1] :=
  blockingFlags_tell bareSquare_blank _

end

section
variable {env : Env} {pos : Position} {state : TileState} {op : TileOp}

def resetFlags : List TileFlag :=
  [.teleport, .magicField, .mailbox, .trashHolder, .bed, .depot, .supportsHangable]

def specialFlags : List TileFlag := .immovableBlockPath :: resetFlags ++ TileFlag.floorChanges

/-- The calls after which the special flags tell what they told before: no other item gives a flag that the item that
leaves takes along (unless the one that comes gives it back), an item with floor changes comes to no tile that has others,
and nothing comes that blocks the way and cannot be moved. -/
structure TileOp.Harmless (env : Env) (state : TileState) (op : TileOp) : Prop where
  reset : ∀ flag ∈ resetFlags, op.leaving env state flag = true → op.left env state flag = true → op.coming env state flag = true
  floorGone : TileFlag.changesFloor (op.leaving env state) = true →
    ∀ flag ∈ TileFlag.floorChanges, op.left env state flag = true → op.coming env state flag = true
  floorComes : TileFlag.changesFloor (op.leaving env state) = false → TileFlag.changesFloor (op.left env state) = true →
    ∀ flag ∈ TileFlag.floorChanges, op.coming env state flag = true → op.left env state flag = true
  immovable : op.coming env state .immovableBlockPath = false

section
variable {after : TileState} {others : TileFlag → Bool} (step : FlagStep env state op after others)
include step

theorem FlagStep.tells_reset {flag : TileFlag} (listed : flag ∈ resetFlags) (tells : state.Tells env flag) :
    after.Tells env flag ↔ (op.leaving env state flag = true → op.left env state flag = true → op.coming env state flag = true) := by
  have plain : ∀ flag ∈ resetFlags, flag.isFloorChange = false ∧ flag.shared = false ∧ flag ≠ .immovableBlockPath := by
    decide
  obtain ⟨ordinary, alone, comes⟩ := plain flag listed
  rw [TileState.Tells, step.was] at tells
  rw [TileState.Tells, step.now, step.flags, TileFlag.put, if_neg (Bool.eq_false_iff.mp ordinary), TileFlag.take,
    if_neg (Bool.eq_false_iff.mp ordinary), tells, alone, decide_eq_true comes,
    Bool.false_and, Bool.not_false, Bool.and_true, Bool.and_true]
  cases op.leaving env state flag <;> cases op.left env state flag <;> cases op.coming env state flag <;> decide

theorem FlagStep.tells_immovable (unset : state.tile.flags .immovableBlockPath = false) (tells : state.Tells env .immovableBlockPath) :
    after.Tells env .immovableBlockPath ↔ op.coming env state .immovableBlockPath = false := by
  rw [TileState.Tells, step.was, unset] at tells
  have none : op.left env state .immovableBlockPath = false := (Bool.or_eq_false_iff.mp tells.symm).2
  have stays : after.tile.flags .immovableBlockPath = false := by
    rw [step.flags]
    simp only [TileFlag.put, TileFlag.take, TileFlag.isFloorChange, unset, Bool.false_eq_true, if_false, Bool.false_and,
      ne_eq, not_true, decide_false, Bool.and_false, Bool.or_false]
  rw [TileState.Tells, step.now, stays, none, Bool.or_false, eq_comm]

omit step in
theorem changesFloor_congr {first second : TileFlag → Bool} (same : ∀ flag ∈ TileFlag.floorChanges, first flag = second flag) :
    TileFlag.changesFloor first = TileFlag.changesFloor second := by
  rw [Bool.eq_iff_iff, TileFlag.changesFloor, TileFlag.changesFloor, any_eq_true, any_eq_true]
  exact exists_congr (fun flag => and_congr_right (fun listed => by rw [same flag listed]))

theorem FlagStep.tells_floor (tells : ∀ flag ∈ TileFlag.floorChanges, state.Tells env flag) :
    (∀ flag ∈ TileFlag.floorChanges, after.Tells env flag) ↔
      (TileFlag.changesFloor (op.leaving env state) = true →
        ∀ flag ∈ TileFlag.floorChanges, op.left env state flag = true → op.coming env state flag = true) ∧
      (TileFlag.changesFloor (op.leaving env state) = false → TileFlag.changesFloor (op.left env state) = true →
        ∀ flag ∈ TileFlag.floorChanges, op.coming env state flag = true → op.left env state flag = true) := by
  have taken : ∀ flag ∈ TileFlag.floorChanges, TileFlag.take (op.leaving env state) others state.tile.flags flag =
      ((op.leaving env state flag || op.left env state flag) && !TileFlag.changesFloor (op.leaving env state)) := by
    intro flag listed
    have told := tells flag listed
    rw [TileState.Tells, step.was] at told
    rw [TileFlag.take, if_pos ((TileFlag.mem_floorChanges flag).mp listed), told]
  have after_flag : ∀ flag ∈ TileFlag.floorChanges, after.Tells env flag ↔
      (TileFlag.take (op.leaving env state) others state.tile.flags flag ||
        (!TileFlag.changesFloor (TileFlag.take (op.leaving env state) others state.tile.flags) && op.coming env state flag)) =
          (op.coming env state flag || op.left env state flag) := by
    intro flag listed
    rw [TileState.Tells, step.now, step.flags, TileFlag.put, if_pos ((TileFlag.mem_floorChanges flag).mp listed)]
  rw [forall₂_congr after_flag]
  cases gone : TileFlag.changesFloor (op.leaving env state) with
  | true =>
    -- the tile has no floor change in between
    have between : ∀ flag ∈ TileFlag.floorChanges, TileFlag.take (op.leaving env state) others state.tile.flags flag = false := by
      intro flag listed
      rw [taken flag listed, gone, Bool.not_true, Bool.and_false]
    have none : TileFlag.changesFloor (TileFlag.take (op.leaving env state) others state.tile.flags) = false :=
      (changesFloor_congr between).trans (by decide)
    simp only [forall_const, Bool.true_eq_false, IsEmpty.forall_iff, and_true]
    apply forall₂_congr
    intro flag listed
    rw [between flag listed, none, Bool.false_or, Bool.not_false, Bool.true_and]
    cases op.left env state flag <;> cases op.coming env state flag <;> decide
  | false =>
    have nothing : ∀ flag ∈ TileFlag.floorChanges, op.leaving env state flag = false := by
      intro flag listed
      rw [TileFlag.changesFloor, any_eq_false] at gone
      exact eq_false_of_ne_true (gone flag listed)
    have between : ∀ flag ∈ TileFlag.floorChanges,
        TileFlag.take (op.leaving env state) others state.tile.flags flag = op.left env state flag := by
      intro flag listed
      rw [taken flag listed, gone, nothing flag listed, Bool.false_or, Bool.not_false, Bool.and_true]
    rw [changesFloor_congr between]
    simp only [Bool.false_eq_true, IsEmpty.forall_iff, true_and, forall_const]
    cases TileFlag.changesFloor (op.left env state) with
    | true =>
      simp only [forall_const]
      apply forall₂_congr
      intro flag listed
      rw [between flag listed, Bool.not_true, Bool.false_and, Bool.or_false]
      cases op.left env state flag <;> cases op.coming env state flag <;> decide
    | false =>
      simp only [Bool.false_eq_true, IsEmpty.forall_iff, iff_true]
      intro flag listed
      rw [between flag listed, Bool.not_false, Bool.true_and, Bool.or_comm]

end

theorem tells_step_iff (shaped : state.tile.Shaped) (unset : state.tile.flags .immovableBlockPath = false)
    (tells : ∀ flag ∈ specialFlags, state.Tells env flag) :
    (∀ flag ∈ specialFlags, (op.step env pos state).Tells env flag) ↔ (op.Fresh state → op.Harmless env state) := by
  unfold TileOp.step
  split
  · next fresh =>
    obtain ⟨others, step⟩ := run_flagStep env pos shaped fresh
    simp only [specialFlags, cons_append, mem_cons, mem_append] at tells ⊢
    have floor := step.tells_floor (fun flag listed => tells flag (.inr (.inr listed)))
    have blocked := step.tells_immovable unset (tells _ (.inl rfl))
    have reset : ∀ flag ∈ resetFlags, _ := fun flag listed => step.tells_reset listed (tells flag (.inr (.inl listed)))
    constructor
    · intro after _
      obtain ⟨floorGone, floorComes⟩ := floor.mp (fun flag listed => after flag (.inr (.inr listed)))
      refine ⟨?_, floorGone, floorComes, blocked.mp (after _ (.inl rfl))⟩
      intro flag listed
      exact (reset flag listed).mp (after flag (.inr (.inl listed)))
    · intro harmless
      obtain ⟨kept, floorGone, floorComes, immovable⟩ := harmless fresh
      rintro flag (rfl | listed | listed)
      · exact blocked.mpr immovable
      · exact (reset flag listed).mpr (kept flag listed)
      · exact floor.mpr ⟨floorGone, floorComes⟩ flag listed
  · next stale => exact iff_of_true tells (fun fresh => absurd fresh stale)

theorem step_unset (shaped : state.tile.Shaped) (unset : state.tile.flags .immovableBlockPath = false) :
    (op.step env pos state).tile.flags .immovableBlockPath = false := by
  unfold TileOp.step
  split
  · next fresh =>
    obtain ⟨others, step⟩ := run_flagStep env pos shaped fresh
    rw [step.flags]
    simp only [TileFlag.put, TileFlag.take, TileFlag.isFloorChange, unset, Bool.false_eq_true, if_false, Bool.false_and,
      ne_eq, not_true, decide_false, Bool.and_false, Bool.or_false]
  · exact unset

/-- Along a run the special flags tell just as long as every call is harmless. -/
theorem specialFlags_tell_iff (blank : state.tile.Blank) (ops : List TileOp) :
    Always (TileOp.step env pos) (fun state => ∀ flag ∈ specialFlags, state.Tells env flag) state ops ↔
      Throughout (TileOp.step env pos) (fun state op => op.Fresh state → op.Harmless env state) state ops := by
  apply always_iff_throughout (fun state => state.tile.Shaped ∧ state.tile.flags .immovableBlockPath = false)
  · rintro state op ⟨shaped, unset⟩
    exact ⟨step_shaped shaped op, step_unset shaped unset⟩
  · rintro state op ⟨shaped, unset⟩ tells
    exact tells_step_iff shaped unset tells
  · exact ⟨blank.shaped, blank.flags _ nofun nofun nofun nofun⟩
  · have zoneless : ∀ flag ∈ specialFlags, flag ≠ .protectionZone ∧ flag ≠ .noPvpZone ∧ flag ≠ .noLogout ∧ flag ≠ .pvpZone := by
      decide
    intro flag listed
    obtain ⟨protection, noPvp, noLogout, pvp⟩ := zoneless flag listed
    exact blank.tells protection noPvp noLogout pvp

theorem specialFlags_tell_square : Always (TileOp.step squareEnv ⟨100, 100, 7⟩)
    (fun state => ∀ flag ∈ specialFlags, state.Tells squareEnv flag) bareSquare [.addThing (.item 0)] ↔
      Throughout (TileOp.step squareEnv ⟨100, 100, 7⟩) (fun state op => op.Fresh state → op.Harmless squareEnv state)
        bareSquare [.addThing (.item 0)] :=
  specialFlags_tell_iff bareSquare_blank _

/-- Two teleports come to the tile, and one of them goes: the tile with the other one has lost its flag. -/
theorem square_untold : ¬ ∀ (env : Env) (pos : Position) (state : TileState), state.tile.Blank → ∀ ops,
    Always (TileOp.step env pos) (fun state => ∀ flag ∈ specialFlags, state.Tells env flag) state ops := by
  intro claim
  have told := claim squareEnv ⟨100, 100, 7⟩ bareSquare bareSquare_blank
    [.addThing (.item 1), .addThing (.item 2), .removeThing (.item 1) 1]
  have last := told.2.2.2 .teleport (by decide)
  revert last
  unfold TileState.Tells
  decide

end

end Styller
