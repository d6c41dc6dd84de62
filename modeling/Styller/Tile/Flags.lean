import Styller.Tile.Stack

/-! What `setTileFlags` and `resetTileFlags` make of the flags of a tile, flag by flag. -/

namespace Styller

open List

def Item.gives (items : ItemTypes) (item : Item) (flag : TileFlag) : Bool :=
  let it := items.get item.id
  let immovable := !it.moveable || item.hasAttribute .uniqueId
  match flag with
  | .blockSolid => it.blockSolid
  | .blockPath => it.blockPathFind
  | .immovableBlockSolid => it.blockSolid && immovable
  | .immovableBlockPath => it.blockPathFind && immovable
  | .immovableNoFieldBlockPath => !it.isMagicField && it.blockPathFind && immovable
  | .noFieldBlockPath => !it.isMagicField && it.blockPathFind
  | .supportsHangable => it.isHorizontal || it.isVertical
  | .teleport => item.kind = .teleport
  | .magicField => item.kind = .magicField
  | .mailbox => item.kind = .mailbox
  | .trashHolder => item.kind = .trashHolder
  | .bed => item.kind = .bed
  | .depot => item.kind = .depotLocker
  | .protectionZone | .noPvpZone | .noLogout | .pvpZone => false
  | flag => flag ∈ it.floorChange

namespace TileFlag

/-- The members of `TILESTATE_FLOORCHANGE`. -/
def floorChanges : List TileFlag :=
  [.floorChangeDown, .floorChangeNorth, .floorChangeSouth, .floorChangeEast, .floorChangeWest, .floorChangeSouthAlt,
    .floorChangeEastAlt]

/-- The flags that are only reset when no other item gives them. -/
def shared : TileFlag → Bool
  | .blockSolid | .immovableBlockSolid | .blockPath | .noFieldBlockPath | .immovableBlockPath
  | .immovableNoFieldBlockPath => true
  | _ => false

theorem mem_floorChanges (flag : TileFlag) : flag ∈ floorChanges ↔ flag.isFloorChange = true := by
  cases flag <;> decide

def changesFloor (flags : TileFlag → Bool) : Bool := floorChanges.any flags

theorem changesFloor_iff (flags : TileFlag → Bool) :
    changesFloor flags = true ↔ ∃ flag, flag.isFloorChange = true ∧ flags flag = true := by
  simp only [changesFloor, any_eq_true, mem_floorChanges]

/-- The flags after an item has come that gives some: a floor change only comes to a tile without one, and the flag of
what blocks the way and cannot be moved never comes. -/
def put (gives flags : TileFlag → Bool) (flag : TileFlag) : Bool :=
  if flag.isFloorChange then flags flag || (!changesFloor flags && gives flag)
  else flags flag || (gives flag && flag ≠ .immovableBlockPath)

/-- The flags after an item has gone that gives some, where others are there that give some. -/
def take (gives others flags : TileFlag → Bool) (flag : TileFlag) : Bool :=
  if flag.isFloorChange then flags flag && !changesFloor gives
  else flags flag && !(gives flag && !(flag.shared && others flag))

end TileFlag

section
variable (env : Env) (game : Game) (ptr : ItemPtr)

theorem foldl_setFlag (set : List TileFlag) (tile : Tile) (flag : TileFlag) :
    (set.foldl Tile.setFlag tile).flags flag = (decide (flag ∈ set) || tile.flags flag) := by
  induction set generalizing tile with
  | nil => simp
  | cons first rest ih =>
    rw [foldl_cons, ih]
    simp only [Tile.setFlag, mem_cons, Bool.decide_or]
    ac_rfl

theorem foldl_resetFlag (reset : List TileFlag) (tile : Tile) (flag : TileFlag) :
    (reset.foldl Tile.resetFlag tile).flags flag = (!decide (flag ∈ reset) && tile.flags flag) := by
  induction reset generalizing tile with
  | nil => simp
  | cons first rest ih =>
    rw [foldl_cons, ih]
    simp only [Tile.resetFlag, mem_cons, Bool.decide_or, Bool.not_or, decide_not]
    ac_rfl

theorem setFlag_when (condition : Bool) (set : TileFlag) (tile : Tile) (flag : TileFlag) :
    (if condition then tile.setFlag set else tile).flags flag = (condition && decide (flag = set) || tile.flags flag) := by
  cases condition
  · rfl
  · rfl

theorem resetFlag_when (condition : Bool) (reset : TileFlag) (tile : Tile) (flag : TileFlag) :
    (if condition then tile.resetFlag reset else tile).flags flag = (!(condition && decide (flag = reset)) && tile.flags flag) := by
  cases condition
  · simp only [Bool.false_eq_true, if_false, Bool.false_and, Bool.not_false, Bool.true_and]
  · simp only [if_true, Tile.resetFlag, Bool.true_and, ne_eq, decide_not]

theorem hasFloorChange_eq (tile : Tile) : tile.hasFloorChange = TileFlag.changesFloor tile.flags := by
  simp only [Tile.hasFloorChange, TileFlag.changesFloor, TileFlag.floorChanges, any_cons, any_nil, Bool.or_false,
    Bool.or_assoc]

def classGives (kind : ItemClass) : TileFlag → Bool
  | .teleport => kind = .teleport
  | .magicField => kind = .magicField
  | .mailbox => kind = .mailbox
  | .trashHolder => kind = .trashHolder
  | .bed => kind = .bed
  | .depot => kind = .depotLocker
  | _ => false

theorem mem_classFlags (kind : ItemClass) (flag : TileFlag) :
    decide (flag ∈ Game.classFlags kind) = classGives kind flag := by
  cases flag <;> cases kind <;> rfl

theorem setTileFlags_flags (tile : Tile) :
    (Game.setTileFlags env game tile ptr).flags = TileFlag.put ((game.items ptr).gives env.items) tile.flags := by
  have own : ∀ flag ∈ (env.items.get (game.items ptr).id).floorChange, flag.isFloorChange = true :=
    env.items.floorChange_flags _
  have first : ∀ flag, (if tile.hasFloorChange then tile else
      (env.items.get (game.items ptr).id).floorChange.foldl Tile.setFlag tile).flags flag =
        (tile.flags flag || (!TileFlag.changesFloor tile.flags && decide (flag ∈ (env.items.get (game.items ptr).id).floorChange))) := by
    intro flag
    rw [hasFloorChange_eq]
    split
    · next there => simp only [there, Bool.not_true, Bool.false_and, Bool.or_false]
    · next absent => simp only [foldl_setFlag, eq_false_of_ne_true absent, Bool.not_false, Bool.true_and, Bool.or_comm]
  funext flag
  unfold Game.setTileFlags
  simp only [foldl_setFlag, foldl_cons, foldl_nil, setFlag_when, first, mem_classFlags]
  by_cases floor : flag.isFloorChange = true
  · rw [TileFlag.put, if_pos floor]
    cases flag <;> simp [TileFlag.isFloorChange] at floor <;> simp [classGives, Item.gives]
  · have none : decide (flag ∈ (env.items.get (game.items ptr).id).floorChange) = false :=
      decide_eq_false (fun member => floor (own flag member))
    rw [TileFlag.put, if_neg floor, none, Bool.and_false, Bool.or_false]
    cases flag <;> simp [TileFlag.isFloorChange] at floor <;> simp [classGives, Item.gives, Game.hasProperty, Bool.or_comm]

theorem gives_floorChange (item : Item) {flag : TileFlag} (floor : flag.isFloorChange = true) :
    item.gives env.items flag = decide (flag ∈ (env.items.get item.id).floorChange) := by
  cases flag <;> simp only [TileFlag.isFloorChange, Bool.false_eq_true] at floor <;> rfl

theorem othersHaveProperty_eq (tile : Tile) (prop : Game.ItemProperty) :
    Game.othersHaveProperty env game tile ptr prop =
      ((tile.ground.toList ++ tile.itemList).filter (· ≠ ptr)).any (fun other => Game.hasProperty env game other prop) := by
  simp only [Game.othersHaveProperty, any_filter]

theorem resetTileFlags_flags (tile : Tile) :
    (Game.resetTileFlags env game tile ptr).flags = TileFlag.take ((game.items ptr).gives env.items)
      (fun flag => ((tile.ground.toList ++ tile.itemList).filter (· ≠ ptr)).any (fun other => (game.items other).gives env.items flag))
      tile.flags := by
  have some : TileFlag.changesFloor ((game.items ptr).gives env.items) =
      decide ((env.items.get (game.items ptr).id).floorChange ≠ []) := by
    rw [Bool.eq_iff_iff, TileFlag.changesFloor_iff, decide_eq_true_eq]
    constructor
    · rintro ⟨flag, floor, given⟩
      rw [gives_floorChange env _ floor] at given
      exact ne_nil_of_mem (of_decide_eq_true given)
    · intro nonempty
      obtain ⟨flag, member⟩ := exists_mem_of_ne_nil _ nonempty
      have floor := env.items.floorChange_flags _ flag member
      refine ⟨flag, floor, ?_⟩
      rw [gives_floorChange env _ floor]
      exact decide_eq_true member
  funext flag
  unfold Game.resetTileFlags
  simp only [resetFlag_when, foldl_resetFlag, foldl_cons, foldl_nil, mem_classFlags, othersHaveProperty_eq]
  generalize (tile.ground.toList ++ tile.itemList).filter (· ≠ ptr) = others
  have floor : decide (flag ∈ TileFlag.floorChanges) = flag.isFloorChange := by
    rw [Bool.eq_iff_iff, decide_eq_true_eq]
    exact TileFlag.mem_floorChanges flag
  have first : (if (env.items.get (game.items ptr).id).floorChange ≠ [] then
      TileFlag.floorChanges.foldl Tile.resetFlag tile else tile).flags flag =
        (!(TileFlag.changesFloor ((game.items ptr).gives env.items) && flag.isFloorChange) && tile.flags flag) := by
    rw [some]
    split
    · next nonempty => rw [foldl_resetFlag, floor, decide_eq_true nonempty, Bool.true_and]
    · next empty => rw [decide_eq_false empty, Bool.false_and, Bool.not_false, Bool.true_and]
  simp only [TileFlag.floorChanges, foldl_cons, foldl_nil] at first
  rw [first, TileFlag.take]
  cases flag <;> simp [TileFlag.isFloorChange, TileFlag.shared, classGives, Item.gives, Game.hasProperty, Bool.and_comm]

end

end Styller
