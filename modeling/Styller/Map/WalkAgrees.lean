import Styller.Map.WalkCache

/-! The walk cache says what the map says, as long as no step leads to the south-east or the south-west. -/

namespace Styller.Walker

open Library List Function

section
variable {walker next : Walker} {row column : Nat} {pos tilePos oldPos newPos : Position} {dx dy : Int}

/-- The cell of the cache that is for a position of the map. -/
structure Spot (center : Position) (row column : Nat) (pos : Position) : Prop where
  fits : pos.Fits
  level : pos.z = center.z
  low : row < 23
  left : column < 23
  x : (pos.x : Int) = center.x + (column - 11)
  y : (pos.y : Int) = center.y + (row - 11)

/-- Every cell for a position of the map, but for the creature's own, says whether the tile there accepts the creature. -/
def Agrees (walker : Walker) : Prop :=
  ∀ row column pos, Spot walker.position row column pos → pos ≠ walker.position →
    walker.localMapCache row column = walker.footing.accepts pos

theorem updateTileCache_cell : (walker.updateTileCache tilePos dx dy).localMapCache row column =
    if dx.natAbs ≤ maxWalkCacheWidth ∧ dy.natAbs ≤ maxWalkCacheHeight ∧ (row : Int) = 11 + dy ∧ (column : Int) = 11 + dx then
      walker.footing.accepts tilePos
    else walker.localMapCache row column := by
  unfold updateTileCache maxWalkCacheWidth maxWalkCacheHeight
  split
  · next inside =>
    simp only
    by_cases here : row = (11 + dy).toNat
    · subst here
      rw [update_self]
      by_cases there : column = (11 + dx).toNat
      · rw [there, update_self, if_pos (by omega)]
      · rw [update_of_ne there, if_neg (by omega)]
    · rw [update_of_ne here, if_neg (by omega)]
  · next outside => rw [if_neg (by omega)]

/-- The same creature with another cache. -/
structure Recached (walker next : Walker) : Prop where
  position : next.position = walker.position
  footing : next.footing = walker.footing
  isMapLoaded : next.isMapLoaded = walker.isMapLoaded

theorem Recached.refl (walker : Walker) : Recached walker walker := ⟨rfl, rfl, rfl⟩

theorem Recached.trans {last : Walker} (first : Recached walker next) (second : Recached next last) : Recached walker last where
  position := second.position.trans first.position
  footing := second.footing.trans first.footing
  isMapLoaded := second.isMapLoaded.trans first.isMapLoaded

theorem recached_foldl {Label : Type} {change : Walker → Label → Walker} (each : ∀ walker label, Recached walker (change walker label))
    (labels : List Label) (walker : Walker) : Recached walker (labels.foldl change walker) := by
  induction labels generalizing walker with
  | nil => exact .refl walker
  | cons label labels ih => exact (each walker label).trans (ih _)

theorem recached_updateTileCache (walker : Walker) (tilePos : Position) (dx dy : Int) :
    Recached walker (walker.updateTileCache tilePos dx dy) := by
  unfold updateTileCache
  split
  · exact ⟨rfl, rfl, rfl⟩
  · exact .refl walker

theorem recached_updateTileCacheAt (walker : Walker) (pos : Position) : Recached walker (walker.updateTileCacheAt pos) := by
  unfold updateTileCacheAt
  split
  · exact recached_updateTileCache ..
  · exact .refl walker

theorem recached_updateMapCache (walker : Walker) : Recached walker walker.updateMapCache :=
  recached_foldl (fun walker _ => recached_updateTileCacheAt walker _) _ walker

theorem recached_updateRow (walker : Walker) (dy : Int) : Recached walker (walker.updateRow dy) :=
  recached_foldl (fun walker _ => recached_updateTileCache walker ..) _ walker

theorem recached_updateColumn (walker : Walker) (dx : Int) : Recached walker (walker.updateColumn dx) :=
  recached_foldl (fun walker _ => recached_updateTileCache walker ..) _ walker

theorem mem_offsets {offset : Int} : offset ∈ offsets ↔ -11 ≤ offset ∧ offset ≤ 11 := by
  unfold offsets
  rw [mem_map]
  constructor
  · rintro ⟨place, inside, rfl⟩
    rw [mem_range] at inside
    omega
  · intro inside
    refine ⟨(offset + 11).toNat, mem_range.mpr ?_, ?_⟩
    · omega
    · omega

theorem Spot.around (spot : Spot walker.position row column pos) :
    walker.around ((column : Int) - 11) ((row : Int) - 11) = pos := by
  obtain ⟨⟨fitX, fitY⟩, level, _, _, x, y⟩ := spot
  unfold Walker.around toUInt16
  rw [← x, ← y, ← level]
  have whole : ∀ word : Nat, word < 65536 → ((word : Int) % 65536).toNat = word := by
    intro word below
    omega
  rw [whole pos.x fitX, whole pos.y fitY]

/-- The cell for a position, and no other, is set by its update. -/
theorem Spot.updateTileCacheAt (spot : Spot walker.position row column pos) (changed : Position) :
    (walker.updateTileCacheAt changed).localMapCache row column =
      if changed = pos then walker.footing.accepts pos else walker.localMapCache row column := by
  obtain ⟨fits, level, low, left, x, y⟩ := spot
  unfold Walker.updateTileCacheAt
  by_cases here : changed = pos
  · subst here
    rw [if_pos level, if_pos rfl, updateTileCache_cell, maxWalkCacheWidth, maxWalkCacheHeight, if_pos (by omega)]
  · rw [if_neg here]
    split
    · next same =>
      rw [updateTileCache_cell, if_neg]
      rintro ⟨_, _, down, across⟩
      apply here
      have sameX : changed.x = pos.x := by omega
      have sameY : changed.y = pos.y := by omega
      have sameZ : changed.z = pos.z := same.trans level.symm
      cases changed
      cases pos
      cases sameX
      cases sameY
      cases sameZ
      rfl
    · rfl

/-- After the whole cache has been updated every cell is right. -/
theorem Spot.updateMapCache (spot : Spot walker.position row column pos) :
    walker.updateMapCache.localMapCache row column = walker.footing.accepts pos := by
  have stays : ∀ (other : Walker) (offset : Int × Int), Recached walker other →
      Recached walker (other.updateTileCacheAt (other.around offset.1 offset.2)) :=
    fun other offset same => same.trans (recached_updateTileCacheAt ..)
  have cell : ∀ other, Recached walker other → ∀ changed,
      (other.updateTileCacheAt changed).localMapCache row column =
        if changed = pos then walker.footing.accepts pos else other.localMapCache row column := by
    intro other same changed
    rw [← same.footing]
    rw [← same.position] at spot
    exact spot.updateTileCacheAt changed
  apply Shift.foldl_sets stays (fun walker : Walker => walker.localMapCache row column) ?_ ?_ (.refl walker)
  · intro other same offset _
    rw [cell other same]
    split
    · exact .inr rfl
    · exact .inl rfl
  · refine ⟨((column : Int) - 11, (row : Int) - 11), ?_, ?_⟩
    · have inside := spot.low
      have beside := spot.left
      rw [mem_flatMap]
      refine ⟨(row : Int) - 11, mem_offsets.mpr (by omega), ?_⟩
      exact mem_map.mpr ⟨(column : Int) - 11, mem_offsets.mpr (by omega), rfl⟩
    · intro other same
      rw [cell other same]
      rw [← same.position] at spot
      exact if_pos spot.around

/-- Updates of some offsets, one after the other. -/
def updateCells (walker : Walker) (cells : List (Int × Int)) : Walker :=
  cells.foldl (fun walker cell => walker.updateTileCache (walker.around cell.1 cell.2) cell.1 cell.2) walker

theorem updateRow_eq (dy : Int) : walker.updateRow dy = walker.updateCells (offsets.map fun x => (x, dy)) := by
  rw [updateCells, foldl_map, updateRow]

theorem updateColumn_eq (dx : Int) : walker.updateColumn dx = walker.updateCells (offsets.map fun y => (dx, y)) := by
  rw [updateCells, foldl_map, updateColumn]

/-- A cell that is among those that are updated is right. -/
theorem Spot.updateCells (spot : Spot walker.position row column pos) {cells : List (Int × Int)}
    (listed : ((column : Int) - 11, (row : Int) - 11) ∈ cells) :
    (walker.updateCells cells).localMapCache row column = walker.footing.accepts pos := by
  have stays : ∀ (other : Walker) (cell : Int × Int), Recached walker other →
      Recached walker (other.updateTileCache (other.around cell.1 cell.2) cell.1 cell.2) :=
    fun other cell same => same.trans (recached_updateTileCache ..)
  have low := spot.low
  have left := spot.left
  have there : ∀ other, Recached walker other → other.around ((column : Int) - 11) ((row : Int) - 11) = pos := by
    intro other same
    rw [← same.position] at spot
    exact spot.around
  apply Shift.foldl_sets stays (fun walker : Walker => walker.localMapCache row column) ?_ ?_ (.refl walker)
  · intro other same cell _
    rw [updateTileCache_cell]
    split
    · next set_here =>
      have x : cell.1 = (column : Int) - 11 := by omega
      have y : cell.2 = (row : Int) - 11 := by omega
      rw [x, y, there other same, same.footing]
      exact .inr rfl
    · exact .inl rfl
  · refine ⟨_, listed, ?_⟩
    intro other same
    rw [updateTileCache_cell, there other same, same.footing, maxWalkCacheWidth, maxWalkCacheHeight, if_pos (by omega)]

/-- A cell that is not among them is not touched. -/
theorem updateCells_other {cells : List (Int × Int)}
    (elsewhere : ∀ cell ∈ cells, (row : Int) ≠ 11 + cell.2 ∨ (column : Int) ≠ 11 + cell.1) :
    (walker.updateCells cells).localMapCache row column = walker.localMapCache row column := by
  apply Shift.foldl_keeps (fun other _ (_ : True) => trivial) (fun walker : Walker => walker.localMapCache row column) ?_ trivial
  intro other _ cell listed
  have apart := elsewhere cell listed
  rw [updateTileCache_cell, if_neg (by omega)]

/-- A row that is updated is right. -/
theorem Spot.updateRow (spot : Spot walker.position row column pos) {dy : Int} (here : (row : Int) = 11 + dy) :
    (walker.updateRow dy).localMapCache row column = walker.footing.accepts pos := by
  have left := spot.left
  rw [updateRow_eq]
  apply spot.updateCells
  exact mem_map.mpr ⟨(column : Int) - 11, mem_offsets.mpr (by omega), Prod.ext rfl (by omega)⟩

theorem updateRow_other {dy : Int} (elsewhere : (row : Int) ≠ 11 + dy) :
    (walker.updateRow dy).localMapCache row column = walker.localMapCache row column := by
  rw [updateRow_eq]
  apply updateCells_other
  intro cell listed
  obtain ⟨x, _, rfl⟩ := mem_map.mp listed
  exact .inl elsewhere

theorem Spot.updateColumn (spot : Spot walker.position row column pos) {dx : Int} (here : (column : Int) = 11 + dx) :
    (walker.updateColumn dx).localMapCache row column = walker.footing.accepts pos := by
  have low := spot.low
  rw [updateColumn_eq]
  apply spot.updateCells
  exact mem_map.mpr ⟨(row : Int) - 11, mem_offsets.mpr (by omega), Prod.ext (by omega) rfl⟩

theorem updateColumn_other {dx : Int} (elsewhere : (column : Int) ≠ 11 + dx) :
    (walker.updateColumn dx).localMapCache row column = walker.localMapCache row column := by
  rw [updateColumn_eq]
  apply updateCells_other
  intro cell listed
  obtain ⟨y, _, rfl⟩ := mem_map.mp listed
  exact .inr elsewhere

theorem recached_recache (walker : Walker) (cells : Nat → Nat → Bool) : Recached walker (walker.recache cells) := ⟨rfl, rfl, rfl⟩

theorem localMapCache_recache {cells : Nat → Nat → Bool} : (walker.recache cells).localMapCache = cells := rfl

theorem Spot.recache (spot : Spot walker.position row column pos) (cells : Nat → Nat → Bool) :
    Spot (walker.recache cells).position row column pos := spot

theorem recached_shiftY (walker : Walker) (oldPos newPos : Position) : Recached walker (walker.shiftY oldPos newPos) := by
  unfold shiftY
  split
  · exact (recached_recache ..).trans (recached_updateRow ..)
  · split
    · exact (recached_recache ..).trans (recached_updateRow ..)
    · exact .refl walker

theorem recached_shiftX (walker : Walker) (oldPos newPos : Position) : Recached walker (walker.shiftX oldPos newPos) := by
  unfold shiftX
  split
  · exact (recached_recache ..).trans (recached_updateColumn ..)
  · split
    · exact (recached_recache ..).trans (recached_updateColumn ..)
    · exact .refl walker

/-- The row that has come into the window. -/
theorem Spot.shiftY (spot : Spot walker.position row column pos)
    (edge : oldPos.y > newPos.y ∧ row = 0 ∨ oldPos.y < newPos.y ∧ row = 22) :
    (walker.shiftY oldPos newPos).localMapCache row column = walker.footing.accepts pos := by
  unfold Walker.shiftY maxWalkCacheHeight
  rcases edge with ⟨north, rfl⟩ | ⟨south, rfl⟩
  · rw [if_pos north]
    exact (spot.recache _).updateRow (by omega)
  · rw [if_neg (by omega), if_pos south]
    exact (spot.recache _).updateRow (by omega)

theorem shiftY_other (near : ((oldPos.y : Int) - newPos.y).natAbs ≤ 1) {before : Nat} (inside : row < 23) (within : before < 23)
    (moved : (before : Int) = row + ((newPos.y : Int) - oldPos.y)) :
    (walker.shiftY oldPos newPos).localMapCache row column = walker.localMapCache before column := by
  unfold shiftY maxWalkCacheHeight mapWalkHeight
  split
  · next north =>
    rw [updateRow_other (by omega)]
    rw [localMapCache_recache, Shift.up_apply, if_pos (by omega), show row - 1 = before by omega]
  · split
    · next south =>
      rw [updateRow_other (by omega)]
      rw [localMapCache_recache, Shift.down_apply, if_pos (by omega), show row + 1 = before by omega]
    · rw [show row = before by omega]

theorem mem_shiftedRows (near : ((oldPos.y : Int) - newPos.y).natAbs ≤ 1) :
    row ∈ shiftedRows oldPos newPos ↔ row < 23 ∧ (oldPos.y = newPos.y ∨ 0 < row) := by
  unfold shiftedRows mapWalkHeight
  simp only [mem_range'_1]
  split
  · rw [if_neg (by omega)]
    omega
  · rw [if_neg (by omega)]
    omega

theorem nodup_shiftedRows : (shiftedRows oldPos newPos).Nodup := nodup_range'

theorem Spot.shiftX (spot : Spot walker.position row column pos)
    (edge : oldPos.x < newPos.x ∧ column = 22 ∨ oldPos.x > newPos.x ∧ column = 0) :
    (walker.shiftX oldPos newPos).localMapCache row column = walker.footing.accepts pos := by
  unfold Walker.shiftX maxWalkCacheWidth
  rcases edge with ⟨east, rfl⟩ | ⟨west, rfl⟩
  · rw [if_pos east]
    exact (spot.recache _).updateColumn (by omega)
  · rw [if_neg (by omega), if_pos west]
    exact (spot.recache _).updateColumn (by omega)

theorem shiftX_other (near : ((oldPos.x : Int) - newPos.x).natAbs ≤ 1) {before : Nat} (inside : column < 23) (within : before < 23)
    (moved : (before : Int) = column + ((newPos.x : Int) - oldPos.x))
    (shifted : row ∈ shiftedRows oldPos newPos ∨ oldPos.x = newPos.x) :
    (walker.shiftX oldPos newPos).localMapCache row column = walker.localMapCache row before := by
  unfold shiftX maxWalkCacheWidth mapWalkWidth
  split
  · next east =>
    rw [updateColumn_other (by omega)]
    rw [localMapCache_recache, Shift.each_apply _ nodup_shiftedRows, if_pos (shifted.resolve_right (by omega)), Shift.down_apply, if_pos (by omega),
      show column + 1 = before by omega]
  · split
    · next west =>
      rw [updateColumn_other (by omega)]
      rw [localMapCache_recache, Shift.each_apply _ nodup_shiftedRows, if_pos (shifted.resolve_right (by omega)), Shift.up_apply, if_pos (by omega),
        show column - 1 = before by omega]
    · rw [show column = before by omega]

/-- In the rows that do not move to the side everything stays where it is, but for the new column. -/
theorem shiftX_kept (kept : row ∉ shiftedRows oldPos newPos)
    (inside : ¬ (oldPos.x < newPos.x ∧ column = 22 ∨ oldPos.x > newPos.x ∧ column = 0)) :
    (walker.shiftX oldPos newPos).localMapCache row column = walker.localMapCache row column := by
  unfold shiftX maxWalkCacheWidth
  split
  · next east =>
    rw [updateColumn_other (by omega)]
    rw [localMapCache_recache, Shift.each_apply _ nodup_shiftedRows, if_neg kept]
  · split
    · next west =>
      rw [updateColumn_other (by omega)]
      rw [localMapCache_recache, Shift.each_apply _ nodup_shiftedRows, if_neg kept]
    · rfl

/-- A step that is no step to the south-east or the south-west, from one position to a neighbour. -/
structure Straight (oldPos newPos : Position) : Prop where
  nearX : ((oldPos.x : Int) - newPos.x).natAbs ≤ 1
  nearY : ((oldPos.y : Int) - newPos.y).natAbs ≤ 1
  notSouth : oldPos.x = newPos.x ∨ ¬ oldPos.y < newPos.y

/-- A cell after a step is new and right, or it is the cell that the position had before. -/
theorem Spot.shifted (spot : Spot walker.position row column pos) (straight : Straight oldPos walker.position) :
    ((walker.shiftY oldPos walker.position).shiftX oldPos walker.position).localMapCache row column =
        walker.footing.accepts pos ∨
      ∃ before beside : Nat, before < 23 ∧ beside < 23 ∧
        (before : Int) = row + ((walker.position.y : Int) - oldPos.y) ∧
        (beside : Int) = column + ((walker.position.x : Int) - oldPos.x) ∧
        ((walker.shiftY oldPos walker.position).shiftX oldPos walker.position).localMapCache row column =
          walker.localMapCache before beside := by
  obtain ⟨nearX, nearY, notSouth⟩ := straight
  have low := spot.low
  have left := spot.left
  have same := recached_shiftY walker oldPos walker.position
  have spotY : Spot (walker.shiftY oldPos walker.position).position row column pos := by
    rw [same.position]
    exact spot
  by_cases edgeX : oldPos.x < walker.position.x ∧ column = 22 ∨ oldPos.x > walker.position.x ∧ column = 0
  · left
    rw [spotY.shiftX edgeX, same.footing]
  · obtain ⟨beside, across, x⟩ : ∃ beside : Nat, beside < 23 ∧
        (beside : Int) = column + ((walker.position.x : Int) - oldPos.x) :=
      ⟨((column : Int) + ((walker.position.x : Int) - oldPos.x)).toNat, by omega, by omega⟩
    by_cases edgeY : oldPos.y > walker.position.y ∧ row = 0 ∨ oldPos.y < walker.position.y ∧ row = 22
    · left
      rw [← spot.shiftY edgeY]
      by_cases aside : oldPos.x = walker.position.x
      · rw [shiftX_other nearX left across x (.inr aside), show beside = column by omega]
      · -- The row is the northern one, which is right already and does not move to the side.
        apply shiftX_kept ?_ edgeX
        rw [mem_shiftedRows nearY]
        omega
    · right
      obtain ⟨before, down, y⟩ : ∃ before : Nat, before < 23 ∧
          (before : Int) = row + ((walker.position.y : Int) - oldPos.y) :=
        ⟨((row : Int) + ((walker.position.y : Int) - oldPos.y)).toNat, by omega, by omega⟩
      refine ⟨before, beside, down, across, y, x, ?_⟩
      have shifted : row ∈ shiftedRows oldPos walker.position ∨ oldPos.x = walker.position.x := by
        rw [mem_shiftedRows nearY]
        omega
      rw [shiftX_other nearX left across x shifted, shiftY_other nearY low down y]

end

section
variable {walker : Walker} {pos oldPos newPos : Position} {taken : Step}

/-- The events after which the whole cache is updated. -/
def Event.Fills (walker : Walker) : Event → Prop
  | .load => True
  | .move newPos forceTeleport => walker.isMapLoaded = true ∧ (forceTeleport = true ∨ areInRange walker.position newPos = false)
  | _ => False

/-- The tiles that an event tells the creature of. -/
def Event.reported (walker : Walker) : Event → List Position
  | .load => []
  | .move newPos _ => [walker.position, newPos]
  | .otherMoves oldPos newPos => [oldPos, newPos]
  | .onAddTileItem pos => [pos]
  | .onUpdateTileItem pos oldType newType =>
    if oldType.blockSolid || oldType.blockPathFind || newType.blockPathFind || newType.blockSolid then [pos] else []
  | .onRemoveTileItem pos iType => if iType.blockSolid || iType.blockPathFind || iType.isGroundTile then [pos] else []
  | .otherAppears pos => [pos]
  | .otherIsRemoved pos => [pos]

/-- No step of the creature to the south-east or the south-west. -/
def Event.NotSouth (walker : Walker) : Event → Prop
  | .move newPos _ => walker.position.x = newPos.x ∨ ¬ walker.position.y < newPos.y
  | _ => True

/-- The whole cache is updated; or the tiles that have changed are reported, and the creature makes no step to the
south-east or the south-west. -/
def Regular (walker : Walker) (taken : Step) : Prop :=
  taken.event.Fills walker ∨
    ((∀ pos, pos ∉ taken.event.reported walker → taken.footing.accepts pos = walker.footing.accepts pos) ∧
      taken.event.NotSouth walker)

/-- The cache agrees with the map, and so do the answers that come from it, for the tiles on the creature's floor. -/
structure Sound (walker : Walker) : Prop where
  agrees : walker.Agrees
  answers : ∀ pos, pos.Fits → pos.z = walker.position.z → pos ≠ walker.position → ∀ useCacheMap,
    walker.getWalkCache useCacheMap pos = 2 ∨
      walker.getWalkCache useCacheMap pos = if walker.footing.accepts pos then 1 else 0
  canWalkTo : ∀ pos, pos.Fits → pos.z = walker.position.z → ∀ useCacheMap,
    walker.canWalkTo useCacheMap pos = walker.walkable pos

theorem agrees_updateMapCache (walker : Walker) : walker.updateMapCache.Agrees := by
  have same := recached_updateMapCache walker
  intro row column pos spot _
  rw [same.position] at spot
  rw [same.footing]
  exact spot.updateMapCache

theorem Agrees.answers (agrees : walker.Agrees) (fits : pos.Fits) (level : pos.z = walker.position.z)
    (other : pos ≠ walker.position) (useCacheMap : Bool) : walker.getWalkCache useCacheMap pos = 2 ∨
      walker.getWalkCache useCacheMap pos = if walker.footing.accepts pos then 1 else 0 := by
  unfold getWalkCache maxWalkCacheWidth maxWalkCacheHeight
  cases useCacheMap with
  | false => exact .inl rfl
  | true =>
    simp only [Bool.not_true, Bool.false_eq_true, ↓reduceIte, level, ne_eq, not_true_eq_false, other]
    split
    · next inside =>
      right
      have cell := agrees (11 + ((pos.y : Int) - walker.position.y)).toNat (11 + ((pos.x : Int) - walker.position.x)).toNat pos
        ⟨fits, level, by omega, by omega, by omega, by omega⟩ other
      rw [cell]
    · exact .inl rfl

theorem Agrees.sound (agrees : walker.Agrees) : walker.Sound where
  agrees := agrees
  answers := fun _ fits level other useCacheMap => agrees.answers fits level other useCacheMap
  canWalkTo := by
    intro pos fits level useCacheMap
    unfold Walker.canWalkTo walkable
    by_cases own : pos = walker.position
    · subst own
      rw [if_pos rfl]
      unfold getWalkCache
      cases useCacheMap with
      | false => rfl
      | true => simp only [Bool.not_true, Bool.false_eq_true, ↓reduceIte, ne_eq, not_true_eq_false]
    · rw [if_neg own]
      rcases agrees.answers fits level own useCacheMap with far | near
      · rw [far]
        rfl
      · rw [near]
        unfold Footing.accepts
        cases walker.footing.tile pos with
        | false => rfl
        | true =>
          cases walker.footing.queryAdd pos with
          | false => rfl
          | true => rfl

/-- The cache agrees with the map but for some tiles that have changed. -/
def AgreesBut (walker : Walker) (stale : List Position) : Prop :=
  ∀ row column pos, Spot walker.position row column pos → pos ≠ walker.position → pos ∉ stale →
    walker.localMapCache row column = walker.footing.accepts pos

theorem agreesBut_nil : walker.AgreesBut [] ↔ walker.Agrees := by
  unfold AgreesBut Agrees
  simp only [not_mem_nil, not_false_eq_true, true_imp_iff]

theorem AgreesBut.updateTileCacheAt {stale : List Position} (but : walker.AgreesBut (pos :: stale)) :
    (walker.updateTileCacheAt pos).AgreesBut stale := by
  have same := recached_updateTileCacheAt walker pos
  intro row column other spot apart fresh
  rw [same.position] at spot apart
  rw [spot.updateTileCacheAt, same.footing]
  split
  · rfl
  · next elsewhere =>
    apply but row column other spot apart
    rw [mem_cons, not_or]
    exact ⟨fun again => elsewhere again.symm, fresh⟩

/-- The footing of a map where just the reported tiles have changed. -/
theorem Agrees.changed (agrees : walker.Agrees) {footing : Footing} {stale : List Position}
    (changes : ∀ pos, pos ∉ stale → footing.accepts pos = walker.footing.accepts pos) :
    { walker with footing }.AgreesBut stale := by
  intro row column pos spot apart fresh
  rw [changes pos fresh]
  exact agrees row column pos spot apart

/-- What a step of the creature leaves, but for the tile that it has come from. -/
theorem AgreesBut.shifted (but : walker.AgreesBut [walker.position, newPos]) (straight : Straight walker.position newPos)
    (level : walker.position.z = newPos.z) :
    (({ walker with position := newPos }.shiftY walker.position newPos).shiftX walker.position newPos).AgreesBut
      [walker.position] := by
  have same := (recached_shiftY { walker with position := newPos } walker.position newPos).trans
    (recached_shiftX _ walker.position newPos)
  intro row column pos spot apart fresh
  rw [same.position] at spot apart
  rw [same.footing]
  have moved := Spot.shifted (show Spot { walker with position := newPos }.position row column pos from spot) straight
  rcases moved with new | ⟨before, beside, down, across, y, x, old⟩
  · exact new
  · refine old.trans (but before beside pos ?_ ?_ ?_)
    · obtain ⟨fits, here, _, _, spotX, spotY⟩ := spot
      simp only at here spotX spotY x y
      exact ⟨fits, here.trans level.symm, down, across, by omega, by omega⟩
    · exact fun own => fresh (mem_singleton.mpr own)
    · simp only [mem_cons, not_mem_nil, or_false, not_or]
      exact ⟨fun own => fresh (mem_singleton.mpr own), apart⟩

/-- What the cache is worth while it is kept. -/
structure Kept (walker : Walker) : Prop where
  loaded : walker.isMapLoaded = true
  agrees : walker.Agrees

theorem kept_updateMapCache (loaded : walker.isMapLoaded = true) : walker.updateMapCache.Kept where
  loaded := (recached_updateMapCache walker).isMapLoaded.trans loaded
  agrees := agrees_updateMapCache walker

theorem step_load (walker : Walker) (footing : Footing) :
    walker.step ⟨.load, footing⟩ = { walker with footing, isMapLoaded := true }.updateMapCache := by
  simp only [Walker.step, handle]

theorem step_move (walker : Walker) (newPos : Position) (forceTeleport : Bool) (footing : Footing) :
    walker.step ⟨.move newPos forceTeleport, footing⟩ =
      { walker with footing, position := newPos }.onCreatureMove walker.position newPos
        (forceTeleport || !areInRange walker.position newPos) := by
  simp only [Walker.step, handle]

theorem onCreatureMove_teleport (loaded : walker.isMapLoaded = true) :
    walker.onCreatureMove oldPos newPos true = walker.updateMapCache := by
  simp only [onCreatureMove, loaded, true_or, ↓reduceIte]

theorem onCreatureMove_step (loaded : walker.isMapLoaded = true) (level : oldPos.z = newPos.z) :
    walker.onCreatureMove oldPos newPos false =
      ((walker.shiftY oldPos newPos).shiftX oldPos newPos).updateTileCacheAt oldPos := by
  simp only [onCreatureMove, loaded, level, Bool.false_eq_true, ne_eq, not_true_eq_false, or_self, ↓reduceIte]

theorem kept_of_fills (fills : taken.event.Fills walker) : (walker.step taken).Kept := by
  obtain ⟨event, footing⟩ := taken
  cases event with
  | load =>
    rw [step_load]
    apply kept_updateMapCache
    rfl
  | move newPos forceTeleport =>
    obtain ⟨loaded, teleport⟩ := fills
    have far : (forceTeleport || !areInRange walker.position newPos) = true := by
      rcases teleport with forced | far
      · rw [forced, Bool.true_or]
      · rw [far, Bool.not_false, Bool.or_true]
    rw [step_move, far, onCreatureMove_teleport]
    · apply kept_updateMapCache
      exact loaded
    · exact loaded
  | otherMoves | onAddTileItem | onUpdateTileItem | onRemoveTileItem | otherAppears | otherIsRemoved => cases fills

theorem areInRange_iff : areInRange oldPos newPos = true ↔
    ((oldPos.x : Int) - newPos.x).natAbs ≤ 1 ∧ ((oldPos.y : Int) - newPos.y).natAbs ≤ 1 ∧ oldPos.z = newPos.z := by
  unfold areInRange
  simp only [Bool.and_eq_true, decide_eq_true_eq]
  omega

theorem kept_report {stale : List Position} (loaded : walker.isMapLoaded = true) (but : walker.AgreesBut (pos :: stale)) :
    (walker.report pos).isMapLoaded = true ∧ (walker.report pos).AgreesBut stale := by
  unfold report
  rw [if_pos loaded]
  exact ⟨(recached_updateTileCacheAt walker pos).isMapLoaded.trans loaded, but.updateTileCacheAt⟩

theorem Kept.move (kept : walker.Kept) {footing : Footing} {forceTeleport : Bool}
    (changes : ∀ pos, pos ∉ [walker.position, newPos] → footing.accepts pos = walker.footing.accepts pos)
    (notSouth : walker.position.x = newPos.x ∨ ¬ walker.position.y < newPos.y)
    (near : (forceTeleport || !areInRange walker.position newPos) = false) :
    (walker.step ⟨.move newPos forceTeleport, footing⟩).Kept := by
  obtain ⟨_, inRange⟩ := Bool.or_eq_false_iff.mp near
  rw [Bool.not_eq_false'] at inRange
  obtain ⟨nearX, nearY, level⟩ := areInRange_iff.mp inRange
  have but := kept.agrees.changed changes
  have shifted := but.shifted ⟨nearX, nearY, notSouth⟩ level
  have agrees := shifted.updateTileCacheAt
  have same := ((recached_shiftY { walker with footing, position := newPos } walker.position newPos).trans
    (recached_shiftX _ walker.position newPos)).trans (recached_updateTileCacheAt _ walker.position)
  rw [step_move, near, onCreatureMove_step (by exact kept.loaded) level]
  exact ⟨same.isMapLoaded.trans kept.loaded, agreesBut_nil.mp agrees⟩

theorem Kept.step (kept : walker.Kept) (regular : walker.Regular taken) : (walker.step taken).Kept := by
  rcases regular with fills | ⟨changes, notSouth⟩
  · exact kept_of_fills fills
  · obtain ⟨event, footing⟩ := taken
    have but := kept.agrees.changed changes
    have loaded : { walker with footing }.isMapLoaded = true := kept.loaded
    have one : ∀ {pos}, { walker with footing }.AgreesBut [pos] → ({ walker with footing }.report pos).Kept := by
      intro pos but
      obtain ⟨loaded, agrees⟩ := kept_report loaded but
      exact ⟨loaded, agreesBut_nil.mp agrees⟩
    cases event with
    | load => exact kept_of_fills trivial
    | move newPos forceTeleport =>
      cases near : forceTeleport || !areInRange walker.position newPos with
      | false => exact kept.move changes notSouth near
      | true =>
        rw [Bool.or_eq_true, Bool.not_eq_true'] at near
        exact kept_of_fills ⟨kept.loaded, near⟩
    | otherMoves oldPos newPos =>
      have swapped : { walker with footing }.AgreesBut [newPos, oldPos] := by
        intro row column pos spot apart fresh
        apply but row column pos spot apart
        simp only [Event.reported, mem_cons, not_mem_nil, or_false, not_or] at fresh ⊢
        exact fresh.symm
      obtain ⟨loaded, agrees⟩ := kept_report loaded swapped
      obtain ⟨loaded, agrees⟩ := kept_report loaded agrees
      exact ⟨loaded, agreesBut_nil.mp agrees⟩
    | onAddTileItem pos => exact one but
    | onUpdateTileItem pos oldType newType =>
      simp only [Walker.step, handle]
      simp only [Event.reported] at but
      split at but
      · next relevant =>
        rw [if_pos relevant]
        exact one but
      · next passed =>
        rw [if_neg passed]
        exact ⟨kept.loaded, agreesBut_nil.mp but⟩
    | onRemoveTileItem pos iType =>
      simp only [Walker.step, handle]
      simp only [Event.reported] at but
      split at but
      · next relevant =>
        rw [if_pos relevant]
        exact one but
      · next passed =>
        rw [if_neg passed]
        exact ⟨kept.loaded, agreesBut_nil.mp but⟩
    | otherAppears pos => exact one but
    | otherIsRemoved pos => exact one but

/-- From where the whole cache has been updated on, it agrees with the map as long as what happens is regular. -/
theorem walkCache_sound {first : Step} {steps : List Step} (fills : first.event.Fills walker)
    (regular : Throughout Walker.step Regular (walker.step first) steps) :
    Always Walker.step Sound (walker.step first) steps := by
  have keeps : ∀ (walker : Walker) (taken : Step), walker.Kept → walker.Regular taken → (walker.step taken).Kept :=
    fun _ _ kept regular => kept.step regular
  exact (always_of_throughout keeps (kept_of_fills fills) regular).mono fun _ kept => kept.agrees.sound

/-- A floor of tiles that accept the creature, but for its own and one that is blocked. -/
def yard (own : Position) : Footing where
  tile := fun _ => true
  queryAdd := fun pos => pos ≠ own && pos ≠ ⟨95, 90, 7⟩

def yardWalker : Walker := { position := ⟨100, 100, 7⟩, footing := yard ⟨100, 100, 7⟩ }

theorem walkCache_sound_yard : Always Walker.step Sound (yardWalker.step ⟨.load, yard ⟨100, 100, 7⟩⟩)
    [⟨.move ⟨100, 99, 7⟩ false, yard ⟨100, 99, 7⟩⟩] := by
  apply walkCache_sound
  · trivial
  · have same := recached_updateMapCache { yardWalker with footing := yard ⟨100, 100, 7⟩, isMapLoaded := true }
    rw [step_load]
    refine ⟨.inr ⟨?_, ?_⟩, trivial⟩
    · intro pos fresh
      simp only [Event.reported, same.position, mem_cons, not_mem_nil, or_false, not_or] at fresh
      have first : pos ≠ ⟨100, 100, 7⟩ := fresh.1
      rw [same.footing]
      simp only [Footing.accepts, yard, ne_eq, first, fresh.2, not_false_eq_true, decide_true, Bool.true_and]
    · left
      rw [same.position]
      rfl

/-- After a step to the north the creature's own cell is what the tile said before; after a step to the south-east a cell
of the first row is what another tile says. -/
theorem yard_stale :
    ((yardWalker.step ⟨.load, yard ⟨100, 100, 7⟩⟩).step ⟨.move ⟨100, 99, 7⟩ false, yard ⟨100, 99, 7⟩⟩).localMapCache 11 11 ≠
        (yard ⟨100, 99, 7⟩).accepts ⟨100, 99, 7⟩ ∧
      ((yardWalker.step ⟨.load, yard ⟨100, 100, 7⟩⟩).step
        ⟨.move ⟨101, 101, 7⟩ false, yard ⟨101, 101, 7⟩⟩).localMapCache 0 5 ≠ (yard ⟨101, 101, 7⟩).accepts ⟨95, 90, 7⟩ := by
  decide +kernel

end

end Styller.Walker
