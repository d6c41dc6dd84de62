import Styller.Map.Ownership

/-! The walk along the links of the leaves finds just the creatures in the box. -/

namespace Styller

open Library QTreeNode List

/-- A position in the box around a center: its floor is in range, and so are its coordinates, shifted by the difference
of the floors. -/
structure SpectatorRange.Within (range : SpectatorRange) (centerPos pos : Position) : Prop where
  lowZ : range.minRangeZ ≤ pos.z
  highZ : pos.z ≤ range.maxRangeZ
  lowX : centerPos.x + range.minRangeX ≤ pos.x - ((centerPos.z : Int) - pos.z)
  highX : pos.x - ((centerPos.z : Int) - pos.z) ≤ centerPos.x + range.maxRangeX
  lowY : centerPos.y + range.minRangeY ≤ pos.y - ((centerPos.z : Int) - pos.z)
  highY : pos.y - ((centerPos.z : Int) - pos.z) ≤ centerPos.y + range.maxRangeY

namespace SpectatorRange

variable {range : SpectatorRange} {centerPos pos : Position}

theorem sees_iff : range.sees centerPos pos = true ↔ range.Within centerPos pos := by
  unfold sees min_x min_y max_x max_y
  constructor
  · intro sees
    split at sees
    · cases sees
    · next level =>
      simp only [gt_iff_lt, Bool.not_eq_true', Bool.or_eq_false_iff, decide_eq_false_iff_not] at sees
      constructor <;> omega
  · rintro ⟨lowZ, highZ, lowX, highX, lowY, highY⟩
    have level : ¬ (range.minRangeZ > pos.z ∨ range.maxRangeZ < pos.z) := by omega
    rw [if_neg level]
    simp only [gt_iff_lt, Bool.not_eq_true', Bool.or_eq_false_iff, decide_eq_false_iff_not]
    omega

/-- The step of a walk from one coordinate to another that comes to a coordinate between them. -/
theorem exists_step {first last coordinate : Nat} (low : first ≤ coordinate) (high : coordinate ≤ last) :
    ∃ step < rounds (aligned first) (aligned last), aligned first + step * 8 = coordinate - coordinate % 8 := by
  unfold rounds aligned FLOOR_SIZE
  refine ⟨(coordinate - (first - first % 8)) / 8, ?_, ?_⟩
  · omega
  · omega

/-- A walk does not leave the map. -/
theorem step_lt {first last step : Nat} (inside : last ≤ 0xFFFF) (early : step < rounds (aligned first) (aligned last)) :
    aligned first + step * 8 < 65536 := by
  unfold rounds aligned FLOOR_SIZE at *
  omega

theorem clamped_le (coordinate : Int) : clamped coordinate ≤ 0xFFFF := Nat.min_le_left ..

theorem clamped_low {low : Int} {coordinate : Nat} (above : low ≤ coordinate) : clamped low ≤ coordinate := by
  unfold clamped
  omega

theorem clamped_high {high : Int} {coordinate : Nat} (below : (coordinate : Int) ≤ high) (inside : coordinate < 65536) :
    coordinate ≤ clamped high := by
  unfold clamped
  omega

end SpectatorRange

namespace Map

section
variable {getPlayer : CreatureId → Bool} {map : Map} {centerPos : Position} {range : SpectatorRange} {onlyPlayers : Bool}

/-- What the walk finds on a block. -/
def foundAt (map : Map) (centerPos : Position) (range : SpectatorRange) (onlyPlayers : Bool) (x y : Nat) : List CreatureId :=
  match map.getQTNode x y with
  | some leaf => map.scanLeaf centerPos range onlyPlayers leaf []
  | none => []

theorem scanLeaf_append (leaf : LeafPtr) (spectators : List CreatureId) : map.scanLeaf centerPos range onlyPlayers leaf spectators =
    spectators ++ map.scanLeaf centerPos range onlyPlayers leaf [] := rfl

theorem flatMap_steps {Value : Type} (here : Nat → List Value) (start size count : Nat) :
    (List.range (count + 1)).flatMap (fun step => here (start + step * size)) =
      here start ++ (List.range count).flatMap fun step => here (start + size + step * size) := by
  rw [range_succ_eq_map, flatMap_cons, flatMap_map, Nat.zero_mul, Nat.add_zero]
  have moved : ∀ step, start + (step + 1) * size = start + size + step * size := by
    intro step
    rw [Nat.succ_mul, Nat.add_comm (step * size), Nat.add_assoc]
  simp only [Nat.succ_eq_add_one, moved]

/-- The links of a row lead to the leaves that the tree would give. -/
theorem scanRow_eq (linked : map.Linked) (count nx ny : Nat) (spectators : List CreatureId) :
    map.scanRow centerPos range onlyPlayers count (map.getQTNode nx ny) nx ny spectators =
      spectators ++ (List.range count).flatMap fun column =>
        map.foundAt centerPos range onlyPlayers (nx + column * FLOOR_SIZE) ny := by
  induction count generalizing nx spectators with
  | zero => rw [scanRow, range_zero, flatMap_nil, append_nil]
  | succ count ih =>
    rw [flatMap_steps fun x => map.foundAt centerPos range onlyPlayers x ny, foundAt]
    cases found : map.getQTNode nx ny with
    | none => rw [scanRow, ih, nil_append]
    | some leaf => rw [scanRow, linked.east found, ih, scanLeaf_append, append_assoc]

theorem scanRows_eq (linked : map.Linked) (columns startx1 count ny : Nat) (spectators : List CreatureId) :
    map.scanRows centerPos range onlyPlayers columns startx1 count (map.getQTNode startx1 ny) ny spectators =
      spectators ++ (List.range count).flatMap fun row => (List.range columns).flatMap fun column =>
        map.foundAt centerPos range onlyPlayers (startx1 + column * FLOOR_SIZE) (ny + row * FLOOR_SIZE) := by
  induction count generalizing ny spectators with
  | zero => rw [scanRows, range_zero, flatMap_nil, append_nil]
  | succ count ih =>
    rw [flatMap_steps fun y => (List.range columns).flatMap fun column =>
      map.foundAt centerPos range onlyPlayers (startx1 + column * FLOOR_SIZE) y]
    simp only [scanRows, scanRow_eq linked]
    cases found : map.getQTNode startx1 ny with
    | none => rw [ih, append_assoc]
    | some leaf =>
      simp only
      rw [linked.south found, ih, append_assoc]

/-- What the walk finds altogether. -/
def found (map : Map) (centerPos : Position) (range : SpectatorRange) (onlyPlayers : Bool) : List CreatureId :=
  (List.range (rounds (range.starty1 centerPos) (range.endy2 centerPos))).flatMap fun row =>
    (List.range (rounds (range.startx1 centerPos) (range.endx2 centerPos))).flatMap fun column =>
      map.foundAt centerPos range onlyPlayers (range.startx1 centerPos + column * FLOOR_SIZE)
        (range.starty1 centerPos + row * FLOOR_SIZE)

theorem getSpectatorsInternal_eq (linked : map.Linked) (spectators : List CreatureId) :
    map.getSpectatorsInternal centerPos range onlyPlayers spectators =
      spectators ++ map.found centerPos range onlyPlayers := scanRows_eq linked ..

theorem mem_foundAt (tended : map.Tended getPlayer) {x y : Nat} {creature : CreatureId} :
    creature ∈ map.foundAt centerPos range onlyPlayers x y ↔
      map.OnBlock x y creature ∧ map.seen centerPos range creature = true ∧
        (onlyPlayers = true → getPlayer creature = true) := by
  unfold foundAt
  cases found : map.getQTNode x y with
  | none =>
    refine iff_of_false not_mem_nil ?_
    rintro ⟨⟨pos, stands, same⟩, _⟩
    obtain ⟨_, leaf, there, _⟩ := getTile_iff.mp (tended.owned.placed stands).2
    rw [tended.linked.congr same, found] at there
    cases there
  | some leaf =>
    have lists := tended.owned.lists found
    simp only [scanLeaf, nil_append, mem_filter]
    split
    · next players =>
      rw [lists.mem_players, and_assoc]
      simp only [players, true_imp_iff, and_comm]
    · next creatures =>
      rw [lists.mem_creatures]
      simp only [creatures, Bool.false_eq_true, false_imp_iff, and_true]

theorem nodup_foundAt (tended : map.Tended getPlayer) (x y : Nat) : (map.foundAt centerPos range onlyPlayers x y).Nodup := by
  unfold foundAt
  cases found : map.getQTNode x y with
  | none => exact nodup_nil
  | some leaf =>
    have lists := tended.owned.lists found
    apply List.Nodup.filter
    split
    · exact lists.players
    · exact lists.creatures

theorem OnBlock.unique {x y otherX otherY : Nat} {creature : CreatureId} (here : map.OnBlock x y creature)
    (there : map.OnBlock otherX otherY creature) : block x y = block otherX otherY := by
  obtain ⟨pos, stands, same⟩ := here
  obtain ⟨other, again, also⟩ := there
  cases stands.symm.trans again
  exact same.symm.trans also

/-- A creature whose place is in the box, and a player if players are asked for. -/
def Sought (getPlayer : CreatureId → Bool) (map : Map) (centerPos : Position) (range : SpectatorRange) (onlyPlayers : Bool)
    (creature : CreatureId) : Prop :=
  ∃ pos, map.position creature = some pos ∧ range.Within centerPos pos ∧ (onlyPlayers = true → getPlayer creature = true)

theorem seen_iff {creature : CreatureId} : map.seen centerPos range creature = true ↔
    ∃ pos, map.position creature = some pos ∧ range.Within centerPos pos := by
  unfold seen
  cases map.position creature with
  | none => simp only [Bool.false_eq_true, reduceCtorEq, false_and, exists_false]
  | some pos => simp only [range.sees_iff, Option.some.injEq, exists_eq_left']

/-- The blocks of the walk cover the box. -/
theorem covered {pos : Position} (within : range.Within centerPos pos) (fits : pos.Fits) :
    ∃ row < rounds (range.starty1 centerPos) (range.endy2 centerPos),
      ∃ column < rounds (range.startx1 centerPos) (range.endx2 centerPos),
        block pos.x pos.y =
          block (range.startx1 centerPos + column * FLOOR_SIZE) (range.starty1 centerPos + row * FLOOR_SIZE) := by
  obtain ⟨lowZ, highZ, lowX, highX, lowY, highY⟩ := within
  have lowX : range.min_x centerPos + range.minoffset centerPos ≤ pos.x := by
    unfold SpectatorRange.min_x SpectatorRange.minoffset
    omega
  have highX : pos.x ≤ range.max_x centerPos + range.maxoffset centerPos := by
    unfold SpectatorRange.max_x SpectatorRange.maxoffset
    omega
  have lowY : range.min_y centerPos + range.minoffset centerPos ≤ pos.y := by
    unfold SpectatorRange.min_y SpectatorRange.minoffset
    omega
  have highY : pos.y ≤ range.max_y centerPos + range.maxoffset centerPos := by
    unfold SpectatorRange.max_y SpectatorRange.maxoffset
    omega
  obtain ⟨row, early, y⟩ := SpectatorRange.exists_step (SpectatorRange.clamped_low lowY) (SpectatorRange.clamped_high highY fits.2)
  obtain ⟨column, left, x⟩ := SpectatorRange.exists_step (SpectatorRange.clamped_low lowX) (SpectatorRange.clamped_high highX fits.1)
  refine ⟨row, early, column, left, ?_⟩
  unfold SpectatorRange.startx1 SpectatorRange.starty1 FLOOR_SIZE
  rw [x, y, block, block, Prod.mk.injEq]
  obtain ⟨fitX, fitY⟩ := fits
  constructor
  · omega
  · omega

theorem mem_found (tended : map.Tended getPlayer) {creature : CreatureId} :
    creature ∈ map.found centerPos range onlyPlayers ↔ map.Sought getPlayer centerPos range onlyPlayers creature := by
  unfold found Sought
  simp only [mem_flatMap, mem_range, mem_foundAt tended, seen_iff]
  constructor
  · rintro ⟨_, _, _, _, _, ⟨pos, stands, within⟩, players⟩
    exact ⟨pos, stands, within, players⟩
  · rintro ⟨pos, stands, within, players⟩
    obtain ⟨row, early, column, left, same⟩ := covered within (tended.owned.placed stands).1
    exact ⟨row, early, column, left, ⟨pos, stands, same⟩, ⟨pos, stands, within⟩, players⟩

/-- Two steps of a walk are on two blocks. -/
theorem steps_apart {first last step other : Nat} (inside : last ≤ 0xFFFF)
    (early : step < rounds (SpectatorRange.aligned first) (SpectatorRange.aligned last))
    (late : other < rounds (SpectatorRange.aligned first) (SpectatorRange.aligned last))
    (same : (SpectatorRange.aligned first + step * FLOOR_SIZE) % 65536 / 8 =
      (SpectatorRange.aligned first + other * FLOOR_SIZE) % 65536 / 8) : step = other := by
  have one := SpectatorRange.step_lt inside early
  have two := SpectatorRange.step_lt inside late
  unfold FLOOR_SIZE at same
  rw [Nat.mod_eq_of_lt one, Nat.mod_eq_of_lt two] at same
  omega

theorem nodup_found (tended : map.Tended getPlayer) : (map.found centerPos range onlyPlayers).Nodup := by
  have onBlock : ∀ {x y creature}, creature ∈ map.foundAt centerPos range onlyPlayers x y → map.OnBlock x y creature :=
    fun listed => ((mem_foundAt tended).mp listed).1
  apply nodup_flatMap.mpr
  constructor
  · intro row _
    apply nodup_flatMap.mpr
    constructor
    · intro column _
      exact nodup_foundAt tended ..
    · apply nodup_range.pairwise_of_forall_ne
      intro column left other right different creature here there
      have same := (onBlock here).unique (onBlock there)
      rw [block, block, Prod.mk.injEq] at same
      exact different (steps_apart (SpectatorRange.clamped_le _) (mem_range.mp left) (mem_range.mp right) same.1)
  · apply nodup_range.pairwise_of_forall_ne
    intro row above other below different creature here there
    obtain ⟨column, _, here⟩ := mem_flatMap.mp here
    obtain ⟨opposite, _, there⟩ := mem_flatMap.mp there
    have same := (onBlock here).unique (onBlock there)
    rw [block, block, Prod.mk.injEq] at same
    exact different (steps_apart (SpectatorRange.clamped_le _) (mem_range.mp above) (mem_range.mp below) same.2)

/-- The search through the leaves finds just the creatures in the box, each of them once. -/
theorem getSpectatorsInternal_finds {allow : Map → MapOp → Prop} (reached : (system getPlayer).Reachable allow map)
    (centerPos : Position) (range : SpectatorRange) (onlyPlayers : Bool) (spectators : List CreatureId) :
    ∃ found, map.getSpectatorsInternal centerPos range onlyPlayers spectators = spectators ++ found ∧ found.Nodup ∧
      ∀ creature, creature ∈ found ↔ map.Sought getPlayer centerPos range onlyPlayers creature := by
  have tended := tended_reachable reached
  exact ⟨map.found centerPos range onlyPlayers, getSpectatorsInternal_eq tended.linked spectators, nodup_found tended,
    fun _ => mem_found tended⟩

def pairOps : List MapOp :=
  [.setTile ⟨7, 7, 7⟩, .setTile ⟨8, 7, 7⟩, .placeCreature 1 ⟨7, 7, 7⟩, .placeCreature 2 ⟨8, 7, 7⟩]

def pairPlayers (creature : CreatureId) : Bool := creature == 1

def pairMap : Map := (pairOps.foldlM (step pairPlayers) {}).getD {}

theorem reachable_pair {allow : Map → MapOp → Prop} (allowed : ∀ map, ∀ op ∈ pairOps, allow map op) :
    (system pairPlayers).Reachable allow pairMap := by
  have runs : (pairOps.foldlM (step pairPlayers) {}).isSome = true := by decide +kernel
  obtain ⟨map, ran⟩ := Option.isSome_iff_exists.mp runs
  have same : pairMap = map := by rw [pairMap, ran, Option.getD_some]
  rw [same]
  exact reachable_run allowed ran

theorem getSpectatorsInternal_finds_pair :
    ∃ found, pairMap.getSpectatorsInternal ⟨7, 7, 7⟩ ⟨0, 1, 0, 0, 7, 7⟩ false [] = [] ++ found ∧ found.Nodup ∧
      ∀ creature, creature ∈ found ↔ pairMap.Sought pairPlayers ⟨7, 7, 7⟩ ⟨0, 1, 0, 0, 7, 7⟩ false creature :=
  getSpectatorsInternal_finds (reachable_pair fun _ _ _ => trivial) _ _ _ _

end

end Map

end Styller
