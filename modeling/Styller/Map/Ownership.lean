import Styller.Map.Spectators

/-! Every leaf knows its neighbours, and has exactly the creatures that stand on it. -/

namespace Styller

open Library List Function Option

namespace QTreeLeafNode

variable {getPlayer : CreatureId → Bool} {node : QTreeLeafNode} {here there : CreatureId → Prop} {c : CreatureId}

/-- The lists of a leaf are the creatures that are here, and the players among them. -/
structure Lists (getPlayer : CreatureId → Bool) (node : QTreeLeafNode) (here : CreatureId → Prop) : Prop where
  creatures : node.creature_list.Nodup
  mem_creatures : ∀ c, c ∈ node.creature_list ↔ here c
  players : node.player_list.Nodup
  mem_players : ∀ c, c ∈ node.player_list ↔ here c ∧ getPlayer c = true

theorem Lists.congr (lists : node.Lists getPlayer here) (same : ∀ c, here c ↔ there c) : node.Lists getPlayer there where
  creatures := lists.creatures
  mem_creatures := fun c => (lists.mem_creatures c).trans (same c)
  players := lists.players
  mem_players := fun c => (lists.mem_players c).trans (and_congr_left' (same c))

theorem Lists.addCreature (lists : node.Lists getPlayer here) (away : ¬ here c) :
    (node.addCreature getPlayer c).Lists getPlayer fun other => other = c ∨ here other where
  creatures := Unordered.nodup_push.mpr ⟨mt (lists.mem_creatures c).mp away, lists.creatures⟩
  mem_creatures := by
    intro other
    rw [QTreeLeafNode.addCreature, mem_append, mem_singleton, lists.mem_creatures, or_comm]
  players := by
    simp only [QTreeLeafNode.addCreature]
    split
    · apply Unordered.nodup_push.mpr
      exact ⟨fun listed => away ((lists.mem_players c).mp listed).1, lists.players⟩
    · exact lists.players
  mem_players := by
    intro other
    rw [QTreeLeafNode.addCreature]
    split
    · next player =>
      rw [mem_append, mem_singleton, lists.mem_players]
      constructor
      · rintro (⟨old, isPlayer⟩ | rfl)
        · exact ⟨.inr old, isPlayer⟩
        · exact ⟨.inl rfl, player⟩
      · rintro ⟨rfl | old, isPlayer⟩
        · exact .inr rfl
        · exact .inl ⟨old, isPlayer⟩
    · next monster =>
      rw [lists.mem_players]
      constructor
      · exact fun ⟨old, isPlayer⟩ => ⟨.inr old, isPlayer⟩
      · rintro ⟨rfl | old, isPlayer⟩
        · exact absurd isPlayer monster
        · exact ⟨old, isPlayer⟩

theorem Lists.removeCreature (lists : node.Lists getPlayer here) (present : here c) :
    (node.removeCreature getPlayer c).Lists getPlayer fun other => other ≠ c ∧ here other where
  creatures := Unordered.nodup_remove lists.creatures ((lists.mem_creatures c).mpr present)
  mem_creatures := by
    intro other
    rw [QTreeLeafNode.removeCreature, Unordered.mem_remove lists.creatures ((lists.mem_creatures c).mpr present),
      lists.mem_creatures]
  players := by
    rw [QTreeLeafNode.removeCreature]
    split
    · next player => exact Unordered.nodup_remove lists.players ((lists.mem_players c).mpr ⟨present, player⟩)
    · exact lists.players
  mem_players := by
    intro other
    rw [QTreeLeafNode.removeCreature]
    split
    · next player =>
      rw [Unordered.mem_remove lists.players ((lists.mem_players c).mpr ⟨present, player⟩), lists.mem_players, and_assoc]
    · next monster =>
      rw [lists.mem_players]
      constructor
      · rintro ⟨old, isPlayer⟩
        refine ⟨⟨?_, old⟩, isPlayer⟩
        rintro rfl
        exact monster isPlayer
      · exact fun ⟨⟨_, old⟩, isPlayer⟩ => ⟨old, isPlayer⟩

end QTreeLeafNode

namespace QTreeLeafNode

/-- There is a tile in the slot of the position. -/
def Holds (node : QTreeLeafNode) (pos : Position) : Prop :=
  ∃ floor, node.array pos.z = some floor ∧ floor.tiles (pos.x &&& FLOOR_MASK) (pos.y &&& FLOOR_MASK) = true

/-- A leaf that has got more tiles. -/
structure Grown (before after : QTreeLeafNode) : Prop where
  creatures : after.creature_list = before.creature_list
  players : after.player_list = before.player_list
  holds : ∀ pos, before.Holds pos → after.Holds pos

variable {node other last : QTreeLeafNode}

theorem Grown.refl (node : QTreeLeafNode) : node.Grown node := ⟨rfl, rfl, fun _ holds => holds⟩

theorem Grown.trans (first : node.Grown other) (second : other.Grown last) : node.Grown last where
  creatures := second.creatures.trans first.creatures
  players := second.players.trans first.players
  holds := fun pos holds => second.holds pos (first.holds pos holds)

theorem Lists.grown {getPlayer : CreatureId → Bool} {here : CreatureId → Prop} (lists : node.Lists getPlayer here)
    (grown : node.Grown other) : other.Lists getPlayer here where
  creatures := by
    rw [grown.creatures]
    exact lists.creatures
  mem_creatures := by
    rw [grown.creatures]
    exact lists.mem_creatures
  players := by
    rw [grown.players]
    exact lists.players
  mem_players := by
    rw [grown.players]
    exact lists.mem_players

theorem grown_setTile (node : QTreeLeafNode) (x y z : Nat) : node.Grown (node.setTile x y z) where
  creatures := rfl
  players := rfl
  holds := by
    rintro pos ⟨floor, there, tile⟩
    unfold Holds QTreeLeafNode.setTile
    by_cases level : pos.z = z
    · subst level
      have kept : node.createFloor pos.z = floor := by rw [createFloor, there, getD_some]
      simp only [update_self, some.injEq, exists_eq_left', kept, update_apply]
      split
      · next column =>
        rw [update_apply]
        split
        · rfl
        · rw [← column]
          exact tile
      · exact tile
    · simp only [update_of_ne level]
      exact ⟨floor, there, tile⟩

end QTreeLeafNode

namespace QTreeNode

variable {x y otherX otherY : Nat}

theorem block_south : block otherX (otherY + FLOOR_SIZE) = block x y ↔ block otherX otherY = block x (Map.sub32 y FLOOR_SIZE) := by
  unfold block Map.sub32 FLOOR_SIZE
  rw [Prod.mk.injEq, Prod.mk.injEq]
  omega

theorem block_east : block (otherX + FLOOR_SIZE) otherY = block x y ↔ block otherX otherY = block (Map.sub32 x FLOOR_SIZE) y := by
  unfold block Map.sub32 FLOOR_SIZE
  rw [Prod.mk.injEq, Prod.mk.injEq]
  omega

theorem block_add_south (same : block otherX otherY = block x y) :
    block otherX (otherY + FLOOR_SIZE) = block x (y + FLOOR_SIZE) := by
  unfold block FLOOR_SIZE at *
  rw [Prod.mk.injEq] at *
  omega

theorem block_add_east (same : block otherX otherY = block x y) :
    block (otherX + FLOOR_SIZE) otherY = block (x + FLOOR_SIZE) y := by
  unfold block FLOOR_SIZE at *
  rw [Prod.mk.injEq] at *
  omega

theorem block_north_ne : block x y ≠ block x (Map.sub32 y FLOOR_SIZE) := by
  unfold block Map.sub32 FLOOR_SIZE
  rw [Ne, Prod.mk.injEq]
  omega

theorem block_west_ne : block x y ≠ block (Map.sub32 x FLOOR_SIZE) y := by
  unfold block Map.sub32 FLOOR_SIZE
  rw [Ne, Prod.mk.injEq]
  omega

end QTreeNode

namespace Map

open QTreeNode

/-- The tree leads every block to a leaf of its own. -/
structure Rooted (map : Map) : Prop where
  even : map.root.Even 13
  known : ∀ {x y leaf}, map.getQTNode x y = some leaf → leaf < map.allocated
  own : ∀ {x y otherX otherY leaf}, map.getQTNode x y = some leaf → map.getQTNode otherX otherY = some leaf →
    block x y = block otherX otherY

/-- The leaves are linked with those in the south and in the east. -/
structure Linked (map : Map) : Prop extends map.Rooted where
  south : ∀ {x y leaf}, map.getQTNode x y = some leaf → (map.leaves leaf).leafS = map.getQTNode x (y + FLOOR_SIZE)
  east : ∀ {x y leaf}, map.getQTNode x y = some leaf → (map.leaves leaf).leafE = map.getQTNode (x + FLOOR_SIZE) y

def OnBlock (map : Map) (x y : Nat) (creature : CreatureId) : Prop :=
  ∃ pos, map.position creature = some pos ∧ block pos.x pos.y = block x y

/-- Creatures stand on tiles, and a leaf lists those on its block. -/
structure Owned (getPlayer : CreatureId → Bool) (map : Map) : Prop where
  placed : ∀ {creature pos}, map.position creature = some pos → pos.Fits ∧ map.getTile pos = true
  lists : ∀ {x y leaf}, map.getQTNode x y = some leaf → (map.leaves leaf).Lists getPlayer (map.OnBlock x y)

section
variable {map : Map} {leaf other : LeafPtr} {change : QTreeLeafNode → QTreeLeafNode} {x y otherX otherY : Nat}

theorem leaves_onLeaf : (map.onLeaf leaf change).leaves other =
    if other = leaf then change (map.leaves other) else map.leaves other := by
  simp only [onLeaf, update_apply]
  split
  · next same => rw [same]
  · rfl

theorem leaves_onLeaf? {found : Option LeafPtr} : (map.onLeaf? found change).leaves other =
    if found = some other then change (map.leaves other) else map.leaves other := by
  cases found with
  | none => rfl
  | some leaf =>
    rw [onLeaf?, leaves_onLeaf]
    simp only [some.injEq, eq_comm (a := leaf)]

@[simp] theorem root_onLeaf : (map.onLeaf leaf change).root = map.root := rfl

@[simp] theorem allocated_onLeaf : (map.onLeaf leaf change).allocated = map.allocated := rfl

@[simp] theorem position_onLeaf : (map.onLeaf leaf change).position = map.position := rfl

@[simp] theorem root_onLeaf? {found : Option LeafPtr} : (map.onLeaf? found change).root = map.root := by
  cases found with
  | none => rfl
  | some leaf => rfl

@[simp] theorem spectatorCache_onLeaf : (map.onLeaf leaf change).spectatorCache = map.spectatorCache := rfl

@[simp] theorem playersSpectatorCache_onLeaf :
    (map.onLeaf leaf change).playersSpectatorCache = map.playersSpectatorCache := rfl

@[simp] theorem getQTNode_onLeaf : (map.onLeaf leaf change).getQTNode = map.getQTNode := rfl

@[simp] theorem getQTNode_onLeaf? {found : Option LeafPtr} : (map.onLeaf? found change).getQTNode = map.getQTNode := by
  cases found with
  | none => rfl
  | some leaf => rfl

@[simp] theorem allocated_onLeaf? {found : Option LeafPtr} : (map.onLeaf? found change).allocated = map.allocated := by
  cases found with
  | none => rfl
  | some leaf => rfl

@[simp] theorem position_onLeaf? {found : Option LeafPtr} : (map.onLeaf? found change).position = map.position := by
  cases found with
  | none => rfl
  | some leaf => rfl

@[simp] theorem spectatorCache_onLeaf? {found : Option LeafPtr} :
    (map.onLeaf? found change).spectatorCache = map.spectatorCache := by
  cases found with
  | none => rfl
  | some leaf => rfl

@[simp] theorem playersSpectatorCache_onLeaf? {found : Option LeafPtr} :
    (map.onLeaf? found change).playersSpectatorCache = map.playersSpectatorCache := by
  cases found with
  | none => rfl
  | some leaf => rfl

/-- Two leaves learn of a new one, and it of two. -/
theorem leaves_linkLeaf (north : map.getQTNode x (sub32 y FLOOR_SIZE) ≠ some leaf)
    (west : map.getQTNode (sub32 x FLOOR_SIZE) y ≠ some leaf) : (map.linkLeaf leaf x y).leaves other =
      { map.leaves other with
        leafS :=
          if map.getQTNode x (sub32 y FLOOR_SIZE) = some other then some leaf
          else if other = leaf then (map.getQTNode x (y + FLOOR_SIZE)).or (map.leaves other).leafS
          else (map.leaves other).leafS
        leafE :=
          if map.getQTNode (sub32 x FLOOR_SIZE) y = some other then some leaf
          else if other = leaf then (map.getQTNode (x + FLOOR_SIZE) y).or (map.leaves other).leafE
          else (map.leaves other).leafE } := by
  simp only [linkLeaf, leaves_onLeaf, leaves_onLeaf?, getQTNode_onLeaf?, getQTNode_onLeaf]
  by_cases self : other = leaf
  · subst self
    rw [if_pos rfl, if_pos rfl, if_neg west, if_neg north]
    simp only [if_neg north, if_neg west, ↓reduceIte]
  · rw [if_neg self, if_neg self]
    simp only [if_neg self]
    split
    · split
      · rfl
      · rfl
    · split
      · rfl
      · rfl

theorem Rooted.congr (rooted : map.Rooted) (same : block x y = block otherX otherY) :
    map.getQTNode x y = map.getQTNode otherX otherY := getLeaf_congr rooted.even same

theorem getQTNode_newLeaf (even : map.root.Even 13) (missing : map.getQTNode x y = none) :
    (map.newLeaf x y).getQTNode otherX otherY =
      if block x y = block otherX otherY then some map.allocated else map.getQTNode otherX otherY := by
  split
  · next same =>
    have here : map.root.getLeaf x y = none := missing
    refine (getLeaf_createLeaf even same).trans ?_
    rw [here, getD_none]
  · next apart => exact getLeaf_createLeaf_apart even apart

/-- A path that is there already leads to the same leaves. -/
theorem getQTNode_newLeaf_old (even : map.root.Even 13) (found : map.getQTNode x y = some leaf) :
    (map.newLeaf x y).getQTNode otherX otherY = map.getQTNode otherX otherY := by
  by_cases same : block x y = block otherX otherY
  · have here : map.root.getLeaf x y = some leaf := found
    refine (getLeaf_createLeaf even same).trans ?_
    rw [here, getD_some, ← here]
    exact getLeaf_congr even same
  · exact getLeaf_createLeaf_apart even same

theorem createLeaf_old (linked : map.Linked) (found : map.getQTNode x y = some leaf) :
    map.createLeaf x y = ({ map with root := (map.newLeaf x y).root }, leaf) := by
  have here : (map.newLeaf x y).getQTNode x y = map.getQTNode x y := getQTNode_newLeaf_old linked.even found
  have older : leaf ≠ map.allocated := Nat.ne_of_lt (linked.known found)
  simp only [createLeaf, here, found, if_neg older]

theorem createLeaf_new (linked : map.Linked) (missing : map.getQTNode x y = none) :
    map.createLeaf x y = ((map.newLeaf x y).linkLeaf map.allocated x y, map.allocated) := by
  have here : (map.newLeaf x y).getQTNode x y = some map.allocated :=
    (getQTNode_newLeaf linked.even missing).trans (if_pos rfl)
  simp only [createLeaf, here, ↓reduceIte]

@[simp] theorem getQTNode_linkLeaf : (map.linkLeaf leaf x y).getQTNode = map.getQTNode := by
  simp only [linkLeaf, getQTNode_onLeaf, getQTNode_onLeaf?]

theorem root_linkLeaf : (map.linkLeaf leaf x y).root = map.root := by
  simp only [linkLeaf, root_onLeaf, root_onLeaf?]

theorem allocated_linkLeaf : (map.linkLeaf leaf x y).allocated = map.allocated := by
  simp only [linkLeaf, allocated_onLeaf, allocated_onLeaf?]

theorem position_linkLeaf : (map.linkLeaf leaf x y).position = map.position := by
  simp only [linkLeaf, position_onLeaf, position_onLeaf?]

theorem spectatorCache_linkLeaf : (map.linkLeaf leaf x y).spectatorCache = map.spectatorCache := by
  simp only [linkLeaf, spectatorCache_onLeaf, spectatorCache_onLeaf?]

theorem playersSpectatorCache_linkLeaf : (map.linkLeaf leaf x y).playersSpectatorCache = map.playersSpectatorCache := by
  simp only [linkLeaf, playersSpectatorCache_onLeaf, playersSpectatorCache_onLeaf?]

theorem Rooted.newLeaf (rooted : map.Rooted) (missing : map.getQTNode x y = none) : (map.newLeaf x y).Rooted where
  even := rooted.even.create _ _
  known := by
    intro otherX otherY leaf found
    rw [getQTNode_newLeaf rooted.even missing] at found
    split at found
    · cases found
      exact Nat.lt_succ_self _
    · exact Nat.lt_succ_of_lt (rooted.known found)
  own := by
    intro firstX firstY otherX otherY leaf first other
    rw [getQTNode_newLeaf rooted.even missing] at first other
    split at first
    · next here =>
      cases first
      split at other
      · next there => exact here.symm.trans there
      · exact absurd (rooted.known other) (Nat.lt_irrefl _)
    · split at other
      · cases other
        exact absurd (rooted.known first) (Nat.lt_irrefl _)
      · exact rooted.own first other

theorem Linked.newLeaf (linked : map.Linked) (missing : map.getQTNode x y = none) :
    ((map.newLeaf x y).linkLeaf map.allocated x y).Linked := by
  have rooted := linked.toRooted.newLeaf missing
  have find : ∀ {otherX otherY}, (map.newLeaf x y).getQTNode otherX otherY =
      if block x y = block otherX otherY then some map.allocated else map.getQTNode otherX otherY :=
    getQTNode_newLeaf linked.even missing
  have self : (map.newLeaf x y).getQTNode x y = some map.allocated := find.trans (if_pos rfl)
  have north : (map.newLeaf x y).getQTNode x (sub32 y FLOOR_SIZE) ≠ some map.allocated :=
    fun found => block_north_ne (rooted.own self found)
  have west : (map.newLeaf x y).getQTNode (sub32 x FLOOR_SIZE) y ≠ some map.allocated :=
    fun found => block_west_ne (rooted.own self found)
  have fresh : (map.newLeaf x y).leaves map.allocated = {} := update_self ..
  have older : ∀ {leaf}, leaf ≠ map.allocated → (map.newLeaf x y).leaves leaf = map.leaves leaf :=
    fun different => update_of_ne different ..
  have before : ∀ {otherX otherY leaf}, leaf ≠ map.allocated → (map.newLeaf x y).getQTNode otherX otherY = some leaf →
      map.getQTNode otherX otherY = some leaf := by
    intro otherX otherY leaf different found
    rw [find] at found
    split at found
    · cases found
      exact absurd rfl different
    · exact found
  constructor
  · constructor
    · rw [root_linkLeaf]
      exact rooted.even
    · rw [getQTNode_linkLeaf, allocated_linkLeaf]
      exact rooted.known
    · rw [getQTNode_linkLeaf]
      exact rooted.own
  · intro otherX otherY leaf found
    rw [getQTNode_linkLeaf] at found ⊢
    rw [leaves_linkLeaf north west]
    simp only
    by_cases above : block x y = block otherX (otherY + FLOOR_SIZE)
    · have there : (map.newLeaf x y).getQTNode x (sub32 y FLOOR_SIZE) = some leaf :=
        (rooted.congr (block_south.mp above.symm)).symm.trans found
      rw [if_pos there, find, if_pos above]
    · have elsewhere : (map.newLeaf x y).getQTNode x (sub32 y FLOOR_SIZE) ≠ some leaf :=
        fun there => above (block_south.mpr (rooted.own found there)).symm
      rw [if_neg elsewhere]
      split
      · next new =>
        subst new
        rw [fresh, or_none]
        exact rooted.congr (block_add_south (rooted.own self found))
      · next old => rw [older old, linked.south (before old found), find, if_neg above]
  · intro otherX otherY leaf found
    rw [getQTNode_linkLeaf] at found ⊢
    rw [leaves_linkLeaf north west]
    simp only
    by_cases left : block x y = block (otherX + FLOOR_SIZE) otherY
    · have there : (map.newLeaf x y).getQTNode (sub32 x FLOOR_SIZE) y = some leaf :=
        (rooted.congr (block_east.mp left.symm)).symm.trans found
      rw [if_pos there, find, if_pos left]
    · have elsewhere : (map.newLeaf x y).getQTNode (sub32 x FLOOR_SIZE) y ≠ some leaf :=
        fun there => left (block_east.mpr (rooted.own found there)).symm
      rw [if_neg elsewhere]
      split
      · next new =>
        subst new
        rw [fresh, or_none]
        exact rooted.congr (block_add_east (rooted.own self found))
      · next old => rw [older old, linked.east (before old found), find, if_neg left]

theorem Linked.rooted (linked : map.Linked) (root : QTreeNode) (even : root.Even 13)
    (same : ∀ otherX otherY, root.getLeaf otherX otherY = map.getQTNode otherX otherY) : { map with root }.Linked where
  even := even
  known := by
    intro otherX otherY leaf found
    exact linked.known ((same otherX otherY).symm.trans found)
  own := by
    intro firstX firstY otherX otherY leaf first other
    exact linked.own ((same firstX firstY).symm.trans first) ((same otherX otherY).symm.trans other)
  south := by
    intro otherX otherY leaf found
    exact (linked.south ((same otherX otherY).symm.trans found)).trans (same ..).symm
  east := by
    intro otherX otherY leaf found
    exact (linked.east ((same otherX otherY).symm.trans found)).trans (same ..).symm

theorem Linked.createLeaf (linked : map.Linked) (x y : Nat) : (map.createLeaf x y).1.Linked := by
  cases found : map.getQTNode x y with
  | none =>
    rw [createLeaf_new linked found]
    exact linked.newLeaf found
  | some leaf =>
    rw [createLeaf_old linked found]
    apply linked.rooted
    · exact linked.even.create _ _
    · intro otherX otherY
      exact getQTNode_newLeaf_old linked.even found

/-- A change that leaves the links alone. -/
theorem Linked.onLeaf (linked : map.Linked) (south : ∀ node, (change node).leafS = node.leafS)
    (east : ∀ node, (change node).leafE = node.leafE) : (map.onLeaf leaf change).Linked where
  even := linked.even
  known := linked.known
  own := linked.own
  south := by
    intro otherX otherY other found
    rw [leaves_onLeaf]
    split
    · exact (south _).trans (linked.south found)
    · exact linked.south found
  east := by
    intro otherX otherY other found
    rw [leaves_onLeaf]
    split
    · exact (east _).trans (linked.east found)
    · exact linked.east found

theorem Linked.setTile (linked : map.Linked) (pos : Position) : (map.setTile pos).Linked := by
  unfold Map.setTile
  split
  · exact linked
  · apply (linked.createLeaf pos.x pos.y).onLeaf
    · intro node
      rfl
    · intro node
      rfl

theorem getTile_iff {pos : Position} : map.getTile pos = true ↔
    pos.z < mapMaxLayers ∧ ∃ leaf, map.getQTNode pos.x pos.y = some leaf ∧ (map.leaves leaf).Holds pos := by
  unfold getTile QTreeLeafNode.Holds
  split
  · next above =>
    constructor
    · intro tile
      cases tile
    · intro tile
      exact absurd tile.1 (Nat.not_lt_of_le above)
  · next below =>
    rw [and_iff_right (Nat.lt_of_not_le below)]
    cases map.getQTNode pos.x pos.y with
    | none =>
      simp only [Bool.false_eq_true, reduceCtorEq, false_and, exists_false]
    | some leaf =>
      simp only [some.injEq, exists_eq_left']
      cases (map.leaves leaf).array pos.z with
      | none => simp only [Bool.false_eq_true, reduceCtorEq, false_and, exists_false]
      | some floor => simp only [some.injEq, exists_eq_left']

/-- A map that has got more leaves and tiles. -/
structure Extended (map next : Map) : Prop where
  position : next.position = map.position
  spectatorCache : next.spectatorCache = map.spectatorCache
  playersSpectatorCache : next.playersSpectatorCache = map.playersSpectatorCache
  older : ∀ {x y leaf}, map.getQTNode x y = some leaf →
    next.getQTNode x y = some leaf ∧ (map.leaves leaf).Grown (next.leaves leaf)
  fresh : ∀ {x y leaf}, map.getQTNode x y = none → next.getQTNode x y = some leaf →
    (next.leaves leaf).creature_list = [] ∧ (next.leaves leaf).player_list = []

variable {next : Map}

theorem Extended.onLeaf (extended : map.Extended next) (grown : ∀ node : QTreeLeafNode, node.Grown (change node)) :
    map.Extended (next.onLeaf leaf change) where
  position := extended.position
  spectatorCache := extended.spectatorCache
  playersSpectatorCache := extended.playersSpectatorCache
  older := by
    intro x y other found
    have older := extended.older found
    refine ⟨older.1, older.2.trans ?_⟩
    rw [leaves_onLeaf]
    split
    · exact grown _
    · exact .refl _
  fresh := by
    intro x y other missing found
    have fresh := extended.fresh missing found
    rw [leaves_onLeaf]
    split
    · exact ⟨(grown _).creatures.trans fresh.1, (grown _).players.trans fresh.2⟩
    · exact fresh

theorem Linked.extended (linked : map.Linked) (x y : Nat) : map.Extended (map.createLeaf x y).1 := by
  cases found : map.getQTNode x y with
  | none =>
    rw [createLeaf_new linked found]
    have rooted := linked.toRooted.newLeaf found
    have find : ∀ {otherX otherY}, (map.newLeaf x y).getQTNode otherX otherY =
        if block x y = block otherX otherY then some map.allocated else map.getQTNode otherX otherY :=
      getQTNode_newLeaf linked.even found
    have self : (map.newLeaf x y).getQTNode x y = some map.allocated := find.trans (if_pos rfl)
    have links : ∀ other, ((map.newLeaf x y).linkLeaf map.allocated x y).leaves other = { (map.newLeaf x y).leaves other with
        leafS := (((map.newLeaf x y).linkLeaf map.allocated x y).leaves other).leafS
        leafE := (((map.newLeaf x y).linkLeaf map.allocated x y).leaves other).leafE } := by
      intro other
      rw [leaves_linkLeaf (fun found => block_north_ne (rooted.own self found))
        (fun found => block_west_ne (rooted.own self found))]
    constructor
    · exact position_linkLeaf
    · exact spectatorCache_linkLeaf
    · exact playersSpectatorCache_linkLeaf
    · intro otherX otherY leaf old
      have apart : block x y ≠ block otherX otherY := by
        intro same
        have missing := (linked.congr same).symm.trans found
        rw [old] at missing
        cases missing
      have different : leaf ≠ map.allocated := Nat.ne_of_lt (linked.known old)
      have kept : (map.newLeaf x y).leaves leaf = map.leaves leaf := update_of_ne different ..
      rw [getQTNode_linkLeaf, find, if_neg apart, links leaf, kept]
      exact ⟨old, rfl, rfl, fun _ holds => holds⟩
    · intro otherX otherY leaf missing new
      rw [getQTNode_linkLeaf, find, missing] at new
      split at new
      · cases new
        have empty : (map.newLeaf x y).leaves map.allocated = {} := update_self ..
        rw [links, empty]
        exact ⟨rfl, rfl⟩
      · cases new
  | some leaf =>
    rw [createLeaf_old linked found]
    have same : ∀ {otherX otherY}, (map.newLeaf x y).getQTNode otherX otherY = map.getQTNode otherX otherY :=
      getQTNode_newLeaf_old linked.even found
    constructor
    · rfl
    · rfl
    · rfl
    · intro otherX otherY other old
      exact ⟨same.trans old, .refl _⟩
    · intro otherX otherY other missing new
      rw [← same] at missing
      have none_there : some other = none := new.symm.trans missing
      cases none_there

theorem Linked.extended_setTile (linked : map.Linked) (pos : Position) : map.Extended (map.setTile pos) := by
  unfold Map.setTile
  split
  · refine ⟨rfl, rfl, rfl, fun found => ⟨found, .refl _⟩, ?_⟩
    intro x y leaf missing found
    rw [missing] at found
    cases found
  · exact (linked.extended pos.x pos.y).onLeaf fun node => node.grown_setTile ..

theorem Extended.getTile {pos : Position} (extended : map.Extended next) (tile : map.getTile pos = true) :
    next.getTile pos = true := by
  obtain ⟨below, leaf, found, holds⟩ := getTile_iff.mp tile
  obtain ⟨still, grown⟩ := extended.older found
  exact getTile_iff.mpr ⟨below, leaf, still, grown.holds pos holds⟩

variable {getPlayer : CreatureId → Bool}

/-- More leaves and tiles change nothing for the creatures. -/
theorem Owned.extended (owned : map.Owned getPlayer) (linked : map.Linked) (extended : map.Extended next) :
    next.Owned getPlayer where
  placed := by
    intro creature pos stands
    rw [extended.position] at stands
    obtain ⟨fits, tile⟩ := owned.placed stands
    exact ⟨fits, extended.getTile tile⟩
  lists := by
    intro x y leaf found
    have here : next.OnBlock x y = map.OnBlock x y := by
      unfold OnBlock
      rw [extended.position]
    rw [here]
    cases old : map.getQTNode x y with
    | some other =>
      obtain ⟨still, grown⟩ := extended.older old
      cases still.symm.trans found
      exact (owned.lists old).grown grown
    | none =>
      obtain ⟨creatures, players⟩ := extended.fresh old found
      have nobody : ∀ c, ¬ map.OnBlock x y c := by
        rintro c ⟨pos, stands, same⟩
        obtain ⟨_, other, there, _⟩ := getTile_iff.mp (owned.placed stands).2
        rw [linked.congr same, old] at there
        cases there
      constructor
      · rw [creatures]
        exact nodup_nil
      · intro c
        rw [creatures]
        exact iff_of_false not_mem_nil (nobody c)
      · rw [players]
        exact nodup_nil
      · intro c
        rw [players]
        exact iff_of_false not_mem_nil fun here => nobody c here.1

end

section
variable {getPlayer : CreatureId → Bool} {map next : Map} {creature other : CreatureId} {leaf : LeafPtr} {x y : Nat}
  {pos dest newPos : Position} {target : Option Position}

theorem leaves_setParent : (map.setParent creature target).leaves = map.leaves := rfl

theorem leaves_clearCaches : (map.clearCaches getPlayer creature).leaves = map.leaves := rfl

/-- A leaf with the links and the tiles it had. -/
structure Kept (before after : QTreeLeafNode) : Prop where
  leafS : after.leafS = before.leafS
  leafE : after.leafE = before.leafE
  array : after.array = before.array

theorem kept_ite {condition : Prop} [Decidable condition] {node changed same : QTreeLeafNode} (kept : Kept node changed)
    (otherwise : Kept node same) : Kept node (if condition then changed else same) := by
  split
  · exact kept
  · exact otherwise

/-- What every operation on a creature leaves: the creature has another parent, the leaves have their links and tiles,
and the caches are cleared. -/
structure Turned (getPlayer : CreatureId → Bool) (creature : CreatureId) (target : Option Position) (map next : Map) : Prop where
  root : next.root = map.root
  allocated : next.allocated = map.allocated
  position : ∀ other, next.position other = if other = creature then target else map.position other
  kept : ∀ leaf, Kept (map.leaves leaf) (next.leaves leaf)
  spectatorCache : next.spectatorCache = fun _ => none
  playersSpectatorCache : next.playersSpectatorCache =
    if getPlayer creature then fun _ => none else map.playersSpectatorCache

theorem Turned.getQTNode (turned : map.Turned getPlayer creature target next) : next.getQTNode = map.getQTNode := by
  funext x y
  unfold Map.getQTNode
  rw [turned.root]

theorem Turned.getTile (turned : map.Turned getPlayer creature target next) : next.getTile pos = map.getTile pos := by
  unfold Map.getTile
  simp only [turned.getQTNode, (turned.kept _).array]

theorem Turned.linked (turned : map.Turned getPlayer creature target next) (linked : map.Linked) : next.Linked where
  even := by
    rw [turned.root]
    exact linked.even
  known := by
    rw [turned.getQTNode, turned.allocated]
    exact linked.known
  own := by
    rw [turned.getQTNode]
    exact linked.own
  south := by
    intro x y leaf found
    rw [turned.getQTNode] at found ⊢
    exact (turned.kept leaf).leafS.trans (linked.south found)
  east := by
    intro x y leaf found
    rw [turned.getQTNode] at found ⊢
    exact (turned.kept leaf).leafE.trans (linked.east found)

theorem Turned.onBlock (turned : map.Turned getPlayer creature target next) : next.OnBlock x y other ↔
    (other = creature ∧ ∃ pos, target = some pos ∧ block pos.x pos.y = block x y) ∨
      (other ≠ creature ∧ map.OnBlock x y other) := by
  unfold OnBlock
  simp only [turned.position]
  split
  · next same => simp only [same, true_and, ne_eq, not_true_eq_false, false_and, or_false]
  · next different => simp only [different, false_and, ne_eq, not_false_eq_true, true_and, false_or]

theorem Turned.placed (turned : map.Turned getPlayer creature target next) (owned : map.Owned getPlayer)
    (onto : ∀ pos, target = some pos → pos.Fits ∧ map.getTile pos = true) (stands : next.position other = some pos) :
    pos.Fits ∧ next.getTile pos = true := by
  rw [turned.position] at stands
  rw [turned.getTile]
  split at stands
  · exact onto pos stands
  · exact owned.placed stands

/-- A block is that of a position just if its leaf is. -/
theorem Rooted.block_iff (rooted : map.Rooted) (here : map.getQTNode pos.x pos.y = some leaf) {found : LeafPtr}
    (there : map.getQTNode x y = some found) : block pos.x pos.y = block x y ↔ found = leaf := by
  constructor
  · intro same
    rw [rooted.congr same, there] at here
    exact some.inj here
  · rintro rfl
    exact rooted.own here there

theorem Rooted.onBlock_iff (rooted : map.Rooted) (stands : map.position creature = some pos)
    (here : map.getQTNode pos.x pos.y = some leaf) {found : LeafPtr} (there : map.getQTNode x y = some found) :
    map.OnBlock x y creature ↔ found = leaf := by
  unfold OnBlock
  simp only [stands, some.injEq, exists_eq_left', rooted.block_iff here there]

theorem placeCreature_cases (ran : map.placeCreature getPlayer creature dest = some next) :
    map.position creature = none ∧ dest.Fits ∧ map.getTile dest = true ∧
      map.Turned getPlayer creature (some dest) next ∧ ∃ leaf, map.getQTNode dest.x dest.y = some leaf ∧
        ∀ found, next.leaves found =
          if found = leaf then (map.leaves found).addCreature getPlayer creature else map.leaves found := by
  unfold Map.placeCreature at ran
  split at ran
  · next guard =>
    obtain ⟨away, fits, tile⟩ := guard
    split at ran
    · cases ran
    · next leaf here =>
      have leaves : ∀ found, next.leaves found =
          if found = leaf then (map.leaves found).addCreature getPlayer creature else map.leaves found := by
        intro found
        rw [← some.inj ran]
        exact leaves_onLeaf
      refine ⟨away, fits, tile, ?_, leaf, here, leaves⟩
      cases ran
      constructor
      · rfl
      · rfl
      · intro other
        exact update_apply ..
      · intro found
        rw [leaves]
        exact kept_ite ⟨rfl, rfl, rfl⟩ ⟨rfl, rfl, rfl⟩
      · rfl
      · rfl
  · cases ran

theorem moveCreature_cases (ran : map.moveCreature getPlayer creature newPos = some next) :
    ∃ oldPos, map.position creature = some oldPos ∧ newPos.Fits ∧ map.getTile newPos = true ∧
      map.Turned getPlayer creature (some newPos) next ∧ ∃ leaf newLeaf, map.getQTNode oldPos.x oldPos.y = some leaf ∧
        map.getQTNode newPos.x newPos.y = some newLeaf ∧ ∀ found, next.leaves found =
          if leaf = newLeaf then map.leaves found
          else if found = leaf then (map.leaves found).removeCreature getPlayer creature
          else if found = newLeaf then (map.leaves found).addCreature getPlayer creature
          else map.leaves found := by
  unfold Map.moveCreature at ran
  split at ran
  · cases ran
  · next oldPos stands =>
    split at ran
    · next guard =>
      obtain ⟨fits, tile⟩ := guard
      simp only at ran
      split at ran
      · next leaf newLeaf here there =>
        have leaves : ∀ found, next.leaves found =
            if leaf = newLeaf then map.leaves found
            else if found = leaf then (map.leaves found).removeCreature getPlayer creature
            else if found = newLeaf then (map.leaves found).addCreature getPlayer creature
            else map.leaves found := by
          intro found
          rw [← some.inj ran]
          by_cases same : leaf = newLeaf
          · rw [if_pos same, if_neg (not_not.mpr same)]
            rfl
          · rw [if_neg same, if_pos same]
            rw [leaves_setParent, leaves_clearCaches, leaves_onLeaf, leaves_onLeaf, leaves_clearCaches]
            by_cases old : found = leaf
            · subst old
              rw [if_neg same, if_pos rfl, if_pos rfl]
            · rw [if_neg old, if_neg old]
        refine ⟨oldPos, stands, fits, tile, ?_, leaf, newLeaf, here, there, leaves⟩
        constructor
        · cases ran
          split <;> rfl
        · cases ran
          split <;> rfl
        · cases ran
          intro other
          split
          · exact update_apply ..
          · exact update_apply ..
        · intro found
          rw [leaves]
          exact kept_ite ⟨rfl, rfl, rfl⟩ (kept_ite ⟨rfl, rfl, rfl⟩ (kept_ite ⟨rfl, rfl, rfl⟩ ⟨rfl, rfl, rfl⟩))
        · cases ran
          rfl
        · cases ran
          have kept : ∀ moved : Map, moved.playersSpectatorCache = (map.clearCaches getPlayer creature).playersSpectatorCache →
              (moved.clearCaches getPlayer creature).playersSpectatorCache =
                if getPlayer creature then fun _ => none else map.playersSpectatorCache := by
            intro moved same
            unfold clearCaches at same ⊢
            simp only at same ⊢
            rw [same]
            split
            · rfl
            · rfl
          apply kept
          split <;> rfl
      · cases ran
    · cases ran

theorem removeCreature_cases (ran : map.removeCreature getPlayer creature = some next) :
    ∃ pos, map.position creature = some pos ∧ map.Turned getPlayer creature none next ∧
      ∃ leaf, map.getQTNode pos.x pos.y = some leaf ∧ ∀ found, next.leaves found =
        if found = leaf then (map.leaves found).removeCreature getPlayer creature else map.leaves found := by
  unfold Map.removeCreature at ran
  split at ran
  · cases ran
  · next pos stands =>
    split at ran
    · cases ran
    · next leaf here =>
      have leaves : ∀ found, next.leaves found =
          if found = leaf then (map.leaves found).removeCreature getPlayer creature else map.leaves found := by
        intro found
        rw [← some.inj ran]
        rw [leaves_setParent, leaves_clearCaches]
        exact leaves_onLeaf
      refine ⟨pos, stands, ?_, leaf, here, leaves⟩
      cases ran
      constructor
      · rfl
      · rfl
      · intro other
        exact update_apply ..
      · intro found
        rw [leaves]
        exact kept_ite ⟨rfl, rfl, rfl⟩ ⟨rfl, rfl, rfl⟩
      · rfl
      · rfl

theorem Owned.placeCreature (owned : map.Owned getPlayer) (linked : map.Linked)
    (ran : map.placeCreature getPlayer creature dest = some next) : next.Owned getPlayer := by
  obtain ⟨away, fits, tile, turned, leaf, here, leaves⟩ := placeCreature_cases ran
  constructor
  · refine fun stands => turned.placed owned ?_ stands
    rintro pos ⟨⟩
    exact ⟨fits, tile⟩
  · intro x y found there
    rw [turned.getQTNode] at there
    have lists := owned.lists there
    have nowhere : ¬ map.OnBlock x y creature := by
      rintro ⟨pos, stands, _⟩
      rw [away] at stands
      cases stands
    rw [leaves]
    split
    · next same =>
      apply (lists.addCreature nowhere).congr
      intro other
      rw [turned.onBlock]
      simp only [some.injEq, exists_eq_left', linked.block_iff here there, same, and_true]
      by_cases self : other = creature
      · exact iff_of_true (.inl self) (.inl self)
      · rw [or_iff_right self, or_iff_right self, and_iff_right self]
    · next different =>
      apply lists.congr
      intro other
      rw [turned.onBlock]
      simp only [some.injEq, exists_eq_left', linked.block_iff here there, different, and_false, false_or]
      rw [iff_and_self]
      rintro stands rfl
      exact nowhere stands

theorem Owned.removeCreature (owned : map.Owned getPlayer) (linked : map.Linked)
    (ran : map.removeCreature getPlayer creature = some next) : next.Owned getPlayer := by
  obtain ⟨pos, stands, turned, leaf, here, leaves⟩ := removeCreature_cases ran
  constructor
  · refine fun stands => turned.placed owned ?_ stands
    intro pos same
    cases same
  · intro x y found there
    rw [turned.getQTNode] at there
    have lists := owned.lists there
    have nearby := linked.onBlock_iff stands here there
    have onBlock : ∀ other, next.OnBlock x y other ↔ other ≠ creature ∧ map.OnBlock x y other := by
      intro other
      rw [turned.onBlock]
      simp only [reduceCtorEq, false_and, exists_false, and_false, false_or]
    rw [leaves]
    split
    · next same =>
      apply (lists.removeCreature (nearby.mpr same)).congr
      intro other
      exact (onBlock other).symm
    · next different =>
      apply lists.congr
      intro other
      rw [onBlock, iff_and_self]
      rintro there rfl
      exact different (nearby.mp there)

theorem Owned.moveCreature (owned : map.Owned getPlayer) (linked : map.Linked)
    (ran : map.moveCreature getPlayer creature newPos = some next) : next.Owned getPlayer := by
  obtain ⟨oldPos, stands, fits, tile, turned, leaf, newLeaf, here, dest, leaves⟩ := moveCreature_cases ran
  constructor
  · refine fun stands => turned.placed owned ?_ stands
    rintro pos ⟨⟩
    exact ⟨fits, tile⟩
  · intro x y found there
    rw [turned.getQTNode] at there
    have lists := owned.lists there
    have nearby := linked.onBlock_iff stands here there
    have onBlock : ∀ other, next.OnBlock x y other ↔
        (other = creature ∧ found = newLeaf) ∨ (other ≠ creature ∧ map.OnBlock x y other) := by
      intro other
      rw [turned.onBlock]
      simp only [some.injEq, exists_eq_left', linked.block_iff dest there]
    rw [leaves]
    split
    · next same =>
      subst same
      apply lists.congr
      intro other
      rw [onBlock]
      by_cases self : other = creature
      · subst self
        simp only [nearby, true_and, ne_eq, not_true_eq_false, false_and, or_false]
      · simp only [self, false_and, ne_eq, not_false_eq_true, true_and, false_or]
    · next apart =>
      split
      · next old =>
        apply (lists.removeCreature (nearby.mpr old)).congr
        intro other
        have elsewhere : found ≠ newLeaf := fun new => apart (old.symm.trans new)
        rw [onBlock, or_iff_right (fun new => elsewhere new.2)]
      · next old =>
        have away : ¬ map.OnBlock x y creature := mt nearby.mp old
        split
        · next new =>
          apply (lists.addCreature away).congr
          intro other
          rw [onBlock]
          by_cases self : other = creature
          · exact iff_of_true (.inl self) (.inl ⟨self, new⟩)
          · rw [or_iff_right self, or_iff_right (fun new => self new.1), and_iff_right self]
        · next elsewhere =>
          apply lists.congr
          intro other
          rw [onBlock, or_iff_right (fun new => elsewhere new.2), iff_and_self]
          rintro there rfl
          exact away there

end

section
variable {getPlayer : CreatureId → Bool} {map : Map}

/-- What is the same on every map of a run: the leaves are linked, and own the creatures on them. -/
structure Tended (getPlayer : CreatureId → Bool) (map : Map) : Prop where
  linked : map.Linked
  owned : map.Owned getPlayer

theorem tended_empty : Tended getPlayer {} := by
  have nothing : ∀ x y, ({} : Map).getQTNode x y = none := fun _ _ => rfl
  constructor
  · constructor
    · constructor
      · exact .node fun _ => .empty
      · intro x y leaf found
        cases found
      · intro x y otherX otherY leaf found
        cases found
    · intro x y leaf found
      cases found
    · intro x y leaf found
      cases found
  · constructor
    · intro creature pos stands
      cases stands
    · intro x y leaf found
      cases found

/-- On every map that tiles are put on, the links of the leaves are to those in the east and in the south, and empty where
there is no such leaf; the leaves go round at the edges of the map. -/
theorem leaf_links (tiles : List Position) (x y : Nat) (leaf : LeafPtr) :
    let map := tiles.foldl Map.setTile {}
    map.getQTNode x y = some leaf →
      (map.leaves leaf).leafE = map.getQTNode ((x + 8) % 65536) y ∧ (map.leaves leaf).leafS = map.getQTNode x ((y + 8) % 65536) := by
  intro map found
  have linked : map.Linked :=
    List.foldlRecOn tiles _ (@tended_empty fun _ => false).linked fun _ before pos _ => before.setTile pos
  constructor
  · rw [linked.east found]
    exact getLeaf_congr linked.even (by rw [block, block, Nat.mod_mod]; rfl)
  · rw [linked.south found]
    exact getLeaf_congr linked.even (by rw [block, block, Nat.mod_mod]; rfl)

/-- A leaf at the east edge of the map, and one at the west edge. -/
theorem leaf_links_edges :
    let map := [(⟨65535, 0, 7⟩ : Position), ⟨0, 0, 7⟩].foldl Map.setTile {}
    map.getQTNode 65535 0 = some 0 ∧ (map.leaves 0).leafE = some 1 ∧ (map.leaves 0).leafS = none := by
  intro map
  have found : map.getQTNode 65535 0 = some 0 := by rfl
  have links := leaf_links [⟨65535, 0, 7⟩, ⟨0, 0, 7⟩] 65535 0 0 found
  exact ⟨found, links.1.trans (by rfl), links.2.trans (by rfl)⟩

/-- A search changes the caches only. -/
theorem getSpectators_only (getPlayer : CreatureId → Bool) (map : Map) (call : SpectatorCall) : ∃ spectatorCache playersSpectatorCache,
    (map.getSpectators getPlayer call).2 = { map with spectatorCache, playersSpectatorCache } := by
  unfold getSpectators cacheResult
  split
  · exact ⟨_, _, rfl⟩
  · split
    · exact ⟨_, _, rfl⟩
    · simp only
      split
      · split
        · exact ⟨_, _, rfl⟩
        · exact ⟨_, _, rfl⟩
      · exact ⟨_, _, rfl⟩

theorem Tended.step (tended : map.Tended getPlayer) {op : MapOp} {next : Map} (ran : map.step getPlayer op = some next) :
    next.Tended getPlayer := by
  cases op with
  | setTile pos =>
    rw [Map.step, ite_none_right_eq_some] at ran
    obtain ⟨_, ⟨⟩⟩ := ran
    exact ⟨tended.linked.setTile pos, tended.owned.extended tended.linked (tended.linked.extended_setTile pos)⟩
  | placeCreature creature dest =>
    obtain ⟨_, _, _, turned, _⟩ := placeCreature_cases ran
    exact ⟨turned.linked tended.linked, tended.owned.placeCreature tended.linked ran⟩
  | moveCreature creature newPos =>
    obtain ⟨_, _, _, _, turned, _⟩ := moveCreature_cases ran
    exact ⟨turned.linked tended.linked, tended.owned.moveCreature tended.linked ran⟩
  | removeCreature creature =>
    obtain ⟨_, _, turned, _⟩ := removeCreature_cases ran
    exact ⟨turned.linked tended.linked, tended.owned.removeCreature tended.linked ran⟩
  | getSpectators call =>
    obtain ⟨spectatorCache, playersSpectatorCache, only⟩ := getSpectators_only getPlayer map call
    cases ran.symm.trans (congrArg some only)
    have linked := tended.linked
    exact ⟨⟨⟨linked.even, linked.known, linked.own⟩, linked.south, linked.east⟩, tended.owned.placed, tended.owned.lists⟩

/-- The leaves are tended on every map that a run comes to. -/
theorem tended_reachable {allow : Map → MapOp → Prop} (reached : (system getPlayer).Reachable allow map) :
    map.Tended getPlayer := by
  have invariant : (system getPlayer).Invariant allow (Tended getPlayer) := by
    constructor
    · rintro map rfl
      exact tended_empty
    · intro map op next tended _ ran
      exact tended.step ran
  exact invariant.reachable reached

end

end Map

end Styller
