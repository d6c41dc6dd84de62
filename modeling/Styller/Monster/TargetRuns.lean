import Styller.Monster.TargetLists

/-! Runs of the world around a monster, and whether its lists have only creatures that it sees. -/

namespace Styller.TargetLists

open Library List

structure Scene where
  world : World
  lists : Lists := {}

/-- What happens. `swallowed` if the script of the monster handles the event, `order` the creatures as the leaves of the map have
them, and `first` if a creature that is removed is told of it before the monster. -/
inductive Step where
  | appear (creature : CreaturePtr) (pos : TilePosition) (swallowed : Bool) (order : List CreaturePtr)
  | move (creature : CreaturePtr) (pos : TilePosition) (swallowed : Bool) (order : List CreaturePtr)
  | disappear (creature : CreaturePtr) (swallowed first : Bool)
  | setMaster (creature : CreaturePtr) (newMaster : Option CreaturePtr)
  | setPartners (isPartner : CreaturePtr → CreaturePtr → Bool)
  | setIgnored (creature : CreaturePtr) (ignoredByMonsters : Bool)
  | kill (creature : CreaturePtr)
  | death
  | conditions (hasAggressive : Bool)
  | setIdle (idle : Bool)
  | followComplete (creature : CreaturePtr) (hasFollowPath : Bool)

namespace World

section
variable (world : World) (creature : CreaturePtr)

def change (change : Creature → Creature) : World :=
  { world with creatures := Function.update world.creatures creature (change (world.creatures creature)) }

def place (pos : TilePosition) : World := world.change creature fun creature => { creature with position := pos, presence := .placed }

def moveTo (pos : TilePosition) : World := world.change creature fun creature => { creature with position := pos }

def setMaster (newMaster : Option CreaturePtr) : World := world.change creature fun creature => { creature with master := newMaster }

/-- `Creature::onRemoveCreature` of a creature that is told of its own removal. -/
def clearMaster : World :=
  match world.getMaster creature with
  | some master => if world.isRemoved master then world else world.setMaster creature none
  | none => world

def remove : World := world.change creature fun creature => { creature with presence := .removed }

def kill : World := world.change creature fun creature => { creature with isDead := true }

def setIgnored (ignoredByMonsters : Bool) : World :=
  world.change creature fun creature =>
    { creature with kind := if creature.kind matches .player _ then .player ignoredByMonsters else creature.kind }

def isTold (pos : Position) : Bool := world.isPlaced world.self && isSpectator pos (world.getPosition world.self)

/-- The world as the monster sees it when it is told of a removal. -/
def leaving (first : Bool) : World := if first || creature = world.self then world.clearMaster creature else world

end

end World

def step (scene : Scene) : Step → Scene
  | .appear creature pos swallowed order =>
    if (scene.world.creatures creature).presence = .unplaced then
      let world := scene.world.place creature pos
      { world, lists := if world.isTold pos.val then scene.lists.onCreatureAppear world creature swallowed order else scene.lists }
    else scene
  | .move creature pos swallowed order =>
    if scene.world.isPlaced creature then
      let world := scene.world.moveTo creature pos
      let oldPos := scene.world.getPosition creature
      { world
        lists :=
          if scene.world.isTold oldPos || scene.world.isTold pos.val then
            scene.lists.onCreatureMove world creature pos.val oldPos swallowed order
          else scene.lists }
    else scene
  | .disappear creature swallowed first =>
    if scene.world.isPlaced creature then
      { world := (scene.world.clearMaster creature).remove creature
        lists :=
          if scene.world.isTold (scene.world.getPosition creature) then
            scene.lists.onRemoveCreature (scene.world.leaving creature first) creature swallowed
          else scene.lists }
    else scene
  | .setMaster creature newMaster => { scene with world := scene.world.setMaster creature newMaster }
  | .setPartners isPartner => { scene with world := { scene.world with isPartner } }
  | .setIgnored creature ignoredByMonsters => { scene with world := scene.world.setIgnored creature ignoredByMonsters }
  | .kill creature => { scene with world := scene.world.kill creature }
  | .death => { scene with lists := scene.lists.death }
  | .conditions hasAggressive =>
    let world := { scene.world with hasAggressive }
    { world, lists := scene.lists.updateIdleStatus world }
  | .setIdle idle => { scene with lists := scene.lists.setIdle scene.world idle }
  | .followComplete creature hasFollowPath =>
    { scene with lists := scene.lists.onFollowCreatureComplete scene.world creature hasFollowPath }

/-- Both are on the map, and the creature is within the view of the monster. -/
structure World.Sees (world : World) (creature : CreaturePtr) : Prop where
  here : world.isPlaced world.self
  there : world.isPlaced creature
  view : world.canSee (world.getPosition creature)

/-- The lists have only creatures that the monster sees, each of them once and with a reference for each list. -/
structure Sound (scene : Scene) : Prop where
  sees : ∀ creature, scene.lists.Listed creature → scene.world.Sees creature
  held : scene.lists.Held

/-- The monster lets go of everyone who gets out of its sight. -/
def Allowed (scene : Scene) : Step → Prop
  | .move creature pos swallowed _ =>
    scene.world.isPlaced creature →
      if creature = scene.world.self then
        swallowed → ∀ other, scene.lists.Listed other → canSee pos.val (scene.world.getPosition other) viewRange viewRange
      else
        scene.lists.Listed creature → ¬ scene.world.canSee pos.val →
          ¬ swallowed ∧ scene.lists.LetsGo (scene.world.moveTo creature pos) creature true
  | .disappear creature swallowed first =>
    scene.world.isPlaced creature →
      if creature = scene.world.self then
        ∀ other, scene.lists.Listed other → ¬ swallowed ∧ ¬ (scene.world.creatures creature).isDead
      else scene.lists.Listed creature → ¬ swallowed ∧ scene.lists.LetsGo (scene.world.leaving creature first) creature false
  | _ => True

/-- The lists are sound, and the monster is in none of them. -/
structure Good (scene : Scene) : Prop where
  sound : Sound scene
  notSelf : ¬ scene.lists.Listed scene.world.self

theorem canSee_iff {myPos pos : Position} {viewRangeX viewRangeY : Int} : canSee myPos pos viewRangeX viewRangeY = true ↔
    (if myPos.z ≤ 7 then pos.z ≤ 7 else 8 ≤ pos.z ∧ ((myPos.z : Int) - pos.z).natAbs ≤ 2) ∧
      (myPos.x - viewRangeX + ((myPos.z : Int) - pos.z) ≤ pos.x ∧ pos.x ≤ myPos.x + viewRangeX + ((myPos.z : Int) - pos.z)) ∧
      myPos.y - viewRangeY + ((myPos.z : Int) - pos.z) ≤ pos.y ∧ pos.y ≤ myPos.y + viewRangeY + ((myPos.z : Int) - pos.z) := by
  unfold canSee
  by_cases above : myPos.z ≤ 7
  · simp only [if_pos above, Bool.and_eq_true, Bool.not_eq_true', decide_eq_false_iff_not, decide_eq_true_eq]
    omega
  · simp only [if_neg above, Bool.and_eq_true, Bool.not_eq_true', decide_eq_false_iff_not, decide_eq_true_eq]
    omega

theorem viewport_floors {pos : Position} : (SpectatorCall.viewport pos).minRangeZ ≤ max ((pos.z : Int) - 2) 0 ∧
    (pos.z ≤ 7 → (SpectatorCall.viewport pos).minRangeZ = 0) ∧ min ((pos.z : Int) + 2) 15 ≤ (SpectatorCall.viewport pos).maxRangeZ ∧
    (pos.z ≤ 7 → 7 ≤ (SpectatorCall.viewport pos).maxRangeZ) := by
  unfold SpectatorCall.viewport SpectatorCall.range SpectatorCall.floors mapMaxLayers
  simp only [if_true]
  split_ifs <;> omega

/-- The monster is told of what happens at the positions within its view. -/
theorem isSpectator_of_canSee (myPos pos : TilePosition) (view : canSee myPos.val pos.val viewRange viewRange = true) :
    isSpectator pos.val myPos.val = true := by
  obtain ⟨myPos, myLayer⟩ := myPos
  obtain ⟨pos, layer⟩ := pos
  unfold mapMaxLayers at myLayer
  obtain ⟨floor, ⟨lowX, highX⟩, lowY, highY⟩ := canSee_iff.mp view
  obtain ⟨low, lowest, high, highest⟩ := @viewport_floors pos
  unfold viewRange at lowX highX lowY highY
  have wide : (SpectatorCall.viewport pos).minRangeX = -11 ∧ (SpectatorCall.viewport pos).maxRangeX = 11 ∧
    (SpectatorCall.viewport pos).minRangeY = -11 ∧ (SpectatorCall.viewport pos).maxRangeY = 11 := ⟨rfl, rfl, rfl, rfl⟩
  rw [isSpectator, Bool.and_eq_true, decide_eq_true_eq, SpectatorRange.sees_iff]
  dsimp only at floor lowX highX lowY highY ⊢
  exact ⟨layer, {
    lowZ := by split_ifs at floor <;> omega
    highZ := by split_ifs at floor <;> omega
    lowX := by omega
    highX := by omega
    lowY := by omega
    highY := by omega }⟩

theorem canSee_self (pos : Position) : canSee pos pos viewRange viewRange = true := by
  rw [canSee_iff]
  unfold viewRange
  split_ifs <;> omega

section
variable {world : World} {creature other : CreaturePtr}

theorem World.isTold_of_canSee (here : world.isPlaced world.self) (view : world.canSee (world.getPosition creature)) :
    world.isTold (world.getPosition creature) := by
  rw [isTold, here, Bool.true_and]
  exact isSpectator_of_canSee _ _ view

theorem World.isTold_self (here : world.isPlaced world.self) : world.isTold (world.getPosition world.self) :=
  isTold_of_canSee here (canSee_self _)

theorem World.here_of_isTold {pos : Position} (told : world.isTold pos = true) : world.isPlaced world.self = true :=
  (Bool.and_eq_true_iff.mp told).1

theorem World.change_of_ne (change : Creature → Creature) (away : other ≠ creature) :
    (world.change creature change).creatures other = world.creatures other := Function.update_of_ne away ..

theorem World.change_self (change : Creature → Creature) :
    (world.change creature change).creatures creature = change (world.creatures creature) := Function.update_self ..

/-- Only some creatures come, go or move. -/
structure World.Still (moved : CreaturePtr → Prop) (world after : World) : Prop where
  self : after.self = world.self
  still : ∀ other, ¬ moved other → (after.creatures other).presence = (world.creatures other).presence ∧
    (after.creatures other).position = (world.creatures other).position

theorem World.Still.trans {moved : CreaturePtr → Prop} {after later : World} (first : Still moved world after)
    (second : Still moved after later) : Still moved world later where
  self := second.self.trans first.self
  still := by
    intro other rests
    obtain ⟨presence, position⟩ := first.still other rests
    obtain ⟨presence_later, position_later⟩ := second.still other rests
    exact ⟨presence_later.trans presence, position_later.trans position⟩

theorem World.change_still (change : Creature → Creature) : Still (· = creature) world (world.change creature change) where
  self := rfl
  still := by
    intro other away
    rw [change_of_ne change away]
    exact ⟨rfl, rfl⟩

theorem World.change_still_of_keeps {moved : CreaturePtr → Prop} (change : Creature → Creature)
    (keeps : ∀ creature, (change creature).presence = creature.presence ∧ (change creature).position = creature.position) :
    Still moved world (world.change creature change) where
  self := rfl
  still := by
    intro other _
    by_cases here : other = creature
    · subst here
      rw [change_self]
      exact keeps (world.creatures other)
    · rw [change_of_ne change here]
      exact ⟨rfl, rfl⟩

theorem World.clearMaster_still {moved : CreaturePtr → Prop} : Still moved world (world.clearMaster creature) := by
  unfold clearMaster
  split
  · split
    · exact ⟨rfl, fun _ _ => ⟨rfl, rfl⟩⟩
    · exact change_still_of_keeps _ fun _ => ⟨rfl, rfl⟩
  · exact ⟨rfl, fun _ _ => ⟨rfl, rfl⟩⟩

theorem World.leaving_still {moved : CreaturePtr → Prop} (first : Bool) : Still moved world (world.leaving creature first) := by
  unfold leaving
  split
  · exact clearMaster_still
  · exact ⟨rfl, fun _ _ => ⟨rfl, rfl⟩⟩

theorem World.leaving_isDead (first : Bool) :
    ((world.leaving creature first).creatures other).isDead = (world.creatures other).isDead := by
  have cleared : ((world.clearMaster creature).creatures other).isDead = (world.creatures other).isDead := by
    unfold clearMaster
    split
    · split
      · rfl
      · by_cases here : other = creature
        · subst here
          rw [setMaster, change_self]
        · rw [setMaster, change_of_ne _ here]
    · rfl
  unfold leaving
  split
  · exact cleared
  · rfl

theorem World.Still.isPlaced {moved : CreaturePtr → Prop} {after : World} (still : Still moved world after) (rests : ¬ moved other) :
    after.isPlaced other = world.isPlaced other := by
  rw [World.isPlaced, (still.still other rests).1, World.isPlaced]

theorem World.Still.getPosition {moved : CreaturePtr → Prop} {after : World} (still : Still moved world after)
    (rests : ¬ moved other) : after.getPosition other = world.getPosition other := by
  rw [World.getPosition, (still.still other rests).2, World.getPosition]

theorem World.Still.canSee {moved : CreaturePtr → Prop} {after : World} (still : Still moved world after)
    (rests : ¬ moved world.self) (pos : Position) : after.canSee pos = world.canSee pos := by
  rw [World.canSee, still.self, still.getPosition rests, World.canSee]

/-- A creature that stays where it is is still seen. -/
theorem World.Still.sees {moved : CreaturePtr → Prop} {after : World} (still : Still moved world after)
    (monster : ¬ moved world.self) (rests : ¬ moved other) (sees : world.Sees other) : after.Sees other where
  here := by rw [still.self, still.isPlaced monster, sees.here]
  there := by rw [still.isPlaced rests, sees.there]
  view := by rw [still.canSee monster, still.getPosition rests, sees.view]

end

section
variable {world : World} {lists after : Lists} {creature other : CreaturePtr}

/-- A creature that may come into the lists. -/
def World.NewlySeen (world : World) (other : CreaturePtr) : Prop := other ≠ world.self ∧ world.Sees other

theorem mem_otherSpectators {order : List CreaturePtr} (found : other ∈ world.otherSpectators order) :
    other ≠ world.self ∧ world.isPlaced other := by
  have around := (mem_filter.mp found).2
  simp only [Bool.and_eq_true, bne_iff_ne] at around
  exact around.1

theorem lookAround_adds (here : world.isPlaced world.self) (order : List CreaturePtr) :
    Lists.Adds world.NewlySeen lists ((lists.updateTargetList world order).updateIdleStatus world) ∧
      ∀ other, ((lists.updateTargetList world order).updateIdleStatus world).Listed other →
        world.canSee (world.getPosition other) := by
  obtain ⟨adds, sees⟩ := @Lists.updateTargetList_adds world lists order
  have idle : Lists.Adds (fun _ => False) (lists.updateTargetList world order)
      ((lists.updateTargetList world order).updateIdleStatus world) := Lists.updateIdleStatus_adds
  have kept : ∀ other, ((lists.updateTargetList world order).updateIdleStatus world).Listed other →
      (lists.updateTargetList world order).Listed other := fun other listed => (idle.listed other listed).resolve_right id
  constructor
  · refine ⟨fun held => idle.held (adds.held held), ?_⟩
    intro other listed
    refine (adds.listed other (kept other listed)).imp_right ?_
    intro found
    obtain ⟨notSelf, there⟩ := mem_otherSpectators found
    exact ⟨notSelf, here, there, sees other (kept other listed)⟩
  · exact fun other listed => sees other (kept other listed)

theorem onCreatureEnter_adds (here : world.isPlaced world.self) (there : world.isPlaced creature) (notSelf : creature ≠ world.self) :
    Lists.Adds world.NewlySeen lists (lists.onCreatureEnter world creature) := by
  refine (Lists.onCreatureFound_adds true).mono ?_
  rintro other ⟨rfl, view⟩
  exact ⟨notSelf, here, there, view⟩

theorem onCreatureAppear_adds (here : world.isPlaced world.self) (there : world.isPlaced creature) (swallowed : Bool)
    (order : List CreaturePtr) : Lists.Adds world.NewlySeen lists (lists.onCreatureAppear world creature swallowed order) := by
  unfold Lists.onCreatureAppear
  split
  · exact .refl _ lists
  · split
    · exact (lookAround_adds here order).1
    · next notSelf => exact onCreatureEnter_adds here there notSelf

theorem onRemoveCreature_adds {new : CreaturePtr → Prop} (swallowed : Bool) :
    Lists.Adds new lists (lists.onRemoveCreature world creature swallowed) := by
  unfold Lists.onRemoveCreature
  split
  · exact .refl _ lists
  · split
    · exact Lists.setIdle_adds true
    · exact Lists.onCreatureLeave_adds

theorem onCreatureMove_adds (here : world.isPlaced world.self) (there : world.isPlaced creature) (newPos oldPos : Position)
    (swallowed : Bool) (order : List CreaturePtr) :
    Lists.Adds world.NewlySeen lists (lists.onCreatureMove world creature newPos oldPos swallowed order) := by
  unfold Lists.onCreatureMove
  split
  · exact .refl _ lists
  · split
    · exact (lookAround_adds here order).1
    · next notSelf =>
      refine .trans ?_ Lists.updateIdleStatus_adds
      split_ifs
      · exact onCreatureEnter_adds here there notSelf
      · exact Lists.onCreatureLeave_adds
      · exact .refl _ lists

theorem onFollowCreatureComplete_adds {new : CreaturePtr → Prop} (hasFollowPath : Bool) :
    Lists.Adds new lists (lists.onFollowCreatureComplete world creature hasFollowPath) := by
  unfold Lists.onFollowCreatureComplete
  split
  · next listed =>
    have front := (perm_cons_erase listed).symm
    have back := (perm_append_singleton creature (lists.targetList.erase creature)).trans front
    have moved : ∀ {targetList : List CreaturePtr}, targetList.Perm lists.targetList → Lists.Adds new lists { lists with targetList } :=
      fun perm => Lists.adds_withTargets (fun counts => counts.perm perm) fun _ target => .inl (perm.mem_iff.mp target)
    have dropped : Lists.Adds new lists (lists.removeTarget creature) := Lists.removeTarget_adds
    have member : creature ∈ lists.targets.members := listed
    rw [Lists.removeTarget, Roster.erase, if_pos member] at dropped
    dsimp only
    split_ifs
    · exact moved front
    · exact moved back
    · exact dropped
  · exact .refl _ lists

end

section
variable {scene : Scene} {creature : CreaturePtr}

theorem step_self (scene : Scene) (label : Step) : (step scene label).world.self = scene.world.self := by
  cases label with
  | appear | move => unfold step; dsimp only; split <;> rfl
  | disappear other =>
    unfold step
    dsimp only
    split
    · exact (@World.clearMaster_still scene.world other fun _ => False).self
    · rfl
  | _ => rfl

theorem place_isPlaced (pos : TilePosition) : (scene.world.place creature pos).isPlaced creature := by
  rw [World.isPlaced, World.place, World.change_self]
  rfl

theorem moveTo_isPlaced (pos : TilePosition) (placed : scene.world.isPlaced creature) (other : CreaturePtr) :
    (scene.world.moveTo creature pos).isPlaced other = scene.world.isPlaced other := by
  by_cases here : other = creature
  · subst here
    rw [World.isPlaced, World.moveTo, World.change_self]
    rfl
  · rw [World.isPlaced, World.moveTo, World.change_of_ne _ here]
    rfl

theorem appear_adds (pos : TilePosition) (swallowed : Bool) (order : List CreaturePtr)
    (unplaced : (scene.world.creatures creature).presence = .unplaced) :
    Lists.Adds (scene.world.place creature pos).NewlySeen scene.lists (step scene (.appear creature pos swallowed order)).lists := by
  rw [step, if_pos unplaced]
  dsimp only
  split
  · next told => exact onCreatureAppear_adds (World.here_of_isTold told) (place_isPlaced pos) swallowed order
  · exact .refl _ _

theorem move_adds (pos : TilePosition) (swallowed : Bool) (order : List CreaturePtr) (placed : scene.world.isPlaced creature) :
    Lists.Adds (scene.world.moveTo creature pos).NewlySeen scene.lists (step scene (.move creature pos swallowed order)).lists := by
  rw [step, if_pos placed]
  dsimp only
  split
  · next told =>
    have here : scene.world.isPlaced scene.world.self := by
      rcases Bool.or_eq_true_iff.mp told with told | told
      · exact World.here_of_isTold told
      · exact World.here_of_isTold told
    have here := (moveTo_isPlaced pos placed scene.world.self).trans here
    have there := (moveTo_isPlaced pos placed creature).trans placed
    exact onCreatureMove_adds here there pos.val _ swallowed order
  · exact .refl _ _

theorem disappear_adds {new : CreaturePtr → Prop} (swallowed first : Bool) :
    Lists.Adds new scene.lists (step scene (.disappear creature swallowed first)).lists := by
  unfold step
  dsimp only
  split
  · dsimp only
    split
    · exact onRemoveCreature_adds swallowed
    · exact .refl _ _
  · exact .refl _ _

/-- Only creatures other than the monster come into its lists. -/
theorem step_adds (scene : Scene) (label : Step) :
    Lists.Adds (· ≠ scene.world.self) scene.lists (step scene label).lists := by
  cases label with
  | appear creature pos swallowed order =>
    by_cases unplaced : (scene.world.creatures creature).presence = .unplaced
    · exact (appear_adds pos swallowed order unplaced).mono fun _ seen => seen.1
    · rw [step, if_neg unplaced]
      exact .refl _ _
  | move creature pos swallowed order =>
    by_cases placed : scene.world.isPlaced creature
    · exact (move_adds pos swallowed order placed).mono fun _ seen => seen.1
    · rw [step, if_neg placed]
      exact .refl _ _
  | disappear creature swallowed first => exact disappear_adds swallowed first
  | setMaster | setPartners | setIgnored | kill => exact .refl _ _
  | death => exact Lists.clear_adds
  | conditions => exact Lists.updateIdleStatus_adds
  | setIdle idle => exact Lists.setIdle_adds idle
  | followComplete _ hasFollowPath => exact onFollowCreatureComplete_adds hasFollowPath

theorem Good.step (good : Good scene) {label : Step} (sound : Sound (TargetLists.step scene label)) :
    Good (TargetLists.step scene label) := by
  refine ⟨sound, ?_⟩
  rw [step_self]
  intro listed
  rcases (step_adds scene label).listed _ listed with before | new
  · exact good.notSelf before
  · exact new rfl

/-- The lists are sound if they have only creatures that are seen. -/
theorem sound_iff (good : Good scene) (label : Step) :
    Sound (TargetLists.step scene label) ↔ ∀ other, (TargetLists.step scene label).lists.Listed other →
      (TargetLists.step scene label).world.Sees other :=
  ⟨fun sound => sound.sees, fun sees => ⟨sees, (step_adds scene label).held good.sound.held⟩⟩

/-- A step that moves no one. -/
theorem sound_of_still (good : Good scene) {label : Step}
    (still : World.Still (fun _ => False) scene.world (TargetLists.step scene label).world)
    (adds : Lists.Adds (fun _ => False) scene.lists (TargetLists.step scene label).lists) : Sound (TargetLists.step scene label) := by
  rw [sound_iff good]
  intro other listed
  exact still.sees id id (good.sound.sees other ((adds.listed other listed).resolve_right id))

theorem sound_appear (good : Good scene) (pos : TilePosition) (swallowed : Bool) (order : List CreaturePtr) :
    Sound (step scene (.appear creature pos swallowed order)) := by
  by_cases unplaced : (scene.world.creatures creature).presence = .unplaced
  · have same : (step scene (.appear creature pos swallowed order)).world = scene.world.place creature pos := by
      rw [step, if_pos unplaced]
    have fresh : ∀ other, scene.world.isPlaced other → other ≠ creature := by
      rintro other placed rfl
      rw [World.isPlaced, unplaced] at placed
      exact absurd placed (by decide)
    rw [sound_iff good, same]
    intro other listed
    rcases (appear_adds pos swallowed order unplaced).listed other listed with before | new
    · have seen := good.sound.sees other before
      exact (World.change_still _).sees (fresh _ seen.here) (fresh _ seen.there) seen
    · exact new.2
  · rw [step, if_neg unplaced]
    exact good.sound

theorem sound_iff_of_gone (good : Good scene) {label : Step} (notSelf : creature ≠ scene.world.self)
    (still : World.Still (· = creature) scene.world (TargetLists.step scene label).world)
    (adds : Lists.Adds (TargetLists.step scene label).world.NewlySeen scene.lists (TargetLists.step scene label).lists)
    (gone : ¬ (TargetLists.step scene label).world.Sees creature) :
    Sound (TargetLists.step scene label) ↔ ¬ (TargetLists.step scene label).lists.Listed creature := by
  rw [sound_iff good]
  constructor
  · exact fun sees listed => gone (sees creature listed)
  · intro absent other listed
    rcases adds.listed other listed with before | new
    · refine still.sees (Ne.symm notSelf) ?_ (good.sound.sees other before)
      rintro rfl
      exact absent listed
    · exact new.2

theorem not_listed_of_gone {label : Step}
    (adds : Lists.Adds (TargetLists.step scene label).world.NewlySeen scene.lists (TargetLists.step scene label).lists)
    (gone : ¬ (TargetLists.step scene label).world.Sees creature) (absent : ¬ scene.lists.Listed creature) :
    ¬ (TargetLists.step scene label).lists.Listed creature := by
  intro listed
  rcases adds.listed creature listed with before | new
  · exact absent before
  · exact gone new.2

/-- Whether the monster has anybody in its lists after its own removal. -/
theorem listed_of_self_removed (placed : scene.world.isPlaced scene.world.self) (swallowed first : Bool) (other : CreaturePtr) :
    (step scene (.disappear scene.world.self swallowed first)).lists.Listed other ↔
      (swallowed = true ∨ (scene.world.creatures scene.world.self).isDead = true) ∧ scene.lists.Listed other := by
  have still : World.Still (fun _ => False) scene.world (scene.world.leaving scene.world.self first) := World.leaving_still first
  have present : (scene.world.leaving scene.world.self first).isRemoved scene.world.self = false := by
    have placed := (still.isPlaced id).trans placed
    unfold World.isPlaced at placed
    rw [World.isRemoved, of_decide_eq_true placed]
    rfl
  rw [step, if_pos placed, if_pos (World.isTold_self placed)]
  dsimp only
  unfold Lists.onRemoveCreature
  cases swallowed
  · rw [if_neg Bool.false_ne_true, if_pos still.self.symm, Lists.setIdle_listed, still.self, present, World.leaving_isDead]
    simp
  · simp

theorem remove_isPlaced (world : World) : ¬ (world.remove creature).isPlaced creature := by
  rw [World.isPlaced, World.remove, World.change_self]
  simp

theorem sound_disappear_iff (good : Good scene) (swallowed first : Bool) :
    Sound (step scene (.disappear creature swallowed first)) ↔ Allowed scene (.disappear creature swallowed first) := by
  by_cases placed : scene.world.isPlaced creature
  · have same : (step scene (.disappear creature swallowed first)).world = (scene.world.clearMaster creature).remove creature := by
      rw [step, if_pos placed]
    have gone : ¬ ((scene.world.clearMaster creature).remove creature).isPlaced creature := remove_isPlaced _
    rw [← same] at gone
    by_cases monster : creature = scene.world.self
    · subst monster
      have blind : ∀ other, ¬ (step scene (.disappear scene.world.self swallowed first)).world.Sees other := by
        intro other sees
        have here := sees.here
        rw [step_self] at here
        exact gone here
      rw [sound_iff good, Allowed]
      constructor
      · intro sound _
        rw [if_pos rfl]
        intro other listed
        have unlisted := mt (sound other) (blind other)
        rw [listed_of_self_removed placed, not_and_or, not_or] at unlisted
        exact unlisted.resolve_right fun absent => absent listed
      · intro allowed other listed
        have allowed := allowed placed
        rw [if_pos rfl] at allowed
        obtain ⟨stays, before⟩ := (listed_of_self_removed placed swallowed first other).mp listed
        have goes := allowed other before
        exact absurd stays (not_or.mpr goes)
    · have still : World.Still (· = creature) scene.world (step scene (.disappear creature swallowed first)).world :=
        same ▸ World.clearMaster_still.trans (World.change_still _)
      have gone := fun sees : (step scene (.disappear creature swallowed first)).world.Sees creature => gone sees.there
      rw [sound_iff_of_gone good monster still (disappear_adds swallowed first) gone, Allowed, if_neg monster]
      by_cases listed : scene.lists.Listed creature
      · have seen := good.sound.sees creature listed
        have told := World.isTold_of_canSee seen.here seen.view
        have leaving : World.Still (fun _ => False) scene.world (scene.world.leaving creature first) := World.leaving_still first
        rw [step, if_pos placed, if_pos told]
        dsimp only
        unfold Lists.onRemoveCreature
        cases swallowed
        · rw [if_neg Bool.false_ne_true, if_neg (leaving.self ▸ monster), Lists.onCreatureLeave_lets_go good.sound.held]
          simp [placed, listed]
        · simp [placed, listed]
      · exact iff_of_true (not_listed_of_gone (disappear_adds swallowed first) gone listed) fun _ there => absurd there listed
  · rw [step, if_neg placed]
    exact iff_of_true good.sound fun there => absurd there placed

/-- Where the monster and everyone else are after a move. -/
theorem moveTo_getPosition (pos : TilePosition) : (scene.world.moveTo creature pos).getPosition creature = pos.val := by
  rw [World.getPosition, World.moveTo, World.change_self]

/-- A move of the monster is sound, unless its script keeps it from looking around. -/
theorem sound_move_self_iff (good : Good scene) (pos : TilePosition) (swallowed : Bool) (order : List CreaturePtr)
    (placed : scene.world.isPlaced scene.world.self) :
    Sound (step scene (.move scene.world.self pos swallowed order)) ↔
      (swallowed = true → ∀ other, scene.lists.Listed other → canSee pos.val (scene.world.getPosition other) viewRange viewRange = true) := by
  have still : World.Still (· = scene.world.self) scene.world (scene.world.moveTo scene.world.self pos) := World.change_still _
  have here := (moveTo_isPlaced pos placed scene.world.self).trans placed
  have same : (step scene (.move scene.world.self pos swallowed order)).world = scene.world.moveTo scene.world.self pos := by
    rw [step, if_pos placed]
  have lists : (step scene (.move scene.world.self pos swallowed order)).lists =
      scene.lists.onCreatureMove (scene.world.moveTo scene.world.self pos) scene.world.self pos.val
        (scene.world.getPosition scene.world.self) swallowed order := by
    rw [step, if_pos placed]
    exact if_pos (Bool.or_eq_true_iff.mpr (.inl (World.isTold_self placed)))
  rw [sound_iff good, same, lists]
  unfold Lists.onCreatureMove
  cases swallowed
  · rw [if_neg Bool.false_ne_true, if_pos still.self.symm]
    refine iff_of_true ?_ fun swallowed => absurd swallowed Bool.false_ne_true
    obtain ⟨adds, view⟩ := @lookAround_adds (scene.world.moveTo scene.world.self pos) scene.lists here order
    intro other listed
    rcases adds.listed other listed with before | new
    · have there := (moveTo_isPlaced pos placed other).trans (good.sound.sees other before).there
      exact ⟨here, there, view other listed⟩
    · exact new.2
  · rw [if_pos rfl, forall_prop_of_true rfl]
    have view : ∀ other, scene.lists.Listed other → ((scene.world.moveTo scene.world.self pos).Sees other ↔
        canSee pos.val (scene.world.getPosition other) viewRange viewRange = true) := by
      intro other before
      have away : other ≠ scene.world.self := fun monster => good.notSelf (monster ▸ before)
      have there := (moveTo_isPlaced pos placed other).trans (good.sound.sees other before).there
      rw [← still.getPosition away, ← @moveTo_getPosition scene scene.world.self pos]
      exact ⟨fun sees => sees.view, fun view => ⟨here, there, view⟩⟩
    exact forall₂_congr view

theorem sound_move_iff (good : Good scene) (pos : TilePosition) (swallowed : Bool) (order : List CreaturePtr) :
    Sound (step scene (.move creature pos swallowed order)) ↔ Allowed scene (.move creature pos swallowed order) := by
  by_cases placed : scene.world.isPlaced creature
  · rw [Allowed, forall_prop_of_true placed]
    by_cases monster : creature = scene.world.self
    · subst monster
      rw [if_pos rfl, sound_move_self_iff good pos swallowed order placed]
    · rw [if_neg monster]
      have still : World.Still (· = creature) scene.world (scene.world.moveTo creature pos) := World.change_still _
      have same : (step scene (.move creature pos swallowed order)).world = scene.world.moveTo creature pos := by
        rw [step, if_pos placed]
      have view : (scene.world.moveTo creature pos).canSee pos.val = scene.world.canSee pos.val := still.canSee (Ne.symm monster) _
      have adds := move_adds pos swallowed order placed
      have there := (moveTo_isPlaced pos placed creature).trans placed
      by_cases seen : scene.world.canSee pos.val
      · refine iff_of_true ?_ fun _ unseen => absurd seen unseen
        rw [sound_iff good, same]
        intro other listed
        rcases adds.listed other listed with before | new
        · have sees := good.sound.sees other before
          by_cases moved : other = creature
          · subst moved
            have here := (moveTo_isPlaced pos placed scene.world.self).trans sees.here
            exact ⟨here, there, by rw [moveTo_getPosition, view, seen]⟩
          · exact still.sees (Ne.symm monster) moved sees
        · exact new.2
      · have gone : ¬ (scene.world.moveTo creature pos).Sees creature := by
          intro sees
          have visible := sees.view
          rw [moveTo_getPosition, view] at visible
          exact seen visible
        rw [← same] at still gone adds
        rw [sound_iff_of_gone good monster still adds gone, forall_prop_of_true seen]
        by_cases listed : scene.lists.Listed creature
        · rw [forall_prop_of_true listed]
          have sees := good.sound.sees creature listed
          have told := World.isTold_of_canSee sees.here sees.view
          rw [same] at still
          have old : (scene.world.moveTo creature pos).canSee (scene.world.getPosition creature) = true :=
            (still.canSee (Ne.symm monster) _).trans sees.view
          have lists : (step scene (.move creature pos swallowed order)).lists =
              scene.lists.onCreatureMove (scene.world.moveTo creature pos) creature pos.val (scene.world.getPosition creature)
                swallowed order := by
            rw [step, if_pos placed]
            exact if_pos (Bool.or_eq_true_iff.mpr (.inl told))
          rw [lists]
          unfold Lists.onCreatureMove
          cases swallowed
          · rw [if_neg Bool.false_ne_true, if_neg (still.self.symm ▸ monster), view, old, Bool.eq_false_iff.mpr seen]
            simp [Lists.onCreatureLeave_update_lets_go good.sound.held]
          · simp [listed]
        · exact iff_of_true (not_listed_of_gone adds gone listed) fun there => absurd there listed
  · rw [step, if_neg placed]
    exact iff_of_true good.sound fun there => absurd there placed

theorem sound_step_iff (good : Good scene) (label : Step) : Sound (step scene label) ↔ Allowed scene label := by
  cases label with
  | appear creature pos swallowed order => exact iff_of_true (sound_appear good pos swallowed order) trivial
  | move creature pos swallowed order => exact sound_move_iff good pos swallowed order
  | disappear creature swallowed first => exact sound_disappear_iff good swallowed first
  | setMaster creature newMaster =>
    have still : World.Still (fun _ => False) scene.world (scene.world.setMaster creature newMaster) :=
      World.change_still_of_keeps _ fun _ => ⟨rfl, rfl⟩
    exact iff_of_true (sound_of_still good still (.refl _ _)) trivial
  | setIgnored creature ignoredByMonsters =>
    have still : World.Still (fun _ => False) scene.world (scene.world.setIgnored creature ignoredByMonsters) :=
      World.change_still_of_keeps _ fun _ => ⟨rfl, rfl⟩
    exact iff_of_true (sound_of_still good still (.refl _ _)) trivial
  | kill creature =>
    have still : World.Still (fun _ => False) scene.world (scene.world.kill creature) :=
      World.change_still_of_keeps _ fun _ => ⟨rfl, rfl⟩
    exact iff_of_true (sound_of_still good still (.refl _ _)) trivial
  | setPartners => exact iff_of_true (sound_of_still good ⟨rfl, fun _ _ => ⟨rfl, rfl⟩⟩ (.refl _ _)) trivial
  | death => exact iff_of_true (sound_of_still good ⟨rfl, fun _ _ => ⟨rfl, rfl⟩⟩ Lists.clear_adds) trivial
  | conditions => exact iff_of_true (sound_of_still good ⟨rfl, fun _ _ => ⟨rfl, rfl⟩⟩ Lists.updateIdleStatus_adds) trivial
  | setIdle idle => exact iff_of_true (sound_of_still good ⟨rfl, fun _ _ => ⟨rfl, rfl⟩⟩ (Lists.setIdle_adds idle)) trivial
  | followComplete _ hasFollowPath =>
    exact iff_of_true (sound_of_still good ⟨rfl, fun _ _ => ⟨rfl, rfl⟩⟩ (onFollowCreatureComplete_adds hasFollowPath)) trivial

end

/-- Along a run the lists of a monster have only creatures that it sees just when it lets go of everyone who gets out of its
sight. -/
theorem lists_sound_iff (scene : Scene) (good : Good scene) (steps : List Step) :
    Always step Sound scene steps ↔ Throughout step Allowed scene steps :=
  always_iff_throughout_of_good Good (fun _ good => good.sound) (fun _ _ good sound => good.step sound)
    (fun _ label good => sound_step_iff good label) good steps

/-- A monster that has just been created. -/
theorem good_of_created (world : World) : Good { world } where
  sound :=
    { sees := fun _ listed => (listed.elim not_mem_nil not_mem_nil).elim
      held := ⟨nodup_nil, nodup_nil, fun _ => rfl⟩ }
  notSelf := fun listed => listed.elim not_mem_nil not_mem_nil

/-- A wild wolf, a druid, and the bear that the druid has summoned. -/
def forest : World where
  self := 0
  creatures
    | 0 => { kind := .monster, position := ⟨⟨100, 100, 7⟩, by decide⟩ }
    | 1 => { kind := .player false, position := ⟨⟨101, 100, 7⟩, by decide⟩ }
    | _ => { kind := .monster, position := ⟨⟨102, 100, 7⟩, by decide⟩, master := some 1 }

def meeting : List Step :=
  [.appear 0 ⟨⟨100, 100, 7⟩, by decide⟩ false [0], .appear 1 ⟨⟨101, 100, 7⟩, by decide⟩ false [0, 1],
    .appear 2 ⟨⟨102, 100, 7⟩, by decide⟩ false [0, 1, 2]]

theorem lists_sound_iff_forest :
    Always step Sound { world := forest } (meeting ++ [.move 2 ⟨⟨120, 100, 7⟩, by decide⟩ false []]) ↔
      Throughout step Allowed { world := forest } (meeting ++ [.move 2 ⟨⟨120, 100, 7⟩, by decide⟩ false []]) :=
  lists_sound_iff { world := forest } (good_of_created forest) _

/-- The bear dies: it loses its master before it is taken off the map, and the wolf does not let go of it. -/
theorem dead_summon_stays : ¬ Always step Sound { world := forest } (meeting ++ [.setMaster 2 none, .disappear 2 false false]) := by
  intro always
  have sound := always.last
  have listed : 2 ∈ ((meeting ++ [Step.setMaster 2 none, Step.disappear 2 false false]).foldl step
      { world := forest }).lists.targetList := by
    decide
  have there := (sound.sees 2 (.inl listed)).there
  revert there
  decide

end Styller.TargetLists
