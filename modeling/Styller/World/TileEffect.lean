import Styller.World.Effect

/-! What the operations of tiles do to the layout. -/

namespace Styller.Game

open Library Layout List

section
variable (env : Env) (game : Game) {ptr : ItemPtr}

def unflagged (tile : Tile) : Tile := { tile with flags := fun _ => false }

theorem foldl_unflagged {Entry : Type} {step : Tile → Entry → Tile}
    (frame : ∀ tile entry, unflagged (step tile entry) = unflagged tile) (entries : List Entry)
    (tile : Tile) : unflagged (entries.foldl step tile) = unflagged tile := by
  induction entries generalizing tile with
  | nil => rfl
  | cons entry rest ih =>
    rw [foldl_cons, ih]
    exact frame tile entry

theorem foldl_flags {Entry : Type} {step : Tile → Entry → Tile} (sets : Entry → TileFlag → Prop)
    (cause : ∀ tile entry flag, (step tile entry).hasFlag flag = true →
      tile.hasFlag flag = true ∨ sets entry flag) (entries : List Entry) (tile : Tile)
    {flag : TileFlag} (there : (entries.foldl step tile).hasFlag flag = true) :
    tile.hasFlag flag = true ∨ ∃ entry ∈ entries, sets entry flag := by
  induction entries generalizing tile with
  | nil => exact .inl there
  | cons entry rest ih =>
    rcases ih (step tile entry) there with before | ⟨other, listed, set⟩
    · rcases cause tile entry flag before with old | set
      · exact .inl old
      · exact .inr ⟨entry, mem_cons_self, set⟩
    · exact .inr ⟨other, mem_cons_of_mem _ listed, set⟩

theorem setFlag_cause (tile : Tile) (set flag : TileFlag) (there : (tile.setFlag set).hasFlag flag = true) :
    tile.hasFlag flag = true ∨ set = flag := by
  simp only [Tile.setFlag, Tile.hasFlag, Bool.or_eq_true, decide_eq_true_eq] at there ⊢
  exact there.symm.imp_right Eq.symm

theorem resetFlag_cause (tile : Tile) (reset flag : TileFlag)
    (there : (tile.resetFlag reset).hasFlag flag = true) : tile.hasFlag flag = true := by
  simp only [Tile.resetFlag, Tile.hasFlag, Bool.and_eq_true] at there ⊢
  exact there.2

theorem setTileFlags_unflagged (tile : Tile) (ptr : ItemPtr) :
    unflagged (setTileFlags env game tile ptr) = unflagged tile := by
  have set : ∀ (tile : Tile) (flag : TileFlag), unflagged (tile.setFlag flag) = unflagged tile :=
    fun _ _ => rfl
  unfold setTileFlags
  simp only
  rw [foldl_unflagged set, foldl_unflagged]
  · split
    · rfl
    · exact foldl_unflagged set _ _
  · intro tile entry
    split <;> rfl

theorem resetTileFlags_unflagged (tile : Tile) (ptr : ItemPtr) :
    unflagged (resetTileFlags env game tile ptr) = unflagged tile := by
  have reset : ∀ (tile : Tile) (flag : TileFlag), unflagged (tile.resetFlag flag) = unflagged tile :=
    fun _ _ => rfl
  have last : ∀ (condition : Bool) (tile : Tile),
      unflagged (if condition then tile.resetFlag .supportsHangable else tile) = unflagged tile := by
    intro condition tile
    split <;> rfl
  unfold resetTileFlags
  simp only
  rw [last, foldl_unflagged reset, foldl_unflagged]
  · split
    · exact foldl_unflagged reset _ _
    · rfl
  · intro tile entry
    split <;> rfl

/-- A new flag that makes the tile receive comes from the class of the item. -/
theorem setTileFlags_flag (tile : Tile) {flag : TileFlag}
    (special : flag = .teleport ∨ flag = .trashHolder ∨ flag = .mailbox)
    (there : (setTileFlags env game tile ptr).hasFlag flag = true) :
    tile.hasFlag flag = true ∨ flag ∈ classFlags (game.items ptr).kind := by
  unfold setTileFlags at there
  simp only at there
  rcases foldl_flags (fun set flag => set = flag) setFlag_cause _ _ there with before | ⟨set, listed, rfl⟩
  · have cause := foldl_flags (fun entry flag => entry.2 = flag) (by
      intro tile entry flag there
      split at there
      · exact setFlag_cause tile entry.2 flag there
      · exact .inl there) _ _ before
    rcases cause with before | ⟨entry, listed, set⟩
    · split at before
      · exact .inl before
      · rcases foldl_flags (fun set flag => set = flag) setFlag_cause _ _ before with old | ⟨set, listed, rfl⟩
        · exact .inl old
        · have change := env.items.floorChange_flags _ set listed
          rcases special with rfl | rfl | rfl <;> cases change
    · exfalso
      clear there before
      revert entry
      rcases special with rfl | rfl | rfl <;> decide
  · exact .inr listed

theorem resetTileFlags_flag (tile : Tile) {flag : TileFlag}
    (there : (resetTileFlags env game tile ptr).hasFlag flag = true) : tile.hasFlag flag = true := by
  have reset : ∀ (flags : List TileFlag) (tile : Tile),
      (flags.foldl Tile.resetFlag tile).hasFlag flag = true → tile.hasFlag flag = true := by
    intro flags tile there
    rcases foldl_flags (fun _ _ => False)
        (fun tile entry flag there => .inl (resetFlag_cause tile entry flag there)) flags tile there
      with before | ⟨_, _, never⟩
    · exact before
    · exact never.elim
  unfold resetTileFlags at there
  simp only at there
  have last : ∀ (condition : Bool) (tile : Tile),
      (if condition then tile.resetFlag .supportsHangable else tile).hasFlag flag = true →
        tile.hasFlag flag = true := by
    intro condition tile there
    split at there
    · exact resetFlag_cause _ _ _ there
    · exact there
  rcases foldl_flags (fun _ _ => False) (by
      intro tile entry flag there
      split at there
      · exact .inl (resetFlag_cause tile entry.2 flag there)
      · exact .inl there) _ _ (reset _ _ (last _ _ there)) with before | ⟨_, _, never⟩
  · split at before
    · exact reset _ _ before
    · exact before
  · exact never.elim

theorem receives_iff {tile : Tile} : tile.receives = true ↔ ∃ flag, tile.hasFlag flag = true ∧
    (flag = .teleport ∨ flag = .trashHolder ∨ flag = .mailbox) := by
  unfold Tile.receives
  simp only [Bool.or_eq_true]
  constructor
  · rintro ((here | here) | here)
    · exact ⟨_, here, .inl rfl⟩
    · exact ⟨_, here, .inr (.inl rfl)⟩
    · exact ⟨_, here, .inr (.inr rfl)⟩
  · rintro ⟨flag, here, rfl | rfl | rfl⟩
    · exact .inl (.inl here)
    · exact .inl (.inr here)
    · exact .inr here

theorem setTileFlags_receives (tile : Tile) (there : (setTileFlags env game tile ptr).receives = true) :
    tile.receives = true ∨ (game.items ptr).kind.receives = true := by
  obtain ⟨flag, here, special⟩ := receives_iff.mp there
  rcases setTileFlags_flag env game tile special here with old | listed
  · exact .inl (receives_iff.mpr ⟨flag, old, special⟩)
  · right
    revert special listed
    cases (game.items ptr).kind <;> rintro (rfl | rfl | rfl) listed <;>
      first | rfl | (simp [classFlags] at listed)

theorem resetTileFlags_receives (tile : Tile)
    (there : (resetTileFlags env game tile ptr).receives = true) : tile.receives = true := by
  obtain ⟨flag, here, special⟩ := receives_iff.mp there
  exact receives_iff.mpr ⟨flag, resetTileFlags_flag env game tile here, special⟩

end

section
variable (env : Env) (game : Game) {pos : Position} {tile : Tile} {ptr : ItemPtr} {size : Nat}

theorem layer_unflagged (tile : Tile) (layer : Layer) : (unflagged tile).layer layer = tile.layer layer := by
  cases layer <;> rfl

theorem things_of_unflagged {other : Tile} (same : unflagged other = unflagged tile) :
    other.things = tile.things := by
  have here := congrArg Tile.things same
  exact here

theorem layer_of_unflagged {other : Tile} (same : unflagged other = unflagged tile) :
    other.layer = tile.layer := by
  funext layer
  have here := congrArg (fun tile => tile.layer layer) same
  simpa only [layer_unflagged] using here

/-- The layout after a tile has changed. -/
theorem layout_setTile (pos : Position) (tile : Tile) :
    (game.setTile pos tile).layout = { game.layout with
      contents := fun cylinder =>
        if cylinder = .tile pos then tile.things else game.contents cylinder
      mapped := fun place => place = pos || game.layout.mapped place
      layers := fun place => if place = pos then tile.layer else game.layout.layers place
      receives := fun place => if place = pos then tile.receives else game.layout.receives place } := by
  have contents : (game.setTile pos tile).contents = fun cylinder =>
      if cylinder = .tile pos then tile.things else game.contents cylinder := by
    funext cylinder
    exact contents_setTile game pos tile cylinder
  have layers : (game.setTile pos tile).layout.layers =
      fun place => if place = pos then tile.layer else game.layout.layers place := by
    funext place layer
    by_cases here : place = pos
    · simp [layout, setTile, here]
    · simp [layout, setTile, here]
  have receives : (game.setTile pos tile).layout.receives =
      fun place => if place = pos then tile.receives else game.layout.receives place := by
    funext place
    by_cases here : place = pos
    · simp [layout, setTile, here]
    · simp [layout, setTile, here]
  have mapped : (game.setTile pos tile).layout.mapped =
      fun place => place = pos || game.layout.mapped place := by
    funext place
    by_cases here : place = pos
    · simp [layout, setTile, here]
    · simp [layout, setTile, here]
  rw [← contents, ← layers, ← receives, ← mapped]
  rfl

theorem layers_here (here : game.tiles pos = some tile) : game.layout.layers pos = tile.layer := by
  funext layer
  simp [layout, here]

theorem receives_here (here : game.tiles pos = some tile) : game.layout.receives pos = tile.receives := by
  simp [layout, here]

theorem mapped_here (here : game.tiles pos = some tile) :
    (fun place => place = pos || game.layout.mapped place) = game.layout.mapped := by
  funext place
  by_cases same : place = pos
  · simp [layout, same, here]
  · simp [same]

theorem contents_here (here : game.tiles pos = some tile) : game.contents (.tile pos) = tile.things := by
  simp [contents, here]

theorem take_of_setTile (here : game.tiles pos = some tile) (after : Tile)
    (things : tile.things.Perm (ptr :: after.things))
    (layers : ∀ layer, (after.layer layer).Sublist (tile.layer layer))
    (receives : after.receives = true → tile.receives = true) :
    Take game.layout ((game.setItem ptr ((game.items ptr).setParent none)).setTile pos after).layout
      (.tile pos) ptr := by
  have hung := reparented_setItem game ptr none
  have contents := contents_setParent game ptr none
  have mapped := mapped_here game here
  rw [layout_setTile]
  exact
    { toReparented := ⟨⟨hung.id, hung.kind, hung.count, hung.maxSize, hung.next, mapped⟩, hung.parent⟩
      here := by
        simp only [if_pos]
        rw [show game.layout.contents (.tile pos) = tile.things from contents_here game here]
        exact things
      elsewhere := by
        intro other different
        simp only [if_neg different, contents]
        rfl
      inventory := fun _ _ => .inl rfl
      layers := by
        intro place layer
        by_cases same : place = pos
        · subst same
          rw [layers_here game here]
          simp only [if_pos]
          exact layers layer
        · simp only [if_neg same]
          exact List.Sublist.refl _
      receives := by
        intro place there
        by_cases same : place = pos
        · subst same
          rw [receives_here game here]
          simp only [if_pos] at there
          exact receives there
        · simp only [if_neg same] at there
          exact there }

theorem put_of_setTile (here : game.tiles pos = some tile) (after : Tile)
    (things : after.things.Perm (ptr :: tile.things))
    (layers : ∀ layer other, other ∈ after.layer layer → other ∈ tile.layer layer ∨
      (other = ptr ∧ layer = layerOf (env.items.get (game.items ptr).id)))
    (receives : after.receives = true → tile.receives = true ∨ (game.items ptr).kind.receives = true) :
    Put env.items game.layout ((game.setItem ptr ((game.items ptr).setParent (some (.tile pos)))).setTile
      pos after).layout (.tile pos) ptr := by
  have hung := reparented_setItem game ptr (some (.tile pos))
  have contents := contents_setParent game ptr (some (.tile pos))
  have mapped := mapped_here game here
  rw [layout_setTile]
  exact
    { toReparented := ⟨⟨hung.id, hung.kind, hung.count, hung.maxSize, hung.next, mapped⟩, hung.parent⟩
      here := by
        simp only [if_pos]
        rw [show game.layout.contents (.tile pos) = tile.things from contents_here game here]
        exact things
      elsewhere := by
        intro other different
        simp only [if_neg different, contents]
        rfl
      inventory := fun _ _ => rfl
      layers := by
        intro place layer other member
        by_cases same : place = pos
        · subst same
          rw [layers_here game here]
          simp only [if_pos] at member
          exact (layers layer other member).imp_right (fun new => ⟨rfl, new⟩)
        · simp only [if_neg same] at member
          exact .inl member
      receives := by
        intro place there
        by_cases same : place = pos
        · subst same
          rw [receives_here game here]
          simp only [if_pos] at there
          exact (receives there).imp_right (fun new => ⟨rfl, new⟩)
        · simp only [if_neg same] at there
          exact .inl there }

/-- Where an item lies that the tile finds. -/
theorem tileThingIndex_cases (inside : tileThingIndex env game tile ptr ≠ -1) :
    tile.ground = some ptr ∨
      ((env.items.get (game.items ptr).id).alwaysOnTop = true ∧ ptr ∈ tile.topItems) ∨
      ((env.items.get (game.items ptr).id).alwaysOnTop = false ∧ ptr ∈ tile.downItems) := by
  unfold tileThingIndex at inside
  by_cases ground : tile.ground = some ptr
  · exact .inl ground
  · right
    simp only [if_neg ground] at inside
    by_cases onTop : (env.items.get (game.items ptr).id).alwaysOnTop = true
    · left
      refine ⟨onTop, ?_⟩
      by_contra absent
      simp [Item.isAlwaysOnTop, onTop, idxOf?_eq_none_iff.mpr absent] at inside
    · right
      refine ⟨by simpa using onTop, ?_⟩
      by_contra absent
      simp [Item.isAlwaysOnTop, onTop, idxOf?_eq_none_iff.mpr absent] at inside

/-- An item on the free part of a tile is found there. -/
theorem tileThingIndex_ne_of_down (notOnTop : (env.items.get (game.items ptr).id).alwaysOnTop = false)
    (member : ptr ∈ tile.downItems) : tileThingIndex env game tile ptr ≠ -1 := by
  unfold tileThingIndex
  by_cases ground : tile.ground = some ptr
  · simp [ground]
  · cases found : tile.downItems.idxOf? ptr with
    | none => exact absurd member (idxOf?_eq_none_iff.mp found)
    | some index =>
      simp only [if_neg ground, Item.isAlwaysOnTop, notOnTop, Bool.false_eq_true, if_false]
      split <;> omega

theorem tileRemoveThing_take (here : game.tiles pos = some tile)
    (inside : tileThingIndex env game tile ptr ≠ -1)
    (whole : ¬ ((game.items ptr).isStackable env.items ∧ size ≠ (game.items ptr).count)) :
    Take game.layout (game.tileRemoveThing env pos tile ptr size).layout (.tile pos) ptr := by
  generalize gone : game.setItem ptr ((game.items ptr).setParent none) = after
  -- each branch takes the item out of one part of the tile and then resets flags
  have leave : ∀ less : Tile, tile.things.Perm (ptr :: less.things) →
      (∀ layer, (less.layer layer).Sublist (tile.layer layer)) → less.receives = tile.receives →
      Take game.layout (after.setTile pos (resetTileFlags env after less ptr)).layout (.tile pos) ptr := by
    intro less things layers same
    rw [← gone]
    refine take_of_setTile game here _ ?_ ?_ ?_
    · rw [things_of_unflagged (resetTileFlags_unflagged env _ less ptr)]
      exact things
    · rw [layer_of_unflagged (resetTileFlags_unflagged env _ less ptr)]
      exact layers
    · intro there
      rw [← same]
      exact resetTileFlags_receives env _ less there
  unfold tileRemoveThing
  have whole' : ¬ ((env.items.get (game.items ptr).id).stackable = true ∧ size ≠ (game.items ptr).count) :=
    whole
  simp only [if_neg inside, if_neg whole', gone]
  have parts := tileThingIndex_cases env game inside
  split
  · rename_i ground
    refine leave _ ?_ ?_ rfl
    · simp [Tile.things, ground]
    · intro layer
      cases layer with
      | ground => exact nil_sublist _
      | top | down => exact List.Sublist.refl _
  · rename_i notGround
    split
    · rename_i onTop
      have member : ptr ∈ tile.topItems := by
        rcases parts with ground | ⟨_, member⟩ | ⟨notOnTop, _⟩
        · exact absurd ground notGround
        · exact member
        · simp [onTop] at notOnTop
      refine leave _ ?_ ?_ rfl
      · have taken := perm_cons_erase member
        have front := (taken.append_left tile.ground.toList).append_right tile.downItems
        refine front.trans ?_
        simp only [Tile.things]
        exact (perm_middle.append_right _)
      · intro layer
        cases layer with
        | ground | down => exact List.Sublist.refl _
        | top => exact erase_sublist
    · rename_i notOnTop
      have member : ptr ∈ tile.downItems := by
        rcases parts with ground | ⟨onTop, _⟩ | ⟨_, member⟩
        · exact absurd ground notGround
        · exact absurd onTop notOnTop
        · exact member
      refine leave _ ?_ ?_ rfl
      · have taken := perm_cons_erase member
        refine (taken.append_left (tile.ground.toList ++ tile.topItems)).trans ?_
        exact perm_middle
      · intro layer
        cases layer with
        | ground | top => exact List.Sublist.refl _
        | down => exact erase_sublist

theorem stack_not_ground (sound : game.layout.Sound env.items) (here : game.tiles pos = some tile)
    (stackable : (game.items ptr).isStackable env.items = true) : tile.ground ≠ some ptr := by
  intro ground
  have member : ptr ∈ game.layout.layers pos .ground := by
    rw [layers_here game here]
    simp [Tile.layer, ground]
  have layer := (sound.layered pos .ground ptr member).2.trans (layerOf_stackable stackable)
  cases layer

/-- Stacks are never drawn on top. -/
theorem stack_not_onTop (stackable : (game.items ptr).isStackable env.items = true) :
    (env.items.get (game.items ptr).id).alwaysOnTop = false :=
  (env.items.stackable_plain _ stackable).notOnTop

theorem tileRemoveThing_recount (sound : game.layout.Sound env.items)
    (here : game.tiles pos = some tile) (inside : tileThingIndex env game tile ptr ≠ -1)
    (part : (game.items ptr).isStackable env.items ∧ size ≠ (game.items ptr).count) :
    Recount game.layout (game.tileRemoveThing env pos tile ptr size).layout ptr
      (rest (game.items ptr).count size) := by
  have notGround := stack_not_ground env game sound here part.1
  have notOnTop : ¬ (env.items.get (game.items ptr).id).alwaysOnTop = true := by
    simp [stack_not_onTop env game part.1]
  have part' : (env.items.get (game.items ptr).id).stackable = true ∧ size ≠ (game.items ptr).count := part
  unfold tileRemoveThing
  simp only [if_neg inside, if_neg notGround, if_neg notOnTop, if_pos part']
  have after := recount_setItemCount game ptr (rest (game.items ptr).count size)
  rwa [rest, toUInt8_toUInt8] at after

theorem tileUpdateThing_recount (here : game.tiles pos = some tile)
    (inside : tileThingIndex env game tile ptr ≠ -1)
    (stackable : (game.items ptr).isStackable env.items = true)
    (quiet : (game.items ptr).kind.receives = false) :
    Recount game.layout (game.tileUpdateThing env pos tile ptr (game.items ptr).id size).layout ptr
      (toUInt8 (toUInt16 size)) := by
  obtain ⟨attributes, frame⟩ := Item.updated_stack env.items (env.normalRandom ptr) (game.items ptr)
    (toUInt16 size) stackable
  unfold tileUpdateThing
  simp only [if_neg inside, frame]
  generalize changed : game.setItem ptr { game.items ptr with attributes, count := toUInt8 (toUInt16 size) }
    = after
  have recount : Recount game.layout after.layout ptr (toUInt8 (toUInt16 size)) := by
    rw [← changed]
    exact recount_setItem game rfl rfl rfl rfl rfl
  have kind : (after.items ptr).kind = (game.items ptr).kind := by
    rw [← changed]
    simp
  have same : after.tiles = game.tiles := by
    rw [← changed]
    rfl
  have unchanged : unflagged (setTileFlags env after (resetTileFlags env game tile ptr) ptr) =
      unflagged tile := by
    rw [setTileFlags_unflagged, resetTileFlags_unflagged]
  rw [layout_setTile]
  exact
    { recount with
      mapped := (mapped_here after (same.symm ▸ here)).trans recount.mapped
      contents := by
        funext cylinder
        by_cases there : cylinder = .tile pos
        · subst there
          simp only [if_pos, things_of_unflagged unchanged]
          exact (contents_here game here).symm
        · simp only [if_neg there]
          exact congrFun recount.contents cylinder
      layers := by
        funext place
        by_cases there : place = pos
        · subst there
          simp only [if_pos, layer_of_unflagged unchanged]
          exact (layers_here game here).symm
        · simp only [if_neg there]
          exact congrFun recount.layers place
      receives := by
        intro place there
        by_cases at' : place = pos
        · subst at'
          simp only [if_pos] at there
          rw [receives_here game here]
          rcases setTileFlags_receives env after _ there with reset | special
          · exact resetTileFlags_receives env game tile reset
          · rw [kind, quiet] at special
            cases special
        · simp only [if_neg at'] at there
          exact recount.receives place there }

theorem setTile_setTile (first second : Tile) :
    (game.setTile pos first).setTile pos second = game.setTile pos second := by
  unfold setTile
  congr 1
  funext other
  by_cases same : other = pos <;> simp [same]

theorem insertTopItem_perm (ptr : ItemPtr) (list : List ItemPtr) :
    (insertTopItem env game ptr list).Perm (ptr :: list) := by
  induction list with
  | nil => exact List.Perm.refl _
  | cons other rest ih =>
    unfold insertTopItem
    split
    · exact List.Perm.refl _
    · exact (ih.cons other).trans (List.Perm.swap ptr other rest)

/-- Nothing on the tile gives way to the item. -/
theorem replacedThing_eq_none_iff (here : game.tiles pos = some tile) :
    replacedThing env game tile ptr = none ↔ game.layout.Unrivalled env.items pos ptr := by
  unfold Unrivalled replacedThing
  rw [layers_here game here]
  change _ ↔ ∀ other ∈ tile.layer (layerOf (env.items.get (game.items ptr).id)), _
  by_cases ground : (env.items.get (game.items ptr).id).isGroundTile = true
  · cases under : tile.ground <;> simp [ground, layerOf, Rival, layout, Tile.layer, under]
  · by_cases onTop : (env.items.get (game.items ptr).id).alwaysOnTop = true
    · by_cases splash : (env.items.get (game.items ptr).id).isSplash = true <;>
        simp [ground, onTop, splash, layerOf, Rival, layout, Tile.layer]
    · by_cases field : (env.items.get (game.items ptr).id).isMagicField = true <;>
        simp [ground, onTop, field, layerOf, Rival, layout, Tile.layer]

theorem tileAddThing_put (here : game.tiles pos = some tile) (few : tile.itemList.length < 0xFFFF)
    (alone : replacedThing env game tile ptr = none) :
    Put env.items game.layout (game.tileAddThing env pos tile ptr).layout (.tile pos) ptr := by
  have room : ¬ tile.itemList.length ≥ 0xFFFF := by omega
  have come : ∀ more : Tile, more.things.Perm (ptr :: tile.things) →
      (∀ layer other, other ∈ more.layer layer → other ∈ tile.layer layer ∨
        (other = ptr ∧ layer = layerOf (env.items.get (game.items ptr).id))) →
      more.receives = tile.receives →
      Put env.items game.layout ((game.setItem ptr ((game.items ptr).setParent (some (.tile pos)))).setTile
        pos (setTileFlags env (game.setItem ptr ((game.items ptr).setParent (some (.tile pos)))) more
          ptr)).layout (.tile pos) ptr := by
    intro more things layers same
    refine put_of_setTile env game here _ ?_ ?_ ?_
    · rw [things_of_unflagged (setTileFlags_unflagged env _ more ptr)]
      exact things
    · rw [layer_of_unflagged (setTileFlags_unflagged env _ more ptr)]
      exact layers
    · intro there
      rw [← same]
      have cause := setTileFlags_receives env _ more there
      simpa [Item.setParent] using cause
  unfold tileAddThing
  simp only [if_neg room, alone]
  split
  · rename_i ground
    have none : tile.ground = none := by simpa [replacedThing, ground] using alone
    refine come _ ?_ ?_ rfl
    · simp [Tile.things, none]
    · intro layer other member
      cases layer with
      | ground =>
        right
        simp only [Tile.layer, Option.toList_some, mem_singleton] at member
        exact ⟨member, by simp [layerOf, ground]⟩
      | top | down => exact .inl member
  · rename_i notGround
    split
    · rename_i onTop
      rw [setTile_setTile]
      have same : ((game.setItem ptr ((game.items ptr).setParent (some (.tile pos)))).setTile pos
          tile).tiles pos = some tile := by simp [setTile]
      simp only [same, Option.getD_some]
      have perm := insertTopItem_perm env ((game.setItem ptr
        ((game.items ptr).setParent (some (.tile pos)))).setTile pos tile) ptr tile.topItems
      refine come { tile with topItems := _ } ?_ ?_ rfl
      · refine ((perm.append_left tile.ground.toList).append_right tile.downItems).trans ?_
        exact perm_middle.append_right _
      · intro layer other member
        cases layer with
        | ground | down => exact .inl member
        | top =>
          rcases mem_cons.mp (perm.mem_iff.mp member) with new | old
          · exact .inr ⟨new, by simp [layerOf, notGround, onTop]⟩
          · exact .inl old
    · rename_i notOnTop
      refine come _ ?_ ?_ rfl
      · exact perm_middle
      · intro layer other member
        cases layer with
        | ground | top => exact .inl member
        | down =>
          rcases mem_cons.mp member with new | old
          · exact .inr ⟨new, by simp [layerOf, notGround, notOnTop]⟩
          · exact .inl old

end

end Styller.Game
