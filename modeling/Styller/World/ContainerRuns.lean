import Mathlib.Algebra.BigOperators.Ring.Finset
import Styller.Item.GameItems
import Styller.World.CloneWeight

/-! Runs of the operations of containers. -/

namespace Styller.Game

open Library Option

section
variable {env : Env} {start game : Game} {ptr : ItemPtr}

/-- A copy changes nothing that was there before. -/
theorem cloneThing_old {fuel : Nat} {result : Game} (ran : cloneThing env fuel game ptr = some result) :
    Old game.next game result := by
  induction fuel generalizing game ptr result with
  | zero => cases ran
  | succ fuel ih =>
    simp only [cloneThing] at ran
    cases created : Item.createItem env.items (env.normalRandom game.next) (game.items ptr).id (game.items ptr).count with
    | none =>
      rw [created] at ran
      cases ran
    | some copy =>
      rw [created] at ran
      simp only at ran
      have born := clone_born created
      generalize game.clone env ptr = born_game at ran born
      have old : Old game.next game born_game := by
        constructor
        · intro other early
          exact born.old other (Nat.ne_of_lt early)
        · exact Nat.le_refl _
        · rw [born.next]
          exact Nat.le_succ _
      split at ran
      · exact some.inj ran ▸ old
      · split at ran
        · cases ran
        · rw [bind_eq_bind, bind_eq_some_iff] at ran
          obtain ⟨now, loop, ran⟩ := ran
          rw [Option.pure_def, some.injEq] at ran
          have filled : Old game.next game now := by
            refine foldlM_done (fun _ now => Old game.next game now) ?_ old loop
            intro done child state after member so_far step
            rw [bind_eq_some_iff] at step
            obtain ⟨cloned, copying, step⟩ := step
            rw [Option.pure_def, some.injEq] at step
            have longer := so_far.trans ((ih copying).lower so_far.after)
            rw [← step]
            constructor
            · intro other early
              have notShell : other ≠ game.next := Nat.ne_of_lt early
              have notRoot : other ≠ state.next := Nat.ne_of_lt (Nat.lt_of_lt_of_le early so_far.after)
              rw [containerAddItem, setItem_other _ _ notRoot, setItem_other _ _ notShell, longer.same other early]
            · exact Nat.le_refl _
            · exact longer.after
          rw [← ran]
          constructor
          · intro other early
            rw [setItem_other _ _ (Nat.ne_of_lt early)]
            exact filled.same other early
          · exact Nat.le_refl _
          · exact filled.after

/-- A copy takes no more steps than there are items in the original. -/
theorem cloneThing_nodes (kept : WeightKept env.items start) (base : Old start.next start game) (live : ptr < start.next)
    {fuel more : Nat} {nodes : Finset ItemPtr} (reach : ∀ node, Rollup.Above start.upward node ptr → node ∈ nodes)
    (enough : nodes.card < fuel) (enough' : nodes.card < more) : cloneThing env fuel game ptr = cloneThing env more game ptr := by
  induction fuel generalizing game ptr more nodes with
  | zero => exact absurd enough (Nat.not_lt_zero _)
  | succ fuel ih =>
    cases more with
    | zero => exact absurd enough' (Nat.not_lt_zero _)
    | succ more =>
      simp only [cloneThing]
      cases created : Item.createItem env.items (env.normalRandom game.next) (game.items ptr).id (game.items ptr).count with
      | none => rfl
      | some copy =>
        simp only
        have born := clone_born created
        generalize game.clone env ptr = born_game at born ⊢
        by_cases container : (game.items ptr).isContainer = true
        · simp only [container, Bool.not_true, Bool.false_eq_true, if_false]
          have here := reach ptr (.refl ptr)
          have fewer : (nodes.erase ptr).card < nodes.card := Finset.card_erase_lt_of_mem here
          have same : ∀ state child, child ∈ (game.items ptr).itemlist → Old start.next start state →
              cloneThing env fuel state child = cloneThing env more state child := by
            intro state child member under
            rw [base.same ptr live] at member container
            rw [← inside_eq live container] at member
            have up := upward_of_inside kept member
            apply ih under (upward_live up)
            · intro node above
              rw [Finset.mem_erase]
              refine ⟨?_, reach node (above.snoc up)⟩
              rintro rfl
              exact kept.tidy.apart member above
            · exact Nat.lt_of_lt_of_le fewer (Nat.le_of_lt_succ enough)
            · exact Nat.lt_of_lt_of_le fewer (Nat.le_of_lt_succ enough')
          split
          · rfl
          · congr 1
            apply foldlM_agree (Old start.next start)
            · intro state child member under
              rw [same state child member under]
            · intro state child after member under step
              rw [bind_eq_bind, bind_eq_some_iff] at step
              obtain ⟨cloned, copying, step⟩ := step
              rw [Option.pure_def, some.injEq] at step
              have longer := under.trans ((cloneThing_old copying).lower under.after)
              rw [← step]
              constructor
              · intro other early
                have notShell : other ≠ game.next := Nat.ne_of_lt (Nat.lt_of_lt_of_le early base.after)
                have notRoot : other ≠ state.next := Nat.ne_of_lt (Nat.lt_of_lt_of_le early under.after)
                rw [containerAddItem, setItem_other _ _ notRoot, setItem_other _ _ notShell, longer.same other early]
              · exact Nat.le_refl _
              · exact longer.after
            · constructor
              · intro other early
                rw [born.old other (Nat.ne_of_lt (Nat.lt_of_lt_of_le early base.after)), base.same other early]
              · exact Nat.le_refl _
              · rw [born.next]
                exact Nat.le_succ_of_le base.after
        · simp only [container, Bool.not_false, if_true]

end

/-- All containers are empty and nothing is in an item; a count is a `uint8_t`. -/
structure Emptied (game : Game) : Prop where
  empty : ∀ ptr, ptr < game.next → (game.items ptr).isContainer = true →
    (game.items ptr).itemlist = [] ∧ (game.items ptr).totalWeight = 0
  loose : ∀ ptr holder, ptr < game.next → (game.items ptr).parent ≠ some (.item holder)
  counts : ∀ ptr, ptr < game.next → (game.items ptr).count < 256

/-- The operation is done on a container, and what it adds is in no container and is neither this container nor one
above it. -/
structure Allowed (game : Game) (op : ContainerOp) : Prop where
  live : op.container < game.next
  isContainer : (game.items op.container).isContainer = true
  added : ∀ ptr, op.added = some ptr → ptr < game.next ∧ game.getParentContainer ptr = none ∧
    ¬ Rollup.Above game.getParentContainer op.container ptr

/-- The operations of containers, from empty containers on. -/
def containerSystem (items : ItemTypes) : System Game ContainerOp where
  init := Emptied
  step game op after := game.Allowed op ∧ ∃ env : Env, env.items = items ∧ op.run env game = some after

theorem Emptied.kept {game : Game} (emptied : Emptied game) (items : ItemTypes) : WeightKept items game := by
  have inside : ∀ node, game.inside node = [] := by
    intro node
    rw [Game.inside]
    split
    · next there => exact (emptied.empty node there.1 there.2).1
    · rfl
  have upward : ∀ node, game.upward node = none := by
    intro node
    rw [Game.upward]
    split
    · next live =>
      rw [getParentContainer_eq]
      cases parent : (game.items node).parent with
      | none => rfl
      | some cylinder =>
        cases cylinder with
        | player id => rfl
        | tile pos => rfl
        | item holder => exact absurd parent (emptied.loose node holder live)
    · rfl
  constructor
  · constructor
    · intro node child
      refine iff_of_false ?_ ?_
      · change child ∉ game.inside node
        rw [inside]
        exact List.not_mem_nil
      · intro link
        have none := upward child
        rw [show game.upward child = some node from link] at none
        cases none
    · intro node
      change (game.inside node).Nodup
      rw [inside]
      exact List.nodup_nil
    · intro node
      constructor
      intro parent link
      have none := upward node
      rw [show game.upward node = some parent from link] at none
      cases none
  · intro node
    change (game.rollup items).cache node = ((game.inside node).map _).sum
    rw [inside]
    simp only [rollup]
    split
    · next there => rw [(emptied.empty node there.1 there.2).2, Nat.cast_zero]; rfl
    · rfl
  · exact emptied.counts
  · intro ptr holder live parent
    exact absurd parent (emptied.loose ptr holder live)

theorem WeightKept.run {env : Env} {game after : Game} {op : ContainerOp} (known : env.items.Reissued)
    (kept : WeightKept env.items game) (allowed : game.Allowed op) (ran : op.run env game = some after) : WeightKept env.items after := by
  have fits : ∀ {ptr}, op.added = some ptr → ptr < game.next ∧ game.upward ptr = none ∧
      ¬ Rollup.Above game.upward op.container ptr := by
    intro ptr added
    obtain ⟨live, free, apart⟩ := allowed.added ptr added
    exact ⟨live, fits_of_added free apart⟩
  obtain ⟨live, isContainer, _⟩ := allowed
  cases op with
  | addThing container index ptr =>
    obtain ⟨there, free, apart⟩ := fits rfl
    exact some.inj ran ▸ kept.containerAddThing live isContainer there free apart index
  | addItemBack container ptr =>
    obtain ⟨there, free, apart⟩ := fits rfl
    exact some.inj ran ▸ kept.containerAddItemBack live isContainer there free apart
  | internalAddThing container ptr =>
    obtain ⟨there, free, apart⟩ := fits rfl
    exact some.inj ran ▸ kept.putFront live isContainer there free apart
  | updateThing container ptr itemId count =>
    exact some.inj ran ▸ kept.containerUpdateThing live isContainer itemId count
  | replaceThing container index ptr =>
    obtain ⟨there, free, apart⟩ := fits rfl
    exact some.inj ran ▸ kept.replaced live isContainer there free apart index
  | removeThing container ptr count =>
    exact some.inj ran ▸ kept.containerRemoveThing live isContainer count
  | clone ptr => exact kept.clone known live ran

section
variable {items : ItemTypes}

theorem weightKept_invariant (known : items.Reissued) :
    (containerSystem items).Invariant (fun _ _ => True) (WeightKept items) := by
  constructor
  · intro game emptied
    exact emptied.kept items
  · rintro game op after kept - ⟨allowed, env, rfl, ran⟩
    exact kept.run known allowed ran

/-- Every container keeps the weight of what is in it, in every game that the operations lead to. -/
theorem totalWeight_kept (known : items.Reissued) {game : Game}
    (reached : (containerSystem items).Reachable (fun _ _ => True) game) {container : ItemPtr} (live : container < game.next)
    (isContainer : (game.items container).isContainer = true) : (game.items container).totalWeight ≡
      ((game.items container).itemlist.map (fun child => (game.items child).getWeight items)).sum [MOD 2 ^ 32] := by
  have kept := (weightKept_invariant known).reachable reached
  have sums := kept.summed container
  have children : (game.rollup items).children container = (game.items container).itemlist := inside_eq live isContainer
  have weights : ((game.items container).itemlist.map (game.rollup items).weight) =
      ((game.items container).itemlist.map (fun child => (game.items child).getWeight items)).map Nat.cast := by
    rw [List.map_map]
    apply List.map_congr_left
    intro child member
    rw [← inside_eq live isContainer] at member
    exact weight_rollup game items (upward_live (upward_of_inside kept member))
  rw [children, weights, ← Nat.cast_list_sum] at sums
  simp only [rollup, if_pos (And.intro live isContainer)] at sums
  exact (ZMod.natCast_eq_natCast_iff _ _ _).mp sums

end

theorem Allowed.reached (env : Env) {game after : Game} {op : ContainerOp} (allowed : game.Allowed op)
    (reached : (containerSystem env.items).Reachable (fun _ _ => True) game) (ran : op.run env game = some after) :
    (containerSystem env.items).Reachable (fun _ _ => True) after :=
  reached.step trivial ⟨allowed, env, rfl, ran⟩

/-- A backpack, a bag and fifty coins. -/
def pack : Game where
  items ptr :=
    if ptr = 0 then { id := 1988, kind := .container, maxSize := 20 }
    else if ptr = 1 then { id := 1987, kind := .container, maxSize := 8 }
    else { id := 2148, count := 50 }
  next := 3
  players _ := {}
  tiles _ := none
  trading := { players := fun _ => {}, tradeItems := ∅ }
  toDecayItems := []

/-- The coins have come into the bag, and the bag into the backpack; then twenty coins are taken out. -/
def packed : Game :=
  let env : Env := { items := gameItems }
  ((pack.containerAddThing env 1 0 2).containerAddThing env 0 0 1).containerRemoveThing env 1 2 20

theorem totalWeight_kept_packed : (packed.items 0).totalWeight ≡
    ((packed.items 0).itemlist.map (fun child => (packed.items child).getWeight gameItems)).sum [MOD 2 ^ 32] := by
  have known : gameItems.Reissued := by
    have kept : ∀ it ∈ gameTypes, renamedItem it.id = none := by decide
    have never : ∀ type, renamedItem (gameItems.get type).id = none := by
      intro type
      rcases ItemTypes.ofList_get gameTypes _ _ _ type with same | listed
      · exact (congrArg (fun it : ItemType => renamedItem it.id) same).trans rfl
      · exact kept _ listed
    constructor
    · intro type renamed found
      rw [never] at found
      cases found
    · intro type renamed found
      rw [never] at found
      cases found
  have three : ∀ ptr : Nat, ptr < 3 → ptr = 0 ∨ ptr = 1 ∨ ptr = 2 := by omega
  have begun : (containerSystem gameItems).Reachable (fun _ _ => True) pack := by
    apply System.Reachable.init
    constructor
    · intro ptr live _
      rcases three ptr live with rfl | rfl | rfl <;> exact ⟨rfl, rfl⟩
    · intro ptr holder live
      rcases three ptr live with rfl | rfl | rfl <;> exact nofun
    · intro ptr live
      rcases three ptr live with rfl | rfl | rfl <;> decide
  let env : Env := { items := gameItems }
  have add : ∀ {game : Game} {container ptr : ItemPtr}, (containerSystem gameItems).Reachable (fun _ _ => True) game →
      container < game.next → ptr < game.next → (game.items container).isContainer = true →
        game.getParentContainer container = none → game.getParentContainer ptr = none → ptr ≠ container →
          (containerSystem gameItems).Reachable (fun _ _ => True) (game.containerAddThing env container 0 ptr) := by
    intro game container ptr reached live there isContainer top free different
    have allowed : game.Allowed (.addThing container 0 ptr) := by
      refine ⟨live, isContainer, ?_⟩
      rintro other ⟨⟩
      refine ⟨there, free, ?_⟩
      intro above
      exact different ((Rollup.Above.root_iff top).mp above)
    exact allowed.reached env reached rfl
  have bagged := add begun (show 1 < 3 by decide) (show 2 < 3 by decide) rfl rfl rfl (by decide)
  have nested := add bagged (show 0 < 3 by decide) (show 1 < 3 by decide) rfl rfl rfl (by decide)
  have allowed : ((pack.containerAddThing env 1 0 2).containerAddThing env 0 0 1).Allowed (.removeThing 1 2 20) :=
    ⟨show 1 < 3 by decide, rfl, nofun⟩
  exact totalWeight_kept known (allowed.reached env nested rfl) (show 0 < 3 by decide) rfl

end Styller.Game
