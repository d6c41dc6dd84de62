import Styller.Map.Scan

/-! What the caches keep is what a search would find, as long as nothing foreign is put into them. -/

namespace Styller

open Library List Option

namespace SpectatorCall

/-- The ranges for which the caches are there. -/
def viewport (centerPos : Position) : SpectatorRange := range { spectators := [], centerPos, multifloor := true }

theorem range_eq_viewport {call : SpectatorCall} (cached : call.cached = true) : call.range = viewport call.centerPos := by
  unfold SpectatorCall.cached at cached
  simp only [Bool.and_eq_true, decide_eq_true_eq] at cached
  obtain ⟨⟨⟨⟨minX, maxX⟩, minY⟩, maxY⟩, multifloor⟩ := cached
  have floors : call.floors = SpectatorCall.floors { spectators := [], centerPos := call.centerPos, multifloor := true } := by
    unfold SpectatorCall.floors
    simp only [multifloor]
  calc
    call.range = ⟨call.range.minRangeX, call.range.maxRangeX, call.range.minRangeY, call.range.maxRangeY, call.floors.1,
        call.floors.2⟩ := rfl
    _ = viewport call.centerPos := by
      rw [minX, maxX, minY, maxY, floors]
      rfl

end SpectatorCall

namespace Map

section
variable {getPlayer : CreatureId → Bool} {map next : Map} {call : SpectatorCall}

/-- What a search without the caches would find for a call. -/
def Finds (getPlayer : CreatureId → Bool) (map : Map) (call : SpectatorCall) (creature : CreatureId) : Prop :=
  call.centerPos.z < mapMaxLayers ∧ map.Sought getPlayer call.centerPos call.range call.onlyPlayers creature

/-- The spectators that were there before together with those that a search would find, each of them once. -/
structure Joined (getPlayer : CreatureId → Bool) (map : Map) (call : SpectatorCall) (spectators : List CreatureId) : Prop where
  nodup : spectators.Nodup
  mem : ∀ creature, creature ∈ spectators ↔ creature ∈ call.spectators ∨ map.Finds getPlayer call creature

/-- A list of just the creatures that have the property, each of them once. -/
def Lists (listed : List CreatureId) (property : CreatureId → Prop) : Prop :=
  listed.Nodup ∧ ∀ creature, creature ∈ listed ↔ property creature

/-- What a cache keeps is what a search would find. -/
def Holds (getPlayer : CreatureId → Bool) (map : Map) (cache : SpectatorCache) (onlyPlayers : Bool) : Prop :=
  ∀ centerPos listed, cache centerPos = some listed →
    Lists listed (map.Sought getPlayer centerPos (SpectatorCall.viewport centerPos) onlyPlayers)

structure Coherent (getPlayer : CreatureId → Bool) (map : Map) : Prop where
  spectators : map.Holds getPlayer map.spectatorCache false
  players : map.Holds getPlayer map.playersSpectatorCache true

/-- A cache has what the call asks for, and it is added without duplicates. -/
def merges (map : Map) (call : SpectatorCall) : Bool :=
  call.cached && ((if call.onlyPlayers then map.playersSpectatorCache else map.spectatorCache) call.centerPos).isSome

/-- No cache has it, and the whole vector is kept in one of them. -/
def fills (map : Map) (call : SpectatorCall) : Bool :=
  call.centerPos.z < mapMaxLayers && call.cached && !(map.merges call) && (map.spectatorCache call.centerPos).isNone

/-- No spectator is in the vector twice, or would come to be. -/
def Fair (getPlayer : CreatureId → Bool) (map : Map) (call : SpectatorCall) : Prop :=
  call.spectators.Nodup ∧ (map.merges call = true ∨ ∀ creature ∈ call.spectators, ¬ map.Finds getPlayer call creature)

/-- The vector of a call has no spectator twice, and none at all where the whole of it is kept. -/
def Suits (getPlayer : CreatureId → Bool) (map : Map) : MapOp → Prop
  | .getSpectators call => map.Fair getPlayer call ∧ (map.fills call = true → call.spectators = [])
  | _ => True

theorem finds_of_high (high : mapMaxLayers ≤ call.centerPos.z) : Lists [] (map.Finds getPlayer call) :=
  ⟨nodup_nil, fun _ => iff_of_false not_mem_nil fun found => Nat.not_lt_of_le high found.1⟩

theorem withCached_nil : call.withCached [] = call.spectators := by
  unfold SpectatorCall.withCached
  split
  · next empty => exact (List.isEmpty_iff.mp empty).symm
  · rfl

theorem finds_of_low (low : call.centerPos.z < mapMaxLayers) : map.Finds getPlayer call =
    map.Sought getPlayer call.centerPos call.range call.onlyPlayers := by
  funext creature
  exact propext (and_iff_right low)

/-- The players of those that a search for everybody finds. -/
theorem Lists.players {listed : List CreatureId} {centerPos : Position} {range : SpectatorRange}
    (all : Lists listed (map.Sought getPlayer centerPos range false)) :
    Lists (listed.filter getPlayer) (map.Sought getPlayer centerPos range true) := by
  obtain ⟨nodup, mem⟩ := all
  refine ⟨nodup.filter _, ?_⟩
  intro creature
  rw [mem_filter, mem]
  constructor
  · rintro ⟨⟨pos, stands, within, _⟩, player⟩
    exact ⟨pos, stands, within, fun _ => player⟩
  · rintro ⟨pos, stands, within, player⟩
    exact ⟨⟨pos, stands, within, nofun⟩, player rfl⟩

/-- A call takes what it asks for from a cache, or puts all that it finds behind what is there already. -/
theorem getSpectators_cases (tended : map.Tended getPlayer) (coherent : map.Coherent getPlayer) (call : SpectatorCall) :
    ∃ listed, Lists listed (map.Finds getPlayer call) ∧
      ((map.merges call = true ∧ map.getSpectators getPlayer call = (call.withCached listed, map)) ∨
        (map.merges call = false ∧ map.getSpectators getPlayer call = (call.spectators ++ listed,
          if map.fills call then map.cacheResult call (call.spectators ++ listed) else map))) := by
  by_cases high : mapMaxLayers ≤ call.centerPos.z
  · refine ⟨[], finds_of_high high, ?_⟩
    have filled : map.fills call = false := by
      rw [fills, decide_eq_false (Nat.not_lt_of_le high), Bool.false_and, Bool.false_and, Bool.false_and]
    rw [getSpectators, if_pos high, withCached_nil, append_nil, filled, if_neg Bool.false_ne_true]
    cases map.merges call with
    | true => exact .inl ⟨rfl, rfl⟩
    | false => exact .inr ⟨rfl, rfl⟩
  · have low := Nat.lt_of_not_le high
    rw [finds_of_low low]
    have searched : Lists (map.found call.centerPos call.range call.onlyPlayers)
        (map.Sought getPlayer call.centerPos call.range call.onlyPlayers) := ⟨nodup_found tended, fun _ => mem_found tended⟩
    have internal : ∀ onlyPlayers, map.getSpectatorsInternal call.centerPos call.range onlyPlayers call.spectators =
        call.spectators ++ map.found call.centerPos call.range onlyPlayers :=
      fun _ => getSpectatorsInternal_eq tended.linked call.spectators
    unfold getSpectators
    rw [if_neg high]
    cases cached : call.cached with
    | false =>
      refine ⟨_, searched, .inr ⟨?_, ?_⟩⟩
      · rw [merges, cached, Bool.false_and]
      · simp only [foundCache, fills, cached, Bool.and_false, Bool.false_and, Bool.false_eq_true, ↓reduceIte, internal]
    | true =>
      have ranges := SpectatorCall.range_eq_viewport cached
      cases players : call.onlyPlayers with
      | true =>
        rw [players] at searched
        cases kept : map.playersSpectatorCache call.centerPos with
        | some listed =>
          refine ⟨listed, ?_, .inl ⟨?_, ?_⟩⟩
          · rw [ranges]
            exact coherent.players _ _ kept
          · simp only [merges, cached, players, kept, ↓reduceIte, isSome_some, Bool.and_true]
          · simp only [foundCache, cached, players, kept, ↓reduceIte]
        | none =>
          have merges : map.merges call = false := by
            simp only [merges, cached, players, kept, ↓reduceIte, isSome_none, Bool.and_false]
          cases all : map.spectatorCache call.centerPos with
          | some listed =>
            refine ⟨listed.filter getPlayer, ?_, .inr ⟨merges, ?_⟩⟩
            · rw [ranges]
              exact (coherent.spectators _ _ all).players
            · simp only [foundCache, fills, cached, players, kept, all, ↓reduceIte, isNone_some, Bool.and_false,
                Bool.false_eq_true]
          | none =>
            refine ⟨_, searched, .inr ⟨merges, ?_⟩⟩
            simp only [foundCache, fills, cached, players, kept, all, ↓reduceIte, isNone_none, Bool.and_true,
              decide_eq_true low, merges, Bool.not_false, internal]
      | false =>
        rw [players] at searched
        cases all : map.spectatorCache call.centerPos with
        | some listed =>
          refine ⟨listed, ?_, .inl ⟨?_, ?_⟩⟩
          · rw [ranges]
            exact coherent.spectators _ _ all
          · simp only [merges, cached, players, all, Bool.false_eq_true, ↓reduceIte, isSome_some, Bool.and_true]
          · simp only [foundCache, cached, players, all, Bool.false_eq_true, ↓reduceIte]
        | none =>
          have merges : map.merges call = false := by
            simp only [merges, cached, players, all, Bool.false_eq_true, ↓reduceIte, isSome_none, Bool.and_false]
          refine ⟨_, searched, .inr ⟨merges, ?_⟩⟩
          simp only [foundCache, fills, cached, players, all, Bool.false_eq_true, ↓reduceIte, isNone_none, Bool.and_true,
            decide_eq_true low, merges, Bool.not_false, internal]

theorem joined_append {listed : List CreatureId} (finds : Lists listed (map.Finds getPlayer call)) :
    map.Joined getPlayer call (call.spectators ++ listed) ↔
      call.spectators.Nodup ∧ ∀ creature ∈ call.spectators, ¬ map.Finds getPlayer call creature := by
  constructor
  · intro joined
    obtain ⟨nodup, _, apart⟩ := nodup_append.mp joined.nodup
    refine ⟨nodup, ?_⟩
    intro creature old found
    exact apart creature old creature ((finds.2 creature).mpr found) rfl
  · rintro ⟨nodup, apart⟩
    constructor
    · rw [nodup_append]
      refine ⟨nodup, finds.1, ?_⟩
      rintro creature old _ new rfl
      exact apart creature old ((finds.2 creature).mp new)
    · intro creature
      rw [mem_append, finds.2]

theorem joined_withCached {listed : List CreatureId} (finds : Lists listed (map.Finds getPlayer call)) :
    map.Joined getPlayer call (call.withCached listed) ↔ call.spectators.Nodup := by
  unfold SpectatorCall.withCached
  split
  · next empty =>
    rw [List.isEmpty_iff] at empty
    refine iff_of_true ⟨finds.1, ?_⟩ (empty ▸ nodup_nil)
    intro creature
    rw [finds.2, empty, or_iff_right not_mem_nil]
  · constructor
    · intro joined
      exact Unordered.nodup_addMissing.mp joined.nodup
    · intro nodup
      refine ⟨Unordered.nodup_addMissing.mpr nodup, ?_⟩
      intro creature
      rw [Unordered.mem_addMissing, finds.2]

theorem Sought.congr_position (same : next.position = map.position) : next.Sought getPlayer = map.Sought getPlayer := by
  unfold Sought
  rw [same]

theorem coherent_empty : Coherent getPlayer {} where
  spectators := by
    intro centerPos listed kept
    cases kept
  players := by
    intro centerPos listed kept
    cases kept

theorem Turned.sought {creature : CreatureId} {target : Option Position} (turned : map.Turned getPlayer creature target next)
    (monster : ¬ getPlayer creature = true) (centerPos : Position) (range : SpectatorRange) (other : CreatureId) :
    next.Sought getPlayer centerPos range true other ↔ map.Sought getPlayer centerPos range true other := by
  unfold Sought
  constructor
  · rintro ⟨pos, stands, within, player⟩
    have different : other ≠ creature := by
      rintro rfl
      exact monster (player rfl)
    rw [turned.position, if_neg different] at stands
    exact ⟨pos, stands, within, player⟩
  · rintro ⟨pos, stands, within, player⟩
    have different : other ≠ creature := by
      rintro rfl
      exact monster (player rfl)
    refine ⟨pos, ?_, within, player⟩
    rw [turned.position, if_neg different]
    exact stands

/-- A creature that comes or goes leaves no cache that knows of it. -/
theorem Turned.coherent {creature : CreatureId} {target : Option Position} (turned : map.Turned getPlayer creature target next)
    (coherent : map.Coherent getPlayer) : next.Coherent getPlayer where
  spectators := by
    intro centerPos listed kept
    rw [turned.spectatorCache] at kept
    cases kept
  players := by
    intro centerPos listed kept
    rw [turned.playersSpectatorCache] at kept
    split at kept
    · cases kept
    · next monster =>
      obtain ⟨nodup, mem⟩ := coherent.players centerPos listed kept
      exact ⟨nodup, fun other => (mem other).trans (turned.sought monster ..).symm⟩

theorem Extended.coherent (extended : map.Extended next) (coherent : map.Coherent getPlayer) : next.Coherent getPlayer where
  spectators := by
    unfold Holds
    rw [extended.spectatorCache, Sought.congr_position extended.position]
    exact coherent.spectators
  players := by
    unfold Holds
    rw [extended.playersSpectatorCache, Sought.congr_position extended.position]
    exact coherent.players

/-- What is kept of a search that began with an empty vector. -/
theorem Coherent.cacheResult (coherent : map.Coherent getPlayer) (fills : map.fills call = true) {listed : List CreatureId}
    (finds : Lists listed (map.Finds getPlayer call)) : (map.cacheResult call listed).Coherent getPlayer := by
  unfold Map.fills at fills
  simp only [Bool.and_eq_true, decide_eq_true_eq] at fills
  obtain ⟨⟨⟨low, cached⟩, _⟩, _⟩ := fills
  rw [finds_of_low low, SpectatorCall.range_eq_viewport cached] at finds
  have update : ∀ {cache : SpectatorCache} {onlyPlayers : Bool}, call.onlyPlayers = onlyPlayers →
      map.Holds getPlayer cache onlyPlayers →
        map.Holds getPlayer (Function.update cache call.centerPos (some listed)) onlyPlayers := by
    intro cache onlyPlayers players holds centerPos kept found
    by_cases here : centerPos = call.centerPos
    · subst here
      rw [Function.update_self, some.injEq] at found
      rw [← found, ← players]
      exact finds
    · rw [Function.update_of_ne here] at found
      exact holds centerPos kept found
  unfold Map.cacheResult
  split
  · next players => exact ⟨coherent.spectators, update players coherent.players⟩
  · next all => exact ⟨update (eq_false_of_ne_true all) coherent.spectators, coherent.players⟩

/-- A call is answered right just if no spectator is, or comes to be, in its vector twice. -/
theorem joined_iff_fair (tended : map.Tended getPlayer) (coherent : map.Coherent getPlayer) (call : SpectatorCall) :
    map.Joined getPlayer call (map.getSpectators getPlayer call).1 ↔ map.Fair getPlayer call := by
  obtain ⟨listed, finds, ⟨merges, answer⟩ | ⟨appends, answer⟩⟩ := getSpectators_cases tended coherent call
  · rw [answer, Fair, merges]
    simp only [true_or, and_true]
    exact joined_withCached finds
  · rw [answer, Fair, appends]
    simp only [Bool.false_eq_true, false_or]
    exact joined_append finds

theorem Coherent.step (coherent : map.Coherent getPlayer) (tended : map.Tended getPlayer) {op : MapOp}
    (suits : map.Suits getPlayer op) (ran : map.step getPlayer op = some next) : next.Coherent getPlayer := by
  cases op with
  | setTile pos =>
    rw [Map.step, ite_none_right_eq_some] at ran
    obtain ⟨_, ⟨⟩⟩ := ran
    exact (tended.linked.extended_setTile pos).coherent coherent
  | placeCreature creature dest =>
    obtain ⟨_, _, _, turned, _⟩ := placeCreature_cases ran
    exact turned.coherent coherent
  | moveCreature creature newPos =>
    obtain ⟨_, _, _, _, turned, _⟩ := moveCreature_cases ran
    exact turned.coherent coherent
  | removeCreature creature =>
    obtain ⟨_, _, turned, _⟩ := removeCreature_cases ran
    exact turned.coherent coherent
  | getSpectators call =>
    obtain ⟨listed, finds, ⟨merges, answer⟩ | ⟨appends, answer⟩⟩ := getSpectators_cases tended coherent call
    · rw [Map.step, answer] at ran
      cases ran
      exact coherent
    · rw [Map.step, answer] at ran
      cases ran
      simp only
      split
      · next fills =>
        rw [suits.2 fills, nil_append]
        exact coherent.cacheResult fills finds
      · exact coherent

/-- As long as every call suits, a call is answered right just if no spectator is, or comes to be, in its vector twice. -/
theorem getSpectators_joins_iff (reached : (system getPlayer).Reachable (Suits getPlayer) map) (call : SpectatorCall) :
    map.Joined getPlayer call (map.getSpectators getPlayer call).1 ↔ map.Fair getPlayer call := by
  have invariant : (system getPlayer).Invariant (Suits getPlayer) fun map => map.Tended getPlayer ∧ map.Coherent getPlayer := by
    constructor
    · rintro map rfl
      exact ⟨tended_empty, coherent_empty⟩
    · rintro map op next ⟨tended, coherent⟩ suits ran
      exact ⟨tended.step ran, coherent.step tended suits ran⟩
  obtain ⟨tended, coherent⟩ := invariant.reachable reached
  exact joined_iff_fair tended coherent call

theorem getSpectators_joins_pair : pairMap.Joined pairPlayers { spectators := [5], centerPos := ⟨7, 7, 7⟩, multifloor := true }
      (pairMap.getSpectators pairPlayers { spectators := [5], centerPos := ⟨7, 7, 7⟩, multifloor := true }).1 ↔
    pairMap.Fair pairPlayers { spectators := [5], centerPos := ⟨7, 7, 7⟩, multifloor := true } := by
  apply getSpectators_joins_iff
  apply reachable_pair
  intro map op listed
  simp only [pairOps, mem_cons, not_mem_nil, or_false] at listed
  rcases listed with rfl | rfl | rfl | rfl
  all_goals trivial

/-- A spectator that is in the vector is found again. -/
theorem pair_not_joined : ¬ ∀ map, (system pairPlayers).Reachable (fun _ _ => True) map →
    ∀ call, map.Joined pairPlayers call (map.getSpectators pairPlayers call).1 := by
  intro joins
  have twice := (joins pairMap (reachable_pair fun _ _ _ => trivial) { spectators := [1], centerPos := ⟨7, 7, 7⟩ }).nodup
  revert twice
  decide +kernel

end

end Map

end Styller
