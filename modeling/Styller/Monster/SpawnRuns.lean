import Styller.Monster.Spawn

/-! The runs of a spawn in which every check fills the ids or is followed by another one. -/

namespace Styller.Spawn

open Library List

section
variable {spawn other : Spawn}

/-- The ids that are not zero, once for each monster. -/
def taken (spawn : Spawn) : List Nat := (spawn.spawnedMap.map (·.1)).filter (· ≠ 0)

/-- The monsters under zero. -/
def loose (spawn : Spawn) : Nat := spawn.spawnedMap.countP (·.1 = 0)

def ids (spawn : Spawn) : List Nat := spawn.spawnMap.map (·.1)

/-- The ids of a spawn are different, and each has at most one monster. -/
structure Wf (spawn : Spawn) : Prop where
  distinct : spawn.ids.Nodup
  nonzero : ∀ id ∈ spawn.ids, id ≠ 0
  unique : spawn.taken.Nodup
  known : ∀ id ∈ spawn.taken, id ∈ spawn.ids

theorem Wf.congr (wf : spawn.Wf) (ids : other.ids = spawn.ids) (taken : other.taken.Perm spawn.taken) : other.Wf where
  distinct := by rw [ids]; exact wf.distinct
  nonzero := by rw [ids]; exact wf.nonzero
  unique := taken.nodup_iff.mpr wf.unique
  known := by
    intro id listed
    rw [ids]
    exact wf.known id (taken.mem_iff.mp listed)

theorem taken_perm {entries : List (Nat × MonsterPtr)} (same : spawn.spawnedMap.Perm entries) :
    spawn.taken.Perm ((entries.map (·.1)).filter (· ≠ 0)) := (same.map _).filter _

theorem length_spawnedMap (spawn : Spawn) : spawn.spawnedMap.length = spawn.taken.length + spawn.loose := by
  unfold taken loose
  induction spawn.spawnedMap with
  | nil => rfl
  | cons entry rest ih =>
    by_cases zero : entry.1 = 0
    · simp [zero] at ih ⊢
      omega
    · simp [zero] at ih ⊢
      omega

theorem isRegistered_iff {id : Nat} (nonzero : id ≠ 0) : spawn.isRegistered id = true ↔ id ∈ spawn.taken := by
  simp [isRegistered, taken, nonzero, mem_filter]

/-- As many ids are registered as there are monsters under an id. -/
theorem countP_isRegistered (wf : spawn.Wf) :
    (spawn.spawnMap.filter fun entry => spawn.isRegistered entry.1).length = spawn.taken.length := by
  have found : ((spawn.spawnMap.filter fun entry => spawn.isRegistered entry.1).map (·.1)).Perm spawn.taken := by
    apply (perm_ext_iff_of_nodup (wf.distinct.sublist (filter_sublist.map _)) wf.unique).mpr
    intro id
    constructor
    · intro listed
      obtain ⟨entry, member, rfl⟩ := mem_map.mp listed
      obtain ⟨member, registered⟩ := mem_filter.mp member
      exact (isRegistered_iff (wf.nonzero _ (mem_map_of_mem member))).mp registered
    · intro listed
      obtain ⟨entry, member, rfl⟩ := mem_map.mp (wf.known id listed)
      have registered := (isRegistered_iff (wf.nonzero _ (mem_map_of_mem member))).mpr listed
      exact mem_map_of_mem (mem_filter.mpr ⟨member, registered⟩)
  rw [← found.length_eq, length_map]

/-- The ids without a monster, and the monsters under an id. -/
theorem length_spawnMap (wf : spawn.Wf) :
    spawn.spawnMap.length = spawn.taken.length + (spawn.spawnMap.filter fun entry => !spawn.isRegistered entry.1).length := by
  rw [← countP_isRegistered wf, ← length_eq_length_filter_add]

theorem full_iff (wf : spawn.Wf) : spawn.Full ↔ spawn.taken.length = spawn.spawnMap.length := by
  rw [← countP_isRegistered wf, length_filter_eq_length_iff]
  rfl

end

section
variable {spawn : Spawn}

theorem insert_perm (entry : Nat × MonsterPtr) : (spawn.insert entry).spawnedMap.Perm (entry :: spawn.spawnedMap) := by
  unfold insert
  refine perm_middle.trans ?_
  rw [takeWhile_append_dropWhile]

theorem ids_setLastSpawn (id : Nat) (now : Int) : (spawn.setLastSpawn id now).ids = spawn.ids := by
  unfold ids setLastSpawn
  rw [map_map]
  apply map_congr_left
  intro entry _
  simp only [Function.comp_apply]
  split <;> rfl

theorem ids_register (id : Nat) (pos : Position) (now : Int) : (spawn.register id pos now).ids = spawn.ids :=
  ids_setLastSpawn id now

theorem register_perm (id : Nat) (pos : Position) (now : Int) :
    (spawn.register id pos now).spawnedMap.Perm ((id, spawn.placed) :: spawn.spawnedMap) :=
  insert_perm _

end

section
variable {spawn : Spawn} {now : Int}

/-- What `cleanup` makes of an entry. -/
def rehome (spawn : Spawn) (entry : Nat × MonsterPtr) : Option (Nat × MonsterPtr) :=
  if spawn.isRemoved entry then none
  else if !spawn.isInSpawnZone entry && entry.1 ≠ 0 then some (0, entry.2)
  else some entry

theorem cleanupEntry_rehome (entry : Nat × MonsterPtr) : (cleanupEntry now spawn entry).rehome = spawn.rehome := by
  unfold cleanupEntry
  split
  · split <;> rfl
  · split <;> rfl

theorem cleanupEntry_isRemoved (entry : Nat × MonsterPtr) : (cleanupEntry now spawn entry).isRemoved = spawn.isRemoved := by
  unfold cleanupEntry
  split
  · split <;> rfl
  · split <;> rfl

theorem cleanupEntry_perm {entry : Nat × MonsterPtr} {rest : List (Nat × MonsterPtr)}
    (listed : spawn.spawnedMap.Perm (entry :: rest)) :
    (cleanupEntry now spawn entry).spawnedMap.Perm ((spawn.rehome entry).toList ++ rest) := by
  unfold cleanupEntry rehome
  split
  · have erased : (spawn.spawnedMap.erase entry).Perm rest := by
      have without := listed.erase entry
      rwa [erase_cons_head] at without
    split <;> exact erased
  · split
    next moved =>
      have other : (0, entry.2) ≠ entry := by
        intro same
        have zero : entry.1 = 0 := by rw [← same]
        simp [zero] at moved
      have without := ((@insert_perm spawn (0, entry.2)).trans (listed.cons _)).erase entry
      rwa [erase_cons_tail (by simpa using other), erase_cons_head] at without
    · exact listed

/-- The entries that `cleanup` leaves. -/
theorem foldl_cleanup_perm (rest done : List (Nat × MonsterPtr)) (spawn : Spawn)
    (listed : spawn.spawnedMap.Perm (done ++ rest)) :
    (rest.foldl (cleanupEntry now) spawn).spawnedMap.Perm (done ++ rest.filterMap spawn.rehome) := by
  induction rest generalizing done spawn with
  | nil => exact listed
  | cons entry rest ih =>
    have here : (cleanupEntry now spawn entry).spawnedMap.Perm ((done ++ (spawn.rehome entry).toList) ++ rest) := by
      refine (cleanupEntry_perm (listed.trans perm_middle)).trans ?_
      rw [append_assoc]
      exact (perm_append_comm_assoc _ _ _)
    have later := ih _ _ here
    rw [cleanupEntry_rehome, append_assoc] at later
    rw [foldl_cons, filterMap_cons]
    cases made : spawn.rehome entry with
    | none => simpa [made] using later
    | some moved => simpa [made] using later

theorem cleanup_perm : (spawn.cleanup now).spawnedMap.Perm (spawn.spawnedMap.filterMap spawn.rehome) :=
  foldl_cleanup_perm spawn.spawnedMap [] spawn (.refl _)

theorem cleanupEntry_spawnMap (entry : Nat × MonsterPtr) (nonzero : ∀ id ∈ spawn.ids, id ≠ 0) :
    (cleanupEntry now spawn entry).spawnMap = spawn.spawnMap.map fun block =>
      if spawn.isRemoved entry && entry.1 = block.1 then (block.1, { block.2 with lastSpawn := now }) else block := by
  unfold cleanupEntry
  split
  next removed =>
    split
    · simp only [removed, Bool.true_and, erase, setLastSpawn, decide_eq_true_eq, @eq_comm Nat entry.1]
    next zero =>
      have none : ∀ block ∈ spawn.spawnMap, ¬ entry.1 = block.1 := by
        intro block listed same
        exact nonzero block.1 (mem_map_of_mem listed) (same ▸ not_not.mp zero)
      simp only [removed, Bool.true_and, erase, decide_eq_true_eq]
      symm
      refine (map_congr_left fun block listed => if_neg (none block listed)).trans (map_id' _)
  next alive =>
    have stays : ∀ block : Nat × SpawnBlock, (if spawn.isRemoved entry && entry.1 = block.1 then
        (block.1, { block.2 with lastSpawn := now }) else block) = block := by
      intro block
      simp [alive]
    simp only [stays, map_id']
    split <;> rfl

theorem foldl_cleanup_spawnMap (rest : List (Nat × MonsterPtr)) (spawn : Spawn) (nonzero : ∀ id ∈ spawn.ids, id ≠ 0) :
    (rest.foldl (cleanupEntry now) spawn).spawnMap = spawn.spawnMap.map fun block =>
      if rest.any (fun entry => spawn.isRemoved entry && entry.1 = block.1) then
        (block.1, { block.2 with lastSpawn := now })
      else block := by
  induction rest generalizing spawn with
  | nil => simp
  | cons entry rest ih =>
    have first := @cleanupEntry_spawnMap spawn now entry nonzero
    have kept : (cleanupEntry now spawn entry).ids = spawn.ids := by
      rw [ids, first, map_map]
      apply map_congr_left
      intro block _
      simp only [Function.comp_apply]
      split <;> rfl
    rw [foldl_cons, ih _ (by rw [kept]; exact nonzero), first, map_map, cleanupEntry_isRemoved]
    apply map_congr_left
    intro block _
    simp only [Function.comp_apply, any_cons, Bool.or_eq_true]
    by_cases here : (spawn.isRemoved entry && decide (entry.1 = block.1)) = true
    · simp only [here, if_true, true_or]
      split <;> rfl
    · simp only [here, if_false, false_or, Bool.false_eq_true]

theorem cleanup_spawnMap (nonzero : ∀ id ∈ spawn.ids, id ≠ 0) :
    (spawn.cleanup now).spawnMap = spawn.spawnMap.map fun block => (block.1, { block.2 with lastSpawn := spawn.lastSeen now block }) := by
  rw [cleanup, foldl_cleanup_spawnMap _ _ nonzero]
  apply map_congr_left
  intro block _
  unfold lastSeen
  split <;> rfl

theorem ids_cleanup (nonzero : ∀ id ∈ spawn.ids, id ≠ 0) : (spawn.cleanup now).ids = spawn.ids := by
  rw [ids, cleanup_spawnMap nonzero, map_map]
  rfl

theorem under_rehome (entries : List (Nat × MonsterPtr)) :
    ((entries.filterMap spawn.rehome).map (·.1)).filter (· ≠ 0) = (entries.filter spawn.isHome).map (·.1) := by
  induction entries with
  | nil => rfl
  | cons entry rest ih =>
    rw [filterMap_cons, filter_cons]
    simp only [ne_eq, decide_not] at ih ⊢
    cases removed : spawn.isRemoved entry <;> cases inside : spawn.isInSpawnZone entry <;> by_cases zero : entry.1 = 0 <;>
      simp [rehome, isHome, removed, inside, zero, ih]

/-- The ids that still have their monsters after `cleanup`. -/
theorem taken_cleanup : (spawn.cleanup now).taken.Perm ((spawn.spawnedMap.filter spawn.isHome).map (·.1)) := by
  rw [← under_rehome]
  exact taken_perm cleanup_perm

theorem loose_cleanup : (spawn.cleanup now).loose = spawn.strays := by
  unfold loose strays
  rw [cleanup_perm.countP_eq]
  induction spawn.spawnedMap with
  | nil => rfl
  | cons entry rest ih =>
    rw [filterMap_cons, countP_cons]
    cases removed : spawn.isRemoved entry <;> cases inside : spawn.isInSpawnZone entry <;> by_cases zero : entry.1 = 0 <;>
      simp [rehome, removed, inside, zero, ih]

theorem wf_cleanup (wf : spawn.Wf) : (spawn.cleanup now).Wf := by
  have home : ((spawn.spawnedMap.filter spawn.isHome).map (·.1)).Sublist spawn.taken := by
    have kept : spawn.spawnedMap.filter spawn.isHome =
        (spawn.spawnedMap.filter fun entry => entry.1 ≠ 0).filter spawn.isHome := by
      rw [filter_filter]
      apply filter_congr
      intro entry _
      cases zero : decide (entry.1 ≠ 0) <;> simp_all [isHome]
    have taken : spawn.taken = (spawn.spawnedMap.filter fun entry => entry.1 ≠ 0).map (·.1) := filter_map
    rw [kept, taken]
    exact filter_sublist.map _
  exact {
    distinct := by rw [ids_cleanup wf.nonzero]; exact wf.distinct
    nonzero := by rw [ids_cleanup wf.nonzero]; exact wf.nonzero
    unique := taken_cleanup.nodup_iff.mpr (wf.unique.sublist home)
    known := by
      intro id listed
      rw [ids_cleanup wf.nonzero]
      exact wf.known id (home.subset (taken_cleanup.mem_iff.mp listed)) }

/-- The ids that are found empty are those without a monster at home. -/
theorem isRegistered_cleanup {id : Nat} (nonzero : id ≠ 0) :
    (spawn.cleanup now).isRegistered id = spawn.spawnedMap.any fun monster => spawn.isHome monster && monster.1 = id := by
  apply Bool.eq_iff_iff.mpr
  rw [isRegistered_iff nonzero, taken_cleanup.mem_iff]
  simp [mem_map, mem_filter, and_assoc]

end

section
variable {spawn : Spawn} {rateSpawn : Int} {turns : Nat → SpawnTurn}

def fills (turns : Nat → SpawnTurn) (entry : Nat × SpawnBlock) : Bool :=
  (turns entry.1).now ≥ entry.2.lastSpawn + entry.2.interval && ((turns entry.1).spawnMonster entry.2 false).isSome

/-- The ids that the loop can fill. -/
def fillable (spawn : Spawn) (turns : Nat → SpawnTurn) (entries : List (Nat × SpawnBlock)) : List (Nat × SpawnBlock) :=
  entries.filter fun entry => !spawn.isRegistered entry.1 && fills turns entry

theorem isRegistered_register {id other : Nat} (pos : Position) (now : Int) :
    (spawn.register id pos now).isRegistered other = (decide (id = other) || spawn.isRegistered other) := by
  have found := (@register_perm spawn id pos now).any_eq (f := fun entry => decide (entry.1 = other))
  rw [any_cons] at found
  exact found

theorem fillable_register {id : Nat} (pos : Position) (now : Int) {entries : List (Nat × SpawnBlock)}
    (fresh : id ∉ entries.map (·.1)) : (spawn.register id pos now).fillable turns entries = spawn.fillable turns entries := by
  apply filter_congr
  intro entry listed
  have other : id ≠ entry.1 := fun same => fresh (same ▸ mem_map_of_mem listed)
  rw [isRegistered_register, decide_eq_false other, Bool.false_or]

/-- The loop registers monsters under ids that it can fill, as many as there are, up to the rate. -/
theorem checkLoop_spec (entries : List (Nat × SpawnBlock)) (distinct : (entries.map (·.1)).Nodup) {spawnCount : Nat}
    (room : spawnCount < (max 1 rateSpawn).toNat) (spawn : Spawn) :
    ∃ added : List (Nat × MonsterPtr),
      (checkLoop rateSpawn turns entries spawnCount spawn).spawnedMap.Perm (added ++ spawn.spawnedMap) ∧
        (added.map (·.1)).Sublist ((spawn.fillable turns entries).map (·.1)) ∧
        added.length = min ((max 1 rateSpawn).toNat - spawnCount) (spawn.fillable turns entries).length ∧
        (checkLoop rateSpawn turns entries spawnCount spawn).ids = spawn.ids := by
  induction entries generalizing spawnCount spawn with
  | nil => exact ⟨[], .refl _, .slnil, (Nat.min_zero _).symm, rfl⟩
  | cons entry rest ih =>
    obtain ⟨id, sb⟩ := entry
    rw [map_cons, nodup_cons] at distinct
    obtain ⟨fresh, distinct⟩ := distinct
    have passed : ∀ count, spawn.fillable turns ((id, sb) :: rest) = spawn.fillable turns rest → ∀ after : Spawn,
        after.spawnedMap = spawn.spawnedMap → after.ids = spawn.ids → count < (max 1 rateSpawn).toNat →
        ∃ added : List (Nat × MonsterPtr),
          (checkLoop rateSpawn turns rest count after).spawnedMap.Perm (added ++ spawn.spawnedMap) ∧
            (added.map (·.1)).Sublist ((spawn.fillable turns ((id, sb) :: rest)).map (·.1)) ∧
            added.length = min ((max 1 rateSpawn).toNat - count) (spawn.fillable turns ((id, sb) :: rest)).length ∧
            (checkLoop rateSpawn turns rest count after).ids = spawn.ids := by
      intro count same after entries_same ids_same room
      have registered : after.fillable turns rest = spawn.fillable turns rest := by
        unfold fillable isRegistered
        rw [entries_same]
      have later := ih distinct room after
      rwa [entries_same, ids_same, registered, ← same] at later
    rw [checkLoop]
    by_cases registered : spawn.isRegistered id = true
    · rw [if_pos registered]
      exact passed _ (filter_cons_of_neg (by simp [registered])) spawn rfl rfl room
    rw [if_neg registered]
    by_cases due : (turns id).now ≥ sb.lastSpawn + sb.interval
    · simp only [if_pos due]
      cases place : (turns id).spawnMonster sb false with
      | none =>
        exact passed _ (filter_cons_of_neg (by simp [fills, place])) _ rfl (ids_setLastSpawn _ _) room
      | some pos =>
        have filled : spawn.fillable turns ((id, sb) :: rest) = (id, sb) :: spawn.fillable turns rest :=
          filter_cons_of_pos (by simpa [registered, fills, place] using due)
        rw [filled, map_cons, length_cons]
        dsimp only
        split
        next last =>
          refine ⟨[(id, spawn.placed)], register_perm _ _ _, (nil_sublist _).cons_cons _, ?_, ids_register _ _ _⟩
          rw [length_singleton]
          omega
        next more =>
          obtain ⟨added, entries, sub, length, kept⟩ := @ih distinct (spawnCount + 1) (by omega)
            (spawn.register id pos (turns id).now)
          rw [fillable_register _ _ fresh] at sub length
          refine ⟨(id, spawn.placed) :: added, ?_, sub.cons_cons _, ?_, kept.trans (ids_register _ _ _)⟩
          · exact entries.trans ((register_perm _ _ _).append_left added |>.trans perm_middle)
          · rw [length_cons, length]
            omega
    · rw [if_neg due]
      exact passed _ (filter_cons_of_neg (by simpa [fills] using fun _ late => absurd late due)) spawn rfl rfl room

end

section
variable {spawn : Spawn} {rateSpawn now : Int} {turns : Nat → SpawnTurn}

/-- The loop keeps one monster for each id, and adds as many as the rate allows. -/
theorem checkLoop_wf (wf : spawn.Wf) :
    (checkLoop rateSpawn turns spawn.spawnMap 0 spawn).Wf ∧
      (checkLoop rateSpawn turns spawn.spawnMap 0 spawn).ids = spawn.ids ∧
      (checkLoop rateSpawn turns spawn.spawnMap 0 spawn).loose = spawn.loose ∧
      (checkLoop rateSpawn turns spawn.spawnMap 0 spawn).taken.length =
        spawn.taken.length + min (max 1 rateSpawn).toNat (spawn.fillable turns spawn.spawnMap).length := by
  obtain ⟨added, entries, sub, length, kept⟩ := @checkLoop_spec rateSpawn turns spawn.spawnMap wf.distinct 0 (by omega) spawn
  have listed : ∀ id ∈ added.map (·.1), id ∈ spawn.ids ∧ id ∉ spawn.taken := by
    intro id member
    obtain ⟨entry, found, rfl⟩ := mem_map.mp (sub.subset member)
    obtain ⟨found, free⟩ := mem_filter.mp found
    have here : entry.1 ∈ spawn.ids := mem_map_of_mem found
    refine ⟨here, fun registered => ?_⟩
    rw [(isRegistered_iff (wf.nonzero _ here)).mpr registered] at free
    cases free
  have nonzero : (added.map (·.1)).filter (· ≠ 0) = added.map (·.1) :=
    filter_eq_self.mpr fun id member => decide_eq_true (wf.nonzero id (listed id member).1)
  have taken : (checkLoop rateSpawn turns spawn.spawnMap 0 spawn).taken.Perm (added.map (·.1) ++ spawn.taken) := by
    have all := taken_perm entries
    rwa [map_append, filter_append, nonzero] at all
  refine ⟨?_, kept, ?_, ?_⟩
  · exact {
      distinct := by rw [kept]; exact wf.distinct
      nonzero := by rw [kept]; exact wf.nonzero
      unique := by
        refine taken.nodup_iff.mpr (nodup_append.mpr ⟨?_, wf.unique, ?_⟩)
        · exact (wf.distinct.sublist (filter_sublist.map _)).sublist sub
        · rintro id member other old rfl
          exact (listed id member).2 old
      known := by
        intro id member
        rw [kept]
        rcases mem_append.mp (taken.mem_iff.mp member) with new | old
        · exact (listed id new).1
        · exact wf.known id old }
  · have none : added.countP (·.1 = 0) = 0 := by
      rw [countP_eq_zero]
      intro entry member
      simpa using wf.nonzero entry.1 (listed entry.1 (mem_map_of_mem member)).1
    rw [loose, entries.countP_eq, countP_append, none, Nat.zero_add]
    rfl
  · rw [taken.length_eq, length_append, length_map, length, Nat.sub_zero]
    omega

theorem vacant_length (wf : spawn.Wf) :
    ((spawn.cleanup now).spawnMap.filter fun entry => !(spawn.cleanup now).isRegistered entry.1).length = spawn.vacant.length := by
  rw [cleanup_spawnMap wf.nonzero, filter_map, length_map, vacant]
  congr 1
  apply filter_congr
  intro entry listed
  simp only [Function.comp_apply, isRegistered_cleanup (wf.nonzero _ (mem_map_of_mem listed))]

theorem fillable_length (wf : spawn.Wf) :
    ((spawn.cleanup now).fillable turns (spawn.cleanup now).spawnMap).length = spawn.vacant.countP (spawn.canFill now turns) := by
  rw [fillable, cleanup_spawnMap wf.nonzero, filter_map, length_map, countP_eq_length_filter, vacant, filter_filter]
  congr 1
  apply filter_congr
  intro entry listed
  simp only [Function.comp_apply, isRegistered_cleanup (wf.nonzero _ (mem_map_of_mem listed))]
  exact Bool.and_comm _ _

/-- What is left empty and what strays, after the loop of a check. -/
theorem filled_length (wf : spawn.Wf) :
    (checkLoop rateSpawn turns (spawn.cleanup now).spawnMap 0 (spawn.cleanup now)).Wf ∧
      (checkLoop rateSpawn turns (spawn.cleanup now).spawnMap 0 (spawn.cleanup now)).loose = spawn.strays ∧
      (checkLoop rateSpawn turns (spawn.cleanup now).spawnMap 0 (spawn.cleanup now)).taken.length +
          spawn.missing rateSpawn now turns =
        (checkLoop rateSpawn turns (spawn.cleanup now).spawnMap 0 (spawn.cleanup now)).spawnMap.length := by
  obtain ⟨filled, ids_same, loose_same, added⟩ := @checkLoop_wf (spawn.cleanup now) rateSpawn turns (wf_cleanup wf)
  refine ⟨filled, loose_same.trans loose_cleanup, ?_⟩
  have blocks : (checkLoop rateSpawn turns (spawn.cleanup now).spawnMap 0 (spawn.cleanup now)).spawnMap.length =
      (spawn.cleanup now).spawnMap.length := by
    have lengths := congrArg List.length ids_same
    simpa only [ids, length_map] using lengths
  have parts := length_spawnMap (@wf_cleanup spawn now wf)
  rw [vacant_length wf] at parts
  rw [fillable_length wf] at added
  have few : spawn.vacant.countP (spawn.canFill now turns) ≤ spawn.vacant.length := countP_le_length
  unfold missing
  omega

theorem cleanup_checkSpawnEvent : (spawn.cleanup now).checkSpawnEvent = spawn.checkSpawnEvent := by
  rw [cleanup]
  generalize spawn.spawnedMap = entries
  induction entries generalizing spawn with
  | nil => rfl
  | cons entry rest ih =>
    rw [foldl_cons, ih]
    unfold cleanupEntry
    split
    · split <;> rfl
    · split <;> rfl

theorem checkLoop_checkSpawnEvent (entries : List (Nat × SpawnBlock)) (spawnCount : Nat) (spawn : Spawn) :
    (checkLoop rateSpawn turns entries spawnCount spawn).checkSpawnEvent = spawn.checkSpawnEvent := by
  induction entries generalizing spawnCount spawn with
  | nil => rfl
  | cons entry rest ih =>
    rw [checkLoop]
    split
    · exact ih _ _
    dsimp only
    split
    · split
      · exact ih _ _
      · split
        · rfl
        · exact ih _ _
    · exact ih _ _

/-- A check leaves the spawn right, just where it fills every id, or fewer monsters stray than ids are left empty. -/
theorem right_check (wf : spawn.Wf) :
    (spawn.checkSpawn rateSpawn now turns).Wf ∧
      ((spawn.checkSpawn rateSpawn now turns).Full ∨ (spawn.checkSpawn rateSpawn now turns).checkSpawnEvent = true ↔
        spawn.missing rateSpawn now turns = 0 ∨ spawn.strays < spawn.missing rateSpawn now turns) := by
  have unscheduled : ({ spawn with checkSpawnEvent := false } : Spawn).Wf := wf.congr rfl (.refl _)
  obtain ⟨filled, loose, blocks⟩ := @filled_length _ rateSpawn now turns unscheduled
  have event := @checkLoop_checkSpawnEvent rateSpawn turns (({ spawn with checkSpawnEvent := false } : Spawn).cleanup now).spawnMap
    0 (({ spawn with checkSpawnEvent := false } : Spawn).cleanup now)
  rw [cleanup_checkSpawnEvent] at event
  unfold checkSpawn
  dsimp only
  generalize checkLoop rateSpawn turns (({ spawn with checkSpawnEvent := false } : Spawn).cleanup now).spawnMap 0
    (({ spawn with checkSpawnEvent := false } : Spawn).cleanup now) = after at *
  have strays : after.loose = spawn.strays := loose
  have missing : after.taken.length + spawn.missing rateSpawn now turns = after.spawnMap.length := blocks
  have entries := length_spawnedMap after
  split
  next scheduled =>
    refine ⟨filled.congr rfl (.refl _), iff_of_true (.inr rfl) (.inr ?_)⟩
    omega
  next settled =>
    refine ⟨filled, ?_⟩
    rw [full_iff filled, event]
    simp only [Bool.false_eq_true, or_false]
    constructor
    · intro full
      exact .inl (by omega)
    · rintro (none | fewer)
      · omega
      · omega

end

section
variable {spawn : Spawn}

theorem wf_step (wf : spawn.Wf) (step : Step) : (spawn.step step).Wf := by
  cases step with
  | check rateSpawn now turns =>
    rw [Spawn.step]
    split
    · exact (right_check wf).1
    · exact wf
  | remove ptr handled =>
    rw [Spawn.step]
    dsimp only
    split <;> exact wf.congr rfl (.refl _)
  | walk ptr pos => exact wf.congr rfl (.refl _)

theorem right_iff (wf : spawn.Wf) (step : Step) : spawn.Right step ↔ spawn.Allowed step := by
  cases step with
  | check rateSpawn now turns =>
    obtain ⟨after, scheduled⟩ := @right_check spawn rateSpawn now turns wf
    exact forall_congr' fun _ => (and_iff_left after.unique).trans scheduled
  | remove ptr handled => exact Iff.rfl
  | walk ptr pos => exact Iff.rfl

theorem wf_register (wf : spawn.Wf) {id : Nat} (known : id ∈ spawn.ids) (free : spawn.isRegistered id = false) (pos : Position)
    (now : Int) : (spawn.register id pos now).Wf := by
  have nonzero := wf.nonzero id known
  have taken : (spawn.register id pos now).taken.Perm (id :: spawn.taken) := by
    have all := taken_perm (@register_perm spawn id pos now)
    rwa [map_cons, filter_cons_of_pos (by simpa using nonzero)] at all
  exact {
    distinct := by rw [ids_register]; exact wf.distinct
    nonzero := by rw [ids_register]; exact wf.nonzero
    unique := by
      refine taken.nodup_iff.mpr (nodup_cons.mpr ⟨fun listed => ?_, wf.unique⟩)
      rw [(isRegistered_iff nonzero).mpr listed] at free
      cases free
    known := by
      intro other member
      rw [ids_register]
      rcases mem_cons.mp (taken.mem_iff.mp member) with rfl | old
      · exact known
      · exact wf.known other old }

/-- At the start every id gets at most one monster. -/
theorem wf_startup (turns : Nat → SpawnTurn) (wf : spawn.Wf) (empty : spawn.spawnedMap = []) : (spawn.startup turns).Wf := by
  have along : ∀ (fill : Spawn → Nat × SpawnBlock → Spawn), (∀ spawn entry, fill spawn entry = spawn ∨
      ∃ pos, fill spawn entry = spawn.register entry.1 pos (turns entry.1).now) →
      ∀ (entries : List (Nat × SpawnBlock)) (spawn : Spawn), (entries.map (·.1)).Nodup → spawn.Wf →
        (∀ entry ∈ entries, entry.1 ∈ spawn.ids ∧ spawn.isRegistered entry.1 = false) → (entries.foldl fill spawn).Wf := by
    intro fill fills entries
    induction entries with
    | nil => exact fun _ _ wf _ => wf
    | cons entry rest ih =>
      intro spawn distinct wf free
      rw [map_cons, nodup_cons] at distinct
      obtain ⟨known, unregistered⟩ := free entry mem_cons_self
      rw [foldl_cons]
      rcases fills spawn entry with same | ⟨pos, same⟩
      · rw [same]
        exact ih _ distinct.2 wf fun other listed => free other (mem_cons_of_mem _ listed)
      · rw [same]
        apply ih _ distinct.2 (wf_register wf known unregistered _ _)
        intro other listed
        have later := free other (mem_cons_of_mem _ listed)
        have apart : entry.1 ≠ other.1 := fun same => distinct.1 (same ▸ mem_map_of_mem listed)
        rw [ids_register, isRegistered_register, decide_eq_false apart, later.2]
        exact ⟨later.1, rfl⟩
  apply along _ ?_ spawn.spawnMap spawn wf.distinct wf
  · intro entry listed
    refine ⟨mem_map_of_mem listed, ?_⟩
    rw [isRegistered, empty]
    rfl
  · intro spawn entry
    cases (turns entry.1).spawnMonster entry.2 true with
    | none => exact .inl rfl
    | some pos => exact .inr ⟨pos, rfl⟩

/-- The ids of some blocks are counted from one. -/
theorem ids_addBlocks (blocks : List SpawnBlock) (spawn : Spawn) :
    (blocks.foldl addBlock spawn).ids = spawn.ids ++ List.range' (spawn.spawnMap.length + 1) blocks.length ∧
      (blocks.foldl addBlock spawn).spawnedMap = spawn.spawnedMap := by
  induction blocks generalizing spawn with
  | nil => simp
  | cons sb rest ih =>
    obtain ⟨ids_same, entries⟩ := ih (spawn.addBlock sb)
    refine ⟨?_, entries⟩
    rw [foldl_cons, ids_same, length_cons, range'_succ]
    simp [addBlock, ids]

theorem wf_started (centerPos : Position) (radius : Int) (blocks : List SpawnBlock) (turns : Nat → SpawnTurn) :
    (started centerPos radius blocks turns).Wf := by
  obtain ⟨ids_same, entries⟩ := ids_addBlocks blocks { centerPos, radius }
  have none : (blocks.foldl addBlock { centerPos, radius }).taken = [] := by
    rw [taken, entries]
    rfl
  apply wf_startup turns _ entries
  have counted : (blocks.foldl addBlock { centerPos, radius }).ids = List.range' 1 blocks.length := ids_same
  exact {
    distinct := counted ▸ nodup_range'
    nonzero := by
      intro id listed
      rw [counted] at listed
      have := (mem_range'_1.mp listed).1
      omega
    unique := none ▸ .nil
    known := by rw [none]; nofun }

/-- In the runs of a spawn every check leaves it right, just where every check fills every id, or fewer monsters stray than ids
are left empty. -/
theorem throughout_right_iff (centerPos : Position) (radius : Int) (blocks : List SpawnBlock) (turns : Nat → SpawnTurn)
    (steps : List Step) :
    Throughout step Right (started centerPos radius blocks turns) steps ↔
      Throughout step Allowed (started centerPos radius blocks turns) steps :=
  @throughout_iff Spawn Step step Wf Allowed Right (fun _ step wf _ => wf_step wf step) (fun _ step wf => right_iff wf step)
    _ (wf_started centerPos radius blocks turns) steps

/-- A turn at some time, which places a monster. -/
def freeTurn (now : Int) : SpawnTurn where
  now
  findPlayer := false
  roll := fun _ => 50
  place := fun _ => some ⟨100, 100, 7⟩

/-- Of two rats one leaves the zone, and the other one dies. A new rat takes the place of the first one, and the two that live are
as many as the places: the place of the dead one stays empty. -/
theorem two_rats_stall :
    ¬ Throughout step Right
      (started ⟨100, 100, 7⟩ 5
        [{ pos := ⟨100, 100, 7⟩, mTypes := [({}, 100)], interval := 60000 },
         { pos := ⟨101, 100, 7⟩, mTypes := [({}, 100)], interval := 60000 }] fun _ => freeTurn 0)
      [.walk 0 ⟨120, 100, 7⟩, .remove 1 false, .check 1 60000 fun _ => freeTurn 60000] := by
  rintro ⟨-, -, right, -⟩
  rcases (right rfl).1 with full | scheduled
  · exact absurd full (by decide)
  · exact absurd scheduled (by decide)

end

end Styller.Spawn
