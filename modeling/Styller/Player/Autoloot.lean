import Mathlib.Data.List.Nodup

/-! The autoloot list: its cache, the numbered storage slots, and the list that a player has asked for. -/

namespace Styller

open List

structure LootTypes where
  isItem : Nat → Bool
  bounded : ∀ id, isItem id → 0 < id ∧ id < 65536

/-- `ItemType(value):getId()`; a value is read as 32 bits without a sign. -/
def LootTypes.getId (types : LootTypes) (value : Int) : Nat :=
  let id := (value % 4294967296).toNat
  if types.isItem id then id else 0

/-- One player: his premium status, the storage values `Storage.autolootBase + i`, which are nil where
they are not set, and his entry in `autolootCache`. -/
structure Autoloot where
  isPremium : Bool
  storage : Nat → Option Int
  autolootCache : Option (List Nat)

namespace Autoloot

variable (types : LootTypes) (state : Autoloot)

def getPlayerLimit : Nat := if state.isPremium then 20 else 10

/-- The loop of `getPlayerAutolootItems` over the slots from 1 on; `math.max` fails on nil. -/
def readSlots : Nat → Option (List Nat)
  | 0 => some []
  | i + 1 => do
    let items ← readSlots i
    let value ← state.storage (i + 1)
    if types.getId value ≠ 0 then some (items ++ [types.getId value]) else some items

/-- `getPlayerAutolootItems`. It returns the table that is in the cache, and fails where it reads nil. -/
def getPlayerAutolootItems : Option (List Nat × Autoloot) :=
  match state.autolootCache with
  | some itemsCache =>
    if itemsCache.length > state.getPlayerLimit then
      let newCache := itemsCache.take state.getPlayerLimit
      some (newCache, { state with autolootCache := some newCache })
    else some (itemsCache, state)
  | none => (readSlots types state state.getPlayerLimit).map fun items =>
      (items, { state with autolootCache := some items })

/-- `setPlayerAutolootItems` of the table that is in the cache and has been changed there. -/
def setPlayerAutolootItems (items : List Nat) : Autoloot :=
  { state with
    autolootCache := some items
    storage := fun i =>
      if 1 ≤ i ∧ i ≤ state.getPlayerLimit then some ((items[i - 1]?.map Int.ofNat).getD (-1)) else state.storage i }

/-- `for i, id in pairs(items) do table.remove(items, i) end`: the places move while they are
counted. Behind the end there is nothing to remove. -/
def removeEach (items : List Nat) : List Nat :=
  (List.range items.length).foldl (fun items i => items.eraseIdx i) items

/-- What a player says to `!autoloot`, with items that exist. -/
inductive Command where
  | add (itemId : { id // types.isItem id = true })
  | remove (itemId : { id // types.isItem id = true })
  | clear
  | list

/-- A command, if it does not fail. -/
def run (command : Command types) : Option Autoloot := do
  let (items, state) ← getPlayerAutolootItems types state
  match command with
  | .add itemId =>
    if items.length ≥ state.getPlayerLimit then some state
    else if itemId.1 ∈ items then some state
    else some (state.setPlayerAutolootItems (items ++ [itemId.1]))
  | .remove itemId =>
    if itemId.1 ∈ items then some (state.setPlayerAutolootItems (items.erase itemId.1)) else some state
  | .clear => some (state.setPlayerAutolootItems (removeEach items))
  | .list => some state

/-- What happens to a player. The handler of the logout is not registered, so a relog alone changes
nothing; a cache is lost only where the scripts have been loaded anew before the login. -/
inductive Event where
  | command (command : Command types)
  | setPremium (isPremium : Bool)
  | relog (restarted : Bool)

variable {types}

def step (event : Event types) : Autoloot :=
  match event with
  | .command command => (run types state command).getD state
  | .setPremium isPremium => { state with isPremium := isPremium }
  | .relog restarted => if restarted then { state with autolootCache := none } else state

/-! What the player has asked for. -/

/-- The list that a player means to have after a command: what a lower limit cuts off is dropped when
the list is used. -/
def wantedAfter (limit : Nat) (command : Command types) (wanted : List Nat) : List Nat :=
  let kept := wanted.take limit
  match command with
  | .add itemId => if itemId.1 ∈ kept ∨ limit ≤ kept.length then kept else kept ++ [itemId.1]
  | .remove itemId => kept.erase itemId.1
  | .clear => []
  | .list => kept

def Command.writes (limit : Nat) (command : Command types) (wanted : List Nat) : Bool :=
  let kept := wanted.take limit
  match command with
  | .add itemId => itemId.1 ∉ kept && kept.length < limit
  | .remove itemId => itemId.1 ∈ kept
  | .clear => true
  | .list => false

variable (types)

def leftBehind : Bool := (List.range 10).any fun i => (state.storage (i + 11)).any fun value => types.getId value ≠ 0

/-- The state, the list that the player means to have, and whether slots above 10 have been left
behind: a command was used without premium while they held items, and they were not written since. -/
structure Tracked where
  state : Autoloot
  wanted : List Nat
  stale : Bool

variable {types}

def Tracked.step (tracked : Tracked) (event : Event types) : Tracked :=
  let limit := tracked.state.getPlayerLimit
  match event with
  | .command command =>
    { state := tracked.state.step event
      wanted := wantedAfter limit command tracked.wanted
      stale :=
        if tracked.state.isPremium then tracked.stale && !command.writes limit tracked.wanted
        else tracked.stale || leftBehind types tracked.state }
  | _ => { tracked with state := tracked.state.step event }

def Tracked.list (types : LootTypes) (tracked : Tracked) : Option (List Nat) :=
  (getPlayerAutolootItems types tracked.state).map Prod.fst

/-- A player who has no list yet, and whose slots up to his limit are set. -/
structure Fresh (types : LootTypes) (state : Autoloot) : Prop where
  cache : state.autolootCache = none
  empty : ∀ i value, state.storage i = some value → types.getId value = 0
  set : ∀ i, 1 ≤ i → i ≤ state.getPlayerLimit → (state.storage i).isSome

/-- The slots can be read with a limit: they are set, and none has been left behind. -/
def Readable (tracked : Tracked) (isPremium : Bool) : Prop :=
  (∀ i, 1 ≤ i → i ≤ (if isPremium then 20 else 10) → (tracked.state.storage i).isSome) ∧
    (isPremium → tracked.stale = false)

/-- A list of at most one item is cleared, and a list is read from the slots only where they can be read. -/
def Careful (tracked : Tracked) : Event types → Prop
  | .command .clear => (tracked.wanted.take tracked.state.getPlayerLimit).length ≤ 1
  | .command _ => True
  | .setPremium isPremium => tracked.state.autolootCache = none → Readable tracked isPremium
  | .relog restarted => restarted → Readable tracked tracked.state.isPremium

/-- All steps of a run are careful. -/
def AllCareful : List (Event types) → Tracked → Prop
  | [], _ => True
  | event :: later, tracked => Careful tracked event ∧ AllCareful later (tracked.step event)

/-- The list of a player after a step, as it is meant to be. -/
structure Meant (types : LootTypes) (before : Tracked) (event : Event types) (after : Tracked) : Prop where
  list : after.list types = some (after.wanted.take after.state.getPlayerLimit)
  nodup : after.wanted.Nodup
  limit : (after.wanted.take after.state.getPlayerLimit).length ≤ after.state.getPlayerLimit
  added : ∀ itemId, event = .command (.add itemId) → ∀ id, id ∈ after.wanted ↔
    id ∈ before.wanted.take before.state.getPlayerLimit ∨
      id = itemId.1 ∧ (before.wanted.take before.state.getPlayerLimit).length < before.state.getPlayerLimit
  removed : ∀ itemId, event = .command (.remove itemId) → ∀ id, id ∈ after.wanted ↔
    id ∈ before.wanted.take before.state.getPlayerLimit ∧ id ≠ itemId.1
  cleared : event = .command .clear → after.list types = some []
  relogged : ∀ restarted, event = .relog restarted → after.list types = before.list types

/-! The slots. -/

/-- The slots up to a number hold a list, and nothing behind its end. -/
structure Holds (types : LootTypes) (state : Autoloot) (slots : Nat) (items : List Nat) : Prop where
  inside : ∀ i < slots, ∀ id, items[i]? = some id → state.storage (i + 1) = some (id : Int)
  behind : ∀ i < slots, items[i]? = none → ∀ value, state.storage (i + 1) = some value → types.getId value = 0

section

variable {state : Autoloot} {items : List Nat}

theorem getId_item {id : Nat} (known : types.isItem id = true) : types.getId id = id := by
  have bounds := types.bounded id known
  have same : ((id : Int) % 4294967296).toNat = id := by omega
  simp [LootTypes.getId, same, known]

theorem getId_unset : types.getId (-1) = 0 := by
  have large : ((-1 : Int) % 4294967296).toNat = 4294967295 := by decide
  have none : types.isItem 4294967295 = false := by
    by_contra some
    have bounds := types.bounded _ (Bool.not_eq_false _ ▸ some)
    omega
  rw [LootTypes.getId, large]
  simp [none]

theorem Holds.mono {slots fewer : Nat} (holds : Holds types state slots items) (less : fewer ≤ slots) :
    Holds types state fewer items where
  inside i below := holds.inside i (Nat.lt_of_lt_of_le below less)
  behind i below := holds.behind i (Nat.lt_of_lt_of_le below less)

theorem Holds.take {slots : Nat} (holds : Holds types state slots items) : Holds types state slots (items.take slots) where
  inside i below id member := holds.inside i below id (by rwa [getElem?_take_of_lt below] at member)
  behind i below absent := holds.behind i below (by rwa [getElem?_take_of_lt below] at absent)

theorem Holds.congr {other : Autoloot} {slots : Nat} (holds : Holds types state slots items)
    (same : other.storage = state.storage) : Holds types other slots items where
  inside := same ▸ holds.inside
  behind := same ▸ holds.behind

theorem Holds.read {slots : Nat} (holds : Holds types state slots items) (known : ∀ id ∈ items, types.isItem id = true)
    (set : ∀ i, 1 ≤ i → i ≤ slots → (state.storage i).isSome) : readSlots types state slots = some (items.take slots) := by
  induction slots with
  | zero => rfl
  | succ slots ih =>
    rw [readSlots, ih (holds.mono (Nat.le_succ _)) fun i low high => set i low (by omega), take_add_one]
    simp only [Option.bind_eq_bind, Option.bind_some]
    cases member : items[slots]? with
    | none =>
      obtain ⟨value, found⟩ := Option.isSome_iff_exists.mp (set (slots + 1) (by omega) (Nat.le_refl _))
      simp [found, holds.behind slots (Nat.lt_succ_self slots) member value found]
    | some id =>
      have item := known id (mem_of_getElem? member)
      have bounds := types.bounded id item
      have some : id ≠ 0 := by omega
      simp [holds.inside slots (Nat.lt_succ_self slots) id member, getId_item item, some]

theorem storage_set {i : Nat} : (state.setPlayerAutolootItems items).storage i =
    if 1 ≤ i ∧ i ≤ state.getPlayerLimit then some ((items[i - 1]?.map Int.ofNat).getD (-1)) else state.storage i := rfl

/-- A list that has been written is held. -/
theorem holds_set : Holds types (state.setPlayerAutolootItems items) state.getPlayerLimit items where
  inside i below id member := by
    rw [storage_set, if_pos ⟨by omega, by omega⟩, Nat.add_sub_cancel, member]
    rfl
  behind i below absent value found := by
    rw [storage_set, if_pos ⟨by omega, by omega⟩, Nat.add_sub_cancel, absent] at found
    cases found
    exact getId_unset

/-- Nothing is left behind a list of at most ten items, if the upper slots hold none. -/
theorem leftBehind_eq_false : leftBehind types state = false ↔
    ∀ i, 10 ≤ i → i < 20 → ∀ value, state.storage (i + 1) = some value → types.getId value = 0 := by
  unfold leftBehind
  rw [any_eq_false]
  constructor
  · intro empty i low high value found
    have here := empty (i - 10) (mem_range.mpr (by omega))
    rw [show i - 10 + 11 = i + 1 by omega, found] at here
    simpa using here
  · intro empty i listed
    have below := mem_range.mp listed
    cases found : state.storage (i + 11) with
    | none => simp
    | some value => simpa using empty (i + 10) (by omega) (by omega) value found

end

/-! Clearing. -/

theorem head_eraseIdx (places : List Nat) (behind : ∀ i ∈ places, 0 < i) (first : Nat) (items : List Nat) :
    ∃ rest, places.foldl (fun items i => items.eraseIdx i) (first :: items) = first :: rest := by
  induction places generalizing items with
  | nil => exact ⟨items, rfl⟩
  | cons i places ih =>
    obtain ⟨before, rfl⟩ := Nat.exists_eq_succ_of_ne_zero (Nat.ne_of_gt (behind i mem_cons_self))
    rw [foldl_cons, eraseIdx_cons_succ]
    exact ih (fun j listed => behind j (mem_cons_of_mem _ listed)) _

/-- The loop of the clear empties a list of one item, and no longer list. -/
theorem removeEach_eq_nil (items : List Nat) : removeEach items = [] ↔ items.length ≤ 1 := by
  match items with
  | [] => exact iff_of_true rfl (Nat.zero_le 1)
  | [only] => exact iff_of_true rfl (Nat.le_refl 1)
  | first :: second :: items =>
    refine iff_of_false ?_ (by simp)
    have behind : ∀ i ∈ (List.range (items.length + 1)).map Nat.succ, 0 < i := by
      intro i listed
      obtain ⟨before, _, rfl⟩ := mem_map.mp listed
      exact Nat.succ_pos before
    obtain ⟨rest, kept⟩ := head_eraseIdx _ behind second items
    rw [removeEach, length_cons, length_cons, range_succ_eq_map, foldl_cons, eraseIdx_cons_zero,
      kept]
    exact cons_ne_nil _ _

/-! The list that is meant. -/

section

variable {limit : Nat} {command : Command types} {wanted : List Nat}

theorem wantedAfter_of_not_writes (still : command.writes limit wanted = false) :
    wantedAfter limit command wanted = wanted.take limit := by
  cases command with
  | add itemId =>
    have kept : itemId.1 ∈ wanted.take limit ∨ limit ≤ (wanted.take limit).length := by
      by_contra free
      rw [not_or, Nat.not_le] at free
      obtain ⟨absent, room⟩ := free
      simp only [Command.writes, absent, room, not_false_eq_true, decide_true, Bool.and_self] at still
      cases still
    exact if_pos kept
  | remove itemId =>
    have absent : itemId.1 ∉ wanted.take limit := by simpa [Command.writes] using still
    exact erase_of_not_mem absent
  | clear => cases still
  | list => rfl

theorem wantedAfter_length : (wantedAfter limit command wanted).length ≤ limit := by
  have taken : (wanted.take limit).length ≤ limit := length_take_le _ _
  cases command with
  | add itemId =>
    simp only [wantedAfter]
    split_ifs with kept
    · exact taken
    · rw [length_append, length_singleton]
      omega
  | remove itemId => exact Nat.le_trans (erase_sublist.length_le) taken
  | clear => exact Nat.zero_le _
  | list => exact taken

theorem wantedAfter_nodup (nodup : wanted.Nodup) : (wantedAfter limit command wanted).Nodup := by
  have taken : (wanted.take limit).Nodup := nodup.sublist (take_sublist _ _)
  cases command with
  | add itemId =>
    simp only [wantedAfter]
    split_ifs with kept
    · exact taken
    · exact taken.append (nodup_singleton _) (by simpa using (not_or.mp kept).1)
  | remove itemId => exact taken.erase _
  | clear => exact nodup_nil
  | list => exact taken

theorem wantedAfter_known (known : ∀ id ∈ wanted, types.isItem id = true) :
    ∀ id ∈ wantedAfter limit command wanted, types.isItem id = true := by
  have taken : ∀ id ∈ wanted.take limit, types.isItem id = true := fun id listed => known id (mem_of_mem_take listed)
  intro id listed
  cases command with
  | add itemId =>
    simp only [wantedAfter] at listed
    split_ifs at listed with kept
    · exact taken id listed
    · rcases mem_append.mp listed with before | new
      · exact taken id before
      · exact mem_singleton.mp new ▸ itemId.2
  | remove itemId => exact taken id (mem_of_mem_erase listed)
  | clear => exact absurd listed not_mem_nil
  | list => exact taken id listed

theorem mem_wantedAfter_add (itemId : { id // types.isItem id = true }) (id : Nat) :
    id ∈ wantedAfter limit (.add itemId) wanted ↔
      id ∈ wanted.take limit ∨ id = itemId.1 ∧ (wanted.take limit).length < limit := by
  simp only [wantedAfter]
  split_ifs with kept
  · constructor
    · exact .inl
    · rintro (listed | ⟨rfl, room⟩)
      · exact listed
      · exact kept.resolve_right (by omega)
  · have room := (not_or.mp kept).2
    rw [mem_append, mem_singleton]
    exact or_congr_right ⟨fun same => ⟨same, by omega⟩, And.left⟩

theorem mem_wantedAfter_remove (nodup : wanted.Nodup) (itemId : { id // types.isItem id = true }) (id : Nat) :
    id ∈ wantedAfter limit (.remove itemId) wanted ↔ id ∈ wanted.take limit ∧ id ≠ itemId.1 := by
  have taken : (wanted.take limit).Nodup := nodup.sublist (take_sublist _ _)
  rw [wantedAfter, taken.mem_erase_iff, and_comm]

end

/-! Steps. -/

/-- What a careful run keeps: the cache is the list, and so are the slots, but for those left behind. -/
structure Inv (types : LootTypes) (tracked : Tracked) : Prop where
  nodup : tracked.wanted.Nodup
  known : ∀ id ∈ tracked.wanted, types.isItem id = true
  short : tracked.wanted.length ≤ 20
  cache : ∀ items, tracked.state.autolootCache = some items → items = tracked.wanted
  slots : tracked.stale = false → Holds types tracked.state 20 tracked.wanted
  low : tracked.stale = true → tracked.wanted.length ≤ 10 ∧ Holds types tracked.state 10 tracked.wanted
  ready : tracked.state.autolootCache = none → Readable tracked tracked.state.isPremium

section

variable {tracked : Tracked}

theorem getPlayerLimit_cases (state : Autoloot) :
    state.isPremium = true ∧ state.getPlayerLimit = 20 ∨ state.isPremium = false ∧ state.getPlayerLimit = 10 := by
  cases premium : state.isPremium
  · exact .inr ⟨rfl, by simp [getPlayerLimit, premium]⟩
  · exact .inl ⟨rfl, by simp [getPlayerLimit, premium]⟩

theorem Inv.read (inv : Inv types tracked) (none : tracked.state.autolootCache = none) :
    readSlots types tracked.state tracked.state.getPlayerLimit =
      some (tracked.wanted.take tracked.state.getPlayerLimit) := by
  obtain ⟨set, fresh⟩ := inv.ready none
  have held : Holds types tracked.state tracked.state.getPlayerLimit tracked.wanted := by
    rcases getPlayerLimit_cases tracked.state with ⟨premium, limit⟩ | ⟨_, limit⟩
    · exact limit ▸ inv.slots (fresh premium)
    · rw [limit]
      cases stale : tracked.stale with
      | false => exact (inv.slots stale).mono (by decide)
      | true => exact (inv.low stale).2
  exact held.read inv.known set

theorem Inv.getPlayerAutolootItems (inv : Inv types tracked) :
    getPlayerAutolootItems types tracked.state = some (tracked.wanted.take tracked.state.getPlayerLimit,
      { tracked.state with autolootCache := some (tracked.wanted.take tracked.state.getPlayerLimit) }) := by
  unfold Autoloot.getPlayerAutolootItems
  cases cache : tracked.state.autolootCache with
  | none => simp only [inv.read cache, Option.map_some]
  | some items =>
    obtain rfl := inv.cache items cache
    dsimp only
    split_ifs with long
    · rfl
    · rw [take_of_length_le (Nat.not_lt.mp long), ← cache]

theorem Inv.list (inv : Inv types tracked) :
    tracked.list types = some (tracked.wanted.take tracked.state.getPlayerLimit) := by
  rw [Tracked.list, inv.getPlayerAutolootItems, Option.map_some]

/-- A careful command leaves the list that is meant in the cache, and in the slots if it writes. -/
theorem Inv.run (inv : Inv types tracked) {command : Command types} (careful : Careful tracked (.command command)) :
    run types tracked.state command = some
      (if command.writes tracked.state.getPlayerLimit tracked.wanted then
        tracked.state.setPlayerAutolootItems (wantedAfter tracked.state.getPlayerLimit command tracked.wanted)
      else { tracked.state with
        autolootCache := some (wantedAfter tracked.state.getPlayerLimit command tracked.wanted) }) := by
  unfold Autoloot.run
  rw [inv.getPlayerAutolootItems]
  simp only [Option.bind_eq_bind, Option.bind_some]
  generalize limits : tracked.state.getPlayerLimit = limit
  have same : ∀ items, getPlayerLimit { tracked.state with autolootCache := some items } = limit := fun _ => limits
  cases command with
  | add itemId =>
    simp only [same, Command.writes, wantedAfter, Bool.and_eq_true, decide_eq_true_eq]
    by_cases full : limit ≤ (tracked.wanted.take limit).length
    · rw [if_pos full, if_neg fun free => absurd free.2 (Nat.not_lt.mpr full), if_pos (.inr full)]
    · by_cases listed : itemId.1 ∈ tracked.wanted.take limit
      · rw [if_neg full, if_pos listed, if_neg fun free => free.1 listed, if_pos (.inl listed)]
      · rw [if_neg full, if_neg listed, if_pos ⟨listed, Nat.not_le.mp full⟩, if_neg (not_or.mpr ⟨listed, full⟩)]
        rfl
  | remove itemId =>
    simp only [Command.writes, wantedAfter, decide_eq_true_eq]
    by_cases listed : itemId.1 ∈ tracked.wanted.take limit
    · rw [if_pos listed, if_pos listed]
      rfl
    · rw [if_neg listed, if_neg listed, erase_of_not_mem listed]
  | clear =>
    have short : (tracked.wanted.take tracked.state.getPlayerLimit).length ≤ 1 := careful
    rw [limits] at short
    simp only [Command.writes, wantedAfter, (removeEach_eq_nil _).mpr short, if_true]
    rfl
  | list => rfl

/-- The slots after a command without premium that leaves nothing behind. -/
theorem Inv.holds_low (inv : Inv types tracked) (free : tracked.state.getPlayerLimit = 10) (fresh : tracked.stale = false)
    (none : leftBehind types tracked.state = false) (command : Command types) :
    tracked.wanted.take 10 = tracked.wanted ∧
      Holds types (tracked.state.setPlayerAutolootItems (wantedAfter 10 command tracked.wanted)) 20
        (wantedAfter 10 command tracked.wanted) := by
  have held := inv.slots fresh
  have empty := leftBehind_eq_false.mp none
  refine ⟨take_of_length_le ?_, ?_⟩
  · by_contra long
    have member := getElem?_eq_getElem (Nat.lt_of_not_le long)
    have here := held.inside 10 (by decide) _ member
    have item := inv.known _ (getElem_mem (Nat.lt_of_not_le long))
    have zero := empty 10 (Nat.le_refl _) (by decide) _ here
    have bounds := types.bounded _ item
    rw [getId_item item] at zero
    omega
  · have written := @holds_set types tracked.state (wantedAfter 10 command tracked.wanted)
    rw [free] at written
    have length := @wantedAfter_length types 10 command tracked.wanted
    refine ⟨fun i below id member => ?_, fun i below absent value found => ?_⟩
    · have low : i < 10 := by
        have inside := (List.getElem?_eq_some_iff.mp member).1
        omega
      exact written.inside i low id member
    · by_cases low : i < 10
      · exact written.behind i low absent value found
      · rw [storage_set, if_neg (by omega)] at found
        exact empty i (by omega) below value found

/-- A careful command keeps the list. -/
theorem Inv.command (inv : Inv types tracked) {command : Command types} (careful : Careful tracked (.command command)) :
    Inv types (tracked.step (.command command)) := by
  have done := inv.run careful
  have length := @wantedAfter_length types tracked.state.getPlayerLimit command tracked.wanted
  have short : (wantedAfter tracked.state.getPlayerLimit command tracked.wanted).length ≤ 20 := by
    rcases getPlayerLimit_cases tracked.state with ⟨_, limit⟩ | ⟨_, limit⟩ <;> omega
  have state : (tracked.step (.command command)).state =
      if command.writes tracked.state.getPlayerLimit tracked.wanted then
        tracked.state.setPlayerAutolootItems (wantedAfter tracked.state.getPlayerLimit command tracked.wanted)
      else { tracked.state with
        autolootCache := some (wantedAfter tracked.state.getPlayerLimit command tracked.wanted) } := by
    change (Autoloot.run types tracked.state command).getD tracked.state = _
    rw [done, Option.getD_some]
  have cached : (tracked.step (.command command)).state.autolootCache =
      some (wantedAfter tracked.state.getPlayerLimit command tracked.wanted) := by
    rw [state]
    split_ifs <;> rfl
  -- what the slots hold, with and without a write
  have written : command.writes tracked.state.getPlayerLimit tracked.wanted = true →
      (tracked.step (.command command)).state =
        tracked.state.setPlayerAutolootItems (wantedAfter tracked.state.getPlayerLimit command tracked.wanted) :=
    fun writes => by rw [state, if_pos writes]
  have unwritten : command.writes tracked.state.getPlayerLimit tracked.wanted = false →
      (tracked.step (.command command)).state.storage = tracked.state.storage := fun still => by
    rw [state, if_neg (by simp [still])]
  refine ⟨wantedAfter_nodup inv.nodup, wantedAfter_known inv.known, short, ?_, ?_, ?_, ?_⟩
  · intro items some
    rw [cached] at some
    exact (Option.some.inj some).symm
  · intro fresh
    change Holds types _ 20 (wantedAfter _ command tracked.wanted)
    rcases getPlayerLimit_cases tracked.state with ⟨premium, limit⟩ | ⟨free, limit⟩
    · cases writes : command.writes tracked.state.getPlayerLimit tracked.wanted with
      | true => exact written writes ▸ limit ▸ holds_set
      | false =>
        have before : tracked.stale = false := by
          simpa [Tracked.step, premium, writes] using fresh
        rw [wantedAfter_of_not_writes writes, limit, take_of_length_le inv.short]
        exact (inv.slots before).congr (unwritten writes)
    · have both : tracked.stale = false ∧ leftBehind types tracked.state = false := by
        simpa [Tracked.step, free] using fresh
      obtain ⟨kept, held⟩ := inv.holds_low limit both.1 both.2 command
      cases writes : command.writes tracked.state.getPlayerLimit tracked.wanted with
      | true =>
        rw [written writes, limit]
        exact held
      | false =>
        rw [wantedAfter_of_not_writes writes, limit, kept]
        exact (inv.slots both.1).congr (unwritten writes)
  · intro stale
    change (wantedAfter _ command tracked.wanted).length ≤ 10 ∧ Holds types _ 10 (wantedAfter _ command tracked.wanted)
    rcases getPlayerLimit_cases tracked.state with ⟨premium, limit⟩ | ⟨free, limit⟩
    · have both : tracked.stale = true ∧ command.writes tracked.state.getPlayerLimit tracked.wanted = false := by
        simpa [Tracked.step, premium] using stale
      obtain ⟨few, held⟩ := inv.low both.1
      rw [wantedAfter_of_not_writes both.2, limit, take_of_length_le inv.short]
      exact ⟨few, held.congr (unwritten both.2)⟩
    · refine ⟨limit ▸ length, ?_⟩
      cases writes : command.writes tracked.state.getPlayerLimit tracked.wanted with
      | true => exact written writes ▸ limit ▸ holds_set
      | false =>
        rw [wantedAfter_of_not_writes writes, limit]
        have held : Holds types tracked.state 10 tracked.wanted := by
          cases before : tracked.stale with
          | false => exact (inv.slots before).mono (by decide)
          | true => exact (inv.low before).2
        exact held.take.congr (unwritten writes)
  · intro none
    rw [cached] at none
    cases none

/-- A careful step keeps the list. -/
theorem Inv.step (inv : Inv types tracked) {event : Event types} (careful : Careful tracked event) :
    Inv types (tracked.step event) := by
  cases event with
  | command command => exact inv.command careful
  | setPremium isPremium =>
    refine ⟨inv.nodup, inv.known, inv.short, inv.cache, fun fresh => ?_, fun stale => ?_, fun none => ?_⟩
    · exact (inv.slots fresh).congr rfl
    · exact ⟨(inv.low stale).1, (inv.low stale).2.congr rfl⟩
    · exact careful none
  | relog restarted =>
    cases restarted with
    | false => exact inv
    | true =>
      refine ⟨inv.nodup, inv.known, inv.short, nofun, fun fresh => ?_, fun stale => ?_, fun _ => careful rfl⟩
      · exact (inv.slots fresh).congr rfl
      · exact ⟨(inv.low stale).1, (inv.low stale).2.congr rfl⟩

theorem Inv.meant (inv : Inv types tracked) {event : Event types} (careful : Careful tracked event) :
    Meant types tracked event (tracked.step event) where
  list := (inv.step careful).list
  nodup := (inv.step careful).nodup
  limit := length_take_le _ _
  added := by
    rintro itemId rfl id
    exact mem_wantedAfter_add itemId id
  removed := by
    rintro itemId rfl id
    exact mem_wantedAfter_remove inv.nodup itemId id
  cleared := by
    rintro rfl
    rw [(inv.step careful).list]
    exact congrArg some (take_nil)
  relogged := by
    rintro restarted rfl
    rw [(inv.step careful).list, inv.list]
    cases restarted <;> rfl

theorem inv_fresh {state : Autoloot} (fresh : Fresh types state) : Inv types ⟨state, [], false⟩ where
  nodup := nodup_nil
  known := nofun
  short := Nat.zero_le _
  cache items some := by
    rw [fresh.cache] at some
    cases some
  slots _ := ⟨nofun, fun i _ _ value found => fresh.empty (i + 1) value found⟩
  low := nofun
  ready _ := ⟨fresh.set, fun _ => rfl⟩

def play (events : List (Event types)) (state : Autoloot) : Tracked := events.foldl Tracked.step ⟨state, [], false⟩

theorem allCareful_append {events later : List (Event types)} :
    AllCareful (events ++ later) tracked ↔ AllCareful events tracked ∧ AllCareful later (events.foldl Tracked.step tracked) := by
  induction events generalizing tracked with
  | nil => exact ⟨fun careful => ⟨trivial, careful⟩, And.right⟩
  | cons event events ih =>
    rw [cons_append, AllCareful, AllCareful, ih, foldl_cons, and_assoc]

theorem Inv.play {events : List (Event types)} (inv : Inv types tracked) (careful : AllCareful events tracked) :
    Inv types (events.foldl Tracked.step tracked) := by
  induction events generalizing tracked with
  | nil => exact inv
  | cons event events ih => exact ih (inv.step careful.1) careful.2

end

/-- Gold coins and crystal coins. -/
def coinTypes : LootTypes where
  isItem id := id = 2148 || id = 2160
  bounded id known := by
    simp only [Bool.or_eq_true, decide_eq_true_eq] at known
    omega

def goldCoin : { id // coinTypes.isItem id = true } := ⟨2148, rfl⟩

def crystalCoin : { id // coinTypes.isItem id = true } := ⟨2160, rfl⟩

def newcomer : Autoloot := ⟨false, fun _ => some (-1), none⟩

theorem fresh_newcomer : Fresh coinTypes newcomer :=
  ⟨rfl, fun _ _ some => Option.some.inj some ▸ getId_unset, fun _ _ _ => rfl⟩

end Autoloot

end Styller
