import Mathlib.Data.List.Induction
import Mathlib.Data.List.Nodup

/-! The trade offers of the task NPC: the tables that it joins, over any history of requests. -/

namespace Styller

open List

/-- The storage values that `Player.getTaskRank` reads; one that is not set is nil. -/
structure TaskRecord where
  pointsTask : Option Int
  storageJoin : Option Int

namespace TaskRecord

/-- `Player.getTaskRank`, which fails where it compares nil. -/
def getTaskRank (self : TaskRecord) : Option Nat :=
  self.pointsTask.map fun pointsTask =>
    if pointsTask ≥ 100 then 6
    else if pointsTask ≥ 70 then 5
    else if pointsTask ≥ 40 then 4
    else if pointsTask ≥ 20 then 3
    else if pointsTask ≥ 10 then 2
    else if self.storageJoin = some 1 then 1
    else 0

def rank (self : TaskRecord) : Nat := self.getTaskRank.getD 0

theorem rank_le (self : TaskRecord) : self.rank ≤ 6 := by
  unfold rank getTaskRank
  cases self.pointsTask with
  | none => exact Nat.zero_le 6
  | some points =>
    simp only [Option.map_some, Option.getD_some]
    split_ifs <;> decide

theorem getTaskRank_of_pos {self : TaskRecord} (ranked : 0 < self.rank) : self.getTaskRank = some self.rank := by
  unfold rank at *
  cases known : self.getTaskRank with
  | none =>
    rw [known] at ranked
    cases ranked
  | some rank => rfl

end TaskRecord

namespace TaskTrader

/-- An offer of a shop window. -/
structure TradeItem where
  id : UInt16
  buy : UInt32
  sell : UInt32
  name : String
  deriving DecidableEq

/-- `grizzlyAdamsConfig.ranks`: three tables, as they are now. -/
structure Ranks where
  huntsMan : List TradeItem
  bigGameHunter : List TradeItem
  trophyHunter : List TradeItem
  deriving DecidableEq

/-- `grizzlyAdamsConfig.ranks` after the script is loaded. -/
def loaded : Ranks where
  huntsMan :=
    [⟨11214, 0, 50, "antlers"⟩, ⟨10550, 0, 100, "bloody pincers"⟩, ⟨11189, 0, 35, "crab pincers"⟩,
      ⟨10574, 0, 55, "cyclops toe"⟩, ⟨12470, 0, 110, "colourful feather"⟩, ⟨7398, 0, 500, "cyclops trophy"⟩,
      ⟨11315, 0, 15000, "draken trophy"⟩, ⟨10565, 0, 30, "frosty ear of a troll"⟩, ⟨12495, 0, 20, "goblin ear"⟩,
      ⟨11199, 0, 600, "hydra head"⟩, ⟨11372, 0, 80, "lancer beetle shell"⟩, ⟨11336, 0, 8000, "lizard trophy"⟩,
      ⟨12445, 0, 280, "mantassin tail"⟩, ⟨7401, 0, 500, "minotaur trophy"⟩, ⟨10579, 0, 420, "mutated bat ear"⟩,
      ⟨12447, 0, 500, "quara bone"⟩, ⟨12444, 0, 350, "quara eye"⟩, ⟨12446, 0, 410, "quara pincers"⟩,
      ⟨12443, 0, 140, "quara tentacle"⟩, ⟨11228, 0, 400, "sabretooth"⟩, ⟨11373, 0, 20, "sandcrawler shell"⟩,
      ⟨10548, 0, 280, "scarab pincers"⟩, ⟨11371, 0, 60, "terramite legs"⟩, ⟨11369, 0, 170, "terramite shell"⟩,
      ⟨11190, 0, 95, "terrorbird beak"⟩]
  bigGameHunter :=
    [⟨11161, 0, 6000, "bonebeast trophy"⟩, ⟨7397, 0, 3000, "deer trophy"⟩, ⟨7400, 0, 3000, "lion trophy"⟩,
      ⟨7395, 0, 1000, "orc trophy"⟩, ⟨7394, 0, 3000, "wolf trophy"⟩]
  trophyHunter :=
    [⟨7396, 0, 20000, "behemoth trophy"⟩, ⟨7393, 0, 40000, "demon trophy"⟩,
      ⟨7399, 0, 10000, "dragon lord trophy"⟩, ⟨10518, 1000, 0, "demon backpack"⟩]

/-- `joinTables`: the old table itself grows. -/
def joinTables (old new : List TradeItem) : List TradeItem := new.foldl (fun old value => old ++ [value]) old

theorem joinTables_eq (old new : List TradeItem) : joinTables old new = old ++ new := by
  unfold joinTables
  induction new generalizing old with
  | nil => simp
  | cons value new ih => simp [ih]

/-- A request for a trade: the list that the shop window opens with, if it opens, and the tables
after it. `tradeItems` is not a copy: it is the table `huntsMan_rank`. -/
def trade (ranks : Ranks) (player : TaskRecord) : Option (List TradeItem) × Ranks :=
  match player.getTaskRank with
  | none => (none, ranks)
  | some rank =>
    if rank ≥ 2 then
      let ranks :=
        if rank = 4 then { ranks with huntsMan := joinTables ranks.huntsMan ranks.bigGameHunter }
        else if rank = 5 ∨ rank = 6 then
          let ranks := { ranks with huntsMan := joinTables ranks.huntsMan ranks.bigGameHunter }
          { ranks with huntsMan := joinTables ranks.huntsMan ranks.trophyHunter }
        else ranks
      (some ranks.huntsMan, ranks)
    else (none, ranks)

def run (history : List TaskRecord) : Ranks := history.foldl (fun ranks player => (trade ranks player).2) loaded

def offered (history : List TaskRecord) (player : TaskRecord) : Option (List TradeItem) := (trade (run history) player).1

def Reached (rank : Nat) (item : TradeItem) : Prop :=
  (item ∈ loaded.huntsMan ∧ 2 ≤ rank) ∨ (item ∈ loaded.bigGameHunter ∧ 4 ≤ rank) ∨
    (item ∈ loaded.trophyHunter ∧ 5 ≤ rank)

/-- An offer without duplicates, of items of the ranks that a player has reached. -/
def Proper (player : TaskRecord) (offer : Option (List TradeItem)) : Prop :=
  ∀ items, offer = some items → (items.map TradeItem.id).Nodup ∧ ∀ item ∈ items, Reached player.rank item

/-! What a request adds. -/

/-- What a request of a rank adds to the shared table. -/
def additions (rank : Nat) : List TradeItem :=
  if rank < 4 then [] else if rank = 4 then loaded.bigGameHunter else loaded.bigGameHunter ++ loaded.trophyHunter

theorem additions_eq_nil {rank : Nat} : additions rank = [] ↔ rank < 4 := by
  unfold additions
  split_ifs with low four
  · exact iff_of_true rfl low
  · exact iff_of_false (by decide) low
  · exact iff_of_false (by decide) low

/-- Whatever is added begins with the trophy of a bonebeast. -/
theorem bonebeast_mem {rank : Nat} (high : 4 ≤ rank) : ⟨11161, 0, 6000, "bonebeast trophy"⟩ ∈ additions rank := by
  unfold additions
  rw [if_neg (Nat.not_lt.mpr high)]
  split_ifs
  · exact mem_cons_self
  · exact mem_append_left _ mem_cons_self

theorem trade_some {more : List TradeItem} {player : TaskRecord} (hunter : 2 ≤ player.rank) :
    trade { loaded with huntsMan := loaded.huntsMan ++ more } player =
      (some (loaded.huntsMan ++ more ++ additions player.rank),
        { loaded with huntsMan := loaded.huntsMan ++ more ++ additions player.rank }) := by
  have high := player.rank_le
  rw [trade, TaskRecord.getTaskRank_of_pos (by omega)]
  dsimp only
  rw [if_pos hunter]
  simp only [joinTables_eq, additions]
  split_ifs <;> first | omega | simp

theorem trade_none {ranks : Ranks} {player : TaskRecord} (novice : player.rank < 2) :
    trade ranks player = (none, ranks) := by
  rw [trade]
  cases known : player.getTaskRank with
  | none => rfl
  | some rank =>
    have same : player.rank = rank := by rw [TaskRecord.rank, known, Option.getD_some]
    exact if_neg (by omega)

/-- After any history the shared table has grown by what each request has added. -/
theorem run_eq (history : List TaskRecord) :
    run history = { loaded with
      huntsMan := loaded.huntsMan ++ history.flatMap fun player => additions player.rank } := by
  unfold run
  induction history using List.reverseRecOn with
  | nil => rfl
  | append_singleton history player ih =>
    rw [foldl_append, foldl_cons, foldl_nil, ih, flatMap_append, flatMap_singleton]
    by_cases hunter : 2 ≤ player.rank
    · rw [trade_some hunter, append_assoc]
    · have none : additions player.rank = [] := additions_eq_nil.mpr (by omega)
      rw [trade_none (by omega), none, append_nil]

theorem offered_some (history : List TaskRecord) {player : TaskRecord} (hunter : 2 ≤ player.rank) :
    offered history player = some (loaded.huntsMan ++ (history.flatMap fun player => additions player.rank) ++
      additions player.rank) := by
  rw [offered, run_eq, trade_some hunter]

theorem offered_none (history : List TaskRecord) {player : TaskRecord} (novice : player.rank < 2) :
    offered history player = none := by
  rw [offered, trade_none novice]

/-! Offers. -/

/-- No request of a history has come from a big game hunter or from a higher rank. -/
def Quiet (history : List TaskRecord) : Prop := ∀ player ∈ history, player.rank < 4

theorem Quiet.offered {history : List TaskRecord} (quiet : Quiet history) {player : TaskRecord}
    (hunter : 2 ≤ player.rank) :
    offered history player = some (loaded.huntsMan ++ additions player.rank) := by
  have none : (history.flatMap fun player => additions player.rank) = [] :=
    flatMap_eq_nil_iff.mpr fun player listed => additions_eq_nil.mpr (quiet player listed)
  rw [offered_some history hunter, none, append_nil]

theorem nodup_loaded :
    ((loaded.huntsMan ++ (loaded.bigGameHunter ++ loaded.trophyHunter)).map TradeItem.id).Nodup := by
  decide

theorem additions_sublist (rank : Nat) : (additions rank).Sublist (loaded.bigGameHunter ++ loaded.trophyHunter) := by
  unfold additions
  split_ifs
  · exact nil_sublist _
  · exact sublist_append_left _ _
  · exact List.Sublist.refl _

theorem reached_additions {rank : Nat} {item : TradeItem} (listed : item ∈ additions rank) : Reached rank item := by
  unfold additions at listed
  split_ifs at listed with low four
  · exact absurd listed not_mem_nil
  · exact .inr (.inl ⟨listed, by omega⟩)
  · rcases mem_append.mp listed with big | trophy
    · exact .inr (.inl ⟨big, by omega⟩)
    · exact .inr (.inr ⟨trophy, by omega⟩)

theorem Quiet.proper {history : List TaskRecord} (quiet : Quiet history) {player : TaskRecord}
    (hunter : 2 ≤ player.rank) : Proper player (TaskTrader.offered history player) := by
  rintro items offer
  rw [quiet.offered hunter] at offer
  cases offer
  refine ⟨nodup_loaded.sublist (((List.Sublist.refl _).append (additions_sublist _)).map _), fun item listed => ?_⟩
  rcases mem_append.mp listed with hunts | added
  · exact .inl ⟨hunts, hunter⟩
  · exact reached_additions added

/-- An offer after a request of a big game hunter is not proper: it has his items twice, or items
that the player has not reached. -/
theorem quiet_of_proper {history : List TaskRecord} {player : TaskRecord} (hunter : 2 ≤ player.rank)
    (proper : Proper player (offered history player)) : Quiet history := by
  intro earlier listed
  by_contra high
  obtain ⟨nodup, reached⟩ := proper _ (offered_some history hunter)
  have bonebeast : (⟨11161, 0, 6000, "bonebeast trophy"⟩ : TradeItem) ∈
      history.flatMap fun player => additions player.rank :=
    mem_flatMap.mpr ⟨earlier, listed, bonebeast_mem (by omega)⟩
  by_cases rank : 4 ≤ player.rank
  · rw [map_append, nodup_append] at nodup
    refine nodup.2.2 11161 ?_ 11161 ?_ rfl
    · exact mem_map.mpr ⟨_, mem_append_right _ bonebeast, rfl⟩
    · exact mem_map.mpr ⟨_, bonebeast_mem rank, rfl⟩
  · rcases reached _ (mem_append_left _ (mem_append_right _ bonebeast)) with
      ⟨hunts, _⟩ | ⟨_, big⟩ | ⟨_, trophy⟩
    · exact absurd (mem_map_of_mem hunts) (show (11161 : UInt16) ∉ loaded.huntsMan.map TradeItem.id by decide)
    · exact rank big
    · exact rank (by omega)

/-- A player is offered the same list after two histories, without duplicates and of the ranks that
he has reached, exactly when he has no rank to trade or neither history has a request of a rank from
the fourth on. -/
theorem offered_iff_quiet (history other : List TaskRecord) (player : TaskRecord) :
    (offered history player = offered other player ∧ Proper player (offered history player)) ↔
      (2 ≤ player.rank → Quiet history ∧ Quiet other) := by
  by_cases hunter : 2 ≤ player.rank
  · constructor
    · rintro ⟨same, proper⟩ _
      exact ⟨quiet_of_proper hunter proper, quiet_of_proper hunter (same ▸ proper)⟩
    · intro quiet
      obtain ⟨one, two⟩ := quiet hunter
      exact ⟨(one.offered hunter).trans (two.offered hunter).symm, one.proper hunter⟩
  · have novice := Nat.not_le.mp hunter
    refine iff_of_true ⟨?_, ?_⟩ fun rank => absurd rank hunter
    · rw [offered_none history novice, offered_none other novice]
    · rw [offered_none history novice]
      exact nofun

/-- A huntsman who asks after a big game hunter is offered his trophies. -/
theorem not_proper_huntsman :
    ¬(offered [⟨some 40, some 1⟩] ⟨some 10, some 1⟩ = offered [] ⟨some 10, some 1⟩ ∧ Proper ⟨some 10, some 1⟩ (offered [⟨some 40, some 1⟩] ⟨some 10, some 1⟩)) := by
  rintro ⟨same, _⟩
  exact absurd same (by decide)

end TaskTrader

end Styller
