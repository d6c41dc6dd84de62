import Styller.Player.PlayerIndex

/-! The access lists of a house: the lines of a text and whom they let in. -/

namespace Styller.AccessLists

open Library List

structure GuildRank where
  id : UInt32
  name : Bytes

structure Guild where
  ranks : List GuildRank

def Guild.getRankByName (guild : Guild) (name : Bytes) : Option GuildRank := guild.ranks.find? fun rank => rank.name = name

/-- What the lookups read: the players that are online, the guilds in memory, the rows of the tables and how the database compares
names. -/
structure Realm where
  index : PlayerIndex
  guilds : UInt32 → Option Guild
  players : List (UInt32 × Bytes)
  guildRows : List (UInt32 × Bytes)
  guildRanks : List (GuildRank × UInt32)
  sameName : Bytes → Bytes → Bool

namespace Realm
variable (realm : Realm) (name : Bytes)

/-- `Game::getPlayerByName` -/
def getPlayerByName : Option Character := (realm.index.getPlayerByName name).bind realm.index.players

/-- `IOLoginData::getGuidByName` -/
def getGuidByName : UInt32 :=
  match realm.players.find? fun row => realm.sameName row.2 name with
  | some row => row.1
  | none => 0

/-- `IOGuild::getGuildIdByName` -/
def getGuildIdByName : UInt32 :=
  match realm.guildRows.find? fun row => realm.sameName row.2 name with
  | some row => row.1
  | none => 0

/-- `IOGuild::loadGuild` -/
def loadGuild (guildId : UInt32) : Option Guild :=
  if realm.guildRows.any fun row => row.1 = guildId then
    some { ranks := (realm.guildRanks.filter fun row => row.2 = guildId).map Prod.fst }
  else none

def getGuild (guildId : UInt32) : Option Guild := (realm.guilds guildId).or (realm.loadGuild guildId)

def getGuildByName : Option Guild :=
  let guildId := realm.getGuildIdByName name
  if guildId = 0 then none else realm.getGuild guildId

end Realm

structure AccessList where
  playerList : List UInt32 := []
  guildRankList : List UInt32 := []
  allowEveryone : Bool := false

/-- A player as far as an access list asks. -/
structure Member where
  character : Character
  guild : Option UInt32 := none
  guildRank : Option GuildRank := none

def trim (line : Bytes) : Bytes :=
  let isSpace := fun letter : UInt8 => letter = 32 || (9 ≤ letter && letter ≤ 13)
  ((line.dropWhile isSpace).reverse.dropWhile isSpace).reverse

namespace AccessList
variable (realm : Realm) (list : AccessList)

def addPlayer (name : Bytes) : AccessList :=
  match realm.getPlayerByName name with
  | some player => { list with playerList := player.guid :: list.playerList }
  | none =>
    let guid := realm.getGuidByName name
    if guid ≠ 0 then { list with playerList := guid :: list.playerList } else list

def addGuild (name : Bytes) : AccessList :=
  match realm.getGuildByName name with
  | some guild => { list with guildRankList := guild.ranks.map GuildRank.id ++ list.guildRankList }
  | none => list

def addGuildRank (name rankName : Bytes) : AccessList :=
  match (realm.getGuildByName name).bind fun guild => guild.getRankByName rankName with
  | some rank => { list with guildRankList := rank.id :: list.guildRankList }
  | none => list

/-- What the loop in `parseList` does with a line in small letters. -/
def addEntry (line : Bytes) : AccessList :=
  match line.idxOf? 64 with
  | some at_pos =>
    if at_pos = 0 then list.addGuild realm (line.drop 1)
    else list.addGuildRank realm (line.take (at_pos - 1)) (line.drop (at_pos + 1))
  | none =>
    if line = [42] then { list with allowEveryone := true }
    else if 33 ∈ line ∨ 42 ∈ line ∨ 63 ∈ line then list
    else list.addPlayer realm line

/-- The body of the loop: nothing for a line that is empty, a comment or too long. -/
def addLine (line : Bytes) : AccessList :=
  let line := trim line
  if line = [] ∨ line.head? = some 35 ∨ line.length > 100 then list else list.addEntry realm (toLowerCopy line)

end AccessList

/-- `std::getline`: a line and what is left in the stream. -/
def getline (stream : Bytes) : Option (Bytes × Bytes) :=
  if stream = [] then none
  else some (stream.takeWhile (· ≠ 10), (stream.dropWhile (· ≠ 10)).drop 1)

/-- The loop in `parseList`. -/
def readLines (realm : Realm) (lineNo : Nat) (stream : Bytes) (list : AccessList) : AccessList :=
  match getline stream with
  | none => list
  | some (line, rest) =>
    if lineNo + 1 > 100 then list else readLines realm (lineNo + 1) rest (list.addLine realm line)
termination_by 101 - lineNo

/-- `AccessList::parseList`; the stream is made of a pointer, and ends at a zero. -/
def parseList (realm : Realm) (text : Bytes) : AccessList :=
  if text = [] then {} else readLines realm 1 (text.takeWhile (· ≠ 0)) {}

def AccessList.isInList (list : AccessList) (player : Member) : Bool :=
  if list.allowEveryone then true
  else if player.character.guid ∈ list.playerList then true
  else
    match player.guildRank with
    | some rank => rank.id ∈ list.guildRankList
    | none => false

/-- The lines of a text. -/
def lines : Bytes → List Bytes
  | [] => []
  | letter :: text =>
    if letter = 10 then [] :: lines text
    else
      match lines text with
      | [] => [[letter]]
      | line :: rest => (letter :: line) :: rest

/-- A line without the spaces around it and in small letters; none if it is empty, a comment or too long. -/
def entry (line : Bytes) : Option Bytes :=
  let line := trim line
  if line = [] ∨ line.head? = some 35 ∨ line.length > 100 then none else some (toLowerCopy line)

def entries (count : Nat) (text : Bytes) : List Bytes := ((lines (text.takeWhile (· ≠ 0))).take count).filterMap entry

section
variable (realm : Realm) (player : Member)

def InGuild (name : Bytes) : Prop := ∃ row ∈ realm.guildRows, player.guild = some row.1 ∧ realm.sameName row.2 name = true

/-- An entry that lets the player in: a lone asterisk, the guild behind an at sign, or the name. -/
inductive Admits : Bytes → Prop where
  | everyone : Admits [42]
  | guild {name : Bytes} (member : InGuild realm player name) : Admits (64 :: name)
  | named {line : Bytes} (plain : 64 ∉ line ∧ 33 ∉ line ∧ 42 ∉ line ∧ 63 ∉ line)
      (name : realm.sameName player.character.name line = true) : Admits line

/-- One of the first lines lets the player in. -/
def Listed (count : Nat) (text : Bytes) : Prop := ∃ line ∈ entries count text, Admits realm player line

/-- One of the first lines has an at sign behind its first letter. -/
def AsksRank (count : Nat) (text : Bytes) : Prop := ∃ line ∈ entries count text, 64 ∈ line ∧ line.head? ≠ some 64

/-- The rows of the tables have their own ids and names; names are compared without regard to the case; the players that are online
are players of the table, and the player is one of them, with a rank of his guild or none. -/
structure Consistent : Prop where
  coherent : realm.index.Coherent
  online : ∀ id character, realm.index.players id = some character → (character.guid, character.name) ∈ realm.players
  own : (player.character.guid, player.character.name) ∈ realm.players
  equal : Equivalence fun name other => realm.sameName name other = true
  lower : ∀ name, realm.sameName (toLowerCopy name) name = true
  playerId : ∀ row ∈ realm.players, ∀ other ∈ realm.players, row.1 = other.1 → row = other
  playerName : ∀ row ∈ realm.players, ∀ other ∈ realm.players, realm.sameName row.2 other.2 = true → row = other
  guildName : ∀ row ∈ realm.guildRows, ∀ other ∈ realm.guildRows, realm.sameName row.2 other.2 = true → row = other
  guildId : ∀ row ∈ realm.guildRows, row.1 ≠ 0
  rankId : ∀ id guild, realm.getGuild id = some guild → ∀ otherId other, realm.getGuild otherId = some other →
    ∀ rank ∈ guild.ranks, ∀ otherRank ∈ other.ranks, rank.id = otherRank.id → id = otherId
  ranked : ∀ rank, player.guildRank = some rank →
    ∃ id guild, player.guild = some id ∧ realm.getGuild id = some guild ∧ rank ∈ guild.ranks
  unranked : player.guildRank = none → player.guild = none

end

theorem lines_getline (text : Bytes) :
    lines text = match getline text with
      | none => []
      | some (line, rest) => line :: lines rest := by
  induction text with
  | nil => rfl
  | cons letter text ih =>
    by_cases newline : letter = 10
    · subst newline
      rfl
    · have passed : decide (letter ≠ 10) = true := decide_eq_true newline
      show (if letter = 10 then [] :: lines text else match lines text with
        | [] => [[letter]]
        | line :: rest => (letter :: line) :: rest) = _
      rw [if_neg newline, ih]
      unfold getline
      rw [if_neg (cons_ne_nil _ _), takeWhile_cons, if_pos passed, dropWhile_cons, if_pos passed]
      by_cases last : text = []
      · subst last
        rfl
      · rw [if_neg last]

section
variable {realm : Realm} {player : Member} {list : AccessList}

theorem isInList_iff : list.isInList player = true ↔
    list.allowEveryone = true ∨ player.character.guid ∈ list.playerList ∨
      ∃ rank, player.guildRank = some rank ∧ rank.id ∈ list.guildRankList := by
  unfold AccessList.isInList
  by_cases everyone : list.allowEveryone = true
  · rw [if_pos everyone]
    exact iff_of_true rfl (.inl everyone)
  · rw [if_neg everyone, or_iff_right everyone]
    by_cases named : player.character.guid ∈ list.playerList
    · rw [if_pos named]
      exact iff_of_true rfl (.inl named)
    · rw [if_neg named, or_iff_right named]
      cases player.guildRank with
      | none => exact iff_of_false Bool.false_ne_true fun ⟨_, same, _⟩ => by cases same
      | some rank =>
        dsimp only
        rw [decide_eq_true_iff]
        constructor
        · exact fun there => ⟨rank, rfl, there⟩
        · intro ⟨other, same, there⟩
          cases same
          exact there

/-- An entry alone lets the player in. -/
def Adds (realm : Realm) (player : Member) (line : Bytes) : Prop :=
  (({} : AccessList).addEntry realm line).isInList player = true

theorem isInList_empty : ¬ ({} : AccessList).isInList player = true := by
  rw [isInList_iff]
  intro either
  rcases either with everyone | named | ⟨_, _, ranked⟩
  · exact Bool.false_ne_true everyone
  · cases named
  · cases ranked

/-- A list with what another one has too. -/
def AccessList.With (list more both : AccessList) : Prop :=
  both.allowEveryone = (more.allowEveryone || list.allowEveryone) ∧ both.playerList = more.playerList ++ list.playerList ∧
    both.guildRankList = more.guildRankList ++ list.guildRankList

theorem AccessList.With.isInList {more both : AccessList} (joined : list.With more both) :
    both.isInList player = true ↔ list.isInList player = true ∨ more.isInList player = true := by
  obtain ⟨everyone, players, ranks⟩ := joined
  rw [isInList_iff, isInList_iff, isInList_iff, everyone, players, ranks, Bool.or_eq_true, mem_append]
  constructor
  · intro either
    rcases either with (one | two) | (one | two) | ⟨rank, has, there⟩
    · exact .inr (.inl one)
    · exact .inl (.inl two)
    · exact .inr (.inr (.inl one))
    · exact .inl (.inr (.inl two))
    · rcases mem_append.mp there with one | two
      · exact .inr (.inr (.inr ⟨rank, has, one⟩))
      · exact .inl (.inr (.inr ⟨rank, has, two⟩))
  · intro either
    rcases either with (two | two | ⟨rank, has, two⟩) | (one | one | ⟨rank, has, one⟩)
    · exact .inl (.inr two)
    · exact .inr (.inl (.inr two))
    · exact .inr (.inr ⟨rank, has, mem_append_right _ two⟩)
    · exact .inl (.inl one)
    · exact .inr (.inl (.inl one))
    · exact .inr (.inr ⟨rank, has, mem_append_left _ one⟩)

theorem with_addEntry (line : Bytes) : list.With (({} : AccessList).addEntry realm line) (list.addEntry realm line) := by
  have nothing : list.With {} list := ⟨rfl, rfl, rfl⟩
  unfold AccessList.addEntry
  cases line.idxOf? 64 with
  | some at_pos =>
    dsimp only
    split
    · unfold AccessList.addGuild
      split
      · exact ⟨rfl, rfl, by rw [append_nil]⟩
      · exact nothing
    · unfold AccessList.addGuildRank
      split
      · exact ⟨rfl, rfl, rfl⟩
      · exact nothing
  | none =>
    dsimp only
    split
    · exact ⟨rfl, rfl, rfl⟩
    · split
      · exact nothing
      · unfold AccessList.addPlayer
        split
        · exact ⟨rfl, rfl, rfl⟩
        · dsimp only
          split
          · exact ⟨rfl, rfl, rfl⟩
          · exact nothing

theorem isInList_addEntry (line : Bytes) :
    (list.addEntry realm line).isInList player = true ↔ list.isInList player = true ∨ Adds realm player line :=
  (with_addEntry line).isInList

theorem isInList_addLine (line : Bytes) :
    (list.addLine realm line).isInList player = true ↔
      list.isInList player = true ∨ ∃ small ∈ [line].filterMap entry, Adds realm player small := by
  unfold AccessList.addLine
  dsimp only
  by_cases passed : trim line = [] ∨ (trim line).head? = some 35 ∨ (trim line).length > 100
  · have none : entry line = none := if_pos passed
    rw [if_pos passed, filterMap_cons, none]
    exact (or_iff_left fun ⟨_, there, _⟩ => by cases there).symm
  · have some : entry line = some (toLowerCopy (trim line)) := if_neg passed
    rw [if_neg passed, filterMap_cons, some, isInList_addEntry]
    apply or_congr_right
    constructor
    · exact fun adds => ⟨_, mem_singleton.mpr rfl, adds⟩
    · intro ⟨small, there, adds⟩
      exact mem_singleton.mp there ▸ adds

/-- The loop reads up to the ninety-ninth line. -/
theorem isInList_readLines (lineNo : Nat) (stream : Bytes) :
    (readLines realm lineNo stream list).isInList player = true ↔
      list.isInList player = true ∨ ∃ line ∈ ((lines stream).take (100 - lineNo)).filterMap entry, Adds realm player line := by
  fun_induction readLines realm lineNo stream list with
  | case1 lineNo stream list ended =>
    rw [lines_getline, ended, take_nil]
    exact (or_iff_left fun ⟨_, there, _⟩ => by cases there).symm
  | case2 lineNo stream list line rest read past =>
    have none : 100 - lineNo = 0 := Nat.sub_eq_zero_of_le (Nat.le_of_lt_succ past)
    rw [none, take_zero]
    exact (or_iff_left fun ⟨_, there, _⟩ => by cases there).symm
  | case3 lineNo stream list line rest read more ih =>
    have left : 100 - lineNo = 100 - (lineNo + 1) + 1 := by omega
    rw [lines_getline, read, left, take_succ_cons, ih, isInList_addLine, or_assoc]
    apply or_congr_right
    have split : (line :: (lines rest).take (100 - (lineNo + 1))).filterMap entry =
        [line].filterMap entry ++ ((lines rest).take (100 - (lineNo + 1))).filterMap entry :=
      @filterMap_append _ _ [line] _ entry
    rw [split]
    constructor
    · intro either
      rcases either with ⟨small, there, adds⟩ | ⟨small, there, adds⟩
      · exact ⟨small, mem_append_left _ there, adds⟩
      · exact ⟨small, mem_append_right _ there, adds⟩
    · intro ⟨small, there, adds⟩
      rcases mem_append.mp there with first | later
      · exact .inl ⟨small, first, adds⟩
      · exact .inr ⟨small, later, adds⟩

theorem isInList_parseList (text : Bytes) :
    (parseList realm text).isInList player = true ↔ ∃ line ∈ entries 99 text, Adds realm player line := by
  unfold parseList
  by_cases empty : text = []
  · subst empty
    exact iff_of_false isInList_empty fun ⟨_, there, _⟩ => by cases there
  · rw [if_neg empty, isInList_readLines]
    exact or_iff_right isInList_empty

end

section
variable {realm : Realm} {player : Member}

theorem isInList_addGuild (name : Bytes) : (({} : AccessList).addGuild realm name).isInList player = true ↔
    ∃ guild, realm.getGuildByName name = some guild ∧ ∃ rank, player.guildRank = some rank ∧ rank.id ∈ guild.ranks.map GuildRank.id := by
  unfold AccessList.addGuild
  cases realm.getGuildByName name with
  | none => exact iff_of_false isInList_empty fun ⟨_, there, _⟩ => by cases there
  | some guild =>
    dsimp only
    rw [isInList_iff, or_iff_right Bool.false_ne_true, or_iff_right not_mem_nil, append_nil]
    constructor
    · exact fun ranked => ⟨guild, rfl, ranked⟩
    · intro ⟨other, same, ranked⟩
      cases same
      exact ranked

theorem getGuildByName_row {name : Bytes} {guild : Guild} (found : realm.getGuildByName name = some guild) :
    ∃ row ∈ realm.guildRows, realm.sameName row.2 name = true ∧ realm.getGuild row.1 = some guild := by
  unfold Realm.getGuildByName at found
  dsimp only at found
  by_cases zero : realm.getGuildIdByName name = 0
  · rw [if_pos zero] at found
    cases found
  · rw [if_neg zero] at found
    unfold Realm.getGuildIdByName at zero found
    cases first : realm.guildRows.find? fun row => realm.sameName row.2 name with
    | none =>
      rw [first] at zero
      exact absurd rfl zero
    | some row =>
      rw [first] at found
      exact ⟨row, mem_of_find?_eq_some first, (find?_some first : _), found⟩

theorem getGuildByName_eq (consistent : Consistent realm player) {name : Bytes} {row : UInt32 × Bytes} (listed : row ∈ realm.guildRows)
    (named : realm.sameName row.2 name = true) : realm.getGuildByName name = realm.getGuild row.1 := by
  have first : realm.guildRows.find? (fun row => realm.sameName row.2 name) = some row := by
    cases found : realm.guildRows.find? fun row => realm.sameName row.2 name with
    | none => exact absurd named (find?_eq_none.mp found row listed)
    | some other =>
      have also := find?_some found
      have same := consistent.guildName other (mem_of_find?_eq_some found) row listed
        (consistent.equal.trans also (consistent.equal.symm named))
      rw [same]
  unfold Realm.getGuildByName Realm.getGuildIdByName
  dsimp only
  rw [first]
  exact if_neg (consistent.guildId row listed)

theorem adds_guild (consistent : Consistent realm player) (name : Bytes) :
    Adds realm player (64 :: name) ↔ InGuild realm player name := by
  have added : ({} : AccessList).addEntry realm (64 :: name) = ({} : AccessList).addGuild realm name := rfl
  unfold Adds
  rw [added, isInList_addGuild]
  constructor
  · intro ⟨guild, found, rank, has, there⟩
    obtain ⟨row, listed, named, loaded⟩ := getGuildByName_row found
    obtain ⟨other, member, same⟩ := mem_map.mp there
    obtain ⟨id, own, his, ownLoaded, ranked⟩ := consistent.ranked rank has
    have equal := consistent.rankId id own ownLoaded row.1 guild loaded rank ranked other member same.symm
    exact ⟨row, listed, equal ▸ his, named⟩
  · intro ⟨row, listed, his, named⟩
    cases has : player.guildRank with
    | none =>
      rw [consistent.unranked has] at his
      cases his
    | some rank =>
      obtain ⟨id, own, hisToo, loaded, ranked⟩ := consistent.ranked rank has
      have same : id = row.1 := Option.some.inj (hisToo.symm.trans his)
      subst same
      exact ⟨own, (getGuildByName_eq consistent listed named).trans loaded, rank, rfl, mem_map.mpr ⟨rank, ranked, rfl⟩⟩

theorem isInList_addPlayer (name : Bytes) : (({} : AccessList).addPlayer realm name).isInList player = true ↔
    (∃ other, realm.getPlayerByName name = some other ∧ player.character.guid = other.guid) ∨
      realm.getPlayerByName name = none ∧ realm.getGuidByName name ≠ 0 ∧ player.character.guid = realm.getGuidByName name := by
  have one : ∀ guid, ({ playerList := [guid] } : AccessList).isInList player = true ↔ player.character.guid = guid := by
    intro guid
    have noRank : ¬ ∃ rank, player.guildRank = some rank ∧ rank.id ∈ ([] : List UInt32) := fun ⟨_, _, there⟩ => by cases there
    rw [isInList_iff, or_iff_right Bool.false_ne_true, or_iff_left noRank, mem_singleton]
  unfold AccessList.addPlayer
  cases realm.getPlayerByName name with
  | some other =>
    dsimp only
    rw [one]
    constructor
    · exact fun same => .inl ⟨other, rfl, same⟩
    · intro either
      rcases either with ⟨_, found, same⟩ | ⟨none, _⟩
      · cases found
        exact same
      · cases none
  | none =>
    have offline : ¬ ∃ other, none = some other ∧ player.character.guid = Character.guid other := fun ⟨_, found, _⟩ => by cases found
    dsimp only
    rw [or_iff_right offline]
    by_cases known : realm.getGuidByName name ≠ 0
    · rw [if_pos known, one]
      exact ⟨fun same => ⟨rfl, known, same⟩, fun both => both.2.2⟩
    · rw [if_neg known]
      exact iff_of_false isInList_empty fun both => known both.2.1

theorem getPlayerByName_row (consistent : Consistent realm player) {name : Bytes} {other : Character}
    (found : realm.getPlayerByName name = some other) :
    (other.guid, other.name) ∈ realm.players ∧ realm.sameName other.name name = true := by
  obtain ⟨id, mapped, online⟩ := Option.bind_eq_some_iff.mp found
  unfold PlayerIndex.getPlayerByName at mapped
  by_cases empty : name = []
  · rw [if_pos empty] at mapped
    cases mapped
  · rw [if_neg empty] at mapped
    obtain ⟨character, there, small⟩ := consistent.coherent.names _ id mapped
    have same : character = other := Option.some.inj (there.symm.trans online)
    subst same
    have own := consistent.lower character.name
    have asked := consistent.lower name
    unfold Character.lowercaseName at small
    rw [small] at own
    exact ⟨consistent.online id character online, consistent.equal.trans (consistent.equal.symm own) asked⟩

theorem adds_named (consistent : Consistent realm player) {line : Bytes} (plain : 64 ∉ line ∧ 33 ∉ line ∧ 42 ∉ line ∧ 63 ∉ line) :
    Adds realm player line ↔ realm.sameName player.character.name line = true := by
  obtain ⟨noAt, noMark, noStar, noQuestion⟩ := plain
  have added : ({} : AccessList).addEntry realm line = ({} : AccessList).addPlayer realm line := by
    have alone : ¬ line = [42] := fun same => noStar (same ▸ mem_singleton.mpr rfl)
    have wild : ¬ (33 ∈ line ∨ 42 ∈ line ∨ 63 ∈ line) := by
      rw [not_or, not_or]
      exact ⟨noMark, noStar, noQuestion⟩
    unfold AccessList.addEntry
    rw [idxOf?_eq_none_iff.mpr noAt]
    dsimp only
    rw [if_neg alone, if_neg wild]
  unfold Adds
  rw [added, isInList_addPlayer]
  constructor
  · intro either
    rcases either with ⟨other, found, same⟩ | ⟨_, known, same⟩
    · obtain ⟨listed, named⟩ := getPlayerByName_row consistent found
      have rows := consistent.playerId _ consistent.own _ listed same
      rw [show player.character.name = other.name from congrArg Prod.snd rows]
      exact named
    · unfold Realm.getGuidByName at known same
      cases found : realm.players.find? fun row => realm.sameName row.2 line with
      | none =>
        rw [found] at known
        exact absurd rfl known
      | some row =>
        have named := find?_some found
        rw [found] at same
        have rows := consistent.playerId _ consistent.own row (mem_of_find?_eq_some found) same
        rw [show player.character.name = row.2 from congrArg Prod.snd rows]
        exact named
  · intro named
    cases found : realm.getPlayerByName line with
    | some other =>
      obtain ⟨listed, also⟩ := getPlayerByName_row consistent found
      have rows := consistent.playerName _ consistent.own _ listed (consistent.equal.trans named (consistent.equal.symm also))
      exact .inl ⟨other, rfl, congrArg Prod.fst rows⟩
    | none =>
      have guid : realm.getGuidByName line = player.character.guid := by
        unfold Realm.getGuidByName
        cases first : realm.players.find? fun row => realm.sameName row.2 line with
        | none => exact absurd named (find?_eq_none.mp first _ consistent.own)
        | some row =>
          have also := find?_some first
          have rows := consistent.playerName _ consistent.own row (mem_of_find?_eq_some first)
            (consistent.equal.trans named (consistent.equal.symm also))
          exact congrArg Prod.fst rows.symm
      rw [guid]
      exact .inr ⟨rfl, player.character.identified, rfl⟩

theorem adds_of_admits (consistent : Consistent realm player) {line : Bytes} (admits : Admits realm player line) :
    Adds realm player line := by
  cases admits with
  | everyone => exact isInList_iff.mpr (.inl rfl)
  | guild member => exact (adds_guild consistent _).mpr member
  | named plain name => exact (adds_named consistent plain).mpr name

theorem admits_of_adds (consistent : Consistent realm player) {line : Bytes} (adds : Adds realm player line) :
    Admits realm player line ∨ 64 ∈ line ∧ line.head? ≠ some 64 := by
  by_cases at_sign : 64 ∈ line
  · cases line with
    | nil => cases at_sign
    | cons letter name =>
      by_cases first : letter = 64
      · subst first
        exact .inl (.guild ((adds_guild consistent name).mp adds))
      · exact .inr ⟨at_sign, fun same => first (Option.some.inj same)⟩
  · left
    by_cases everyone : line = [42]
    · exact everyone ▸ .everyone
    · by_cases wild : 33 ∈ line ∨ 42 ∈ line ∨ 63 ∈ line
      · have nothing : ({} : AccessList).addEntry realm line = {} := by
          unfold AccessList.addEntry
          rw [idxOf?_eq_none_iff.mpr at_sign]
          dsimp only
          rw [if_neg everyone, if_pos wild]
        unfold Adds at adds
        rw [nothing] at adds
        exact absurd adds isInList_empty
      · obtain ⟨noMark, noStar, noQuestion⟩ : 33 ∉ line ∧ 42 ∉ line ∧ 63 ∉ line := by
          rwa [not_or, not_or] at wild
        have plain : 64 ∉ line ∧ 33 ∉ line ∧ 42 ∉ line ∧ 63 ∉ line := ⟨at_sign, noMark, noStar, noQuestion⟩
        exact .named plain ((adds_named consistent plain).mp adds)

theorem entries_mono {count more : Nat} (less : count ≤ more) (text : Bytes) {line : Bytes} (listed : line ∈ entries count text) :
    line ∈ entries more text := by
  obtain ⟨raw, there, small⟩ := mem_filterMap.mp listed
  exact mem_filterMap.mpr ⟨raw, (take_sublist_take_left less).subset there, small⟩

/-- An entry of the first ninety-nine lines that admits the player lets him in, and he is let in by an entry of the first hundred
that admits him, unless one of them asks for a rank. -/
theorem isInList_between (realm : Realm) (player : Member) (consistent : Consistent realm player) (text : Bytes) :
    (Listed realm player 99 text → (parseList realm text).isInList player = true) ∧
      ((parseList realm text).isInList player = true → Listed realm player 100 text ∨ AsksRank 100 text) := by
  rw [isInList_parseList]
  constructor
  · intro ⟨line, listed, admits⟩
    exact ⟨line, listed, adds_of_admits consistent admits⟩
  · intro ⟨line, listed, adds⟩
    have listed := entries_mono (Nat.le_succ 99) text listed
    rcases admits_of_adds consistent adds with admits | rank
    · exact .inl ⟨line, listed, admits⟩
    · exact .inr ⟨line, listed, rank⟩

end

section

/-- What a pattern stands for: an asterisk for any letters, a question mark for one. -/
inductive Glob : Bytes → Bytes → Prop where
  | done : Glob [] []
  | any {pattern name : Bytes} (front : Bytes) (rest : Glob pattern name) : Glob (42 :: pattern) (front ++ name)
  | one {pattern name : Bytes} (letter : UInt8) (rest : Glob pattern name) : Glob (63 :: pattern) (letter :: name)
  | same {pattern name : Bytes} (letter : UInt8) (rest : Glob pattern name) : Glob (letter :: pattern) (letter :: name)

variable (realm : Realm) (player : Member)

/-- Whom a line may stand for, with patterns and ranks. -/
inductive Stands : Bytes → Prop where
  | admits {line : Bytes} (admits : Admits realm player line) : Stands line
  | pattern {line : Bytes} (glob : Glob line player.character.lowercaseName) : Stands line
  | rank {rank name : Bytes} (own : ∃ held, player.guildRank = some held ∧ realm.sameName held.name rank = true)
      (member : InGuild realm player name) : Stands (rank ++ 64 :: name)

/-- One of the first hundred lines that are no comments stands for the player. -/
def StandsIn (text : Bytes) : Prop :=
  ∃ line ∈ (((lines text).map trim).filter fun line => line ≠ [] ∧ line.head? ≠ some 35).take 100, Stands realm player (toLowerCopy line)

/-- A hall with one player, the leader of a guild. -/
def hall : Realm where
  index := {}
  guilds _ := none
  players := [(2, [71, 97, 108])]
  guildRows := [(5, [65])]
  guildRanks := [(⟨3, [66]⟩, 5)]
  sameName name other := toLowerCopy name = toLowerCopy other

def leader : Member := ⟨⟨2, [71, 97, 108], by decide, by decide⟩, some 5, some ⟨3, [66]⟩⟩

theorem getGuild_hall {id : UInt32} {guild : Guild} (found : hall.getGuild id = some guild) : id = 5 := by
  have loaded : (if hall.guildRows.any fun row => row.1 = id then
      some ({ ranks := (hall.guildRanks.filter fun row => row.2 = id).map Prod.fst } : Guild) else none) = some guild := found
  by_cases there : (hall.guildRows.any fun row => row.1 = id) = true
  · obtain ⟨row, listed, same⟩ := any_eq_true.mp there
    have only := mem_singleton.mp listed
    subst only
    exact (of_decide_eq_true same).symm
  · rw [if_neg there] at loaded
    cases loaded

theorem consistent_hall : Consistent hall leader where
  coherent := PlayerIndex.coherent_empty
  online := nofun
  own := mem_singleton.mpr rfl
  equal := by
    constructor
    · exact fun name => decide_eq_true rfl
    · exact fun same => decide_eq_true (of_decide_eq_true same).symm
    · exact fun first second => decide_eq_true ((of_decide_eq_true first).trans (of_decide_eq_true second))
  lower := fun name => decide_eq_true (toLowerCopy_toLowerCopy name)
  playerId := fun _ listed _ also _ => (mem_singleton.mp listed).trans (mem_singleton.mp also).symm
  playerName := fun _ listed _ also _ => (mem_singleton.mp listed).trans (mem_singleton.mp also).symm
  guildName := fun _ listed _ also _ => (mem_singleton.mp listed).trans (mem_singleton.mp also).symm
  guildId := by
    intro row listed
    have only := mem_singleton.mp listed
    subst only
    decide
  rankId := fun _ _ found _ _ also _ _ _ _ _ => (getGuild_hall found).trans (getGuild_hall also).symm
  ranked := by
    intro rank has
    cases has
    exact ⟨5, ⟨[⟨3, [66]⟩]⟩, rfl, rfl, mem_singleton.mpr rfl⟩
  unranked := nofun

/-- A comment, and then the guild of the leader. -/
theorem isInList_between_hall : (parseList hall [35, 10, 64, 97]).isInList leader = true := by
  apply (isInList_between hall leader consistent_hall [35, 10, 64, 97]).1
  refine ⟨[64, 97], by decide, .guild ?_⟩
  exact ⟨(5, [65]), mem_singleton.mpr rfl, rfl, by decide⟩

/-- A line with an asterisk behind the first letter of the name is passed over. -/
theorem pattern_passed : Consistent hall leader ∧
    ¬ ((parseList hall [103, 42]).isInList leader = true ↔ StandsIn hall leader [103, 42]) := by
  refine ⟨consistent_hall, ?_⟩
  intro right
  have glob : Glob [103, 42] [103, 97, 108] := .same 103 (.any [97, 108] .done)
  have inside := right.mpr ⟨[103, 42], by decide, .pattern glob⟩
  rcases (isInList_parseList [103, 42]).mp inside with ⟨line, listed, adds⟩
  have only : line = [103, 42] := by
    have entries : entries 99 [103, 42] = [[103, 42]] := by decide
    rw [entries] at listed
    exact mem_singleton.mp listed
  subst only
  exact absurd adds (by unfold Adds; decide)

end

end Styller.AccessLists
