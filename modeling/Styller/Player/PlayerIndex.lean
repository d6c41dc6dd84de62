import Styller.Library.Run
import Styller.Player.WildcardTree

/-! The players that are online with what finds them by their names and guids: `addPlayer` and `removePlayer`, and the logins
and logouts that call them. -/

namespace Styller

open Library Function

/-- A character; the account manager is one too. -/
structure Character where
  guid : UInt32
  name : Bytes
  identified : guid ≠ 0
  named : name ≠ []
  deriving DecidableEq

def Character.lowercaseName (character : Character) : Bytes := toLowerCopy character.name

theorem Character.lowercaseName_ne (character : Character) : character.lowercaseName ≠ [] :=
  fun none => character.named (List.map_eq_nil_iff.mp none)

/-- `Game` as far as it finds the players that are online; the pointers to players are their ids. -/
structure PlayerIndex where
  players : Nat → Option Character := fun _ => none
  mappedPlayerNames : Bytes → Option Nat := fun _ => none
  mappedPlayerGuids : UInt32 → Option Nat := fun _ => none
  wildcardTree : WildcardTreeNode := .leaf false
  playerAutoID : Nat := 0x10000000

namespace PlayerIndex
variable (index : PlayerIndex)

def getPlayerByName (s : Bytes) : Option Nat := if s = [] then none else index.mappedPlayerNames (toLowerCopy s)

def getPlayerByGUID (guid : UInt32) : Option Nat := if guid = 0 then none else index.mappedPlayerGuids guid

def addPlayer (id : Nat) (player : Character) : PlayerIndex where
  mappedPlayerNames := Function.update index.mappedPlayerNames player.lowercaseName (some id)
  mappedPlayerGuids := Function.update index.mappedPlayerGuids player.guid (some id)
  wildcardTree := index.wildcardTree.insert player.lowercaseName
  players := Function.update index.players id (some player)
  playerAutoID := index.playerAutoID

def removePlayer (id : Nat) (player : Character) : PlayerIndex where
  mappedPlayerNames := Function.update index.mappedPlayerNames player.lowercaseName none
  mappedPlayerGuids := Function.update index.mappedPlayerGuids player.guid none
  wildcardTree := index.wildcardTree.remove player.lowercaseName
  players := Function.update index.players id none
  playerAutoID := index.playerAutoID

/-- A player comes or goes. -/
inductive Event where
  /-- A login of a character; it may be a second player of it if clones are allowed or it is the account manager. -/
  | login (player : Character) (clones : Bool)
  /-- The player with an id leaves. -/
  | logout (id : Nat)

/-- `ProtocolGame::login` gives the new player the next id, unless the character is online and takes the player that is there. -/
def step : Event → PlayerIndex
  | .login player clones =>
    if (index.getPlayerByGUID player.guid).isNone || clones then
      { index.addPlayer index.playerAutoID player with playerAutoID := index.playerAutoID + 1 }
    else index
  | .logout id =>
    match index.players id with
    | some player => index.removePlayer id player
    | none => index

/-- The names and guids that are found are those of the players that are online. -/
structure Coherent : Prop where
  names : ∀ key id, index.mappedPlayerNames key = some id → ∃ player, index.players id = some player ∧ player.lowercaseName = key
  guids : ∀ guid id, index.mappedPlayerGuids guid = some id → ∃ player, index.players id = some player ∧ player.guid = guid
  tree : ∀ key, index.wildcardTree.contains key = true ↔ ∃ id player, index.players id = some player ∧ player.lowercaseName = key
  byName : ∀ id player, index.players id = some player → (index.getPlayerByName player.name).isSome
  byGuid : ∀ id player, index.players id = some player → (index.getPlayerByGUID player.guid).isSome

/-- No other player that is online has the name or the guid of the one that leaves. -/
def Alone : Event → Prop
  | .login _ _ => True
  | .logout id => ∀ player, index.players id = some player → ∀ other_id other, index.players other_id = some other →
      other_id ≠ id → other.lowercaseName ≠ player.lowercaseName ∧ other.guid ≠ player.guid

/-- Ids that are still to come are free. -/
def Fresh : Prop := ∀ id, index.playerAutoID ≤ id → index.players id = none

variable {index} {player : Character} {id : Nat}

@[simp] theorem getPlayerByName_name : index.getPlayerByName player.name = index.mappedPlayerNames player.lowercaseName :=
  if_neg player.named

@[simp] theorem getPlayerByGUID_guid : index.getPlayerByGUID player.guid = index.mappedPlayerGuids player.guid :=
  if_neg player.identified

theorem fresh_step (fresh : index.Fresh) (event : Event) : (index.step event).Fresh := by
  cases event with
  | login player clones =>
    unfold step
    simp only
    split
    · intro id later
      have different : id ≠ index.playerAutoID := Nat.ne_of_gt later
      exact (update_of_ne different _ _).trans (fresh id (Nat.le_of_succ_le later))
    · exact fresh
  | logout id =>
    unfold step
    simp only
    split
    · intro other later
      simp only [removePlayer, update_apply]
      split
      · rfl
      · exact fresh other later
    · exact fresh

theorem coherent_addPlayer (coherent : index.Coherent) (free : index.players id = none) : (index.addPlayer id player).Coherent := by
  have players : ∀ other character, (index.addPlayer id player).players other = some character ↔
      other = id ∧ character = player ∨ index.players other = some character := by
    intro other character
    simp only [addPlayer, update_apply]
    by_cases same : other = id
    · subst same
      rw [if_pos rfl, free]
      simp [eq_comm]
    · simp [same]
  constructor
  · intro key other found
    simp only [addPlayer, update_apply] at found
    split at found
    · rename_i same
      cases found
      exact ⟨player, (players id player).mpr (.inl ⟨rfl, rfl⟩), same.symm⟩
    · obtain ⟨character, online, name⟩ := coherent.names key other found
      exact ⟨character, (players other character).mpr (.inr online), name⟩
  · intro guid other found
    simp only [addPlayer, update_apply] at found
    split at found
    · rename_i same
      cases found
      exact ⟨player, (players id player).mpr (.inl ⟨rfl, rfl⟩), same.symm⟩
    · obtain ⟨character, online, same⟩ := coherent.guids guid other found
      exact ⟨character, (players other character).mpr (.inr online), same⟩
  · intro key
    have inserted : (index.wildcardTree.insert player.lowercaseName).contains key = true ↔
        key = player.lowercaseName ∨ index.wildcardTree.contains key = true :=
      WildcardTreeNode.contains_insert player.lowercaseName_ne
    rw [addPlayer, inserted, coherent.tree]
    constructor
    · rintro (rfl | ⟨other, character, online, name⟩)
      · exact ⟨id, player, (players id player).mpr (.inl ⟨rfl, rfl⟩), rfl⟩
      · exact ⟨other, character, (players other character).mpr (.inr online), name⟩
    · rintro ⟨other, character, online, name⟩
      rcases (players other character).mp online with ⟨-, rfl⟩ | before
      · exact .inl name.symm
      · exact .inr ⟨other, character, before, name⟩
  · intro other character online
    rw [getPlayerByName_name]
    simp only [addPlayer, update_apply]
    split
    · rfl
    · rename_i different
      rcases (players other character).mp online with ⟨-, rfl⟩ | before
      · exact absurd rfl different
      · have found := coherent.byName other character before
        rwa [getPlayerByName_name] at found
  · intro other character online
    rw [getPlayerByGUID_guid]
    simp only [addPlayer, update_apply]
    split
    · rfl
    · rename_i different
      rcases (players other character).mp online with ⟨-, rfl⟩ | before
      · exact absurd rfl different
      · have found := coherent.byGuid other character before
        rwa [getPlayerByGUID_guid] at found

/-- A player that leaves takes its name and guid with it, also where another player has them too. -/
theorem coherent_removePlayer (coherent : index.Coherent) (online : index.players id = some player) :
    (index.removePlayer id player).Coherent ↔ index.Alone (.logout id) := by
  have players : ∀ other character, (index.removePlayer id player).players other = some character ↔
      other ≠ id ∧ index.players other = some character := by
    intro other character
    simp only [removePlayer, update_apply]
    by_cases same : other = id
    · simp [same]
    · simp [same]
  have names : ∀ key, (index.removePlayer id player).mappedPlayerNames key =
      if key = player.lowercaseName then none else index.mappedPlayerNames key := by
    intro key
    exact update_apply _ _ _ _
  have guids : ∀ guid, (index.removePlayer id player).mappedPlayerGuids guid =
      if guid = player.guid then none else index.mappedPlayerGuids guid := by
    intro guid
    exact update_apply _ _ _ _
  constructor
  · intro after player' online' other_id other there different
    cases online.symm.trans online'
    have still := (players other_id other).mpr ⟨different, there⟩
    constructor
    · intro same
      have found := after.byName other_id other still
      rw [getPlayerByName_name, names, if_pos same] at found
      cases found
    · intro same
      have found := after.byGuid other_id other still
      rw [getPlayerByGUID_guid, guids, if_pos same] at found
      cases found
  · intro alone
    constructor
    · intro key other found
      rw [names] at found
      split at found
      · cases found
      · rename_i different
        obtain ⟨character, there, name⟩ := coherent.names key other found
        refine ⟨character, (players other character).mpr ⟨?_, there⟩, name⟩
        rintro rfl
        cases online.symm.trans there
        exact different name.symm
    · intro guid other found
      rw [guids] at found
      split at found
      · cases found
      · rename_i different
        obtain ⟨character, there, same⟩ := coherent.guids guid other found
        refine ⟨character, (players other character).mpr ⟨?_, there⟩, same⟩
        rintro rfl
        cases online.symm.trans there
        exact different same.symm
    · intro key
      have removed : (index.removePlayer id player).wildcardTree.contains key = true ↔
          key ≠ player.lowercaseName ∧ index.wildcardTree.contains key = true := WildcardTreeNode.contains_remove
      rw [removed, coherent.tree]
      constructor
      · rintro ⟨different, other, character, there, name⟩
        refine ⟨other, character, (players other character).mpr ⟨?_, there⟩, name⟩
        rintro rfl
        cases online.symm.trans there
        exact different name.symm
      · rintro ⟨other, character, still, name⟩
        obtain ⟨different, there⟩ := (players other character).mp still
        refine ⟨?_, other, character, there, name⟩
        rw [← name]
        exact (alone player online other character there different).1
    · intro other character still
      obtain ⟨different, there⟩ := (players other character).mp still
      have found := coherent.byName other character there
      rw [getPlayerByName_name] at found ⊢
      rwa [names, if_neg (alone player online other character there different).1]
    · intro other character still
      obtain ⟨different, there⟩ := (players other character).mp still
      have found := coherent.byGuid other character there
      rw [getPlayerByGUID_guid] at found ⊢
      rwa [guids, if_neg (alone player online other character there different).2]

theorem coherent_step (fresh : index.Fresh) (coherent : index.Coherent) (event : Event) :
    (index.step event).Coherent ↔ index.Alone event := by
  cases event with
  | login player clones =>
    refine iff_of_true ?_ trivial
    unfold step
    simp only
    split
    · have added : (index.addPlayer index.playerAutoID player).Coherent :=
        coherent_addPlayer coherent (fresh index.playerAutoID (Nat.le_refl _))
      exact ⟨added.names, added.guids, added.tree, added.byName, added.byGuid⟩
    · exact coherent
  | logout id =>
    cases online : index.players id with
    | some player =>
      rw [step, online]
      exact coherent_removePlayer coherent online
    | none =>
      rw [step, online]
      refine iff_of_true coherent ?_
      intro player there
      cases online.symm.trans there

theorem coherent_empty : ({} : PlayerIndex).Coherent := by
  constructor
  · nofun
  · nofun
  · intro key
    constructor
    · intro contained
      rw [WildcardTreeNode.contains_leaf, Bool.false_and] at contained
      cases contained
    · nofun
  · nofun
  · nofun

/-- In a run of logins and logouts from the start of the server the names and guids that are found stay those of the players that
are online just if no player leaves while another one with its name or its guid is online. -/
theorem coherent_along_iff (events : List Event) :
    Always step Coherent {} events ↔ Throughout step Alone {} events :=
  always_iff_throughout Fresh (fun _ event fresh => fresh_step fresh event)
    (fun _ event fresh coherent => coherent_step fresh coherent event) (fun _ _ => rfl) coherent_empty events

def accountManager : Character := ⟨1, [65], by decide, by decide⟩

/-- The session that is left is not found any more. -/
theorem session_lost : ¬ ∀ events, Always step Coherent {} events := by
  intro always
  have last := (always [.login accountManager true, .login accountManager true, .logout 0x10000000]).2.2.2
  have found := last.byName 0x10000001 accountManager (by decide)
  exact absurd found (by decide)

end PlayerIndex

end Styller
