import Styller.Item.ReturnValue
import Mathlib.Tactic.Tauto

/-! `Combat::canDoCombat(attacker, target)` for players and for what they summon. -/

namespace Styller.TargetCombat

open Option

inductive WorldType where
  | noPvp
  | pvp
  | pvpEnforced
  deriving DecidableEq

inductive Skull where
  | none
  | yellow
  | green
  | white
  | red
  | black
  deriving DecidableEq

/-- `ZoneType_t`, as far as `Tile::getZone` returns it. -/
inductive ZoneType where
  | protection
  | noPvp
  | pvp
  | normal
  deriving DecidableEq

/-! Flags of groups and of tiles. -/

def cannotAttackPlayer : UInt64 := (1 : UInt64) <<< 1
def cannotAttackMonster : UInt64 := (1 : UInt64) <<< 2
def cannotBeAttacked : UInt64 := (1 : UInt64) <<< 3
def notGainInFight : UInt64 := (1 : UInt64) <<< 9

def protectionZone : UInt32 := (1 : UInt32) <<< 7
def noPvpZone : UInt32 := (1 : UInt32) <<< 8
def noLogout : UInt32 := (1 : UInt32) <<< 9
def pvpZone : UInt32 := (1 : UInt32) <<< 10

def zoneFlags : UInt32 := protectionZone ||| noPvpZone ||| noLogout ||| pvpZone

def hasBitSet (flag flags : UInt32) : Prop := flags &&& flag ≠ 0

instance (flag flags : UInt32) : Decidable (hasBitSet flag flags) :=
  inferInstanceAs (Decidable (flags &&& flag ≠ 0))

/-- What `canDoCombat` reads of a player: his group's flags, his vocation's `allowPvp`, the players
that he has attacked and his party. -/
structure Player where
  guid : UInt32
  flags : UInt64
  level : UInt32
  allowsPvp : Bool
  skull : Skull
  attackedSet : List UInt32
  party : Option Nat

inductive CreatureKind where
  | player (player : Player)
  | monster
  | npc

inductive Creature where
  | mk (kind : CreatureKind) (tile : UInt32) (master : Option Creature)

structure Env where
  worldType : WorldType
  protectionLevel : Int
  eventCreatureOnTargetCombat : Option Creature → Creature → ReturnValue

namespace Player

def hasFlag (player : Player) (flag : UInt64) : Prop := player.flags &&& flag ≠ 0

instance (player : Player) (flag : UInt64) : Decidable (player.hasFlag flag) :=
  inferInstanceAs (Decidable (player.flags &&& flag ≠ 0))

def getSkull (player : Player) : Skull := if player.hasFlag notGainInFight then .none else player.skull

def hasAttacked (player attacked : Player) : Prop :=
  ¬player.hasFlag notGainInFight ∧ attacked.guid ∈ player.attackedSet

instance (player attacked : Player) : Decidable (player.hasAttacked attacked) :=
  inferInstanceAs (Decidable (_ ∧ _))

/-- `isPartner`; one player is told from another by the guid. -/
def isPartner (player other : Player) : Prop :=
  player.party.isSome ∧ other.guid ≠ player.guid ∧ player.party = other.party

instance (player other : Player) : Decidable (player.isPartner other) :=
  inferInstanceAs (Decidable (_ ∧ _ ∧ _))

/-- `getSkullClient` of another player. -/
def getSkullClient (env : Env) (player other : Player) : Skull :=
  if env.worldType ≠ .pvp then .none
  else if other.getSkull ≠ .none then other.getSkull
  else if other.hasAttacked player then .yellow
  else if player.isPartner other then .green
  else other.getSkull

end Player

namespace Creature

def kind : Creature → CreatureKind
  | mk kind _ _ => kind

/-- The flags of `getTile()`. -/
def tile : Creature → UInt32
  | mk _ tile _ => tile

def getMaster : Creature → Option Creature
  | mk _ _ master => master

def getPlayer (creature : Creature) : Option Player :=
  match creature.kind with
  | .player player => some player
  | _ => none

/-- `isSummon() && getMaster()->getPlayer()`. -/
def masterPlayer (creature : Creature) : Option Player := creature.getMaster.bind getPlayer

/-- `Tile::getZone`. -/
def getZone (creature : Creature) : ZoneType :=
  if hasBitSet protectionZone creature.tile then .protection
  else if hasBitSet noPvpZone creature.tile then .noPvp
  else if hasBitSet pvpZone creature.tile then .pvp
  else .normal

end Creature

def isInPvpZone (attacker target : Creature) : Prop := attacker.getZone = .pvp ∧ target.getZone = .pvp

instance (attacker target : Creature) : Decidable (isInPvpZone attacker target) :=
  inferInstanceAs (Decidable (_ ∧ _))

def isProtected (env : Env) (attacker target : Player) : Prop :=
  (target.level.toNat < env.protectionLevel ∨ attacker.level.toNat < env.protectionLevel) ∨
    (¬attacker.allowsPvp ∨ ¬target.allowsPvp) ∨
      (attacker.getSkull = .black ∧ attacker.getSkullClient env target = .none)

instance (env : Env) (attacker target : Player) : Decidable (isProtected env attacker target) :=
  inferInstanceAs (Decidable (_ ∨ _ ∨ _))

def refuse (forbidden : Prop) [Decidable forbidden] (value : ReturnValue) : Option ReturnValue :=
  if forbidden then some value else none

def playerAgainstPlayer (env : Env) (attacker target : Creature) (attackerPlayer targetPlayer : Player) :
    Option ReturnValue :=
  refuse (attackerPlayer.hasFlag cannotAttackPlayer) .youMayNotAttackThisPlayer <|>
    refuse (isProtected env attackerPlayer targetPlayer) .youMayNotAttackThisPlayer <|>
    refuse (hasBitSet noPvpZone target.tile) .actionNotPermittedInANoPvpZone <|>
    refuse (hasBitSet noPvpZone attacker.tile ∧ ¬hasBitSet (noPvpZone ||| protectionZone) target.tile)
      .actionNotPermittedInANoPvpZone

def summonAgainstPlayer (env : Env) (target : Creature) (masterAttackerPlayer targetPlayer : Player) :
    Option ReturnValue :=
  refuse (masterAttackerPlayer.hasFlag cannotAttackPlayer) .youMayNotAttackThisPlayer <|>
    refuse (hasBitSet noPvpZone target.tile) .actionNotPermittedInANoPvpZone <|>
    refuse (isProtected env masterAttackerPlayer targetPlayer) .youMayNotAttackThisPlayer

/-- The branch of `canDoCombat` for a target that is a player. -/
def againstPlayer (env : Env) (attacker target : Creature) (targetPlayer : Player) : Option ReturnValue :=
  refuse (targetPlayer.hasFlag cannotBeAttacked) .youMayNotAttackThisPlayer <|>
    (attacker.getPlayer.bind fun attackerPlayer =>
      playerAgainstPlayer env attacker target attackerPlayer targetPlayer) <|>
    (attacker.masterPlayer.bind fun masterAttackerPlayer =>
      summonAgainstPlayer env target masterAttackerPlayer targetPlayer)

/-- The branch of `canDoCombat` for a target that is a monster. -/
def againstMonster (attacker target : Creature) : Option ReturnValue :=
  match attacker.kind with
  | .player attackerPlayer =>
    refuse (attackerPlayer.hasFlag cannotAttackMonster) .youMayNotAttackThisCreature <|>
      refuse (target.masterPlayer.isSome ∧ target.getZone = .noPvp) .actionNotPermittedInANoPvpZone
  | .monster =>
    refuse (target.masterPlayer = none ∧ attacker.masterPlayer = none) .youMayNotAttackThisCreature
  | .npc => none

/-- The rules of a world without fights between players. -/
def noPvpWorld (env : Env) (attacker target : Creature) : Option ReturnValue :=
  if env.worldType = .noPvp ∧ (attacker.getPlayer.isSome ∨ attacker.masterPlayer.isSome) then
    refuse (target.getPlayer.isSome ∧ ¬isInPvpZone attacker target) .youMayNotAttackThisPlayer <|>
      refuse (target.masterPlayer.isSome ∧ ¬isInPvpZone attacker target) .youMayNotAttackThisCreature
  else none

/-- The rules before the scripts are asked. -/
def refusal (env : Env) (attacker target : Creature) : Option ReturnValue :=
  (match target.kind with
    | .player targetPlayer => againstPlayer env attacker target targetPlayer
    | .monster => againstMonster attacker target
    | .npc => none) <|>
    noPvpWorld env attacker target

/-- `Combat::canDoCombat(attacker, target)`. -/
def canDoCombat (env : Env) (attacker : Option Creature) (target : Creature) : ReturnValue :=
  ((attacker.bind fun attacker => refusal env attacker target).getD
    (env.eventCreatureOnTargetCombat attacker target))

/-! Rules. -/

@[simp] theorem refuse_eq_none {forbidden : Prop} [Decidable forbidden] {value : ReturnValue} :
    refuse forbidden value = none ↔ ¬forbidden := by
  simp [refuse]

theorem orElse_eq_none {first second : Option ReturnValue} :
    (first <|> second) = none ↔ first = none ∧ second = none := by
  simp

/-- No rule refuses by saying that there is no error. -/
def Refusing (rule : Option ReturnValue) : Prop := rule ≠ some .noError

theorem refusing_refuse {forbidden : Prop} [Decidable forbidden] {value : ReturnValue}
    (error : value ≠ .noError) : Refusing (refuse forbidden value) := by
  unfold refuse
  split <;> simp [Refusing, error]

theorem refusing_none : Refusing none := nofun

theorem Refusing.orElse {first second : Option ReturnValue} (one : Refusing first) (two : Refusing second) :
    Refusing (first <|> second) := by
  cases first with
  | none => exact two
  | some value => exact one

theorem Refusing.bind {α : Type} {value : Option α} {rule : α → Option ReturnValue}
    (each : ∀ value, Refusing (rule value)) : Refusing (value.bind rule) := by
  cases value with
  | none => exact refusing_none
  | some value => exact each value

theorem refusing_againstPlayer (env : Env) (attacker target : Creature) (targetPlayer : Player) :
    Refusing (againstPlayer env attacker target targetPlayer) := by
  refine (refusing_refuse (by decide)).orElse (.orElse (.bind fun _ => ?_) (.bind fun _ => ?_))
  · exact (refusing_refuse (by decide)).orElse
      ((refusing_refuse (by decide)).orElse ((refusing_refuse (by decide)).orElse (refusing_refuse (by decide))))
  · exact (refusing_refuse (by decide)).orElse ((refusing_refuse (by decide)).orElse (refusing_refuse (by decide)))

theorem refusing_againstMonster (attacker target : Creature) : Refusing (againstMonster attacker target) := by
  unfold againstMonster
  split
  · exact (refusing_refuse (by decide)).orElse (refusing_refuse (by decide))
  · exact refusing_refuse (by decide)
  · exact refusing_none

theorem refusing_noPvpWorld (env : Env) (attacker target : Creature) :
    Refusing (noPvpWorld env attacker target) := by
  unfold noPvpWorld
  split
  · exact (refusing_refuse (by decide)).orElse (refusing_refuse (by decide))
  · exact refusing_none

theorem refusing_refusal (env : Env) (attacker target : Creature) : Refusing (refusal env attacker target) := by
  refine .orElse ?_ (refusing_noPvpWorld env attacker target)
  split
  · exact refusing_againstPlayer env attacker target _
  · exact refusing_againstMonster attacker target
  · exact refusing_none

/-- Where the scripts allow everything, a fight is allowed that no rule refuses. -/
theorem canDoCombat_eq_noError {env : Env}
    (allow : ∀ attacker target, env.eventCreatureOnTargetCombat attacker target = .noError)
    (attacker target : Creature) :
    canDoCombat env (some attacker) target = .noError ↔ refusal env attacker target = none := by
  unfold canDoCombat
  rw [bind_some]
  cases rule : refusal env attacker target with
  | none => simp [allow]
  | some value =>
    have refusing := refusing_refusal env attacker target
    rw [rule] at refusing
    simpa [Refusing] using refusing

/-! Zones. -/

/-- Two creatures stand on tiles with the same zone flags. -/
def SameZones (one other : Creature) : Prop := one.tile &&& zoneFlags = other.tile &&& zoneFlags

theorem SameZones.hasBitSet {one other : Creature} (same : SameZones one other) {flag : UInt32}
    (zone : zoneFlags &&& flag = flag) : hasBitSet flag one.tile ↔ hasBitSet flag other.tile := by
  unfold TargetCombat.hasBitSet
  rw [← zone, ← UInt32.and_assoc, ← UInt32.and_assoc, same]

theorem SameZones.getZone {one other : Creature} (same : SameZones one other) : one.getZone = other.getZone := by
  unfold Creature.getZone
  simp only [same.hasBitSet (show zoneFlags &&& protectionZone = protectionZone by decide),
    same.hasBitSet (show zoneFlags &&& noPvpZone = noPvpZone by decide),
    same.hasBitSet (show zoneFlags &&& pvpZone = pvpZone by decide)]

theorem SameZones.isInPvpZone {one other : Creature} (same : SameZones one other) (target : Creature) :
    isInPvpZone one target ↔ isInPvpZone other target := by
  unfold TargetCombat.isInPvpZone
  rw [same.getZone]

/-! A player and a monster that he has summoned. -/

def summonOf (player : Creature) (tile : UInt32) : Creature := .mk .monster tile (some player)

/-- A rule for players that has no counterpart for their summons refuses the player. -/
def RefusedAsPlayer (env : Env) (attacker : Creature) (attackerPlayer : Player) (target : Creature) : Prop :=
  match target.kind with
  | .player targetPlayer =>
    (hasBitSet noPvpZone attacker.tile ∧ ¬hasBitSet (noPvpZone ||| protectionZone) target.tile) ∨
      ∃ master, attacker.masterPlayer = some master ∧
        (master.hasFlag cannotAttackPlayer ∨ isProtected env master targetPlayer)
  | .monster => attackerPlayer.hasFlag cannotAttackMonster ∨ (target.masterPlayer.isSome ∧ target.getZone = .noPvp)
  | .npc => False

/-- A rule that players and their summons share refuses both. -/
def RefusedTogether (env : Env) (attacker : Creature) (attackerPlayer : Player) (target : Creature) : Prop :=
  match target.kind with
  | .player targetPlayer =>
    targetPlayer.hasFlag cannotBeAttacked ∨ attackerPlayer.hasFlag cannotAttackPlayer ∨
      isProtected env attackerPlayer targetPlayer ∨ hasBitSet noPvpZone target.tile ∨
        (env.worldType = .noPvp ∧ ¬isInPvpZone attacker target)
  | _ => env.worldType = .noPvp ∧ target.masterPlayer.isSome ∧ ¬isInPvpZone attacker target

section

variable {env : Env} {player : Creature} {attackerPlayer : Player} {target : Creature} {tile : UInt32}

theorem noPvpWorld_player (isPlayer : player.kind = .player attackerPlayer) :
    noPvpWorld env player target = none ↔
      (env.worldType = .noPvp → (target.getPlayer.isSome ∨ target.masterPlayer.isSome) →
        isInPvpZone player target) := by
  have getPlayer : player.getPlayer = some attackerPlayer := by simp [Creature.getPlayer, isPlayer]
  by_cases world : env.worldType = .noPvp
  · simp only [noPvpWorld, world, getPlayer, isSome_some, true_or, and_self, if_true, orElse_eq_none,
      refuse_eq_none]
    tauto
  · simp [noPvpWorld, world]

theorem noPvpWorld_summon (isPlayer : player.kind = .player attackerPlayer)
    (same : SameZones (summonOf player tile) player) :
    noPvpWorld env (summonOf player tile) target = noPvpWorld env player target := by
  have getPlayer : player.getPlayer = some attackerPlayer := by simp [Creature.getPlayer, isPlayer]
  have master : (summonOf player tile).masterPlayer = some attackerPlayer := getPlayer
  simp only [noPvpWorld, master, getPlayer, isSome_some, or_true, true_or, same.isInPvpZone target]

theorem againstPlayer_player {targetPlayer : Player} (isPlayer : player.kind = .player attackerPlayer) :
    againstPlayer env player target targetPlayer = none ↔
      ¬targetPlayer.hasFlag cannotBeAttacked ∧ playerAgainstPlayer env player target attackerPlayer targetPlayer = none ∧
        ∀ master, player.masterPlayer = some master → summonAgainstPlayer env target master targetPlayer = none := by
  have getPlayer : player.getPlayer = some attackerPlayer := by simp [Creature.getPlayer, isPlayer]
  simp only [againstPlayer, orElse_eq_none, refuse_eq_none, getPlayer, bind_some, bind_eq_none_iff]

theorem againstPlayer_summon {targetPlayer : Player} (isPlayer : player.kind = .player attackerPlayer) :
    againstPlayer env (summonOf player tile) target targetPlayer = none ↔
      ¬targetPlayer.hasFlag cannotBeAttacked ∧ summonAgainstPlayer env target attackerPlayer targetPlayer = none := by
  have getPlayer : player.getPlayer = some attackerPlayer := by simp [Creature.getPlayer, isPlayer]
  have master : (summonOf player tile).masterPlayer = some attackerPlayer := getPlayer
  have monster : (summonOf player tile).getPlayer = none := rfl
  simp only [againstPlayer, orElse_eq_none, refuse_eq_none, master, monster, bind_some, bind_none,
    true_and]

/-- The rules for a summon of a player are those that the two share. -/
theorem refusal_summon (isPlayer : player.kind = .player attackerPlayer)
    (same : SameZones (summonOf player tile) player) :
    refusal env (summonOf player tile) target = none ↔ ¬RefusedTogether env player attackerPlayer target := by
  have getPlayer : player.getPlayer = some attackerPlayer := by simp [Creature.getPlayer, isPlayer]
  have master : (summonOf player tile).masterPlayer = some attackerPlayer := getPlayer
  unfold refusal RefusedTogether
  rw [orElse_eq_none, noPvpWorld_summon isPlayer same, noPvpWorld_player isPlayer]
  cases kind : target.kind with
  | player targetPlayer =>
    simp only [againstPlayer_summon isPlayer, summonAgainstPlayer, orElse_eq_none, refuse_eq_none,
      Creature.getPlayer, kind, isSome_some, true_or, true_imp_iff]
    tauto
  | monster =>
    have allowed : againstMonster (summonOf player tile) target = none :=
      refuse_eq_none.mpr fun both => nomatch master.symm.trans both.2
    simp only [allowed, Creature.getPlayer, kind, isSome_none, true_and]
    tauto
  | npc =>
    simp only [Creature.getPlayer, kind, isSome_none, true_and]
    tauto

/-- The rules for a player are those that the two share and those for players alone. -/
theorem refusal_player (isPlayer : player.kind = .player attackerPlayer) :
    refusal env player target = none ↔
      ¬RefusedTogether env player attackerPlayer target ∧ ¬RefusedAsPlayer env player attackerPlayer target := by
  unfold refusal RefusedTogether RefusedAsPlayer
  rw [orElse_eq_none, noPvpWorld_player isPlayer]
  cases kind : target.kind with
  | player targetPlayer =>
    simp only [againstPlayer_player isPlayer, playerAgainstPlayer, summonAgainstPlayer, orElse_eq_none, refuse_eq_none,
      Creature.getPlayer, kind, isSome_some, true_or, true_imp_iff]
    constructor
    · rintro ⟨⟨attackable, ⟨attacks, fair, open_, zone⟩, owned⟩, world⟩
      refine ⟨by tauto, ?_⟩
      rintro (apart | ⟨master, owner, flag | weak⟩)
      · exact zone apart
      · exact (owned master owner).1 flag
      · exact (owned master owner).2.2 weak
    · rintro ⟨shared, alone⟩
      refine ⟨⟨by tauto, ⟨by tauto, by tauto, by tauto, by tauto⟩, fun master owner => ⟨?_, by tauto, ?_⟩⟩, by tauto⟩
      · exact fun flag => alone (.inr ⟨master, owner, .inl flag⟩)
      · exact fun weak => alone (.inr ⟨master, owner, .inr weak⟩)
  | monster =>
    simp only [againstMonster, isPlayer, orElse_eq_none, refuse_eq_none, Creature.getPlayer, kind, isSome_none]
    tauto
  | npc =>
    simp only [Creature.getPlayer, kind, isSome_none, true_and]
    tauto

end

/-- A summon has no right that its master lacks exactly when no rule for players alone refuses him,
or a rule that the two share refuses both. -/
theorem canDoCombat_summon_iff {env : Env}
    (allow : ∀ attacker target, env.eventCreatureOnTargetCombat attacker target = .noError)
    {player : Creature} {attackerPlayer : Player} (isPlayer : player.kind = .player attackerPlayer) {tile : UInt32}
    (same : SameZones (summonOf player tile) player) (target : Creature) :
    (canDoCombat env (some (summonOf player tile)) target = .noError →
        canDoCombat env (some player) target = .noError) ↔
      (RefusedAsPlayer env player attackerPlayer target → RefusedTogether env player attackerPlayer target) := by
  rw [canDoCombat_eq_noError allow, canDoCombat_eq_noError allow, refusal_summon isPlayer same,
    refusal_player isPlayer]
  tauto

/-! A world, and a player with his summon on a tile without fights. -/

/-- The scripts of this world allow every fight. -/
def openWorld : Env where
  worldType := .pvp
  protectionLevel := 1
  eventCreatureOnTargetCombat := fun _ _ => .noError

def knight (guid : UInt32) : Player where
  guid := guid
  flags := 0
  level := 50
  allowsPvp := true
  skull := .none
  attackedSet := []
  party := none

/-- Where nothing refuses the player, his summon has no right that he lacks. -/
theorem canDoCombat_summon_open :
    (canDoCombat openWorld (some (summonOf (.mk (.player (knight 1)) 0 none) 0))
          (.mk (.player (knight 2)) 0 none) = .noError →
        canDoCombat openWorld (some (.mk (.player (knight 1)) 0 none)) (.mk (.player (knight 2)) 0 none) = .noError) ↔
      (RefusedAsPlayer openWorld (.mk (.player (knight 1)) 0 none) (knight 1) (.mk (.player (knight 2)) 0 none) →
        RefusedTogether openWorld (.mk (.player (knight 1)) 0 none) (knight 1) (.mk (.player (knight 2)) 0 none)) :=
  canDoCombat_summon_iff (fun _ _ => rfl) rfl rfl _

/-- From a tile without fights a summon attacks a player outside, which its master may not. -/
theorem canDoCombat_summon_noPvp :
    canDoCombat openWorld (some (summonOf (.mk (.player (knight 1)) noPvpZone none) noPvpZone))
        (.mk (.player (knight 2)) 0 none) = .noError ∧
      canDoCombat openWorld (some (.mk (.player (knight 1)) noPvpZone none)) (.mk (.player (knight 2)) 0 none) =
        .actionNotPermittedInANoPvpZone := by
  decide

end Styller.TargetCombat
