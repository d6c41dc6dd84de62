import Mathlib.Algebra.Group.Int.Defs
import Mathlib.Algebra.GroupWithZero.Nat

/-! The answers and the request flags of the cylinder interface. -/

namespace Styller

/-- `ReturnValue`: what every cylinder query answers. -/
inductive ReturnValue where
  | noError
  | notPossible
  | notEnoughRoom
  | playerIsPzLocked
  | playerIsNotInvited
  | cannotThrow
  | thereIsNoWay
  | destinationOutOfReach
  | creatureBlock
  | notMoveable
  | dropTwoHandedItem
  | bothHandsNeedToBeFree
  | canOnlyUseOneWeapon
  | needExchange
  | cannotBeDressed
  | putThisObjectInYourHand
  | putThisObjectInBothHands
  | tooFarAway
  | firstGoDownStairs
  | firstGoUpStairs
  | containerNotEnoughRoom
  | notEnoughCapacity
  | cannotPickup
  | thisIsImpossible
  | depotIsFull
  | creatureDoesNotExist
  | cannotUseThisObject
  | playerWithThisNameIsNotOnline
  | notRequiredLevelToUseRune
  | youAreAlreadyTrading
  | thisPlayerIsAlreadyTrading
  | youMayNotLogoutDuringAFight
  | directPlayerShoot
  | notEnoughLevel
  | notEnoughMagicLevel
  | notEnoughMana
  | notEnoughSoul
  | youAreExhausted
  | youCannotUseObjectsThatFast
  | playerIsNotReachable
  | canOnlyUseThisRuneOnCreatures
  | actionNotPermittedInProtectionZone
  | youMayNotAttackThisPlayer
  | youMayNotAttackAPersonInProtectionZone
  | youMayNotAttackAPersonWhileInProtectionZone
  | youMayNotAttackThisCreature
  | youCanOnlyUseItOnCreatures
  | creatureIsNotReachable
  | turnSecureModeToAttackUnmarkedPlayers
  | youNeedPremiumAccount
  | youNeedToLearnThisSpell
  | yourVocationCannotUseThisSpell
  | youNeedAWeaponToUseThisSpell
  | playerIsPzLockedLeavePvpZone
  | playerIsPzLockedEnterPvpZone
  | actionNotPermittedInANoPvpZone
  | youCannotLogoutHere
  | youNeedAMagicItemToCastSpell
  | cannotConjureItemHere
  | youNeedToSplitYourSpears
  | nameIsTooAmbiguous
  | canOnlyUseOneShield
  | noPartyMembersInRange
  | youAreNotTheOwner
  | noSuchRaidExists
  | anotherRaidIsAlreadyExecuting
  | tradePlayerFarAway
  | youDontOwnThisHouse
  | tradePlayerAlreadyOwnsAHouse
  | tradePlayerHighestBidder
  | youCannotTradeThisHouse
  | youDontHaveRequiredProfession
  | itemCannotBeMovedThere
  | youCannotUseThisBed
  | creatureNotMoveable
  deriving DecidableEq, Inhabited

/-- `cylinderflags_t`: one field for each bit. -/
structure CylinderFlags where
  noLimit : Bool := false
  ignoreBlockItem : Bool := false
  ignoreBlockCreature : Bool := false
  childIsOwner : Bool := false
  pathfinding : Bool := false
  ignoreFieldDamage : Bool := false
  ignoreNotMoveable : Bool := false
  ignoreAutoStack : Bool := false
  deriving DecidableEq, Inhabited

namespace CylinderFlags

/-- The literal `0`. -/
def none : CylinderFlags := {}

end CylinderFlags

inductive CylinderLink where
  | owner
  | parent
  | topParent
  | near
  deriving DecidableEq

def indexWhereever : Int := -1

/-- Conversion of a stored integer to `uint8_t`. -/
def toUInt8 (n : Int) : Nat := (n % 2 ^ 8).toNat

/-- Conversion to `uint16_t`. -/
def toUInt16 (n : Int) : Nat := (n % 2 ^ 16).toNat

/-- Conversion to `uint32_t`. -/
def toUInt32 (n : Int) : Nat := (n % 2 ^ 32).toNat

/-- Conversion to `int32_t`. -/
def toInt32 (n : Int) : Int := n.bmod (2 ^ 32)

theorem toUInt8_of_lt (nonneg : 0 ≤ n) (small : n < 256) : (toUInt8 n : Int) = n := by
  unfold toUInt8
  omega

theorem toUInt8_lt (n : Int) : toUInt8 n < 256 := by
  unfold toUInt8
  omega

@[simp] theorem toUInt8_toUInt8 (n : Int) : toUInt8 (toUInt8 n) = toUInt8 n := by
  unfold toUInt8
  omega

end Styller
