import Styller.Money.AddMoney
import Styller.World.AddItem

/-! `Game::removeMoney`: the coins of a cylinder and of the containers in it are taken
in the order of their worth, and the last stack is split, for which change is paid. -/

namespace Styller.Game

variable (env : Env)

/-- A coin that the search counts. -/
def isMoney (game : Game) (ptr : ItemPtr) : Bool :=
  !(game.items ptr).isContainer && (game.items ptr).getWorth env.items ≠ 0

/-- The loop over the containers; `none` when it has not ended before the fuel has. -/
def searchMoney (game : Game) : Nat → List ItemPtr → Option (List ItemPtr)
  | _, [] => some []
  | 0, _ :: _ => none
  | fuel + 1, container :: containers =>
    let itemlist := (game.items container).itemlist
    (searchMoney game fuel (containers ++ itemlist.filter (fun ptr => (game.items ptr).isContainer))).map
      (itemlist.filter (game.isMoney env) ++ ·)

/-- The coins in the order in which they are found. -/
def findMoney (game : Game) (fuel : Nat) (cylinder : Cylinder) : Option (List ItemPtr) :=
  let things := game.contents cylinder
  (game.searchMoney env fuel (things.filter (fun ptr => (game.items ptr).isContainer))).map
    (things.filter (game.isMoney env) ++ ·)

/-- `std::multimap::emplace`: an entry goes behind those with the same key. -/
def emplace (entry : Nat × ItemPtr) : List (Nat × ItemPtr) → List (Nat × ItemPtr)
  | [] => [entry]
  | other :: rest => if other.1 ≤ entry.1 then other :: emplace entry rest else entry :: other :: rest

def moneyMap (game : Game) (coins : List ItemPtr) : List (Nat × ItemPtr) :=
  coins.foldl (fun map ptr => emplace ((game.items ptr).getWorth env.items, ptr) map) []

def moneyCount (game : Game) (coins : List ItemPtr) : Nat :=
  (coins.map (fun ptr => (game.items ptr).getWorth env.items)).sum % 2 ^ 64

/-- How many coins of a stack pay the rest of an amount: the quotient is rounded up, which
is exact in double precision for numbers of 32 bits. -/
def splitCount (worth money : Nat) : Nat := (money + worth - 1) / worth

def splitChange (worth money : Nat) : Nat :=
  (toUInt32 ((worth : Int) * splitCount worth money) + 2 ^ 64 - money) % 2 ^ 64

/-- The loop over `moneyMap`; `none` when the change is never paid out. -/
def takeMoney (cylinder : Cylinder) (flags : CylinderFlags) (fuel : Nat) :
    List (Nat × ItemPtr) → Nat → Game → Option Game
  | [], _, game => some game
  | (entry, item) :: rest, money, game =>
    if entry < money then
      takeMoney cylinder flags fuel rest (money - entry)
        (game.internalRemoveItem env item (-1) false CylinderFlags.none).2
    else if entry > money then
      let worth := entry / (game.items item).count
      let removeCount := splitCount worth money
      (addMoney (fun game id count => game.payOut env cylinder flags id count) env.items fuel
        (splitChange worth money) game).map
        (fun game => (game.internalRemoveItem env item removeCount false CylinderFlags.none).2)
    else some (game.internalRemoveItem env item (-1) false CylinderFlags.none).2

/-- `Game::removeMoney`; `none` when it does not return. -/
def removeMoney (game : Game) (cylinder : Cylinder) (money : Nat) (flags : CylinderFlags) (fuel : Nat) :
    Option (Bool × Game) :=
  if money = 0 then some (true, game)
  else
    match game.findMoney env fuel cylinder with
    | none => none
    | some coins =>
      if game.moneyCount env coins < money then some (false, game)
      else (takeMoney env cylinder flags fuel (game.moneyMap env coins) money game).map (true, ·)

end Styller.Game
