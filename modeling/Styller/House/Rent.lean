import Mathlib.Logic.Function.Basic
import Styller.Library.Run

/-! The rent of the houses: what a check takes, warns about and takes away, and what a restart loads of it. -/

namespace Styller.HouseRent

open Library Function

inductive RentPeriod where
  | daily
  | weekly
  | monthly
  | yearly
  | never
  deriving DecidableEq

/-- The seconds that a payment lasts. -/
def RentPeriod.seconds : RentPeriod → Int
  | .daily => 24 * 60 * 60
  | .weekly => 24 * 60 * 60 * 7
  | .monthly => 24 * 60 * 60 * 30
  | .yearly => 24 * 60 * 60 * 365
  | .never => 0

/-- What the letter calls it. -/
def RentPeriod.period : RentPeriod → String
  | .daily => "daily"
  | .weekly => "weekly"
  | .monthly => "monthly"
  | .yearly => "annual"
  | .never => ""

structure House where
  name : String
  rent : Nat
  townId : Nat
  owner : Nat := 0
  ownerName : String := ""
  paidUntil : Int := 0
  rentWarnings : Nat := 0
  isLoaded : Bool := false

/-- The columns of `houses` that `loadHouseInfo` reads. -/
structure Row where
  owner : Nat
  paid : Int
  warnings : Nat

structure Player where
  name : String
  bankBalance : Nat

structure State where
  houses : Nat → House
  /-- The table `houses`. -/
  rows : Nat → Option Row
  /-- The table `players`. -/
  players : Nat → Option Player

def getNameByGuid (players : Nat → Option Player) (guid : Nat) : String := ((players guid).map Player.name).getD ""

/-- `House::setOwner` without its update of the table. -/
def House.setOwner (configured : RentPeriod) (now : Int) (players : Nat → Option Player) (guid : Nat) (house : House) : House :=
  if house.isLoaded ∧ house.owner = guid then house
  else
    let house := { house with isLoaded := true }
    let house :=
      if house.owner ≠ 0 then { house with owner := 0 }
      else { house with paidUntil := if configured = .never then 0 else now + configured.seconds }
    let house := { house with rentWarnings := 0 }
    if guid ≠ 0 ∧ getNameByGuid players guid ≠ "" then { house with owner := guid, ownerName := getNameByGuid players guid }
    else house

def State.setOwner (configured : RentPeriod) (now : Int) (id guid : Nat) (updateDatabase : Bool) (state : State) : State :=
  { state with
    rows :=
      if updateDatabase ∧ (state.houses id).owner ≠ guid then
        Function.update state.rows id ((state.rows id).map fun row => { row with owner := guid })
      else state.rows
    houses := Function.update state.houses id ((state.houses id).setOwner configured now state.players guid) }

/-- What `payHouses` does about a house. -/
inductive Outcome where
  /-- Nothing is due. -/
  | skipped
  /-- The owner does not exist any more. -/
  | gone
  | paid
  /-- The owner lacks the money and gets a letter. -/
  | warned (letter : String)
  /-- The owner lacks the money and loses the house. -/
  | evicted
  deriving DecidableEq

def letterText (rentPeriod : RentPeriod) (house : House) : String :=
  "Warning! \nThe " ++ rentPeriod.period ++ " rent of " ++ toString house.rent ++ " gold for your house \"" ++ house.name ++
    "\" is payable. Have it within " ++ toString (7 - house.rentWarnings) ++ " days or you will lose this house."

section

variable (getTown : Nat → Bool) (rentPeriod : RentPeriod) (now : Int)

/-- One turn of the loop in `payHouses`. -/
def payHouse (state : State) (id : Nat) : State × Outcome :=
  let house := state.houses id
  if house.owner = 0 then (state, .skipped)
  else if house.rent = 0 ∨ now < house.paidUntil then (state, .skipped)
  else if ¬ getTown house.townId then (state, .skipped)
  else
    match state.players house.owner with
    | none => (state.setOwner rentPeriod now id 0 true, .gone)
    | some player =>
      if house.rent ≤ player.bankBalance then
        ({ state with
            houses := Function.update state.houses id { house with paidUntil := now + rentPeriod.seconds }
            players := Function.update state.players house.owner
              (some { player with bankBalance := player.bankBalance - house.rent }) }, .paid)
      else if house.rentWarnings < 7 then
        ({ state with houses := Function.update state.houses id { house with rentWarnings := house.rentWarnings + 1 } },
          .warned (letterText rentPeriod house))
      else (state.setOwner rentPeriod now id 0 true, .evicted)

end

/-- A house as `loadHousesXML` leaves it. -/
def House.fresh (configured : RentPeriod) (now : Int) (players : Nat → Option Player) (house : House) : House :=
  House.setOwner configured now players 0 { name := house.name, rent := house.rent, townId := house.townId }

/-- `loadHouseInfo` for one house. -/
def House.load (configured : RentPeriod) (now : Int) (players : Nat → Option Player) (house : House) : Option Row → House
  | none => house
  | some row => { house.setOwner configured now players row.owner with paidUntil := row.paid, rentWarnings := row.warnings }

/-- The houses after a start of the server. -/
def State.restart (configured : RentPeriod) (now : Int) (state : State) : State :=
  { state with
    houses := fun id =>
      ((state.houses id).fresh configured now state.players).load configured now state.players (state.rows id) }

/-- `saveHouseInfo` -/
def State.save (state : State) : State :=
  { state with
    rows := fun id =>
      some ⟨(state.houses id).owner, (state.houses id).paidUntil, (state.houses id).rentWarnings⟩ }

/-- A server with what happened to its owners: the rent checks of each house that failed for lack of money since its owner paid
last or became the owner. -/
structure Watched where
  state : State
  failures : Nat → Nat

def tally (before after : House) (outcome : Outcome) (failures : Nat) : Nat :=
  if after.owner ≠ before.owner then 0
  else
    match outcome with
    | .paid => 0
    | .warned _ | .evicted => failures + 1
    | .skipped | .gone => failures

def Watched.after (watched : Watched) (state : State) (outcome : Nat → Outcome) : Watched where
  state := state
  failures := fun id => tally (watched.state.houses id) (state.houses id) (outcome id) (watched.failures id)

inductive Label where
  | payHouses (rentPeriod : RentPeriod) (now : Int)
  | setOwner (configured : RentPeriod) (now : Int) (id guid : Nat) (updateDatabase : Bool)
  /-- Money that comes and goes, characters that are made and deleted. -/
  | players (players : Nat → Option Player)
  | save
  | restart (configured : RentPeriod) (now : Int)

section

variable (houseMap : List Nat) (getTown : Nat → Bool)

/-- One turn of the loop, watched. -/
def visit (rentPeriod : RentPeriod) (now : Int) (watched : Watched) (id : Nat) : Watched :=
  let (state, outcome) := payHouse getTown rentPeriod now watched.state id
  watched.after state (Function.update (fun _ => .skipped) id outcome)

def payHouses (rentPeriod : RentPeriod) (now : Int) (watched : Watched) : Watched :=
  if rentPeriod = .never then watched else houseMap.foldl (visit getTown rentPeriod now) watched

def step (watched : Watched) : Label → Watched
  | .payHouses rentPeriod now => payHouses houseMap getTown rentPeriod now watched
  | .setOwner configured now id guid updateDatabase =>
    watched.after (watched.state.setOwner configured now id guid updateDatabase) fun _ => .skipped
  | .players players => watched.after { watched.state with players } fun _ => .skipped
  | .save => watched.after watched.state.save fun _ => .skipped
  | .restart configured now => watched.after (watched.state.restart configured now) fun _ => .skipped

/-- An eviction comes after seven failed checks. -/
def RightVisit (rentPeriod : RentPeriod) (now : Int) (watched : Watched) (id : Nat) : Prop :=
  (payHouse getTown rentPeriod now watched.state id).2 = .evicted → 7 ≤ watched.failures id

def Right (watched : Watched) : Label → Prop
  | .payHouses rentPeriod now =>
    rentPeriod ≠ .never → Throughout (visit getTown rentPeriod now) (RightVisit getTown rentPeriod now) watched houseMap
  | _ => True

/-- An owner who has the rent has had no warning before. -/
def ClearVisit (now : Int) (watched : Watched) (id : Nat) : Prop :=
  let house := watched.state.houses id
  ∀ player ∈ watched.state.players house.owner, house.owner ≠ 0 → house.rent ≠ 0 → house.paidUntil ≤ now →
    getTown house.townId → house.rent ≤ player.bankBalance → house.rentWarnings = 0

instance (now : Int) (watched : Watched) (id : Nat) : Decidable (ClearVisit getTown now watched id) :=
  inferInstanceAs (Decidable (∀ player ∈ watched.state.players (watched.state.houses id).owner, _ → _ → _ → _ → _ → _))

/-- A row that gives the house an owner has no more warnings than the house has, and none if the owner is another one. -/
def ClearRow (players : Nat → Option Player) (house : House) (row : Row) : Prop :=
  row.owner ≠ 0 → getNameByGuid players row.owner ≠ "" →
    row.warnings ≤ if house.owner = row.owner then house.rentWarnings else 0

def Clear (watched : Watched) : Label → Prop
  | .payHouses rentPeriod now =>
    rentPeriod ≠ .never → Throughout (visit getTown rentPeriod now) (ClearVisit getTown now) watched houseMap
  | .restart _ _ => ∀ id, ∀ row ∈ watched.state.rows id, ClearRow watched.state.players (watched.state.houses id) row
  | _ => True

end

section

/-- The warnings of an owned house are failed checks of its owner. -/
def Counted (house : House) (failures : Nat) : Prop := house.owner ≠ 0 → house.rentWarnings ≤ failures

def Backed (watched : Watched) : Prop := ∀ id, Counted (watched.state.houses id) (watched.failures id)

variable {configured : RentPeriod} {now : Int} {players : Nat → Option Player}

theorem House.setOwner_cases (guid : Nat) (house : House) : house.setOwner configured now players guid = house ∨
    (house.setOwner configured now players guid).rentWarnings = 0 := by
  unfold House.setOwner
  by_cases same : house.isLoaded ∧ house.owner = guid
  · left
    rw [if_pos same]
  · right
    rw [if_neg same]
    by_cases known : guid ≠ 0 ∧ getNameByGuid players guid ≠ ""
    · simp only [if_pos known]
    · simp only [if_neg known]

/-- The owner of a house without one is the new one, if there is such a player. -/
theorem House.owner_setOwner (guid : Nat) (house : House) (free : house.owner = 0) :
    (house.setOwner configured now players guid).owner = 0 ∨
      (house.setOwner configured now players guid).owner = guid ∧ guid ≠ 0 ∧ getNameByGuid players guid ≠ "" := by
  unfold House.setOwner
  by_cases same : house.isLoaded ∧ house.owner = guid
  · left
    rw [if_pos same, free]
  · rw [if_neg same]
    by_cases known : guid ≠ 0 ∧ getNameByGuid players guid ≠ ""
    · right
      simp only [if_pos known]
      exact ⟨trivial, known⟩
    · left
      simp only [if_neg known, free, ne_eq, not_true_eq_false, if_false]

theorem House.owner_fresh (house : House) : (house.fresh configured now players).owner = 0 := by
  rcases House.owner_setOwner 0 { name := house.name, rent := house.rent, townId := house.townId } rfl with free | ⟨_, known, _⟩
  · exact free
  · exact absurd rfl known

theorem counted_setOwner {house : House} {failures : Nat} (counted : Counted house failures) (guid : Nat) (outcome : Outcome)
    (unpaid : outcome ≠ .paid) :
    Counted (house.setOwner configured now players guid)
      (tally house (house.setOwner configured now players guid) outcome failures) := by
  intro owned
  rcases House.setOwner_cases guid house with same | none
  · rw [same] at owned ⊢
    have before := counted owned
    unfold tally
    rw [if_neg (not_not.mpr rfl)]
    cases outcome with
    | paid => exact absurd rfl unpaid
    | warned letter => exact Nat.le_succ_of_le before
    | evicted => exact Nat.le_succ_of_le before
    | skipped | gone => exact before
  · rw [none]
    exact Nat.zero_le _

theorem counted_same {house : House} {failures : Nat} (counted : Counted house failures) :
    Counted house (tally house house .skipped failures) := by
  unfold tally
  rw [if_neg (not_not.mpr rfl)]
  exact counted

theorem counted_restart {house : House} {failures : Nat} (counted : Counted house failures) {row : Option Row}
    (clear : ∀ entry ∈ row, ClearRow players house entry) :
    Counted ((house.fresh configured now players).load configured now players row)
      (tally house ((house.fresh configured now players).load configured now players row) .skipped failures) := by
  intro owned
  cases row with
  | none => exact absurd (House.owner_fresh house) owned
  | some row =>
    have unowned : (house.fresh configured now players).owner = 0 := House.owner_fresh house
    rcases House.owner_setOwner row.owner _ unowned with free | ⟨owner, known, named⟩
    · exact absurd free owned
    · have few := clear row rfl known named
      have loaded : ((house.fresh configured now players).load configured now players (some row)).owner = row.owner := owner
      show row.warnings ≤ _
      unfold tally
      rw [loaded]
      by_cases same : house.owner = row.owner
      · rw [if_pos same] at few
        rw [if_neg (not_not.mpr same.symm)]
        exact Nat.le_trans few (counted (same ▸ known))
      · rw [if_neg same] at few
        exact Nat.le_trans few (Nat.zero_le _)

theorem State.setOwner_self (state : State) (id guid : Nat) (updateDatabase : Bool) :
    (state.setOwner configured now id guid updateDatabase).houses id =
      (state.houses id).setOwner configured now state.players guid :=
  update_self ..

theorem State.setOwner_other (state : State) {id other : Nat} (differs : other ≠ id) (guid : Nat) (updateDatabase : Bool) :
    (state.setOwner configured now id guid updateDatabase).houses other = state.houses other :=
  update_of_ne differs ..

/-- A change of one house that counts the failed checks of its owner keeps the others as they are. -/
theorem Backed.after {watched : Watched} (backed : Backed watched) {state : State} {outcome : Nat → Outcome} (id : Nat)
    (one : Counted (state.houses id) (tally (watched.state.houses id) (state.houses id) (outcome id) (watched.failures id)))
    (others : ∀ other, other ≠ id → state.houses other = watched.state.houses other ∧ outcome other = .skipped) :
    Backed (watched.after state outcome) := by
  intro other
  by_cases here : other = id
  · rw [here]
    exact one
  · obtain ⟨same, skipped⟩ := others other here
    show Counted (state.houses other) (tally _ (state.houses other) (outcome other) _)
    rw [same, skipped]
    exact counted_same (backed other)

end

section

variable (getTown : Nat → Bool) (rentPeriod : RentPeriod) (now : Int)

/-- What a turn of the loop can do about a house. -/
inductive Turn (state : State) (id : Nat) : State × Outcome → Prop where
  | skipped : Turn state id (state, .skipped)
  | gone : Turn state id (state.setOwner rentPeriod now id 0 true, .gone)
  | paid (player : Player) (there : state.players (state.houses id).owner = some player) (owned : (state.houses id).owner ≠ 0)
      (rented : (state.houses id).rent ≠ 0) (due : (state.houses id).paidUntil ≤ now) (town : getTown (state.houses id).townId)
      (enough : (state.houses id).rent ≤ player.bankBalance) :
      Turn state id
        ({ state with
            houses := Function.update state.houses id { state.houses id with paidUntil := now + rentPeriod.seconds }
            players := Function.update state.players (state.houses id).owner
              (some { player with bankBalance := player.bankBalance - (state.houses id).rent }) }, .paid)
  | warned (letter : String) :
      Turn state id
        ({ state with
            houses := Function.update state.houses id
              { state.houses id with rentWarnings := (state.houses id).rentWarnings + 1 } }, .warned letter)
  | evicted (owned : (state.houses id).owner ≠ 0) (last : 7 ≤ (state.houses id).rentWarnings) :
      Turn state id (state.setOwner rentPeriod now id 0 true, .evicted)

theorem payHouse_turn (state : State) (id : Nat) :
    Turn getTown rentPeriod now state id (payHouse getTown rentPeriod now state id) := by
  unfold payHouse
  simp only
  by_cases free : (state.houses id).owner = 0
  · rw [if_pos free]
    exact .skipped
  · rw [if_neg free]
    by_cases early : (state.houses id).rent = 0 ∨ now < (state.houses id).paidUntil
    · rw [if_pos early]
      exact .skipped
    · rw [if_neg early]
      by_cases nowhere : ¬ getTown (state.houses id).townId
      · rw [if_pos nowhere]
        exact .skipped
      · rw [if_neg nowhere]
        cases there : state.players (state.houses id).owner with
        | none => exact .gone
        | some player =>
          by_cases enough : (state.houses id).rent ≤ player.bankBalance
          · simp only [if_pos enough]
            exact .paid player there free (fun none => early (.inl none)) (Int.not_lt.mp fun later => early (.inr later))
              (not_not.mp nowhere) enough
          · simp only [if_neg enough]
            by_cases few : (state.houses id).rentWarnings < 7
            · simp only [if_pos few]
              exact .warned _
            · simp only [if_neg few]
              exact .evicted free (Nat.le_of_not_lt few)

variable {getTown} {rentPeriod} {now}

theorem Turn.other {state : State} {id : Nat} {result : State × Outcome} (turn : Turn getTown rentPeriod now state id result)
    {other : Nat} (differs : other ≠ id) : result.1.houses other = state.houses other := by
  cases turn with
  | skipped => rfl
  | gone | evicted => exact state.setOwner_other differs 0 true
  | paid player => exact update_of_ne differs ..
  | warned letter => exact update_of_ne differs ..

theorem Turn.counted {watched : Watched} {id : Nat} {result : State × Outcome}
    (turn : Turn getTown rentPeriod now watched.state id result) (backed : Backed watched)
    (clear : ClearVisit getTown now watched id) :
    Counted (result.1.houses id)
      (tally (watched.state.houses id) (result.1.houses id) result.2 (watched.failures id)) := by
  have before := backed id
  cases turn with
  | skipped => exact counted_same before
  | gone =>
    simp only [State.setOwner_self]
    exact counted_setOwner before 0 .gone Outcome.noConfusion
  | paid player there owned rented due town enough =>
    intro _
    -- the counter stays, but it was zero before
    have none : (watched.state.houses id).rentWarnings = 0 := clear player there owned rented due town enough
    simp only [update_self, none]
    exact Nat.zero_le _
  | warned letter =>
    intro owned
    simp only [update_self] at owned ⊢
    unfold tally
    simp only [ne_eq, not_true_eq_false, if_false]
    exact Nat.succ_le_succ (before owned)
  | evicted =>
    simp only [State.setOwner_self]
    exact counted_setOwner before 0 .evicted Outcome.noConfusion

theorem Turn.right {watched : Watched} {id : Nat} {result : State × Outcome}
    (turn : Turn getTown rentPeriod now watched.state id result) (backed : Backed watched) (taken : result.2 = .evicted) :
    7 ≤ watched.failures id := by
  cases turn with
  | skipped | gone => exact Outcome.noConfusion taken
  | paid player => exact Outcome.noConfusion taken
  | warned letter => exact Outcome.noConfusion taken
  | evicted owned last => exact Nat.le_trans last (backed id owned)

theorem backed_visit {watched : Watched} {id : Nat} (backed : Backed watched) (clear : ClearVisit getTown now watched id) :
    Backed (visit getTown rentPeriod now watched id) := by
  have turn := payHouse_turn getTown rentPeriod now watched.state id
  apply backed.after id
  · rw [update_self]
    exact turn.counted backed clear
  · intro other differs
    exact ⟨turn.other differs, update_of_ne differs ..⟩

variable {houseMap : List Nat}

theorem backed_step {watched : Watched} {label : Label} (backed : Backed watched) (clear : Clear houseMap getTown watched label) :
    Backed (step houseMap getTown watched label) := by
  cases label with
  | payHouses rentPeriod now =>
    show Backed (payHouses ..)
    unfold payHouses
    by_cases never : rentPeriod = .never
    · rw [if_pos never]
      exact backed
    · rw [if_neg never]
      have keeps : ∀ watched id, Backed watched → ClearVisit getTown now watched id →
          Backed (visit getTown rentPeriod now watched id) := fun _ _ => backed_visit
      exact (always_of_throughout keeps backed (clear never)).last
  | setOwner configured now id guid updateDatabase =>
    apply backed.after id
    · rw [State.setOwner_self]
      exact counted_setOwner (backed id) guid .skipped Outcome.noConfusion
    · intro other differs
      exact ⟨State.setOwner_other _ differs guid updateDatabase, rfl⟩
  | players players => exact fun id => counted_same (backed id)
  | save => exact fun id => counted_same (backed id)
  | restart configured now => exact fun id => counted_restart (backed id) (clear id)

theorem right_step {watched : Watched} {label : Label} (backed : Backed watched) (clear : Clear houseMap getTown watched label) :
    Right houseMap getTown watched label := by
  cases label with
  | payHouses rentPeriod now =>
    intro charged
    have keeps : ∀ watched id, Backed watched → ClearVisit getTown now watched id →
        Backed (visit getTown rentPeriod now watched id) := fun _ _ => backed_visit
    have correct : ∀ watched id, Backed watched → ClearVisit getTown now watched id →
        RightVisit getTown rentPeriod now watched id :=
      fun watched id backed _ => (payHouse_turn getTown rentPeriod now watched.state id).right backed
    exact throughout_of_throughout keeps correct backed (clear charged)
  | setOwner | players | save | restart => trivial

/-- On a server where no house is owned yet, a run in which owners pay before their first warning, and in which a restart finds
rows whose warnings are the owners' own, takes a house for unpaid rent only after seven failed checks in a row. -/
theorem evictions_along (houseMap : List Nat) (getTown : Nat → Bool) (start : Watched)
    (free : ∀ id, (start.state.houses id).owner = 0) (labels : List Label)
    (clear : Throughout (step houseMap getTown) (Clear houseMap getTown) start labels) :
    Throughout (step houseMap getTown) (Right houseMap getTown) start labels := by
  have backed : Backed start := fun id owned => absurd (free id) owned
  have keeps : ∀ watched label, Backed watched → Clear houseMap getTown watched label →
      Backed (step houseMap getTown watched label) := fun _ _ => backed_step
  have correct : ∀ watched label, Backed watched → Clear houseMap getTown watched label →
      Right houseMap getTown watched label := fun _ _ => right_step
  exact throughout_of_throughout keeps correct backed clear

def ada (bankBalance : Nat) (guid : Nat) : Option Player := if guid = 5 then some ⟨"Ada", bankBalance⟩ else none

/-- A street of houses that nobody owns. -/
def street : Watched where
  state := { houses := fun _ => { name := "Shack", rent := 100, townId := 1 }, rows := fun _ => none, players := ada 0 }
  failures := fun _ => 0

def unpaid : List Label :=
  .setOwner .daily 0 1 5 true :: List.replicate 8 (.payHouses .daily 100000)

theorem evictions_along_unpaid : Throughout (step [1] fun _ => true) (Right [1] fun _ => true) street unpaid := by
  apply evictions_along
  · exact fun _ => rfl
  · refine ⟨trivial, ?_, ?_, ?_, ?_, ?_, ?_, ?_, ?_, trivial⟩ <;> exact fun _ => ⟨by decide, trivial⟩

/-- Ada gets a house, pays for it after four checks, and then lacks the money again. -/
def paidOnce : List Label :=
  .setOwner .daily 0 1 5 true :: List.replicate 4 (.payHouses .daily 100000) ++
    [.players (ada 100), .payHouses .daily 100000] ++ List.replicate 3 (.payHouses .daily 200000)

/-- The house is taken at the fourth check that fails after the payment. -/
theorem paidOnce_evicted : ¬ Throughout (step [1] fun _ => true) (Right [1] fun _ => true) street
    (paidOnce ++ [.payHouses .daily 200000]) := by
  intro throughout
  have last : RightVisit (fun _ => true) .daily 200000 (paidOnce.foldl (step [1] fun _ => true) street) 1 :=
    ((throughout_append throughout).1 RentPeriod.noConfusion).1
  have failures := last (by decide +kernel)
  exact absurd failures (by decide +kernel)

end

end Styller.HouseRent
