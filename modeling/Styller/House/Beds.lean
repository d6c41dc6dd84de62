import Styller.Map.PathMatching

/-! Beds: the sleeper is kept in both halves of a bed, and the game has a map from the sleepers to the beds. -/

namespace Styller

open Library PathFinding Function

inductive PlayerSex where
  | female
  | male

/-- The fields of `ItemType` that a bed reads. -/
structure BedType where
  isBed : Bool := false
  bedPartnerDir : Option Direction := none
  transformToOnUse : PlayerSex → Nat := fun _ => 0
  transformToFree : Nat := 0

/-- The id that `BedItem::updateAppearance` gives to a bed, with the sex of its player if there is one. -/
def updateAppearance (get : Nat → BedType) (id : Nat) (player : Option PlayerSex) : Nat :=
  let it := get id
  if it.isBed then
    match player with
    | some sex =>
      if it.transformToOnUse sex ≠ 0 then
        if (get (it.transformToOnUse sex)).isBed then it.transformToOnUse sex else id
      else if it.transformToFree ≠ 0 then if (get it.transformToFree).isBed then it.transformToFree else id
      else id
    | none => if it.transformToFree ≠ 0 then if (get it.transformToFree).isBed then it.transformToFree else id else id
  else id

/-- The types of beds. A bed keeps the direction of its other half when its appearance changes, as in `data/items`. -/
structure BedTypes where
  get : Nat → BedType
  steady : ∀ id player, (get (updateAppearance get id player)).bedPartnerDir = (get id).bedPartnerDir

structure BedUser where
  guid : Nat
  nonzero : guid ≠ 0
  sex : PlayerSex := .male
  name : String := ""
  isRemoved : Bool := false

abbrev BedPtr := Nat

structure BedItem where
  id : Nat
  position : Position
  inHouse : Bool := true
  sleeperGUID : Nat := 0
  sleepStart : Nat := 0
  specialDescription : String := "Nobody is sleeping there."

namespace BedItem

def internalSetSleeper (player : BedUser) (now : Nat) (bed : BedItem) : BedItem :=
  { bed with sleeperGUID := player.guid, sleepStart := now, specialDescription := player.name ++ " is sleeping there." }

def internalRemoveSleeper (bed : BedItem) : BedItem :=
  { bed with sleeperGUID := 0, sleepStart := 0, specialDescription := "Nobody is sleeping there." }

def update (types : BedTypes) (player : Option PlayerSex) (bed : BedItem) : BedItem :=
  { bed with id := updateAppearance types.get bed.id player }

end BedItem

structure Beds where
  beds : BedPtr → BedItem
  getBedItem : Position → Option BedPtr
  bedSleepersMap : Nat → Option BedPtr := fun _ => none

namespace Beds

section
variable (types : BedTypes) (beds : Beds)

def getNextBedItem (ptr : BedPtr) : Option BedPtr :=
  let bed := beds.beds ptr
  beds.getBedItem (match (types.get bed.id).bedPartnerDir with
    | some dir => getNextPosition dir bed.position
    | none => bed.position)

def changeBoth (ptr : BedPtr) (next : Option BedPtr) (change : BedItem → BedItem) : Beds :=
  { beds with beds := (ptr :: next.toList).foldl (fun beds ptr => Function.update beds ptr (change (beds ptr))) beds.beds }

/-- `Game::setBedSleeper` -/
def setBedSleeper (ptr : BedPtr) (guid : Nat) : Beds :=
  { beds with bedSleepersMap := Function.update beds.bedSleepersMap guid (some ptr) }

/-- `Game::removeBedSleeper` -/
def removeBedSleeper (guid : Nat) : Beds := { beds with bedSleepersMap := Function.update beds.bedSleepersMap guid none }

/-- `BedItem::sleep`; the player is kicked later. -/
def sleep (ptr : BedPtr) (player : BedUser) (now : Nat) : Beds :=
  if !(beds.beds ptr).inHouse then beds
  else if (beds.beds ptr).sleeperGUID ≠ 0 then beds
  else
    let nextBedItem := beds.getNextBedItem types ptr
    ((beds.changeBoth ptr nextBedItem (BedItem.internalSetSleeper player now)).setBedSleeper ptr player.guid).changeBoth ptr nextBedItem
      (BedItem.update types (some player.sex))

/-- `BedItem::wakeUp`, without the regeneration of the player. -/
def wakeUp (ptr : BedPtr) : Beds :=
  if !(beds.beds ptr).inHouse then beds
  else
    let nextBedItem := beds.getNextBedItem types ptr
    ((beds.removeBedSleeper (beds.beds ptr).sleeperGUID).changeBoth ptr nextBedItem BedItem.internalRemoveSleeper).changeBoth ptr
      nextBedItem (BedItem.update types none)

/-- `BedItem::trySleep`; `isOwner` if the player owns the house. -/
def trySleep (ptr : BedPtr) (player : BedUser) (isOwner : Bool) : Bool × Beds :=
  let bed := beds.beds ptr
  if !bed.inHouse || player.isRemoved then (false, beds)
  else if bed.sleeperGUID ≠ 0 then
    (false, if (types.get bed.id).transformToFree ≠ 0 && isOwner then beds.wakeUp types ptr else beds)
  else (true, beds)

/-- `Actions::internalUseItem` for a bed that the player can use. -/
def useBed (ptr : BedPtr) (player : BedUser) (isOwner : Bool) (now : Nat) : Beds :=
  match beds.trySleep types ptr player isOwner with
  | (true, beds) => beds.sleep types ptr player now
  | (false, beds) => beds

end

inductive Step where
  | sleep (ptr : BedPtr) (player : BedUser) (now : Nat)
  | wakeUp (ptr : BedPtr)
  | useBed (ptr : BedPtr) (player : BedUser) (isOwner : Bool) (now : Nat)

def step (types : BedTypes) (beds : Beds) : Step → Beds
  | .sleep ptr player now => beds.sleep types ptr player now
  | .wakeUp ptr => beds.wakeUp types ptr
  | .useBed ptr player isOwner now => beds.useBed types ptr player isOwner now

section
variable (types : BedTypes) (beds : Beds)

def sleeper (ptr : BedPtr) : Nat := (beds.beds ptr).sleeperGUID

def IsHalf (ptr other : BedPtr) : Prop := beds.getNextBedItem types ptr = some other

instance (ptr other : BedPtr) : Decidable (beds.IsHalf types ptr other) :=
  inferInstanceAs (Decidable (beds.getNextBedItem types ptr = some other))

/-- A player sleeps in one bed, in both halves of it, and the map sends the player to one of them. -/
structure Sound : Prop where
  one : ∀ ptr other, beds.sleeper ptr ≠ 0 → beds.sleeper other = beds.sleeper ptr → other = ptr ∨ beds.IsHalf types ptr other
  sleeps : ∀ guid ptr, beds.bedSleepersMap guid = some ptr → beds.sleeper ptr = guid
  mapped : ∀ ptr, beds.sleeper ptr ≠ 0 →
    ∃ other, beds.bedSleepersMap (beds.sleeper ptr) = some other ∧ (other = ptr ∨ beds.IsHalf types ptr other)

/-- The beds are laid out in pairs. -/
def Paired : Prop := ∀ ptr other, beds.IsHalf types ptr other → beds.IsHalf types other ptr

/-- Nobody sleeps. -/
structure Empty : Prop where
  sleeper : ∀ ptr, beds.sleeper ptr = 0
  map : ∀ guid, beds.bedSleepersMap guid = none

/-- A player does not go to sleep while sleeping. -/
def Allowed (beds : Beds) : Step → Prop
  | .sleep ptr player _ =>
    (beds.beds ptr).inHouse = true → beds.sleeper ptr = 0 → ∀ other, beds.sleeper other ≠ player.guid
  | .wakeUp _ => True
  | .useBed ptr player _ _ =>
    (beds.beds ptr).inHouse = true → player.isRemoved = false → beds.sleeper ptr = 0 → ∀ other, beds.sleeper other ≠ player.guid

end

section
variable {types : BedTypes} {beds : Beds} {ptr : BedPtr} {next : Option BedPtr}

/-- Where a bed is, and where its other half is: what no change touches. -/
def place (types : BedTypes) (bed : BedItem) : Position × Option Direction × Bool :=
  (bed.position, (types.get bed.id).bedPartnerDir, bed.inHouse)

theorem getNextBedItem_congr {after : Beds} (tiles : after.getBedItem = beds.getBedItem)
    (places : ∀ ptr, place types (after.beds ptr) = place types (beds.beds ptr)) (ptr : BedPtr) :
    after.getNextBedItem types ptr = beds.getNextBedItem types ptr := by
  have same := places ptr
  simp only [place, Prod.mk.injEq] at same
  unfold getNextBedItem
  dsimp only
  rw [tiles, same.1, same.2.1]

theorem mem_halves {other : BedPtr} : other ∈ ptr :: next.toList ↔ other = ptr ∨ next = some other := by
  rw [List.mem_cons, Option.mem_toList]

/-- What two changes of both halves leave, the first of which sets the sleeper and the second the appearance. -/
theorem changeBoth_spec {guid : Nat} {map : Nat → Option BedPtr} {change : BedItem → BedItem} {player : Option PlayerSex}
    (sets : ∀ bed, (change bed).sleeperGUID = guid) (keeps : ∀ bed, place types (change bed) = place types bed) :
    (∀ other, ((({ beds with bedSleepersMap := map } : Beds).changeBoth ptr next change).changeBoth ptr next
        (BedItem.update types player)).sleeper other = if other ∈ ptr :: next.toList then guid else beds.sleeper other) ∧
      ∀ other, place types (((({ beds with bedSleepersMap := map } : Beds).changeBoth ptr next change).changeBoth ptr next
        (BedItem.update types player)).beds other) = place types (beds.beds other) := by
  constructor
  · intro other
    change BedItem.sleeperGUID (Shift.each (BedItem.update types player) (ptr :: next.toList)
      (Shift.each change (ptr :: next.toList) beds.beds) other) = _
    rw [Shift.each_keeps BedItem.sleeperGUID (BedItem.update types player) (fun _ => rfl), Shift.each_sets BedItem.sleeperGUID change sets]
    rfl
  · intro other
    have steady : ∀ bed, place types (bed.update types player) = place types bed := by
      intro bed
      rw [place, BedItem.update, types.steady]
      rfl
    change place types (Shift.each (BedItem.update types player) (ptr :: next.toList)
      (Shift.each change (ptr :: next.toList) beds.beds) other) = _
    rw [Shift.each_keeps (place types) _ steady, Shift.each_keeps (place types) change keeps]

end

section
variable {types : BedTypes} {beds : Beds} {ptr : BedPtr}

/-- The beds with other sleepers in both halves of one bed, and another map. -/
structure Becomes (types : BedTypes) (beds after : Beds) (ptr : BedPtr) (guid : Nat) (map : Nat → Option BedPtr) : Prop where
  sleeper : ∀ other, after.sleeper other = if other = ptr ∨ beds.IsHalf types ptr other then guid else beds.sleeper other
  map : after.bedSleepersMap = map
  half : ∀ other half, after.IsHalf types other half ↔ beds.IsHalf types other half

theorem becomes_changeBoth {guid : Nat} {change : BedItem → BedItem} (map : Nat → Option BedPtr) (player : Option PlayerSex)
    (sets : ∀ bed, (change bed).sleeperGUID = guid) (keeps : ∀ bed, place types (change bed) = place types bed) :
    Becomes types beds ((({ beds with bedSleepersMap := map } : Beds).changeBoth ptr (beds.getNextBedItem types ptr) change).changeBoth
      ptr (beds.getNextBedItem types ptr) (BedItem.update types player)) ptr guid map := by
  obtain ⟨sleepers, places⟩ := @changeBoth_spec types beds ptr (beds.getNextBedItem types ptr) guid map change player sets keeps
  exact {
    sleeper := by
      intro other
      refine (sleepers other).trans ?_
      simp only [mem_halves]
      rfl
    map := rfl
    half := by
      intro other half
      exact Eq.congr_left (getNextBedItem_congr (by rfl) places other) }

theorem sleep_becomes (inHouse : (beds.beds ptr).inHouse = true) (free : beds.sleeper ptr = 0) (player : BedUser) (now : Nat) :
    Becomes types beds (beds.sleep types ptr player now) ptr player.guid
      (update beds.bedSleepersMap player.guid (some ptr)) := by
  have free : (beds.beds ptr).sleeperGUID = 0 := free
  have becomes := @becomes_changeBoth types beds ptr player.guid (BedItem.internalSetSleeper player now)
    (update beds.bedSleepersMap player.guid (some ptr)) (some player.sex) (fun _ => rfl) (fun _ => rfl)
  rw [sleep, inHouse, free]
  exact becomes

theorem wakeUp_becomes (inHouse : (beds.beds ptr).inHouse = true) :
    Becomes types beds (beds.wakeUp types ptr) ptr 0 (update beds.bedSleepersMap (beds.sleeper ptr) none) := by
  rw [wakeUp, inHouse]
  exact @becomes_changeBoth types beds ptr 0 BedItem.internalRemoveSleeper _ none (fun _ => rfl) (fun _ => rfl)

/-- Sound beds that are laid out in pairs. -/
structure Good (types : BedTypes) (beds : Beds) : Prop where
  sound : beds.Sound types
  paired : beds.Paired types
  halves : ∀ ptr other, beds.IsHalf types ptr other → beds.sleeper other = beds.sleeper ptr
  zero : beds.bedSleepersMap 0 = none

/-- The halves of a bed belong together. -/
theorem Good.bed_iff (good : beds.Good types) {other half : BedPtr} (here : beds.IsHalf types other half) :
    other = ptr ∨ beds.IsHalf types ptr other ↔ half = ptr ∨ beds.IsHalf types ptr half := by
  have back := good.paired other half here
  constructor
  · rintro (rfl | this)
    · exact .inr here
    · exact .inl (Option.some.inj (here.symm.trans (good.paired ptr other this)))
  · rintro (rfl | this)
    · exact .inr back
    · exact .inl (Option.some.inj (back.symm.trans (good.paired ptr half this)))

theorem Good.same_bed (good : beds.Good types) {first second : BedPtr} (one : first = ptr ∨ beds.IsHalf types ptr first)
    (other : second = ptr ∨ beds.IsHalf types ptr second) : second = first ∨ beds.IsHalf types first second := by
  rcases one with rfl | one
  · exact other
  · rcases other with rfl | other
    · exact .inr (good.paired _ _ one)
    · exact .inl (Option.some.inj (other.symm.trans one))

theorem Good.sleeper_bed (good : beds.Good types) {other : BedPtr} (here : other = ptr ∨ beds.IsHalf types ptr other) :
    beds.sleeper other = beds.sleeper ptr := by
  rcases here with rfl | half
  · rfl
  · exact good.halves ptr other half

/-- Beds that become others keep their layout, and their halves agree. -/
theorem Becomes.paired {after : Beds} {guid : Nat} {map : Nat → Option BedPtr} (becomes : Becomes types beds after ptr guid map)
    (good : beds.Good types) : after.Paired types ∧ ∀ ptr other, after.IsHalf types ptr other → after.sleeper other = after.sleeper ptr := by
  constructor
  · intro first second half
    exact (becomes.half _ _).mpr (good.paired _ _ ((becomes.half _ _).mp half))
  · intro first second half
    have before := (becomes.half _ _).mp half
    rw [becomes.sleeper, becomes.sleeper]
    by_cases here : first = ptr ∨ beds.IsHalf types ptr first
    · rw [if_pos here, if_pos ((good.bed_iff before).mp here)]
    · rw [if_neg here, if_neg (fun there => here ((good.bed_iff before).mpr there)), good.halves _ _ before]

/-- A player goes to sleep soundly just when nobody of that name sleeps. -/
theorem sound_sleep {after : Beds} {guid : Nat} (good : beds.Good types) (free : beds.sleeper ptr = 0) (nonzero : guid ≠ 0)
    (becomes : Becomes types beds after ptr guid (update beds.bedSleepersMap guid (some ptr))) :
    after.Sound types ↔ ∀ other, beds.sleeper other ≠ guid := by
  have awake : ∀ other, other = ptr ∨ beds.IsHalf types ptr other → beds.sleeper other = 0 :=
    fun other here => (good.sleeper_bed here).trans free
  constructor
  · intro sound other sleeps
    have elsewhere : ¬ (other = ptr ∨ beds.IsHalf types ptr other) := fun here => nonzero (sleeps.symm.trans (awake other here))
    have here : after.sleeper ptr = guid := by rw [becomes.sleeper, if_pos (.inl rfl)]
    have there : after.sleeper other = guid := by rw [becomes.sleeper, if_neg elsewhere, sleeps]
    have same := sound.one ptr other (here ▸ nonzero) (there.trans here.symm)
    rw [becomes.half] at same
    exact elsewhere same
  · intro fresh
    exact {
      one := by
        intro first second asleep same
        rw [becomes.half]
        rw [becomes.sleeper] at asleep same
        rw [becomes.sleeper] at same
        by_cases one : first = ptr ∨ beds.IsHalf types ptr first
        · by_cases other : second = ptr ∨ beds.IsHalf types ptr second
          · exact good.same_bed one other
          · rw [if_pos one, if_neg other] at same
            exact absurd same (fresh second)
        · by_cases other : second = ptr ∨ beds.IsHalf types ptr second
          · rw [if_neg one, if_pos other] at same
            exact absurd same.symm (fresh first)
          · rw [if_neg one] at asleep same
            rw [if_neg other] at same
            exact good.sound.one first second asleep same
      sleeps := by
        intro other_guid other found
        rw [becomes.map] at found
        rw [becomes.sleeper]
        by_cases new : other_guid = guid
        · subst new
          rw [update_self] at found
          cases found
          exact if_pos (.inl rfl)
        · rw [update_of_ne new] at found
          have sleeps := good.sound.sleeps other_guid other found
          have elsewhere : ¬ (other = ptr ∨ beds.IsHalf types ptr other) := by
            intro here
            have zero : other_guid = 0 := sleeps.symm.trans (awake other here)
            rw [zero, good.zero] at found
            cases found
          rw [if_neg elsewhere, sleeps]
      mapped := by
        intro first asleep
        rw [becomes.map]
        rw [becomes.sleeper] at asleep ⊢
        by_cases here : first = ptr ∨ beds.IsHalf types ptr first
        · rw [if_pos here, update_self]
          refine ⟨ptr, rfl, ?_⟩
          rw [becomes.half]
          exact good.same_bed here (.inl rfl)
        · rw [if_neg here] at asleep ⊢
          rw [update_of_ne (fresh first)]
          obtain ⟨other, found, near⟩ := good.sound.mapped first asleep
          refine ⟨other, found, ?_⟩
          rw [becomes.half]
          exact near }

/-- Waking up is sound. -/
theorem good_wakeUp {after : Beds} (good : beds.Good types)
    (becomes : Becomes types beds after ptr 0 (update beds.bedSleepersMap (beds.sleeper ptr) none)) : after.Good types := by
  obtain ⟨paired, halves⟩ := becomes.paired good
  have elsewhere : ∀ {other}, after.sleeper other ≠ 0 → ¬ (other = ptr ∨ beds.IsHalf types ptr other) := by
    intro other asleep here
    rw [becomes.sleeper, if_pos here] at asleep
    exact asleep rfl
  have kept : ∀ {other}, ¬ (other = ptr ∨ beds.IsHalf types ptr other) → after.sleeper other = beds.sleeper other := by
    intro other away
    rw [becomes.sleeper, if_neg away]
  exact {
    sound :=
      { one := by
          intro first second asleep same
          rw [becomes.half]
          have away := elsewhere asleep
          have other_away := elsewhere (same ▸ asleep)
          rw [kept away] at asleep same
          rw [kept other_away] at same
          exact good.sound.one first second asleep same
        sleeps := by
          intro guid other found
          rw [becomes.map] at found
          by_cases woken : guid = beds.sleeper ptr
          · rw [woken, update_self] at found
            cases found
          · rw [update_of_ne woken] at found
            have sleeps := good.sound.sleeps guid other found
            rw [kept fun here => woken (sleeps.symm.trans (good.sleeper_bed here)), sleeps]
        mapped := by
          intro first asleep
          have away := elsewhere asleep
          rw [kept away] at asleep ⊢
          obtain ⟨other, found, near⟩ := good.sound.mapped first asleep
          have others : beds.sleeper first ≠ beds.sleeper ptr := by
            intro same
            exact away (good.sound.one ptr first (same ▸ asleep) same)
          rw [becomes.map, update_of_ne others]
          refine ⟨other, found, ?_⟩
          rw [becomes.half]
          exact near }
    paired
    halves
    zero := by
      rw [becomes.map]
      by_cases free : beds.sleeper ptr = 0
      · rw [free, update_self]
      · rw [update_of_ne (Ne.symm free), good.zero] }

end

section
variable {types : BedTypes} {beds : Beds} {ptr : BedPtr}

theorem good_of_empty (paired : beds.Paired types) (empty : beds.Empty) : beds.Good types where
  sound :=
    { one := fun first _ asleep => absurd (empty.sleeper first) asleep
      sleeps := by
        intro guid other found
        rw [empty.map] at found
        cases found
      mapped := fun first asleep => absurd (empty.sleeper first) asleep }
  paired
  halves := fun first second _ => (empty.sleeper second).trans (empty.sleeper first).symm
  zero := empty.map 0

theorem sleep_of_not_free (closed : ¬ ((beds.beds ptr).inHouse = true ∧ beds.sleeper ptr = 0)) (player : BedUser) (now : Nat) :
    beds.sleep types ptr player now = beds := by
  rw [sleep]
  split
  · rfl
  · rename_i inHouse
    exact if_pos fun free => closed ⟨by simpa using inHouse, free⟩

theorem wakeUp_of_not_inHouse (closed : ¬ (beds.beds ptr).inHouse = true) : beds.wakeUp types ptr = beds := by
  rw [wakeUp]
  exact if_pos (by simpa using closed)

/-- A call of `sleep` is sound just where it is allowed. -/
theorem sound_sleep_iff (good : beds.Good types) (player : BedUser) (now : Nat) :
    (beds.sleep types ptr player now).Sound types ↔ Allowed beds (.sleep ptr player now) := by
  by_cases opened : (beds.beds ptr).inHouse = true ∧ beds.sleeper ptr = 0
  · rw [sound_sleep good opened.2 player.nonzero (sleep_becomes opened.1 opened.2 player now)]
    exact ⟨fun fresh _ _ => fresh, fun allowed => allowed opened.1 opened.2⟩
  · rw [sleep_of_not_free opened]
    exact iff_of_true good.sound fun inHouse free => absurd ⟨inHouse, free⟩ opened

theorem good_sleep (good : beds.Good types) (player : BedUser) (now : Nat)
    (sound : (beds.sleep types ptr player now).Sound types) : (beds.sleep types ptr player now).Good types := by
  by_cases opened : (beds.beds ptr).inHouse = true ∧ beds.sleeper ptr = 0
  · have becomes := @sleep_becomes types beds ptr opened.1 opened.2 player now
    obtain ⟨paired, halves⟩ := becomes.paired good
    exact {
      sound
      paired
      halves
      zero := by rw [becomes.map, update_of_ne (Ne.symm player.nonzero), good.zero] }
  · rw [sleep_of_not_free opened]
    exact good

theorem Good.wakeUp (good : beds.Good types) (ptr : BedPtr) : (beds.wakeUp types ptr).Good types := by
  by_cases inHouse : (beds.beds ptr).inHouse = true
  · exact good_wakeUp good (wakeUp_becomes inHouse)
  · rw [wakeUp_of_not_inHouse inHouse]
    exact good

theorem useBed_cases (types : BedTypes) (beds : Beds) (ptr : BedPtr) (player : BedUser) (isOwner : Bool) (now : Nat) :
    ((beds.beds ptr).inHouse = true ∧ player.isRemoved = false ∧ beds.sleeper ptr = 0 ∧
        beds.useBed types ptr player isOwner now = beds.sleep types ptr player now) ∨
      ((¬ ((beds.beds ptr).inHouse = true ∧ player.isRemoved = false ∧ beds.sleeper ptr = 0)) ∧
        (beds.useBed types ptr player isOwner now = beds.wakeUp types ptr ∨ beds.useBed types ptr player isOwner now = beds)) := by
  cases inHouse : (beds.beds ptr).inHouse
  · refine .inr ⟨fun opened => Bool.noConfusion opened.1, .inr ?_⟩
    simp [useBed, trySleep, inHouse]
  · cases removed : player.isRemoved
    · by_cases free : beds.sleeper ptr = 0
      · refine .inl ⟨rfl, rfl, free, ?_⟩
        have free : (beds.beds ptr).sleeperGUID = 0 := free
        simp [useBed, trySleep, inHouse, removed, free]
      · refine .inr ⟨fun opened => free opened.2.2, ?_⟩
        have free : (beds.beds ptr).sleeperGUID ≠ 0 := free
        have same : beds.useBed types ptr player isOwner now =
            if (types.get (beds.beds ptr).id).transformToFree ≠ 0 && isOwner then beds.wakeUp types ptr else beds := by
          simp [useBed, trySleep, inHouse, removed, free]
        rw [same]
        exact ite_eq_or_eq _ _ _
    · refine .inr ⟨fun opened => Bool.noConfusion opened.2.1, .inr ?_⟩
      simp [useBed, trySleep, inHouse, removed]

theorem sound_step_iff (good : beds.Good types) (label : Step) :
    (step types beds label).Sound types ↔ Allowed beds label := by
  cases label with
  | sleep ptr player now => exact sound_sleep_iff good player now
  | wakeUp ptr => exact iff_of_true (good.wakeUp ptr).sound trivial
  | useBed ptr player isOwner now =>
    change (beds.useBed types ptr player isOwner now).Sound types ↔ _
    rcases useBed_cases types beds ptr player isOwner now with ⟨inHouse, here, free, same⟩ | ⟨closed, same | same⟩
    · rw [same, sound_sleep_iff good]
      constructor
      · intro allowed inHouse _ free
        exact allowed inHouse free
      · intro allowed inHouse free
        exact allowed inHouse here free
    · rw [same]
      exact iff_of_true (good.wakeUp ptr).sound fun inHouse here free => absurd ⟨inHouse, here, free⟩ closed
    · rw [same]
      exact iff_of_true good.sound fun inHouse here free => absurd ⟨inHouse, here, free⟩ closed

theorem good_step (good : beds.Good types) (label : Step) (sound : (step types beds label).Sound types) :
    (step types beds label).Good types := by
  cases label with
  | sleep ptr player now => exact good_sleep good player now sound
  | wakeUp ptr => exact good.wakeUp ptr
  | useBed ptr player isOwner now =>
    change (beds.useBed types ptr player isOwner now).Sound types at sound
    change (beds.useBed types ptr player isOwner now).Good types
    rcases useBed_cases types beds ptr player isOwner now with ⟨_, _, _, same⟩ | ⟨_, same | same⟩
    · rw [same] at sound ⊢
      exact good_sleep good player now sound
    · rw [same]
      exact good.wakeUp ptr
    · rw [same]
      exact good

/-- Along a run every player sleeps in one bed at most, and the map knows it, just when no player who sleeps goes to sleep. -/
theorem sleepers_sound_iff (types : BedTypes) (beds : Beds) (good : beds.Good types) (steps : List Step) :
    Always (step types) (Sound types) beds steps ↔ Throughout (step types) Allowed beds steps :=
  always_iff_throughout_of_good (Good types) (fun _ good => good.sound) (fun _ label good sound => good_step good label sound)
    (fun _ label good => sound_step_iff good label) good steps

end

/-- The upper and the lower half of a bed, free and in use. -/
def woodenBed (id : Nat) : BedType :=
  if id = 1754 then { isBed := true, bedPartnerDir := some .south, transformToOnUse := fun _ => 1762 }
  else if id = 1762 then { isBed := true, bedPartnerDir := some .south, transformToFree := 1754 }
  else if id = 1755 then { isBed := true, bedPartnerDir := some .north, transformToOnUse := fun _ => 1763 }
  else if id = 1763 then { isBed := true, bedPartnerDir := some .north, transformToFree := 1755 }
  else {}

def woodenBeds : BedTypes where
  get := woodenBed
  steady := by
    intro id player
    by_cases upper : id = 1754
    · subst upper
      cases player <;> rfl
    by_cases used : id = 1762
    · subst used
      cases player <;> rfl
    by_cases lower : id = 1755
    · subst lower
      cases player <;> rfl
    by_cases used_lower : id = 1763
    · subst used_lower
      cases player <;> rfl
    simp [updateAppearance, woodenBed, upper, used, lower, used_lower]

/-- A house with two beds. -/
def bedroom : Beds where
  beds
    | 0 => { id := 1754, position := ⟨100, 100, 7⟩ }
    | 1 => { id := 1755, position := ⟨100, 101, 7⟩ }
    | 2 => { id := 1754, position := ⟨103, 100, 7⟩ }
    | 3 => { id := 1755, position := ⟨103, 101, 7⟩ }
    | _ => { id := 0, position := ⟨0, 0, 0⟩, inHouse := false }
  getBedItem pos :=
    if pos = ⟨100, 100, 7⟩ then some 0 else if pos = ⟨100, 101, 7⟩ then some 1 else if pos = ⟨103, 100, 7⟩ then some 2
    else if pos = ⟨103, 101, 7⟩ then some 3 else none

def sleepyKnight : BedUser where
  guid := 17
  nonzero := by decide
  name := "Knight"

theorem bedroom_good : bedroom.Good woodenBeds := by
  have paired : bedroom.Paired woodenBeds := by
    intro ptr other half
    match ptr with
    | 0 | 1 | 2 | 3 =>
      cases half
      decide
    | _ + 4 => cases half
  have empty : bedroom.Empty := by
    constructor
    · intro ptr
      match ptr with
      | 0 | 1 | 2 | 3 | _ + 4 => rfl
    · intro guid
      rfl
  exact good_of_empty paired empty

theorem sleepers_sound_iff_bedroom :
    Always (step woodenBeds) (Sound woodenBeds) bedroom [.useBed 0 sleepyKnight false 0, .wakeUp 1, .useBed 3 sleepyKnight false 60] ↔
      Throughout (step woodenBeds) Allowed bedroom [.useBed 0 sleepyKnight false 0, .wakeUp 1, .useBed 3 sleepyKnight false 60] :=
  sleepers_sound_iff woodenBeds bedroom bedroom_good _

/-- A player uses a second bed before the kick. -/
theorem second_bed_before_kick : ¬ Always (step woodenBeds) (Sound woodenBeds) bedroom
    [.useBed 0 sleepyKnight false 0, .useBed 2 sleepyKnight false 0] := by
  intro always
  have asleep : (step woodenBeds (step woodenBeds bedroom (.useBed 0 sleepyKnight false 0))
      (.useBed 2 sleepyKnight false 0)).sleeper 0 ≠ 0 := by decide
  have one := always.2.2.one 0 2 asleep (by decide)
  revert one
  decide

end Beds

end Styller
