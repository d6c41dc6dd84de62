import Styller.Library.Ladder
import Styller.Library.Run
import Styller.Player.BasisPoints

/-! Skill levels and the tries for them: `addSkillAdvance` and `removeSkillTries`. -/

namespace Styller.SkillTries

open Library BasisPoints

structure Vocation where
  getReqSkillTries : UInt16 → UInt64
  mono : ∀ lower upper, lower ≤ upper → getReqSkillTries lower ≤ getReqSkillTries upper

def minimumSkillLevel : UInt16 := 10

structure Skill where
  tries : UInt64
  level : UInt16
  percent : UInt16
  deriving DecidableEq

namespace Skill
variable (vocation : Vocation)

/-- The loop in `addSkillAdvance`: the skill, the rest of the count and the two requirements. -/
def advance (skill : Skill) (count currReqTries nextReqTries : UInt64) : Skill × UInt64 × UInt64 × UInt64 :=
  if nextReqTries ≤ skill.tries + count then
    let count := count - (nextReqTries - skill.tries)
    let advanced : Skill := { level := skill.level + 1, tries := 0, percent := 0 }
    if vocation.getReqSkillTries (advanced.level + 1) ≤ nextReqTries then
      (advanced, 0, nextReqTries, vocation.getReqSkillTries (advanced.level + 1))
    else advance advanced count nextReqTries (vocation.getReqSkillTries (advanced.level + 1))
  else (skill, count, currReqTries, nextReqTries)
termination_by 2 ^ 64 - nextReqTries.toNat
decreasing_by
  rename_i more
  have less := UInt64.lt_iff_toNat_lt.mp (UInt64.not_le.mp more)
  have small := (vocation.getReqSkillTries (skill.level + 1 + 1)).toNat_lt
  exact Nat.sub_lt_sub_left (Nat.lt_trans less small) less

/-- `Player::addSkillAdvance`, with a script that leaves the count as it is. -/
def addSkillAdvance (count : UInt64) (skill : Skill) : Skill :=
  let currReqTries := vocation.getReqSkillTries skill.level
  let nextReqTries := vocation.getReqSkillTries (skill.level + 1)
  if nextReqTries ≤ currReqTries then skill
  else if count = 0 then skill
  else
    let (skill, count, currReqTries, nextReqTries) := skill.advance vocation count currReqTries nextReqTries
    let tries := skill.tries + count
    let newPercent := if currReqTries < nextReqTries then getBasisPointLevel tries nextReqTries else 0
    -- the percentage is cast to a byte
    { skill with tries, percent := if skill.percent ≠ newPercent then newPercent.toUInt8.toUInt16 else skill.percent }

/-- The loop in `removeSkillTries`: the skill and the rest of the count. -/
def reduce (skill : Skill) (count : UInt64) : Skill × UInt64 :=
  if skill.tries < count then
    if skill.level ≤ minimumSkillLevel then ({ skill with level := minimumSkillLevel, tries := 0 }, 0)
    else
      reduce { skill with tries := vocation.getReqSkillTries skill.level, level := skill.level - 1 } (count - skill.tries)
  else (skill, count)
termination_by skill.level.toNat
decreasing_by
  rename_i more
  have above := UInt16.lt_iff_toNat_lt.mp (UInt16.not_le.mp more)
  have one : (1 : UInt16) ≤ skill.level := UInt16.le_iff_toNat_le.mpr (Nat.lt_of_le_of_lt (Nat.zero_le _) above)
  rw [UInt16.toNat_sub_of_le _ _ one]
  exact Nat.sub_lt (Nat.lt_of_le_of_lt (Nat.zero_le _) above) Nat.one_pos

/-- `std::max<int32_t>(0, tries - count)` -/
def lessTries (tries count : UInt64) : UInt64 := (max 0 (tries - count).toUInt32.toInt32).toUInt32.toUInt64

/-- `Player::removeSkillTries` -/
def removeSkillTries (count : UInt64) (skill : Skill) : Skill :=
  let (skill, count) := skill.reduce vocation count
  let tries := lessTries skill.tries count
  { skill with tries, percent := getBasisPointLevel tries (vocation.getReqSkillTries skill.level) }

end Skill

inductive Label where
  | addSkillAdvance (count : UInt64)
  | removeSkillTries (count : UInt64)

def step (vocation : Vocation) (skill : Skill) : Label → Skill
  | .addSkillAdvance count => skill.addSkillAdvance vocation count
  | .removeSkillTries count => skill.removeSkillTries vocation count

/-- The skill levels as a ladder from the minimum on; behind the last number there is nothing that needs more. -/
def Vocation.ladder (vocation : Vocation) : Ladder where
  req level := (vocation.getReqSkillTries (UInt16.ofNat level)).toNat
  base := 10
  ends := by
    refine ⟨65535, by decide, ?_⟩
    have least := vocation.mono 0 65535 (by decide)
    exact UInt64.le_iff_toNat_le.mp least

section
variable (vocation : Vocation) (skill : Skill)

def tried : Nat := vocation.ladder.total skill.level.toNat skill.tries.toNat

def shown (level : UInt16) (tries : UInt64) : UInt16 := getBasisPointLevel tries (vocation.getReqSkillTries (level + 1))

/-- The tries are below the requirement of the next level, and nothing at the highest one; the percentage is that of the next level. -/
structure Good : Prop where
  placed : vocation.ladder.Placed skill.level.toNat skill.tries.toNat
  percent : skill.percent = shown vocation skill.level skill.tries

/-- The tries of all levels after a call. -/
def account : Label → Nat
  | .addSkillAdvance count => min (tried vocation skill + count.toNat) vocation.ladder.cap
  | .removeSkillTries count => tried vocation skill - count.toNat

/-- The tries of all levels change by the count, and the skill is good. -/
def Right (label : Label) : Prop :=
  tried vocation (step vocation skill label) = account vocation skill label ∧ Good vocation (step vocation skill label)

/-- The level and the tries that a call should lead to. -/
def target (label : Label) : UInt16 × UInt64 :=
  let place := vocation.ladder.place (account vocation skill label)
  (UInt16.ofNat place.1, UInt64.ofNat place.2)

/-- A count that is added fits in a word with the tries, and the percentage that it leads to fits in a byte or is the one of the same
level already, unless nothing is added. A count that is removed leads to tries that fit in 31 bits, and to a percentage that is the
same for the requirement of the level and for that of the next one. -/
def Covered : Label → Prop
  | .addSkillAdvance count =>
    vocation.getReqSkillTries (skill.level + 1) ≤ vocation.getReqSkillTries skill.level ∨ count = 0 ∨
      skill.tries.toNat + count.toNat < 2 ^ 64 ∧
        (shown vocation (target vocation skill (.addSkillAdvance count)).1 (target vocation skill (.addSkillAdvance count)).2 < 256 ∨
          (target vocation skill (.addSkillAdvance count)).1 = skill.level ∧
            shown vocation skill.level (target vocation skill (.addSkillAdvance count)).2 = skill.percent)
  | .removeSkillTries count =>
    (target vocation skill (.removeSkillTries count)).2 < 2147483648 ∧
      getBasisPointLevel (target vocation skill (.removeSkillTries count)).2
          (vocation.getReqSkillTries (target vocation skill (.removeSkillTries count)).1) =
        shown vocation (target vocation skill (.removeSkillTries count)).1 (target vocation skill (.removeSkillTries count)).2

end

variable {vocation : Vocation} {skill after : Skill} {count left current next : UInt64}

theorem req_toNat (level : UInt16) : vocation.ladder.req level.toNat = (vocation.getReqSkillTries level).toNat := by
  unfold Vocation.ladder
  dsimp only
  rw [UInt16.ofNat_toNat]

theorem req_next (level : UInt16) : vocation.ladder.req (level.toNat + 1) = (vocation.getReqSkillTries (level + 1)).toNat := by
  unfold Vocation.ladder
  dsimp only
  rw [UInt16.ofNat_add, UInt16.ofNat_toNat]
  rfl

theorem top_lt : vocation.ladder.top < 2 ^ 16 := by
  have least := vocation.mono 0 65535 (by decide)
  have ends : vocation.ladder.base ≤ 65535 ∧ Stops vocation.ladder.req 65535 :=
    ⟨(by decide : 10 ≤ 65535), UInt64.le_iff_toNat_le.mp least⟩
  exact Nat.lt_of_le_of_lt (Nat.find_min' vocation.ladder.ends ends) (by decide)

theorem toNat_up {level : UInt16} (below : level.toNat < vocation.ladder.top) : (level + 1).toNat = level.toNat + 1 := by
  have small := @top_lt vocation
  have one : (1 : UInt16).toNat = 1 := rfl
  rw [UInt16.toNat_add]
  exact Nat.mod_eq_of_lt (by omega)

/-- A level is below the highest one just where the next one needs more. -/
theorem below_top {level : UInt16} (above : 10 ≤ level.toNat) (within : level.toNat ≤ vocation.ladder.top) :
    level.toNat < vocation.ladder.top ↔ vocation.getReqSkillTries level < vocation.getReqSkillTries (level + 1) := by
  rw [Ladder.lt_top_iff above within, req_toNat, req_next, UInt64.lt_iff_toNat_lt]

theorem target_eq {label : Label} {level : UInt16} {tries : UInt64} (placed : vocation.ladder.Placed level.toNat tries.toNat)
    (worth : vocation.ladder.total level.toNat tries.toNat = min (account vocation skill label) vocation.ladder.cap) :
    target vocation skill label = (level, tries) := by
  have place := placed.eq_place worth
  unfold target
  rw [← place]
  dsimp only
  rw [UInt16.ofNat_toNat, UInt64.ofNat_toNat]

/-- At the highest level the percentage is nothing. -/
theorem shown_zero (level : UInt16) : shown vocation level 0 = 0 := getBasisPointLevel_zero _

theorem byte_eq_iff (value : UInt16) : value.toUInt8.toUInt16 = value ↔ value < 256 := by
  rw [← UInt16.toNat_inj, UInt8.toNat_toUInt16, UInt16.toNat_toUInt8, UInt16.lt_iff_toNat_lt]
  exact Nat.mod_eq_iff_lt (by decide)

/-- What the loop in `addSkillAdvance` leaves, with the rest of the count. -/
structure Advanced (vocation : Vocation) (skill : Skill) (count : UInt64) (after : Skill) (left current next : UInt64) : Prop where
  next_is : next = vocation.getReqSkillTries (after.level + 1)
  fits : after.tries.toNat + left.toNat < 2 ^ 64
  placed : vocation.ladder.Placed after.level.toNat (after.tries.toNat + left.toNat)
  total : vocation.ladder.total after.level.toNat (after.tries.toNat + left.toNat) =
    min (tried vocation skill + count.toNat) vocation.ladder.cap
  grows : current < next ↔ after.level.toNat < vocation.ladder.top
  percent : after.level = skill.level ∧ after.percent = skill.percent ∨
    skill.level.toNat < after.level.toNat ∧ after.percent = 0

theorem tried_up (above : 10 ≤ skill.level.toNat) (below : skill.level.toNat < vocation.ladder.top) (percent : UInt16) :
    tried vocation { level := skill.level + 1, tries := 0, percent } =
      vocation.ladder.total skill.level.toNat (vocation.getReqSkillTries (skill.level + 1)).toNat := by
  unfold tried
  dsimp only
  rw [toNat_up below, Ladder.total_succ above, req_next]
  rfl

theorem tried_turn (above : 10 ≤ skill.level.toNat) (below : skill.level.toNat < vocation.ladder.top)
    (next_is : next = vocation.getReqSkillTries (skill.level + 1)) (rest : skill.tries < next)
    (fits : skill.tries.toNat + count.toNat < 2 ^ 64) (reaches : next ≤ skill.tries + count) (percent : UInt16) :
    tried vocation { level := skill.level + 1, tries := 0, percent } + (count - (next - skill.tries)).toNat =
      tried vocation skill + count.toNat := by
  obtain ⟨_, _, moved⟩ := Ladder.step_covered rest fits reaches
  rw [tried_up above below, ← next_is]
  unfold tried Ladder.total
  omega

theorem advance_advanced (skill : Skill) (count current next : UInt64) (above : 10 ≤ skill.level.toNat)
    (below : skill.level.toNat < vocation.ladder.top) (next_is : next = vocation.getReqSkillTries (skill.level + 1))
    (grows : current < next) (rest : skill.tries < next) (fits : skill.tries.toNat + count.toNat < 2 ^ 64) :
    Advanced vocation skill count (skill.advance vocation count current next).1 (skill.advance vocation count current next).2.1
      (skill.advance vocation count current next).2.2.1 (skill.advance vocation count current next).2.2.2 := by
  fun_induction Skill.advance vocation skill count current next with
  | case1 skill count current next reaches advanced stops =>
    have turn := tried_turn above below next_is rest fits reaches 0
    have up : advanced.level.toNat = skill.level.toNat + 1 := toNat_up below
    have last : advanced.level.toNat = vocation.ladder.top := by
      apply Nat.le_antisymm
      · rw [up]
        exact below
      · apply Nat.le_of_not_lt
        intro less
        have grows := (below_top (by rw [up]; exact Nat.le_succ_of_le above) (Nat.le_of_lt less)).mp less
        rw [show vocation.getReqSkillTries advanced.level = next from next_is.symm] at grows
        exact absurd stops (UInt64.not_le.mpr grows)
    have worth : vocation.ladder.total advanced.level.toNat 0 = vocation.ladder.cap := by
      unfold Ladder.cap
      rw [last]
    have full : vocation.ladder.cap ≤ tried vocation skill + count.toNat := by
      rw [← turn, ← worth]
      exact Nat.le_add_right ..
    constructor
    · rfl
    · show 0 + 0 < 2 ^ 64
      decide
    · show vocation.ladder.Placed advanced.level.toNat 0
      rw [last]
      exact Ladder.placed_top
    · exact worth.trans (Nat.min_eq_right full).symm
    · exact iff_of_false (UInt64.not_lt.mpr stops) (Nat.not_lt_of_le (Nat.le_of_eq last.symm))
    · right
      exact ⟨by rw [up]; exact Nat.lt_succ_self _, rfl⟩
  | case2 skill count current next reaches left advanced goes ih =>
    have turn := tried_turn above below next_is rest fits reaches 0
    have up : advanced.level.toNat = skill.level.toNat + 1 := toNat_up below
    have higher : 10 ≤ advanced.level.toNat := by
      rw [up]
      exact Nat.le_succ_of_le above
    have more : next < vocation.getReqSkillTries (advanced.level + 1) := UInt64.not_le.mp goes
    have still : advanced.level.toNat < vocation.ladder.top := by
      apply (below_top higher (by rw [up]; exact below)).mpr
      rw [show vocation.getReqSkillTries advanced.level = next from next_is.symm]
      exact more
    have nothing : advanced.tries < vocation.getReqSkillTries (advanced.level + 1) := by
      rw [UInt64.lt_iff_toNat_lt] at more ⊢
      exact Nat.lt_of_le_of_lt (Nat.zero_le _) more
    have room : advanced.tries.toNat + left.toNat < 2 ^ 64 := by
      show 0 + left.toNat < 2 ^ 64
      rw [Nat.zero_add]
      exact left.toNat_lt
    have result := ih higher still rfl more nothing room
    have same : tried vocation advanced + left.toNat = tried vocation skill + count.toNat := turn
    constructor
    · exact result.next_is
    · exact result.fits
    · exact result.placed
    · rw [← same]
      exact result.total
    · exact result.grows
    · right
      rcases result.percent with ⟨level, percent⟩ | ⟨above_it, percent⟩
      · rw [level, percent, up]
        exact ⟨Nat.lt_succ_self _, rfl⟩
      · rw [up] at above_it
        exact ⟨Nat.lt_of_succ_lt above_it, percent⟩
  | case3 skill count current next few =>
    have less := UInt64.lt_iff_toNat_lt.mp (UInt64.not_le.mp few)
    rw [Ladder.toNat_sum fits] at less
    have placed : vocation.ladder.Placed skill.level.toNat (skill.tries.toNat + count.toNat) := by
      apply Ladder.Placed.of_lt above below
      rw [req_next, ← next_is]
      exact less
    constructor
    · exact next_is
    · exact fits
    · exact placed
    · have worth : vocation.ladder.total skill.level.toNat (skill.tries.toNat + count.toNat) = tried vocation skill + count.toNat :=
        Ladder.total_add ..
      rw [← worth]
      exact (Nat.min_eq_left placed.le_cap).symm
    · exact iff_of_true grows below
    · exact .inl ⟨rfl, rfl⟩

/-- The percentage that is stored is the one of the next level just where it fits in a byte, or has been there already. -/
theorem Advanced.stored (advanced : Advanced vocation skill count after left current next) :
    (if after.percent ≠ shown vocation after.level (after.tries + left)
      then (shown vocation after.level (after.tries + left)).toUInt8.toUInt16 else after.percent) =
        shown vocation after.level (after.tries + left) ↔
      shown vocation after.level (after.tries + left) < 256 ∨
        after.level = skill.level ∧ shown vocation skill.level (after.tries + left) = skill.percent := by
  generalize is : shown vocation after.level (after.tries + left) = value
  by_cases there : after.percent = value
  · rw [if_neg (not_not.mpr there)]
    refine iff_of_true there ?_
    rcases advanced.percent with ⟨level, percent⟩ | ⟨_, percent⟩
    · right
      rw [← level, is, ← percent]
      exact ⟨rfl, there.symm⟩
    · left
      rw [← there, percent]
      decide
  · rw [if_pos there, byte_eq_iff]
    constructor
    · exact .inl
    · rintro (small | ⟨level, same⟩)
      · exact small
      · rcases advanced.percent with ⟨_, percent⟩ | ⟨above, _⟩
        · rw [← level, is, ← percent] at same
          exact absurd same.symm there
        · rw [level] at above
          exact absurd above (Nat.lt_irrefl _)

/-- What `addSkillAdvance` makes of what the loop leaves. -/
theorem Advanced.right (advanced : Advanced vocation skill count after left current next)
    (fits : skill.tries.toNat + count.toNat < 2 ^ 64) :
    let tries := after.tries + left
    let newPercent := if current < next then getBasisPointLevel tries next else 0
    let stored : Skill :=
      { after with tries, percent := if after.percent ≠ newPercent then newPercent.toUInt8.toUInt16 else after.percent }
    (tried vocation stored = account vocation skill (.addSkillAdvance count) ∧ Good vocation stored) ↔
      skill.tries.toNat + count.toNat < 2 ^ 64 ∧
        (shown vocation (target vocation skill (.addSkillAdvance count)).1 (target vocation skill (.addSkillAdvance count)).2 < 256 ∨
          (target vocation skill (.addSkillAdvance count)).1 = skill.level ∧
            shown vocation skill.level (target vocation skill (.addSkillAdvance count)).2 = skill.percent) := by
  have sum : (after.tries + left).toNat = after.tries.toNat + left.toNat := Ladder.toNat_sum advanced.fits
  have placed : vocation.ladder.Placed after.level.toNat (after.tries + left).toNat := by
    rw [sum]
    exact advanced.placed
  have worth : vocation.ladder.total after.level.toNat (after.tries + left).toNat =
      account vocation skill (.addSkillAdvance count) := by
    rw [sum]
    exact advanced.total
  have there : target vocation skill (.addSkillAdvance count) = (after.level, after.tries + left) := by
    apply target_eq placed
    rw [worth]
    exact (Nat.min_eq_left (worth ▸ placed.le_cap)).symm
  have newPercent : (if current < next then getBasisPointLevel (after.tries + left) next else 0) =
      shown vocation after.level (after.tries + left) := by
    by_cases grows : current < next
    · rw [if_pos grows, advanced.next_is]
      rfl
    · have last : after.level.toNat = vocation.ladder.top :=
        Nat.le_antisymm placed.within (Nat.le_of_not_lt fun less => grows (advanced.grows.mpr less))
      have nothing : after.tries + left = 0 := UInt64.toNat_inj.mp (placed.none last)
      rw [if_neg grows, nothing, shown_zero]
  intro tries percent stored
  rw [there]
  have right : (tried vocation stored = account vocation skill (.addSkillAdvance count) ∧ Good vocation stored) ↔
      (if after.percent ≠ shown vocation after.level (after.tries + left)
        then (shown vocation after.level (after.tries + left)).toUInt8.toUInt16 else after.percent) =
          shown vocation after.level (after.tries + left) := by
    have stored_is : stored.percent = if after.percent ≠ shown vocation after.level (after.tries + left)
        then (shown vocation after.level (after.tries + left)).toUInt8.toUInt16 else after.percent := by
      show (if after.percent ≠ percent then percent.toUInt8.toUInt16 else after.percent) = _
      rw [show percent = shown vocation after.level (after.tries + left) from newPercent]
    rw [← stored_is]
    constructor
    · exact fun right => right.2.percent
    · exact fun same => ⟨worth, placed, same⟩
  rw [right, advanced.stored]
  exact ⟨fun shows => ⟨fits, shows⟩, And.right⟩

/-- An addition at the highest level, or of nothing, changes nothing. -/
theorem account_unchanged (placed : vocation.ladder.Placed skill.level.toNat skill.tries.toNat)
    (unchanged : vocation.getReqSkillTries (skill.level + 1) ≤ vocation.getReqSkillTries skill.level ∨ count = 0) :
    tried vocation skill = min (tried vocation skill + count.toNat) vocation.ladder.cap := by
  symm
  apply placed.unmoved
  rcases unchanged with stops | rfl
  · left
    intro less
    exact absurd stops (UInt64.not_le.mpr ((below_top placed.above placed.within).mp less))
  · exact .inr rfl

theorem addSkillAdvance_right (good : Good vocation skill) :
    Right vocation skill (.addSkillAdvance count) ↔ Covered vocation skill (.addSkillAdvance count) := by
  have placed := good.placed
  unfold Right Covered step
  dsimp only
  unfold Skill.addSkillAdvance
  dsimp only
  by_cases stops : vocation.getReqSkillTries (skill.level + 1) ≤ vocation.getReqSkillTries skill.level
  · rw [if_pos stops]
    exact iff_of_true ⟨account_unchanged placed (.inl stops), good⟩ (.inl stops)
  · rw [if_neg stops]
    by_cases none : count = 0
    · rw [if_pos none]
      exact iff_of_true ⟨account_unchanged placed (.inr none), good⟩ (.inr (.inl none))
    · rw [if_neg none]
      simp only [stops, none, false_or]
      have grows := UInt64.not_le.mp stops
      have below := (below_top placed.above placed.within).mpr grows
      have rest : skill.tries < vocation.getReqSkillTries (skill.level + 1) := by
        have less := placed.less below
        rw [req_next] at less
        exact UInt64.lt_iff_toNat_lt.mpr less
      by_cases fits : skill.tries.toNat + count.toNat < 2 ^ 64
      · have advanced := advance_advanced skill count _ _ placed.above below rfl grows rest fits
        generalize skill.advance vocation count (vocation.getReqSkillTries skill.level)
          (vocation.getReqSkillTries (skill.level + 1)) = result at advanced
        obtain ⟨after, left, current, next⟩ := result
        exact advanced.right fits
      · refine iff_of_false ?_ fun covered => fits covered.1
        have stays : skill.advance vocation count (vocation.getReqSkillTries skill.level)
            (vocation.getReqSkillTries (skill.level + 1)) =
              (skill, count, vocation.getReqSkillTries skill.level, vocation.getReqSkillTries (skill.level + 1)) := by
          unfold Skill.advance
          rw [if_neg (Ladder.few_of_wrapped rest fits)]
        rw [stays]
        intro right
        exact absurd right.1 (placed.wrapped fits)

/-- What the loop in `removeSkillTries` leaves: no more to remove than there is, and the tries of all levels with the count taken
away from them. -/
structure Reduced (vocation : Vocation) (skill : Skill) (count : UInt64) (after : Skill) (left : UInt64) : Prop where
  covers : left ≤ after.tries
  total : tried vocation skill - count.toNat = vocation.ladder.total after.level.toNat (after.tries - left).toNat
  rest : after = skill ∧ left = count ∨ after.level = minimumSkillLevel ∧ after.tries - left = 0 ∨
    0 < left.toNat ∧ 10 ≤ after.level.toNat ∧ after.level.toNat < skill.level.toNat ∧
      after.tries = vocation.getReqSkillTries (after.level + 1)

theorem reduce_reduced (skill : Skill) (count : UInt64) (above : 10 ≤ skill.level.toNat) :
    Reduced vocation skill count (skill.reduce vocation count).1 (skill.reduce vocation count).2 := by
  fun_induction Skill.reduce vocation skill count with
  | case1 skill count less lowest =>
    have same : skill.level.toNat = 10 := Nat.le_antisymm (UInt16.le_iff_toNat_le.mp lowest) above
    have nothing : tried vocation skill - count.toNat = 0 := by
      unfold tried
      rw [same, show vocation.ladder.total 10 skill.tries.toNat = skill.tries.toNat from Ladder.total_base _]
      exact Nat.sub_eq_zero_of_le (Nat.le_of_lt (UInt64.lt_iff_toNat_lt.mp less))
    have none : vocation.ladder.total 10 0 = 0 := @Ladder.total_base vocation.ladder 0
    constructor
    · exact UInt64.le_refl 0
    · rw [nothing]
      show 0 = vocation.ladder.total 10 ((0 : UInt64) - 0).toNat
      rw [UInt64.sub_self, UInt64.toNat_zero, none]
    · right; left
      exact ⟨rfl, UInt64.sub_self 0⟩
  | case2 skill count less higher ih =>
    have some := UInt16.lt_iff_toNat_lt.mp (UInt16.not_le.mp higher)
    have ten : minimumSkillLevel.toNat = 10 := rfl
    have one : (1 : UInt16) ≤ skill.level := UInt16.le_iff_toNat_le.mpr (Nat.lt_of_le_of_lt (Nat.zero_le _) some)
    have down : (skill.level - 1).toNat = skill.level.toNat - 1 := UInt16.toNat_sub_of_le _ _ one
    have lower : (skill.level - 1).toNat + 1 = skill.level.toNat := by omega
    have base : 10 ≤ (skill.level - 1).toNat := by omega
    have back : skill.level - 1 + 1 = skill.level := UInt16.sub_add_cancel _ _
    have fewer := UInt64.lt_iff_toNat_lt.mp less
    have left : (count - skill.tries).toNat = count.toNat - skill.tries.toNat :=
      UInt64.toNat_sub_of_le _ _ (UInt64.le_iff_toNat_le.mpr (Nat.le_of_lt fewer))
    have given : tried vocation { skill with tries := vocation.getReqSkillTries skill.level, level := skill.level - 1 } +
        skill.tries.toNat = tried vocation skill := by
      unfold tried
      dsimp only
      have up := @Ladder.total_succ vocation.ladder (skill.level - 1).toNat base skill.tries.toNat
      rw [lower, req_toNat] at up
      rw [up, Ladder.total_add]
    have result := ih base
    refine ⟨result.covers, ?_, ?_⟩
    · rw [← result.total, left]
      omega
    · rcases result.rest with ⟨same, unchanged⟩ | lowest | ⟨some_left, above_it, lower_still, full⟩
      · right; right
        rw [same, unchanged, left]
        refine ⟨Nat.sub_pos_of_lt fewer, base, by dsimp only; omega, ?_⟩
        dsimp only
        rw [back]
      · exact .inr (.inl lowest)
      · exact .inr (.inr ⟨some_left, above_it, Nat.lt_trans lower_still (by dsimp only; omega), full⟩)
  | case3 skill count enough =>
    have covers := UInt64.not_lt.mp enough
    refine ⟨covers, ?_, .inl ⟨rfl, rfl⟩⟩
    have within := UInt64.le_iff_toNat_le.mp covers
    show tried vocation skill - count.toNat = vocation.ladder.total skill.level.toNat (skill.tries - count).toNat
    rw [UInt64.toNat_sub_of_le _ _ covers]
    exact Nat.add_sub_assoc within _

theorem Reduced.placed (reduced : Reduced vocation skill count after left)
    (placed : vocation.ladder.Placed skill.level.toNat skill.tries.toNat) :
    vocation.ladder.Placed after.level.toNat (after.tries - left).toNat := by
  have rest : (after.tries - left).toNat = after.tries.toNat - left.toNat := UInt64.toNat_sub_of_le _ _ reduced.covers
  rcases reduced.rest with ⟨same, unchanged⟩ | ⟨lowest, none⟩ | ⟨some, above, lower, full⟩
  · subst same
    rw [rest]
    exact placed.mono (Nat.sub_le ..)
  · rw [lowest, none]
    have base : 10 ≤ vocation.ladder.top := Ladder.base_le_top vocation.ladder
    refine ⟨Nat.le_refl 10, base, ?_, fun _ => rfl⟩
    intro below
    exact Nat.lt_of_le_of_lt (Nat.zero_le _) (Ladder.grows (Nat.le_refl 10) below)
  · have below := Nat.lt_of_lt_of_le lower placed.within
    have covered := UInt64.le_iff_toNat_le.mp reduced.covers
    apply Ladder.Placed.of_lt above below
    rw [rest, req_next, ← full]
    exact Nat.sub_lt (Nat.lt_of_lt_of_le some covered) some

/-- The tries that are left are stored as they are just where they fit in 31 bits. -/
theorem lessTries_eq_iff (tries count : UInt64) : Skill.lessTries tries count = tries - count ↔ tries - count < 2147483648 := by
  unfold Skill.lessTries
  generalize tries - count = rest
  constructor
  · intro same
    have nonneg : (0 : Int32) ≤ max 0 rest.toUInt32.toInt32 := by
      by_cases above : 0 ≤ rest.toUInt32.toInt32
      · rwa [show max 0 rest.toUInt32.toInt32 = rest.toUInt32.toInt32 from if_pos above]
      · rw [show max 0 rest.toUInt32.toInt32 = 0 from if_neg above]
        exact Int32.le_refl 0
    rw [← same, UInt64.lt_iff_toNat_lt, UInt32.toNat_toUInt64, Int32.toNat_toUInt32_of_le nonneg]
    exact Int32.toNatClampNeg_lt _
  · intro small
    have fits : rest.toNat < 2 ^ 31 := UInt64.lt_iff_toNat_lt.mp small
    have low : rest.toUInt32.toInt32 = Int32.ofNat rest.toNat := rfl
    have worth : (Int32.ofNat rest.toNat).toInt = rest.toNat := Int32.toInt_ofNat_of_lt fits
    have nonneg : (0 : Int32) ≤ Int32.ofNat rest.toNat := by
      rw [Int32.le_iff_toInt_le, worth]
      exact Int.natCast_nonneg _
    have most : max 0 (Int32.ofNat rest.toNat) = Int32.ofNat rest.toNat := if_pos nonneg
    rw [low, most, ← UInt64.toNat_inj, UInt32.toNat_toUInt64, Int32.toNat_toUInt32_of_le nonneg]
    exact Int32.toNatClampNeg_ofNat_of_lt fits

theorem removeSkillTries_right (good : Good vocation skill) :
    Right vocation skill (.removeSkillTries count) ↔ Covered vocation skill (.removeSkillTries count) := by
  have reduced := @reduce_reduced vocation skill count good.placed.above
  unfold Right Covered step
  dsimp only
  unfold Skill.removeSkillTries
  generalize skill.reduce vocation count = result at reduced
  obtain ⟨after, left⟩ := result
  dsimp only at reduced ⊢
  have placed := reduced.placed good.placed
  have there : target vocation skill (.removeSkillTries count) = (after.level, after.tries - left) := by
    apply target_eq placed
    show _ = min (tried vocation skill - count.toNat) vocation.ladder.cap
    rw [reduced.total]
    exact (Nat.min_eq_left placed.le_cap).symm
  rw [there]
  dsimp only
  rw [← lessTries_eq_iff]
  constructor
  · intro right
    have same : Skill.lessTries after.tries left = after.tries - left := by
      apply UInt64.toNat_inj.mp
      exact Nat.add_left_cancel (right.1.trans reduced.total)
    refine ⟨same, ?_⟩
    have percent := right.2.percent
    dsimp only at percent
    rwa [same] at percent
  · rintro ⟨same, percent⟩
    rw [same]
    exact ⟨reduced.total.symm, placed, percent⟩

/-- A call is right just where its count is covered. -/
theorem step_right (vocation : Vocation) (skill : Skill) (label : Label) (good : Good vocation skill) :
    Right vocation skill label ↔ Covered vocation skill label := by
  cases label with
  | addSkillAdvance count => exact addSkillAdvance_right good
  | removeSkillTries count => exact removeSkillTries_right good

/-- The calls of a run are all right if and only if all their counts are covered. -/
theorem tries_along (vocation : Vocation) (skill : Skill) (good : Good vocation skill) (labels : List Label) :
    Throughout (step vocation) (Right vocation) skill labels ↔ Throughout (step vocation) (Covered vocation) skill labels := by
  have kept : ∀ skill label, Good vocation skill → Right vocation skill label → Good vocation (step vocation skill label) :=
    fun _ _ _ right => right.2
  exact throughout_iff kept (step_right vocation) good labels

/-- Levels that need fifty tries each from the eleventh on. -/
def even : Vocation where
  getReqSkillTries level := if level < 11 then 0 else 50
  mono := by
    intro lower upper ordered
    by_cases low : lower < 11
    · rw [if_pos low]
      exact UInt64.zero_le
    · have high : ¬ upper < 11 := fun less => low (UInt16.lt_of_le_of_lt ordered less)
      rw [if_neg low, if_neg high]
      exact UInt64.le_refl 50

def novice : Skill := ⟨0, 10, 0⟩

theorem placed_few (tries : UInt64) (few : tries < 50) : even.ladder.Placed 10 tries.toNat := by
  have below : 10 < even.ladder.top := by
    apply (@below_top even 10 (Nat.le_refl 10) (Ladder.base_le_top even.ladder)).mpr
    decide
  refine ⟨Nat.le_refl 10, Nat.le_of_lt below, ?_, fun last => absurd last (Nat.ne_of_lt below)⟩
  intro _
  exact UInt64.lt_iff_toNat_lt.mp few

theorem good_novice : Good even novice := ⟨placed_few 0 (by decide), (shown_zero 10).symm⟩

theorem tries_along_novice : Throughout (step even) (Right even) novice [.addSkillAdvance 1] := by
  have placed : even.ladder.Placed 10 1 := placed_few 1 (by decide)
  have worth : even.ladder.total 10 1 = min (account even novice (.addSkillAdvance 1)) even.ladder.cap := by
    have base : ∀ rest, even.ladder.total 10 rest = rest := @Ladder.total_base even.ladder
    have first : account even novice (.addSkillAdvance 1) = min 1 even.ladder.cap := by
      show min (even.ladder.total 10 0 + 1) even.ladder.cap = _
      rw [base]
    have within := placed.le_cap
    rw [base] at within ⊢
    rw [first, Nat.min_eq_left within, Nat.min_eq_left within]
  have there : target even novice (.addSkillAdvance 1) = (10, 1) := @target_eq even novice (.addSkillAdvance 1) 10 1 placed worth
  apply (tries_along even novice good_novice _).mpr
  refine ⟨.inr (.inr ⟨by decide, .inl ?_⟩), trivial⟩
  rw [there]
  decide +kernel

/-- Half of a level is five thousand, of which a byte keeps a hundred and thirty-six. -/
theorem half_cut : ¬ ∀ labels, Throughout (step even) (Right even) novice labels := by
  intro right
  have shows := (right [.addSkillAdvance 25]).1.2.percent
  have stored : step even novice (.addSkillAdvance 25) = ⟨25, 10, 136⟩ := by
    unfold step Skill.addSkillAdvance Skill.advance
    decide +kernel
  rw [stored] at shows
  exact absurd shows (by decide +kernel)

end Styller.SkillTries
