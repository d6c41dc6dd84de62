import Styller.Item.CustomAttribute

/-! Talk actions: which script a text runs, and the parameter that it is given. -/

namespace Styller

open Library List

/-- What `playerSaySpell` reads of a `TalkAction`. -/
structure TalkAction where
  scriptId : Int32
  separator : Bytes := [34]
  needAccess : Bool := false
  requiredAccountType : UInt8 := 1

inductive TalkActionResult where
  | continue
  | break
  | failed

namespace TalkActions

/-- The words of an action with the action: an entry of the map `talkActions`. -/
abbrev Entry := Bytes × TalkAction

/-- What `playerSaySpell` reads of a player. -/
structure Speaker where
  isAccessPlayer : Bool
  accountType : UInt8

/-- The white space of `std::isspace`. -/
def isSpace (letter : UInt8) : Bool := letter = 32 || (9 ≤ letter && letter ≤ 13)

/-- `boost::algorithm::trim_left`. -/
def trimLeft (text : Bytes) : Bytes := text.dropWhile isSpace

def caseInsensitiveStartsWith (text words : Bytes) : Bool :=
  words.length ≤ text.length && toLowerCopy (text.take words.length) = toLowerCopy words

/-- The parameter, from what follows the words; none where the loop goes on with the next action. -/
def readParam (separator rest : Bytes) : Option Bytes :=
  if rest = [] then some []
  else if rest.head? ≠ some 32 then none
  else
    let param := trimLeft rest
    if separator ≠ [32] then
      if param ≠ [] then
        if param ≠ separator then none else some (param.drop 1)
      else some param
    else some param

/-- What has been decided about a text, and the script that has been run on it. -/
structure Said where
  result : TalkActionResult
  executed : Option (Entry × Bytes)

/-- `TalkActions::playerSaySpell` over the entries in the order of the map; `executeSay` is what the
script answers. -/
def playerSaySpell (player : Speaker) (words : Bytes) (executeSay : TalkAction → Bytes → Bool) :
    List Entry → Said
  | [] => ⟨.continue, none⟩
  | entry :: later =>
    if ¬caseInsensitiveStartsWith words entry.1 then playerSaySpell player words executeSay later
    else
      match readParam entry.2.separator (words.drop entry.1.length) with
      | none => playerSaySpell player words executeSay later
      | some param =>
        if entry.2.needAccess ∧ ¬player.isAccessPlayer then ⟨.continue, none⟩
        else if player.accountType < entry.2.requiredAccountType then ⟨.continue, none⟩
        else ⟨if executeSay entry.2 param then .continue else .break, some (entry, param)⟩

/-! What it means to say the words of an action. -/

/-- At least one space, and then white space. -/
def Blanks (text : Bytes) : Prop := ∃ more, text = 32 :: more ∧ more.all isSpace

/-- What may follow the words of an action with a separator, and the parameter in it. -/
inductive Follows (separator : Bytes) : Bytes → Bytes → Prop where
  | nothing : Follows separator [] []
  | blanks {blanks : Bytes} : Blanks blanks → Follows separator blanks []
  | parameter {blanks param : Bytes} : separator = [32] → Blanks blanks → param.head?.all (!isSpace ·) →
      Follows separator (blanks ++ param) param
  | separated {blanks param : Bytes} : separator ≠ [32] → Blanks blanks →
      Follows separator (blanks ++ (separator ++ param)) param

/-- A text says the words of an action, with a parameter. -/
def Says (entry : Entry) (text param : Bytes) : Prop :=
  ∃ said rest, text = said ++ rest ∧ toLowerCopy said = toLowerCopy entry.1 ∧
    Follows entry.2.separator rest param

/-- The script of one action that the text says is run with its parameter, if there is one. -/
structure Dispatches (table : List Entry) (text : Bytes) (said : Said) : Prop where
  runs : (∃ entry ∈ table, ∃ param, Says entry text param) →
    ∃ entry ∈ table, ∃ param, Says entry text param ∧ said.executed = some (entry, param)
  stays : (∀ entry ∈ table, ∀ param, ¬Says entry text param) → said.executed = none

/-- The words of an action, with nothing behind the spaces or with a space as its separator. -/
def Plain (entry : Entry) (text : Bytes) : Prop :=
  ∃ said rest, text = said ++ rest ∧ toLowerCopy said = toLowerCopy entry.1 ∧
    (rest = [] ∨ Blanks rest ∨ rest.head? = some 32 ∧ entry.2.separator = [32])

/-- The words of an action, spaces, and nothing but its separator. -/
def Bare (entry : Entry) (text : Bytes) : Prop :=
  ∃ said blanks, text = said ++ (blanks ++ entry.2.separator) ∧ toLowerCopy said = toLowerCopy entry.1 ∧
    Blanks blanks ∧ entry.2.separator ≠ [] ∧ entry.2.separator ≠ [32] ∧ entry.2.separator.head?.all (!isSpace ·)

/-- The first action in the table that is said plainly or with its bare separator is not one with a
bare separator of several bytes, or no action is said at all. -/
def Served (table : List Entry) (text : Bytes) : Prop :=
  (∃ before entry after, table = before ++ entry :: after ∧ (∀ earlier ∈ before, ¬Plain earlier text ∧ ¬Bare earlier text) ∧
      (Plain entry text ∨ Bare entry text ∧ entry.2.separator.length = 1)) ∨
    ∀ entry ∈ table, ∀ param, ¬Says entry text param

/-- A player may run every action of a table. -/
def Allowed (player : Speaker) (table : List Entry) : Prop :=
  ∀ entry ∈ table, (entry.2.needAccess → player.isAccessPlayer) ∧ entry.2.requiredAccountType ≤ player.accountType

/-! The parameter. -/

theorem trimLeft_blanks {blanks param : Bytes} (spaces : Blanks blanks) (bare : param.head?.all (!isSpace ·)) :
    trimLeft (blanks ++ param) = param := by
  obtain ⟨more, rfl, white⟩ := spaces
  have inside : ∀ letter ∈ 32 :: more, isSpace letter = true := by
    rintro letter (_ | ⟨_, listed⟩)
    · rfl
    · exact all_eq_true.mp white letter listed
  rw [trimLeft, dropWhile_append_of_pos inside]
  cases param with
  | nil => rfl
  | cons letter param =>
    have solid : isSpace letter = false := by simpa using bare
    simp [solid]

theorem trimLeft_blanks_nil {blanks : Bytes} (spaces : Blanks blanks) : trimLeft blanks = [] := by
  simpa using trimLeft_blanks spaces (show ([] : Bytes).head?.all (!isSpace ·) from rfl)

theorem head_blanks {blanks : Bytes} (spaces : Blanks blanks) (rest : Bytes) : (blanks ++ rest).head? = some 32 := by
  obtain ⟨more, rfl, _⟩ := spaces
  rfl

/-- What begins with a space is blanks and then something else. -/
theorem blanks_trimLeft {rest : Bytes} (space : rest.head? = some 32) :
    ∃ blanks, Blanks blanks ∧ rest = blanks ++ trimLeft rest ∧ (trimLeft rest).head?.all (!isSpace ·) := by
  obtain ⟨more, rfl⟩ := head?_eq_some_iff.mp space
  refine ⟨32 :: more.takeWhile isSpace, ⟨_, rfl, all_takeWhile⟩, ?_, ?_⟩
  · have skipped : trimLeft (32 :: more) = trimLeft more := dropWhile_cons_of_pos rfl
    rw [skipped, cons_append, trimLeft, takeWhile_append_dropWhile]
  · cases left : (trimLeft (32 :: more)).head? with
    | none => rfl
    | some letter =>
      have stops := head?_dropWhile_not isSpace (32 :: more)
      rw [show (32 :: more).dropWhile isSpace = trimLeft (32 :: more) from rfl, left] at stops
      simpa using stops

section

variable {separator rest : Bytes}

theorem readParam_space (space : rest.head? = some 32) (spaced : separator = [32]) :
    readParam separator rest = some (trimLeft rest) := by
  have full : rest ≠ [] := by
    rintro rfl
    cases space
  simp [readParam, full, space, spaced]

theorem readParam_blanks (blanks : Blanks rest) : readParam separator rest = some [] := by
  have space : rest.head? = some 32 := by simpa using head_blanks blanks []
  have full : rest ≠ [] := by
    rintro rfl
    cases space
  simp [readParam, full, space, trimLeft_blanks_nil blanks]

/-- Behind the spaces only the separator itself is taken, and one byte of it is removed. -/
theorem readParam_separated (space : rest.head? = some 32) (other : separator ≠ [32]) (full : trimLeft rest ≠ []) :
    readParam separator rest = if trimLeft rest ≠ separator then none else some ((trimLeft rest).drop 1) := by
  have some : rest ≠ [] := by
    rintro rfl
    cases space
  unfold readParam
  rw [if_neg some, if_neg (not_not.mpr space)]
  simp only [other, full, ne_eq, not_false_eq_true, if_true]

theorem readParam_apart (full : rest ≠ []) (apart : rest.head? ≠ some 32) : readParam separator rest = none := by
  unfold readParam
  rw [if_neg full, if_pos apart]

end

/-- The rest of a text behind the words of an action. -/
theorem starts_iff (text words : Bytes) :
    caseInsensitiveStartsWith text words = true ↔
      ∃ said, text = said ++ text.drop words.length ∧ toLowerCopy said = toLowerCopy words := by
  unfold caseInsensitiveStartsWith
  rw [Bool.and_eq_true, decide_eq_true_eq, decide_eq_true_eq]
  constructor
  · rintro ⟨_, same⟩
    exact ⟨_, (take_append_drop _ _).symm, same⟩
  · rintro ⟨said, split, same⟩
    have length : said.length = words.length := by simpa [toLowerCopy] using congrArg List.length same
    have taken : text.take words.length = said := by
      rw [split, ← length]
      exact take_left
    refine ⟨?_, taken ▸ same⟩
    rw [split, length_append, length]
    exact Nat.le_add_right _ _

theorem drop_words {text words said rest : Bytes} (split : text = said ++ rest)
    (same : toLowerCopy said = toLowerCopy words) : text.drop words.length = rest := by
  have length : said.length = words.length := by simpa [toLowerCopy] using congrArg List.length same
  rw [split, ← length]
  exact drop_left

/-- What the loop decides about one action. -/
def read (entry : Entry) (text : Bytes) : Option Bytes :=
  if caseInsensitiveStartsWith text entry.1 then readParam entry.2.separator (text.drop entry.1.length) else none

section

variable {entry : Entry} {text : Bytes}

theorem read_said {said rest : Bytes} (split : text = said ++ rest) (same : toLowerCopy said = toLowerCopy entry.1) :
    read entry text = readParam entry.2.separator rest := by
  have behind := drop_words split same
  have starts := (starts_iff text entry.1).mpr ⟨said, by rw [behind]; exact split, same⟩
  rw [read, if_pos starts, behind]

/-- An action that is said plainly is run with its parameter. -/
theorem Plain.read (plain : Plain entry text) : ∃ param, read entry text = some param ∧ Says entry text param := by
  obtain ⟨said, rest, split, same, nothing | blanks | ⟨space, spaced⟩⟩ := plain
  · subst nothing
    exact ⟨[], (read_said split same).trans rfl, said, [], split, same, .nothing⟩
  · exact ⟨[], (read_said split same).trans (readParam_blanks blanks), said, rest, split, same, .blanks blanks⟩
  · obtain ⟨blanks, white, parts, bare⟩ := blanks_trimLeft space
    refine ⟨trimLeft rest, (read_said split same).trans (readParam_space space spaced), said, rest, split, same, ?_⟩
    have follows := Follows.parameter spaced white bare
    rwa [← parts] at follows

/-- Of a bare separator the loop removes one byte. -/
theorem Bare.read (bare : Bare entry text) : read entry text = some (entry.2.separator.drop 1) := by
  obtain ⟨said, blanks, split, same, white, full, other, solid⟩ := bare
  have trimmed := trimLeft_blanks white solid
  have taken : trimLeft (blanks ++ entry.2.separator) ≠ [] := by rwa [trimmed]
  rw [read_said split same, readParam_separated (head_blanks white _) other taken, trimmed]
  simp

/-- A bare separator has nothing behind it. -/
theorem Bare.param_iff (bare : Bare entry text) (param : Bytes) : Says entry text param ↔ param = [] := by
  obtain ⟨said, blanks, split, same, white, full, other, solid⟩ := bare
  have trimmed := trimLeft_blanks white solid
  constructor
  · rintro ⟨said', rest, split', same', follows⟩
    have rests : rest = blanks ++ entry.2.separator := (drop_words split' same').symm.trans (drop_words split same)
    cases follows with
    | nothing => rfl
    | blanks _ => rfl
    | parameter spaced _ _ => exact absurd spaced other
    | @separated blanks' param _ white' =>
      have more : (entry.2.separator ++ param).head?.all (!isSpace ·) := by
        obtain ⟨letter, tail, head⟩ := exists_cons_of_ne_nil full
        rw [head] at solid ⊢
        exact solid
      have whole := trimLeft_blanks white' more
      rw [rests, trimmed] at whole
      simpa using whole
  · rintro rfl
    refine ⟨said, _, split, same, ?_⟩
    have follows : Follows entry.2.separator (blanks ++ (entry.2.separator ++ [])) [] := .separated other white
    rwa [append_nil] at follows

/-- Any other text does not run the action. -/
theorem read_eq_none (plain : ¬Plain entry text) (bare : ¬Bare entry text) : read entry text = none := by
  by_cases starts : caseInsensitiveStartsWith text entry.1 = true
  · obtain ⟨said, split, same⟩ := (starts_iff text entry.1).mp starts
    generalize text.drop entry.1.length = rest at split
    rw [read_said split same]
    by_cases nothing : rest = []
    · exact absurd ⟨said, rest, split, same, .inl nothing⟩ plain
    by_cases space : rest.head? = some 32
    · obtain ⟨blanks, white, parts, solid⟩ := blanks_trimLeft space
      have other : entry.2.separator ≠ [32] := fun spaced => plain ⟨said, rest, split, same, .inr (.inr ⟨space, spaced⟩)⟩
      have full : trimLeft rest ≠ [] := by
        intro empty
        rw [empty, append_nil] at parts
        exact plain ⟨said, rest, split, same, .inr (.inl (parts ▸ white))⟩
      rw [readParam_separated space other full, if_pos]
      intro exact_
      rw [exact_] at parts solid
      exact bare ⟨said, blanks, parts ▸ split, same, white, exact_ ▸ full, other, solid⟩
    · exact readParam_apart nothing space
  · rw [read, if_neg starts]

end

/-! The table. -/

section

variable {player : Speaker} {text : Bytes} {executeSay : TalkAction → Bytes → Bool} {entry : Entry}
  {later : List Entry}

theorem playerSaySpell_skip (skipped : read entry text = none) :
    playerSaySpell player text executeSay (entry :: later) = playerSaySpell player text executeSay later := by
  unfold read at skipped
  rw [playerSaySpell]
  split_ifs at skipped with starts
  · rw [if_neg (not_not.mpr starts), skipped]
  · rw [if_pos starts]

theorem playerSaySpell_run {param : Bytes} (found : read entry text = some param)
    (access : entry.2.needAccess → player.isAccessPlayer)
    (account : entry.2.requiredAccountType ≤ player.accountType) :
    (playerSaySpell player text executeSay (entry :: later)).executed = some (entry, param) := by
  unfold read at found
  split_ifs at found with starts
  rw [playerSaySpell, if_neg (not_not.mpr starts), found]
  have granted : ¬(entry.2.needAccess = true ∧ ¬player.isAccessPlayer = true) := fun refused => refused.2 (access refused.1)
  simp only [granted, if_false, if_neg (UInt8.not_lt.mpr account)]

/-- The loop passes over the actions that are not read. -/
theorem playerSaySpell_append {before : List Entry} (skipped : ∀ earlier ∈ before, read earlier text = none) :
    playerSaySpell player text executeSay (before ++ later) = playerSaySpell player text executeSay later := by
  induction before with
  | nil => rfl
  | cons first before ih =>
    rw [cons_append, playerSaySpell_skip (skipped first mem_cons_self)]
    exact ih fun earlier listed => skipped earlier (mem_cons_of_mem _ listed)

/-- The first action that is read, if any. -/
theorem read_cases (table : List Entry) (text : Bytes) :
    (∀ entry ∈ table, read entry text = none) ∨
      ∃ before entry after param, table = before ++ entry :: after ∧ (∀ earlier ∈ before, read earlier text = none) ∧
        read entry text = some param := by
  induction table with
  | nil => exact .inl nofun
  | cons first table ih =>
    cases found : read first text with
    | some param => exact .inr ⟨[], first, table, param, rfl, nofun, found⟩
    | none =>
      rcases ih with all | ⟨before, entry, after, param, split, skipped, later⟩
      · exact .inl (forall_mem_cons.mpr ⟨found, all⟩)
      · exact .inr ⟨first :: before, entry, after, param, by rw [split, cons_append],
          forall_mem_cons.mpr ⟨found, skipped⟩, later⟩

theorem first_read {before before' after after' : List Entry} {entry entry' : Entry} {param param' : Bytes}
    (same : before ++ entry :: after = before' ++ entry' :: after')
    (skipped : ∀ earlier ∈ before, read earlier text = none) (found : read entry text = some param)
    (skipped' : ∀ earlier ∈ before', read earlier text = none) (found' : read entry' text = some param') :
    entry = entry' := by
  have one : (before ++ entry :: after).find? (fun entry => (read entry text).isSome) = some entry :=
    find?_eq_some_iff_append.mpr ⟨by simp [found], before, after, rfl, fun earlier listed => by simp [skipped earlier listed]⟩
  have other : (before' ++ entry' :: after').find? (fun entry => (read entry text).isSome) = some entry' :=
    find?_eq_some_iff_append.mpr
      ⟨by simp [found'], before', after', rfl, fun earlier listed => by simp [skipped' earlier listed]⟩
  rw [same, other] at one
  exact (Option.some.inj one).symm

theorem not_read_iff : read entry text = none ↔ ¬Plain entry text ∧ ¬Bare entry text := by
  refine ⟨fun unread => ⟨fun plain => ?_, fun bare => ?_⟩, fun ⟨plain, bare⟩ => read_eq_none plain bare⟩
  · obtain ⟨param, found, _⟩ := plain.read
    rw [unread] at found
    cases found
  · rw [bare.read] at unread
    cases unread

/-- Where no action is read, none is run, which is right if none is said. -/
theorem dispatches_unread {table : List Entry} (unread : ∀ entry ∈ table, read entry text = none) :
    Dispatches table text (playerSaySpell player text executeSay table) ↔ Served table text := by
  have still : (playerSaySpell player text executeSay table).executed = none := by
    have passed := @playerSaySpell_append player text executeSay [] table unread
    rw [append_nil] at passed
    rw [passed, playerSaySpell]
  constructor
  · intro dispatches
    refine .inr fun entry listed param spoken => ?_
    obtain ⟨_, _, _, _, executed⟩ := dispatches.runs ⟨entry, listed, param, spoken⟩
    rw [still] at executed
    cases executed
  · rintro (⟨before, entry, after, split, _, plain | ⟨bare, _⟩⟩ | silent)
    · exact absurd plain (not_read_iff.mp (unread entry (split ▸ by simp))).1
    · exact absurd bare (not_read_iff.mp (unread entry (split ▸ by simp))).2
    · exact ⟨fun ⟨entry, listed, param, spoken⟩ => absurd spoken (silent entry listed param), fun _ => still⟩

/-- The action that is read first is run, which is right unless it is said with a bare separator of
several bytes. -/
theorem dispatches_read {before after : List Entry} {param : Bytes}
    (skipped : ∀ earlier ∈ before, read earlier text = none) (found : read entry text = some param)
    (allowed : Allowed player (before ++ entry :: after)) :
    Dispatches (before ++ entry :: after) text
        (playerSaySpell player text executeSay (before ++ entry :: after)) ↔
      Served (before ++ entry :: after) text := by
  have listed : entry ∈ before ++ entry :: after := by simp
  obtain ⟨access, account⟩ := allowed entry listed
  have executed : (playerSaySpell player text executeSay (before ++ entry :: after)).executed = some (entry, param) := by
    rw [playerSaySpell_append skipped]
    exact playerSaySpell_run found access account
  have unread : ∀ earlier ∈ before, ¬Plain earlier text ∧ ¬Bare earlier text := fun earlier early =>
    not_read_iff.mp (skipped earlier early)
  by_cases plain : Plain entry text
  · obtain ⟨param', found', spoken⟩ := plain.read
    cases found.symm.trans found'
    refine iff_of_true ⟨fun _ => ⟨entry, listed, param, spoken, executed⟩, fun silent => ?_⟩
      (.inl ⟨before, entry, after, rfl, unread, .inl plain⟩)
    exact absurd spoken (silent entry listed param)
  have bare : Bare entry text := by
    by_contra other
    rw [read_eq_none plain other] at found
    cases found
  have taken : param = entry.2.separator.drop 1 := Option.some.inj (found.symm.trans bare.read)
  have spoken : Says entry text [] := (bare.param_iff []).mpr rfl
  constructor
  · intro dispatches
    obtain ⟨entry', _, param', spoken', executed'⟩ := dispatches.runs ⟨entry, listed, [], spoken⟩
    cases executed.symm.trans executed'
    have nothing := (bare.param_iff param).mp spoken'
    rw [taken, drop_eq_nil_iff] at nothing
    have ⟨_, _, _, _, _, full, _, _⟩ := bare
    have some := length_pos_of_ne_nil full
    exact .inl ⟨before, entry, after, rfl, unread, .inr ⟨bare, by omega⟩⟩
  · rintro (⟨before', entry', after', split, unread', said⟩ | silent)
    · have found' : ∃ param', read entry' text = some param' := by
        rcases said with plain | ⟨bare, _⟩
        · obtain ⟨param', found', _⟩ := plain.read
          exact ⟨param', found'⟩
        · exact ⟨_, bare.read⟩
      obtain ⟨param', found'⟩ := found'
      cases first_read split skipped found (fun earlier early => not_read_iff.mpr (unread' earlier early)) found'
      obtain ⟨_, single⟩ := said.resolve_left plain
      have empty : param = [] := by
        rw [taken, drop_eq_nil_iff]
        omega
      subst empty
      exact ⟨fun _ => ⟨entry, listed, [], spoken, executed⟩, fun silent => absurd spoken (silent entry listed [])⟩
    · exact absurd spoken (silent entry listed [])

end

/-- A player with all rights runs the script of an action that he says, with its parameter, exactly
when the table serves his text. -/
theorem dispatches_iff_served (table : List Entry) (text : Bytes) {player : Speaker} (allowed : Allowed player table)
    (executeSay : TalkAction → Bytes → Bool) :
    Dispatches table text (playerSaySpell player text executeSay table) ↔ Served table text := by
  rcases read_cases table text with unread | ⟨before, entry, after, param, rfl, skipped, found⟩
  · exact dispatches_unread unread
  · exact dispatches_read skipped found allowed

/-- Two actions with the default separator: `/i` and `/info`. -/
def commands : List Entry := [([47, 105], { scriptId := 1 }), ([47, 105, 110, 102, 111], { scriptId := 2 })]

def speaker : Speaker := ⟨false, 1⟩

/-- `/INFO` alone is served by the second action. -/
theorem dispatches_alone :
    Dispatches commands [47, 73, 78, 70, 79]
      (playerSaySpell speaker [47, 73, 78, 70, 79] (fun _ _ => false) commands) :=
  (dispatches_iff_served commands _ (by unfold Allowed; decide) _).mpr
    (.inl ⟨[([47, 105], { scriptId := 1 })], ([47, 105, 110, 102, 111], { scriptId := 2 }), [], rfl, fun earlier listed => by
      rw [mem_singleton.mp listed]
      exact not_read_iff.mp rfl, .inl ⟨[47, 73, 78, 70, 79], [], rfl, rfl, .inl rfl⟩⟩)

/-- `/i "a` is said to the first action, and runs nothing. -/
theorem not_dispatches_parameter :
    (playerSaySpell speaker [47, 105, 32, 34, 97] (fun _ _ => false) commands).executed = none ∧
      ¬Dispatches commands [47, 105, 32, 34, 97]
        (playerSaySpell speaker [47, 105, 32, 34, 97] (fun _ _ => false) commands) := by
  refine ⟨by decide, fun dispatches => ?_⟩
  have follows : Follows [34] ([32] ++ ([34] ++ [97])) [97] := .separated (by decide) ⟨[], rfl, rfl⟩
  obtain ⟨_, _, _, _, executed⟩ := dispatches.runs
    ⟨([47, 105], { scriptId := 1 }), mem_cons_self, [97], [47, 105], _, rfl, rfl, follows⟩
  have nothing : (playerSaySpell speaker [47, 105, 32, 34, 97] (fun _ _ => false) commands).executed = none := by decide
  rw [nothing] at executed
  cases executed

end TalkActions

end Styller
