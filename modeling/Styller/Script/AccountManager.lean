import Mathlib.Data.List.DropRight
import Styller.Library.Run
import Styller.Script.TalkActions

/-! The dialogue of the account manager. What it says is left out, and so are the columns that are the same in every row. -/

namespace Styller.AccountManager

open Library TalkActions

inductive Talk where
  | createAccount
  | createCharacter

inductive Sex where
  | female
  | male

/-- The table `state.createAccount`. -/
structure AccountForm where
  password : Option Bytes := none
  confirmPassword : Bool := false
  accountName : Option Bytes := none
  confirmAccountName : Bool := false

/-- The table `state.createCharacter`; its `confirmVocation` is never set. -/
structure CharacterForm where
  name : Option Bytes := none
  confirmName : Bool := false
  sex : Option Sex := none
  confirmSex : Bool := false
  vocationId : Option Nat := none

/-- A row of `accounts`, with the password whose hash is stored. -/
structure AccountRow where
  name : Bytes
  password : Bytes

structure CharacterRow where
  name : Bytes
  accountId : Nat
  vocationId : Nat
  sex : Sex

inductive LuaError where
  | indexNil
  | noAccountId
  | formatNil
  /-- `string.titleCase` is nowhere defined. -/
  | titleCase
  deriving DecidableEq

/-- The session of a player, with the entries of its IP in the tables that sessions share, the rows that it has inserted, what
the last message has raised and, for the record, all messages. -/
structure Session where
  playerAccount : Nat
  createAccountTable : Option Int := none
  createCharacterTable : Option Int := none
  talk : Option Talk := none
  accountId : Option Nat := none
  createAccount : Option AccountForm := none
  createCharacter : Option CharacterForm := none
  accounts : List AccountRow := []
  players : List CharacterRow := []
  raised : Option LuaError := none
  history : List Bytes := []

/-- What the database answers during a message: the ids of the rows with a name, whether the insertion succeeds, and the id of
the row that was inserted. -/
structure Answers where
  now : Int
  accountId : Option Nat := none
  accountIdAgain : Option Nat := none
  playerId : Option Nat := none
  query : Bool := true
  newId : Option Nat := none

def yes : Bytes := "yes".toUTF8.data.toList

def no : Bytes := "no".toUTF8.data.toList

def trim (text : Bytes) : Bytes := (text.dropWhile isSpace).rdropWhile isSpace

def command (text : Bytes) : Bytes := toLowerCopy (trim text)

def isDigit (letter : UInt8) : Bool := 48 ≤ letter && letter ≤ 57

def isUpper (letter : UInt8) : Bool := 65 ≤ letter && letter ≤ 90

def isAlpha (letter : UInt8) : Bool := isUpper letter || (97 ≤ letter && letter ≤ 122)

inductive Validation where
  | valid
  | tooShort
  | tooLong
  | withoutNumbers
  | withoutCapitalLetters
  | withNumbers
  | withSpecialCharacters
  | invalid
  deriving DecidableEq

def validatePassword (password : Bytes) : Validation :=
  if password.length < 6 then .tooShort
  else if 30 < password.length then .tooLong
  else if !password.any isDigit then .withoutNumbers
  else if !password.any isUpper then .withoutCapitalLetters
  else .valid

def validateAccountName (accountName : Bytes) : Validation :=
  if accountName.length < 3 then .tooShort
  else if 20 < accountName.length then .tooLong
  else if accountName.any isDigit then .withNumbers
  else if accountName.any fun letter => !(isAlpha letter || isDigit letter) then .withSpecialCharacters
  else .valid

/-- `validateCharacterName`: a name of the right format is given to `titleCase`, so its words are never counted. -/
def validateCharacterName (characterName : Bytes) : Except LuaError Validation :=
  if characterName.length < 3 then .ok .tooShort
  else if 20 < characterName.length then .ok .tooLong
  else if !characterName.all fun letter => isAlpha letter || isSpace letter then .ok .invalid
  else .error .titleCase

section
variable (session : Session) (text : Bytes) (answers : Answers)

def Session.account : Nat := session.accountId.getD session.playerAccount

/-- The account of `ACCOUNT_MANAGER_ACCOUNT_ID`. -/
def Session.isAccountManager : Bool := session.account = 1

inductive Created where
  | alreadyExists
  | cooldown
  | success (id : Nat)
  | failed

/-- `CreateAccount` -/
def createAccount (accountName password : Bytes) : Session × Except LuaError Created :=
  if answers.accountIdAgain.getD 0 ≠ 0 then (session, .ok .alreadyExists)
  else if session.createAccountTable.any (answers.now < ·) then (session, .ok .cooldown)
  else
    let session := { session with createAccountTable := none }
    if answers.query then
      let session := { session with accounts := session.accounts ++ [⟨accountName, password⟩] }
      match answers.newId with
      | none => (session, .error .noAccountId)
      | some id => ({ session with createAccountTable := some (answers.now + 30 * 60) }, .ok (.success id))
    else (session, .ok .failed)

/-- `CreateCharacter` -/
def createCharacter (character : CharacterRow) : Session :=
  if answers.playerId.getD 0 ≠ 0 then session
  else if session.createCharacterTable.any (answers.now < ·) then session
  else if answers.query then
    { session with players := session.players ++ [character], createCharacterTable := some (answers.now + 3 * 60) }
  else { session with createCharacterTable := none }

/-- A yes to the name of an account. -/
def confirmAccount (form : AccountForm) (accountName password : Bytes) : Session :=
  if answers.accountId.getD 0 ≠ 0 then { session with createAccount := some { form with accountName := none } }
  else
    let session := { session with createAccount := some { form with confirmAccountName := true } }
    match createAccount session answers accountName password with
    | (session, .error error) => { session with raised := some error }
    | (session, .ok (.success id)) => { session with talk := none, accountId := some id, createAccount := none }
    | (session, .ok .cooldown) => session
    | (session, .ok _) => { session with createAccount := none }

/-- The talk "create account". -/
def talkAccount : Session :=
  let fill form : Session := { session with createAccount := some form }
  match session.createAccount with
  | none => { session with raised := some .indexNil }
  | some form =>
    match form.password with
    | none => if validatePassword text = .valid then fill { form with password := some text } else session
    | some password =>
      if !form.confirmPassword then
        if text = yes then fill { form with confirmPassword := true }
        else if text = no then fill { form with password := none }
        else session
      else
        match form.accountName with
        | none => if validateAccountName text = .valid then fill { form with accountName := some text } else session
        | some accountName =>
          if form.confirmAccountName then session
          else if text = yes then confirmAccount session answers form accountName password
          else if text = no then fill { form with accountName := none }
          else session

/-- The talk "create character". -/
def talkCharacter : Session :=
  let fill form : Session := { session with createCharacter := some form }
  match session.createCharacter with
  | none => { session with raised := some .indexNil }
  | some form =>
    match form.name with
    | none =>
      match validateCharacterName text with
      | .error error => { session with raised := some error }
      | .ok .valid => fill { form with name := some text }
      | .ok _ => session
    | some name =>
      if !form.confirmName then
        if text = yes then fill { form with confirmName := true }
        else if text = no then fill { form with name := none }
        else session
      else
        match form.sex with
        | none =>
          if text = "female".toUTF8.data.toList then fill { form with sex := some .female }
          else if text = "male".toUTF8.data.toList then fill { form with sex := some .male }
          else session
        | some sex =>
          if !form.confirmSex then
            if text = yes then fill { form with confirmSex := true }
            else if text = no then { session with raised := some .formatNil }
            else session
          else
            match form.vocationId with
            | none =>
              if text = "sorcerer".toUTF8.data.toList then fill { form with vocationId := some 1 }
              else if text = "druid".toUTF8.data.toList then fill { form with vocationId := some 2 }
              else if text = "paladin".toUTF8.data.toList then fill { form with vocationId := some 3 }
              else if text = "knight".toUTF8.data.toList then fill { form with vocationId := some 4 }
              else session
            | some vocationId =>
              if text = yes then
                { createCharacter session answers ⟨name, session.account, vocationId, sex⟩ with talk := none, createCharacter := none }
              else if text = no then fill { form with vocationId := none }
              else session

def onAccountManager : Session :=
  let session := { session with raised := none, history := session.history ++ [text] }
  match session.talk with
  | some .createAccount => talkAccount session text answers
  | some .createCharacter => talkCharacter session text answers
  | none =>
    if command text = "account".toUTF8.data.toList then
      if session.isAccountManager then { session with talk := some .createAccount, createAccount := some {} } else session
    else if command text = "character".toUTF8.data.toList ∧ !session.isAccountManager then
      { session with talk := some .createCharacter, createCharacter := some {} }
    else session

end

/-- A message of the player, or one in another session of its IP, which changes the tables. -/
inductive Event where
  | message (text : Bytes) (answers : Answers)
  | elsewhere (createAccountTable createCharacterTable : Option Int)

def step (session : Session) : Event → Session
  | .message text answers => onAccountManager session text answers
  | .elsewhere createAccountTable createCharacterTable =>
    { session with createAccountTable, createCharacterTable, raised := none }

/-- A value that was said, and not agreed to or turned down since. -/
def Offered (history : List Bytes) (value : Bytes) : Prop :=
  ∃ earlier later, history = earlier ++ value :: later ∧ yes ∉ later ∧ no ∉ later

/-- The answer to a value was yes. -/
def Confirmed (history : List Bytes) (value : Bytes) : Prop :=
  ∃ earlier later, history = earlier ++ yes :: later ∧ Offered earlier value

def AccountRow.Right (history : List Bytes) (row : AccountRow) : Prop :=
  (validateAccountName row.name = .valid ∧ Confirmed history row.name) ∧
    validatePassword row.password = .valid ∧ Confirmed history row.password

/-- Some messages lead back to the start. -/
def Returns (session : Session) : Prop :=
  ∃ messages : List (Bytes × Answers),
    (messages.foldl (fun session message => onAccountManager session message.1 message.2) session).talk = none

/-- The last message has raised nothing, some messages lead back to the start, and the rows are of valid and confirmed values. -/
structure Right (session : Session) : Prop where
  quiet : session.raised = none
  returns : Returns session
  accounts : ∀ row ∈ session.accounts, row.Right session.history
  players : ∀ row ∈ session.players, validateCharacterName row.name = .ok .valid ∧ Confirmed session.history row.name ∧
    row.accountId = session.account

/-- Nobody on an account of his own asks for a character, and a name that is agreed to is either known to be taken, or its account
is created. -/
def Careful (session : Session) : Event → Prop
  | .message text answers =>
    (session.talk = none → command text = "character".toUTF8.data.toList → session.isAccountManager = true) ∧
      ∀ form name, session.talk = some .createAccount → session.createAccount = some form → form.accountName = some name →
        text = yes → answers.accountId.getD 0 ≠ 0 ∨ answers.accountIdAgain.getD 0 = 0 ∧
          session.createAccountTable.any (answers.now < ·) = false ∧ answers.query = true ∧ answers.newId ≠ none
  | .elsewhere _ _ => True

section
variable {history : List Bytes} {value text : Bytes}

theorem offered_said (history : List Bytes) (text : Bytes) : Offered (history ++ [text]) text :=
  ⟨history, [], rfl, List.not_mem_nil, List.not_mem_nil⟩

theorem Offered.other (offered : Offered history value) (notYes : text ≠ yes) (notNo : text ≠ no) :
    Offered (history ++ [text]) value := by
  obtain ⟨earlier, later, rfl, withoutYes, withoutNo⟩ := offered
  refine ⟨earlier, later ++ [text], by simp, ?_, ?_⟩
  · simp [withoutYes, notYes.symm]
  · simp [withoutNo, notNo.symm]

theorem Offered.yes (offered : Offered history value) : Confirmed (history ++ [AccountManager.yes]) value :=
  ⟨history, [], rfl, offered⟩

theorem Confirmed.later (confirmed : Confirmed history value) (text : Bytes) : Confirmed (history ++ [text]) value := by
  obtain ⟨earlier, later, rfl, offered⟩ := confirmed
  exact ⟨earlier, later ++ [text], by simp, offered⟩

theorem AccountRow.Right.later {row : AccountRow} (right : row.Right history) (text : Bytes) : row.Right (history ++ [text]) :=
  ⟨⟨right.1.1, right.1.2.later text⟩, right.2.1, right.2.2.later text⟩

/-- How far the form of an account is. -/
inductive Stage (history : List Bytes) : AccountForm → Prop where
  | empty : Stage history {}
  | password {password : Bytes} (valid : validatePassword password = .valid) (offered : Offered history password) :
    Stage history { password := some password }
  | confirmed {password : Bytes} (valid : validatePassword password = .valid) (confirmed : Confirmed history password) :
    Stage history { password := some password, confirmPassword := true }
  | accountName {password accountName : Bytes} (valid : validatePassword password = .valid) (confirmed : Confirmed history password)
    (validName : validateAccountName accountName = .valid) (offered : Offered history accountName) :
    Stage history { password := some password, confirmPassword := true, accountName := some accountName }

theorem Stage.other {form : AccountForm} (stage : Stage history form) (notYes : text ≠ AccountManager.yes) (notNo : text ≠ no) :
    Stage (history ++ [text]) form := by
  cases stage with
  | empty => exact .empty
  | password valid offered => exact .password valid (offered.other notYes notNo)
  | confirmed valid confirmed => exact .confirmed valid (confirmed.later text)
  | accountName valid confirmed validName offered =>
    exact .accountName valid (confirmed.later text) validName (offered.other notYes notNo)

end

/-- What careful messages keep; no character is created. -/
structure Sound (session : Session) : Prop where
  quiet : session.raised = none
  accounts : ∀ row ∈ session.accounts, row.Right session.history
  players : session.players = []
  talk : session.talk = none ∨
    session.talk = some .createAccount ∧ ∃ form, session.createAccount = some form ∧ Stage session.history form

section
variable {session : Session} {text : Bytes} {answers : Answers}

theorem Returns.cons (returns : Returns (onAccountManager session text answers)) : Returns session := by
  obtain ⟨messages, back⟩ := returns
  exact ⟨(text, answers) :: messages, back⟩

theorem onAccountManager_account {form : AccountForm} (talks : session.talk = some .createAccount) (here : session.createAccount = some form) :
    onAccountManager session text answers = talkAccount
      { session with talk := some .createAccount, createAccount := some form, raised := none, history := session.history ++ [text] }
      text answers := by
  rw [onAccountManager, ← talks, ← here, talks]

/-- From each stage of the form there is a way back. -/
theorem Stage.returns {form : AccountForm} (stage : Stage session.history form) (talks : session.talk = some .createAccount)
    (here : session.createAccount = some form) : Returns session := by
  have accountName : ∀ (session : Session) (password name : Bytes), session.talk = some .createAccount →
      session.createAccount = some { password := some password, confirmPassword := true, accountName := some name } →
      Returns session := by
    intro session password name talks here
    refine ⟨[(yes, { now := session.createAccountTable.getD 0, newId := some 2 })], ?_⟩
    rw [List.foldl_cons, List.foldl_nil, onAccountManager_account talks here]
    cases session.createAccountTable <;> simp [talkAccount, confirmAccount, AccountManager.createAccount]
  have confirmed : ∀ (session : Session) (password : Bytes), session.talk = some .createAccount →
      session.createAccount = some { password := some password, confirmPassword := true } → Returns session := by
    intro session password talks here
    apply @Returns.cons session "abc".toUTF8.data.toList { now := 0 }
    rw [onAccountManager_account talks here]
    exact accountName _ password "abc".toUTF8.data.toList rfl rfl
  have offered : ∀ (session : Session) (password : Bytes), session.talk = some .createAccount →
      session.createAccount = some { password := some password } → Returns session := by
    intro session password talks here
    apply @Returns.cons session yes { now := 0 }
    rw [onAccountManager_account talks here]
    exact confirmed _ password rfl rfl
  cases stage with
  | empty =>
    apply @Returns.cons session "Abcdef1".toUTF8.data.toList { now := 0 }
    rw [onAccountManager_account talks here]
    exact offered _ "Abcdef1".toUTF8.data.toList rfl rfl
  | password => exact offered session _ talks here
  | confirmed => exact confirmed session _ talks here
  | accountName => exact accountName session _ _ talks here

theorem Sound.right (sound : Sound session) : Right session where
  quiet := sound.quiet
  returns := by
    rcases sound.talk with idle | ⟨talks, form, here, stage⟩
    · exact ⟨[], idle⟩
    · exact stage.returns talks here
  accounts := sound.accounts
  players := by
    rw [sound.players]
    exact nofun

theorem Sound.idle (sound : Sound session) (idle : session.talk = none)
    (careful : command text = "character".toUTF8.data.toList → session.isAccountManager = true) :
    Sound (onAccountManager session text answers) := by
  obtain ⟨_, accounts, players, _⟩ := sound
  have later := fun row listed => (accounts row listed).later text
  unfold onAccountManager
  rw [idle]
  dsimp only
  split_ifs with account manager character
  · exact ⟨rfl, later, players, .inr ⟨rfl, _, rfl, .empty⟩⟩
  · exact ⟨rfl, later, players, .inl rfl⟩
  · have own : (!session.isAccountManager) = true := character.2
    rw [careful character.1] at own
    cases own
  · exact ⟨rfl, later, players, .inl rfl⟩

theorem Sound.talks (sound : Sound session) {form : AccountForm} (talks : session.talk = some .createAccount)
    (here : session.createAccount = some form) (stage : Stage session.history form)
    (careful : ∀ name, form.accountName = some name → text = yes → answers.accountId.getD 0 ≠ 0 ∨
      answers.accountIdAgain.getD 0 = 0 ∧ session.createAccountTable.any (answers.now < ·) = false ∧ answers.query = true ∧
        answers.newId ≠ none) :
    Sound (onAccountManager session text answers) := by
  obtain ⟨_, accounts, players, _⟩ := sound
  have later := fun row listed => (accounts row listed).later text
  have goes : ∀ next, Stage (session.history ++ [text]) next → Sound { session with
      talk := some .createAccount, createAccount := some next, raised := none, history := session.history ++ [text] } :=
    fun next stage => ⟨rfl, later, players, .inr ⟨rfl, next, rfl, stage⟩⟩
  rw [onAccountManager_account talks here]
  unfold talkAccount
  cases stage with
  | empty =>
    dsimp only
    split_ifs with valid
    · exact goes _ (.password valid (offered_said _ text))
    · exact goes _ .empty
  | password valid offered =>
    simp only [Bool.not_false, if_true]
    split_ifs with agreed refused
    · exact goes _ (.confirmed valid (agreed ▸ offered.yes))
    · exact goes _ .empty
    · exact goes _ (.password valid (offered.other agreed refused))
  | confirmed valid confirmed =>
    simp only [Bool.not_true, Bool.false_eq_true, if_false]
    split_ifs with validName
    · exact goes _ (.accountName valid (confirmed.later text) validName (offered_said _ text))
    · exact goes _ (.confirmed valid (confirmed.later text))
  | accountName valid confirmed validName offered =>
    simp only [Bool.not_true, Bool.false_eq_true, if_false]
    split_ifs with agreed refused
    · unfold confirmAccount
      dsimp only
      split_ifs with taken
      · exact goes _ (.confirmed valid (confirmed.later text))
      · obtain ⟨unused, free, query, known⟩ := (careful _ rfl agreed).resolve_left taken
        obtain ⟨id, newId⟩ := Option.ne_none_iff_exists'.mp known
        simp only [createAccount, unused, free, query, newId, ne_eq, not_true_eq_false, Bool.false_eq_true, if_false, if_true]
        refine ⟨rfl, ?_, players, .inl rfl⟩
        intro row listed
        rcases List.mem_append.mp listed with before | new
        · exact later row before
        · rw [List.mem_singleton.mp new]
          exact ⟨⟨validName, agreed ▸ offered.yes⟩, valid, confirmed.later text⟩
    · exact goes _ (.confirmed valid (confirmed.later text))
    · exact goes _ (.accountName valid (confirmed.later text) validName (offered.other agreed refused))

theorem Sound.step (sound : Sound session) {event : Event} (careful : Careful session event) : Sound (step session event) := by
  cases event with
  | elsewhere => exact ⟨rfl, sound.accounts, sound.players, sound.talk⟩
  | message text answers =>
    rcases sound.talk with idle | ⟨talks, form, here, stage⟩
    · exact sound.idle idle (careful.1 idle)
    · exact sound.talks talks here stage fun name => careful.2 form name talks here

end

end Styller.AccountManager
