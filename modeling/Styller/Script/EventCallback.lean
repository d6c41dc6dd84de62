import Mathlib.Logic.Function.Basic

/-! The chains of `EventCallback`: the loop of `__call` and the fold that it is meant to be. -/

namespace Styller

/-- A Lua value, as far as `EventCallback` looks at it. -/
inductive LuaValue where
  | nil
  | boolean (value : Bool)
  | number (value : Int)
  | string (value : String)
  | object (handle : Nat)
  deriving DecidableEq

/-- `results[place]`, which is nil past the end. -/
def LuaValue.at (values : List LuaValue) (place : Nat) : LuaValue := values.getD (place - 1) .nil

/-- The event types, in the order of their numbers. -/
inductive EventCallbackType where
  | onChangeOutfit
  | onChangeMount
  | onAreaCombat
  | onTargetCombat
  | onHear
  | onJoin
  | onLeave
  | onDisband
  | onShareExperience
  | onBrowseField
  | onLook
  | onLookInBattleList
  | onLookInTrade
  | onLookInShop
  | onTradeRequest
  | onTradeAccept
  | onTradeCompleted
  | onMoveItem
  | onItemMoved
  | onMoveCreature
  | onReportRuleViolation
  | onReportBug
  | onTurn
  | onGainExperience
  | onLoseExperience
  | onGainSkillTries
  | onWrapItem
  | onDropLoot
  | onSpawn
  deriving DecidableEq

namespace EventCallback

/-- `RETURNVALUE_NOERROR`. -/
def noError : LuaValue := .number 0

/-- The values that a call passes, by their places from 1 on. What is not passed is nil. -/
abbrev Arguments := Nat → LuaValue

/-- A registered function: its results, and what it does to the rest of the server. -/
abbrev Callback (World : Type*) := Arguments → World → List LuaValue × World

/-- `updateableParameters`: the place of an argument, and the place of the result that replaces it. -/
def updateableParameters : EventCallbackType → Option (List (Nat × Nat))
  | .onLook => some [(5, 1)]
  | .onLookInBattleList => some [(4, 1)]
  | .onLookInTrade => some [(5, 1)]
  | .onLookInShop => some [(4, 1)]
  | .onGainExperience => some [(3, 1)]
  | .onLoseExperience => some [(2, 1)]
  | .onGainSkillTries => some [(3, 1)]
  | _ => none

/-- `args[index] = results[value]` for every updateable parameter. -/
def update (type : EventCallbackType) (results : List LuaValue) (args : Arguments) : Arguments :=
  match updateableParameters type with
  | none => args
  | some parameters =>
    parameters.foldl (fun args parameter =>
      Function.update args parameter.1 (LuaValue.at results parameter.2)) args

/-- The body of the inner `repeat`: what the whole call returns, if it returns there. -/
def leave (type : EventCallbackType) (eventDataCount index : Nat) (results : List LuaValue) :
    Option (List LuaValue) :=
  let output := LuaValue.at results 1
  if output = .nil then none
  else if output = .boolean false then some [.boolean false]
  else if type ∈ [.onAreaCombat, .onTargetCombat] then
    if output = noError then none else some [output]
  else if index = eventDataCount then some results
  else none

variable {World : Type*}

/-- What a call returns, the arguments of the callbacks that it has run, in order, and the server
after it. -/
structure Answer (World : Type*) where
  results : List LuaValue
  received : List Arguments
  world : World

/-- A call that has run one more callback before. -/
def Answer.after (answer : Answer World) (args : Arguments) : Answer World :=
  { answer with received := args :: answer.received }

/-- The loop of `__call` from the callback number `index` on. -/
def loop (type : EventCallbackType) (eventDataCount : Nat) :
    Nat → List (Callback World) → Arguments → World → Answer World
  | _, [], _, world => ⟨[], [], world⟩
  | index, callback :: rest, args, world =>
    let (results, world) := callback args world
    match leave type eventDataCount index results with
    | some results => ⟨results, [args], world⟩
    | none => (loop type eventDataCount (index + 1) rest (update type results args) world).after args

def call (type : EventCallbackType) (eventData : List (Callback World)) (args : Arguments) (world : World) :
    Answer World :=
  loop type eventData.length 1 eventData args world

/-! The fold. -/

def parameter (type : EventCallbackType) : Option Nat :=
  (updateableParameters type).bind fun parameters => parameters.head?.map Prod.fst

/-- The arguments after a callback has returned a value; nothing replaces nothing. -/
def accept (type : EventCallbackType) (output : LuaValue) (args : Arguments) : Arguments :=
  match parameter type with
  | none => args
  | some place => if output = .nil then args else Function.update args place output

/-- What the chain is for: whether a callback has stopped it, the arguments after the last callback,
those that each callback receives, and the server after it. -/
structure Folded (World : Type*) where
  stopped : Bool
  args : Arguments
  received : List Arguments
  world : World

def Folded.after (folded : Folded World) (args : Arguments) : Folded World :=
  { folded with received := args :: folded.received }

def fold (type : EventCallbackType) : List (Callback World) → Arguments → World → Folded World
  | [], args, world => ⟨false, args, [], world⟩
  | callback :: rest, args, world =>
    let (results, world) := callback args world
    let output := LuaValue.at results 1
    if output = .boolean false then ⟨true, args, [args], world⟩
    else (fold type rest (accept type output args) world).after args

/-- The call runs the callbacks that the fold runs on the arguments of the fold, returns false if
one of them does, and otherwise the value after the last one. -/
structure IsFold (type : EventCallbackType) (answer : Answer World) (folded : Folded World) (empty : Bool) :
    Prop where
  received : answer.received = folded.received
  world : answer.world = folded.world
  stopped : folded.stopped → answer.results = [.boolean false]
  value : ¬folded.stopped → ¬empty → ∀ place, parameter type = some place →
    LuaValue.at answer.results 1 = folded.args place

/-- No callback that runs is silent while there is a value that it could lose. -/
def Outspoken (type : EventCallbackType) : List (Callback World) → Arguments → World → Prop
  | [], _, _ => True
  | callback :: rest, args, world =>
    let (results, world) := callback args world
    let output := LuaValue.at results 1
    output = .boolean false ∨
      (output = .nil → ∀ place, parameter type = some place → args place = .nil) ∧
        Outspoken type rest (accept type output args) world

/-! One callback. -/

section

variable {type : EventCallbackType} {results : List LuaValue} {args : Arguments}

theorem update_none (fixed : parameter type = none) : update type results args = args := by
  cases type <;> first | rfl | simp [parameter, updateableParameters] at fixed

theorem update_some {place : Nat} (updateable : parameter type = some place) :
    update type results args = Function.update args place (LuaValue.at results 1) := by
  cases type <;> simp only [parameter, updateableParameters, Option.bind_none, Option.bind_some, List.head?_cons,
    Option.map_some, Option.some.injEq, reduceCtorEq] at updateable <;> subst updateable <;> rfl

/-- A callback that returns a value is heard. -/
theorem update_eq_accept (spoken : LuaValue.at results 1 ≠ .nil) :
    update type results args = accept type (LuaValue.at results 1) args := by
  cases updateable : parameter type with
  | none => simp [update_none updateable, accept, updateable]
  | some place => simp [update_some updateable, accept, updateable, spoken]

theorem accept_nil : accept type .nil args = args := by
  unfold accept
  split <;> simp

theorem accept_place {place : Nat} {output : LuaValue} (updateable : parameter type = some place)
    (spoken : output ≠ .nil) : accept type output args place = output := by
  simp [accept, updateable, spoken]

/-- A silent callback is not noticed where there is no value to lose. -/
theorem update_nil (silent : LuaValue.at results 1 = .nil)
    (lost : ∀ place, parameter type = some place → args place = .nil) : update type results args = args := by
  cases updateable : parameter type with
  | none => exact update_none updateable
  | some place =>
    rw [update_some updateable, silent, ← lost place updateable]
    exact Function.update_eq_self place args

variable {eventDataCount index : Nat}

theorem leave_nil (silent : LuaValue.at results 1 = .nil) : leave type eventDataCount index results = none := by
  simp [leave, silent]

theorem leave_false (refused : LuaValue.at results 1 = .boolean false) :
    leave type eventDataCount index results = some [.boolean false] := by
  simp [leave, refused]

theorem leave_spoken (plain : type ∉ [.onAreaCombat, .onTargetCombat]) (spoken : LuaValue.at results 1 ≠ .nil)
    (granted : LuaValue.at results 1 ≠ .boolean false) :
    leave type eventDataCount index results = if index = eventDataCount then some results else none := by
  unfold leave
  rw [if_neg spoken, if_neg granted, if_neg plain]

end

/-! The chain. -/

section

variable {type : EventCallbackType} {eventDataCount index : Nat} {callback : Callback World}
  {rest : List (Callback World)} {args : Arguments} {world : World}

theorem loop_some {returned : List LuaValue}
    (left : leave type eventDataCount index (callback args world).1 = some returned) :
    loop type eventDataCount index (callback :: rest) args world =
      ⟨returned, [args], (callback args world).2⟩ := by
  simp only [loop, left]

theorem loop_none (stays : leave type eventDataCount index (callback args world).1 = none) :
    loop type eventDataCount index (callback :: rest) args world =
      (loop type eventDataCount (index + 1) rest (update type (callback args world).1 args)
        (callback args world).2).after args := by
  simp only [loop, stays]

theorem fold_false (refused : LuaValue.at (callback args world).1 1 = .boolean false) :
    fold type (callback :: rest) args world = ⟨true, args, [args], (callback args world).2⟩ := by
  simp only [fold, refused, if_true]

theorem fold_after (granted : LuaValue.at (callback args world).1 1 ≠ .boolean false) :
    fold type (callback :: rest) args world =
      (fold type rest (accept type (LuaValue.at (callback args world).1 1) args)
        (callback args world).2).after args := by
  simp only [fold, granted, if_false]

theorem outspoken_cons : Outspoken type (callback :: rest) args world ↔
    LuaValue.at (callback args world).1 1 = .boolean false ∨
      (LuaValue.at (callback args world).1 1 = .nil → ∀ place, parameter type = some place → args place = .nil) ∧
        Outspoken type rest (accept type (LuaValue.at (callback args world).1 1) args)
          (callback args world).2 := Iff.rfl

theorem isFold_after {answer : Answer World} {folded : Folded World} {empty : Bool} :
    IsFold type (answer.after args) (folded.after args) empty ↔ IsFold type answer folded empty := by
  constructor
  · rintro ⟨received, world, stopped, value⟩
    exact ⟨List.tail_eq_of_cons_eq received, world, stopped, value⟩
  · rintro ⟨received, world, stopped, value⟩
    exact ⟨congrArg (args :: ·) received, world, stopped, value⟩

/-- A chain that has run out gives nothing to a chain in which nothing can be lost. -/
theorem isFold_nil {empty : Bool}
    (lost : ¬empty → ∀ place, parameter type = some place → args place = .nil) :
    IsFold type (loop type eventDataCount index [] args world) (fold type [] args world) empty :=
  ⟨rfl, rfl, nofun, fun _ full place updateable => (lost full place updateable).symm⟩

/-- The value that a silent callback loses is missed by the next callback or by the caller. -/
theorem not_isFold_silent {place : Nat} (updateable : parameter type = some place)
    (silent : LuaValue.at (callback args world).1 1 = .nil) (value : args place ≠ .nil) :
    ¬IsFold type (loop type eventDataCount index (callback :: rest) args world)
      (fold type (callback :: rest) args world) false := by
  have granted : LuaValue.at (callback args world).1 1 ≠ .boolean false := by simp [silent]
  rw [loop_none (leave_nil silent), fold_after granted, silent, accept_nil, isFold_after,
    update_some updateable, silent]
  intro folds
  cases rest with
  | nil => exact value (folds.value nofun nofun place updateable).symm
  | cons next rest =>
    have received := congrArg List.head? folds.received
    have first : ∀ (index : Nat) (args : Arguments) (world : World),
        (loop type eventDataCount index (next :: rest) args world).received.head? = some args := by
      intro index args world
      cases left : leave type eventDataCount index (next args world).1 with
      | none => simp [loop_none left, Answer.after]
      | some returned => simp [loop_some left]
    have second : (fold type (next :: rest) args (callback args world).2).received.head? = some args := by
      by_cases refused : LuaValue.at (next args (callback args world).2).1 1 = .boolean false
      · simp [fold_false refused]
      · simp [fold_after refused, Folded.after]
    rw [first, second, Option.some.injEq] at received
    have there := congrFun received place
    rw [Function.update_self] at there
    exact value there.symm

/-- The loop from any callback on folds exactly when none of the later ones loses a value. -/
theorem loop_isFold_iff (plain : type ∉ [.onAreaCombat, .onTargetCombat]) (callbacks : List (Callback World)) :
    ∀ (index : Nat) (args : Arguments) (world : World), index + callbacks.length = eventDataCount + 1 →
      (IsFold type (loop type eventDataCount index callbacks args world) (fold type callbacks args world)
        callbacks.isEmpty ↔ Outspoken type callbacks args world) := by
  induction callbacks with
  | nil => exact fun index args world _ => iff_of_true (isFold_nil nofun) trivial
  | cons callback rest ih =>
    intro index args world last
    rw [outspoken_cons]
    by_cases refused : LuaValue.at (callback args world).1 1 = .boolean false
    · rw [loop_some (leave_false refused), fold_false refused]
      exact iff_of_true ⟨rfl, rfl, fun _ => rfl, fun goes => absurd rfl goes⟩ (.inl refused)
    have next := ih (index + 1) (accept type (LuaValue.at (callback args world).1 1) args)
      (callback args world).2 (by simp only [List.length_cons] at last; omega)
    by_cases silent : LuaValue.at (callback args world).1 1 = .nil
    · by_cases lost : ∀ place, parameter type = some place → args place = .nil
      · -- nothing is lost, and the rest of the chain runs on the same arguments
        rw [silent, accept_nil] at next
        rw [loop_none (leave_nil silent), fold_after refused, silent, accept_nil, isFold_after,
          update_nil silent lost]
        cases rest with
        | nil => exact iff_of_true (isFold_nil fun _ => lost) (.inr ⟨fun _ => lost, trivial⟩)
        | cons _ _ => exact next.trans ⟨fun later => .inr ⟨fun _ => lost, later⟩, fun or => (or.resolve_left nofun).2⟩
      · refine iff_of_false ?_ ?_
        · simp only [not_forall] at lost
          obtain ⟨place, updateable, value⟩ := lost
          exact not_isFold_silent updateable silent value
        · rintro (stopped | ⟨quiet, _⟩)
          · exact refused stopped
          · exact lost (quiet silent)
    · have heard : (LuaValue.at (callback args world).1 1 = .nil →
          ∀ place, parameter type = some place → args place = .nil) := fun quiet => absurd quiet silent
      have left := @leave_spoken type _ eventDataCount index plain silent refused
      cases rest with
      | nil =>
        have here : index = eventDataCount := by simpa using last
        rw [if_pos here] at left
        rw [loop_some left, fold_after refused]
        refine iff_of_true ⟨rfl, rfl, nofun, fun _ _ place updateable => ?_⟩ (.inr ⟨heard, trivial⟩)
        exact (accept_place updateable silent).symm
      | cons following rest =>
        have on : index ≠ eventDataCount := by
          simp only [List.length_cons] at last
          omega
        rw [if_neg on] at left
        rw [loop_none left, fold_after refused, isFold_after, update_eq_accept silent]
        exact next.trans ⟨fun later => .inr ⟨heard, later⟩, fun or => (or.resolve_left refused).2⟩

end

/-- A callback that doubles the experience. -/
def stage : Callback Unit := fun args world =>
  match args 3 with
  | .number exp => ([.number (2 * exp)], world)
  | _ => ([], world)

def watch : Callback Unit := fun _ world => ([], world)

def gain : Arguments := fun place => if place = 3 then .number 100 else .object place

end EventCallback

end Styller
