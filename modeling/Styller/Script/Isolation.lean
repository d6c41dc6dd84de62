import Styller.Script.Environment

/-! Nested scripts: when a call leaves its caller as it was. -/

namespace Styller

open List

namespace Scripts

/-- The caller has its environment, its temporary items and the database results as before,
and the index is back. -/
structure Undisturbed (before after : Scripts) : Prop where
  index : after.scriptEnvIndex = before.scriptEnvIndex
  localMap : (after.scriptEnv before.scriptEnvIndex).localMap =
    (before.scriptEnv before.scriptEnvIndex).localMap
  tempItems : after.tempItems.filter (fun entry => entry.1 = before.scriptEnvIndex) =
    before.tempItems.filter (fun entry => entry.1 = before.scriptEnvIndex)
  tempResults : after.tempResults = before.tempResults

/-- What belongs to environments below `bound` is the same. -/
structure Below (bound : Int) (before after : Scripts) : Prop where
  scriptEnv : ∀ index, index < bound → after.scriptEnv index = before.scriptEnv index
  tempItems : ∀ index, index < bound → after.tempItems.filter (fun entry => entry.1 = index) =
    before.tempItems.filter (fun entry => entry.1 = index)

variable {bound : Int} {before middle after scripts : Scripts}

theorem Below.refl (bound : Int) (scripts : Scripts) : Below bound scripts scripts where
  scriptEnv := fun _ _ => rfl
  tempItems := fun _ _ => rfl

theorem Below.trans (first : Below bound before middle) (second : Below bound middle after) :
    Below bound before after where
  scriptEnv := fun index less => (second.scriptEnv index less).trans (first.scriptEnv index less)
  tempItems := fun index less => (second.tempItems index less).trans (first.tempItems index less)

theorem Below.mono {lower : Int} (below : Below bound before after) (less : lower ≤ bound) :
    Below lower before after where
  scriptEnv := fun index inside => below.scriptEnv index (Int.lt_of_lt_of_le inside less)
  tempItems := fun index inside => below.tempItems index (Int.lt_of_lt_of_le inside less)

theorem setEnv_below (index : Int) (env : ScriptEnvironment) : Below index scripts (scripts.setEnv index env) where
  scriptEnv := by
    intro other less
    exact if_neg (Int.ne_of_lt less)
  tempItems := fun _ _ => rfl

@[simp] theorem addThing_index (scripts : Scripts) (thing : Option ScriptThing) :
    (scripts.addThing thing).scriptEnvIndex = scripts.scriptEnvIndex := by
  unfold addThing
  split
  · simp only
    split
    · rfl
    · rfl
  · rfl

@[simp] theorem addThing_tempResults (scripts : Scripts) (thing : Option ScriptThing) :
    (scripts.addThing thing).tempResults = scripts.tempResults := by
  unfold addThing
  split
  · simp only
    split
    · rfl
    · rfl
  · rfl

theorem addThing_below (thing : Option ScriptThing) :
    Below scripts.scriptEnvIndex scripts (scripts.addThing thing) := by
  unfold addThing
  split
  · simp only
    split
    · exact Below.refl _ _
    · exact setEnv_below _ _
  · exact Below.refl _ _

theorem addTempItem_below (ptr : ItemPtr) :
    Below scripts.scriptEnvIndex scripts (scripts.addTempItem ptr) where
  scriptEnv := fun _ _ => rfl
  tempItems := by
    intro index less
    have other : ¬ scripts.scriptEnvIndex = index := fun same => (Int.ne_of_lt less) same.symm
    simp [addTempItem, filter_append, other]

theorem resetEnv_below (scripts : Scripts) (index : Int) : Below index scripts (scripts.resetEnv index) where
  scriptEnv := by
    intro other less
    exact if_neg (Int.ne_of_lt less)
  tempItems := by
    intro other less
    simp only [resetEnv, filter_filter]
    apply filter_congr
    intro entry _
    by_cases same : entry.1 = other
    · simp [same, Int.ne_of_lt less]
    · simp [same]

/-- A call that is admitted reserves an environment, runs the script in it and resets it. -/
theorem executeEvent_admitted (scriptId : Int) (body : Scripts → Scripts)
    (room : scripts.scriptEnvIndex + 1 < 16) :
    scripts.executeEvent scriptId body =
      (body ((scripts.reserveScriptEnv.2).setScriptId scriptId)).resetScriptEnv := by
  simp [executeEvent, reserveScriptEnv, room]

/-- A call that is refused has still moved the index. -/
theorem executeEvent_refused (scriptId : Int) (body : Scripts → Scripts)
    (full : ¬ scripts.scriptEnvIndex + 1 < 16) :
    scripts.executeEvent scriptId body = scripts.reserveScriptEnv.2 := by
  simp [executeEvent, reserveScriptEnv, full]

/-- The state in which the script of an event starts. -/
theorem enter_below (scriptId : Int) :
    Below (scripts.scriptEnvIndex + 1) scripts (scripts.reserveScriptEnv.2.setScriptId scriptId) where
  scriptEnv := by
    intro index less
    exact if_neg (Int.ne_of_lt less)
  tempItems := fun _ _ => rfl

/-- A call whose script ends with the index it began with is balanced: the index is back, the
results are dropped, and what lies below the reserved environment is the same. -/
theorem executeEvent_balanced (scriptId : Int) {body : Scripts → Scripts} (room : scripts.scriptEnvIndex + 1 < 16)
    (index : (body (scripts.reserveScriptEnv.2.setScriptId scriptId)).scriptEnvIndex = scripts.scriptEnvIndex + 1)
    (below : Below (scripts.scriptEnvIndex + 1) (scripts.reserveScriptEnv.2.setScriptId scriptId)
      (body (scripts.reserveScriptEnv.2.setScriptId scriptId))) :
    let after := scripts.executeEvent scriptId body
    after.scriptEnvIndex = scripts.scriptEnvIndex ∧ after.tempResults = [] ∧
      Below (scripts.scriptEnvIndex + 1) scripts after := by
  rw [executeEvent_admitted scriptId body room]
  have reset := resetEnv_below (body (scripts.reserveScriptEnv.2.setScriptId scriptId))
    (body (scripts.reserveScriptEnv.2.setScriptId scriptId)).scriptEnvIndex
  rw [index] at reset
  refine ⟨?_, rfl, ?_⟩
  · simp only [resetScriptEnv, index]
    omega
  · have done := ((enter_below scriptId).trans below).trans reset
    unfold resetScriptEnv
    rw [index]
    exact ⟨done.scriptEnv, done.tempItems⟩

end Scripts

namespace Script

open Scripts

/-- Nothing goes wrong below: no call is nested deeper than the array reaches, and no event is
triggered while there are database results. -/
def Fits : Int → Bool → Script → Prop
  | _, _, done => True
  | index, live, addThing _ rest => Fits index live rest
  | index, live, addTempItem _ rest => Fits index live rest
  | index, _, addResult _ rest => Fits index true rest
  | index, live, trigger _ event rest =>
    index + 1 < 16 ∧ live = false ∧ Fits (index + 1) false event ∧ Fits index false rest

/-- The index stays in the array, and every call leaves its caller undisturbed. -/
structure Isolated (script : Script) (scripts : Scripts) : Prop where
  range : ∀ state ∈ script.running scripts, -1 ≤ state.scriptEnvIndex ∧ state.scriptEnvIndex ≤ 15
  calls : ∀ call ∈ script.calls scripts, Undisturbed call.1 call.2

/-- A script that fits ends with the index it began with, and leaves alone what belongs to
the environments below its own. -/
theorem Fits.run {script : Script} {scripts : Scripts} {live : Bool}
    (fits : script.Fits scripts.scriptEnvIndex live) :
    (script.run scripts).scriptEnvIndex = scripts.scriptEnvIndex ∧
      Below scripts.scriptEnvIndex scripts (script.run scripts) := by
  induction script generalizing scripts live with
  | done => exact ⟨rfl, Below.refl _ _⟩
  | addThing thing rest ih =>
    have same := addThing_index scripts thing
    obtain ⟨index, below⟩ := @ih (scripts.addThing thing) _ (same.symm ▸ fits)
    rw [same] at index below
    exact ⟨index, (addThing_below thing).trans below⟩
  | addTempItem ptr rest ih =>
    obtain ⟨index, below⟩ := @ih (scripts.addTempItem ptr) _ fits
    exact ⟨index, (addTempItem_below ptr).trans below⟩
  | addResult result rest ih =>
    obtain ⟨index, below⟩ := @ih (scripts.addResult result) _ fits
    exact ⟨index, below.scriptEnv, below.tempItems⟩
  | trigger scriptId event rest ihEvent ihRest =>
    obtain ⟨room, _, fitsEvent, fitsRest⟩ := fits
    obtain ⟨index, below⟩ := @ihEvent (scripts.reserveScriptEnv.2.setScriptId scriptId) _ fitsEvent
    obtain ⟨back, _, kept⟩ := executeEvent_balanced scriptId room index below
    obtain ⟨last, belowRest⟩ := @ihRest (scripts.executeEvent scriptId event.run) _ (back.symm ▸ fitsRest)
    rw [back] at last belowRest
    exact ⟨last, (kept.mono (by omega)).trans belowRest⟩

section
variable {scripts : Scripts} {rest event : Script} (low : -1 ≤ scripts.scriptEnvIndex)
  (high : scripts.scriptEnvIndex ≤ 15)
include low high

theorem isolated_done : Isolated done scripts where
  range := by
    intro state listed
    obtain rfl := mem_singleton.mp listed
    exact ⟨low, high⟩
  calls := nofun

/-- A step that calls nothing is as isolated as what comes after it. -/
theorem isolated_step (script : Script) {next : Scripts} (running : script.running scripts = scripts :: rest.running next)
    (calls : script.calls scripts = rest.calls next) : Isolated script scripts ↔ Isolated rest next := by
  constructor
  · intro isolated
    refine ⟨fun state listed => ?_, fun call listed => ?_⟩
    · exact isolated.range state (running ▸ mem_cons_of_mem _ listed)
    · exact isolated.calls call (calls ▸ listed)
  · intro isolated
    refine ⟨fun state listed => ?_, fun call listed => ?_⟩
    · rw [running] at listed
      rcases mem_cons.mp listed with rfl | later
      · exact ⟨low, high⟩
      · exact isolated.range state later
    · exact isolated.calls call (calls ▸ listed)

/-- A trigger that is admitted: the event, the call and what comes after it. -/
theorem isolated_trigger (scriptId : Int) (room : scripts.scriptEnvIndex + 1 < 16) :
    Isolated (trigger scriptId event rest) scripts ↔
      Isolated event (scripts.reserveScriptEnv.2.setScriptId scriptId) ∧
        Undisturbed scripts (scripts.executeEvent scriptId event.run) ∧
        Isolated rest (scripts.executeEvent scriptId event.run) := by
  have running : (trigger scriptId event rest).running scripts =
      scripts :: event.running (scripts.reserveScriptEnv.2.setScriptId scriptId) ++
        rest.running (scripts.executeEvent scriptId event.run) := by
    simp [Script.running, reserveScriptEnv, room]
  have calls : (trigger scriptId event rest).calls scripts =
      event.calls (scripts.reserveScriptEnv.2.setScriptId scriptId) ++
        (scripts, scripts.executeEvent scriptId event.run) ::
          rest.calls (scripts.executeEvent scriptId event.run) := by
    simp [Script.calls, reserveScriptEnv, room]
  constructor
  · intro isolated
    refine ⟨⟨fun state listed => ?_, fun call listed => ?_⟩, ?_, ⟨fun state listed => ?_, fun call listed => ?_⟩⟩
    · exact isolated.range state (running ▸ mem_append_left _ (mem_cons_of_mem _ listed))
    · exact isolated.calls call (calls ▸ mem_append_left _ listed)
    · exact isolated.calls (scripts, _) (calls ▸ mem_append_right _ mem_cons_self)
    · exact isolated.range state (running ▸ mem_append_right _ listed)
    · exact isolated.calls call (calls ▸ mem_append_right _ (mem_cons_of_mem _ listed))
  · rintro ⟨inner, here, later⟩
    refine ⟨fun state listed => ?_, fun call listed => ?_⟩
    · rw [running] at listed
      rcases mem_append.mp listed with first | second
      · rcases mem_cons.mp first with rfl | inside
        · exact ⟨low, high⟩
        · exact inner.range state inside
      · exact later.range state second
    · rw [calls] at listed
      rcases mem_append.mp listed with first | second
      · exact inner.calls call first
      · rcases mem_cons.mp second with rfl | after
        · exact here
        · exact later.calls call after

end

/-- Calls leave their callers undisturbed just when no call is nested too deep and no event is
triggered while there are database results. -/
theorem isolated_iff_fits (script : Script) {scripts : Scripts} (low : -1 ≤ scripts.scriptEnvIndex)
    (high : scripts.scriptEnvIndex ≤ 15) :
    Isolated script scripts ↔ script.Fits scripts.scriptEnvIndex (!scripts.tempResults.isEmpty) := by
  induction script generalizing scripts with
  | done => exact iff_of_true (isolated_done low high) trivial
  | addThing thing rest ih =>
    have index := addThing_index scripts thing
    have step := isolated_step low high (addThing thing rest) rfl rfl
    rw [step, ih (index.symm ▸ low) (index.symm ▸ high), index, addThing_tempResults]
    rfl
  | addTempItem ptr rest ih =>
    have step := isolated_step low high (addTempItem ptr rest) rfl rfl
    rw [step]
    exact ih low high
  | addResult result rest ih =>
    have step := isolated_step low high (addResult result rest) rfl rfl
    have some : (!(scripts.addResult result).tempResults.isEmpty) = true := by
      simp [Scripts.addResult]
    have later := @ih (scripts.addResult result) low high
    rw [some] at later
    rw [step]
    exact later
  | trigger scriptId event rest ihEvent ihRest =>
    by_cases room : scripts.scriptEnvIndex + 1 < 16
    · have index : (scripts.reserveScriptEnv.2.setScriptId scriptId).scriptEnvIndex = scripts.scriptEnvIndex + 1 := rfl
      have entered := @ihEvent (scripts.reserveScriptEnv.2.setScriptId scriptId) (by omega) (by omega)
      rw [isolated_trigger low high scriptId room, entered]
      constructor
      · rintro ⟨fitsEvent, undisturbed, later⟩
        obtain ⟨index, below⟩ := fitsEvent.run
        obtain ⟨back, dropped, _⟩ := executeEvent_balanced scriptId room index below
        have none : scripts.tempResults = [] := undisturbed.tempResults.symm.trans dropped
        rw [ihRest (back.symm ▸ low) (back.symm ▸ high), back, dropped] at later
        have fitsEvent : event.Fits (scripts.scriptEnvIndex + 1) (!scripts.tempResults.isEmpty) := fitsEvent
        rw [none] at fitsEvent ⊢
        exact ⟨room, rfl, fitsEvent, later⟩
      · rintro ⟨_, live, fitsEvent, fitsRest⟩
        have none : scripts.tempResults = [] := by simpa using live
        have fitsInside : event.Fits (scripts.reserveScriptEnv.2.setScriptId scriptId).scriptEnvIndex
            (!(scripts.reserveScriptEnv.2.setScriptId scriptId).tempResults.isEmpty) := by
          change event.Fits (scripts.scriptEnvIndex + 1) (!scripts.tempResults.isEmpty)
          rw [none]
          exact fitsEvent
        obtain ⟨index, below⟩ := fitsInside.run
        obtain ⟨back, dropped, kept⟩ := executeEvent_balanced scriptId room index below
        refine ⟨fitsInside, ⟨back, ?_, ?_, dropped.trans none.symm⟩, ?_⟩
        · rw [kept.scriptEnv _ (by omega)]
        · exact kept.tempItems _ (by omega)
        · rw [ihRest (back.symm ▸ low) (back.symm ▸ high), back, dropped]
          exact fitsRest
    · -- the refused call leaves the index one higher
      refine iff_of_false ?_ (fun fits => room fits.1)
      intro isolated
      have here : (scripts, scripts.executeEvent scriptId event.run) ∈
          (trigger scriptId event rest).calls scripts := by
        simp [Script.calls]
      have index := (isolated.calls _ here).index
      rw [executeEvent_refused scriptId event.run room] at index
      simp only [reserveScriptEnv] at index
      omega

end Script

/-- Before any event. -/
def Scripts.start : Scripts where
  scriptEnvIndex := -1
  scriptEnv := fun _ => {}
  tempItems := []
  tempResults := []
  lastResultId := 0

namespace Script

/-- An event that registers an item and triggers another one before it asks the database. -/
theorem isolated_iff_fits_start :
    Isolated (trigger 1 (addThing (some (.item 7 none)) (addTempItem 7 (trigger 2 done (addResult 5 done)))) done)
      Scripts.start :=
  (isolated_iff_fits _ (by decide) (by decide)).mpr ⟨by decide, rfl, ⟨by decide, rfl, trivial, trivial⟩, trivial⟩

/-- A script that holds a result loses it to an event that it triggers. -/
theorem not_isolated_result :
    ¬ Isolated (trigger 1 (addResult 5 (trigger 2 done done)) done) Scripts.start := by
  intro isolated
  have event := (isolated_trigger (by decide) (by decide) 1 (by decide)).mp isolated
  have entered := (isolated_step (by decide) (by decide) (addResult 5 (trigger 2 done done)) rfl rfl).mp event.1
  have lost := ((isolated_trigger (by decide) (by decide) 2 (by decide)).mp entered).2.1.tempResults
  cases lost

end Script

end Styller
