import Styller.Item.Item

/-! Script environments: a fixed array with a static index, a multimap of temporary items
and a map of database results that all of them share. -/

namespace Styller

/-- A thing as `ScriptEnvironment::addThing` sees it. -/
inductive ScriptThing where
  | creature (id : Nat)
  | item (ptr : ItemPtr) (uniqueId : Option Nat)

structure ScriptEnvironment where
  localMap : List (Nat × ItemPtr) := []
  lastUID : Nat := 65535
  scriptId : Int := 0
  callbackId : Int := 0
  timerEvent : Bool := false

/-- The static members of `LuaScriptInterface` and `ScriptEnvironment`.  The array has the
indices 0 to 15; any other index stands for the memory beside it. -/
structure Scripts where
  scriptEnvIndex : Int
  scriptEnv : Int → ScriptEnvironment
  tempItems : List (Int × ItemPtr)
  tempResults : List (Nat × Nat)
  lastResultId : Nat

namespace Scripts

variable (scripts : Scripts)

def setEnv (index : Int) (env : ScriptEnvironment) : Scripts :=
  { scripts with scriptEnv := fun other => if other = index then env else scripts.scriptEnv other }

/-- `ScriptEnvironment::addThing` in the current environment; a thing that is removed, a
creature and an item with a unique id are not registered. -/
def addThing (thing : Option ScriptThing) : Scripts :=
  match thing with
  | some (.item ptr none) =>
    let env := scripts.scriptEnv scripts.scriptEnvIndex
    if env.localMap.any (fun entry => entry.2 = ptr) then scripts
    else scripts.setEnv scripts.scriptEnvIndex
      { env with localMap := env.localMap ++ [(env.lastUID + 1, ptr)], lastUID := env.lastUID + 1 }
  | _ => scripts

/-- `ScriptEnvironment::addTempItem`. -/
def addTempItem (ptr : ItemPtr) : Scripts :=
  { scripts with tempItems := scripts.tempItems ++ [(scripts.scriptEnvIndex, ptr)] }

/-- `ScriptEnvironment::addResult`. -/
def addResult (result : Nat) : Scripts :=
  { scripts with
    tempResults := scripts.tempResults ++ [(scripts.lastResultId + 1, result)]
    lastResultId := scripts.lastResultId + 1 }

/-- `ScriptEnvironment::resetEnv`; the results of every environment are dropped. -/
def resetEnv (index : Int) : Scripts :=
  { scripts.setEnv index { lastUID := (scripts.scriptEnv index).lastUID } with
    tempResults := []
    tempItems := scripts.tempItems.filter (fun entry => entry.1 ≠ index) }

/-- `LuaScriptInterface::reserveScriptEnv`; the index has grown whatever the answer. -/
def reserveScriptEnv : Bool × Scripts :=
  let index := scripts.scriptEnvIndex + 1
  (index < 16, { scripts with scriptEnvIndex := index })

/-- `LuaScriptInterface::resetScriptEnv`. -/
def resetScriptEnv : Scripts :=
  { scripts.resetEnv scripts.scriptEnvIndex with scriptEnvIndex := scripts.scriptEnvIndex - 1 }

/-- `ScriptEnvironment::setScriptId` in the current environment. -/
def setScriptId (scriptId : Int) : Scripts :=
  scripts.setEnv scripts.scriptEnvIndex
    { scripts.scriptEnv scripts.scriptEnvIndex with scriptId := scriptId }

/-- An event entry point such as `GlobalEvent::executeEvent`, up to the end of
`callFunction`: a refusal returns at once. -/
def executeEvent (scriptId : Int) (body : Scripts → Scripts) : Scripts :=
  match scripts.reserveScriptEnv with
  | (false, reserved) => reserved
  | (true, reserved) => (body (reserved.setScriptId scriptId)).resetScriptEnv

end Scripts

/-- What a script does with environments, in order: it registers things, temporary items and
results, and triggers events, which run scripts of their own. -/
inductive Script where
  | done
  | addThing (thing : Option ScriptThing) (rest : Script)
  | addTempItem (ptr : ItemPtr) (rest : Script)
  | addResult (result : Nat) (rest : Script)
  | trigger (scriptId : Int) (event rest : Script)

namespace Script

/-- The state when the script has ended. -/
def run : Script → Scripts → Scripts
  | done, scripts => scripts
  | addThing thing rest, scripts => run rest (scripts.addThing thing)
  | addTempItem ptr rest, scripts => run rest (scripts.addTempItem ptr)
  | addResult result rest, scripts => run rest (scripts.addResult result)
  | trigger scriptId event rest, scripts => run rest (scripts.executeEvent scriptId (run event))

/-- The states while the script or a script below it runs. -/
def running : Script → Scripts → List Scripts
  | done, scripts => [scripts]
  | addThing thing rest, scripts => scripts :: running rest (scripts.addThing thing)
  | addTempItem ptr rest, scripts => scripts :: running rest (scripts.addTempItem ptr)
  | addResult result rest, scripts => scripts :: running rest (scripts.addResult result)
  | trigger scriptId event rest, scripts =>
    scripts :: (match scripts.reserveScriptEnv with
      | (false, _) => []
      | (true, reserved) => running event (reserved.setScriptId scriptId)) ++
      running rest (scripts.executeEvent scriptId (run event))

/-- The calls that the script and the scripts below it make: the state before and after. -/
def calls : Script → Scripts → List (Scripts × Scripts)
  | done, _ => []
  | addThing thing rest, scripts => calls rest (scripts.addThing thing)
  | addTempItem ptr rest, scripts => calls rest (scripts.addTempItem ptr)
  | addResult result rest, scripts => calls rest (scripts.addResult result)
  | trigger scriptId event rest, scripts =>
    (match scripts.reserveScriptEnv with
      | (false, _) => []
      | (true, reserved) => calls event (reserved.setScriptId scriptId)) ++
      (scripts, scripts.executeEvent scriptId (run event)) ::
        calls rest (scripts.executeEvent scriptId (run event))

end Script

end Styller
