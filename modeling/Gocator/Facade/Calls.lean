/-
The public calls of the facade, made one after the other: every call runs to its end before the next,
a data set is handled whole between two calls, and so is a stop worker. Which of the SDK calls inside
a call throw is an argument of the call. Following a null pointer is an exception of its own, which
nothing catches.
-/
import Gocator.Facade.Impl

namespace Gocator.Facade

/-! ## The machine -/

/-- `stopWorker`: not joinable, a thread that has yet to run, or one that has finished. -/
inductive Worker where
  | none
  | spawned
  | finished
  deriving DecidableEq, Repr

/-- The facade, its stop worker and what an observer has heard. -/
structure World where
  impl : Impl
  worker : Worker
  /-- What an observer registered throughout has been told. -/
  told : List (Status × Bool)

def World.fresh (observers callbacks : Registry) : World := ⟨.fresh observers callbacks, .none, []⟩

/-- What a call can throw. -/
inductive Thrown where
  /-- An exception derived from `std::exception`. -/
  | sdk
  | nullDereference
  deriving DecidableEq, Repr

abbrev Run := EStateM Thrown World

/-- The places where a call into the SDK can throw, in the order of the source. -/
inductive Site where
  -- `open`
  | resolveTarget
  | newConnection
  | newResources
  | connect
  /-- The GDP port read for the log line, after the flag is set. -/
  | openGdpPort
  -- `configure`
  | updateScanMode
  | updateExposure
  | updateScanLength
  | enableControl
  | addOutput
  -- `setParameterValue`
  | parseValue
  | setPatch
  | setJson
  -- `getParametersSchema`, `getParametersData`
  | schema
  | data
  -- `grab`
  | newGdpClient
  | address
  | gdpPort
  | gdpConnect
  | logGdpPort
  | receiveDataAsync
  | start
  deriving DecidableEq, Repr

abbrev Throws := Site → Bool

def sdk (throws : Throws) (site : Site) : Run Unit := if throws site then throw .sdk else pure ()

def setImpl (f : Impl → Impl) : Run Unit := modify fun w => { w with impl := f w.impl }

/-- `connection->`. -/
def theConnection : Run Connection := do
  match (← get).impl.connection with
  | some c => return c
  | none => throw .nullDereference

/-- `*resources`, `resources->`. -/
def theResources : Run Unit := do
  if (← get).impl.resources then pure () else throw .nullDereference

/-- `gdpClient->`. -/
def theGdpClient : Run GdpClient := do
  match (← get).impl.gdpClient with
  | some c => return c
  | none => throw .nullDereference

/-- `catch (const std::exception&)`. -/
def catchSdk {α : Type} (body handler : Run α) : Run α :=
  tryCatch body fun
    | .sdk => handler
    | .nullDereference => throw .nullDereference

/-- `notifyStatus`: what the callbacks throw is caught. -/
def notifyStatus (status : Status) (on : Bool) : Run Unit :=
  modify fun w => { w with told := w.told ++ [(status, on)] }

/-! ## The calls -/

/-- `stop`. What `stopNoThrow` and `Close` throw is caught. -/
def stop : Run Unit := do
  if (← get).impl.isGrabbing then
    setImpl fun m => { m with isGrabbing := false, stopRequested := true }
    setImpl fun m => { m with gdpClient := none }
    setImpl fun m => { m with dataCallback := false }
    notifyStatus .grabbing false

/-- A worker that has not run yet stops the grab before it can be joined. -/
def runWorker : Run Unit := do
  if (← get).worker = .spawned then
    stop
    modify fun w => { w with worker := .finished }

def joinStopWorker : Run Unit := do
  runWorker
  modify fun w => { w with worker := .none }

/-- `close`. What `Close` and `disconnect` throw is caught. -/
def close : Run Unit := do
  joinStopWorker
  stop
  setImpl fun m => { m with gdpClient := none }
  setImpl fun m => { m with resources := false }
  setImpl fun m => { m with connection := none }
  if (← get).impl.isOpened then
    setImpl fun m => { m with isOpened := false }
    notifyStatus .connection false

/-- The body of the `try` in `open`, for the address the target is resolved to. -/
def openSession (throws : Throws) (address : String) : Run Bool := do
  sdk throws .resolveTarget
  sdk throws .newConnection
  setImpl fun m => { m with connection := some ⟨address⟩ }
  let _ ← theConnection
  sdk throws .newResources
  setImpl fun m => { m with resources := true }
  let _ ← theConnection
  sdk throws .connect
  let connection ← theConnection
  setImpl fun m => { m with ipAddress := connection.address }
  setImpl fun m => { m with isOpened := true }
  let _ ← theConnection
  sdk throws .openGdpPort
  notifyStatus .connection true
  return true

def «open» (throws : Throws) (address : String) : Run Bool := do
  if (← get).impl.isOpened then return true
  catchSdk (openSession throws address) do
    close
    return false

/-- The body of the `try` in `grab`. -/
def grabSession (throws : Throws) (frames : Nat) : Run Unit := do
  sdk throws .newGdpClient
  setImpl fun m => { m with gdpClient := some ⟨0, none⟩ }
  let _ ← theGdpClient
  let _ ← theConnection
  sdk throws .address
  let _ ← theConnection
  sdk throws .gdpPort
  sdk throws .gdpConnect
  let _ ← theConnection
  sdk throws .logGdpPort
  setImpl fun m => { m with frameSeq := 0, frameTarget := frames, stopRequested := false }
  setImpl fun m => { m with isGrabbing := true }
  setImpl fun m => { m with dataCallback := true }
  let client ← theGdpClient
  sdk throws .receiveDataAsync
  setImpl fun m => { m with gdpClient := some { client with data := some .waiting } }
  let _ ← theConnection
  sdk throws .start
  notifyStatus .grabbing true

/-- `grab`, from the joining of the stop worker to the notification or into the catch block. -/
def grab (throws : Throws) (frames : Nat) : Run Unit := do
  joinStopWorker
  let m := (← get).impl
  if m.isOpened = true ∧ m.isGrabbing = false then
    catchSdk (grabSession throws frames) stop

/-- A request through the resource client. -/
def request (throws : Throws) (site : Site) : Run Unit := do
  theResources
  sdk throws site

/-- What a call does only when the facade is opened, and what it throws is logged. -/
def whenOpened (body : Run Unit) : Run Unit := do
  if (← get).impl.isOpened then catchSdk body (pure ())

/-- The detection of the engine and the removal of the outputs catch what they throw. -/
def configure (throws : Throws) : Run Unit := whenOpened do
  theResources
  request throws .updateScanMode
  request throws .updateExposure
  request throws .updateScanLength
  request throws .enableControl
  theResources
  request throws .addOutput

def setParameterValue (throws : Throws) : Run Unit := whenOpened do
  sdk throws .parseValue
  sdk throws .setPatch
  request throws .setJson

def getParametersSchema (throws : Throws) : Run Unit := whenOpened (request throws .schema)

def getParametersData (throws : Throws) : Run Unit := whenOpened (request throws .data)

/-- `~Gocator`, then `~Impl`. -/
def destroy : Run Unit := do
  close
  close
  joinStopWorker

def requestStopFromCallback : Run Unit := do
  let w ← get
  if w.impl.stopRequested then return
  setImpl fun m => { m with stopRequested := true }
  if w.worker = .none then
    modify fun w => { w with worker := .spawned }

/-- `handleData`, on the thread of a client that receives. -/
def handleData : Run Unit := do
  let m := (← get).impl
  if m.receiving = true ∧ m.isGrabbing = true then
    setImpl fun m => { m with frameSeq := m.frameSeq + 1 }
    let m := (← get).impl
    if m.frameTarget > 0 ∧ m.frameSeq ≥ m.frameTarget then requestStopFromCallback

/-! ## Sequences of calls -/

/-- The public calls, the destructor, the arrival of a data set and the run of the stop worker. -/
inductive Call where
  | «open» (address : String)
  | close
  | configure
  | setParameterValue
  | getParametersSchema
  | getParametersData
  | grab (frames : Nat)
  | stop
  | destroy
  | deliver
  | runWorker
  deriving DecidableEq, Repr

def Call.run (throws : Throws) : Call → Run Unit
  | .open address => do let _ ← Facade.open throws address
  | .close => Facade.close
  | .configure => Facade.configure throws
  | .setParameterValue => Facade.setParameterValue throws
  | .getParametersSchema => Facade.getParametersSchema throws
  | .getParametersData => Facade.getParametersData throws
  | .grab frames => Facade.grab throws frames
  | .stop => Facade.stop
  | .destroy => Facade.destroy
  | .deliver => handleData
  | .runWorker => Facade.runWorker

/-- Calls in order, each with the SDK calls that throw in it. -/
def runCalls : List (Call × Throws) → Run Unit
  | [] => pure ()
  | (c, throws) :: calls => do
    c.run throws
    runCalls calls

end Gocator.Facade
