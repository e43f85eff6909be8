/-
The control widget over one Gocator: its enable flags, its future watchers and its handlers. A step
is one event handled by the GUI thread, the end of a task on the thread pool, or a change of what
the Gocator answers to `isOpened`. A synchronous call keeps the GUI thread until it returns, so no
event is handled meanwhile; tasks on the pool go on.
-/
import Gocator.Lib.Run
import Gocator.Facade.Impl

namespace Gocator.Widget

open Gocator.Facade

/-! ## Tasks -/

/-- The task `onConnectToggled` starts. -/
inductive ConnectTask where
  | «open»
  | close
deriving DecidableEq, Repr

/-- A call made on the GUI thread: by the grab buttons, or the reads of `populateFeatures`. -/
inductive SyncCall where
  | configureAndGrab
  | stop
  | populateFeatures
deriving DecidableEq, Repr

/-- A `QFutureWatcher`: its task runs on the pool, or has returned and the finished signal is not
handled yet. -/
inductive Watcher (τ ρ : Type) where
  | idle
  | running (task : τ)
  | ended (result : ρ)
deriving DecidableEq, Repr

section

variable {τ ρ : Type}

def Watcher.isRunning : Watcher τ ρ → Bool
  | .running _ => true
  | _ => false

def Watcher.task : Watcher τ ρ → Option τ
  | .running t => some t
  | _ => none

@[simp] theorem Watcher.task_running (t : τ) : (Watcher.running t : Watcher τ ρ).task = some t := rfl

theorem Watcher.task_eq_none {w : Watcher τ ρ} (h : w.isRunning = false) : w.task = none := by
  cases w with
  | running t => cases h
  | _ => rfl

theorem Watcher.length_task {w : Watcher τ ρ} (h : w.isRunning = true) : w.task.toList.length = 1 := by
  cases w with
  | running t => rfl
  | _ => cases h

end

/-- What is under way on the Gocator. `stray` holds the connect tasks whose future was replaced in
the watcher while they were running. `released` records that a handler that turns controls on was run
since the last task was started: a notification, a discovery result or the finished signal of another
task. No handler reads it. -/
structure Tasks where
  connectWatcher : Watcher ConnectTask Bool := .idle
  discoverWatcher : Watcher Unit Unit := .idle
  paramWatcher : Watcher Unit Unit := .idle
  featureDataWatcher : Watcher Unit Unit := .idle
  stray : List ConnectTask := []
  sync : Option SyncCall := none
  released : Bool := true
deriving DecidableEq, Repr

/-- A task of the connect, the parameter or the feature watcher runs. -/
def Tasks.running (t : Tasks) : Bool :=
  t.connectWatcher.isRunning || t.paramWatcher.isRunning || t.featureDataWatcher.isRunning

/-! ## Controls -/

/-- An editor of `_widgetToFeatureMap`. -/
structure Editor where
  gocatorReadOnly : Bool
  enabled : Bool
deriving DecidableEq, Repr

/-- The enable flags, the check states and the flags the handlers read. -/
structure Controls where
  ipCombo : Bool := true
  toolRefresh : Bool := true
  toolConnect : Bool := true
  toolGrabOne : Bool := false
  toolGrabLive : Bool := false
  connectChecked : Bool := false
  liveChecked : Bool := false
  editors : List Editor := []
  grabbing : Bool := false
  parameterUpdateActive : Bool := false
  updatingFeatures : Bool := false
deriving DecidableEq, Repr

/-- The widget, with what `Gocator::isOpened` answers and whether the diagnostic category logs at
debug level. -/
structure QGocatorWidget extends Controls, Tasks where
  gocator : Bool
  shuttingDown : Bool := false
  opened : Bool
  debug : Bool
deriving DecidableEq, Repr

/-- `!_gocator || _shuttingDown`: the guard of the handlers, negated. -/
def QGocatorWidget.live (w : QGocatorWidget) : Bool := w.gocator && !w.shuttingDown

theorem not_shuttingDown_of_live {w : QGocatorWidget} (h : w.live = true) : w.shuttingDown = false := by
  unfold QGocatorWidget.live at h
  cases hs : w.shuttingDown with
  | false => rfl
  | true =>
    rw [hs, Bool.not_true, Bool.and_false] at h
    cases h

/-- `_gocator && _gocator->isOpened()`. -/
def QGocatorWidget.isOpened (w : QGocatorWidget) : Bool := w.gocator && w.opened

def setFeatureEditorsEnabled (w : QGocatorWidget) (enabled : Bool) : QGocatorWidget :=
  { w with editors := w.editors.map fun e => { e with enabled := enabled && !e.gocatorReadOnly } }

def setRunningState (w : QGocatorWidget) (running : Bool) : QGocatorWidget :=
  setFeatureEditorsEnabled { w with toolGrabOne := w.isOpened && !running, toolGrabLive := w.isOpened }
    (!running && !w.parameterUpdateActive)

def setConnectionOperationActive (w : QGocatorWidget) : Bool → QGocatorWidget
  | true => { w with ipCombo := false, toolRefresh := false, toolConnect := false }
  | false => { w with ipCombo := !w.isOpened, toolRefresh := !w.isOpened, toolConnect := true }

def clearFeatures (w : QGocatorWidget) : QGocatorWidget := { w with editors := [] }

/-- `populateFeatures` up to its reads of the schemas and resources; `featuresPopulated` is the rest. -/
def populateFeatures (w : QGocatorWidget) : QGocatorWidget :=
  if !w.live || !w.isOpened then w
  else { clearFeatures { w with updatingFeatures := true } with sync := some .populateFeatures }

/-- `addFeatureNode` for the properties read: each editor is enabled unless its schema is read-only. -/
def featuresPopulated (w : QGocatorWidget) (readOnly : List Bool) : QGocatorWidget :=
  { w with editors := readOnly.map fun r => ⟨r, !r⟩, updatingFeatures := false }

def applyConnectionState (w : QGocatorWidget) (opened : Bool) : QGocatorWidget :=
  if w.shuttingDown then w
  else
    let w := { w with ipCombo := !opened, toolRefresh := !opened, toolConnect := true, toolGrabOne := opened,
                      toolGrabLive := opened }
    if opened then populateFeatures (setRunningState w false)
    else clearFeatures (setRunningState { w with liveChecked := false, grabbing := false } false)

/-- The controls off for a parameter update or a read. -/
def disableControls (w : QGocatorWidget) : QGocatorWidget :=
  setFeatureEditorsEnabled { setConnectionOperationActive w true with toolGrabOne := false, toolGrabLive := false }
    false

def updateFeatureValues (w : QGocatorWidget) : QGocatorWidget :=
  if !w.live || !w.isOpened then w
  else if w.featureDataWatcher.isRunning then w
  else { disableControls w with featureDataWatcher := .running (), released := false }

/-! ## Handlers -/

/-- `setFuture` has no `isRunning` check before it: a task still running is left to itself. -/
def onConnectToggled (w : QGocatorWidget) (toggled : Bool) : QGocatorWidget :=
  if !w.live then w
  else { setConnectionOperationActive w true with
    stray := w.stray ++ w.connectWatcher.task.toList
    connectWatcher := .running (if toggled then .open else .close)
    released := false }

def onGrabOneClicked (w : QGocatorWidget) : QGocatorWidget :=
  if !w.live then w else { w with sync := some .configureAndGrab }

def onGrabLiveToggled (w : QGocatorWidget) (toggled : Bool) : QGocatorWidget :=
  if !w.live then w else { w with sync := some (if toggled then .configureAndGrab else .stop) }

def onRefreshClicked (w : QGocatorWidget) : QGocatorWidget :=
  if !w.live then w
  else if w.discoverWatcher.isRunning then w
  else { w with toolRefresh := false, toolConnect := false, discoverWatcher := .running () }

/-- `isNull`: the editor has no value to send (a combo box without a current item). -/
def onParameterChanged (w : QGocatorWidget) (isNull : Bool) : QGocatorWidget :=
  if w.updatingFeatures || !w.live || isNull || w.paramWatcher.isRunning then w
  else { disableControls { w with parameterUpdateActive := true } with paramWatcher := .running (), released := false }

/-- The read at the end of a grab, while the diagnostic category logs at debug level. -/
def diagnosticRead (w : QGocatorWidget) (on : Bool) : QGocatorWidget :=
  if !on && w.debug then updateFeatureValues w else w

def handleStatusChanged (w : QGocatorWidget) (status : Status) (on : Bool) : QGocatorWidget :=
  if w.shuttingDown then w
  else
    let w := { w with released := true }
    match status with
    | .grabbing => { diagnosticRead (setRunningState { w with grabbing := on } on) on with liveChecked := on }
    | .connection => { applyConnectionState w on with connectChecked := on }

def connectFinished (w : QGocatorWidget) (success : Bool) : QGocatorWidget :=
  if w.shuttingDown then w
  else if success then applyConnectionState (setConnectionOperationActive w false) true
  else applyConnectionState { setConnectionOperationActive w false with connectChecked := false } false

/-- `applyDiscoveredDevices`, with or without devices. -/
def discoverFinished (w : QGocatorWidget) : QGocatorWidget :=
  if w.shuttingDown then w else { w with toolRefresh := true, toolConnect := true, released := true }

def paramFinished (w : QGocatorWidget) : QGocatorWidget :=
  if w.shuttingDown then w
  else updateFeatureValues
    (setRunningState (setConnectionOperationActive { w with parameterUpdateActive := false } false) w.grabbing)

/-- `applyFeatureValues` changes the values shown, with the editors' signals blocked. -/
def featureDataFinished (w : QGocatorWidget) : QGocatorWidget :=
  if !w.live then w else setRunningState (setConnectionOperationActive w false) w.grabbing

/-- The constructor. -/
def construct (gocator opened grabbing debug : Bool) : QGocatorWidget :=
  let w : QGocatorWidget := { gocator := gocator, opened := opened, debug := debug }
  if gocator then { applyConnectionState w opened with grabbing := grabbing } else w

/-! ## Steps -/

/-- The next event: of the user, of the facade or of a watcher on the GUI thread, or the end of a task on the pool. -/
inductive Action where
  | connectToggled
  | grabOneClicked
  | grabLiveToggled
  | refreshClicked
  | edited (i : Nat) (isNull : Bool)
  | statusChanged (status : Status) (on : Bool)
  | connectFinished
  | discoverFinished
  | paramFinished
  | featureDataFinished
  | prepareForShutdown
  -- on the thread pool
  | connectReturns (success : Bool)
  | strayReturns (i : Nat)
  | discoverReturns
  | paramReturns
  | featureDataReturns
  -- the synchronous call returns; `readOnly` lists the properties `populateFeatures` read
  | syncReturns (readOnly : List Bool)
  | openedChanges (opened : Bool)
  | debugChanges (debug : Bool)
deriving DecidableEq, Repr

/-- An event of the GUI thread: a user event, a notification or a finished signal. A user event needs
its control enabled, a finished signal a task that has returned. -/
def guiStep (w : QGocatorWidget) : Action → Option QGocatorWidget
  | .connectToggled =>
    if w.toolConnect then some (onConnectToggled { w with connectChecked := !w.connectChecked } !w.connectChecked)
    else none
  | .grabOneClicked => if w.toolGrabOne then some (onGrabOneClicked w) else none
  | .grabLiveToggled =>
    if w.toolGrabLive then some (onGrabLiveToggled { w with liveChecked := !w.liveChecked } !w.liveChecked) else none
  | .refreshClicked => if w.toolRefresh then some (onRefreshClicked w) else none
  | .edited i isNull =>
    if w.editors[i]?.any (·.enabled) then some (onParameterChanged w isNull) else none
  | .statusChanged status on => some (handleStatusChanged w status on)
  | .connectFinished =>
    match w.connectWatcher with
    | .ended success => some (connectFinished { w with connectWatcher := .idle, released := true } success)
    | _ => none
  | .discoverFinished =>
    match w.discoverWatcher with
    | .ended _ => some (discoverFinished { w with discoverWatcher := .idle })
    | _ => none
  | .paramFinished =>
    match w.paramWatcher with
    | .ended _ => some (paramFinished { w with paramWatcher := .idle, released := true })
    | _ => none
  | .featureDataFinished =>
    match w.featureDataWatcher with
    | .ended _ => some (featureDataFinished { w with featureDataWatcher := .idle, released := true })
    | _ => none
  -- the waits for the watchers are left out: no handler does anything afterwards
  | .prepareForShutdown => some { w with shuttingDown := true, gocator := false }
  | _ => none

/-- The end of a task, or a change outside the widget. -/
def poolStep (w : QGocatorWidget) : Action → Option QGocatorWidget
  | .connectReturns success =>
    match w.connectWatcher with
    | .running t => some { w with connectWatcher := .ended (t = .open && success) }
    | _ => none
  | .strayReturns i => if i < w.stray.length then some { w with stray := w.stray.eraseIdx i } else none
  | .discoverReturns =>
    match w.discoverWatcher with
    | .running _ => some { w with discoverWatcher := .ended () }
    | _ => none
  | .paramReturns =>
    match w.paramWatcher with
    | .running _ => some { w with paramWatcher := .ended () }
    | _ => none
  | .featureDataReturns =>
    match w.featureDataWatcher with
    | .running _ => some { w with featureDataWatcher := .ended () }
    | _ => none
  | .openedChanges opened => some { w with opened := opened }
  | .debugChanges debug => some { w with debug := debug }
  | _ => none

/-- The return of the synchronous call, the end of a task, or an event of the GUI thread while no call keeps it. -/
def step (w : QGocatorWidget) : Action → Option (QGocatorWidget × List Unit)
  | .syncReturns readOnly =>
    match w.sync with
    | none => none
    | some .populateFeatures => some (featuresPopulated { w with sync := none } readOnly, [])
    | some _ => some ({ w with sync := none }, [])
  | a =>
    match poolStep w a with
    | some w' => some (w', [])
    | none => if w.sync.isNone then (guiStep w a).map (·, []) else none

/-- A step is one of the pool, one of the GUI thread, or the return of its synchronous call. -/
theorem step_cases {w w' : QGocatorWidget} {a : Action} {evs : List Unit} (h : step w a = some (w', evs)) :
    poolStep w a = some w' ∨ (w.sync = none ∧ guiStep w a = some w') ∨
      ∃ readOnly, a = .syncReturns readOnly ∧
        ((w.sync = some .populateFeatures ∧ w' = featuresPopulated { w with sync := none } readOnly) ∨
          w' = { w with sync := none }) := by
  have hother : ∀ {r : QGocatorWidget × List Unit}, (match poolStep w a with
      | some w' => some (w', [])
      | none => if w.sync.isNone then (guiStep w a).map (·, []) else none) = some r →
      poolStep w a = some r.1 ∨ (w.sync = none ∧ guiStep w a = some r.1) := by
    intro r hr
    cases hp : poolStep w a with
    | some w₁ => rw [hp] at hr; cases hr; exact .inl rfl
    | none =>
      simp only [hp] at hr
      split at hr
      · rename_i hs
        obtain ⟨w₁, hg, rfl⟩ := Option.map_eq_some_iff.1 hr
        exact .inr ⟨Option.isNone_iff_eq_none.1 hs, hg⟩
      · cases hr
  cases a with
  | syncReturns readOnly =>
    refine .inr (.inr ⟨readOnly, rfl, ?_⟩)
    simp only [step] at h
    cases hs : w.sync with
    | none => rw [hs] at h; cases h
    | some c =>
      rw [hs] at h
      cases c with
      | populateFeatures => cases h; exact .inl ⟨rfl, rfl⟩
      | _ => cases h; exact .inr rfl
  | _ =>
    rcases hother h with hp | hg
    · exact .inl hp
    · exact .inr (.inl hg)

end Gocator.Widget
