/-
The feature editors while the device is busy. Starting an update and a notification of a grab turn the editors
off, and the end of an update looks at both flags; building the tree anew and taking the connection for new look
at neither. The condition on the steps names what these turn on; a step breaks the property exactly when it
breaks the condition.
-/
import Gocator.Widget.State

namespace Gocator.Widget

open Gocator.Facade Transition

/-! ## The property -/

/-- A grab or a parameter update is under way. -/
def Controls.Busy (c : Controls) : Prop := c.grabbing = true ∨ c.parameterUpdateActive = true

instance (c : Controls) : Decidable c.Busy := inferInstanceAs (Decidable (_ ∨ _))

/-- Every property that has an editor is read-only. -/
def Controls.AllReadOnly (c : Controls) : Prop := ∀ e ∈ c.editors, e.gocatorReadOnly = true

instance (c : Controls) : Decidable c.AllReadOnly := List.decidableBAll _ c.editors

/-- No read-only editor is enabled. -/
def Controls.ReadOnlyOff (c : Controls) : Prop := ∀ e ∈ c.editors, e.gocatorReadOnly = true → e.enabled = false

/-- No read-only editor is enabled, and while the device is busy none is. -/
structure Controls.Locked (c : Controls) : Prop where
  readOnly : c.ReadOnlyOff
  busy : c.Busy → ∀ e ∈ c.editors, e.enabled = false

/-- The events of the widget, and the calls that the application makes of it. -/
inductive HostAction where
  | widget (a : Action)
  /-- `setScanLengthMm`, `setScanMode`, `setExposureUs`, `setIntensityEnabled` and `setUniformSpacingEnabled`. -/
  | setParameter
  | setRunningState (running : Bool)
deriving DecidableEq, Repr

/-- A setter hands its value to the Gocator and builds the tree anew, if the Gocator is open. -/
def hostStep (w : QGocatorWidget) : HostAction → Option (QGocatorWidget × List Unit)
  | .widget a => step w a
  | .setParameter => if w.sync.isNone then some (populateFeatures w, []) else none
  | .setRunningState running => if w.sync.isNone then some (setRunningState w running, []) else none

/-- `setRunningState(false)` turns no editor on. -/
def FreesNone (w : QGocatorWidget) : Prop :=
  w.parameterUpdateActive = false → w.grabbing = true → w.AllReadOnly

instance (w : QGocatorWidget) : Decidable (FreesNone w) := inferInstanceAs (Decidable (_ → _ → _))

/-- What turns editors on without a look at both flags: the end of `populateFeatures`, if it has read a property
that is not read-only; a connection that is reported while the Gocator is closed again, so that the tree stays;
and `setRunningState`, called from outside. -/
def KeepsLock (w : QGocatorWidget) : HostAction → Prop
  | .widget (.syncReturns readOnly) => w.sync = some .populateFeatures → w.Busy → ∀ r ∈ readOnly, r = true
  | .widget (.statusChanged .connection true) => w.shuttingDown = false → w.isOpened = false → FreesNone w
  | .widget .connectFinished =>
    w.connectWatcher = .ended true → w.shuttingDown = false → w.isOpened = false → FreesNone w
  | .setRunningState false => FreesNone w
  | _ => True

instance (w : QGocatorWidget) (a : HostAction) : Decidable (KeepsLock w a) := by
  unfold KeepsLock
  split <;> infer_instance

/-! ## What sets the editors -/

section

variable {w : QGocatorWidget}

theorem Controls.Locked.of_same {c c' : Controls} (h : c.Locked) (he : c'.editors = c.editors)
    (hg : c'.grabbing = c.grabbing) (hp : c'.parameterUpdateActive = c.parameterUpdateActive) : c'.Locked := by
  constructor
  · rw [ReadOnlyOff, he]
    exact h.readOnly
  · rw [Busy, he, hg, hp]
    exact h.busy

/-- The other controls do not matter. -/
theorem Controls.locked_congr {c c' : Controls} (he : c'.editors = c.editors) (hg : c'.grabbing = c.grabbing)
    (hp : c'.parameterUpdateActive = c.parameterUpdateActive) : c'.Locked ↔ c.Locked :=
  ⟨fun h => h.of_same he.symm hg.symm hp.symm, fun h => h.of_same he hg hp⟩

/-- Without editors nothing is enabled. -/
theorem Controls.locked_of_nil {c : Controls} (h : c.editors = []) : c.Locked := by
  constructor
  · rw [ReadOnlyOff, h]
    exact fun _ he => absurd he List.not_mem_nil
  · rw [h]
    exact fun _ _ he => absurd he List.not_mem_nil

theorem readOnlyOff_setFeatureEditorsEnabled (w : QGocatorWidget) (enabled : Bool) :
    (setFeatureEditorsEnabled w enabled).ReadOnlyOff := by
  intro e he hr
  obtain ⟨e', -, rfl⟩ := List.mem_map.1 he
  have hr' : e'.gocatorReadOnly = true := hr
  simp [hr']

theorem locked_setFeatureEditorsEnabled_iff {enabled : Bool} :
    (setFeatureEditorsEnabled w enabled).Locked ↔ (enabled = true → w.Busy → w.AllReadOnly) := by
  constructor
  · rintro h rfl hbusy e he
    have hoff := h.busy hbusy _ (List.mem_map.2 ⟨e, he, rfl⟩)
    simpa using hoff
  · intro h
    constructor
    · exact readOnlyOff_setFeatureEditorsEnabled w enabled
    · intro hbusy e he
      obtain ⟨e', he', rfl⟩ := List.mem_map.1 he
      cases enabled with
      | false => rfl
      | true =>
        have hr := h rfl hbusy e' he'
        simp [hr]

theorem locked_setRunningState_iff {running : Bool} :
    (setRunningState w running).Locked ↔ (running = false → FreesNone w) := by
  unfold setRunningState
  rw [locked_setFeatureEditorsEnabled_iff]
  constructor
  · rintro h rfl hp hg
    exact h (by rw [hp]; rfl) (.inl hg)
  · intro h hen hbusy
    rw [Bool.and_eq_true, Bool.not_eq_true', Bool.not_eq_true'] at hen
    rcases hbusy with hg | hp
    · exact h hen.1 hen.2 hg
    · have hp' : w.parameterUpdateActive = true := hp
      rw [hen.2] at hp'
      cases hp'

/-- The end of a grab, an update or a read passes the flag on. -/
theorem locked_setRunningState_grabbing : (setRunningState w w.grabbing).Locked := by
  rw [locked_setRunningState_iff]
  intro hg _ hg'
  rw [hg] at hg'
  cases hg'

theorem locked_disableControls (w : QGocatorWidget) : (disableControls w).Locked := by
  unfold disableControls
  rw [locked_setFeatureEditorsEnabled_iff]
  exact fun h => absurd h Bool.false_ne_true

/-- `populateFeatures` begins with an empty tree, or leaves it as it is. -/
theorem populateFeatures_cases (w : QGocatorWidget) :
    (w.live = true ∧ w.isOpened = true ∧ (populateFeatures w).editors = []) ∨
      ((w.live = false ∨ w.isOpened = false) ∧ populateFeatures w = w) := by
  unfold populateFeatures
  cases w.live with
  | false => exact .inr ⟨.inl rfl, rfl⟩
  | true =>
    cases w.isOpened with
    | false => exact .inr ⟨.inr rfl, rfl⟩
    | true => exact .inl ⟨rfl, rfl, rfl⟩

theorem locked_populateFeatures (h : w.Locked) : (populateFeatures w).Locked := by
  rcases populateFeatures_cases w with ⟨-, -, hnil⟩ | ⟨-, hsame⟩
  · exact Controls.locked_of_nil hnil
  · rw [hsame]
    exact h

theorem locked_updateFeatureValues (h : w.Locked) : (updateFeatureValues w).Locked := by
  unfold updateFeatureValues
  split
  · exact h
  split
  · exact h
  · exact (locked_disableControls w).of_same rfl rfl rfl

/-! ## The handlers -/

theorem isOpened_live (hs : w.shuttingDown = false) (ho : w.isOpened = true) : w.live = true := by
  rw [QGocatorWidget.isOpened, Bool.and_eq_true] at ho
  rw [QGocatorWidget.live, ho.1, hs]
  rfl

/-- The tree is built anew if the Gocator is open, and turned on if it is not. -/
theorem locked_populate_running_iff (hs : w.shuttingDown = false) :
    (populateFeatures (setRunningState w false)).Locked ↔ (w.isOpened = false → FreesNone w) := by
  have hopened : (setRunningState w false).isOpened = w.isOpened := rfl
  have hrun : (setRunningState w false).Locked ↔ FreesNone w := by
    rw [locked_setRunningState_iff]
    exact ⟨fun hfree => hfree rfl, fun hfree _ => hfree⟩
  rcases populateFeatures_cases (setRunningState w false) with ⟨-, ho, hnil⟩ | ⟨hclosed, hsame⟩
  · refine iff_of_true (Controls.locked_of_nil hnil) fun ho' => ?_
    rw [hopened, ho'] at ho
    cases ho
  · have ho : w.isOpened = false := by
      rcases hclosed with hl | ho
      · rw [← Bool.not_eq_true]
        intro ho
        have hl' : w.live = false := hl
        rw [isOpened_live hs ho] at hl'
        cases hl'
      · exact ho
    rw [hsame, hrun]
    exact ⟨fun hfree _ => hfree, fun hfree => hfree ho⟩

theorem locked_connected_iff (h : w.Locked) :
    (applyConnectionState w true).Locked ↔ (w.shuttingDown = false → w.isOpened = false → FreesNone w) := by
  cases hs : w.shuttingDown with
  | true =>
    have hsame : applyConnectionState w true = w := by
      unfold applyConnectionState
      rw [if_pos hs]
    rw [hsame]
    exact iff_of_true h fun hs' => absurd hs' (by decide)
  | false =>
    have heq : applyConnectionState w true = populateFeatures (setRunningState { w with
        ipCombo := !true, toolRefresh := !true, toolConnect := true, toolGrabOne := true, toolGrabLive := true }
        false) := by
      unfold applyConnectionState
      rw [if_neg (by rw [hs]; decide)]
      rfl
    rw [heq]
    refine (locked_populate_running_iff (w := { w with
      ipCombo := !true, toolRefresh := !true, toolConnect := true, toolGrabOne := true, toolGrabLive := true })
        hs).trans ?_
    exact ⟨fun hfree _ => hfree, fun hfree => hfree rfl⟩

theorem locked_disconnected (h : w.Locked) : (applyConnectionState w false).Locked := by
  unfold applyConnectionState
  split
  · exact h
  · exact Controls.locked_of_nil rfl

theorem locked_handleStatusChanged_grabbing {on : Bool} (h : w.Locked) :
    (handleStatusChanged w .grabbing on).Locked := by
  unfold handleStatusChanged
  split
  · exact h
  · have hrun : (setRunningState { w with released := true, grabbing := on } on).Locked :=
      locked_setRunningState_grabbing (w := { w with released := true, grabbing := on })
    have hread : (diagnosticRead (setRunningState { w with released := true, grabbing := on } on) on).Locked := by
      unfold diagnosticRead
      split
      · exact locked_updateFeatureValues hrun
      · exact hrun
    exact hread.of_same rfl rfl rfl

theorem locked_handleStatusChanged_connection_iff {on : Bool} (h : w.Locked) :
    (handleStatusChanged w .connection on).Locked ↔ KeepsLock w (.widget (.statusChanged .connection on)) := by
  unfold handleStatusChanged
  split
  · rename_i hs
    refine iff_of_true h ?_
    cases on with
    | true =>
      intro hs'
      rw [hs] at hs'
      cases hs'
    | false => exact trivial
  · have h' : { w with released := true }.Locked := h.of_same rfl rfl rfl
    have hchecked : ∀ w₁ : QGocatorWidget, { w₁ with connectChecked := on }.Locked ↔ w₁.Locked :=
      fun w₁ => Controls.locked_congr rfl rfl rfl
    refine (hchecked (applyConnectionState { w with released := true } on)).trans ?_
    cases on with
    | true => exact locked_connected_iff h'
    | false => exact iff_of_true (locked_disconnected h') trivial

/-- The finished signal of a connect task, with the watcher idle again. -/
theorem locked_connectFinished_iff {success : Bool} (h : w.Locked) :
    (connectFinished w success).Locked ↔
      (success = true → w.shuttingDown = false → w.isOpened = false → FreesNone w) := by
  unfold connectFinished
  split
  · rename_i hs
    refine iff_of_true h fun _ hs' => ?_
    rw [hs] at hs'
    cases hs'
  cases success with
  | true =>
    have h' : (setConnectionOperationActive w false).Locked := h.of_same rfl rfl rfl
    exact (locked_connected_iff h').trans ⟨fun hfree _ => hfree, fun hfree => hfree rfl⟩
  | false =>
    have h' : { setConnectionOperationActive w false with connectChecked := false }.Locked := h.of_same rfl rfl rfl
    exact iff_of_true (locked_disconnected h') fun heq => absurd heq Bool.false_ne_true

theorem locked_onParameterChanged {isNull : Bool} (h : w.Locked) : (onParameterChanged w isNull).Locked := by
  unfold onParameterChanged
  split
  · exact h
  · exact (locked_disableControls { w with parameterUpdateActive := true }).of_same rfl rfl rfl

theorem locked_paramFinished (h : w.Locked) : (paramFinished w).Locked := by
  unfold paramFinished
  split
  · exact h
  · exact locked_updateFeatureValues
      (locked_setRunningState_grabbing
        (w := setConnectionOperationActive { w with parameterUpdateActive := false } false))

theorem locked_featureDataFinished (h : w.Locked) : (featureDataFinished w).Locked := by
  unfold featureDataFinished
  split
  · exact h
  · exact locked_setRunningState_grabbing (w := setConnectionOperationActive w false)

/-- The editors that are built are off exactly where their schema says so. -/
theorem readOnlyOff_featuresPopulated (w : QGocatorWidget) (readOnly : List Bool) :
    (featuresPopulated w readOnly).ReadOnlyOff := by
  intro e he hr
  obtain ⟨r, -, rfl⟩ := List.mem_map.1 he
  have hr' : r = true := hr
  rw [hr']
  rfl

theorem locked_featuresPopulated_iff {readOnly : List Bool} :
    (featuresPopulated w readOnly).Locked ↔ (w.Busy → ∀ r ∈ readOnly, r = true) := by
  constructor
  · intro h hbusy r hr
    have hoff := h.busy hbusy _ (List.mem_map.2 ⟨r, hr, rfl⟩)
    simpa using hoff
  · intro h
    constructor
    · exact readOnlyOff_featuresPopulated w readOnly
    · intro hbusy e he
      obtain ⟨r, hr, rfl⟩ := List.mem_map.1 he
      rw [h hbusy r hr]
      rfl

end

/-! ## Steps -/

section

variable {w w' : QGocatorWidget}

/-- The thread pool does not touch the controls. -/
theorem poolStep_controls {a : Action} (hstep : poolStep w a = some w') : w'.toControls = w.toControls := by
  cases a with
  | openedChanges opened => cases hstep; rfl
  | debugChanges debug => cases hstep; rfl
  | connectReturns _ | strayReturns _ | discoverReturns | paramReturns | featureDataReturns =>
    simp only [poolStep] at hstep
    split at hstep
    · cases hstep; rfl
    · cases hstep
  | _ => cases hstep

theorem keepsLock_poolStep {a : Action} (hstep : poolStep w a = some w') : KeepsLock w (.widget a) := by
  cases a with
  | openedChanges _ | debugChanges _ | connectReturns _ | strayReturns _ | discoverReturns | paramReturns
  | featureDataReturns => exact trivial
  | _ => cases hstep

/-- The events whose handlers set neither the editors nor the flags. -/
def Action.leavesEditors : Action → Bool
  | .connectToggled | .grabOneClicked | .grabLiveToggled | .refreshClicked | .discoverFinished | .prepareForShutdown =>
    true
  | _ => false

theorem guiStep_editors {a : Action} (ha : a.leavesEditors = true) (hstep : guiStep w a = some w') :
    w'.editors = w.editors ∧ w'.grabbing = w.grabbing ∧ w'.parameterUpdateActive = w.parameterUpdateActive := by
  cases a with
  | connectToggled =>
    simp only [guiStep] at hstep
    split at hstep <;> cases hstep
    unfold onConnectToggled
    split <;> exact ⟨rfl, rfl, rfl⟩
  | grabOneClicked =>
    simp only [guiStep] at hstep
    split at hstep <;> cases hstep
    unfold onGrabOneClicked
    split <;> exact ⟨rfl, rfl, rfl⟩
  | grabLiveToggled =>
    simp only [guiStep] at hstep
    split at hstep <;> cases hstep
    unfold onGrabLiveToggled
    split <;> exact ⟨rfl, rfl, rfl⟩
  | refreshClicked =>
    simp only [guiStep] at hstep
    split at hstep <;> cases hstep
    unfold onRefreshClicked
    split
    · exact ⟨rfl, rfl, rfl⟩
    split <;> exact ⟨rfl, rfl, rfl⟩
  | discoverFinished =>
    simp only [guiStep] at hstep
    split at hstep <;> cases hstep
    unfold discoverFinished
    split <;> exact ⟨rfl, rfl, rfl⟩
  | prepareForShutdown =>
    cases hstep
    exact ⟨rfl, rfl, rfl⟩
  | _ => cases ha

theorem locked_guiStep_iff {a : Action} (h : w.Locked) (hstep : guiStep w a = some w') :
    w'.Locked ↔ KeepsLock w (.widget a) := by
  cases a with
  | connectToggled | grabOneClicked | grabLiveToggled | refreshClicked | discoverFinished | prepareForShutdown =>
    obtain ⟨he, hg, hp⟩ := guiStep_editors rfl hstep
    exact iff_of_true (h.of_same he hg hp) trivial
  | edited i isNull =>
    simp only [guiStep] at hstep
    split at hstep <;> cases hstep
    exact iff_of_true (locked_onParameterChanged h) trivial
  | statusChanged status on =>
    cases hstep
    cases status with
    | grabbing => exact iff_of_true (locked_handleStatusChanged_grabbing h) trivial
    | connection => exact locked_handleStatusChanged_connection_iff h
  | connectFinished =>
    simp only [guiStep] at hstep
    split at hstep
    · rename_i success hended
      cases hstep
      have h' : { w with connectWatcher := .idle, released := true }.Locked := h.of_same rfl rfl rfl
      refine (locked_connectFinished_iff h').trans ?_
      unfold KeepsLock
      rw [hended]
      exact ⟨fun hfree heq => hfree (Watcher.ended.inj heq), fun hfree heq => hfree (congrArg _ heq)⟩
    · cases hstep
  | paramFinished =>
    simp only [guiStep] at hstep
    split at hstep <;> cases hstep
    exact iff_of_true (locked_paramFinished (h.of_same rfl rfl rfl)) trivial
  | featureDataFinished =>
    simp only [guiStep] at hstep
    split at hstep <;> cases hstep
    exact iff_of_true (locked_featureDataFinished (h.of_same rfl rfl rfl)) trivial
  | _ => cases hstep

theorem locked_step_iff {a : Action} {evs : List Unit} (h : w.Locked) (hstep : step w a = some (w', evs)) :
    w'.Locked ↔ KeepsLock w (.widget a) := by
  rcases step_cases hstep with hp | ⟨-, hg⟩ | ⟨readOnly, rfl, hs⟩
  · rw [poolStep_controls hp]
    exact iff_of_true h (keepsLock_poolStep hp)
  · exact locked_guiStep_iff h hg
  · cases hsync : w.sync with
    | none =>
      simp only [step, hsync] at hstep
      cases hstep
    | some call =>
      unfold KeepsLock
      rw [hsync]
      cases call with
      | populateFeatures =>
        simp only [step, hsync] at hstep
        cases hstep
        rw [locked_featuresPopulated_iff]
        exact ⟨fun hok _ => hok, fun hok => hok rfl⟩
      | configureAndGrab | stop =>
        simp only [step, hsync] at hstep
        cases hstep
        exact iff_of_true (h.of_same rfl rfl rfl) fun heq => by cases heq

theorem locked_hostStep_iff {a : HostAction} {evs : List Unit} (h : w.Locked)
    (hstep : hostStep w a = some (w', evs)) : w'.Locked ↔ KeepsLock w a := by
  cases a with
  | widget a => exact locked_step_iff h hstep
  | setParameter =>
    simp only [hostStep] at hstep
    split at hstep <;> cases hstep
    exact iff_of_true (locked_populateFeatures h) trivial
  | setRunningState running =>
    simp only [hostStep] at hstep
    split at hstep <;> cases hstep
    rw [locked_setRunningState_iff]
    cases running with
    | true => exact iff_of_true (fun heq => by cases heq) trivial
    | false => exact ⟨fun hfree => hfree rfl, fun hfree _ => hfree⟩

end

/-! ## Read-only editors -/

section

variable {w w' : QGocatorWidget}

theorem readOnlyOff_populateFeatures (h : w.ReadOnlyOff) : (populateFeatures w).ReadOnlyOff := by
  rcases populateFeatures_cases w with ⟨-, -, hnil⟩ | ⟨-, hsame⟩
  · exact (Controls.locked_of_nil hnil).readOnly
  · rw [hsame]
    exact h

theorem readOnlyOff_updateFeatureValues (h : w.ReadOnlyOff) : (updateFeatureValues w).ReadOnlyOff := by
  unfold updateFeatureValues
  split
  · exact h
  split
  · exact h
  · exact readOnlyOff_setFeatureEditorsEnabled _ false

theorem readOnlyOff_applyConnectionState {opened : Bool} (h : w.ReadOnlyOff) :
    (applyConnectionState w opened).ReadOnlyOff := by
  unfold applyConnectionState
  split
  · exact h
  dsimp only
  split
  · exact readOnlyOff_populateFeatures (readOnlyOff_setFeatureEditorsEnabled _ _)
  · exact (Controls.locked_of_nil rfl).readOnly

theorem readOnlyOff_handleStatusChanged {status : Status} {on : Bool} (h : w.ReadOnlyOff) :
    (handleStatusChanged w status on).ReadOnlyOff := by
  unfold handleStatusChanged
  split
  · exact h
  cases status with
  | grabbing =>
    have hrun : (setRunningState { w with released := true, grabbing := on } on).ReadOnlyOff :=
      readOnlyOff_setFeatureEditorsEnabled _ _
    show (diagnosticRead (setRunningState { w with released := true, grabbing := on } on) on).ReadOnlyOff
    unfold diagnosticRead
    split
    · exact readOnlyOff_updateFeatureValues hrun
    · exact hrun
  | connection =>
    have h' : (applyConnectionState { w with released := true } on).ReadOnlyOff := readOnlyOff_applyConnectionState h
    exact h'

theorem readOnlyOff_onParameterChanged {isNull : Bool} (h : w.ReadOnlyOff) :
    (onParameterChanged w isNull).ReadOnlyOff := by
  unfold onParameterChanged
  split
  · exact h
  · exact readOnlyOff_setFeatureEditorsEnabled _ false

theorem readOnlyOff_connectFinished {success : Bool} (h : w.ReadOnlyOff) :
    (connectFinished w success).ReadOnlyOff := by
  have h' : (setConnectionOperationActive w false).ReadOnlyOff := h
  unfold connectFinished
  split
  · exact h
  split
  · exact readOnlyOff_applyConnectionState h'
  · have h'' : { setConnectionOperationActive w false with connectChecked := false }.ReadOnlyOff := h
    exact readOnlyOff_applyConnectionState h''

theorem readOnlyOff_guiStep {a : Action} (h : w.ReadOnlyOff) (hstep : guiStep w a = some w') : w'.ReadOnlyOff := by
  cases a with
  | connectToggled | grabOneClicked | grabLiveToggled | refreshClicked | discoverFinished | prepareForShutdown =>
    rw [Controls.ReadOnlyOff, (guiStep_editors rfl hstep).1]
    exact h
  | edited i isNull =>
    simp only [guiStep] at hstep
    split at hstep <;> cases hstep
    exact readOnlyOff_onParameterChanged h
  | statusChanged status on => cases hstep; exact readOnlyOff_handleStatusChanged h
  | connectFinished =>
    simp only [guiStep] at hstep
    split at hstep <;> cases hstep
    exact readOnlyOff_connectFinished (w := { w with connectWatcher := .idle, released := true }) h
  | paramFinished =>
    simp only [guiStep] at hstep
    split at hstep <;> cases hstep
    unfold paramFinished
    split
    · exact h
    · exact readOnlyOff_updateFeatureValues (readOnlyOff_setFeatureEditorsEnabled _ _)
  | featureDataFinished =>
    simp only [guiStep] at hstep
    split at hstep <;> cases hstep
    unfold featureDataFinished
    split
    · exact h
    · exact readOnlyOff_setFeatureEditorsEnabled _ _
  | _ => cases hstep

theorem readOnlyOff_hostStep {a : HostAction} {evs : List Unit} (h : w.ReadOnlyOff)
    (hstep : hostStep w a = some (w', evs)) : w'.ReadOnlyOff := by
  cases a with
  | widget a =>
    rcases step_cases hstep with hp | ⟨-, hg⟩ | ⟨readOnly, -, ⟨-, rfl⟩ | rfl⟩
    · rw [Controls.ReadOnlyOff, poolStep_controls hp]
      exact h
    · exact readOnlyOff_guiStep h hg
    · exact readOnlyOff_featuresPopulated _ readOnly
    · exact h
  | setParameter =>
    simp only [hostStep] at hstep
    split at hstep <;> cases hstep
    exact readOnlyOff_populateFeatures h
  | setRunningState running =>
    simp only [hostStep] at hstep
    split at hstep <;> cases hstep
    exact readOnlyOff_setFeatureEditorsEnabled _ _

end

/-! ## Every run -/

theorem locked_construct (gocator opened grabbing debug : Bool) :
    (construct gocator opened grabbing debug).Locked := by
  apply Controls.locked_of_nil
  unfold construct
  cases gocator with
  | false => rfl
  | true => cases opened <;> rfl

/-- In no state is a read-only editor enabled. In every state reached by steps that meet the condition the editors
are locked, and the next step keeps this exactly when it meets the condition. -/
theorem locked_iff_keepsLock {gocator opened grabbing debug : Bool} {tr : List Unit} {w : QGocatorWidget} :
    (Run hostStep anyStep (construct gocator opened grabbing debug) tr w → w.ReadOnlyOff) ∧
    (Run hostStep KeepsLock (construct gocator opened grabbing debug) tr w →
      w.Locked ∧ ∀ a w' evs, hostStep w a = some (w', evs) → (w'.Locked ↔ KeepsLock w a)) := by
  have hstart := locked_construct gocator opened grabbing debug
  constructor
  · intro h
    exact h.invariant (I := fun _ w => w.ReadOnlyOff) hstart.readOnly fun _ _ _ _ _ hI _ hstep =>
      readOnlyOff_hostStep hI hstep
  · intro h
    have hlocked : w.Locked := h.invariant (I := fun _ w => w.Locked) hstart fun _ _ _ _ _ hI hok hstep =>
      (locked_hostStep_iff hI hstep).2 hok
    exact ⟨hlocked, fun a w' evs hstep => locked_hostStep_iff hlocked hstep⟩

/-- The widget connects, shows a read-only and another editor, sets a parameter, reads the resources back and
grabs. -/
theorem locked_session :
    ∃ tr w, Run hostStep KeepsLock (construct true false false false) tr w ∧ w.grabbing = true ∧ w.Locked ∧
      ∀ a w' evs, hostStep w a = some (w', evs) → (w'.Locked ↔ KeepsLock w a) := by
  obtain ⟨tr, w, h, hg⟩ : ∃ tr w, Run hostStep KeepsLock (construct true false false false) tr w ∧
      w.grabbing = true :=
    ⟨_, _, exec_get hostStep KeepsLock [.widget .connectToggled, .widget (.openedChanges true),
      .widget (.connectReturns true), .widget .connectFinished, .widget (.syncReturns [true, false]),
      .widget (.edited 1 false), .widget .paramReturns, .widget .paramFinished, .widget .featureDataReturns,
      .widget .featureDataFinished, .widget .grabLiveToggled, .widget (.syncReturns []),
      .widget (.statusChanged .grabbing true)] (construct true false false false) rfl, by decide⟩
  exact ⟨tr, w, h, hg, locked_iff_keepsLock.2 h⟩

/-- A widget over a Gocator that already grabs builds its editors on. -/
theorem grabbing_construct_unlocked : ¬ ∀ (gocator opened grabbing debug : Bool) (tr : List Unit)
    (w : QGocatorWidget), Run hostStep anyStep (construct gocator opened grabbing debug) tr w → w.Locked := by
  intro h
  have hlocked := h true true true false _ _ (exec_get hostStep anyStep [.widget (.syncReturns [false])]
    (construct true true true false) rfl)
  have hoff := hlocked.busy (.inl rfl) ⟨false, true⟩ (by decide)
  cases hoff

end Gocator.Widget
