/-
At most one operation of the widget is under way on the Gocator. A parameter update and a read turn
every control off, a connect task turns off the connect button only, and the handlers of notifications
and finished signals turn controls on whatever else is running. The condition on the steps names the
events that come through such a control and the reads started beside another task; a step breaks the
property exactly when it breaks the condition.
-/
import Gocator.Widget.State

namespace Gocator.Widget

open Gocator.Facade Transition

/-! ## The property -/

/-- The operations of the widget on the Gocator. -/
inductive Operation where
  | connection (task : ConnectTask)
  | setParameterValue
  | getParametersData
  | command (call : SyncCall)
deriving DecidableEq, Repr

/-- The call the grab buttons make; the reads of `populateFeatures` are not theirs. -/
def Tasks.command (t : Tasks) : Option SyncCall :=
  t.sync.filter (· ≠ .populateFeatures)

/-- The operations in progress. -/
def Tasks.operations (t : Tasks) : List Operation :=
  (t.connectWatcher.task.toList ++ t.stray).map .connection ++
    t.paramWatcher.task.toList.map (fun _ => .setParameterValue) ++
    t.featureDataWatcher.task.toList.map (fun _ => .getParametersData) ++ t.command.toList.map .command

/-- At most one operation is in progress, and while it is a close task the GUI thread makes no call
either, the reads of `populateFeatures` included. -/
def Tasks.Exclusive (t : Tasks) : Prop :=
  t.operations.length ≤ 1 ∧ (.connection .close ∈ t.operations → t.sync = none)

instance (t : Tasks) : Decidable t.Exclusive := inferInstanceAs (Decidable (_ ∧ _))

/-- What the controls do not keep out. While a task runs, no user event starts anything once a handler
has turned controls on since the task was started; while a connect task runs, there is no grab and no
edit; a notification and the end of a parameter update start no read beside a task they are not part
of, nor `populateFeatures` while the connection is being closed. -/
def Undisturbed (w : QGocatorWidget) : Action → Prop
  | .connectToggled => w.live = true → w.running = true → w.released = false
  | .grabOneClicked | .grabLiveToggled =>
    w.live = true → w.connectWatcher.isRunning = false ∧ (w.running = true → w.released = false)
  | .edited _ false =>
    w.updatingFeatures = false → w.live = true → w.paramWatcher.isRunning = false →
      w.connectWatcher.isRunning = false ∧ (w.running = true → w.released = false)
  | .statusChanged .grabbing false =>
    w.live = true → w.isOpened = true → w.debug = true →
      w.connectWatcher.isRunning = false ∧ w.paramWatcher.isRunning = false
  | .statusChanged .connection true => w.live = true → w.isOpened = true → w.connectWatcher ≠ .running .close
  | .paramFinished => w.live = true → w.isOpened = true → w.connectWatcher.isRunning = false
  | _ => True

instance (w : QGocatorWidget) (a : Action) : Decidable (Undisturbed w a) := by
  unfold Undisturbed
  split <;> infer_instance

/-! ## The invariant -/

/-- At most one task runs; a call of the grab buttons is alone; the reads of `populateFeatures` come
after their handler has turned controls on, and never during a close. -/
structure Alone (t : Tasks) : Prop where
  stray : t.stray = []
  connect : t.connectWatcher.isRunning = true →
    t.paramWatcher.isRunning = false ∧ t.featureDataWatcher.isRunning = false
  param : t.paramWatcher.isRunning = true → t.featureDataWatcher.isRunning = false
  command : t.command.isSome = true → t.running = false
  populate : t.sync = some .populateFeatures → t.connectWatcher ≠ .running .close ∧ t.released = true

/-- What is off while a task runs and no handler has turned controls on since it was started. -/
structure Held (w : QGocatorWidget) : Prop where
  connect : w.running = true → w.released = false → w.toolConnect = false
  grab : w.paramWatcher.isRunning = true ∨ w.featureDataWatcher.isRunning = true → w.released = false →
    w.toolGrabOne = false ∧ w.toolGrabLive = false
  editors : w.paramWatcher.isRunning = true ∨ w.featureDataWatcher.isRunning = true → w.released = false →
    ∀ e ∈ w.editors, e.enabled = false

/-- What runs on the Gocator runs alone, with the controls off that could start more. -/
structure Inv (w : QGocatorWidget) : Prop where
  alone : Alone w.toTasks
  held : Held w

theorem Tasks.running_eq_false {t : Tasks} : t.running = false ↔ t.connectWatcher.isRunning = false ∧
    t.paramWatcher.isRunning = false ∧ t.featureDataWatcher.isRunning = false := by
  simp [Tasks.running, and_assoc]

theorem Tasks.command_eq_none {t : Tasks} (h : t.command = none) :
    t.sync = none ∨ t.sync = some .populateFeatures := by
  unfold Tasks.command at h
  cases hs : t.sync with
  | none => exact .inl rfl
  | some c =>
    cases c with
    | populateFeatures => exact .inr rfl
    | _ => rw [hs] at h; cases h

theorem Alone.of_featureData {t : Tasks} (h : Alone t) (hf : t.featureDataWatcher.isRunning = true) :
    t.connectWatcher.isRunning = false ∧ t.paramWatcher.isRunning = false := by
  constructor
  · rw [← Bool.not_eq_true]
    intro hc
    rw [(h.connect hc).2] at hf
    cases hf
  · rw [← Bool.not_eq_true]
    intro hp
    rw [h.param hp] at hf
    cases hf

theorem Alone.command_eq_none {t : Tasks} (h : Alone t) (hb : t.running = true) : t.command = none := by
  rw [← Option.not_isSome_iff_eq_none]
  intro hs
  rw [h.command hs] at hb
  cases hb

theorem Tasks.length_operations (t : Tasks) : t.operations.length =
    t.connectWatcher.task.toList.length + t.stray.length + t.paramWatcher.task.toList.length +
      t.featureDataWatcher.task.toList.length + t.command.toList.length := by
  simp only [Tasks.operations, List.length_append, List.length_map]

/-- A task that runs is the only operation. -/
theorem Alone.operations_le {t : Tasks} (h : Alone t) : t.operations.length ≤ 1 := by
  rw [Tasks.length_operations, h.stray]
  cases hb : t.running with
  | false =>
    obtain ⟨hc, hp, hf⟩ := Tasks.running_eq_false.1 hb
    rw [Watcher.task_eq_none hc, Watcher.task_eq_none hp, Watcher.task_eq_none hf]
    simp
  | true =>
    rw [h.command_eq_none hb]
    cases hc : t.connectWatcher.isRunning with
    | true =>
      obtain ⟨hp, hf⟩ := h.connect hc
      rw [Watcher.task_eq_none hp, Watcher.task_eq_none hf]
      simp
    | false =>
      rw [Watcher.task_eq_none hc]
      cases hp : t.paramWatcher.isRunning with
      | true => rw [Watcher.task_eq_none (h.param hp)]; simp
      | false => rw [Watcher.task_eq_none hp]; simp

theorem Alone.close_sync {t : Tasks} (h : Alone t) (hc : .connection .close ∈ t.operations) : t.sync = none := by
  have hrun : t.connectWatcher = .running .close := by
    simp only [Tasks.operations, h.stray, List.append_nil, List.mem_append, List.mem_map, Option.mem_toList,
      Operation.connection.injEq, exists_eq_right, reduceCtorEq, and_false, exists_false, or_false] at hc
    cases hw : t.connectWatcher with
    | running task => rw [hw] at hc; cases hc; rfl
    | _ => rw [hw] at hc; cases hc
  have hb : t.running = true := by rw [Tasks.running, hrun]; rfl
  rcases Tasks.command_eq_none (h.command_eq_none hb) with hs | hs
  · exact hs
  · exact absurd hrun (h.populate hs).1

theorem Alone.exclusive {t : Tasks} (h : Alone t) : t.Exclusive := ⟨h.operations_le, h.close_sync⟩

/-! ## States in which the invariant is immediate -/

/-- The GUI thread makes no call: only the tasks matter. -/
theorem Alone.of_free {t : Tasks} (hst : t.stray = []) (hsy : t.sync = none)
    (hc : t.connectWatcher.isRunning = true →
      t.paramWatcher.isRunning = false ∧ t.featureDataWatcher.isRunning = false)
    (hp : t.paramWatcher.isRunning = true → t.featureDataWatcher.isRunning = false) : Alone t := by
  refine ⟨hst, hc, hp, fun hcmd => ?_, fun hpop => ?_⟩
  · rw [Tasks.command, hsy] at hcmd
    cases hcmd
  · rw [hsy] at hpop
    cases hpop

/-- The reads of `populateFeatures`, outside a close. -/
theorem Alone.populating {t : Tasks} (h : Alone t) (hr : t.released = true) (hc : t.connectWatcher ≠ .running .close) :
    Alone { t with sync := some .populateFeatures } := by
  refine ⟨h.stray, h.connect, h.param, fun hcmd => ?_, fun _ => ⟨hc, hr⟩⟩
  cases hcmd

section

variable {w : QGocatorWidget}

theorem Held.of_released (h : w.released = true) : Held w := by
  constructor
  · intro _ hn; rw [h] at hn; cases hn
  · intro _ hn; rw [h] at hn; cases hn
  · intro _ hn; rw [h] at hn; cases hn

/-- The controls a parameter update or a read leaves on: none. -/
def Controls.AllOff (c : Controls) : Prop :=
  c.toolConnect = false ∧ c.toolGrabOne = false ∧ c.toolGrabLive = false ∧ ∀ e ∈ c.editors, e.enabled = false

theorem disableControls_off (w : QGocatorWidget) : (disableControls w).toControls.AllOff := by
  refine ⟨rfl, rfl, rfl, fun e he => ?_⟩
  obtain ⟨e', -, rfl⟩ := List.mem_map.1 he
  rfl

theorem Controls.AllOff.held (h : w.toControls.AllOff) : Held w := by
  obtain ⟨hc, h1, h2, he⟩ := h
  exact ⟨fun _ _ => hc, fun _ _ => ⟨h1, h2⟩, fun _ _ => he⟩

/-- A step that keeps the controls, the synchronous call and the tasks that still run keeps the
invariant. -/
theorem Inv.of_same {w' : QGocatorWidget} (h : Inv w) (hctl : w'.toControls = w.toControls)
    (hst : w'.stray = w.stray) (hsy : w'.sync = w.sync) (hr : w'.released = w.released)
    (hc : w'.connectWatcher.isRunning = true → w'.connectWatcher = w.connectWatcher)
    (hp : w'.paramWatcher.isRunning = true → w'.paramWatcher = w.paramWatcher)
    (hf : w'.featureDataWatcher.isRunning = true → w'.featureDataWatcher = w.featureDataWatcher) : Inv w' := by
  have hc' : w'.connectWatcher.isRunning = true → w.connectWatcher.isRunning = true := fun h => hc h ▸ h
  have hp' : w'.paramWatcher.isRunning = true → w.paramWatcher.isRunning = true := fun h => hp h ▸ h
  have hf' : w'.featureDataWatcher.isRunning = true → w.featureDataWatcher.isRunning = true := fun h => hf h ▸ h
  have hrun : w'.running = true → w.running = true := by
    simp only [Tasks.running, Bool.or_eq_true]
    rintro ((h | h) | h)
    · exact .inl (.inl (hc' h))
    · exact .inl (.inr (hp' h))
    · exact .inr (hf' h)
  have hpf : w'.paramWatcher.isRunning = true ∨ w'.featureDataWatcher.isRunning = true →
      w.paramWatcher.isRunning = true ∨ w.featureDataWatcher.isRunning = true := Or.imp hp' hf'
  refine ⟨⟨?_, ?_, ?_, ?_, ?_⟩, ?_, ?_, ?_⟩
  · rw [hst]; exact h.alone.stray
  · intro hb
    obtain ⟨hnp, hnf⟩ := h.alone.connect (hc' hb)
    exact ⟨Bool.of_not_eq_true (mt hp' (by rw [hnp]; decide)),
      Bool.of_not_eq_true (mt hf' (by rw [hnf]; decide))⟩
  · intro hb
    exact Bool.of_not_eq_true (mt hf' (by rw [h.alone.param (hp' hb)]; decide))
  · rw [Tasks.command, hsy]
    intro hcmd
    exact Bool.of_not_eq_true (mt hrun (by rw [h.alone.command hcmd]; decide))
  · rw [hsy, hr]
    intro hpop
    obtain ⟨hne, hrel⟩ := h.alone.populate hpop
    refine ⟨fun hclose => hne ?_, hrel⟩
    rw [← hc (by rw [hclose]; rfl)]
    exact hclose
  · rw [hr, hctl]; exact fun hb => h.held.connect (hrun hb)
  · rw [hr, hctl]; exact fun hb => h.held.grab (hpf hb)
  · rw [hr, hctl]; exact fun hb => h.held.editors (hpf hb)

/-! ## The handlers -/

theorem populateFeatures_opened {w : QGocatorWidget} (hl : w.live = true) (ho : w.isOpened = true) :
    (populateFeatures w).toTasks = { w.toTasks with sync := some .populateFeatures } := by
  unfold populateFeatures
  rw [hl, ho]
  rfl

theorem populateFeatures_toTasks (w : QGocatorWidget) : (populateFeatures w).toTasks = w.toTasks ∨
    (w.live = true ∧ w.isOpened = true ∧
      (populateFeatures w).toTasks = { w.toTasks with sync := some .populateFeatures }) := by
  cases hl : w.live with
  | false => exact .inl (by unfold populateFeatures; rw [hl]; rfl)
  | true =>
    cases ho : w.isOpened with
    | false => exact .inl (by unfold populateFeatures; rw [ho, Bool.not_false, Bool.or_true]; rfl)
    | true => exact .inr ⟨rfl, rfl, populateFeatures_opened hl ho⟩

/-- `applyConnectionState` starts nothing but the reads of `populateFeatures`. -/
theorem applyConnectionState_toTasks (w : QGocatorWidget) (opened : Bool) :
    (applyConnectionState w opened).toTasks = w.toTasks ∨
      (opened = true ∧ w.live = true ∧ w.isOpened = true ∧
        (applyConnectionState w opened).toTasks = { w.toTasks with sync := some .populateFeatures }) := by
  unfold applyConnectionState
  split
  · exact .inl rfl
  · cases opened with
    | false => exact .inl rfl
    | true =>
      rcases populateFeatures_toTasks (setRunningState { w with
        ipCombo := !true, toolRefresh := !true, toolConnect := true, toolGrabOne := true, toolGrabLive := true }
        false) with h | ⟨hl, ho, h⟩
      · exact .inl h
      · exact .inr ⟨rfl, hl, ho, h⟩

theorem inv_applyConnectionState {opened : Bool} (h : Alone w.toTasks) (hr : w.released = true)
    (hc : opened = true → w.live = true → w.isOpened = true → w.connectWatcher ≠ .running .close) :
    Inv (applyConnectionState w opened) := by
  have hrel : (applyConnectionState w opened).released = true := by
    rcases applyConnectionState_toTasks w opened with ht | ⟨-, -, -, ht⟩
    · rw [ht]; exact hr
    · rw [ht]; exact hr
  refine ⟨?_, .of_released hrel⟩
  rcases applyConnectionState_toTasks w opened with ht | ⟨ho, hl, hop, ht⟩
  · rw [ht]; exact h
  · rw [ht]; exact h.populating hr (hc ho hl hop)

theorem inv_connectFinished {success : Bool} (h : Alone w.toTasks) (hr : w.released = true)
    (hc : w.connectWatcher = .idle) : Inv (connectFinished w success) := by
  have hne : w.connectWatcher ≠ .running .close := by
    rw [hc]
    decide
  unfold connectFinished
  split
  · exact ⟨h, .of_released hr⟩
  · split
    · exact inv_applyConnectionState h hr fun _ _ _ => hne
    · exact inv_applyConnectionState h hr fun _ _ _ => hne

/-- A read starts only with neither a connect nor a parameter task running. -/
theorem inv_updateFeatureValues (h : Inv w) (hs : w.sync = none)
    (hidle : w.live = true → w.isOpened = true →
      w.connectWatcher.isRunning = false ∧ w.paramWatcher.isRunning = false) :
    Inv (updateFeatureValues w) := by
  unfold updateFeatureValues
  split
  · exact h
  · rename_i hl
    split
    · exact h
    · simp only [Bool.or_eq_true, Bool.not_eq_true', not_or, Bool.not_eq_false] at hl
      obtain ⟨hc, hp⟩ := hidle hl.1 hl.2
      have hc' : w.connectWatcher.isRunning ≠ true := by rw [hc]; decide
      have hp' : w.paramWatcher.isRunning ≠ true := by rw [hp]; decide
      have halone : Alone { w.toTasks with featureDataWatcher := .running (), released := false } :=
        .of_free h.alone.stray hs (fun hb => absurd hb hc') (fun hb => absurd hb hp')
      exact ⟨halone, Controls.AllOff.held (disableControls_off w)⟩

theorem inv_onParameterChanged {isNull : Bool} (h : Inv w) (hs : w.sync = none)
    (hidle : w.updatingFeatures = false → w.live = true → isNull = false → w.paramWatcher.isRunning = false →
      w.running = false) :
    Inv (onParameterChanged w isNull) := by
  unfold onParameterChanged
  split
  · exact h
  · rename_i hg
    simp only [Bool.or_eq_true, Bool.not_eq_true', not_or, Bool.not_eq_false, Bool.not_eq_true] at hg
    obtain ⟨⟨⟨hu, hl⟩, hn⟩, hr⟩ := hg
    obtain ⟨hc, -, hf⟩ := Tasks.running_eq_false.1 (hidle hu hl hn hr)
    have hc' : w.connectWatcher.isRunning ≠ true := by rw [hc]; decide
    have halone : Alone { w.toTasks with paramWatcher := .running (), released := false } :=
      .of_free h.alone.stray hs (fun hb => absurd hb hc') (fun _ => hf)
    exact ⟨halone, Controls.AllOff.held (disableControls_off { w with parameterUpdateActive := true })⟩

theorem inv_onConnectToggled {toggled : Bool} (h : Inv w) (hs : w.sync = none)
    (hidle : w.live = true → w.running = false) : Inv (onConnectToggled w toggled) := by
  unfold onConnectToggled
  split
  · exact h
  · rename_i hl
    rw [Bool.not_eq_true, Bool.not_eq_false'] at hl
    obtain ⟨hc, hp, hf⟩ := Tasks.running_eq_false.1 (hidle hl)
    have hst : w.stray ++ w.connectWatcher.task.toList = [] := by
      rw [h.alone.stray, Watcher.task_eq_none hc]
      rfl
    have halone : Alone { w.toTasks with
        stray := w.stray ++ w.connectWatcher.task.toList
        connectWatcher := .running (if toggled then .open else .close), released := false } :=
      .of_free hst hs (fun _ => ⟨hp, hf⟩) (fun _ => hf)
    have hno : ¬ (w.paramWatcher.isRunning = true ∨ w.featureDataWatcher.isRunning = true) := by
      rw [hp, hf]
      decide
    exact ⟨halone, fun _ _ => rfl, fun hb => absurd hb hno, fun hb => absurd hb hno⟩

theorem inv_command {c : SyncCall} (h : Inv w) (hb : w.live = true → w.running = false) (hc : c ≠ .populateFeatures) :
    Inv (if !w.live then w else { w with sync := some c }) := by
  split
  · exact h
  · rename_i hl
    rw [Bool.not_eq_true, Bool.not_eq_false'] at hl
    refine ⟨⟨h.alone.stray, h.alone.connect, h.alone.param, fun _ => hb hl, fun hpop => ?_⟩,
      h.held.connect, h.held.grab, h.held.editors⟩
    exact absurd (Option.some.inj hpop) hc

theorem inv_onRefreshClicked (h : Inv w) : Inv (onRefreshClicked w) := by
  unfold onRefreshClicked
  split
  · exact h
  · split
    · exact h
    · exact ⟨⟨h.alone.stray, h.alone.connect, h.alone.param, h.alone.command, h.alone.populate⟩,
        fun _ _ => rfl, h.held.grab, h.held.editors⟩

theorem inv_diagnosticRead {on : Bool} (h : Inv w) (hs : w.sync = none)
    (hidle : w.live = true → w.isOpened = true → on = false → w.debug = true →
      w.connectWatcher.isRunning = false ∧ w.paramWatcher.isRunning = false) : Inv (diagnosticRead w on) := by
  unfold diagnosticRead
  split
  · rename_i hr
    simp only [Bool.and_eq_true, Bool.not_eq_true'] at hr
    exact inv_updateFeatureValues h hs fun hl ho => hidle hl ho hr.1 hr.2
  · exact h

theorem Inv.checked {b c : Bool} (h : Inv w) : Inv { w with connectChecked := b, liveChecked := c } :=
  ⟨h.alone, h.held.connect, h.held.grab, h.held.editors⟩

theorem inv_handleStatusChanged {status : Status} {on : Bool} (h : Inv w) (hs : w.sync = none)
    (hok : Undisturbed w (.statusChanged status on)) : Inv (handleStatusChanged w status on) := by
  unfold handleStatusChanged
  split
  · exact h
  · have halone : Alone { w.toTasks with released := true } :=
      .of_free h.alone.stray hs h.alone.connect h.alone.param
    cases status with
    | grabbing =>
      have hrun : Inv (setRunningState { w with released := true, grabbing := on } on) :=
        ⟨halone, .of_released rfl⟩
      refine (inv_diagnosticRead hrun hs fun hl ho hoff hd => ?_).checked
      subst hoff
      exact hok hl ho hd
    | connection =>
      have happ : Inv (applyConnectionState { w with released := true } on) := by
        refine inv_applyConnectionState halone rfl fun hon hl ho => ?_
        subst hon
        exact hok hl ho
      exact happ.checked

theorem inv_paramFinished (h : Alone w.toTasks) (hs : w.sync = none) (hr : w.released = true)
    (hp : w.paramWatcher.isRunning = false)
    (hc : w.live = true → w.isOpened = true → w.connectWatcher.isRunning = false) : Inv (paramFinished w) := by
  unfold paramFinished
  split
  · exact ⟨h, .of_released hr⟩
  · have hrun : Inv (setRunningState (setConnectionOperationActive { w with parameterUpdateActive := false } false)
        w.grabbing) := ⟨h, .of_released hr⟩
    exact inv_updateFeatureValues hrun hs fun hl ho => ⟨hc hl ho, hp⟩

theorem inv_featureDataFinished (h : Alone w.toTasks) (hr : w.released = true) : Inv (featureDataFinished w) := by
  unfold featureDataFinished
  split
  · exact ⟨h, .of_released hr⟩
  · exact ⟨h, .of_released hr⟩

theorem inv_discoverFinished (h : Inv w) (hs : w.sync = none) : Inv (discoverFinished w) := by
  unfold discoverFinished
  split
  · exact h
  · exact ⟨.of_free h.alone.stray hs h.alone.connect h.alone.param, .of_released rfl⟩

/-! ## User events -/

theorem Inv.idle_of_connect (h : Inv w) (hon : w.toolConnect = true) (hn : w.running = true → w.released = false) :
    w.running = false := by
  rw [← Bool.not_eq_true]
  intro hb
  rw [h.held.connect hb (hn hb)] at hon
  cases hon

/-- A control that a parameter update and a read turn off is on. -/
def Controls.Open (c : Controls) : Prop :=
  c.toolGrabOne = true ∨ c.toolGrabLive = true ∨ ∃ e ∈ c.editors, e.enabled = true

theorem Inv.idle_of_open (h : Inv w) (hon : w.toControls.Open) (hc : w.connectWatcher.isRunning = false)
    (hn : w.running = true → w.released = false) : w.running = false := by
  rw [← Bool.not_eq_true]
  intro hb
  have hpf : w.paramWatcher.isRunning = true ∨ w.featureDataWatcher.isRunning = true := by
    simpa [Tasks.running, hc] using hb
  rcases hon with h1 | h1 | ⟨e, he, h1⟩
  · rw [(h.held.grab hpf (hn hb)).1] at h1; cases h1
  · rw [(h.held.grab hpf (hn hb)).2] at h1; cases h1
  · rw [h.held.editors hpf (hn hb) e he] at h1; cases h1

theorem editor_open {i : Nat} (h : w.editors[i]?.any (·.enabled) = true) : w.toControls.Open := by
  obtain ⟨e, he, hen⟩ := (Option.any_eq_true ..).1 h
  exact .inr (.inr ⟨e, List.mem_of_getElem? he, hen⟩)

end

/-! ## Steps -/

section

variable {w w' : QGocatorWidget} {a : Action}

theorem inv_poolStep (h : Inv w) (hstep : poolStep w a = some w') : Inv w' := by
  cases a with
  | connectReturns success =>
    simp only [poolStep] at hstep
    split at hstep
    · cases hstep; exact h.of_same rfl rfl rfl rfl Bool.noConfusion (fun _ => rfl) (fun _ => rfl)
    · cases hstep
  | strayReturns i =>
    simp only [poolStep, h.alone.stray, List.length_nil, Nat.not_lt_zero, if_false] at hstep
    cases hstep
  | discoverReturns =>
    simp only [poolStep] at hstep
    split at hstep
    · cases hstep; exact h.of_same rfl rfl rfl rfl (fun _ => rfl) (fun _ => rfl) (fun _ => rfl)
    · cases hstep
  | paramReturns =>
    simp only [poolStep] at hstep
    split at hstep
    · cases hstep; exact h.of_same rfl rfl rfl rfl (fun _ => rfl) Bool.noConfusion (fun _ => rfl)
    · cases hstep
  | featureDataReturns =>
    simp only [poolStep] at hstep
    split at hstep
    · cases hstep; exact h.of_same rfl rfl rfl rfl (fun _ => rfl) (fun _ => rfl) Bool.noConfusion
    · cases hstep
  | openedChanges opened =>
    cases hstep; exact h.of_same rfl rfl rfl rfl (fun _ => rfl) (fun _ => rfl) (fun _ => rfl)
  | debugChanges debug =>
    cases hstep; exact h.of_same rfl rfl rfl rfl (fun _ => rfl) (fun _ => rfl) (fun _ => rfl)
  | _ => cases hstep

theorem inv_guiStep (h : Inv w) (hs : w.sync = none) (hok : Undisturbed w a) (hstep : guiStep w a = some w') :
    Inv w' := by
  cases a with
  | connectToggled =>
    simp only [guiStep] at hstep
    split at hstep
    · rename_i hon
      cases hstep
      exact inv_onConnectToggled h.checked hs fun hl => h.idle_of_connect hon (hok hl)
    · cases hstep
  | grabOneClicked =>
    simp only [guiStep] at hstep
    split at hstep
    · rename_i hon
      cases hstep
      exact inv_command h (fun hl => h.idle_of_open (.inl hon) (hok hl).1 (hok hl).2) (by decide)
    · cases hstep
  | grabLiveToggled =>
    simp only [guiStep] at hstep
    split at hstep
    · rename_i hon
      cases hstep
      refine inv_command h.checked (fun hl => h.idle_of_open (.inr (.inl hon)) (hok hl).1 (hok hl).2) ?_
      split <;> decide
    · cases hstep
  | refreshClicked =>
    simp only [guiStep] at hstep
    split at hstep
    · cases hstep; exact inv_onRefreshClicked h
    · cases hstep
  | edited i isNull =>
    simp only [guiStep] at hstep
    split at hstep
    · rename_i hon
      cases hstep
      refine inv_onParameterChanged h hs fun hu hl hn hr => ?_
      subst hn
      exact h.idle_of_open (editor_open hon) (hok hu hl hr).1 (hok hu hl hr).2
    · cases hstep
  | statusChanged status on => cases hstep; exact inv_handleStatusChanged h hs hok
  | connectFinished =>
    simp only [guiStep] at hstep
    split at hstep
    · cases hstep
      have halone : Alone { w.toTasks with connectWatcher := .idle, released := true } :=
        .of_free h.alone.stray hs Bool.noConfusion h.alone.param
      exact inv_connectFinished halone rfl rfl
    · cases hstep
  | discoverFinished =>
    simp only [guiStep] at hstep
    split at hstep
    · cases hstep
      exact inv_discoverFinished (h.of_same rfl rfl rfl rfl (fun _ => rfl) (fun _ => rfl) (fun _ => rfl)) hs
    · cases hstep
  | paramFinished =>
    simp only [guiStep] at hstep
    split at hstep
    · cases hstep
      have halone : Alone { w.toTasks with paramWatcher := .idle, released := true } :=
        .of_free h.alone.stray hs (fun hc => ⟨rfl, (h.alone.connect hc).2⟩) Bool.noConfusion
      exact inv_paramFinished halone hs rfl rfl hok
    · cases hstep
  | featureDataFinished =>
    simp only [guiStep] at hstep
    split at hstep
    · cases hstep
      have halone : Alone { w.toTasks with featureDataWatcher := .idle, released := true } :=
        .of_free h.alone.stray hs (fun hc => ⟨(h.alone.connect hc).1, rfl⟩) fun _ => rfl
      exact inv_featureDataFinished halone rfl
    · cases hstep
  | prepareForShutdown =>
    cases hstep; exact h.of_same rfl rfl rfl rfl (fun _ => rfl) (fun _ => rfl) (fun _ => rfl)
  | _ => cases hstep

/-- `populateFeatures` turns the editors it builds on. -/
theorem inv_featuresPopulated {readOnly : List Bool} (h : Inv w) (hs : w.sync = some .populateFeatures) :
    Inv (featuresPopulated { w with sync := none } readOnly) := by
  have halone : Alone { w.toTasks with sync := none } := .of_free h.alone.stray rfl h.alone.connect h.alone.param
  exact ⟨halone, .of_released (h.alone.populate hs).2⟩

theorem inv_syncReturns (h : Inv w) : Inv { w with sync := none } :=
  ⟨.of_free h.alone.stray rfl h.alone.connect h.alone.param, h.held.connect, h.held.grab, h.held.editors⟩

theorem inv_step {evs : List Unit} (h : Inv w) (hok : Undisturbed w a) (hstep : step w a = some (w', evs)) :
    Inv w' := by
  rcases step_cases hstep with hp | ⟨hs, hg⟩ | ⟨readOnly, rfl, ⟨hs, rfl⟩ | rfl⟩
  · exact inv_poolStep h hp
  · exact inv_guiStep h hs hok hg
  · exact inv_featuresPopulated h hs
  · exact inv_syncReturns h

end

theorem inv_construct (gocator opened grabbing debug : Bool) : Inv (construct gocator opened grabbing debug) := by
  unfold construct
  have hfree : Alone {} := .of_free rfl rfl Bool.noConfusion Bool.noConfusion
  cases gocator with
  | false => exact ⟨hfree, .of_released rfl⟩
  | true =>
    have h : Inv (applyConnectionState { gocator := true, opened := opened, debug := debug } opened) :=
      inv_applyConnectionState hfree rfl fun _ _ _ => nofun
    exact ⟨h.alone, h.held.connect, h.held.grab, h.held.editors⟩

/-! ## A disturbed step -/

theorem Tasks.running_length {t : Tasks} (h : t.running = true) :
    1 ≤ t.connectWatcher.task.toList.length + t.paramWatcher.task.toList.length +
      t.featureDataWatcher.task.toList.length := by
  simp only [Tasks.running, Bool.or_eq_true] at h
  rcases h with (h | h) | h
  · have := Watcher.length_task h; omega
  · have := Watcher.length_task h; omega
  · have := Watcher.length_task h; omega

theorem Tasks.running_of_connect {t : Tasks} (h : t.connectWatcher.isRunning = true) : t.running = true := by
  rw [Tasks.running, h]
  rfl

/-- A second operation breaks the property. -/
theorem Tasks.not_exclusive {t : Tasks} (h : 2 ≤ t.operations.length) : ¬ t.Exclusive := by
  rintro ⟨hle, -⟩
  omega

/-- A grab or an edit that the condition leaves out finds a task running. -/
theorem Tasks.running_of_disturbed {t : Tasks}
    (h : ¬ (t.connectWatcher.isRunning = false ∧ (t.running = true → t.released = false))) : t.running = true := by
  rw [← Bool.not_eq_false]
  intro hr
  refine h ⟨(Tasks.running_eq_false.1 hr).1, fun hr' => ?_⟩
  rw [hr] at hr'
  cases hr'

section

variable {w w' : QGocatorWidget} {a : Action}

theorem not_exclusive_command {c : SyncCall} (hc : c ≠ .populateFeatures) (hr : w.running = true) :
    ¬ Tasks.Exclusive { w.toTasks with sync := some c } := by
  apply Tasks.not_exclusive
  have hlen := Tasks.running_length hr
  have hcmd : Tasks.command { w.toTasks with sync := some c } = some c := by simp [Tasks.command, hc]
  rw [Tasks.length_operations, hcmd]
  simp only [Option.toList_some, List.length_singleton]
  omega

theorem not_exclusive_grabOne (hl : w.live = true) (hr : w.running = true) : ¬ (onGrabOneClicked w).Exclusive := by
  unfold onGrabOneClicked
  rw [if_neg (by rw [hl]; decide)]
  exact not_exclusive_command (by decide) hr

theorem not_exclusive_grabLive {toggled b : Bool} (hl : w.live = true) (hr : w.running = true) :
    ¬ (onGrabLiveToggled { w with liveChecked := b } toggled).Exclusive := by
  unfold onGrabLiveToggled
  rw [if_neg (by show ¬ (!w.live) = true; rw [hl]; decide)]
  cases toggled with
  | true => exact not_exclusive_command (by decide) hr
  | false => exact not_exclusive_command (by decide) hr

/-- `setFuture` without an `isRunning` check: both tasks go on. -/
theorem not_exclusive_connect {toggled : Bool} (hl : w.live = true) (hr : w.running = true) :
    ¬ (onConnectToggled w toggled).Exclusive := by
  have hlen := Tasks.running_length hr
  have ht : (onConnectToggled w toggled).toTasks = { w.toTasks with
      stray := w.stray ++ w.connectWatcher.task.toList
      connectWatcher := .running (if toggled then .open else .close), released := false } := by
    unfold onConnectToggled
    rw [hl]
    rfl
  apply Tasks.not_exclusive
  rw [ht, Tasks.length_operations]
  simp only [List.length_append, Watcher.task_running, Option.toList_some, List.length_singleton]
  omega

theorem not_exclusive_edit (hu : w.updatingFeatures = false) (hl : w.live = true)
    (hp : w.paramWatcher.isRunning = false) (hr : w.running = true) : ¬ (onParameterChanged w false).Exclusive := by
  have hlen := Tasks.running_length hr
  have ht : (onParameterChanged w false).toTasks =
      { w.toTasks with paramWatcher := .running (), released := false } := by
    unfold onParameterChanged
    rw [hu, hl, hp]
    rfl
  apply Tasks.not_exclusive
  rw [ht, Tasks.length_operations]
  rw [Watcher.task_eq_none hp] at hlen
  simp only [Watcher.task_running, Option.toList_some, Option.toList_none, List.length_singleton,
    List.length_nil] at hlen ⊢
  omega

theorem not_exclusive_read (hl : w.live = true) (ho : w.isOpened = true)
    (hf : w.featureDataWatcher.isRunning = false) (hr : w.running = true) : ¬ (updateFeatureValues w).Exclusive := by
  have hlen := Tasks.running_length hr
  have ht : (updateFeatureValues w).toTasks =
      { w.toTasks with featureDataWatcher := .running (), released := false } := by
    unfold updateFeatureValues
    rw [hl, ho, hf]
    rfl
  apply Tasks.not_exclusive
  rw [ht, Tasks.length_operations]
  rw [Watcher.task_eq_none hf] at hlen
  simp only [Watcher.task_running, Option.toList_some, Option.toList_none, List.length_singleton,
    List.length_nil] at hlen ⊢
  omega

theorem not_exclusive_diagnosticRead (hl : w.live = true) (ho : w.isOpened = true) (hd : w.debug = true)
    (hf : w.featureDataWatcher.isRunning = false) (hr : w.running = true) : ¬ (diagnosticRead w false).Exclusive := by
  unfold diagnosticRead
  rw [if_pos (by rw [hd]; rfl)]
  exact not_exclusive_read hl ho hf hr

/-- The reads of `populateFeatures` begin while the task closes the connection. -/
theorem not_exclusive_populate (hl : w.live = true) (ho : w.isOpened = true)
    (hc : w.connectWatcher = .running .close) : ¬ (applyConnectionState w true).Exclusive := by
  have ht : (applyConnectionState w true).toTasks = { w.toTasks with sync := some .populateFeatures } := by
    unfold applyConnectionState
    rw [if_neg (Bool.eq_false_iff.1 (not_shuttingDown_of_live hl))]
    exact populateFeatures_opened hl ho
  rintro ⟨-, hclose⟩
  have hmem : Operation.connection .close ∈ (applyConnectionState w true).operations := by
    rw [ht]
    simp [Tasks.operations, hc]
  have hsync := hclose hmem
  rw [ht] at hsync
  cases hsync

theorem not_exclusive_status {status : Status} {on : Bool} (h : Inv w)
    (hn : ¬ Undisturbed w (.statusChanged status on)) : ¬ (handleStatusChanged w status on).Exclusive := by
  cases status with
  | grabbing =>
    cases on with
    | true => exact absurd trivial hn
    | false =>
      simp only [Undisturbed, Classical.not_imp] at hn
      obtain ⟨hl, ho, hd, hrun⟩ := hn
      have hf : w.featureDataWatcher.isRunning = false := by
        rw [← Bool.not_eq_true]
        exact fun hf => hrun (h.alone.of_featureData hf)
      have hr : w.running = true := by
        rw [← Bool.not_eq_false]
        intro hr
        obtain ⟨hc, hp, -⟩ := Tasks.running_eq_false.1 hr
        exact hrun ⟨hc, hp⟩
      unfold handleStatusChanged
      rw [if_neg (Bool.eq_false_iff.1 (not_shuttingDown_of_live hl))]
      show ¬ (diagnosticRead (setRunningState { w with released := true, grabbing := false } false) false).Exclusive
      exact not_exclusive_diagnosticRead hl ho hd hf hr
  | connection =>
    cases on with
    | false => exact absurd trivial hn
    | true =>
      simp only [Undisturbed, Classical.not_imp, not_not] at hn
      obtain ⟨hl, ho, hc⟩ := hn
      unfold handleStatusChanged
      rw [if_neg (Bool.eq_false_iff.1 (not_shuttingDown_of_live hl))]
      show ¬ (applyConnectionState { w with released := true } true).Exclusive
      exact not_exclusive_populate hl ho hc

theorem not_exclusive_paramFinished (hl : w.live = true) (ho : w.isOpened = true)
    (hf : w.featureDataWatcher.isRunning = false) (hr : w.running = true) : ¬ (paramFinished w).Exclusive := by
  unfold paramFinished
  rw [if_neg (Bool.eq_false_iff.1 (not_shuttingDown_of_live hl))]
  exact not_exclusive_read hl ho hf hr

/-- A step that breaks the condition breaks the property at once. -/
theorem not_exclusive_step {evs : List Unit} (h : Inv w) (hn : ¬ Undisturbed w a)
    (hstep : step w a = some (w', evs)) : ¬ w'.Exclusive := by
  rcases step_cases hstep with hp | ⟨-, hg⟩ | ⟨readOnly, rfl, -⟩
  · cases a with
    | connectReturns _ | strayReturns _ | discoverReturns | paramReturns | featureDataReturns | openedChanges _
    | debugChanges _ => exact absurd trivial hn
    | _ => cases hp
  · cases a with
    | connectToggled =>
      simp only [Undisturbed, Classical.not_imp] at hn
      simp only [guiStep] at hg
      split at hg
      · cases hg; exact not_exclusive_connect hn.1 hn.2.1
      · cases hg
    | grabOneClicked =>
      simp only [Undisturbed, Classical.not_imp] at hn
      simp only [guiStep] at hg
      split at hg
      · cases hg; exact not_exclusive_grabOne hn.1 (Tasks.running_of_disturbed hn.2)
      · cases hg
    | grabLiveToggled =>
      simp only [Undisturbed, Classical.not_imp] at hn
      simp only [guiStep] at hg
      split at hg
      · cases hg; exact not_exclusive_grabLive hn.1 (Tasks.running_of_disturbed hn.2)
      · cases hg
    | edited i isNull =>
      cases isNull with
      | true => exact absurd trivial hn
      | false =>
        simp only [Undisturbed, Classical.not_imp] at hn
        obtain ⟨hu, hl, hp, hd⟩ := hn
        simp only [guiStep] at hg
        split at hg
        · cases hg; exact not_exclusive_edit hu hl hp (Tasks.running_of_disturbed hd)
        · cases hg
    | statusChanged status on => cases hg; exact not_exclusive_status h hn
    | paramFinished =>
      simp only [Undisturbed, Classical.not_imp, Bool.not_eq_false] at hn
      obtain ⟨hl, ho, hc⟩ := hn
      simp only [guiStep] at hg
      split at hg
      · cases hg
        exact not_exclusive_paramFinished hl ho (h.alone.connect hc).2 (Tasks.running_of_connect hc)
      · cases hg
    | _ => exact absurd trivial hn
  · exact absurd trivial hn

end

/-! ## Every run -/

/-- In every state reached by steps that meet the condition at most one operation is in progress, and
nothing else while the connection is being closed; the next step keeps this exactly when it meets the
condition. -/
theorem exclusive_iff_undisturbed {gocator opened grabbing debug : Bool} {tr : List Unit} {w : QGocatorWidget}
    (h : Run step Undisturbed (construct gocator opened grabbing debug) tr w) :
    w.Exclusive ∧ ∀ a w' evs, step w a = some (w', evs) → (w'.Exclusive ↔ Undisturbed w a) := by
  have hinv : Inv w := h.invariant (I := fun _ w => Inv w) (inv_construct gocator opened grabbing debug)
    fun _ _ _ _ _ hI hok hstep => inv_step hI hok hstep
  refine ⟨hinv.alone.exclusive, fun a w' evs hstep => ⟨fun hex => ?_, fun hok => ?_⟩⟩
  · by_contra hn
    exact not_exclusive_step hinv hn hstep hex
  · exact (inv_step hinv hok hstep).alone.exclusive

/-- The widget connects and shows one editor. -/
def connectMoves : List Action :=
  [.connectToggled, .openedChanges true, .connectReturns true, .connectFinished, .syncReturns [false]]

/-- The widget connects, sets a parameter, reads the resources back, grabs one frame and disconnects. -/
theorem exclusive_session :
    ∃ tr w, Run step Undisturbed (construct true false false false) tr w ∧ w.connectWatcher = .running .close ∧
      w.Exclusive ∧ ∀ a w' evs, step w a = some (w', evs) → (w'.Exclusive ↔ Undisturbed w a) := by
  obtain ⟨tr, w, h, hc⟩ : ∃ tr w, Run step Undisturbed (construct true false false false) tr w ∧
      w.connectWatcher = .running .close :=
    ⟨_, _, exec_get step Undisturbed (connectMoves ++ [.edited 0 false, .paramReturns, .paramFinished,
      .featureDataReturns, .featureDataFinished, .grabOneClicked, .syncReturns [], .connectToggled])
      (construct true false false false) rfl, by decide⟩
  exact ⟨tr, w, h, hc, exclusive_iff_undisturbed h⟩

/-- While the connection is being closed the grab button is on. -/
theorem not_every_run_exclusive : ¬ ∀ (gocator opened grabbing debug : Bool) (tr : List Unit) (w : QGocatorWidget),
    Run step anyStep (construct gocator opened grabbing debug) tr w → w.Exclusive := by
  intro h
  have hex := h true false false false _ _ (exec_get step anyStep
    (connectMoves ++ [.connectToggled, .grabOneClicked]) (construct true false false false) rfl)
  revert hex
  decide

end Gocator.Widget
