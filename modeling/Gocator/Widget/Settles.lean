/-
What the tasks of the widget come to. A task that returns, its finished signal and the return of a synchronous
call are completions: each uses up work that an event of the user or a notification has started, so there
are only finitely many of them in a row. When none is left nothing is under way, and the handlers have turned
on again what they turned off.
-/
import Gocator.Widget.State

namespace Gocator.Widget

open Gocator.Facade Transition

/-! ## Completions -/

/-- The end of something under way. -/
def Action.completes : Action → Bool
  | .connectReturns _ | .strayReturns _ | .discoverReturns | .paramReturns | .featureDataReturns => true
  | .connectFinished | .discoverFinished | .paramFinished | .featureDataFinished | .syncReturns _ => true
  | _ => false

/-- Nothing is under way. -/
structure Tasks.Settled (t : Tasks) : Prop where
  connect : t.connectWatcher = .idle
  discover : t.discoverWatcher = .idle
  param : t.paramWatcher = .idle
  featureData : t.featureDataWatcher = .idle
  stray : t.stray = []
  sync : t.sync = none

/-- The completions of a task whose finished signal leads to `n` of them, itself among them. -/
def Watcher.left {τ ρ : Type} (n : Nat) : Watcher τ ρ → Nat
  | .idle => 0
  | .ended _ => n
  | .running _ => n + 1

/-- The completions still to come. A connection leads to the reads of `populateFeatures`, a parameter update to a
read of the features. -/
def Tasks.work (t : Tasks) : Nat :=
  t.connectWatcher.left 2 + t.discoverWatcher.left 1 + t.paramWatcher.left 3 + t.featureDataWatcher.left 1 +
    t.stray.length + t.sync.toList.length

section

variable {w w' : QGocatorWidget} {a : Action} {evs : List Unit}

theorem completes_settled (h : w.Settled) (ha : a.completes = true) : step w a = none := by
  obtain ⟨hc, hd, hp, hf, hst, hsy⟩ := h
  cases a with
  | syncReturns readOnly => simp only [step, hsy]
  | strayReturns i => simp [step, poolStep, guiStep, hst]
  | connectReturns | discoverReturns | paramReturns | featureDataReturns | connectFinished | discoverFinished
  | paramFinished | featureDataFinished => simp [step, poolStep, guiStep, hc, hd, hp, hf]
  | _ => cases ha

/-- A watcher that is not idle, with the GUI thread free, has a completion. -/
theorem settled_of_still (h : ∀ a : Action, a.completes = true → step w a = none) : w.Settled := by
  have hsync : w.sync = none := by
    have hs := h (.syncReturns []) rfl
    simp only [step] at hs
    cases hsy : w.sync with
    | none => rfl
    | some c => rw [hsy] at hs; cases c <;> cases hs
  refine ⟨?_, ?_, ?_, ?_, ?_, hsync⟩
  · cases hc : w.connectWatcher with
    | idle => rfl
    | running t => have := h (.connectReturns true) rfl; simp [step, poolStep, hc] at this
    | ended r => have := h .connectFinished rfl; simp [step, poolStep, guiStep, hc, hsync] at this
  · cases hd : w.discoverWatcher with
    | idle => rfl
    | running t => have := h .discoverReturns rfl; simp [step, poolStep, hd] at this
    | ended r => have := h .discoverFinished rfl; simp [step, poolStep, guiStep, hd, hsync] at this
  · cases hp : w.paramWatcher with
    | idle => rfl
    | running t => have := h .paramReturns rfl; simp [step, poolStep, hp] at this
    | ended r => have := h .paramFinished rfl; simp [step, poolStep, guiStep, hp, hsync] at this
  · cases hf : w.featureDataWatcher with
    | idle => rfl
    | running t => have := h .featureDataReturns rfl; simp [step, poolStep, hf] at this
    | ended r => have := h .featureDataFinished rfl; simp [step, poolStep, guiStep, hf, hsync] at this
  · cases hst : w.stray with
    | nil => rfl
    | cons t ts => have := h (.strayReturns 0) rfl; simp [step, poolStep, hst] at this

theorem settled_iff_still : (∀ a : Action, a.completes = true → step w a = none) ↔ w.Settled :=
  ⟨settled_of_still, fun h _ => completes_settled h⟩

end

/-! ## The work is used up -/

section

variable {w w' : QGocatorWidget} {a : Action} {evs : List Unit}

theorem work_populateFeatures (hs : w.sync = none) : (populateFeatures w).work ≤ w.work + 1 := by
  unfold populateFeatures
  split
  · omega
  · simp [Tasks.work, clearFeatures, hs]

theorem work_applyConnectionState {opened : Bool} (hs : w.sync = none) :
    (applyConnectionState w opened).work ≤ w.work + 1 := by
  unfold applyConnectionState
  split
  · omega
  · cases opened with
    | true => exact work_populateFeatures hs
    | false => exact Nat.le_succ _

theorem work_updateFeatureValues (w : QGocatorWidget) : (updateFeatureValues w).work ≤ w.work + 2 := by
  unfold updateFeatureValues
  split
  · omega
  split
  · omega
  · show w.connectWatcher.left 2 + w.discoverWatcher.left 1 + w.paramWatcher.left 3 + 2 + w.stray.length +
      w.sync.toList.length ≤ w.work + 2
    simp only [Tasks.work]
    omega

theorem work_onConnectToggled (w : QGocatorWidget) (toggled : Bool) :
    (onConnectToggled w toggled).work ≤ w.work + 3 := by
  unfold onConnectToggled
  split
  · omega
  · have hstray : 3 + w.connectWatcher.task.toList.length ≤ w.connectWatcher.left 2 + 3 := by
      cases w.connectWatcher <;> simp [Watcher.left, Watcher.task]
    show 3 + w.discoverWatcher.left 1 + w.paramWatcher.left 3 + w.featureDataWatcher.left 1 +
      (w.stray ++ w.connectWatcher.task.toList).length + w.sync.toList.length ≤ w.work + 3
    simp only [Tasks.work, List.length_append]
    omega

theorem work_onParameterChanged (w : QGocatorWidget) (isNull : Bool) :
    (onParameterChanged w isNull).work ≤ w.work + 4 := by
  unfold onParameterChanged
  split
  · omega
  · show w.connectWatcher.left 2 + w.discoverWatcher.left 1 + 4 + w.featureDataWatcher.left 1 + w.stray.length +
      w.sync.toList.length ≤ w.work + 4
    simp only [Tasks.work]
    omega

theorem work_onRefreshClicked (w : QGocatorWidget) : (onRefreshClicked w).work ≤ w.work + 2 := by
  unfold onRefreshClicked
  split
  · omega
  split
  · omega
  · show w.connectWatcher.left 2 + 2 + w.paramWatcher.left 3 + w.featureDataWatcher.left 1 + w.stray.length +
      w.sync.toList.length ≤ w.work + 2
    simp only [Tasks.work]
    omega

/-- A call of the grab buttons. -/
theorem work_command (hs : w.sync = none) (c : SyncCall) : { w with sync := some c }.work ≤ w.work + 1 := by
  simp [Tasks.work, hs]

theorem work_handleStatusChanged (hs : w.sync = none) (status : Status) (on : Bool) :
    (handleStatusChanged w status on).work ≤ w.work + 2 := by
  unfold handleStatusChanged
  split
  · omega
  · cases status with
    | grabbing =>
      show (diagnosticRead _ on).work ≤ w.work + 2
      unfold diagnosticRead
      split
      · exact work_updateFeatureValues _
      · exact Nat.le_add_right _ 2
    | connection =>
      have h := @work_applyConnectionState { w with released := true } on hs
      exact Nat.le_succ_of_le h

theorem work_poolStep (hstep : poolStep w a = some w') :
    w'.work + 1 ≤ w.work ∨ a.completes = false ∧ w'.work = w.work := by
  cases a with
  | connectReturns success =>
    simp only [poolStep] at hstep
    split at hstep <;> cases hstep
    rename_i t hc
    left
    simp only [Tasks.work, hc, Watcher.left]
    omega
  | strayReturns i =>
    simp only [poolStep] at hstep
    split at hstep <;> cases hstep
    rename_i hi
    left
    simp only [Tasks.work, List.length_eraseIdx_of_lt hi]
    omega
  | discoverReturns =>
    simp only [poolStep] at hstep
    split at hstep <;> cases hstep
    rename_i hd
    left
    simp only [Tasks.work, hd, Watcher.left]
    omega
  | paramReturns =>
    simp only [poolStep] at hstep
    split at hstep <;> cases hstep
    rename_i hp
    left
    simp only [Tasks.work, hp, Watcher.left]
    omega
  | featureDataReturns =>
    simp only [poolStep] at hstep
    split at hstep <;> cases hstep
    rename_i hf
    left
    simp only [Tasks.work, hf, Watcher.left]
    omega
  | openedChanges | debugChanges => cases hstep; exact .inr ⟨rfl, rfl⟩
  | _ => cases hstep

/-- An event starts at most a parameter update. -/
theorem work_event (hs : w.sync = none) (ha : a.completes = false) (hstep : guiStep w a = some w') :
    w'.work ≤ w.work + 4 := by
  have hle : ∀ {m n : Nat}, n ≤ 4 → m ≤ w.work + n → m ≤ w.work + 4 := by
    intro m n hn hm
    omega
  cases a with
  | connectToggled =>
    simp only [guiStep] at hstep
    split at hstep <;> cases hstep
    exact hle (by decide) (work_onConnectToggled _ _)
  | grabOneClicked =>
    simp only [guiStep] at hstep
    split at hstep <;> cases hstep
    unfold onGrabOneClicked
    split
    · exact Nat.le_add_right _ 4
    · exact hle (by decide) (work_command hs _)
  | grabLiveToggled =>
    simp only [guiStep] at hstep
    split at hstep <;> cases hstep
    unfold onGrabLiveToggled
    split
    · exact Nat.le_add_right w.work 4
    · exact hle (by decide) (work_command hs _)
  | refreshClicked =>
    simp only [guiStep] at hstep
    split at hstep <;> cases hstep
    exact hle (by decide) (work_onRefreshClicked w)
  | edited i isNull =>
    simp only [guiStep] at hstep
    split at hstep <;> cases hstep
    exact work_onParameterChanged w isNull
  | statusChanged status on =>
    cases hstep
    exact hle (by decide) (work_handleStatusChanged hs status on)
  | prepareForShutdown =>
    cases hstep
    exact Nat.le_add_right w.work 4
  | openedChanges | debugChanges => cases hstep
  | _ => cases ha

theorem work_connectFinished {success : Bool} (hs : w.sync = none) : (connectFinished w success).work ≤ w.work + 1 := by
  unfold connectFinished
  split
  · exact Nat.le_succ _
  · split
    · exact @work_applyConnectionState (setConnectionOperationActive w false) true hs
    · exact @work_applyConnectionState { setConnectionOperationActive w false with connectChecked := false } false hs

theorem work_paramFinished (w : QGocatorWidget) : (paramFinished w).work ≤ w.work + 2 := by
  unfold paramFinished
  split
  · exact Nat.le_add_right _ 2
  · exact work_updateFeatureValues _

/-- A finished signal is one completion less, whatever its handler starts. -/
theorem work_finished (hs : w.sync = none) (ha : a.completes = true) (hstep : guiStep w a = some w') :
    w'.work + 1 ≤ w.work := by
  cases a with
  | connectFinished =>
    simp only [guiStep] at hstep
    split at hstep <;> cases hstep
    rename_i success hc
    have hidle : { w with connectWatcher := .idle, released := true }.work + 2 = w.work := by
      simp only [Tasks.work, hc, Watcher.left]
      omega
    have h := @work_connectFinished { w with connectWatcher := .idle, released := true } success hs
    omega
  | discoverFinished =>
    simp only [guiStep] at hstep
    split at hstep <;> cases hstep
    rename_i hd
    have hidle : { w with discoverWatcher := .idle }.work + 1 = w.work := by
      simp only [Tasks.work, hd, Watcher.left]
      omega
    rw [← hidle]
    unfold discoverFinished
    split <;> exact Nat.le_refl _
  | paramFinished =>
    simp only [guiStep] at hstep
    split at hstep <;> cases hstep
    rename_i hp
    have hidle : { w with paramWatcher := .idle, released := true }.work + 3 = w.work := by
      simp only [Tasks.work, hp, Watcher.left]
      omega
    have h := work_paramFinished { w with paramWatcher := .idle, released := true }
    omega
  | featureDataFinished =>
    simp only [guiStep] at hstep
    split at hstep <;> cases hstep
    rename_i hf
    have hidle : { w with featureDataWatcher := .idle, released := true }.work + 1 = w.work := by
      simp only [Tasks.work, hf, Watcher.left]
      omega
    rw [← hidle]
    unfold featureDataFinished
    split <;> exact Nat.le_refl _
  | connectReturns | strayReturns | discoverReturns | paramReturns | featureDataReturns | syncReturns => cases hstep
  | _ => cases ha

/-- What an event pays for; a completion pays nothing. -/
def Action.pays (a : Action) : Nat := if a.completes then 0 else 5

theorem work_step (h : step w a = some (w', evs)) : w'.work + 1 ≤ w.work + a.pays := by
  have hpays : a.pays = 0 ∧ a.completes = true ∨ a.pays = 5 ∧ a.completes = false := by
    cases ha : a.completes <;> simp [Action.pays, ha]
  rcases step_cases h with hp | ⟨hs, hg⟩ | ⟨readOnly, rfl, hsync⟩
  · rcases work_poolStep hp with hwork | ⟨ha, hwork⟩
    · omega
    · rw [hwork, Action.pays, ha]
      exact Nat.add_le_add_left (by decide : 1 ≤ 5) _
  · cases ha : a.completes with
    | true =>
      have := work_finished hs ha hg
      omega
    | false =>
      have := work_event hs ha hg
      rw [Action.pays, ha]
      exact Nat.succ_le_succ this
  · have hsome : w.sync ≠ none := by
      intro hnone
      simp [step, hnone] at h
    have hwork : w'.work + 1 ≤ w.work := by
      obtain ⟨c, hc⟩ := Option.ne_none_iff_exists'.1 hsome
      have hless : { w with sync := none }.work + 1 = w.work := by simp [Tasks.work, hc]
      rcases hsync with ⟨-, rfl⟩ | rfl
      · exact Nat.le_of_eq hless
      · exact Nat.le_of_eq hless
    omega

end

theorem sum_pays (as : List Action) : (as.map Action.pays).sum + as.countP (·.completes) =
    as.length + 4 * as.countP (!·.completes) := by
  induction as with
  | nil => rfl
  | cons a as ih =>
    simp only [List.map_cons, List.sum_cons, List.countP_cons, List.length_cons, Action.pays]
    cases a.completes <;> simp only [Bool.not_true, Bool.not_false, Bool.false_eq_true, if_true, if_false] <;> omega

/-- However the completions and the events are mixed. -/
theorem completions_le {as : List Action} {w w' : QGocatorWidget} {tr : List Unit}
    (h : exec step anyStep as w = some (w', tr)) :
    w'.work + as.countP (·.completes) ≤ w.work + 4 * as.countP (!·.completes) := by
  have hle : w'.work + as.length ≤ w.work + (as.map Action.pays).sum :=
    length_le_of_potential step anyStep (fun _ _ _ _ _ hstep => work_step hstep) as w w' tr h
  have hpays := sum_pays as
  omega

/-! ## What is turned on again -/

/-- Some watcher has a task, or a finished signal that is not handled yet. -/
def Tasks.Watching (t : Tasks) : Prop :=
  t.connectWatcher ≠ .idle ∨ t.discoverWatcher ≠ .idle ∨ t.paramWatcher ≠ .idle ∨ t.featureDataWatcher ≠ .idle

/-- What is off is off for something under way: the connect button for a watcher, the flags of an update and of
`populateFeatures` for theirs, and the editors for an update, a read or a grab. -/
structure Recovers (w : QGocatorWidget) : Prop where
  connect : w.toolConnect = false → w.Watching
  param : w.parameterUpdateActive = true → w.paramWatcher ≠ .idle
  updating : w.updatingFeatures = true → w.sync = some .populateFeatures
  editors : w.paramWatcher = .idle → w.featureDataWatcher = .idle → w.grabbing = false →
    ∀ e ∈ w.editors, e.enabled = !e.gocatorReadOnly

section

variable {w w' : QGocatorWidget} {a : Action} {evs : List Unit}

theorem setFeatureEditorsEnabled_true (w : QGocatorWidget) :
    ∀ e ∈ (setFeatureEditorsEnabled w true).editors, e.enabled = !e.gocatorReadOnly := by
  intro e he
  obtain ⟨e', -, rfl⟩ := List.mem_map.1 he
  rfl

/-- With the flag of the update off when there is none, the editors are as the running state has them. -/
theorem recovers_setRunningState {running : Bool} (hc : w.toolConnect = false → w.Watching)
    (hp : w.parameterUpdateActive = true → w.paramWatcher ≠ .idle)
    (hu : w.updatingFeatures = true → w.sync = some .populateFeatures) (hr : w.grabbing = false → running = false) :
    Recovers (setRunningState w running) := by
  refine ⟨hc, hp, hu, fun hidle _ hg => ?_⟩
  have hflag : w.parameterUpdateActive = false := Bool.eq_false_iff.2 fun hflag => hp hflag hidle
  have hon : (!running && !w.parameterUpdateActive) = true := by
    rw [hr hg, hflag]
    rfl
  unfold setRunningState
  rw [hon]
  exact setFeatureEditorsEnabled_true _

theorem recovers_populateFeatures (h : Recovers w) : Recovers (populateFeatures w) := by
  unfold populateFeatures
  split
  · exact h
  · refine ⟨h.connect, h.param, fun _ => rfl, fun _ _ _ e he => ?_⟩
    cases he

theorem recovers_applyConnectionState {opened : Bool} (hp : w.parameterUpdateActive = true → w.paramWatcher ≠ .idle)
    (hu : w.updatingFeatures = true → w.sync = some .populateFeatures) (hs : w.shuttingDown = false) :
    Recovers (applyConnectionState w opened) := by
  have hrecovers : ∀ {w : QGocatorWidget}, w.toolConnect = true →
      (w.parameterUpdateActive = true → w.paramWatcher ≠ .idle) →
      (w.updatingFeatures = true → w.sync = some .populateFeatures) → Recovers (setRunningState w false) := by
    intro w hon hp hu
    refine recovers_setRunningState (fun hoff => ?_) hp hu fun _ => rfl
    rw [hon] at hoff
    cases hoff
  unfold applyConnectionState
  rw [hs, if_neg Bool.false_ne_true]
  cases opened with
  | true =>
    apply recovers_populateFeatures
    exact hrecovers rfl hp hu
  | false =>
    refine ⟨(fun hoff => by cases hoff), hp, hu, fun _ _ _ e he => ?_⟩
    cases he

/-- The controls are off for the read. -/
theorem recovers_updateFeatureValues (h : Recovers w) : Recovers (updateFeatureValues w) := by
  unfold updateFeatureValues
  split
  · exact h
  split
  · exact h
  · refine ⟨fun _ => .inr (.inr (.inr fun hidle => ?_)), h.param, h.updating, fun _ hidle => ?_⟩
    · cases hidle
    · cases hidle

theorem recovers_onConnectToggled (h : Recovers w) (toggled : Bool) : Recovers (onConnectToggled w toggled) := by
  unfold onConnectToggled
  split
  · exact h
  · refine ⟨fun _ => .inl fun hidle => ?_, h.param, h.updating, h.editors⟩
    cases hidle

theorem recovers_onRefreshClicked (h : Recovers w) : Recovers (onRefreshClicked w) := by
  unfold onRefreshClicked
  split
  · exact h
  split
  · exact h
  · refine ⟨fun _ => .inr (.inl fun hidle => ?_), h.param, h.updating, h.editors⟩
    cases hidle

theorem recovers_onParameterChanged (h : Recovers w) (isNull : Bool) : Recovers (onParameterChanged w isNull) := by
  unfold onParameterChanged
  split
  · exact h
  · refine ⟨fun _ => .inr (.inr (.inl fun hidle => ?_)), fun _ hidle => ?_, h.updating, fun hidle => ?_⟩
    · cases hidle
    · cases hidle
    · cases hidle

/-- A call of the grab buttons is made while no feature is populated. -/
theorem recovers_command (h : Recovers w) (hs : w.sync = none) (c : SyncCall) : Recovers { w with sync := some c } := by
  refine ⟨h.connect, h.param, fun hu => ?_, h.editors⟩
  have := h.updating hu
  rw [hs] at this
  cases this

theorem recovers_handleStatusChanged (h : Recovers w) (status : Status) (on : Bool) :
    Recovers (handleStatusChanged w status on) := by
  unfold handleStatusChanged
  split
  · exact h
  · rename_i hs
    have hs : w.shuttingDown = false := Bool.eq_false_iff.2 hs
    cases status with
    | grabbing =>
      have hset : Recovers (setRunningState { w with released := true, grabbing := on } on) :=
        recovers_setRunningState h.connect h.param h.updating fun hg => hg
      have hread : Recovers (diagnosticRead (setRunningState { w with released := true, grabbing := on } on) on) := by
        unfold diagnosticRead
        split
        · exact recovers_updateFeatureValues hset
        · exact hset
      exact ⟨hread.connect, hread.param, hread.updating, hread.editors⟩
    | connection =>
      have hstate : Recovers (applyConnectionState { w with released := true } on) :=
        recovers_applyConnectionState h.param h.updating hs
      exact ⟨hstate.connect, hstate.param, hstate.updating, hstate.editors⟩

/-! ## The finished signals -/

theorem recovers_connectFinished {success : Bool} (h : Recovers w) (hs : w.shuttingDown = false) :
    Recovers (connectFinished { w with connectWatcher := .idle, released := true } success) := by
  unfold connectFinished
  split
  · rename_i hshut
    rw [hs] at hshut
    cases hshut
  split
  · exact recovers_applyConnectionState h.param h.updating hs
  · exact recovers_applyConnectionState h.param h.updating hs

theorem recovers_discoverFinished (h : Recovers w) (hs : w.shuttingDown = false) :
    Recovers (discoverFinished { w with discoverWatcher := .idle }) := by
  unfold discoverFinished
  rw [hs, if_neg Bool.false_ne_true]
  exact ⟨(fun hoff => by cases hoff), h.param, h.updating, h.editors⟩

theorem recovers_paramFinished (h : Recovers w) (hs : w.shuttingDown = false) :
    Recovers (paramFinished { w with paramWatcher := .idle, released := true }) := by
  unfold paramFinished
  rw [hs, if_neg Bool.false_ne_true]
  apply recovers_updateFeatureValues
  refine recovers_setRunningState (fun hoff => by cases hoff) (fun hflag => by cases hflag) h.updating ?_
  exact fun hg => hg

theorem recovers_featureDataFinished (h : Recovers w) (hl : w.live = true) :
    Recovers (featureDataFinished { w with featureDataWatcher := .idle, released := true }) := by
  have hl' : { w with featureDataWatcher := .idle, released := true }.live = true := hl
  unfold featureDataFinished
  rw [hl', Bool.not_true, if_neg Bool.false_ne_true]
  exact recovers_setRunningState (fun hoff => by cases hoff) h.param h.updating fun hg => hg

/-! ## What a step turns on again -/

theorem recovers_poolStep (h : Recovers w) (hstep : poolStep w a = some w') : Recovers w' := by
  have hwatch : ∀ {c d p f}, (w.connectWatcher ≠ .idle → c ≠ .idle) → (w.discoverWatcher ≠ .idle → d ≠ .idle) →
      (w.paramWatcher ≠ .idle → p ≠ .idle) → (w.featureDataWatcher ≠ .idle → f ≠ .idle) → Recovers
        { w with connectWatcher := c, discoverWatcher := d, paramWatcher := p, featureDataWatcher := f } := by
    intro c d p f hc hd hp hf
    refine ⟨fun hoff => ?_, fun hflag => hp (h.param hflag), h.updating, fun hp' hf' hg => ?_⟩
    · exact (h.connect hoff).imp hc (.imp hd (.imp hp hf))
    · exact h.editors (not_not.1 fun hne => hp hne hp') (not_not.1 fun hne => hf hne hf') hg
  have hsame : ∀ {τ ρ : Type} {x : Watcher τ ρ}, x ≠ .idle → x ≠ .idle := fun h => h
  cases a with
  | connectReturns success =>
    simp only [poolStep] at hstep
    split at hstep <;> cases hstep
    exact hwatch (fun _ hidle => by cases hidle) hsame hsame hsame
  | discoverReturns =>
    simp only [poolStep] at hstep
    split at hstep <;> cases hstep
    exact hwatch hsame (fun _ hidle => by cases hidle) hsame hsame
  | paramReturns =>
    simp only [poolStep] at hstep
    split at hstep <;> cases hstep
    exact hwatch hsame hsame (fun _ hidle => by cases hidle) hsame
  | featureDataReturns =>
    simp only [poolStep] at hstep
    split at hstep <;> cases hstep
    exact hwatch hsame hsame hsame fun _ hidle => by cases hidle
  | strayReturns i =>
    simp only [poolStep] at hstep
    split at hstep <;> cases hstep
    exact ⟨h.connect, h.param, h.updating, h.editors⟩
  | openedChanges | debugChanges => cases hstep; exact ⟨h.connect, h.param, h.updating, h.editors⟩
  | _ => cases hstep

theorem recovers_guiStep (h : Recovers w) (hl : w.live = true) (hs : w.sync = none) (hstep : guiStep w a = some w') :
    Recovers w' := by
  have hshut := not_shuttingDown_of_live hl
  have hchecked : ∀ {b c}, Recovers { w with connectChecked := b, liveChecked := c } :=
    ⟨h.connect, h.param, h.updating, h.editors⟩
  cases a with
  | connectToggled =>
    simp only [guiStep] at hstep
    split at hstep <;> cases hstep
    exact recovers_onConnectToggled hchecked _
  | grabOneClicked =>
    simp only [guiStep] at hstep
    split at hstep <;> cases hstep
    unfold onGrabOneClicked
    split
    · exact h
    · exact recovers_command h hs _
  | grabLiveToggled =>
    simp only [guiStep] at hstep
    split at hstep <;> cases hstep
    unfold onGrabLiveToggled
    split
    · exact hchecked
    · have hlive : Recovers { w with liveChecked := !w.liveChecked } := hchecked
      exact recovers_command hlive hs _
  | refreshClicked =>
    simp only [guiStep] at hstep
    split at hstep <;> cases hstep
    exact recovers_onRefreshClicked h
  | edited i isNull =>
    simp only [guiStep] at hstep
    split at hstep <;> cases hstep
    exact recovers_onParameterChanged h isNull
  | statusChanged status on => cases hstep; exact recovers_handleStatusChanged h status on
  | connectFinished =>
    simp only [guiStep] at hstep
    split at hstep <;> cases hstep
    exact recovers_connectFinished h hshut
  | discoverFinished =>
    simp only [guiStep] at hstep
    split at hstep <;> cases hstep
    exact recovers_discoverFinished h hshut
  | paramFinished =>
    simp only [guiStep] at hstep
    split at hstep <;> cases hstep
    exact recovers_paramFinished h hshut
  | featureDataFinished =>
    simp only [guiStep] at hstep
    split at hstep <;> cases hstep
    exact recovers_featureDataFinished h hl
  | prepareForShutdown => cases hstep; exact ⟨h.connect, h.param, h.updating, h.editors⟩
  | _ => cases hstep

/-- A call of the grab buttons returns while no feature is populated. -/
theorem recovers_syncReturns {readOnly : List Bool} (h : Recovers w)
    (hstep : step w (.syncReturns readOnly) = some (w', evs)) : Recovers w' := by
  simp only [step] at hstep
  cases hs : w.sync with
  | none => rw [hs] at hstep; cases hstep
  | some c =>
    rw [hs] at hstep
    have hcommand : c ≠ .populateFeatures → Recovers { w with sync := none } := by
      intro hc
      refine ⟨h.connect, h.param, fun hu => ?_, h.editors⟩
      have hpopulating := h.updating hu
      rw [hs] at hpopulating
      exact absurd (Option.some.inj hpopulating) hc
    cases c with
    | populateFeatures =>
      cases hstep
      refine ⟨h.connect, h.param, (fun hu => by cases hu), fun _ _ _ e he => ?_⟩
      obtain ⟨r, -, rfl⟩ := List.mem_map.1 he
      rfl
    | configureAndGrab | stop =>
      cases hstep
      refine hcommand fun hc => ?_
      cases hc

theorem recovers_step (h : Recovers w) (hl : w.live = true) (hstep : step w a = some (w', evs)) : Recovers w' := by
  rcases step_cases hstep with hp | ⟨hs, hg⟩ | ⟨readOnly, rfl, -⟩
  · exact recovers_poolStep h hp
  · exact recovers_guiStep h hl hs hg
  · exact recovers_syncReturns h hstep

/-! ## After the shutdown -/

/-- The widget has let its Gocator go, and no call keeps the GUI thread. -/
structure Off (w : QGocatorWidget) : Prop where
  shuttingDown : w.shuttingDown = true
  gocator : w.gocator = false
  sync : w.sync = none

/-- Nothing is started and no control turned on or off; the buttons can still be checked. -/
structure Fades (w w' : QGocatorWidget) : Prop where
  connect : ∀ t, w'.connectWatcher.task = some t → w.connectWatcher.task = some t
  discover : ∀ t, w'.discoverWatcher.task = some t → w.discoverWatcher.task = some t
  param : ∀ t, w'.paramWatcher.task = some t → w.paramWatcher.task = some t
  featureData : ∀ t, w'.featureDataWatcher.task = some t → w.featureDataWatcher.task = some t
  stray : w'.stray.Sublist w.stray
  controls : w'.toControls =
    { w.toControls with connectChecked := w'.connectChecked, liveChecked := w'.liveChecked }

theorem Fades.refl (w : QGocatorWidget) : Fades w w :=
  ⟨fun _ h => h, fun _ h => h, fun _ h => h, fun _ h => h, List.Sublist.refl _, rfl⟩

theorem Fades.trans {w'' : QGocatorWidget} (h : Fades w w') (h' : Fades w' w'') : Fades w w'' := by
  refine ⟨fun t ht => h.connect t (h'.connect t ht), fun t ht => h.discover t (h'.discover t ht),
    fun t ht => h.param t (h'.param t ht), fun t ht => h.featureData t (h'.featureData t ht),
    h'.stray.trans h.stray, h'.controls.trans ?_⟩
  rw [h.controls]

theorem Off.not_live (h : Off w) : w.live = false := by
  unfold QGocatorWidget.live
  rw [h.gocator]
  rfl

theorem off_poolStep (h : Off w) (hstep : poolStep w a = some w') : Off w' ∧ Fades w w' := by
  cases a with
  | connectReturns success =>
    simp only [poolStep] at hstep
    split at hstep <;> cases hstep
    exact ⟨⟨h.shuttingDown, h.gocator, h.sync⟩, { Fades.refl w with connect := fun t ht => by cases ht }⟩
  | discoverReturns =>
    simp only [poolStep] at hstep
    split at hstep <;> cases hstep
    exact ⟨⟨h.shuttingDown, h.gocator, h.sync⟩, { Fades.refl w with discover := fun t ht => by cases ht }⟩
  | paramReturns =>
    simp only [poolStep] at hstep
    split at hstep <;> cases hstep
    exact ⟨⟨h.shuttingDown, h.gocator, h.sync⟩, { Fades.refl w with param := fun t ht => by cases ht }⟩
  | featureDataReturns =>
    simp only [poolStep] at hstep
    split at hstep <;> cases hstep
    exact ⟨⟨h.shuttingDown, h.gocator, h.sync⟩, { Fades.refl w with featureData := fun t ht => by cases ht }⟩
  | strayReturns i =>
    simp only [poolStep] at hstep
    split at hstep <;> cases hstep
    exact ⟨⟨h.shuttingDown, h.gocator, h.sync⟩, { Fades.refl w with stray := List.eraseIdx_sublist .. }⟩
  | openedChanges | debugChanges =>
    cases hstep
    exact ⟨⟨h.shuttingDown, h.gocator, h.sync⟩, { Fades.refl w with }⟩
  | _ => cases hstep

/-- Every handler returns at its guard. -/
theorem off_guiStep (h : Off w) (hstep : guiStep w a = some w') : Off w' ∧ Fades w w' := by
  have hlive := h.not_live
  have hsame : Off w ∧ Fades w w := ⟨h, Fades.refl w⟩
  cases a with
  | connectToggled =>
    simp only [guiStep] at hstep
    split at hstep <;> cases hstep
    have hl : { w with connectChecked := !w.connectChecked }.live = false := hlive
    unfold onConnectToggled
    rw [hl, Bool.not_false, if_pos rfl]
    exact ⟨⟨h.shuttingDown, h.gocator, h.sync⟩, { Fades.refl w with controls := rfl }⟩
  | grabOneClicked =>
    simp only [guiStep] at hstep
    split at hstep <;> cases hstep
    unfold onGrabOneClicked
    rw [hlive, Bool.not_false, if_pos rfl]
    exact hsame
  | grabLiveToggled =>
    simp only [guiStep] at hstep
    split at hstep <;> cases hstep
    have hl : { w with liveChecked := !w.liveChecked }.live = false := hlive
    unfold onGrabLiveToggled
    rw [hl, Bool.not_false, if_pos rfl]
    exact ⟨⟨h.shuttingDown, h.gocator, h.sync⟩, { Fades.refl w with controls := rfl }⟩
  | refreshClicked =>
    simp only [guiStep] at hstep
    split at hstep <;> cases hstep
    unfold onRefreshClicked
    rw [hlive, Bool.not_false, if_pos rfl]
    exact hsame
  | edited i isNull =>
    simp only [guiStep] at hstep
    split at hstep <;> cases hstep
    unfold onParameterChanged
    rw [hlive, Bool.not_false, Bool.or_true, Bool.true_or, Bool.true_or, if_pos rfl]
    exact hsame
  | statusChanged status on =>
    cases hstep
    unfold handleStatusChanged
    rw [if_pos h.shuttingDown]
    exact hsame
  | connectFinished =>
    simp only [guiStep] at hstep
    split at hstep <;> cases hstep
    unfold connectFinished
    split
    · exact ⟨⟨h.shuttingDown, h.gocator, h.sync⟩, { Fades.refl w with connect := fun t ht => by cases ht }⟩
    · rename_i hnot
      exact absurd h.shuttingDown hnot
  | discoverFinished =>
    simp only [guiStep] at hstep
    split at hstep <;> cases hstep
    unfold discoverFinished
    split
    · exact ⟨⟨h.shuttingDown, h.gocator, h.sync⟩, { Fades.refl w with discover := fun t ht => by cases ht }⟩
    · rename_i hnot
      exact absurd h.shuttingDown hnot
  | paramFinished =>
    simp only [guiStep] at hstep
    split at hstep <;> cases hstep
    unfold paramFinished
    split
    · exact ⟨⟨h.shuttingDown, h.gocator, h.sync⟩, { Fades.refl w with param := fun t ht => by cases ht }⟩
    · rename_i hnot
      exact absurd h.shuttingDown hnot
  | featureDataFinished =>
    simp only [guiStep] at hstep
    split at hstep <;> cases hstep
    have hl : { w with featureDataWatcher := .idle, released := true }.live = false := hlive
    unfold featureDataFinished
    rw [hl, Bool.not_false, if_pos rfl]
    exact ⟨⟨h.shuttingDown, h.gocator, h.sync⟩, { Fades.refl w with featureData := fun t ht => by cases ht }⟩
  | prepareForShutdown => cases hstep; exact ⟨⟨rfl, rfl, h.sync⟩, { Fades.refl w with }⟩
  | _ => cases hstep

theorem off_step (h : Off w) (hstep : step w a = some (w', evs)) : Off w' ∧ Fades w w' := by
  rcases step_cases hstep with hp | ⟨-, hg⟩ | ⟨readOnly, rfl, -⟩
  · exact off_poolStep h hp
  · exact off_guiStep h hg
  · simp only [step, h.sync] at hstep
    cases hstep

/-! ## The guards of the handlers -/

/-- What the handlers test first. -/
def QGocatorWidget.guards (w : QGocatorWidget) : Bool × Bool := (w.gocator, w.shuttingDown)

theorem live_of_guards (h : w'.guards = w.guards) : w'.live = w.live := by
  obtain ⟨hg, hs⟩ := Prod.mk.inj h
  unfold QGocatorWidget.live
  rw [hg, hs]

theorem guards_populateFeatures (w : QGocatorWidget) : (populateFeatures w).guards = w.guards := by
  unfold populateFeatures
  split <;> rfl

theorem guards_applyConnectionState (w : QGocatorWidget) (opened : Bool) :
    (applyConnectionState w opened).guards = w.guards := by
  unfold applyConnectionState
  split
  · rfl
  · cases opened with
    | true => exact guards_populateFeatures _
    | false => rfl

theorem guards_updateFeatureValues (w : QGocatorWidget) : (updateFeatureValues w).guards = w.guards := by
  unfold updateFeatureValues
  split
  · rfl
  split <;> rfl

theorem guards_handleStatusChanged (w : QGocatorWidget) (status : Status) (on : Bool) :
    (handleStatusChanged w status on).guards = w.guards := by
  unfold handleStatusChanged
  split
  · rfl
  · cases status with
    | grabbing =>
      show (diagnosticRead _ on).guards = w.guards
      unfold diagnosticRead
      split
      · exact guards_updateFeatureValues _
      · rfl
    | connection => exact guards_applyConnectionState { w with released := true } on

theorem guards_connectFinished (w : QGocatorWidget) (success : Bool) :
    (connectFinished w success).guards = w.guards := by
  unfold connectFinished
  split
  · rfl
  split
  · exact guards_applyConnectionState (setConnectionOperationActive w false) true
  · exact guards_applyConnectionState { setConnectionOperationActive w false with connectChecked := false } false

theorem guards_poolStep (hstep : poolStep w a = some w') : w'.guards = w.guards := by
  cases a with
  | openedChanges | debugChanges => cases hstep; rfl
  | connectReturns | strayReturns | discoverReturns | paramReturns | featureDataReturns =>
    simp only [poolStep] at hstep
    split at hstep <;> cases hstep
    rfl
  | _ => cases hstep

/-- Only the shutdown changes the guards. -/
theorem guards_guiStep (hs : w.sync = none) (hstep : guiStep w a = some w') : w'.guards = w.guards ∨ Off w' := by
  cases a with
  | prepareForShutdown => cases hstep; exact .inr ⟨rfl, rfl, hs⟩
  | connectToggled =>
    simp only [guiStep] at hstep
    split at hstep <;> cases hstep
    unfold onConnectToggled
    left
    split <;> rfl
  | grabOneClicked =>
    simp only [guiStep] at hstep
    split at hstep <;> cases hstep
    unfold onGrabOneClicked
    left
    split <;> rfl
  | grabLiveToggled =>
    simp only [guiStep] at hstep
    split at hstep <;> cases hstep
    unfold onGrabLiveToggled
    left
    split <;> rfl
  | refreshClicked =>
    simp only [guiStep] at hstep
    split at hstep <;> cases hstep
    unfold onRefreshClicked
    left
    split
    · rfl
    split <;> rfl
  | edited i isNull =>
    simp only [guiStep] at hstep
    split at hstep <;> cases hstep
    unfold onParameterChanged
    left
    split <;> rfl
  | statusChanged status on => cases hstep; exact .inl (guards_handleStatusChanged w status on)
  | connectFinished =>
    simp only [guiStep] at hstep
    split at hstep <;> cases hstep
    exact .inl (guards_connectFinished _ _)
  | discoverFinished =>
    simp only [guiStep] at hstep
    split at hstep <;> cases hstep
    unfold discoverFinished
    left
    split <;> rfl
  | paramFinished =>
    simp only [guiStep] at hstep
    split at hstep <;> cases hstep
    unfold paramFinished
    left
    split
    · rfl
    · exact guards_updateFeatureValues _
  | featureDataFinished =>
    simp only [guiStep] at hstep
    split at hstep <;> cases hstep
    unfold featureDataFinished
    left
    split <;> rfl
  | _ => cases hstep

theorem guards_step (hstep : step w a = some (w', evs)) : w'.guards = w.guards ∨ Off w' := by
  rcases step_cases hstep with hp | ⟨hs, hg⟩ | ⟨readOnly, rfl, ⟨-, rfl⟩ | rfl⟩
  · exact .inl (guards_poolStep hp)
  · exact guards_guiStep hs hg
  · exact .inl rfl
  · exact .inl rfl

/-! ## Over a run -/

/-- In use the widget recovers; shut down it has let go. -/
def InUse (w : QGocatorWidget) : Prop := (w.live = true → Recovers w) ∧ (w.shuttingDown = true → Off w)

theorem inUse_step (h : InUse w) (hstep : step w a = some (w', evs)) : InUse w' := by
  rcases guards_step hstep with hguards | hoff
  · constructor
    · intro hl
      rw [live_of_guards hguards] at hl
      exact recovers_step (h.1 hl) hl hstep
    · intro hs
      rw [(Prod.mk.inj hguards).2] at hs
      exact (off_step (h.2 hs) hstep).1
  · refine ⟨fun hl => ?_, fun _ => hoff⟩
    rw [hoff.not_live] at hl
    cases hl

end

theorem inUse_construct (gocator opened grabbing debug : Bool) : InUse (construct gocator opened grabbing debug) := by
  unfold construct
  cases gocator with
  | false =>
    refine ⟨fun hl => ?_, fun hs => ?_⟩
    · cases hl
    · cases hs
  | true =>
    have hstate : Recovers (applyConnectionState { gocator := true, opened := opened, debug := debug } opened) :=
      recovers_applyConnectionState (fun h => by cases h) (fun h => by cases h) rfl
    have hguards := guards_applyConnectionState { gocator := true, opened := opened, debug := debug } opened
    have hnone : (applyConnectionState { gocator := true, opened := opened, debug := debug } opened).editors = [] := by
      cases opened <;> rfl
    refine ⟨fun _ => ⟨hstate.connect, hstate.param, hstate.updating, fun _ _ _ e he => ?_⟩, fun hs => ?_⟩
    · have he : e ∈ (applyConnectionState { gocator := true, opened := opened, debug := debug } opened).editors := he
      rw [hnone] at he
      cases he
    · cases hs.symm.trans (Prod.mk.inj hguards).2

section

variable {gocator opened grabbing debug : Bool} {tr tr' : List Unit} {w w' : QGocatorWidget}

theorem inUse_run (h : Run step anyStep (construct gocator opened grabbing debug) tr w) : InUse w :=
  h.invariant (I := fun _ w => InUse w) (inUse_construct gocator opened grabbing debug)
    fun _ _ _ _ _ hI _ hstep => inUse_step hI hstep

/-- From every reachable state there are only finitely many completions in a row, each event adding at most four,
and none is left only when nothing is under way. Then a widget in use has its connect button on, has no update
marked and, when it is not grabbing, has every editor on that is not read-only. -/
theorem widget_settles (h : Run step anyStep (construct gocator opened grabbing debug) tr w) :
    (∀ as w' tr', exec step anyStep as w = some (w', tr') →
        as.countP (·.completes) ≤ w.work + 4 * as.countP (!·.completes)) ∧
      ((∀ a : Action, a.completes = true → step w a = none) ↔ w.Settled) ∧
      (w.Settled → w.live = true → w.toolConnect = true ∧ w.parameterUpdateActive = false ∧
        w.updatingFeatures = false ∧ (w.grabbing = false → ∀ e ∈ w.editors, e.enabled = !e.gocatorReadOnly)) := by
  refine ⟨fun as w' tr' hexec => ?_, settled_iff_still, fun hsettled hl => ?_⟩
  · have hle := completions_le hexec
    omega
  · have hR := (inUse_run h).1 hl
    refine ⟨?_, ?_, ?_, hR.editors hsettled.param hsettled.featureData⟩
    · rw [← Bool.not_eq_false]
      intro hoff
      rcases hR.connect hoff with hc | hd | hp | hf
      · exact hc hsettled.connect
      · exact hd hsettled.discover
      · exact hp hsettled.param
      · exact hf hsettled.featureData
    · rw [Bool.eq_false_iff]
      intro hflag
      exact hR.param hflag hsettled.param
    · rw [Bool.eq_false_iff]
      intro hflag
      have hpopulating := hR.updating hflag
      rw [hsettled.sync] at hpopulating
      cases hpopulating

/-- After the shutdown no task and no call is started, and no control is turned on or off. -/
theorem shutdown_starts_nothing (h : Run step anyStep (construct gocator opened grabbing debug) tr w)
    (hs : w.shuttingDown = true) (h' : Run step anyStep w tr' w') :
    w'.shuttingDown = true ∧ w'.sync = none ∧ Fades w w' := by
  have hoff : Off w := (inUse_run h).2 hs
  have hboth : Off w' ∧ Fades w w' := by
    refine h'.invariant (I := fun _ w' => Off w' ∧ Fades w w') ⟨hoff, Fades.refl w⟩ ?_
    rintro _ _ _ _ _ ⟨hoff, hfades⟩ - hstep
    obtain ⟨hoff', hfades'⟩ := off_step hoff hstep
    exact ⟨hoff', hfades.trans hfades'⟩
  exact ⟨hboth.1.shuttingDown, hboth.1.sync, hboth.2⟩

end

/-- The widget connects, and a parameter is set; the features are being read back. -/
def editMoves : List Action :=
  [.connectToggled, .openedChanges true, .connectReturns true, .connectFinished, .syncReturns [false],
    .edited 0 false, .paramReturns, .paramFinished]

theorem widget_settles_edit : ∃ tr w, Run step anyStep (construct true false false false) tr w ∧
    w.editors = [⟨false, true⟩] ∧ w.toolConnect = true := by
  obtain ⟨tr, w, h, he, hl, hc, hd, hp, hf, hst, hs⟩ : ∃ tr w,
    Run step anyStep (construct true false false false) tr w ∧
      w.editors = [⟨false, true⟩] ∧ w.live = true ∧ w.connectWatcher = .idle ∧ w.discoverWatcher = .idle ∧
      w.paramWatcher = .idle ∧ w.featureDataWatcher = .idle ∧ w.stray = [] ∧ w.sync = none :=
    ⟨_, _, exec_get step anyStep (editMoves ++ [.featureDataReturns, .featureDataFinished])
      (construct true false false false) rfl, by decide⟩
  exact ⟨tr, w, h, he, ((widget_settles h).2.2 ⟨hc, hd, hp, hf, hst, hs⟩ hl).1⟩

/-- The shutdown comes while the features are read; the signal of the read changes nothing. -/
theorem shutdown_starts_nothing_read : ∃ tr w tr' w', Run step anyStep (construct true false false false) tr w ∧
    Run step anyStep w tr' w' ∧ w.featureDataWatcher = .running () ∧ w'.featureDataWatcher = .idle ∧ Fades w w' := by
  have h := exec_get step anyStep (editMoves ++ [.prepareForShutdown]) (construct true false false false) rfl
  have h' := exec_get step anyStep [.featureDataReturns, .statusChanged .grabbing true, .featureDataFinished]
    ((exec step anyStep (editMoves ++ [.prepareForShutdown]) (construct true false false false)).get rfl).1 rfl
  exact ⟨_, _, _, _, h, h', by decide, by decide, (shutdown_starts_nothing h (by decide) h').2.2⟩

end Gocator.Widget
