/-
The synchronous grabs of `GocatorAcquisition`: which frame they return after how many receives, and
when they leave the sensor stopped.
-/
import Gocator.Acquisition.Sdk

namespace Gocator.Acquisition

open Exits

variable {R E : Type} {sdk : Sdk R E} {formatName : Int → String} {timeoutMs : Int} {stopAfterReceive : Bool}

/-! ## The stop at every exit -/

/-- The world after what every exit does. -/
def World.afterReceive (sdk : Sdk R E) (stopAfterReceive : Bool) (w : World) : World :=
  if stopAfterReceive then w.after sdk .stop else w

theorem stopAfter_run (w : World) :
    stopAfter sdk stopAfterReceive w = .ok () (w.afterReceive sdk stopAfterReceive) := by
  unfold stopAfter World.afterReceive
  cases stopAfterReceive with
  | true => exact stopNoThrow_run sdk w
  | false => rfl

theorem afterReceive_calls (w : World) :
    (w.afterReceive sdk stopAfterReceive).calls = w.calls ++ if stopAfterReceive then [.stop] else [] := by
  unfold World.afterReceive
  cases stopAfterReceive with
  | true => rfl
  | false => exact (List.append_nil _).symm

/-- A `try` that stops on a return, and whose handler stops and rethrows. -/
def tryStop (sdk : Sdk R E) (stopAfterReceive : Bool) (body : Acq E (Frame R)) : Acq E (Frame R) :=
  tryCatch
    (do
      let frame ← body
      stopAfter sdk stopAfterReceive
      return frame)
    fun e => do
      stopAfter sdk stopAfterReceive
      throw e

theorem tryStop_run {body : Acq E (Frame R)} {w w' : World} {outcome : Except (Thrown E) (Frame R)}
    (h : body w = withState w' outcome) :
    tryStop sdk stopAfterReceive body w = withState (w'.afterReceive sdk stopAfterReceive) outcome := by
  unfold tryStop
  cases outcome with
  | ok frame =>
    rw [tryCatch_ok]
    · rfl
    · rw [bind_ok h, bind_ok (stopAfter_run w')]
      rfl
  | error e =>
    rw [tryCatch_error (bind_error h), bind_ok (stopAfter_run w')]
    rfl

/-! ## The sensor after a grab -/

/-- Connected and started. -/
def beginGrab (sdk : Sdk R E) : Acq E Unit := do
  connect sdk
  start sdk

/-- Every start among the calls made is followed by a stop. If the sensor runs, it did before and no start
was asked for, or a stop has thrown. -/
def SensorStopped (sdk : Sdk R E) (w w' : World) : Prop :=
  ∃ calls, w'.calls = w.calls ++ calls ∧
    (∀ before after, calls = before ++ .start :: after → .stop ∈ after) ∧
    (w'.running = true → (.start ∉ calls ∧ w.running = true) ∨
      ∃ before after e, calls = before ++ .stop :: after ∧ sdk.answer (w.calls ++ before) .stop = .error e)

/-- `Start` throws when the connection is there. -/
def StartThrows (sdk : Sdk R E) (w : World) : Prop :=
  ∃ w' e, connect sdk w = .ok () w' ∧ sdk.answer w'.calls .start = .error e

theorem sensorStopped_of_quiet {w w' : World} (h : Quiet w w') : SensorStopped sdk w w' := by
  obtain ⟨calls, hcalls, hstart, hstop⟩ := h.calls
  refine ⟨calls, hcalls, ?_, ?_⟩
  · rintro before after rfl
    simp at hstart
  · intro hrunning
    exact .inl ⟨hstart, h.running.symm.trans hrunning⟩

theorem stop_mem_of_append {calls before after : List SdkCall} (h : calls ++ [.stop] = before ++ .start :: after) :
    .stop ∈ after := by
  rcases after.eq_nil_or_concat with rfl | ⟨init, last, rfl⟩
  · have := (List.append_inj' h rfl).2
    cases this
  · rw [List.concat_eq_append, ← List.cons_append, ← List.append_assoc] at h
    have := (List.append_inj' h rfl).2
    cases this
    simp

/-- After a stop the sensor runs only if the stop threw. -/
theorem answer_stop_of_running {w : World} (h : (w.after sdk .stop).running = true) :
    ∃ e, sdk.answer w.calls .stop = .error e := by
  cases hanswer : sdk.answer w.calls .stop with
  | ok answer => simp [World.after, Sdk.effective, hanswer] at h
  | error e => exact ⟨e, rfl⟩

/-- Whatever is received in between. -/
theorem sensorStopped_of_stop {w w₁ w₂ : World} (hconnect : Quiet w w₁) (hreceive : Quiet (w₁.after sdk .start) w₂) :
    SensorStopped sdk w (w₂.after sdk .stop) := by
  obtain ⟨calls, hcalls, -, -⟩ := hconnect.calls
  obtain ⟨received, hreceived, -, -⟩ := hreceive.calls
  have hall : w₂.calls = w.calls ++ (calls ++ .start :: received) := by
    rw [hreceived, after_calls, hcalls]
    simp
  refine ⟨calls ++ .start :: received ++ [.stop], ?_, ?_, ?_⟩
  · rw [after_calls, hall, List.append_assoc]
  · intro before after h
    exact stop_mem_of_append h
  · intro hrunning
    obtain ⟨e, he⟩ := answer_stop_of_running hrunning
    rw [hall] at he
    exact .inr ⟨_, [], e, rfl, he⟩

theorem not_sensorStopped_of_start {w w₁ : World} (hconnect : Quiet w w₁) :
    ¬SensorStopped sdk w (w₁.after sdk .start) := by
  rintro ⟨calls, hcalls, hstopped, -⟩
  obtain ⟨connects, hconnects, -, -⟩ := hconnect.calls
  rw [after_calls, hconnects, List.append_assoc] at hcalls
  have := hstopped connects [] (List.append_cancel_left hcalls).symm
  cases this

theorem grab_stopped_iff {body : Acq E (Frame R)} (hbody : Keeps Quiet body) (w : World) :
    SensorStopped sdk w (final ((beginGrab sdk >>= fun _ => tryStop sdk true body) w)) ↔ ¬StartThrows sdk w := by
  cases hconnect : connect sdk w with
  | error e w₁ =>
    have hbegin : beginGrab sdk w = .error e w₁ := bind_error hconnect
    rw [bind_error hbegin]
    refine iff_of_true (sensorStopped_of_quiet ((keeps_connect sdk).of_error hconnect)) ?_
    rintro ⟨_, _, hok, -⟩
    rw [hconnect] at hok
    cases hok
  | ok _ w₁ =>
    have hquiet : Quiet w w₁ := (keeps_connect sdk).of_ok hconnect
    cases hstart : sdk.answer w₁.calls .start with
    | error e =>
      have hbegin : beginGrab sdk w = .error (.sdk e) (w₁.after sdk .start) := by
        rw [beginGrab, bind_ok hconnect]
        simp only [start, call, hstart]
      rw [bind_error hbegin]
      exact iff_of_false (not_sensorStopped_of_start hquiet) (not_not.2 ⟨w₁, e, hconnect, hstart⟩)
    | ok answer =>
      have hbegin : beginGrab sdk w = .ok answer (w₁.after sdk .start) := by
        rw [beginGrab, bind_ok hconnect]
        simp only [start, call, hstart]
      rw [bind_ok hbegin, tryStop_run (withState_final _).symm, final_withState]
      refine iff_of_true (sensorStopped_of_stop hquiet (hbody _)) ?_
      rintro ⟨w₂, e, hok, herror⟩
      rw [hconnect] at hok
      cases hok
      rw [hstart] at herror
      cases herror

/-! ## The loop over the frames -/

/-- The frame has an image, or a profile with a valid point. -/
def Frame.usable (frame : Frame R) : Bool := !frame.images.isEmpty || frame.profiles.any (·.validCount > 0)

variable [Zero R] [Add R] [Mul R] [Div R] [NatCast R] [IntCast R]

/-- The exits of the loop each have their own stop, and all do the same. -/
theorem grabLoop_eq (left : Nat) (lastFrame : Frame R) :
    grabLoop sdk formatName timeoutMs stopAfterReceive left lastFrame =
      untilAccepted (receiveOne sdk formatName timeoutMs) Frame.usable left lastFrame >>= fun frame => do
        stopAfter sdk stopAfterReceive
        return frame := by
  induction left generalizing lastFrame with
  | zero => rfl
  | succ left ih =>
    rw [grabLoop, untilAccepted, bind_assoc]
    congr 1
    funext frame
    unfold Frame.usable
    cases himages : frame.images.isEmpty with
    | false => rfl
    | true =>
      cases hprofiles : frame.profiles.any (·.validCount > 0) with
      | true => rfl
      | false => exact ih frame

/-- How many receives a grab of at most `maxFrames` frames allows. -/
def frameCount (maxFrames : Int) : Nat := (max 1 maxFrames).toNat

theorem frameCount_pos (maxFrames : Int) : 0 < frameCount maxFrames := by
  unfold frameCount
  omega

theorem grabOne_eq (sdk : Sdk R E) (formatName : Int → String) (timeoutMs : Int) (stopAfterReceive : Bool) :
    grabOne sdk formatName timeoutMs stopAfterReceive =
      beginGrab sdk >>= fun _ => tryStop sdk stopAfterReceive (receiveOne sdk formatName timeoutMs) :=
  (bind_assoc ..).symm

theorem grabUntilValidProfile_eq (sdk : Sdk R E) (formatName : Int → String) (timeoutMs maxFrames : Int)
    (stopAfterReceive : Bool) :
    grabUntilValidProfile sdk formatName timeoutMs maxFrames stopAfterReceive =
      beginGrab sdk >>= fun _ => tryStop sdk stopAfterReceive
        (untilAccepted (receiveOne sdk formatName timeoutMs) Frame.usable (frameCount maxFrames) .empty) := by
  rw [grabUntilValidProfile, beginGrab, bind_assoc, grabLoop_eq]
  rfl

/-! ## The first usable frame -/

/-- A call that was connected and started in `w` performs `n` receives, counted from 1, and ends with what
the last of them answered; a stop follows it if one is asked for, and there is no other. -/
structure Performs (sdk : Sdk R E) (formatName : Int → String) (timeoutMs : Int) (stopAfterReceive : Bool) (w : World)
    (r : EStateM.Result (Thrown E) World (Frame R)) (n : Nat) : Prop where
  answer : answer r = outcome (receiveOne sdk formatName timeoutMs) w (n - 1)
  calls : ∃ received, (rounds (receiveOne sdk formatName timeoutMs) w n).calls = w.calls ++ received ∧
    .stop ∉ received ∧ (final r).calls = w.calls ++ received ++ if stopAfterReceive then [.stop] else []

theorem performs_of_lastRun {maxFrames : Int} {w w₁ : World} (hbegin : beginGrab sdk w = .ok () w₁) {k : Nat}
    (hk : k < frameCount maxFrames)
    (hbefore : ∀ i < k, decisive Frame.usable (outcome (receiveOne sdk formatName timeoutMs) w₁ i) = false)
    (hend : decisive Frame.usable (outcome (receiveOne sdk formatName timeoutMs) w₁ k) = true ∨
      k + 1 = frameCount maxFrames) :
    Performs sdk formatName timeoutMs stopAfterReceive w₁
      (grabUntilValidProfile sdk formatName timeoutMs maxFrames stopAfterReceive w) (k + 1) := by
  obtain ⟨received, hcalls, -, hstop⟩ := ((keeps_receiveOne sdk formatName timeoutMs).rounds w₁ (k + 1)).calls
  rw [grabUntilValidProfile_eq, bind_ok hbegin, tryStop_run (untilAccepted_eq hk _ hbefore hend)]
  refine ⟨answer_withState .., received, hcalls, hstop, ?_⟩
  rw [final_withState, afterReceive_calls, hcalls]

/-- Once it is connected and started, the call ends with the first receive that throws or brings a usable
frame, or with the last one it is allowed, and answers what that receive answered. -/
theorem first_usable_returned {maxFrames : Int} {w w₁ : World} (hbegin : beginGrab sdk w = .ok () w₁) :
    (∀ k < frameCount maxFrames,
      (∀ i < k, decisive Frame.usable (outcome (receiveOne sdk formatName timeoutMs) w₁ i) = false) →
      decisive Frame.usable (outcome (receiveOne sdk formatName timeoutMs) w₁ k) = true →
      Performs sdk formatName timeoutMs stopAfterReceive w₁
        (grabUntilValidProfile sdk formatName timeoutMs maxFrames stopAfterReceive w) (k + 1)) ∧
    ((∀ i < frameCount maxFrames,
        decisive Frame.usable (outcome (receiveOne sdk formatName timeoutMs) w₁ i) = false) →
      Performs sdk formatName timeoutMs stopAfterReceive w₁
        (grabUntilValidProfile sdk formatName timeoutMs maxFrames stopAfterReceive w) (frameCount maxFrames)) := by
  constructor
  · intro k hk hbefore hdec
    exact performs_of_lastRun hbegin hk hbefore (.inl hdec)
  · intro hnone
    have hpos := frameCount_pos maxFrames
    have hlast : frameCount maxFrames - 1 + 1 = frameCount maxFrames := by omega
    rw [← hlast]
    exact performs_of_lastRun hbegin (by omega) (fun i hi => hnone i (by omega)) (.inr hlast)

/-- An SDK that is connected from the start: the first data set is empty, all others hold an image. -/
def lateImage : Sdk Int String where
  answer
    | _, .isConnected | _, .gdpIsConnected => .ok true
    | _, .address => .ok "192.168.1.10"
    | _, .gdpPort => .ok 3190
    | calls, .dataSet =>
      if calls.count .clearData ≤ 1 then .ok []
      else .ok [⟨⟨"scan:camera", 2, 1, true⟩, .image, ⟨4, 2, 1, 0, none⟩⟩]
    | _, .connect | _, .newGdpClient | _, .gdpConnect _ _ | _, .start | _, .stop | _, .clearData
    | _, .receiveDataSync _ => .ok ()
  takesEffect _ _ := false

theorem first_usable_returned_second : ∃ w₁, beginGrab lateImage ⟨false, [], false⟩ = .ok () w₁ ∧
    Performs lateImage (fun _ => "") 1000 true w₁
      (grabUntilValidProfile lateImage (fun _ => "") 1000 5 true ⟨false, [], false⟩) 2 := by
  refine ⟨_, rfl, ?_⟩
  refine (first_usable_returned rfl).1 1 (by decide) ?_ rfl
  intro i hi
  obtain rfl : i = 0 := by omega
  rfl

/-- A grab that is to stop after it receives leaves the sensor stopped exactly when `Start` does not throw. -/
theorem grabs_stop_iff (sdk : Sdk R E) (formatName : Int → String) (timeoutMs maxFrames : Int) (w : World) :
    (SensorStopped sdk w (final (grabOne sdk formatName timeoutMs true w)) ↔ ¬StartThrows sdk w) ∧
    (SensorStopped sdk w (final (grabUntilValidProfile sdk formatName timeoutMs maxFrames true w)) ↔
      ¬StartThrows sdk w) := by
  have hreceive := keeps_receiveOne sdk formatName timeoutMs
  constructor
  · rw [grabOne_eq]
    exact grab_stopped_iff hreceive w
  · rw [grabUntilValidProfile_eq]
    exact grab_stopped_iff (hreceive.untilAccepted _ _) w

/-- The same, but `Start` throws after it has started the sensor. -/
def startTimesOut : Sdk Int String where
  answer
    | _, .start => .error "timeout"
    | calls, c => lateImage.answer calls c
  takesEffect _ _ := true

theorem grabs_leave_running :
    (final (grabOne startTimesOut (fun _ => "") 1000 true ⟨false, [], false⟩)).running = true ∧
    (final (grabUntilValidProfile startTimesOut (fun _ => "") 1000 5 true ⟨false, [], false⟩)).running = true ∧
    ¬SensorStopped startTimesOut ⟨false, [], false⟩
      (final (grabOne startTimesOut (fun _ => "") 1000 true ⟨false, [], false⟩)) ∧
    ¬SensorStopped startTimesOut ⟨false, [], false⟩
      (final (grabUntilValidProfile startTimesOut (fun _ => "") 1000 5 true ⟨false, [], false⟩)) := by
  have hconnect : connect startTimesOut ⟨false, [], false⟩ =
      .ok () ⟨true, [.isConnected, .newGdpClient, .gdpIsConnected], false⟩ := rfl
  have hquiet := (keeps_connect startTimesOut).of_ok hconnect
  exact ⟨rfl, rfl, not_sensorStopped_of_start hquiet, not_sensorStopped_of_start hquiet⟩

end Gocator.Acquisition
