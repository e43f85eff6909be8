/-
What each public call does to the facade, wherever the SDK throws in it, and the invariant that holds
between calls: the facade is opened exactly when it has a connection and resources, and a grab in
progress has a client and a data callback. No call follows a null pointer.
-/
import Gocator.Facade.Calls
import Gocator.Lib.Exits

namespace Gocator.Facade

open Exits (bind_ok bind_error tryCatch_ok tryCatch_error)

/-! ## Running a call -/

section

variable {α β : Type} {w w' : World}

theorem catchSdk_ok {body handler : Run α} {a : α} (h : body w = .ok a w') : catchSdk body handler w = .ok a w' :=
  tryCatch_ok h

theorem catchSdk_error {body handler : Run α} (h : body w = .error .sdk w') :
    catchSdk body handler w = handler w' :=
  tryCatch_error h

@[simp] theorem pure_run (a : α) (w : World) : (pure a : Run α) w = .ok a w := rfl

@[simp] theorem get_bind (f : World → Run α) (w : World) : (get >>= f) w = f w w := rfl

@[simp] theorem modify_run (g : World → World) (w : World) : (modify g : Run Unit) w = .ok () (g w) := rfl

@[simp] theorem modify_bind (g : World → World) (f : Unit → Run α) (w : World) :
    ((modify g : Run Unit) >>= f) w = f () (g w) := rfl

@[simp] theorem setImpl_bind (g : Impl → Impl) (f : Unit → Run α) (w : World) :
    (setImpl g >>= f) w = f () { w with impl := g w.impl } := rfl

@[simp] theorem setImpl_run (g : Impl → Impl) (w : World) : setImpl g w = .ok () { w with impl := g w.impl } := rfl

@[simp] theorem notifyStatus_run (status : Status) (on : Bool) (w : World) :
    notifyStatus status on w = .ok () { w with told := w.told ++ [(status, on)] } := rfl

@[simp] theorem notifyStatus_bind (status : Status) (on : Bool) (f : Unit → Run α) (w : World) :
    (notifyStatus status on >>= f) w = f () { w with told := w.told ++ [(status, on)] } := rfl

theorem theConnection_ok {c : Connection} (h : w.impl.connection = some c) : theConnection w = .ok c w := by
  simp only [theConnection, get_bind, h, pure_run]

theorem theResources_ok (h : w.impl.resources = true) : theResources w = .ok () w := by
  simp only [theResources, get_bind, h, if_true, pure_run]

theorem theGdpClient_ok {c : GdpClient} (h : w.impl.gdpClient = some c) : theGdpClient w = .ok c w := by
  simp only [theGdpClient, get_bind, h, pure_run]

end

theorem sdk_ok {throws : Throws} {site : Site} (h : throws site = false) (w : World) :
    sdk throws site w = .ok () w := by
  simp only [sdk, h, Bool.false_eq_true, if_false]
  rfl

theorem sdk_error {throws : Throws} {site : Site} (h : throws site = true) (w : World) :
    sdk throws site w = .error .sdk w := by
  simp only [sdk, h, if_true]
  rfl

/-- A run through sites that may throw: it ends as `good` says when none of them throws, and is cut off at
the first that does, leaving a world with `bad`. -/
def CutOff {α : Type} (throws : Throws) (sites : List Site) (x : Run α) (w : World)
    (good : EStateM.Result Thrown World α) (bad : Site → World → Prop) : Prop :=
  match sites.find? throws with
  | none => x w = good
  | some site => ∃ w', x w = .error .sdk w' ∧ bad site w'

namespace CutOff

variable {α : Type} {throws : Throws} {site : Site} {sites : List Site} {x y : Run α} {w w' : World}
  {good : EStateM.Result Thrown World α} {bad : Site → World → Prop}

theorem done (h : x w = good) : CutOff throws [] x w good bad := h

/-- A step that does not throw. -/
theorem step (h : x w = y w') (hy : CutOff throws sites y w' good bad) : CutOff throws sites x w good bad := by
  unfold CutOff at *
  rw [h]
  exact hy

/-- The next site throws here, or the run goes on. -/
theorem thrown {f : Unit → Run α} (h : bad site w) (hf : CutOff throws sites (f ()) w good bad) :
    CutOff throws (site :: sites) (sdk throws site >>= f) w good bad := by
  unfold CutOff at *
  rw [List.find?_cons]
  cases ht : throws site with
  | true => exact ⟨w, bind_error (sdk_error ht w), h⟩
  | false =>
    rw [bind_ok (sdk_ok ht w)]
    exact hf

theorem mono {bad' : Site → World → Prop} (h : CutOff throws sites x w good bad)
    (hbad : ∀ site ∈ sites, ∀ w', bad site w' → bad' site w') : CutOff throws sites x w good bad' := by
  unfold CutOff at *
  split at h
  · exact h
  · rename_i site hs
    obtain ⟨w', hrun, hw'⟩ := h
    exact ⟨w', hrun, hbad site (List.mem_of_find?_eq_some hs) w' hw'⟩

end CutOff

/-! ## Stopping and closing -/

/-- The world after `stop`. -/
def World.stopped (w : World) : World :=
  if w.impl.isGrabbing then
    { w with
      impl := { w.impl with isGrabbing := false, stopRequested := true, gdpClient := none, dataCallback := false }
      told := w.told ++ [(.grabbing, false)] }
  else w

theorem stop_run (w : World) : stop w = .ok () w.stopped := by
  unfold stop World.stopped
  rw [get_bind]
  split
  · rfl
  · rfl

/-- The world after the stop worker, if it had yet to run, has run. -/
def World.ran (w : World) : World := if w.worker = .spawned then { w.stopped with worker := .finished } else w

theorem runWorker_run (w : World) : runWorker w = .ok () w.ran := by
  unfold runWorker World.ran
  rw [get_bind]
  split
  · rw [bind_ok (stop_run w), modify_run]
  · rfl

/-- The world after `joinStopWorker`. -/
def World.joined (w : World) : World := { w.ran with worker := .none }

theorem joinStopWorker_run (w : World) : joinStopWorker w = .ok () w.joined := by
  unfold joinStopWorker
  rw [bind_ok (runWorker_run w), modify_run]
  rfl

/-- The members after `close`. -/
def Impl.closed (m : Impl) : Impl :=
  { m with gdpClient := none, resources := false, connection := none, isOpened := false }

/-- The world after `close`. -/
def World.closed (w : World) : World :=
  let w := w.joined.stopped
  { w with
    impl := w.impl.closed
    told := if w.impl.isOpened then w.told ++ [(.connection, false)] else w.told }

theorem close_run (w : World) : close w = .ok () w.closed := by
  unfold close
  rw [bind_ok (joinStopWorker_run w), bind_ok (stop_run _)]
  simp only [setImpl_bind, get_bind, World.closed]
  split
  · rename_i h
    simp only [setImpl_bind, notifyStatus_run, h]
    rfl
  · rename_i h
    rw [Bool.not_eq_true] at h
    simp only [pure_run, h]
    unfold Impl.closed
    rw [← h]

/-! ## Opening -/

/-- The places where `open` can throw, in order. -/
def openSites : List Site := [.resolveTarget, .newConnection, .newResources, .connect, .openGdpPort]

/-- The members once the connection is up. -/
def Impl.opened (m : Impl) (address : String) : Impl :=
  { m with connection := some ⟨address⟩, resources := true, ipAddress := address, isOpened := true }

/-- The world after an `open` that succeeds. -/
def World.opened (w : World) (address : String) : World :=
  { w with impl := w.impl.opened address, told := w.told ++ [(.connection, true)] }

/-- A session that is half built when `open` fails: only the last site is behind the flag. -/
structure HalfOpened (w w' : World) (site : Site) : Prop where
  isOpened : w'.impl.isOpened = (w.impl.isOpened || site = .openGdpPort)
  isGrabbing : w'.impl.isGrabbing = w.impl.isGrabbing
  worker : w'.worker = w.worker
  told : w'.told = w.told

theorem openSession_run (throws : Throws) (address : String) (w : World) :
    CutOff throws openSites (openSession throws address) w (.ok true (w.opened address))
      fun site w' => HalfOpened w w' site := by
  unfold openSites openSession
  refine .thrown ⟨by simp, rfl, rfl, rfl⟩ ?_
  refine .thrown ⟨by simp, rfl, rfl, rfl⟩ ?_
  refine .step (setImpl_bind ..) (.step (bind_ok (theConnection_ok rfl)) ?_)
  refine .thrown ⟨by simp, rfl, rfl, rfl⟩ ?_
  refine .step (setImpl_bind ..) (.step (bind_ok (theConnection_ok rfl)) ?_)
  refine .thrown ⟨by simp, rfl, rfl, rfl⟩ ?_
  refine .step (bind_ok (theConnection_ok rfl)) (.step (setImpl_bind ..) (.step (setImpl_bind ..) ?_))
  refine .step (bind_ok (theConnection_ok rfl)) (.thrown ⟨by simp, rfl, rfl, rfl⟩ ?_)
  exact .done rfl

/-! ## Grabbing -/

/-- The places where `grab` can throw, in order. -/
def grabSites : List Site :=
  [.newGdpClient, .address, .gdpPort, .gdpConnect, .logGdpPort, .receiveDataAsync, .start]

/-- The sites of `grab` behind the flag. -/
def Site.afterFlag : Site → Bool
  | .receiveDataAsync | .start => true
  | _ => false

/-- The world after a `grab` that succeeds. -/
def World.grabbing (w : World) (frames : Nat) : World :=
  { w with
    impl := { w.impl with
      gdpClient := some ⟨0, some .waiting⟩
      frameSeq := 0
      frameTarget := frames
      stopRequested := false
      isGrabbing := true
      dataCallback := true }
    told := w.told ++ [(.grabbing, true)] }

/-- The members `grab` has set when a call of the SDK throws in it. -/
def Impl.halfGrabbing (m : Impl) (frames : Nat) : Site → Impl
  | .newGdpClient => m
  | .receiveDataAsync =>
    { m with
      gdpClient := some ⟨0, none⟩
      frameSeq := 0
      frameTarget := frames
      stopRequested := false
      isGrabbing := true
      dataCallback := true }
  | .start =>
    { m with
      gdpClient := some ⟨0, some .waiting⟩
      frameSeq := 0
      frameTarget := frames
      stopRequested := false
      isGrabbing := true
      dataCallback := true }
  | _ => { m with gdpClient := some ⟨0, none⟩ }

/-- The world when a `grab` fails, before its handler runs. -/
def World.halfGrabbing (w : World) (frames : Nat) (site : Site) : World :=
  { w with impl := w.impl.halfGrabbing frames site }

theorem grabSession_cutOff (throws : Throws) (frames : Nat) {w : World} {c : Connection}
    (hc : w.impl.connection = some c) :
    CutOff throws grabSites (grabSession throws frames) w (.ok () (w.grabbing frames))
      fun site w' => w' = w.halfGrabbing frames site := by
  unfold grabSites grabSession
  refine .thrown rfl ?_
  refine .step (setImpl_bind ..) (.step (bind_ok (theGdpClient_ok rfl)) (.step (bind_ok (theConnection_ok hc)) ?_))
  refine .thrown rfl ?_
  refine .step (bind_ok (theConnection_ok hc)) (.thrown rfl ?_)
  refine .thrown rfl ?_
  refine .step (bind_ok (theConnection_ok hc)) (.thrown rfl ?_)
  -- from here on the flag is set
  refine .step (setImpl_bind ..) (.step (setImpl_bind ..) (.step (setImpl_bind ..) ?_))
  refine .step (bind_ok (theGdpClient_ok rfl)) (.thrown rfl ?_)
  refine .step (setImpl_bind ..) (.step (bind_ok (theConnection_ok hc)) ?_)
  refine .thrown rfl ?_
  exact .done rfl

/-- A session that is half started when `grab` fails. -/
structure HalfGrabbing (w w' : World) (site : Site) : Prop where
  isGrabbing : w'.impl.isGrabbing = (w.impl.isGrabbing || site.afterFlag)
  isOpened : w'.impl.isOpened = w.impl.isOpened
  connection : w'.impl.connection = w.impl.connection
  resources : w'.impl.resources = w.impl.resources
  told : w'.told = w.told

theorem halfGrabbing_effect (w : World) (frames : Nat) {site : Site} (h : site ∈ grabSites) :
    HalfGrabbing w (w.halfGrabbing frames site) site := by
  simp only [grabSites, List.mem_cons, List.not_mem_nil, or_false] at h
  rcases h with rfl | rfl | rfl | rfl | rfl | rfl | rfl <;> refine ⟨?_, rfl, rfl, rfl, rfl⟩
  all_goals first | exact (Bool.or_false _).symm | exact (Bool.or_true _).symm

theorem grabSession_run (throws : Throws) (frames : Nat) {w : World} {c : Connection}
    (hc : w.impl.connection = some c) :
    CutOff throws grabSites (grabSession throws frames) w (.ok () (w.grabbing frames))
      fun site w' => HalfGrabbing w w' site :=
  (grabSession_cutOff throws frames hc).mono fun _ hsite _ h => h ▸ halfGrabbing_effect w frames hsite

/-! ## The invariant -/

/-- What holds between calls. -/
structure Inv (w : World) : Prop where
  connection : w.impl.isOpened = w.impl.connection.isSome
  resources : w.impl.isOpened = w.impl.resources
  opened : w.impl.isGrabbing = true → w.impl.isOpened = true
  client : w.impl.isGrabbing = true → w.impl.gdpClient.isSome = true
  callback : w.impl.isGrabbing = true → w.impl.dataCallback = true

theorem inv_fresh (observers callbacks : Registry) : Inv (.fresh observers callbacks) :=
  ⟨rfl, rfl, nofun, nofun, nofun⟩

@[simp] theorem stopped_isGrabbing (w : World) : w.stopped.impl.isGrabbing = false := by
  unfold World.stopped
  split
  · rfl
  · rename_i h
    exact Bool.eq_false_iff.2 h

theorem stopped_frame (w : World) : w.stopped.impl.isOpened = w.impl.isOpened ∧
    w.stopped.impl.connection = w.impl.connection ∧ w.stopped.impl.resources = w.impl.resources ∧
    w.stopped.worker = w.worker := by
  unfold World.stopped
  split <;> exact ⟨rfl, rfl, rfl, rfl⟩

/-- `stop` repairs every state in which the pointers agree with the flag. -/
theorem inv_stopped {w : World} (hc : w.impl.isOpened = w.impl.connection.isSome)
    (hr : w.impl.isOpened = w.impl.resources) : Inv w.stopped := by
  obtain ⟨ho, hconn, hres, -⟩ := stopped_frame w
  have hg := stopped_isGrabbing w
  refine ⟨?_, ?_, ?_, ?_, ?_⟩
  · rw [ho, hconn]
    exact hc
  · rw [ho, hres]
    exact hr
  all_goals
    rw [hg]
    exact nofun

theorem Inv.stopped {w : World} (h : Inv w) : Inv w.stopped := inv_stopped h.connection h.resources

theorem Inv.ran {w : World} (h : Inv w) : Inv w.ran := by
  unfold World.ran
  split
  · exact ⟨h.stopped.connection, h.stopped.resources, h.stopped.opened, h.stopped.client, h.stopped.callback⟩
  · exact h

theorem Inv.joined {w : World} (h : Inv w) : Inv w.joined :=
  ⟨h.ran.connection, h.ran.resources, h.ran.opened, h.ran.client, h.ran.callback⟩

/-- `close` repairs every state. -/
theorem inv_closed (w : World) : Inv w.closed := by
  have hg : w.closed.impl.isGrabbing = false := stopped_isGrabbing _
  refine ⟨rfl, rfl, ?_, ?_, ?_⟩ <;>
    rw [hg] <;> exact nofun

/-! ## One call -/

/-- How an `open` can end. -/
inductive OpenEffect (throws : Throws) (address : String) (w : World) : World → Prop where
  | skipped (h : w.impl.isOpened = true) : OpenEffect throws address w w
  | succeeded (h : w.impl.isOpened = false) (hs : openSites.find? throws = none) :
    OpenEffect throws address w (w.opened address)
  | failed {site : Site} {half : World} (h : w.impl.isOpened = false) (hs : openSites.find? throws = some site)
    (hh : HalfOpened w half site) : OpenEffect throws address w half.closed

theorem open_run (throws : Throws) (address : String) (w : World) :
    ∃ r w', Facade.open throws address w = .ok r w' ∧ OpenEffect throws address w w' := by
  unfold Facade.open
  rw [get_bind]
  cases h : w.impl.isOpened with
  | true => exact ⟨true, w, rfl, .skipped h⟩
  | false =>
    simp only [Bool.false_eq_true, if_false]
    have hrun := openSession_run throws address w
    unfold CutOff at hrun
    cases hs : openSites.find? throws with
    | none =>
      rw [hs] at hrun
      exact ⟨true, _, catchSdk_ok hrun, .succeeded h hs⟩
    | some site =>
      rw [hs] at hrun
      obtain ⟨half, herr, hh⟩ := hrun
      refine ⟨false, half.closed, ?_, .failed h hs hh⟩
      rw [catchSdk_error herr, bind_ok (close_run half), pure_run]

/-- How a `grab` can end, once the stop worker is joined. -/
inductive GrabEffect (throws : Throws) (frames : Nat) (w : World) : World → Prop where
  | skipped (h : w.impl.isOpened = false ∨ w.impl.isGrabbing = true) : GrabEffect throws frames w w
  | succeeded (ho : w.impl.isOpened = true) (hg : w.impl.isGrabbing = false) (hs : grabSites.find? throws = none) :
    GrabEffect throws frames w (w.grabbing frames)
  | failed {site : Site} {half : World} (ho : w.impl.isOpened = true) (hg : w.impl.isGrabbing = false)
    (hs : grabSites.find? throws = some site) (hh : HalfGrabbing w half site) :
    GrabEffect throws frames w half.stopped

theorem grab_run (throws : Throws) (frames : Nat) {w : World} (hw : Inv w) :
    ∃ w', Facade.grab throws frames w = .ok () w' ∧ GrabEffect throws frames w.joined w' := by
  unfold Facade.grab
  rw [bind_ok (joinStopWorker_run w), get_bind]
  split
  · rename_i h
    obtain ⟨ho, hg⟩ := h
    obtain ⟨c, hc⟩ := Option.isSome_iff_exists.1 (hw.joined.connection.symm.trans ho)
    have hrun := grabSession_run throws frames hc
    unfold CutOff at hrun
    cases hs : grabSites.find? throws with
    | none =>
      rw [hs] at hrun
      exact ⟨_, catchSdk_ok hrun, .succeeded ho hg hs⟩
    | some site =>
      rw [hs] at hrun
      obtain ⟨half, herr, hh⟩ := hrun
      exact ⟨half.stopped, (catchSdk_error herr).trans (stop_run half), .failed ho hg hs hh⟩
  · rename_i h
    refine ⟨w.joined, rfl, .skipped ?_⟩
    cases ho : w.joined.impl.isOpened with
    | false => exact .inl rfl
    | true =>
      cases hg : w.joined.impl.isGrabbing with
      | false => exact absurd ⟨ho, hg⟩ h
      | true => exact .inr rfl

/-- With resources, the computation changes nothing, whether or not the SDK throws in it. -/
def Harmless (x : Run Unit) : Prop :=
  ∀ w : World, w.impl.resources = true → x w = .ok () w ∨ x w = .error .sdk w

theorem harmless_sdk (throws : Throws) (site : Site) : Harmless (sdk throws site) := by
  intro w _
  cases h : throws site with
  | true => exact .inr (sdk_error h w)
  | false => exact .inl (sdk_ok h w)

theorem harmless_theResources : Harmless theResources := fun _ h => .inl (theResources_ok h)

theorem Harmless.bind {x : Run Unit} {f : Unit → Run Unit} (hx : Harmless x) (hf : Harmless (f ())) :
    Harmless (x >>= f) := by
  intro w hw
  rcases hx w hw with h | h
  · rw [bind_ok h]
    exact hf w hw
  · exact .inr (bind_error h)

theorem harmless_request (throws : Throws) (site : Site) : Harmless (request throws site) :=
  harmless_theResources.bind (harmless_sdk throws site)

theorem whenOpened_run {body : Run Unit} (h : Harmless body) {w : World} (hw : Inv w) :
    whenOpened body w = .ok () w := by
  unfold whenOpened
  rw [get_bind]
  split
  · rename_i ho
    rcases h w (hw.resources.symm.trans ho) with hb | hb
    · exact catchSdk_ok hb
    · rw [catchSdk_error hb, pure_run]
  · rfl

theorem configure_run (throws : Throws) {w : World} (hw : Inv w) : configure throws w = .ok () w :=
  whenOpened_run (.bind harmless_theResources (.bind (harmless_request _ _) (.bind (harmless_request _ _)
    (.bind (harmless_request _ _) (.bind (harmless_request _ _) (.bind harmless_theResources
      (harmless_request _ _))))))) hw

theorem setParameterValue_run (throws : Throws) {w : World} (hw : Inv w) : setParameterValue throws w = .ok () w :=
  whenOpened_run (.bind (harmless_sdk _ _) (.bind (harmless_sdk _ _) (harmless_request _ _))) hw

/-- What a delivered data set leaves as it is. -/
structure Delivered (w w' : World) : Prop where
  isOpened : w'.impl.isOpened = w.impl.isOpened
  isGrabbing : w'.impl.isGrabbing = w.impl.isGrabbing
  connection : w'.impl.connection = w.impl.connection
  resources : w'.impl.resources = w.impl.resources
  gdpClient : w'.impl.gdpClient = w.impl.gdpClient
  dataCallback : w'.impl.dataCallback = w.impl.dataCallback
  told : w'.told = w.told

theorem requestStop_run (w : World) : ∃ w', requestStopFromCallback w = .ok () w' ∧ Delivered w w' := by
  unfold requestStopFromCallback
  rw [get_bind]
  split
  · exact ⟨w, rfl, rfl, rfl, rfl, rfl, rfl, rfl, rfl⟩
  · rw [setImpl_bind]
    split
    · exact ⟨_, rfl, rfl, rfl, rfl, rfl, rfl, rfl, rfl⟩
    · exact ⟨_, rfl, rfl, rfl, rfl, rfl, rfl, rfl, rfl⟩

theorem handleData_run (w : World) : ∃ w', handleData w = .ok () w' ∧ Delivered w w' := by
  unfold handleData
  rw [get_bind]
  split
  · rw [setImpl_bind, get_bind]
    split
    · obtain ⟨w', hrun, h⟩ := requestStop_run { w with impl := { w.impl with frameSeq := w.impl.frameSeq + 1 } }
      exact ⟨w', hrun, h.isOpened, h.isGrabbing, h.connection, h.resources, h.gdpClient, h.dataCallback, h.told⟩
    · exact ⟨_, rfl, rfl, rfl, rfl, rfl, rfl, rfl, rfl⟩
  · exact ⟨w, rfl, rfl, rfl, rfl, rfl, rfl, rfl, rfl⟩

theorem destroy_run (w : World) : destroy w = .ok () w.closed.closed.joined := by
  unfold destroy
  rw [bind_ok (close_run w), bind_ok (close_run _), joinStopWorker_run]

theorem inv_open {throws : Throws} {address : String} {w w' : World} (hw : Inv w)
    (h : OpenEffect throws address w w') : Inv w' := by
  cases h with
  | skipped => exact hw
  | succeeded ho =>
    have hg : w.impl.isGrabbing = false := by
      rw [← Bool.not_eq_true]
      intro hg
      rw [hw.opened hg] at ho
      cases ho
    have hg' : (w.opened address).impl.isGrabbing = false := hg
    refine ⟨rfl, rfl, ?_, ?_, ?_⟩ <;> rw [hg'] <;> exact nofun
  | failed => exact inv_closed _

theorem inv_grab {throws : Throws} {frames : Nat} {w w' : World} (hw : Inv w) (h : GrabEffect throws frames w w') :
    Inv w' := by
  cases h with
  | skipped => exact hw
  | succeeded ho => exact ⟨hw.connection, hw.resources, fun _ => ho, fun _ => rfl, fun _ => rfl⟩
  | failed ho hg hs hh =>
    refine inv_stopped ?_ ?_
    · rw [hh.isOpened, hh.connection]
      exact hw.connection
    · rw [hh.isOpened, hh.resources]
      exact hw.resources

theorem Inv.delivered {w w' : World} (hw : Inv w) (h : Delivered w w') : Inv w' := by
  refine ⟨?_, ?_, ?_, ?_, ?_⟩
  · rw [h.isOpened, h.connection]
    exact hw.connection
  · rw [h.isOpened, h.resources]
    exact hw.resources
  · rw [h.isGrabbing, h.isOpened]
    exact hw.opened
  · rw [h.isGrabbing, h.gdpClient]
    exact hw.client
  · rw [h.isGrabbing, h.dataCallback]
    exact hw.callback

/-- How a call can end. -/
inductive Effect (throws : Throws) (w : World) : Call → World → Prop where
  | opened {address : String} {w' : World} (h : OpenEffect throws address w w') : Effect throws w (.open address) w'
  | grabbed {frames : Nat} {w' : World} (h : GrabEffect throws frames w.joined w') : Effect throws w (.grab frames) w'
  | closed : Effect throws w .close w.closed
  | configured : Effect throws w .configure w
  | valueSet : Effect throws w .setParameterValue w
  | schemaRead : Effect throws w .getParametersSchema w
  | dataRead : Effect throws w .getParametersData w
  | stopped : Effect throws w .stop w.stopped
  | destroyed : Effect throws w .destroy w.closed.closed.joined
  | delivered {w' : World} (h : Delivered w w') : Effect throws w .deliver w'
  | workerRan : Effect throws w .runWorker w.ran

/-- Every call returns. -/
theorem call_run (c : Call) (throws : Throws) {w : World} (hw : Inv w) :
    ∃ w', c.run throws w = .ok () w' ∧ Effect throws w c w' := by
  cases c with
  | «open» address =>
    obtain ⟨r, w', hrun, h⟩ := open_run throws address w
    exact ⟨w', (bind_ok hrun).trans (pure_run ..), .opened h⟩
  | close => exact ⟨_, close_run w, .closed⟩
  | configure => exact ⟨w, configure_run throws hw, .configured⟩
  | setParameterValue => exact ⟨w, setParameterValue_run throws hw, .valueSet⟩
  | getParametersSchema => exact ⟨w, whenOpened_run (harmless_request _ _) hw, .schemaRead⟩
  | getParametersData => exact ⟨w, whenOpened_run (harmless_request _ _) hw, .dataRead⟩
  | grab frames =>
    obtain ⟨w', hrun, h⟩ := grab_run throws frames hw
    exact ⟨w', hrun, .grabbed h⟩
  | stop => exact ⟨_, stop_run w, .stopped⟩
  | destroy => exact ⟨_, destroy_run w, .destroyed⟩
  | deliver =>
    obtain ⟨w', hrun, h⟩ := handleData_run w
    exact ⟨w', hrun, .delivered h⟩
  | runWorker => exact ⟨_, runWorker_run w, .workerRan⟩

/-- Every call keeps the invariant. -/
theorem inv_effect {c : Call} {throws : Throws} {w w' : World} (hw : Inv w) (h : Effect throws w c w') : Inv w' := by
  cases h with
  | opened h => exact inv_open hw h
  | grabbed h => exact inv_grab hw.joined h
  | closed => exact inv_closed w
  | configured | valueSet | schemaRead | dataRead => exact hw
  | stopped => exact hw.stopped
  | destroyed => exact (inv_closed _).joined
  | delivered h => exact hw.delivered h
  | workerRan => exact hw.ran

theorem runCalls_run : ∀ (calls : List (Call × Throws)) {w : World}, Inv w →
    ∃ w', runCalls calls w = .ok () w' ∧ Inv w'
  | [], w, hw => ⟨w, rfl, hw⟩
  | (c, throws) :: calls, w, hw => by
    obtain ⟨w₁, hrun, h⟩ := call_run c throws hw
    obtain ⟨w', hrest, hw'⟩ := runCalls_run calls (inv_effect hw h)
    exact ⟨w', (bind_ok hrun).trans hrest, hw'⟩

/-- Every sequence of calls returns, following no null pointer, and leaves the invariant. -/
theorem facade_invariant (observers callbacks : Registry) (calls : List (Call × Throws)) :
    ∃ w, runCalls calls (.fresh observers callbacks) = .ok () w ∧
      (w.impl.isOpened = true ↔ w.impl.connection.isSome = true) ∧
      (w.impl.connection.isSome = true ↔ w.impl.resources = true) ∧
      (w.impl.isGrabbing = true →
        w.impl.isOpened = true ∧ w.impl.gdpClient.isSome = true ∧ w.impl.dataCallback = true) := by
  obtain ⟨w, hrun, hw⟩ := runCalls_run calls (inv_fresh observers callbacks)
  refine ⟨w, hrun, ?_, ?_, fun hg => ⟨hw.opened hg, hw.client hg, hw.callback hg⟩⟩
  · rw [hw.connection]
  · rw [← hw.connection, hw.resources]

end Gocator.Facade
