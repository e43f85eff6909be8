/-
The invariant that ties the stop mutex, the live client and the threads in `stop` together: at most
one thread is inside the locked section, and data arrives only for a session that is marked in
`isGrabbing` or that some thread has already begun to take down. It holds in every run, whatever
the order of the steps and whichever SDK calls throw.
-/
import Gocator.Threads.StepCases

namespace Gocator.Threads

open Gocator.Facade

/-! ## Where the threads stand -/

/-- The thread is inside the section that `stopMutex` protects. -/
def StopPc.holds : StopPc → Bool
  | .lock | .returned => false
  | _ => true

/-- The exchange has found a session, and its client has not been dropped yet. -/
def StopPc.tearing : StopPc → Bool
  | .storeRequested | .stopSensor | .testClient | .closeClient | .resetClient => true
  | _ => false

/-- The exchange is done. -/
def StopPc.cleared : StopPc → Bool
  | .lock | .exchangeGrabbing => false
  | _ => true

/-- Where the application thread stands in `stop`. -/
def AppPc.stopPc : AppPc → Option StopPc
  | .stop _ pc => some pc
  | _ => none

/-- The application thread has assigned a new client and not started to receive from it. -/
def AppPc.building : AppPc → Bool
  | .session _ _ (.notify _) | .session _ _ .start => false
  | .session _ _ _ => true
  | _ => false

/-- The application thread has marked the session and not started to receive. -/
def AppPc.armed : AppPc → Bool
  | .session _ _ .setCallback | .session _ _ .receive => true
  | _ => false

namespace State

/-- The threads in `stop`: the application thread, the member worker, the worker being joined. -/
def stops (s : State) : List StopPc := s.app.stopPc.toList ++ s.stopWorker.toList ++ s.worker.toList

/-- The threads inside the lock. -/
def inside (s : State) : List StopPc := s.stops.filter (·.holds)

/-- Some thread has found the session and not dropped its client yet. -/
def tearing (s : State) : Bool := s.inside.any (·.tearing)

end State

theorem State.mem_stops {s : State} {pc : StopPc} :
    pc ∈ s.stops ↔ s.app.stopPc = some pc ∨ s.stopWorker = some pc ∨ s.worker = some pc := by
  simp [State.stops]

theorem StopPc.holds_of_tearing {pc : StopPc} (h : pc.tearing = true) : pc.holds = true := by
  cases pc <;> first | rfl | cases h

/-! ## What one step of `stop` does -/

/-- What one step of `stop` does to the lock, the mark, the client and the rest. -/
structure StopEffect (m : Impl) (pc : StopPc) (m' : Impl) (pc' : StopPc) : Prop where
  lock : (pc.holds = true → m.stopMutex = true) →
    m'.stopMutex.toNat + pc.holds.toNat = m.stopMutex.toNat + pc'.holds.toNat
  grabbing : m'.isGrabbing = true → m.isGrabbing = true
  cleared : m.isGrabbing = true → m'.isGrabbing = false → pc'.tearing = true
  clears : pc'.cleared = true → pc.cleared = false → m'.isGrabbing = false
  torn : pc.tearing = true → pc'.tearing = true ∨ m'.gdpClient = none
  client : Released m.gdpClient m'.gdpClient
  opened : m'.isOpened = m.isOpened
  frames : m'.frameSeq = m.frameSeq ∧ m'.frameTarget = m.frameTarget
  registries : m'.statusObservers = m.statusObservers ∧ m'.grabCallbacks = m.grabCallbacks

/-- A step inside the lock after the exchange. -/
theorem StopEffect.of_cleared {m m' : Impl} {pc pc' : StopPc} (hp : pc.holds = true) (hp' : pc'.holds = true)
    (hc : pc.cleared = true) (hm : m'.stopMutex = m.stopMutex) (hg : m'.isGrabbing = m.isGrabbing)
    (ht : pc.tearing = true → pc'.tearing = true ∨ m'.gdpClient = none) (hr : Released m.gdpClient m'.gdpClient)
    (ho : m'.isOpened = m.isOpened) (hf : m'.frameSeq = m.frameSeq ∧ m'.frameTarget = m.frameTarget)
    (hreg : m'.statusObservers = m.statusObservers ∧ m'.grabCallbacks = m.grabCallbacks) :
    StopEffect m pc m' pc' := by
  refine ⟨fun _ => ?_, fun h => ?_, fun h h' => ?_, fun _ h => ?_, ht, hr, ho, hf, hreg⟩
  · rw [hm, hp, hp']
  · rw [← hg]; exact h
  · rw [hg, h] at h'; cases h'
  · rw [hc] at h; cases h

theorem stopStep_effect {ok : Bool} {m m' : Impl} {pc pc' : StopPc} {evs : List Event}
    (h : stopStep ok m pc = some (.next m' pc' evs)) : StopEffect m pc m' pc' := by
  cases pc with
  | lock =>
    simp only [stopStep] at h
    split at h <;> cases h
    rename_i hm
    refine ⟨fun _ => ?_, id, fun h h' => ?_, Bool.noConfusion, Bool.noConfusion, .inl rfl, rfl, ⟨rfl, rfl⟩,
      ⟨rfl, rfl⟩⟩
    · rw [Bool.of_not_eq_true hm]
      rfl
    · rw [h] at h'; cases h'
  | exchangeGrabbing =>
    simp only [stopStep] at h
    cases hg : m.isGrabbing with
    | true =>
      rw [hg] at h
      cases h
      exact ⟨fun _ => rfl, Bool.noConfusion, fun _ _ => rfl, fun _ _ => rfl, Bool.noConfusion, .inl rfl, rfl,
        ⟨rfl, rfl⟩, ⟨rfl, rfl⟩⟩
    | false =>
      rw [hg] at h
      cases h
      refine ⟨fun _ => rfl, Bool.noConfusion, fun h _ => ?_, fun _ _ => rfl, Bool.noConfusion, .inl rfl, rfl,
        ⟨rfl, rfl⟩, ⟨rfl, rfl⟩⟩
      rw [hg] at h
      cases h
  | testClient =>
    simp only [stopStep] at h
    cases h
    cases hc : m.gdpClient with
    | none => exact .of_cleared rfl rfl rfl rfl rfl (fun _ => .inr hc) (.inl rfl) rfl ⟨rfl, rfl⟩ ⟨rfl, rfl⟩
    | some c => exact .of_cleared rfl rfl rfl rfl rfl (fun _ => .inl rfl) (.inl rfl) rfl ⟨rfl, rfl⟩ ⟨rfl, rfl⟩
  | closeClient =>
    simp only [stopStep] at h
    split at h
    · cases h
    · rename_i c hc
      split at h
      · split at h <;> cases h
        rename_i hb
        exact .of_cleared rfl rfl rfl rfl rfl (fun _ => .inl rfl) (.inr (.inr ⟨c, hc, Bool.of_not_eq_true hb, rfl⟩))
          rfl ⟨rfl, rfl⟩ ⟨rfl, rfl⟩
      · cases h
        exact .of_cleared rfl rfl rfl rfl rfl (fun _ => .inl rfl) (.inl rfl) rfl ⟨rfl, rfl⟩ ⟨rfl, rfl⟩
  | resetClient =>
    simp only [stopStep] at h
    split at h <;> cases h
    exact .of_cleared rfl rfl rfl rfl rfl (fun _ => .inr rfl) (.inr (.inl rfl)) rfl ⟨rfl, rfl⟩ ⟨rfl, rfl⟩
  | notify n =>
    simp only [stopStep] at h
    split at h <;> cases h <;>
      exact .of_cleared rfl rfl rfl rfl rfl Bool.noConfusion (.inl rfl) rfl ⟨rfl, rfl⟩ ⟨rfl, rfl⟩
  | unlock =>
    cases h
    refine ⟨fun hl => ?_, id, fun h h' => ?_, fun _ h => ?_, Bool.noConfusion, .inl rfl, rfl, ⟨rfl, rfl⟩, ⟨rfl, rfl⟩⟩
    · rw [hl rfl]
      rfl
    · rw [h] at h'; cases h'
    · cases h
  | returned => cases h
  | storeRequested | stopSensor =>
    cases h
    exact .of_cleared rfl rfl rfl rfl rfl (fun _ => .inl rfl) (.inl rfl) rfl ⟨rfl, rfl⟩ ⟨rfl, rfl⟩
  | clearCallback =>
    cases h
    exact .of_cleared rfl rfl rfl rfl rfl Bool.noConfusion (.inl rfl) rfl ⟨rfl, rfl⟩ ⟨rfl, rfl⟩

/-- The events of `stop` are grabbing statuses. -/
theorem stopStep_status {ok : Bool} {m m' : Impl} {pc pc' : StopPc} {evs : List Event}
    (h : stopStep ok m pc = some (.next m' pc' evs)) : ∀ e ∈ evs, ∃ o, e = .status .grabbing false o := by
  cases pc with
  | notify n =>
    simp only [stopStep] at h
    split at h <;> cases h <;> rename_i hn <;> exact notifyStep_status hn
  | lock | resetClient =>
    simp only [stopStep] at h
    split at h <;> cases h
    simp
  | closeClient =>
    simp only [stopStep] at h
    split at h
    · cases h
    · split at h
      · split at h <;> cases h
        simp
      · cases h; simp
  | returned => cases h
  | _ => cases h; simp

/-! ## The invariant -/

/-- The lock of `stop` is exclusive, and a client that receives data belongs to a marked session or to one that a
thread is taking down. -/
structure LiveInv (s : State) : Prop where
  /-- At most one thread is inside `stop`'s lock, and the mutex tells whether there is one. -/
  exclusive : s.inside.length = s.impl.stopMutex.toNat
  joining : s.worker ≠ none → ∃ k, s.app = .joinWait k
  /-- Data arrives only for a marked session, or for one that some thread is taking down. -/
  live : s.impl.receiving = true → s.impl.isGrabbing = true ∨ s.tearing = true
  armed : s.app.armed = true → s.impl.gdpClient = none ∨ s.impl.isGrabbing = true ∨ s.tearing = true
  building : s.app.building = true → s.impl.receiving = false
  cleared : ∀ pc, s.app.stopPc = some pc → pc.cleared = true → s.impl.isGrabbing = false

theorem liveInv_init (observers callbacks : Registry) : LiveInv (init observers callbacks) := by
  constructor <;>
    simp [init, Impl.fresh, State.inside, State.stops, AppPc.stopPc, Impl.receiving, AppPc.armed, AppPc.building]

section

variable {ok : Bool} {s s' : State} {evs : List Event}

theorem liveInv_fail (hI : LiveInv s) : LiveInv s.fail := ⟨hI.1, hI.2, hI.3, hI.4, hI.5, hI.6⟩

theorem LiveInv.locked (hI : LiveInv s) {pc : StopPc} (hm : pc ∈ s.stops) (hp : pc.holds = true) :
    s.impl.stopMutex = true := by
  have hpos : 0 < s.inside.length := List.length_pos_of_mem (List.mem_filter.2 ⟨hm, hp⟩)
  rw [hI.exclusive] at hpos
  cases hx : s.impl.stopMutex
  · rw [hx] at hpos; exact absurd hpos (by decide)
  · rfl

theorem State.tearing_eq : s.tearing = s.stops.any (·.tearing) := by
  unfold State.tearing State.inside
  rw [List.any_filter]
  refine congrArg s.stops.any (funext fun pc => ?_)
  cases ht : pc.tearing
  · exact Bool.and_false _
  · rw [StopPc.holds_of_tearing ht]; rfl

/-- The invariant is kept when a thread in `stop` takes a step, whichever slot it is in. -/
theorem liveInv_stop {m' : Impl} {pc pc' : StopPc} {l r : List StopPc} (hI : LiveInv s)
    (hs : s.stops = l ++ pc :: r) (he : StopEffect s.impl pc m' pc') (hs' : s'.stops = l ++ pc' :: r)
    (hm : s'.impl = m') (hj : s'.worker ≠ none → ∃ k, s'.app = .joinWait k)
    (ha : s'.app.armed = true → s.app.armed = true) (hb : s'.app.building = true → s.app.building = true)
    (hc : ∀ pc, s'.app.stopPc = some pc → pc.cleared = true → m'.isGrabbing = false) : LiveInv s' := by
  have hlock := he.lock fun hp => hI.locked (by rw [hs]; simp) hp
  have htear : s.tearing = true → s'.tearing = true ∨ m'.gdpClient = none := by
    intro ht
    rw [State.tearing_eq, hs] at ht
    rw [State.tearing_eq, hs']
    simp only [List.any_append, List.any_cons, Bool.or_eq_true] at ht ⊢
    rcases ht with ht | ht | ht
    · exact .inl (.inl ht)
    · rcases he.torn ht with ht | ht
      · exact .inl (.inr (.inl ht))
      · exact .inr ht
    · exact .inl (.inr (.inr ht))
  -- while the session is marked or being torn down, the step leaves it so or drops the client
  have hkeep : s.impl.isGrabbing = true ∨ s.tearing = true →
      m'.gdpClient = none ∨ m'.isGrabbing = true ∨ s'.tearing = true := by
    rintro (hg | ht)
    · cases hg' : m'.isGrabbing
      · have := he.cleared hg hg'
        refine .inr (.inr ?_)
        rw [State.tearing_eq, hs']
        simp [this]
      · exact .inr (.inl rfl)
    · rcases htear ht with ht | ht
      · exact .inr (.inr ht)
      · exact .inl ht
  refine ⟨?_, hj, fun hr => ?_, fun harm => ?_, fun hbld => ?_, ?_⟩
  · have hx := hI.exclusive
    unfold State.inside at hx ⊢
    rw [hs, List.filter_append, List.filter_cons] at hx
    rw [hs', hm, List.filter_append, List.filter_cons]
    cases hp : pc.holds <;> cases hp' : pc'.holds <;> simp [hp, hp'] at hlock hx ⊢ <;> omega
  · rw [hm] at hr ⊢
    have hrs : s.impl.receiving = true := by
      rcases he.client.receiving with hcl | hcl
      · unfold Impl.receiving at hr ⊢; rw [← hcl]; exact hr
      · rw [hcl] at hr; cases hr
    rcases hkeep (hI.live hrs) with hn | h
    · unfold Impl.receiving at hr; rw [hn] at hr; cases hr
    · exact h
  · rw [hm]
    rcases hI.armed (ha harm) with hn | h
    · exact .inl (he.client.none hn)
    · exact hkeep h
  · rw [hm]
    have hrs := hI.building (hb hbld)
    rcases he.client.receiving with hcl | hcl
    · unfold Impl.receiving at hrs ⊢; rw [hcl]; exact hrs
    · exact hcl
  · rw [hm]; exact hc

theorem grabbing_kept {m m' : Impl} {pc pc' : StopPc} (he : StopEffect m pc m' pc') (h : m.isGrabbing = false) :
    m'.isGrabbing = false := by
  cases hg : m'.isGrabbing
  · rfl
  · rw [he.grabbing hg] at h; cases h

theorem liveInv_stopWorker {m' : Impl} {pc pc' : StopPc} (hI : LiveInv s) (hw : s.stopWorker = some pc)
    (he : StopEffect s.impl pc m' pc') : LiveInv { s with impl := m', stopWorker := some pc' } := by
  refine liveInv_stop (l := s.app.stopPc.toList) (r := s.worker.toList) hI ?_ he ?_ rfl hI.joining id id
    fun q hq hc => grabbing_kept he (hI.cleared q hq hc)
  · simp [State.stops, hw]
  · simp [State.stops]

theorem liveInv_worker {m' : Impl} {pc pc' : StopPc} (hI : LiveInv s) (hw : s.worker = some pc)
    (he : StopEffect s.impl pc m' pc') : LiveInv { s with impl := m', worker := some pc' } := by
  refine liveInv_stop (l := s.app.stopPc.toList ++ s.stopWorker.toList) (r := []) hI ?_ he ?_ rfl
    (fun _ => hI.joining (by simp [hw])) id id fun q hq hc => grabbing_kept he (hI.cleared q hq hc)
  · simp [State.stops, hw]
  · simp [State.stops]

theorem liveInv_appStop {m' : Impl} {k : StopCaller} {pc pc' : StopPc} (hI : LiveInv s) (ha : s.app = .stop k pc)
    (he : StopEffect s.impl pc m' pc') : LiveInv { s with impl := m', app := .stop k pc' } := by
  refine liveInv_stop (l := []) (r := s.stopWorker.toList ++ s.worker.toList) hI ?_ he ?_ rfl
    (fun hw => ?_) (fun h => by cases h) (fun h => by cases h) fun q hq hc => ?_
  · simp [State.stops, ha, AppPc.stopPc]
  · simp [State.stops, AppPc.stopPc]
  · obtain ⟨k', hk'⟩ := hI.joining hw
    rw [ha] at hk'; cases hk'
  · cases hq
    cases hp : pc.cleared
    · exact he.clears hc hp
    · exact grabbing_kept he (hI.cleared pc (by rw [ha]; rfl) hp)

/-- The invariant is kept by a step that no thread takes inside the lock. -/
theorem liveInv_outside (hI : LiveInv s) (hlock : s'.impl.stopMutex = s.impl.stopMutex)
    (hin : s'.inside = s.inside) (hj : s'.worker ≠ none → ∃ k, s'.app = .joinWait k)
    (hl : s'.impl.receiving = true → s'.impl.isGrabbing = true ∨ s.tearing = true)
    (ha : s'.app.armed = true → s'.impl.gdpClient = none ∨ s'.impl.isGrabbing = true ∨ s.tearing = true)
    (hb : s'.app.building = true → s'.impl.receiving = false)
    (hc : ∀ pc, s'.app.stopPc = some pc → pc.cleared = true → s'.impl.isGrabbing = false) : LiveInv s' := by
  have ht : s'.tearing = s.tearing := by unfold State.tearing; rw [hin]
  exact ⟨by rw [hin, hlock]; exact hI.exclusive, hj, by rw [ht]; exact hl, by rw [ht]; exact ha, hb, hc⟩

theorem LiveInv.worker_none (hI : LiveInv s) (h : ∀ k, s.app ≠ .joinWait k) : s.worker = none := by
  by_contra hw
  obtain ⟨k, hk⟩ := hI.joining hw
  exact h k hk

theorem liveInv_data {c : GdpClient} {pc : DataPc} (hI : LiveInv s) (hc : s.impl.gdpClient = some c)
    (hd : c.data = some pc) (h : dataStep s c pc = some (s', evs)) : LiveInv s' := by
  -- the thread is running, so it receives before the step as after it
  have hr : s.impl.receiving = true := by simp [Impl.receiving, hc, hd]
  have hl := hI.live hr
  have hf := dataStep_frame h
  have hin : s'.inside = s.inside := by
    unfold State.inside State.stops
    rw [hf.app, hf.worker]
    rcases hf.spawned with hw | ⟨hw, hw'⟩
    · rw [hw]
    · rw [hw, hw']
      simp [StopPc.holds]
  refine liveInv_outside hI hf.mutex hin ?_ ?_ ?_ ?_ ?_
  · rw [hf.worker, hf.app]; exact hI.joining
  · rw [hf.grabbing]; exact fun _ => hl
  · rw [hf.grabbing]; exact fun _ => .inr hl
  · rw [hf.app]
    intro hb
    rw [hI.building hb] at hr
    cases hr
  · rw [hf.app, hf.grabbing]; exact hI.cleared

/-- A program point outside `stop`'s lock. -/
def AppPc.outside (app : AppPc) : Prop := ∀ pc, app.stopPc = some pc → pc.holds = false

theorem AppPc.outside_of_none {app : AppPc} (h : app.stopPc = none) : app.outside := by
  intro pc hpc
  rw [h] at hpc
  cases hpc

theorem State.inside_of_outside (h : s.app.outside) :
    s.inside = (s.stopWorker.toList ++ s.worker.toList).filter (·.holds) := by
  unfold State.inside State.stops
  cases ha : s.app.stopPc with
  | none => rfl
  | some pc => simp [h pc ha]

/-- The application thread moves outside the lock and stores nothing. -/
theorem liveInv_move {app : AppPc} (hI : LiveInv s) (hs : s.app.outside) (hj : ∀ k, s.app ≠ .joinWait k)
    (ho : app.outside) (ha : app.armed = true → s.app.armed = true)
    (hb : app.building = true → s.app.building = true)
    (hc : ∀ pc, app.stopPc = some pc → pc.cleared = false) : LiveInv { s with app := app } := by
  refine liveInv_outside hI rfl ?_ (fun hw => absurd (hI.worker_none hj) hw) hI.live (fun h => hI.armed (ha h))
    (fun h => hI.building (hb h)) fun pc hpc hcl => ?_
  · rw [State.inside_of_outside hs]
    exact State.inside_of_outside (s := { s with app := app }) ho
  · rw [hc pc hpc] at hcl
    cases hcl

theorem AppPc.linking_stopPc {app : AppPc} (h : app.linking = true) : app.stopPc = none := by
  cases app with
  | stop k pc => cases h
  | _ => rfl

theorem AppPc.linking_armed {app : AppPc} (h : app.linking = true) : app.armed = false ∧ app.building = false := by
  cases app with
  | session n c pc => cases h
  | _ => exact ⟨rfl, rfl⟩

theorem liveInv_link (hI : LiveInv s) (hl : s.app.linking = true) (hf : LinkFrame s s' evs) : LiveInv s' := by
  have hj : ∀ k, s.app ≠ .joinWait k := by
    intro k hk
    rw [hk] at hl
    cases hl
  have hin : s'.inside = s.inside := by
    rw [State.inside_of_outside (AppPc.outside_of_none (AppPc.linking_stopPc hl)),
      State.inside_of_outside (AppPc.outside_of_none (AppPc.linking_stopPc hf.app)), hf.stopWorker, hf.worker]
  obtain ⟨harm, hbld⟩ := AppPc.linking_armed hf.app
  refine liveInv_outside hI hf.session.mutex hin ?_ ?_ ?_ ?_ ?_
  · rw [hf.worker]
    exact fun hw => absurd (hI.worker_none hj) hw
  · rw [hf.session.grabbing]
    intro hr
    rcases hf.client.receiving with hcl | hcl
    · refine hI.live ?_
      unfold Impl.receiving at hr ⊢
      rw [← hcl]
      exact hr
    · rw [hcl] at hr; cases hr
  · rw [harm]; exact Bool.noConfusion
  · rw [hbld]; exact Bool.noConfusion
  · rw [AppPc.linking_stopPc hf.app]
    intro pc hpc
    cases hpc

theorem liveInv_session {n c : Nat} {pc : SessionPc} {m : Impl} {app : AppPc} (hI : LiveInv s)
    (ha : s.app = .session n c pc) (h : SessionMove s.impl n c pc m app evs) :
    LiveInv { s with impl := m, app := app } := by
  have hs : s.app.outside := by rw [ha]; exact AppPc.outside_of_none rfl
  have hj : ∀ k, s.app ≠ .joinWait k := by rw [ha]; rintro k hk; cases hk
  have hin : ∀ {app : AppPc} {m : Impl},
    app.outside → ({ s with impl := m, app := app } : State).inside = s.inside := by
    intro app m ho
    rw [State.inside_of_outside hs]
    exact State.inside_of_outside (s := { s with impl := m, app := app }) ho
  have hw := hI.worker_none hj
  have hnone : ∀ {q : SessionPc}, (AppPc.session n c q).outside := AppPc.outside_of_none rfl
  have harm := hI.armed
  have hbld := hI.building
  rw [ha] at harm hbld
  cases h with
  | connected | portRead =>
    exact liveInv_move hI hs hj hnone Bool.noConfusion (fun _ => by rw [ha]; rfl) (fun pc hpc => by cases hpc)
  | started => exact liveInv_move hI hs hj hnone Bool.noConfusion Bool.noConfusion (fun pc hpc => by cases hpc)
  | told k k' =>
    exact liveInv_move hI hs hj hnone Bool.noConfusion Bool.noConfusion (fun pc hpc => by cases hpc)
  | returned k =>
    exact liveInv_move hI hs hj (AppPc.outside_of_none rfl) Bool.noConfusion Bool.noConfusion
      (fun pc hpc => by cases hpc)
  | failed =>
    refine liveInv_move hI hs hj ?_ Bool.noConfusion Bool.noConfusion ?_
    · intro pc hpc; cases hpc; rfl
    · intro pc hpc; cases hpc; rfl
  | countersReset | requestedStored =>
    exact liveInv_outside hI rfl (hin hnone) (fun h => absurd hw h) hI.live Bool.noConfusion (fun _ => hbld rfl)
      (fun pc hpc => by cases hpc)
  | grabbingStored =>
    exact liveInv_outside hI rfl (hin hnone) (fun h => absurd hw h) (fun _ => .inl rfl) (fun _ => .inr (.inl rfl))
      (fun _ => hbld rfl) (fun pc hpc => by cases hpc)
  | callbackSet =>
    exact liveInv_outside hI rfl (hin hnone) (fun h => absurd hw h) hI.live (fun _ => harm rfl) (fun _ => hbld rfl)
      (fun pc hpc => by cases hpc)
  | received g hg =>
    have hmark : s.impl.isGrabbing = true ∨ s.tearing = true := by
      rcases harm rfl with hn | h
      · rw [hg] at hn; cases hn
      · exact h
    exact liveInv_outside hI rfl (hin hnone) (fun h => absurd hw h) (fun _ => hmark) Bool.noConfusion
      Bool.noConfusion (fun pc hpc => by cases hpc)

theorem liveInv_app (hI : LiveInv s) (h : AppStep s s' evs) : LiveInv s' := by
  cases h with
  | fault => exact liveInv_fail hI
  | «open» _ _ ha hf | close _ _ ha hf => exact liveInv_link hI (by rw [ha]; rfl) hf
  | joinNone k ha =>
    have hs : s.app.outside := by rw [ha]; exact AppPc.outside_of_none rfl
    have hj : ∀ k, s.app ≠ .joinWait k := by rw [ha]; rintro k hk; cases hk
    cases k with
    | grab n =>
      exact liveInv_move hI hs hj (AppPc.outside_of_none rfl) Bool.noConfusion Bool.noConfusion
        fun pc hpc => by cases hpc
    | close k =>
      refine liveInv_move hI hs hj ?_ Bool.noConfusion Bool.noConfusion ?_
      · intro pc hpc; cases hpc; rfl
      · intro pc hpc; cases hpc; rfl
  | joinSome k pc ha hsw =>
    have hs : s.app.outside := by rw [ha]; exact AppPc.outside_of_none rfl
    have hw := hI.worker_none (by rw [ha]; rintro k hk; cases hk)
    refine liveInv_outside hI rfl ?_ (fun _ => ⟨k, rfl⟩) hI.live Bool.noConfusion Bool.noConfusion
      fun pc hpc => by cases hpc
    rw [State.inside_of_outside hs, hsw, hw]
    rfl
  | joined k ha hw =>
    have hs : s.app.outside := by rw [ha]; exact AppPc.outside_of_none rfl
    have hin : ∀ {app : AppPc}, app.outside → ({ s with worker := none, app := app } : State).inside = s.inside := by
      intro app ho
      rw [State.inside_of_outside hs, hw]
      refine (State.inside_of_outside (s := { s with worker := none, app := app }) ho).trans ?_
      simp [StopPc.holds]
    cases k with
    | grab n =>
      exact liveInv_outside hI rfl (hin (AppPc.outside_of_none rfl)) (fun h => absurd rfl h) hI.live Bool.noConfusion
        Bool.noConfusion fun pc hpc => by cases hpc
    | close k =>
      refine liveInv_outside hI rfl (hin ?_) (fun h => absurd rfl h) hI.live Bool.noConfusion Bool.noConfusion ?_
      · intro pc hpc; cases hpc; rfl
      · intro pc hpc hc; cases hpc; cases hc
  | stopped k ha =>
    have hs : s.app.outside := by rw [ha]; intro pc hpc; cases hpc; rfl
    have hj : ∀ k, s.app ≠ .joinWait k := by rw [ha]; rintro k hk; cases hk
    cases k with
    | _ =>
      exact liveInv_move hI hs hj (AppPc.outside_of_none rfl) Bool.noConfusion Bool.noConfusion
        fun pc hpc => by cases hpc
  | grab n pc app evs ha hm =>
    have hs : s.app.outside := by rw [ha]; exact AppPc.outside_of_none rfl
    have hj : ∀ k, s.app ≠ .joinWait k := by rw [ha]; rintro k hk; cases hk
    cases hm with
    | failed =>
      refine liveInv_move hI hs hj ?_ Bool.noConfusion Bool.noConfusion ?_
      · intro pc hpc; cases hpc; rfl
      · intro pc hpc; cases hpc; rfl
    | _ =>
      exact liveInv_move hI hs hj (AppPc.outside_of_none rfl) Bool.noConfusion Bool.noConfusion
        fun pc hpc => by cases hpc
  | assign n ha =>
    have hs : s.app.outside := by rw [ha]; exact AppPc.outside_of_none rfl
    have hw := hI.worker_none (by rw [ha]; rintro k hk; cases hk)
    refine liveInv_outside hI rfl ?_ (fun h => absurd hw h) Bool.noConfusion Bool.noConfusion (fun _ => rfl)
      fun pc hpc => by cases hpc
    rw [State.inside_of_outside hs]
    rfl
  | session n c pc m app evs ha hm => exact liveInv_session hI ha hm

theorem liveInv_step {a : Action} (hI : LiveInv s) (h : step s a = some (s', evs)) : LiveInv s' := by
  cases stepBy h with
  | fault hs => rw [hs]; exact liveInv_fail hI
  | app ok happ => exact liveInv_app hI happ
  | appStop ok k pc pc' m ha he hs => rw [hs]; exact liveInv_appStop hI ha (stopStep_effect he)
  | stopWorker ok pc pc' m hw he hs => rw [hs]; exact liveInv_stopWorker hI hw (stopStep_effect he)
  | worker ok pc pc' m hw he hs => rw [hs]; exact liveInv_worker hI hw (stopStep_effect he)
  | data c pc hc hd hdata => exact liveInv_data hI hc hd hdata
  | call c hi hs =>
    have hw := hI.worker_none (by rw [hi]; rintro k hk; cases hk)
    have hin : s'.inside = s.inside := by
      rw [hs]
      cases c <;> simp [State.inside, State.stops, hi, enter, AppPc.stopPc, StopPc.holds]
    rw [hs] at hin ⊢
    refine liveInv_outside hI rfl hin (fun h => absurd hw h) hI.live ?_ ?_ ?_ <;>
      cases c <;> simp [enter, AppPc.armed, AppPc.building, AppPc.stopPc, StopPc.cleared]
  | dataSet c hc hd hs =>
    have hr : s.impl.receiving = true := by simp [Impl.receiving, hc, hd]
    rw [hs]
    refine liveInv_outside hI rfl rfl hI.joining (fun _ => hI.live hr) (fun _ => .inr (hI.live hr)) ?_ hI.cleared
    intro hb
    rw [hI.building hb] at hr
    cases hr
  | registries o g hs => rw [hs]; exact liveInv_outside hI rfl rfl hI.2 hI.3 hI.4 hI.5 hI.6

end

/-- The invariant holds in every run. -/
theorem liveInv_run {ok : State → Action → Prop} {observers callbacks : Registry} {tr : List Event} {s : State}
    (h : Transition.Run step ok (init observers callbacks) tr s) : LiveInv s :=
  h.invariant (I := fun _ s => LiveInv s) (liveInv_init observers callbacks)
    fun _ _ _ _ _ hI _ hstep => liveInv_step hI hstep

end Gocator.Threads
