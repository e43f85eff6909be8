/-
Who drops the client that `grab` dereferences: the stop worker of an earlier session. It was there when `grab`
assigned the client, because until `ReceiveDataAsync` the client has no data thread that could spawn one, and
while the application thread is in the session no other thread is in `stop`.
-/
import Gocator.Threads.Nulls

namespace Gocator.Threads

open Gocator.Facade Transition

/-! ## From the assignment of the client on -/

/-- The application thread is in the part of `grab` behind the assignment of client `c`. -/
def State.staysIn (n c : Nat) (s : State) (_ : Action) : Prop := ∃ pc, s.app = .session n c pc

/-- A run leads to the step of `grab` that assigns client `c`, with or without a stop worker that is there already;
`s` is the state behind the step. -/
def Assigned (s₀ : State) (n c : Nat) (worker : Bool) (s : State) : Prop :=
  ∃ tr s₁ ok evs, Run step anyStep s₀ tr s₁ ∧ s₁.app = .grab n .assignClient ∧ s₁.stopWorker.isSome = worker ∧
    step s₁ (.app ok) = some (s, evs) ∧ s.app = .session n c .connect ∧ s.impl.gdpClient = some ⟨c, none⟩

/-- The stop worker resets client `c`; `s` is the state behind the step. -/
def WorkerResets (s₁ : State) (c : Nat) (s : State) : Prop :=
  s₁.stopWorker = some .resetClient ∧ s₁.impl.gdpClient = some ⟨c, none⟩ ∧ s.impl.gdpClient = none ∧
    ∃ ok evs, step s₁ (.stopWorker ok) = some (s, evs)

/-- `grab` has assigned client `c` while a stop worker was there, and has not left the session since, and the worker
has reset the client. -/
def DroppedByWorker (s₀ : State) (n c : Nat) (s : State) : Prop :=
  ∃ s₁ s₂ s₃ tr tr', Assigned s₀ n c true s₁ ∧ Run step (State.staysIn n c) s₁ tr s₂ ∧ WorkerResets s₂ c s₃ ∧
    Run step (State.staysIn n c) s₃ tr' s

/-- What has become of the client of a session that does not receive yet. -/
inductive Unreceived (s₀ : State) (n c : Nat) (s : State) : Prop
  | kept (s₁ : State) (tr : List Event) : Assigned s₀ n c s.stopWorker.isSome s₁ →
      Run step (State.staysIn n c) s₁ tr s → s.impl.gdpClient = some ⟨c, none⟩ → Unreceived s₀ n c s
  | dropped : DroppedByWorker s₀ n c s → s.impl.gdpClient = none → Unreceived s₀ n c s

section

variable {ok : Bool} {s₀ s s' : State} {a : Action} {evs : List Event} {n c : Nat} {pc pc' : SessionPc}

/-- A step that stays in the session and leaves the client and the member worker as they are. -/
theorem Unreceived.step (hB : Unreceived s₀ n c s) (ha : s.app = .session n c pc) (h : step s a = some (s', evs))
    (hw : s'.stopWorker.isSome = s.stopWorker.isSome) (hg : s'.impl.gdpClient = s.impl.gdpClient) :
    Unreceived s₀ n c s' := by
  cases hB with
  | kept s₁ tr hassigned hrun hclient =>
    exact .kept s₁ _ (hw ▸ hassigned) (hrun.snoc ⟨pc, ha⟩ h) (hg.trans hclient)
  | dropped hdropped hclient =>
    obtain ⟨s₁, s₂, s₃, tr, tr', hassigned, hrun, hresets, hrun'⟩ := hdropped
    exact .dropped ⟨s₁, s₂, s₃, tr, _, hassigned, hrun, hresets, hrun'.snoc ⟨pc, ha⟩ h⟩ (hg.trans hclient)

theorem Unreceived.client (hB : Unreceived s₀ n c s) : s.impl.gdpClient = some ⟨c, none⟩ ∨ s.impl.gdpClient = none := by
  cases hB with
  | kept _ _ _ _ hclient => exact .inl hclient
  | dropped _ hclient => exact .inr hclient

/-- A step of `stop` keeps a client that does not receive, or resets it. -/
theorem stopStep_idleClient {m m' : Impl} {pc pc' : StopPc} (h : stopStep ok m pc = some (.next m' pc' evs))
    (hg : m.gdpClient = some ⟨c, none⟩) : m'.gdpClient = some ⟨c, none⟩ ∨ pc = .resetClient ∧ m'.gdpClient = none := by
  rcases (stopStep_effect h).client with hkept | hnone | ⟨g, hsome, -, hclosed⟩
  · exact .inl (hkept.trans hg)
  · exact .inr ⟨(stopStep_drops h).drops (by rw [hg]; rfl) (by rw [hnone]; rfl), hnone⟩
  · rw [hg] at hsome
    cases hsome
    exact .inl hclosed

/-- The stop worker takes a step. -/
theorem unreceived_stopWorker {m : Impl} {pc₁ pc₂ : StopPc} (hB : Unreceived s₀ n c s) (ha : s.app = .session n c pc)
    (h : step s (.stopWorker ok) = some (s', evs)) (hw : s.stopWorker = some pc₁)
    (he : stopStep ok s.impl pc₁ = some (.next m pc₂ evs)) (hs : s' = { s with impl := m, stopWorker := some pc₂ }) :
    Unreceived s₀ n c s' := by
  have hsome : s'.stopWorker.isSome = s.stopWorker.isSome := by rw [hs, hw]; rfl
  have himpl : s'.impl = m := by rw [hs]
  have hB' := hB
  cases hB with
  | kept s₁ tr hassigned hrun hclient =>
    rcases stopStep_idleClient he hclient with hkept | ⟨rfl, hnone⟩
    · refine hB'.step ha h hsome ?_
      rw [himpl, hkept, hclient]
    · rw [← himpl] at hnone
      rw [hw] at hassigned
      exact .dropped ⟨s₁, s, s', tr, [], hassigned, hrun, ⟨hw, hclient, hnone, ok, evs, h⟩, .start⟩ hnone
  | dropped _ hclient =>
    refine hB'.step ha h hsome ?_
    rw [himpl, hclient]
    exact (stopStep_effect he).client.none hclient

/-- The client of every session that does not receive yet is as assigned, or dropped by the worker. -/
theorem unreceived_step (hI : LiveInv s) (hrun : ∃ tr, Run step anyStep s₀ tr s)
    (hB : ∀ n c, s.app.building = true → ∀ pc, s.app = .session n c pc → Unreceived s₀ n c s)
    (h : step s a = some (s', evs)) (hb : s'.app.building = true) (ha' : s'.app = .session n c pc') :
    Unreceived s₀ n c s' := by
  have hworker : ∀ {pc : SessionPc}, s.app = .session n c pc → s.worker = none := fun ha =>
    hI.worker_none (by rw [ha]; exact fun _ => AppPc.noConfusion)
  -- while the application thread stays where it is
  have hstay : s'.app = s.app → Unreceived s₀ n c s := fun happ => hB n c (happ ▸ hb) pc' (happ ▸ ha')
  -- a client that does not receive has no data thread
  have hidle : s'.app = s.app → ∀ g, s.impl.gdpClient = some g → g.data = none := fun happ g hg => by
    rcases (hstay happ).client with hclient | hclient
    · rw [hg] at hclient
      cases hclient
      rfl
    · rw [hg] at hclient
      cases hclient
  cases stepBy h with
  | fault hs =>
    subst hs
    exact (hstay rfl).step ha' h rfl rfl
  | call c hi hs =>
    subst hs
    cases c <;> cases ha'
  | app ok happ hact =>
    subst hact
    rcases happ.to_session ha' with ⟨hs, -, -⟩ | ⟨ha, rfl, rfl, -, hs⟩ | ⟨q, m, ha, hm, hs⟩
    · subst hs
      exact (hstay rfl).step ha' h rfl rfl
    · obtain ⟨tr, hrun⟩ := hrun
      have hw : s'.stopWorker = s.stopWorker := by rw [hs]
      have hclient : s'.impl.gdpClient = some ⟨s.nextClient, none⟩ := by rw [hs]
      exact .kept s' [] ⟨tr, s, ok, evs, hrun, ha, by rw [hw], h, ha', hclient⟩ .start hclient
    · have hbuilding : s.app.building = true ∧ m.gdpClient = s.impl.gdpClient := by
        rw [ha]
        rw [ha'] at hb
        cases hm <;> first | exact ⟨rfl, rfl⟩ | cases hb
      refine (hB n c hbuilding.1 q ha).step ha h (by rw [hs]) ?_
      rw [hs]
      exact hbuilding.2
  | appStop ok k pc pc' m ha he hs =>
    rw [hs] at ha'
    cases ha'
  | stopWorker ok pc₁ pc₂ m hw he hs hact =>
    subst hact
    have happ : s'.app = s.app := by rw [hs]
    exact unreceived_stopWorker (hstay happ) (happ ▸ ha') h hw he hs
  | worker ok pc₁ pc₂ m hw he hs =>
    have happ : s'.app = s.app := by rw [hs]
    rw [hworker (happ ▸ ha')] at hw
    cases hw
  | data g pc₁ hg hd hdata =>
    rw [hidle (dataStep_frame hdata).app g hg] at hd
    cases hd
  | dataSet g hg hd hs =>
    rw [hidle (by rw [hs]; rfl) g hg] at hd
    cases hd
  | registries o g hs =>
    subst hs
    exact (hstay rfl).step ha' h rfl rfl

end

theorem unreceived_run {observers callbacks : Registry} {tr : List Event} {s : State}
    (h : Run step anyStep (init observers callbacks) tr s) : ∀ n c, s.app.building = true → ∀ pc,
      s.app = .session n c pc → Unreceived (init observers callbacks) n c s := by
  induction h with
  | start => exact fun _ _ => Bool.noConfusion
  | snoc hrun _ hstep ih =>
    exact fun n c hb pc ha => unreceived_step (liveInv_run hrun) ⟨_, hrun⟩ ih hstep hb ha

/-! ## The connection between its test and its use -/

/-- `open` makes connections and drops none. -/
theorem openStep_connection {ok : Bool} {s s' : State} {address : String} {pc : OpenPc} {evs : List Event}
    (h : openStep ok s address pc = some (s', evs)) (hsome : s.impl.connection.isSome = true) :
    s'.impl.connection.isSome = true := by
  cases pc with
  | loadOpened | notify =>
    simp only [openStep] at h
    split at h <;> cases h <;> exact hsome
  | makeConnection =>
    simp only [openStep] at h
    split at h <;> cases h
    · rfl
    · exact hsome
  | connect =>
    simp only [openStep] at h
    split at h
    · cases h; exact hsome
    · split at h <;> cases h <;> exact hsome
  | _ => cases h; exact hsome

/-- Only `close` resets the connection, and then no thread stands where `stop` tests and uses it. -/
theorem stopSensor_apart {s s' : State} {a : Action} {evs : List Event} (hP : Present s)
    (h : step s a = some (s', evs)) (hsome : s.impl.connection.isSome = true) (hnone : s'.impl.connection = none) :
    .stopSensor ∉ s.stops := by
  have hchanged : s'.impl.connection ≠ s.impl.connection := by
    intro hsame
    rw [← hsame, hnone] at hsome
    cases hsome
  have hkept : ∀ {p : Prop}, s'.impl.connection = s.impl.connection → p := fun hsame => absurd hsame hchanged
  cases stepBy h with
  | app ok happ hact =>
    subst hact
    cases happ with
    | «open» address pc ha =>
      have hkeeps := openStep_connection (appStep_open ha (appStep_of_step h)) hsome
      rw [hnone] at hkeeps
      cases hkeeps
    | close k pc ha =>
      have hclosed : s.app.closed = true := by rw [ha]; rfl
      have hno := (hP.calm hclosed).2
      rw [State.tearing_eq, List.any_eq_false] at hno
      exact fun hmem => hno _ hmem rfl
    | session n c pc m app evs ha hm => cases hm <;> exact hkept rfl
    | _ => exact hkept rfl
  | appStop ok k pc pc' m ha he hs | stopWorker ok pc pc' m ha he hs | worker ok pc pc' m ha he hs =>
    exact hkept (by rw [hs]; exact stopStep_connection he)
  | data c pc hc hd hdata => exact hkept (dataStep_connection hdata).1
  | fault hs | call c hi hs | dataSet c hc hd hs | registries o g hs => exact hkept (congrArg (·.impl.connection) hs)

/-- In every run the step that dereferences a null pointer is one of the application thread inside `grab`, at `Connect`
or at `ReceiveDataAsync`; the pointer is the GDP client and not the connection; and the client was dropped by a stop
worker that had been there when `grab` assigned it. Nobody resets the connection while a thread stands where `stop`
tests and uses it. -/
theorem null_only_in_grab {observers callbacks : Registry} {tr evs : List Event} {s s' : State} {a : Action}
    (h : Run step anyStep (init observers callbacks) tr s) (hstep : step s a = some (s', evs)) :
    (s'.fault = true → ∃ ok n c, a = .app ok ∧ (s.app = .session n c .connect ∨ s.app = .session n c .receive) ∧
      s.impl.gdpClient = none ∧ s.impl.connection.isSome = true ∧
      DroppedByWorker (init observers callbacks) n c s) ∧
    (s.impl.connection.isSome = true → s'.impl.connection = none → .stopSensor ∉ s.stops) := by
  refine ⟨fun hf => ?_, stopSensor_apart (present_run h) hstep⟩
  obtain ⟨ok, n, c, hact, hat, hclient, hconnection⟩ := fault_step (linked_run h) (present_run h) hstep hf
  refine ⟨ok, n, c, hact, hat, hclient, hconnection, ?_⟩
  obtain ⟨pc, ha, hb⟩ : ∃ pc, s.app = .session n c pc ∧ s.app.building = true := by
    rcases hat with ha | ha <;> exact ⟨_, ha, by rw [ha]; rfl⟩
  cases unreceived_run h n c hb pc ha with
  | kept _ _ _ _ hkept =>
    rw [hclient] at hkept
    cases hkept
  | dropped hdropped => exact hdropped

/-- `grab` joins no worker, a data set of the last session spawns one, and the worker drops the client
that `grab` has just made. -/
def droppedClientMoves : List Action :=
  openMoves ++ grabMoves 1 ++ dataMoves ++ calling (.grab 1) 1 ++ [.data, .data] ++
    [.stopWorker true, .stopWorker true] ++ List.replicate 4 (.app true) ++ List.replicate 5 (.stopWorker true)

theorem null_only_in_grab_dropped : ∃ tr s s' evs, Run step anyStep (init one one) tr s ∧
    step s (.app true) = some (s', evs) ∧ s'.fault = true ∧ ∃ n c, DroppedByWorker (init one one) n c s := by
  obtain ⟨tr, s, s', evs, h, hstep, hf⟩ : ∃ tr s s' evs, Run step anyStep (init one one) tr s ∧
      step s (.app true) = some (s', evs) ∧ s'.fault = true :=
    ⟨_, _, _, _, exec_get step anyStep droppedClientMoves (init one one) rfl, rfl, rfl⟩
  obtain ⟨ok, n, c, -, -, -, -, hdropped⟩ := (null_only_in_grab h hstep).1 hf
  exact ⟨tr, s, s', evs, h, hstep, hf, n, c, hdropped⟩

end Gocator.Threads
