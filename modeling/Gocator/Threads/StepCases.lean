/-
What a step can be. Every invariant of the threads is derived from the inversion lemmas here: `open`
and `close` leave the session alone up to the client that `close` releases, `grab` moves through its
program points one by one, and a thread inside `stop` steps by `stopStep` whichever thread it is.
-/
import Gocator.Threads.Step

namespace Gocator.Threads

open Gocator.Facade

/-! ## `open` and `close` -/

/-- The application thread is between two calls, or in `open` or `close` outside `stop`. -/
def AppPc.linking : AppPc → Bool
  | .idle | .open .. | .joinLock (.close _) | .close .. => true
  | _ => false

def Event.linking : Event → Bool
  | .ret (.open _) | .ret .close | .status .connection _ _ => true
  | _ => false

/-- A client is kept, dropped, or closed while its callback is not running. -/
def Released (g g' : Option GdpClient) : Prop :=
  g' = g ∨ g' = none ∨ ∃ c, g = some c ∧ c.busy = false ∧ g' = some { c with data := none }

theorem Released.sameId {g g' : Option GdpClient} (h : Released g g') {c' : GdpClient} (hc : g' = some c') :
    ∃ c, g = some c ∧ c.id = c'.id := by
  rcases h with rfl | rfl | ⟨c, hg, -, rfl⟩
  · exact ⟨c', hc, rfl⟩
  · cases hc
  · cases hc
    exact ⟨c, hg, rfl⟩

theorem Released.none {g g' : Option GdpClient} (h : Released g g') (hn : g = .none) : g' = .none := by
  rcases h with rfl | rfl | ⟨c, rfl, -⟩
  · exact hn
  · rfl
  · cases hn

theorem Released.receiving {m m' : Impl} (h : Released m.gdpClient m'.gdpClient) :
    m'.gdpClient = m.gdpClient ∨ m'.receiving = false := by
  rcases h with h | h | ⟨c, -, -, h⟩
  · exact .inl h
  · exact .inr (by simp [Impl.receiving, h])
  · exact .inr (by simp [Impl.receiving, h])

/-- The members a session works with, except its client. -/
structure SameSession (m m' : Impl) : Prop where
  grabbing : m'.isGrabbing = m.isGrabbing
  requested : m'.stopRequested = m.stopRequested
  observers : m'.statusObservers = m.statusObservers
  callbacks : m'.grabCallbacks = m.grabCallbacks
  frameSeq : m'.frameSeq = m.frameSeq
  frameTarget : m'.frameTarget = m.frameTarget
  callback : m'.dataCallback = m.dataCallback
  mutex : m'.stopMutex = m.stopMutex

/-- What a step of `open` or `close` leaves as it is. -/
structure LinkFrame (s s' : State) (evs : List Event) : Prop where
  app : s'.app.linking = true
  session : SameSession s.impl s'.impl
  client : Released s.impl.gdpClient s'.impl.gdpClient
  stopWorker : s'.stopWorker = s.stopWorker
  worker : s'.worker = s.worker
  clients : s'.nextClient = s.nextClient
  events : ∀ e ∈ evs, e.linking = true

section

variable {ok : Bool} {s s' : State} {evs : List Event}

theorem LinkFrame.of_impl {m : Impl} {app : AppPc} (ha : app.linking = true) (hm : SameSession s.impl m)
    (hc : Released s.impl.gdpClient m.gdpClient) (he : ∀ e ∈ evs, e.linking = true) :
    LinkFrame s { s with impl := m, app := app } evs :=
  ⟨ha, hm, hc, rfl, rfl, rfl, he⟩

theorem SameSession.refl (m : Impl) : SameSession m m := ⟨rfl, rfl, rfl, rfl, rfl, rfl, rfl, rfl⟩

theorem LinkFrame.of_app {app : AppPc} (ha : app.linking = true) (he : ∀ e ∈ evs, e.linking = true) :
    LinkFrame s { s with app := app } evs :=
  .of_impl ha (.refl _) (.inl rfl) he

theorem LinkFrame.of_fail (ha : s.app.linking = true) : LinkFrame s s.fail [] :=
  ⟨ha, .refl _, .inl rfl, rfl, rfl, rfl, by simp⟩

theorem linking_notify {m : Impl} {on : Bool} {n : Notify} {r : Option Notify}
    (h : notifyStep m .connection on n = (r, evs)) : ∀ e ∈ evs, e.linking = true := by
  intro e he
  obtain ⟨o, rfl⟩ := notifyStep_status h e he
  rfl

theorem openStep_frame {address : String} {pc : OpenPc} (ha : s.app = .open address pc)
    (h : openStep ok s address pc = some (s', evs)) : LinkFrame s s' evs := by
  cases pc with
  | loadOpened =>
    simp only [openStep] at h
    split at h <;> cases h
    · exact .of_app rfl (by simp [Event.linking])
    · exact .of_app rfl (by simp)
  | resolveTarget =>
    simp only [openStep] at h
    cases h
    exact .of_app (by cases ok <;> rfl) (by simp)
  | makeConnection =>
    simp only [openStep] at h
    split at h <;> cases h
    · exact .of_impl rfl ⟨rfl, rfl, rfl, rfl, rfl, rfl, rfl, rfl⟩ (.inl rfl) (by simp)
    · exact .of_app rfl (by simp)
  | makeResources =>
    simp only [openStep] at h
    cases h
    exact .of_impl rfl ⟨rfl, rfl, rfl, rfl, rfl, rfl, rfl, rfl⟩ (.inl rfl) (by simp)
  | connect =>
    simp only [openStep] at h
    split at h
    · cases h; exact .of_fail (by rw [ha]; rfl)
    · split at h <;> cases h
      · exact .of_impl rfl ⟨rfl, rfl, rfl, rfl, rfl, rfl, rfl, rfl⟩ (.inl rfl) (by simp)
      · exact .of_app rfl (by simp)
  | storeOpened =>
    simp only [openStep] at h
    cases h
    exact .of_impl rfl ⟨rfl, rfl, rfl, rfl, rfl, rfl, rfl, rfl⟩ (.inl rfl) (by simp)
  | readPort =>
    simp only [openStep] at h
    cases h
    exact .of_app (by cases ok <;> rfl) (by simp)
  | notify n =>
    simp only [openStep] at h
    split at h <;> cases h <;> rename_i hn
    · exact .of_app rfl (linking_notify hn)
    · refine .of_app rfl fun e he => ?_
      rcases List.mem_append.1 he with he | he
      · exact linking_notify hn e he
      · rw [List.mem_singleton.1 he]; rfl

theorem openStep_opened {address : String} (ho : s.impl.isOpened = true)
    (h : openStep ok s address .loadOpened = some (s', evs)) : s'.app = .idle ∧ s'.impl = s.impl := by
  simp only [openStep, ho] at h
  cases h
  exact ⟨rfl, rfl⟩

theorem afterClose_linking (k : CloseCaller) :
    (afterClose k).1.linking = true ∧ ∀ e ∈ (afterClose k).2, e.linking = true := by
  cases k with
  | user => exact ⟨rfl, by simp [afterClose, Event.linking]⟩
  | openCatch address => exact ⟨rfl, by simp [afterClose, Event.linking]⟩

theorem closeStep_frame {k : CloseCaller} {pc : ClosePc} (ha : s.app = .close k pc)
    (h : closeStep ok s k pc = some (s', evs)) : LinkFrame s s' evs := by
  have hret := afterClose_linking k
  cases pc with
  | testClient =>
    simp only [closeStep] at h
    cases h
    exact .of_app rfl (by simp)
  | closeClient =>
    simp only [closeStep] at h
    split at h
    · cases h; exact .of_fail (by rw [ha]; rfl)
    · rename_i c hc
      split at h
      · split at h
        · cases h
        · rename_i hb
          cases h
          refine .of_impl rfl ⟨rfl, rfl, rfl, rfl, rfl, rfl, rfl, rfl⟩ (.inr (.inr ⟨c, hc, ?_, rfl⟩)) (by simp)
          exact Bool.of_not_eq_true hb
      · cases h; exact .of_app rfl (by simp)
  | resetClient =>
    simp only [closeStep] at h
    split at h <;> cases h
    exact .of_impl rfl ⟨rfl, rfl, rfl, rfl, rfl, rfl, rfl, rfl⟩ (.inr (.inl rfl)) (by simp)
  | resetResources =>
    simp only [closeStep] at h
    cases h
    exact .of_impl rfl ⟨rfl, rfl, rfl, rfl, rfl, rfl, rfl, rfl⟩ (.inl rfl) (by simp)
  | resetConnection =>
    simp only [closeStep] at h
    cases h
    exact .of_impl rfl ⟨rfl, rfl, rfl, rfl, rfl, rfl, rfl, rfl⟩ (.inl rfl) (by simp)
  | loadOpened =>
    simp only [closeStep] at h
    split at h <;> cases h
    · exact .of_app rfl (by simp)
    · exact .of_app hret.1 hret.2
  | storeOpened =>
    simp only [closeStep] at h
    cases h
    exact .of_impl rfl ⟨rfl, rfl, rfl, rfl, rfl, rfl, rfl, rfl⟩ (.inl rfl) (by simp)
  | notify n =>
    simp only [closeStep] at h
    split at h <;> cases h <;> rename_i hn
    · exact .of_app rfl (linking_notify hn)
    · refine .of_app hret.1 fun e he => ?_
      rcases List.mem_append.1 he with he | he
      · exact linking_notify hn e he
      · exact hret.2 e he

/-! ## `grab` -/

/-- A step of `grab` before the assignment of the client, by where it leads. -/
inductive GrabMove (m : Impl) (n : Nat) : GrabPc → AppPc → List Event → Prop
  | notOpened : m.isOpened = false → GrabMove m n .loadOpened .idle [.ret (.grab n)]
  | opened : m.isOpened = true → GrabMove m n .loadOpened (.grab n .loadGrabbing) []
  | marked : m.isGrabbing = true → GrabMove m n .loadGrabbing .idle [.ret (.grab n)]
  | unmarked : m.isGrabbing = false → GrabMove m n .loadGrabbing (.grab n .makeClient) []
  | made : GrabMove m n .makeClient (.grab n .assignClient) []
  | failed : GrabMove m n .makeClient (.stop (.grabCatch n) .lock) []

/-- The SDK is called at this program point. -/
def SessionPc.throws : SessionPc → Bool
  | .connect | .readPort | .receive | .start => true
  | _ => false

/-- A step of `grab` from the assignment of the client on, by what it stores and where it leads. -/
inductive SessionMove (m : Impl) (n c : Nat) : SessionPc → Impl → AppPc → List Event → Prop
  | connected : SessionMove m n c .connect m (.session n c .readPort) []
  | portRead : SessionMove m n c .readPort m (.session n c .resetCounters) []
  | countersReset : SessionMove m n c .resetCounters { m with frameSeq := 0, frameTarget := n }
      (.session n c .storeRequested) [.sessionOpened c n]
  | requestedStored : SessionMove m n c .storeRequested { m with stopRequested := false }
      (.session n c .storeGrabbing) []
  | grabbingStored : SessionMove m n c .storeGrabbing { m with isGrabbing := true } (.session n c .setCallback) []
  | callbackSet : SessionMove m n c .setCallback { m with dataCallback := true } (.session n c .receive) []
  | received (g : GdpClient) : m.gdpClient = some g → SessionMove m n c .receive
      { m with gdpClient := some { g with data := some .waiting } } (.session n c .start) []
  | started : SessionMove m n c .start m (.session n c (.notify .snapshot)) []
  | failed (pc : SessionPc) : pc.throws = true → SessionMove m n c pc m (.stop (.grabCatch n) .lock) []
  | told (k k' : Notify) (evs : List Event) : notifyStep m .grabbing true k = (some k', evs) →
      SessionMove m n c (.notify k) m (.session n c (.notify k')) evs
  | returned (k : Notify) (evs : List Event) : notifyStep m .grabbing true k = (none, evs) →
      SessionMove m n c (.notify k) m .idle (evs ++ [.grabStarted c, .ret (.grab n)])

/-! ## The application thread -/

/-- A step of the application thread outside the body of `stop`. -/
inductive AppStep (s : State) : State → List Event → Prop
  | fault : AppStep s s.fail []
  /-- An `open` that finds the connection open returns at once. -/
  | «open» {s' : State} {evs : List Event} (address : String) (pc : OpenPc) : s.app = .open address pc →
      LinkFrame s s' evs → (pc = .loadOpened → s.impl.isOpened = true → s'.app = .idle ∧ s'.impl = s.impl) →
      AppStep s s' evs
  | close {s' : State} {evs : List Event} (k : CloseCaller) (pc : ClosePc) : s.app = .close k pc →
      LinkFrame s s' evs → AppStep s s' evs
  | joinNone (k : JoinCaller) : s.app = .joinLock k → s.stopWorker = none → AppStep s { s with app := afterJoin k } []
  | joinSome (k : JoinCaller) (pc : StopPc) : s.app = .joinLock k → s.stopWorker = some pc →
      AppStep s { s with stopWorker := none, worker := some pc, app := .joinWait k } []
  | joined (k : JoinCaller) : s.app = .joinWait k → s.worker = some .returned →
      AppStep s { s with worker := none, app := afterJoin k } []
  | stopped (k : StopCaller) : s.app = .stop k .returned → AppStep s { s with app := (afterStop k).1 } (afterStop k).2
  | grab (n : Nat) (pc : GrabPc) (app : AppPc) (evs : List Event) : s.app = .grab n pc →
      GrabMove s.impl n pc app evs → AppStep s { s with app := app } evs
  | assign (n : Nat) : s.app = .grab n .assignClient → s.impl.gdpClient.any (·.busy) = false → AppStep s
      { s with
        impl := { s.impl with gdpClient := some ⟨s.nextClient, none⟩ }
        nextClient := s.nextClient + 1
        app := .session n s.nextClient .connect } []
  | session (n c : Nat) (pc : SessionPc) (m : Impl) (app : AppPc) (evs : List Event) : s.app = .session n c pc →
      SessionMove s.impl n c pc m app evs → AppStep s { s with impl := m, app := app } evs

theorem grabStep_cases {n : Nat} {pc : GrabPc} (ha : s.app = .grab n pc) (h : grabStep ok s n pc = some (s', evs)) :
    AppStep s s' evs := by
  cases pc with
  | loadOpened =>
    simp only [grabStep] at h
    split at h <;> cases h <;> rename_i ho
    · exact .grab n _ _ _ ha (.opened ho)
    · exact .grab n _ _ _ ha (.notOpened (Bool.of_not_eq_true ho))
  | loadGrabbing =>
    simp only [grabStep] at h
    split at h <;> cases h <;> rename_i hg
    · exact .grab n _ _ _ ha (.marked hg)
    · exact .grab n _ _ _ ha (.unmarked (Bool.of_not_eq_true hg))
  | makeClient =>
    simp only [grabStep] at h
    cases h
    cases ok
    · exact .grab n _ _ _ ha .failed
    · exact .grab n _ _ _ ha .made
  | assignClient =>
    simp only [grabStep] at h
    split at h <;> cases h
    rename_i hb
    exact .assign n ha (Bool.of_not_eq_true hb)

theorem sessionStep_cases {n c : Nat} {pc : SessionPc} (ha : s.app = .session n c pc)
    (h : sessionStep ok s n c pc = some (s', evs)) : AppStep s s' evs := by
  cases pc with
  | connect =>
    simp only [sessionStep] at h
    split at h <;> cases h
    · exact .fault
    · cases ok
      · exact .session n c _ _ _ _ ha (.failed .connect rfl)
      · exact .session n c _ _ _ _ ha .connected
  | readPort =>
    simp only [sessionStep] at h
    split at h <;> cases h
    · exact .fault
    · cases ok
      · exact .session n c _ _ _ _ ha (.failed .readPort rfl)
      · exact .session n c _ _ _ _ ha .portRead
  | resetCounters => cases h; exact .session n c _ _ _ _ ha .countersReset
  | storeRequested => cases h; exact .session n c _ _ _ _ ha .requestedStored
  | storeGrabbing => cases h; exact .session n c _ _ _ _ ha .grabbingStored
  | setCallback => cases h; exact .session n c _ _ _ _ ha .callbackSet
  | receive =>
    simp only [sessionStep] at h
    split at h
    · cases h; exact .fault
    · rename_i g hg
      split at h <;> cases h
      · exact .session n c _ _ _ _ ha (.received g hg)
      · exact .session n c _ _ _ _ ha (.failed .receive rfl)
  | start =>
    simp only [sessionStep] at h
    split at h <;> cases h
    · exact .fault
    · cases ok
      · exact .session n c _ _ _ _ ha (.failed .start rfl)
      · exact .session n c _ _ _ _ ha .started
  | notify k =>
    simp only [sessionStep] at h
    split at h <;> cases h <;> rename_i hn
    · exact .session n c _ _ _ _ ha (.told k _ _ hn)
    · exact .session n c _ _ _ _ ha (.returned k _ hn)

theorem appStep_cases (ho : ∀ k pc, s.app = .stop k pc → pc = .returned) (h : appStep ok s = some (s', evs)) :
    AppStep s s' evs := by
  unfold appStep at h
  cases ha : s.app with
  | idle => rw [ha] at h; cases h
  | «open» address pc =>
    rw [ha] at h
    refine .open address pc ha (openStep_frame ha h) fun hpc hopen => ?_
    subst hpc
    exact openStep_opened hopen h
  | joinLock k =>
    rw [ha] at h
    simp only at h
    split at h <;> cases h <;> rename_i hw
    · exact .joinNone k ha hw
    · exact .joinSome k _ ha hw
  | joinWait k =>
    simp only [ha] at h
    split at h <;> cases h
    rename_i hw
    exact .joined k ha hw
  | grab n pc => rw [ha] at h; exact grabStep_cases ha h
  | session n c pc => rw [ha] at h; exact sessionStep_cases ha h
  | stop k pc =>
    obtain rfl := ho k pc ha
    rw [ha] at h
    cases h
    exact .stopped k ha
  | close k pc => rw [ha] at h; exact .close k pc ha (closeStep_frame ha h)

/-- The application thread gets into `grab` by joining the worker, and through it step by step. -/
theorem AppStep.to_grab {n : Nat} {pc : GrabPc} (h : AppStep s s' evs) (hs' : s'.app = .grab n pc) :
    (s' = s.fail ∧ s.app = .grab n pc) ∨ pc = .loadOpened ∨
      ∃ q, s.app = .grab n q ∧ GrabMove s.impl n q (.grab n pc) evs ∧ s' = { s with app := .grab n pc } := by
  cases h with
  | fault => exact .inl ⟨rfl, hs'⟩
  | «open» _ _ _ hf | close _ _ _ hf =>
    have happ := hf.app
    rw [hs'] at happ
    cases happ
  | joinNone k ha | joined k ha =>
    cases k with
    | grab m => cases hs'; exact .inr (.inl rfl)
    | close k => cases hs'
  | joinSome k pc ha => cases hs'
  | stopped k ha => cases k <;> cases hs'
  | assign m ha => cases hs'
  | session m c q i app evs ha hm => cases hm <;> cases hs'
  | grab m q app evs ha hm =>
    have happ : app = .grab n pc := hs'
    subst happ
    cases hm with
    | opened ho => exact .inr (.inr ⟨_, ha, .opened ho, rfl⟩)
    | unmarked hg => exact .inr (.inr ⟨_, ha, .unmarked hg, rfl⟩)
    | made => exact .inr (.inr ⟨_, ha, .made, rfl⟩)

theorem AppStep.to_session {n c : Nat} {pc : SessionPc} (h : AppStep s s' evs) (hs' : s'.app = .session n c pc) :
    (s' = s.fail ∧ evs = [] ∧ s.app = .session n c pc) ∨
    (s.app = .grab n .assignClient ∧ c = s.nextClient ∧ pc = .connect ∧ evs = [] ∧ s' =
      { s with
        impl := { s.impl with gdpClient := some ⟨c, none⟩ }
        nextClient := c + 1
        app := .session n c .connect }) ∨
    ∃ q m, s.app = .session n c q ∧ SessionMove s.impl n c q m (.session n c pc) evs ∧
      s' = { s with impl := m, app := .session n c pc } := by
  cases h with
  | fault => exact .inl ⟨rfl, rfl, hs'⟩
  | «open» _ _ _ hf | close _ _ _ hf =>
    have happ := hf.app
    rw [hs'] at happ
    cases happ
  | joinNone k ha | joined k ha => cases k <;> cases hs'
  | joinSome k pc ha => cases hs'
  | stopped k ha => cases k <;> cases hs'
  | grab m q app evs ha hm => cases hm <;> cases hs'
  | assign m ha => cases hs'; exact .inr (.inl ⟨ha, rfl, rfl, rfl, rfl⟩)
  | session m d q i app evs ha hm =>
    have happ : app = .session n c pc := hs'
    have hsame : m = n ∧ d = c := by cases hm <;> cases happ <;> exact ⟨rfl, rfl⟩
    obtain ⟨rfl, rfl⟩ := hsame
    subst happ
    exact .inr (.inr ⟨q, i, ha, hm, rfl⟩)

end

/-! ## The data thread -/

/-- The data thread moves no other thread, and leaves the session's flag and the mutex alone. -/
structure DataFrame (s s' : State) : Prop where
  app : s'.app = s.app
  worker : s'.worker = s.worker
  grabbing : s'.impl.isGrabbing = s.impl.isGrabbing
  mutex : s'.impl.stopMutex = s.impl.stopMutex
  opened : s'.impl.isOpened = s.impl.isOpened
  clients : s'.nextClient = s.nextClient
  spawned : s'.stopWorker = s.stopWorker ∨ s.stopWorker = none ∧ s'.stopWorker = some .lock

theorem dataStep_frame {s s' : State} {c : GdpClient} {pc : DataPc} {evs : List Event}
    (h : dataStep s c pc = some (s', evs)) : DataFrame s s' := by
  cases pc with
  | waiting => cases h
  | dispatch rest =>
    cases rest with
    | nil => cases h; exact ⟨rfl, rfl, rfl, rfl, rfl, rfl, .inl rfl⟩
    | cons cb rest =>
      simp only [dataStep] at h
      split at h <;> cases h <;> exact ⟨rfl, rfl, rfl, rfl, rfl, rfl, .inl rfl⟩
  | countFrame =>
    simp only [dataStep] at h
    split at h <;> cases h <;> exact ⟨rfl, rfl, rfl, rfl, rfl, rfl, .inl rfl⟩
  | spawnWorker =>
    simp only [dataStep] at h
    split at h <;> cases h
    · exact ⟨rfl, rfl, rfl, rfl, rfl, rfl, .inl rfl⟩
    · rename_i hw
      exact ⟨rfl, rfl, rfl, rfl, rfl, rfl, .inr ⟨Option.not_isSome_iff_eq_none.1 hw, rfl⟩⟩
  | _ => cases h; exact ⟨rfl, rfl, rfl, rfl, rfl, rfl, .inl rfl⟩

/-- The data thread stays with its client. -/
theorem dataStep_client {s s' : State} {c : GdpClient} {pc : DataPc} {evs : List Event}
    (h : dataStep s c pc = some (s', evs)) : ∃ pc', s'.impl.gdpClient = some ⟨c.id, some pc'⟩ := by
  cases pc with
  | waiting => cases h
  | dispatch rest =>
    cases rest with
    | nil => cases h; exact ⟨_, rfl⟩
    | cons cb rest =>
      simp only [dataStep] at h
      split at h <;> cases h <;> exact ⟨_, rfl⟩
  | countFrame | spawnWorker =>
    simp only [dataStep] at h
    split at h <;> cases h <;> exact ⟨_, rfl⟩
  | _ => cases h; exact ⟨_, rfl⟩

/-- The event is a call of a grab callback or the reaching of the target, of this client. -/
def Event.ofData (c : Nat) : Event → Bool
  | .grabCallback c' _ _ | .targetReached c' => c' = c
  | _ => false

theorem dataStep_events {s s' : State} {c : GdpClient} {pc : DataPc} {evs : List Event}
    (h : dataStep s c pc = some (s', evs)) : ∀ e ∈ evs, e.ofData c.id = true := by
  cases pc with
  | waiting => cases h
  | dispatch rest =>
    cases rest with
    | nil => cases h; simp
    | cons cb rest =>
      simp only [dataStep] at h
      split at h <;> cases h <;> simp [Event.ofData]
  | countFrame | spawnWorker =>
    simp only [dataStep] at h
    split at h <;> cases h <;> simp [Event.ofData]
  | _ => cases h; simp

/-! ## All threads -/

/-- A step of the application thread, outside the body of `stop` or in it. -/
theorem step_app {s s' : State} {ok : Bool} {evs : List Event} (h : step s (.app ok) = some (s', evs)) :
    AppStep s s' evs ∨ ∃ k pc pc' m, s.app = .stop k pc ∧ stopStep ok s.impl pc = some (.next m pc' evs) ∧
      s' = { s with impl := m, app := .stop k pc' } := by
  unfold step at h
  split at h
  · cases h
  simp only at h
  cases ha : s.app with
  | stop k pc =>
    by_cases hp : pc = .returned
    · exact .inl (appStep_cases (fun k' pc' h' => by rw [ha] at h'; cases h'; exact hp) h)
    · unfold appStep at h
      rw [ha] at h
      simp only at h
      split at h
      · cases h
      · cases h; exact .inl .fault
      · rename_i he
        cases h
        exact .inr ⟨k, pc, _, _, rfl, he, rfl⟩
  | _ => exact .inl (appStep_cases (fun k pc h' => by rw [ha] at h'; cases h') h)

theorem appStep_of_step {s s' : State} {ok : Bool} {evs : List Event} (h : step s (.app ok) = some (s', evs)) :
    appStep ok s = some (s', evs) := by
  unfold step at h
  split at h
  · cases h
  · exact h

theorem appStep_open {s s' : State} {ok : Bool} {evs : List Event} {address : String} {pc : OpenPc}
    (ha : s.app = .open address pc) (h : appStep ok s = some (s', evs)) :
    openStep ok s address pc = some (s', evs) := by
  rw [← h]
  simp only [appStep, ha]

theorem appStep_close {s s' : State} {ok : Bool} {evs : List Event} {k : CloseCaller} {pc : ClosePc}
    (ha : s.app = .close k pc) (h : appStep ok s = some (s', evs)) : closeStep ok s k pc = some (s', evs) := by
  rw [← h]
  simp only [appStep, ha]

/-- A step, by the thread that takes it. A thread that is in `stop` steps by `stopStep`. -/
inductive StepBy (s : State) (a : Action) (s' : State) (evs : List Event) : Prop
  | fault : s' = s.fail → evs = [] → StepBy s a s' evs
  | call (c : Call) : s.app = .idle → s' = { s with app := enter c } → evs = [.call c] → a = .call c →
      StepBy s a s' evs
  | app (ok : Bool) : AppStep s s' evs → a = .app ok → StepBy s a s' evs
  | appStop (ok : Bool) (k : StopCaller) (pc pc' : StopPc) (m : Impl) : s.app = .stop k pc →
      stopStep ok s.impl pc = some (.next m pc' evs) → s' = { s with impl := m, app := .stop k pc' } →
      a = .app ok → StepBy s a s' evs
  | stopWorker (ok : Bool) (pc pc' : StopPc) (m : Impl) : s.stopWorker = some pc →
      stopStep ok s.impl pc = some (.next m pc' evs) → s' = { s with impl := m, stopWorker := some pc' } →
      a = .stopWorker ok → StepBy s a s' evs
  | worker (ok : Bool) (pc pc' : StopPc) (m : Impl) : s.worker = some pc →
      stopStep ok s.impl pc = some (.next m pc' evs) → s' = { s with impl := m, worker := some pc' } →
      a = .worker ok → StepBy s a s' evs
  | dataSet (c : GdpClient) : s.impl.gdpClient = some c → c.data = some .waiting →
      s' = s.setData c .loadGrabbing → evs = [] → StepBy s a s' evs
  | data (c : GdpClient) (pc : DataPc) : s.impl.gdpClient = some c → c.data = some pc →
      dataStep s c pc = some (s', evs) → a = .data → StepBy s a s' evs
  | registries (o g : Registry) : s' = { s with impl := { s.impl with statusObservers := o, grabCallbacks := g } } →
      evs = [] → StepBy s a s' evs

theorem stepBy {s s' : State} {a : Action} {evs : List Event} (h : step s a = some (s', evs)) : StepBy s a s' evs := by
  have hstep := h
  unfold step at h
  split at h
  · cases h
  cases a with
  | call c =>
    simp only [Option.ite_none_right_eq_some, Option.some.injEq, Prod.mk.injEq] at h
    obtain ⟨hi, rfl, rfl⟩ := h
    exact .call c hi rfl rfl rfl
  | app ok =>
    rcases step_app hstep with happ | ⟨k, pc, pc', m, ha, he, rfl⟩
    · exact .app ok happ rfl
    · exact .appStop ok k pc pc' m ha he rfl rfl
  | stopWorker ok =>
    simp only at h
    split at h
    · cases h
    · rename_i pc hw
      split at h
      · cases h
      · cases h; exact .fault rfl rfl
      · rename_i he
        cases h
        exact .stopWorker ok pc _ _ hw he rfl rfl
  | worker ok =>
    simp only at h
    split at h
    · cases h
    · rename_i pc hw
      split at h
      · cases h
      · cases h; exact .fault rfl rfl
      · rename_i he
        cases h
        exact .worker ok pc _ _ hw he rfl rfl
  | dataSet =>
    simp only at h
    split at h
    · cases h
    · rename_i c hc
      simp only [Option.ite_none_right_eq_some, Option.some.injEq, Prod.mk.injEq] at h
      obtain ⟨hd, rfl, rfl⟩ := h
      exact .dataSet c hc hd rfl rfl
  | data =>
    simp only at h
    split at h
    · cases h
    · rename_i c hc
      split at h
      · cases h
      · rename_i pc hd
        exact .data c pc hc hd h rfl
  | statusRegistry f =>
    cases h
    exact .registries _ _ rfl rfl
  | grabRegistry f =>
    cases h
    exact .registries _ _ rfl rfl

theorem step_call {s s' : State} {c : Call} {evs : List Event} (h : step s (.call c) = some (s', evs)) :
    s.app = .idle ∧ s' = { s with app := enter c } ∧ evs = [.call c] := by
  unfold step at h
  split at h
  · cases h
  · simp only [Option.ite_none_right_eq_some, Option.some.injEq, Prod.mk.injEq] at h
    exact ⟨h.1, h.2.1.symm, h.2.2.symm⟩

theorem step_data {s s' : State} {evs : List Event} (h : step s .data = some (s', evs)) :
    ∃ g pc, s.impl.gdpClient = some g ∧ g.data = some pc ∧ dataStep s g pc = some (s', evs) := by
  unfold step at h
  split at h
  · cases h
  simp only at h
  split at h
  · cases h
  · rename_i g hg
    split at h
    · cases h
    · rename_i pc hd
      exact ⟨g, pc, hg, hd, h⟩

end Gocator.Threads
