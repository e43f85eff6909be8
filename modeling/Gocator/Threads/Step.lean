/-
`Gocator::Impl` as a machine of interleaved threads: one application thread making public calls
one after another, the data thread of the live GDP client, and the stop worker. A step is one
atomic load, store or exchange, one locked section, one assignment to `gdpClient` or one SDK call,
in the program order of the source; an SDK call that can throw takes a flag that tells whether it
returns.

Two `std::thread` objects can hold a worker: the member `stopWorker` and the local `worker` of
`joinStopWorker` it is moved into, so both are part of the state. Closing or destroying a client
waits for its running data callback, and no data arrives after it. Logging is left out; the GDP
port read only for a log line is kept, because it can throw.
-/
import Gocator.Lib.Run
import Gocator.Facade.Impl

namespace Gocator.Threads

open Gocator.Facade

/-! ## Program points -/

/-- Where a thread stands in `notifyStatus`: before the snapshot, or with callbacks left to call. -/
inductive Notify where
  | snapshot
  | calling (rest : List Callback)
  deriving DecidableEq, Repr

/-- Where a thread stands in `stop`. -/
inductive StopPc where
  | lock
  | exchangeGrabbing
  | storeRequested
  | stopSensor
  | testClient
  | closeClient
  | resetClient
  | clearCallback
  | notify (n : Notify)
  | unlock
  | returned
  deriving DecidableEq, Repr

/-- Where the application thread stands in `open`; its catch block is a call of `close`. -/
inductive OpenPc where
  | loadOpened
  | resolveTarget
  | makeConnection
  | makeResources
  | connect
  | storeOpened
  | readPort
  | notify (n : Notify)
  deriving DecidableEq, Repr

/-- Where the application thread stands in `close`, after `stop` and `joinStopWorker`. -/
inductive ClosePc where
  | testClient
  | closeClient
  | resetClient
  | resetResources
  | resetConnection
  | loadOpened
  | storeOpened
  | notify (n : Notify)
  deriving DecidableEq, Repr

/-- `grab` up to the assignment of the new client. -/
inductive GrabPc where
  | loadOpened
  | loadGrabbing
  | makeClient
  | assignClient
  deriving DecidableEq, Repr

/-- `grab` from the assignment of the new client on. -/
inductive SessionPc where
  | connect
  | readPort
  | resetCounters
  | storeRequested
  | storeGrabbing
  | setCallback
  | receive
  | start
  | notify (n : Notify)
  deriving DecidableEq, Repr

/-- The public calls of the application thread; `open` comes with the address `resolveTarget`
finds for it. -/
inductive Call where
  | open (address : String)
  | grab (frames : Nat)
  | stop
  | close
  deriving DecidableEq, Repr

/-- Who called `close`: the application, or the catch block of `open`. -/
inductive CloseCaller where
  | user
  | openCatch (address : String)
  deriving DecidableEq, Repr

/-- Who called `stop` on the application thread. -/
inductive StopCaller where
  | user
  | close (k : CloseCaller)
  | grabCatch (frames : Nat)
  deriving DecidableEq, Repr

/-- Who called `joinStopWorker`. -/
inductive JoinCaller where
  | grab (frames : Nat)
  | close (k : CloseCaller)
  deriving DecidableEq, Repr

/-- Where the application thread stands. -/
inductive AppPc where
  | idle
  | open (address : String) (pc : OpenPc)
  | joinLock (k : JoinCaller)
  | joinWait (k : JoinCaller)
  | grab (frames : Nat) (pc : GrabPc)
  | session (frames client : Nat) (pc : SessionPc)
  | stop (k : StopCaller) (pc : StopPc)
  | close (k : CloseCaller) (pc : ClosePc)
  deriving DecidableEq, Repr

/-! ## States, actions and events -/

/-- The members of `Impl` and where each thread stands; a thread that is not there has no program point. -/
structure State where
  impl : Impl
  app : AppPc
  /-- The member `stopWorker`; `none` when it is not joinable. -/
  stopWorker : Option StopPc
  /-- The local `worker` of `joinStopWorker`. -/
  worker : Option StopPc
  nextClient : Nat
  /-- A null pointer has been dereferenced. -/
  fault : Bool

/-- A facade just built: no call made, callbacks registered. -/
def init (observers callbacks : Registry) : State where
  impl := Impl.fresh observers callbacks
  app := .idle
  stopWorker := none
  worker := none
  nextClient := 0
  fault := false

/-- The next move: a thread takes its next step (`ok` tells whether the SDK call in it returns), a
data set arrives, or another thread changes a registry. -/
inductive Action where
  | call (c : Call)
  | app (ok : Bool)
  | stopWorker (ok : Bool)
  | worker (ok : Bool)
  | dataSet
  | data
  | statusRegistry (f : Registry → Registry)
  | grabRegistry (f : Registry → Registry)

/-- What is seen of a run: calls and their returns, the start of a session, callbacks, and a target reached. -/
inductive Event where
  | call (c : Call)
  | ret (c : Call)
  /-- `grab` has set the frame target of the session on this client. -/
  | sessionOpened (client frames : Nat)
  /-- `grab` has returned after starting the session on this client. -/
  | grabStarted (client : Nat)
  | grabCallback (client id seq : Nat)
  | targetReached (client : Nat)
  | status (st : Status) (on : Bool) (observer : Nat)
  deriving DecidableEq, Repr

/-! ## Steps shared by the threads -/

/-- One step of `notifyStatus`; `none` when every callback of the snapshot has been called. What a
callback throws is caught, so a callback that throws is not told apart. -/
def notifyStep (m : Impl) (st : Status) (on : Bool) : Notify → Option Notify × List Event
  | .snapshot => (some (.calling m.statusObservers.entries), [])
  | .calling [] => (none, [])
  | .calling (cb :: rest) => (some (.calling rest), if cb.callable then [.status st on cb.id] else [])

/-- `notifyStatus` sends only the status it was called with. -/
theorem notifyStep_status {m : Impl} {st : Status} {on : Bool} {n : Notify} {r : Option Notify} {evs : List Event}
    (h : notifyStep m st on n = (r, evs)) : ∀ e ∈ evs, ∃ o, e = .status st on o := by
  rcases n with _ | _ | ⟨cb, rest⟩ <;> simp only [notifyStep, Prod.mk.injEq] at h <;> obtain ⟨-, rfl⟩ := h
  · simp
  · simp
  · cases cb.callable <;> simp

/-- How a step of `stop` ends: a null pointer is dereferenced, or the thread goes on. -/
inductive StopStep where
  | fault
  | next (m : Impl) (pc : StopPc) (evs : List Event)

/-- One step of `stop`. -/
def stopStep (ok : Bool) (m : Impl) : StopPc → Option StopStep
  | .lock => if m.stopMutex then none else some (.next { m with stopMutex := true } .exchangeGrabbing [])
  | .exchangeGrabbing =>
    some (.next { m with isGrabbing := false } (if m.isGrabbing then .storeRequested else .unlock) [])
  | .storeRequested => some (.next { m with stopRequested := true } .stopSensor [])
  -- `if (connection) connection->stopNoThrow();`
  | .stopSensor => some (.next m .testClient [])
  | .testClient => some (.next m (if m.gdpClient.isSome then .closeClient else .clearCallback) [])
  -- `try { gdpClient->Close(); } catch (...) {}`
  | .closeClient =>
    match m.gdpClient with
    | none => some .fault
    | some c =>
      if ok then
        if c.busy then none
        else some (.next { m with gdpClient := some { c with data := none } } .resetClient [])
      else some (.next m .resetClient [])
  | .resetClient =>
    if m.gdpClient.any (·.busy) then none else some (.next { m with gdpClient := none } .clearCallback [])
  | .clearCallback => some (.next { m with dataCallback := false } (.notify .snapshot) [])
  | .notify n =>
    match notifyStep m .grabbing false n with
    | (some n', evs) => some (.next m (.notify n') evs)
    | (none, evs) => some (.next m .unlock evs)
  | .unlock => some (.next { m with stopMutex := false } .returned [])
  | .returned => none

namespace State

/-- A null pointer is dereferenced; no step follows. -/
def fail (s : State) : State := { s with fault := true }

/-- The state with the data thread of client `c` at `pc`. -/
def setData (s : State) (c : GdpClient) (pc : DataPc) : State :=
  { s with impl := { s.impl with gdpClient := some { c with data := some pc } } }

end State

/-! ## The data thread -/

/-- One step of the data thread of client `c`, which is in `handleData`. -/
def dataStep (s : State) (c : GdpClient) : DataPc → Option (State × List Event)
  | .waiting => none
  | .loadGrabbing => some (s.setData c (if s.impl.isGrabbing then .snapshot else .waiting), [])
  | .snapshot => some (s.setData c (.dispatch s.impl.grabCallbacks.entries), [])
  | .dispatch [] => some (s.setData c .countFrame, [])
  | .dispatch (cb :: rest) =>
    if cb.callable then
      some (s.setData c (.inCallback rest), [.grabCallback c.id cb.id s.impl.frameSeq])
    else some (s.setData c (.dispatch rest), [])
  -- the callback returns, or throws into its own catch block
  | .inCallback rest => some (s.setData c (.dispatch rest), [])
  | .countFrame =>
    let s' := { s with impl := { s.impl with frameSeq := s.impl.frameSeq + 1 } }
    if 0 < s.impl.frameTarget ∧ s.impl.frameTarget ≤ s.impl.frameSeq + 1 then
      some (s'.setData c .exchangeRequested, [.targetReached c.id])
    else some (s'.setData c .waiting, [])
  | .exchangeRequested =>
    let s' := { s with impl := { s.impl with stopRequested := true } }
    some (s'.setData c (if s.impl.stopRequested then .waiting else .spawnWorker), [])
  | .spawnWorker =>
    if s.stopWorker.isSome then some (s.setData c .waiting, [])
    else some ({ s with stopWorker := some .lock }.setData c .waiting, [])

/-! ## The application thread -/

/-- What the application thread does after `joinStopWorker`. -/
def afterJoin : JoinCaller → AppPc
  | .grab frames => .grab frames .loadOpened
  | .close k => .stop (.close k) .lock

/-- What the application thread does after `stop`, and the return it makes visible. -/
def afterStop : StopCaller → AppPc × List Event
  | .user => (.idle, [.ret .stop])
  | .close k => (.close k .testClient, [])
  | .grabCatch frames => (.idle, [.ret (.grab frames)])

/-- Where the application thread goes when `close` returns. -/
def afterClose : CloseCaller → AppPc × List Event
  | .user => (.idle, [.ret .close])
  | .openCatch address => (.idle, [.ret (.open address)])

/-- The first program point of a public call. -/
def enter : Call → AppPc
  | .open address => .open address .loadOpened
  | .grab frames => .joinLock (.grab frames)
  | .stop => .stop .user .lock
  | .close => .joinLock (.close .user)

/-- One step of `open` on the application thread. -/
def openStep (ok : Bool) (s : State) (address : String) : OpenPc → Option (State × List Event)
  | .loadOpened =>
    if s.impl.isOpened then some ({ s with app := .idle }, [.ret (.open address)])
    else some ({ s with app := .open address .resolveTarget }, [])
  | .resolveTarget => some ({ s with app := if ok then .open address .makeConnection else failed }, [])
  | .makeConnection =>
    if ok then
      some ({ s with
        impl := { s.impl with connection := some ⟨address⟩ }
        app := .open address .makeResources }, [])
    else some ({ s with app := failed }, [])
  | .makeResources =>
    some ({ s with impl := { s.impl with resources := true }, app := .open address .connect }, [])
  | .connect =>
    match s.impl.connection with
    | none => some (s.fail, [])
    | some c =>
      if ok then
        some ({ s with
          impl := { s.impl with ipAddress := c.address }
          app := .open address .storeOpened }, [])
      else some ({ s with app := failed }, [])
  | .storeOpened =>
    some ({ s with impl := { s.impl with isOpened := true }, app := .open address .readPort }, [])
  | .readPort => some ({ s with app := if ok then .open address (.notify .snapshot) else failed }, [])
  | .notify n =>
    match notifyStep s.impl .connection true n with
    | (some n', evs) => some ({ s with app := .open address (.notify n') }, evs)
    | (none, evs) => some ({ s with app := .idle }, evs ++ [.ret (.open address)])
where
  /-- The catch block: `close()`, which starts by joining the stop worker. -/
  failed : AppPc := .joinLock (.close (.openCatch address))

/-- One step of `grab` up to the assignment of the new client. -/
def grabStep (ok : Bool) (s : State) (frames : Nat) : GrabPc → Option (State × List Event)
  | .loadOpened =>
    if s.impl.isOpened then some ({ s with app := .grab frames .loadGrabbing }, [])
    else some ({ s with app := .idle }, [.ret (.grab frames)])
  | .loadGrabbing =>
    if s.impl.isGrabbing then some ({ s with app := .idle }, [.ret (.grab frames)])
    else some ({ s with app := .grab frames .makeClient }, [])
  | .makeClient =>
    some ({ s with app := if ok then .grab frames .assignClient else .stop (.grabCatch frames) .lock }, [])
  -- the client that is replaced is destroyed, which waits for its running callback
  | .assignClient =>
    if s.impl.gdpClient.any (·.busy) then none
    else some ({ s with
      impl := { s.impl with gdpClient := some ⟨s.nextClient, none⟩ }
      nextClient := s.nextClient + 1
      app := .session frames s.nextClient .connect }, [])

/-- One step of `grab` from there on; what the SDK throws leads into `stop`, from the catch block. -/
def sessionStep (ok : Bool) (s : State) (frames client : Nat) : SessionPc → Option (State × List Event)
  | .connect =>
    if s.impl.gdpClient.isNone ∨ s.impl.connection.isNone then some (s.fail, [])
    else some ({ s with app := if ok then .session frames client .readPort else failed }, [])
  | .readPort =>
    if s.impl.connection.isNone then some (s.fail, [])
    else some ({ s with app := if ok then .session frames client .resetCounters else failed }, [])
  | .resetCounters =>
    some ({ s with
      impl := { s.impl with frameSeq := 0, frameTarget := frames }
      app := .session frames client .storeRequested }, [.sessionOpened client frames])
  | .storeRequested =>
    some ({ s with
      impl := { s.impl with stopRequested := false }
      app := .session frames client .storeGrabbing }, [])
  | .storeGrabbing =>
    some ({ s with
      impl := { s.impl with isGrabbing := true }
      app := .session frames client .setCallback }, [])
  | .setCallback =>
    some ({ s with
      impl := { s.impl with dataCallback := true }
      app := .session frames client .receive }, [])
  | .receive =>
    match s.impl.gdpClient with
    | none => some (s.fail, [])
    | some c =>
      if ok then some ({ s.setData c .waiting with app := .session frames client .start }, [])
      else some ({ s with app := failed }, [])
  | .start =>
    if s.impl.connection.isNone then some (s.fail, [])
    else some ({ s with app := if ok then .session frames client (.notify .snapshot) else failed }, [])
  | .notify n =>
    match notifyStep s.impl .grabbing true n with
    | (some n', evs) => some ({ s with app := .session frames client (.notify n') }, evs)
    | (none, evs) => some ({ s with app := .idle }, evs ++ [.grabStarted client, .ret (.grab frames)])
where
  /-- The catch block: `stop()`. -/
  failed : AppPc := .stop (.grabCatch frames) .lock

/-- One step of `close` behind its calls of `stop` and `joinStopWorker`. -/
def closeStep (ok : Bool) (s : State) (k : CloseCaller) : ClosePc → Option (State × List Event)
  | .testClient =>
    some ({ s with app := .close k (if s.impl.gdpClient.isSome then .closeClient else .resetResources) }, [])
  | .closeClient =>
    match s.impl.gdpClient with
    | none => some (s.fail, [])
    | some c =>
      if ok then
        if c.busy then none
        else some ({ s with
          impl := { s.impl with gdpClient := some { c with data := none } }
          app := .close k .resetClient }, [])
      else some ({ s with app := .close k .resetClient }, [])
  | .resetClient =>
    if s.impl.gdpClient.any (·.busy) then none
    else some ({ s with impl := { s.impl with gdpClient := none }, app := .close k .resetResources }, [])
  | .resetResources =>
    some ({ s with impl := { s.impl with resources := false }, app := .close k .resetConnection }, [])
  -- `disconnect` is noexcept
  | .resetConnection =>
    some ({ s with impl := { s.impl with connection := none }, app := .close k .loadOpened }, [])
  | .loadOpened =>
    if s.impl.isOpened then some ({ s with app := .close k .storeOpened }, [])
    else some ({ s with app := (afterClose k).1 }, (afterClose k).2)
  | .storeOpened =>
    some ({ s with impl := { s.impl with isOpened := false }, app := .close k (.notify .snapshot) }, [])
  | .notify n =>
    match notifyStep s.impl .connection false n with
    | (some n', evs) => some ({ s with app := .close k (.notify n') }, evs)
    | (none, evs) => some ({ s with app := (afterClose k).1 }, evs ++ (afterClose k).2)

/-- One step of the application thread. -/
def appStep (ok : Bool) (s : State) : Option (State × List Event) :=
  match s.app with
  | .idle => none
  | .open address pc => openStep ok s address pc
  -- the locked section of `joinStopWorker`; the worker is never the calling thread
  | .joinLock k =>
    match s.stopWorker with
    | none => some ({ s with app := afterJoin k }, [])
    | some pc => some ({ s with stopWorker := none, worker := some pc, app := .joinWait k }, [])
  | .joinWait k =>
    if s.worker = some .returned then some ({ s with worker := none, app := afterJoin k }, []) else none
  | .grab frames pc => grabStep ok s frames pc
  | .session frames client pc => sessionStep ok s frames client pc
  | .stop k .returned => some ({ s with app := (afterStop k).1 }, (afterStop k).2)
  | .stop k pc =>
    match stopStep ok s.impl pc with
    | none => none
    | some .fault => some (s.fail, [])
    | some (.next m pc' evs) => some ({ s with impl := m, app := .stop k pc' }, evs)
  | .close k pc => closeStep ok s k pc

/-! ## The machine -/

/-- One move of the whole machine. After a null dereference nothing more is known, so no move is
possible. -/
def step (s : State) (a : Action) : Option (State × List Event) :=
  if s.fault then none
  else match a with
    | .call c => if s.app = .idle then some ({ s with app := enter c }, [.call c]) else none
    | .app ok => appStep ok s
    | .stopWorker ok =>
      match s.stopWorker with
      | none => none
      | some pc =>
        match stopStep ok s.impl pc with
        | none => none
        | some .fault => some (s.fail, [])
        | some (.next m pc' evs) => some ({ s with impl := m, stopWorker := some pc' }, evs)
    | .worker ok =>
      match s.worker with
      | none => none
      | some pc =>
        match stopStep ok s.impl pc with
        | none => none
        | some .fault => some (s.fail, [])
        | some (.next m pc' evs) => some ({ s with impl := m, worker := some pc' }, evs)
    | .dataSet =>
      match s.impl.gdpClient with
      | none => none
      | some c => if c.data = some .waiting then some (s.setData c .loadGrabbing, []) else none
    | .data =>
      match s.impl.gdpClient with
      | none => none
      | some c =>
        match c.data with
        | none => none
        | some pc => dataStep s c pc
    | .statusRegistry f =>
      some ({ s with impl := { s.impl with statusObservers := f s.impl.statusObservers } }, [])
    | .grabRegistry f =>
      some ({ s with impl := { s.impl with grabCallbacks := f s.impl.grabCallbacks } }, [])

/-! ## Sample moves -/

/-- A registry with one callback. -/
def one : Registry := Registry.empty.register true

/-- A call of the application, with `n` steps of the application thread. -/
def calling (c : Call) (n : Nat) : List Action := .call c :: List.replicate n (.app true)

/-- `open`, `grab` and `stop` from the call to the return, with one status observer registered. -/
def openMoves : List Action := calling (.open "192.168.1.10") 10
def grabMoves (frames : Nat) : List Action := calling (.grab frames) 16
def stopMoves : List Action := calling .stop 13

/-- `close` when no session is running. -/
def closeMoves : List Action := calling .close 13

/-- A data set, and the data thread's steps for it with one grab callback registered. -/
def dataMoves : List Action := .dataSet :: List.replicate 6 .data

end Gocator.Threads
