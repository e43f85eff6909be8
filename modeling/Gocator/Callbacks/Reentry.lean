/-
Callbacks that call the facade again. The functions of `Gocator::Impl` are given down to the
statements that lock a mutex, decide which function runs next or write what such a statement reads;
what they do to the device and to the client is left out, and SDK calls in a row are one statement
that may throw. A callback runs on the thread that notifies, with whatever mutexes that thread holds.
-/
import Gocator.Lib.Locks
import Gocator.Callbacks.Dispatch

namespace Gocator.Callbacks

open Gocator.Facade Transition Locks

/-! ## Functions and statements -/

/-- The mutexes of `Gocator::Impl`. -/
inductive Mutex where
  | statusMutex
  | grabCallbackMutex
  | stopMutex
  | stopWorkerMutex
  deriving DecidableEq, Repr

/-- The mutex of a registry. -/
def Kind.mutex : Kind → Mutex
  | .statusObservers => .statusMutex
  | .grabCallbacks => .grabCallbackMutex

/-- The functions of the facade that lock, call foreign code, or call those that do. -/
inductive Method where
  | open
  | close
  | grab (frames : Nat)
  | stop
  | register (k : Kind) (callable : Bool)
  | deregister (k : Kind) (id : Nat)
  | clear (k : Kind)
  | handleData
  | notifyStatus (status : Status) (on : Bool)
  | requestStopFromCallback
  | joinStopWorker
  deriving DecidableEq, Repr

/-- The statements of these functions that lock nothing themselves. -/
inductive Statement where
  /-- SDK calls, any of which may throw. -/
  | sdk
  | loadOpened
  | storeOpened (on : Bool)
  | loadGrabbing
  | storeGrabbing
  | exchangeGrabbing
  | storeRequested (on : Bool)
  | exchangeRequested
  | resetCounters (frames : Nat)
  /-- `frameSeq++`; has the target been reached? -/
  | countFrame
  | register (k : Kind) (callable : Bool)
  | erase (k : Kind) (id : Nat)
  | clear (k : Kind)
  /-- The callbacks are copied into a local vector. -/
  | copy (k : Kind)
  /-- The next callback of the vector that is not empty. -/
  | nextCallback
  | joinable
  /-- `stopWorker = std::thread([this]() { stop(); })`. -/
  | spawn
  /-- The worker, unless there is none or it is this thread, is moved into a local variable. -/
  | takeWorker
  | join

/-- The members of `Gocator::Impl` that the statements read or write. -/
structure Members where
  isOpened : Bool
  isGrabbing : Bool
  stopRequested : Bool
  frameSeq : Nat
  frameTarget : Nat
  registry : Kind → Registry
  /-- The number of the thread that `stopWorker` stands for, if it is joinable. -/
  stopWorker : Option Nat

def Members.setRegistry (m : Members) (k : Kind) (r : Registry) : Members :=
  { m with registry := Function.update m.registry k r }

/-- The local variables of `notifyStatus` and `handleData`, and of `joinStopWorker`. -/
structure Locals where
  callbacks : List Callback
  worker : Option Nat

/-- What a statement does on the thread `t`. -/
def Statement.exec (a : Statement) (ok : Bool) (t next : Nat) (ended : Nat → Bool) (m : Members) (l : Locals) :
    Option (Bool × Members × Locals × Option Method) :=
  match a with
  | .sdk => some (ok, m, l, none)
  | .loadOpened => some (m.isOpened, m, l, none)
  | .storeOpened on => some (true, { m with isOpened := on }, l, none)
  | .loadGrabbing => some (m.isGrabbing, m, l, none)
  | .storeGrabbing => some (true, { m with isGrabbing := true }, l, none)
  | .exchangeGrabbing => some (m.isGrabbing, { m with isGrabbing := false }, l, none)
  | .storeRequested on => some (true, { m with stopRequested := on }, l, none)
  | .exchangeRequested => some (m.stopRequested, { m with stopRequested := true }, l, none)
  | .resetCounters frames => some (true, { m with frameSeq := 0, frameTarget := frames }, l, none)
  | .countFrame =>
    some (0 < m.frameTarget ∧ m.frameTarget ≤ m.frameSeq + 1, { m with frameSeq := m.frameSeq + 1 }, l, none)
  | .register k callable => some (true, m.setRegistry k ((m.registry k).register callable), l, none)
  | .erase k id => some (true, m.setRegistry k ((m.registry k).deregister id), l, none)
  | .clear k => some (true, m.setRegistry k (m.registry k).clear, l, none)
  | .copy k => some (true, m, { l with callbacks := (m.registry k).entries }, none)
  | .nextCallback =>
    match l.callbacks.dropWhile (!·.callable) with
    | [] => some (false, m, { l with callbacks := [] }, none)
    | _ :: rest => some (true, m, { l with callbacks := rest }, none)
  | .joinable => some (m.stopWorker.isSome, m, l, none)
  | .spawn => some (true, { m with stopWorker := some next }, l, some .stop)
  | .takeWorker =>
    if m.stopWorker.isSome ∧ m.stopWorker ≠ some t then
      some (true, { m with stopWorker := none }, { l with worker := m.stopWorker }, none)
    else some (false, m, l, none)
  | .join => if l.worker.all ended then some (true, m, { l with worker := none }, none) else none

/-! ## The functions -/

/-- What is left to do of a function. -/
abbrev Body := Prog Mutex Method Statement

/-- The functions that work on a registry. -/
def registryBody (k : Kind) (a : Statement) : Body := .lock k.mutex <| .stmt a <| .unlock k.mutex .done

def notifyStatus : Body :=
  .lock .statusMutex <| .stmt (.copy .statusObservers) <| .unlock .statusMutex <| .each .nextCallback .done

/-- `joinStopWorker`: an early return leaves the locked section as its end does. -/
def joinStopWorker : Body :=
  .lock .stopWorkerMutex <|
    .test .takeWorker (.unlock .stopWorkerMutex <| .stmt .join .done) (.unlock .stopWorkerMutex .done)

/-- `stop`: the lock is held to the end, the notification included. -/
def stop : Body :=
  .lock .stopMutex <|
    .test .exchangeGrabbing
      (.stmt (.storeRequested true) <| .call (.notifyStatus .grabbing false) <| .unlock .stopMutex .done)
      (.unlock .stopMutex .done)

def close : Body :=
  .call .joinStopWorker <| .call .stop <|
    .test .loadOpened (.stmt (.storeOpened false) <| .call (.notifyStatus .connection false) .done) .done

def «open» : Body :=
  .test .loadOpened .done <|
    .test .sdk
      (.stmt (.storeOpened true) <| .test .sdk (.call (.notifyStatus .connection true) .done) failed)
      failed
where
  /-- The catch block. -/
  failed : Body := .call .close .done

def grab (frames : Nat) : Body :=
  .call .joinStopWorker <|
    .test .loadOpened
      (.test .loadGrabbing .done <|
        .test .sdk
          (.stmt (.resetCounters frames) <| .stmt (.storeRequested false) <| .stmt .storeGrabbing <|
            .test .sdk (.call (.notifyStatus .grabbing true) .done) failed)
          failed)
      .done
where
  /-- The catch block. -/
  failed : Body := .call .stop .done

def requestStopFromCallback : Body :=
  .test .exchangeRequested .done <|
    .lock .stopWorkerMutex <|
      .test .joinable (.unlock .stopWorkerMutex .done) (.stmt .spawn <| .unlock .stopWorkerMutex .done)

def handleData : Body :=
  .test .loadGrabbing
    (.lock .grabCallbackMutex <| .stmt (.copy .grabCallbacks) <| .unlock .grabCallbackMutex <|
      .each .nextCallback <| .test .countFrame (.call .requestStopFromCallback .done) .done)
    .done

namespace Method

def body : Method → Body
  | .open => Callbacks.open
  | .close => Callbacks.close
  | .grab frames => Callbacks.grab frames
  | .stop => Callbacks.stop
  | .register k callable => registryBody k (.register k callable)
  | .deregister k id => registryBody k (.erase k id)
  | .clear k => registryBody k (.clear k)
  | .handleData => Callbacks.handleData
  | .notifyStatus _ _ => Callbacks.notifyStatus
  | .requestStopFromCallback => Callbacks.requestStopFromCallback
  | .joinStopWorker => Callbacks.joinStopWorker

/-- The public functions, and the data callback. -/
def entry : Method → Bool
  | .notifyStatus _ _ | .requestStopFromCallback | .joinStopWorker => false
  | _ => true

/-- The functions that only work on a registry. -/
def onRegistry : Method → Bool
  | .register _ _ | .deregister _ _ | .clear _ => true
  | _ => false

/-- The mutexes a function may lock, itself or in the functions it calls. -/
def uses : Method → List Mutex
  | .open | .close | .grab _ => [.stopWorkerMutex, .stopMutex, .statusMutex]
  | .stop => [.stopMutex, .statusMutex]
  | .register k _ | .deregister k _ | .clear k => [k.mutex]
  | .handleData => [.grabCallbackMutex, .stopWorkerMutex]
  | .notifyStatus _ _ => [.statusMutex]
  | .requestStopFromCallback | .joinStopWorker => [.stopWorkerMutex]

end Method

def code : Code Mutex Method Statement Locals Members where
  body := Method.body
  entry := Method.entry
  locals := ⟨[], none⟩
  exec := Statement.exec

/-! ## No thread locks a mutex it holds -/

/-- `stopMutex` is the only mutex that is kept over a call or a callback. -/
theorem code_disciplined : code.Disciplined Method.uses [.stopMutex] := by
  intro f
  cases f with
  | register k | deregister k | clear k => cases k <;> rfl
  | _ => rfl

/-- What a callback calls while its thread is in `stop` only works on a registry. -/
def Careful (s : Locks.State Mutex Method Statement Locals Members) : Locks.Action Method → Prop
  | .call t f => s.owner .stopMutex = some t → f.onRegistry = true
  | _ => True

instance (s : Locks.State Mutex Method Statement Locals Members) :
    ∀ a, Decidable (Careful s a)
  | .call t f => inferInstanceAs (Decidable (s.owner .stopMutex = some t → f.onRegistry = true))
  | .step _ _ | .leave _ => inferInstanceAs (Decidable True)

theorem Careful.apart {s : Locks.State Mutex Method Statement Locals Members} {a : Locks.Action Method}
    (h : Careful s a) :
    Apart Method.uses [.stopMutex] s a := by
  cases a with
  | call t f =>
    intro m hm hkept howner
    cases List.mem_singleton.1 hkept
    have hf := h howner
    cases f with
    | register k | deregister k | clear k => cases k <;> cases hm <;> contradiction
    | _ => cases hf
  | _ => trivial

/-- Callbacks that call anything but `stop`, `close`, `open` and `grab` from a notification of `stop` let no
thread lock a mutex it holds, in any run of any number of threads. -/
theorem no_self_lock {members : Members} {users : Nat} {tr : List Empty}
    {s : Locks.State Mutex Method Statement Locals Members}
    (h : Run (Locks.step code) Careful (Locks.init members users) tr s) (t : Nat) : ¬ SelfLock s t :=
  (inv_run code_disciplined (h.mono fun _ _ ha => ha.apart)).not_selfLock t

/-- A callback that calls `stop` from a notification of `stop` has its thread lock `stopMutex` again. -/
theorem selfLock_of_stop {s s' : Locks.State Mutex Method Statement Locals Members} {t : Nat} {evs : List Empty}
    (howner : s.owner .stopMutex = some t) (h : Locks.step code s (.call t .stop) = some (s', evs)) :
    SelfLock s' t := by
  simp only [Locks.step] at h
  split at h
  · cases h
  · rename_i th hth
    split at h <;> cases h
    have htop : (s.setStack t (.fn stop ⟨[], none⟩ :: th.stack)).threads[t]? =
        some ⟨th.user, .fn stop ⟨[], none⟩ :: th.stack⟩ := by
      rw [State.setStack, List.getElem?_modify_eq, hth]
      rfl
    exact ⟨th.user, .stopMutex, _, _, th.stack, htop, howner⟩

/-! ## Sample runs -/

/-- The members of a facade just built. -/
def Members.fresh : Members where
  isOpened := false
  isGrabbing := false
  stopRequested := false
  frameSeq := 0
  frameTarget := 0
  registry := fun _ => .empty
  stopWorker := none

def steps (n : Nat) : List (Locks.Action Method) := List.replicate n (.step 0 true)

/-- A status callback is registered and the facade opened; the callback calls `stop`, which finds no grab. -/
def openedMoves : List (Locks.Action Method) :=
  .call 0 (.register .statusObservers true) :: steps 4 ++ .call 0 .open :: steps 9 ++ .call 0 .stop :: steps 4 ++
    .leave 0 :: steps 3

/-- A grab is started and stopped, up to the callback that `stop` notifies. -/
def stoppingMoves : List (Locks.Action Method) :=
  openedMoves ++ .call 0 (.grab 0) :: steps 17 ++ .leave 0 :: steps 3 ++ .call 0 .stop :: steps 8

theorem no_self_lock_deregister : ∃ tr s, Run (Locks.step code) Careful (Locks.init Members.fresh 1) tr s ∧
    s.owner .stopMutex = some 0 ∧ ¬ SelfLock s 0 := by
  obtain ⟨tr, s, h, ho⟩ : ∃ tr s, Run (Locks.step code) Careful (Locks.init Members.fresh 1) tr s ∧
      s.owner .stopMutex = some 0 :=
    ⟨_, _, exec_get (Locks.step code) Careful
      (stoppingMoves ++ [.call 0 (.deregister .statusObservers 1), .step 0 true])
      (Locks.init Members.fresh 1) rfl, by decide⟩
  exact ⟨tr, s, h, ho, no_self_lock h 0⟩

theorem not_no_self_lock : ¬ ∀ members users tr s, Run (Locks.step code) anyStep (Locks.init members users) tr s →
    ∀ t, ¬ SelfLock s t := by
  intro h
  refine h Members.fresh 1 _ _ (exec_get (Locks.step code) anyStep (stoppingMoves ++ [.call 0 .stop])
    (Locks.init Members.fresh 1) rfl) 0 ?_
  exact ⟨_, _, _, _, _, rfl, rfl⟩

end Gocator.Callbacks
