/-
A public call comes back, and so does the handling of a data set: each starts only so much work. The
work is bounded by a potential that counts the steps every thread may still take, with the callbacks a
snapshot can hold bounded by the size of the registries; a call or a data set pays for the work it
starts, and every step of a thread uses up some of it.
-/
import Gocator.Threads.Live

namespace Gocator.Threads

open Gocator.Facade Transition

/-! ## The steps still to come -/

/-- The steps left in `notifyStatus`, when a snapshot holds at most `n` callbacks. -/
def Notify.left (n : Nat) : Notify → Nat
  | .snapshot => n + 2
  | .calling rest => rest.length + 1

/-- The steps left in `stop`. -/
def StopPc.left (n : Nat) : StopPc → Nat
  | .lock => n + 11
  | .exchangeGrabbing => n + 10
  | .storeRequested => n + 9
  | .stopSensor => n + 8
  | .testClient => n + 7
  | .closeClient => n + 6
  | .resetClient => n + 5
  | .clearCallback => n + 4
  | .notify k => k.left n + 1
  | .unlock => 1
  | .returned => 0

/-- The steps left in the second half of `close`, after its `stop`. -/
def ClosePc.left (n : Nat) : ClosePc → Nat
  | .testClient => n + 9
  | .closeClient => n + 8
  | .resetClient => n + 7
  | .resetResources => n + 6
  | .resetConnection => n + 5
  | .loadOpened => n + 4
  | .storeOpened => n + 3
  | .notify k => k.left n

/-- The steps left in a call once its `stop` has returned. -/
def StopCaller.left (n : Nat) : StopCaller → Nat
  | .close _ => n + 9
  | .user | .grabCatch _ => 0

/-- The steps left in a call once the worker is joined. -/
def JoinCaller.left (n : Nat) : JoinCaller → Nat
  | .grab _ => n + 24
  | .close _ => 2 * n + 21

/-- The steps left in `open`; every SDK call may still fail and be followed by `close`. -/
def OpenPc.left (n : Nat) : OpenPc → Nat
  | .loadOpened => 2 * n + 30
  | .resolveTarget => 2 * n + 29
  | .makeConnection => 2 * n + 28
  | .makeResources => 2 * n + 27
  | .connect => 2 * n + 26
  | .storeOpened => 2 * n + 25
  | .readPort => 2 * n + 24
  | .notify k => k.left n

def GrabPc.left (n : Nat) : GrabPc → Nat
  | .loadOpened => n + 24
  | .loadGrabbing => n + 23
  | .makeClient => n + 22
  | .assignClient => n + 21

/-- The steps left in `grab` once it has its client; every SDK call may still fail and be followed by
`stop`. -/
def SessionPc.left (n : Nat) : SessionPc → Nat
  | .connect => n + 20
  | .readPort => n + 19
  | .resetCounters => n + 18
  | .storeRequested => n + 17
  | .storeGrabbing => n + 16
  | .setCallback => n + 15
  | .receive => n + 14
  | .start => n + 13
  | .notify k => k.left n

def AppPc.left (n : Nat) : AppPc → Nat
  | .idle => 0
  | .open _ pc => pc.left n
  | .joinLock k => k.left n + 2
  | .joinWait k => k.left n + 1
  | .grab _ pc => pc.left n
  | .session _ _ pc => pc.left n
  | .stop k pc => k.left n + pc.left n + 1
  | .close _ pc => pc.left n

/-- The steps left in `handleData`, the work of the stop worker it may start among them. -/
def dataLeft (n : Nat) : DataPc → Nat
  | .waiting => 0
  | .loadGrabbing => 3 * n + 17
  | .snapshot => 3 * n + 16
  | .dispatch rest => n + 15 + 2 * rest.length
  | .inCallback rest => n + 16 + 2 * rest.length
  | .countFrame => n + 14
  | .exchangeRequested => n + 13
  | .spawnWorker => n + 12

/-- The steps left in a thread that may not be there. -/
def leftIn {α : Type} (left : α → Nat) : Option α → Nat
  | none => 0
  | some pc => left pc

/-- The steps left in all threads; a fault ends the run and counts as one step. -/
def State.left (n : Nat) (s : State) : Nat :=
  s.app.left n + leftIn (StopPc.left n) s.stopWorker + leftIn (StopPc.left n) s.worker +
    leftIn (dataLeft n) (s.impl.gdpClient.bind (·.data)) + (!s.fault).toNat

/-- What an action pays for the steps it starts; a change of a registry only for itself. -/
def Action.pays (n : Nat) : Action → Nat
  | .call _ => 2 * n + 31
  | .dataSet => 3 * n + 18
  | .statusRegistry _ | .grabRegistry _ => 1
  | .app _ | .stopWorker _ | .worker _ | .data => 0

/-- At most `n` observers and at most `n` grab callbacks are registered. -/
def AtMost (n : Nat) (s : State) (_ : Action) : Prop :=
  s.impl.statusObservers.entries.length ≤ n ∧ s.impl.grabCallbacks.entries.length ≤ n

instance (n : Nat) (s : State) (a : Action) : Decidable (AtMost n s a) :=
  inferInstanceAs (Decidable (_ ∧ _))

@[simp] theorem leftIn_none {α : Type} (left : α → Nat) : leftIn left none = 0 := rfl

@[simp] theorem leftIn_some {α : Type} (left : α → Nat) (pc : α) : leftIn left (some pc) = left pc := rfl

@[simp] theorem left_idle (n : Nat) : AppPc.idle.left n = 0 := rfl

/-- The steps left after a client is kept, dropped or closed. -/
theorem left_released {n : Nat} {g g' : Option GdpClient} (h : Released g g') :
    leftIn (dataLeft n) (g'.bind (·.data)) ≤ leftIn (dataLeft n) (g.bind (·.data)) := by
  rcases h with rfl | rfl | ⟨c, rfl, -, rfl⟩ <;> simp

/-! ## Each thread uses up its work -/

section

variable {n : Nat} {ok : Bool} {s s' : State} {evs : List Event}

theorem left_notify {m : Impl} {st : Status} {on : Bool} {k k' : Notify} (hn : m.statusObservers.entries.length ≤ n)
    (h : notifyStep m st on k = (some k', evs)) : k'.left n + 1 ≤ k.left n := by
  rcases k with _ | _ | ⟨cb, rest⟩ <;> simp only [notifyStep, Prod.mk.injEq, Option.some.injEq] at h
  · obtain ⟨rfl, -⟩ := h
    simp only [Notify.left]
    omega
  · cases h.1
  · obtain ⟨rfl, -⟩ := h
    simp [Notify.left]

theorem left_notify_pos (k : Notify) : 1 ≤ k.left n := by
  cases k <;> simp only [Notify.left] <;> omega

/-- A step of `stop` uses up a step of its thread and adds none to the data thread. -/
theorem left_stopStep {m m' : Impl} {pc pc' : StopPc} (hn : m.statusObservers.entries.length ≤ n)
    (h : stopStep ok m pc = some (.next m' pc' evs)) : pc'.left n + 1 ≤ pc.left n := by
  cases pc with
  | lock | resetClient =>
    simp only [stopStep] at h
    split at h <;> cases h
    simp only [StopPc.left]
    omega
  | exchangeGrabbing | testClient =>
    simp only [stopStep] at h
    cases h
    split <;> simp only [StopPc.left] <;> omega
  | closeClient =>
    simp only [stopStep] at h
    split at h
    · cases h
    · split at h
      · split at h <;> cases h
        simp only [StopPc.left]
        omega
      · cases h
        simp only [StopPc.left]
        omega
  | notify k =>
    simp only [stopStep] at h
    split at h <;> cases h <;> rename_i hk
    · have := left_notify hn hk
      simp only [StopPc.left]
      omega
    · have := left_notify_pos (n := n) k
      simp only [StopPc.left]
      omega
  | clearCallback =>
    cases h
    simp only [StopPc.left, Notify.left]
    omega
  | returned => cases h
  | _ =>
    cases h
    simp only [StopPc.left]
    omega

/-- The application thread uses up a step and leaves the other threads alone. -/
theorem left_app {m : Impl} {app : AppPc} (hc : Released s.impl.gdpClient m.gdpClient)
    (ha : app.left n + 1 ≤ s.app.left n) : ({ s with impl := m, app := app } : State).left n + 1 ≤ s.left n := by
  have := left_released (n := n) hc
  simp only [State.left]
  omega

/-- The same when no member changes. -/
theorem left_move {app : AppPc} (ha : app.left n + 1 ≤ s.app.left n) :
    ({ s with app := app } : State).left n + 1 ≤ s.left n :=
  left_app (m := s.impl) (.inl rfl) ha

theorem left_fail (hf : s.fault = false) : s.fail.left n + 1 ≤ s.left n := by
  simp [State.left, State.fail, hf]

theorem left_open {address : String} {pc : OpenPc} (hn : s.impl.statusObservers.entries.length ≤ n)
    (hf : s.fault = false) (ha : s.app = .open address pc) (h : openStep ok s address pc = some (s', evs)) :
    s'.left n + 1 ≤ s.left n := by
  cases pc with
  | loadOpened =>
    simp only [openStep] at h
    split at h <;> cases h <;> refine left_move ?_ <;> simp only [ha, AppPc.left, OpenPc.left] <;> omega
  | resolveTarget | readPort =>
    simp only [openStep] at h
    cases h
    refine left_move ?_
    cases ok <;> simp [ha, AppPc.left, OpenPc.left, JoinCaller.left, Notify.left, openStep.failed] <;> omega
  | makeConnection =>
    simp only [openStep] at h
    split at h <;> cases h
    · refine left_app (.inl rfl) ?_
      simp only [ha, AppPc.left, OpenPc.left]
      omega
    · refine left_move ?_
      simp only [ha, AppPc.left, OpenPc.left, JoinCaller.left, openStep.failed]
      omega
  | makeResources | storeOpened =>
    cases h
    refine left_app (.inl rfl) ?_
    simp only [ha, AppPc.left, OpenPc.left]
    omega
  | connect =>
    simp only [openStep] at h
    split at h
    · cases h; exact left_fail hf
    · split at h <;> cases h
      · refine left_app (.inl rfl) ?_
        simp only [ha, AppPc.left, OpenPc.left]
        omega
      · refine left_move ?_
        simp only [ha, AppPc.left, OpenPc.left, JoinCaller.left, openStep.failed]
        omega
  | notify k =>
    simp only [openStep] at h
    split at h <;> cases h <;> rename_i hk <;> refine left_move ?_
    · have := left_notify hn hk
      simp only [ha, AppPc.left, OpenPc.left]
      omega
    · have := left_notify_pos (n := n) k
      simp only [ha, AppPc.left, OpenPc.left]
      omega

theorem left_afterClose (k : CloseCaller) : (afterClose k).1.left n = 0 := by
  cases k <;> rfl

theorem left_close {k : CloseCaller} {pc : ClosePc} (hn : s.impl.statusObservers.entries.length ≤ n)
    (hf : s.fault = false) (ha : s.app = .close k pc) (h : closeStep ok s k pc = some (s', evs)) :
    s'.left n + 1 ≤ s.left n := by
  cases pc with
  | testClient =>
    simp only [closeStep] at h
    cases h
    refine left_move ?_
    split <;> simp only [ha, AppPc.left, ClosePc.left] <;> omega
  | closeClient =>
    simp only [closeStep] at h
    split at h
    · cases h; exact left_fail hf
    · rename_i c hc
      split at h
      · split at h <;> cases h
        rename_i hb
        refine left_app (.inr (.inr ⟨c, hc, Bool.of_not_eq_true hb, rfl⟩)) ?_
        simp only [ha, AppPc.left, ClosePc.left]
        omega
      · cases h
        refine left_move ?_
        simp only [ha, AppPc.left, ClosePc.left]
        omega
  | resetClient =>
    simp only [closeStep] at h
    split at h <;> cases h
    refine left_app (.inr (.inl rfl)) ?_
    simp only [ha, AppPc.left, ClosePc.left]
    omega
  | resetResources | resetConnection =>
    cases h
    refine left_app (.inl rfl) ?_
    simp only [ha, AppPc.left, ClosePc.left]
    omega
  | loadOpened =>
    simp only [closeStep] at h
    split at h <;> cases h <;> refine left_move ?_
    · simp only [ha, AppPc.left, ClosePc.left]
      omega
    · rw [left_afterClose, ha]
      simp only [AppPc.left, ClosePc.left]
      omega
  | storeOpened =>
    cases h
    refine left_app (.inl rfl) ?_
    simp only [ha, AppPc.left, ClosePc.left, Notify.left]
    omega
  | notify q =>
    simp only [closeStep] at h
    split at h <;> cases h <;> rename_i hk <;> refine left_move ?_
    · have := left_notify hn hk
      simp only [ha, AppPc.left, ClosePc.left]
      omega
    · have := left_notify_pos (n := n) q
      rw [left_afterClose, ha]
      simp only [AppPc.left, ClosePc.left]
      omega

theorem left_afterJoin (k : JoinCaller) : (afterJoin k).left n = k.left n := by
  cases k with
  | grab frames => rfl
  | close k =>
    simp only [afterJoin, AppPc.left, StopCaller.left, StopPc.left, JoinCaller.left]
    omega

theorem left_afterStop (k : StopCaller) : (afterStop k).1.left n = k.left n := by
  cases k <;> rfl

theorem left_grabMove {f : Nat} {pc : GrabPc} {app : AppPc} (h : GrabMove s.impl f pc app evs) :
    app.left n + 1 ≤ pc.left n := by
  cases h <;> simp only [AppPc.left, GrabPc.left, StopCaller.left, StopPc.left] <;> omega

theorem left_sessionMove {f c : Nat} {pc : SessionPc} {m m' : Impl} {app : AppPc}
    (hn : m.statusObservers.entries.length ≤ n) (h : SessionMove m f c pc m' app evs) :
    app.left n + 1 ≤ pc.left n := by
  cases h with
  | told k k' evs hk =>
    have := left_notify hn hk
    simp only [AppPc.left, SessionPc.left]
    omega
  | returned k =>
    have := left_notify_pos (n := n) k
    simp only [AppPc.left, SessionPc.left]
    omega
  | failed pc ht =>
    cases pc <;> cases ht <;> simp only [AppPc.left, SessionPc.left, StopCaller.left, StopPc.left] <;> omega
  | _ =>
    simp only [AppPc.left, SessionPc.left, Notify.left]
    omega

/-- A step of the application thread outside the body of `stop`. -/
theorem left_appStep (hn : s.impl.statusObservers.entries.length ≤ n) (hf : s.fault = false)
    (h : appStep ok s = some (s', evs)) (hs : AppStep s s' evs) : s'.left n + 1 ≤ s.left n := by
  cases hs with
  | fault => exact left_fail hf
  | «open» address pc ha =>
    have ho := appStep_open ha h
    exact left_open hn hf ha ho
  | close k pc ha =>
    have hc := appStep_close ha h
    exact left_close hn hf ha hc
  | joinNone k ha =>
    refine left_move ?_
    rw [left_afterJoin, ha]
    simp only [AppPc.left]
    omega
  | joinSome k pc ha hw =>
    simp only [State.left, ha, hw, AppPc.left, leftIn_none, leftIn_some]
    omega
  | joined k ha hw =>
    have := left_afterJoin (n := n) k
    have hwait : (AppPc.joinWait k).left n = k.left n + 1 := rfl
    simp only [State.left, ha, hw, hwait, leftIn_none, leftIn_some]
    omega
  | stopped k ha =>
    refine left_move ?_
    rw [left_afterStop, ha]
    simp only [AppPc.left]
    omega
  | grab f pc app evs ha hm =>
    refine left_move ?_
    rw [ha]
    exact left_grabMove hm
  | assign f ha hb =>
    simp only [State.left, ha, AppPc.left, GrabPc.left, SessionPc.left, Option.bind_some, leftIn_none]
    omega
  | session f c pc m app evs ha hm =>
    have := left_sessionMove hn hm
    cases hm with
    | received g hg =>
      simp only [State.left, ha, hg, AppPc.left, Option.bind_some, leftIn_some, dataLeft] at this ⊢
      omega
    | _ =>
      refine left_app (.inl rfl) ?_
      rw [ha]
      exact this

/-! ## The data thread -/

theorem left_setData (n : Nat) {c : GdpClient} {pc : DataPc} (pc' : DataPc) (hc : s.impl.gdpClient = some c)
    (hd : c.data = some pc) :
    (s.setData c pc').left n + dataLeft n pc = s.left n + dataLeft n pc' := by
  simp only [State.left, State.setData, hc, hd, Option.bind_some, leftIn_some]
  omega

theorem left_dataStep {c : GdpClient} {pc : DataPc} (hn : s.impl.grabCallbacks.entries.length ≤ n)
    (hc : s.impl.gdpClient = some c) (hd : c.data = some pc) (h : dataStep s c pc = some (s', evs)) :
    s'.left n + 1 ≤ s.left n := by
  -- the thread goes on to `pc'`, having changed nothing else that counts
  have hmove : ∀ {pc' : DataPc} {m : Impl}, m.gdpClient = some c → dataLeft n pc' + 1 ≤ dataLeft n pc →
      (({ s with impl := m } : State).setData c pc').left n + 1 ≤ s.left n := by
    intro pc' m hm hlt
    have := left_setData n (s := { s with impl := m }) pc' hm hd
    have hsame : ({ s with impl := m } : State).left n = s.left n := by simp only [State.left, hm, hc]
    omega
  cases pc with
  | waiting => cases h
  | loadGrabbing =>
    cases h
    refine hmove hc ?_
    split <;> simp only [dataLeft] <;> omega
  | snapshot =>
    cases h
    refine hmove hc ?_
    simp only [dataLeft]
    omega
  | dispatch rest =>
    cases rest with
    | nil =>
      cases h
      refine hmove hc ?_
      simp only [dataLeft]
      omega
    | cons cb rest =>
      simp only [dataStep] at h
      split at h <;> cases h <;> refine hmove hc ?_ <;> simp only [dataLeft, List.length_cons] <;> omega
  | inCallback rest =>
    cases h
    refine hmove hc ?_
    simp only [dataLeft]
    omega
  | countFrame =>
    simp only [dataStep] at h
    split at h <;> cases h <;> refine hmove hc ?_ <;> simp only [dataLeft] <;> omega
  | exchangeRequested =>
    cases h
    refine hmove hc ?_
    split <;> simp only [dataLeft] <;> omega
  | spawnWorker =>
    simp only [dataStep] at h
    split at h <;> cases h
    · refine hmove hc ?_
      simp only [dataLeft]
      omega
    · -- the step left over goes into the worker
      rename_i hw
      have hnone := Option.not_isSome_iff_eq_none.1 hw
      simp only [State.left, State.setData, hc, hd, hnone, Option.bind_some, leftIn_some, leftIn_none, dataLeft,
        StopPc.left]
      omega

/-! ## Every step -/

theorem left_enter (c : Call) : (enter c).left n + 1 ≤ 2 * n + 31 := by
  cases c <;>
    simp only [enter, AppPc.left, OpenPc.left, JoinCaller.left, StopCaller.left, StopPc.left] <;> omega

/-- A step lowers the work left by one, except for what its action pays in. -/
theorem left_step {a : Action} (hn : AtMost n s a) (h : step s a = some (s', evs)) :
    s'.left n + 1 ≤ s.left n + a.pays n := by
  have hf : s.fault = false := by
    cases hfault : s.fault
    · rfl
    · simp only [step, hfault, if_true] at h
      cases h
  cases a with
  | call c =>
    obtain ⟨hi, rfl, -⟩ := step_call h
    have := left_enter (n := n) c
    simp only [State.left, Action.pays, hi, left_idle]
    omega
  | app ok =>
    rcases step_app h with happ | ⟨k, pc, pc', m, ha, he, rfl⟩
    · exact left_appStep hn.1 hf (appStep_of_step h) happ
    · refine left_app (stopStep_effect he).client ?_
      have := left_stopStep hn.1 he
      rw [ha]
      simp only [AppPc.left]
      omega
  | stopWorker ok =>
    simp only [step, hf, Bool.false_eq_true, if_false] at h
    cases hw : s.stopWorker with
    | none => simp only [hw] at h; cases h
    | some pc =>
      simp only [hw] at h
      split at h
      · cases h
      · cases h; exact left_fail hf
      · rename_i he
        cases h
        have := left_stopStep hn.1 he
        have := left_released (n := n) (stopStep_effect he).client
        simp only [State.left, Action.pays, hw, hf, leftIn_some]
        omega
  | worker ok =>
    simp only [step, hf, Bool.false_eq_true, if_false] at h
    cases hw : s.worker with
    | none => simp only [hw] at h; cases h
    | some pc =>
      simp only [hw] at h
      split at h
      · cases h
      · cases h; exact left_fail hf
      · rename_i he
        cases h
        have := left_stopStep hn.1 he
        have := left_released (n := n) (stopStep_effect he).client
        simp only [State.left, Action.pays, hw, hf, leftIn_some]
        omega
  | data =>
    simp only [step, hf, Bool.false_eq_true, if_false] at h
    cases hc : s.impl.gdpClient with
    | none => simp only [hc] at h; cases h
    | some c =>
      simp only [hc] at h
      cases hd : c.data with
      | none => simp only [hd] at h; cases h
      | some pc =>
        simp only [hd] at h
        exact left_dataStep hn.2 hc hd h
  | dataSet =>
    simp only [step, hf, Bool.false_eq_true, if_false] at h
    cases hc : s.impl.gdpClient with
    | none => simp only [hc] at h; cases h
    | some c =>
      simp only [hc] at h
      split at h <;> cases h
      rename_i hd
      have := left_setData n .loadGrabbing hc hd
      simp only [dataLeft, Action.pays] at this ⊢
      omega
  | statusRegistry f | grabRegistry f =>
    cases Option.some.inj ((if_neg (by simp [hf])).symm.trans h)
    exact Nat.le_refl _

end

/-! ## The bound for a run -/

/-- A step of one of the facade's threads. -/
def Action.ofThread : Action → Bool
  | .app _ | .stopWorker _ | .worker _ | .data => true
  | _ => false

def Action.isCall : Action → Bool
  | .call _ => true
  | _ => false

def Action.isDataSet : Action → Bool
  | .dataSet => true
  | _ => false

/-- What a list of actions pays, by the kind of the actions. -/
theorem sum_pays (n : Nat) (as : List Action) : (as.map (Action.pays n)).sum + as.countP Action.ofThread =
    as.length + (2 * n + 30) * as.countP Action.isCall + (3 * n + 17) * as.countP Action.isDataSet := by
  induction as with
  | nil => rfl
  | cons a as ih =>
    simp only [List.map_cons, List.sum_cons, List.countP_cons, List.length_cons]
    cases a <;>
      simp only [Action.pays, Action.ofThread, Action.isCall, Action.isDataSet, Bool.false_eq_true, if_true, if_false,
        Nat.mul_add, Nat.mul_one] <;>
      omega

theorem left_init (n : Nat) (observers callbacks : Registry) : (init observers callbacks).left n = 1 := by
  simp [State.left, init, Impl.fresh]

/-- With at most `n` callbacks in each registry, the threads of a run take at most `2 * n + 30` steps for
each public call and `3 * n + 17` for each data set, in any order and whichever SDK calls throw. -/
theorem thread_steps_le {n : Nat} {observers callbacks : Registry} {as : List Action} {tr : List Event} {s : State}
    (h : exec step (AtMost n) as (init observers callbacks) = some (s, tr)) :
    as.countP Action.ofThread ≤ 1 + (2 * n + 30) * as.countP Action.isCall +
      (3 * n + 17) * as.countP Action.isDataSet := by
  have hle := length_le_of_potential step (AtMost n) (fun _ _ _ _ => left_step) as _ _ _ h
  have hpays := sum_pays n as
  rw [left_init] at hle
  omega

/-- A bounded grab that stops itself and is closed. -/
def closedMoves : List Action :=
  openMoves ++ grabMoves 1 ++ dataMoves ++ [.data, .data] ++ calling .close 1 ++ List.replicate 12 (.worker true)

theorem thread_steps_le_closed :
    closedMoves.countP Action.ofThread ≤ 1 + (2 * 1 + 30) * 3 + (3 * 1 + 17) * 1 := by
  have hrun : (exec step (AtMost 1) closedMoves (init one one)).isSome = true := rfl
  obtain ⟨⟨s, tr⟩, h⟩ := Option.isSome_iff_exists.1 hrun
  exact thread_steps_le h

end Gocator.Threads
