/-
What observers are told about grabbing. `grab` announces `true` after the data thread and the sensor
are running and outside any lock, `stop` announces `false` from whichever thread runs it, so the two
can reach an observer in the wrong order. When every announcement is either true to the flag as it
is made or about to be followed by one that is, an observer ends up knowing the flag.
-/
import Gocator.Threads.Live

namespace Gocator.Threads

open Gocator.Facade Transition

/-! ## The property -/

/-- What an observer knows after an event. -/
def Event.told (o : Nat) (b : Bool) : Event → Bool
  | .status .grabbing v o' => if o' = o then v else b
  | _ => b

/-- The last grabbing status an observer was sent; `false` when there was none. -/
def lastStatus (o : Nat) (tr : List Event) : Bool := tr.foldl (Event.told o) false

/-- No public call, data callback or stop worker is in progress. -/
structure Quiescent (s : State) : Prop where
  app : s.app = .idle
  data : s.impl.gdpClient.any (·.busy) = false
  stopWorker : s.stopWorker = none ∨ s.stopWorker = some .returned
  worker : s.worker = none ∨ s.worker = some .returned

/-- The observer still has to be called in this `notifyStatus`. -/
def Notify.owes (o : Nat) : Notify → Bool
  | .snapshot => true
  | .calling rest => (⟨o, true⟩ : Callback) ∈ rest

/-- The thread in `stop` still has to tell the observer `false`. -/
def StopPc.owes (o : Nat) : StopPc → Bool
  | .storeRequested | .stopSensor | .testClient | .closeClient | .resetClient | .clearCallback => true
  | .notify n => n.owes o
  | _ => false

/-- The application thread is in `grab` and still has to tell the observer `true`. -/
def AppPc.owes (o : Nat) : AppPc → Bool
  | .session _ _ .setCallback | .session _ _ .receive | .session _ _ .start => true
  | .session _ _ (.notify n) => n.owes o
  | _ => false

/-- Some thread still has to tell the observer `v`. -/
def State.owes (s : State) (o : Nat) (v : Bool) : Bool :=
  if v then s.app.owes o else s.stops.any (·.owes o)

/-- The observer is the next one this `notifyStatus` calls. -/
def Notify.calls (o : Nat) : Notify → Bool
  | .calling (cb :: _) => cb = ⟨o, true⟩
  | _ => false

def StopPc.calls (o : Nat) : StopPc → Bool
  | .notify n => n.calls o
  | _ => false

/-- What the observer is told about grabbing in this step. -/
def State.tells (s : State) (o : Nat) : Action → Option Bool
  | .app _ =>
    match s.app with
    | .session _ _ (.notify n) => if n.calls o then some true else none
    | .stop _ pc => if pc.calls o then some false else none
    | _ => none
  | .stopWorker _ => if s.stopWorker.any (·.calls o) then some false else none
  | .worker _ => if s.worker.any (·.calls o) then some false else none
  | _ => none

/-- The observer is registered with a function that can be called. -/
def Registered (o : Nat) (s : State) (_ : Action) : Prop := s.impl.statusObservers.Has o

/-- The observer is registered, and is told the value of `isGrabbing`, or another thread still has to
tell it. -/
def Truthful (o : Nat) (s : State) (a : Action) : Prop :=
  s.impl.statusObservers.Has o ∧
    ∀ v, s.tells o a = some v → s.impl.isGrabbing = v ∨ s.owes o s.impl.isGrabbing = true

instance (o : Nat) (s : State) (a : Action) : Decidable (Registered o s a) :=
  inferInstanceAs (Decidable (s.impl.statusObservers.Has o))

instance (o : Nat) (s : State) (a : Action) : Decidable (Truthful o s a) :=
  inferInstanceAs (Decidable (s.impl.statusObservers.Has o ∧
    ∀ v, s.tells o a = some v → s.impl.isGrabbing = v ∨ s.owes o s.impl.isGrabbing = true))

theorem lastStatus_append (o : Nat) (tr evs : List Event) :
    lastStatus o (tr ++ evs) = evs.foldl (Event.told o) (lastStatus o tr) := List.foldl_append ..

/-! ## What one step of `notifyStatus` tells -/

/-- A step of `notifyStatus` tells the observer what it is called with, exactly when it calls it. -/
theorem told_grabbing {m : Impl} {on : Bool} {n : Notify} {r : Option Notify} {evs : List Event} (o : Nat) (b : Bool)
    (h : notifyStep m .grabbing on n = (r, evs)) : evs.foldl (Event.told o) b = if n.calls o then on else b := by
  rcases n with _ | _ | ⟨⟨j, callable⟩, rest⟩ <;> simp only [notifyStep, Prod.mk.injEq] at h <;> obtain ⟨-, rfl⟩ := h
  · rfl
  · rfl
  · cases callable <;> simp [Notify.calls, Event.told]

/-- What is owed to a registered observer stays owed until the observer is called. -/
theorem owes_notifyStep {m : Impl} {st : Status} {on : Bool} {n : Notify} {r : Option Notify} {evs : List Event}
    {o : Nat}
    (hreg : m.statusObservers.Has o) (h : notifyStep m st on n = (r, evs)) (ho : n.owes o = true)
    (hc : n.calls o = false) : ∃ n', r = some n' ∧ n'.owes o = true := by
  rcases n with _ | _ | ⟨cb, rest⟩ <;> simp only [notifyStep, Prod.mk.injEq] at h <;> obtain ⟨rfl, -⟩ := h
  · exact ⟨_, rfl, decide_eq_true hreg⟩
  · cases ho
  · refine ⟨_, rfl, ?_⟩
    simp only [Notify.owes, List.mem_cons, decide_eq_true_eq] at ho ⊢
    simp only [Notify.calls, decide_eq_false_iff_not] at hc
    exact ho.resolve_left fun h => hc h.symm

/-- What one step of `stop` tells an observer, and what it still owes it. -/
structure StopTells (o : Nat) (m : Impl) (pc : StopPc) (m' : Impl) (pc' : StopPc) (evs : List Event) : Prop where
  tells : ∀ b, evs.foldl (Event.told o) b = if pc.calls o then false else b
  owes : pc.owes o = true → pc.calls o = false → pc'.owes o = true
  unmarks : m.isGrabbing = true → m'.isGrabbing = false → pc'.owes o = true

theorem StopTells.of_kept {o : Nat} {m m' : Impl} {pc pc' : StopPc} (hc : ∀ n, pc ≠ .notify n)
    (ho : pc.owes o = true → pc'.owes o = true) (hg : m'.isGrabbing = m.isGrabbing) : StopTells o m pc m' pc' [] := by
  have hcalls : pc.calls o = false := by
    cases pc with
    | notify n => exact absurd rfl (hc n)
    | _ => rfl
  refine ⟨fun b => ?_, fun h _ => ho h, fun h h' => ?_⟩
  · rw [hcalls]; rfl
  · rw [hg, h] at h'; cases h'

theorem stopStep_tells {ok : Bool} {m m' : Impl} {pc pc' : StopPc} {evs : List Event} {o : Nat}
    (hreg : m.statusObservers.Has o) (h : stopStep ok m pc = some (.next m' pc' evs)) :
    StopTells o m pc m' pc' evs := by
  cases pc with
  | notify n =>
    simp only [stopStep] at h
    split at h <;> cases h <;> rename_i hn
    · refine ⟨fun b => told_grabbing o b hn, fun ho hc => ?_, fun hg hg' => ?_⟩
      · obtain ⟨n', hn', ho'⟩ := owes_notifyStep hreg hn ho hc
        cases hn'
        exact ho'
      · rw [hg] at hg'; cases hg'
    · refine ⟨fun b => told_grabbing o b hn, fun ho hc => ?_, fun hg hg' => ?_⟩
      · obtain ⟨n', hn', -⟩ := owes_notifyStep hreg hn ho hc
        cases hn'
      · rw [hg] at hg'; cases hg'
  | lock =>
    simp only [stopStep] at h
    split at h <;> cases h
    exact .of_kept (by rintro n ⟨⟩) Bool.noConfusion rfl
  | exchangeGrabbing =>
    simp only [stopStep] at h
    cases hg : m.isGrabbing with
    | true => rw [hg] at h; cases h; exact ⟨fun _ => rfl, Bool.noConfusion, fun _ _ => rfl⟩
    | false => rw [hg] at h; cases h; exact .of_kept (by rintro n ⟨⟩) Bool.noConfusion hg.symm
  | testClient =>
    cases h
    exact .of_kept (by rintro n ⟨⟩) (fun _ => by split <;> rfl) rfl
  | closeClient =>
    simp only [stopStep] at h
    split at h
    · cases h
    · split at h
      · split at h <;> cases h
        exact .of_kept (by rintro n ⟨⟩) (fun _ => rfl) rfl
      · cases h; exact .of_kept (by rintro n ⟨⟩) (fun _ => rfl) rfl
  | resetClient =>
    simp only [stopStep] at h
    split at h <;> cases h
    exact .of_kept (by rintro n ⟨⟩) (fun _ => rfl) rfl
  | storeRequested | stopSensor | clearCallback => cases h; exact .of_kept (by rintro n ⟨⟩) (fun _ => rfl) rfl
  | unlock => cases h; exact .of_kept (by rintro n ⟨⟩) Bool.noConfusion rfl
  | returned => cases h

/-! ## The invariant -/

/-- The failing `grab` that has marked a session and is about to unmark it. -/
def AppPc.undoing : AppPc → Bool
  | .stop (.grabCatch _) pc => !pc.cleared
  | _ => false

/-- The observer knows the flag, will be told it, or the flag is about to be taken back. -/
def Known (o : Nat) (b : Bool) (s : State) : Prop :=
  b = s.impl.isGrabbing ∨ s.owes o s.impl.isGrabbing = true ∨ s.app.undoing = true ∧ s.impl.isGrabbing = true

section

variable {o : Nat} {b : Bool} {s s' : State} {a : Action} {evs : List Event}

/-- The flag and what the observer knows of it are unchanged, and nobody forgets to tell it. -/
theorem Known.kept (hK : Known o b s) (hg : s'.impl.isGrabbing = s.impl.isGrabbing)
    (hs : ∀ pc ∈ s.stops, pc.owes o = true → pc ∈ s'.stops)
    (ha : s.impl.isGrabbing = true → s.app.owes o = true → s'.app.owes o = true ∨ s'.app.undoing = true)
    (hu : s.app.undoing = true → s'.app.undoing = true) : Known o b s' := by
  unfold Known State.owes at hK ⊢
  rw [hg]
  cases hgr : s.impl.isGrabbing
  · rw [hgr] at hK
    rcases hK with h | h | h
    · exact .inl h
    · obtain ⟨pc, hm, ho⟩ := List.any_eq_true.1 h
      exact .inr (.inl (List.any_eq_true.2 ⟨pc, hs pc hm ho, ho⟩))
    · cases h.2
  · rw [hgr] at hK
    rcases hK with h | h | h
    · exact .inl h
    · exact .inr ((ha hgr h).imp id fun h => ⟨h, rfl⟩)
    · exact .inr (.inr ⟨hu h.1, rfl⟩)

/-- A thread in `stop` takes a step, whichever slot it is in. -/
theorem known_stop {m : Impl} {pc pc' : StopPc} {l r : List StopPc} {ok : Bool} (hK : Known o b s)
    (hreg : s.impl.statusObservers.Has o) (hs : s.stops = l ++ pc :: r) (hs' : s'.stops = l ++ pc' :: r)
    (h : stopStep ok s.impl pc = some (.next m pc' evs)) (hm : s'.impl = m)
    (htrue : pc.calls o = true → s.impl.isGrabbing = false ∨ s.owes o s.impl.isGrabbing = true)
    (ha : s'.app.owes o = s.app.owes o) (hu : s.app.undoing = true → m.isGrabbing = true → s'.app.undoing = true) :
    Known o (evs.foldl (Event.told o) b) s' := by
  have he := stopStep_effect h
  obtain ⟨htell, howe, hunmark⟩ := stopStep_tells hreg h
  rw [htell]
  subst hm
  unfold Known State.owes at hK ⊢
  unfold State.owes at htrue
  cases hg : s.impl.isGrabbing
  · -- the flag stays false
    have hg' := grabbing_kept he hg
    rw [hg'] at *
    by_cases hc : pc.calls o = true
    · rw [if_pos hc]
      exact .inl rfl
    rw [if_neg hc]
    rcases hK with h | h | h
    · exact .inl (h.trans hg)
    · right; left
      rw [hg] at h
      obtain ⟨q, hq, ho⟩ := List.any_eq_true.1 h
      rw [hs, List.mem_append, List.mem_cons] at hq
      refine List.any_eq_true.2 ?_
      rw [hs']
      rcases hq with hq | rfl | hq
      · exact ⟨q, by simp [hq], ho⟩
      · exact ⟨pc', by simp, howe ho (Bool.eq_false_iff.2 hc)⟩
      · exact ⟨q, by simp [hq], ho⟩
    · rw [hg] at h; cases h.2
  · cases hg' : s'.impl.isGrabbing
    · -- the exchange: from here on this thread owes the observer `false`
      right; left
      refine List.any_eq_true.2 ⟨pc', ?_, hunmark hg hg'⟩
      rw [hs']
      simp
    · rw [hg] at hK htrue
      simp only [if_true] at hK htrue ⊢
      rw [ha]
      by_cases hc : pc.calls o = true
      · exact .inr (.inl ((htrue hc).resolve_left Bool.noConfusion))
      rw [if_neg hc]
      exact hK.imp id (Or.imp id fun h => ⟨hu h.1 hg', trivial⟩)

/-- The observer is told `true` by `grab`, which is right or about to be corrected. -/
theorem known_true (h : s.impl.isGrabbing = true ∨ s.owes o s.impl.isGrabbing = true)
    (hg : s'.impl.isGrabbing = s.impl.isGrabbing) (hs : s'.stops = s.stops) : Known o true s' := by
  unfold Known State.owes at *
  rw [hg, hs]
  cases hgr : s.impl.isGrabbing
  · rw [hgr] at h
    exact .inr (.inl (h.resolve_left Bool.noConfusion))
  · exact .inl rfl

/-- The application thread owes nothing, and the threads in `stop` go on. -/
theorem Known.move (hK : Known o b s) (hg : s'.impl.isGrabbing = s.impl.isGrabbing) (ho : s.app.owes o = false)
    (hu : s.app.undoing = false) (hs : ∀ pc ∈ s.stops, pc.owes o = true → pc ∈ s'.stops) : Known o b s' := by
  refine hK.kept hg hs (fun _ h => ?_) (fun h => ?_)
  · rw [ho] at h; cases h
  · rw [hu] at h; cases h

theorem told_none (hev : ∀ e ∈ evs, ∀ x, e.told o x = x) : evs.foldl (Event.told o) b = b := by
  induction evs with
  | nil => rfl
  | cons e evs ih =>
    rw [List.foldl_cons, hev e (List.mem_cons_self ..)]
    exact ih fun e' he' => hev e' (List.mem_cons_of_mem _ he')

theorem told_linking {e : Event} (h : e.linking = true) (x : Bool) : e.told o x = x := by
  cases e with
  | status st v o' =>
    cases st with
    | grabbing => cases h
    | connection => rfl
  | _ => rfl

theorem told_ofData {e : Event} {c : Nat} (h : e.ofData c = true) (x : Bool) : e.told o x = x := by
  cases e with
  | status st v o' => cases h
  | _ => rfl

/-- The notification loop of `grab`: the observer is told `true`, or goes on being owed it. -/
theorem known_notify {n c : Nat} {k : Notify} {r : Option Notify} {app : AppPc} (hK : Known o b s)
    (hreg : s.impl.statusObservers.Has o) (ha : s.app = .session n c (.notify k))
    (hn : notifyStep s.impl .grabbing true k = (r, evs)) (hst : app.stopPc = none)
    (happ : ∀ k', r = some k' → app = .session n c (.notify k'))
    (htrue : k.calls o = true → s.impl.isGrabbing = true ∨ s.owes o s.impl.isGrabbing = true) :
    Known o (evs.foldl (Event.told o) b) { s with app := app } := by
  have hstops : ∀ pc ∈ s.stops, pc ∈ ({ s with app := app } : State).stops := by
    intro pc hm
    rw [State.mem_stops, ha] at hm
    exact State.mem_stops.2 (.inr (hm.resolve_left nofun))
  rw [told_grabbing o b hn]
  by_cases hc : k.calls o = true
  · rw [if_pos hc]
    refine known_true (htrue hc) rfl ?_
    unfold State.stops
    rw [hst, ha]
    rfl
  · rw [if_neg hc]
    refine hK.kept rfl (fun pc hm _ => hstops pc hm) (fun _ ho => .inl ?_) (fun hu => ?_)
    · rw [ha] at ho
      obtain ⟨k', hk', ho'⟩ := owes_notifyStep hreg hn ho (Bool.of_not_eq_true hc)
      rw [happ k' hk']
      exact ho'
    · rw [ha] at hu; cases hu

/-- A session step of `grab`. From the marking of the session on, the observer is owed `true`. -/
theorem known_session {ok : Bool} {n c : Nat} {pc : SessionPc} {m : Impl} {app : AppPc} (hK : Known o b s)
    (hok : Truthful o s (.app ok)) (ha : s.app = .session n c pc) (h : SessionMove s.impl n c pc m app evs) :
    Known o (evs.foldl (Event.told o) b) { s with impl := m, app := app } := by
  have hu : s.app.undoing = true → ∀ {p : Prop}, p := by
    intro hu
    rw [ha] at hu
    cases hu
  have hstops : ∀ {m : Impl} {app : AppPc}, ∀ pc ∈ s.stops, pc ∈ ({ s with impl := m, app := app } : State).stops := by
    intro m app pc hm
    rw [State.mem_stops, ha] at hm
    exact State.mem_stops.2 (.inr (hm.resolve_left nofun))
  have htrue : ∀ {k : Notify}, s.app = .session n c (.notify k) → k.calls o = true →
      s.impl.isGrabbing = true ∨ s.owes o s.impl.isGrabbing = true := by
    intro k hk hc
    refine hok.2 true ?_
    simp only [State.tells, hk, hc, if_true]
  cases h with
  | connected | portRead | countersReset | requestedStored =>
    refine Known.move (b := b) hK rfl (by rw [ha]; rfl) (by rw [ha]; rfl) fun pc hm _ => hstops pc hm
  | grabbingStored => exact .inr (.inl rfl)
  | callbackSet | received | started =>
    exact Known.kept (b := b) hK rfl (fun pc hm _ => hstops pc hm) (fun _ _ => .inl rfl) (fun h => hu h)
  | failed => exact Known.kept (b := b) hK rfl (fun pc hm _ => hstops pc hm) (fun _ _ => .inr rfl) (fun h => hu h)
  | told k k' evs hn =>
    exact known_notify hK hok.1 ha hn rfl (fun k'' hk => by cases hk; rfl) (htrue ha)
  | returned k evs hn =>
    rw [List.foldl_append]
    exact known_notify (b := b) hK hok.1 ha hn rfl (fun k' hk => by cases hk) (htrue ha)

/-- A step of `open` or `close` tells nothing about grabbing. -/
theorem known_link (hK : Known o b s) (hf : LinkFrame s s' evs) (hs : s.app.stopPc = none) (ho : s.app.owes o = false)
    (hu : s.app.undoing = false) : Known o (evs.foldl (Event.told o) b) s' := by
  rw [told_none fun e he => told_linking (hf.events e he)]
  refine hK.move hf.session.grabbing ho hu fun pc hm _ => ?_
  rw [State.mem_stops, hs] at hm
  rw [State.mem_stops, hf.stopWorker, hf.worker]
  exact .inr (hm.resolve_left nofun)

theorem known_app {ok : Bool} (hL : LiveInv s) (hK : Known o b s) (hok : Truthful o s (.app ok))
    (h : AppStep s s' evs) :
    Known o (evs.foldl (Event.told o) b) s' := by
  cases h with
  | fault => exact Known.kept (b := b) hK rfl (fun _ hm _ => hm) (fun _ ho => .inl ho) id
  | «open» _ _ ha hf | close _ _ ha hf =>
    exact known_link hK hf (by rw [ha]; rfl) (by rw [ha]; rfl) (by rw [ha]; rfl)
  | joinNone k ha =>
    refine Known.move (b := b) hK rfl (by rw [ha]; rfl) (by rw [ha]; rfl) fun pc hm _ => ?_
    rw [State.mem_stops, ha] at hm
    exact State.mem_stops.2 (.inr (hm.resolve_left nofun))
  | joinSome k q ha hsw =>
    refine Known.move (b := b) hK rfl (by rw [ha]; rfl) (by rw [ha]; rfl) fun pc hm _ => ?_
    have hw := hL.worker_none (by rw [ha]; rintro k hk; cases hk)
    rw [State.mem_stops, ha, hw, hsw] at hm
    exact State.mem_stops.2 (.inr (.inr ((hm.resolve_left nofun).resolve_right nofun)))
  | joined k ha hw =>
    refine Known.move (b := b) hK rfl (by rw [ha]; rfl) (by rw [ha]; rfl) fun pc hm ho => ?_
    rw [State.mem_stops, ha, hw] at hm
    rcases hm.resolve_left nofun with hm | hm
    · exact State.mem_stops.2 (.inr (.inl hm))
    · cases hm; cases ho
  | stopped k ha =>
    have htold : (afterStop k).2.foldl (Event.told o) b = b := by cases k <;> rfl
    rw [htold]
    refine hK.move rfl (by rw [ha]; rfl) (by rw [ha]; cases k <;> rfl) fun pc hm ho => ?_
    rw [State.mem_stops, ha] at hm
    rcases hm with hm | hm
    · cases hm; cases ho
    · exact State.mem_stops.2 (.inr hm)
  | grab n pc app evs ha hm =>
    have htold : evs.foldl (Event.told o) b = b := by cases hm <;> rfl
    rw [htold]
    refine hK.move rfl (by rw [ha]; rfl) (by rw [ha]; rfl) fun pc hm _ => ?_
    rw [State.mem_stops, ha] at hm
    exact State.mem_stops.2 (.inr (hm.resolve_left nofun))
  | assign n ha =>
    refine Known.move (b := b) hK rfl (by rw [ha]; rfl) (by rw [ha]; rfl) fun pc hm _ => ?_
    rw [State.mem_stops, ha] at hm
    exact State.mem_stops.2 (.inr (hm.resolve_left nofun))
  | session n c pc m app evs ha hm => exact known_session hK hok ha hm

theorem known_data {g : GdpClient} {pc : DataPc} (hK : Known o b s) (h : dataStep s g pc = some (s', evs)) :
    Known o (evs.foldl (Event.told o) b) s' := by
  have hf := dataStep_frame h
  rw [told_none fun e he => told_ofData (dataStep_events h e he)]
  refine hK.kept hf.grabbing (fun q hm _ => ?_) (fun _ ho => .inl ?_) (fun hu => ?_)
  · rw [State.mem_stops] at hm ⊢
    rw [hf.app, hf.worker]
    rcases hf.spawned with hw | ⟨hw, -⟩
    · rw [hw]; exact hm
    · rw [hw] at hm
      rcases hm with hm | hm | hm
      · exact .inl hm
      · cases hm
      · exact .inr (.inr hm)
  · rw [hf.app]; exact ho
  · rw [hf.app]; exact hu

theorem known_step (hL : LiveInv s) (hK : Known o b s) (hok : Truthful o s a) (h : step s a = some (s', evs)) :
    Known o (evs.foldl (Event.told o) b) s' := by
  cases stepBy h with
  | fault hs he =>
    subst hs he
    exact hK.kept rfl (fun _ hm _ => hm) (fun _ ho => .inl ho) id
  | call c hi hs he =>
    subst hs he
    refine hK.kept rfl (fun pc hm _ => ?_) (fun _ ho => ?_) (fun hu => ?_)
    · rw [State.mem_stops, hi] at hm
      exact State.mem_stops.2 (.inr (hm.resolve_left nofun))
    · rw [hi] at ho; cases ho
    · rw [hi] at hu; cases hu
  | app ok happ hact => subst hact; exact known_app hL hK hok happ
  | appStop ok k pc pc' m ha he hs hact =>
    subst hact
    refine known_stop (l := []) (r := s.stopWorker.toList ++ s.worker.toList) hK hok.1 ?_ ?_ he (by rw [hs])
      (fun hc => hok.2 false (by simp [State.tells, ha, hc])) ?_ ?_
    · simp [State.stops, ha, AppPc.stopPc]
    · simp [State.stops, hs, AppPc.stopPc]
    · simp [hs, ha, AppPc.owes]
    · intro hu hg
      rw [ha] at hu
      rw [hs]
      -- the exchange unmarks the session, every earlier step of `stop` leaves it to be undone
      cases k <;> first | cases hu | skip
      have hcl : pc'.cleared = false := by
        by_contra hcl
        have := (stopStep_effect he).clears (Bool.eq_false_iff.not_left.1 hcl) (by simpa [AppPc.undoing] using hu)
        rw [this] at hg
        cases hg
      simp [AppPc.undoing, hcl]
  | stopWorker ok pc pc' m hw he hs hact =>
    subst hact
    refine known_stop (l := s.app.stopPc.toList) (r := s.worker.toList) hK hok.1 ?_ ?_ he (by rw [hs])
      (fun hc => hok.2 false (by simp [State.tells, hw, hc])) (by rw [hs]) fun hu _ => by rw [hs]; exact hu
    · simp [State.stops, hw]
    · simp [State.stops, hs]
  | worker ok pc pc' m hw he hs hact =>
    subst hact
    refine known_stop (l := s.app.stopPc.toList ++ s.stopWorker.toList) (r := []) hK hok.1 ?_ ?_ he (by rw [hs])
      (fun hc => hok.2 false (by simp [State.tells, hw, hc])) (by rw [hs]) fun hu _ => by rw [hs]; exact hu
    · simp [State.stops, hw]
    · simp [State.stops, hs]
  | data g pc hc hd hdata => exact known_data hK hdata
  | dataSet g hc hd hs he =>
    subst hs he
    exact hK.kept rfl (fun _ hm _ => hm) (fun _ ho => .inl ho) id
  | registries u v hs he =>
    subst hs he
    exact hK.kept rfl (fun _ hm _ => hm) (fun _ ho => .inl ho) id

end

/-! ## What an observer knows in quiescent states -/

theorem known_init (o : Nat) (observers callbacks : Registry) : Known o (lastStatus o []) (init observers callbacks) :=
  .inl rfl

/-- In a quiescent state nobody owes an observer anything. -/
theorem Known.quiescent {o : Nat} {b : Bool} {s : State} (hK : Known o b s) (hq : Quiescent s) :
    b = s.impl.isGrabbing := by
  rcases hK with h | h | h
  · exact h
  · unfold State.owes at h
    split at h
    · rw [hq.app] at h; cases h
    · obtain ⟨pc, hm, ho⟩ := List.any_eq_true.1 h
      have hpc : pc = .returned := by
        rw [State.mem_stops, hq.app] at hm
        rcases hm.resolve_left nofun with hm | hm
        · rcases hq.stopWorker with hw | hw
          · rw [hw] at hm; cases hm
          · rw [hw] at hm; cases hm; rfl
        · rcases hq.worker with hw | hw
          · rw [hw] at hm; cases hm
          · rw [hw] at hm; cases hm; rfl
      rw [hpc] at ho
      cases ho
  · rw [hq.app] at h
    cases h.1

/-- When every grabbing status is true to the flag as it is sent, or another thread still has to send
the true one, every quiescent state leaves an observer registered throughout knowing the flag. -/
theorem last_status_eq_grabbing {observers callbacks : Registry} {o : Nat} {tr : List Event} {s : State}
    (h : Run step (Truthful o) (init observers callbacks) tr s) (hq : Quiescent s) :
    lastStatus o tr = s.impl.isGrabbing := by
  have hI : LiveInv s ∧ Known o (lastStatus o tr) s :=
    h.invariant (I := fun tr s => LiveInv s ∧ Known o (lastStatus o tr) s)
      ⟨liveInv_init observers callbacks, known_init o observers callbacks⟩
      fun tr s a s' evs hI hok hstep =>
        ⟨liveInv_step hI.1 hstep, by rw [lastStatus_append]; exact known_step hI.1 hI.2 hok hstep⟩
  exact hI.2.quiescent hq

/-- The stop worker of a bounded grab, run after `grab` has announced the session. -/
def stopWorkerMoves : List Action := List.replicate 12 (.stopWorker true)

/-- A grab of one frame that stops itself, in the order the code expects. -/
theorem last_status_eq_grabbing_bounded :
    ∃ tr s, Run step (Truthful 1) (init one one) tr s ∧ Quiescent s ∧ .status .grabbing true 1 ∈ tr ∧
      lastStatus 1 tr = s.impl.isGrabbing := by
  obtain ⟨tr, s, h, hq, htrue⟩ : ∃ tr s, Run step (Truthful 1) (init one one) tr s ∧ Quiescent s ∧
      .status .grabbing true 1 ∈ tr :=
    ⟨_, _, exec_get step (Truthful 1) (openMoves ++ grabMoves 1 ++ dataMoves ++ [.data, .data] ++ stopWorkerMoves)
      (init one one) rfl, ⟨rfl, rfl, .inr rfl, .inl rfl⟩, by decide⟩
  exact ⟨tr, s, h, hq, htrue, last_status_eq_grabbing h hq⟩

/-- The one frame of a grab arrives, and the stop worker runs, before `grab` announces the session. -/
def lateStatusMoves : List Action :=
  openMoves ++ calling (.grab 1) 13 ++ dataMoves ++ [.data, .data] ++ stopWorkerMoves ++ List.replicate 3 (.app true)

/-- Without the condition on the notifications an observer can be left with a status that is wrong. -/
theorem not_last_status_eq_grabbing : ¬ ∀ (observers callbacks : Registry) (o : Nat) (tr : List Event) (s : State),
    Run step (Registered o) (init observers callbacks) tr s → Quiescent s → lastStatus o tr = s.impl.isGrabbing := by
  intro h
  have heq := h one one 1 _ _ (exec_get step (Registered 1) lateStatusMoves (init one one) rfl)
    ⟨rfl, rfl, .inr rfl, .inl rfl⟩
  revert heq
  decide

end Gocator.Threads
