/-
Isolation of sessions. A session that `grab` has started owns the flag, the client, the callback
and the stop worker until it is stopped, provided no stop worker is left over when its `grab` finds
`isGrabbing` false. `grab` joins the worker before it reads the flag, so a frame target reached in
between leaves one: it clears the flag first and takes the next session's client down afterwards.
-/
import Gocator.Threads.Live

namespace Gocator.Threads

open Gocator.Facade Transition

/-! ## The property -/

/-- `grab` has returned after starting the session on client `c`, and no stop for it has begun: the
application has not called `stop` or `close` since, and the frame target is not reached. -/
def SessionLive (tr : List Event) (c : Nat) : Prop :=
  (∃ pre post, tr = pre ++ .grabStarted c :: post ∧ .call .stop ∉ post ∧ .call .close ∉ post) ∧
    .targetReached c ∉ tr

/-- The session on client `c` has what it set up: reaching its target still spawns a stop. -/
structure Isolated (s : State) (c : Nat) : Prop where
  marked : s.impl.isGrabbing = true
  client : ∃ pc, s.impl.gdpClient = some ⟨c, some pc⟩
  callback : s.impl.dataCallback = true
  unrequested : s.impl.stopRequested = false
  unspawned : s.stopWorker = none

/-- `grab` has joined the stop worker and is about to read `isGrabbing`. -/
def AppPc.checking : AppPc → Bool
  | .grab _ .loadGrabbing => true
  | _ => false

/-- `grab` does not find `isGrabbing` false while a stop worker is joinable. -/
def NoLateStop (s : State) (_ : Action) : Prop :=
  s.app.checking = true → s.impl.isGrabbing = false → s.stopWorker = none

instance (s : State) (a : Action) : Decidable (NoLateStop s a) :=
  inferInstanceAs (Decidable (s.app.checking = true → s.impl.isGrabbing = false → s.stopWorker = none))

/-! ## The phases of a session -/

/-- `grab` has found no session: nobody stops one and no data arrives. -/
structure Clear (s : State) : Prop where
  unmarked : s.impl.isGrabbing = false
  opened : s.impl.isOpened = true
  unspawned : s.stopWorker = none
  joined : s.worker = none
  deaf : s.impl.receiving = false

/-- `grab` is at `pc` of the session it builds on client `c`. -/
structure Building (tr : List Event) (s : State) (c : Nat) (pc : SessionPc) : Prop where
  opened : s.impl.isOpened = true
  client : s.impl.gdpClient = some ⟨c, none⟩
  unspawned : s.stopWorker = none
  joined : s.worker = none
  below : .targetReached c ∉ tr
  unrequested : pc = .storeGrabbing ∨ pc = .setCallback ∨ pc = .receive → s.impl.stopRequested = false
  marked : pc = .setCallback ∨ pc = .receive → s.impl.isGrabbing = true
  callback : pc = .receive → s.impl.dataCallback = true

/-- A session that is started and whose target is not reached. -/
structure Held (s : State) (c : Nat) : Prop extends Isolated s c where
  opened : s.impl.isOpened = true
  joined : s.worker = none
  below : ∀ pc, s.impl.gdpClient = some ⟨c, some pc⟩ → pc.requesting = false

/-- The application thread is between two calls, or in a call that a running session turns into a
no-op. -/
def AppPc.passive : AppPc → Bool
  | .idle | .open _ .loadOpened | .joinLock (.grab _) | .grab _ .loadOpened | .grab _ .loadGrabbing => true
  | _ => false

/-- The application thread has started the session on `c` and not returned from `grab` yet. -/
def AppPc.starting (c : Nat) : AppPc → Bool
  | .session _ c' .start | .session _ c' (.notify _) => c' = c
  | _ => false

/-- A session that is being built finds the flags as `grab` sets them, and one that runs keeps them, with no stop under
way, until its target is reached or the application calls `stop` or `close`. -/
structure IsolationInv (tr : List Event) (s : State) : Prop where
  live : LiveInv s
  opened : ∀ n, s.app = .grab n .loadGrabbing → s.impl.isOpened = true
  reached : ∀ c, .targetReached c ∈ tr → c < s.nextClient
  current : ∀ g, s.impl.gdpClient = some g → g.id < s.nextClient
  clear : ∀ n pc, s.app = .grab n pc → pc = .makeClient ∨ pc = .assignClient → Clear s
  building : ∀ n c pc, s.app = .session n c pc → s.app.building = true → Building tr s c pc
  starting : ∀ c, s.app.starting c = true → .targetReached c ∉ tr → Held s c
  started : ∀ c, SessionLive tr c → Held s c ∧ s.app.passive = true

/-! ## A started session stays as it is -/

section

variable {s s' : State} {a : Action} {evs : List Event} {c : Nat}

/-- The state stays held while only the program point of the data thread changes. -/
theorem Held.kept (hH : Held s c)
    (hi : s'.impl.isGrabbing = s.impl.isGrabbing ∧ s'.impl.dataCallback = s.impl.dataCallback ∧
      s'.impl.stopRequested = s.impl.stopRequested ∧ s'.impl.isOpened = s.impl.isOpened)
    (hw : s'.stopWorker = s.stopWorker ∧ s'.worker = s.worker)
    (hc : ∃ pc, s'.impl.gdpClient = some ⟨c, some pc⟩ ∧ pc.requesting = false) : Held s' c := by
  obtain ⟨hg, hcb, hr, ho⟩ := hi
  obtain ⟨pc, hpc, hb⟩ := hc
  refine ⟨⟨?_, ⟨pc, hpc⟩, ?_, ?_, ?_⟩, ?_, ?_, fun q hq => ?_⟩
  · rw [hg]; exact hH.marked
  · rw [hcb]; exact hH.callback
  · rw [hr]; exact hH.unrequested
  · rw [hw.1]; exact hH.unspawned
  · rw [ho]; exact hH.opened
  · rw [hw.2]; exact hH.joined
  · rw [hpc] at hq
    cases hq
    exact hb

theorem Held.data {g : GdpClient} {pc : DataPc} (hH : Held s c) (hg : s.impl.gdpClient = some g)
    (hd : g.data = some pc) (h : dataStep s g pc = some (s', evs)) (hne : .targetReached c ∉ evs) : Held s' c := by
  obtain ⟨q, hq⟩ := hH.client
  rw [hg] at hq
  cases hq
  cases hd
  have hb := hH.below pc hg
  have hk : ∀ {pc' : DataPc}, pc'.requesting = false → Held (s.setData ⟨c, some pc⟩ pc') c := fun hb' =>
    hH.kept ⟨rfl, rfl, rfl, rfl⟩ ⟨rfl, rfl⟩ ⟨_, rfl, hb'⟩
  cases pc with
  | waiting => cases h
  | loadGrabbing => cases h; exact hk (by split <;> rfl)
  | snapshot => cases h; exact hk rfl
  | dispatch rest =>
    cases rest with
    | nil => cases h; exact hk rfl
    | cons cb rest =>
      simp only [dataStep] at h
      split at h <;> cases h <;> exact hk rfl
  | inCallback rest => cases h; exact hk rfl
  | countFrame =>
    simp only [dataStep] at h
    split at h <;> cases h
    · simp at hne
    · exact hH.kept ⟨rfl, rfl, rfl, rfl⟩ ⟨rfl, rfl⟩ ⟨_, rfl, rfl⟩
  | exchangeRequested => cases hb
  | spawnWorker => cases hb

/-- A step of the application thread from a passive point starts nothing and stops nothing. -/
theorem Held.app (hH : Held s c) (hp : s.app.passive = true) (h : AppStep s s' evs) :
    Held s' c ∧ s'.app.passive = true := by
  obtain ⟨pc, hpc⟩ := hH.client
  have hb := hH.below pc hpc
  have hk : ∀ app, Held { s with app := app } c := fun _ =>
    hH.kept ⟨rfl, rfl, rfl, rfl⟩ ⟨rfl, rfl⟩ ⟨pc, hpc, hb⟩
  cases h with
  | fault => exact ⟨hH.kept ⟨rfl, rfl, rfl, rfl⟩ ⟨rfl, rfl⟩ ⟨pc, hpc, hb⟩, hp⟩
  | «open» address q ha hf hopen =>
    have hq : q = .loadOpened := by
      rw [ha] at hp
      cases q <;> first | rfl | cases hp
    obtain ⟨happ, himpl⟩ := hopen hq hH.opened
    refine ⟨hH.kept ?_ ⟨hf.stopWorker, hf.worker⟩ ⟨pc, ?_, hb⟩, ?_⟩
    · rw [himpl]; exact ⟨rfl, rfl, rfl, rfl⟩
    · rw [himpl]; exact hpc
    · rw [happ]; rfl
  | close k q ha => rw [ha] at hp; cases hp
  | joinNone k ha hw =>
    cases k with
    | grab n => exact ⟨hk _, rfl⟩
    | close k => rw [ha] at hp; cases hp
  | joinSome k q ha hw => rw [hH.unspawned] at hw; cases hw
  | joined k ha => rw [ha] at hp; cases hp
  | stopped k ha => rw [ha] at hp; cases hp
  | grab n q app evs ha hm =>
    cases hm with
    | notOpened ho => rw [hH.opened] at ho; cases ho
    | opened => exact ⟨hk _, rfl⟩
    | marked => exact ⟨hk _, rfl⟩
    | unmarked hg => rw [hH.marked] at hg; cases hg
    | made | failed => rw [ha] at hp; cases hp
  | assign n ha => rw [ha] at hp; cases hp
  | session n d q m app evs ha => rw [ha] at hp; cases hp

/-- The last steps of `grab` leave the session they have started alone. -/
theorem Held.starting (hH : Held s c) (hs : s.app.starting c = true) (h : AppStep s s' evs) : Held s' c := by
  obtain ⟨pc, hpc⟩ := hH.client
  have hb := hH.below pc hpc
  have hk : ∀ {app f}, Held { s with app := app, fault := f } c :=
    hH.kept ⟨rfl, rfl, rfl, rfl⟩ ⟨rfl, rfl⟩ ⟨pc, hpc, hb⟩
  cases h with
  | fault => exact hk
  | «open» _ _ ha | close _ _ ha => rw [ha] at hs; cases hs
  | joinNone k ha | joinSome k q ha | joined k ha | stopped k ha => rw [ha] at hs; cases hs
  | grab n q app evs ha => rw [ha] at hs; cases hs
  | assign n ha => rw [ha] at hs; cases hs
  | session n d q m app evs ha hm =>
    rw [ha] at hs
    cases hm with
    | started | failed | told | returned => exact hk
    | _ => cases hs

/-- What has been started stays held by every step that reaches no target and is no call of `stop` or
`close`. -/
theorem held_step (hH : Held s c) (hp : s.app.passive = true ∨ s.app.starting c = true)
    (h : step s a = some (s', evs)) (hne : .targetReached c ∉ evs) : Held s' c := by
  obtain ⟨pc, hpc⟩ := hH.client
  have hb := hH.below pc hpc
  cases stepBy h with
  | fault hs => rw [hs]; exact hH.kept ⟨rfl, rfl, rfl, rfl⟩ ⟨rfl, rfl⟩ ⟨pc, hpc, hb⟩
  | call d hi hs => rw [hs]; exact hH.kept ⟨rfl, rfl, rfl, rfl⟩ ⟨rfl, rfl⟩ ⟨pc, hpc, hb⟩
  | app ok happ =>
    rcases hp with hp | hp
    · exact (hH.app hp happ).1
    · exact hH.starting hp happ
  | appStop ok k q q' m ha =>
    rw [ha] at hp
    rcases hp with hp | hp <;> cases hp
  | stopWorker ok q q' m hw => rw [hH.unspawned] at hw; cases hw
  | worker ok q q' m hw => rw [hH.joined] at hw; cases hw
  | data g q hc hd hdata => exact hH.data hc hd hdata hne
  | dataSet g hc hd hs =>
    rw [hs]
    rw [hpc] at hc
    cases hc
    exact hH.kept ⟨rfl, rfl, rfl, rfl⟩ ⟨rfl, rfl⟩ ⟨.loadGrabbing, rfl, rfl⟩
  | registries o g hs => rw [hs]; exact hH.kept ⟨rfl, rfl, rfl, rfl⟩ ⟨rfl, rfl⟩ ⟨pc, hpc, hb⟩

/-! ## The steps that build a session -/

theorem Clear.kept (hC : Clear s) (hi : s'.impl.isGrabbing = s.impl.isGrabbing ∧ s'.impl.isOpened = s.impl.isOpened ∧
      s'.impl.gdpClient = s.impl.gdpClient) (hw : s'.stopWorker = s.stopWorker ∧ s'.worker = s.worker) : Clear s' := by
  obtain ⟨hg, ho, hc⟩ := hi
  obtain ⟨hw, hw'⟩ := hw
  refine ⟨?_, ?_, ?_, ?_, ?_⟩
  · rw [hg]; exact hC.unmarked
  · rw [ho]; exact hC.opened
  · rw [hw]; exact hC.unspawned
  · rw [hw']; exact hC.joined
  · unfold Impl.receiving
    rw [hc]
    exact hC.deaf

/-- `grab` finds no session, with no worker left over: nothing of an earlier session is alive. -/
theorem clear_of_unmarked (hI : LiveInv s) (hj : ∀ k, s.app ≠ .joinWait k) (hst : s.app.stopPc = none)
    (hg : s.impl.isGrabbing = false) (ho : s.impl.isOpened = true) (hw : s.stopWorker = none) : Clear s := by
  have hw' := hI.worker_none hj
  refine ⟨hg, ho, hw, hw', ?_⟩
  cases hr : s.impl.receiving
  · rfl
  · rcases hI.live hr with h | h
    · rw [hg] at h; cases h
    · rw [State.tearing_eq] at h
      simp [State.stops, hst, hw, hw'] at h

theorem clear_app {tr : List Event} {n : Nat} {pc : GrabPc} (hI : IsolationInv tr s) (hok : NoLateStop s a)
    (h : AppStep s s' evs) (hs' : s'.app = .grab n pc) (hpc : pc = .makeClient ∨ pc = .assignClient) : Clear s' := by
  rcases h.to_grab hs' with ⟨rfl, hq⟩ | rfl | ⟨q, hq, hm, rfl⟩
  · exact (hI.clear n pc hq hpc).kept ⟨rfl, rfl, rfl⟩ ⟨rfl, rfl⟩
  · rcases hpc with h | h <;> cases h
  · cases hm with
    | opened => rcases hpc with h | h <;> cases h
    | unmarked hg =>
      have hC := clear_of_unmarked hI.live (by rw [hq]; rintro k hk; cases hk) (by rw [hq]; rfl) hg (hI.opened n hq)
        (hok (by rw [hq]; rfl) hg)
      exact hC.kept ⟨rfl, rfl, rfl⟩ ⟨rfl, rfl⟩
    | made => exact (hI.clear n _ hq (.inl rfl)).kept ⟨rfl, rfl, rfl⟩ ⟨rfl, rfl⟩

/-- What `grab` stores on its way to `receive`. -/
theorem Building.move {tr : List Event} {n : Nat} {pc pc' : SessionPc} {m : Impl} (hB : Building tr s c pc)
    (h : SessionMove s.impl n c pc m (.session n c pc') evs) (hb : (AppPc.session n c pc').building = true) :
    Building (tr ++ evs) { s with impl := m, app := .session n c pc' } c pc' := by
  obtain ⟨ho, hc, hw, hj, hbl, hr, hm, hcb⟩ := hB
  have hbl' : .targetReached c ∉ tr ++ [] := by rw [List.append_nil]; exact hbl
  cases h with
  | connected => exact ⟨ho, hc, hw, hj, hbl', by simp, by simp, by simp⟩
  | portRead => exact ⟨ho, hc, hw, hj, hbl', by simp, by simp, by simp⟩
  | countersReset => exact ⟨ho, hc, hw, hj, by simpa using hbl, by simp, by simp, by simp⟩
  | requestedStored => exact ⟨ho, hc, hw, hj, hbl', fun _ => rfl, by simp, by simp⟩
  | grabbingStored => exact ⟨ho, hc, hw, hj, hbl', fun _ => hr (.inl rfl), fun _ => rfl, by simp⟩
  | callbackSet => exact ⟨ho, hc, hw, hj, hbl', fun _ => hr (.inr (.inl rfl)), fun _ => hm (.inl rfl), fun _ => rfl⟩
  | received | started | told => cases hb

/-- A program point from which `grab` builds on comes after one from which it builds. -/
theorem building_of_move {n : Nat} {pc pc' : SessionPc} {m m' : Impl}
    (h : SessionMove m n c pc m' (.session n c pc') evs) (hb : (AppPc.session n c pc').building = true) :
    (AppPc.session n c pc).building = true := by
  cases h with
  | received | started | told => cases hb
  | _ => rfl

theorem building_app {tr : List Event} {n : Nat} {pc : SessionPc} (hI : IsolationInv tr s)
    (h : AppStep s s' evs) (hs' : s'.app = .session n c pc) (hb : s'.app.building = true) :
    Building (tr ++ evs) s' c pc := by
  rcases h.to_session hs' with ⟨rfl, rfl, happ⟩ | ⟨hq, rfl, rfl, rfl, rfl⟩ | ⟨q, m, hq, hm, rfl⟩
  · obtain ⟨ho, hc, hw, hj, hbl, hr, hm, hcb⟩ := hI.building n c pc happ hb
    exact ⟨ho, hc, hw, hj, by rw [List.append_nil]; exact hbl, hr, hm, hcb⟩
  · have hC := hI.clear n _ hq (.inr rfl)
    refine ⟨hC.opened, rfl, hC.unspawned, hC.joined, fun hm => ?_, by simp, by simp, by simp⟩
    rw [List.append_nil] at hm
    exact absurd (hI.reached _ hm) (Nat.lt_irrefl _)
  · exact (hI.building n c q hq (by rw [hq]; exact building_of_move hm hb)).move hm hb

theorem AppPc.starting_iff {app : AppPc} : app.starting c = true ↔
    ∃ n pc, app = .session n c pc ∧ (AppPc.session n c pc).building = false := by
  constructor
  · intro h
    cases app with
    | session n d pc =>
      cases pc <;> simp only [AppPc.starting, decide_eq_true_eq, Bool.false_eq_true] at h <;> subst h <;>
        exact ⟨n, _, rfl, rfl⟩
    | _ => cases h
  · rintro ⟨n, pc, rfl, h⟩
    cases pc <;> first | exact decide_eq_true rfl | cases h

theorem starting_app {tr : List Event} (hI : IsolationInv tr s) (h : AppStep s s' evs)
    (hs' : s'.app.starting c = true) (hn : .targetReached c ∉ tr) : Held s' c := by
  by_cases hst : s.app.starting c = true
  · exact (hI.starting c hst hn).starting hst h
  obtain ⟨n, pc, hpc, hb⟩ := AppPc.starting_iff.1 hs'
  rcases h.to_session hpc with ⟨-, -, happ⟩ | ⟨-, -, rfl, -⟩ | ⟨q, m, hq, hm, rfl⟩
  · exact absurd (AppPc.starting_iff.2 ⟨n, pc, happ, hb⟩) hst
  · cases hb
  · have hbq : s.app.building = true := by
      rw [hq]
      by_contra hbq
      exact hst (AppPc.starting_iff.2 ⟨n, q, hq, Bool.eq_false_iff.2 hbq⟩)
    obtain ⟨ho, hc, hw, hj, -, hr, hmark, hcb⟩ := hI.building n c q hq hbq
    rw [hq] at hbq
    cases hm with
    | received g hg =>
      rw [hc] at hg
      cases hg
      exact ⟨⟨hmark (.inr rfl), ⟨_, rfl⟩, hcb rfl, hr (.inr (.inr rfl)), hw⟩, ho, hj, fun pc hpc => by cases hpc; rfl⟩
    | started | told => cases hbq
    | _ => cases hb

/-! ## What a step does to the clients -/

/-- A step makes at most one new client, and reports a reached target only for the current one. -/
structure ClientStep (s s' : State) (evs : List Event) : Prop where
  le : s.nextClient ≤ s'.nextClient
  ids : ∀ g', s'.impl.gdpClient = some g' →
    (∃ g, s.impl.gdpClient = some g ∧ g.id = g'.id) ∨ g'.id < s'.nextClient
  target : ∀ c, .targetReached c ∈ evs → ∃ g, s.impl.gdpClient = some g ∧ g.id = c

theorem target_not_mem_notify {m : Impl} {st : Status} {on : Bool} {n : Notify} {r : Option Notify}
    (h : notifyStep m st on n = (r, evs)) : .targetReached c ∉ evs := by
  intro hm
  obtain ⟨o, ho⟩ := notifyStep_status h _ hm
  cases ho

/-- A step that keeps the clients, releases the current one at most, and reports no target. -/
theorem ClientStep.of_released (hg : Released s.impl.gdpClient s'.impl.gdpClient) (hn : s'.nextClient = s.nextClient)
    (ht : ∀ c, .targetReached c ∉ evs) : ClientStep s s' evs :=
  ⟨Nat.le_of_eq hn.symm, fun _ hg' => .inl (hg.sameId hg'), fun c hc => absurd hc (ht c)⟩

theorem clientStep_app (h : AppStep s s' evs) : ClientStep s s' evs := by
  cases h with
  | fault => exact .of_released (.inl rfl) rfl (by simp)
  | «open» _ _ _ hf | close _ _ _ hf =>
    exact .of_released hf.client hf.clients fun c hc => Bool.noConfusion (hf.events _ hc)
  | joinNone k | joinSome k | joined k => exact .of_released (.inl rfl) rfl (by simp)
  | stopped k => exact .of_released (.inl rfl) rfl (by cases k <;> simp [afterStop])
  | grab n pc app evs ha hm => exact .of_released (.inl rfl) rfl (by cases hm <;> simp)
  | assign n =>
    refine ⟨Nat.le_succ _, fun g' hg' => .inr ?_, by simp⟩
    cases hg'
    exact Nat.lt_succ_self _
  | session n c pc m app evs ha hm =>
    cases hm with
    | received g hg =>
      refine ⟨Nat.le_refl _, fun g' hg' => .inl ?_, by simp⟩
      cases hg'
      exact ⟨g, hg, rfl⟩
    | told k k' evs hn => exact .of_released (.inl rfl) rfl fun _ => target_not_mem_notify hn
    | returned k evs hn =>
      refine .of_released (.inl rfl) rfl fun c hc => ?_
      rcases List.mem_append.1 hc with hc | hc
      · exact target_not_mem_notify hn hc
      · simp at hc
    | _ => exact .of_released (.inl rfl) rfl (by simp)

theorem clientStep_stop {ok : Bool} {m : Impl} {pc pc' : StopPc} (h : stopStep ok s.impl pc = some (.next m pc' evs))
    (hm : s'.impl = m) (hn : s'.nextClient = s.nextClient) : ClientStep s s' evs := by
  refine ⟨Nat.le_of_eq hn.symm, fun g' hg => .inl ?_, fun c hc => ?_⟩
  · rw [hm] at hg
    exact (stopStep_effect h).client.sameId hg
  · obtain ⟨o, ho⟩ := stopStep_status h _ hc
    cases ho

theorem clientStep_data {g : GdpClient} {pc : DataPc} (hg : s.impl.gdpClient = some g)
    (h : dataStep s g pc = some (s', evs)) : ClientStep s s' evs := by
  refine ⟨Nat.le_of_eq (dataStep_frame h).clients.symm, fun g' hg' => .inl ⟨g, hg, ?_⟩, fun c hc => ⟨g, hg, ?_⟩⟩
  · obtain ⟨pc', hpc'⟩ := dataStep_client h
    rw [hpc'] at hg'
    cases hg'
    rfl
  · have hev := dataStep_events h _ hc
    exact (of_decide_eq_true hev).symm

theorem clientStep (h : step s a = some (s', evs)) : ClientStep s s' evs := by
  cases stepBy h with
  | fault hs he => subst hs he; exact ⟨Nat.le_refl _, fun g hg => .inl ⟨g, hg, rfl⟩, by simp⟩
  | call d hi hs he => subst hs he; exact ⟨Nat.le_refl _, fun g hg => .inl ⟨g, hg, rfl⟩, by simp⟩
  | app ok happ => exact clientStep_app happ
  | appStop ok k pc pc' m ha he hs => subst hs; exact clientStep_stop he rfl rfl
  | stopWorker ok pc pc' m hw he hs => subst hs; exact clientStep_stop he rfl rfl
  | worker ok pc pc' m hw he hs => subst hs; exact clientStep_stop he rfl rfl
  | data g pc hc hd hdata => exact clientStep_data hc hdata
  | dataSet g hc hd hs he =>
    subst hs he
    exact ⟨Nat.le_refl _, fun g' hg => .inl ⟨g, hc, by cases hg; rfl⟩, by simp⟩
  | registries o g hs he => subst hs he; exact ⟨Nat.le_refl _, fun g hg => .inl ⟨g, hg, rfl⟩, by simp⟩

end

/-! ## The invariant is kept -/

section

variable {s s' : State} {a : Action} {tr evs : List Event}

/-- The other threads and the registries do not move the application thread. -/
theorem app_of_step (h : step s a = some (s', evs)) (hc : ∀ c, a ≠ .call c) (ha : ∀ ok, a ≠ .app ok) :
    s'.app = s.app ∧ s'.impl.isOpened = s.impl.isOpened := by
  cases stepBy h with
  | fault hs => subst hs; exact ⟨rfl, rfl⟩
  | call c _ _ _ hac => exact absurd hac (hc c)
  | app ok _ hac => exact absurd hac (ha ok)
  | appStop ok k pc pc' m _ _ _ hac => exact absurd hac (ha ok)
  | stopWorker ok pc pc' m hw he hs => subst hs; exact ⟨rfl, (stopStep_effect he).opened⟩
  | worker ok pc pc' m hw he hs => subst hs; exact ⟨rfl, (stopStep_effect he).opened⟩
  | data g pc hc hd hdata => exact ⟨(dataStep_frame hdata).app, (dataStep_frame hdata).opened⟩
  | dataSet g hc hd hs => subst hs; exact ⟨rfl, rfl⟩
  | registries o g hs => subst hs; exact ⟨rfl, rfl⟩

/-- Where no worker runs and no data arrives, only the registries change beside the application
thread. -/
theorem step_of_clear (h : step s a = some (s', evs)) (hc : ∀ c, a ≠ .call c) (ha : ∀ ok, a ≠ .app ok)
    (hw : s.stopWorker = none) (hw' : s.worker = none) (hr : s.impl.receiving = false) :
    evs = [] ∧ ∃ o g f, s' =
      { s with impl := { s.impl with statusObservers := o, grabCallbacks := g }, fault := f } := by
  have hnone : ∀ g pc, s.impl.gdpClient = some g → g.data ≠ some pc := by
    intro g pc hg hd
    simp [Impl.receiving, hg, hd] at hr
  cases stepBy h with
  | fault hs he => exact ⟨he, _, _, true, hs⟩
  | call c _ _ _ hac => exact absurd hac (hc c)
  | app ok _ hac => exact absurd hac (ha ok)
  | appStop ok k pc pc' m _ _ _ hac => exact absurd hac (ha ok)
  | stopWorker ok pc pc' m hq => rw [hw] at hq; cases hq
  | worker ok pc pc' m hq => rw [hw'] at hq; cases hq
  | data g pc hc hd => exact absurd hd (hnone g pc hc)
  | dataSet g hc hd => exact absurd hd (hnone g _ hc)
  | registries o g hs he => exact ⟨he, o, g, s.fault, hs⟩

theorem opened_step (hI : IsolationInv tr s) (h : step s a = some (s', evs)) {n : Nat}
    (hs' : s'.app = .grab n .loadGrabbing) : s'.impl.isOpened = true := by
  cases a with
  | call c =>
    obtain ⟨-, rfl, -⟩ := step_call h
    cases c <;> cases hs'
  | app ok =>
    rcases step_app h with happ | ⟨k, pc, pc', m, -, -, rfl⟩
    · rcases happ.to_grab hs' with ⟨rfl, hq⟩ | hpc | ⟨q, hq, hm, rfl⟩
      · exact hI.opened n hq
      · cases hpc
      · cases hm
        assumption
    · cases hs'
  | _ =>
    obtain ⟨happ, ho⟩ := app_of_step h (by simp) (by simp)
    rw [happ] at hs'
    rw [ho]
    exact hI.opened n hs'

theorem clear_step (hI : IsolationInv tr s) (hok : NoLateStop s a) (h : step s a = some (s', evs)) {n : Nat}
    {pc : GrabPc} (hs' : s'.app = .grab n pc) (hpc : pc = .makeClient ∨ pc = .assignClient) : Clear s' := by
  cases a with
  | call c =>
    obtain ⟨-, rfl, -⟩ := step_call h
    cases c <;> cases hs'
  | app ok =>
    rcases step_app h with happ | ⟨k, pc, pc', m, -, -, rfl⟩
    · exact clear_app hI hok happ hs' hpc
    · cases hs'
  | _ =>
    rw [(app_of_step h (by simp) (by simp)).1] at hs'
    have hC := hI.clear n pc hs' hpc
    obtain ⟨-, o, g, f, rfl⟩ := step_of_clear h (by simp) (by simp) hC.unspawned hC.joined hC.deaf
    exact hC.kept ⟨rfl, rfl, rfl⟩ ⟨rfl, rfl⟩

theorem building_step (hI : IsolationInv tr s) (h : step s a = some (s', evs)) {n c : Nat} {pc : SessionPc}
    (hs' : s'.app = .session n c pc) (hb : s'.app.building = true) : Building (tr ++ evs) s' c pc := by
  cases a with
  | call c =>
    obtain ⟨-, rfl, -⟩ := step_call h
    cases c <;> cases hs'
  | app ok =>
    rcases step_app h with happ | ⟨k, pc, pc', m, -, -, rfl⟩
    · exact building_app hI happ hs' hb
    · cases hs'
  | _ =>
    rw [(app_of_step h (by simp) (by simp)).1] at hs' hb
    have hB := hI.building n c pc hs' hb
    have hr : s.impl.receiving = false := by simp [Impl.receiving, hB.client]
    obtain ⟨rfl, o, g, f, rfl⟩ := step_of_clear h (by simp) (by simp) hB.unspawned hB.joined hr
    refine ⟨hB.opened, hB.client, hB.unspawned, hB.joined, ?_, hB.unrequested, hB.marked, hB.callback⟩
    rw [List.append_nil]
    exact hB.below

theorem starting_step (hI : IsolationInv tr s) (h : step s a = some (s', evs)) {c : Nat}
    (hs' : s'.app.starting c = true) (hn : .targetReached c ∉ tr ++ evs) : Held s' c := by
  rw [List.mem_append, not_or] at hn
  cases a with
  | call c =>
    obtain ⟨-, rfl, -⟩ := step_call h
    cases c <;> cases hs'
  | app ok =>
    rcases step_app h with happ | ⟨k, pc, pc', m, -, -, rfl⟩
    · exact starting_app hI happ hs' hn.1
    · cases hs'
  | _ =>
    rw [(app_of_step h (by simp) (by simp)).1] at hs'
    exact held_step (hI.starting c hs' hn.1) (.inr hs') h hn.2

theorem grabStarted_not_mem_notify {c : Nat} {m : Impl} {st : Status} {on : Bool} {n : Notify} {r : Option Notify}
    (h : notifyStep m st on n = (r, evs)) : .grabStarted c ∉ evs := by
  intro hm
  obtain ⟨o, ho⟩ := notifyStep_status h _ hm
  cases ho

theorem starting_of_returned {c : Nat} (h : AppStep s s' evs) (hg : .grabStarted c ∈ evs) :
    s.app.starting c = true ∧ s'.app = .idle ∧ .targetReached c ∉ evs := by
  cases h with
  | «open» _ _ _ hf | close _ _ _ hf => exact Bool.noConfusion (hf.events _ hg)
  | stopped k => cases k <;> simp [afterStop] at hg
  | grab n pc app evs ha hm => cases hm <;> simp at hg
  | session n d pc m app evs ha hm =>
    cases hm with
    | told k k' evs hn => exact absurd hg (grabStarted_not_mem_notify hn)
    | returned k evs hn =>
      rcases List.mem_append.1 hg with hg | hg
      · exact absurd hg (grabStarted_not_mem_notify hn)
      · simp only [List.mem_cons, Event.grabStarted.injEq, reduceCtorEq, List.not_mem_nil, or_false] at hg
        subst hg
        refine ⟨by rw [ha]; exact decide_eq_true rfl, rfl, fun hm => ?_⟩
        rcases List.mem_append.1 hm with hm | hm
        · exact target_not_mem_notify hn hm
        · simp at hm
    | countersReset => simp at hg
    | _ => cases hg
  | _ => cases hg

/-- The step in which `grab` returns after starting a session. -/
theorem starting_of_grabStarted {c : Nat} (h : step s a = some (s', evs)) (hg : .grabStarted c ∈ evs) :
    s.app.starting c = true ∧ s'.app = .idle ∧ .targetReached c ∉ evs := by
  cases stepBy h with
  | fault hs he => subst he; cases hg
  | call d hi hs he => subst he; simp at hg
  | app ok happ => exact starting_of_returned happ hg
  | appStop ok k pc pc' m ha he hs => obtain ⟨o, ho⟩ := stopStep_status he _ hg; cases ho
  | stopWorker ok pc pc' m hw he hs => obtain ⟨o, ho⟩ := stopStep_status he _ hg; cases ho
  | worker ok pc pc' m hw he hs => obtain ⟨o, ho⟩ := stopStep_status he _ hg; cases ho
  | data g pc hc hd hdata => exact absurd (dataStep_events hdata _ hg) Bool.noConfusion
  | dataSet g hc hd hs he => subst he; cases hg
  | registries o g hs he => subst he; cases hg

/-- A live session was live before the step, unless it has just been started. -/
theorem sessionLive_append {c : Nat} (h : SessionLive (tr ++ evs) c) :
    .grabStarted c ∈ evs ∨ SessionLive tr c ∧ .call .stop ∉ evs ∧ .call .close ∉ evs := by
  obtain ⟨⟨pre, post, heq, hs, hc⟩, hn⟩ := h
  rw [List.mem_append, not_or] at hn
  rcases List.append_eq_append_iff.1 heq with ⟨l, hpre, hevs⟩ | ⟨l, htr, hpost⟩
  · left
    rw [hevs]
    simp
  · cases l with
    | nil =>
      left
      simp only [List.nil_append] at hpost
      rw [← hpost]
      simp
    | cons e l =>
      right
      simp only [List.cons_append, List.cons.injEq] at hpost
      obtain ⟨rfl, rfl⟩ := hpost
      simp only [List.mem_append, not_or] at hs hc
      exact ⟨⟨⟨pre, l, htr, hs.1, hc.1⟩, hn.1⟩, hs.2, hc.2⟩

theorem started_step (hI : IsolationInv tr s) (h : step s a = some (s', evs)) {c : Nat}
    (hl : SessionLive (tr ++ evs) c) : Held s' c ∧ s'.app.passive = true := by
  have hn := hl.2
  rw [List.mem_append, not_or] at hn
  rcases sessionLive_append hl with hg | ⟨hl, hstop, hclose⟩
  · obtain ⟨hst, hidle, hne⟩ := starting_of_grabStarted h hg
    exact ⟨held_step (hI.starting c hst hn.1) (.inr hst) h hne, by rw [hidle]; rfl⟩
  · obtain ⟨hH, hp⟩ := hI.started c hl
    refine ⟨held_step hH (.inl hp) h hn.2, ?_⟩
    cases a with
    | call d =>
      obtain ⟨-, rfl, rfl⟩ := step_call h
      cases d with
      | stop => exact absurd (List.mem_singleton.2 rfl) hstop
      | close => exact absurd (List.mem_singleton.2 rfl) hclose
      | _ => rfl
    | app ok =>
      rcases step_app h with happ | ⟨k, pc, pc', m, ha, -⟩
      · exact (hH.app hp happ).2
      · rw [ha] at hp; cases hp
    | _ =>
      rw [(app_of_step h (by simp) (by simp)).1]
      exact hp

theorem isolation_step (hI : IsolationInv tr s) (hok : NoLateStop s a) (h : step s a = some (s', evs)) :
    IsolationInv (tr ++ evs) s' := by
  have hcs := clientStep h
  refine ⟨liveInv_step hI.live h, fun n => opened_step hI h, fun c hc => ?_, fun g hg => ?_,
    fun n pc => clear_step hI hok h, fun n c pc => building_step hI h, fun c => starting_step hI h,
    fun c => started_step hI h⟩
  · refine Nat.lt_of_lt_of_le ?_ hcs.le
    rcases List.mem_append.1 hc with hc | hc
    · exact hI.reached c hc
    · obtain ⟨g, hg, rfl⟩ := hcs.target c hc
      exact hI.current g hg
  · rcases hcs.ids g hg with ⟨g₀, hg₀, hid⟩ | hlt
    · rw [← hid]
      exact Nat.lt_of_lt_of_le (hI.current g₀ hg₀) hcs.le
    · exact hlt

end

/-! ## Isolation in every run -/

theorem isolationInv_init (observers callbacks : Registry) : IsolationInv [] (init observers callbacks) := by
  refine ⟨liveInv_init observers callbacks, ?_, ?_, ?_, ?_, ?_, ?_, ?_⟩
  · rintro n hn; cases hn
  · rintro c hc; cases hc
  · rintro g hg; cases hg
  · rintro n pc hn; cases hn
  · rintro n c pc hn; cases hn
  · rintro c hc; cases hc
  · rintro c ⟨⟨pre, post, heq, -⟩, -⟩
    simp at heq

/-- When no `grab` finds a stop worker left over, every started session is isolated until it is
stopped. -/
theorem session_isolated {observers callbacks : Registry} {tr : List Event} {s : State} {c : Nat}
    (h : Run step NoLateStop (init observers callbacks) tr s) (hl : SessionLive tr c) : Isolated s c :=
  ((h.invariant (isolationInv_init observers callbacks)
    fun _ _ _ _ _ hI hok hstep => isolation_step hI hok hstep).started c hl).1.toIsolated

/-- One frame of a grab of two, and a call of `grab` that finds the session running. -/
theorem session_isolated_running :
    ∃ tr s, Run step NoLateStop (init one one) tr s ∧ SessionLive tr 0 ∧ .grabCallback 0 1 0 ∈ tr ∧ Isolated s 0 := by
  obtain ⟨tr, s, h, pre, post, htr, hcb, hpost⟩ : ∃ tr s, Run step NoLateStop (init one one) tr s ∧ ∃ pre post,
      tr = pre ++ .grabStarted 0 :: post ∧ .grabCallback 0 1 0 ∈ post ∧
        .call .stop ∉ post ∧ .call .close ∉ post ∧ .targetReached 0 ∉ tr :=
    ⟨_, _, exec_get step NoLateStop (openMoves ++ grabMoves 2 ++ dataMoves ++ calling (.grab 0) 3) (init one one) rfl,
      [.call (.open "192.168.1.10"), .status .connection true 1, .ret (.open "192.168.1.10"), .call (.grab 2),
        .sessionOpened 0 2, .status .grabbing true 1],
      [.ret (.grab 2), .grabCallback 0 1 0, .call (.grab 0), .ret (.grab 0)], rfl, by decide, by decide, by decide,
      by decide⟩
  have hl : SessionLive tr 0 := ⟨⟨pre, post, htr, hpost.1, hpost.2.1⟩, hpost.2.2⟩
  exact ⟨tr, s, h, hl, by rw [htr]; simp [hcb], session_isolated h hl⟩

/-- A second `grab` joins no worker; the target is reached, and the stop worker clears the flag before
`grab` reads it and tears down the session that `grab` then starts. -/
def lateStopMoves : List Action :=
  openMoves ++ grabMoves 1 ++ calling (.grab 1) 2 ++ dataMoves ++ [.data, .data] ++
    List.replicate 2 (.stopWorker true) ++ List.replicate 14 (.app true) ++ List.replicate 5 (.stopWorker true)

/-- Without the condition on the steps a started session can lose its client. -/
theorem not_session_isolated : ¬ ∀ (observers callbacks : Registry) (tr : List Event) (s : State) (c : Nat),
    Run step anyStep (init observers callbacks) tr s → SessionLive tr c → Isolated s c := by
  intro h
  have hI := h one one _ _ 1 (exec_get step anyStep lateStopMoves (init one one) rfl)
    ⟨⟨[.call (.open "192.168.1.10"), .status .connection true 1, .ret (.open "192.168.1.10"), .call (.grab 1),
        .sessionOpened 0 1, .status .grabbing true 1, .grabStarted 0, .ret (.grab 1), .call (.grab 1),
        .grabCallback 0 1 0, .targetReached 0, .sessionOpened 1 1, .status .grabbing true 1],
      [.ret (.grab 1)], rfl, by decide, by decide⟩, by decide⟩
  obtain ⟨pc, hpc⟩ := hI.client
  cases hpc

end Gocator.Threads
