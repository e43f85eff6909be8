/-
A bounded grab calls each callback at most as often as it has frames to take, as long as no data
set gets past the `isGrabbing` check after the frame target is reached. Nothing in `handleData`
compares the frame counter with the target before it calls the callbacks: the target is looked at
afterwards, and only asks for a stop that runs on another thread.
-/
import Gocator.Threads.Live

namespace Gocator.Threads

open Gocator.Facade Transition

/-! ## The property -/

/-- The event is a call of this callback with a frame of this client. -/
def Event.delivers (c id : Nat) : Event → Bool
  | .grabCallback c' id' _ => c' = c ∧ id' = id
  | _ => false

/-- How often a callback was called with frames of this client. -/
def deliveries (c id : Nat) (tr : List Event) : Nat := tr.countP (Event.delivers c id)

/-- The data thread is about to read `isGrabbing`. -/
def State.checking (s : State) : Bool := s.impl.gdpClient.any (·.data = some .loadGrabbing)

def Action.isData : Action → Bool
  | .data => true
  | _ => false

/-- A data set of a bounded session passes the `isGrabbing` check only before the target is reached. -/
def InTime (s : State) (a : Action) : Prop :=
  a.isData = true → s.checking = true → s.impl.isGrabbing = true → 0 < s.impl.frameTarget →
    s.impl.frameSeq < s.impl.frameTarget

instance (s : State) (a : Action) : Decidable (InTime s a) :=
  inferInstanceAs (Decidable (a.isData = true → s.checking = true → s.impl.isGrabbing = true →
    0 < s.impl.frameTarget → s.impl.frameSeq < s.impl.frameTarget))

@[simp] theorem deliveries_nil (c id : Nat) : deliveries c id [] = 0 := rfl

@[simp] theorem deliveries_append (c id : Nat) (tr evs : List Event) :
    deliveries c id (tr ++ evs) = deliveries c id tr + deliveries c id evs := List.countP_append ..

theorem deliveries_call (c id d j seq : Nat) :
    deliveries c id [.grabCallback d j seq] = if d = c ∧ j = id then 1 else 0 := by
  simp [deliveries, List.countP_cons, Event.delivers]

/-! ## What a step does to the frames -/

/-- The event calls a grab callback or opens a session. -/
def Event.framing : Event → Bool
  | .grabCallback .. | .sessionOpened .. => true
  | _ => false

theorem deliveries_quiet {c id : Nat} {evs : List Event} (h : ∀ e ∈ evs, e.framing = false) :
    deliveries c id evs = 0 := by
  refine List.countP_eq_zero.2 fun e he hd => ?_
  cases e with
  | grabCallback d j seq => cases h _ he
  | _ => cases hd

/-- `grab` has a client and has not set the counters of the session yet. -/
def SessionPc.early : SessionPc → Bool
  | .connect | .readPort | .resetCounters => true
  | _ => false

/-- A step, by what it does to the current client, the frame counters and the calls. -/
inductive FrameStep (s : State) (a : Action) (s' : State) (evs : List Event) : Prop
  | quiet : (∀ e ∈ evs, e.framing = false) → s'.impl.frameSeq = s.impl.frameSeq →
      s'.impl.frameTarget = s.impl.frameTarget → Released s.impl.gdpClient s'.impl.gdpClient →
      s'.nextClient = s.nextClient →
      (∀ n c pc, s'.app = .session n c pc → ∃ q, s.app = .session n c q ∧ (pc.early = true → q.early = true)) →
      FrameStep s a s' evs
  | assign (n : Nat) : s'.app = .session n s.nextClient .connect → s'.impl.frameSeq = s.impl.frameSeq →
      s'.impl.frameTarget = s.impl.frameTarget → s'.impl.gdpClient = some ⟨s.nextClient, none⟩ →
      s'.nextClient = s.nextClient + 1 → evs = [] → FrameStep s a s' evs
  | opened (n c : Nat) : s.app = .session n c .resetCounters → s'.app = .session n c .storeRequested →
      s'.impl.frameSeq = 0 → s'.impl.frameTarget = n → s'.impl.gdpClient = s.impl.gdpClient →
      s'.nextClient = s.nextClient → evs = [.sessionOpened c n] → FrameStep s a s' evs
  | receive (n c : Nat) (g : GdpClient) : s.app = .session n c .receive → s'.app = .session n c .start →
      s'.impl.frameSeq = s.impl.frameSeq → s'.impl.frameTarget = s.impl.frameTarget →
      s.impl.gdpClient = some g → s'.impl.gdpClient = some { g with data := some .waiting } →
      s'.nextClient = s.nextClient → evs = [] → FrameStep s a s' evs
  | dataSet (g : GdpClient) : s.impl.gdpClient = some g → g.data = some .waiting →
      s' = s.setData g .loadGrabbing → evs = [] → FrameStep s a s' evs
  | data (g : GdpClient) (pc : DataPc) : s.impl.gdpClient = some g → g.data = some pc →
      dataStep s g pc = some (s', evs) → a = .data → FrameStep s a s' evs

theorem framing_notify {m : Impl} {st : Status} {on : Bool} {n : Notify} {r : Option Notify} {evs : List Event}
    (h : notifyStep m st on n = (r, evs)) : ∀ e ∈ evs, e.framing = false := by
  intro e he
  obtain ⟨o, rfl⟩ := notifyStep_status h e he
  rfl

theorem framing_linking {evs : List Event} (h : ∀ e ∈ evs, e.linking = true) : ∀ e ∈ evs, e.framing = false := by
  intro e he
  have hl := h e he
  cases e with
  | grabCallback c id seq => cases hl
  | sessionOpened c n => cases hl
  | _ => rfl

theorem frameStep_session {s : State} {a : Action} {n c : Nat} {pc : SessionPc} {m : Impl} {app : AppPc}
    {evs : List Event} (ha : s.app = .session n c pc) (h : SessionMove s.impl n c pc m app evs) :
    FrameStep s a { s with impl := m, app := app } evs := by
  cases h with
  | countersReset => exact .opened n c ha rfl rfl rfl rfl rfl rfl
  | received g hg => exact .receive n c g ha rfl rfl rfl hg rfl rfl rfl
  | connected =>
    refine .quiet (by simp) rfl rfl (.inl rfl) rfl fun _ _ q hq => ?_
    cases hq
    exact ⟨_, ha, fun _ => rfl⟩
  | portRead =>
    refine .quiet (by simp) rfl rfl (.inl rfl) rfl fun _ _ q hq => ?_
    cases hq
    exact ⟨_, ha, fun _ => rfl⟩
  | requestedStored | grabbingStored | callbackSet | started =>
    refine .quiet (by simp) rfl rfl (.inl rfl) rfl fun _ _ q hq => ?_
    cases hq
    exact ⟨_, ha, Bool.noConfusion⟩
  | failed => exact .quiet (by simp) rfl rfl (.inl rfl) rfl fun _ _ q hq => by cases hq
  | told k k' evs hn =>
    refine .quiet (framing_notify hn) rfl rfl (.inl rfl) rfl fun _ _ q hq => ?_
    cases hq
    exact ⟨_, ha, Bool.noConfusion⟩
  | returned k evs hn =>
    refine .quiet (fun e he => ?_) rfl rfl (.inl rfl) rfl fun _ _ q hq => by cases hq
    rcases List.mem_append.1 he with he | he
    · exact framing_notify hn e he
    · rcases List.mem_pair.1 he with rfl | rfl <;> rfl

theorem frameStep_app {s s' : State} {a : Action} {evs : List Event} (h : AppStep s s' evs) : FrameStep s a s' evs := by
  cases h with
  | fault => exact .quiet (by simp) rfl rfl (.inl rfl) rfl fun n c q hq => ⟨q, hq, id⟩
  | «open» _ _ _ hf | close _ _ _ hf =>
    refine .quiet (framing_linking hf.events) hf.session.frameSeq hf.session.frameTarget hf.client hf.clients
      fun n c q hq => ?_
    have happ := hf.app
    rw [hq] at happ
    cases happ
  | joinNone k ha => exact .quiet (by simp) rfl rfl (.inl rfl) rfl fun n c q hq => by cases k <;> cases hq
  | joinSome k pc ha => exact .quiet (by simp) rfl rfl (.inl rfl) rfl fun n c q hq => by cases hq
  | joined k ha => exact .quiet (by simp) rfl rfl (.inl rfl) rfl fun n c q hq => by cases k <;> cases hq
  | stopped k ha =>
    refine .quiet (fun e he => ?_) rfl rfl (.inl rfl) rfl fun n c q hq => by cases k <;> cases hq
    cases k with
    | close k => cases he
    | _ => rw [List.mem_singleton.1 he]; rfl
  | grab n pc app evs ha hm =>
    cases hm with
    | notOpened | marked =>
      refine .quiet (fun e he => ?_) rfl rfl (.inl rfl) rfl fun n c q hq => by cases hq
      rw [List.mem_singleton.1 he]
      rfl
    | _ => exact .quiet (by simp) rfl rfl (.inl rfl) rfl fun n c q hq => by cases hq
  | assign n ha => exact .assign n rfl rfl rfl rfl rfl rfl
  | session n c pc m app evs ha hm => exact frameStep_session ha hm

theorem frameStep_stop {ok : Bool} {s s' : State} {a : Action} {m : Impl} {pc pc' : StopPc} {evs : List Event}
    (h : stopStep ok s.impl pc = some (.next m pc' evs)) (hm : s'.impl = m) (hn : s'.nextClient = s.nextClient)
    (ha : ∀ n c q, s'.app = .session n c q → s.app = .session n c q) : FrameStep s a s' evs := by
  have he := stopStep_effect h
  subst hm
  refine .quiet (fun e hm => ?_) he.frames.1 he.frames.2 he.client hn fun n c q hq => ⟨q, ha n c q hq, id⟩
  obtain ⟨o, rfl⟩ := stopStep_status h e hm
  rfl

theorem frameStep {s s' : State} {a : Action} {evs : List Event} (h : step s a = some (s', evs)) :
    FrameStep s a s' evs := by
  cases stepBy h with
  | fault hs he => subst hs he; exact .quiet (by simp) rfl rfl (.inl rfl) rfl fun n c q hq => ⟨q, hq, id⟩
  | call d hi hs he =>
    subst hs he
    refine .quiet (by simp [Event.framing]) rfl rfl (.inl rfl) rfl fun n c q hq => ?_
    cases d <;> cases hq
  | app ok happ => exact frameStep_app happ
  | appStop ok k pc pc' m ha he hs => subst hs; exact frameStep_stop he rfl rfl fun n c q hq => by cases hq
  | stopWorker ok pc pc' m hw he hs => subst hs; exact frameStep_stop he rfl rfl fun n c q hq => hq
  | worker ok pc pc' m hw he hs => subst hs; exact frameStep_stop he rfl rfl fun n c q hq => hq
  | data g pc hc hd hdata hact => exact .data g pc hc hd hdata hact
  | dataSet g hc hd hs he => exact .dataSet g hc hd hs he
  | registries o g hs he => subst hs he; exact .quiet (by simp) rfl rfl (.inl rfl) rfl fun n c q hq => ⟨q, hq, id⟩

/-! ## Counting the calls of one session -/

/-- With `k` calls of callback `id` made, `seq` frames counted and target `n`: the calls are covered by
the frames, the one being handled included, and no frame is handled beyond the target. -/
def Counting (k seq n id : Nat) : Option DataPc → Prop
  | some .snapshot => k ≤ seq ∧ seq < n
  | some (.dispatch rest) | some (.inCallback rest) =>
    (rest.map (·.id)).Nodup ∧ seq < n ∧ k ≤ seq + if id ∈ rest.map (·.id) then 0 else 1
  | some .countFrame => k ≤ seq + 1 ∧ seq < n
  | _ => k ≤ seq ∧ seq ≤ n

theorem Counting.le {k seq n id : Nat} {pc : Option DataPc} (h : Counting k seq n id pc) : k ≤ n := by
  unfold Counting at h
  split at h
  · omega
  · obtain ⟨-, h, hk⟩ := h
    split at hk <;> omega
  · obtain ⟨-, h, hk⟩ := h
    split at hk <;> omega
  · omega
  · omega

/-- The call is counted, and the callback is not called again for this frame. -/
theorem counting_called {k seq n id : Nat} {cb : Callback} {rest : List Callback} (c j : Nat)
    (hk : Counting k seq n id (some (.dispatch (cb :: rest)))) :
    Counting (k + deliveries c id [.grabCallback c cb.id j]) seq n id (some (.inCallback rest)) := by
  obtain ⟨hnd, hlt, hle⟩ := hk
  obtain ⟨hcb, hnd⟩ := List.nodup_cons.1 hnd
  refine ⟨hnd, hlt, ?_⟩
  rw [deliveries_call]
  simp only [List.map_cons, List.mem_cons] at hle
  by_cases hid : cb.id = id
  · subst hid
    simp only [true_or, if_true] at hle
    simp only [hcb, and_self, if_true, if_false]
    omega
  · simp only [Ne.symm hid, false_or] at hle
    simp only [hid, and_false, if_false]
    omega

theorem counting_skipped {k seq n id : Nat} {cb : Callback} {rest : List Callback}
    (hk : Counting k seq n id (some (.dispatch (cb :: rest)))) : Counting k seq n id (some (.dispatch rest)) := by
  obtain ⟨hnd, hlt, hle⟩ := hk
  refine ⟨(List.nodup_cons.1 hnd).2, hlt, ?_⟩
  simp only [List.map_cons, List.mem_cons] at hle
  by_cases hm : id ∈ rest.map (·.id)
  · rw [if_pos hm]
    rw [if_pos (.inr hm)] at hle
    exact hle
  · rw [if_neg hm]
    split at hle <;> omega

/-- A step of the data thread keeps the count, unless it passes the check late. -/
theorem counting_data {s s' : State} {g : GdpClient} {pc : DataPc} {evs : List Event} {k n id : Nat}
    (hok : InTime s .data) (hg : s.impl.gdpClient = some g) (hd : g.data = some pc)
    (h : dataStep s g pc = some (s', evs)) (hn : 0 < n) (ht : s.impl.frameTarget = n)
    (hk : Counting k s.impl.frameSeq n id (some pc)) :
    ∃ pc', s'.impl.gdpClient = some ⟨g.id, some pc'⟩ ∧ s'.impl.frameTarget = n ∧
      Counting (k + deliveries g.id id evs) s'.impl.frameSeq n id (some pc') := by
  cases pc with
  | waiting => cases h
  | loadGrabbing =>
    simp only [dataStep] at h
    cases h
    refine ⟨_, rfl, ht, ?_⟩
    have hlt : s.impl.isGrabbing = true → s.impl.frameSeq < n := by
      intro hgr
      have hc : s.checking = true := by simp [State.checking, hg, hd]
      have := hok rfl hc hgr (by omega)
      omega
    split
    · rename_i hgr
      exact ⟨hk.1, hlt hgr⟩
    · exact hk
  | snapshot =>
    simp only [dataStep] at h
    cases h
    refine ⟨_, rfl, ht, s.impl.grabCallbacks.nodup, hk.2, ?_⟩
    exact Nat.le_trans hk.1 (Nat.le_add_right _ _)
  | dispatch rest =>
    cases rest with
    | nil =>
      obtain ⟨-, hlt, hle⟩ := hk
      simp only [dataStep] at h
      cases h
      exact ⟨_, rfl, ht, by simpa [State.setData] using hle, hlt⟩
    | cons cb rest =>
      simp only [dataStep] at h
      split at h <;> cases h
      · exact ⟨_, rfl, ht, counting_called g.id s.impl.frameSeq hk⟩
      · exact ⟨_, rfl, ht, counting_skipped hk⟩
  | inCallback rest =>
    simp only [dataStep] at h
    cases h
    exact ⟨_, rfl, ht, hk⟩
  | countFrame =>
    obtain ⟨hle, hlt⟩ := hk
    simp only [dataStep] at h
    split at h <;> cases h
    · exact ⟨_, rfl, ht, hle, hlt⟩
    · exact ⟨_, rfl, ht, hle, hlt⟩
  | exchangeRequested =>
    simp only [dataStep] at h
    cases h
    refine ⟨_, rfl, ht, ?_⟩
    split <;> exact hk
  | spawnWorker =>
    simp only [dataStep] at h
    split at h <;> cases h <;> exact ⟨_, rfl, ht, hk⟩

/-! ## The invariant -/

/-- Clients are numbered in the order of the sessions, and while the client of a session is there, the deliveries of the
session are those that its counter and the data thread have counted towards the target. -/
structure BoundInv (tr : List Event) (s : State) : Prop where
  live : LiveInv s
  current : ∀ g, s.impl.gdpClient = some g → g.id < s.nextClient
  opened : ∀ c n, .sessionOpened c n ∈ tr → c < s.nextClient
  fresh : ∀ c id, s.nextClient ≤ c → deliveries c id tr = 0
  /-- In `grab` the current client, if there still is one, is the one `grab` made. -/
  owner : ∀ n c pc, s.app = .session n c pc → c < s.nextClient ∧ ∀ g, s.impl.gdpClient = some g → g.id = c
  early : ∀ n c pc, s.app = .session n c pc → pc.early = true →
    (∀ m, .sessionOpened c m ∉ tr) ∧ ∀ id, deliveries c id tr = 0
  counted : ∀ c n id, .sessionOpened c n ∈ tr → 0 < n → deliveries c id tr ≤ n ∧
    ∀ g, s.impl.gdpClient = some g → g.id = c →
      s.impl.frameTarget = n ∧ Counting (deliveries c id tr) s.impl.frameSeq n id g.data

theorem boundInv_init (observers callbacks : Registry) : BoundInv [] (init observers callbacks) := by
  refine ⟨liveInv_init observers callbacks, ?_, ?_, fun _ _ _ => rfl, ?_, ?_, ?_⟩
  · rintro g hg; cases hg
  · rintro c n hm; cases hm
  · rintro n c pc hm; cases hm
  · rintro n c pc hm; cases hm
  · rintro c n id hm; cases hm

section

variable {s s' : State} {a : Action} {tr evs : List Event}

/-- A step that calls no callback and opens no session keeps the invariant, if it releases the client
at most. -/
theorem boundInv_quiet (hI : BoundInv tr s) (hl : LiveInv s') (hev : ∀ e ∈ evs, e.framing = false)
    (hseq : s'.impl.frameSeq = s.impl.frameSeq) (htar : s'.impl.frameTarget = s.impl.frameTarget)
    (hg : Released s.impl.gdpClient s'.impl.gdpClient) (hn : s'.nextClient = s.nextClient)
    (happ : ∀ n c pc, s'.app = .session n c pc → ∃ q, s.app = .session n c q ∧ (pc.early = true → q.early = true)) :
    BoundInv (tr ++ evs) s' := by
  have hopen : ∀ {c n}, .sessionOpened c n ∈ tr ++ evs → .sessionOpened c n ∈ tr := by
    intro c n hm
    rcases List.mem_append.1 hm with hm | hm
    · exact hm
    · cases hev _ hm
  have hdel : ∀ c id, deliveries c id (tr ++ evs) = deliveries c id tr := fun c id => by
    rw [deliveries_append, deliveries_quiet hev, Nat.add_zero]
  refine ⟨hl, fun g' hg' => ?_, fun c n hm => ?_, fun c id hc => ?_, fun n c pc hpc => ?_, fun n c pc hpc he => ?_,
    fun c n id hm hpos => ?_⟩
  · obtain ⟨g, hg, hid⟩ := hg.sameId hg'
    rw [hn, ← hid]
    exact hI.current g hg
  · rw [hn]; exact hI.opened c n (hopen hm)
  · rw [hdel]; exact hI.fresh c id (by omega)
  · obtain ⟨q, hq, -⟩ := happ n c pc hpc
    obtain ⟨hlt, how⟩ := hI.owner n c q hq
    refine ⟨by omega, fun g' hg' => ?_⟩
    obtain ⟨g, hg, hid⟩ := hg.sameId hg'
    rw [← hid]
    exact how g hg
  · obtain ⟨q, hq, hearly⟩ := happ n c pc hpc
    obtain ⟨hno, hz⟩ := hI.early n c q hq (hearly he)
    exact ⟨fun m hm => hno m (hopen hm), fun id => by rw [hdel]; exact hz id⟩
  · obtain ⟨hle, hcur⟩ := hI.counted c n id (hopen hm) hpos
    rw [hdel]
    refine ⟨hle, fun g' hg' hid => ?_⟩
    rw [hseq, htar]
    rcases hg with heq | heq | ⟨g, hg, hbusy, heq⟩
    · rw [heq] at hg'
      exact hcur g' hg' hid
    · rw [heq] at hg'; cases hg'
    · rw [heq] at hg'
      cases hg'
      obtain ⟨ht, hk⟩ := hcur g hg hid
      refine ⟨ht, ?_⟩
      -- a client that is not busy has handled every frame it counted
      cases hd : g.data with
      | none => rw [hd] at hk; exact hk
      | some pc =>
        rw [hd] at hk
        have hw : pc = .waiting := by simpa [GdpClient.busy, hd] using hbusy
        rw [hw] at hk
        exact hk

theorem boundInv_assign (hI : BoundInv tr s) (hl : LiveInv s') {n : Nat}
    (happ : s'.app = .session n s.nextClient .connect)
    (hg : s'.impl.gdpClient = some ⟨s.nextClient, none⟩) (hn : s'.nextClient = s.nextClient + 1) :
    BoundInv tr s' := by
  refine ⟨hl, fun g' hg' => ?_, fun c m hm => ?_, fun c id hc => ?_, fun m c pc hpc => ?_, fun m c pc hpc _ => ?_,
    fun c m id hm hpos => ?_⟩
  · rw [hg] at hg'
    cases hg'
    show s.nextClient < _
    omega
  · have := hI.opened c m hm
    omega
  · exact hI.fresh c id (by omega)
  · rw [happ] at hpc
    cases hpc
    refine ⟨by omega, fun g' hg' => ?_⟩
    rw [hg] at hg'
    cases hg'
    rfl
  · rw [happ] at hpc
    cases hpc
    exact ⟨fun m hm => absurd (hI.opened _ m hm) (Nat.lt_irrefl _), fun id => hI.fresh _ id (Nat.le_refl _)⟩
  · refine ⟨(hI.counted c m id hm hpos).1, fun g' hg' hid => ?_⟩
    rw [hg] at hg'
    cases hg'
    have hlt := hI.opened c m hm
    simp only at hid
    omega

theorem boundInv_opened (hI : BoundInv tr s) (hl : LiveInv s') {n c : Nat} (happ : s.app = .session n c .resetCounters)
    (happ' : s'.app = .session n c .storeRequested) (hseq : s'.impl.frameSeq = 0) (htar : s'.impl.frameTarget = n)
    (hg : s'.impl.gdpClient = s.impl.gdpClient) (hn : s'.nextClient = s.nextClient) :
    BoundInv (tr ++ [.sessionOpened c n]) s' := by
  obtain ⟨hlt, how⟩ := hI.owner n c _ happ
  obtain ⟨hno, hz⟩ := hI.early n c _ happ rfl
  have hdel : ∀ d id, deliveries d id (tr ++ [.sessionOpened c n]) = deliveries d id tr := fun d id => by
    rw [deliveries_append]; rfl
  refine ⟨hl, fun g' hg' => ?_, fun d m hm => ?_, fun d id hd => ?_, fun m d pc hpc => ?_, fun m d pc hpc he => ?_,
    fun d m id hm hpos => ?_⟩
  · rw [hg] at hg'
    rw [hn]
    exact hI.current g' hg'
  · rw [hn]
    rcases List.mem_append.1 hm with hm | hm
    · exact hI.opened d m hm
    · cases List.mem_singleton.1 hm
      exact hlt
  · rw [hdel]
    exact hI.fresh d id (by omega)
  · rw [happ'] at hpc
    cases hpc
    refine ⟨by omega, fun g' hg' => ?_⟩
    rw [hg] at hg'
    exact how g' hg'
  · rw [happ'] at hpc
    cases hpc
    cases he
  · rw [hdel]
    rcases List.mem_append.1 hm with hm | hm
    · refine ⟨(hI.counted d m id hm hpos).1, fun g' hg' hid => ?_⟩
      -- the current client is the one of the session being opened
      rw [hg] at hg'
      have hd := how g' hg'
      rw [← hid, hd] at hm
      exact absurd hm (hno m)
    · cases List.mem_singleton.1 hm
      rw [hz id]
      refine ⟨Nat.zero_le _, fun g' hg' _ => ⟨htar, ?_⟩⟩
      rw [hg] at hg'
      have hr := hI.live.building (by rw [happ]; rfl)
      have hdata : g'.data = none := by simpa [Impl.receiving, hg'] using hr
      rw [hdata, hseq]
      exact ⟨Nat.le_refl _, Nat.zero_le _⟩

/-- The invariant is kept when only the data thread of the current client moves, and calls nothing. -/
theorem boundInv_client (hI : BoundInv tr s) (hl : LiveInv s') {g : GdpClient} {pc : DataPc}
    (hg : s.impl.gdpClient = some g) (hg' : s'.impl.gdpClient = some { g with data := some pc })
    (hseq : s'.impl.frameSeq = s.impl.frameSeq) (htar : s'.impl.frameTarget = s.impl.frameTarget)
    (hn : s'.nextClient = s.nextClient)
    (happ : ∀ n c pc, s'.app = .session n c pc → ∃ q, s.app = .session n c q ∧ (pc.early = true → q.early = true))
    (hk : ∀ k n id, Counting k s.impl.frameSeq n id g.data → Counting k s.impl.frameSeq n id (some pc)) :
    BoundInv tr s' := by
  refine ⟨hl, fun g₁ hg₁ => ?_, fun c n hm => ?_, fun c id hc => ?_, fun n c q hq => ?_, fun n c q hq he => ?_,
    fun c n id hm hpos => ?_⟩
  · rw [hg'] at hg₁
    cases hg₁
    rw [hn]
    exact hI.current g hg
  · rw [hn]; exact hI.opened c n hm
  · exact hI.fresh c id (by omega)
  · obtain ⟨q', hq', -⟩ := happ n c q hq
    obtain ⟨hlt, how⟩ := hI.owner n c q' hq'
    refine ⟨by omega, fun g₁ hg₁ => ?_⟩
    rw [hg'] at hg₁
    cases hg₁
    exact how g hg
  · obtain ⟨q', hq', hearly⟩ := happ n c q hq
    exact hI.early n c q' hq' (hearly he)
  · obtain ⟨hle, hcur⟩ := hI.counted c n id hm hpos
    refine ⟨hle, fun g₁ hg₁ hid => ?_⟩
    rw [hg'] at hg₁
    cases hg₁
    rw [hseq, htar]
    obtain ⟨ht, hc⟩ := hcur g hg hid
    exact ⟨ht, hk _ _ _ hc⟩

/-- The data thread calls callbacks with frames of its own client only. -/
theorem deliveries_other {g : GdpClient} {pc : DataPc} {c : Nat} (h : dataStep s g pc = some (s', evs)) (hc : c ≠ g.id)
    (id : Nat) : deliveries c id evs = 0 := by
  refine List.countP_eq_zero.2 fun e he hd => ?_
  have hev := dataStep_events h e he
  cases e with
  | grabCallback c' id' seq => exact hc ((of_decide_eq_true hd).1.symm.trans (of_decide_eq_true hev))
  | _ => cases hd

theorem boundInv_data (hI : BoundInv tr s) (hl : LiveInv s') (hok : InTime s .data) {g : GdpClient} {pc : DataPc}
    (hg : s.impl.gdpClient = some g) (hd : g.data = some pc) (h : dataStep s g pc = some (s', evs)) :
    BoundInv (tr ++ evs) s' := by
  have hf := dataStep_frame h
  obtain ⟨pc', hg'⟩ := dataStep_client h
  have hno : ∀ c n, .sessionOpened c n ∉ evs := fun c n hm => Bool.noConfusion (dataStep_events h _ hm)
  have hopen : ∀ {c n}, .sessionOpened c n ∈ tr ++ evs → .sessionOpened c n ∈ tr := fun hm =>
    (List.mem_append.1 hm).resolve_right (hno _ _)
  have hlt := hI.current g hg
  refine ⟨hl, fun g₁ hg₁ => ?_, fun c n hm => ?_, fun c id hc => ?_, fun n c q hq => ?_, fun n c q hq he => ?_,
    fun c n id hm hpos => ?_⟩
  · rw [hg'] at hg₁
    cases hg₁
    rw [hf.clients]
    exact hlt
  · rw [hf.clients]; exact hI.opened c n (hopen hm)
  · rw [hf.clients] at hc
    rw [deliveries_append, hI.fresh c id hc, deliveries_other h (by omega)]
  · rw [hf.app] at hq
    rw [hf.clients]
    obtain ⟨hlt, how⟩ := hI.owner n c q hq
    refine ⟨hlt, fun g₁ hg₁ => ?_⟩
    rw [hg'] at hg₁
    cases hg₁
    exact how g hg
  · -- a session that is still being built receives nothing
    rw [hf.app] at hq
    have hb : s.app.building = true := by rw [hq]; cases q <;> first | rfl | cases he
    have hr := hI.live.building hb
    simp [Impl.receiving, hg, hd] at hr
  · have hm := hopen hm
    obtain ⟨hle, hcur⟩ := hI.counted c n id hm hpos
    rw [deliveries_append]
    by_cases hc : c = g.id
    · subst hc
      obtain ⟨ht, hk⟩ := hcur g hg rfl
      rw [hd] at hk
      obtain ⟨pc₁, hg₁, ht', hk'⟩ := counting_data hok hg hd h hpos ht hk
      refine ⟨hk'.le, fun g₂ hg₂ _ => ⟨ht', ?_⟩⟩
      rw [hg₁] at hg₂
      cases hg₂
      exact hk'
    · rw [deliveries_other h hc]
      refine ⟨hle, fun g₁ hg₁ hid => ?_⟩
      rw [hg'] at hg₁
      cases hg₁
      exact absurd hid.symm hc

theorem boundInv_step (hI : BoundInv tr s) (hok : InTime s a) (h : step s a = some (s', evs)) :
    BoundInv (tr ++ evs) s' := by
  have hl := liveInv_step hI.live h
  cases frameStep h with
  | quiet hev hseq htar hg hn happ => exact boundInv_quiet hI hl hev hseq htar hg hn happ
  | assign n happ hseq htar hg hn he =>
    subst he
    rw [List.append_nil]
    exact boundInv_assign hI hl happ hg hn
  | opened n c happ happ' hseq htar hg hn he =>
    subst he
    exact boundInv_opened hI hl happ happ' hseq htar hg hn
  | receive n c g happ happ' hseq htar hg hg' hn he =>
    subst he
    rw [List.append_nil]
    refine boundInv_client hI hl hg hg' hseq htar hn (fun m d q hq => ?_) fun k m id hk => ?_
    · rw [happ'] at hq
      cases hq
      exact ⟨_, happ, fun h => by cases h⟩
    · have hr := hI.live.building (by rw [happ]; rfl)
      have hdata : g.data = none := by simpa [Impl.receiving, hg] using hr
      rw [hdata] at hk
      exact hk
  | dataSet g hg hd hs he =>
    subst hs he
    rw [List.append_nil]
    refine boundInv_client hI hl hg rfl rfl rfl rfl (fun m d q hq => ⟨q, hq, id⟩) fun k m id hk => ?_
    rw [hd] at hk
    exact hk
  | data g pc hg hd hdata hact => subst hact; exact boundInv_data hI hl hok hg hd hdata

end

/-! ## The target -/

/-- Reaching the target is followed by the request for the stop and, if none was made before, by a stop worker. -/
theorem targetReached_stops {s s' : State} {evs : List Event} {c : Nat} (h : step s .data = some (s', evs))
    (ht : .targetReached c ∈ evs) : ∃ s₁, step s' .data = some (s₁, []) ∧ s₁.impl.stopRequested = true ∧
      (s.impl.stopRequested = false → ∃ s₂, step s₁ .data = some (s₂, []) ∧ s₂.stopWorker.isSome = true) := by
  have hfault : s.fault = false := by
    cases hf : s.fault
    · rfl
    · simp only [step, hf, if_true] at h
      cases h
  obtain ⟨g, pc, hg, hd, hdata⟩ := step_data h
  obtain rfl : pc = .countFrame := by
    cases pc with
    | countFrame => rfl
    | waiting => cases hdata
    | dispatch rest =>
      cases rest with
      | nil => cases hdata; cases ht
      | cons cb rest =>
        simp only [dataStep] at hdata
        split at hdata <;> cases hdata
        · cases List.mem_singleton.1 ht
        · cases ht
    | spawnWorker =>
      simp only [dataStep] at hdata
      split at hdata <;> cases hdata <;> cases ht
    | _ => cases hdata; cases ht
  simp only [dataStep] at hdata
  split at hdata <;> cases hdata
  · refine ⟨_, by simp [step, State.setData, hfault, dataStep]; rfl, rfl, fun hrequested => ?_⟩
    cases s.stopWorker <;> simp [step, State.setData, dataStep, hrequested]
  · cases ht

/-! ## Bounded grabs in every run -/

/-- When no data set passes the check after the target is reached, a session opened for `n` frames
calls every callback at most `n` times. -/
theorem deliveries_le_frames {observers callbacks : Registry} {tr : List Event} {s : State} {c n : Nat}
    (h : Run step InTime (init observers callbacks) tr s) (hn : 0 < n) (hopen : .sessionOpened c n ∈ tr) (id : Nat) :
    deliveries c id tr ≤ n :=
  ((h.invariant (boundInv_init observers callbacks)
    fun _ _ _ _ _ hI hok hstep => boundInv_step hI hok hstep).counted c n id hopen hn).1

/-- A grab of two frames, with the stop worker through before a third data set is looked at. -/
theorem deliveries_le_frames_two :
    ∃ tr s, Run step InTime (init one one) tr s ∧ .sessionOpened 0 2 ∈ tr ∧ .status .grabbing false 1 ∈ tr ∧
      deliveries 0 1 tr = 2 ∧ deliveries 0 1 tr ≤ 2 := by
  obtain ⟨tr, s, h, hopen, hstop, hcount⟩ : ∃ tr s, Run step InTime (init one one) tr s ∧ .sessionOpened 0 2 ∈ tr ∧
      .status .grabbing false 1 ∈ tr ∧ deliveries 0 1 tr = 2 :=
    ⟨_, _, exec_get step InTime (openMoves ++ grabMoves 2 ++ dataMoves ++ dataMoves ++ [.data, .data, .dataSet] ++
      List.replicate 2 (.stopWorker true) ++ [.data] ++ List.replicate 10 (.stopWorker true)) (init one one) rfl,
      by decide, by decide, by decide⟩
  exact ⟨tr, s, h, hopen, hstop, hcount, deliveries_le_frames h (by decide) hopen 1⟩

/-- The second data set of a grab of one frame arrives before the stop worker has cleared the flag. -/
def lateFrameMoves : List Action :=
  openMoves ++ grabMoves 1 ++ dataMoves ++ [.data, .data] ++ dataMoves

/-- Without the condition on the steps a bounded session can call a callback too often. -/
theorem not_deliveries_le_frames : ¬ ∀ (observers callbacks : Registry) (tr : List Event) (s : State) (c n : Nat),
    Run step anyStep (init observers callbacks) tr s → 0 < n → .sessionOpened c n ∈ tr → ∀ id,
      deliveries c id tr ≤ n := by
  intro h
  have hle := h one one _ _ 0 1 (exec_get step anyStep lateFrameMoves (init one one) rfl) (by decide) (by decide) 1
  revert hle
  decide

end Gocator.Threads
