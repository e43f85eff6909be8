/-
The numbers of the frames. In every session a callback that stays registered is called once for each
data set that `handleData` accepts, with the numbers 0, 1, 2 and so on, whichever callbacks throw. The
counter belongs to two threads: `grab` resets it while no data arrives, the data thread counts it up
after all callbacks of a data set have been called.
-/
import Gocator.Threads.Bounded

namespace Gocator.Threads

open Gocator.Facade Transition

/-! ## Callbacks that throw -/

/-- How a grab callback ends. -/
inductive CallbackExit where
  | returned
  | stdException (what : String)
  | otherException
  deriving DecidableEq, Repr

namespace CallbackExit

/-- The call of the callback. -/
def call : CallbackExit → Except CallbackExit (List String)
  | .returned => pure []
  | thrown => throw thrown

/-- The try block around the call with its two catch clauses, and what they log. -/
def guarded (exit : CallbackExit) : Except CallbackExit (List String) :=
  tryCatch exit.call fun
    | .stdException what => pure ["Gocator grab callback failed: " ++ what]
    | _ => pure ["Gocator grab callback failed with an unknown exception."]

/-- The exception is caught by neither clause. -/
def escapes (exit : CallbackExit) : Bool := exit.guarded matches .error _

def logged (exit : CallbackExit) : List String := exit.guarded.toOption.getD []

/-- The second clause takes whatever the first leaves. -/
theorem not_escapes (exit : CallbackExit) : exit.escapes = false := by
  cases exit <;> rfl

end CallbackExit

/-- A move, with the way in which the callback that ends in it ends, if one does. -/
structure Move where
  action : Action
  exit : CallbackExit

/-- What is seen of a run: the events, the data sets that are accepted, and the lines that are logged. -/
inductive Seen where
  /-- `handleData` has found `isGrabbing` true for a data set of this client. -/
  | accepted (client : Nat)
  | event (e : Event)
  | logged (line : String)
  deriving DecidableEq, Repr

/-- The data thread is in a grab callback, which ends in the move. -/
def State.endsCallback (s : State) (m : Move) : Bool :=
  match m.action, s.impl.gdpClient with
  | .data, some ⟨_, some (.inCallback _)⟩ => true
  | _, _ => false

/-- What is seen of the data thread before its events. -/
def glimpse (s : State) (m : Move) : List Seen :=
  match m.action, s.impl.gdpClient with
  | .data, some ⟨c, some .loadGrabbing⟩ => if s.impl.isGrabbing then [.accepted c] else []
  | .data, some ⟨_, some (.inCallback _)⟩ => m.exit.logged.map .logged
  | _, _ => []

/-- A move of the machine, watched. An exception that left the callback's try block would end the data thread, and with
it the program. -/
def watch (s : State) (m : Move) : Option (State × List Seen) :=
  if s.endsCallback m ∧ m.exit.escapes then some (s.fail, [])
  else (step s m.action).map fun r => (r.1, glimpse s m ++ r.2.map .event)

theorem watch_eq (s : State) (m : Move) :
    watch s m = (step s m.action).map fun r => (r.1, glimpse s m ++ r.2.map .event) :=
  if_neg fun h => by
    rw [m.exit.not_escapes] at h
    cases h.2

/-- What is seen, but for the log. -/
def unlogged (tr : List Seen) : List Seen := tr.filter fun
  | .logged _ => false
  | _ => true

/-! ## The property -/

/-- The session on client `c` is the current one. -/
def State.inSession (s : State) (c : Nat) : Bool := s.impl.gdpClient.any (·.id = c)

/-- While the session on `c` lasts, callback `id` is registered and not empty. -/
def RegisteredIn (c id : Nat) (s : State) (_ : Move) : Prop := s.inSession c = true → s.impl.grabCallbacks.Has id

instance (c id : Nat) (s : State) (m : Move) : Decidable (RegisteredIn c id s m) :=
  inferInstanceAs (Decidable (s.inSession c = true → s.impl.grabCallbacks.Has id))

/-- A data set accepted in a session, or a call of one callback in it. -/
inductive Mark where
  | accepted
  | called (seq : Nat)
  deriving DecidableEq, Repr

def Seen.mark (c id : Nat) : Seen → Option Mark
  | .accepted c' => if c' = c then some .accepted else none
  | .event (.grabCallback c' id' seq) => if c' = c ∧ id' = id then some (.called seq) else none
  | _ => none

def marks (c id : Nat) (tr : List Seen) : List Mark := tr.filterMap (Seen.mark c id)

/-- `n` data sets, each accepted and then passed to the callback under the next number. -/
def numbered : Nat → List Mark
  | 0 => []
  | n + 1 => numbered n ++ [.accepted, .called n]

/-- `handleData` has accepted a data set that the callback has yet to be called with. -/
def aheadAt (id : Nat) : DataPc → Bool
  | .snapshot => true
  | .dispatch rest | .inCallback rest => ⟨id, true⟩ ∈ rest
  | _ => false

/-- The data thread of the session on `c` has a call of callback `id` ahead. -/
def State.ahead (s : State) (c id : Nat) : Bool :=
  s.impl.gdpClient.any fun g => g.id = c && g.data.any (aheadAt id)

/-! ## Marks -/

@[simp] theorem marks_nil (c id : Nat) : marks c id [] = [] := rfl

@[simp] theorem marks_append (c id : Nat) (tr evs : List Seen) :
    marks c id (tr ++ evs) = marks c id tr ++ marks c id evs := List.filterMap_append

theorem marks_quiet {c id : Nat} {evs : List Event} (h : ∀ e ∈ evs, e.framing = false) :
    marks c id (evs.map .event) = [] := by
  refine List.filterMap_eq_nil_iff.2 fun e he => ?_
  obtain ⟨e, hm, rfl⟩ := List.mem_map.1 he
  cases e with
  | grabCallback d j seq => cases h _ hm
  | _ => rfl

theorem marks_call (c id d j seq : Nat) :
    marks c id [.event (.grabCallback d j seq)] = if d = c ∧ j = id then [.called seq] else [] := by
  by_cases h : d = c ∧ j = id <;> simp [marks, Seen.mark, h]

theorem marks_logged (c id : Nat) (lines : List String) : marks c id (lines.map .logged) = [] := by
  refine List.filterMap_eq_nil_iff.2 fun e he => ?_
  obtain ⟨line, -, rfl⟩ := List.mem_map.1 he
  rfl

theorem glimpse_of_ne {s : State} {m : Move} (h : m.action.isData = false) : glimpse s m = [] := by
  obtain ⟨action, exit⟩ := m
  cases action with
  | data => cases h
  | _ => rfl

/-! ## A busy client stays -/

section

variable {ok : Bool} {s s' : State} {a : Action} {evs : List Event} {g : GdpClient}

theorem stopStep_busy {m m' : Impl} {pc pc' : StopPc} (h : stopStep ok m pc = some (.next m' pc' evs))
    (hg : m.gdpClient = some g) (hb : g.busy = true) : m'.gdpClient = some g := by
  cases pc with
  | closeClient =>
    simp only [stopStep, hg, hb, if_true] at h
    split at h <;> cases h
    exact hg
  | resetClient => simp [stopStep, hg, hb] at h
  | lock =>
    simp only [stopStep] at h
    split at h <;> cases h
    exact hg
  | notify n =>
    simp only [stopStep] at h
    split at h <;> cases h <;> exact hg
  | returned => cases h
  | _ => cases h; exact hg

theorem openStep_client {address : String} {pc : OpenPc} (h : openStep ok s address pc = some (s', evs)) :
    s'.impl.gdpClient = s.impl.gdpClient := by
  cases pc with
  | connect =>
    simp only [openStep] at h
    split at h
    · cases h; rfl
    · split at h <;> cases h <;> rfl
  | loadOpened | makeConnection =>
    simp only [openStep] at h
    split at h <;> cases h <;> rfl
  | notify n =>
    simp only [openStep] at h
    split at h <;> cases h <;> rfl
  | _ => cases h; rfl

theorem closeStep_busy {k : CloseCaller} {pc : ClosePc} (h : closeStep ok s k pc = some (s', evs))
    (hg : s.impl.gdpClient = some g) (hb : g.busy = true) : s'.impl.gdpClient = some g := by
  cases pc with
  | closeClient =>
    simp only [closeStep, hg, hb, if_true] at h
    split at h <;> cases h
    exact hg
  | resetClient => simp [closeStep, hg, hb] at h
  | loadOpened =>
    simp only [closeStep] at h
    split at h <;> cases h <;> exact hg
  | notify n =>
    simp only [closeStep] at h
    split at h <;> cases h <;> exact hg
  | _ => cases h; exact hg

theorem sessionStep_busy (hI : LiveInv s) {n c : Nat} {pc : SessionPc} (ha : s.app = .session n c pc)
    (h : sessionStep ok s n c pc = some (s', evs)) (hg : s.impl.gdpClient = some g) (hb : g.busy = true) :
    s'.impl.gdpClient = some g := by
  cases pc with
  | receive =>
    -- nothing is received before the session is built
    have hr := hI.building (by rw [ha]; rfl)
    rw [Impl.receiving, hg] at hr
    cases hd : g.data with
    | none => simp [GdpClient.busy, hd] at hb
    | some pc => simp [hd] at hr
  | connect =>
    simp only [sessionStep] at h
    split at h <;> cases h <;> exact hg
  | readPort | start =>
    simp only [sessionStep] at h
    split at h <;> cases h <;> exact hg
  | notify k =>
    simp only [sessionStep] at h
    split at h <;> cases h <;> exact hg
  | _ => cases h; exact hg

theorem appStep_busy (hI : LiveInv s) (h : appStep ok s = some (s', evs)) (hg : s.impl.gdpClient = some g)
    (hb : g.busy = true) : s'.impl.gdpClient = some g := by
  cases ha : s.app with
  | idle => simp only [appStep, ha] at h; cases h
  | «open» address pc =>
    simp only [appStep, ha] at h
    rw [openStep_client h]
    exact hg
  | joinLock k =>
    simp only [appStep, ha] at h
    split at h <;> cases h <;> exact hg
  | joinWait k =>
    simp only [appStep, ha] at h
    split at h <;> cases h
    exact hg
  | grab n pc =>
    simp only [appStep, ha] at h
    cases pc with
    | assignClient => simp [grabStep, hg, hb] at h
    | makeClient => cases h; exact hg
    | loadOpened | loadGrabbing =>
      simp only [grabStep] at h
      split at h <;> cases h <;> exact hg
  | session n c pc =>
    simp only [appStep, ha] at h
    exact sessionStep_busy hI ha h hg hb
  | stop k pc =>
    cases pc with
    | returned => simp only [appStep, ha] at h; cases h; exact hg
    | _ =>
      simp only [appStep, ha] at h
      split at h
      · cases h
      · cases h; exact hg
      · rename_i he
        cases h
        exact stopStep_busy he hg hb
  | close k pc =>
    simp only [appStep, ha] at h
    exact closeStep_busy h hg hb

/-- A client whose callback runs is changed by its data thread alone. -/
theorem step_busy (hI : LiveInv s) (h : step s a = some (s', evs)) (ha : a.isData = false)
    (hg : s.impl.gdpClient = some g) (hb : g.busy = true) : s'.impl.gdpClient = some g := by
  cases stepBy h with
  | fault hs => subst hs; exact hg
  | call d hi hs => subst hs; exact hg
  | app ok happ hact =>
    subst hact
    unfold step at h
    split at h
    · cases h
    · exact appStep_busy hI h hg hb
  | appStop ok k pc pc' m _ he hs | stopWorker ok pc pc' m _ he hs | worker ok pc pc' m _ he hs =>
    subst hs
    exact stopStep_busy he hg hb
  | dataSet c hc hd =>
    rw [hg] at hc
    cases hc
    simp [GdpClient.busy, hd] at hb
  | data c pc hc hd hdata hact => subst hact; cases ha
  | registries o r hs => subst hs; exact hg

end

/-! ## Numbering the data sets of one session -/

/-- The marks of callback `id`, by where the data thread stands with `seq` frames counted. -/
def Counted (view : List Mark) (seq id : Nat) : Option DataPc → Prop
  | none => ∃ n, view = numbered n
  | some .snapshot => view = numbered seq ++ [.accepted]
  | some (.dispatch rest) | some (.inCallback rest) =>
    (rest.map (·.id)).Nodup ∧ view = if ⟨id, true⟩ ∈ rest then numbered seq ++ [.accepted] else numbered (seq + 1)
  | some .countFrame => view = numbered (seq + 1)
  | some _ => view = numbered seq

theorem Counted.of_not_busy {view : List Mark} {seq id : Nat} {g : GdpClient} (h : Counted view seq id g.data)
    (hb : g.busy = false) : ∃ n, view = numbered n := by
  cases hd : g.data with
  | none => rw [hd] at h; exact h
  | some pc =>
    rw [hd] at h
    have hw : pc = .waiting := by simpa [GdpClient.busy, hd] using hb
    subst hw
    exact ⟨seq, h⟩

/-- Every data set but the one in hand has been passed on. -/
theorem Counted.settled {view : List Mark} {seq id : Nat} {pc : Option DataPc} (h : Counted view seq id pc) :
    ∃ n, view = numbered n ∨ view = numbered n ++ [.accepted] ∧ pc.any (aheadAt id) = true := by
  unfold Counted at h
  split at h
  · obtain ⟨n, h⟩ := h
    exact ⟨n, .inl h⟩
  · exact ⟨seq, .inr ⟨h, rfl⟩⟩
  · obtain ⟨-, h⟩ := h
    split at h
    · rename_i hm
      exact ⟨seq, .inr ⟨h, by simpa [aheadAt] using hm⟩⟩
    · exact ⟨seq + 1, .inl h⟩
  · obtain ⟨-, h⟩ := h
    split at h
    · rename_i hm
      exact ⟨seq, .inr ⟨h, by simpa [aheadAt] using hm⟩⟩
    · exact ⟨seq + 1, .inl h⟩
  · exact ⟨seq + 1, .inl h⟩
  · exact ⟨seq, .inl h⟩

/-- The call under the next number, if the entry is the callback; no second entry has its id. -/
theorem counted_called {view : List Mark} {seq id c : Nat} {cb : Callback} {rest : List Callback}
    (hcall : cb.callable = true) (h : Counted view seq id (some (.dispatch (cb :: rest)))) :
    Counted (view ++ marks c id [.event (.grabCallback c cb.id seq)]) seq id (some (.inCallback rest)) := by
  obtain ⟨hnd, hview⟩ := h
  obtain ⟨hcb, hnd⟩ := List.nodup_cons.1 hnd
  refine ⟨hnd, ?_⟩
  rw [marks_call]
  by_cases hid : cb.id = id
  · have hmem : (⟨id, true⟩ : Callback) ∈ cb :: rest := by
      rw [← hid, ← hcall]
      exact List.mem_cons_self
    have hnot : (⟨id, true⟩ : Callback) ∉ rest := by
      rw [← hid]
      intro hm
      exact hcb (List.mem_map.2 ⟨_, hm, rfl⟩)
    rw [if_pos hmem] at hview
    rw [if_pos ⟨rfl, hid⟩, if_neg hnot, hview, List.append_assoc]
    rfl
  · have hne : (⟨id, true⟩ : Callback) ≠ cb := fun heq => hid (by rw [← heq])
    rw [if_neg (fun h => hid h.2), List.append_nil, hview]
    simp only [List.mem_cons, hne, false_or]

theorem counted_skipped {view : List Mark} {seq id : Nat} {cb : Callback} {rest : List Callback}
    (hcall : ¬ cb.callable = true) (h : Counted view seq id (some (.dispatch (cb :: rest)))) :
    Counted view seq id (some (.dispatch rest)) := by
  obtain ⟨hnd, hview⟩ := h
  have hne : (⟨id, true⟩ : Callback) ≠ cb := fun heq => hcall (by rw [← heq])
  refine ⟨(List.nodup_cons.1 hnd).2, ?_⟩
  rw [hview]
  simp only [List.mem_cons, hne, false_or]

/-- At the check a data set is accepted, or nothing is seen. -/
theorem marks_check {s : State} {c id : Nat} {exit : CallbackExit}
    (hg : s.impl.gdpClient = some ⟨c, some .loadGrabbing⟩) :
    marks c id (glimpse s ⟨.data, exit⟩) = if s.impl.isGrabbing then [.accepted] else [] := by
  cases hgr : s.impl.isGrabbing with
  | false => simp [glimpse, hg, hgr]
  | true => simp [glimpse, hg, hgr, marks, Seen.mark]

/-- A step of the data thread adds what belongs to it; the callback is registered when the copy is taken. -/
theorem counted_data {s s' : State} {g : GdpClient} {pc : DataPc} {evs : List Event} {m : Move} {id : Nat}
    {view : List Mark} (ha : m.action = .data) (hg : s.impl.gdpClient = some g) (hd : g.data = some pc)
    (h : dataStep s g pc = some (s', evs)) (hreg : s.impl.grabCallbacks.Has id)
    (hc : Counted view s.impl.frameSeq id (some pc)) :
    ∃ pc', s'.impl.gdpClient = some ⟨g.id, some pc'⟩ ∧
      Counted (view ++ marks g.id id (glimpse s m ++ evs.map .event)) s'.impl.frameSeq id (some pc') := by
  obtain ⟨c, data⟩ := g
  cases hd
  obtain ⟨action, exit⟩ := m
  cases ha
  cases pc with
  | waiting => cases h
  | loadGrabbing =>
    cases h
    refine ⟨_, rfl, ?_⟩
    have hview : view = numbered s.impl.frameSeq := hc
    rw [marks_append, marks_check hg, List.map_nil, marks_nil, List.append_nil, hview]
    cases s.impl.isGrabbing with
    | false => exact List.append_nil _
    | true => rfl
  | snapshot =>
    cases h
    have hview : view = numbered s.impl.frameSeq ++ [.accepted] := hc
    have hseen : glimpse s ⟨.data, exit⟩ = [] := by simp [glimpse, hg]
    have hmem : (⟨id, true⟩ : Callback) ∈ s.impl.grabCallbacks.entries := hreg
    refine ⟨_, rfl, s.impl.grabCallbacks.nodup, ?_⟩
    rw [hseen, List.map_nil, List.append_nil, marks_nil, List.append_nil, if_pos hmem]
    exact hview
  | dispatch rest =>
    have hseen : glimpse s ⟨.data, exit⟩ = [] := by simp [glimpse, hg]
    rw [hseen, List.nil_append]
    cases rest with
    | nil =>
      cases h
      refine ⟨_, rfl, ?_⟩
      rw [List.map_nil, marks_nil, List.append_nil]
      exact hc.2
    | cons cb rest =>
      simp only [dataStep] at h
      split at h <;> cases h
      · rename_i hcall
        exact ⟨_, rfl, counted_called hcall hc⟩
      · rename_i hcall
        refine ⟨_, rfl, ?_⟩
        rw [List.map_nil, marks_nil, List.append_nil]
        exact counted_skipped hcall hc
  | inCallback rest =>
    cases h
    refine ⟨_, rfl, ?_⟩
    have hseen : glimpse s ⟨.data, exit⟩ = exit.logged.map .logged := by simp [glimpse, hg]
    rw [hseen, marks_append, marks_logged, List.map_nil, marks_nil, List.append_nil, List.append_nil]
    exact hc
  | countFrame =>
    have hview : view = numbered (s.impl.frameSeq + 1) := hc
    have hseen : glimpse s ⟨.data, exit⟩ = [] := by simp [glimpse, hg]
    rw [hseen, List.nil_append]
    simp only [dataStep] at h
    split at h <;> cases h
    · refine ⟨_, rfl, ?_⟩
      rw [marks_quiet (by simp [Event.framing]), List.append_nil]
      exact hview
    · refine ⟨_, rfl, ?_⟩
      rw [List.map_nil, marks_nil, List.append_nil]
      exact hview
  | exchangeRequested | spawnWorker =>
    have hview : view = numbered s.impl.frameSeq := hc
    have hseen : glimpse s ⟨.data, exit⟩ = [] := by simp [glimpse, hg]
    rw [hseen, List.nil_append]
    simp only [dataStep] at h
    split at h <;> cases h <;>
      exact ⟨_, rfl, by rw [List.map_nil, marks_nil, List.append_nil]; exact hview⟩

/-! ## The invariant -/

/-- What is seen of the session on client `c` by the callback `id` is numbered as far as the counter and the data thread
have got, and stays numbered when the client is gone. -/
structure NumberInv (c id : Nat) (view : List Mark) (s : State) : Prop where
  live : LiveInv s
  current : ∀ g, s.impl.gdpClient = some g → g.id < s.nextClient
  /-- In `grab` the current client, if there still is one, is the one `grab` made. -/
  owner : ∀ n d pc, s.app = .session n d pc → d < s.nextClient ∧ ∀ g, s.impl.gdpClient = some g → g.id = d
  fresh : s.nextClient ≤ c → view = []
  building : ∀ n pc, s.app = .session n c pc → s.app.building = true →
    view = [] ∧ (pc.early = false → s.impl.frameSeq = 0)
  counted : ∀ g, s.impl.gdpClient = some g → g.id = c → Counted (view) s.impl.frameSeq id g.data
  past : (∀ g, s.impl.gdpClient = some g → g.id ≠ c) → ∃ n, view = numbered n

theorem numberInv_init (c id : Nat) (observers callbacks : Registry) :
    NumberInv c id [] (init observers callbacks) := by
  refine ⟨liveInv_init observers callbacks, ?_, ?_, fun _ => rfl, ?_, ?_, fun _ => ⟨0, rfl⟩⟩
  · rintro g hg; cases hg
  · rintro n d pc hm; cases hm
  · rintro n pc hm; cases hm
  · rintro g hg; cases hg

section

variable {s s' : State} {a : Action} {view : List Mark} {evs : List Event} {c id : Nat}

/-- A step into a session is a step of `grab`, or leaves the application where it is. -/
theorem to_session {n d : Nat} {pc : SessionPc} (h : step s a = some (s', evs)) (hs' : s'.app = .session n d pc) :
    (s.app = .session n d pc ∧ (s'.impl.frameSeq = s.impl.frameSeq ∨ a = .data)) ∨
    (d = s.nextClient ∧ pc = .connect) ∨
    ∃ q m, s.app = .session n d q ∧ SessionMove s.impl n d q m (.session n d pc) evs ∧ s'.impl = m := by
  cases stepBy h with
  | fault hs => subst hs; exact .inl ⟨hs', .inl rfl⟩
  | call e hi hs =>
    subst hs
    cases e <;> cases hs'
  | app ok happ =>
    rcases happ.to_session hs' with ⟨rfl, -, ha⟩ | ⟨-, hd, hpc, -, -⟩ | ⟨q, m, ha, hm, hs⟩
    · exact .inl ⟨ha, .inl rfl⟩
    · exact .inr (.inl ⟨hd, hpc⟩)
    · exact .inr (.inr ⟨q, m, ha, hm, by rw [hs]⟩)
  | appStop ok k pc pc' m _ he hs => subst hs; cases hs'
  | stopWorker ok pc pc' m _ he hs | worker ok pc pc' m _ he hs =>
    subst hs
    exact .inl ⟨hs', .inl (stopStep_effect he).frames.1⟩
  | dataSet g _ _ hs => subst hs; exact .inl ⟨hs', .inl rfl⟩
  | data g pc _ _ hdata hact =>
    rw [(dataStep_frame hdata).app] at hs'
    exact .inl ⟨hs', .inr hact⟩
  | registries o g hs => subst hs; exact .inl ⟨hs', .inl rfl⟩

theorem building_kept (hI : NumberInv c id view s) (h : step s a = some (s', evs)) (ha : a.isData = false) {n : Nat}
    {pc : SessionPc} (hs' : s'.app = .session n c pc) (hb : s'.app.building = true) :
    view = [] ∧ (pc.early = false → s'.impl.frameSeq = 0) := by
  rcases to_session h hs' with ⟨happ, hseq | hdata⟩ | ⟨hd, rfl⟩ | ⟨q, m, happ, hm, himpl⟩
  · rw [hseq]
    refine hI.building n pc happ ?_
    rw [happ, ← hs']
    exact hb
  · subst hdata
    cases ha
  · exact ⟨hI.fresh (by omega), fun he => by cases he⟩
  · rw [hs'] at hb
    have hbq : s.app.building = true → view = [] ∧ (q.early = false → s.impl.frameSeq = 0) :=
      hI.building n q happ
    rw [happ] at hbq
    rw [himpl]
    cases hm with
    | connected | portRead => exact ⟨(hbq rfl).1, fun he => by cases he⟩
    | countersReset => exact ⟨(hbq rfl).1, fun _ => rfl⟩
    | requestedStored | grabbingStored | callbackSet => exact ⟨(hbq rfl).1, fun _ => (hbq rfl).2 rfl⟩
    | received | started | told => cases hb

/-- A step that is not the data thread's adds no mark. -/
theorem marks_other (h : step s a = some (s', evs)) (ha : a.isData = false) : marks c id (evs.map .event) = [] := by
  cases frameStep h with
  | quiet hev => exact marks_quiet hev
  | assign n _ _ _ _ _ he | receive n d g _ _ _ _ _ _ _ he | dataSet g _ _ _ he => subst he; rfl
  | opened n d _ _ _ _ _ _ he => subst he; rfl
  | data g pc _ _ _ hact => subst hact; cases ha

/-- A client that is current no longer was not busy, and left no data set in hand. -/
theorem numbered_of_past (hI : NumberInv c id view s) (h : step s a = some (s', evs)) (ha : a.isData = false)
    (hpast : ∀ g, s'.impl.gdpClient = some g → g.id ≠ c) : ∃ n, view = numbered n := by
  by_cases hcur : ∃ g, s.impl.gdpClient = some g ∧ g.id = c
  · obtain ⟨g, hg, hid⟩ := hcur
    cases hbusy : g.busy with
    | false => exact (hI.counted g hg hid).of_not_busy hbusy
    | true => exact absurd hid (hpast g (step_busy hI.live h ha hg hbusy))
  · exact hI.past fun g hg hid => hcur ⟨g, hg, hid⟩

/-- A step that changes no client but by releasing it, and no frame counter that a data thread counts on. -/
theorem numberInv_quiet (hI : NumberInv c id view s) (h : step s a = some (s', evs)) (ha : a.isData = false)
    (hg : Released s.impl.gdpClient s'.impl.gdpClient) (hn : s'.nextClient = s.nextClient)
    (happ : ∀ n d pc, s'.app = .session n d pc → ∃ q, s.app = .session n d q)
    (hcount : ∀ g, s.impl.gdpClient = some g → Counted view s.impl.frameSeq id g.data →
      Counted view s'.impl.frameSeq id g.data) : NumberInv c id view s' := by
  refine ⟨liveInv_step hI.live h, fun g' hg' => ?_, fun n d pc hpc => ?_, fun hc => hI.fresh (by omega),
    fun n pc => building_kept hI h ha, fun g' hg' hid => ?_, fun hpast => ?_⟩
  · obtain ⟨g, hg, hid⟩ := hg.sameId hg'
    rw [hn, ← hid]
    exact hI.current g hg
  · obtain ⟨q, hq⟩ := happ n d pc hpc
    obtain ⟨hlt, how⟩ := hI.owner n d q hq
    refine ⟨by omega, fun g' hg' => ?_⟩
    obtain ⟨g, hg, hid⟩ := hg.sameId hg'
    rw [← hid]
    exact how g hg
  · rcases hg with heq | heq | ⟨g, hg, hbusy, heq⟩
    · rw [heq] at hg'
      exact hcount g' hg' (hI.counted g' hg' hid)
    · rw [heq] at hg'; cases hg'
    · rw [heq] at hg'
      cases hg'
      exact (hI.counted g hg hid).of_not_busy hbusy
  · exact numbered_of_past hI h ha hpast

/-- A client that is assigned has no marks, and the one it replaces is not busy. -/
theorem numberInv_assign (hI : NumberInv c id view s) (h : step s a = some (s', evs)) (ha : a.isData = false) {n : Nat}
    (happ : s'.app = .session n s.nextClient .connect) (hg : s'.impl.gdpClient = some ⟨s.nextClient, none⟩)
    (hn : s'.nextClient = s.nextClient + 1) : NumberInv c id view s' := by
  refine ⟨liveInv_step hI.live h, fun g' hg' => ?_, fun m d pc hpc => ?_, fun hc => hI.fresh (by omega),
    fun n pc => building_kept hI h ha, fun g' hg' hid => ?_, fun hpast => ?_⟩
  · rw [hg] at hg'
    cases hg'
    show s.nextClient < _
    omega
  · rw [happ] at hpc
    cases hpc
    refine ⟨by omega, fun g' hg' => ?_⟩
    rw [hg] at hg'
    cases hg'
    rfl
  · rw [hg] at hg'
    cases hg'
    have hc : s.nextClient ≤ c := Nat.le_of_eq hid
    exact ⟨0, hI.fresh hc⟩
  · exact numbered_of_past hI h ha hpast

/-- Only the program point of the current client's data thread changes, and its count stays right. -/
theorem numberInv_client (hI : NumberInv c id view s) (h : step s a = some (s', evs)) (ha : a.isData = false)
    {g g' : GdpClient} (hg : s.impl.gdpClient = some g) (hg' : s'.impl.gdpClient = some g') (hid : g'.id = g.id)
    (hn : s'.nextClient = s.nextClient)
    (happ : ∀ n d pc, s'.app = .session n d pc → ∃ q, s.app = .session n d q)
    (hcount : g.id = c → Counted view s.impl.frameSeq id g.data → Counted view s'.impl.frameSeq id g'.data) :
    NumberInv c id view s' := by
  refine ⟨liveInv_step hI.live h, fun g₁ hg₁ => ?_, fun n d pc hpc => ?_, fun hc => hI.fresh (by omega),
    fun n pc => building_kept hI h ha, fun g₁ hg₁ hc => ?_, fun hpast => ?_⟩
  · rw [hg'] at hg₁
    cases hg₁
    rw [hn, hid]
    exact hI.current g hg
  · obtain ⟨q, hq⟩ := happ n d pc hpc
    obtain ⟨hlt, how⟩ := hI.owner n d q hq
    refine ⟨by omega, fun g₁ hg₁ => ?_⟩
    rw [hg'] at hg₁
    cases hg₁
    rw [hid]
    exact how g hg
  · rw [hg'] at hg₁
    cases hg₁
    rw [hid] at hc
    exact hcount hc (hI.counted g hg hc)
  · refine hI.past fun g₁ hg₁ hc => ?_
    rw [hg] at hg₁
    cases hg₁
    exact hpast g' hg' (hid.trans hc)

theorem numberInv_other (hI : NumberInv c id view s) (h : step s a = some (s', evs)) (ha : a.isData = false) :
    NumberInv c id view s' := by
  cases frameStep h with
  | quiet _ hseq _ hg hn happ =>
    refine numberInv_quiet hI h ha hg hn ?_ ?_
    · intro n d pc hpc
      obtain ⟨q, hq, -⟩ := happ n d pc hpc
      exact ⟨q, hq⟩
    · intro g _ hcount
      rw [hseq]
      exact hcount
  | assign n happ _ _ hg hn => exact numberInv_assign hI h ha happ hg hn
  | opened n d happ happ' _ _ hg hn =>
    refine numberInv_quiet hI h ha (.inl hg) hn ?_ ?_
    · intro m e pc hpc
      rw [happ'] at hpc
      cases hpc
      exact ⟨_, happ⟩
    · -- while a session is built its client has no data thread, so no count depends on the counter
      intro g hg₀ hcount
      have hr := hI.live.building (by rw [happ]; rfl)
      have hdata : g.data = none := by simpa [Impl.receiving, hg₀] using hr
      rw [hdata] at hcount ⊢
      exact hcount
  | receive n d g happ happ' hseq _ hg hg' hn =>
    refine numberInv_client hI h ha hg hg' rfl hn ?_ fun hid _ => ?_
    · intro m e pc hpc
      rw [happ'] at hpc
      cases hpc
      exact ⟨_, happ⟩
    · obtain rfl : g.id = d := (hI.owner n d _ happ).2 g hg
      subst hid
      obtain ⟨hview, hzero⟩ := hI.building n _ happ (by rw [happ]; rfl)
      rw [hview, hseq, hzero rfl]
      rfl
  | dataSet g hg hd hs =>
    subst hs
    refine numberInv_client hI h ha hg rfl rfl rfl (fun m e pc hpc => ⟨pc, hpc⟩) fun _ hcount => ?_
    rw [hd] at hcount
    exact hcount
  | data g pc _ _ _ hact => subst hact; cases ha

/-- The data thread leaves marks of its own session only. -/
theorem marks_foreign {g : GdpClient} {pc : DataPc} {m : Move} (hg : s.impl.gdpClient = some g)
    (h : dataStep s g pc = some (s', evs)) (hc : g.id ≠ c) :
    marks c id (glimpse s m ++ evs.map .event) = [] := by
  rw [marks_append, List.append_eq_nil_iff]
  constructor
  · refine List.filterMap_eq_nil_iff.2 fun e he => ?_
    unfold glimpse at he
    split at he
    · rename_i hclient
      rw [hg] at hclient
      cases hclient
      split at he
      · rw [List.mem_singleton.1 he]
        simp [Seen.mark, hc]
      · cases he
    · obtain ⟨line, -, rfl⟩ := List.mem_map.1 he
      rfl
    · cases he
  · refine List.filterMap_eq_nil_iff.2 fun e he => ?_
    obtain ⟨e, hm, rfl⟩ := List.mem_map.1 he
    have hev := dataStep_events h e hm
    cases e with
    | grabCallback d j seq =>
      have hd : d = g.id := of_decide_eq_true hev
      simp [Seen.mark, hd, hc]
    | _ => rfl

theorem numberInv_data {m : Move} (hI : NumberInv c id view s) (ha : m.action = .data) (hreg : RegisteredIn c id s m)
    (h : step s .data = some (s', evs)) :
    NumberInv c id (view ++ marks c id (glimpse s m ++ evs.map .event)) s' := by
  obtain ⟨g, pc, hg, hd, hdata⟩ := step_data h
  have hf := dataStep_frame hdata
  obtain ⟨pc', hg'⟩ := dataStep_client hdata
  have hlt := hI.current g hg
  have hforeign : g.id ≠ c → view ++ marks c id (glimpse s m ++ evs.map .event) = view := by
    intro hc
    rw [marks_foreign hg hdata hc, List.append_nil]
  refine ⟨liveInv_step hI.live h, fun g₁ hg₁ => ?_, fun n d q hq => ?_, fun hc => ?_, fun n q hq hb => ?_,
    fun g₁ hg₁ hid => ?_, fun hpast => ?_⟩
  · rw [hg'] at hg₁
    cases hg₁
    rw [hf.clients]
    exact hlt
  · rw [hf.app] at hq
    rw [hf.clients]
    obtain ⟨hlt, how⟩ := hI.owner n d q hq
    refine ⟨hlt, fun g₁ hg₁ => ?_⟩
    rw [hg'] at hg₁
    cases hg₁
    exact how g hg
  · rw [hf.clients] at hc
    rw [hforeign (by omega)]
    exact hI.fresh hc
  · -- a session that is still being built receives nothing
    rw [hf.app] at hb
    have hr := hI.live.building hb
    simp [Impl.receiving, hg, hd] at hr
  · rw [hg'] at hg₁
    cases hg₁
    have hid : g.id = c := hid
    subst hid
    have hcount := hI.counted g hg rfl
    rw [hd] at hcount
    have hin : s.inSession g.id = true := by simp [State.inSession, hg]
    obtain ⟨pc₁, hg₁, hcount'⟩ := counted_data ha hg hd hdata (hreg hin) hcount
    rw [hg'] at hg₁
    cases hg₁
    exact hcount'
  · have hne : g.id ≠ c := hpast ⟨g.id, some pc'⟩ hg'
    rw [hforeign hne]
    refine hI.past fun g₁ hg₁ => ?_
    rw [hg] at hg₁
    cases hg₁
    exact hne

theorem numberInv_watch {m : Move} {tr seen : List Seen} (hI : NumberInv c id (marks c id tr) s)
    (hreg : RegisteredIn c id s m) (h : watch s m = some (s', seen)) : NumberInv c id (marks c id (tr ++ seen)) s' := by
  obtain ⟨⟨s₁, evs⟩, hstep, heq⟩ := Option.map_eq_some_iff.1 (watch_eq s m ▸ h)
  cases heq
  rw [marks_append]
  cases ha : m.action.isData with
  | true =>
    have hact : m.action = .data := by
      cases hm : m.action <;> rw [hm] at ha <;> first | rfl | cases ha
    rw [hact] at hstep
    exact numberInv_data hI hact hreg hstep
  | false =>
    rw [glimpse_of_ne ha, List.nil_append, marks_other hstep ha, List.append_nil]
    exact numberInv_other hI hstep ha

end

/-! ## Other exits of the callbacks -/

/-- How a callback ends changes the log alone. -/
theorem watch_exit {s s' : State} {m m' : Move} {seen : List Seen} (h : watch s m = some (s', seen))
    (ha : m'.action = m.action) : ∃ seen', watch s m' = some (s', seen') ∧ unlogged seen' = unlogged seen := by
  obtain ⟨⟨s₁, evs⟩, hstep, heq⟩ := Option.map_eq_some_iff.1 (watch_eq s m ▸ h)
  cases heq
  refine ⟨glimpse s m' ++ evs.map .event, ?_, ?_⟩
  · rw [watch_eq, ha, hstep]
    rfl
  · have hlog : ∀ lines : List String, unlogged (lines.map .logged) = [] := by
      intro lines
      simp [unlogged]
    have hglimpse : unlogged (glimpse s m') = unlogged (glimpse s m) := by
      unfold glimpse
      rw [ha]
      split
      · rfl
      · rw [hlog, hlog]
      · rfl
    unfold unlogged at hglimpse ⊢
    rw [List.filter_append, List.filter_append, hglimpse]

theorem exec_exits {c id : Nat} : ∀ (moves moves' : List Move) {s s' : State} {tr : List Seen},
    moves'.map (·.action) = moves.map (·.action) → exec watch (RegisteredIn c id) moves s = some (s', tr) →
    ∃ tr', exec watch (RegisteredIn c id) moves' s = some (s', tr') ∧ unlogged tr' = unlogged tr
  | [], moves', s, s', tr, hactions, h => by
    obtain rfl : moves' = [] := List.map_eq_nil_iff.1 hactions
    exact ⟨tr, h, rfl⟩
  | m :: moves, [], s, s', tr, hactions, h => by cases hactions
  | m :: moves, m' :: moves', s, s', tr, hactions, h => by
    obtain ⟨ha, hrest⟩ := List.cons.inj hactions
    unfold exec at h
    split at h
    · rename_i hreg
      split at h
      · cases h
      · rename_i s₁ seen hwatch
        obtain ⟨⟨s₂, tr₂⟩, hexec, hp⟩ := Option.map_eq_some_iff.1 h
        cases hp
        obtain ⟨seen', hwatch', hseen⟩ := watch_exit hwatch ha
        obtain ⟨tr', hexec', htr⟩ := exec_exits moves moves' hrest hexec
        refine ⟨seen' ++ tr', ?_, ?_⟩
        · have hreg' : RegisteredIn c id s m' := hreg
          rw [exec, if_pos hreg', hwatch']
          simp only [hexec', Option.map_some]
        · unfold unlogged at hseen htr ⊢
          rw [List.filter_append, List.filter_append, hseen, htr]
    · cases h

/-! ## The numbers in every run -/

/-- A callback that is registered throughout a session is called once for every data set accepted in it, in
the order of arrival and with the numbers 0, 1, 2 and so on; only the call for the data set in hand can be
ahead. However callbacks end, the run goes on in the same way, but for the log. -/
theorem numbering_survives {observers callbacks : Registry} {c id : Nat} {moves : List Move} {s : State}
    {tr : List Seen} (h : exec watch (RegisteredIn c id) moves (init observers callbacks) = some (s, tr)) :
    (∃ n, marks c id tr = numbered n ∨ marks c id tr = numbered n ++ [.accepted] ∧ s.ahead c id = true) ∧
    ∀ moves' : List Move, moves'.map (·.action) = moves.map (·.action) →
      ∃ tr', exec watch (RegisteredIn c id) moves' (init observers callbacks) = some (s, tr') ∧
        unlogged tr' = unlogged tr := by
  have hI : NumberInv c id (marks c id tr) s :=
    (exec_run watch (RegisteredIn c id) moves _ s tr h).invariant (I := fun tr s => NumberInv c id (marks c id tr) s)
      (numberInv_init c id observers callbacks) fun _ _ _ _ _ hI hreg hwatch => numberInv_watch hI hreg hwatch
  constructor
  · by_cases hcur : ∃ g, s.impl.gdpClient = some g ∧ g.id = c
    · obtain ⟨g, hg, hid⟩ := hcur
      obtain ⟨n, hn | ⟨hn, hahead⟩⟩ := (hI.counted g hg hid).settled
      · exact ⟨n, .inl hn⟩
      · exact ⟨n, .inr ⟨hn, by simp [State.ahead, hg, hid, hahead]⟩⟩
    · obtain ⟨n, hn⟩ := hI.past fun g hg hid => hcur ⟨g, hg, hid⟩
      exact ⟨n, .inl hn⟩
  · intro moves' hactions
    exact exec_exits moves moves' hactions h

/-- Two sessions; the callback throws on the first data set of the first, and on both of the second. -/
def throwingMoves : List Move :=
  (openMoves ++ grabMoves 0).map (⟨·, .returned⟩) ++ dataMoves.map (⟨·, .stdException "no disk space"⟩) ++
    (dataMoves ++ stopMoves ++ grabMoves 0).map (⟨·, .returned⟩) ++ (dataMoves ++ dataMoves).map (⟨·, .otherException⟩)

theorem numbering_survives_throws : ∃ s tr,
    exec watch (RegisteredIn 1 1) throwingMoves (init one one) = some (s, tr) ∧
      marks 1 1 tr = numbered 2 ∧ .logged "Gocator grab callback failed with an unknown exception." ∈ tr ∧
      ∃ n, marks 1 1 tr = numbered n ∨ marks 1 1 tr = numbered n ++ [.accepted] ∧ s.ahead 1 1 = true := by
  have hsome : (exec watch (RegisteredIn 1 1) throwingMoves (init one one)).isSome = true := rfl
  have h := (Option.some_get hsome).symm
  exact ⟨_, _, h, by decide, by decide, (numbering_survives h).1⟩

end Gocator.Threads
