/-
Where the interleaved facade can dereference a null pointer: only in `grab`, between the assignment of
the new client and `ReceiveDataAsync`, when that client has been dropped. The connection `open` and `grab`
use is there, and a thread that closes the client still has it, because nobody else drops a client while the
stop lock is held or after `close` has come out of its `stop`.
-/
import Gocator.Threads.Numbering

namespace Gocator.Threads

open Gocator.Facade Transition

/-! ## Who needs the connection -/

/-- The application thread is at a point where it uses the connection, or will without testing it. -/
def AppPc.linked : AppPc → Bool
  | .open _ .loadOpened | .open _ .resolveTarget | .open _ .makeConnection => false
  | .grab _ .loadOpened => false
  | .open .. | .grab .. | .session .. => true
  | _ => false

/-- `close` has reset the connection and not yet cleared `isOpened`. -/
def AppPc.unlinking : AppPc → Bool
  | .close _ .loadOpened | .close _ .storeOpened => true
  | _ => false

/-- The connection is there while `isOpened` is set, and wherever the application thread uses it. -/
structure Linked (s : State) : Prop where
  opened : s.impl.isOpened = true → s.impl.connection.isSome = true ∨ s.app.unlinking = true
  needed : s.app.linked = true → s.impl.connection.isSome = true

theorem linked_init (observers callbacks : Registry) : Linked (init observers callbacks) :=
  ⟨Bool.noConfusion, Bool.noConfusion⟩

section

variable {ok : Bool} {s s' : State} {a : Action} {evs : List Event}

/-- The connection and the flag are unchanged, and the application thread is not in `close`. -/
theorem Linked.move (hL : Linked s) (hc : s'.impl.connection = s.impl.connection)
    (ho : s'.impl.isOpened = s.impl.isOpened) (hu : s.app.unlinking = false)
    (ha : s'.app.linked = true → s.app.linked = true ∨ s.impl.isOpened = true) : Linked s' := by
  have hopened : s.impl.isOpened = true → s.impl.connection.isSome = true := by
    intro h
    refine (hL.opened h).resolve_right fun h' => ?_
    rw [hu] at h'
    cases h'
  refine ⟨fun h => .inl ?_, fun h => ?_⟩
  · rw [hc]
    exact hopened (ho ▸ h)
  · rw [hc]
    exact (ha h).elim hL.needed hopened

theorem linked_open {address : String} {pc : OpenPc} (hL : Linked s) (ha : s.app = .open address pc)
    (h : openStep ok s address pc = some (s', evs)) : Linked s' := by
  have hu : s.app.unlinking = false := by rw [ha]; rfl
  cases pc with
  | loadOpened =>
    simp only [openStep] at h
    split at h <;> cases h <;> exact hL.move rfl rfl hu Bool.noConfusion
  | resolveTarget =>
    cases h
    cases ok <;> exact hL.move rfl rfl hu Bool.noConfusion
  | makeConnection =>
    simp only [openStep] at h
    split at h <;> cases h
    · exact ⟨fun _ => .inl rfl, fun _ => rfl⟩
    · exact hL.move rfl rfl hu Bool.noConfusion
  | makeResources => cases h; exact hL.move rfl rfl hu fun _ => .inl (by rw [ha]; rfl)
  | connect =>
    simp only [openStep] at h
    split at h
    · cases h; exact ⟨hL.opened, hL.needed⟩
    · split at h <;> cases h
      · exact hL.move rfl rfl hu fun _ => .inl (by rw [ha]; rfl)
      · exact hL.move rfl rfl hu Bool.noConfusion
  | storeOpened =>
    cases h
    have hc := hL.needed (by rw [ha]; rfl)
    exact ⟨fun _ => .inl hc, fun _ => hc⟩
  | readPort =>
    cases h
    cases ok
    · exact hL.move rfl rfl hu Bool.noConfusion
    · exact hL.move rfl rfl hu fun _ => .inl (by rw [ha]; rfl)
  | notify k =>
    simp only [openStep] at h
    split at h <;> cases h
    · exact hL.move rfl rfl hu fun _ => .inl (by rw [ha]; rfl)
    · exact hL.move rfl rfl hu Bool.noConfusion

theorem afterClose_unlinked (k : CloseCaller) : (afterClose k).1.linked = false := by
  cases k <;> rfl

theorem linked_close {k : CloseCaller} {pc : ClosePc} (hL : Linked s) (ha : s.app = .close k pc)
    (h : closeStep ok s k pc = some (s', evs)) : Linked s' := by
  cases pc with
  | testClient =>
    cases h
    exact hL.move rfl rfl (by rw [ha]; rfl) (by split <;> exact Bool.noConfusion)
  | closeClient =>
    simp only [closeStep] at h
    split at h
    · cases h; exact ⟨hL.opened, hL.needed⟩
    · split at h
      · split at h <;> cases h
        exact hL.move rfl rfl (by rw [ha]; rfl) Bool.noConfusion
      · cases h; exact hL.move rfl rfl (by rw [ha]; rfl) Bool.noConfusion
  | resetClient =>
    simp only [closeStep] at h
    split at h <;> cases h
    exact hL.move rfl rfl (by rw [ha]; rfl) Bool.noConfusion
  | resetResources => cases h; exact hL.move rfl rfl (by rw [ha]; rfl) Bool.noConfusion
  | resetConnection => cases h; exact ⟨fun _ => .inr rfl, Bool.noConfusion⟩
  | loadOpened =>
    simp only [closeStep] at h
    split at h <;> cases h <;> rename_i ho
    · exact ⟨fun _ => .inr rfl, Bool.noConfusion⟩
    · refine ⟨fun h => absurd h ho, fun h => ?_⟩
      rw [afterClose_unlinked] at h
      cases h
  | storeOpened => cases h; exact ⟨Bool.noConfusion, Bool.noConfusion⟩
  | notify q =>
    simp only [closeStep] at h
    split at h <;> cases h
    · exact hL.move rfl rfl (by rw [ha]; rfl) Bool.noConfusion
    · refine hL.move rfl rfl (by rw [ha]; rfl) fun h => ?_
      rw [afterClose_unlinked] at h
      cases h

theorem linked_appStep (hL : Linked s) (h : appStep ok s = some (s', evs)) (hs : AppStep s s' evs) : Linked s' := by
  cases hs with
  | fault => exact ⟨hL.opened, hL.needed⟩
  | «open» address pc ha =>
    have hop := appStep_open ha h
    exact linked_open hL ha hop
  | close k pc ha =>
    have hcl := appStep_close ha h
    exact linked_close hL ha hcl
  | joinNone k ha => cases k <;> exact hL.move rfl rfl (by rw [ha]; rfl) Bool.noConfusion
  | joinSome k pc ha =>
    refine ⟨fun ho => ?_, Bool.noConfusion⟩
    exact .inl ((hL.opened ho).resolve_right (by rw [ha]; exact Bool.noConfusion))
  | joined k ha =>
    refine ⟨fun ho => ?_, ?_⟩
    · exact .inl ((hL.opened ho).resolve_right (by rw [ha]; exact Bool.noConfusion))
    · cases k <;> exact Bool.noConfusion
  | stopped k ha => cases k <;> exact hL.move rfl rfl (by rw [ha]; rfl) Bool.noConfusion
  | grab f pc app evs ha hm =>
    cases hm with
    | opened ho => exact hL.move rfl rfl (by rw [ha]; rfl) fun _ => .inr ho
    | unmarked | made => exact hL.move rfl rfl (by rw [ha]; rfl) fun _ => .inl (by rw [ha]; rfl)
    | _ => exact hL.move rfl rfl (by rw [ha]; rfl) Bool.noConfusion
  | assign f ha => exact hL.move rfl rfl (by rw [ha]; rfl) fun _ => .inl (by rw [ha]; rfl)
  | session f c pc m app evs ha hm =>
    cases hm <;> exact hL.move rfl rfl (by rw [ha]; rfl) fun _ => .inl (by rw [ha]; rfl)

/-- A thread in `stop` leaves the connection alone. -/
theorem stopStep_connection {m m' : Impl} {pc pc' : StopPc} (h : stopStep ok m pc = some (.next m' pc' evs)) :
    m'.connection = m.connection := by
  cases pc with
  | lock | resetClient | notify k =>
    simp only [stopStep] at h
    split at h <;> cases h <;> rfl
  | closeClient =>
    simp only [stopStep] at h
    split at h
    · cases h
    · split at h
      · split at h <;> cases h
        rfl
      · cases h; rfl
  | returned => cases h
  | _ => cases h; rfl

/-- The data thread leaves the connection alone and dereferences nothing. -/
theorem dataStep_connection {c : GdpClient} {pc : DataPc} (h : dataStep s c pc = some (s', evs)) :
    s'.impl.connection = s.impl.connection ∧ s'.fault = s.fault := by
  cases pc with
  | waiting => cases h
  | dispatch rest =>
    cases rest with
    | nil => cases h; exact ⟨rfl, rfl⟩
    | cons cb rest =>
      simp only [dataStep] at h
      split at h <;> cases h <;> exact ⟨rfl, rfl⟩
  | countFrame | spawnWorker =>
    simp only [dataStep] at h
    split at h <;> cases h <;> exact ⟨rfl, rfl⟩
  | _ => cases h; exact ⟨rfl, rfl⟩

/-- Another thread has moved, or the application thread has gone on in `stop`. -/
theorem Linked.kept (hL : Linked s) (hc : s'.impl.connection = s.impl.connection)
    (ho : s'.impl.isOpened = s.impl.isOpened) (hl : s'.app.linked = s.app.linked)
    (hu : s'.app.unlinking = s.app.unlinking) : Linked s' :=
  ⟨by rw [ho, hc, hu]; exact hL.opened, by rw [hl, hc]; exact hL.needed⟩

theorem linked_step (hL : Linked s) (h : step s a = some (s', evs)) : Linked s' := by
  cases stepBy h with
  | fault hs => rw [hs]; exact ⟨hL.opened, hL.needed⟩
  | call c hi hs =>
    rw [hs]
    refine hL.move rfl rfl (by rw [hi]; rfl) ?_
    cases c <;> exact Bool.noConfusion
  | app ok happ hact =>
    subst hact
    exact linked_appStep hL (appStep_of_step h) happ
  | appStop ok k pc pc' m ha he hs =>
    rw [hs]
    exact hL.move (stopStep_connection he) (stopStep_effect he).opened (by rw [ha]; rfl) Bool.noConfusion
  | stopWorker ok pc pc' m hw he hs =>
    rw [hs]
    exact hL.kept (stopStep_connection he) (stopStep_effect he).opened rfl rfl
  | worker ok pc pc' m hw he hs =>
    rw [hs]
    exact hL.kept (stopStep_connection he) (stopStep_effect he).opened rfl rfl
  | data c pc hc hd hdata =>
    have hf := dataStep_frame hdata
    exact hL.kept (dataStep_connection hdata).1 hf.opened (by rw [hf.app]) (by rw [hf.app])
  | dataSet c hc hd hs => rw [hs]; exact ⟨hL.opened, hL.needed⟩
  | registries o g hs => rw [hs]; exact ⟨hL.opened, hL.needed⟩

/-! ## Who needs the client -/

/-- The application thread has come out of `stop`, or is in the part of `close` after it. -/
def AppPc.closed : AppPc → Bool
  | .stop _ .returned | .close .. => true
  | _ => false

/-- A client that is about to be closed is there. -/
structure Present (s : State) : Prop where
  /-- After its own `stop` nobody is left that could drop a client, and nobody can begin to. -/
  calm : s.app.closed = true → s.impl.isGrabbing = false ∧ s.tearing = false
  closing : ∀ k, s.app = .close k .closeClient → s.impl.gdpClient.isSome = true
  closer : .closeClient ∈ s.stops → s.impl.gdpClient.isSome = true

theorem present_init (observers callbacks : Registry) : Present (init observers callbacks) :=
  ⟨Bool.noConfusion, nofun, nofun⟩

/-- What one step of `stop` does to the client and to the threads that tear a session down. -/
structure StopDrops (m : Impl) (pc : StopPc) (m' : Impl) (pc' : StopPc) : Prop where
  drops : m.gdpClient.isSome = true → m'.gdpClient.isSome = false → pc = .resetClient
  closer : pc' = .closeClient → m'.gdpClient.isSome = true
  begins : pc'.tearing = true → pc.tearing = true ∨ m.isGrabbing = true
  frees : pc' = .returned → m'.stopMutex = false

/-- A step that leaves the client alone and begins no teardown. -/
theorem StopDrops.of_kept {m m' : Impl} {pc pc' : StopPc} (hg : m'.gdpClient = m.gdpClient) (hc : pc' ≠ .closeClient)
    (hb : pc'.tearing = true → pc.tearing = true ∨ m.isGrabbing = true) (hr : pc' = .returned → m'.stopMutex = false) :
    StopDrops m pc m' pc' := by
  refine ⟨fun h h' => ?_, fun h => absurd h hc, hb, hr⟩
  rw [hg, h] at h'
  cases h'

theorem stopStep_drops {m m' : Impl} {pc pc' : StopPc} (h : stopStep ok m pc = some (.next m' pc' evs)) :
    StopDrops m pc m' pc' := by
  cases pc with
  | lock =>
    simp only [stopStep] at h
    split at h <;> cases h
    exact .of_kept rfl StopPc.noConfusion Bool.noConfusion StopPc.noConfusion
  | exchangeGrabbing =>
    simp only [stopStep] at h
    cases hg : m.isGrabbing with
    | true => rw [hg] at h; cases h; exact .of_kept rfl StopPc.noConfusion (fun _ => .inr hg) StopPc.noConfusion
    | false => rw [hg] at h; cases h; exact .of_kept rfl StopPc.noConfusion Bool.noConfusion StopPc.noConfusion
  | testClient =>
    simp only [stopStep] at h
    cases hc : m.gdpClient.isSome with
    | true =>
      rw [hc] at h
      cases h
      exact ⟨fun _ h' => absurd hc (Bool.eq_false_iff.1 h'), fun _ => hc, fun _ => .inl rfl, StopPc.noConfusion⟩
    | false => rw [hc] at h; cases h; exact .of_kept rfl StopPc.noConfusion Bool.noConfusion StopPc.noConfusion
  | closeClient =>
    simp only [stopStep] at h
    split at h
    · cases h
    · rename_i c hc
      split at h
      · split at h <;> cases h
        exact ⟨fun _ h' => Bool.noConfusion h', StopPc.noConfusion, fun _ => .inl rfl, StopPc.noConfusion⟩
      · cases h; exact .of_kept rfl StopPc.noConfusion (fun _ => .inl rfl) StopPc.noConfusion
  | resetClient =>
    simp only [stopStep] at h
    split at h <;> cases h
    exact ⟨fun _ _ => rfl, StopPc.noConfusion, Bool.noConfusion, StopPc.noConfusion⟩
  | notify k =>
    simp only [stopStep] at h
    split at h <;> cases h <;> exact .of_kept rfl StopPc.noConfusion Bool.noConfusion StopPc.noConfusion
  | unlock => cases h; exact .of_kept rfl StopPc.noConfusion Bool.noConfusion fun _ => rfl
  | storeRequested | stopSensor => cases h; exact .of_kept rfl StopPc.noConfusion (fun _ => .inl rfl) StopPc.noConfusion
  | clearCallback => cases h; exact .of_kept rfl StopPc.noConfusion Bool.noConfusion StopPc.noConfusion
  | returned => cases h

/-- Two threads are not inside the lock at once. -/
theorem LiveInv.alone (hI : LiveInv s) {l r : List StopPc} {pc q : StopPc} (hs : s.stops = l ++ pc :: r)
    (hq : q ∈ l ++ r) (hh : q.holds = true) : pc.holds = false := by
  by_contra hp
  have hp := Bool.eq_false_iff.not_left.1 hp
  have hx := hI.exclusive
  unfold State.inside at hx
  rw [hs, List.filter_append, List.filter_cons, if_pos hp, List.length_append, List.length_cons] at hx
  have hpos : 0 < (l.filter (·.holds)).length + (r.filter (·.holds)).length := by
    rw [← List.length_append, ← List.filter_append]
    exact List.length_pos_of_mem (List.mem_filter.2 ⟨hq, hh⟩)
  have hle : s.impl.stopMutex.toNat ≤ 1 := Bool.toNat_le _
  omega

/-- The invariant is kept when a thread in `stop` takes a step, whichever slot it is in. -/
theorem present_stop {m : Impl} {pc pc' : StopPc} {l r : List StopPc} (hI : LiveInv s) (hI' : LiveInv s')
    (hP : Present s) (hs : s.stops = l ++ pc :: r) (hs' : s'.stops = l ++ pc' :: r)
    (h : stopStep ok s.impl pc = some (.next m pc' evs)) (hm : s'.impl = m)
    (hcl : s'.app.closed = true → s.app.closed = true ∨ s'.app.stopPc = some .returned ∧ pc' = .returned)
    (hclosing : ∀ k, s'.app = .close k .closeClient → s.app = .close k .closeClient) : Present s' := by
  have hd := stopStep_drops h
  have he := stopStep_effect h
  subst hm
  refine ⟨fun hc => ?_, fun k hk => ?_, fun hc => ?_⟩
  · rcases hcl hc with hc | ⟨hr, hpc⟩
    · obtain ⟨hg, ht⟩ := hP.calm hc
      refine ⟨grabbing_kept he hg, ?_⟩
      rw [State.tearing_eq, hs] at ht
      rw [State.tearing_eq, hs']
      simp only [List.any_append, List.any_cons, Bool.or_eq_false_iff] at ht ⊢
      refine ⟨ht.1, ?_, ht.2.2⟩
      by_contra hbegin
      rcases hd.begins (Bool.eq_false_iff.not_left.1 hbegin) with hb | hb
      · rw [ht.2.1] at hb; cases hb
      · rw [hg] at hb; cases hb
    · -- the lock is free, so nobody is inside it
      refine ⟨hI'.cleared _ hr rfl, ?_⟩
      have hx := hI'.exclusive
      rw [hd.frees hpc] at hx
      unfold State.tearing
      rw [List.eq_nil_of_length_eq_zero hx]
      rfl
  · have hk' := hclosing k hk
    by_contra hno
    have hreset := hd.drops (hP.closing k hk') (Bool.eq_false_iff.2 hno)
    have ht := (hP.calm (by rw [hk']; rfl)).2
    rw [State.tearing_eq, hs, hreset] at ht
    simp [StopPc.tearing] at ht
  · rw [hs', List.mem_append, List.mem_cons] at hc
    by_cases hpc : .closeClient = pc'
    · exact hd.closer hpc.symm
    have hother : .closeClient ∈ l ++ r := by
      rcases hc with hc | hc | hc
      · exact List.mem_append_left _ hc
      · exact absurd hc hpc
      · exact List.mem_append_right _ hc
    have hmem : .closeClient ∈ s.stops := by
      rw [hs]
      rcases List.mem_append.1 hother with hc | hc <;> simp [hc]
    by_contra hno
    have hreset := hd.drops (hP.closer hmem) (Bool.eq_false_iff.2 hno)
    have hfree := hI.alone hs hother rfl
    rw [hreset] at hfree
    cases hfree

/-- A step that no thread takes inside the lock, and that keeps the client or has one in place. -/
theorem present_outside (hP : Present s) (ht : s'.tearing = s.tearing)
    (hg : s'.app.closed = true → s'.impl.isGrabbing = false ∧ s.app.closed = true)
    (hc : .closeClient ∈ s'.stops → .closeClient ∈ s.stops)
    (hk : s.impl.gdpClient.isSome = true → s'.impl.gdpClient.isSome = true ∨ s.app.closed = true)
    (hclosing : ∀ k, s'.app = .close k .closeClient → s'.impl.gdpClient.isSome = true) : Present s' := by
  refine ⟨fun h => ⟨(hg h).1, ?_⟩, hclosing, fun h => ?_⟩
  · rw [ht]
    exact (hP.calm (hg h).2).2
  · refine (hk (hP.closer (hc h))).resolve_right fun hcl => ?_
    have hno := (hP.calm hcl).2
    rw [State.tearing_eq, List.any_eq_false] at hno
    exact hno _ (hc h) rfl

/-- The application thread is not tearing a session down. -/
def AppPc.aside (app : AppPc) : Prop := ∀ pc, app.stopPc = some pc → pc.tearing = false

theorem AppPc.aside.of_none {app : AppPc} (h : app.stopPc = none) : app.aside := by
  intro pc hpc
  rw [h] at hpc
  cases hpc

theorem AppPc.aside.lock (k : StopCaller) : (AppPc.stop k .lock).aside := by
  intro pc hpc
  cases hpc
  rfl

theorem AppPc.aside.any {app : AppPc} (h : app.aside) : app.stopPc.toList.any (·.tearing) = false := by
  cases ha : app.stopPc with
  | none => rfl
  | some pc => simp [h pc ha]

/-- The application thread moves outside the teardown, and the workers stay where they are. -/
theorem present_move (hP : Present s) (hs : s.app.aside) (hs' : s'.app.aside) (hw : s'.stopWorker = s.stopWorker)
    (hw' : s'.worker = s.worker)
    (hg : s'.app.closed = true → s'.impl.isGrabbing = false ∧ s.app.closed = true)
    (hk : s.impl.gdpClient.isSome = true → s'.impl.gdpClient.isSome = true ∨ s.app.closed = true)
    (hclosing : ∀ k, s'.app = .close k .closeClient → s'.impl.gdpClient.isSome = true) : Present s' := by
  refine present_outside hP ?_ hg (fun hc => ?_) hk hclosing
  · rw [State.tearing_eq, State.tearing_eq]
    unfold State.stops
    rw [hw, hw']
    simp only [List.any_append, hs.any, hs'.any]
  · rw [State.mem_stops, hw, hw'] at hc
    rcases hc with hc | hc
    · cases hs' _ hc
    · exact State.mem_stops.2 (.inr hc)

/-- `open` does not get into the end of `close`. -/
theorem openStep_closed {address : String} {pc : OpenPc} (h : openStep ok s address pc = some (s', evs))
    (ha : s.app = .open address pc) : s'.app.closed = false := by
  cases pc with
  | loadOpened | makeConnection | notify =>
    simp only [openStep] at h
    split at h <;> cases h <;> rfl
  | connect =>
    simp only [openStep] at h
    split at h
    · cases h; simp [State.fail, ha, AppPc.closed]
    · split at h <;> cases h <;> rfl
  | resolveTarget | readPort => cases h; cases ok <;> rfl
  | makeResources | storeOpened => cases h; rfl

/-- `close` closes the client only after it has found one. -/
theorem closeStep_client {k k' : CloseCaller} {pc : ClosePc} (h : closeStep ok s k pc = some (s', evs))
    (hf : s' ≠ s.fail) (hc : s'.app = .close k' .closeClient) : s'.impl.gdpClient.isSome = true := by
  cases pc with
  | testClient =>
    cases h
    by_contra hg
    have hnone : s.impl.gdpClient.isSome = false := Bool.eq_false_iff.2 hg
    simp [hnone] at hc
  | closeClient =>
    simp only [closeStep] at h
    split at h
    · cases h; exact absurd rfl hf
    · split at h
      · split at h <;> cases h
        cases hc
      · cases h; cases hc
  | resetClient =>
    simp only [closeStep] at h
    split at h <;> cases h
    cases hc
  | resetResources | resetConnection | storeOpened => cases h; cases hc
  | loadOpened | notify =>
    simp only [closeStep] at h
    split at h <;> cases h
    · cases hc
    · cases k <;> cases hc

theorem Present.fail (hP : Present s) : Present s.fail := ⟨hP.1, hP.2, hP.3⟩

/-- The worker that has been joined is gone, and the application thread goes on beside the teardown. -/
theorem present_joined {app : AppPc} (hP : Present s) (hs : s.app.aside) (hw : s.worker = some .returned)
    (happ : app.aside) (hclosed : app.closed = false) : Present { s with worker := none, app := app } := by
  refine present_outside hP ?_ (fun h => ?_) (fun hc => ?_) .inl fun k hk => ?_
  · rw [State.tearing_eq, State.tearing_eq]
    unfold State.stops
    rw [hw]
    simp only [List.any_append, happ.any, hs.any]
    rfl
  · rw [hclosed] at h
    cases h
  · rcases State.mem_stops.1 hc with hc | hc | hc
    · cases happ _ hc
    · exact State.mem_stops.2 (.inr (.inl hc))
    · cases hc
  · obtain rfl : app = .close k .closeClient := hk
    cases hclosed

theorem present_appStep (hI : LiveInv s) (hP : Present s) (h : appStep ok s = some (s', evs)) (hs : AppStep s s' evs) :
    Present s' := by
  cases hs with
  | fault => exact hP.fail
  | «open» address pc ha hf =>
    have hop := appStep_open ha h
    have hg := openStep_client hop
    have hc := openStep_closed hop ha
    refine present_move hP (.of_none (by rw [ha]; rfl)) (.of_none (AppPc.linking_stopPc hf.app))
      hf.stopWorker hf.worker (fun h => ?_) (fun h => .inl (by rw [hg]; exact h)) fun k hk => ?_
    · rw [hc] at h; cases h
    · rw [hk] at hc; cases hc
  | close k pc ha hf =>
    have hcl := appStep_close ha h
    have hclosed : s.app.closed = true := by rw [ha]; rfl
    by_cases hfail : s' = s.fail
    · rw [hfail]; exact hP.fail
    exact present_move hP (.of_none (by rw [ha]; rfl)) (.of_none (AppPc.linking_stopPc hf.app))
      hf.stopWorker hf.worker (fun _ => ⟨by rw [hf.session.grabbing]; exact (hP.calm hclosed).1, hclosed⟩)
      (fun _ => .inr hclosed) fun k' hk' => closeStep_client hcl hfail hk'
  | joinNone k ha =>
    cases k with
    | grab f =>
      exact present_move hP (.of_none (by rw [ha]; rfl)) (.of_none rfl) rfl rfl Bool.noConfusion .inl
        fun _ => AppPc.noConfusion
    | close k =>
      exact present_move hP (.of_none (by rw [ha]; rfl)) (.lock _) rfl rfl Bool.noConfusion .inl
        fun _ => AppPc.noConfusion
  | joinSome k pc ha hw =>
    have hnone := hI.worker_none (by rw [ha]; exact fun _ => AppPc.noConfusion)
    have hstops : ({ s with stopWorker := none, worker := some pc, app := .joinWait k } : State).stops = s.stops := by
      simp [State.stops, ha, hw, hnone, AppPc.stopPc]
    refine present_outside hP ?_ Bool.noConfusion (fun hc => hstops ▸ hc) .inl fun _ => AppPc.noConfusion
    rw [State.tearing_eq, State.tearing_eq, hstops]
  | joined k ha hw =>
    have haside : s.app.aside := .of_none (by rw [ha]; rfl)
    cases k with
    | grab f => exact present_joined hP haside hw (.of_none rfl) rfl
    | close k => exact present_joined hP haside hw (.lock _) rfl
  | stopped k ha =>
    have hclosed : s.app.closed = true := by rw [ha]; rfl
    have haside : s.app.aside := by
      rw [ha]
      intro pc hpc
      cases hpc
      rfl
    have hcalm := fun _ : (afterStop k).1.closed = true => And.intro (hP.calm hclosed).1 hclosed
    cases k <;> exact present_move hP haside (.of_none rfl) rfl rfl hcalm .inl fun _ hk => by cases hk
  | grab f pc app evs ha hm =>
    have haside : s.app.aside := .of_none (by rw [ha]; rfl)
    cases hm with
    | failed => exact present_move hP haside (.lock _) rfl rfl Bool.noConfusion .inl fun _ => AppPc.noConfusion
    | _ => exact present_move hP haside (.of_none rfl) rfl rfl Bool.noConfusion .inl fun _ => AppPc.noConfusion
  | assign f ha =>
    exact present_move hP (.of_none (by rw [ha]; rfl)) (.of_none rfl) rfl rfl Bool.noConfusion
      (fun _ => .inl rfl) fun _ => AppPc.noConfusion
  | session f c pc m app evs ha hm =>
    have haside : s.app.aside := .of_none (by rw [ha]; rfl)
    cases hm with
    | failed => exact present_move hP haside (.lock _) rfl rfl Bool.noConfusion .inl fun _ => AppPc.noConfusion
    | received g hg =>
      exact present_move hP haside (.of_none rfl) rfl rfl Bool.noConfusion (fun _ => .inl rfl)
        fun _ => AppPc.noConfusion
    | _ => exact present_move hP haside (.of_none rfl) rfl rfl Bool.noConfusion .inl fun _ => AppPc.noConfusion

/-- The data thread keeps the client, and a stop worker that it spawns has not begun. -/
theorem present_data {c : GdpClient} {pc : DataPc} (hP : Present s) (h : dataStep s c pc = some (s', evs)) :
    Present s' := by
  have hf := dataStep_frame h
  obtain ⟨pc', hclient⟩ := dataStep_client h
  have hsome : s'.impl.gdpClient.isSome = true := by rw [hclient]; rfl
  refine present_outside hP ?_ (fun hcl => ?_) (fun hm => ?_) (fun _ => .inl hsome) fun _ _ => hsome
  · rw [State.tearing_eq, State.tearing_eq]
    unfold State.stops
    rw [hf.app, hf.worker]
    rcases hf.spawned with hw | ⟨hw, hw'⟩
    · rw [hw]
    · simp [hw, hw', StopPc.tearing]
  · rw [hf.app] at hcl
    exact ⟨by rw [hf.grabbing]; exact (hP.calm hcl).1, hcl⟩
  · rw [State.mem_stops, hf.app, hf.worker] at hm
    rw [State.mem_stops]
    rcases hf.spawned with hw | ⟨hw, hw'⟩
    · rw [← hw]; exact hm
    · rw [hw'] at hm
      rcases hm with hm | hm | hm
      · exact .inl hm
      · cases hm
      · exact .inr (.inr hm)

theorem present_step (hI : LiveInv s) (hP : Present s) (h : step s a = some (s', evs)) : Present s' := by
  have hI' := liveInv_step hI h
  cases stepBy h with
  | fault hs => rw [hs]; exact hP.fail
  | call c hi hs =>
    rw [hs]
    have haside : (enter c).aside := by
      cases c <;> first | exact .of_none rfl | exact .lock _
    have hclosed : (enter c).closed = false := by cases c <;> rfl
    refine present_move hP (.of_none (by rw [hi]; rfl)) haside rfl rfl (fun h => ?_) .inl fun k hk => ?_
    · rw [hclosed] at h; cases h
    · cases c <;> cases hk
  | app ok happ hact =>
    subst hact
    exact present_appStep hI hP (appStep_of_step h) happ
  | appStop ok k pc pc' m ha he hs =>
    refine present_stop (l := []) (r := s.stopWorker.toList ++ s.worker.toList) hI hI' hP ?_ ?_ he (by rw [hs])
      (fun hc => .inr ?_) fun k hk => ?_
    · simp [State.stops, ha, AppPc.stopPc]
    · simp [State.stops, hs, AppPc.stopPc]
    · rw [hs] at hc ⊢
      cases pc' with
      | returned => exact ⟨rfl, rfl⟩
      | _ => cases hc
    · rw [hs] at hk; cases hk
  | stopWorker ok pc pc' m hw he hs =>
    refine present_stop (l := s.app.stopPc.toList) (r := s.worker.toList) hI hI' hP ?_ ?_ he (by rw [hs])
      (fun hc => .inl ?_) fun k hk => ?_
    · simp [State.stops, hw]
    · simp [State.stops, hs]
    · rw [hs] at hc; exact hc
    · rw [hs] at hk; exact hk
  | worker ok pc pc' m hw he hs =>
    refine present_stop (l := s.app.stopPc.toList ++ s.stopWorker.toList) (r := []) hI hI' hP ?_ ?_ he (by rw [hs])
      (fun hc => .inl ?_) fun k hk => ?_
    · simp [State.stops, hw]
    · simp [State.stops, hs]
    · rw [hs] at hc; exact hc
    · rw [hs] at hk; exact hk
  | data c pc hc hd hdata => exact present_data hP hdata
  | dataSet c hc hd hs =>
    rw [hs]
    exact present_outside hP rfl (fun hcl => ⟨(hP.calm hcl).1, hcl⟩) id (fun _ => .inl rfl) fun _ _ => rfl
  | registries o g hs => rw [hs]; exact ⟨hP.1, hP.2, hP.3⟩

/-! ## Where the fault is -/

/-- The application thread is in `grab`, about to use a client that is not there over a connection that is. -/
def State.stranded (s : State) (n c : Nat) : Prop :=
  (s.app = .session n c .connect ∨ s.app = .session n c .receive) ∧ s.impl.gdpClient = none ∧
    s.impl.connection.isSome = true

theorem not_fault_stop {m : Impl} {pc : StopPc} (h : pc = .closeClient → m.gdpClient.isSome = true) :
    stopStep ok m pc ≠ some .fault := by
  intro hf
  cases pc with
  | closeClient =>
    simp only [stopStep] at hf
    split at hf
    · rename_i hn
      rw [hn] at h
      cases h rfl
    · split at hf
      · split at hf <;> cases hf
      · cases hf
  | lock | resetClient | notify k =>
    simp only [stopStep] at hf
    split at hf <;> cases hf
  | returned => cases hf
  | _ => cases hf

theorem not_fault_open {address : String} {pc : OpenPc} (hL : Linked s) (ha : s.app = .open address pc)
    (hs : s.fault = false) (h : openStep ok s address pc = some (s', evs)) : s'.fault = false := by
  cases pc with
  | loadOpened | makeConnection | notify =>
    simp only [openStep] at h
    split at h <;> cases h <;> exact hs
  | connect =>
    simp only [openStep] at h
    split at h
    · rename_i hn
      have hc := hL.needed (by rw [ha]; rfl)
      rw [hn] at hc
      cases hc
    · split at h <;> cases h <;> exact hs
  | _ => cases h; exact hs

theorem not_fault_close {k : CloseCaller} {pc : ClosePc} (hP : Present s) (ha : s.app = .close k pc)
    (hs : s.fault = false) (h : closeStep ok s k pc = some (s', evs)) : s'.fault = false := by
  cases pc with
  | closeClient =>
    simp only [closeStep] at h
    split at h
    · rename_i hn
      have hc := hP.closing k ha
      rw [hn] at hc
      cases hc
    · split at h
      · split at h <;> cases h
        exact hs
      · cases h; exact hs
  | resetClient | loadOpened | notify =>
    simp only [closeStep] at h
    split at h <;> cases h <;> exact hs
  | _ => cases h; exact hs

theorem fault_session {n c : Nat} {pc : SessionPc} (hL : Linked s) (ha : s.app = .session n c pc)
    (hs : s.fault = false) (h : sessionStep ok s n c pc = some (s', evs)) (hf : s'.fault = true) :
    s' = s.fail ∧ s.stranded n c := by
  have hsome := hL.needed (by rw [ha]; rfl)
  have hconn : s.impl.connection.isNone = false := by
    cases hc : s.impl.connection
    · rw [hc] at hsome; cases hsome
    · rfl
  have hno : ∀ {p : Prop}, s.fault = true → p := fun h => by rw [hs] at h; cases h
  cases pc with
  | connect =>
    simp only [sessionStep, hconn, or_false, Bool.false_eq_true, Option.isNone_iff_eq_none] at h
    split at h <;> cases h
    · rename_i hg
      exact ⟨rfl, .inl ha, hg, hsome⟩
    · exact hno hf
  | readPort | start =>
    simp only [sessionStep, hconn, Bool.false_eq_true, if_false] at h
    cases h
    exact hno hf
  | receive =>
    simp only [sessionStep] at h
    split at h
    · rename_i hg
      cases h
      exact ⟨rfl, .inr ha, hg, hsome⟩
    · split at h <;> cases h <;> exact hno hf
  | notify k =>
    simp only [sessionStep] at h
    split at h <;> cases h <;> exact hno hf
  | _ => cases h; exact hno hf

theorem fault_app (hL : Linked s) (hP : Present s) (hs : s.fault = false) (h : appStep ok s = some (s', evs))
    (hf : s'.fault = true) : ∃ n c, s' = s.fail ∧ s.stranded n c := by
  have hno : ∀ {p : Prop}, s.fault = true → p := fun h => by rw [hs] at h; cases h
  unfold appStep at h
  cases ha : s.app with
  | idle => rw [ha] at h; cases h
  | «open» address pc =>
    rw [ha] at h
    rw [not_fault_open hL ha hs h] at hf
    cases hf
  | close k pc =>
    rw [ha] at h
    rw [not_fault_close hP ha hs h] at hf
    cases hf
  | session n c pc =>
    rw [ha] at h
    exact ⟨n, c, fault_session hL ha hs h hf⟩
  | joinLock k | joinWait k =>
    simp only [ha] at h
    split at h <;> cases h <;> exact hno hf
  | grab n pc =>
    rw [ha] at h
    cases pc with
    | makeClient => cases h; exact hno hf
    | _ =>
      simp only [grabStep] at h
      split at h <;> cases h <;> exact hno hf
  | stop k pc =>
    by_cases hr : pc = .returned
    · subst hr
      rw [ha] at h
      cases h
      exact hno hf
    · have hstop : stopStep ok s.impl pc ≠ some .fault := by
        refine not_fault_stop fun hpc => hP.closer ?_
        exact State.mem_stops.2 (.inl (by rw [ha, hpc]; rfl))
      rw [ha] at h
      simp only at h
      split at h
      · cases h
      · rename_i he
        exact absurd he hstop
      · cases h
        exact hno hf

/-- The step that dereferences a null pointer is one of `grab`, and the pointer is its client. -/
theorem fault_step (hL : Linked s) (hP : Present s) (h : step s a = some (s', evs)) (hf : s'.fault = true) :
    ∃ ok n c, a = .app ok ∧ s.stranded n c := by
  have hs : s.fault = false := by
    cases hfault : s.fault
    · rfl
    · simp only [step, hfault, if_true] at h
      cases h
  have hno : ∀ {p : Prop}, s.fault = true → p := fun h => by rw [hs] at h; cases h
  have hstop : ∀ {pc : StopPc} {ok : Bool}, pc ∈ s.stops → stopStep ok s.impl pc ≠ some .fault := fun hm =>
    not_fault_stop fun hpc => hP.closer (hpc ▸ hm)
  cases a with
  | call c =>
    obtain ⟨-, rfl, -⟩ := step_call h
    exact hno hf
  | app ok =>
    obtain ⟨n, c, -, hstranded⟩ := fault_app hL hP hs (appStep_of_step h) hf
    exact ⟨ok, n, c, rfl, hstranded⟩
  | stopWorker ok =>
    simp only [step, hs, Bool.false_eq_true, if_false] at h
    split at h
    · cases h
    · rename_i pc hw
      split at h
      · cases h
      · rename_i he
        exact absurd he (hstop (State.mem_stops.2 (.inr (.inl hw))))
      · cases h; cases hf
  | worker ok =>
    simp only [step, hs, Bool.false_eq_true, if_false] at h
    split at h
    · cases h
    · rename_i pc hw
      split at h
      · cases h
      · rename_i he
        exact absurd he (hstop (State.mem_stops.2 (.inr (.inr hw))))
      · cases h; cases hf
  | data =>
    simp only [step, hs, Bool.false_eq_true, if_false] at h
    split at h
    · cases h
    · split at h
      · cases h
      · rw [(dataStep_connection h).2] at hf
        exact hno hf
  | dataSet =>
    simp only [step, hs, Bool.false_eq_true, if_false] at h
    split at h
    · cases h
    · split at h <;> cases h
      exact hno hf
  | statusRegistry f | grabRegistry f =>
    simp only [step, hs, Bool.false_eq_true, if_false] at h
    cases h
    cases hf

end

/-! ## The fault of a run -/

theorem linked_run {okay : State → Action → Prop} {observers callbacks : Registry} {tr : List Event} {s : State}
    (h : Run step okay (init observers callbacks) tr s) : Linked s :=
  h.invariant (I := fun _ s => Linked s) (linked_init observers callbacks) fun _ _ _ _ _ hI _ hstep =>
    linked_step hI hstep

theorem present_run {okay : State → Action → Prop} {observers callbacks : Registry} {tr : List Event} {s : State}
    (h : Run step okay (init observers callbacks) tr s) : Present s :=
  (h.invariant (I := fun _ s => LiveInv s ∧ Present s)
    ⟨liveInv_init observers callbacks, present_init observers callbacks⟩ fun _ _ _ _ _ hI _ hstep =>
      ⟨liveInv_step hI.1 hstep, present_step hI.1 hI.2 hstep⟩).2

end Gocator.Threads
