/-
A callback that has been removed is not called again, provided that no dispatch in progress has it
ahead when the removal returns. A dispatch that copied the callback before calls it all the same, and
every such dispatch can.
-/
import Gocator.Callbacks.Dispatch
import Mathlib.Logic.Function.Basic

namespace Gocator.Callbacks

open Gocator.Facade Transition

/-! ## Registries without a callback -/

/-- The id has been given out and names no entry. -/
def Absent (r : Registry) (id : Nat) : Prop := id < r.nextId ∧ ∀ cb ∈ r.entries, cb.id ≠ id

/-- What a step can make of a registry. -/
inductive Edit (r : Registry) : Registry → Prop
  | same : Edit r r
  | register (callable : Bool) : Edit r (r.register callable)
  | deregister (id : Nat) : Edit r (r.deregister id)
  | clear : Edit r r.clear
  | rehash (l : List Callback) (h : l.Perm r.entries) : Edit r (r.rehash l h)

theorem Absent.edit {r r' : Registry} {id : Nat} (h : Absent r id) (he : Edit r r') : Absent r' id := by
  obtain ⟨hlt, hne⟩ := h
  cases he with
  | same => exact ⟨hlt, hne⟩
  | register callable =>
    refine ⟨Nat.lt_succ_of_lt hlt, fun cb hcb => ?_⟩
    rcases List.mem_cons.1 hcb with rfl | hcb
    · show r.nextId ≠ id
      omega
    · exact hne cb hcb
  | deregister id' => exact ⟨hlt, fun cb hcb => hne cb (List.mem_filter.1 hcb).1⟩
  | clear => exact ⟨hlt, fun cb hcb => absurd hcb List.not_mem_nil⟩
  | rehash l hl => exact ⟨hlt, fun cb hcb => hne cb (hl.mem_iff.1 hcb)⟩

theorem absent_deregister {r : Registry} {id : Nat} (h : r.entries.any (·.id = id) = true) :
    Absent (r.deregister id) id := by
  obtain ⟨cb, hcb, hid⟩ := List.any_eq_true.1 h
  have heq : cb.id = id := of_decide_eq_true hid
  refine ⟨heq ▸ r.below cb hcb, fun cb' hcb' => ?_⟩
  exact of_decide_eq_true (List.mem_filter.1 hcb').2

theorem absent_clear {r : Registry} {id : Nat} (h : id ∈ r.entries.map (·.id)) : Absent r.clear id := by
  obtain ⟨cb, hcb, rfl⟩ := List.mem_map.1 h
  exact ⟨r.below cb hcb, fun cb' hcb' => absurd hcb' List.not_mem_nil⟩

/-! ## What a step does -/

/-- What one step of the call `i`, from `pc` to `pc'`, changes and emits. -/
structure CallStep (s : State) (i : Nat) (pc : CallPc) (s' : State) (pc' : CallPc) (evs : List Event) : Prop where
  calls : s'.calls = s.calls.set i pc'
  edit : ∀ k, Edit (s.registry k) (s'.registry k)
  ahead : ∀ k id, pc'.ahead k id = true → pc.ahead k id = true ∨ ⟨id, true⟩ ∈ (s.registry k).entries
  absent : ∀ k ids, pc' = .removed k ids → ∀ id ∈ ids, Absent (s'.registry k) id
  invoked : ∀ k id, .invoked k id ∈ evs → pc.ahead k id = true
  removed : ∀ k ids, .removed k ids ∈ evs → pc = .removed k ids

theorem setRegistry_self (s : State) (k : Kind) (r : Registry) : (s.setRegistry k r).registry k = r :=
  Function.update_self ..

theorem setRegistry_edit {s : State} {k : Kind} {r : Registry} (h : Edit (s.registry k) r) (k' : Kind) :
    Edit (s.registry k') ((s.setRegistry k r).registry k') := by
  by_cases hk : k' = k
  · subst hk
    rw [setRegistry_self]
    exact h
  · have heq : (s.setRegistry k r).registry k' = s.registry k' := Function.update_of_ne hk ..
    rw [heq]
    exact .same

/-- A step that leaves the registries alone. -/
theorem CallStep.of_move {s : State} {i : Nat} {pc pc' : CallPc} {evs : List Event}
    (ha : ∀ k id, pc'.ahead k id = true → pc.ahead k id = true ∨ ⟨id, true⟩ ∈ (s.registry k).entries)
    (hr : ∀ k ids, pc' ≠ .removed k ids) (hi : ∀ k id, .invoked k id ∈ evs → pc.ahead k id = true)
    (he : ∀ k ids, .removed k ids ∈ evs → pc = .removed k ids) : CallStep s i pc (s.setCall i pc') pc' evs :=
  ⟨rfl, fun _ => .same, ha, fun k ids h => absurd h (hr k ids), hi, he⟩

theorem ahead_dispatch {k k' : Kind} {id : Nat} {rest : List Callback} :
    (CallPc.dispatch k' rest).ahead k id = true ↔ k' = k ∧ ⟨id, true⟩ ∈ rest := by
  simp only [CallPc.ahead, decide_eq_true_eq]

theorem ahead_inCallback {k k' : Kind} {id id' : Nat} {rest : List Callback} :
    (CallPc.inCallback k' id' rest).ahead k id = true ↔ k' = k ∧ ⟨id, true⟩ ∈ rest := by
  simp only [CallPc.ahead, decide_eq_true_eq]

theorem callStep_cases {s s' : State} {i : Nat} {pc : CallPc} {evs : List Event}
    (h : callStep s i pc = some (s', evs)) : ∃ pc', CallStep s i pc s' pc' evs := by
  cases pc with
  | loadGrabbing =>
    cases h
    refine ⟨_, .of_move ?_ ?_ (by simp) (by simp)⟩
    · intro k id ha
      split at ha <;> cases ha
    · intro k ids
      split <;> nofun
  | snapshot k =>
    cases h
    refine ⟨_, .of_move ?_ nofun (by simp) (by simp)⟩
    intro k' id ha
    obtain ⟨rfl, hm⟩ := ahead_dispatch.1 ha
    exact .inr hm
  | dispatch k rest =>
    rcases rest with _ | ⟨cb, rest⟩
    · cases h
      exact ⟨_, .of_move (by rintro _ _ ⟨⟩) nofun (by simp) (by simp)⟩
    · simp only [callStep] at h
      split at h <;> cases h
      · rename_i hc
        refine ⟨_, .of_move ?_ nofun ?_ (by simp)⟩
        · intro k' id ha
          obtain ⟨rfl, hm⟩ := ahead_inCallback.1 ha
          exact .inl (ahead_dispatch.2 ⟨rfl, List.mem_cons_of_mem _ hm⟩)
        · intro k' id hi
          cases List.mem_singleton.1 hi
          refine ahead_dispatch.2 ⟨rfl, ?_⟩
          rw [← hc]
          exact List.mem_cons_self ..
      · refine ⟨_, .of_move ?_ nofun (by simp) (by simp)⟩
        intro k' id ha
        obtain ⟨rfl, hm⟩ := ahead_dispatch.1 ha
        exact .inl (ahead_dispatch.2 ⟨rfl, List.mem_cons_of_mem _ hm⟩)
  | inCallback k id rest =>
    cases h
    refine ⟨_, .of_move ?_ nofun (by simp) (by simp)⟩
    intro k' id' ha
    exact .inl (ahead_inCallback.2 (ahead_dispatch.1 ha))
  | register k callable =>
    cases h
    exact ⟨_, rfl, setRegistry_edit (.register callable), (by rintro _ _ ⟨⟩), nofun, (by simp), (by simp)⟩
  | deregister k id =>
    cases h
    refine ⟨_, rfl, setRegistry_edit (.deregister id), ?_, ?_, by simp, by simp⟩
    · intro k' id' ha
      split at ha <;> cases ha
    · intro k' ids hpc
      split at hpc
      · rename_i hfound
        cases hpc
        intro id' hid
        cases List.mem_singleton.1 hid
        show Absent ((s.setRegistry k _).registry k) id
        rw [setRegistry_self]
        exact absent_deregister hfound
      · cases hpc
  | clear k =>
    cases h
    refine ⟨_, rfl, setRegistry_edit .clear, (by rintro _ _ ⟨⟩), ?_, by simp, by simp⟩
    intro k' ids hpc id hid
    cases hpc
    show Absent ((s.setRegistry k _).registry k) id
    rw [setRegistry_self]
    exact absent_clear hid
  | removed k ids =>
    cases h
    refine ⟨_, .of_move (by rintro _ _ ⟨⟩) nofun (by simp) ?_⟩
    intro k' ids' he
    cases List.mem_singleton.1 he
    rfl
  | returned => cases h

/-- A step of a call, or one that leaves the calls in progress alone. -/
theorem step_cases {s s' : State} {a : Action} {evs : List Event} (h : step s a = some (s', evs)) :
    (∃ i pc pc', a = .step i ∧ s.calls[i]? = some pc ∧ CallStep s i pc s' pc' evs) ∨
      evs = [] ∧ (∀ k, Edit (s.registry k) (s'.registry k)) ∧
        (s'.calls = s.calls ∨ ∃ c, s'.calls = s.calls ++ [enter c]) := by
  cases a with
  | call c =>
    cases h
    exact .inr ⟨rfl, fun _ => .same, .inr ⟨c, rfl⟩⟩
  | step i =>
    simp only [step] at h
    split at h
    · cases h
    · rename_i pc hpc
      obtain ⟨pc', hstep⟩ := callStep_cases h
      exact .inl ⟨i, pc, pc', rfl, hpc, hstep⟩
  | grabbing on =>
    cases h
    exact .inr ⟨rfl, fun _ => .same, .inl rfl⟩
  | rehash k l =>
    simp only [step] at h
    split at h
    · rename_i hl
      cases h
      exact .inr ⟨rfl, setRegistry_edit (.rehash l hl), .inl rfl⟩
    · cases h

theorem ahead_enter (c : Call) (k : Kind) (id : Nat) : (enter c).ahead k id = false := by cases c <;> rfl

theorem enter_ne_removed (c : Call) (k : Kind) (ids : List Nat) : enter c ≠ .removed k ids := by
  cases c <;> nofun

theorem step_edit {s s' : State} {a : Action} {evs : List Event} (h : step s a = some (s', evs)) (k : Kind) :
    Edit (s.registry k) (s'.registry k) := by
  obtain ⟨i, pc, pc', -, -, hc⟩ | ⟨-, he, -⟩ := step_cases h
  · exact hc.edit k
  · exact he k

/-- Only a dispatch that copies a registered callback gets it ahead. -/
theorem step_ahead {s s' : State} {a : Action} {evs : List Event} (h : step s a = some (s', evs)) {k : Kind} {id : Nat}
    (ha : s'.ahead k id) : s.ahead k id ∨ ⟨id, true⟩ ∈ (s.registry k).entries := by
  obtain ⟨q, hq, ha⟩ := ha
  obtain ⟨i, pc, pc', -, hpc, hc⟩ | ⟨-, -, hcalls | ⟨c, hcalls⟩⟩ := step_cases h
  · rw [hc.calls] at hq
    rcases List.mem_or_eq_of_mem_set hq with hq | rfl
    · exact .inl ⟨q, hq, ha⟩
    · exact (hc.ahead k id ha).imp_left fun ha => ⟨pc, List.mem_of_getElem? hpc, ha⟩
  · rw [hcalls] at hq
    exact .inl ⟨q, hq, ha⟩
  · rw [hcalls] at hq
    rcases List.mem_append.1 hq with hq | hq
    · exact .inl ⟨q, hq, ha⟩
    · rw [List.mem_singleton.1 hq, ahead_enter] at ha
      cases ha

/-- A callback is called only by a dispatch that has it ahead. -/
theorem step_invoked {s s' : State} {a : Action} {evs : List Event}
    (h : step s a = some (s', evs)) {k : Kind} {id : Nat}
    (hi : .invoked k id ∈ evs) : s.ahead k id := by
  obtain ⟨i, pc, pc', -, hpc, hc⟩ | ⟨rfl, -, -⟩ := step_cases h
  · exact ⟨pc, List.mem_of_getElem? hpc, hc.invoked k id hi⟩
  · cases hi

/-! ## Removed callbacks -/

/-- What a removal that is about to return has removed. -/
def returning (s : State) : Action → Option (Kind × List Nat)
  | .step i => match s.calls[i]? with
    | some (.removed k ids) => some (k, ids)
    | _ => none
  | _ => none

/-- A removal returns only when no dispatch in progress has a removed callback ahead. -/
def Drained (s : State) (a : Action) : Prop := ∀ p ∈ returning s a, ∀ id ∈ p.2, ¬ s.ahead p.1 id

instance (s : State) (a : Action) : Decidable (Drained s a) := by unfold Drained; infer_instance

theorem returning_eq_some {s : State} {a : Action} {k : Kind} {ids : List Nat} (h : returning s a = some (k, ids)) :
    ∃ i, a = .step i ∧ s.calls[i]? = some (.removed k ids) := by
  cases a with
  | step i =>
    refine ⟨i, rfl, ?_⟩
    simp only [returning] at h
    split at h
    · rename_i hpc
      cases h
      exact hpc
    · cases h
  | _ => cases h

theorem step_removed {s s' : State} {a : Action} {evs : List Event} (h : step s a = some (s', evs)) {k : Kind}
    {ids : List Nat} (hr : .removed k ids ∈ evs) : returning s a = some (k, ids) ∧ .removed k ids ∈ s.calls := by
  obtain ⟨i, pc, pc', rfl, hpc, hc⟩ | ⟨rfl, -, -⟩ := step_cases h
  · cases hc.removed k ids hr
    refine ⟨?_, List.mem_of_getElem? hpc⟩
    simp only [returning, hpc]
  · cases hr

/-- The callbacks of a removal in progress are no longer registered. -/
def Inv (s : State) : Prop := ∀ k ids, .removed k ids ∈ s.calls → ∀ id ∈ ids, Absent (s.registry k) id

theorem inv_step {s s' : State} {a : Action} {evs : List Event} (hI : Inv s) (h : step s a = some (s', evs)) :
    Inv s' := by
  intro k ids hm id hid
  have hold : .removed k ids ∈ s.calls → Absent (s'.registry k) id :=
    fun hm => (hI k ids hm id hid).edit (step_edit h k)
  obtain ⟨i, pc, pc', -, -, hc⟩ | ⟨-, -, hcalls | ⟨c, hcalls⟩⟩ := step_cases h
  · rw [hc.calls] at hm
    rcases List.mem_or_eq_of_mem_set hm with hm | hm
    · exact hold hm
    · exact hc.absent k ids hm.symm id hid
  · rw [hcalls] at hm
    exact hold hm
  · rw [hcalls] at hm
    rcases List.mem_append.1 hm with hm | hm
    · exact hold hm
    · exact absurd (List.mem_singleton.1 hm).symm (enter_ne_removed c k ids)

/-- The callback is not registered, and no dispatch has it ahead. -/
structure Gone (s : State) (k : Kind) (id : Nat) : Prop where
  absent : Absent (s.registry k) id
  notAhead : ¬ s.ahead k id

theorem gone_step {s s' : State} {a : Action} {evs : List Event} {k : Kind} {id : Nat} (hg : Gone s k id)
    (h : step s a = some (s', evs)) : Gone s' k id ∧ .invoked k id ∉ evs := by
  refine ⟨⟨hg.absent.edit (step_edit h k), fun ha => ?_⟩, fun hi => hg.notAhead (step_invoked h hi)⟩
  rcases step_ahead h ha with ha | hm
  · exact hg.notAhead ha
  · exact hg.absent.2 _ hm rfl

/-! ## Runs -/

/-- The removal of this callback has returned. -/
def Removed (tr : List Event) (k : Kind) (id : Nat) : Prop := ∃ ids, .removed k ids ∈ tr ∧ id ∈ ids

/-- No callback is called after its removal has returned. -/
def Silent (tr : List Event) : Prop :=
  ∀ pre post, tr = pre ++ post → ∀ k id, Removed pre k id → .invoked k id ∉ post

theorem silent_append {tr evs : List Event} (h : Silent tr) (he : Silent evs)
    (hnew : ∀ k id, Removed tr k id → .invoked k id ∉ evs) : Silent (tr ++ evs) := by
  intro pre post heq k id hr hi
  rcases List.append_eq_append_iff.1 heq with ⟨mid, rfl, rfl⟩ | ⟨mid, rfl, rfl⟩
  · obtain ⟨ids, hm, hid⟩ := hr
    rcases List.mem_append.1 hm with hm | hm
    · exact hnew k id ⟨ids, hm, hid⟩ (List.mem_append_right _ hi)
    · exact he mid post rfl k id ⟨ids, hm, hid⟩ hi
  · rcases List.mem_append.1 hi with hi | hi
    · exact h pre mid rfl k id hr hi
    · obtain ⟨ids, hm, hid⟩ := hr
      exact hnew k id ⟨ids, List.mem_append_left _ hm, hid⟩ hi

/-- One step removes or calls, not both. -/
theorem silent_step {s s' : State} {a : Action} {evs : List Event} (h : step s a = some (s', evs)) : Silent evs := by
  rintro pre post rfl k id ⟨ids, hm, hid⟩ hi
  obtain ⟨hret, -⟩ := step_removed h (List.mem_append_left _ hm)
  obtain ⟨i, pc, pc', rfl, hpc, hc⟩ | ⟨he, -, -⟩ := step_cases h
  · have hahead := hc.invoked k id (List.mem_append_right _ hi)
    cases hc.removed k ids (List.mem_append_left _ hm)
    cases hahead
  · obtain ⟨rfl, -⟩ := List.append_eq_nil_iff.1 he
    cases hm

/-- When every removal returns with its callbacks out of every dispatch in progress, no callback of
either registry is called after its removal has returned. -/
theorem removed_silent {tr : List Event} {s : State} (h : Run step Drained init tr s) : Silent tr := by
  suffices hI : Inv s ∧ Silent tr ∧ ∀ k id, Removed tr k id → Gone s k id from hI.2.1
  refine h.invariant (I := fun tr s => Inv s ∧ Silent tr ∧ ∀ k id, Removed tr k id → Gone s k id) ?_ ?_
  · refine ⟨nofun, ?_, by rintro k id ⟨ids, ⟨⟩, -⟩⟩
    intro pre post heq k id hr hi
    rw [(List.append_eq_nil_iff.1 heq.symm).2] at hi
    cases hi
  · rintro tr s a s' evs ⟨hI, hS, hG⟩ hok hstep
    have hgone := fun k id hr => gone_step (hG k id hr) hstep
    refine ⟨inv_step hI hstep, silent_append hS (silent_step hstep) fun k id hr => (hgone k id hr).2, ?_⟩
    rintro k id ⟨ids, hm, hid⟩
    rcases List.mem_append.1 hm with hm | hm
    · exact (hgone k id ⟨ids, hm, hid⟩).1
    · -- the removal returns in this step, with no dispatch left that has the callback ahead
      obtain ⟨hret, hcall⟩ := step_removed hstep hm
      exact (gone_step ⟨hI k ids hcall id hid, hok (k, ids) hret id hid⟩ hstep).1

/-- A callback removed while no dispatch has it ahead, with one dispatch still in progress. -/
theorem removed_silent_drained : ∃ tr s, Run step Drained init tr s ∧
    tr = [.registered .statusObservers 1, .invoked .statusObservers 1, .removed .statusObservers [1]] ∧ Silent tr := by
  obtain ⟨tr, s, h, htr⟩ : ∃ tr s, Run step Drained init tr s ∧
      tr = [.registered .statusObservers 1, .invoked .statusObservers 1, .removed .statusObservers [1]] :=
    ⟨_, _, exec_get step Drained
      (registerMoves ++ notifyMoves ++ [.call (.deregister .statusObservers 1), .step 2, .step 2])
      init rfl, by decide⟩
  exact ⟨tr, s, h, htr, removed_silent h⟩

/-- The removal may return between the copy and the call. -/
theorem not_removed_silent : ¬ ∀ tr s, Run step anyStep init tr s → Silent tr := by
  intro h
  obtain ⟨tr, s, hrun, htr⟩ : ∃ tr s, Run step anyStep init tr s ∧
      tr = [.registered .statusObservers 1, .removed .statusObservers [1]] ++ [.invoked .statusObservers 1] :=
    ⟨_, _, exec_get step anyStep
      (registerMoves ++ [.call .notifyStatus, .step 1, .call (.deregister .statusObservers 1),
      .step 2, .step 2, .step 1]) init rfl, by decide⟩
  exact h tr s hrun _ _ htr .statusObservers 1 ⟨[1], by decide, by decide⟩ (by decide)

/-! ## The condition is exact -/

theorem drained_of_dispatch {s : State} {i : Nat} {pc : CallPc} (hpc : s.calls[i]? = some pc)
    (h : ∀ k ids, pc ≠ .removed k ids) : Drained s (.step i) := by
  intro p hp
  simp only [returning, hpc] at hp
  cases pc with
  | removed k ids => exact absurd rfl (h k ids)
  | _ => cases hp

theorem setCall_get {s : State} {i : Nat} {pc : CallPc} (hpc : s.calls[i]? = some pc) (pc' : CallPc) :
    (s.setCall i pc').calls[i]? = some pc' :=
  List.getElem?_set_self (List.getElem?_eq_some_iff.1 hpc).1

/-- A dispatch can go on to call every callback it has ahead. -/
theorem dispatch_invokes (k : Kind) (id i : Nat) : ∀ (rest : List Callback) (s : State),
    s.calls[i]? = some (.dispatch k rest) → ⟨id, true⟩ ∈ rest →
      ∃ tr s', Run step Drained s tr s' ∧ .invoked k id ∈ tr
  | [], _, _, hm => absurd hm List.not_mem_nil
  | cb :: rest, s, hpc, hm => by
    have hset := setCall_get hpc
    have hstep : step s (.step i) = callStep s i (.dispatch k (cb :: rest)) := by simp only [step, hpc]
    have hdrained := drained_of_dispatch hpc nofun
    cases hc : cb.callable with
    | false =>
      have hrest : ⟨id, true⟩ ∈ rest := by
        rcases List.mem_cons.1 hm with rfl | hm
        · cases hc
        · exact hm
      have hfirst : Run step Drained s [] (s.setCall i (.dispatch k rest)) :=
        .snoc .start hdrained (by rw [hstep]; simp only [callStep, hc, Bool.false_eq_true, if_false])
      obtain ⟨tr, s', hrun, hi⟩ := dispatch_invokes k id i rest _ (hset _) hrest
      exact ⟨_, s', hfirst.append hrun, hi⟩
    | true =>
      have hfirst : Run step Drained s [.invoked k cb.id] (s.setCall i (.inCallback k cb.id rest)) :=
        .snoc .start hdrained (by rw [hstep]; simp only [callStep, hc, if_true])
      rcases List.mem_cons.1 hm with rfl | hm
      · exact ⟨_, _, hfirst, List.mem_singleton_self _⟩
      · -- the callback called first ends, and the dispatch goes on
        have hsecond : Run step Drained s [.invoked k cb.id] (s.setCall i (.dispatch k rest)) := by
          have hnext : step (s.setCall i (.inCallback k cb.id rest)) (.step i) =
              some (s.setCall i (.dispatch k rest), []) := by
            simp only [step, hset]
            simp only [callStep, State.setCall, List.set_set]
          exact .snoc hfirst (drained_of_dispatch (hset _) nofun) hnext
        obtain ⟨tr, s', hrun, hi⟩ := dispatch_invokes k id i rest _ (hset _) hm
        exact ⟨_, s', hsecond.append hrun, List.mem_append_right _ hi⟩

theorem ahead_invokes {s : State} {k : Kind} {id i : Nat} {pc : CallPc} (hpc : s.calls[i]? = some pc)
    (ha : pc.ahead k id = true) : ∃ tr s', Run step Drained s tr s' ∧ .invoked k id ∈ tr := by
  cases pc with
  | dispatch k' rest =>
    obtain ⟨rfl, hm⟩ := ahead_dispatch.1 ha
    exact dispatch_invokes k' id i rest s hpc hm
  | inCallback k' id' rest =>
    obtain ⟨rfl, hm⟩ := ahead_inCallback.1 ha
    have hfirst : Run step Drained s [] (s.setCall i (.dispatch k' rest)) := by
      refine .snoc .start (drained_of_dispatch hpc nofun) ?_
      simp only [step, hpc, callStep]
    obtain ⟨tr, s', hrun, hi⟩ := dispatch_invokes k' id i rest _ (setCall_get hpc _) hm
    exact ⟨_, s', hfirst.append hrun, hi⟩
  | _ => cases ha

/-- After a removal that returns too early, the removed callback can be called. -/
theorem undrained_not_silent {s s' : State} {a : Action} {evs : List Event} (h : step s a = some (s', evs))
    (hd : ¬ Drained s a) : ∃ tr s'', Run step Drained s' tr s'' ∧ ¬ Silent (evs ++ tr) := by
  obtain ⟨⟨k, ids⟩, hret, id, hid, q, hq, ha⟩ : ∃ p ∈ returning s a, ∃ id ∈ p.2, s.ahead p.1 id := by
    by_contra hno
    exact hd fun p hp id hid ha => hno ⟨p, hp, id, hid, ha⟩
  obtain ⟨i, rfl, hpc⟩ := returning_eq_some hret
  simp only [step, hpc, callStep, Option.some.injEq, Prod.mk.injEq] at h
  obtain ⟨rfl, rfl⟩ := h
  obtain ⟨j, hj⟩ := List.mem_iff_getElem?.1 hq
  have hij : i ≠ j := by
    rintro rfl
    rw [hpc] at hj
    cases hj
    cases ha
  have hj' : (s.setCall i .returned).calls[j]? = some q := (List.getElem?_set_ne hij).trans hj
  obtain ⟨tr, s'', hrun, hi⟩ := ahead_invokes hj' ha
  exact ⟨tr, s'', hrun, fun hS => hS _ tr rfl k id ⟨ids, List.mem_singleton_self _, hid⟩ hi⟩

end Gocator.Callbacks
