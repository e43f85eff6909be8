/-
Runs of a machine given by a partial step function: a step takes a state and an action to the
successor state and the events it emits, or is not enabled. A run may be restricted to steps that
satisfy a condition on the state before the step and the action; every invariant is proven by one
induction, over the run together with the events emitted so far. Two machines that answer every action
alike are compared on a list of actions. A machine whose actions pay for the work they start can do
only so many steps.
-/
import Mathlib.Algebra.GroupWithZero.Nat
import Mathlib.Data.List.Basic

namespace Transition

variable {σ α ε : Type}

/-- A run from `s₀` whose steps all satisfy `ok`: the events emitted, oldest first, and the state
reached. -/
inductive Run (step : σ → α → Option (σ × List ε)) (ok : σ → α → Prop) (s₀ : σ) : List ε → σ → Prop
  | start : Run step ok s₀ [] s₀
  | snoc {tr : List ε} {s s' : σ} {a : α} {evs : List ε} :
      Run step ok s₀ tr s → ok s a → step s a = some (s', evs) → Run step ok s₀ (tr ++ evs) s'

/-- Every step is allowed. -/
def anyStep : σ → α → Prop := fun _ _ => True

instance (s : σ) (a : α) : Decidable (anyStep s a) := inferInstanceAs (Decidable True)

section

variable {step : σ → α → Option (σ × List ε)} {ok : σ → α → Prop} {s₀ : σ}

/-- What holds at the start and is preserved by every allowed step holds at the end of a run. -/
theorem Run.invariant {I : List ε → σ → Prop} (h0 : I [] s₀)
    (hs : ∀ tr s a s' evs, I tr s → ok s a → step s a = some (s', evs) → I (tr ++ evs) s')
    {tr : List ε} {s : σ} (h : Run step ok s₀ tr s) : I tr s := by
  induction h with
  | start => exact h0
  | snoc _ hok hstep ih => exact hs _ _ _ _ _ ih hok hstep

theorem Run.mono {ok' : σ → α → Prop} (hok : ∀ s a, ok s a → ok' s a) {tr : List ε} {s : σ}
    (h : Run step ok s₀ tr s) : Run step ok' s₀ tr s := by
  induction h with
  | start => exact .start
  | snoc _ ha hstep ih => exact .snoc ih (hok _ _ ha) hstep

theorem Run.any {tr : List ε} {s : σ} (h : Run step ok s₀ tr s) : Run step anyStep s₀ tr s :=
  h.mono fun _ _ _ => trivial

theorem Run.append {s s' : σ} {tr tr' : List ε} (h : Run step ok s₀ tr s) (h' : Run step ok s tr' s') :
    Run step ok s₀ (tr ++ tr') s' := by
  induction h' with
  | start => simpa using h
  | snoc _ hok hstep ih =>
    rw [← List.append_assoc]
    exact .snoc ih hok hstep

end

/-! ## Executing a list of actions -/

variable (step : σ → α → Option (σ × List ε)) (ok : σ → α → Prop) [∀ s a, Decidable (ok s a)]

/-- The state and the events after a list of actions, each allowed and enabled in its turn. -/
def exec : List α → σ → Option (σ × List ε)
  | [], s => some (s, [])
  | a :: as, s =>
    if ok s a then
      match step s a with
      | none => none
      | some (s', evs) => (exec as s').map fun r => (r.1, evs ++ r.2)
    else none

theorem exec_run : ∀ (as : List α) (s s' : σ) (tr : List ε), exec step ok as s = some (s', tr) →
    Run step ok s tr s'
  | [], s, s', tr, h => by
    simp only [exec, Option.some.injEq, Prod.mk.injEq] at h
    obtain ⟨rfl, rfl⟩ := h
    exact .start
  | a :: as, s, s', tr, h => by
    unfold exec at h
    split at h
    · rename_i hok
      split at h
      · cases h
      · rename_i s₁ evs hstep
        obtain ⟨⟨s₂, tr₂⟩, hrest, hp⟩ := Option.map_eq_some_iff.1 h
        simp only [Prod.mk.injEq] at hp
        obtain ⟨rfl, rfl⟩ := hp
        have hfirst : Run step ok s evs s₁ := by simpa using Run.snoc .start hok hstep
        exact hfirst.append (exec_run as s₁ s₂ tr₂ hrest)
    · cases h

/-- A list of actions that executes gives a run. -/
theorem exec_get (as : List α) (s : σ) (h : (exec step ok as s).isSome = true) :
    Run step ok s ((exec step ok as s).get h).2 ((exec step ok as s).get h).1 :=
  exec_run step ok as s _ _ (Option.some_get h).symm

/-! ## Steps that are paid for -/

/-- If every step lowers the potential by one, up to what its action pays in, then a list of actions that
executes is no longer than the potential it started with and what its actions paid. -/
theorem length_le_of_potential {potential : σ → Nat} {pays : α → Nat}
    (hs : ∀ s a s' evs, ok s a → step s a = some (s', evs) → potential s' + 1 ≤ potential s + pays a) :
    ∀ (as : List α) (s s' : σ) (tr : List ε), exec step ok as s = some (s', tr) →
      potential s' + as.length ≤ potential s + (as.map pays).sum
  | [], s, s', tr, h => by
    simp only [exec, Option.some.injEq, Prod.mk.injEq] at h
    rw [h.1]
    simp
  | a :: as, s, s', tr, h => by
    unfold exec at h
    split at h
    · rename_i hok
      split at h
      · cases h
      · rename_i s₁ evs hstep
        obtain ⟨⟨s₂, tr₂⟩, hrest, hp⟩ := Option.map_eq_some_iff.1 h
        simp only [Prod.mk.injEq] at hp
        obtain ⟨rfl, -⟩ := hp
        have hfirst := hs s a s₁ evs hok hstep
        have ih := length_le_of_potential hs as s₁ s₂ tr₂ hrest
        rw [List.length_cons, List.map_cons, List.sum_cons]
        omega
    · cases h

/-! ## Two machines on the same actions -/

section

variable {τ β : Type} {R : σ → τ → Prop}

theorem rel_bind {x : Option σ} {y : Option τ} {f : σ → Option σ} {g : τ → Option τ} (h : Option.Rel R x y)
    (hs : ∀ s t, R s t → Option.Rel R (f s) (g t)) : Option.Rel R (x.bind f) (y.bind g) := by
  cases h with
  | none => exact .none
  | some h' => exact hs _ _ h'

/-- If related states take every action of a list to related states, or both refuse it, so they do the list. -/
theorem foldlM_rel {f : σ → α → Option σ} {g : τ → α → Option τ} {as : List α}
    (hs : ∀ a ∈ as, ∀ s t, R s t → Option.Rel R (f s a) (g t a)) {s : σ} {t : τ} (h : R s t) :
    Option.Rel R (as.foldlM f s) (as.foldlM g t) := by
  induction as generalizing s t with
  | nil => exact .some h
  | cons a as ih =>
    have hfirst := hs a List.mem_cons_self s t h
    rw [List.foldlM_cons, List.foldlM_cons]
    exact rel_bind hfirst fun _ _ h' => ih (fun b hb => hs b (List.mem_cons_of_mem _ hb)) h'

/-- An observation that related states agree on. -/
theorem map_eq_of_rel {x : Option σ} {y : Option τ} {f : σ → β} {g : τ → β} (h : Option.Rel R x y)
    (ho : ∀ s t, R s t → f s = g t) : x.map f = y.map g := by
  cases h with
  | none => rfl
  | some h' => exact congrArg some (ho _ _ h')

end

end Transition
