/-
Programs that may throw and keep their state when they do, by what every exit leaves: a relation from
the state before to the state after that holds of each part of a program, however the part ends, holds
of the whole. A program run again and again until it throws or its value is accepted ends after the first
such run.
-/
import Mathlib.Data.Nat.Find
import Mathlib.Order.Defs.Unbundled

namespace Exits

variable {ε σ α β : Type}

/-- The state at the end, by return or by exception. -/
def final : EStateM.Result ε σ α → σ
  | .ok _ s => s
  | .error _ s => s

@[simp] theorem final_ok (a : α) (s : σ) : final (.ok a s : EStateM.Result ε σ α) = s := rfl

@[simp] theorem final_error (e : ε) (s : σ) : final (.error e s : EStateM.Result ε σ α) = s := rfl

/-! ## Runs of compound programs -/

theorem bind_ok {x : EStateM ε σ α} {f : α → EStateM ε σ β} {a : α} {s s' : σ} (h : x s = .ok a s') :
    (x >>= f) s = f a s' := by
  simp only [bind, EStateM.bind, h]

theorem bind_error {x : EStateM ε σ α} {f : α → EStateM ε σ β} {e : ε} {s s' : σ} (h : x s = .error e s') :
    (x >>= f) s = .error e s' := by
  simp only [bind, EStateM.bind, h]

theorem tryCatch_ok {x : EStateM ε σ α} {handler : ε → EStateM ε σ α} {a : α} {s s' : σ} (h : x s = .ok a s') :
    tryCatch x handler s = .ok a s' := by
  simp only [tryCatch, tryCatchThe, MonadExceptOf.tryCatch, EStateM.tryCatch, h]

theorem tryCatch_error {x : EStateM ε σ α} {handler : ε → EStateM ε σ α} {e : ε} {s s' : σ}
    (h : x s = .error e s') : tryCatch x handler s = handler e s' := by
  simp only [tryCatch, tryCatchThe, MonadExceptOf.tryCatch, EStateM.tryCatch, h]
  rfl

/-- The answer at the end, without the state. -/
def answer : EStateM.Result ε σ α → Except ε α
  | .ok a _ => .ok a
  | .error e _ => .error e

/-- An answer together with a state. -/
def withState (s : σ) : Except ε α → EStateM.Result ε σ α
  | .ok a => .ok a s
  | .error e => .error e s

@[simp] theorem final_withState (s : σ) (r : Except ε α) : final (withState s r) = s := by
  cases r <;> rfl

@[simp] theorem answer_withState (s : σ) (r : Except ε α) : answer (withState s r) = r := by
  cases r <;> rfl

theorem withState_final (r : EStateM.Result ε σ α) : withState (final r) (answer r) = r := by
  cases r <;> rfl

/-! ## Relations that every exit keeps -/

/-- However the program ends, the state it leaves is related to the one it started from. -/
def Keeps (Q : σ → σ → Prop) (x : EStateM ε σ α) : Prop := ∀ s, Q s (final (x s))

variable {Q : σ → σ → Prop}

theorem Keeps.of_ok {x : EStateM ε σ α} (hx : Keeps Q x) {a : α} {s s' : σ} (h : x s = .ok a s') : Q s s' := by
  have := hx s
  rwa [h] at this

theorem Keeps.of_error {x : EStateM ε σ α} (hx : Keeps Q x) {e : ε} {s s' : σ} (h : x s = .error e s') : Q s s' := by
  have := hx s
  rwa [h] at this

section

variable [Std.Refl Q]

theorem Keeps.pure (a : α) : Keeps Q (pure a : EStateM ε σ α) := fun s => Std.Refl.refl s

theorem Keeps.throw (e : ε) : Keeps Q (throw e : EStateM ε σ α) := fun s => Std.Refl.refl s

theorem Keeps.get : Keeps Q (get : EStateM ε σ σ) := fun s => Std.Refl.refl s

end

section

variable [IsTrans σ Q]

theorem Keeps.bind {x : EStateM ε σ α} {f : α → EStateM ε σ β} (hx : Keeps Q x) (hf : ∀ a, Keeps Q (f a)) :
    Keeps Q (x >>= f) := by
  intro s
  cases h : x s with
  | ok a s' =>
    rw [bind_ok h]
    exact IsTrans.trans _ _ _ (hx.of_ok h) (hf a s')
  | error e s' =>
    rw [bind_error h]
    exact hx.of_error h

end

section

variable [IsTrans σ Q]

theorem Keeps.tryCatch {x : EStateM ε σ α} {handler : ε → EStateM ε σ α} (hx : Keeps Q x)
    (hhandler : ∀ e, Keeps Q (handler e)) : Keeps Q (tryCatch x handler) := by
  intro s
  cases h : x s with
  | ok a s' =>
    rw [tryCatch_ok h]
    exact hx.of_ok h
  | error e s' =>
    rw [tryCatch_error h]
    exact IsTrans.trans _ _ _ (hx.of_error h) (hhandler e s')

end

theorem Keeps.ite {p : Prop} [Decidable p] {x y : EStateM ε σ α} (hx : Keeps Q x) (hy : Keeps Q y) :
    Keeps Q (if p then x else y) := by
  split
  · exact hx
  · exact hy

/-! ## Rounds of one program -/

section

variable (x : EStateM ε σ α) (accept : α → Bool)

/-- The state after `n` runs in a row, whatever they answer. -/
def rounds (s : σ) : Nat → σ
  | 0 => s
  | n + 1 => rounds (final (x s)) n

/-- What run number `n` answers, counted from 0. -/
def outcome (s : σ) (n : Nat) : Except ε α := answer (x (rounds x s n))

/-- An answer that ends a series of runs: an exception, or a value that is accepted. -/
def decisive : Except ε α → Bool
  | .ok a => accept a
  | .error _ => true

/-- Run at most `n` times, until a value is accepted; `last` is the value before. -/
def untilAccepted : Nat → α → EStateM ε σ α
  | 0, last => pure last
  | n + 1, _ => do
    let a ← x
    if accept a then return a else untilAccepted n a

end

section

variable {x : EStateM ε σ α} {accept : α → Bool}

theorem rounds_succ (s : σ) (n : Nat) : rounds x s (n + 1) = final (x (rounds x s n)) := by
  induction n generalizing s with
  | zero => rfl
  | succ n ih => exact ih (final (x s))

theorem Keeps.rounds [Std.Refl Q] [IsTrans σ Q] (hx : Keeps Q x) (s : σ) (n : Nat) : Q s (rounds x s n) := by
  induction n with
  | zero => exact Std.Refl.refl s
  | succ n ih =>
    rw [rounds_succ]
    exact IsTrans.trans _ _ _ ih (hx _)

theorem Keeps.untilAccepted [Std.Refl Q] [IsTrans σ Q] (hx : Keeps Q x) (n : Nat) (last : α) :
    Keeps Q (untilAccepted x accept n last) := by
  induction n generalizing last with
  | zero => exact .pure last
  | succ n ih => exact .bind hx fun a => .ite (.pure a) (ih a)

theorem untilAccepted_of_decisive {s : σ} (h : decisive accept (answer (x s)) = true) (n : Nat) (last : α) :
    untilAccepted x accept (n + 1) last s = x s := by
  unfold untilAccepted
  cases hx : x s with
  | ok a s' =>
    rw [hx] at h
    have ha : accept a = true := h
    rw [bind_ok hx, if_pos ha]
    rfl
  | error e s' => exact bind_error hx

theorem untilAccepted_of_not_decisive {s : σ} (h : decisive accept (answer (x s)) = false) (n : Nat) (last : α) :
    ∃ a, answer (x s) = .ok a ∧ untilAccepted x accept (n + 1) last s = untilAccepted x accept n a (final (x s)) := by
  unfold untilAccepted
  cases hx : x s with
  | ok a s' =>
    rw [hx] at h
    have ha : ¬accept a = true := Bool.eq_false_iff.1 h
    refine ⟨a, rfl, ?_⟩
    rw [bind_ok hx, if_neg ha]
    cases n <;> rfl
  | error e s' =>
    rw [hx] at h
    cases h

/-- The series ends after run `k` when it is the first decisive one, or the last one. -/
theorem untilAccepted_eq {n k : Nat} (hk : k < n) {s : σ} (last : α)
    (hbefore : ∀ i < k, decisive accept (outcome x s i) = false)
    (hend : decisive accept (outcome x s k) = true ∨ k + 1 = n) :
    untilAccepted x accept n last s = withState (rounds x s (k + 1)) (outcome x s k) := by
  induction k generalizing n s last with
  | zero =>
    obtain ⟨n, rfl⟩ : ∃ m, n = m + 1 := ⟨n - 1, by omega⟩
    show _ = withState (final (x s)) (answer (x s))
    rw [withState_final]
    cases hd : decisive accept (answer (x s)) with
    | true => exact untilAccepted_of_decisive hd n last
    | false =>
      -- no run is left, so the value is returned although it is not accepted
      have hn : n = 0 := by
        rcases hend with h | h
        · rw [show outcome x s 0 = answer (x s) from rfl, hd] at h
          cases h
        · omega
      obtain ⟨a, ha, hrun⟩ := untilAccepted_of_not_decisive hd n last
      rw [hrun, hn]
      show withState (final (x s)) (.ok a) = _
      rw [← ha, withState_final]
  | succ k ih =>
    obtain ⟨n, rfl⟩ : ∃ m, n = m + 1 := ⟨n - 1, by omega⟩
    have hfirst : decisive accept (answer (x s)) = false := hbefore 0 (by omega)
    obtain ⟨a, -, hrun⟩ := untilAccepted_of_not_decisive hfirst n last
    rw [hrun]
    apply ih (by omega)
    · intro i hi
      exact hbefore (i + 1) (by omega)
    · rcases hend with h | h
      · exact .inl h
      · exact .inr (by omega)

end

end Exits
