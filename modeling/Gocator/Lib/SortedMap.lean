/-
Maps as lists of entries in strictly increasing key order. Looking up, setting and erasing need no
sortedness for their laws; sortedness makes the representation canonical, so that two sorted lists
with the same lookups are equal.
-/
import Mathlib.Data.List.Pairwise
import Mathlib.Order.Defs.LinearOrder
import Mathlib.Order.Lattice

namespace SortedMap

variable {κ β : Type} [LinearOrder κ]

def get? (k : κ) : List (κ × β) → Option β
  | [] => none
  | (k', v) :: l => if k = k' then some v else get? k l

/-- Set a key, in place or before the first larger one. -/
def set (k : κ) (v : β) : List (κ × β) → List (κ × β)
  | [] => [(k, v)]
  | (k', v') :: l =>
    if k < k' then (k, v) :: (k', v') :: l
    else if k = k' then (k, v) :: l
    else (k', v') :: set k v l

def erase (k : κ) (l : List (κ × β)) : List (κ × β) := l.filter (·.1 ≠ k)

/-- The keys ascend, so no key is there twice. -/
def Sorted (l : List (κ × β)) : Prop := l.Pairwise (·.1 < ·.1)

theorem sorted_nil : Sorted ([] : List (κ × β)) := List.Pairwise.nil

theorem set_nil (k : κ) (v : β) : set k v [] = [(k, v)] := rfl

theorem set_cons_of_lt {k k' : κ} (h : k < k') (v v' : β) (l : List (κ × β)) :
    set k v ((k', v') :: l) = (k, v) :: (k', v') :: l :=
  if_pos h

theorem set_cons_of_gt {k k' : κ} (h : k' < k) (v v' : β) (l : List (κ × β)) :
    set k v ((k', v') :: l) = (k', v') :: set k v l := by
  rw [set, if_neg h.asymm, if_neg h.ne']

/-! ## Lookups -/

@[simp] theorem get?_nil (k : κ) : get? k ([] : List (κ × β)) = none := rfl

@[simp] theorem get?_cons_self (k : κ) (v : β) (l : List (κ × β)) : get? k ((k, v) :: l) = some v := if_pos rfl

theorem get?_cons_of_ne {k k' : κ} (h : k ≠ k') (v : β) (l : List (κ × β)) : get? k ((k', v) :: l) = get? k l :=
  if_neg h

@[simp] theorem get?_set_self (k : κ) (v : β) : ∀ l : List (κ × β), get? k (set k v l) = some v
  | [] => get?_cons_self k v []
  | (k', v') :: l => by
    unfold set
    split
    · exact get?_cons_self ..
    · split
      · exact get?_cons_self ..
      · rename_i hne
        rw [get?_cons_of_ne hne]
        exact get?_set_self k v l

theorem get?_set_of_ne {k k' : κ} (h : k' ≠ k) (v : β) : ∀ l : List (κ × β), get? k' (set k v l) = get? k' l
  | [] => get?_cons_of_ne h v []
  | (k₁, v₁) :: l => by
    unfold set
    split
    · exact get?_cons_of_ne h ..
    · split
      · rename_i heq
        subst heq
        rw [get?_cons_of_ne h, get?_cons_of_ne h]
      · by_cases hk : k' = k₁
        · subst hk
          rw [get?_cons_self, get?_cons_self]
        · rw [get?_cons_of_ne hk, get?_cons_of_ne hk]
          exact get?_set_of_ne h v l

@[simp] theorem get?_erase_self (k : κ) : ∀ l : List (κ × β), get? k (erase k l) = none
  | [] => rfl
  | (k', v) :: l => by
    have ih := get?_erase_self k l
    unfold erase at ih ⊢
    by_cases hk : k' = k
    · rw [List.filter_cons_of_neg (by simpa using hk)]
      exact ih
    · rw [List.filter_cons_of_pos (by simpa using hk), get?_cons_of_ne (Ne.symm hk)]
      exact ih

theorem get?_erase_of_ne {k k' : κ} (h : k' ≠ k) : ∀ l : List (κ × β), get? k' (erase k l) = get? k' l
  | [] => rfl
  | (k₁, v) :: l => by
    have ih := get?_erase_of_ne h l
    unfold erase at ih ⊢
    by_cases hk : k₁ = k
    · rw [List.filter_cons_of_neg (by simpa using hk), ih, get?_cons_of_ne (by rw [hk]; exact h)]
    · rw [List.filter_cons_of_pos (by simpa using hk)]
      by_cases hk' : k' = k₁
      · subst hk'
        rw [get?_cons_self, get?_cons_self]
      · rw [get?_cons_of_ne hk', get?_cons_of_ne hk', ih]

/-! ## Sortedness -/

theorem mem_of_get? {k : κ} {v : β} : ∀ {l : List (κ × β)}, get? k l = some v → (k, v) ∈ l
  | (k', v') :: l, h => by
    by_cases hk : k = k'
    · subst hk
      rw [get?_cons_self] at h
      cases h
      exact List.mem_cons_self ..
    · rw [get?_cons_of_ne hk] at h
      exact List.mem_cons_of_mem _ (mem_of_get? h)

theorem get?_of_mem {k : κ} {v : β} : ∀ {l : List (κ × β)}, Sorted l → (k, v) ∈ l → get? k l = some v
  | (k', v') :: l, hs, hm => by
    obtain ⟨hlt, hs⟩ := List.pairwise_cons.1 hs
    rcases List.mem_cons.1 hm with h | hm
    · cases h
      exact get?_cons_self ..
    · rw [get?_cons_of_ne (hlt _ hm).ne']
      exact get?_of_mem hs hm

theorem isSome_get?_of_mem {e : κ × β} : ∀ {l : List (κ × β)}, e ∈ l → (get? e.1 l).isSome
  | (k', v') :: l, hm => by
    by_cases hk : e.1 = k'
    · rw [hk, get?_cons_self]
      rfl
    · rcases List.mem_cons.1 hm with rfl | hm
      · exact absurd rfl hk
      · rw [get?_cons_of_ne hk]
        exact isSome_get?_of_mem hm

/-- A key below every key of the list has no entry. -/
theorem get?_eq_none_of_lt {k : κ} {l : List (κ × β)} (h : ∀ e ∈ l, k < e.1) : get? k l = none := by
  cases hg : get? k l with
  | none => rfl
  | some v => exact absurd (h _ (mem_of_get? hg)) (lt_irrefl _)

theorem mem_set {k : κ} {v : β} {e : κ × β} : ∀ {l : List (κ × β)}, e ∈ set k v l → e = (k, v) ∨ e ∈ l
  | [], h => .inl (List.mem_singleton.1 h)
  | (k', v') :: l, h => by
    unfold set at h
    split at h
    · exact List.mem_cons.1 h
    · split at h
      · exact (List.mem_cons.1 h).imp id (List.mem_cons_of_mem _)
      · rcases List.mem_cons.1 h with rfl | h
        · exact .inr (List.mem_cons_self ..)
        · exact (mem_set h).imp id (List.mem_cons_of_mem _)

theorem sorted_set (k : κ) (v : β) : ∀ {l : List (κ × β)}, Sorted l → Sorted (set k v l)
  | [], _ => List.pairwise_singleton _ _
  | (k', v') :: l, hs => by
    obtain ⟨hlt, hs'⟩ := List.pairwise_cons.1 hs
    unfold set
    split
    · rename_i hk
      refine List.pairwise_cons.2 ⟨fun e he => ?_, hs⟩
      rcases List.mem_cons.1 he with rfl | he
      · exact hk
      · exact hk.trans (hlt e he)
    · rename_i hk
      split
      · rename_i heq
        subst heq
        exact List.pairwise_cons.2 ⟨hlt, hs'⟩
      · rename_i hne
        refine List.pairwise_cons.2 ⟨fun e he => ?_, sorted_set k v hs'⟩
        rcases mem_set he with rfl | he
        · exact lt_of_le_of_ne (not_lt.1 hk) (Ne.symm hne)
        · exact hlt e he

theorem sorted_erase (k : κ) {l : List (κ × β)} (hs : Sorted l) : Sorted (erase k l) := hs.filter _

/-- Sorted lists with the same lookups are equal. -/
theorem ext : ∀ {l l' : List (κ × β)}, Sorted l → Sorted l' → (∀ k, get? k l = get? k l') → l = l'
  | [], [], _, _, _ => rfl
  | [], (k, v) :: l', _, _, h => by have := h k; simp at this
  | (k, v) :: l, [], _, _, h => by have := h k; simp at this
  | (k, v) :: l, (k', v') :: l', hs, hs', h => by
    obtain ⟨hlt, ht⟩ := List.pairwise_cons.1 hs
    obtain ⟨hlt', ht'⟩ := List.pairwise_cons.1 hs'
    -- the least keys agree, because each list finds the other's head
    have hk : k = k' := by
      rcases lt_trichotomy k k' with hkk | hkk | hkk
      · have := h k
        rw [get?_cons_self, get?_cons_of_ne hkk.ne, get?_eq_none_of_lt fun e he => hkk.trans (hlt' e he)] at this
        cases this
      · exact hkk
      · have := h k'
        rw [get?_cons_self, get?_cons_of_ne hkk.ne, get?_eq_none_of_lt fun e he => hkk.trans (hlt e he)] at this
        cases this
    subst hk
    have hv : v = v' := by simpa using h k
    subst hv
    refine congrArg _ (ext ht ht' fun j => ?_)
    by_cases hj : j = k
    · subst hj
      rw [get?_eq_none_of_lt hlt, get?_eq_none_of_lt hlt']
    · have := h j
      rwa [get?_cons_of_ne hj, get?_cons_of_ne hj] at this

end SortedMap
