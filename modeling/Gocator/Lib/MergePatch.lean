/-
Sequences of merge patches. What a sequence does to a member is what its patches that name the member do
to it, so a sequence absorbs whatever its own patches have done before: after any of them, in any order
and any number, running the sequence gives what it gives alone.
-/
import Gocator.Lib.Json

namespace Json

/-! ## Well-formed documents stay well-formed -/

theorem sorted_mergePatch {t p : Json} (ht : t.WF) (hp : p.WF) : SortedMap.Sorted (mergePatch t p).members := by
  cases p with
  | obj ms =>
    rw [mergePatch]
    exact sorted_mergeMembers ms ht.here
  | _ => exact SortedMap.sorted_nil

theorem wf_mergePatch (p : Json) : ∀ {t : Json}, t.WF → p.WF → (mergePatch t p).WF := by
  induction p using memberInduction with
  | h p ih =>
    intro t ht hp
    refine everywhere_iff.2 ⟨sorted_mergePatch ht hp, fun k w hw => ?_⟩
    cases hobj : p.isObj with
    | false =>
      rw [mergePatch_of_not_obj hobj] at hw
      exact hp.get? hw
    | true =>
      cases p with
      | obj ms =>
        have hs : SortedMap.Sorted ms := hp.here
        rw [get?_mergePatch hs] at hw
        split at hw
        · exact ht.get? hw
        · rename_i v hv
          split at hw <;> cases hw
          exact ih k v hv (wf_getD ht k) (hp.get? hv)
      | _ => cases hobj

/-! ## What a sequence does to one member -/

/-- What a patch does to the member that it gives this value. -/
def mergeAt (x : Option Json) (v : Json) : Option Json :=
  if v.isNull then none else some (mergePatch (x.getD .null) v)

/-- The document after a sequence of patches. -/
def mergePatches (t : Json) (ps : List Json) : Json := ps.foldl mergePatch t

@[simp] theorem mergePatches_nil (t : Json) : mergePatches t [] = t := rfl

@[simp] theorem mergePatches_cons (t p : Json) (ps : List Json) :
    mergePatches t (p :: ps) = mergePatches (mergePatch t p) ps := rfl

theorem mergePatches_append (t : Json) (ps qs : List Json) :
    mergePatches t (ps ++ qs) = mergePatches (mergePatches t ps) qs := List.foldl_append ..

theorem wf_mergePatches : ∀ {ps : List Json} {t : Json}, t.WF → (∀ p ∈ ps, p.WF) → (mergePatches t ps).WF
  | [], _, ht, _ => ht
  | p :: ps, t, ht, hp => by
    rw [mergePatches_cons]
    refine wf_mergePatches (wf_mergePatch p ht (hp p (List.mem_cons_self ..))) fun q hq => ?_
    exact hp q (List.mem_cons_of_mem _ hq)

/-- The member after a sequence of patches that are objects: the values the patches give it, in turn. -/
theorem get?_mergePatches (k : String) : ∀ {ps : List Json} {t : Json}, (∀ p ∈ ps, p.WF) → (∀ p ∈ ps, p.isObj = true) →
    (mergePatches t ps).get? k = (ps.filterMap (·.get? k)).foldl mergeAt (t.get? k)
  | [], _, _, _ => rfl
  | p :: ps, t, hwf, hobj => by
    have hp := hwf p (List.mem_cons_self ..)
    have ho := hobj p (List.mem_cons_self ..)
    rw [mergePatches_cons, get?_mergePatches k (fun q hq => hwf q (List.mem_cons_of_mem _ hq)) fun q hq =>
      hobj q (List.mem_cons_of_mem _ hq)]
    cases p with
    | obj ms =>
      have hs : SortedMap.Sorted ms := hp.here
      rw [get?_mergePatch hs]
      cases hk : SortedMap.get? k ms with
      | none =>
        have hg : (Json.obj ms).get? k = none := hk
        rw [List.filterMap_cons_none (f := fun j : Json => j.get? k) hg]
      | some v =>
        have hg : (Json.obj ms).get? k = some v := hk
        rw [List.filterMap_cons_some (f := fun j : Json => j.get? k) hg]
        rfl
    | _ => cases ho

/-- A value that is not an object leaves nothing of what was there. -/
theorem mergeAt_const {v : Json} (hv : v.isObj = false) (x y : Option Json) : mergeAt x v = mergeAt y v := by
  unfold mergeAt
  rw [mergePatch_of_not_obj hv, mergePatch_of_not_obj hv]

/-- A sequence of objects merges them into the member, or into null. -/
theorem foldl_mergeAt_obj : ∀ {vs : List Json} {x : Option Json}, (∀ v ∈ vs, v.isObj = true) → vs ≠ [] →
    vs.foldl mergeAt x = some (mergePatches (x.getD .null) vs)
  | [v], x, hv, _ => by
    have ho := hv v (List.mem_singleton_self v)
    cases v with
    | obj ms => rfl
    | _ => cases ho
  | v :: w :: vs, x, hv, _ => by
    have ho := hv v (List.mem_cons_self ..)
    have hfirst : mergeAt x v = some (mergePatch (x.getD .null) v) := by
      cases v with
      | obj ms => rfl
      | _ => cases ho
    rw [List.foldl_cons, hfirst,
      foldl_mergeAt_obj (fun u hu => hv u (List.mem_cons_of_mem _ hu)) (List.cons_ne_nil w vs)]
    rfl

/-! ## A sequence absorbs its own patches -/

/-- A fold that meets a constant forgets what came before it. -/
theorem foldl_forget {α β : Type} {f : β → α → β} {l : List α} {c : α} (hc : c ∈ l) (hf : ∀ x y, f x c = f y c)
    (x y : β) : l.foldl f x = l.foldl f y := by
  obtain ⟨l₁, l₂, rfl⟩ := List.append_of_mem hc
  rw [List.foldl_append, List.foldl_append, List.foldl_cons, List.foldl_cons, hf (l₁.foldl f x) (l₁.foldl f y)]

theorem mergePatches_absorb_of_size : ∀ (n : Nat) (ps qs : List Json) (t : Json), (∀ p ∈ ps, sizeOf p < n) →
    (∀ p ∈ ps, p.WF) → (∀ q ∈ qs, q ∈ ps) → t.WF → mergePatches (mergePatches t qs) ps = mergePatches t ps
  | 0, ps, qs, t, hn, _, hq, _ => by
    have hps : ps = [] := List.eq_nil_iff_forall_not_mem.2 fun p hp => absurd (hn p hp) (Nat.not_lt_zero _)
    have hqs : qs = [] := List.eq_nil_iff_forall_not_mem.2 fun q hm => by simpa [hps] using hq q hm
    rw [hps, hqs]
    rfl
  | n + 1, ps, qs, t, hn, hwf, hq, ht => by
    by_cases hall : ∀ p ∈ ps, p.isObj = true
    swap
    · -- a patch that is not an object replaces the document
      simp only [not_forall] at hall
      obtain ⟨p, hp, hobj⟩ := hall
      have hobj := Bool.of_not_eq_true hobj
      exact foldl_forget hp (fun x y => by rw [mergePatch_of_not_obj hobj, mergePatch_of_not_obj hobj]) _ _
    rcases ps.eq_nil_or_concat' with rfl | ⟨init, last, rfl⟩
    · have hqs : qs = [] := List.eq_nil_iff_forall_not_mem.2 fun q hm => by simpa using hq q hm
      rw [hqs]
      rfl
    have hobj : ∀ u : Json, mergePatches u (init ++ [last]) = .obj (mergePatches u (init ++ [last])).members := by
      intro u
      have hlast := hall last (by simp)
      rw [mergePatches_append]
      cases last with
      | obj ms => rw [mergePatches_cons, mergePatches_nil, mergePatch]; rfl
      | _ => cases hlast
    have hwq : ∀ q ∈ qs, q.WF := fun q hm => hwf q (hq q hm)
    have ht' := wf_mergePatches ht hwq
    rw [hobj (mergePatches t qs), hobj t]
    refine congrArg Json.obj (SortedMap.ext (wf_mergePatches ht' hwf).here (wf_mergePatches ht hwf).here fun k => ?_)
    change (mergePatches (mergePatches t qs) (init ++ [last])).get? k = (mergePatches t (init ++ [last])).get? k
    generalize init ++ [last] = ps at *
    rw [get?_mergePatches k hwf hall, get?_mergePatches k hwf hall,
      get?_mergePatches k hwq fun q hm => hall q (hq q hm)]
    -- the values the patches give the member, and those the earlier ones gave it
    have hsub : ∀ v ∈ qs.filterMap (·.get? k), v ∈ ps.filterMap (·.get? k) := by
      intro v hv
      obtain ⟨q, hm, hg⟩ := List.mem_filterMap.1 hv
      exact List.mem_filterMap.2 ⟨q, hq q hm, hg⟩
    have hmem : ∀ v ∈ ps.filterMap (·.get? k), sizeOf v < n ∧ v.WF := by
      intro v hv
      obtain ⟨p, hm, hg⟩ := List.mem_filterMap.1 hv
      have hlt := sizeOf_get? hg
      have := hn p hm
      exact ⟨by omega, (hwf p hm).get? hg⟩
    generalize ps.filterMap (·.get? k) = vs at *
    generalize qs.filterMap (·.get? k) = ws at *
    by_cases hvs : ∀ v ∈ vs, v.isObj = true
    swap
    · simp only [not_forall] at hvs
      obtain ⟨v, hv, hobj⟩ := hvs
      exact foldl_forget hv (mergeAt_const (Bool.of_not_eq_true hobj)) _ _
    by_cases hws : ws = []
    · rw [hws]
      rfl
    have hne : vs ≠ [] := by
      rintro rfl
      obtain ⟨w, hw⟩ := List.exists_mem_of_ne_nil ws hws
      cases hsub w hw
    rw [foldl_mergeAt_obj (fun w hw => hvs w (hsub w hw)) hws, foldl_mergeAt_obj hvs hne, foldl_mergeAt_obj hvs hne]
    exact congrArg some (mergePatches_absorb_of_size n vs ws _ (fun v hv => (hmem v hv).1) (fun v hv => (hmem v hv).2)
      hsub (wf_getD ht k))

/-- After any patches of a sequence, the sequence gives what it gives alone. -/
theorem mergePatches_absorb {ps qs : List Json} {t : Json} (ht : t.WF) (hwf : ∀ p ∈ ps, p.WF)
    (hq : ∀ q ∈ qs, q ∈ ps) : mergePatches (mergePatches t qs) ps = mergePatches t ps := by
  refine mergePatches_absorb_of_size (sizeOf ps) ps qs t (fun p hp => ?_) hwf hq ht
  exact List.sizeOf_lt_of_mem hp

end Json
