/-
Updates of a device that set values at paths in its documents. Assignments to places that are apart can be
made in any order; each is found where it was put, and every other place keeps its value.
-/
import Gocator.Lib.NestedPatch
import Gocator.Settings.Retry

namespace Gocator.Settings

open Json (Apart nest mergePatches)

/-- A value for a place in one of the documents. -/
structure Assignment where
  path : String
  tokens : List String
  value : Json

/-- The update that makes the assignment. -/
def Assignment.patch (a : Assignment) : String × Json := (a.path, nest a.tokens a.value)

/-- The assignments are to different documents or to places that are apart. -/
def Assignment.Apart (a b : Assignment) : Prop := a.path = b.path → Json.Apart a.tokens b.tokens

instance (a b : Assignment) : Decidable (a.Apart b) := inferInstanceAs (Decidable (_ → _))

/-- The value is neither null, which would remove the place, nor an object. -/
def Assignment.Scalar (a : Assignment) : Prop := a.value.isNull = false ∧ a.value.isObj = false

/-- A value that is no object has no members to be out of order. -/
theorem wf_of_not_obj {v : Json} (h : v.isObj = false) : v.WF := by
  refine Json.everywhere_of_not_obj h ?_
  cases v with
  | obj ms => cases h
  | _ => exact SortedMap.sorted_nil

/-- The device after the assignments. -/
def assigned (as : List Assignment) (D : Device) : Device := patched (as.map Assignment.patch) D

variable {D : Device} {as bs : List Assignment}

/-- Assignments at places that are apart in any document. -/
theorem pairwise_apart (h : (as.map (·.tokens)).Pairwise Json.Apart) : as.Pairwise Assignment.Apart := by
  refine (List.pairwise_map.1 h).imp ?_
  intro a b hab _
  exact hab

/-- What is assigned in one document. -/
def assignedIn (as : List Assignment) (path : String) : List (List String × Json) :=
  (as.filter (·.path = path)).map fun a => (a.tokens, a.value)

theorem patchesOf_assigned (as : List Assignment) (path : String) :
    patchesOf (as.map Assignment.patch) path = (assignedIn as path).map fun u => nest u.1 u.2 := by
  induction as with
  | nil => rfl
  | cons a as ih =>
    unfold patchesOf assignedIn at ih ⊢
    by_cases ha : a.path = path
    · have hp : a.patch.1 = path := ha
      simp only [List.map_cons, List.filter_cons, ha, hp, decide_true, if_true, ih]
      rfl
    · have hp : ¬ a.patch.1 = path := ha
      simp only [List.map_cons, List.filter_cons, ha, hp, decide_false, Bool.false_eq_true, if_false, ih]

theorem assigned_docs (as : List Assignment) (path : String) : (assigned as D).docs path =
    (D.docs path).map fun t => mergePatches t ((assignedIn as path).map fun u => nest u.1 u.2) := by
  rw [assigned, patched_docs, patchesOf_assigned]

theorem patched_append (us vs : List (String × Json)) : patched (us ++ vs) D = patched vs (patched us D) := by
  refine device_ext (fun path => ?_) rfl
  rw [patched_docs, patched_docs, patched_docs, patchesOf, List.filter_append, List.map_append, Option.map_map]
  exact congrArg (Option.map · (D.docs path)) (funext fun t => Json.mergePatches_append t ..)

theorem assigned_append (as bs : List Assignment) : assigned (as ++ bs) D = assigned bs (assigned as D) := by
  rw [assigned, List.map_append, patched_append]
  rfl

theorem wf_assigned (hD : D.WF) (hv : ∀ a ∈ as, a.value.WF) : (assigned as D).WF := by
  intro path j hj
  rw [assigned_docs] at hj
  obtain ⟨t, ht, rfl⟩ := Option.map_eq_some_iff.1 hj
  refine Json.wf_mergePatches (hD path t ht) fun p hp => ?_
  obtain ⟨u, hu, rfl⟩ := List.mem_map.1 hp
  obtain ⟨a, ha, rfl⟩ := List.mem_map.1 hu
  exact Json.wf_nest (hv a (List.mem_filter.1 ha).1) _

theorem pairwise_assignedIn (h : as.Pairwise Assignment.Apart) (path : String) :
    (assignedIn as path).Pairwise fun u v => Apart u.1 v.1 := by
  rw [assignedIn, List.pairwise_map]
  refine (h.filter _).imp_of_mem fun {a b} ha hb hab => ?_
  have hpa : a.path = path := of_decide_eq_true (List.mem_filter.1 ha).2
  have hpb : b.path = path := of_decide_eq_true (List.mem_filter.1 hb).2
  exact hab (hpa.trans hpb.symm)

/-- Assignments to places that are apart can be made in any order. -/
theorem assigned_perm (h : as.Perm bs) (hD : D.WF) (hv : ∀ a ∈ as, a.value.WF) (ha : as.Pairwise Assignment.Apart) :
    assigned as D = assigned bs D := by
  refine device_ext (fun path => ?_) rfl
  rw [assigned_docs, assigned_docs]
  cases hd : D.docs path with
  | none => rfl
  | some t =>
    rw [Option.map_some, Option.map_some]
    refine congrArg some (Json.mergePatches_perm ((h.filter _).map _) (fun u hu => ?_) (pairwise_assignedIn ha path)
      (hD path t hd))
    obtain ⟨a, ha', rfl⟩ := List.mem_map.1 hu
    exact hv a (List.mem_filter.1 ha').1

/-- An assigned value is found in its place. -/
theorem at?_assigned {a : Assignment} (ha : a ∈ as) (hap : as.Pairwise Assignment.Apart) (hs : ∀ b ∈ as, b.Scalar)
    {t : Json} (ht : D.docs a.path = some t) :
    ∃ j, (assigned as D).docs a.path = some j ∧ Json.at? a.tokens j = some a.value := by
  refine ⟨_, by rw [assigned_docs, ht, Option.map_some], ?_⟩
  have hmem : (a.tokens, a.value) ∈ assignedIn as a.path :=
    List.mem_map.2 ⟨a, List.mem_filter.2 ⟨ha, decide_eq_true rfl⟩, rfl⟩
  refine Json.at?_mergePatches_of_mem (pairwise_assignedIn hap a.path) (fun u hu => ?_) hmem t
  obtain ⟨b, hb, rfl⟩ := List.mem_map.1 hu
  exact hs b (List.mem_filter.1 hb).1

/-- The value that is assigned to a place last. -/
def lastAssigned (as : List Assignment) (path : String) (tokens : List String) : Option Json :=
  ((as.filter fun a => a.path = path ∧ a.tokens = tokens).map (·.value)).getLast?

/-- Of the values for a place the last one is there, and before any the one of the document. -/
theorem at?_assigned_last {path : String} {tokens : List String}
    (h : ∀ a ∈ as, (a.path = path → a.tokens = tokens ∨ Json.Apart a.tokens tokens) ∧ a.Scalar) {t : Json}
    (ht : D.docs path = some t) : ∃ j, (assigned as D).docs path = some j ∧
      Json.at? tokens j = (lastAssigned as path tokens).or (Json.at? tokens t) := by
  refine ⟨_, by rw [assigned_docs, ht, Option.map_some], ?_⟩
  have hplaces : ∀ u ∈ assignedIn as path, (u.1 = tokens ∨ Json.Apart u.1 tokens) ∧ u.2.isNull = false ∧
      u.2.isObj = false := by
    intro u hu
    obtain ⟨a, ha, rfl⟩ := List.mem_map.1 hu
    obtain ⟨ha, hpath⟩ := List.mem_filter.1 ha
    exact ⟨(h a ha).1 (of_decide_eq_true hpath), (h a ha).2⟩
  have hlast : ((assignedIn as path).filter (·.1 = tokens)).map (·.2) =
      (as.filter fun a => a.path = path ∧ a.tokens = tokens).map (·.value) := by
    rw [assignedIn, List.filter_map, List.map_map, List.filter_filter]
    refine congrArg (List.map _) (List.filter_congr fun a _ => ?_)
    simp [Bool.and_comm]
  rw [Json.at?_mergePatches_last hplaces, hlast]
  rfl

/-- An assignment to the same place takes the place of the one before. -/
theorem assigned_over {a b : Assignment} (hpath : a.path = b.path) (htokens : a.tokens = b.tokens) (ha : a.Scalar)
    (hb : b.Scalar) (hD : D.WF) : assigned [b] (assigned [a] D) = assigned [b] D := by
  refine device_ext (fun path => ?_) rfl
  rw [assigned_docs, assigned_docs, assigned_docs]
  cases hd : D.docs path with
  | none => rfl
  | some t =>
    by_cases hp : b.path = path
    · have hina : assignedIn [a] path = [(a.tokens, a.value)] := by simp [assignedIn, hpath, hp]
      have hinb : assignedIn [b] path = [(b.tokens, b.value)] := by simp [assignedIn, hp]
      rw [hina, hinb, htokens]
      exact congrArg some
        (Json.mergePatch_nest_over ha.1 hb.2 (wf_of_not_obj ha.2) (wf_of_not_obj hb.2) b.tokens (hD path t hd))
    · have hina : assignedIn [a] path = [] := by simp [assignedIn, hpath, hp]
      rw [hina]
      rfl

/-- What was assigned before to the same places leaves no trace. -/
theorem assigned_overwritten (hap : bs.Pairwise Assignment.Apart) (hbs : ∀ b ∈ bs, b.Scalar) :
    ∀ {as : List Assignment} {D : Device}, D.WF → (∀ a ∈ as, a.Scalar) →
      (∀ a ∈ as, ∃ b ∈ bs, a.path = b.path ∧ a.tokens = b.tokens) → assigned bs (assigned as D) = assigned bs D
  | [], D, _, _, _ => congrArg (assigned bs) patched_nil
  | a :: as, D, hD, has, hplaces => by
    have ha := has a (List.mem_cons_self ..)
    have hwf : ∀ {as : List Assignment}, (∀ a ∈ as, a.Scalar) → ∀ a ∈ as, a.value.WF := fun h a ha =>
      wf_of_not_obj (h a ha).2
    have hD' : (assigned [a] D).WF := wf_assigned hD (hwf fun a' ha' => by rw [List.mem_singleton.1 ha']; exact ha)
    have hcons : assigned (a :: as) D = assigned as (assigned [a] D) := assigned_append [a] as
    rw [hcons, assigned_overwritten hap hbs hD' (fun a' ha' => has a' (List.mem_cons_of_mem _ ha'))
      fun a' ha' => hplaces a' (List.mem_cons_of_mem _ ha')]
    obtain ⟨b, hb, hpath, htokens⟩ := hplaces a (List.mem_cons_self ..)
    obtain ⟨before, after, rfl⟩ := List.append_of_mem hb
    -- the one that overwrites is brought to the front
    have hfront : ∀ {D : Device},
      D.WF → assigned (before ++ b :: after) D = assigned (before ++ after) (assigned [b] D) := by
      intro D hD
      rw [assigned_perm List.perm_middle hD (hwf hbs) hap]
      exact assigned_append [b] (before ++ after)
    rw [hfront hD', hfront hD, assigned_over hpath htokens ha (hbs b hb) hD]

/-- Places that nothing is assigned to keep their values. -/
theorem at?_assigned_of_apart (as : List Assignment) {path : String} {t : Json} (ht : D.docs path = some t) :
    ∃ j, (assigned as D).docs path = some j ∧ ∀ tokens : List String,
      (∀ a ∈ as, a.path = path → Json.Apart a.tokens tokens) → Json.at? tokens j = Json.at? tokens t := by
  refine ⟨_, by rw [assigned_docs, ht, Option.map_some], fun tokens h => ?_⟩
  refine Json.at?_mergePatches_of_apart (fun u hu => ?_) t
  obtain ⟨a, ha, rfl⟩ := List.mem_map.1 hu
  exact h a (List.mem_filter.1 ha).1 (of_decide_eq_true (List.mem_filter.1 ha).2)

/-! ## Patches of several values -/

/-- Members of one object in one of the documents. -/
structure Group where
  path : String
  tokens : List String
  members : List (String × Json)

/-- The update that sets the members. -/
def Group.patch (g : Group) : String × Json := (g.path, nest g.tokens (.obj g.members))

def Group.assignments (g : Group) : List Assignment :=
  g.members.map fun m => ⟨g.path, g.tokens ++ [m.1], m.2⟩

/-- The group has a member, and they are those of a well formed object. -/
structure Group.WF (g : Group) : Prop where
  members : (Json.obj g.members).WF
  nonempty : g.members ≠ []

theorem Group.WF.of_values {g : Group} (hkeys : (g.members.map (·.1)).Pairwise (· < ·))
    (hvalues : ∀ v ∈ g.members.map (·.2), v.isObj = false) (hne : g.members ≠ []) : g.WF := by
  refine ⟨Json.everywhere_obj (List.pairwise_map.1 hkeys) fun m hm => ?_, hne⟩
  exact wf_of_not_obj (hvalues m.2 (List.mem_map_of_mem hm))

theorem wf_assignments {g : Group} (h : g.WF) : ∀ a ∈ g.assignments, a.value.WF := by
  intro a ha
  obtain ⟨m, hm, rfl⟩ := List.mem_map.1 ha
  exact h.members.get? (SortedMap.get?_of_mem h.members.here hm)

/-- One patch that holds several values makes an assignment for each. -/
theorem patched_group {g : Group} (hg : g.WF) (hD : D.WF) : patched [g.patch] D = assigned g.assignments D := by
  refine device_ext (fun path => ?_) rfl
  rw [patched_docs, assigned_docs]
  cases hd : D.docs path with
  | none => rfl
  | some t =>
    rw [Option.map_some, Option.map_some]
    by_cases hp : path = g.path
    · subst hp
      have hall : g.assignments.filter (·.path = g.path) = g.assignments := by
        refine List.filter_eq_self.2 fun a ha => ?_
        obtain ⟨m, -, rfl⟩ := List.mem_map.1 ha
        exact decide_eq_true rfl
      rw [assignedIn, hall, Group.assignments, List.map_map, List.map_map]
      simp only [Group.patch, patchesOf, List.filter_cons, List.filter_nil, decide_true, if_true, List.map_cons,
        List.map_nil, Json.mergePatches_cons, Json.mergePatches_nil]
      exact congrArg some (Json.mergePatch_nest_members g.tokens hg.members hg.nonempty (hD g.path t hd))
    · have hnone : g.assignments.filter (·.path = path) = [] := by
        refine List.filter_eq_nil_iff.2 fun a ha => ?_
        obtain ⟨m, -, rfl⟩ := List.mem_map.1 ha
        simpa using Ne.symm hp
      rw [assignedIn, hnone]
      simp [Group.patch, patchesOf, Ne.symm hp]

theorem patched_groups : ∀ {gs : List Group} {D : Device}, (∀ g ∈ gs, g.WF) → D.WF →
    patched (gs.map Group.patch) D = assigned (gs.flatMap Group.assignments) D
  | [], _, _, _ => rfl
  | g :: gs, D, h, hD => by
    have hg := h g (List.mem_cons_self ..)
    have hD' : (assigned g.assignments D).WF := wf_assigned hD (wf_assignments hg)
    have ih := patched_groups (fun g' hg' => h g' (List.mem_cons_of_mem _ hg')) hD'
    rw [List.map_cons, List.flatMap_cons, assigned_append, ← ih, ← patched_group hg hD]
    exact patched_append [g.patch] _

end Gocator.Settings
