/-
The leaves of a resource schema by the names of the members that lead to them from the root of the resource:
the path that `addFeatureNode` puts together and the value that it displays.
-/
import Gocator.Features.Refresh

namespace Gocator.Features

/-! ## Names -/

/-- The path of names, each behind a slash. -/
def pathOf : List String → String
  | [] => ""
  | name :: names => "/" ++ name ++ pathOf names

theorem pathOf_append (names names' : List String) : pathOf (names ++ names') = pathOf names ++ pathOf names' := by
  induction names with
  | nil => rw [List.nil_append, pathOf, String.empty_append]
  | cons name names ih =>
    rw [List.cons_append, pathOf, pathOf, ih, ← String.append_assoc]

theorem pathOf_singleton (name : String) : pathOf [name] = "/" ++ name := String.append_empty

/-- The names lead from a property to a leaf with this schema. -/
inductive Below : String → Json → List String → Json → Prop
  | leaf {name : String} {propSchema : Json} (htype : toText (propSchema.get? "type") ≠ "object") :
    Below name propSchema [name] propSchema
  | sub {name : String} {propSchema : Json} {e : String × Json} {names : List String} {s : Json}
    (htype : toText (propSchema.get? "type") = "object")
    (hmem : e ∈ (toObject (propSchema.get? "properties")).members) (hbelow : Below e.1 (toObject (some e.2)) names s) :
    Below name propSchema (name :: names) s

theorem Below.exists_cons {name : String} {propSchema s : Json} {names : List String}
    (h : Below name propSchema names s) : ∃ names', names = name :: names' := by
  cases h with
  | leaf => exact ⟨[], rfl⟩
  | sub => exact ⟨_, rfl⟩

theorem follow_cons {names : List String} (h : names ≠ []) (name : String) (currentObj : Json) :
    follow (name :: names) currentObj = follow names (toObject (currentObj.get? name)) := by
  obtain ⟨name', names', rfl⟩ := List.exists_cons_of_ne_nil h
  rw [follow]
  exact List.cons_ne_nil _ _

/-- The leaves under a property are those to which names lead; they display the value at these names. -/
theorem mem_addFeatureNode {target : ParameterTarget} {propSchema : Json} {leaf : Leaf} :
    ∀ {base : List String} {name : String} {valuesObj : Json},
      leaf ∈ addFeatureNode target (pathOf base) name propSchema valuesObj ↔
        ∃ names s, Below name propSchema names s ∧
          leaf = ⟨target, pathOf (base ++ names), s, follow names valuesObj⟩ := by
  induction hsize : sizeOf propSchema using Nat.strongRecOn generalizing propSchema with
  | ind size ih =>
    intro base name valuesObj
    have hpath : pathOf base ++ "/" ++ name = pathOf (base ++ [name]) := by
      rw [pathOf_append, pathOf_singleton, String.append_assoc]
    by_cases htype : toText (propSchema.get? "type") = "object"
    · rw [addFeatureNode_object htype, List.mem_flatMap, hpath]
      constructor
      · rintro ⟨e, he, hleaf⟩
        obtain ⟨names, s, hbelow, rfl⟩ := (ih _ (hsize ▸ sizeOf_subProperty he) rfl).1 hleaf
        obtain ⟨names', rfl⟩ := hbelow.exists_cons
        refine ⟨_, s, .sub htype he hbelow, ?_⟩
        rw [follow_cons (List.cons_ne_nil _ _), List.append_assoc, List.singleton_append]
      · rintro ⟨names, s, hbelow, rfl⟩
        cases hbelow with
        | leaf hne => exact absurd htype hne
        | sub _ he hbelow =>
          refine ⟨_, he, (ih _ (hsize ▸ sizeOf_subProperty he) rfl).2 ⟨_, s, hbelow, ?_⟩⟩
          obtain ⟨names', rfl⟩ := hbelow.exists_cons
          rw [follow_cons (List.cons_ne_nil _ _), List.append_assoc, List.singleton_append]
    · rw [addFeatureNode_leaf htype, List.mem_singleton, hpath]
      constructor
      · rintro rfl
        exact ⟨[name], propSchema, .leaf htype, rfl⟩
      · rintro ⟨names, s, hbelow, rfl⟩
        cases hbelow with
        | leaf => rfl
        | sub hobject => exact absurd hobject htype

/-! ## The leaves of a resource -/

/-- The schema of the `parameters` envelope. -/
def parameterSchema (resourceSchema : Json) : Json :=
  toObject ((toObject (resourceSchema.get? "properties")).get? "parameters")

/-- The names lead from the root of the resource to a leaf with this schema. -/
inductive LeafAt (resourceSchema : Json) : List String → Json → Prop
  | enveloped {e : String × Json} {names : List String} {s : Json}
    (henvelope : (parameterSchema resourceSchema).members ≠ [])
    (hmem : e ∈ (toObject ((parameterSchema resourceSchema).get? "properties")).members)
    (hbelow : Below e.1 (toObject (some e.2)) names s) : LeafAt resourceSchema ("parameters" :: names) s
  | root {e : String × Json} {names : List String} {s : Json}
    (hmem : e ∈ (toObject (resourceSchema.get? "properties")).members)
    (hname : (parameterSchema resourceSchema).members ≠ [] → e.1 ≠ "parameters")
    (hbelow : Below e.1 (toObject (some e.2)) names s) : LeafAt resourceSchema names s

section

variable {target : ParameterTarget} {resourceData : Json} {leaf : Leaf} {e : String × Json}

theorem mem_envelopedNode :
    leaf ∈ addFeatureNode target "/parameters" e.1 (toObject (some e.2)) (toObject (resourceData.get? "parameters")) ↔
      ∃ names s, Below e.1 (toObject (some e.2)) names s ∧
        leaf = ⟨target, pathOf ("parameters" :: names), s, follow ("parameters" :: names) resourceData⟩ := by
  rw [show "/parameters" = pathOf ["parameters"] from rfl, mem_addFeatureNode]
  refine exists_congr fun names => exists_congr fun s => and_congr_right fun hbelow => ?_
  obtain ⟨names', rfl⟩ := hbelow.exists_cons
  rw [follow_cons (List.cons_ne_nil _ _)]
  rfl

theorem mem_rootNode : leaf ∈ addFeatureNode target "" e.1 (toObject (some e.2)) resourceData ↔
    ∃ names s, Below e.1 (toObject (some e.2)) names s ∧
      leaf = ⟨target, pathOf names, s, follow names resourceData⟩ := by
  rw [show "" = pathOf [] from rfl]
  exact mem_addFeatureNode

end

/-- Every leaf displays the value at the names of its path. -/
theorem mem_addResourceCategory {target : ParameterTarget} {resourceSchema resourceData : Json} {leaf : Leaf} :
    leaf ∈ addResourceCategory target resourceSchema resourceData ↔
      ∃ names s, LeafAt resourceSchema names s ∧ leaf = ⟨target, pathOf names, s, follow names resourceData⟩ := by
  unfold addResourceCategory
  dsimp only
  split
  · rename_i hne
    rw [List.mem_append, List.mem_flatMap, List.mem_flatMap]
    constructor
    · rintro (⟨e, he, hleaf⟩ | ⟨e, he, hleaf⟩)
      · obtain ⟨names, s, hbelow, heq⟩ := mem_envelopedNode.1 hleaf
        exact ⟨_, s, .enveloped hne he hbelow, heq⟩
      · obtain ⟨names, s, hbelow, heq⟩ := mem_rootNode.1 hleaf
        obtain ⟨hmem, hname⟩ := List.mem_filter.1 he
        exact ⟨names, s, .root hmem (fun _ => of_decide_eq_true hname) hbelow, heq⟩
    · rintro ⟨names, s, hleaf, heq⟩
      cases hleaf with
      | enveloped _ he hbelow => exact .inl ⟨_, he, mem_envelopedNode.2 ⟨_, s, hbelow, heq⟩⟩
      | root hmem hname hbelow =>
        exact .inr ⟨_, List.mem_filter.2 ⟨hmem, decide_eq_true (hname hne)⟩, mem_rootNode.2 ⟨names, s, hbelow, heq⟩⟩
  · rename_i hnil
    rw [not_not] at hnil
    rw [List.mem_flatMap]
    constructor
    · rintro ⟨e, he, hleaf⟩
      obtain ⟨names, s, hbelow, heq⟩ := mem_rootNode.1 hleaf
      exact ⟨names, s, .root he (fun hne => absurd hnil hne) hbelow, heq⟩
    · rintro ⟨names, s, hleaf, heq⟩
      cases hleaf with
      | enveloped hne => exact absurd hnil hne
      | root hmem _ hbelow => exact ⟨_, hmem, mem_rootNode.2 ⟨names, s, hbelow, heq⟩⟩

/-! ## No leaf stands behind another -/

theorem eq_of_mem {ms : List (String × Json)} (hs : SortedMap.Sorted ms) {e e' : String × Json} (he : e ∈ ms)
    (he' : e' ∈ ms) (h : e.1 = e'.1) : e = e' := by
  have hget := SortedMap.get?_of_mem hs he
  rw [h, SortedMap.get?_of_mem hs he'] at hget
  exact Prod.ext h (Option.some.inj hget).symm

theorem wf_toObject {v : Option Json} (h : ∀ j, v = some j → j.WF) : (toObject v).WF := by
  cases v with
  | none => exact Json.everywhere_obj SortedMap.sorted_nil fun _ hm => absurd hm List.not_mem_nil
  | some j =>
    cases j with
    | obj ms => exact h _ rfl
    | _ => exact Json.everywhere_obj SortedMap.sorted_nil fun _ hm => absurd hm List.not_mem_nil

theorem wf_toObject_get? {j : Json} (h : j.WF) (k : String) : (toObject (j.get? k)).WF :=
  wf_toObject fun _ hg => h.get? hg

theorem wf_member {j : Json} (h : j.WF) {e : String × Json} (he : e ∈ j.members) : (toObject (some e.2)).WF := by
  refine wf_toObject ?_
  rintro _ ⟨⟩
  refine h.get? (k := e.1) ?_
  exact SortedMap.get?_of_mem h.here he

/-- The names of a leaf do not go on to another, and lead to one schema. -/
theorem Below.eq_of_initial {name : String} {propSchema s : Json} {names : List String}
    (h : Below name propSchema names s) : ∀ {names' : List String} {s' : Json}, propSchema.WF →
    Below name propSchema names' s' → names <+: names' → names = names' ∧ s = s' := by
  induction h with
  | leaf htype =>
    intro names' s' _ h' _
    cases h' with
    | leaf => exact ⟨rfl, rfl⟩
    | sub hobject => exact absurd hobject htype
  | sub htype hmem hbelow ih =>
    intro names' s' hwf h' hinit
    cases h' with
    | leaf hne => exact absurd htype hne
    | @sub _ _ e' names₁ _ _ hmem' hbelow' =>
      have hprops := wf_toObject_get? hwf "properties"
      have htail := (List.cons_prefix_cons.1 hinit).2
      obtain ⟨rest, hrest⟩ := hbelow.exists_cons
      obtain ⟨rest', hrest'⟩ := hbelow'.exists_cons
      have hhead := htail
      rw [hrest, hrest', List.cons_prefix_cons] at hhead
      obtain rfl := eq_of_mem hprops.here hmem hmem' hhead.1
      obtain ⟨hnames, hs⟩ := ih (wf_member hprops hmem) hbelow' htail
      exact ⟨by rw [hnames], hs⟩

/-- The same of two properties of one object, which are one if their names are. -/
theorem Below.eq_of_initial_members {j s s' : Json} {e e' : String × Json} {names names' : List String} (hj : j.WF)
    (he : e ∈ j.members) (he' : e' ∈ j.members) (h : Below e.1 (toObject (some e.2)) names s)
    (h' : Below e'.1 (toObject (some e'.2)) names' s') (hinit : names <+: names') : names = names' ∧ s = s' := by
  obtain ⟨rest, hrest⟩ := h.exists_cons
  obtain ⟨rest', hrest'⟩ := h'.exists_cons
  have hhead := hinit
  rw [hrest, hrest', List.cons_prefix_cons] at hhead
  obtain rfl := eq_of_mem hj.here he he' hhead.1
  exact h.eq_of_initial (wf_member hj he) h' hinit

theorem LeafAt.eq_of_initial {resourceSchema s s' : Json} {names names' : List String} (hwf : resourceSchema.WF)
    (h : LeafAt resourceSchema names s) (h' : LeafAt resourceSchema names' s') (hinit : names <+: names') :
    names = names' ∧ s = s' := by
  have hprops := wf_toObject_get? hwf "properties"
  have henvelope := wf_toObject_get? (wf_toObject_get? hprops "parameters") "properties"
  cases h with
  | enveloped hne hmem hbelow =>
    cases h' with
    | enveloped _ hmem' hbelow' =>
      obtain ⟨hnames, hs⟩ := hbelow.eq_of_initial_members henvelope hmem hmem' hbelow' (List.cons_prefix_cons.1 hinit).2
      exact ⟨by rw [hnames], hs⟩
    | root _ hname hbelow' =>
      obtain ⟨rest', rfl⟩ := hbelow'.exists_cons
      exact absurd (List.cons_prefix_cons.1 hinit).1.symm (hname hne)
  | root hmem hname hbelow =>
    cases h' with
    | enveloped hne _ hbelow' =>
      obtain ⟨rest, rfl⟩ := hbelow.exists_cons
      exact absurd (List.cons_prefix_cons.1 hinit).1 (hname hne)
    | root hmem' _ hbelow' => exact hbelow.eq_of_initial_members hprops hmem hmem' hbelow' hinit

end Gocator.Features
