/-
The entries of the feature tree as places in the resources of their targets: each leaf of a schema is reached
once, so no two editors stand for one place, and no place lies inside another.
-/
import Gocator.Lib.NestedPatch
import Gocator.Features.Paths
import Gocator.Features.Shown

namespace Gocator.Features

open JsonPointer (Plain Positional)

/-! ## Every leaf is reached once -/

/-- Different names, each behind the same base, lead to the two leaves. -/
def Differ (leads : List String → Json → Prop) (base : List String) (leaf leaf' : Leaf) : Prop :=
  ∃ names names', leads names leaf.propSchema ∧ leads names' leaf'.propSchema ∧ names ≠ names' ∧
    leaf.path = pathOf (base ++ names) ∧ leaf'.path = pathOf (base ++ names')

section

variable {target : ParameterTarget} {valuesObj : Json}

/-- The leaves under two properties differ in the first name. -/
theorem differ_of_ne {leads : List String → Json → Prop} {base : List String} {e e' : String × Json} (hne : e.1 ≠ e'.1)
    {leaf leaf' : Leaf} (hleaf : leaf ∈ addFeatureNode target (pathOf base) e.1 (toObject (some e.2)) valuesObj)
    (hleaf' : leaf' ∈ addFeatureNode target (pathOf base) e'.1 (toObject (some e'.2)) valuesObj)
    (h : ∀ names s, Below e.1 (toObject (some e.2)) names s → leads names s)
    (h' : ∀ names s, Below e'.1 (toObject (some e'.2)) names s → leads names s) : Differ leads base leaf leaf' := by
  obtain ⟨names, s, hbelow, rfl⟩ := mem_addFeatureNode.1 hleaf
  obtain ⟨names', s', hbelow', rfl⟩ := mem_addFeatureNode.1 hleaf'
  refine ⟨names, names', h _ _ hbelow, h' _ _ hbelow', ?_, rfl, rfl⟩
  rintro rfl
  obtain ⟨rest, hrest⟩ := hbelow.exists_cons
  obtain ⟨rest', hrest'⟩ := hbelow'.exists_cons
  exact hne (List.cons.inj (hrest.symm.trans hrest')).1

theorem ne_of_sorted {ms : List (String × Json)} (h : SortedMap.Sorted ms) : ms.Pairwise fun e e' => e.1 ≠ e'.1 :=
  h.imp fun hlt => ne_of_lt hlt

/-- No two leaves under a property have the same names. -/
theorem pairwise_addFeatureNode {propSchema : Json} : ∀ {base : List String} {name : String} {valuesObj : Json},
    propSchema.WF → (addFeatureNode target (pathOf base) name propSchema valuesObj).Pairwise
      (Differ (Below name propSchema) base) := by
  induction hsize : sizeOf propSchema using Nat.strongRecOn generalizing propSchema with
  | ind size ih =>
    intro base name valuesObj hwf
    have hpath : pathOf base ++ "/" ++ name = pathOf (base ++ [name]) := by
      rw [pathOf_append, pathOf_singleton, String.append_assoc]
    by_cases htype : toText (propSchema.get? "type") = "object"
    · have hprops := wf_toObject_get? hwf "properties"
      have hlift : ∀ {leads : List String → Json → Prop} {leaf leaf' : Leaf},
          (∀ names s, leads names s → Below name propSchema (name :: names) s) →
          Differ leads (base ++ [name]) leaf leaf' → Differ (Below name propSchema) base leaf leaf' := by
        rintro leads leaf leaf' h ⟨names, names', hn, hn', hne, hp, hp'⟩
        refine ⟨name :: names, name :: names', h _ _ hn, h _ _ hn', fun heq => hne (List.cons.inj heq).2, ?_, ?_⟩
        · rw [hp, List.append_assoc, List.singleton_append]
        · rw [hp', List.append_assoc, List.singleton_append]
      rw [addFeatureNode_object htype, hpath, List.pairwise_flatMap]
      constructor
      · intro e he
        refine (ih _ (hsize ▸ sizeOf_subProperty he) rfl (wf_member hprops he)).imp ?_
        exact hlift fun names s hbelow => .sub htype he hbelow
      · refine (ne_of_sorted hprops.here).imp_of_mem fun {e e'} he he' hne leaf hleaf leaf' hleaf' => ?_
        have hdiffer : Differ (fun names s => Below name propSchema (name :: names) s) (base ++ [name]) leaf leaf' :=
          differ_of_ne hne hleaf hleaf' (fun _ _ h => .sub htype he h) fun _ _ h => .sub htype he' h
        exact hlift (fun _ _ h => h) hdiffer
    · rw [addFeatureNode_leaf htype]
      exact List.pairwise_singleton _ _

/-- No two leaves under the properties of an object have the same names. -/
theorem pairwise_members (base : List String) {j : Json} (hj : j.WF) {leads : List String → Json → Prop}
    {ms : List (String × Json)} (hms : ms.Sublist j.members)
    (h : ∀ e ∈ ms, ∀ names s, Below e.1 (toObject (some e.2)) names s → leads names s) :
    (ms.flatMap fun e => addFeatureNode target (pathOf base) e.1 (toObject (some e.2)) valuesObj).Pairwise
      (Differ leads base) := by
  rw [List.pairwise_flatMap]
  constructor
  · intro e he
    refine (pairwise_addFeatureNode (wf_member hj (hms.subset he))).imp ?_
    rintro leaf leaf' ⟨names, names', hn, hn', hrest⟩
    exact ⟨names, names', h e he _ _ hn, h e he _ _ hn', hrest⟩
  · refine ((ne_of_sorted hj.here).sublist hms).imp_of_mem fun he he' hne leaf hleaf leaf' hleaf' => ?_
    exact differ_of_ne hne hleaf hleaf' (h _ he) (h _ he')

theorem pairwise_addResourceCategory {resourceSchema resourceData : Json} (hwf : resourceSchema.WF) :
    (addResourceCategory target resourceSchema resourceData).Pairwise (Differ (LeafAt resourceSchema) []) := by
  have hprops := wf_toObject_get? hwf "properties"
  have hparameters := wf_toObject_get? (wf_toObject_get? hprops "parameters") "properties"
  unfold addResourceCategory
  dsimp only
  split
  · rename_i hne
    rw [List.pairwise_append]
    refine ⟨?_, ?_, ?_⟩
    · have henveloped : ∀ e ∈ (toObject ((parameterSchema resourceSchema).get? "properties")).members, ∀ names s,
          Below e.1 (toObject (some e.2)) names s → LeafAt resourceSchema ("parameters" :: names) s :=
        fun e he names s hbelow => .enveloped hne he hbelow
      refine (pairwise_members ["parameters"] hparameters (List.Sublist.refl _) henveloped).imp ?_
      rintro leaf leaf' ⟨names, names', hn, hn', hdiff, hp, hp'⟩
      exact ⟨_, _, hn, hn', fun heq => hdiff (List.cons.inj heq).2, hp, hp'⟩
    · refine pairwise_members [] hprops List.filter_sublist fun e he names s hbelow => ?_
      obtain ⟨hmem, hname⟩ := List.mem_filter.1 he
      exact .root hmem (fun _ => of_decide_eq_true hname) hbelow
    · intro leaf hleaf leaf' hleaf'
      obtain ⟨e, he, hleaf⟩ := List.mem_flatMap.1 hleaf
      obtain ⟨e', he', hleaf'⟩ := List.mem_flatMap.1 hleaf'
      obtain ⟨hmem', hname'⟩ := List.mem_filter.1 he'
      obtain ⟨names, s, hbelow, rfl⟩ := mem_envelopedNode.1 hleaf
      obtain ⟨names', s', hbelow', rfl⟩ := mem_rootNode.1 hleaf'
      have hne' : e'.1 ≠ "parameters" := of_decide_eq_true hname'
      refine ⟨_, _, .enveloped hne he hbelow, .root hmem' (fun _ => hne') hbelow', ?_, rfl, rfl⟩
      rintro rfl
      obtain ⟨rest, hrest⟩ := hbelow'.exists_cons
      exact hne' (List.cons.inj hrest).1.symm
  · rename_i hnil
    rw [not_not] at hnil
    refine pairwise_members [] hprops (List.Sublist.refl _) fun e he names s hbelow => ?_
    exact .root he (fun hne => absurd hnil hne) hbelow

end

/-! ## Entries -/

def Resources.schema (r : Resources) : ParameterTarget → Json
  | .scanner => r.scannerSchema
  | .sensor => r.sensorSchema

/-- Both schemas are well-formed, and the names of their editors can be found again and stand for no position of an
array. -/
structure Resources.Sound (outside : Rat → Int32) (r : Resources) : Prop where
  wf : ∀ target, (r.schema target).WF
  paths : ∀ target, PathsOk outside (r.schema target)
  named : ∀ target names propSchema, LeafAt (r.schema target) names propSchema →
    (buildEditor outside propSchema none).isSome = true → ∀ n ∈ names, ¬ Positional n

/-- The names on the path of an entry. -/
def Feature.names (f : Feature) : List String := (JsonPointer.tokens f.path).getD []

/-- The entry is that of a leaf of its resource. -/
structure Resources.Entry (r : Resources) (f : Feature) : Prop where
  leaf : ∃ s, LeafAt (r.schema f.target) f.names s
  ok : PathOk f.names
  named : ∀ n ∈ f.names, ¬ Positional n
  lone : f.names ≠ ["parameters"]
  path : f.path = pathOf f.names

variable {outside : Rat → Int32} {pending : List (String × Json)} {r : Resources} {f g : Feature}

theorem names_of_plain {names : List String} (hpath : f.path = pathOf names) (h : ∀ n ∈ names, Plain n) :
    f.names = names := by
  rw [Feature.names, hpath, tokens_of_plain h]
  rfl

theorem category_of_mem {leaf : Leaf} (h : leaf ∈ r.leaves) :
    ∃ target data, leaf ∈ addResourceCategory target (r.schema target) data := by
  rcases List.mem_append.1 h with h | h
  · exact ⟨.scanner, _, h⟩
  · exact ⟨.sensor, _, h⟩

/-- The names to a leaf that has an editor are those of its entry. -/
theorem names_of_leafAt (hr : r.Sound outside) {target : ParameterTarget} {leaf : Leaf} {names : List String}
    (hat : LeafAt (r.schema target) names leaf.propSchema) (hpath : leaf.path = pathOf names)
    (hf : leaf.feature outside pending = some f) : f.names = names ∧ PathOk names := by
  have heditor := (isSome_feature outside pending leaf).1 (by rw [hf]; rfl)
  have hok := hr.paths target names _ hat heditor
  exact ⟨names_of_plain ((Leaf.path_of_feature hf).trans hpath) hok.1, hok⟩

theorem target_of_feature {leaf : Leaf} (hf : leaf.feature outside pending = some f) : f.target = leaf.target := by
  obtain ⟨editor, -, rfl⟩ := Option.map_eq_some_iff.1 hf
  rfl

theorem entry_of_mem (hr : r.Sound outside) (hf : f ∈ populateFeatures outside pending r) : r.Entry f := by
  obtain ⟨leaf, hleaf, hfeature⟩ := List.mem_filterMap.1 hf
  obtain ⟨target, data, hleaf⟩ := category_of_mem hleaf
  have htarget : f.target = target := (target_of_feature hfeature).trans (target_of_mem hleaf)
  obtain ⟨names, s, hat, rfl⟩ := mem_addResourceCategory.1 hleaf
  obtain ⟨hnames, hok⟩ := names_of_leafAt hr hat rfl hfeature
  have heditor := (isSome_feature ..).1 (by rw [hfeature]; rfl)
  refine ⟨⟨s, ?_⟩, ?_, ?_, ?_, ?_⟩
  · rw [htarget, hnames]
    exact hat
  · rw [hnames]
    exact hok
  · rw [hnames]
    exact hr.named target names s hat heditor
  · rw [hnames]
    exact hat.ne_parameters (hr.wf target) heditor
  · rw [hnames]
    exact Leaf.path_of_feature hfeature

/-- The entries are for different places. -/
def Feature.Elsewhere (f g : Feature) : Prop := f.target = g.target → f.names ≠ g.names

/-- No place has two entries. -/
theorem pairwise_populateFeatures (hr : r.Sound outside) :
    (populateFeatures outside pending r).Pairwise Feature.Elsewhere := by
  have hcategory : ∀ target data, (addResourceCategory target (r.schema target) data).Pairwise fun leaf leaf' =>
      ∀ f ∈ leaf.feature outside pending, ∀ g ∈ leaf'.feature outside pending, f.Elsewhere g := by
    intro target data
    refine (pairwise_addResourceCategory (hr.wf target)).imp ?_
    rintro leaf leaf' ⟨names, names', hat, hat', hne, hpath, hpath'⟩ f hf g hg - heq
    rw [(names_of_leafAt hr hat hpath hf).1, (names_of_leafAt hr hat' hpath' hg).1] at heq
    exact hne heq
  unfold populateFeatures
  rw [List.pairwise_filterMap]
  unfold Resources.leaves
  rw [List.pairwise_append]
  refine ⟨hcategory .scanner _, hcategory .sensor _, ?_⟩
  intro leaf hleaf leaf' hleaf' f hf g hg htarget
  rw [target_of_feature hf, target_of_feature hg, target_of_mem hleaf, target_of_mem hleaf'] at htarget
  cases htarget

theorem apart_of_not_initial : ∀ {names names' : List String}, ¬ names <+: names' → ¬ names' <+: names →
    Json.Apart names names'
  | [], _, h, _ => absurd (List.nil_prefix) h
  | _ :: _, [], _, h => absurd (List.nil_prefix) h
  | name :: names, name' :: names', h, h' => by
    by_cases hname : name = name'
    · subst hname
      refine .inr (apart_of_not_initial ?_ ?_)
      · exact fun hinit => h (List.cons_prefix_cons.2 ⟨rfl, hinit⟩)
      · exact fun hinit => h' (List.cons_prefix_cons.2 ⟨rfl, hinit⟩)
    · exact .inl hname

/-- A value that is no object has as few members as an empty one. -/
theorem get?_toObject (v : Json) (k : String) : (toObject (some v)).get? k = v.get? k := by
  cases v <;> rfl

theorem follow_eq_at? : ∀ {names : List String}, names ≠ [] → ∀ j : Json, follow names j = Json.at? names j
  | [], hne, _ => absurd rfl hne
  | [name], _, j => by
    rw [follow, Json.at?]
    cases j.get? name <;> rfl
  | name :: name' :: names, _, j => by
    rw [follow_cons (List.cons_ne_nil _ _), follow_eq_at? (List.cons_ne_nil _ _), Json.at?.eq_2 j name]
    cases j.get? name with
    | none => rfl
    | some v =>
      rw [Option.bind_some, Json.at?, Json.at?, get?_toObject]

namespace Resources.Entry

/-- Of two entries of one resource neither lies inside the other. -/
theorem eq_or_apart (hr : r.Sound outside) (hf : r.Entry f) (hg : r.Entry g) (htarget : f.target = g.target) :
    f.names = g.names ∨ Json.Apart f.names g.names := by
  obtain ⟨s, hs⟩ := hf.leaf
  obtain ⟨s', hs'⟩ := hg.leaf
  rw [← htarget] at hs'
  by_cases heq : f.names = g.names
  · exact .inl heq
  · refine .inr (apart_of_not_initial ?_ ?_)
    · exact fun hinit => heq (hs.eq_of_initial (hr.wf _) hs' hinit).1
    · exact fun hinit => heq (hs'.eq_of_initial (hr.wf _) hs hinit).1.symm

theorem names_ne_nil (hf : r.Entry f) : f.names ≠ [] := by
  obtain ⟨s, hs⟩ := hf.leaf
  exact hs.ne_nil

/-- The refresh looks the value up in its place. -/
theorem targetVal_eq (hf : r.Entry f) (data : FeatureData) :
    f.targetVal data = Json.at? f.names (data.of f.target) := by
  rw [Feature.targetVal, Features.targetVal_eq, hf.path, refreshNames_of_ok hf.ok hf.names_ne_nil hf.lone]
  exact follow_eq_at? hf.names_ne_nil _

end Resources.Entry

end Gocator.Features
