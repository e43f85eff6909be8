/-
JSON texts after RFC 8259. Every reader takes a value from the front of a text and gives back what it has
not read; of the members of an object with one name the last counts. The nesting of values and the loops
over elements and members run on fuel: as much as the text is long is enough, and more changes nothing.
-/
import Gocator.Lib.JsonString

namespace JsonText

/-! ## Numbers -/

/-- The digits behind a decimal point, if there is one. -/
def fraction : List Char → Option (List Char × List Char)
  | '.' :: cs =>
    if cs.takeWhile Char.isDigit = [] then none
    else some (cs.takeWhile Char.isDigit, cs.dropWhile Char.isDigit)
  | cs => some ([], cs)

def exponentDigits (sign : Int) (cs : List Char) : Option (Int × List Char) :=
  if cs.takeWhile Char.isDigit = [] then none
  else some (sign * Digits.value (cs.takeWhile Char.isDigit), cs.dropWhile Char.isDigit)

/-- The exponent, if there is one. -/
def exponent : List Char → Option (Int × List Char)
  | [] => some (0, [])
  | c :: cs =>
    if c = 'e' ∨ c = 'E' then
      match cs with
      | '-' :: cs => exponentDigits (-1) cs
      | '+' :: cs => exponentDigits 1 cs
      | cs => exponentDigits 1 cs
    else some (0, c :: cs)

/-- A number times a power of ten. -/
def scaled (n : Nat) (e : Int) : Rat := mkRat (n * Nat.pow 10 e.toNat : Nat) (Nat.pow 10 (-e).toNat)

/-- A number without a sign: only a single digit may be a zero in front. -/
def unsigned (cs : List Char) : Option (Rat × List Char) :=
  let int := cs.takeWhile Char.isDigit
  if int = [] ∨ (int.head? = some '0' ∧ int.length ≠ 1) then none
  else
    (fraction (cs.dropWhile Char.isDigit)).bind fun p =>
      (exponent p.2).map fun q => (scaled (Digits.value (int ++ p.1)) (q.1 - p.1.length), q.2)

def number : List Char → Option (Rat × List Char)
  | '-' :: cs => (unsigned cs).map fun p => (-p.1, p.2)
  | cs => unsigned cs

/-! ## Values -/

def isSpace (c : Char) : Bool := c = ' ' || c = '\t' || c = '\n' || c = '\r'

def skipSpace (cs : List Char) : List Char := cs.dropWhile isSpace

/-- What reads a value from the front of a text. -/
abbrev Reader := List Char → Option (Json × List Char)

/-- The rest of a literal name. -/
def word (w : List Char) (v : Json) (cs : List Char) : Option (Json × List Char) :=
  if w.isPrefixOf cs then some (v, cs.drop w.length) else none

section

variable (read : Reader)

/-- The elements of an array up to its end. -/
def elements : Nat → List Char → Option (List Json × List Char)
  | 0, _ => none
  | fuel + 1, cs =>
    match read cs with
    | none => none
    | some (v, cs) =>
      match skipSpace cs with
      | ',' :: cs => (elements fuel cs).map fun p => (v :: p.1, p.2)
      | ']' :: cs => some ([v], cs)
      | _ => none

def array (cs : List Char) : Option (Json × List Char) :=
  match skipSpace cs with
  | ']' :: cs => some (.arr [], cs)
  | _ => (elements read (cs.length + 1) cs).map fun p => (.arr p.1, p.2)

/-- A name and the colon behind it. -/
def name (cs : List Char) : Option (String × List Char) :=
  match skipSpace cs with
  | '\x22' :: cs =>
    match string cs with
    | none => none
    | some (k, cs) =>
      match skipSpace cs with
      | ':' :: cs => some (String.ofList k, cs)
      | _ => none
  | _ => none

/-- A name and its value. -/
def member (cs : List Char) : Option ((String × Json) × List Char) :=
  (name cs).bind fun p => (read p.2).map fun q => ((p.1, q.1), q.2)

/-- The members of an object up to its end, added to those before. -/
def members : Nat → List (String × Json) → List Char → Option (List (String × Json) × List Char)
  | 0, _, _ => none
  | fuel + 1, ms, cs =>
    match member read cs with
    | none => none
    | some (m, cs) =>
      match skipSpace cs with
      | ',' :: cs => members fuel (SortedMap.set m.1 m.2 ms) cs
      | '\x7d' :: cs => some (SortedMap.set m.1 m.2 ms, cs)
      | _ => none

def object (cs : List Char) : Option (Json × List Char) :=
  match skipSpace cs with
  | '\x7d' :: cs => some (.obj [], cs)
  | _ => (members read (cs.length + 1) [] cs).map fun p => (.obj p.1, p.2)

/-- A value, whose parts the reader reads. -/
def oneValue (cs : List Char) : Option (Json × List Char) :=
  match skipSpace cs with
  | [] => none
  | c :: cs =>
    if c = '\x22' then (string cs).map fun p => (.str (String.ofList p.1), p.2)
    else if c = '[' then array read cs
    else if c = '\x7b' then object read cs
    else if c = 't' then word ['r', 'u', 'e'] (.bool true) cs
    else if c = 'f' then word ['a', 'l', 's', 'e'] (.bool false) cs
    else if c = 'n' then word ['u', 'l', 'l'] .null cs
    else (number (c :: cs)).map fun p => (.num p.1, p.2)

end

/-- A value with at most so many others around it. -/
def value : Nat → Reader
  | 0 => fun _ => none
  | depth + 1 => oneValue (value depth)

def read : Reader := fun cs => value (cs.length + 1) cs

/-- The value of a text that holds one value and nothing else but space. Numbers of any size are read, and a byte order
mark in front is not passed over. -/
def parse (text : String) : Option Json :=
  match read text.toList with
  | some (v, cs) => if skipSpace cs = [] then some v else none
  | none => none

/-! ## What is left -/

/-- What is left of a text after something was read from its front. -/
def Left (rest cs : List Char) : Prop := rest <:+ cs ∧ rest.length < cs.length

theorem Left.trans {a b c : List Char} (h : Left a b) (h' : Left b c) : Left a c :=
  ⟨h.1.trans h'.1, h.2.trans h'.2⟩

theorem Left.trans_suffix {a b c : List Char} (h : Left a b) (h' : b <:+ c) : Left a c :=
  ⟨h.1.trans h', Nat.lt_of_lt_of_le h.2 h'.length_le⟩

theorem Left.suffix_trans {a b c : List Char} (h : a <:+ b) (h' : Left b c) : Left a c :=
  ⟨h.trans h'.1, Nat.lt_of_le_of_lt h.length_le h'.2⟩

theorem left_cons (c : Char) (cs : List Char) : Left cs (c :: cs) := ⟨List.suffix_cons c cs, Nat.lt_succ_self _⟩

theorem skipSpace_suffix (cs : List Char) : skipSpace cs <:+ cs := List.dropWhile_suffix _

theorem left_of_skipSpace {cs rest : List Char} {c : Char} (h : skipSpace cs = c :: rest) : Left rest cs :=
  (left_cons c rest).trans_suffix (h ▸ skipSpace_suffix cs)

theorem string_left {cs s rest : List Char} (h : string cs = some (s, rest)) : Left rest cs := by
  obtain ⟨raw, rfl, -, -⟩ := string_raw h
  exact (left_cons _ rest).trans_suffix (List.suffix_append raw _)

theorem fraction_suffix {cs ds rest : List Char} (h : fraction cs = some (ds, rest)) : rest <:+ cs := by
  unfold fraction at h
  split at h
  · split at h
    · cases h
    · cases h
      exact (List.dropWhile_suffix _).trans (List.suffix_cons ..)
  · cases h
    exact List.suffix_refl _

theorem exponentDigits_suffix {sign e : Int} {cs rest : List Char} (h : exponentDigits sign cs = some (e, rest)) :
    rest <:+ cs := by
  unfold exponentDigits at h
  split at h
  · cases h
  · cases h
    exact List.dropWhile_suffix _

theorem exponent_suffix {e : Int} {cs rest : List Char} (h : exponent cs = some (e, rest)) : rest <:+ cs := by
  unfold exponent at h
  split at h
  · cases h
    exact List.suffix_refl _
  · split at h
    · split at h
      · exact ((exponentDigits_suffix h).trans (List.suffix_cons ..)).trans (List.suffix_cons ..)
      · exact ((exponentDigits_suffix h).trans (List.suffix_cons ..)).trans (List.suffix_cons ..)
      · exact (exponentDigits_suffix h).trans (List.suffix_cons ..)
    · cases h
      exact List.suffix_refl _

theorem unsigned_left {q : Rat} {cs rest : List Char} (h : unsigned cs = some (q, rest)) : Left rest cs := by
  unfold unsigned at h
  dsimp only at h
  split at h
  · cases h
  · rename_i hint
    obtain ⟨p, hp, h⟩ := Option.bind_eq_some_iff.1 h
    obtain ⟨r, hr, heq⟩ := Option.map_eq_some_iff.1 h
    cases heq
    have hsuf : r.2 <:+ cs.dropWhile Char.isDigit := (exponent_suffix hr).trans (fraction_suffix hp)
    refine ⟨hsuf.trans (List.dropWhile_suffix _), ?_⟩
    have hpos := List.length_pos_iff.2 (not_or.1 hint).1
    have hlen := congrArg List.length (List.takeWhile_append_dropWhile (p := Char.isDigit) (l := cs))
    have hle := hsuf.length_le
    rw [List.length_append] at hlen
    omega

theorem number_left {q : Rat} {cs rest : List Char} (h : number cs = some (q, rest)) : Left rest cs := by
  unfold number at h
  split at h
  · obtain ⟨p, hp, heq⟩ := Option.map_eq_some_iff.1 h
    cases heq
    exact (unsigned_left hp).trans (left_cons ..)
  · exact unsigned_left h

theorem name_left {cs rest : List Char} {k : String} (h : name cs = some (k, rest)) : Left rest cs := by
  unfold name at h
  split at h
  · rename_i cs₁ hquote
    split at h
    · cases h
    · rename_i s cs₂ hs
      split at h
      · rename_i cs₃ hcolon
        cases h
        exact ((left_of_skipSpace hcolon).trans (string_left hs)).trans (left_of_skipSpace hquote)
      · cases h
  · cases h

/-- The reader takes something from the front of every text from which it reads a value. -/
def Takes (r : Reader) : Prop := ∀ cs v rest, r cs = some (v, rest) → Left rest cs

section

variable {r r' : Reader}

theorem member_eq_some {cs rest : List Char} {m : String × Json} (h : member r cs = some (m, rest)) :
    ∃ cs', name cs = some (m.1, cs') ∧ r cs' = some (m.2, rest) := by
  obtain ⟨p, hp, h⟩ := Option.bind_eq_some_iff.1 h
  obtain ⟨q, hq, heq⟩ := Option.map_eq_some_iff.1 h
  cases heq
  exact ⟨p.2, hp, hq⟩

theorem member_left (hr : Takes r) {cs rest : List Char} {m : String × Json} (h : member r cs = some (m, rest)) :
    Left rest cs := by
  obtain ⟨cs', hname, hv⟩ := member_eq_some h
  exact (hr cs' m.2 rest hv).trans (name_left hname)

/-- What one round of the loop over the elements reads and what the loop then does. -/
theorem elements_succ {fuel : Nat} {cs rest : List Char} {vs : List Json}
    (h : elements r (fuel + 1) cs = some (vs, rest)) : ∃ v cs', r cs = some (v, cs') ∧
      ((skipSpace cs' = ']' :: rest ∧ vs = [v]) ∨
        ∃ cs'' vs', skipSpace cs' = ',' :: cs'' ∧ elements r fuel cs'' = some (vs', rest) ∧ vs = v :: vs') := by
  rw [elements] at h
  split at h
  · cases h
  · rename_i v cs' hv
    refine ⟨v, cs', hv, ?_⟩
    split at h
    · rename_i cs'' hcomma
      obtain ⟨p, hp, heq⟩ := Option.map_eq_some_iff.1 h
      cases heq
      exact .inr ⟨cs'', p.1, hcomma, hp, rfl⟩
    · rename_i cs'' hend
      cases h
      exact .inl ⟨hend, rfl⟩
    · cases h

theorem members_succ {fuel : Nat} {cs rest : List Char} {ms ms' : List (String × Json)}
    (h : members r (fuel + 1) ms cs = some (ms', rest)) : ∃ m cs', member r cs = some (m, cs') ∧
      ((skipSpace cs' = '\x7d' :: rest ∧ ms' = SortedMap.set m.1 m.2 ms) ∨
        ∃ cs'', skipSpace cs' = ',' :: cs'' ∧ members r fuel (SortedMap.set m.1 m.2 ms) cs'' = some (ms', rest)) := by
  rw [members] at h
  split at h
  · cases h
  · rename_i m cs' hm
    refine ⟨m, cs', hm, ?_⟩
    split at h
    · rename_i cs'' hcomma
      exact .inr ⟨cs'', hcomma, h⟩
    · rename_i cs'' hend
      cases h
      exact .inl ⟨hend, rfl⟩
    · cases h

theorem elements_left (hr : Takes r) : ∀ {fuel : Nat} {cs rest : List Char} {vs : List Json},
    elements r fuel cs = some (vs, rest) → Left rest cs
  | 0, _, _, _, h => by cases h
  | fuel + 1, cs, rest, vs, h => by
    obtain ⟨v, cs', hv, hrest⟩ := elements_succ h
    have hleft := hr cs v cs' hv
    rcases hrest with ⟨hend, -⟩ | ⟨cs'', vs', hcomma, hvs, -⟩
    · exact (left_of_skipSpace hend).trans hleft
    · exact ((elements_left hr hvs).trans (left_of_skipSpace hcomma)).trans hleft

theorem members_left (hr : Takes r) : ∀ {fuel : Nat} {cs rest : List Char} {ms ms' : List (String × Json)},
    members r fuel ms cs = some (ms', rest) → Left rest cs
  | 0, _, _, _, _, h => by cases h
  | fuel + 1, cs, rest, ms, ms', h => by
    obtain ⟨m, cs', hm, hrest⟩ := members_succ h
    have hleft := member_left hr hm
    rcases hrest with ⟨hend, -⟩ | ⟨cs'', hcomma, hms⟩
    · exact (left_of_skipSpace hend).trans hleft
    · exact ((members_left hr hms).trans (left_of_skipSpace hcomma)).trans hleft

theorem array_cases {cs rest : List Char} {v : Json} (h : array r cs = some (v, rest)) :
    (skipSpace cs = ']' :: rest ∧ v = .arr []) ∨
      ∃ vs, elements r (cs.length + 1) cs = some (vs, rest) ∧ v = .arr vs := by
  unfold array at h
  split at h
  · rename_i cs' hend
    cases h
    exact .inl ⟨hend, rfl⟩
  · obtain ⟨p, hp, heq⟩ := Option.map_eq_some_iff.1 h
    cases heq
    exact .inr ⟨p.1, hp, rfl⟩

theorem object_cases {cs rest : List Char} {v : Json} (h : object r cs = some (v, rest)) :
    (skipSpace cs = '\x7d' :: rest ∧ v = .obj []) ∨
      ∃ ms, members r (cs.length + 1) [] cs = some (ms, rest) ∧ v = .obj ms := by
  unfold object at h
  split at h
  · rename_i cs' hend
    cases h
    exact .inl ⟨hend, rfl⟩
  · obtain ⟨p, hp, heq⟩ := Option.map_eq_some_iff.1 h
    cases heq
    exact .inr ⟨p.1, hp, rfl⟩

/-- A value without parts that is no string. -/
def Scalar (v : Json) : Prop := (∀ s, v ≠ .str s) ∧ (∀ vs, v ≠ .arr vs) ∧ ∀ ms, v ≠ .obj ms

theorem word_scalar {w cs rest : List Char} {v v' : Json} (hv : Scalar v) (h : word w v cs = some (v', rest)) :
    Scalar v' ∧ rest <:+ cs := by
  unfold word at h
  split at h
  · cases h
    exact ⟨hv, List.drop_suffix _ _⟩
  · cases h

/-- What a value is read from: its first character decides. -/
theorem oneValue_cases {cs rest : List Char} {v : Json} (h : oneValue r cs = some (v, rest)) :
    (∃ cs' s, skipSpace cs = '\x22' :: cs' ∧ string cs' = some (s, rest) ∧ v = .str (String.ofList s)) ∨
    (∃ cs', skipSpace cs = '[' :: cs' ∧ array r cs' = some (v, rest)) ∨
    (∃ cs', skipSpace cs = '\x7b' :: cs' ∧ object r cs' = some (v, rest)) ∨ (Left rest cs ∧ Scalar v) := by
  unfold oneValue at h
  split at h
  · cases h
  · rename_i c cs' hc
    have hleft : Left cs' cs := left_of_skipSpace hc
    split at h
    · rename_i hquote
      obtain ⟨p, hp, heq⟩ := Option.map_eq_some_iff.1 h
      cases heq
      exact .inl ⟨cs', p.1, hquote ▸ hc, hp, rfl⟩
    split at h
    · rename_i hbracket
      exact .inr (.inl ⟨cs', hbracket ▸ hc, h⟩)
    split at h
    · rename_i hbrace
      exact .inr (.inr (.inl ⟨cs', hbrace ▸ hc, h⟩))
    refine .inr (.inr (.inr ?_))
    have hscalar : Scalar (.bool true) ∧ Scalar (.bool false) ∧ Scalar .null := by simp [Scalar]
    split at h
    · obtain ⟨hv, hsuf⟩ := word_scalar hscalar.1 h
      exact ⟨hleft.suffix_trans hsuf, hv⟩
    split at h
    · obtain ⟨hv, hsuf⟩ := word_scalar hscalar.2.1 h
      exact ⟨hleft.suffix_trans hsuf, hv⟩
    split at h
    · obtain ⟨hv, hsuf⟩ := word_scalar hscalar.2.2 h
      exact ⟨hleft.suffix_trans hsuf, hv⟩
    · obtain ⟨p, hp, heq⟩ := Option.map_eq_some_iff.1 h
      cases heq
      exact ⟨(number_left hp).trans_suffix (hc ▸ skipSpace_suffix cs), by simp [Scalar]⟩

theorem oneValue_takes (hr : Takes r) : Takes (oneValue r) := by
  intro cs v rest h
  rcases oneValue_cases h with ⟨cs', s, hc, hs, -⟩ | ⟨cs', hc, harray⟩ | ⟨cs', hc, hobject⟩ | ⟨hleft, -⟩
  · exact (string_left hs).trans (left_of_skipSpace hc)
  · refine Left.trans ?_ (left_of_skipSpace hc)
    rcases array_cases harray with ⟨hend, -⟩ | ⟨vs, hvs, -⟩
    · exact left_of_skipSpace hend
    · exact elements_left hr hvs
  · refine Left.trans ?_ (left_of_skipSpace hc)
    rcases object_cases hobject with ⟨hend, -⟩ | ⟨ms, hms, -⟩
    · exact left_of_skipSpace hend
    · exact members_left hr hms
  · exact hleft

end

theorem value_takes : ∀ depth : Nat, Takes (value depth)
  | 0 => fun _ _ _ h => by cases h
  | depth + 1 => oneValue_takes (value_takes depth)

theorem read_takes : Takes read := fun cs => value_takes _ cs

/-! ## Fuel -/

section

variable {r r' : Reader}

/-- The two readers read the same from texts of at most this length. -/
def SameUpTo (n : Nat) (r r' : Reader) : Prop := ∀ cs : List Char, cs.length ≤ n → r cs = r' cs

theorem SameUpTo.mono {n m : Nat} (h : SameUpTo n r r') (hle : m ≤ n) : SameUpTo m r r' :=
  fun cs hcs => h cs (hcs.trans hle)

theorem elements_congr (hr : Takes r) {fuel : Nat} : ∀ {fuel' : Nat} {cs : List Char}, cs.length < fuel →
    cs.length < fuel' → SameUpTo cs.length r r' → elements r fuel cs = elements r' fuel' cs := by
  induction fuel with
  | zero => exact fun h _ _ => absurd h (Nat.not_lt_zero _)
  | succ fuel ih =>
    intro fuel' cs h h' hsame
    obtain ⟨fuel', rfl⟩ := Nat.exists_eq_add_one_of_ne_zero (Nat.ne_zero_of_lt h')
    rw [elements, elements, ← hsame cs (Nat.le_refl _)]
    cases hv : r cs with
    | none => rfl
    | some p =>
      dsimp only
      split
      · rename_i cs' hcomma
        have hlt := ((left_of_skipSpace hcomma).trans (hr cs p.1 p.2 hv)).2
        have hrest : elements r fuel cs' = elements r' fuel' cs' := ih (by omega) (by omega) (hsame.mono hlt.le)
        rw [hrest]
      · rfl
      · rfl

theorem member_congr {cs : List Char} (hsame : SameUpTo cs.length r r') : member r cs = member r' cs := by
  unfold member
  cases hname : name cs with
  | none => rfl
  | some p =>
    have hlt : p.2.length < cs.length := (name_left hname).2
    rw [Option.bind_some, Option.bind_some, hsame p.2 hlt.le]

theorem members_congr (hr : Takes r) {fuel : Nat} : ∀ {fuel' : Nat} {cs : List Char} {ms : List (String × Json)},
    cs.length < fuel → cs.length < fuel' → SameUpTo cs.length r r' → members r fuel ms cs = members r' fuel' ms cs := by
  induction fuel with
  | zero => exact fun h _ _ => absurd h (Nat.not_lt_zero _)
  | succ fuel ih =>
    intro fuel' cs ms h h' hsame
    obtain ⟨fuel', rfl⟩ := Nat.exists_eq_add_one_of_ne_zero (Nat.ne_zero_of_lt h')
    rw [members, members, ← member_congr hsame]
    cases hm : member r cs with
    | none => rfl
    | some p =>
      dsimp only
      split
      · rename_i cs' hcomma
        have hlt : cs'.length < cs.length := ((left_of_skipSpace hcomma).trans (member_left hr hm)).2
        exact ih (by omega) (by omega) (hsame.mono hlt.le)
      · rfl
      · rfl

theorem array_congr (hr : Takes r) {cs : List Char} (hsame : SameUpTo cs.length r r') : array r cs = array r' cs := by
  unfold array
  rw [elements_congr hr (Nat.lt_succ_self _) (Nat.lt_succ_self _) hsame]

theorem object_congr (hr : Takes r) {cs : List Char} (hsame : SameUpTo cs.length r r') :
    object r cs = object r' cs := by
  unfold object
  rw [members_congr hr (Nat.lt_succ_self _) (Nat.lt_succ_self _) hsame]

/-- A value is read like its parts, which are shorter. -/
theorem oneValue_congr (hr : Takes r) {cs : List Char} (hsame : ∀ n, n < cs.length → SameUpTo n r r') :
    oneValue r cs = oneValue r' cs := by
  unfold oneValue
  split
  · rfl
  · rename_i c cs' hc
    have hlt := (left_of_skipSpace hc).2
    rw [array_congr hr (hsame _ hlt), object_congr hr (hsame _ hlt)]

end

theorem value_congr {depth : Nat} : ∀ {depth' : Nat} {cs : List Char}, cs.length < depth → cs.length < depth' →
    value depth cs = value depth' cs := by
  induction depth with
  | zero => exact fun h _ => absurd h (Nat.not_lt_zero _)
  | succ depth ih =>
    intro depth' cs h h'
    obtain ⟨depth', rfl⟩ := Nat.exists_eq_add_one_of_ne_zero (Nat.ne_zero_of_lt h')
    refine oneValue_congr (value_takes depth) ?_
    intro n hn cs' hcs'
    exact ih (by omega) (by omega)

/-- The reader reads the parts of a value like values of their own. -/
theorem read_eq (cs : List Char) : read cs = oneValue read cs := by
  refine oneValue_congr (value_takes _) ?_
  intro n hn cs' hcs'
  exact value_congr (by omega) (Nat.lt_succ_self _)

/-! ## The lengths of strings -/

/-- Every string that can be read behind a quotation mark of the text is shorter. -/
def ShortStrings (n : Nat) (text : List Char) : Prop :=
  ∀ body s rest, '\x22' :: body <:+ text → string body = some (s, rest) → s.length < n

theorem ShortStrings.suffix {n : Nat} {text text' : List Char} (h : ShortStrings n text) (hsuf : text' <:+ text) :
    ShortStrings n text' :=
  fun body s rest hbody => h body s rest (hbody.trans hsuf)

theorem shortStrings_cons {n : Nat} {c : Char} {text : List Char} (h : ShortStrings n text)
    (hc : c = '\x22' → ∀ s rest, string text = some (s, rest) → s.length < n) : ShortStrings n (c :: text) := by
  intro body s rest hbody hs
  rcases List.suffix_cons_iff.1 hbody with heq | hsuf
  · obtain ⟨rfl, rfl⟩ := List.cons.inj heq
    exact hc rfl s rest hs
  · exact h body s rest hsuf hs

theorem shortStrings_of_length {n : Nat} {text : List Char} (h : text.length ≤ n) : ShortStrings n text := by
  intro body s rest hbody hs
  obtain ⟨raw, rfl, hle, -⟩ := string_raw hs
  have hlen := hbody.length_le
  simp only [List.length_cons, List.length_append] at hlen
  omega

/-- No string that starts in a text goes beyond the quotation mark behind it, unless a backslash precedes. -/
theorem shortStrings_append {n : Nat} {post : List Char} (hpost : ShortStrings n ('\x22' :: post)) :
    ∀ {xs : List Char}, xs.getLast? ≠ some '\\' → xs.length ≤ n → ShortStrings n (xs ++ '\x22' :: post)
  | [], _, _ => hpost
  | x :: xs, hlast, hle => by
    have hlast' : xs.getLast? ≠ some '\\' :=
      getLast?_of_append (show ([x] ++ xs).getLast? ≠ some '\\' from hlast)
    simp only [List.length_cons] at hle
    refine shortStrings_cons (shortStrings_append hpost hlast' (by omega)) ?_
    rintro - s rest hs
    have hwithin := (string_within hs hlast').1
    omega

/-- A string of characters that stand for themselves, and what follows it. -/
theorem shortStrings_literals {n : Nat} {k rest : List Char} (hk : ∀ c ∈ k, Literal c) (hlen : k.length < n)
    (hrest : ShortStrings n ('\x22' :: rest)) : ShortStrings n ('\x22' :: (k ++ '\x22' :: rest)) := by
  have hinner : ∀ {k : List Char}, (∀ c ∈ k, Literal c) → ShortStrings n (k ++ '\x22' :: rest) := by
    intro k
    induction k with
    | nil => exact fun _ => hrest
    | cons c k ih =>
      intro hk
      have hc := hk c (List.mem_cons_self ..)
      exact shortStrings_cons (ih fun c hc => hk c (List.mem_cons_of_mem _ hc)) fun heq => absurd heq hc.1
  refine shortStrings_cons (hinner hk) ?_
  rintro - s rest' hs
  rw [string_literals hk] at hs
  cases hs
  exact hlen

/-- A string is read behind a quotation mark of the text. -/
theorem read_str {cs rest : List Char} {s : String} (h : read cs = some (.str s, rest)) :
    ∃ body, '\x22' :: body <:+ cs ∧ string body = some (s.toList, rest) := by
  rw [read_eq] at h
  rcases oneValue_cases h with ⟨cs', s', hc, hs, heq⟩ | ⟨cs', -, harray⟩ | ⟨cs', -, hobject⟩ | ⟨-, hscalar⟩
  · cases heq
    rw [String.toList_ofList]
    exact ⟨cs', hc ▸ skipSpace_suffix cs, hs⟩
  · rcases array_cases harray with ⟨-, heq⟩ | ⟨vs, -, heq⟩ <;> cases heq
  · rcases object_cases hobject with ⟨-, heq⟩ | ⟨ms, -, heq⟩ <;> cases heq
  · exact absurd rfl (hscalar.1 s)

/-- A member that is a string is as short as the strings of the text. -/
theorem members_short {n : Nat} : ∀ {fuel : Nat} {cs rest : List Char} {ms ms' : List (String × Json)},
    members read fuel ms cs = some (ms', rest) → ShortStrings n cs →
    (∀ k s, SortedMap.get? k ms = some (.str s) → s.toList.length < n) →
    ∀ k s, SortedMap.get? k ms' = some (.str s) → s.toList.length < n
  | 0, _, _, _, _, h, _, _ => by cases h
  | fuel + 1, cs, rest, ms, ms', h, hshort, hms => by
    obtain ⟨m, cs', hm, hrest⟩ := members_succ h
    obtain ⟨cs₁, hname, hv⟩ := member_eq_some hm
    have hset : ∀ k s, SortedMap.get? k (SortedMap.set m.1 m.2 ms) = some (.str s) → s.toList.length < n := by
      intro k s hs
      by_cases hk : k = m.1
      · rw [hk, SortedMap.get?_set_self] at hs
        rw [Option.some.inj hs] at hv
        obtain ⟨body, hbody, hstring⟩ := read_str hv
        exact hshort body _ _ (hbody.trans (name_left hname).1) hstring
      · rw [SortedMap.get?_set_of_ne hk] at hs
        exact hms k s hs
    rcases hrest with ⟨-, rfl⟩ | ⟨cs'', hcomma, htail⟩
    · exact hset
    · have hleft := (left_of_skipSpace hcomma).trans (member_left read_takes hm)
      exact members_short htail (hshort.suffix hleft.1) hset

theorem read_obj {cs rest : List Char} {ms : List (String × Json)} (h : read cs = some (.obj ms, rest)) :
    ms = [] ∨ ∃ cs' fuel, cs' <:+ cs ∧ members read fuel [] cs' = some (ms, rest) := by
  rw [read_eq] at h
  rcases oneValue_cases h with ⟨cs', s, -, -, heq⟩ | ⟨cs', -, harray⟩ | ⟨cs', hc, hobject⟩ | ⟨-, hscalar⟩
  · cases heq
  · rcases array_cases harray with ⟨-, heq⟩ | ⟨vs, -, heq⟩ <;> cases heq
  · rcases object_cases hobject with ⟨-, heq⟩ | ⟨ms', hms, heq⟩
    · cases heq
      exact .inl rfl
    · cases heq
      exact .inr ⟨cs', _, (left_of_skipSpace hc).1, hms⟩
  · exact absurd rfl (hscalar.2.2 ms)

/-- A string that is a member of the value of a text is as short as the strings of the text. -/
theorem parse_short {n : Nat} {text : String} {j : Json} (h : parse text = some j) (hshort : ShortStrings n text.toList)
    {k s : String} (hs : j.get? k = some (.str s)) : s.toList.length < n := by
  unfold parse at h
  split at h
  · rename_i v cs hread
    split at h
    · cases h
      cases j with
      | obj ms =>
        have hms : SortedMap.get? k ms = some (.str s) := hs
        rcases read_obj hread with rfl | ⟨cs', fuel, hsuf, hmembers⟩
        · cases hms
        · exact members_short hmembers (hshort.suffix hsuf) (fun _ _ hnil => by cases hnil) k s hms
      | _ => cases hs
    · cases h
  · cases h

/-! ## Reading what was written -/

/-- The string that stands in front of a text. -/
theorem read_quote (cs : List Char) :
    read ('\x22' :: cs) = (string cs).map fun p => (.str (String.ofList p.1), p.2) := by
  rw [read_eq]
  rfl

theorem read_brace (cs : List Char) : read ('\x7b' :: cs) = object read cs := by
  rw [read_eq]
  rfl

theorem read_true (cs : List Char) : read ('t' :: 'r' :: 'u' :: 'e' :: cs) = some (.bool true, cs) := by
  rw [read_eq]
  rfl

theorem read_false (cs : List Char) : read ('f' :: 'a' :: 'l' :: 's' :: 'e' :: cs) = some (.bool false, cs) := by
  rw [read_eq]
  rfl

/-- A name of characters that stand for themselves. -/
theorem name_eq {k : List Char} (h : ∀ c ∈ k, Literal c) (cs : List Char) :
    name ('\x22' :: k ++ '\x22' :: ':' :: cs) = some (String.ofList k, cs) := by
  have hskip : skipSpace ('\x22' :: k ++ '\x22' :: ':' :: cs) = '\x22' :: (k ++ '\x22' :: ':' :: cs) := rfl
  unfold name
  rw [hskip]
  simp only [string_literals h]
  rfl

section

variable {r : Reader} {cs cs' rest : List Char} {k : String} {v : Json}

theorem member_eq (hname : name cs = some (k, cs')) (hv : r cs' = some (v, rest)) :
    member r cs = some ((k, v), rest) := by
  rw [member, hname, Option.bind_some, hv, Option.map_some]

/-- A member with a comma behind it. -/
theorem members_comma (hr : Takes r) {fuel : Nat} (hlt : cs.length < fuel)
    (hm : member r cs = some ((k, v), ',' :: rest)) (ms : List (String × Json)) :
    members r fuel ms cs = members r (rest.length + 1) (SortedMap.set k v ms) rest := by
  obtain ⟨fuel, rfl⟩ := Nat.exists_eq_add_one_of_ne_zero (Nat.ne_zero_of_lt hlt)
  have hleft := (member_left hr hm).2
  have hskip : skipSpace (',' :: rest) = ',' :: rest := rfl
  simp only [List.length_cons] at hleft
  rw [members, hm]
  simp only [hskip]
  exact members_congr hr (by omega) (Nat.lt_succ_self _) fun _ _ => rfl

/-- The last member. -/
theorem members_end (hm : member r cs = some ((k, v), '\x7d' :: rest)) (fuel : Nat) (ms : List (String × Json)) :
    members r (fuel + 1) ms cs = some (SortedMap.set k v ms, rest) := by
  have hskip : skipSpace ('\x7d' :: rest) = '\x7d' :: rest := rfl
  rw [members, hm]
  simp only [hskip]

/-- An object that is not empty. -/
theorem object_eq (h : cs.head? = some '\x22') :
    object r cs = (members r (cs.length + 1) [] cs).map fun p => (.obj p.1, p.2) := by
  obtain ⟨cs', rfl⟩ := List.head?_eq_some_iff.1 h
  have hskip : skipSpace ('\x22' :: cs') = '\x22' :: cs' := rfl
  unfold object
  rw [hskip]
  rfl

end

theorem takeWhile_digits {ds rest : List Char} (hds : ∀ c ∈ ds, c.isDigit = true)
    (hrest : ∀ c, rest.head? = some c → c.isDigit = false) :
    (ds ++ rest).takeWhile Char.isDigit = ds ∧ (ds ++ rest).dropWhile Char.isDigit = rest := by
  rw [List.takeWhile_append_of_pos hds, List.dropWhile_append_of_pos hds]
  cases rest with
  | nil => exact ⟨List.append_nil _, rfl⟩
  | cons c rest =>
    have hc := hrest c rfl
    rw [List.takeWhile_cons_of_neg (by rw [hc]; decide), List.dropWhile_cons_of_neg (by rw [hc]; decide),
      List.append_nil]
    exact ⟨rfl, rfl⟩

theorem scaled_zero (n : Nat) : scaled n 0 = n := by
  show mkRat (n * 1 : Nat) 1 = n
  rw [Nat.mul_one, Rat.mkRat_one]
  exact Rat.intCast_natCast n

/-- The digits of a number in front of a character that continues no number. -/
theorem unsigned_toDigits (n : Nat) {c : Char} (hdigit : c.isDigit = false) (hdot : c ≠ '.') (he : c ≠ 'e')
    (hE : c ≠ 'E') (rest : List Char) : unsigned (Nat.toDigits 10 n ++ c :: rest) = some ((n : Rat), c :: rest) := by
  have hds : ∀ d ∈ Nat.toDigits 10 n, d.isDigit = true := List.all_eq_true.1 (Digits.all_isDigit_toDigits n)
  have hstop : ∀ d, (c :: rest).head? = some d → d.isDigit = false := by
    rintro d ⟨⟩
    exact hdigit
  obtain ⟨htake, hdrop⟩ := takeWhile_digits hds hstop
  have hint : ¬ (Nat.toDigits 10 n = [] ∨
      ((Nat.toDigits 10 n).head? = some '0' ∧ (Nat.toDigits 10 n).length ≠ 1)) := by
    rcases Digits.toDigits_cases n with ⟨-, h⟩ | ⟨d, ds, h, hd⟩
    · rw [h]
      decide
    · rw [h]
      rintro (hnil | ⟨hhead, -⟩)
      · cases hnil
      · exact hd (Option.some.inj hhead)
  have hfraction : fraction (c :: rest) = some ([], c :: rest) := by
    unfold fraction
    split
    · rename_i heq
      exact absurd (List.cons.inj heq).1 hdot
    · rfl
  have hexponent : exponent (c :: rest) = some (0, c :: rest) := by
    unfold exponent
    exact if_neg (not_or.2 ⟨he, hE⟩)
  unfold unsigned
  dsimp only
  rw [htake, hdrop, if_neg hint, hfraction, Option.bind_some, hexponent, List.append_nil, Digits.value_toDigits]
  exact congrArg (fun q : Rat => some (q, c :: rest)) (scaled_zero n)

/-- What starts with a digit or with a minus is a number. -/
theorem read_number {c : Char} (h : c.isDigit = true ∨ c = '-') (cs : List Char) :
    read (c :: cs) = (number (c :: cs)).map fun p => (.num p.1, p.2) := by
  have hne : ∀ d : Char, d.isDigit = false → d ≠ '-' → c ≠ d := by
    rintro d hd hminus rfl
    rcases h with h | h
    · rw [hd] at h
      cases h
    · exact hminus h
  have hspace : isSpace c = false := by
    simp [isSpace, hne ' ' (by decide) (by decide), hne '\t' (by decide) (by decide),
      hne '\n' (by decide) (by decide), hne '\r' (by decide) (by decide)]
  have hskip : skipSpace (c :: cs) = c :: cs := List.dropWhile_cons_of_neg (by rw [hspace]; decide)
  rw [read_eq, oneValue, hskip]
  dsimp only
  rw [if_neg (hne _ (by decide) (by decide)), if_neg (hne _ (by decide) (by decide)),
    if_neg (hne _ (by decide) (by decide)), if_neg (hne _ (by decide) (by decide)),
    if_neg (hne _ (by decide) (by decide)), if_neg (hne _ (by decide) (by decide))]

/-- A whole number in front of a comma. -/
theorem read_int (i : Int) (rest : List Char) :
    read ((toString i).toList ++ ',' :: rest) = some (.num i, ',' :: rest) := by
  have hunsigned : ∀ n : Nat, unsigned (Nat.toDigits 10 n ++ ',' :: rest) = some ((n : Rat), ',' :: rest) :=
    fun n => unsigned_toDigits n (by decide) (by decide) (by decide) (by decide) rest
  cases i with
  | ofNat n =>
    have hlist : (toString (Int.ofNat n)).toList = Nat.toDigits 10 n := Nat.toList_repr
    obtain ⟨d, ds, hd⟩ := List.exists_cons_of_ne_nil (Nat.toDigits_ne_nil (b := 10) (n := n))
    have hdigit : d.isDigit = true :=
      List.all_eq_true.1 (Digits.all_isDigit_toDigits n) d (by rw [hd]; exact List.mem_cons_self ..)
    have hnumber : number (Nat.toDigits 10 n ++ ',' :: rest) = unsigned (Nat.toDigits 10 n ++ ',' :: rest) := by
      rw [hd, List.cons_append]
      unfold number
      split
      · rename_i heq
        rw [(List.cons.inj heq).1] at hdigit
        exact absurd hdigit (by decide)
      · rfl
    have hread := read_number (.inl hdigit) (ds ++ ',' :: rest)
    rw [← List.cons_append, ← hd, hnumber, hunsigned] at hread
    rw [hlist, hread]
    rfl
  | negSucc n =>
    have hlist : (toString (Int.negSucc n)).toList = '-' :: Nat.toDigits 10 (n + 1) := by
      show ("-" ++ Nat.repr (n + 1)).toList = _
      rw [String.toList_append, Nat.toList_repr]
      rfl
    have hnumber : number ('-' :: (Nat.toDigits 10 (n + 1) ++ ',' :: rest)) =
        some (-((n + 1 : Nat) : Rat), ',' :: rest) := by
      rw [number, hunsigned]
      rfl
    rw [hlist, List.cons_append, read_number (.inr rfl), hnumber]
    rfl

end JsonText
