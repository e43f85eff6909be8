/-
Texts that are JSON values as a program writes them without spaces: whole numbers, numbers with a fixed
count of decimal places, the literal names and objects put together of such texts. Reading such a text
gives the value back, whatever follows it in a longer one.
-/
import Gocator.Lib.Decimal
import Gocator.Lib.JsonText

namespace JsonText

/-- What can follow a value: the end of the text, or a character that belongs to the value around it. -/
def Ends (rest : List Char) : Prop := ∀ c, rest.head? = some c → c = ',' ∨ c = '\x7d' ∨ c = ']'

/-- The text is read as this value. -/
def Writes (cs : List Char) (v : Json) : Prop := ∀ rest, Ends rest → read (cs ++ rest) = some (v, rest)

theorem ends_nil : Ends [] := fun _ h => by cases h

theorem ends_cons {c : Char} {rest : List Char} (h : c = ',' ∨ c = '\x7d' ∨ c = ']') : Ends (c :: rest) := by
  rintro d ⟨⟩
  exact h

/-- The value of the whole text. -/
theorem Writes.parse {cs : List Char} {v : Json} (h : Writes cs v) : parse (String.ofList cs) = some v := by
  have hread := h [] ends_nil
  rw [List.append_nil] at hread
  unfold JsonText.parse
  rw [String.toList_ofList, hread]
  rfl

/-- A space in front of a value is skipped. -/
theorem Writes.space {cs : List Char} {v : Json} (h : Writes cs v) : Writes (' ' :: cs) v := by
  intro rest hrest
  have hskip : skipSpace (' ' :: (cs ++ rest)) = skipSpace (cs ++ rest) := rfl
  have hread := h rest hrest
  rw [read_eq] at hread ⊢
  unfold oneValue at hread ⊢
  rwa [List.cons_append, hskip]

theorem writes_true : Writes "true".toList (.bool true) := fun rest _ => read_true rest

theorem writes_false : Writes "false".toList (.bool false) := fun rest _ => read_false rest

/-! ## Numbers -/

/-- What can follow the digits of a number: neither a digit nor a point. -/
def Stops (rest : List Char) : Prop := ∀ c, rest.head? = some c → c.isDigit = false ∧ c ≠ '.'

theorem Ends.stops {rest : List Char} (h : Ends rest) : Stops rest := by
  intro c hc
  rcases h c hc with rfl | rfl | rfl <;> decide

/-- The text behind the digits is read as the exponent. -/
def WritesExponent (es : List Char) (e : Int) : Prop :=
  ∀ rest, Ends rest → Stops (es ++ rest) ∧ exponent (es ++ rest) = some (e, rest)

/-- No exponent. -/
theorem writesExponent_nil : WritesExponent [] 0 := by
  intro rest hrest
  refine ⟨hrest.stops, ?_⟩
  cases rest with
  | nil => rfl
  | cons c rest =>
    have hc : c ≠ 'e' ∧ c ≠ 'E' := by rcases hrest c rfl with rfl | rfl | rfl <;> decide
    exact if_neg (not_or.2 hc)

/-- The digits of a whole number do not start with a superfluous zero. -/
theorem toDigits_plain (n : Nat) : ¬ (Nat.toDigits 10 n = [] ∨
    ((Nat.toDigits 10 n).head? = some '0' ∧ (Nat.toDigits 10 n).length ≠ 1)) := by
  rcases Digits.toDigits_cases n with ⟨-, h⟩ | ⟨d, ds, h, hd⟩
  · rw [h]
    decide
  · rw [h]
    rintro (hnil | ⟨hhead, -⟩)
    · cases hnil
    · exact hd (Option.some.inj hhead)

/-- The digits behind the decimal point, if there are any, with the point before them. -/
def pointed : List Char → List Char
  | [] => []
  | ds => '.' :: ds

theorem fraction_pointed {ds rest : List Char} (hds : ∀ c ∈ ds, c.isDigit = true) (h : Stops rest) :
    fraction (pointed ds ++ rest) = some (ds, rest) := by
  cases ds with
  | nil =>
    show fraction rest = some ([], rest)
    unfold fraction
    split
    · exact absurd rfl (h _ rfl).2
    · rfl
  | cons d ds =>
    obtain ⟨htake, hdrop⟩ := takeWhile_digits hds fun c hc => (h c hc).1
    show fraction ('.' :: (d :: ds ++ rest)) = some (d :: ds, rest)
    simp only [fraction, htake, hdrop, List.cons_ne_nil, if_false]

/-- A number of digits before and behind the point, with an exponent. -/
theorem unsigned_pointed (n : Nat) {ds es rest : List Char} {e : Int} (hds : ∀ c ∈ ds, c.isDigit = true)
    (hes : WritesExponent es e) (h : Ends rest) : unsigned (Nat.toDigits 10 n ++ (pointed ds ++ (es ++ rest))) =
      some (scaled (Digits.value (Nat.toDigits 10 n ++ ds)) (e - ds.length), rest) := by
  obtain ⟨hstops, hexponent⟩ := hes rest h
  have hint : ∀ c ∈ Nat.toDigits 10 n, c.isDigit = true := List.all_eq_true.1 (Digits.all_isDigit_toDigits n)
  have hstop : ∀ c, (pointed ds ++ (es ++ rest)).head? = some c → c.isDigit = false := by
    intro c hc
    cases ds with
    | nil => exact (hstops c hc).1
    | cons d ds => cases hc; rfl
  obtain ⟨htake, hdrop⟩ := takeWhile_digits hint hstop
  unfold unsigned
  dsimp only
  rw [htake, hdrop, if_neg (toDigits_plain n), fraction_pointed hds hstops, Option.bind_some]
  dsimp only
  rw [hexponent, Option.map_some]

theorem number_of_digit {c : Char} (hc : c.isDigit = true) (cs : List Char) :
    number (c :: cs) = unsigned (c :: cs) := by
  unfold number
  split
  · rename_i heq
    rw [(List.cons.inj heq).1] at hc
    exact absurd hc (by decide)
  · rfl

/-- A number with digits behind the point, with a minus in front or without. -/
def signed (negative : Bool) (n : Nat) (ds : List Char) : List Char :=
  (if negative then ['-'] else []) ++ (Nat.toDigits 10 n ++ pointed ds)

/-- A number with an exponent behind it. -/
theorem writes_scientific (negative : Bool) (n : Nat) {ds es : List Char} {e : Int} (hds : ∀ c ∈ ds, c.isDigit = true)
    (hes : WritesExponent es e) : Writes (signed negative n ds ++ es) (.num ((if negative then -1 else 1) *
      scaled (Digits.value (Nat.toDigits 10 n ++ ds)) (e - ds.length))) := by
  intro rest hrest
  have hunsigned := unsigned_pointed n hds hes hrest
  obtain ⟨d, int, hd⟩ := List.exists_cons_of_ne_nil (Nat.toDigits_ne_nil (b := 10) (n := n))
  have hdigit : d.isDigit = true :=
    List.all_eq_true.1 (Digits.all_isDigit_toDigits n) d (by rw [hd]; exact List.mem_cons_self ..)
  cases negative with
  | false =>
    have htext : signed false n ds ++ es ++ rest = d :: (int ++ (pointed ds ++ (es ++ rest))) := by
      simp only [signed, Bool.false_eq_true, if_false, List.nil_append, hd, List.cons_append, List.append_assoc]
    rw [hd, List.cons_append] at hunsigned
    rw [htext, read_number (.inl hdigit), number_of_digit hdigit, hunsigned, hd]
    simp
  | true =>
    have htext : signed true n ds ++ es ++ rest = '-' :: (Nat.toDigits 10 n ++ (pointed ds ++ (es ++ rest))) := by
      simp only [signed, if_true, List.nil_append, List.append_assoc, List.cons_append]
    rw [htext, read_number (.inr rfl), number, hunsigned]
    simp

theorem writes_signed (negative : Bool) (n : Nat) {ds : List Char} (hds : ∀ c ∈ ds, c.isDigit = true) :
    Writes (signed negative n ds) (.num ((if negative then -1 else 1) *
      scaled (Digits.value (Nat.toDigits 10 n ++ ds)) (-(ds.length : Int)))) := by
  have h := writes_scientific negative n hds writesExponent_nil
  rwa [List.append_nil, Int.zero_sub] at h

/-- A whole number. -/
theorem writes_int (i : Int) : Writes (toString i).toList (.num i) := by
  have hempty : ∀ c ∈ ([] : List Char), c.isDigit = true := nofun
  cases i with
  | ofNat n =>
    have hlist : (toString (Int.ofNat n)).toList = signed false n [] := by
      rw [show (toString (Int.ofNat n)).toList = Nat.toDigits 10 n from Nat.toList_repr]
      simp [signed, pointed]
    have h := writes_signed false n hempty
    rw [hlist]
    simpa [scaled_zero, Digits.value_toDigits] using h
  | negSucc n =>
    have hlist : (toString (Int.negSucc n)).toList = signed true (n + 1) [] := by
      show ("-" ++ Nat.repr (n + 1)).toList = _
      rw [String.toList_append, Nat.toList_repr]
      simp [signed, pointed]
    have h := writes_signed true (n + 1) hempty
    rw [hlist]
    have hneg : ((Int.negSucc n : Int) : Rat) = -((n : Rat) + 1) := by
      rw [Int.negSucc_eq]
      push_cast
      ring
    simpa [scaled_zero, Digits.value_toDigits, hneg] using h

/-! ## Numbers with a fixed count of decimal places -/

/-- So many units of the last of `d` decimal places. -/
def unitsText (negative : Bool) (d n : Nat) : List Char := signed negative (n / 10 ^ d) (Decimal.lastDigits d n)

/-- A number as it is printed with `d` decimal places. -/
def fixedText (d : Nat) (x : Rat) : List Char := unitsText (x < 0) d (Decimal.roundEven (|x| * 10 ^ d)).toNat

theorem isDigit_lastDigits (k n : Nat) : ∀ c ∈ Decimal.lastDigits k n, c.isDigit = true := by
  induction k generalizing n with
  | zero => intro c hc; cases hc
  | succ k ih =>
    intro c hc
    rcases List.mem_append.1 hc with hc | hc
    · exact ih (n / 10) c hc
    · rw [List.mem_singleton.1 hc, Nat.isDigit_digitChar]
      exact decide_eq_true (Nat.mod_lt _ (by decide))

/-- More digits behind those of a number. -/
theorem value_append_lastDigits (cs : List Char) (k n : Nat) :
    Digits.value (cs ++ Decimal.lastDigits k n) = Digits.value cs * 10 ^ k + n % 10 ^ k := by
  induction k generalizing n with
  | zero => simp [Decimal.lastDigits, Nat.mod_one]
  | succ k ih =>
    have hmod : n % 10 < 10 := Nat.mod_lt _ (by decide)
    have hsplit : n % 10 ^ (k + 1) = n % 10 + 10 * (n / 10 % 10 ^ k) := by
      rw [pow_succ, Nat.mul_comm, Nat.mod_mul]
    rw [Decimal.lastDigits, ← List.append_assoc, Digits.value_append_singleton, ih,
      Nat.toNat_digitChar_sub_48_of_lt_ten hmod, hsplit, pow_succ]
    ring

/-- The digits in front of the point and those behind it. -/
theorem value_units (d n : Nat) : Digits.value (Nat.toDigits 10 (n / 10 ^ d) ++ Decimal.lastDigits d n) = n := by
  rw [value_append_lastDigits, Digits.value_toDigits, Nat.mul_comm]
  exact Nat.div_add_mod n (10 ^ d)

/-- The text with `d` decimal places is read as the nearest number with so many. -/
theorem writes_fixed (d : Nat) (x : Rat) : Writes (fixedText d x) (.num (Decimal.fixed d x)) := by
  have hscaled : ∀ n : Nat, scaled n (-(d : Int)) = n / 10 ^ d := by
    intro n
    have hpos : (Int.toNat (-(d : Int))) = 0 := by omega
    have hneg : Int.toNat (- -(d : Int)) = d := by omega
    unfold scaled
    rw [hpos, hneg, Rat.mkRat_eq_div]
    push_cast
    simp
  have hnonneg : 0 ≤ Decimal.roundEven (|x| * 10 ^ d) := Decimal.roundEven_nonneg (by positivity)
  generalize hn : (Decimal.roundEven (|x| * 10 ^ d)).toNat = n
  have hcast : ((n : Nat) : Rat) = Decimal.roundEven (|x| * 10 ^ d) := by
    have h : ((n : Nat) : Int) = Decimal.roundEven (|x| * 10 ^ d) := by omega
    exact_mod_cast congrArg (Int.cast (R := Rat)) h
  have h := writes_signed (x < 0) (n / 10 ^ d) (isDigit_lastDigits d n)
  rw [value_units, Decimal.length_lastDigits, hscaled, hcast] at h
  unfold fixedText unitsText Decimal.fixed
  rw [hn]
  simpa using h

/-! ## Objects -/

/-- The members of an object: the name of each, the text of its value and the value. -/
abbrev Entries := List (String × List Char × Json)

def memberText (m : String × List Char × Json) : List Char := '"' :: m.1.toList ++ '"' :: ':' :: m.2.1

/-- The members with commas between them. -/
def membersText : Entries → List Char
  | [] => []
  | [m] => memberText m
  | m :: ms => memberText m ++ ',' :: membersText ms

theorem membersText_concat (m : String × List Char × Json) : ∀ {ms : Entries}, ms ≠ [] →
    membersText (ms ++ [m]) = membersText ms ++ ',' :: memberText m
  | [m'], _ => rfl
  | m' :: m'' :: ms, _ => by
    have ih := membersText_concat m (List.cons_ne_nil m'' ms)
    simp only [List.cons_append] at ih ⊢
    simp only [membersText, ih, List.append_assoc, List.cons_append]

/-- The text of an object. -/
def objectText (ms : Entries) : List Char := '{' :: (membersText ms ++ ['}'])

/-- The members that are read: of two with one name the second counts. -/
def objectMembers (ms : Entries) : List (String × Json) :=
  ms.foldl (fun acc m => SortedMap.set m.1 m.2.2 acc) []

theorem member_memberText {m : String × List Char × Json} (hk : ∀ c ∈ m.1.toList, Literal c) (hv : Writes m.2.1 m.2.2)
    (rest : List Char) (hrest : Ends rest) : member read (memberText m ++ rest) = some ((m.1, m.2.2), rest) := by
  have htext : memberText m ++ rest = '"' :: m.1.toList ++ '"' :: ':' :: (m.2.1 ++ rest) := by
    simp only [memberText, List.cons_append, List.append_assoc]
  rw [htext, member_eq (name_eq hk _) (hv rest hrest), String.ofList_toList]

theorem members_membersText : ∀ {ms : Entries}, ms ≠ [] →
    (∀ m ∈ ms, (∀ c ∈ m.1.toList, Literal c) ∧ Writes m.2.1 m.2.2) → ∀ (acc : List (String × Json)) (rest : List Char),
      members read ((membersText ms ++ '}' :: rest).length + 1) acc (membersText ms ++ '}' :: rest) =
        some (ms.foldl (fun acc m => SortedMap.set m.1 m.2.2 acc) acc, rest)
  | [m], _, h, acc, rest => by
    obtain ⟨hk, hv⟩ := h m (List.mem_singleton_self m)
    exact members_end (member_memberText hk hv _ (ends_cons (.inr (.inl rfl)))) _ acc
  | m :: m' :: ms, _, h, acc, rest => by
    obtain ⟨hk, hv⟩ := h m (List.mem_cons_self ..)
    have htext : membersText (m :: m' :: ms) ++ '}' :: rest =
        memberText m ++ ',' :: (membersText (m' :: ms) ++ '}' :: rest) := by
      simp only [membersText, List.append_assoc, List.cons_append]
    have hm := member_memberText hk hv (',' :: (membersText (m' :: ms) ++ '}' :: rest)) (ends_cons (.inl rfl))
    rw [htext, members_comma read_takes (Nat.lt_succ_self _) hm]
    exact members_membersText (List.cons_ne_nil _ _) (fun x hx => h x (List.mem_cons_of_mem _ hx)) _ rest

theorem writes_object {ms : Entries} (hne : ms ≠ [])
    (h : ∀ m ∈ ms, (∀ c ∈ m.1.toList, Literal c) ∧ Writes m.2.1 m.2.2) :
    Writes (objectText ms) (.obj (objectMembers ms)) := by
  intro rest _
  have htext : objectText ms ++ rest = '{' :: (membersText ms ++ '}' :: rest) := by
    simp only [objectText, List.cons_append, List.append_assoc, List.nil_append]
  have hhead : (membersText ms ++ '}' :: rest).head? = some '"' := by
    cases ms with
    | nil => exact absurd rfl hne
    | cons m ms => cases ms <;> rfl
  rw [htext, read_brace, object_eq hhead, members_membersText hne h]
  rfl

/-- Of two members the one with the smaller name comes first. -/
theorem objectMembers_pair {k l : String} (h : k < l) (a b : List Char) (v w : Json) :
    objectMembers [(k, a, v), (l, b, w)] = [(k, v), (l, w)] := by
  simp only [objectMembers, List.foldl_cons, List.foldl_nil, SortedMap.set_nil]
  rw [SortedMap.set_cons_of_gt h, SortedMap.set_nil]

theorem objectMembers_swapped {k l : String} (h : l < k) (a b : List Char) (v w : Json) :
    objectMembers [(k, a, v), (l, b, w)] = [(l, w), (k, v)] := by
  simp only [objectMembers, List.foldl_cons, List.foldl_nil, SortedMap.set_nil]
  rw [SortedMap.set_cons_of_lt h]

/-- An object with one member. -/
theorem writes_single {k : String} {cs : List Char} {v : Json} (hk : ∀ c ∈ k.toList, Literal c) (hv : Writes cs v) :
    Writes (objectText [(k, cs, v)]) (.obj [(k, v)]) := by
  refine writes_object (List.cons_ne_nil _ _) fun m hm => ?_
  rw [List.mem_singleton.1 hm]
  exact ⟨hk, hv⟩

end JsonText
