/-
Strings in JSON texts, as RFC 8259 has them: characters that stand for themselves, escapes, and code
units in hexadecimal digits, of which two surrogates make one character. A string is read from behind its
opening quotation mark, and what follows the closing one is given back.
-/
import Gocator.Lib.Digits

namespace JsonText

/-! ## Characters of a string -/

def hexDigit? (c : Char) : Option Nat :=
  if c.isDigit then some (c.toNat - 48)
  else if 'a' ≤ c ∧ c ≤ 'f' then some (c.toNat - 87)
  else if 'A' ≤ c ∧ c ≤ 'F' then some (c.toNat - 55)
  else none

/-- The number that four hexadecimal digits denote. -/
def codeUnit (a b c d : Char) : Option Nat := do
  return 4096 * (← hexDigit? a) + 256 * (← hexDigit? b) + 16 * (← hexDigit? c) + (← hexDigit? d)

/-- The character for which this one stands behind a backslash. -/
def escaped? : Char → Option Char
  | '\x22' => some '\x22'
  | '\\' => some '\\'
  | '/' => some '/'
  | 'b' => some '\x08'
  | 'f' => some '\x0c'
  | 'n' => some '\n'
  | 'r' => some '\r'
  | 't' => some '\t'
  | _ => none

/-- The character of a surrogate pair. -/
def surrogatePair (high low : Nat) : Option Char :=
  if 0xDC00 ≤ low ∧ low ≤ 0xDFFF then some (Char.ofNat (0x10000 + 0x400 * (high - 0xD800) + (low - 0xDC00)))
  else none

/-- The character whose first half, written `\u`, is followed by the second. -/
def lowSurrogate (high : Nat) : List Char → Option (Char × List Char)
  | '\\' :: 'u' :: a :: b :: c :: d :: cs =>
    ((codeUnit a b c d).bind (surrogatePair high)).map fun e => (e, cs)
  | _ => none

/-- The character of a code unit, which may be the first half of a pair. -/
def fromUnit (unit : Nat) (cs : List Char) : Option (Char × List Char) :=
  if 0xD800 ≤ unit ∧ unit ≤ 0xDBFF then lowSurrogate unit cs
  else if 0xDC00 ≤ unit ∧ unit ≤ 0xDFFF then none
  else some (Char.ofNat unit, cs)

/-- The character that stands in a text behind `\u`. -/
def unicode : List Char → Option (Char × List Char)
  | a :: b :: c :: d :: cs => (codeUnit a b c d).bind (fromUnit · cs)
  | _ => none

/-- The characters that stand for themselves in a string. -/
def Literal (c : Char) : Prop := c ≠ '\x22' ∧ c ≠ '\\' ∧ 0x20 ≤ c.toNat

instance (c : Char) : Decidable (Literal c) := inferInstanceAs (Decidable (_ ∧ _ ∧ _))

-- characters are finite, so the instance for lists has to be named
instance decidableLiterals (cs : List Char) : Decidable (∀ c ∈ cs, Literal c) := List.decidableBAll _ cs

/-- The next character of a string, unless the string ends. -/
def char? : List Char → Option (Char × List Char)
  | '\\' :: 'u' :: cs => unicode cs
  | '\\' :: c :: cs => (escaped? c).map fun e => (e, cs)
  | c :: cs => if Literal c then some (c, cs) else none
  | [] => none

theorem hexDigit?_quote : hexDigit? '\x22' = none := by decide

/-- No digit of a code unit is a quotation mark. -/
theorem quote_not_mem_codeUnit {a b c d : Char} {n : Nat} (h : codeUnit a b c d = some n) :
    '\x22' ∉ [a, b, c, d] := by
  intro hm
  simp only [List.mem_cons, List.not_mem_nil, or_false] at hm
  unfold codeUnit at h
  rcases hm with rfl | rfl | rfl | rfl
  · rw [hexDigit?_quote] at h
    cases h
  · rw [hexDigit?_quote] at h
    cases ha : hexDigit? a <;> rw [ha] at h <;> cases h
  · rw [hexDigit?_quote] at h
    cases ha : hexDigit? a <;> cases hb : hexDigit? b <;> rw [ha, hb] at h <;> cases h
  · rw [hexDigit?_quote] at h
    cases ha : hexDigit? a <;> cases hb : hexDigit? b <;> cases hc : hexDigit? c <;> rw [ha, hb, hc] at h <;> cases h

theorem lowSurrogate_spec {high : Nat} {cs rest : List Char} {c : Char} (h : lowSurrogate high cs = some (c, rest)) :
    ∃ raw, cs = raw ++ rest ∧ '\x22' ∉ raw := by
  unfold lowSurrogate at h
  split at h
  · rename_i a b x d cs
    obtain ⟨e, he, heq⟩ := Option.map_eq_some_iff.1 h
    obtain ⟨low, hlow, -⟩ := Option.bind_eq_some_iff.1 he
    cases heq
    refine ⟨['\\', 'u'] ++ [a, b, x, d], rfl, ?_⟩
    rw [List.mem_append, not_or]
    exact ⟨by decide, quote_not_mem_codeUnit hlow⟩
  · cases h

theorem fromUnit_spec {unit : Nat} {cs rest : List Char} {c : Char} (h : fromUnit unit cs = some (c, rest)) :
    ∃ raw, cs = raw ++ rest ∧ '\x22' ∉ raw := by
  unfold fromUnit at h
  split at h
  · exact lowSurrogate_spec h
  · split at h
    · cases h
    · cases h
      exact ⟨[], rfl, List.not_mem_nil⟩

theorem unicode_spec {cs rest : List Char} {c : Char} (h : unicode cs = some (c, rest)) :
    ∃ raw, cs = raw ++ rest ∧ '\x22' ∉ raw := by
  unfold unicode at h
  split at h
  · rename_i a b x d cs
    obtain ⟨unit, hunit, hfrom⟩ := Option.bind_eq_some_iff.1 h
    obtain ⟨raw, rfl, hraw⟩ := fromUnit_spec hfrom
    refine ⟨[a, b, x, d] ++ raw, rfl, ?_⟩
    rw [List.mem_append, not_or]
    exact ⟨quote_not_mem_codeUnit hunit, hraw⟩
  · cases h

/-- What a character is read from: itself, or something longer that starts with a backslash, in which a
quotation mark stands only right behind the backslash. -/
theorem char?_spec {cs rest : List Char} {c : Char} (h : char? cs = some (c, rest)) :
    (Literal c ∧ cs = c :: rest) ∨ (cs = '\\' :: '\x22' :: rest) ∨
      ∃ raw, cs = '\\' :: raw ++ rest ∧ raw ≠ [] ∧ '\x22' ∉ raw := by
  unfold char? at h
  split at h
  · obtain ⟨raw, rfl, hraw⟩ := unicode_spec h
    refine .inr (.inr ⟨'u' :: raw, rfl, List.cons_ne_nil _ _, ?_⟩)
    rw [List.mem_cons, not_or]
    exact ⟨by decide, hraw⟩
  · rename_i e cs _
    obtain ⟨e', he, heq⟩ := Option.map_eq_some_iff.1 h
    cases heq
    by_cases hq : e = '\x22'
    · exact .inr (.inl (by rw [hq]))
    · refine .inr (.inr ⟨[e], rfl, List.cons_ne_nil _ _, ?_⟩)
      rw [List.mem_singleton]
      exact Ne.symm hq
  · split at h
    · rename_i hlit
      cases h
      exact .inl ⟨hlit, rfl⟩
    · cases h
  · cases h

theorem char?_length {cs rest : List Char} {c : Char} (h : char? cs = some (c, rest)) : rest.length < cs.length := by
  rcases char?_spec h with ⟨-, rfl⟩ | rfl | ⟨raw, rfl, hne, -⟩
  · exact Nat.lt_succ_self _
  · simp only [List.length_cons]
    omega
  · simp only [List.length_append, List.length_cons]
    omega

theorem char?_literal {c : Char} (h : Literal c) (cs : List Char) : char? (c :: cs) = some (c, cs) := by
  unfold char?
  split
  · rename_i heq; cases heq; exact absurd rfl h.2.1
  · rename_i heq; cases heq; exact absurd rfl h.2.1
  · rename_i heq; cases heq; exact if_pos h
  · rename_i heq; cases heq

theorem char?_none {c : Char} (hbackslash : c ≠ '\\') (h : ¬ Literal c) (cs : List Char) :
    char? (c :: cs) = none := by
  unfold char?
  split
  · rename_i heq; cases heq; exact absurd rfl hbackslash
  · rename_i heq; cases heq; exact absurd rfl hbackslash
  · rename_i heq; cases heq; exact if_neg h
  · rfl

theorem char?_escaped {c e : Char} (h : escaped? c = some e) (cs : List Char) :
    char? ('\\' :: c :: cs) = some (e, cs) := by
  unfold char?
  split
  · rename_i heq; cases heq; cases h
  · rename_i heq; cases heq; rw [h]; rfl
  · rename_i hesc heq; cases heq; exact absurd rfl (hesc c cs rfl)
  · rename_i heq; cases heq

/-! ## Strings -/

/-- The characters up to the closing quotation mark. -/
def chars : Nat → List Char → Option (List Char × List Char)
  | 0, _ => none
  | _ + 1, '\x22' :: cs => some ([], cs)
  | fuel + 1, cs => (char? cs).bind fun p => (chars fuel p.2).map fun q => (p.1 :: q.1, q.2)

/-- A string after its opening quotation mark. -/
def string (cs : List Char) : Option (List Char × List Char) := chars (cs.length + 1) cs

theorem chars_quote (fuel : Nat) (cs : List Char) : chars (fuel + 1) ('\x22' :: cs) = some ([], cs) := by
  rw [chars]

theorem chars_succ {cs : List Char} (h : ∀ rest, cs ≠ '\x22' :: rest) (fuel : Nat) :
    chars (fuel + 1) cs = (char? cs).bind fun p => (chars fuel p.2).map fun q => (p.1 :: q.1, q.2) := by
  rw [chars]
  exact fun rest heq => h rest heq

/-- Fuel beyond the length of the text changes nothing. -/
theorem chars_fuel {fuel : Nat} : ∀ {fuel' : Nat} {cs : List Char}, cs.length < fuel → cs.length < fuel' →
    chars fuel cs = chars fuel' cs := by
  induction fuel with
  | zero => exact fun h _ => absurd h (Nat.not_lt_zero _)
  | succ fuel ih =>
    intro fuel' cs h h'
    obtain ⟨fuel', rfl⟩ := Nat.exists_eq_add_one_of_ne_zero (Nat.ne_zero_of_lt h')
    by_cases hq : ∃ rest, cs = '\x22' :: rest
    · obtain ⟨rest, rfl⟩ := hq
      rw [chars_quote, chars_quote]
    · have hne : ∀ rest, cs ≠ '\x22' :: rest := fun rest heq => hq ⟨rest, heq⟩
      rw [chars_succ hne, chars_succ hne]
      cases hc : char? cs with
      | none => rfl
      | some p =>
        have hlt : p.2.length < cs.length := char?_length hc
        have hrest : chars fuel p.2 = chars fuel' p.2 := ih (by omega) (by omega)
        rw [Option.bind_some, Option.bind_some, hrest]

theorem string_quote (cs : List Char) : string ('\x22' :: cs) = some ([], cs) := chars_quote ..

theorem string_cons {cs cs' : List Char} {c : Char} (h : char? cs = some (c, cs')) :
    string cs = (string cs').map fun q => (c :: q.1, q.2) := by
  have hne : ∀ rest, cs ≠ '\x22' :: rest := by
    rintro rest rfl
    cases h
  have hlt := char?_length h
  rw [string, chars_succ hne, h, Option.bind_some, chars_fuel hlt (Nat.lt_succ_self _), string]

theorem string_none {cs : List Char} (hne : ∀ rest, cs ≠ '\x22' :: rest) (h : char? cs = none) :
    string cs = none := by
  rw [string, chars_succ hne, h, Option.bind_none]

/-- A property of what a string is read from, what it holds and what is left holds when it holds of the empty
string and is kept by one more character in front. -/
theorem string_induction {motive : List Char → List Char → List Char → Prop}
    (quote : ∀ rest, motive ('\x22' :: rest) [] rest)
    (char : ∀ cs c cs' s rest, char? cs = some (c, cs') → motive cs' s rest → motive cs (c :: s) rest)
    {cs s rest : List Char} (h : string cs = some (s, rest)) : motive cs s rest := by
  induction hn : cs.length using Nat.strongRecOn generalizing cs s with
  | ind n ih =>
    by_cases hq : ∃ cs', cs = '\x22' :: cs'
    · obtain ⟨cs', rfl⟩ := hq
      rw [string_quote] at h
      cases h
      exact quote rest
    · have hne : ∀ cs', cs ≠ '\x22' :: cs' := fun cs' heq => hq ⟨cs', heq⟩
      cases hc : char? cs with
      | none =>
        rw [string_none hne hc] at h
        cases h
      | some p =>
        obtain ⟨c, cs'⟩ := p
        rw [string_cons hc] at h
        obtain ⟨q, hq, heq⟩ := Option.map_eq_some_iff.1 h
        cases heq
        have hlt := char?_length hc
        exact char cs c cs' q.1 q.2 hc (ih cs'.length (by omega) hq rfl)

/-- Characters that stand for themselves are read as they are. -/
theorem string_literals {s : List Char} (h : ∀ c ∈ s, Literal c) (rest : List Char) :
    string (s ++ '\x22' :: rest) = some (s, rest) := by
  induction s with
  | nil => exact string_quote rest
  | cons c s ih =>
    rw [List.cons_append, string_cons (char?_literal (h c (List.mem_cons_self ..)) _),
      ih fun c hc => h c (List.mem_cons_of_mem _ hc)]
    rfl

/-- A string holds no more characters than it is written with, and fewer when one of them is written
otherwise than as itself. -/
theorem string_raw {cs s rest : List Char} (h : string cs = some (s, rest)) :
    ∃ raw, cs = raw ++ '\x22' :: rest ∧ s.length ≤ raw.length ∧
      (raw.length ≤ s.length → s = raw ∧ ∀ c ∈ raw, Literal c) := by
  refine string_induction (motive := fun cs s rest => ∃ raw, cs = raw ++ '\x22' :: rest ∧ s.length ≤ raw.length ∧
      (raw.length ≤ s.length → s = raw ∧ ∀ c ∈ raw, Literal c)) (fun rest => ?_) (fun cs c cs' s rest hc ih => ?_) h
  · exact ⟨[], rfl, Nat.le_refl _, fun _ => ⟨rfl, fun _ hm => absurd hm List.not_mem_nil⟩⟩
  · obtain ⟨raw, rfl, hle, hall⟩ := ih
    rcases char?_spec hc with ⟨hlit, rfl⟩ | rfl | ⟨esc, rfl, hne, -⟩
    · refine ⟨c :: raw, rfl, Nat.succ_le_succ hle, ?_⟩
      intro hlen
      obtain ⟨rfl, hlits⟩ := hall (Nat.le_of_succ_le_succ hlen)
      exact ⟨rfl, List.forall_mem_cons.2 ⟨hlit, hlits⟩⟩
    · refine ⟨'\\' :: '\x22' :: raw, rfl, ?_, ?_⟩
      · simp only [List.length_cons]
        omega
      · intro hlen
        simp only [List.length_cons] at hlen
        omega
    · have hpos := List.length_pos_iff.2 hne
      refine ⟨'\\' :: esc ++ raw, by simp only [List.cons_append, List.append_assoc], ?_, ?_⟩
      · simp only [List.length_cons, List.length_append]
        omega
      · intro hlen
        simp only [List.length_cons, List.length_append] at hlen
        omega

theorem getLast?_of_append {α : Type} {xs ys : List α} {a : α} (h : (xs ++ ys).getLast? ≠ some a) :
    ys.getLast? ≠ some a := by
  intro hys
  rw [List.getLast?_append, hys] at h
  exact h rfl

/-- Where a part read from the front of a text ends before a quotation mark, the mark is still to be read. -/
theorem read_before {raw cs' xs post : List Char} (h : raw ++ cs' = xs ++ '\x22' :: post) :
    (∃ ys, xs = raw ++ ys ∧ cs' = ys ++ '\x22' :: post) ∨ ∃ ys, raw = xs ++ '\x22' :: ys := by
  rcases List.append_eq_append_iff.1 h with ⟨ys, rfl, rfl⟩ | ⟨ys, rfl, hys⟩
  · exact .inl ⟨ys, rfl, rfl⟩
  · cases ys with
    | nil => exact .inl ⟨[], by rw [List.append_nil, List.append_nil], hys.symm⟩
    | cons y ys => exact .inr ⟨ys, by rw [(List.cons.inj hys).1]⟩

/-- A quotation mark that no backslash precedes ends a string, if it has not ended before. -/
theorem string_stops {cs s rest : List Char} (h : string cs = some (s, rest)) : ∀ {xs post : List Char},
    cs = xs ++ '\x22' :: post → xs.getLast? ≠ some '\\' → post.length ≤ rest.length := by
  refine string_induction (motive := fun cs _ rest => ∀ {xs post : List Char}, cs = xs ++ '\x22' :: post →
      xs.getLast? ≠ some '\\' → post.length ≤ rest.length) (fun rest => ?_) (fun cs c cs' s rest hc ih => ?_) h
  · intro xs post heq _
    have hlen := congrArg List.length heq
    simp only [List.length_cons, List.length_append] at hlen
    omega
  · intro xs post heq hlast
    have hstep : ∀ raw, cs = raw ++ cs' → (∀ ys, raw ≠ xs ++ '\x22' :: ys) → post.length ≤ rest.length := by
      intro raw hraw hno
      rcases read_before (hraw.symm.trans heq) with ⟨ys, rfl, hys⟩ | ⟨ys, hys⟩
      · exact ih hys (getLast?_of_append hlast)
      · exact absurd hys (hno ys)
    rcases char?_spec hc with ⟨hlit, rfl⟩ | rfl | ⟨esc, rfl, -, hnot⟩
    · refine hstep [c] rfl ?_
      intro ys hys
      have hm : '\x22' ∈ [c] := by
        rw [hys]
        exact List.mem_append_right _ (List.mem_cons_self ..)
      exact hlit.1 (List.mem_singleton.1 hm).symm
    · refine hstep ['\\', '\x22'] rfl ?_
      intro ys hys
      match xs, hys, hlast with
      | [x], hys, hlast => exact hlast (by rw [← (List.cons.inj hys).1]; rfl)
      | x :: y :: zs, hys, _ =>
        have hlen := congrArg List.length hys
        simp only [List.length_cons, List.length_append, List.length_nil] at hlen
        omega
    · refine hstep ('\\' :: esc) rfl ?_
      intro ys hys
      have hm : '\x22' ∈ '\\' :: esc := by
        rw [hys]
        exact List.mem_append_right _ (List.mem_cons_self ..)
      rcases List.mem_cons.1 hm with heq | hm
      · exact absurd heq (by decide)
      · exact hnot hm

/-- A string read from a text in front of a quotation mark that no backslash precedes is no longer than that
text, and as long only when it is that text, of which then every character stands for itself. -/
theorem string_within {xs post s rest : List Char} (h : string (xs ++ '\x22' :: post) = some (s, rest))
    (hlast : xs.getLast? ≠ some '\\') :
    s.length ≤ xs.length ∧ (s.length = xs.length → s = xs ∧ ∀ c ∈ xs, Literal c) := by
  have hstop := string_stops h rfl hlast
  obtain ⟨raw, hraw, hle, hall⟩ := string_raw h
  have hlen := congrArg List.length hraw
  simp only [List.length_append, List.length_cons] at hlen
  refine ⟨by omega, ?_⟩
  intro heq
  have hlen' : xs.length = raw.length := by omega
  obtain ⟨rfl, hlits⟩ := hall (by omega)
  rw [(List.append_inj hraw hlen').1]
  exact ⟨rfl, hlits⟩

end JsonText
