import Mathlib.Algebra.Ring.Nat
import VCalendar.Text.Quoted

/-!
# Reading quoted text back

Every character between quotes can be told from what is written of it, whichever quotes
are used and whatever stands behind it. Main statement: different texts are quoted
differently, and none like the word for a text that is missing.
-/

namespace VCalendar.Text

variable {q c : Char} {cs ds rest : List Char}

/-! ## Hexadecimal digits -/

def hexValue (c : Char) : Nat :=
  "0123456789abcdef".toList.idxOf c

def ofHexDigits (cs : List Char) : Nat :=
  cs.foldl (fun n c => 16 * n + hexValue c) 0

theorem hexValue_hexDigit (n : Nat) : hexValue (hexDigit n) = n % 16 := by
  have hdigits : ∀ k < 16, hexValue ("0123456789abcdef".toList.getD k '0') = k := by decide
  exact hdigits _ (Nat.mod_lt n (by decide))

theorem length_hexDigits (width n : Nat) : (hexDigits width n).length = width := by
  induction width generalizing n with
  | zero => rfl
  | succ width ih => rw [hexDigits, List.length_append, ih, List.length_singleton]

theorem ofHexDigits_hexDigits (width n : Nat) :
    ofHexDigits (hexDigits width n) = n % 16 ^ width := by
  induction width generalizing n with
  | zero => rw [Nat.pow_zero, Nat.mod_one, hexDigits, ofHexDigits, List.foldl_nil]
  | succ width ih =>
      have hfront : (hexDigits width (n / 16)).foldl (fun n c => 16 * n + hexValue c) 0 =
          n / 16 % 16 ^ width := ih (n / 16)
      rw [hexDigits, ofHexDigits, List.foldl_append, List.foldl_cons, List.foldl_nil, hfront,
        hexValue_hexDigit, Nat.pow_succ', Nat.mod_mul, Nat.add_comm]

/-! ## Single characters -/

/-- The character that so many hexadecimal digits stand for, and the rest. -/
def unquoteHex (width : Nat) (cs : List Char) : Option (Char × List Char) :=
  some (Char.ofNat (ofHexDigits (cs.take width)), cs.drop width)

/-- The first character of what is written between quotes, and the rest. -/
def unquoteChar : List Char → Option (Char × List Char)
  | [] => none
  | '\\' :: 't' :: rest => some ('\t', rest)
  | '\\' :: 'n' :: rest => some ('\n', rest)
  | '\\' :: 'r' :: rest => some ('\r', rest)
  | '\\' :: 'x' :: rest => unquoteHex 2 rest
  | '\\' :: 'u' :: rest => unquoteHex 4 rest
  | '\\' :: 'U' :: rest => unquoteHex 8 rest
  | '\\' :: c :: rest => some (c, rest)
  | c :: rest => some (c, rest)

theorem unquoteHex_hexDigits {width : Nat} (h : c.toNat < 16 ^ width) (rest : List Char) :
    unquoteHex width (hexDigits width c.toNat ++ rest) = some (c, rest) := by
  have hlength : (hexDigits width c.toNat).length = width := length_hexDigits _ _
  rw [unquoteHex, List.take_left' hlength, List.drop_left' hlength, ofHexDigits_hexDigits,
    Nat.mod_eq_of_lt h, Char.ofNat_toNat]

/-- The two marks that text is quoted with. -/
theorem quoteMark_cases (cs : List Char) : quoteMark cs = '\'' ∨ quoteMark cs = '"' := by
  unfold quoteMark
  split
  · exact .inr rfl
  · exact .inl rfl

theorem unquoteChar_quoteChar (hq : q = '\'' ∨ q = '"') (c : Char) (rest : List Char) :
    unquoteChar (quoteChar q c ++ rest) = some (c, rest) := by
  unfold quoteChar
  split
  · -- neither a quote nor a backslash is one of the letters that stand for others
    rename_i hmark
    have hc : c = '\'' ∨ c = '"' ∨ c = '\\' := by
      rcases hmark with rfl | rfl
      · exact hq.imp_right .inl
      · exact .inr (.inr rfl)
    rcases hc with rfl | rfl | rfl <;> rfl
  rename_i hmark
  have hbackslash : c ≠ '\\' := fun h => hmark (.inr h)
  split
  · rename_i htab
    rw [htab]
    rfl
  split
  · rename_i hfeed
    rw [hfeed]
    rfl
  split
  · rename_i hreturn
    rw [hreturn]
    rfl
  split
  · rw [List.singleton_append, unquoteChar]
    all_goals simp [hbackslash]
  split
  · rename_i hsmall
    exact unquoteHex_hexDigits hsmall rest
  split
  · rename_i hsmall
    exact unquoteHex_hexDigits hsmall rest
  · have hvalid : c.toNat < 0xd800 ∨ 0xdfff < c.toNat ∧ c.toNat < 0x110000 := c.valid
    exact unquoteHex_hexDigits (by omega) rest

/-! ## Texts -/

theorem flatMap_quoteChar_inj (hq : q = '\'' ∨ q = '"')
    (h : cs.flatMap (quoteChar q) = ds.flatMap (quoteChar q)) : cs = ds := by
  induction cs generalizing ds with
  | nil =>
      cases ds with
      | nil => rfl
      | cons d ds =>
          have hread := unquoteChar_quoteChar hq d (ds.flatMap (quoteChar q))
          rw [← List.flatMap_cons, ← h] at hread
          cases hread
  | cons c cs ih =>
      have hread := unquoteChar_quoteChar hq c (cs.flatMap (quoteChar q))
      rw [← List.flatMap_cons, h] at hread
      cases ds with
      | nil => cases hread
      | cons d ds =>
          rw [List.flatMap_cons, unquoteChar_quoteChar hq] at hread
          obtain ⟨rfl, hrest⟩ := Prod.mk.inj (Option.some.inj hread)
          rw [ih hrest.symm]

/-- Quoted text begins and ends with its quotes. -/
theorem quoteChars_inj (h : quoteChars cs = quoteChars ds) : cs = ds := by
  obtain ⟨hmark, hrest⟩ := List.cons.inj h
  rw [hmark] at hrest
  have hinner := List.append_cancel_right hrest
  exact flatMap_quoteChar_inj (quoteMark_cases ds) hinner

theorem quote_inj {s s' : String} (h : quote s = quote s') : s = s' :=
  String.toList_inj.mp (quoteChars_inj (String.ofList_injective h))

theorem quote_ne_none (s : String) : quote s ≠ "None" := by
  intro h
  have hmark : quoteMark s.toList = 'N' := by
    have hchars : quoteChars s.toList = "None".toList := by
      rw [← h, quote, String.toList_ofList]
    exact (List.cons.inj hchars).1
  rcases quoteMark_cases s.toList with hcase | hcase
  · exact absurd (hcase.symm.trans hmark) (by decide)
  · exact absurd (hcase.symm.trans hmark) (by decide)

/-- **Quoting loses nothing.** -/
theorem quote?_inj {s s' : Option String} (h : quote? s = quote? s') : s = s' := by
  cases s with
  | none =>
      cases s' with
      | none => rfl
      | some s' => exact absurd h.symm (quote_ne_none s')
  | some s =>
      cases s' with
      | none => exact absurd h (quote_ne_none s)
      | some s' => exact congrArg some (quote_inj h)

end VCalendar.Text
