import Mathlib.Algebra.Group.Nat.Defs
import ValidatorForge.Source.LiteralToken

/-!
# Reading back string literals

Emitted sources spell texts as string literals with escapes.  A literal is scanned to the text that
it was made from (`scanCooked_literalBody`), and nothing behind its closing quote is read.
-/

namespace ValidatorForge.Source

open Text (hexValue? hexDigits escapeChar literalBody)

/-! ## Code points -/

/-- The digits of a number are read in one piece, as long as they are not more than six. -/
theorem scanCodePoint_hexDigits (n value digits : Nat) (rest : List Char)
    (hdigits : digits + (hexDigits n).length ≤ 6) :
    scanCodePoint value digits (hexDigits n ++ rest) =
      scanCodePoint (value * 16 ^ (hexDigits n).length + n) (digits + (hexDigits n).length)
        rest := by
  fun_induction hexDigits n generalizing rest with
  | case1 n hn =>
    have hlt : digits < 6 := hdigits
    simp [scanCodePoint, Text.hexValue?_digitChar hn, hlt]
  | case2 n hn ih =>
    rw [List.length_append, List.length_singleton] at hdigits ⊢
    have hlt : digits + (hexDigits (n / 16)).length < 6 := hdigits
    rw [List.append_assoc, ih _ (by omega), List.singleton_append, scanCodePoint,
      Text.hexValue?_digitChar (Nat.mod_lt n (by decide))]
    simp only [hlt, if_true]
    congr 1
    rw [Nat.pow_succ, Nat.add_mul, Nat.mul_assoc]
    omega

theorem length_hexDigits_le {n k : Nat} (hn : n < 16 ^ (k + 1)) :
    (hexDigits n).length ≤ k + 1 := by
  induction k generalizing n with
  | zero =>
    have hdigit : n < 16 := hn
    rw [hexDigits, if_pos hdigit]
    exact Nat.le_refl 1
  | succ k ih =>
    rw [hexDigits]
    split
    · exact Nat.le_add_left 1 _
    · have hdiv : n / 16 < 16 ^ (k + 1) :=
        Nat.div_lt_of_lt_mul (by rw [Nat.mul_comm, ← Nat.pow_succ]; exact hn)
      simpa using ih hdiv

theorem hexDigits_ne_nil (n : Nat) : hexDigits n ≠ [] := by
  rw [hexDigits]
  split <;> simp

theorem scanCodePoint_char (c : Char) (rest : List Char) :
    scanCodePoint 0 0 (hexDigits c.toNat ++ '\x7d' :: rest) = some (c.toNat, rest) := by
  have hlength : (hexDigits c.toNat).length ≤ 6 := by
    refine length_hexDigits_le (k := 5) ?_
    have hvalid : c.toNat < 0xd800 ∨ 0xdfff < c.toNat ∧ c.toNat < 0x110000 := c.valid
    omega
  have hpos : (hexDigits c.toNat).length ≠ 0 := by
    rw [Ne, List.length_eq_zero_iff]
    exact hexDigits_ne_nil _
  have hbrace : hexValue? '\x7d' = none := by decide
  rw [scanCodePoint_hexDigits _ _ _ _ (by omega), scanCodePoint]
  simp [hbrace, hpos]

/-! ## Strings -/

/-- An escape other than one of a line break is read as a character. -/
theorem scanCooked_escape {e c : Char} {cs after : List Char} (hfeed : e ≠ '\n')
    (hreturn : e ≠ '\r') (h : scanEscape textRules (e :: cs) = some (c, after))
    (hle : after.length ≤ (e :: cs).length) :
    scanCooked textRules ('\\' :: e :: cs) =
      (scanCooked textRules after).map fun (value, rest) => (c :: value, rest) := by
  rw [scanCooked]
  case x => simp [hfeed]
  case x_1 => simp [hreturn]
  simp only [h, dif_pos hle]

theorem scanCooked_plain {c : Char} {cs : List Char} (hquote : c ≠ '"') (hslash : c ≠ '\\')
    (hreturn : c ≠ '\r') :
    scanCooked textRules (c :: cs) =
      (scanCooked textRules cs).map fun (value, rest) => (c :: value, rest) := by
  rw [scanCooked]
  · rfl
  all_goals simp_all

/-- The escape of a code point is read as that character. -/
theorem scanEscape_codePoint (c : Char) (rest : List Char) :
    scanEscape textRules ('u' :: '\x7b' :: (hexDigits c.toNat ++ '\x7d' :: rest)) =
      some (c, rest) := by
  have hvalid : c.toNat.isValidChar := c.valid
  rw [scanEscape]
  simp [scanCodePoint_char, textRules, hvalid]

/-- The written form of a character is read as that character. -/
theorem scanCooked_escapeChar (c : Char) (rest : List Char) :
    scanCooked textRules (escapeChar c ++ rest) =
      (scanCooked textRules rest).map fun (value, after) => (c :: value, after) := by
  have hshort {e : Char} (he : escapeChar c = ['\\', e])
      (h : scanEscape textRules (e :: rest) = some (c, rest)) (hfeed : e ≠ '\n')
      (hreturn : e ≠ '\r') :
      scanCooked textRules (escapeChar c ++ rest) =
        (scanCooked textRules rest).map fun (value, after) => (c :: value, after) := by
    rw [he]
    exact scanCooked_escape hfeed hreturn h (Nat.le_succ _)
  by_cases hnul : c = '\x00'
  · subst hnul; exact hshort rfl rfl (by decide) (by decide)
  by_cases htab : c = '\t'
  · subst htab; exact hshort rfl rfl (by decide) (by decide)
  by_cases hreturn : c = '\r'
  · subst hreturn; exact hshort rfl rfl (by decide) (by decide)
  by_cases hfeed : c = '\n'
  · subst hfeed; exact hshort rfl rfl (by decide) (by decide)
  by_cases hquote : c = '"'
  · subst hquote; exact hshort rfl rfl (by decide) (by decide)
  by_cases hslash : c = '\\'
  · subst hslash; exact hshort rfl rfl (by decide) (by decide)
  simp only [escapeChar, hnul, htab, hreturn, hfeed, hquote, hslash, if_false]
  split
  · exact scanCooked_plain hquote hslash hreturn
  · have h := scanCooked_escape (by decide) (by decide) (scanEscape_codePoint c rest)
      (by simp; omega)
    simpa [Text.codePointEscape] using h

/-- The body of a literal is read as the text that it was made from. -/
theorem scanCooked_literalBody (cs rest : List Char) :
    scanCooked textRules (literalBody cs ++ '"' :: rest) = some (cs, rest) := by
  induction cs with
  | nil => rw [literalBody, List.nil_append, scanCooked]
  | cons c cs ih =>
    rw [literalBody, List.append_assoc]
    split
    · -- a NUL in front of an octal digit
      next hoctal =>
      have hnul : c = '\x00' := of_decide_eq_true (Bool.and_eq_true_iff.1 hoctal).1
      have hescape : scanEscape textRules ('x' :: '0' :: '0' :: (literalBody cs ++ '"' :: rest)) =
          some ('\x00', literalBody cs ++ '"' :: rest) := rfl
      have h := scanCooked_escape (by decide) (by decide) hescape (by simp; omega)
      rw [List.cons_append, List.cons_append, List.cons_append, List.cons_append, List.nil_append,
        h, ih, hnul]
      rfl
    · rw [scanCooked_escapeChar, ih]
      rfl

/-- A literal in front of a text is read as far as its closing quote. -/
theorem scanLiteral?_literalBody (value : String) {rest : List Char}
    (hrest : (rest.head?.map startsWord).getD false = false) :
    scanLiteral? ('"' :: (literalBody value.toList ++ '"' :: rest)) =
      some (.string value, rest) := by
  have hafter : afterWord rest = rest := by
    cases rest with
    | nil => rfl
    | cons c rest => exact if_neg (by simpa using hrest)
  rw [scanLiteral?]
  simp [scanCooked_literalBody, hafter]

end ValidatorForge.Source
