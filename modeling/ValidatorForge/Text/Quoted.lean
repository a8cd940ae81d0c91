import ValidatorForge.Text.Case
import ValidatorForge.Text.Field
import ValidatorForge.Text.Line
import ValidatorForge.Text.Unicode.VisibleTable

/-!
# Quoted text

String literals of the emitted source and quoted names in messages escape what has no visible form
of its own.  Line breaks have none, so that every string literal is on one line
(`unbroken_literal`).
-/

namespace ValidatorForge.Text

/-- Whether a character is written as it is. -/
def isVisible (c : Char) : Bool :=
  if c.toNat < 0x80 then 0x20 ≤ c.toNat && c.toNat < 0x7F
  else !covers Unicode.combining c.toNat && !covers Unicode.unprintable c.toNat

/-- The hexadecimal digits of a number, in lower case. -/
def hexDigits (n : Nat) : List Char :=
  if n < 16 then [Nat.digitChar n] else hexDigits (n / 16) ++ [Nat.digitChar (n % 16)]

/-- A code point escape: the number in hexadecimal between braces. -/
def codePointEscape (c : Char) : List Char :=
  ['\\', 'u', '\x7b'] ++ hexDigits c.toNat ++ ['\x7d']

/-- The form of a character between double quotes. -/
def escapeChar (c : Char) : List Char :=
  if c = '\x00' then ['\\', '0']
  else if c = '\t' then ['\\', 't']
  else if c = '\r' then ['\\', 'r']
  else if c = '\n' then ['\\', 'n']
  else if c = '"' then ['\\', '"']
  else if c = '\\' then ['\\', '\\']
  else if isVisible c then [c]
  else codePointEscape c

/-- The body of a string literal.  Before an octal digit a NUL is spelled `\x00`, so that it does
not read as a longer escape. -/
def literalBody : List Char → List Char
  | [] => []
  | c :: rest =>
    (if c = '\x00' && (rest.head?.map fun d => '0' ≤ d && d ≤ '7').getD false
      then ['\\', 'x', '0', '0'] else escapeChar c) ++ literalBody rest

/-- A string literal of the emitted source. -/
def literal (text : String) : String :=
  String.ofList ('"' :: (literalBody text.toList ++ ['"']))

/-- A quoted text in a message. -/
def quoted (text : String) : String :=
  String.ofList ('"' :: (text.toList.flatMap escapeChar ++ ['"']))

/-- A list of quoted texts in square brackets. -/
def quotedList (texts : List String) : String := s!"[{commaJoin (texts.map quoted)}]"

/-! ## One line -/

private theorem unbroken_hexDigits (n : Nat) : Unbroken (hexDigits n) := by
  have hdigit : ∀ n < 16, Nat.digitChar n ∉ lineBreaks := by decide
  fun_induction hexDigits n with
  | case1 n hn => simp [hdigit n hn]
  | case2 n _ ih => simp [ih, hdigit (n % 16) (Nat.mod_lt n (by decide))]

/-- The form of a character between quotes is on one line, as no line break is visible. -/
theorem unbroken_escapeChar (c : Char) : Unbroken (escapeChar c) := by
  have hhidden : lineBreaks.all (fun b => !isVisible b) = true := by decide +kernel
  unfold escapeChar
  repeat' split
  any_goals decide
  · next hvisible =>
    refine unbroken_cons.2 ⟨fun hbreak => ?_, unbroken_nil⟩
    have hnot := List.all_eq_true.1 hhidden c hbreak
    rw [hvisible] at hnot
    cases hnot
  · have hopen : Unbroken ['\\', 'u', '\x7b'] := by decide
    have hclose : Unbroken ['\x7d'] := by decide
    exact unbroken_append.2 ⟨unbroken_append.2 ⟨hopen, unbroken_hexDigits _⟩, hclose⟩

theorem unbroken_literalBody (cs : List Char) : Unbroken (literalBody cs) := by
  induction cs with
  | nil => exact unbroken_nil
  | cons c rest ih =>
    rw [literalBody, unbroken_append]
    refine ⟨?_, ih⟩
    split
    · decide
    · exact unbroken_escapeChar c

/-- A string literal is on one line, whatever its value. -/
theorem unbroken_literal (text : String) : Unbroken (literal text).toList := by
  have hquote : '"' ∉ lineBreaks := by decide
  simp [literal, hquote, unbroken_literalBody]

end ValidatorForge.Text
