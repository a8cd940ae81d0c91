import Mathlib.Data.Bool.AllAny
import ValidatorForge.Proofs.Naming.Spelling
import ValidatorForge.Proofs.Source.TextLiterals
import ValidatorForge.Source.Lexer

/-!
# Reading back words, punctuation and literals

A scanner that has read a word, a punctuation character or a string literal stands at the end of the
text, before a blank or before a closing bracket (`AtEnd`), and has read no more than that token:
`scanLeaf?_spell`, `scanLeaf?_punct` and `scanLeaf?_literal`.

The scanner tries literals first.  Words may begin with the letters that open quoted literals, so
what stands behind such a letter decides: a word goes on with word characters or ends, and neither
is a quote (`Unquoted`).
-/

namespace ValidatorForge.Source

open Source.Ident (isAsciiWordChar of_isAsciiWordChar startsWord_of_isAsciiWordChar
  continuesWord_of_isAsciiWordChar)
open Text (hexValue? literalBody)

/-! ## Characters -/

def bracketChars : List Char := ['(', '[', '\x7b', ')', ']', '\x7d']

/-- What stands between the letters of a quoted literal and its text. -/
def quotes : List Char := ['"', '#', '\'']

/-- Punctuation that begins neither a comment nor a lifetime. -/
def plainPunctuation : List Char := punctuation.filter fun c => c ≠ '/' && c ≠ '\''

/-- The characters at which a token may end. -/
def tokenEnds : List Char := [' ', ')', ']', '\x7d']

/-- Where a token may end, no literal, operator or word goes on. -/
theorem of_mem_tokenEnds {c : Char} (h : c ∈ tokenEnds) :
    c ∉ quotes ∧ c ∉ punctuation ∧ continuesWord c = false :=
  List.all_iff_forall_prop.1
    (show (tokenEnds.all fun c => c ∉ quotes ∧ c ∉ punctuation ∧ continuesWord c = false) = true by
      decide) c h

/-- A text at which a token may end. -/
def AtEnd (cs : List Char) : Prop := ∀ c ∈ cs.head?, c ∈ tokenEnds

/-- A text with which no quoted literal goes on. -/
def Unquoted (cs : List Char) : Prop := ∀ c ∈ cs.head?, c ∉ quotes

theorem AtEnd.unquoted {cs : List Char} (h : AtEnd cs) : Unquoted cs :=
  fun c hc => (of_mem_tokenEnds (h c hc)).1

/-- Word characters are neither brackets nor punctuation, and open no literal. -/
theorem of_wordChar {c : Char} (h : isAsciiWordChar c = true) :
    c ∉ quotes ∧ c ∉ punctuation ∧ c ∉ bracketChars ∧ isSpace c = false :=
  of_isAsciiWordChar
    (P := fun c => isAsciiWordChar c = true →
      c ∉ quotes ∧ c ∉ punctuation ∧ c ∉ bracketChars ∧ isSpace c = false)
    (by decide) h h

/-! ## Numbers -/

theorem afterFloatDigits_eq_none {c : Char} (hc : c.isDigit = false) (rest : List Char) :
    afterFloatDigits (c :: rest) = none := by
  simp [afterFloatDigits, hc]

/-- Only decimal digits have a value below ten. -/
theorem not_lt_of_hexValue? {c : Char} (hc : c.isDigit = false) {d : Nat}
    (h : hexValue? c = some d) : ¬d < 10 := by
  have hle {a : Char} (ha : a ≤ c) : a.toNat ≤ c.toNat := UInt32.le_iff_toNat_le.1 ha
  have hdecimal : ¬('0' ≤ c && c ≤ '9') = true := fun hdigit => by
    rw [show c.isDigit = true from hdigit] at hc
    cases hc
  unfold hexValue? at h
  rw [if_neg hdecimal] at h
  split at h
  · next hlower =>
    have : 97 ≤ c.toNat := hle (of_decide_eq_true (Bool.and_eq_true_iff.1 hlower).1)
    cases h
    omega
  · split at h
    · next hupper =>
      have : 65 ≤ c.toNat := hle (of_decide_eq_true (Bool.and_eq_true_iff.1 hupper).1)
      cases h
      omega
    · cases h

theorem afterIntDigits_eq_none {c : Char} (hc : c.isDigit = false) (rest : List Char) :
    afterIntDigits (c :: rest) = none := by
  have hzero : c ≠ '0' := by
    rintro rfl
    exact absurd hc (by decide)
  rw [afterIntDigits]
  case x_1 | x_2 | x_3 => simp [hzero]
  by_cases hunderscore : c = '_'
  · subst hunderscore
    simp
  · cases hvalue : hexValue? c with
    | none => simp [hvalue, hunderscore]
    | some d =>
      have hlarge := not_lt_of_hexValue? hc hvalue
      simp [hvalue, hunderscore, hlarge, hc]

/-! ## Literals -/

theorem scanRaw_eq_none {cs : List Char} (h : Unquoted cs) (plain : Char → Bool) :
    scanRaw plain cs = none := by
  cases cs with
  | nil => rfl
  | cons c rest =>
    have hc := h c rfl
    simp only [quotes, List.mem_cons, List.not_mem_nil, or_false, not_or] at hc
    rw [scanRaw]
    simp [hc.1, hc.2.1]

/-- No literal begins with `c`, if the letters that begin quoted literals are followed by no
quote. -/
theorem scanLiteral?_eq_none {c : Char} {rest : List Char} (hquote : c ≠ '"') (hsingle : c ≠ '\'')
    (hdigit : c.isDigit = false) (hraw : c = 'r' → scanRaw (fun _ => true) rest = none)
    (hbytes : c = 'b' ∨ c = 'c' → Unquoted rest ∧ ∀ more, rest = 'r' :: more → Unquoted more) :
    scanLiteral? (c :: rest) = none := by
  rw [scanLiteral?.eq_def]
  dsimp only
  split
  · next h => exact absurd (List.cons.inj h).1 hquote
  · next h =>
    obtain ⟨hc, rfl⟩ := List.cons.inj h
    exact congrArg (Option.map _) (hraw hc)
  · next h =>
    obtain ⟨hc, rfl⟩ := List.cons.inj h
    exact absurd ((hbytes (.inl hc)).1 '"' rfl) (by decide)
  · next h =>
    obtain ⟨hc, rfl⟩ := List.cons.inj h
    exact congrArg (Option.map _) (scanRaw_eq_none ((hbytes (.inl hc)).2 _ rfl) _)
  · next h =>
    obtain ⟨hc, rfl⟩ := List.cons.inj h
    exact absurd ((hbytes (.inl hc)).1 '\'' rfl) (by decide)
  · next h =>
    obtain ⟨hc, rfl⟩ := List.cons.inj h
    exact absurd ((hbytes (.inr hc)).1 '"' rfl) (by decide)
  · next h =>
    obtain ⟨hc, rfl⟩ := List.cons.inj h
    exact congrArg (Option.map _) (scanRaw_eq_none ((hbytes (.inr hc)).2 _ rfl) _)
  · next h => exact absurd (List.cons.inj h).1 hsingle
  · rw [afterFloatDigits_eq_none hdigit, afterIntDigits_eq_none hdigit]
    rfl

theorem scanLeaf?_literal (value : String) {after : List Char} (hafter : AtEnd after) :
    scanLeaf? ((Literal.ofString value).text.toList ++ after) =
      some (.literal (.ofString value), after) := by
  have hword : (after.head?.map startsWord).getD false = false := by
    cases after with
    | nil => rfl
    | cons c rest =>
      have hc := (of_mem_tokenEnds (hafter c rfl)).2.2
      exact (Bool.or_eq_false_iff.1 hc).1
  have htext : (Literal.ofString value).text.toList = '"' :: (literalBody value.toList ++ ['"']) :=
    String.toList_ofList
  have hscan := scanLiteral?_literalBody value hword
  have hshape : (Literal.ofString value).text.toList ++ after =
      '"' :: (literalBody value.toList ++ '"' :: after) := by rw [htext]; simp
  rw [scanLeaf?, hshape, hscan, ← hshape]
  simp only [List.length_append, Nat.add_sub_cancel, List.take_left', String.ofList_toList]
  rfl

/-! ## Punctuation -/

theorem atPunctuation_cons {c : Char} (hc : c ≠ '/') (rest : List Char) :
    atPunctuation (c :: rest) = punctuation.contains c := by
  rw [atPunctuation]
  all_goals simp [hc]

theorem atPunctuation_eq_false {c : Char} (hc : c ∉ punctuation) (rest : List Char) :
    atPunctuation (c :: rest) = false := by
  have hslash : c ≠ '/' := by rintro rfl; exact hc (by decide)
  rw [atPunctuation_cons hslash]
  simpa using hc

theorem atPunctuation_of_atEnd {cs : List Char} (h : AtEnd cs) : atPunctuation cs = false := by
  cases cs with
  | nil => rfl
  | cons c rest => exact atPunctuation_eq_false (of_mem_tokenEnds (h c rfl)).2.1 rest

theorem scanPunct?_eq_none {c : Char} (hc : c ∉ punctuation) (rest : List Char) :
    scanPunct? (c :: rest) = none := by
  have hquote : c ≠ '\'' := by rintro rfl; exact hc (by decide)
  rw [scanPunct?]
  · simp [atPunctuation_eq_false hc]
  · simp [hquote]

section Plain

variable {c : Char} (hc : c ∈ plainPunctuation)
include hc

theorem of_mem_plainPunctuation :
    c.isDigit = false ∧ isSpace c = false ∧ c ∉ bracketChars ∧
      c ∉ ['/', '"', '\'', 'r', 'b', 'c'] :=
  List.all_iff_forall_prop.1
    (show (plainPunctuation.all fun c => c.isDigit = false ∧ isSpace c = false ∧ c ∉ bracketChars ∧
      c ∉ ['/', '"', '\'', 'r', 'b', 'c']) = true by decide) c hc

theorem atPunctuation_of_plain (rest : List Char) : atPunctuation (c :: rest) = true := by
  have hslash : c ≠ '/' := by rintro rfl; exact absurd hc (by decide)
  rw [atPunctuation_cons hslash, List.contains_iff_mem]
  exact (List.mem_filter.1 hc).1

/-- A punctuation character is joined if punctuation follows. -/
theorem scanLeaf?_punct (after : List Char) :
    scanLeaf? (c :: after) = some (.punct c (atPunctuation after), after) := by
  obtain ⟨hdigit, _, _, hletters⟩ := of_mem_plainPunctuation hc
  simp only [List.mem_cons, List.not_mem_nil, or_false, not_or] at hletters
  obtain ⟨_, hquote, hsingle, hr, hb, hc'⟩ := hletters
  have hliteral : scanLiteral? (c :: after) = none :=
    scanLiteral?_eq_none hquote hsingle hdigit (fun h => absurd h hr)
      fun h => h.elim (fun h => absurd h hb) fun h => absurd h hc'
  rw [scanLeaf?, hliteral, scanPunct?]
  · simp only [atPunctuation_of_plain hc, if_true]
  · simp [hsingle]

end Plain

/-! ## Words -/

namespace Ident

/-- An identifier that is read back from its spelling. -/
structure Legible (i : Ident) : Prop where
  chars : ∀ c ∈ i.name.toList, isAsciiWordChar c = true
  raw : i.raw = true → i.name ∉ "_" :: pathKeywords

instance : DecidablePred Legible := fun i =>
  decidable_of_iff
    (i.name.toList.all isAsciiWordChar = true ∧ (i.raw = true → i.name ∉ "_" :: pathKeywords))
    ⟨fun h => ⟨List.all_eq_true.1 h.1, h.2⟩, fun h => ⟨List.all_eq_true.2 h.chars, h.raw⟩⟩

/-- The identifier of a host name is legible. -/
theorem legible_of_ofName? {name : String} {i : Ident} (h : ofName? name = some i) :
    i.Legible := by
  obtain ⟨hword, hunderscore, hpath⟩ := Naming.accepts_iff.1 ⟨i, Naming.ident_eq_ok_iff.2 h⟩
  rw [← name_of_ofName? h] at hword hunderscore hpath
  exact ⟨hword.chars, fun _ => by simp [hunderscore, hpath]⟩

variable {i : Ident} {after : List Char}

theorem unquoted_append {cs : List Char} (h : ∀ c ∈ cs, isAsciiWordChar c = true)
    (hafter : AtEnd after) : Unquoted (cs ++ after) := by
  cases cs with
  | nil => exact hafter.unquoted
  | cons c rest =>
    intro d hd
    cases hd
    exact (of_wordChar (h c List.mem_cons_self)).1

theorem ofChars?_toList (i : Ident) : ofChars? i.name.toList i.raw = some i := by
  obtain ⟨name, raw, valid⟩ := i
  have hname : String.ofList name.toList = name := String.ofList_toList
  rw [ofChars?, dif_pos (by rw [hname]; exact valid)]
  simp only [hname]

/-- Word characters are taken up to the end of a token. -/
theorem span_continuesWord {cs : List Char} (h : ∀ c ∈ cs, continuesWord c = true)
    (hafter : AtEnd after) :
    (cs ++ after).takeWhile continuesWord = cs ∧ (cs ++ after).dropWhile continuesWord = after := by
  rw [List.takeWhile_append_of_pos h, List.dropWhile_append_of_pos h]
  cases after with
  | nil => simp
  | cons d rest =>
    have hd := (of_mem_tokenEnds (hafter d rfl)).2.2
    simp [hd]

/-- A legible word has a first letter, and all of its characters are ASCII. -/
theorem Legible.exists_cons (hi : i.Legible) :
    ∃ c rest, i.name.toList = c :: rest ∧ startsWord c = true ∧ isAsciiWordChar c = true ∧
      ∀ d ∈ rest, isAsciiWordChar d = true := by
  obtain ⟨c, rest, hname⟩ : ∃ c rest, i.name.toList = c :: rest :=
    List.exists_cons_of_ne_nil fun hnil => by simpa [hnil, isWord] using i.valid
  have hvalid := i.valid
  have hchars := hi.chars
  rw [hname, isWord, Bool.and_eq_true] at hvalid
  rw [hname, List.forall_mem_cons] at hchars
  exact ⟨c, rest, hname, hvalid.1, hchars⟩

/-- A word is read as far as it goes. -/
theorem scanIdent?_spell (hi : i.Legible) (hafter : AtEnd after) :
    scanIdent? (i.spell ++ after) = some (i, after) := by
  obtain ⟨c, rest, hname, hstarts, _, hrest⟩ := hi.exists_cons
  obtain ⟨htake, hdrop⟩ := span_continuesWord
    (fun d hd => continuesWord_of_isAsciiWordChar (hrest d hd)) hafter
  have hchars := ofChars?_toList i
  rw [hname] at hchars
  cases hraw : i.raw with
  | true =>
    obtain ⟨hunderscore, hpath⟩ := not_or.1 (List.mem_cons.not.1 (hi.raw hraw))
    have hname_ne : (c :: rest == ['_']) = false := by
      rw [← hname, beq_eq_false_iff_ne]
      exact fun h => hunderscore (String.toList_inj.1 h)
    have hmem : (pathKeywords.map String.toList).contains (c :: rest) = false := by
      rw [← hname, ← Bool.not_eq_true, List.contains_iff_mem, List.mem_map]
      rintro ⟨w, hw, heq⟩
      exact hpath (String.toList_inj.1 heq ▸ hw)
    rw [hraw] at hchars
    rw [spell, hraw, hname]
    show scanIdent? ('r' :: '#' :: c :: (rest ++ after)) = _
    simp only [scanIdent?, hstarts, htake, hdrop, hname_ne, hmem, hchars]
    rfl
  | false =>
    rw [hraw] at hchars
    rw [spell, hraw, hname]
    show scanIdent? (c :: (rest ++ after)) = _
    have hhash : ∀ more, rest ++ after ≠ '#' :: more := by
      intro more heq
      have hunquoted := unquoted_append hrest hafter
      rw [heq] at hunquoted
      exact hunquoted '#' rfl (by decide)
    rw [scanIdent?]
    case x_1 => simp [hhash]
    simp only [hstarts, htake, hdrop, hchars]
    rfl

/-- No literal is opened by a word. -/
theorem not_literalOpenings (hi : i.Legible) (hafter : AtEnd after) :
    literalOpenings.any (·.isPrefixOf (i.spell ++ after)) = false := by
  cases hraw : i.raw with
  | true =>
    obtain ⟨c, rest, hname, _, hc, _⟩ := hi.exists_cons
    have hquotes := (of_wordChar hc).1
    have hquote : '"' ≠ c := by rintro rfl; exact hquotes (by decide)
    have hhash : '#' ≠ c := by rintro rfl; exact hquotes (by decide)
    rw [spell, hraw, hname]
    simp [literalOpenings, List.isPrefixOf, hquote, hhash]
  | false =>
    -- an opening leaves the word characters at a quote, the text at the end of the token
    have hopening : ∀ o ∈ literalOpenings,
        (o.dropWhile continuesWord).head?.any (quotes.contains ·) = true := by decide
    have hdrop : (i.spell ++ after).dropWhile continuesWord = after := by
      rw [spell, hraw]
      exact (span_continuesWord (fun d hd => continuesWord_of_isAsciiWordChar (hi.chars d hd))
        hafter).2
    rw [List.any_eq_false]
    intro o ho hprefix
    obtain ⟨q, hhead, hq⟩ := (Option.any_eq_true _ _).1 (hopening o ho)
    obtain ⟨more, happend⟩ := List.isPrefixOf_iff_prefix.1 hprefix
    obtain ⟨tail, htail⟩ := List.head?_eq_some_iff.1 hhead
    rw [← happend, List.dropWhile_append, htail] at hdrop
    have hquote : q ∈ after.head? := by
      rw [← hdrop]
      rfl
    exact hafter.unquoted q hquote (List.contains_iff_mem.1 hq)

/-- No literal begins with the spelling of a word. -/
theorem scanLiteral?_spell (hi : i.Legible) (hafter : AtEnd after) :
    scanLiteral? (i.spell ++ after) = none := by
  obtain ⟨c, rest, hname, hstarts, hc, hrest⟩ := hi.exists_cons
  have hquotes := (of_wordChar hc).1
  have hquote : c ≠ '"' := by rintro rfl; exact hquotes (by decide)
  have hsingle : c ≠ '\'' := by rintro rfl; exact hquotes (by decide)
  have hdigit : c.isDigit = false := by
    rw [startsWord_of_isAsciiWordChar hc, Bool.not_eq_true'] at hstarts
    exact hstarts
  have hunquoted : Unquoted (rest ++ after) := unquoted_append hrest hafter
  cases hraw : i.raw with
  | true =>
    rw [spell, hraw, hname]
    refine scanLiteral?_eq_none (by decide) (by decide) (by decide) (fun _ => ?_) (by simp)
    have hhash : c ≠ '#' := by rintro rfl; exact hquotes (by decide)
    simp [scanRaw, hquote, hhash]
  | false =>
    rw [spell, hraw, hname]
    refine scanLiteral?_eq_none hquote hsingle hdigit (fun _ => scanRaw_eq_none hunquoted _)
      fun _ => ⟨hunquoted, fun more hmore => ?_⟩
    cases rest with
    | nil =>
      obtain rfl : after = 'r' :: more := hmore
      exact absurd (hafter 'r' rfl) (by decide)
    | cons d rest =>
      obtain ⟨_, rfl⟩ := List.cons.inj hmore
      exact unquoted_append (fun e he => hrest e (List.mem_cons_of_mem d he)) hafter

theorem scanLeaf?_spell (hi : i.Legible) (hafter : AtEnd after) :
    scanLeaf? (i.spell ++ after) = some (.ident i, after) := by
  obtain ⟨c, rest, hname, _, hc, _⟩ := hi.exists_cons
  have hpunct : scanPunct? (i.spell ++ after) = none := by
    cases hraw : i.raw with
    | true =>
      rw [spell, hraw]
      exact scanPunct?_eq_none (by decide) _
    | false =>
      rw [spell, hraw, hname]
      exact scanPunct?_eq_none (of_wordChar hc).2.1 _
  rw [scanLeaf?, scanLiteral?_spell hi hafter, hpunct, not_literalOpenings hi hafter,
    scanIdent?_spell hi hafter]
  rfl

end Ident

end ValidatorForge.Source
