import ValidatorForge.Proofs.Source.Leaves

/-!
# Reading back emitted text

The text of a token list has these tokens again (`tokenize_text`), if they are `Legible`: words of
ASCII letters, string literals with escapes, brackets, and punctuation that begins neither a comment
nor a lifetime.

A blank stands in front of each token but those at the beginning of a text or a group and those
after joined punctuation (`gap`).  `lexemes_gap` is the step: one lexeme is read after a gap.  With
it the lexemes of a text are those of its tokens (`lexemes_spellAfter`), by induction on the legible
tokens, and gathering them gives the tokens (`gather_flatten`).
-/

namespace ValidatorForge.Source

open Text (literalBody)

/-! ## Legible tokens -/

/-- Tokens that are read back from their text.  A joint character is followed by punctuation. -/
inductive Legible : List Token → Prop
  | nil : Legible []
  | ident {i : Ident} {rest : List Token} (hi : i.Legible) (hrest : Legible rest) :
    Legible (.ident i :: rest)
  | punct {c : Char} {rest : List Token} (hc : c ∈ plainPunctuation) (hrest : Legible rest) :
    Legible (.punct c false :: rest)
  | joint {c d : Char} {joined : Bool} {rest : List Token} (hc : c ∈ plainPunctuation)
    (hd : d ∈ plainPunctuation) (hrest : Legible (.punct d joined :: rest)) :
    Legible (.punct c true :: .punct d joined :: rest)
  | literal (value : String) {rest : List Token} (hrest : Legible rest) :
    Legible (.literal (.ofString value) :: rest)
  | group (d : Delimiter) {body rest : List Token} (hbody : Legible body) (hrest : Legible rest) :
    Legible (.group d body :: rest)

theorem Legible.append {ts us : List Token} (h : Legible ts) (hus : Legible us) :
    Legible (ts ++ us) := by
  induction h with
  | nil => exact hus
  | ident hi _ ih => exact .ident hi ih
  | punct hc _ ih => exact .punct hc ih
  | joint hc hd _ ih => exact .joint hc hd ih
  | literal value _ ih => exact .literal value ih
  | group d hbody _ _ ih => exact .group d hbody ih

theorem Legible.commaSeparated {pieces : List (List Token)} (h : ∀ piece ∈ pieces, Legible piece) :
    Legible (commaSeparated pieces) := by
  induction pieces with
  | nil => exact .nil
  | cons piece rest ih =>
    obtain ⟨hpiece, hrest⟩ := List.forall_mem_cons.1 h
    cases rest with
    | nil => exact hpiece
    | cons next others => exact hpiece.append (.punct (by decide) (ih hrest))

/-! ## Lexemes -/

/-- A character at which the blanks in front of a lexeme end. -/
structure Leads (c : Char) : Prop where
  visible : isSpace c = false
  slash : c ≠ '/'

/-- What begins with no bracket and no comment is a leaf. -/
theorem scanLexeme?_eq_leaf {c : Char} (hc : Leads c) (hbracket : c ∉ bracketChars)
    (rest : List Char) :
    scanLexeme? (c :: rest) =
      (scanLeaf? (c :: rest)).map fun (t, after) => (.leaf [t], after) := by
  simp only [bracketChars, List.mem_cons, List.not_mem_nil, or_false, not_or] at hbracket
  have hdoc : docComment? (c :: rest) = none := by
    rw [docComment?]
    all_goals simp [hc.slash]
  rw [scanLexeme?]
  · rw [hdoc]
  all_goals simp [hbracket]

theorem skipBlanks_of_leads {c : Char} (hc : Leads c) (rest : List Char) :
    skipBlanks (c :: rest) = c :: rest := by
  have hcomment : afterComment? (c :: rest) = none := by
    rw [afterComment?]
    all_goals simp [hc.slash]
  rw [skipBlanks]
  simp [hc.visible, hcomment]

/-- The blank in front of a token, unless it is glued to what stands before it. -/
def gap (glued : Bool) : List Char := if glued then [] else [' ']

/-- One lexeme is read after a gap. -/
theorem lexemes_gap {c : Char} (hc : Leads c) {rest after : List Char} {l : Lexeme}
    (hscan : scanLexeme? (c :: rest) = some (l, after)) (hle : after.length ≤ rest.length)
    (glued : Bool) :
    lexemes (gap glued ++ c :: rest) = (lexemes after).map (l :: ·) := by
  have hskip : skipBlanks (gap glued ++ c :: rest) = c :: rest := by
    cases glued with
    | true => exact skipBlanks_of_leads hc rest
    | false =>
      show skipBlanks (' ' :: c :: rest) = _
      rw [skipBlanks]
      exact skipBlanks_of_leads hc rest
  have hlt : after.length < (gap glued ++ c :: rest).length := by
    rw [List.length_append, List.length_cons]
    omega
  rw [lexemes.eq_def]
  split
  · next hnil =>
    rw [hskip] at hnil
    cases hnil
  · next hcons =>
    rw [hskip] at hcons
    obtain ⟨rfl, rfl⟩ := List.cons.inj hcons
    rw [hscan]
    exact dif_pos hlt

/-! ## The lexemes of a text -/

/-- The lexemes of a token list. -/
def flatten : List Token → List Lexeme
  | [] => []
  | .group d body :: rest => .opening d :: (flatten body ++ .closing d :: flatten rest)
  | t :: rest => .leaf [t] :: flatten rest

theorem flatten_punct (c : Char) (joint : Bool) (rest : List Token) :
    flatten (.punct c joint :: rest) = .leaf [.punct c joint] :: flatten rest := by
  rw [flatten]
  nofun

namespace Delimiter

def left : Delimiter → Char
  | parenthesis => '('
  | bracket => '['
  | brace => '\x7b'

def right : Delimiter → Char
  | parenthesis => ')'
  | bracket => ']'
  | brace => '\x7d'

theorem leads_left (d : Delimiter) : Leads d.left := by
  cases d <;> exact ⟨by decide, by decide⟩

theorem leads_right (d : Delimiter) : Leads d.right := by
  cases d <;> exact ⟨by decide, by decide⟩

theorem scanLexeme?_left (d : Delimiter) (rest : List Char) :
    scanLexeme? (d.left :: rest) = some (.opening d, rest) := by
  cases d <;> rfl

theorem scanLexeme?_right (d : Delimiter) (rest : List Char) :
    scanLexeme? (d.right :: rest) = some (.closing d, rest) := by
  cases d <;> rfl

theorem atEnd_right (d : Delimiter) (lead : Bool) (rest : List Char) :
    AtEnd (gap lead ++ d.right :: rest) := by
  intro c hc
  cases lead <;> cases d <;> cases hc <;> decide

end Delimiter

/-- The tokens of a group stand between its brackets.  Those of a brace stand off from it. -/
theorem spell_group (d : Delimiter) (body : List Token) :
    ∃ inner last, (Token.group d body).spell =
      d.left :: (spellAfter inner body ++ (gap last ++ [d.right])) := by
  rw [Token.spell]
  cases d with
  | parenthesis => exact ⟨true, true, by simp [Delimiter.opening, Delimiter.closing, gap,
      Delimiter.left, Delimiter.right]⟩
  | bracket => exact ⟨true, true, by simp [Delimiter.opening, Delimiter.closing, gap,
      Delimiter.left, Delimiter.right]⟩
  | brace =>
    refine ⟨false, false, ?_⟩
    cases body with
    | nil => simp [Delimiter.opening, Delimiter.closing, gap, Delimiter.left, Delimiter.right,
        spellAfter]
    | cons t rest =>
      simp [Delimiter.opening, Delimiter.closing, gap, Delimiter.left, Delimiter.right, spellAfter]

theorem spellAfter_cons (glued : Bool) (t : Token) (rest : List Token) (after : List Char) :
    spellAfter glued (t :: rest) ++ after =
      gap glued ++ (t.spell ++ (spellAfter t.isJoint rest ++ after)) := by
  rw [spellAfter, gap]
  simp only [List.append_assoc]

theorem atEnd_spellAfter (rest : List Token) {after : List Char} (hafter : AtEnd after) :
    AtEnd (spellAfter false rest ++ after) := by
  cases rest with
  | nil => exact hafter
  | cons t rest =>
    rw [spellAfter_cons]
    intro c hc
    cases hc
    decide

/-- One leaf is read after a gap. -/
theorem lexemes_leaf {t : Token} {c : Char} {tail next : List Char} (hspell : t.spell = c :: tail)
    (hc : Leads c) (hbracket : c ∉ bracketChars)
    (hscan : scanLeaf? (t.spell ++ next) = some (t, next)) (glued : Bool) :
    lexemes (gap glued ++ (t.spell ++ next)) = (lexemes next).map (.leaf [t] :: ·) := by
  rw [hspell, List.cons_append] at hscan ⊢
  exact lexemes_gap hc (by rw [scanLexeme?_eq_leaf hc hbracket, hscan]; rfl) (by simp) glued

/-- A word is read after a gap. -/
theorem lexemes_ident {i : Ident} (hi : i.Legible) {next : List Char} (hnext : AtEnd next)
    (glued : Bool) :
    lexemes (gap glued ++ ((Token.ident i).spell ++ next)) =
      (lexemes next).map (.leaf [.ident i] :: ·) := by
  obtain ⟨c, rest, hname, _, hc, _⟩ := hi.exists_cons
  obtain ⟨_, hpunct, hbracket, hspace⟩ := of_wordChar hc
  have hscan := Ident.scanLeaf?_spell hi hnext
  cases hraw : i.raw with
  | true =>
    have hspell : (Token.ident i).spell = 'r' :: '#' :: c :: rest := by
      rw [Token.spell, Ident.spell, hraw, hname]
      rfl
    exact lexemes_leaf hspell ⟨by decide, by decide⟩ (by decide) hscan glued
  | false =>
    have hspell : (Token.ident i).spell = c :: rest := by
      rw [Token.spell, Ident.spell, hraw, hname]
      rfl
    have hleads : Leads c := ⟨hspace, by rintro rfl; exact hpunct (by decide)⟩
    exact lexemes_leaf hspell hleads hbracket hscan glued

/-- A punctuation character is read after a gap, joined if punctuation follows. -/
theorem lexemes_punct {c : Char} (hc : c ∈ plainPunctuation) {joint : Bool} {next : List Char}
    (hnext : atPunctuation next = joint) (glued : Bool) :
    lexemes (gap glued ++ ((Token.punct c joint).spell ++ next)) =
      (lexemes next).map (.leaf [.punct c joint] :: ·) := by
  obtain ⟨_, hspace, hbracket, _⟩ := of_mem_plainPunctuation hc
  have hleads : Leads c := ⟨hspace, by rintro rfl; exact absurd hc (by decide)⟩
  have hspell : (Token.punct c joint).spell = [c] := by rw [Token.spell]
  refine lexemes_leaf hspell hleads hbracket ?_ glued
  rw [hspell, ← hnext]
  exact scanLeaf?_punct hc next

theorem lexemes_literal (value : String) {next : List Char} (hnext : AtEnd next) (glued : Bool) :
    lexemes (gap glued ++ ((Token.literal (.ofString value)).spell ++ next)) =
      (lexemes next).map (.leaf [.literal (.ofString value)] :: ·) := by
  have hspell : (Token.literal (.ofString value)).spell =
      '"' :: (literalBody value.toList ++ ['"']) := by
    rw [Token.spell]
    exact String.toList_ofList
  refine lexemes_leaf hspell ⟨by decide, by decide⟩ (by decide) ?_ glued
  rw [Token.spell]
  exact scanLeaf?_literal value hnext

/-- Legible tokens are read up to the end of their text. -/
theorem lexemes_spellAfter {ts : List Token} (h : Legible ts) (glued : Bool) {after : List Char}
    (hafter : AtEnd after) :
    lexemes (spellAfter glued ts ++ after) = (lexemes after).map (flatten ts ++ ·) := by
  induction h generalizing glued after with
  | nil => simp [spellAfter, flatten]
  | @ident i rest hi hrest ih =>
    rw [spellAfter_cons, show (Token.ident i).isJoint = false from rfl,
      lexemes_ident hi (atEnd_spellAfter rest hafter), ih _ hafter]
    simp [flatten, Function.comp_def]
  | @punct c rest hc hrest ih =>
    have hnext : atPunctuation (spellAfter false rest ++ after) = false :=
      atPunctuation_of_atEnd (atEnd_spellAfter rest hafter)
    rw [spellAfter_cons, show (Token.punct c false).isJoint = false from rfl,
      lexemes_punct hc hnext, ih _ hafter]
    simp [flatten, Function.comp_def]
  | @joint c d joined rest hc hd hrest ih =>
    have hnext : atPunctuation (spellAfter true (.punct d joined :: rest) ++ after) = true := by
      rw [spellAfter_cons, Token.spell]
      exact atPunctuation_of_plain hd _
    rw [spellAfter_cons, show (Token.punct c true).isJoint = true from rfl,
      lexemes_punct hc hnext, ih _ hafter]
    simp [flatten, Function.comp_def]
  | @literal value rest hrest ih =>
    rw [spellAfter_cons, show (Token.literal (.ofString value)).isJoint = false from rfl,
      lexemes_literal value (atEnd_spellAfter rest hafter), ih _ hafter]
    simp [flatten, Function.comp_def]
  | @group d body rest hbody hrest ihbody ihrest =>
    obtain ⟨inner, last, hspell⟩ := spell_group d body
    have hright := d.atEnd_right last (spellAfter false rest ++ after)
    have hclose := lexemes_gap d.leads_right (d.scanLexeme?_right _)
      (Nat.le_refl (spellAfter false rest ++ after).length) last
    have hopen := lexemes_gap d.leads_left (d.scanLexeme?_left _)
      (Nat.le_refl (spellAfter inner body ++
        (gap last ++ d.right :: (spellAfter false rest ++ after))).length) glued
    calc
      lexemes (spellAfter glued (.group d body :: rest) ++ after)
        = lexemes (gap glued ++ d.left :: (spellAfter inner body ++
            (gap last ++ d.right :: (spellAfter false rest ++ after)))) := by
          rw [spellAfter_cons, show (Token.group d body).isJoint = false from rfl, hspell]
          simp
      _ = (lexemes after).map (flatten (.group d body :: rest) ++ ·) := by
          rw [hopen, ihbody _ hright, hclose, ihrest _ hafter]
          simp [flatten, Function.comp_def]

/-! ## Groups -/

/-- Gathering the lexemes of tokens gives the tokens. -/
theorem gather_flatten {ts : List Token} (h : Legible ts) (outer : List (Delimiter × List Token))
    (before : List Token) (rest : List Lexeme) :
    gather outer before (flatten ts ++ rest) = gather outer (ts.reverse ++ before) rest := by
  induction h generalizing outer before rest with
  | nil => simp [flatten]
  | group d _ _ ihbody ihrest => simp [flatten, gather, ihbody, ihrest]
  | @joint c d joined more _ _ _ ih =>
    rw [flatten_punct, List.cons_append, gather, ih]
    simp
  | ident _ _ ih | punct _ _ ih | literal _ _ ih => simp [flatten, gather, ih]

/-! ## Whole texts -/

theorem lexemes_nil : lexemes [] = some [] := by
  rw [lexemes.eq_def]
  split
  · rfl
  · next h => simp [skipBlanks] at h

/-- A byte order mark begins no lexeme. -/
theorem lexemes_mark (rest : List Char) : lexemes ('\uFEFF' :: rest) = none := by
  have hliteral : scanLiteral? ('\uFEFF' :: rest) = none :=
    scanLiteral?_eq_none (by decide) (by decide) (by decide) (by simp) (by simp)
  have hstarts : startsWord '\uFEFF' = false := by decide +kernel
  have hident : scanIdent? ('\uFEFF' :: rest) = none := by
    rw [scanIdent?]
    · simp [hstarts]
    · simp
  have hleaf : scanLeaf? ('\uFEFF' :: rest) = none := by
    rw [scanLeaf?, hliteral, scanPunct?_eq_none (by decide), hident]
    simp
  have hleads : Leads '\uFEFF' := ⟨by decide, by decide⟩
  have hlexeme : scanLexeme? ('\uFEFF' :: rest) = none := by
    rw [scanLexeme?_eq_leaf hleads (by decide), hleaf]
    rfl
  have hskip := skipBlanks_of_leads hleads rest
  rw [lexemes.eq_def]
  split
  · next hnil =>
    rw [hskip] at hnil
    cases hnil
  · next hcons =>
    rw [hskip] at hcons
    obtain ⟨rfl, rfl⟩ := List.cons.inj hcons
    rw [hlexeme]

/-- The text of legible tokens has these tokens. -/
theorem tokenize_text {ts : List Token} (h : Legible ts) : tokenize (text ts) = some ts := by
  have hlexemes : lexemes (spell ts) = some (flatten ts) := by
    have hend : AtEnd [] := by simp [AtEnd]
    simpa [lexemes_nil, spell] using lexemes_spellAfter h true hend
  have hgather : gather [] [] (flatten ts) = some ts := by
    simpa [gather] using gather_flatten h [] [] []
  rw [tokenize, text, String.toList_ofList]
  split
  · next rest heq =>
    rw [heq, lexemes_mark] at hlexemes
    cases hlexemes
  · rw [hlexemes]
    exact hgather

end ValidatorForge.Source
