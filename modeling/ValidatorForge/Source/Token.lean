import ValidatorForge.Source.Ident
import ValidatorForge.Text.Quoted

/-!
# Tokens and their text

Emitted source is a list of token trees.  It has one text: tokens are separated by single blanks,
and a punctuation character that is joined to the next one has no blank after it.
-/

namespace ValidatorForge.Source

inductive Delimiter where
  | parenthesis
  | bracket
  | brace
deriving DecidableEq, Repr

inductive LiteralKind where
  /-- A text, with the value that its escapes stand for. -/
  | string (value : String)
  | byteString
  | cString
  | byte
  | char
  | int
  | float
deriving DecidableEq, Repr

/-- A literal, spelled as it was written. -/
structure Literal where
  kind : LiteralKind
  text : String
deriving DecidableEq, Repr

/-- A token, or a bracketed group of tokens.  A joint punctuation character belongs to one operator
with the next. -/
inductive Token where
  | ident (name : Ident)
  | punct (char : Char) (joint : Bool)
  | literal (value : Literal)
  | group (delimiter : Delimiter) (body : List Token)
deriving Repr

/-- The literal that stands for a text. -/
def Literal.ofString (value : String) : Literal := ⟨.string value, Text.literal value⟩

/-- The literal that stands for a text without escapes or quotes. -/
def Literal.verbatim (value : String) : Literal :=
  ⟨.string value, String.ofList ('r' :: '"' :: (value.toList ++ ['"']))⟩

/-! ## Building tokens -/

/-- A plain word. -/
def word (name : String) (valid : isWord name.toList = true := by exact Eq.refl true) : Token :=
  .ident (.plain name valid)

/-- An operator: all characters but the last are joined to the next. -/
def operator : List Char → List Token
  | [] => []
  | [c] => [.punct c false]
  | c :: rest => .punct c true :: operator rest

/-- The lists with commas between them. -/
def commaSeparated : List (List Token) → List Token
  | [] => []
  | [ts] => ts
  | ts :: rest => ts ++ .punct ',' false :: commaSeparated rest

/-! ## Text -/

namespace Delimiter

def opening : Delimiter → List Char
  | .parenthesis => ['(']
  | .bracket => ['[']
  | .brace => ['\x7b', ' ']

/-- The closing delimiter; a brace stands off from what is inside. -/
def closing (afterTokens : Bool) : Delimiter → List Char
  | .parenthesis => [')']
  | .bracket => [']']
  | .brace => if afterTokens then [' ', '\x7d'] else ['\x7d']

end Delimiter

def Token.isJoint : Token → Bool
  | .punct _ joint => joint
  | _ => false

mutual

def Token.spell : Token → List Char
  | .ident name => name.spell
  | .punct c _ => [c]
  | .literal l => l.text.toList
  | .group d body => d.opening ++ spellAfter true body ++ d.closing (!body.isEmpty)

/-- The text of tokens that follow another one, `glued` to it or after a blank. -/
def spellAfter (glued : Bool) : List Token → List Char
  | [] => []
  | t :: rest => (if glued then [] else [' ']) ++ t.spell ++ spellAfter t.isJoint rest

end

/-- The text of a token list. -/
def spell (tokens : List Token) : List Char := spellAfter true tokens

/-- The text of a token list, as a string. -/
def text (tokens : List Token) : String := String.ofList (spell tokens)

/-! ## Lines -/

/-- A token whose text is on one line. -/
def Token.OneLine (t : Token) : Prop := Text.Unbroken t.spell

instance : DecidablePred Token.OneLine := fun t =>
  inferInstanceAs (Decidable (Text.Unbroken t.spell))

/-- Tokens whose texts are all on one line. -/
def OneLine (tokens : List Token) : Prop := ∀ t ∈ tokens, t.OneLine

instance : DecidablePred OneLine := fun ts => inferInstanceAs (Decidable (∀ t ∈ ts, t.OneLine))

@[simp] theorem oneLine_nil : OneLine [] := List.forall_mem_nil _

@[simp] theorem oneLine_cons {t : Token} {ts : List Token} :
    OneLine (t :: ts) ↔ t.OneLine ∧ OneLine ts :=
  List.forall_mem_cons

@[simp] theorem oneLine_append {ts us : List Token} :
    OneLine (ts ++ us) ↔ OneLine ts ∧ OneLine us :=
  List.forall_mem_append

@[simp] theorem oneLine_flatMap {α : Type} {f : α → List Token} {l : List α} :
    OneLine (l.flatMap f) ↔ ∀ x ∈ l, OneLine (f x) := by
  induction l with
  | nil => simp
  | cons x rest ih => rw [List.flatMap_cons, oneLine_append, ih, List.forall_mem_cons]

private theorem unbroken_spellAfter (glued : Bool) {ts : List Token} :
    Text.Unbroken (spellAfter glued ts) ↔ OneLine ts := by
  have hblank : ∀ glued : Bool, Text.Unbroken (if glued then [] else [' ']) := by decide
  induction ts generalizing glued with
  | nil => simp [spellAfter]
  | cons t rest ih =>
    rw [spellAfter, Text.unbroken_append, Text.unbroken_append, oneLine_cons, Token.OneLine,
      and_iff_right (hblank glued)]
    exact and_congr_right' (ih _)

/-- Tokens are separated by blanks, so only their own texts can break the line. -/
theorem unbroken_spell_iff {ts : List Token} : Text.Unbroken (spell ts) ↔ OneLine ts :=
  unbroken_spellAfter true

namespace Token

@[simp] theorem oneLine_ident (i : Ident) : (ident i).OneLine := by
  rw [OneLine, spell]
  exact i.unbroken_spell

@[simp] theorem oneLine_punct {c : Char} {joint : Bool} :
    (punct c joint).OneLine ↔ c ∉ Text.lineBreaks := by
  simp [OneLine, spell]

@[simp] theorem oneLine_literal {l : Literal} :
    (literal l).OneLine ↔ Text.Unbroken l.text.toList := by
  rw [OneLine, spell]

@[simp] theorem oneLine_group {d : Delimiter} {body : List Token} :
    (group d body).OneLine ↔ Source.OneLine body := by
  have hopening : ∀ d : Delimiter, Text.Unbroken d.opening := by
    intro d
    cases d <;> decide
  have hclosing : ∀ (d : Delimiter) (after : Bool), Text.Unbroken (d.closing after) := by
    intro d after
    cases d <;> cases after <;> decide
  rw [OneLine, spell, Text.unbroken_append, Text.unbroken_append, unbroken_spellAfter]
  simp [hopening d, hclosing d]

end Token

@[simp] theorem oneLine_operator {cs : List Char} : OneLine (operator cs) ↔ Text.Unbroken cs := by
  fun_induction operator cs with
  | case1 => simp
  | case2 c => simp
  | case3 c rest _ ih => rw [oneLine_cons, ih, Token.oneLine_punct, Text.unbroken_cons]

@[simp] theorem oneLine_commaSeparated {lists : List (List Token)} :
    OneLine (commaSeparated lists) ↔ ∀ ts ∈ lists, OneLine ts := by
  have hcomma : (Token.punct ',' false).OneLine := by decide
  fun_induction commaSeparated lists with
  | case1 => simp
  | case2 ts => simp
  | case3 ts rest _ ih =>
    rw [oneLine_append, oneLine_cons, and_iff_right hcomma, List.forall_mem_cons]
    exact and_congr_right' ih

end ValidatorForge.Source
