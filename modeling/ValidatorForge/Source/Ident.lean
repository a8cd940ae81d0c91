import ValidatorForge.Text.Case
import ValidatorForge.Text.Line
import ValidatorForge.Text.Unicode.IdentifierTable

/-!
# Identifiers of the emitted language

An `Ident` is a word, written raw (`r#type`) when the word is a keyword.  `ofName?` spells a host
name as an identifier; `name_of_ofName?` says that the name can be read back from it.
-/

namespace ValidatorForge.Source

/-- The words that are written raw. -/
def keywords : List String :=
  ["abstract", "as", "async", "await", "become", "box", "break", "const", "continue", "do", "dyn",
   "else", "enum", "extern", "false", "final", "fn", "for", "if", "impl", "in", "let", "loop",
   "macro", "match", "mod", "move", "mut", "override", "priv", "pub", "ref", "return", "static",
   "struct", "trait", "true", "try", "type", "typeof", "unsafe", "unsized", "use", "virtual",
   "where", "while", "yield"]

/-- The keywords of paths.  They have no raw form. -/
def pathKeywords : List String := ["self", "Self", "super", "crate"]

/-- Whether a word is reserved: it is not an identifier unless written raw. -/
def isReserved (word : String) : Bool := keywords.contains word || pathKeywords.contains word

/-- Characters that may begin a word. -/
def startsWord (c : Char) : Bool :=
  c == '_' ||
    if c.toNat < 0x80 then c.isAlpha else Text.covers Text.Unicode.identifierStart c.toNat

/-- Characters that may follow in a word. -/
def continuesWord (c : Char) : Bool :=
  startsWord c ||
    if c.toNat < 0x80 then c.isDigit else Text.covers Text.Unicode.identifierRest c.toNat

/-- Whether a text is one word. -/
def isWord : List Char → Bool
  | [] => false
  | c :: rest => startsWord c && rest.all continuesWord

/-- A word with its spelling, raw or plain. -/
structure Ident where
  name : String
  raw : Bool
  valid : isWord name.toList = true
deriving DecidableEq, Repr

namespace Ident

/-- A plain word of the templates. -/
def plain (name : String) (valid : isWord name.toList = true := by exact Eq.refl true) : Ident :=
  ⟨name, false, valid⟩

instance : Inhabited Ident := ⟨plain "_"⟩

/-- The word made of `chars`, if they are one. -/
def ofChars? (chars : List Char) (raw : Bool) : Option Ident :=
  if h : isWord (String.ofList chars).toList = true then some ⟨_, raw, h⟩ else none

/-- The spelling of an identifier. -/
def spell (i : Ident) : List Char := (if i.raw then ['r', '#'] else []) ++ i.name.toList

def text (i : Ident) : String := String.ofList i.spell

instance : ToString Ident := ⟨text⟩

/-- Whether an identifier is the plain word `word`. -/
def isPlain (i : Ident) (word : String) : Bool := !i.raw && i.name == word

/-- Whether an identifier may name an item: reserved words and the underscore may not. -/
def namesItem (i : Ident) : Bool := i.raw || !(isReserved i.name || i.name == "_")

/-- Whether a character may stand in a host name that has an identifier. -/
def isAsciiWordChar (c : Char) : Bool := c == '_' || c.isAlphanum

/-- The identifier for a host name: raw for a keyword.  Only words of ASCII letters, digits and
underscores have one; the underscore alone and the keywords of paths have none. -/
def ofName? (name : String) : Option Ident :=
  if name.toList.all isAsciiWordChar && name != "_" && !pathKeywords.contains name then
    if h : isWord name.toList = true then some ⟨name, keywords.contains name, h⟩ else none
  else none

/-- The identifier for a name holds that name. -/
theorem name_of_ofName? {name : String} {i : Ident} (h : ofName? name = some i) :
    i.name = name := by
  unfold ofName? at h
  split at h
  · split at h
    · rw [← Option.some.inj h]
    · simp at h
  · simp at h

/-- What neither starts nor continues a word is in no word. -/
theorem not_mem_of_isWord {c : Char} (hstarts : startsWord c = false)
    (hcontinues : continuesWord c = false) {cs : List Char} (h : isWord cs = true) : c ∉ cs := by
  cases cs with
  | nil => exact List.not_mem_nil
  | cons d rest =>
    simp only [isWord, Bool.and_eq_true, List.all_eq_true] at h
    intro hc
    rcases List.mem_cons.1 hc with rfl | hc
    · rw [h.1] at hstarts
      cases hstarts
    · rw [h.2 c hc] at hcontinues
      cases hcontinues

/-- A word is on one line. -/
theorem unbroken_of_isWord {cs : List Char} (h : isWord cs = true) : Text.Unbroken cs := by
  have hbreaks : Text.lineBreaks.all (fun b => !startsWord b && !continuesWord b) = true := by
    decide +kernel
  intro c hc hbreak
  obtain ⟨hstarts, hcontinues⟩ : startsWord c = false ∧ continuesWord c = false := by
    simpa using List.all_eq_true.1 hbreaks c hbreak
  exact not_mem_of_isWord hstarts hcontinues h hc

/-- An identifier is spelled on one line. -/
theorem unbroken_spell (i : Ident) : Text.Unbroken i.spell := by
  refine Text.unbroken_append.2 ⟨?_, unbroken_of_isWord i.valid⟩
  split <;> decide

end Ident

end ValidatorForge.Source
