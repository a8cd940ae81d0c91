import ValidatorForge.Source.Path

/-!
# Fragments of emitted source

The pieces from which emitters compose types, expressions, statements and items.  A fragment is a
token list; composing fragments never inspects them.
-/

namespace ValidatorForge.Source

/-- A piece of emitted source. -/
abbrev Fragment := List Token

/-! ## Punctuation and brackets -/

def comma : Token := .punct ',' false
def semicolon : Token := .punct ';' false
def colon : Token := .punct ':' false
def dot : Token := .punct '.' false
def ampersand : Token := .punct '&' false
def equals : Token := .punct '=' false
def pathSeparator : Fragment := operator [':', ':']
def arrow : Fragment := operator ['-', '>']
def fatArrow : Fragment := operator ['=', '>']

def parens (body : Fragment) : Token := .group .parenthesis body
def brackets (body : Fragment) : Token := .group .bracket body
def braces (body : Fragment) : Token := .group .brace body

/-- A string literal. -/
def textLiteral (value : String) : Token := .literal (.ofString value)

/-- A type argument list. -/
def angles (body : Fragment) : Fragment := .punct '<' false :: (body ++ [.punct '>' false])

/-! ## Attributes -/

def attributeOf (body : Fragment) : Fragment := [.punct '#' false, brackets body]

/-- A documentation attribute with computed text. -/
def doc (text : String) : Fragment := attributeOf [word "doc", equals, textLiteral text]

/-- A documentation attribute with fixed text. -/
def fixedDoc (text : String) : Fragment :=
  attributeOf [word "doc", equals, .literal (.verbatim text)]

/-! ## Types -/

/-- A reference type. -/
def refTo (target : Fragment) : Fragment := ampersand :: target

/-- A reference type that lives as long as the program. -/
def staticRefTo (target : Fragment) : Fragment :=
  ampersand :: .punct '\'' true :: word "static" :: target

/-- A type known only by a trait. -/
def dynamic (trait : ModPath) : Fragment := word "dyn" :: trait.tokens

/-- A generic type with its arguments. -/
def applied (p : ModPath) (args : List Fragment) : Fragment :=
  p.tokens ++ angles (commaSeparated args)

/-! ## Expressions -/

/-- A call of a function. -/
def call (f : Fragment) (args : List Fragment) : Fragment := f ++ [parens (commaSeparated args)]

/-- A call of a method. -/
def methodCall (receiver : Fragment) (name : Ident) (args : List Fragment) : Fragment :=
  receiver ++ [dot, .ident name, parens (commaSeparated args)]

/-- A field of a value. -/
def fieldOf (receiver : Fragment) (name : Ident) : Fragment := receiver ++ [dot, .ident name]

/-- A list of expressions. -/
def listOf (items : List Fragment) : Token := brackets (commaSeparated items)

/-- A member that a type has through a trait. -/
def traitMember (ty : ModPath) (trait : ModPath) (member : Ident) : Fragment :=
  angles (ty.tokens ++ word "as" :: trait.tokens) ++ pathSeparator ++ [.ident member]

/-- A named field with its value or type. -/
def named (name : Ident) (value : Fragment) : Fragment := .ident name :: colon :: value

/-! ## Statements and items -/

/-- A conditional statement. -/
def ifThen (condition body : Fragment) : Fragment := word "if" :: (condition ++ [braces body])

/-- A return statement. -/
def returning (value : Fragment) : Fragment := word "return" :: (value ++ [semicolon])

/-- A binding of a name. -/
def binding (name : Ident) (value : Fragment) : Fragment :=
  word "let" :: .ident name :: equals :: (value ++ [semicolon])

/-- A function with its parameters, result type and body. -/
def function (name : Ident) (params : List Fragment) (result body : Fragment) : Fragment :=
  word "fn" :: .ident name :: parens (commaSeparated params) :: (arrow ++ result ++ [braces body])

/-! ## Lines -/

section

variable {a b : Fragment} {fs : List Fragment} {p q : ModPath} {i : Ident}

@[simp] theorem oneLine_comma : comma.OneLine := by decide
@[simp] theorem oneLine_semicolon : semicolon.OneLine := by decide
@[simp] theorem oneLine_colon : colon.OneLine := by decide
@[simp] theorem oneLine_dot : dot.OneLine := by decide
@[simp] theorem oneLine_ampersand : ampersand.OneLine := by decide
@[simp] theorem oneLine_equals : equals.OneLine := by decide
@[simp] theorem oneLine_pathSeparator : OneLine pathSeparator := by decide
@[simp] theorem oneLine_arrow : OneLine arrow := by decide
@[simp] theorem oneLine_fatArrow : OneLine fatArrow := by decide

@[simp] theorem oneLine_parens : (parens a).OneLine ↔ OneLine a := Token.oneLine_group

@[simp] theorem oneLine_brackets : (brackets a).OneLine ↔ OneLine a := Token.oneLine_group

@[simp] theorem oneLine_braces : (braces a).OneLine ↔ OneLine a := Token.oneLine_group

/-- A string literal escapes the line breaks of its value. -/
@[simp] theorem oneLine_textLiteral (value : String) : (textLiteral value).OneLine :=
  Token.oneLine_literal.2 (Text.unbroken_literal value)

@[simp] theorem oneLine_angles : OneLine (angles a) ↔ OneLine a := by
  have hopen : '<' ∉ Text.lineBreaks := by decide
  have hclose : '>' ∉ Text.lineBreaks := by decide
  simp [angles, hopen, hclose]

@[simp] theorem oneLine_attributeOf : OneLine (attributeOf a) ↔ OneLine a := by
  have hmark : '#' ∉ Text.lineBreaks := by decide
  simp [attributeOf, hmark]

@[simp] theorem oneLine_doc (text : String) : OneLine (doc text) := by simp [doc, word]

/-- A fixed text is copied as it is. -/
theorem oneLine_fixedDoc {text : String} (h : Text.Unbroken text.toList) :
    OneLine (fixedDoc text) := by
  have hraw : 'r' ∉ Text.lineBreaks := by decide
  have hquote : '"' ∉ Text.lineBreaks := by decide
  simp [fixedDoc, Literal.verbatim, h, hraw, hquote, word]

@[simp] theorem oneLine_refTo : OneLine (refTo a) ↔ OneLine a := by simp [refTo]

@[simp] theorem oneLine_staticRefTo : OneLine (staticRefTo a) ↔ OneLine a := by
  have htick : '\'' ∉ Text.lineBreaks := by decide
  simp [staticRefTo, htick, word]

@[simp] theorem oneLine_dynamic : OneLine (dynamic p) ↔ p.OneLine := by simp [dynamic, word]

@[simp] theorem oneLine_applied :
    OneLine (applied p fs) ↔ p.OneLine ∧ ∀ f ∈ fs, OneLine f := by
  simp [applied]

@[simp] theorem oneLine_call : OneLine (call a fs) ↔ OneLine a ∧ ∀ f ∈ fs, OneLine f := by
  simp [call]

@[simp] theorem oneLine_methodCall :
    OneLine (methodCall a i fs) ↔ OneLine a ∧ ∀ f ∈ fs, OneLine f := by
  simp [methodCall]

@[simp] theorem oneLine_fieldOf : OneLine (fieldOf a i) ↔ OneLine a := by simp [fieldOf]

@[simp] theorem oneLine_listOf : (listOf fs).OneLine ↔ ∀ f ∈ fs, OneLine f := by simp [listOf]

@[simp] theorem oneLine_traitMember : OneLine (traitMember p q i) ↔ p.OneLine ∧ q.OneLine := by
  simp [traitMember, word]

@[simp] theorem oneLine_named : OneLine (named i a) ↔ OneLine a := by simp [named]

@[simp] theorem oneLine_ifThen : OneLine (ifThen a b) ↔ OneLine a ∧ OneLine b := by
  simp [ifThen, word]

@[simp] theorem oneLine_returning : OneLine (returning a) ↔ OneLine a := by simp [returning, word]

@[simp] theorem oneLine_binding : OneLine (binding i a) ↔ OneLine a := by simp [binding, word]

@[simp] theorem oneLine_function :
    OneLine (function i fs a b) ↔ (∀ f ∈ fs, OneLine f) ∧ OneLine a ∧ OneLine b := by
  simp [function, word]

end

end ValidatorForge.Source
