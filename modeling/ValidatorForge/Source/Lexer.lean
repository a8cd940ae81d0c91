import ValidatorForge.Source.LiteralToken

/-!
# Reading tokens

A source text is cut into lexemes, and the lexemes between matching brackets are gathered into
groups.  A text has no tokens at all if it contains a character that begins none, or a bracket
without its partner.
-/

namespace ValidatorForge.Source

/-- A bracket, or the tokens that stand at one place of a text. -/
inductive Lexeme where
  | opening (d : Delimiter)
  | closing (d : Delimiter)
  | leaf (tokens : List Token)

def punctuation : List Char :=
  ['~', '!', '@', '#', '$', '%', '^', '&', '*', '-', '=', '+', '|', ';', ':', ',', '<', '.', '>',
   '/', '?', '\'']

/-- Whether a punctuation character stands in front of a text.  The slash of a comment is none. -/
def atPunctuation : List Char → Bool
  | '/' :: '/' :: _ => false
  | '/' :: '*' :: _ => false
  | c :: _ => punctuation.contains c
  | [] => false

/-- The identifier at the front of a text, and the rest.  The path keywords and the underscore have
no raw form. -/
def scanIdent? (cs : List Char) : Option (Ident × List Char) :=
  let (raw, body) := match cs with
    | 'r' :: '#' :: rest => (true, rest)
    | _ => (false, cs)
  match body with
  | c :: rest =>
    if startsWord c then
      let name := c :: rest.takeWhile continuesWord
      if raw && (name == ['_'] || (pathKeywords.map String.toList).contains name) then none
      else (Ident.ofChars? name raw).map fun i => (i, rest.dropWhile continuesWord)
    else none
  | [] => none

/-- The openings of literals.  No identifier is read from a text that begins with one. -/
def literalOpenings : List (List Char) :=
  ["r\"", "r#\"", "r##", "b\"", "b'", "br\"", "br#", "c\"", "cr\"", "cr#"].map String.toList

/-- The punctuation character at the front of a text.  A quote begins a lifetime. -/
def scanPunct? (cs : List Char) : Option (Token × List Char) :=
  match cs with
  | '\'' :: rest =>
    match scanIdent? rest with
    | some (_, '\'' :: _) => none
    | some (i, '#' :: _) => if i.raw then some (.punct '\'' true, rest) else none
    | some _ => some (.punct '\'' true, rest)
    | none => none
  | c :: rest => if atPunctuation cs then some (.punct c (atPunctuation rest), rest) else none
  | [] => none

/-- The literal, punctuation character or identifier at the front of a text. -/
def scanLeaf? (cs : List Char) : Option (Token × List Char) :=
  match scanLiteral? cs with
  | some (kind, rest) =>
    some (.literal ⟨kind, String.ofList (cs.take (cs.length - rest.length))⟩, rest)
  | none =>
    match scanPunct? cs with
    | some r => some r
    | none =>
      if literalOpenings.any (·.isPrefixOf cs) then none
      else (scanIdent? cs).map fun (i, rest) => (.ident i, rest)

/-- The first lexeme of a text that begins with none of the blanks. -/
def scanLexeme? (cs : List Char) : Option (Lexeme × List Char) :=
  match cs with
  | '(' :: rest => some (.opening .parenthesis, rest)
  | '[' :: rest => some (.opening .bracket, rest)
  | '\x7b' :: rest => some (.opening .brace, rest)
  | ')' :: rest => some (.closing .parenthesis, rest)
  | ']' :: rest => some (.closing .bracket, rest)
  | '\x7d' :: rest => some (.closing .brace, rest)
  | _ =>
    match docComment? cs with
    | some (body, inner, rest) =>
      if returnsPaired body then some (.leaf (docAttribute body inner), rest) else none
    | none => (scanLeaf? cs).map fun (t, rest) => (.leaf [t], rest)

/-- The lexemes of a text. -/
def lexemes (cs : List Char) : Option (List Lexeme) :=
  match _hcs : skipBlanks cs with
  | [] => some []
  | c :: rest =>
    match scanLexeme? (c :: rest) with
    | some (l, after) =>
      if _hlt : after.length < cs.length then (lexemes after).map (l :: ·) else none
    | none => none
termination_by cs.length

/-- Gathers lexemes into groups.  `before` holds the tokens of the innermost open group, last first;
`outer` holds its bracket and what stands before it, and so on outwards. -/
def gather (outer : List (Delimiter × List Token)) (before : List Token) :
    List Lexeme → Option (List Token)
  | [] => if outer.isEmpty then some before.reverse else none
  | .opening d :: rest => gather ((d, before) :: outer) [] rest
  | .closing d :: rest =>
    match outer with
    | (opened, around) :: outer =>
      if opened = d then gather outer (.group d before.reverse :: around) rest else none
    | [] => none
  | .leaf tokens :: rest => gather outer (tokens.reverse ++ before) rest

/-- The tokens of a source text.  A byte order mark in front of it is passed over. -/
def tokenize (source : String) : Option (List Token) :=
  let cs := match source.toList with
    | '\uFEFF' :: rest => rest
    | cs => cs
  (lexemes cs).bind (gather [] [])

end ValidatorForge.Source
