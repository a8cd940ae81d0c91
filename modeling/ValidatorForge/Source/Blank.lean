import ValidatorForge.Source.Token

/-!
# Blanks and comments

Between two tokens stand white space and comments.  A documentation comment is not a blank: it is
read as an attribute.
-/

namespace ValidatorForge.Source

/-- Whether a character has the White_Space property. -/
def isWhite (c : Char) : Bool :=
  let n := c.toNat
  n == 0x20 || (0x09 ≤ n && n ≤ 0x0D) || n == 0x85 || n == 0xA0 || n == 0x1680 ||
    (0x2000 ≤ n && n ≤ 0x200A) || n == 0x2028 || n == 0x2029 || n == 0x202F || n == 0x205F ||
    n == 0x3000

/-- White space, or one of the two direction marks. -/
def isSpace (c : Char) : Bool := isWhite c || c.toNat == 0x200E || c.toNat == 0x200F

/-- A line and the text from its line break on. -/
def splitLine : List Char → List Char × List Char
  | [] => ([], [])
  | '\r' :: '\n' :: rest => ([], '\r' :: '\n' :: rest)
  | c :: rest =>
    if c = '\n' then ([], c :: rest)
    else
      let (line, after) := splitLine rest
      (c :: line, after)

/-- Splits a text after the end of the block comment in which it begins; comments nest, and `depth`
further ones are open. -/
def splitBlock (depth : Nat) : List Char → Option (List Char × List Char)
  | '*' :: '/' :: rest =>
    match depth with
    | 0 => some ([], rest)
    | depth + 1 => (splitBlock depth rest).map fun (body, after) => ('*' :: '/' :: body, after)
  | '/' :: '*' :: rest =>
    (splitBlock (depth + 1) rest).map fun (body, after) => ('/' :: '*' :: body, after)
  | c :: rest => (splitBlock depth rest).map fun (body, after) => (c :: body, after)
  | [] => none

/-- The rest of a text after a comment at its front that is not documentation. -/
def afterComment? : List Char → Option (List Char)
  | '/' :: '/' :: '!' :: _ => none
  | '/' :: '/' :: '/' :: '/' :: rest => some (splitLine rest).2
  | '/' :: '/' :: '/' :: _ => none
  | '/' :: '/' :: rest => some (splitLine rest).2
  | '/' :: '*' :: '*' :: '/' :: rest => some rest
  | '/' :: '*' :: '*' :: '*' :: rest => (splitBlock 0 ('*' :: '*' :: rest)).map (·.2)
  | '/' :: '*' :: '*' :: _ => none
  | '/' :: '*' :: '!' :: _ => none
  | '/' :: '*' :: rest => (splitBlock 0 rest).map (·.2)
  | _ => none

/-- The text after its leading blanks. -/
def skipBlanks (cs : List Char) : List Char :=
  match cs with
  | [] => []
  | c :: rest =>
    if isSpace c then skipBlanks rest
    else
      match afterComment? (c :: rest) with
      | some after => if _hlt : after.length < (c :: rest).length then skipBlanks after else after
      | none => c :: rest
termination_by cs.length
decreasing_by
  · exact Nat.lt_succ_self _
  · exact _hlt

/-- A documentation comment at the front of a text: its body, whether it documents what encloses it,
and the rest. -/
def docComment? : List Char → Option (List Char × Bool × List Char)
  | '/' :: '/' :: '!' :: rest => some ((splitLine rest).1, true, (splitLine rest).2)
  | '/' :: '*' :: '!' :: rest => (splitBlock 0 rest).map fun (body, after) => (body, true, after)
  | '/' :: '/' :: '/' :: '/' :: _ => none
  | '/' :: '/' :: '/' :: rest => some ((splitLine rest).1, false, (splitLine rest).2)
  | '/' :: '*' :: '*' :: '*' :: _ => none
  | '/' :: '*' :: '*' :: rest => (splitBlock 0 rest).map fun (body, after) => (body, false, after)
  | _ => none

/-- Whether every carriage return is followed by a line feed. -/
def returnsPaired : List Char → Bool
  | '\r' :: '\n' :: rest => returnsPaired rest
  | '\r' :: _ => false
  | _ :: rest => returnsPaired rest
  | [] => true

/-- The attribute that a documentation comment stands for. -/
def docAttribute (body : List Char) (inner : Bool) : List Token :=
  .punct '#' false :: (if inner then [.punct '!' false] else []) ++
    [.group .bracket
      [word "doc", .punct '=' false, .literal (.ofString (String.ofList body))]]

end ValidatorForge.Source
