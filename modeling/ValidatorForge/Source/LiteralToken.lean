import ValidatorForge.Source.Blank
import ValidatorForge.Text.Hexadecimal

/-!
# Scanning literals

Each scanner takes the text in front of which a literal may begin and returns the rest after it, or
nothing.  A string scanner returns the value of the string as well.
-/

namespace ValidatorForge.Source

open Text (hexValue? isHexDigit)

/-- The text after the word at its front, or all of it. -/
def afterWord (cs : List Char) : List Char :=
  match cs with
  | c :: rest => if startsWord c then rest.dropWhile continuesWord else cs
  | [] => []

/-! ## Escapes -/

/-- What the literals of one kind may contain. -/
structure EscapeRules where
  /-- The code of a `\x` escape, from its two digits. -/
  byte : Nat → Nat → Bool
  /-- Whether there are `\u` escapes. -/
  unicode : Bool
  /-- Whether a NUL may be written. -/
  nul : Bool
  /-- The characters that may stand for themselves. -/
  plain : Char → Bool

/-- Text literals: code points, and bytes up to 127. -/
def textRules : EscapeRules :=
  { byte := fun high _ => high < 8, unicode := true, nul := true, plain := fun _ => true }

/-- Byte literals: bytes only. -/
def byteRules : EscapeRules :=
  { byte := fun _ _ => true, unicode := false, nul := true, plain := fun c => c.toNat < 0x80 }

/-- Literals that a NUL ends: text and bytes, but no NUL. -/
def terminatedRules : EscapeRules :=
  { byte := fun high low => high != 0 || low != 0, unicode := true, nul := false,
    plain := fun c => c != '\x00' }

/-- The code point between the braces of a `\u` escape: one to six digits, after the first of which
underscores may stand. -/
def scanCodePoint (value digits : Nat) : List Char → Option (Nat × List Char)
  | [] => none
  | c :: rest =>
    match hexValue? c with
    | some d => if digits < 6 then scanCodePoint (value * 16 + d) (digits + 1) rest else none
    | none =>
      if digits = 0 then none
      else if c = '_' then scanCodePoint value digits rest
      else if c = '\x7d' then some (value, rest)
      else none

/-- The character of an escape, from the text after its backslash. -/
def scanEscape (rules : EscapeRules) : List Char → Option (Char × List Char)
  | 'n' :: rest => some ('\n', rest)
  | 'r' :: rest => some ('\r', rest)
  | 't' :: rest => some ('\t', rest)
  | '\\' :: rest => some ('\\', rest)
  | '\'' :: rest => some ('\'', rest)
  | '"' :: rest => some ('"', rest)
  | '0' :: rest => if rules.nul then some ('\x00', rest) else none
  | 'x' :: a :: b :: rest =>
    match hexValue? a, hexValue? b with
    | some high, some low =>
      if rules.byte high low then some (Char.ofNat (high * 16 + low), rest) else none
    | _, _ => none
  | 'u' :: '\x7b' :: rest =>
    if !rules.unicode then none
    else
      match scanCodePoint 0 0 rest with
      | some (n, rest) =>
        if n.isValidChar && (rules.nul || n != 0) then some (Char.ofNat n, rest) else none
      | none => none
  | _ => none

/-! ## Strings -/

/-- The text after the white space that follows a backslash at the end of a line.  A carriage return
in it must be paired, and the string may not end in it. -/
def afterContinuation (plain : Char → Bool) : List Char → Option (List Char)
  | '\r' :: '\n' :: rest => afterContinuation plain rest
  | '\r' :: _ => none
  | c :: rest => if isWhite c && plain c then afterContinuation plain rest else some (c :: rest)
  | [] => none

/-- The value of a string up to its closing quote, and the rest. -/
def scanCooked (rules : EscapeRules) (cs : List Char) : Option (List Char × List Char) :=
  match cs with
  | [] => none
  | '"' :: rest => some ([], rest)
  | '\\' :: '\n' :: rest => continued rest
  | '\\' :: '\r' :: '\n' :: rest => continued rest
  | '\\' :: rest =>
    match scanEscape rules rest with
    | some (c, after) =>
      if _hle : after.length ≤ rest.length then
        (scanCooked rules after).map fun (value, rest) => (c :: value, rest)
      else none
    | none => none
  | '\r' :: '\n' :: rest => (scanCooked rules rest).map fun (value, rest) => ('\n' :: value, rest)
  | '\r' :: _ => none
  | c :: rest =>
    if rules.plain c then (scanCooked rules rest).map fun (value, rest) => (c :: value, rest)
    else none
termination_by cs.length
where
  /-- The rest of a string after a line break that is not part of it. -/
  continued (rest : List Char) : Option (List Char × List Char) :=
    match afterContinuation rules.plain rest with
    | some after =>
      if _hle : after.length ≤ rest.length then scanCooked rules after else none
    | none => none
  termination_by rest.length + 1

/-- The body of a raw string up to a quote and `hashes` hash signs, and the rest. -/
def scanRawBody (hashes : Nat) (plain : Char → Bool) : List Char → Option (List Char × List Char)
  | [] => none
  | c :: rest =>
    if c = '"' && rest.take hashes == List.replicate hashes '#' then some ([], rest.drop hashes)
    else if c = '\r' && rest.head? != some '\n' then none
    else if plain c then (scanRawBody hashes plain rest).map fun (body, after) => (c :: body, after)
    else none

/-- A raw string after its `r`. -/
def scanRaw (plain : Char → Bool) (cs : List Char) : Option (List Char × List Char) :=
  let hashes := (cs.takeWhile (· == '#')).length
  match cs.drop hashes with
  | '"' :: rest => if hashes ≤ 255 then scanRawBody hashes plain rest else none
  | _ => none

/-- One quoted character, after its opening quote. -/
def scanQuotedChar (rules : EscapeRules) : List Char → Option (List Char)
  | '\\' :: rest =>
    match scanEscape rules rest with
    | some (_, '\'' :: after) => some after
    | _ => none
  | c :: '\'' :: rest => if rules.plain c then some rest else none
  | _ => none

/-! ## Numbers -/

/-- The text after a number's suffix, if no word character follows. -/
def afterSuffix (cs : List Char) : Option (List Char) :=
  let rest := afterWord cs
  match rest with
  | c :: _ => if continuesWord c then none else some rest
  | [] => some []

/-- The digits of an exponent, after an optional sign. -/
private def afterExponent (cs : List Char) : Option (List Char) :=
  let isExponentChar := fun c : Char => c.isDigit || c == '_'
  let unsigned := cs.dropWhile (· == '_')
  let body := match unsigned with
    | '+' :: rest | '-' :: rest => rest
    | _ => unsigned
  if (body.takeWhile isExponentChar).any Char.isDigit then some (body.dropWhile isExponentChar)
  else none

/-- The text after the digits of a number with a point or an exponent.  An exponent without digits
is a suffix of the number before it. -/
def afterFloatDigits (cs : List Char) : Option (List Char) :=
  let isDigitChar := fun c : Char => c.isDigit || c == '_'
  let isExponentMark := fun c : Char => c == 'e' || c == 'E'
  if !(cs.head?.map Char.isDigit).getD false then none
  else
    match cs.dropWhile isDigitChar with
    | '.' :: rest =>
      if (rest.head?.map fun c => c == '.' || startsWord c).getD false then none
      else
        match rest.dropWhile isDigitChar with
        | e :: after =>
          if isExponentMark e then some ((afterExponent after).getD (e :: after))
          else some (e :: after)
        | [] => some []
    | e :: rest => if isExponentMark e then afterExponent rest else none
    | [] => none

/-- The text after the digits of an integer, in base 2, 8, 10 or 16. -/
def afterIntDigits (cs : List Char) : Option (List Char) :=
  let (base, body) : Nat × List Char := match cs with
    | '0' :: 'x' :: rest => (16, rest)
    | '0' :: 'o' :: rest => (8, rest)
    | '0' :: 'b' :: rest => (2, rest)
    | _ => (10, cs)
  let belongs := fun c : Char => c == '_' || match hexValue? c with
    | some d => d < base || c.isDigit
    | none => false
  let digits := body.takeWhile belongs
  if digits.any (fun c => c.isDigit && (hexValue? c).getD 0 ≥ base) then none
  else if base == 10 && digits.head? == some '_' then none
  else if digits.all (· == '_') then none
  else some (body.drop digits.length)

/-! ## All literals -/

/-- A literal at the front of a text: its kind and the rest. -/
def scanLiteral? (cs : List Char) : Option (LiteralKind × List Char) :=
  let valued := fun (r : Option (List Char × List Char)) =>
    r.map fun (value, rest) => (LiteralKind.string (String.ofList value), afterWord rest)
  let kinded := fun (kind : LiteralKind) (r : Option (List Char × List Char)) =>
    r.map fun (_, rest) => (kind, afterWord rest)
  let number :=
    match (afterFloatDigits cs).bind afterSuffix with
    | some rest => some (LiteralKind.float, rest)
    | none => ((afterIntDigits cs).bind afterSuffix).map fun rest => (LiteralKind.int, rest)
  match cs with
  | '"' :: rest => valued (scanCooked textRules rest)
  | 'r' :: rest => valued (scanRaw (fun _ => true) rest)
  | 'b' :: '"' :: rest => kinded .byteString (scanCooked byteRules rest)
  | 'b' :: 'r' :: rest => kinded .byteString (scanRaw byteRules.plain rest)
  | 'b' :: '\'' :: rest => (scanQuotedChar byteRules rest).map fun rest => (.byte, afterWord rest)
  | 'c' :: '"' :: rest => kinded .cString (scanCooked terminatedRules rest)
  | 'c' :: 'r' :: rest => kinded .cString (scanRaw terminatedRules.plain rest)
  | '\'' :: rest => (scanQuotedChar textRules rest).map fun rest => (.char, afterWord rest)
  | _ => number

end ValidatorForge.Source
