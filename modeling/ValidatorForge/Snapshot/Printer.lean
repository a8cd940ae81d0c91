import ValidatorForge.Snapshot.Document

/-!
# Printing documents

A document is printed without blanks.  In a string, the quote, the backslash and five control
characters are escaped by a letter.  The other control characters of a text are units.
-/

namespace ValidatorForge.Snapshot

/-- Four hexadecimal digits, in lower case. -/
def unitDigits (n : Nat) : List Char :=
  [n / 0x1000, n / 0x100, n / 0x10, n].map fun m => Nat.digitChar (m % 0x10)

/-- A character inside a string. -/
def printChar (c : Char) : List Char :=
  match StringToken.escapeLetter? c with
  | some e => ['\\', e]
  | none => [c]

/-- A piece of a string. -/
def Piece.print : Piece → List Char
  | .char c => printChar c
  | .unit n => '\\' :: 'u' :: unitDigits n

def StringToken.print (t : StringToken) : List Char :=
  '"' :: (t.pieces.flatMap Piece.print ++ ['"'])

namespace Numeral

def printSign (negative : Bool) : List Char := if negative then ['-'] else []

def printFraction : Option (List Char) → List Char
  | some digits => '.' :: digits
  | none => []

def printExponent : Option (Bool × List Char) → List Char
  | some (negative, digits) => 'e' :: (printSign negative ++ digits)
  | none => []

def print (n : Numeral) : List Char :=
  printSign n.negative ++ (n.whole ++ (printFraction n.fraction ++ printExponent n.exponent))

end Numeral

mutual

/-- The text of a document.  Where a scan failed there is nothing to print. -/
def Document.print : Document → List Char
  | .null => ['n', 'u', 'l', 'l']
  | .bool true => ['t', 'r', 'u', 'e']
  | .bool false => ['f', 'a', 'l', 's', 'e']
  | .number n => n.print
  | .string t => t.print
  | .array items _ => '[' :: (printItems true items ++ [']'])
  | .object members _ => '\x7b' :: (printMembers true members ++ ['\x7d'])
  | .badScalar _ _ | .bad _ => []

/-- The items of an array, each but the first after a comma. -/
def printItems (first : Bool) : List Document → List Char
  | [] => []
  | d :: rest => (if first then [] else [',']) ++ d.print ++ printItems false rest

/-- The members of an object, each but the first after a comma. -/
def printMembers (first : Bool) : List (StringToken × Document) → List Char
  | [] => []
  | (key, d) :: rest =>
    (if first then [] else [',']) ++ key.print ++ ':' :: (d.print ++ printMembers false rest)

end

/-- The text of a document, as a string. -/
def Document.text (d : Document) : String := String.ofList d.print

end ValidatorForge.Snapshot
