import ValidatorForge.Text.Hexadecimal

/-!
# String tokens of a snapshot

A string of a snapshot is read in two ways.  As a value it must decode to text.  As part of a field
that nobody asks for it is only passed over, and then a `\u` escape may name half of a surrogate
pair.  `StringToken.scan` therefore returns the pieces of the string, and `StringToken.text` decodes
them.
-/

namespace ValidatorForge.Snapshot

/-- How a text fails to be a document: it breaks the grammar, or it ends too early. -/
inductive Fault where
  | malformed
  | cutShort
deriving DecidableEq, Repr

/-- A piece of a string: a character, or the 16-bit unit of a `\u` escape. -/
inductive Piece where
  | char (c : Char)
  | unit (n : Nat)
deriving DecidableEq, Repr

/-- A scanned string.  `fault` tells how its scan failed after `pieces`, if it did. -/
structure StringToken where
  pieces : List Piece
  fault : Option Fault
deriving DecidableEq, Repr

namespace StringToken

/-- The unit that the four digits of a `\u` escape give. -/
def hexUnit? (a b c d : Char) : Option Nat :=
  match Text.hexValue? a, Text.hexValue? b, Text.hexValue? c, Text.hexValue? d with
  | some i, some j, some k, some l => some (((i * 16 + j) * 16 + k) * 16 + l)
  | _, _, _, _ => none

/-- The fault of a `\u` escape with less than four characters after it.  The text ends too early
only if less than four bytes are left. -/
private def shortUnitFault (cs : List Char) : Fault :=
  if cs.foldl (fun n c => n + c.utf8Size) 0 < 4 then .cutShort else .malformed

/-- The character that a one-letter escape stands for. -/
def shortEscape? : Char → Option Char
  | '"' => some '"'
  | '\\' => some '\\'
  | '/' => some '/'
  | 'b' => some '\x08'
  | 'f' => some '\x0c'
  | 'n' => some '\n'
  | 'r' => some '\r'
  | 't' => some '\t'
  | _ => none

/-- The letter of the one-letter escape that a character is written with. -/
def escapeLetter? : Char → Option Char
  | '"' => some '"'
  | '\\' => some '\\'
  | '\x08' => some 'b'
  | '\x0c' => some 'f'
  | '\n' => some 'n'
  | '\r' => some 'r'
  | '\t' => some 't'
  | _ => none

/-- The piece that a character is written as.  Only a unit can stand for a control character that
has no letter. -/
def pieceOf (c : Char) : Piece :=
  if c.toNat < 0x20 && (escapeLetter? c).isNone then .unit c.toNat else .char c

/-- A token with one more piece in front. -/
def prepend (p : Piece) (r : StringToken × List Char) : StringToken × List Char :=
  ({ r.1 with pieces := p :: r.1.pieces }, r.2)

/-- Scans a string from after its opening quote to after its closing one. -/
def scan : List Char → StringToken × List Char
  | [] => (⟨[], some .cutShort⟩, [])
  | '"' :: rest => (⟨[], none⟩, rest)
  | '\\' :: 'u' :: a :: b :: c :: d :: rest =>
    match hexUnit? a b c d with
    | some n => prepend (.unit n) (scan rest)
    | none => (⟨[], some .malformed⟩, [])
  | '\\' :: 'u' :: rest => (⟨[], some (shortUnitFault rest)⟩, [])
  | '\\' :: e :: rest =>
    match shortEscape? e with
    | some c => prepend (.char c) (scan rest)
    | none => (⟨[], some .malformed⟩, [])
  | ['\\'] => (⟨[], some .cutShort⟩, [])
  | c :: rest =>
    if c.toNat < 0x20 then (⟨[], some .malformed⟩, []) else prepend (.char c) (scan rest)

/-- The string of the characters, as it is written. -/
def ofChars (cs : List Char) : StringToken := ⟨cs.map pieceOf, none⟩

def isHighSurrogate (n : Nat) : Bool := 0xD800 ≤ n && n < 0xDC00

def isLowSurrogate (n : Nat) : Bool := 0xDC00 ≤ n && n < 0xE000

/-- The character of a surrogate pair. -/
def pairChar (high low : Nat) : Char :=
  Char.ofNat (0x10000 + (high - 0xD800) * 0x400 + (low - 0xDC00))

/-- Decodes pieces.  Half of a surrogate pair is malformed, unless the scan failed right after the
first half: then the scan's failure stands. -/
def decode (fault : Option Fault) : List Piece → Except Fault (List Char)
  | [] => match fault with
    | some f => .error f
    | none => .ok []
  | .char c :: rest => (decode fault rest).map (c :: ·)
  | .unit n :: rest =>
    if isLowSurrogate n then .error .malformed
    else if isHighSurrogate n then
      match rest with
      | .unit low :: rest =>
        if isLowSurrogate low then (decode fault rest).map (pairChar n low :: ·)
        else .error .malformed
      | [] => .error (fault.getD .malformed)
      | .char _ :: _ => .error .malformed
    else (decode fault rest).map (Char.ofNat n :: ·)

/-- The text of the string. -/
def text (t : StringToken) : Except Fault String := (decode t.fault t.pieces).map String.ofList

/-- A unit that is no surrogate stands for its character. -/
theorem decode_unit {fault : Option Fault} {n : Nat} {rest : List Piece} (hn : n < 0xD800) :
    decode fault (.unit n :: rest) = (decode fault rest).map (Char.ofNat n :: ·) := by
  have hlow : isLowSurrogate n = false := by simp [isLowSurrogate]; omega
  have hhigh : isHighSurrogate n = false := by simp [isHighSurrogate]; omega
  rw [decode.eq_def]
  simp [hlow, hhigh]

theorem decode_map_pieceOf (cs : List Char) : decode none (cs.map pieceOf) = .ok cs := by
  induction cs with
  | nil => rfl
  | cons c rest ih =>
    rw [List.map_cons, pieceOf]
    split
    · next hcontrol =>
      have hsmall : c.toNat < 0x20 := by simpa using (Bool.and_eq_true_iff.1 hcontrol).1
      rw [decode_unit (by omega), ih]
      simp [Except.map]
    · simp [decode, ih, Except.map]

/-- The written string of a text decodes to it. -/
theorem text_ofChars (s : String) : (ofChars s.toList).text = .ok s := by
  simp [text, ofChars, decode_map_pieceOf, Except.map]

end StringToken

end ValidatorForge.Snapshot
