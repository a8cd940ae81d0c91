import ValidatorForge.Snapshot.Numeral

/-!
# Snapshot documents

Metadata snapshots are JSON texts.  A text is scanned once into a `Document`, which also records how
and where the scan failed: an ill-formed text is a document with a fault in it.  A reader of the
document then meets a wrong value and a fault in the order in which they stand in the text.
-/

namespace ValidatorForge.Snapshot

mutual

/-- A scanned value. -/
inductive Document where
  | null
  | bool (b : Bool)
  | number (n : Numeral)
  | string (t : StringToken)
  | array (items : List Document) (close : Close)
  | object (members : List (StringToken × Document)) (close : Close)
  /-- A literal or number that failed to scan; passing over it may fail in another way. -/
  | badScalar (read skip : Fault)
  /-- No value at all. -/
  | bad (fault : Fault)

/-- How the scan of an array or object ended. -/
inductive Close where
  /-- By its bracket, or by a fault inside its last item. -/
  | closed
  /-- By a fault where a comma or the bracket was due. -/
  | open (fault : Fault)
  /-- By a fault right after a comma. -/
  | afterComma (fault : Fault)
  /-- By a value that is no string where the first key was due. -/
  | badKey (found : Document)

end

instance : Inhabited Document := ⟨.null⟩

/-! ## Passing over a value -/

mutual

/-- The first fault that passing over the value meets. -/
def Document.skipFault : Document → Option Fault
  | .null | .bool _ | .number _ => none
  | .string t => t.fault
  | .array items close => (skipFaultItems items).or close.skipFault
  | .object members close => (skipFaultMembers members).or close.skipFault
  | .badScalar _ skip => some skip
  | .bad fault => some fault

def skipFaultItems : List Document → Option Fault
  | [] => none
  | d :: rest => d.skipFault.or (skipFaultItems rest)

def skipFaultMembers : List (StringToken × Document) → Option Fault
  | [] => none
  | (key, d) :: rest => key.fault.or (d.skipFault.or (skipFaultMembers rest))

def Close.skipFault : Close → Option Fault
  | .closed => none
  | .open fault | .afterComma fault => some fault
  | .badKey _ => some .malformed

end

namespace Document

/-! ## Scanning -/

def isBlank (c : Char) : Bool := c = ' ' || c = '\n' || c = '\t' || c = '\r'

/-- The text after leading blanks. -/
def skipBlanks (cs : List Char) : List Char := cs.dropWhile isBlank

/-- A fault at a place where something else was due: the text ends, or has another character. -/
private def faultAt : List Char → Fault
  | [] => .cutShort
  | _ => .malformed

/-- What a scan found, and the text after it unless the scan stopped at a fault. -/
abbrev Scanned (α : Type) := α × Option (List Char)

/-- Scans the rest of a literal. -/
def scanWord (word : List Char) (value : Document) (cs : List Char) : Scanned Document :=
  match word, cs with
  | [], rest => (value, some rest)
  | _, [] => (.badScalar .cutShort .cutShort, none)
  | w :: word, c :: rest =>
    if w = c then scanWord word value rest else (.badScalar .malformed .malformed, none)

mutual

/-- Scans the value that begins the text, with blanks before it.  `fuel` bounds the steps, and four
for each character are enough. -/
def scanValue (fuel : Nat) (cs : List Char) : Scanned Document :=
  match fuel with
  | 0 => (.bad .cutShort, none)
  | fuel + 1 =>
    match skipBlanks cs with
    | [] => (.bad .cutShort, none)
    | 'n' :: rest => scanWord ['u', 'l', 'l'] .null rest
    | 't' :: rest => scanWord ['r', 'u', 'e'] (.bool true) rest
    | 'f' :: rest => scanWord ['a', 'l', 's', 'e'] (.bool false) rest
    | '"' :: rest =>
      let (token, rest) := StringToken.scan rest
      (.string token, if token.fault.isNone then some rest else none)
    | '[' :: rest =>
      let ((items, close), rest) := scanItems fuel rest true
      (.array items close, rest)
    | '\x7b' :: rest =>
      let ((members, close), rest) := scanMembers fuel rest true
      (.object members close, rest)
    | c :: rest =>
      if c = '-' || c.isDigit then
        match Numeral.scan (c :: rest) with
        | .ok (n, rest) => (.number n, some rest)
        | .error f => (.badScalar f.read f.skip, none)
      else (.bad .malformed, none)

/-- Scans the items of an array up to its bracket; `first` before the first of them. -/
def scanItems (fuel : Nat) (cs : List Char) (first : Bool) : Scanned (List Document × Close) :=
  match fuel with
  | 0 => (([], .open .cutShort), none)
  | fuel + 1 =>
    match skipBlanks cs, first with
    | ']' :: rest, _ => (([], .closed), some rest)
    | [], _ => (([], .open .cutShort), none)
    | ',' :: rest, false =>
      match skipBlanks rest with
      | ']' :: _ => (([], .afterComma .malformed), none)
      | [] => (([], .afterComma .cutShort), none)
      | rest => scanItem fuel rest
    | _, false => (([], .open .malformed), none)
    | rest, true => scanItem fuel rest

/-- Scans one item and those after it. -/
def scanItem (fuel : Nat) (cs : List Char) : Scanned (List Document × Close) :=
  match fuel with
  | 0 => (([], .open .cutShort), none)
  | fuel + 1 =>
    match scanValue fuel cs with
    | (value, none) => (([value], .closed), none)
    | (value, some rest) =>
      let ((items, close), rest) := scanItems fuel rest false
      ((value :: items, close), rest)

/-- Scans the members of an object up to its bracket; `first` before the first of them. -/
def scanMembers (fuel : Nat) (cs : List Char) (first : Bool) :
    Scanned (List (StringToken × Document) × Close) :=
  match fuel with
  | 0 => (([], .open .cutShort), none)
  | fuel + 1 =>
    match skipBlanks cs, first with
    | '\x7d' :: rest, _ => (([], .closed), some rest)
    | [], _ => (([], .open .cutShort), none)
    | ',' :: rest, false =>
      match skipBlanks rest with
      | '"' :: rest => scanMember fuel rest
      | rest => (([], .afterComma (faultAt rest)), none)
    | _, false => (([], .open .malformed), none)
    | '"' :: rest, true => scanMember fuel rest
    | rest, true => (([], .badKey (scanValue fuel rest).1), none)

/-- Scans one member, whose key's quote has been read, and those after it. -/
def scanMember (fuel : Nat) (cs : List Char) :
    Scanned (List (StringToken × Document) × Close) :=
  match fuel with
  | 0 => (([], .open .cutShort), none)
  | fuel + 1 =>
    let (key, rest) := StringToken.scan cs
    if key.fault.isSome then (([(key, .bad .malformed)], .closed), none)
    else
      match skipBlanks rest with
      | ':' :: rest =>
        match scanValue fuel rest with
        | (value, none) => (([(key, value)], .closed), none)
        | (value, some rest) =>
          let ((members, close), rest) := scanMembers fuel rest false
          (((key, value) :: members, close), rest)
      | rest => (([(key, .bad (faultAt rest))], .closed), none)

end

/-- Scans a text: its first value, and the fault of what follows it, if anything does. -/
def scan (text : String) : Document × Option Fault :=
  let cs := text.toList
  match scanValue (4 * cs.length + 4) cs with
  | (value, none) => (value, none)
  | (value, some rest) => (value, if (skipBlanks rest).isEmpty then none else some .malformed)

end Document

end ValidatorForge.Snapshot
