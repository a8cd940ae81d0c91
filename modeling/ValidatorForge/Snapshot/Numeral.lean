import ValidatorForge.Snapshot.StringToken
import ValidatorForge.Text.Shortest

/-!
# Numbers of a snapshot

No field of a snapshot holds a number, so a number is only ever reported as the wrong kind of value.
A whole number that fits in 64 bits is reported as it is.  Any other number is reported as the
double that its digits give.
-/

namespace ValidatorForge.Snapshot

/-- A scanned number: sign, digits before the point, digits after it, and exponent. -/
structure Numeral where
  negative : Bool
  whole : List Char
  fraction : Option (List Char)
  exponent : Option (Bool × List Char)
deriving DecidableEq, Repr

namespace Numeral

/-- A number that fails to scan.  Passing over it may fail in another way than reading it. -/
structure Failure where
  read : Fault
  skip : Fault
deriving DecidableEq, Repr

/-- The failure at the end of the text or at a character that is no digit. -/
private def noDigit (rest : List Char) : Failure :=
  if rest.isEmpty then ⟨.cutShort, .malformed⟩ else ⟨.malformed, .malformed⟩

/-- Reads the sign of a number. -/
def takeMinus : List Char → Bool × List Char
  | '-' :: rest => (true, rest)
  | cs => (false, cs)

/-- Reads the sign of an exponent. -/
def takeSign : List Char → Bool × List Char
  | '-' :: rest => (true, rest)
  | '+' :: rest => (false, rest)
  | cs => (false, cs)

/-- Scans the exponent, if there is one. -/
def scanExponent (n : Numeral) (cs : List Char) :
    Except Failure (Numeral × List Char) :=
  match cs with
  | e :: rest =>
    if e = 'e' || e = 'E' then
      let (negative, rest) := takeSign rest
      let digits := rest.takeWhile Char.isDigit
      let rest := rest.dropWhile Char.isDigit
      if digits.isEmpty then .error (noDigit rest)
      else .ok ({ n with exponent := some (negative, digits) }, rest)
    else .ok (n, cs)
  | [] => .ok (n, [])

/-- Scans the fraction, if there is one, and what follows it. -/
def scanFraction (n : Numeral) (cs : List Char) :
    Except Failure (Numeral × List Char) :=
  match cs with
  | '.' :: rest =>
    let digits := rest.takeWhile Char.isDigit
    let rest := rest.dropWhile Char.isDigit
    if digits.isEmpty then .error (noDigit rest)
    else scanExponent { n with fraction := some digits } rest
  | _ => scanExponent n cs

/-- Scans a number.  A leading zero stands alone. -/
def scan (cs : List Char) : Except Failure (Numeral × List Char) :=
  let (negative, cs) := takeMinus cs
  match cs with
  | '0' :: rest =>
    if (rest.head?.map Char.isDigit).getD false then .error ⟨.malformed, .malformed⟩
    else scanFraction ⟨negative, ['0'], none, none⟩ rest
  | _ =>
    let digits := cs.takeWhile Char.isDigit
    let rest := cs.dropWhile Char.isDigit
    if digits.isEmpty then .error (noDigit rest)
    else scanFraction ⟨negative, digits, none, none⟩ rest

/-- The number that a list of decimal digits denotes. -/
def digitsValue (cs : List Char) : Nat :=
  cs.foldl (fun n c => n * 10 + (c.toNat - 48)) 0

/-- The first number that does not fit in 64 bits. -/
def wordLimit : Nat := 0x10000000000000000

/-- The leading digits that fit in 64 bits, as a number, and how many digits were left. -/
def significand : Nat → List Char → Nat × Nat
  | n, [] => (n, 0)
  | n, c :: rest =>
    let n' := n * 10 + (c.toNat - 48)
    if n' < wordLimit then significand n' rest else (n, rest.length + 1)

/-- The double that the digits give, or none if it is out of range.  The significand keeps the
leading digits that fit in 64 bits, and is scaled by powers of ten of at most 308. -/
def double? (n : Numeral) : Option Float :=
  let (whole, wholeLeft) := significand 0 n.whole
  let (sig, dropped, kept) :=
    match n.fraction with
    | none => (whole, wholeLeft, 0)
    | some digits =>
      let (sig, left) := significand whole digits
      (sig, wholeLeft, digits.length - left)
  let power : Int := match n.exponent with
    | none => 0
    | some (negative, digits) => if negative then - digitsValue digits else digitsValue digits
  let scaled? := scale 4 sig.toUInt64.toFloat (dropped - kept + power)
  scaled?.map fun x => if n.negative then -x else x
where
  /-- Scales by a power of ten in steps of at most 308. -/
  scale : Nat → Float → Int → Option Float
    | 0, _, e => if 0 ≤ e then none else some 0.0
    | steps + 1, x, e =>
      if e.natAbs ≤ 308 then
        let ten := Float.ofScientific 1 false e.natAbs
        if 0 ≤ e then
          let y := x * ten
          if y.isInf then none else some y
        else some (x / ten)
      else if x == 0.0 then some x
      else if 0 ≤ e then none
      else scale steps (x / Float.ofScientific 1 false 308) (e + 308)

/-- How a number is named in a message.  A double out of range is malformed. -/
def describe (n : Numeral) : Except Fault String :=
  let value := digitsValue n.whole
  if n.fraction.isNone && n.exponent.isNone && !n.negative && value < wordLimit then
    .ok s!"integer \x60{value}\x60"
  else if n.fraction.isNone && n.exponent.isNone && n.negative && 0 < value
      && value ≤ wordLimit / 2 then
    .ok s!"integer \x60-{value}\x60"
  else
    match n.double? with
    | none => .error .malformed
    | some x => .ok s!"floating point \x60{Text.shortestDouble x}\x60"

end Numeral

end ValidatorForge.Snapshot
