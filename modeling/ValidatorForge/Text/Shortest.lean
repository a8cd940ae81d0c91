/-!
# Shortest decimal text of a double

A double is written with the fewest digits that read back as the same double.  The search works on
exact numbers: the double is `m * 2 ^ q`, and the reals that round to it form an interval around it.
For one digit, two digits, and so on, the two neighbours of the double on that decimal grid are
tried; the first grid that meets the interval wins.
-/

namespace ValidatorForge.Text

/-- A positive finite double as `mantissa * 2 ^ exponent`, and whether its lower neighbour is only
half as far away as its upper one. -/
structure Dyadic where
  mantissa : Nat
  exponent : Int
  narrowBelow : Bool

/-- The place of the exponent in the bits of a double, after 52 bits of mantissa. -/
def exponentUnit : Nat := 0x10000000000000

/-- The place of the sign in the bits of a double. -/
def signUnit : Nat := 0x8000000000000000

/-- Takes the bits of a positive finite double apart. -/
def Dyadic.ofBits (bits : Nat) : Dyadic :=
  let field : Nat := bits / exponentUnit
  let fraction := bits % exponentUnit
  if field = 0 then ⟨fraction, -1074, false⟩
  else ⟨exponentUnit + fraction, (field : Int) - 1075, fraction = 0 && 1 < field⟩

/-- `n * 2 ^ two * 10 ^ ten`, as numerator and denominator. -/
private def scaled (n : Nat) (two ten : Int) : Nat × Nat :=
  (n * Nat.pow 2 two.toNat * Nat.pow 10 ten.toNat, Nat.pow 2 (-two).toNat * Nat.pow 10 (-ten).toNat)

/-- The number of decimal digits of the whole part, or how far below one the number starts. -/
private def magnitude (num den : Nat) : Int :=
  if den ≤ num then (toString (num / den)).length
  else 1 - (toString (den / num)).length

/-- The closest decimal with `count` digits after the first `place`, if it rounds to the double.
Ties go to the even digit. -/
private def candidate? (d : Dyadic) (ten : Int) : Option Nat :=
  -- all quantities are multiples of a quarter of the last bit, scaled by `10 ^ -ten`
  let (value, den) := scaled (4 * d.mantissa) (d.exponent - 2) (-ten)
  let (unit, _) := scaled 1 (d.exponent - 2) (-ten)
  let low := value - (if d.narrowBelow then unit else 2 * unit)
  let high := value + 2 * unit
  let inside (n : Nat) : Bool :=
    if d.mantissa % 2 = 0 then low ≤ n * den && n * den ≤ high
    else low < n * den && n * den < high
  let floor := value / den
  let rest := value % den
  let preferUp := den < 2 * rest || (2 * rest = den && floor % 2 = 1)
  let first := if preferUp then floor + 1 else floor
  let second := if preferUp then floor else floor + 1
  if inside first && first ≠ 0 then some first
  else if inside second then some second
  else none

/-- The digits and the decimal exponent of the shortest text. -/
private def search (d : Dyadic) (top : Int) : Nat → Nat → Nat × Int
  | 0, count => ((candidate? d (top - count)).getD 0, top - count)
  | tries + 1, count =>
    match candidate? d (top - count) with
    | some n => (n, top - count)
    | none => search d top tries (count + 1)

private def stripZeros : Nat → Nat × Int → Nat × Int
  | 0, r => r
  | steps + 1, (n, e) =>
    if n % 10 = 0 && n ≠ 0 then stripZeros steps (n / 10, e + 1) else (n, e)

/-- Layout of a decimal `digits * 10 ^ exponent`: positional from 10⁻⁵ up to 10¹⁶, with a point and
at least one digit after it, and scientific outside. -/
def layout (digits : Nat) (exponent : Int) : String :=
  let text := toString digits
  let length : Int := text.length
  let point := length + exponent
  if 0 ≤ exponent && point ≤ 16 then
    text ++ String.ofList (List.replicate exponent.toNat '0') ++ ".0"
  else if 0 < point && point ≤ 16 then
    String.ofList (text.toList.take point.toNat) ++ "." ++
      String.ofList (text.toList.drop point.toNat)
  else if -5 < point && point ≤ 0 then
    "0." ++ String.ofList (List.replicate (-point).toNat '0') ++ text
  else
    let mark := s!"e{point - 1}"
    match text.toList with
    | [d] => String.ofList [d] ++ mark
    | d :: rest => String.ofList (d :: '.' :: rest) ++ mark
    | [] => mark

/-- The shortest text of a finite double that reads back. -/
def shortestDouble (x : Float) : String :=
  let bits := x.toBits.toNat
  let sign := if signUnit ≤ bits then "-" else ""
  let bits := bits % signUnit
  if bits = 0 then sign ++ "0.0"
  else
    let d := Dyadic.ofBits bits
    let (num, den) := scaled d.mantissa d.exponent 0
    let (digits, exponent) := stripZeros 400 (search d (magnitude num den + 1) 20 1)
    sign ++ layout digits exponent

end ValidatorForge.Text
