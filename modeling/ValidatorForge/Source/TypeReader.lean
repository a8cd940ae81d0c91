import ValidatorForge.Source.Lexer
import ValidatorForge.Source.Reader

/-!
# Reading types and paths

A type is read into its own tokens, with the blanks between them normalised: only the characters of
one operator stay joined.  In generic arguments lifetimes go before all others.
-/

namespace ValidatorForge.Source

open Reader

/-- A generic argument. -/
structure GenericArgument where
  isLifetime : Bool
  tokens : List Token
  comma : Bool

/-- The tokens of generic arguments: first the lifetimes, then the others. -/
def GenericArgument.arrange (args : List GenericArgument) : List Token :=
  let ordered := args.filter (·.isLifetime) ++ args.filter (!·.isLifetime)
  let rec go : List GenericArgument → List Token
    | [] => []
    | [a] => a.tokens ++ if a.comma then [.punct ',' false] else []
    | a :: rest => a.tokens ++ .punct ',' false :: go rest
  go ordered

private def sep : List Token := operator [':', ':']

/-- Whether a type argument list begins here: an opening angle bracket that is no comparison. -/
private def atAngle (ts : List Token) : Bool :=
  (afterOperator? ['<'] ts).isSome && (afterOperator? ['<', '='] ts).isNone

mutual

/-- Reads a type.  `plus` allows a sum of bounds at its end. -/
def readType (fuel : Nat) (plus : Bool) : Reader (List Token) :=
  match fuel with
  | 0 => failure
  | fuel + 1 => do
    match ← get with
    | .group .parenthesis _ :: _ =>
      let items ← inGroup .parenthesis (readTypes fuel)
      return [.group .parenthesis items]
    | .group .bracket _ :: _ =>
      return [.group .bracket (← inGroup .bracket (readArray fuel))]
    | .punct '*' _ :: rest =>
      set rest
      let i ← takeAnyIdent
      if !(i.isPlain "const" || i.isPlain "mut") then failure
      return .punct '*' false :: .ident i :: (← readType fuel false)
    | .punct '&' _ :: rest =>
      set rest
      let lifetime ← if ← ahead atLifetime then takeLifetime else pure []
      let mutable := if ← tryWord "mut" then [word "mut"] else []
      return .punct '&' false :: (lifetime ++ mutable ++ (← readType fuel false))
    | .punct '!' _ :: rest =>
      set rest
      return [.punct '!' false]
    | .punct '\'' _ :: _ | .punct '?' _ :: _ => readBounds fuel
    | .ident i :: rest =>
      if i.isPlain "_" then
        set rest
        return [.ident i]
      else if i.isPlain "dyn" || i.isPlain "impl" then
        set rest
        return .ident i :: (← readBounds fuel)
      else if i.isPlain "fn" || i.isPlain "unsafe" || i.isPlain "extern" then readFnType fuel
      else if i.isPlain "for" then
        let quantifier ← readQuantifier fuel
        match ← get with
        | .ident j :: _ =>
          if j.isPlain "fn" || j.isPlain "unsafe" || j.isPlain "extern" then
            return quantifier ++ (← readFnType fuel)
          else return quantifier ++ (← readBounds fuel)
        | _ => return quantifier ++ (← readBounds fuel)
      else readPathType fuel plus
    | _ => readPathType fuel plus

/-- Reads a path, a macro call or a sum of bounds that begins with a path. -/
def readPathType (fuel : Nat) (plus : Bool) : Reader (List Token) :=
  match fuel with
  | 0 => failure
  | fuel + 1 => do
    let p ← readTypePath fuel
    if (← atOperator ['!']) && !(← atOperator ['!', '=']) then
      takeOperator ['!']
      return p ++ [.punct '!' false, ← takeGroup]
    else if plus && (← atOperator ['+']) && !(← atOperator ['+', '=']) then
      takeOperator ['+']
      return p ++ .punct '+' false :: (← readBounds fuel)
    else return p

/-- Reads types separated by commas. -/
def readTypes (fuel : Nat) : Reader (List Token) :=
  match fuel with
  | 0 => failure
  | fuel + 1 => do
    if (← get).isEmpty then return []
    let t ← readType fuel true
    if (← get).isEmpty then return t
    takeOperator [',']
    return t ++ .punct ',' false :: (← readTypes fuel)

/-- Reads the inside of an array or slice type. -/
def readArray (fuel : Nat) : Reader (List Token) :=
  match fuel with
  | 0 => failure
  | fuel + 1 => do
    let t ← readType fuel true
    if (← get).isEmpty then return t
    takeOperator [';']
    let size ← takeAll
    if size.isEmpty then failure
    return t ++ .punct ';' false :: size

/-- Reads a function pointer type. -/
def readFnType (fuel : Nat) : Reader (List Token) :=
  match fuel with
  | 0 => failure
  | fuel + 1 => do
    let safety := if ← tryWord "unsafe" then [word "unsafe"] else []
    let mut abi := []
    if ← tryWord "extern" then
      abi := [word "extern"]
      match ← get with
      | .literal l :: rest => set rest; abi := [word "extern", .literal l]
      | _ => pure ()
    takeWord "fn"
    let params ← inGroup .parenthesis (readParams fuel)
    return safety ++ abi ++ [word "fn", .group .parenthesis params] ++ (← readResult fuel)

/-- Reads the parameters of a function pointer type, which may be named. -/
def readParams (fuel : Nat) : Reader (List Token) :=
  match fuel with
  | 0 => failure
  | fuel + 1 => do
    if (← get).isEmpty then return []
    let name ← match ← get with
      | .ident i :: rest =>
        match afterOperator? [':'] rest, afterOperator? [':', ':'] rest with
        | some after, none => set after; pure [.ident i, .punct ':' false]
        | _, _ => pure []
      | _ => pure []
    let t ← readType fuel true
    if (← get).isEmpty then return name ++ t
    takeOperator [',']
    return name ++ t ++ .punct ',' false :: (← readParams fuel)

/-- Reads an optional result type. -/
def readResult (fuel : Nat) : Reader (List Token) :=
  match fuel with
  | 0 => failure
  | fuel + 1 => do
    if ← tryOperator ['-', '>'] then
      return operator ['-', '>'] ++ (← readType fuel false)
    else return []

/-- Reads `for<'a, 'b>`. -/
def readQuantifier (fuel : Nat) : Reader (List Token) :=
  match fuel with
  | 0 => failure
  | fuel + 1 => do
    takeWord "for"
    takeOperator ['<']
    return word "for" :: .punct '<' false :: (← readLifetimes fuel)

/-- Reads lifetimes up to a closing angle bracket. -/
def readLifetimes (fuel : Nat) : Reader (List Token) :=
  match fuel with
  | 0 => failure
  | fuel + 1 => do
    if ← tryOperator ['>'] then return [.punct '>' false]
    let l ← takeLifetime
    if ← tryOperator ['>'] then return l ++ [.punct '>' false]
    takeOperator [',']
    return l ++ .punct ',' false :: (← readLifetimes fuel)

/-- Reads bounds joined by plus signs. -/
def readBounds (fuel : Nat) : Reader (List Token) :=
  match fuel with
  | 0 => failure
  | fuel + 1 => do
    let b ← readBound fuel
    if ← tryOperator ['+'] then
      match ← get with
      | .ident _ :: _ | .punct '\'' _ :: _ | .punct '?' _ :: _ | .group .parenthesis _ :: _
      | .punct ':' _ :: _ => return b ++ .punct '+' false :: (← readBounds fuel)
      | _ => return b ++ [.punct '+' false]
    else return b

/-- Reads one bound. -/
def readBound (fuel : Nat) : Reader (List Token) :=
  match fuel with
  | 0 => failure
  | fuel + 1 => do
    if ← ahead atLifetime then takeLifetime
    else if ← ahead (atGroup .parenthesis) then
      return [.group .parenthesis (← inGroup .parenthesis (readBound fuel))]
    else
      let relaxed := if ← tryOperator ['?'] then [.punct '?' false] else []
      let quantifier ← if ← ahead (atWord "for") then readQuantifier fuel else pure []
      return relaxed ++ quantifier ++ (← readTypePath fuel)

/-- Reads a path as it stands in a type, a qualified one included. -/
def readTypePath (fuel : Nat) : Reader (List Token) :=
  match fuel with
  | 0 => failure
  | fuel + 1 => do
    if ← tryOperator ['<'] then
      let t ← readType fuel true
      let trait ← if ← tryWord "as" then
          pure (word "as" :: (← readTypePath fuel))
        else pure []
      takeOperator ['>']
      takeOperator [':', ':']
      return .punct '<' false :: (t ++ trait ++ .punct '>' false :: (sep ++ (← readSegments fuel)))
    else
      let leading := if ← tryOperator [':', ':'] then sep else []
      return leading ++ (← readSegments fuel)

/-- Reads the segments of a path in a type. -/
def readSegments (fuel : Nat) : Reader (List Token) :=
  match fuel with
  | 0 => failure
  | fuel + 1 => do
    let i ← takeAnyIdent
    let special := pathKeywords.contains i.name && !i.raw || i.isPlain "try"
    if !(i.namesItem || special) then failure
    let args ← if special && !i.isPlain "Self" then pure [] else readSegmentArguments fuel
    if ← tryOperator [':', ':'] then return .ident i :: (args ++ sep ++ (← readSegments fuel))
    else return .ident i :: args

/-- Reads the arguments of a path segment in a type: generic ones or those of a function trait. -/
def readSegmentArguments (fuel : Nat) : Reader (List Token) :=
  match fuel with
  | 0 => failure
  | fuel + 1 => do
    if ← ahead (atGroup .parenthesis) then
      let params ← inGroup .parenthesis (readTypes fuel)
      return .group .parenthesis params :: (← readResult fuel)
    else readAngle fuel false

/-- Reads optional generic arguments in angle brackets.  With `turbofish` they need a `::`. -/
def readAngle (fuel : Nat) (turbofish : Bool) : Reader (List Token) :=
  match fuel with
  | 0 => failure
  | fuel + 1 => do
    let ts ← get
    match afterOperator? [':', ':'] ts with
    | some rest =>
      if (afterOperator? ['<'] rest).isSome then
        set rest
        takeOperator ['<']
        let args ← readArguments fuel
        return sep ++ .punct '<' false :: (GenericArgument.arrange args ++ [.punct '>' false])
      else return []
    | none =>
      if !turbofish && atAngle ts then
        takeOperator ['<']
        let args ← readArguments fuel
        return .punct '<' false :: (GenericArgument.arrange args ++ [.punct '>' false])
      else return []

/-- Reads generic arguments up to the closing angle bracket. -/
def readArguments (fuel : Nat) : Reader (List GenericArgument) :=
  match fuel with
  | 0 => failure
  | fuel + 1 => do
    if ← tryOperator ['>'] then return []
    let (isLifetime, tokens) ← readArgument fuel
    if ← tryOperator ['>'] then return [⟨isLifetime, tokens, false⟩]
    takeOperator [',']
    return ⟨isLifetime, tokens, true⟩ :: (← readArguments fuel)

/-- Reads one generic argument: a lifetime, a constant, a type, or a named one. -/
def readArgument (fuel : Nat) : Reader (Bool × List Token) :=
  match fuel with
  | 0 => failure
  | fuel + 1 => do
    match ← get with
    | .punct '\'' true :: .ident _ :: rest =>
      if (afterOperator? ['+'] rest).isSome then return (false, ← readType fuel true)
      else return (true, ← takeLifetime)
    | .literal l :: rest =>
      set rest
      return (false, [.literal l])
    | .punct '-' _ :: .literal l :: rest =>
      set rest
      return (false, [.punct '-' false, .literal l])
    | .group .brace body :: rest =>
      set rest
      return (false, [.group .brace body])
    | .ident i :: rest =>
      if i.isPlain "true" || i.isPlain "false" then
        set rest
        return (false, [.ident i])
      else
        let t ← readType fuel true
        if (← atOperator ['=']) && !(← atOperator ['=', '=']) then
          takeOperator ['=']
          return (false, t ++ .punct '=' false :: (← readArgument fuel).2)
        else if (← atOperator [':']) && !(← atOperator [':', ':']) then
          takeOperator [':']
          return (false, t ++ .punct ':' false :: (← readBounds fuel))
        else return (false, t)
    | _ => return (false, ← readType fuel true)

end

/-- Enough fuel for the tokens ahead. -/
def fuelFor (ts : List Token) : Nat := 12 * (weight ts + 1)

/-- Reads a type. -/
def typeReader : Reader (List Token) := do readType (fuelFor (← get)) true

/-! ## Paths -/

/-- Reads the segments of a path outside a type.  With `turbofish`, generic arguments need a `::`. -/
def readPathSegments (turbofish : Bool) : Nat → Reader (List PathSegment)
  | 0 => failure
  | fuel + 1 => do
    let i ← takeAnyIdent
    let special := pathKeywords.contains i.name && !i.raw || i.isPlain "try"
    if !(i.namesItem || special) then failure
    let arguments ←
      if special && !i.isPlain "Self" then pure [] else readAngle (fuelFor (← get)) turbofish
    let segment : PathSegment := ⟨i, arguments⟩
    let more := match ← get with
      | .punct ':' true :: .punct ':' _ :: .group .parenthesis _ :: _ => false
      | ts => (afterOperator? [':', ':'] ts).isSome
    if more then
      takeOperator [':', ':']
      return segment :: (← readPathSegments turbofish fuel)
    else return [segment]

/-- Reads a path. -/
def pathReader (turbofish : Bool) : Reader ModPath := do
  let absolute ← tryOperator [':', ':']
  return ⟨absolute, ← readPathSegments turbofish ((← get).length + 1)⟩

/-- Reads a path without generic arguments, as it names an attribute or a visibility. -/
def modPathReader : Reader ModPath := do
  let absolute ← tryOperator [':', ':']
  let rec segments : Nat → Reader (List PathSegment)
    | 0 => failure
    | fuel + 1 => do
      let i ← takeAnyIdent
      if !(i.namesItem || pathKeywords.contains i.name) then failure
      if ← tryOperator [':', ':'] then return ⟨i, []⟩ :: (← segments fuel) else return [⟨i, []⟩]
  return ⟨absolute, ← segments ((← get).length + 1)⟩

/-- The path that a text spells. -/
def ModPath.ofText? (source : String) : Option ModPath :=
  (tokenize source).bind (pathReader false).complete

end ValidatorForge.Source
