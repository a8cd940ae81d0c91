import ValidatorForge.Source.TypeReader

/-!
# Reading expressions

The values of attributes are expressions.  Only literals and paths mean something to a marker; of
any other expression its kind is kept, which is that of its loosest operator.
-/

namespace ValidatorForge.Source

open Reader

/-- What an expression is. -/
inductive ExprShape where
  | literal (kind : LiteralKind)
  | bool
  | path (p : ModPath)
  | other (kind : String)
deriving Repr

/-- The name of an expression's kind. -/
def ExprShape.kindName : ExprShape → String
  | .literal (.string _) => "string"
  | .literal .byteString => "byte string"
  | .literal .cString => "unknown"
  | .literal .byte => "byte"
  | .literal .char => "char"
  | .literal .int => "int"
  | .literal .float => "float"
  | .bool => "bool"
  | .path _ => "path"
  | .other kind => kind

/-- The operators that bind tighter than assignment and ranges, longest first. -/
def binaryOperators : List (List Char) :=
  [['<', '<'], ['>', '>'], ['&', '&'], ['|', '|'], ['=', '='], ['!', '='], ['<', '='], ['>', '='],
   ['+'], ['-'], ['*'], ['/'], ['%'], ['^'], ['&'], ['|'], ['<'], ['>']]

/-- The assignments that compute, longest first. -/
def compoundAssignments : List (List Char) :=
  [['<', '<', '='], ['>', '>', '='], ['+', '='], ['-', '='], ['*', '='], ['/', '='], ['%', '='],
   ['^', '='], ['&', '='], ['|', '=']]

/-- Takes the first of the operators that is there. -/
def tryOperators : List (List Char) → Reader Bool
  | [] => return false
  | op :: rest => do if ← tryOperator op then return true else tryOperators rest

/-- Whether no operand can begin here. -/
def atOperandEnd : List Token → Bool
  | [] => true
  | .punct c _ :: _ => [',', ';', '=', '.', '?', ':', '>'].contains c
  | .group .brace _ :: _ => true
  | _ => false

/-- Skips tokens up to a brace group and takes it. -/
def takeThroughBlock : Nat → Reader Unit
  | 0 => failure
  | fuel + 1 => do
    match ← get with
    | .group .brace _ :: rest => set rest
    | _ :: rest => set rest; takeThroughBlock fuel
    | [] => failure

/-- Takes the blocks of a conditional expression, from after its first keyword. -/
def takeConditional : Nat → Reader Unit
  | 0 => failure
  | fuel + 1 => do
    takeThroughBlock fuel
    if ← tryWord "else" then
      if ← tryWord "if" then takeConditional fuel
      else
        match ← get with
        | .group .brace _ :: rest => set rest
        | _ => failure

/-- Skips the parameters of a closure up to the bar that closes them. -/
def takeThroughBar : Nat → Reader Unit
  | 0 => failure
  | fuel + 1 => do
    match ← get with
    | .punct '|' _ :: rest => set rest
    | _ :: rest => set rest; takeThroughBar fuel
    | [] => failure

/-- Reads the path of a member of a type, such as `<T as a::B>::c`.  The type is dropped: what is
left is the path of the trait with the member, or the member behind a `::`. -/
def qualifiedPathReader : Reader ModPath := do
  takeOperator ['<']
  let _ ← typeReader
  let trait ← if ← tryWord "as" then pathReader false else pure ⟨true, []⟩
  takeOperator ['>']
  takeOperator [':', ':']
  let member ← readPathSegments true ((← get).length + 1)
  return { trait with segments := trait.segments ++ member }

mutual

/-- Reads an expression. -/
def readExpr (fuel : Nat) : Reader ExprShape :=
  match fuel with
  | 0 => failure
  | fuel + 1 => do
    if ← tryOperators [['.', '.', '='], ['.', '.']] then
      if !(← ahead atOperandEnd) then let _ ← readExpr fuel
      return .other "range"
    else
      let first ← readOperand fuel
      readOperations fuel first 0

/-- Reads the operators after an operand.  `rank` tells how loosely the operators read so far bind:
2 for a range, 1 for the others, 0 for a cast or none. -/
def readOperations (fuel : Nat) (shape : ExprShape) (rank : Nat) : Reader ExprShape :=
  match fuel with
  | 0 => failure
  | fuel + 1 => do
    if ← atOperator ['=', '>'] then return shape
    else if ← tryOperators compoundAssignments then
      let _ ← readExpr fuel
      return .other "binary"
    else if ← tryOperators [['.', '.', '='], ['.', '.']] then
      if !(← ahead atOperandEnd) then let _ ← readOperand fuel
      readOperations fuel (.other "range") 2
    else if ← tryOperators binaryOperators then
      let _ ← readOperand fuel
      if rank < 2 then readOperations fuel (.other "binary") 1
      else readOperations fuel shape rank
    else if ← tryOperator ['='] then
      let _ ← readExpr fuel
      return .other "assign"
    else if ← tryWord "as" then
      let _ ← readType (fuelFor (← get)) false
      readOperations fuel (if rank = 0 then .other "cast" else shape) rank
    else return shape

/-- Reads an operand with what stands before and after it. -/
def readOperand (fuel : Nat) : Reader ExprShape :=
  match fuel with
  | 0 => failure
  | fuel + 1 => do
    if ← tryOperator ['&'] then
      let _ ← tryWord "mut"
      let _ ← readOperand fuel
      return .other "reference"
    else if ← tryOperators [['*'], ['!'], ['-']] then
      let _ ← readOperand fuel
      return .other "unary"
    else
      let atom ← readAtom fuel
      readSuffixes fuel atom

/-- Reads calls, members and indices after an operand. -/
def readSuffixes (fuel : Nat) (shape : ExprShape) : Reader ExprShape :=
  match fuel with
  | 0 => failure
  | fuel + 1 => do
    match ← get with
    | .punct '?' _ :: rest =>
      set rest
      readSuffixes fuel (.other "try")
    | .group .parenthesis _ :: _ =>
      let _ ← inGroup .parenthesis (commaList (readExpr fuel) fuel)
      readSuffixes fuel (.other "call")
    | .group .bracket _ :: _ =>
      let _ ← inGroup .bracket (readExpr fuel)
      readSuffixes fuel (.other "index")
    | .punct '.' joint :: rest =>
      if joint && (rest.head?.map fun t => match t with | .punct '.' _ => true | _ => false).getD false
      then return shape
      else
        set rest
        match ← get with
        | .literal _ :: rest =>
          set rest
          readSuffixes fuel (.other "field")
        | .ident i :: rest =>
          set rest
          if i.isPlain "await" then readSuffixes fuel (.other "await")
          else
            let _ ← readAngle (fuelFor (← get)) true
            if ← ahead (atGroup .parenthesis) then
              let _ ← inGroup .parenthesis (commaList (readExpr fuel) fuel)
              readSuffixes fuel (.other "method_call")
            else readSuffixes fuel (.other "field")
        | _ => failure
    | _ => return shape

/-- Reads a literal, a path, a bracketed expression or one that begins with a keyword. -/
def readAtom (fuel : Nat) : Reader ExprShape :=
  match fuel with
  | 0 => failure
  | fuel + 1 => do
    match ← get with
    | .literal l :: rest =>
      set rest
      return .literal l.kind
    | .group .parenthesis body :: _ =>
      let items ← inGroup .parenthesis (commaList (readExpr fuel) fuel)
      let comma := match body.getLast? with
        | some (.punct ',' _) => true
        | _ => false
      return .other (if items.length = 1 && !comma then "paren" else "tuple")
    | .group .bracket _ :: _ =>
      inGroup .bracket do
        if (← get).isEmpty then return .other "array"
        let _ ← readExpr fuel
        if ← tryOperator [';'] then
          let _ ← readExpr fuel
          return .other "repeat"
        else if (← get).isEmpty then return .other "array"
        else
          takeOperator [',']
          let _ ← commaList (readExpr fuel) fuel
          return .other "array"
    | .group .brace _ :: rest =>
      set rest
      return .other "block"
    | .punct '|' _ :: rest =>
      set rest
      takeThroughBar fuel
      let _ ← readExpr fuel
      return .other "closure"
    | .punct '<' _ :: _ => return .path (← qualifiedPathReader)
    | .ident i :: rest =>
      let keyword := fun name => i.isPlain name
      if keyword "true" || keyword "false" then
        set rest
        return .bool
      else if keyword "_" then
        set rest
        return .other "infer"
      else if keyword "if" then
        set rest
        takeConditional fuel
        return .other "if"
      else if keyword "match" || keyword "loop" || keyword "while" || keyword "unsafe"
          || keyword "async" || keyword "const" then
        set rest
        takeThroughBlock fuel
        return .other i.name
      else if keyword "for" then
        set rest
        takeThroughBlock fuel
        return .other "for_loop"
      else if keyword "move" then
        set rest
        takeOperator ['|']
        takeThroughBar fuel
        let _ ← readExpr fuel
        return .other "closure"
      else if keyword "return" || keyword "break" then
        set rest
        if !(← ahead atOperandEnd) then let _ ← readExpr fuel
        return .other i.name
      else if keyword "continue" then
        set rest
        return .other "continue"
      else
        let p ← pathReader true
        if (← atOperator ['!']) && !(← atOperator ['!', '=']) then
          takeOperator ['!']
          let _ ← takeGroup
          return .other "macro"
        else if ← ahead (atGroup .brace) then
          let _ ← takeGroup
          return .other "struct"
        else return .path p
    | _ =>
      let p ← pathReader true
      return .path p

end

/-- Reads an expression. -/
def exprReader : Reader ExprShape := do readExpr (fuelFor (← get))

end ValidatorForge.Source
