import ValidatorForge.Source.Path

/-!
# Readers of token lists

A `Reader` takes tokens from the front of a list, or refuses it.  An operator is matched by its
characters: all but the last must be joined to the next.
-/

namespace ValidatorForge.Source

/-- A function that reads a value off the front of a token list. -/
abbrev Reader (α : Type) := StateT (List Token) Option α

/-- The tokens after an operator at the front of a list. -/
def afterOperator? : List Char → List Token → Option (List Token)
  | [], ts => some ts
  | [c], .punct d _ :: rest => if c = d then some rest else none
  | c :: more, .punct d true :: rest => if c = d then afterOperator? more rest else none
  | _, _ => none

/-- Whether the plain word `name` stands at the front of a list. -/
def atWord (name : String) : List Token → Bool
  | .ident i :: _ => i.isPlain name
  | _ => false

/-- Whether a lifetime stands at the front of a list. -/
def atLifetime : List Token → Bool
  | .punct '\'' true :: .ident _ :: _ => true
  | _ => false

/-- The number of tokens, those of groups included. -/
def weight : List Token → Nat
  | [] => 0
  | .group _ body :: rest => 1 + weight body + weight rest
  | _ :: rest => 1 + weight rest

namespace Reader

variable {α : Type}

/-- Whether the tokens ahead satisfy `p`. -/
def ahead (p : List Token → Bool) : Reader Bool := return p (← get)

def atOperator (op : List Char) : Reader Bool := ahead fun ts => (afterOperator? op ts).isSome

/-- Takes one operator. -/
def takeOperator (op : List Char) : Reader Unit := do
  match afterOperator? op (← get) with
  | some rest => set rest
  | none => failure

/-- Takes an operator if it is there. -/
def tryOperator (op : List Char) : Reader Bool := do
  match afterOperator? op (← get) with
  | some rest => set rest; return true
  | none => return false

/-- Takes one plain word. -/
def takeWord (name : String) : Reader Unit := do
  match ← get with
  | .ident i :: rest => if i.isPlain name then set rest else failure
  | _ => failure

/-- Takes a plain word if it is there. -/
def tryWord (name : String) : Reader Bool := do
  match ← get with
  | .ident i :: rest => if i.isPlain name then set rest; return true else return false
  | _ => return false

/-- Takes an identifier of any kind, keywords included. -/
def takeAnyIdent : Reader Ident := do
  match ← get with
  | .ident i :: rest => set rest; return i
  | _ => failure

/-- Takes an identifier that may name an item. -/
def takeIdent : Reader Ident := do
  let i ← takeAnyIdent
  if i.namesItem then return i else failure

/-- Takes a lifetime, as tokens. -/
def takeLifetime : Reader (List Token) := do
  match ← get with
  | .punct '\'' true :: .ident i :: rest => set rest; return [.punct '\'' true, .ident i]
  | _ => failure

/-- Takes a group and reads all of its body. -/
def inGroup (d : Delimiter) (body : Reader α) : Reader α := do
  match ← get with
  | .group d' inner :: rest =>
    if d = d' then
      match body.run inner with
      | some (a, []) => set rest; return a
      | _ => failure
    else failure
  | _ => failure

def atGroup (d : Delimiter) : List Token → Bool
  | .group d' _ :: _ => d == d'
  | _ => false

/-- Takes a group as it is. -/
def takeGroup : Reader Token := do
  match ← get with
  | .group d body :: rest => set rest; return .group d body
  | _ => failure

/-- Takes all tokens. -/
def takeAll : Reader (List Token) := do
  let ts ← get
  set ([] : List Token)
  return ts

/-- Reads items separated by commas to the end, with an optional comma after the last.  `fuel`
bounds their number. -/
def commaList (item : Reader α) : Nat → Reader (List α)
  | 0 => return []
  | fuel + 1 => do
    if (← get).isEmpty then return []
    let a ← item
    if (← get).isEmpty then return [a]
    takeOperator [',']
    return a :: (← commaList item fuel)

/-- Reads all of a token list. -/
def complete (r : Reader α) (ts : List Token) : Option α :=
  match r.run ts with
  | some (a, []) => some a
  | _ => none

end Reader

end ValidatorForge.Source
