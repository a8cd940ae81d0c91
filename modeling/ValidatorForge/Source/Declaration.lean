import ValidatorForge.Source.ExpressionReader
import ValidatorForge.Source.Fragment

/-!
# Type declarations

The declaration of a struct, enum or union as a marker may be written on: its attributes, its
visibility, its name, and the shape of its fields.  Types, generics and bounds are checked and
dropped.
-/

namespace ValidatorForge.Source

open Reader

/-! ## Visibility -/

/-- The visibility of an item. -/
inductive Visibility where
  | inherited
  | everywhere
  /-- Visible in one of the modules `crate`, `super` and `self`. -/
  | within (scope : Ident)
  /-- Visible in the module of a path. -/
  | inside (path : ModPath)
deriving Repr

namespace Visibility

def tokens : Visibility → Fragment
  | inherited => []
  | everywhere => [word "pub"]
  | within scope => [word "pub", parens [.ident scope]]
  | inside path => [word "pub", parens (word "in" :: path.tokens)]

/-- Reads a visibility.  Parentheses that restrict nothing are left for what follows. -/
def reader : Reader Visibility := do
  if ← tryWord "pub" then
    match ← get with
    | .group .parenthesis [.ident scope] :: rest =>
      if ["crate", "self", "super"].any scope.isPlain then
        set rest
        return .within scope
      else return .everywhere
    | .group .parenthesis (.ident i :: inner) :: rest =>
      if i.isPlain "in" then
        match modPathReader.complete inner with
        | some p => set rest; return .inside p
        | none => failure
      else return .everywhere
    | _ => return .everywhere
  else return .inherited

end Visibility

/-! ## Attributes -/

/-- What an attribute holds after its path. -/
inductive AttributeContent where
  | bare
  | list (body : List Token)
  | value (shape : ExprShape)

structure OuterAttribute where
  path : ModPath
  content : AttributeContent

/-- Reads the value after an equals sign that ends an attribute or an item of its list.  A negative
number that ends it is one literal. -/
def valueReader : Reader ExprShape := do
  match ← get with
  | [.punct '-' _, .literal ⟨.int, _⟩] => set ([] : List Token); return .literal .int
  | [.punct '-' _, .literal ⟨.float, _⟩] => set ([] : List Token); return .literal .float
  | _ => exprReader

namespace OuterAttribute

private def bodyReader : Reader OuterAttribute := do
  let path ← if ← ahead (atWord "unsafe") then .ofIdent <$> takeAnyIdent else modPathReader
  match ← get with
  | .group _ body :: rest => set rest; return ⟨path, .list body⟩
  | _ =>
    if ← tryOperator ['='] then return ⟨path, .value (← valueReader)⟩ else return ⟨path, .bare⟩

/-- Reads the attributes before an item. -/
def readAll : Nat → Reader (List OuterAttribute)
  | 0 => failure
  | fuel + 1 => do
    if ← tryOperator ['#'] then
      let a ← inGroup .bracket bodyReader
      return a :: (← readAll fuel)
    else return []

def reader : Reader (List OuterAttribute) := do readAll ((← get).length + 1)

end OuterAttribute

/-! ## Generics -/

/-- Whether a list of bounds is over before it begins. -/
private def atBoundsEnd : List Token → Bool
  | [] => true
  | .punct c _ :: _ => [',', '>', '=', ';'].contains c
  | .group .brace _ :: _ => true
  | _ => false

/-- Reads optional bounds after a colon. -/
private def skipBounds : Reader Unit := do
  if ← tryOperator [':'] then
    if !(← ahead atBoundsEnd) then let _ ← readBounds (fuelFor (← get))

/-- Reads optional lifetimes after a colon. -/
private def skipLifetimeBounds : Nat → Reader Unit
  | 0 => failure
  | fuel + 1 => do
    if ← ahead atLifetime then
      let _ ← takeLifetime
      if ← tryOperator ['+'] then skipLifetimeBounds fuel

private def skipParameter : Reader Unit := do
  let _ ← OuterAttribute.reader
  if ← ahead atLifetime then
    let _ ← takeLifetime
    if ← tryOperator [':'] then skipLifetimeBounds ((← get).length + 1)
  else if ← tryWord "_" then return
  else if ← tryWord "const" then
    let _ ← takeIdent
    takeOperator [':']
    let _ ← typeReader
    if ← tryOperator ['='] then let _ ← readArgument (fuelFor (← get))
  else
    let _ ← takeIdent
    skipBounds
    if ← tryOperator ['='] then let _ ← typeReader

private def skipParameters : Nat → Reader Unit
  | 0 => failure
  | fuel + 1 => do
    if ← tryOperator ['>'] then return
    skipParameter
    if ← tryOperator ['>'] then return
    takeOperator [',']
    skipParameters fuel

/-- Reads optional type parameters. -/
private def skipGenerics : Reader Unit := do
  if ← tryOperator ['<'] then skipParameters ((← get).length + 1)

private def skipPredicate : Reader Unit := do
  if ← ahead atLifetime then let _ ← takeLifetime
  else
    if ← ahead (atWord "for") then let _ ← readQuantifier (fuelFor (← get))
    let _ ← typeReader
  takeOperator [':']
  if !(← ahead atBoundsEnd) then let _ ← readBounds (fuelFor (← get))

private def skipPredicates : Nat → Reader Unit
  | 0 => failure
  | fuel + 1 => do
    if ← ahead atBoundsEnd then return
    skipPredicate
    if ← tryOperator [','] then skipPredicates fuel

/-- Reads an optional where clause and tells whether there was one. -/
private def skipWhere : Reader Bool := do
  if ← tryWord "where" then
    skipPredicates ((← get).length + 1)
    return true
  else return false

/-! ## Fields and shapes -/

/-- What a declared type is made of. -/
inductive DeclaredShape where
  | unit
  | named
  | unnamed (count : Nat)
  | enum
  | union
deriving DecidableEq, Repr

private def skipUnnamedField : Reader Unit := do
  let _ ← OuterAttribute.reader
  let _ ← Visibility.reader
  let _ ← typeReader

private def skipNamedField : Reader Unit := do
  let _ ← OuterAttribute.reader
  let _ ← Visibility.reader
  let name ← takeAnyIdent
  if !(name.namesItem || name.isPlain "_") then failure
  takeOperator [':']
  let _ ← typeReader

private def itemsIn (d : Delimiter) (item : Reader Unit) : Reader Nat :=
  inGroup d do return (← commaList item ((← get).length + 1)).length

private def skipVariant : Reader Unit := do
  let _ ← OuterAttribute.reader
  let _ ← Visibility.reader
  let _ ← takeIdent
  if ← ahead (atGroup .brace) then let _ ← itemsIn .brace skipNamedField
  else if ← ahead (atGroup .parenthesis) then let _ ← itemsIn .parenthesis skipUnnamedField
  if ← tryOperator ['='] then let _ ← exprReader

/-- Reads the rest of a struct after its type parameters. -/
private def structShape : Reader DeclaredShape := do
  let constrained ← skipWhere
  if !constrained && (← ahead (atGroup .parenthesis)) then
    let count ← itemsIn .parenthesis skipUnnamedField
    let _ ← skipWhere
    takeOperator [';']
    return .unnamed count
  else if ← ahead (atGroup .brace) then
    let _ ← itemsIn .brace skipNamedField
    return .named
  else
    takeOperator [';']
    return .unit

/-! ## Declarations -/

/-- The declaration of a type. -/
structure TypeDeclaration where
  attributes : List OuterAttribute
  visibility : Visibility
  name : Ident
  shape : DeclaredShape

namespace TypeDeclaration

def reader : Reader TypeDeclaration := do
  let attributes ← OuterAttribute.reader
  let visibility ← Visibility.reader
  if ← tryWord "struct" then
    let name ← takeIdent
    skipGenerics
    return ⟨attributes, visibility, name, ← structShape⟩
  else if ← tryWord "enum" then
    let name ← takeIdent
    skipGenerics
    let _ ← skipWhere
    let _ ← itemsIn .brace skipVariant
    return ⟨attributes, visibility, name, .enum⟩
  else
    takeWord "union"
    let name ← takeIdent
    skipGenerics
    let _ ← skipWhere
    let _ ← itemsIn .brace skipNamedField
    return ⟨attributes, visibility, name, .union⟩

/-- The one type declaration that a text holds. -/
def ofText? (source : String) : Option TypeDeclaration := (tokenize source).bind reader.complete

end TypeDeclaration

end ValidatorForge.Source
