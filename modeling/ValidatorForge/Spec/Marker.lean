import ValidatorForge.Spec.Basic
import ValidatorForge.Text.Similarity

/-!
# Specs from markers

A marker is a struct without fields under `#[validator(...)]` attributes.  Its lists name host types
by paths: `com::acme::Manager` is `com.acme.Manager`, and a keyword may be written raw.  All
problems of a marker are gathered and reported at once.
-/

namespace ValidatorForge

open Source

/-! ## Items of a marker list -/

/-- An item of a marker list. -/
inductive MarkerItem where
  | literal
  | word (path : ModPath)
  | list (path : ModPath) (body : List Token)
  | value (path : ModPath) (shape : ExprShape)

namespace MarkerItem

/-- Reads the segments of an item's path, which may be any words. -/
def readSegments : List Token → Except ListFault (List PathSegment × List Token)
  | .ident i :: .punct ':' true :: .punct ':' _ :: rest =>
    match rest with
    | .ident _ :: _ => do
      let (segments, after) ← readSegments rest
      return (⟨i, []⟩ :: segments, after)
    | _ => .error (.expectedSegment rest.isEmpty)
  | .ident i :: rest => .ok ([⟨i, []⟩], rest)
  | _ => .error .expectedItem

/-- Whether a literal stands at the front of a list.  A truth value before an equals sign is a
word. -/
def afterLiteral? : List Token → Option (List Token)
  | .literal _ :: rest => some rest
  | .punct '-' _ :: .literal ⟨.int, _⟩ :: rest => some rest
  | .punct '-' _ :: .literal ⟨.float, _⟩ :: rest => some rest
  | .ident i :: rest =>
    if (i.isPlain "true" || i.isPlain "false") && (afterOperator? ['='] rest).isNone then some rest
    else none
  | _ => none

/-- Reads one item. -/
def read (ts : List Token) : Except ListFault (MarkerItem × List Token) :=
  match afterLiteral? ts with
  | some rest => .ok (.literal, rest)
  | none => do
    let (segments, rest) ← readSegments ts
    let path : ModPath := { segments }
    match rest with
    | .group _ body :: after => return (.list path body, after)
    | _ =>
      match afterOperator? ['='] rest with
      | some after =>
        match valueReader.run after, after with
        | some (shape, after), _ => return (.value path shape, after)
        | none, .punct '#' _ :: .group .bracket _ :: _ => throw .unexpectedAttribute
        | none, _ => throw (.expectedValue after.isEmpty)
      | none => return (.word path, rest)

/-- Reads items separated by commas; `fuel` bounds their number. -/
def readAll : Nat → List Token → Except ListFault (List MarkerItem)
  | 0, _ => .ok []
  | fuel + 1, ts =>
    if ts.isEmpty then .ok []
    else do
      let (item, rest) ← read ts
      match rest with
      | [] => return [item]
      | .punct ',' _ :: rest => return item :: (← readAll fuel rest)
      | _ => throw .expectedComma

/-- The items of a list. -/
def ofTokens (ts : List Token) : Except ListFault (List MarkerItem) := readAll (ts.length + 1) ts

end MarkerItem

/-! ## Fields of a marker -/

/-- The fields read so far.  A field that was written is not free, even if its value is bad. -/
structure MarkerFields where
  written : List MarkerField := []
  targets : List TypeName := []
  groups : List TypeName := []
  reflect : List TypeName := []
  containers : List TypeName := []
  package : Option String := none
  runtime : Option ModPath := none
  root : Option ModPath := none

/-- The host type that a path names. -/
def TypeName.ofPath (p : ModPath) : TypeName :=
  ⟨String.ofList (Text.join ['.'] (p.names.map (·.name.toList)))⟩

/-- The host types that the items of a list name; all items must be bare paths. -/
def typesOfItems (field : MarkerField) :
    List MarkerItem → Except SpecProblem (List TypeName)
  | [] => .ok []
  | .word p :: rest => do return TypeName.ofPath p :: (← typesOfItems field rest)
  | _ => .error (.unexpectedType "non-word" field)

/-- The host types of a list field. -/
def readTypeList (field : MarkerField) : MarkerItem → Except SpecProblem (List TypeName)
  | .list _ body =>
    match MarkerItem.ofTokens body with
    | .ok items => typesOfItems field items
    | .error fault => .error (.malformedList fault (some field))
  | .word _ => .error (.unexpectedFormat "word" field)
  | .value _ shape => .error (.unexpectedType shape.kindName field)
  | .literal => .error .bareLiteral

/-- The text of a text field. -/
def readText (field : MarkerField) : MarkerItem → Except SpecProblem String
  | .value _ (.literal (.string value)) => .ok value
  | .value _ shape => .error (.unexpectedType shape.kindName field)
  | .list _ _ => .error (.unexpectedFormat "list" field)
  | .word _ => .error (.unexpectedFormat "word" field)
  | .literal => .error .bareLiteral

/-- The path of a path field: written as it is, or as a text. -/
def readPathField (field : MarkerField) : MarkerItem → Except SpecProblem ModPath
  | .value _ (.literal (.string value)) =>
    match ModPath.ofText? value with
    | some p => .ok p
    | none => .error (.unknownValue value field)
  | .value _ (.path p) => .ok p
  | .value _ shape => .error (.unexpectedType shape.kindName field)
  | .list _ _ => .error (.unexpectedFormat "list" field)
  | .word _ => .error (.unexpectedFormat "word" field)
  | .literal => .error .bareLiteral

/-- The path with which an item begins. -/
def MarkerItem.path? : MarkerItem → Option ModPath
  | .literal => none
  | .word p | .list p _ | .value p _ => some p

/-- The name of a field as it is spelled, raw words included. -/
def fieldName (p : ModPath) : String :=
  String.ofList (Text.join [':', ':'] (p.names.map Ident.spell))

namespace MarkerFields

/-- Reads the value of a field. -/
def fill (f : MarkerFields) (field : MarkerField) (item : MarkerItem) :
    Except SpecProblem MarkerFields :=
  match field with
  | .targets => do return { f with targets := ← readTypeList field item }
  | .groups => do return { f with groups := ← readTypeList field item }
  | .reflect => do return { f with reflect := ← readTypeList field item }
  | .containers => do return { f with containers := ← readTypeList field item }
  | .package => do return { f with package := some (← readText field item) }
  | .runtime => do return { f with runtime := some (← readPathField field item) }
  | .root => do return { f with root := some (← readPathField field item) }

/-- Adds one item, or reports its problem. -/
def add (f : MarkerFields) (item : MarkerItem) : MarkerFields × List SpecProblem :=
  match item.path? with
  | none => (f, [.bareLiteral])
  | some p =>
    let name := fieldName p
    match MarkerField.ofText? name with
    | none =>
      (f, [.unknownField name (Text.mostSimilar? (·.text.toList) name.toList MarkerField.all)])
    | some field =>
      if field ∈ f.written then (f, [.duplicateField field])
      else
        let f := { f with written := field :: f.written }
        match f.fill field item with
        | .ok f => (f, [])
        | .error p => (f, [p])

/-- Adds the items of a list from left to right. -/
def addAll (f : MarkerFields) : List MarkerItem → MarkerFields × List SpecProblem
  | [] => (f, [])
  | item :: rest =>
    let (f, problems) := f.add item
    let (f, more) := f.addAll rest
    (f, problems ++ more)

/-- Reads one marker attribute. -/
def addContent (f : MarkerFields) : AttributeContent → MarkerFields × List SpecProblem
  | .bare => (f, [])
  | .value _ => (f, [.nameValueMarker])
  | .list body =>
    match MarkerItem.ofTokens body with
    | .ok items => f.addAll items
    | .error fault => (f, [.malformedList fault none])

/-- Reads the marker attributes of a declaration and passes over all others. -/
def addAttributes (f : MarkerFields) : List OuterAttribute → MarkerFields × List SpecProblem
  | [] => (f, [])
  | a :: rest =>
    let marks := (a.path.single?.map (·.isPlain "validator")).getD false
    let (f, problems) := if marks then f.addContent a.content else (f, [])
    let (f, more) := f.addAttributes rest
    (f, problems ++ more)

end MarkerFields

/-- The problem of a declaration that is no struct without fields. -/
def shapeProblems : DeclaredShape → List SpecProblem
  | .unit => []
  | .named => [.unsupportedShape "named fields" "no fields"]
  | .unnamed 1 => [.unsupportedShape "one unnamed field" "no fields"]
  | .unnamed _ => [.unsupportedShape "unnamed fields" "no fields"]
  | .enum => [.unsupportedShape "enum" "struct with no fields"]
  | .union => [.unsupportedShape "union" "struct with no fields"]

namespace GenerationSpec

/-- The spec of a marker declaration. -/
def ofDeclaration (d : TypeDeclaration) : Except GenerateError GenerationSpec :=
  let (fields, problems) := MarkerFields.addAttributes {} d.attributes
  match problems ++ shapeProblems d.shape, fields.targets with
  | [], first :: more =>
    .ok { name := d.name
          visibility := d.visibility
          package := fields.package.getD first.package
          targets := first :: more
          groups := orDefaultGroup fields.groups
          reflect := fields.reflect
          config :=
            { runtime := fields.runtime.getD GeneratorConfig.defaultRuntime
              root := fields.root.getD GeneratorConfig.defaultRoot
              containers := if fields.containers.isEmpty then GeneratorConfig.defaultContainers
                else fields.containers } }
  | [], [] => .error (.invalidSpec [.markerWithoutTargets])
  | problems, _ => .error (.invalidSpec problems)

/-- The spec that a marker text declares. -/
def ofMarker (source : String) : Except GenerateError GenerationSpec :=
  match TypeDeclaration.ofText? source with
  | some d => ofDeclaration d
  | none => .error .unreadableSource

end GenerationSpec

end ValidatorForge
