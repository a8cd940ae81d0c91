import ValidatorForge.Text.Field

/-!
# Problems of a validator declaration

Each way in which a declaration can be malformed, and its wording.  A declaration may have several
problems at once; they are reported together.
-/

namespace ValidatorForge

/-- The fields of a validator marker, in the order in which suggestions are tried. -/
inductive MarkerField where
  | targets | groups | reflect | containers | package | runtime | root
deriving DecidableEq, Repr

namespace MarkerField

def all : List MarkerField := [targets, groups, reflect, containers, package, runtime, root]

def text : MarkerField → String
  | targets => "targets"
  | groups => "groups"
  | reflect => "reflect"
  | containers => "containers"
  | package => "package"
  | runtime => "runtime"
  | root => "root"

instance : ToString MarkerField := ⟨text⟩

def ofText? (name : String) : Option MarkerField := all.find? (·.text == name)

/-- The fields in alphabetical order. -/
def alphabetical : List MarkerField :=
  [containers, groups, package, reflect, root, runtime, targets]

end MarkerField

/-- A list of marker items that could not be read to its end. -/
inductive ListFault where
  | expectedItem
  | expectedComma
  /-- A path ends in a separator; `atEnd` if the list ends there too. -/
  | expectedSegment (atEnd : Bool)
  /-- An equals sign without a value. -/
  | expectedValue (atEnd : Bool)
  /-- A value under an attribute of its own. -/
  | unexpectedAttribute
deriving DecidableEq, Repr

def ListFault.message : ListFault → String
  | expectedItem => "expected identifier or literal"
  | expectedComma => "expected \x60,\x60"
  | expectedSegment true => "unexpected end of input, expected path segment after \x60::\x60"
  | expectedSegment false => "expected path segment after \x60::\x60"
  | expectedValue true => "unexpected end of input, expected an expression"
  | expectedValue false => "expected an expression"
  | unexpectedAttribute => "unexpected attribute inside of attribute"

/-- One problem of a declaration. -/
inductive SpecProblem where
  /-- A value or list item of the wrong type. -/
  | unexpectedType (found : String) (field : MarkerField)
  /-- An item written as a bare word, list or value where another form is due. -/
  | unexpectedFormat (format : String) (field : MarkerField)
  /-- A bare literal among the fields. -/
  | bareLiteral
  /-- A text that spells no path. -/
  | unknownValue (value : String) (field : MarkerField)
  | duplicateField (field : MarkerField)
  /-- A field that does not exist, with a similar one that does. -/
  | unknownField (name : String) (suggestion : Option MarkerField)
  /-- A malformed list, in a field or at the top. -/
  | malformedList (fault : ListFault) (field : Option MarkerField)
  /-- A declaration that is no struct without fields. -/
  | unsupportedShape (shape expected : String)
  /-- The marker is written with an equals sign. -/
  | nameValueMarker
  | markerWithoutTargets
  | noTargets
deriving DecidableEq, Repr

namespace SpecProblem

private def ticked (name : String) : String := s!"\x60{name}\x60"

def message : SpecProblem → String
  | unexpectedType found field => s!"Unexpected type {ticked found} at {field}"
  | unexpectedFormat format field => s!"Unexpected meta-item format {ticked format} at {field}"
  | bareLiteral => "Unexpected meta-item format \x60literal\x60"
  | unknownValue value field => s!"Unknown value: {ticked value} at {field}"
  | duplicateField field => s!"Duplicate field {ticked field.text}"
  | unknownField name (some field) =>
    s!"Unknown field: {ticked name}. Did you mean {ticked field.text}?"
  | unknownField name none =>
    let known := Text.commaJoin (MarkerField.alphabetical.map fun f => ticked f.text)
    s!"Unknown field: {ticked name}. Available values: {known}"
  | malformedList fault none => fault.message
  | malformedList fault (some field) => s!"{fault.message} at {field}"
  | unsupportedShape shape expected => s!"Unsupported shape {ticked shape}. Expected {expected}."
  | nameValueMarker => "Name-value arguments are not supported. Use #[validator(...)]"
  | markerWithoutTargets => "validator requires at least one type in \x60targets(...)\x60"
  | noTargets => "at least one target type is required"

/-- The wording of all problems of one declaration. -/
def messageAll : List SpecProblem → String
  | [p] => p.message
  | ps => s!"Multiple errors: ({Text.commaJoin (ps.map message)})"

end SpecProblem

end ValidatorForge
