import ValidatorForge.Error
import ValidatorForge.Source.Path
import ValidatorForge.Text.Snake

/-!
# Host names in the emitted language

| Host name                   | Emitted form              |
|-----------------------------|---------------------------|
| package `com.acme`          | `root::com::acme`         |
| type `com.acme.Outer$Inner` | `root::com::acme::Outer_Inner` |
| accessor `getSalary`        | `get_salary`              |
| segment `type`              | `r#type`                  |

Empty package segments are passed over.  Any other name that is no identifier is refused.
-/

namespace ValidatorForge.Naming

open Source (Ident ModPath)

/-- The identifier for a host name. -/
def ident (name : String) : Except GenerateError Ident :=
  match Ident.ofName? name with
  | some i => .ok i
  | none => .error (.invalidName name)

/-- The segments of a dotted package, empty ones left out. -/
def packageSegments (package : String) : List String :=
  ((Text.fields '.' package.toList).filter (!·.isEmpty)).map String.ofList

/-- The path of an item of a host package, below `root`. -/
def itemPath (root : ModPath) (package name : String) : Except GenerateError ModPath := do
  let modules ← (packageSegments package).mapM ident
  let item ← ident name
  return (root.descend modules).child item

/-- The name of a host type inside its package, as one identifier. -/
def flatName (name : TypeName) : String :=
  String.ofList (Text.replaceChar '.' '_' name.sourceName.toList)

/-- The path of a host type below `root`. -/
def typePath (root : ModPath) (name : TypeName) : Except GenerateError ModPath :=
  itemPath root name.package (flatName name)

/-- The method that a host accessor becomes: its name in snake case. -/
def methodIdent (getter : String) : Except GenerateError Ident :=
  ident (String.ofList (Text.snakeCase getter.toList))

end ValidatorForge.Naming
