import ValidatorForge.Text.Field

/-!
# Binary type names

Host types are known by their binary names: packages are separated by dots, nested types by dollar
signs.  The parts of a name are read off its fields.

| Binary name            | Package    | Source name   | Simple name |
|------------------------|------------|---------------|-------------|
| `com.acme.Manager`     | `com.acme` | `Manager`     | `Manager`   |
| `com.acme.Outer$Inner` | `com.acme` | `Outer.Inner` | `Inner`     |
| `Root`                 | (empty)    | `Root`        | `Root`      |
-/

namespace ValidatorForge

/-- The binary name of a host type.  Any text is a name; only some names can be emitted. -/
structure TypeName where
  text : String
deriving DecidableEq, Repr, Inhabited

namespace TypeName

instance : ToString TypeName := ⟨TypeName.text⟩

/-- The declaring package: the text before the last dot, empty for the default package. -/
def package (n : TypeName) : String :=
  String.ofList (Text.join ['.'] (Text.fields '.' n.text.toList).dropLast)

/-- The name inside the package, nested types still separated by dollar signs. -/
def localName (n : TypeName) : List Char := Text.lastField (· == '.') n.text.toList

/-- The name inside the package, nested types separated by dots. -/
def sourceName (n : TypeName) : String :=
  String.ofList (Text.replaceChar '$' '.' n.localName)

/-- The innermost name. -/
def simpleName (n : TypeName) : String :=
  String.ofList (Text.lastField (fun c => c == '.' || c == '$') n.text.toList)

end TypeName

/-- A simple name inside a package, written with a dot unless the package is the default one. -/
def qualify (package name : String) : String :=
  if package.isEmpty then name else s!"{package}.{name}"

end ValidatorForge
