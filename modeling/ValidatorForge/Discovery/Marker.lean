import ValidatorForge.Artifact.Emission
import ValidatorForge.Source.Fragment

/-!
# Marker artifacts

The marker of a resolved type is a struct without fields and its shared instance.  It gives the
validator of the type a name before its body exists.
-/

namespace ValidatorForge

open Source

/-- The name of the shared instance of a validator. -/
def instanceIdent : Ident := .plain "INSTANCE"

/-- The declarations of a marker struct. -/
def markerTokens (name : Ident) (ty : TypeName) : Fragment :=
  doc s!" Validator of \x60{ty}\x60." ++
  attributeOf [word "allow", parens [word "non_camel_case_types"]] ++
  [word "pub", word "struct", .ident name, semicolon, word "impl", .ident name,
   braces (fixedDoc " Shared instance." ++
    [word "pub", word "const", .ident instanceIdent, colon, word "Self", equals, word "Self",
     semicolon])]

theorem oneLine_markerTokens (name : Ident) (ty : TypeName) : OneLine (markerTokens name ty) := by
  have hdoc : OneLine (fixedDoc " Shared instance.") :=
    oneLine_fixedDoc (Text.unbroken_ofList (by decide))
  simp [markerTokens, hdoc, word]

namespace ResolvedType

/-- The marker artifact of a resolved type. -/
def marker (t : ResolvedType) : Artifact where
  package := t.outputPackage
  name := t.outputName
  body := do return markerTokens (← Naming.ident t.outputName) t.name

/-- A marker can be built as soon as its name is an identifier. -/
theorem body_marker (t : ResolvedType) :
    t.marker.body = (Naming.ident t.outputName).map fun i => markerTokens i t.name := by
  unfold marker
  cases Naming.ident t.outputName <;> rfl

end ResolvedType

end ValidatorForge
