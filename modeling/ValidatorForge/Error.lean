import ValidatorForge.Model.Descriptor
import ValidatorForge.Snapshot.Error
import ValidatorForge.Spec.Problem

/-!
# Errors of a generation run

Every error is fatal for its run.  A property without a known element type is no error: it is logged
and passed over.
-/

namespace ValidatorForge

/-- Why an operation of the generator failed. -/
inductive GenerateError where
  /-- The constraint engine cannot describe a reachable type. -/
  | unresolvableType (ty : TypeName) (cause : EngineError)
  /-- A referenced type has no declaration. -/
  | unknownType (ty : TypeName)
  /-- The validator declaration is malformed. -/
  | invalidSpec (problems : List SpecProblem)
  /-- A source text has no tokens or does not parse. -/
  | unreadableSource
  /-- A host name cannot be spelled in the emitted language. -/
  | invalidName (name : String)
  /-- An artifact could not be written. -/
  | unwritable (path : String)
  /-- A metadata snapshot could not be read. -/
  | malformedSnapshot (error : Snapshot.SnapshotError)
deriving DecidableEq, Repr

def GenerateError.message : GenerateError → String
  | unresolvableType ty cause => s!"cannot build constraint metadata for {ty}: {cause.message}"
  | unknownType ty => s!"type {ty} is not known to the host type system"
  | invalidSpec problems => s!"invalid validator declaration: {SpecProblem.messageAll problems}"
  | unreadableSource => "invalid declaration syntax"
  | invalidName name => s!"\x60{name}\x60 cannot be used as a Rust identifier"
  | unwritable path => s!"failed to write artifact {path}"
  | malformedSnapshot error => s!"malformed metadata snapshot: {error.message}"

end ValidatorForge
