import ValidatorForge.Text.Field

/-!
# Errors of a validation
-/

namespace ValidatorForge.Validation

inductive ValidationError where
  /-- No branch of the validator takes the class. -/
  | unsupportedType (found : String) (supported : List String)
  /-- A reflected class has no readable property of that name. -/
  | noSuchProperty (className property : String)
  /-- The class has no property access. -/
  | classNotReflected (className : String)
  /-- The validator of a type could not finish. -/
  | failed (reason : String)
deriving DecidableEq, Repr

namespace ValidationError

def message : ValidationError → String
  | unsupportedType found supported =>
    s!"{found} is not a valid bean type. Supported types: [{Text.commaJoin supported}]"
  | noSuchProperty className property =>
    className ++ " has no readable property named \"" ++ property ++ "\""
  | classNotReflected className => s!"{className} is not reflected by this validator"
  | failed reason => s!"validation failed: {reason}"

/-- Whether the error comes from the end of a chain of branches. -/
def isDispatch : ValidationError → Bool
  | failed _ => false
  | _ => true

end ValidationError

end ValidatorForge.Validation
