import ValidatorForge.Model.TypeName

/-!
# Declared types

The static type of a field, of an accessor's result or of a type parameter's bound.
-/

namespace ValidatorForge

/-- A declared static type. -/
inductive TypeRef where
  /-- A primitive such as `int`. -/
  | primitive (name : String)
  /-- A class or interface without type arguments. -/
  | named (name : TypeName)
  /-- A generic type with its arguments. -/
  | applied (raw : TypeName) (args : List TypeRef)
  /-- An array of the component type. -/
  | array (component : TypeRef)
  /-- A type variable or wildcard with its upper bound. -/
  | bounded (name : String) (bound : TypeRef)
deriving Repr, Inhabited

namespace TypeRef

/-- The class or interface that a type erases to.  Arrays and primitives have none. -/
def erasure : TypeRef → Option TypeName
  | .named name => some name
  | .applied raw _ => some raw
  | .bounded _ bound => bound.erasure
  | .array _ | .primitive _ => none

def isArray : TypeRef → Bool
  | .array _ => true
  | _ => false

def isPrimitive : TypeRef → Bool
  | .primitive _ => true
  | _ => false

/-- Whether the type is the primitive `boolean`. -/
def isBoolean : TypeRef → Bool
  | .primitive name => name == "boolean"
  | _ => false

mutual

/-- The type as it is written in a declaration. -/
def display : TypeRef → String
  | .primitive name => name
  | .named name => name.text
  | .applied raw args => s!"{raw}<{Text.commaJoin (displayAll args)}>"
  | .array component => component.display ++ "[]"
  | .bounded name _ => name

/-- The written form of each type. -/
def displayAll : List TypeRef → List String
  | [] => []
  | ty :: rest => ty.display :: displayAll rest

end

instance : ToString TypeRef := ⟨display⟩

end TypeRef

end ValidatorForge
