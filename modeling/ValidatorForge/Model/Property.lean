import ValidatorForge.Model.ClassDecl
import ValidatorForge.Text.Case

/-!
# Properties and their accessors

A property `salary` is read by an accessor `getSalary`; a boolean one may be read by `isActive`.
`getterName` goes from the property to its accessor, `propertyName?` from the accessor to the
property.
-/

namespace ValidatorForge

/-- The accessor of a property: `salary` is read by `getSalary`. -/
def getterName (property : String) : String :=
  match property.toList with
  | [] => "get"
  | c :: rest => String.ofList ('g' :: 'e' :: 't' :: (Text.upperChars c ++ rest))

/-- The property that an accessor's name ends in: `Salary` names `salary`, but a name that begins
with two capitals keeps them. -/
def decapitalize : List Char → List Char
  | [] => []
  | c :: d :: rest =>
    if Text.isUppercase c && Text.isUppercase d then c :: d :: rest
    else Text.lowerChars c ++ d :: rest
  | [c] => Text.lowerChars c

/-- What an accessor's name ends in, after `get`, or after `is` if it returns a boolean. -/
def accessorSuffix? (returns : TypeRef) : List Char → Option (List Char)
  | 'g' :: 'e' :: 't' :: suffix => some suffix
  | 'i' :: 's' :: suffix => if returns.isBoolean then some suffix else none
  | _ => none

/-- The property that an accessor of that name and result type reads. -/
def propertyName? (accessor : String) (returns : TypeRef) : Option String :=
  match accessorSuffix? returns accessor.toList with
  | some (c :: suffix) => some (String.ofList (decapitalize (c :: suffix)))
  | _ => none

/-- A property that can be read, with its accessor and type. -/
structure ReadableProperty where
  name : String
  getter : String
  ty : TypeRef
deriving Repr, Inhabited

/-- The property that a method reads, if it is an accessor of one. -/
def MethodDecl.property? (m : MethodDecl) : Option ReadableProperty :=
  match m.params, m.returns with
  | [], some returns => (propertyName? m.name returns).map fun name => ⟨name, m.name, returns⟩
  | _, _ => none

end ValidatorForge
