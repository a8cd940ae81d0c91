import ValidatorForge.Model.Descriptor
import ValidatorForge.Model.Property
import ValidatorForge.Model.Universe
import ValidatorForge.Naming

/-!
# Resolved types

A resolved type is a declaration together with its constraint descriptor.  Its members are searched
along its `lineage`: its own declaration, then those of its superclasses.

The element type of an association is what a cascade through it reaches:

| Declared type           | Element type                               |
|-------------------------|--------------------------------------------|
| `Employee[]`            | `Employee`                                 |
| `List<Employee>`        | `Employee`                                 |
| `Map<String, Employee>` | `Employee`, the last argument              |
| `List` without argument | the bound of its last type parameter       |
| `Employee`              | `Employee`                                 |
| `T` bounded by a type   | the element type of the bound              |
| `int`                   | none                                       |
-/

namespace ValidatorForge

structure ResolvedType where
  decl : ClassDecl
  descriptor : BeanDescriptor
deriving Repr, Inhabited

/-- How a property is declared: as a field, or by an accessor. -/
inductive Access where
  | field
  | getter
deriving DecidableEq, Repr

def Access.text : Access → String
  | field => "field"
  | getter => "getter"

/-! ## Element types -/

/-- The element type of a type whose class is named without type arguments. -/
def TypeUniverse.rawElement (u : TypeUniverse) (raw : TypeName) (declared : TypeRef) : TypeRef :=
  match (u.find? raw).bind (·.typeParams.getLast?) with
  | some param => param.bound
  | none => declared

/-- The type that a cascade through a property of the declared type reaches. -/
def TypeUniverse.elementType (u : TypeUniverse) : TypeRef → Option TypeRef
  | .primitive _ => none
  | .array component => some component
  | .applied raw args =>
    match args.getLast? with
    | some last => some last
    | none => some (u.rawElement raw (.applied raw args))
  | .named name => some (u.rawElement name (.named name))
  | .bounded _ bound => u.elementType bound

/-- The container with more than two type arguments whose last one is used, and their number. -/
def TypeRef.manyArguments? : TypeRef → Option (TypeName × Nat)
  | .applied raw args => if 2 < args.length then some (raw, args.length) else none
  | .bounded _ bound => bound.manyArguments?
  | _ => none

namespace ResolvedType

def name (t : ResolvedType) : TypeName := t.decl.name

/-! ## The validator of the type -/

/-- The package of the type's validator: that of the type. -/
def outputPackage (t : ResolvedType) : String := t.name.package

/-- The name of the type's validator.  Nested types keep their enclosing names. -/
def outputName (t : ResolvedType) : String := s!"_{Naming.flatName t.name}Validator"

def qualifiedOutputName (t : ResolvedType) : String := qualify t.outputPackage t.outputName

/-- The expression that names the shared instance of the type's validator. -/
def singleton (t : ResolvedType) : String := s!"{t.qualifiedOutputName}.INSTANCE"

/-! ## Members -/

/-- The type's declaration, then those of its superclasses. -/
def lineage (u : TypeUniverse) (t : ResolvedType) : List ClassDecl :=
  t.decl :: match t.decl.superclass with
    | some parent => u.superclassChain parent
    | none => []

/-- The declared type of the nearest field of that name. -/
def fieldType (u : TypeUniverse) (t : ResolvedType) (property : String) : Option TypeRef :=
  ((t.lineage u).findSome? (·.fieldNamed property)).map (·.ty)

/-- The result type of the nearest getter of the property. -/
def getterType (u : TypeUniverse) (t : ResolvedType) (property : String) : Option TypeRef :=
  ((t.lineage u).findSome? (·.accessorNamed (getterName property))).bind (·.returns)

/-- The type of a property as it is declared in one way. -/
def declaredType (u : TypeUniverse) (t : ResolvedType) (property : String) :
    Access → Option TypeRef
  | .field => t.fieldType u property
  | .getter => t.getterType u property

/-- Whether the property is declared in one way along the lineage. -/
def isDeclared (u : TypeUniverse) (t : ResolvedType) (property : String) (via : Access) : Bool :=
  (t.declaredType u property via).isSome

/-- The type that a cascade through the property reaches. -/
def associationElement (u : TypeUniverse) (t : ResolvedType) (property : String) (via : Access) :
    Option TypeRef :=
  (t.declaredType u property via).bind u.elementType

/-- The properties that the methods of the lineage read, nearest first. -/
def accessors (u : TypeUniverse) (t : ResolvedType) : List ReadableProperty :=
  (t.lineage u).flatMap fun d => d.methods.filterMap (·.property?)

/-- The readable properties in the order of their names.  The nearest accessor of a property hides
all others. -/
def readableProperties (u : TypeUniverse) (t : ResolvedType) : List ReadableProperty :=
  ((t.accessors u).eraseDupsBy fun a b => a.name == b.name).mergeSort
    fun a b => !(b.name < a.name : Bool)

end ResolvedType

end ValidatorForge
