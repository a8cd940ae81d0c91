import ValidatorForge.Data.OrderedMap
import ValidatorForge.Model.TypeRef

/-!
# Constraint descriptors

The constraint engine is the authority on which properties of a bean are constrained and which are
cascaded into.  It is a function from type names; `DescriptorTable` answers from recorded
descriptors.
-/

namespace ValidatorForge

/-- One constraint, kept opaque.  No groups means the default group. -/
structure ConstraintDecl where
  constraint : TypeName
  groups : List TypeName := []
deriving Repr, Inhabited, DecidableEq

/-- The engine's view of one property.  `cascaded` asks for the referenced objects to be validated
too; `elementClass` is their declared type. -/
structure PropertyDescriptor where
  name : String
  cascaded : Bool := false
  elementClass : TypeRef
  constraints : List ConstraintDecl := []
deriving Repr, Inhabited

/-- A property with its own constraints. -/
def PropertyDescriptor.constrained (name : String) (ty : TypeRef)
    (constraints : List ConstraintDecl) : PropertyDescriptor :=
  { name, elementClass := ty, constraints }

/-- A property to cascade into. -/
def PropertyDescriptor.intoCascade (name : String) (ty : TypeRef) : PropertyDescriptor :=
  { name, cascaded := true, elementClass := ty }

/-- The engine's view of one bean type. -/
structure BeanDescriptor where
  bean : TypeName
  classConstraints : List ConstraintDecl := []
  properties : List PropertyDescriptor := []
deriving Repr, Inhabited

namespace BeanDescriptor

/-- Adds a property. -/
def withProperty (d : BeanDescriptor) (p : PropertyDescriptor) : BeanDescriptor :=
  { d with properties := d.properties ++ [p] }

/-- Adds a constraint on the class itself. -/
def withClassConstraint (d : BeanDescriptor) (c : ConstraintDecl) : BeanDescriptor :=
  { d with classConstraints := d.classConstraints ++ [c] }

/-- Whether the type carries any constraint or cascade. -/
def isConstrained (d : BeanDescriptor) : Bool :=
  !d.classConstraints.isEmpty || d.properties.any fun p => p.cascaded || !p.constraints.isEmpty

/-- The properties to cascade into. -/
def cascadedProperties (d : BeanDescriptor) : List PropertyDescriptor :=
  d.properties.filter (·.cascaded)

/-- The first property of that name. -/
def propertyNamed (d : BeanDescriptor) (name : String) : Option PropertyDescriptor :=
  d.properties.find? (·.name == name)

end BeanDescriptor

/-- Why the engine could not describe a type. -/
inductive EngineError where
  | notABean (name : TypeName)
  | missing (name : TypeName)
  | rejected (name : TypeName) (reason : String)
deriving DecidableEq, Repr

def EngineError.message : EngineError → String
  | .notABean name => s!"{name} is not a constrainable bean type"
  | .missing name => s!"no constraint metadata recorded for {name}"
  | .rejected name reason => s!"{name} has an invalid constraint configuration: {reason}"

/-- Whether the description of a type carries any constraint or cascade.  A type that cannot be
described carries none. -/
def isConstrainedBy (describe : TypeName → Except EngineError BeanDescriptor) (name : TypeName) :
    Bool :=
  match describe name with
  | .ok d => d.isConstrained
  | .error _ => false

/-- A constraint engine: it describes a type or says why it cannot, and it says whether a type
carries any constraint or cascade.  Unless it has an answer of its own to the second question, the
description decides. -/
structure ConstraintEngine where
  describe : TypeName → Except EngineError BeanDescriptor
  isConstrained : TypeName → Bool := isConstrainedBy describe

/-- Recorded descriptors by type, in order of first record. -/
structure DescriptorTable where
  descriptors : OrderedMap TypeName BeanDescriptor

namespace DescriptorTable

def empty : DescriptorTable := ⟨.empty⟩

/-- Records a descriptor, or replaces the one of its type. -/
def insert (t : DescriptorTable) (d : BeanDescriptor) : DescriptorTable :=
  ⟨t.descriptors.insert d.bean d⟩

/-- The table that records the descriptors from left to right. -/
def ofList (ds : List BeanDescriptor) : DescriptorTable := ds.foldl insert empty

def size (t : DescriptorTable) : Nat := t.descriptors.size

def isEmpty (t : DescriptorTable) : Bool := t.descriptors.isEmpty

def describe (t : DescriptorTable) (name : TypeName) : Except EngineError BeanDescriptor :=
  match t.descriptors.get? name with
  | some d => .ok d
  | none => .error (.missing name)

/-- The engine that answers from the table. -/
def toEngine (t : DescriptorTable) : ConstraintEngine := { describe := t.describe }

end DescriptorTable

/-- The engine that refuses the listed types and answers like `engine` on the others. -/
def ConstraintEngine.refusing (engine : ConstraintEngine)
    (refusals : List (TypeName × EngineError)) : ConstraintEngine where
  describe name :=
    match refusals.lookup name with
    | some e => .error e
    | none => engine.describe name

end ValidatorForge
