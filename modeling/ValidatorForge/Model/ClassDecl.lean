import ValidatorForge.Model.TypeRef

/-!
# Class declarations

What the host declares about one class or interface: its direct supertypes, type parameters, fields
and methods, and the group sequence that it stands for, if any.  Inherited members are not listed.
-/

namespace ValidatorForge

inductive ClassKind where
  | concrete
  | interface
deriving DecidableEq, Repr, Inhabited

/-- A formal type parameter with its first bound. -/
structure TypeParam where
  name : String
  bound : TypeRef
deriving Repr, Inhabited

structure FieldDecl where
  name : String
  ty : TypeRef
deriving Repr, Inhabited

/-- A method.  `returns` is absent for one without a result. -/
structure MethodDecl where
  name : String
  params : List TypeRef := []
  returns : Option TypeRef := none
deriving Repr, Inhabited

/-- Whether a method takes no arguments and returns a value. -/
def MethodDecl.isAccessor (m : MethodDecl) : Bool := m.params.isEmpty && m.returns.isSome

/-- The declaration of one class or interface. -/
structure ClassDecl where
  name : TypeName
  kind : ClassKind := .concrete
  superclass : Option TypeName := none
  interfaces : List TypeName := []
  typeParams : List TypeParam := []
  fields : List FieldDecl := []
  methods : List MethodDecl := []
  groupSequence : Option (List TypeName) := none
deriving Repr, Inhabited

namespace ClassDecl

/-! ## Building a declaration -/

/-- A class without members. -/
def ofClass (name : TypeName) : ClassDecl := { name }

/-- An interface without members. -/
def ofInterface (name : TypeName) : ClassDecl := { name, kind := .interface }

/-- Sets the direct superclass. -/
def withSuperclass (d : ClassDecl) (superclass : TypeName) : ClassDecl :=
  { d with superclass := some superclass }

/-- Adds a direct interface. -/
def withInterface (d : ClassDecl) (interface : TypeName) : ClassDecl :=
  { d with interfaces := d.interfaces ++ [interface] }

/-- Adds a type parameter with its bound. -/
def withTypeParam (d : ClassDecl) (name : String) (bound : TypeRef) : ClassDecl :=
  { d with typeParams := d.typeParams ++ [⟨name, bound⟩] }

/-- Adds a field. -/
def withField (d : ClassDecl) (name : String) (ty : TypeRef) : ClassDecl :=
  { d with fields := d.fields ++ [⟨name, ty⟩] }

/-- Adds a method. -/
def withMethod (d : ClassDecl) (method : MethodDecl) : ClassDecl :=
  { d with methods := d.methods ++ [method] }

/-- Adds a method without arguments that returns `returns`. -/
def withGetter (d : ClassDecl) (name : String) (returns : TypeRef) : ClassDecl :=
  d.withMethod { name, returns := some returns }

/-- Makes the declaration a group sequence over `members`. -/
def withGroupSequence (d : ClassDecl) (members : List TypeName) : ClassDecl :=
  { d with groupSequence := some members }

/-! ## Reading a declaration -/

def isInterface (d : ClassDecl) : Bool := d.kind == .interface

/-- The first field of that name. -/
def fieldNamed (d : ClassDecl) (name : String) : Option FieldDecl :=
  d.fields.find? (·.name == name)

/-- The first accessor of that name.  Other methods of the name are passed over. -/
def accessorNamed (d : ClassDecl) (name : String) : Option MethodDecl :=
  d.methods.find? fun m => m.name == name && m.isAccessor

/-- The direct supertypes: the superclass, then the interfaces. -/
def supertypes (d : ClassDecl) : List TypeName := d.superclass.toList ++ d.interfaces

end ClassDecl

end ValidatorForge
