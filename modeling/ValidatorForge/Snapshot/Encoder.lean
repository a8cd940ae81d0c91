import ValidatorForge.Model.ClassDecl
import ValidatorForge.Model.Descriptor
import ValidatorForge.Snapshot.Document

/-!
# Encoding model values

The document of a model value has every field, in declared order, also those that hold a default.
-/

namespace ValidatorForge

namespace Snapshot.Document

/-- The document of a text. -/
def ofString (s : String) : Document := .string (.ofChars s.toList)

/-- The document of a list. -/
def ofList (items : List Document) : Document := .array items .closed

/-- The document of a record. -/
def ofFields (fields : List (String × Document)) : Document :=
  .object (fields.map fun (name, d) => (.ofChars name.toList, d)) .closed

/-- The document of a value that may be absent. -/
def ofOption {α : Type} (encode : α → Document) : Option α → Document
  | none => .null
  | some x => encode x

end Snapshot.Document

open Snapshot Document

def TypeName.toDocument (n : TypeName) : Document := ofString n.text

/-- The document of a list of names. -/
def encodeNames (names : List TypeName) : Document := ofList (names.map TypeName.toDocument)

namespace TypeRef

mutual

/-- The document of a type. -/
def toDocument : TypeRef → Document
  | .primitive name => ofFields [("primitive", ofString name)]
  | .named name => ofFields [("class", name.toDocument)]
  | .applied raw args =>
    ofFields [("parameterized",
      ofFields [("raw", raw.toDocument), ("args", ofList (toDocuments args))])]
  | .array component => ofFields [("array", component.toDocument)]
  | .bounded name bound =>
    ofFields [("variable", ofFields [("name", ofString name), ("bound", bound.toDocument)])]

/-- The documents of a list of types. -/
def toDocuments : List TypeRef → List Document
  | [] => []
  | ty :: rest => ty.toDocument :: toDocuments rest

end

end TypeRef

def ClassKind.toDocument : ClassKind → Document
  | .concrete => ofString "class"
  | .interface => ofString "interface"

def TypeParam.toDocument (p : TypeParam) : Document :=
  ofFields [("name", ofString p.name), ("bound", p.bound.toDocument)]

def FieldDecl.toDocument (f : FieldDecl) : Document :=
  ofFields [("name", ofString f.name), ("ty", f.ty.toDocument)]

def MethodDecl.toDocument (m : MethodDecl) : Document :=
  ofFields
    [("name", ofString m.name),
     ("params", ofList (m.params.map TypeRef.toDocument)),
     ("returns", ofOption TypeRef.toDocument m.returns)]

def ClassDecl.toDocument (d : ClassDecl) : Document :=
  ofFields
    [("name", d.name.toDocument),
     ("kind", d.kind.toDocument),
     ("superclass", ofOption TypeName.toDocument d.superclass),
     ("interfaces", encodeNames d.interfaces),
     ("type_params", ofList (d.typeParams.map TypeParam.toDocument)),
     ("fields", ofList (d.fields.map FieldDecl.toDocument)),
     ("methods", ofList (d.methods.map MethodDecl.toDocument)),
     ("group_sequence", ofOption encodeNames d.groupSequence)]

def ConstraintDecl.toDocument (c : ConstraintDecl) : Document :=
  ofFields [("annotation", c.constraint.toDocument), ("groups", encodeNames c.groups)]

def PropertyDescriptor.toDocument (p : PropertyDescriptor) : Document :=
  ofFields
    [("name", ofString p.name),
     ("cascaded", .bool p.cascaded),
     ("element_class", p.elementClass.toDocument),
     ("constraints", ofList (p.constraints.map ConstraintDecl.toDocument))]

def BeanDescriptor.toDocument (d : BeanDescriptor) : Document :=
  ofFields
    [("bean", d.bean.toDocument),
     ("class_constraints", ofList (d.classConstraints.map ConstraintDecl.toDocument)),
     ("properties", ofList (d.properties.map PropertyDescriptor.toDocument))]

end ValidatorForge
