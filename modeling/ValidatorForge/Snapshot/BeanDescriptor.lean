import ValidatorForge.Model.Descriptor
import ValidatorForge.Snapshot.TypeRef

/-!
# Constraint descriptors in snapshots
-/

namespace ValidatorForge.Snapshot

/-- A constraint of which some fields have been read. -/
structure PartialConstraint where
  constraint : Option TypeName := none
  groups : Option (List TypeName) := none

/-- Reads one member of a constraint. -/
def readConstraintMember (room : Nat) (r : PartialConstraint) (key : String) (d : Document) :
    Decoded PartialConstraint := do
  match key with
  | "annotation" => return { r with constraint := ← fill key r.constraint (decodeTypeName d) }
  | "groups" => return { r with groups := ← fill key r.groups (decodeTypeNames room d) }
  | _ =>
    skip d
    return r

/-- Decodes a constraint. -/
def decodeConstraintDecl (room : Nat) : Document → Decoded ConstraintDecl :=
  decodeRecord "struct ConstraintDecl" room
    (fun room => do
      let constraint ← Row.required "struct ConstraintDecl" 0 2 decodeTypeName
      let groups ← Row.optional [] (decodeTypeNames room)
      return { constraint, groups })
    (fun room members close => do
      let r ← readMembers (readConstraintMember room) {} members close
      return { constraint := ← demand "annotation" r.constraint, groups := r.groups.getD [] })

/-- A property of which some fields have been read. -/
structure PartialProperty where
  name : Option String := none
  cascaded : Option Bool := none
  elementClass : Option TypeRef := none
  constraints : Option (List ConstraintDecl) := none

/-- Reads one member of a property. -/
def readPropertyMember (room : Nat) (r : PartialProperty) (key : String) (d : Document) :
    Decoded PartialProperty := do
  match key with
  | "name" => return { r with name := ← fill key r.name (decodeString d) }
  | "cascaded" => return { r with cascaded := ← fill key r.cascaded (decodeBool d) }
  | "element_class" =>
    return { r with elementClass := ← fill key r.elementClass (decodeTypeRef room d) }
  | "constraints" =>
    return { r with
      constraints := ← fill key r.constraints (decodeList room decodeConstraintDecl d) }
  | _ =>
    skip d
    return r

/-- Decodes a property. -/
def decodePropertyDescriptor (room : Nat) : Document → Decoded PropertyDescriptor :=
  decodeRecord "struct PropertyDescriptor" room
    (fun room => do
      let name ← Row.required "struct PropertyDescriptor" 0 4 decodeString
      let cascaded ← Row.optional false decodeBool
      let elementClass ← Row.required "struct PropertyDescriptor" 2 4 (decodeTypeRef room)
      let constraints ← Row.optional [] (decodeList room decodeConstraintDecl)
      return { name, cascaded, elementClass, constraints })
    (fun room members close => do
      let r ← readMembers (readPropertyMember room) {} members close
      return {
        name := ← demand "name" r.name
        cascaded := r.cascaded.getD false
        elementClass := ← demand "element_class" r.elementClass
        constraints := r.constraints.getD [] })

/-- A descriptor of which some fields have been read. -/
structure PartialBean where
  bean : Option TypeName := none
  classConstraints : Option (List ConstraintDecl) := none
  properties : Option (List PropertyDescriptor) := none

/-- Reads one member of a descriptor. -/
def readBeanMember (room : Nat) (r : PartialBean) (key : String) (d : Document) :
    Decoded PartialBean := do
  match key with
  | "bean" => return { r with bean := ← fill key r.bean (decodeTypeName d) }
  | "class_constraints" =>
    return { r with
      classConstraints :=
        ← fill key r.classConstraints (decodeList room decodeConstraintDecl d) }
  | "properties" =>
    return { r with
      properties := ← fill key r.properties (decodeList room decodePropertyDescriptor d) }
  | _ =>
    skip d
    return r

/-- Decodes a descriptor. -/
def decodeBeanDescriptor (room : Nat) : Document → Decoded BeanDescriptor :=
  decodeRecord "struct BeanDescriptor" room
    (fun room => do
      let bean ← Row.required "struct BeanDescriptor" 0 3 decodeTypeName
      let classConstraints ← Row.optional [] (decodeList room decodeConstraintDecl)
      let properties ← Row.optional [] (decodeList room decodePropertyDescriptor)
      return { bean, classConstraints, properties })
    (fun room members close => do
      let r ← readMembers (readBeanMember room) {} members close
      return {
        bean := ← demand "bean" r.bean
        classConstraints := r.classConstraints.getD []
        properties := r.properties.getD [] })

end ValidatorForge.Snapshot
