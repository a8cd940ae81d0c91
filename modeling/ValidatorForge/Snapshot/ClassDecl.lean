import ValidatorForge.Model.ClassDecl
import ValidatorForge.Snapshot.TypeRef

/-!
# Class declarations in snapshots

Only the name of a declaration is required.  The kind is `class` unless said otherwise.
-/

namespace ValidatorForge.Snapshot

/-! ## Kinds -/

def kindNamed (name : String) : Decoded ClassKind :=
  match name with
  | "class" => .ok .concrete
  | "interface" => .ok .interface
  | name => reject (.unknownVariant name ["class", "interface"])

def decodeUnit : Document → Decoded Unit
  | .null => .ok ()
  | d => mistyped "unit" d

/-- Decodes a kind: its name, or an object with that key and `null`. -/
def decodeClassKind (room : Nat) (d : Document) : Decoded ClassKind :=
  decodeVariant room kindNamed
    (fun _ name => do
      let kind ← kindNamed name
      return fun d => do
        decodeUnit d
        return kind)
    d

/-! ## Members of a declaration -/

/-- Decodes a type parameter. -/
def decodeTypeParam (room : Nat) (d : Document) : Decoded TypeParam := do
  let (name, bound) ← decodePair "struct TypeParam" "name" "bound" decodeString decodeTypeRef room d
  return ⟨name, bound⟩

/-- Decodes a field. -/
def decodeFieldDecl (room : Nat) (d : Document) : Decoded FieldDecl := do
  let (name, ty) ← decodePair "struct FieldDecl" "name" "ty" decodeString decodeTypeRef room d
  return ⟨name, ty⟩

/-- A method of which some fields have been read. -/
structure PartialMethod where
  name : Option String := none
  params : Option (List TypeRef) := none
  returns : Option (Option TypeRef) := none

/-- Reads one member of a method. -/
def readMethodMember (room : Nat) (r : PartialMethod) (key : String) (d : Document) :
    Decoded PartialMethod := do
  match key with
  | "name" => return { r with name := ← fill key r.name (decodeString d) }
  | "params" => return { r with params := ← fill key r.params (decodeList room decodeTypeRef d) }
  | "returns" =>
    return { r with returns := ← fill key r.returns (decodeOption (decodeTypeRef room) d) }
  | _ =>
    skip d
    return r

/-- Decodes a method. -/
def decodeMethodDecl (room : Nat) : Document → Decoded MethodDecl :=
  decodeRecord "struct MethodDecl" room
    (fun room => do
      let name ← Row.required "struct MethodDecl" 0 3 decodeString
      let params ← Row.optional [] (decodeList room decodeTypeRef)
      let returns ← Row.optional none (decodeOption (decodeTypeRef room))
      return { name, params, returns })
    (fun room members close => do
      let r ← readMembers (readMethodMember room) {} members close
      return {
        name := ← demand "name" r.name
        params := r.params.getD []
        returns := r.returns.getD none })

/-! ## Declarations -/

/-- A declaration of which some fields have been read. -/
structure PartialClass where
  name : Option TypeName := none
  kind : Option ClassKind := none
  superclass : Option (Option TypeName) := none
  interfaces : Option (List TypeName) := none
  typeParams : Option (List TypeParam) := none
  fields : Option (List FieldDecl) := none
  methods : Option (List MethodDecl) := none
  groupSequence : Option (Option (List TypeName)) := none

/-- Reads one member of a declaration. -/
def readClassMember (room : Nat) (r : PartialClass) (key : String) (d : Document) :
    Decoded PartialClass := do
  match key with
  | "name" => return { r with name := ← fill key r.name (decodeTypeName d) }
  | "kind" => return { r with kind := ← fill key r.kind (decodeClassKind room d) }
  | "superclass" =>
    return { r with superclass := ← fill key r.superclass (decodeOption decodeTypeName d) }
  | "interfaces" => return { r with interfaces := ← fill key r.interfaces (decodeTypeNames room d) }
  | "type_params" =>
    return { r with typeParams := ← fill key r.typeParams (decodeList room decodeTypeParam d) }
  | "fields" =>
    return { r with fields := ← fill key r.fields (decodeList room decodeFieldDecl d) }
  | "methods" =>
    return { r with methods := ← fill key r.methods (decodeList room decodeMethodDecl d) }
  | "group_sequence" =>
    return { r with
      groupSequence := ← fill key r.groupSequence (decodeOption (decodeTypeNames room) d) }
  | _ =>
    skip d
    return r

/-- Decodes a declaration. -/
def decodeClassDecl (room : Nat) : Document → Decoded ClassDecl :=
  decodeRecord "struct ClassDecl" room
    (fun room => do
      let name ← Row.required "struct ClassDecl" 0 8 decodeTypeName
      let kind ← Row.optional .concrete (decodeClassKind room)
      let superclass ← Row.optional none (decodeOption decodeTypeName)
      let interfaces ← Row.optional [] (decodeTypeNames room)
      let typeParams ← Row.optional [] (decodeList room decodeTypeParam)
      let fields ← Row.optional [] (decodeList room decodeFieldDecl)
      let methods ← Row.optional [] (decodeList room decodeMethodDecl)
      let groupSequence ← Row.optional none (decodeOption (decodeTypeNames room))
      return { name, kind, superclass, interfaces, typeParams, fields, methods, groupSequence })
    (fun room members close => do
      let r ← readMembers (readClassMember room) {} members close
      return {
        name := ← demand "name" r.name
        kind := r.kind.getD .concrete
        superclass := r.superclass.getD none
        interfaces := r.interfaces.getD []
        typeParams := r.typeParams.getD []
        fields := r.fields.getD []
        methods := r.methods.getD []
        groupSequence := r.groupSequence.getD none })

end ValidatorForge.Snapshot
