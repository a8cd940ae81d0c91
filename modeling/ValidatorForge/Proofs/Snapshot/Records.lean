import ValidatorForge.Proofs.Snapshot.Forms
import ValidatorForge.Snapshot.BeanDescriptor
import ValidatorForge.Snapshot.ClassDecl

/-!
# Forms of types, declarations and descriptors

The written forms of the model values that a snapshot holds, and what is read back from them.  Each
record type has its fields, the slots that hold those that have been read, and one step lemma
`reads_*`, a case for each field and one for the members that are none.

`TypeRef.readBack` is by induction on the type: what stands inside a type has less room than the
type itself.
-/

namespace ValidatorForge

open Snapshot Document

/-! ## Names -/

def TypeName.form (n : TypeName) : Form := .text n.text

theorem TypeName.readBack (n : TypeName) :
    ReadBack n.form n.toDocument (fun _ => decodeTypeName) n :=
  (ReadBack.text n.text).map TypeName.mk

theorem TypeName.readBack_option (n : Option TypeName) :
    ReadBack (.option TypeName.form n) (ofOption TypeName.toDocument n)
      (fun _ => decodeOption decodeTypeName) n := by
  refine ReadBack.option (fun n _ => n.readBack) fun n => ?_
  rintro ⟨_, heq, _⟩
  cases heq

/-- A list of names. -/
def Snapshot.Form.names (names : List TypeName) : Form := .list (names.map TypeName.form)

theorem readBack_names (names : List TypeName) :
    ReadBack (.names names) (encodeNames names) decodeTypeNames names :=
  ReadBack.list fun n _ => n.readBack

theorem readBack_namesOption (names : Option (List TypeName)) :
    ReadBack (.option Form.names names) (ofOption encodeNames names)
      (fun room => decodeOption (decodeTypeNames room)) names := by
  refine ReadBack.option (fun names _ => readBack_names names) fun names => ?_
  rintro ⟨_, heq, _⟩
  cases heq

/-! ## Pairs -/

namespace Snapshot

section

variable {α β : Type} {first second : String} {form₁ form₂ : Form} {written₁ written₂ : Document}
  {decode₁ : Document → Decoded α} {decode₂ : Nat → Document → Decoded β} {x : α} {y : β}

theorem reads_pair (h₁ : ReadBack form₁ written₁ (fun _ => decode₁) x)
    (h₂ : ReadBack form₂ written₂ decode₂ y) (hne : first ≠ second) {inside : Nat}
    (hinside₁ : written₁.nesting ≤ inside) (hinside₂ : written₂.nesting ≤ inside) :
    ReadsFields [.required first form₁, .required second form₂]
      (readPairMember first second decode₁ decode₂ inside)
      (fun seen => (slot seen first x, slot seen second y)) where
  field := by
    refine List.forall_mem_cons.2 ⟨fun seen d hfresh hd => ?_, List.forall_mem_cons.2
      ⟨fun seen d hfresh hd => ?_, List.forall_mem_nil _⟩⟩
    · have hfill := h₁.fill first hinside₁ hfresh hd
      simp [readPairMember, hfill, slot_cons_of_ne hne.symm]
    · have hfill := h₂.fill second hinside₂ hfresh hd
      simp [readPairMember, hfill, slot_cons_of_ne hne, hne.symm]
  other hother hd := by
    simp only [List.forall_mem_cons, Field.name_required] at hother
    simp [readPairMember, hother, skip_of_sound hd]

/-- A record of two required fields. -/
theorem readBack_pair (h₁ : ReadBack form₁ written₁ (fun _ => decode₁) x)
    (h₂ : ReadBack form₂ written₂ decode₂ y) (hne : first ≠ second) (label : String) :
    ReadBack (.record [.required first form₁, .required second form₂])
      (ofFields [(first, written₁), (second, written₂)])
      (decodePair label first second decode₁ decode₂) (x, y) := by
  refine ReadBack.record (fun seen => (slot seen first x, slot seen second y)) rfl ?names ?written
    (fun inside hinside => ?reads) (fun seen hseen => ?finish)
  case names => simp [hne]
  case written => exact .cons ⟨rfl, h₁.holds⟩ (.cons ⟨rfl, h₂.holds⟩ .nil)
  case reads =>
    simp only [List.forall_mem_cons] at hinside
    exact reads_pair h₁ h₂ hne hinside.1 hinside.2.1
  case finish =>
    simp only [List.forall_mem_cons, Field.name_required, Field.mayOmit_required,
      or_false] at hseen
    simp [demand_slot hseen.1, demand_slot hseen.2.1]

end

end Snapshot

/-! ## Types -/

namespace TypeRef

mutual

/-- The form of a type. -/
def form : TypeRef → Form
  | .primitive name => .variant "primitive" (.text name)
  | .named name => .variant "class" name.form
  | .applied raw args =>
    .variant "parameterized"
      (.record [.required "raw" raw.form, .required "args" (.list (forms args))])
  | .array component => .variant "array" component.form
  | .bounded name bound =>
    .variant "variable"
      (.record [.required "name" (.text name), .required "bound" bound.form])

/-- The forms of a list of types. -/
def forms : List TypeRef → List Form
  | [] => []
  | ty :: rest => ty.form :: forms rest

end

theorem forms_eq_map (tys : List TypeRef) : forms tys = tys.map form := by
  induction tys with
  | nil => rfl
  | cons ty rest ih => rw [forms, ih, List.map_cons]

theorem toDocuments_eq_map (tys : List TypeRef) : toDocuments tys = tys.map toDocument := by
  induction tys with
  | nil => rfl
  | cons ty rest ih => rw [toDocuments, ih, List.map_cons]

theorem not_form_null (ty : TypeRef) : ¬ ty.form.Holds .null := by
  cases ty <;> rintro ⟨_, _, heq, _⟩ <;> cases heq

/-- A type is read back if what stands under the key of its form is. -/
theorem readBack_of_form {key : String} {payload : Form} {written : Document} {ty : TypeRef}
    {decode : Nat → Document → Decoded TypeRef} (h : ReadBack payload written decode ty)
    (hform : ∀ inside, decodeTypeForm decodeTypeRef inside key = .ok (decode inside)) :
    ReadBack (.variant key payload) (ofFields [(key, written)]) decodeTypeRef ty := by
  rw [decodeTypeRef_eq]
  exact h.variant hform

mutual

theorem readBack : ∀ ty : TypeRef, ReadBack ty.form ty.toDocument decodeTypeRef ty
  | .primitive name => readBack_of_form ((ReadBack.text name).map TypeRef.primitive) fun _ => rfl
  | .named name => readBack_of_form (name.readBack.map TypeRef.named) fun _ => rfl
  | .applied raw args => by
    have hargs : ReadBack (.list (forms args)) (ofList (toDocuments args))
        (fun room => decodeList room decodeTypeRef) args := by
      rw [forms_eq_map, toDocuments_eq_map]
      exact ReadBack.list (readBacks args)
    have hpair := readBack_pair raw.readBack hargs (by decide : "raw" ≠ "args") appliedLabel
    exact readBack_of_form (hpair.map fun p => TypeRef.applied p.1 p.2) fun _ => rfl
  | .array component => readBack_of_form (component.readBack.map TypeRef.array) fun _ => rfl
  | .bounded name bound => by
    have hpair := readBack_pair (ReadBack.text name) bound.readBack
      (by decide : "name" ≠ "bound") boundedLabel
    exact readBack_of_form (hpair.map fun p => TypeRef.bounded p.1 p.2) fun _ => rfl

theorem readBacks : ∀ tys : List TypeRef, ∀ ty ∈ tys,
    ReadBack ty.form ty.toDocument decodeTypeRef ty
  | [] => List.forall_mem_nil _
  | ty :: rest => List.forall_mem_cons.2 ⟨ty.readBack, readBacks rest⟩

end

theorem readBack_list (tys : List TypeRef) :
    ReadBack (.list (tys.map form)) (ofList (tys.map toDocument))
      (fun room => decodeList room decodeTypeRef) tys :=
  ReadBack.list (readBacks tys)

theorem readBack_option (ty : Option TypeRef) :
    ReadBack (.option form ty) (ofOption toDocument ty)
      (fun room => decodeOption (decodeTypeRef room)) ty :=
  ReadBack.option (fun ty _ => ty.readBack) not_form_null

end TypeRef

/-! ## Declarations -/

/-- The form of a kind is its name. -/
def ClassKind.form : ClassKind → Form
  | .concrete => .text "class"
  | .interface => .text "interface"

theorem ClassKind.readBack (kind : ClassKind) :
    ReadBack kind.form kind.toDocument decodeClassKind kind := by
  cases kind
  all_goals
    refine ⟨⟨_, rfl, StringToken.spells_ofChars _⟩, ?_⟩
    rintro room _ ⟨t, rfl, ht⟩ _
    show (t.decodeText >>= kindNamed) = _
    rw [ht.decodeText]
    rfl

def TypeParam.form (p : TypeParam) : Form :=
  .record [.required "name" (.text p.name), .required "bound" p.bound.form]

theorem TypeParam.readBack (p : TypeParam) :
    ReadBack p.form p.toDocument decodeTypeParam p :=
  (readBack_pair (ReadBack.text p.name) p.bound.readBack (by decide : "name" ≠ "bound")
    "struct TypeParam").map fun q => TypeParam.mk q.1 q.2

def FieldDecl.form (f : FieldDecl) : Form :=
  .record [.required "name" (.text f.name), .required "ty" f.ty.form]

theorem FieldDecl.readBack (f : FieldDecl) :
    ReadBack f.form f.toDocument decodeFieldDecl f :=
  (readBack_pair (ReadBack.text f.name) f.ty.readBack (by decide : "name" ≠ "ty")
    "struct FieldDecl").map fun q => FieldDecl.mk q.1 q.2

namespace MethodDecl

/-- The fields of a method. -/
def fieldForms (m : MethodDecl) : List Field :=
  [.required "name" (.text m.name),
   .optional "params" (.list (m.params.map TypeRef.form)) m.params [],
   .optional "returns" (.option TypeRef.form m.returns) m.returns none]

def form (m : MethodDecl) : Form := .record m.fieldForms

/-- The fields that have been read. -/
def slots (m : MethodDecl) (seen : List String) : PartialMethod where
  name := slot seen "name" m.name
  params := slot seen "params" m.params
  returns := slot seen "returns" m.returns

theorem reads_fields (m : MethodDecl) {inside : Nat}
    (hparams : (ofList (m.params.map TypeRef.toDocument)).nesting ≤ inside)
    (hreturns : (ofOption TypeRef.toDocument m.returns).nesting ≤ inside) :
    ReadsFields m.fieldForms (readMethodMember inside) m.slots where
  field := by
    refine List.forall_mem_cons.2 ⟨fun seen d hfresh hd => ?name, List.forall_mem_cons.2
      ⟨fun seen d hfresh hd => ?params, List.forall_mem_cons.2
      ⟨fun seen d hfresh hd => ?returns, List.forall_mem_nil _⟩⟩⟩
    case name =>
      have hfill := (ReadBack.text m.name).fill "name" (Nat.zero_le inside) hfresh hd
      simp [readMethodMember, slots, slot_cons_of_ne, hfill]
    case params =>
      have hfill := (TypeRef.readBack_list m.params).fill "params" hparams hfresh hd
      simp [readMethodMember, slots, slot_cons_of_ne, hfill]
    case returns =>
      have hfill := (TypeRef.readBack_option m.returns).fill "returns" hreturns hfresh hd
      simp [readMethodMember, slots, slot_cons_of_ne, hfill]
  other hother hd := by
    simp only [fieldForms, List.forall_mem_cons, Field.name_required, Field.name_optional] at hother
    simp [readMethodMember, hother, skip_of_sound hd]

theorem readBack (m : MethodDecl) : ReadBack m.form m.toDocument decodeMethodDecl m := by
  refine ReadBack.record m.slots rfl ?names ?written (fun inside hinside => ?reads)
    (fun seen hseen => ?finish)
  case names => simp [fieldForms]
  case written =>
    exact .cons ⟨rfl, (ReadBack.text m.name).holds⟩
      (.cons ⟨rfl, (TypeRef.readBack_list m.params).holds⟩
      (.cons ⟨rfl, (TypeRef.readBack_option m.returns).holds⟩ .nil))
  case reads =>
    simp only [List.forall_mem_cons] at hinside
    obtain ⟨_, hparams, hreturns, _⟩ := hinside
    exact m.reads_fields hparams hreturns
  case finish =>
    simp only [fieldForms, List.forall_mem_cons, Field.name_required, Field.mayOmit_required,
      Field.name_optional, Field.mayOmit_optional, or_false] at hseen
    obtain ⟨hname, hparams, hreturns, _⟩ := hseen
    simp [slots, demand_slot hname, getD_slot hparams, getD_slot hreturns]

end MethodDecl

namespace ClassDecl

/-- The fields of a declaration. -/
def fieldForms (c : ClassDecl) : List Field :=
  [.required "name" c.name.form,
   .optional "kind" c.kind.form c.kind .concrete,
   .optional "superclass" (.option TypeName.form c.superclass) c.superclass none,
   .optional "interfaces" (.names c.interfaces) c.interfaces [],
   .optional "type_params" (.list (c.typeParams.map TypeParam.form)) c.typeParams [],
   .optional "fields" (.list (c.fields.map FieldDecl.form)) c.fields [],
   .optional "methods" (.list (c.methods.map MethodDecl.form)) c.methods [],
   .optional "group_sequence" (.option Form.names c.groupSequence) c.groupSequence none]

def form (c : ClassDecl) : Form := .record c.fieldForms

/-- The fields that have been read. -/
def slots (c : ClassDecl) (seen : List String) : PartialClass where
  name := slot seen "name" c.name
  kind := slot seen "kind" c.kind
  superclass := slot seen "superclass" c.superclass
  interfaces := slot seen "interfaces" c.interfaces
  typeParams := slot seen "type_params" c.typeParams
  fields := slot seen "fields" c.fields
  methods := slot seen "methods" c.methods
  groupSequence := slot seen "group_sequence" c.groupSequence

theorem reads_fields (c : ClassDecl) {inside : Nat}
    (hkind : c.kind.toDocument.nesting ≤ inside)
    (hsuperclass : (ofOption TypeName.toDocument c.superclass).nesting ≤ inside)
    (hinterfaces : (encodeNames c.interfaces).nesting ≤ inside)
    (htypeParams : (ofList (c.typeParams.map TypeParam.toDocument)).nesting ≤ inside)
    (hfields : (ofList (c.fields.map FieldDecl.toDocument)).nesting ≤ inside)
    (hmethods : (ofList (c.methods.map MethodDecl.toDocument)).nesting ≤ inside)
    (hgroupSequence : (ofOption encodeNames c.groupSequence).nesting ≤ inside) :
    ReadsFields c.fieldForms (readClassMember inside) c.slots where
  field := by
    refine List.forall_mem_cons.2 ⟨fun seen d hfresh hd => ?name, List.forall_mem_cons.2
      ⟨fun seen d hfresh hd => ?kind, List.forall_mem_cons.2
      ⟨fun seen d hfresh hd => ?superclass, List.forall_mem_cons.2
      ⟨fun seen d hfresh hd => ?interfaces, List.forall_mem_cons.2
      ⟨fun seen d hfresh hd => ?typeParams, List.forall_mem_cons.2
      ⟨fun seen d hfresh hd => ?fields, List.forall_mem_cons.2
      ⟨fun seen d hfresh hd => ?methods, List.forall_mem_cons.2
      ⟨fun seen d hfresh hd => ?groupSequence, List.forall_mem_nil _⟩⟩⟩⟩⟩⟩⟩⟩
    case name =>
      have hfill := c.name.readBack.fill "name" (Nat.zero_le inside) hfresh hd
      simp [readClassMember, slots, slot_cons_of_ne, hfill]
    case kind =>
      have hfill := c.kind.readBack.fill "kind" hkind hfresh hd
      simp [readClassMember, slots, slot_cons_of_ne, hfill]
    case superclass =>
      have hfill := (TypeName.readBack_option c.superclass).fill "superclass" hsuperclass hfresh hd
      simp [readClassMember, slots, slot_cons_of_ne, hfill]
    case interfaces =>
      have hfill := (readBack_names c.interfaces).fill "interfaces" hinterfaces hfresh hd
      simp [readClassMember, slots, slot_cons_of_ne, hfill]
    case typeParams =>
      have hfill := (ReadBack.list fun p _ => TypeParam.readBack p).fill
        "type_params" htypeParams hfresh hd
      simp [readClassMember, slots, slot_cons_of_ne, hfill]
    case fields =>
      have hfill := (ReadBack.list fun f _ => FieldDecl.readBack f).fill "fields" hfields hfresh hd
      simp [readClassMember, slots, slot_cons_of_ne, hfill]
    case methods =>
      have hfill := (ReadBack.list fun m _ => MethodDecl.readBack m).fill
        "methods" hmethods hfresh hd
      simp [readClassMember, slots, slot_cons_of_ne, hfill]
    case groupSequence =>
      have hfill := (readBack_namesOption c.groupSequence).fill
        "group_sequence" hgroupSequence hfresh hd
      simp [readClassMember, slots, slot_cons_of_ne, hfill]
  other hother hd := by
    simp only [fieldForms, List.forall_mem_cons, Field.name_required, Field.name_optional] at hother
    simp [readClassMember, hother, skip_of_sound hd]

theorem readBack (c : ClassDecl) : ReadBack c.form c.toDocument decodeClassDecl c := by
  refine ReadBack.record c.slots rfl ?names ?written (fun inside hinside => ?reads)
    (fun seen hseen => ?finish)
  case names => simp [fieldForms]
  case written =>
    exact .cons ⟨rfl, c.name.readBack.holds⟩
      (.cons ⟨rfl, c.kind.readBack.holds⟩
      (.cons ⟨rfl, (TypeName.readBack_option c.superclass).holds⟩
      (.cons ⟨rfl, (readBack_names c.interfaces).holds⟩
      (.cons ⟨rfl, (ReadBack.list fun p _ => TypeParam.readBack p).holds⟩
      (.cons ⟨rfl, (ReadBack.list fun f _ => FieldDecl.readBack f).holds⟩
      (.cons ⟨rfl, (ReadBack.list fun m _ => MethodDecl.readBack m).holds⟩
      (.cons ⟨rfl, (readBack_namesOption c.groupSequence).holds⟩ .nil)))))))
  case reads =>
    simp only [List.forall_mem_cons] at hinside
    obtain ⟨_, hkind, hsuperclass, hinterfaces, htypeParams, hfields, hmethods,
      hgroupSequence, _⟩ := hinside
    exact c.reads_fields hkind hsuperclass hinterfaces htypeParams hfields hmethods hgroupSequence
  case finish =>
    simp only [fieldForms, List.forall_mem_cons, Field.name_required, Field.mayOmit_required,
      Field.name_optional, Field.mayOmit_optional, or_false] at hseen
    obtain ⟨hname, hkind, hsuperclass, hinterfaces, htypeParams, hfields, hmethods,
      hgroupSequence, _⟩ := hseen
    simp [slots, demand_slot hname, getD_slot hkind, getD_slot hsuperclass, getD_slot hinterfaces,
      getD_slot htypeParams, getD_slot hfields, getD_slot hmethods, getD_slot hgroupSequence]

end ClassDecl

/-! ## Descriptors -/

namespace ConstraintDecl

/-- The fields of a constraint. -/
def fieldForms (c : ConstraintDecl) : List Field :=
  [.required "annotation" c.constraint.form,
   .optional "groups" (.names c.groups) c.groups []]

def form (c : ConstraintDecl) : Form := .record c.fieldForms

/-- The fields that have been read. -/
def slots (c : ConstraintDecl) (seen : List String) : PartialConstraint where
  constraint := slot seen "annotation" c.constraint
  groups := slot seen "groups" c.groups

theorem reads_fields (c : ConstraintDecl) {inside : Nat}
    (hgroups : (encodeNames c.groups).nesting ≤ inside) :
    ReadsFields c.fieldForms (readConstraintMember inside) c.slots where
  field := by
    refine List.forall_mem_cons.2 ⟨fun seen d hfresh hd => ?constraint, List.forall_mem_cons.2
      ⟨fun seen d hfresh hd => ?groups, List.forall_mem_nil _⟩⟩
    case constraint =>
      have hfill := c.constraint.readBack.fill "annotation" (Nat.zero_le inside) hfresh hd
      simp [readConstraintMember, slots, slot_cons_of_ne, hfill]
    case groups =>
      have hfill := (readBack_names c.groups).fill "groups" hgroups hfresh hd
      simp [readConstraintMember, slots, slot_cons_of_ne, hfill]
  other hother hd := by
    simp only [fieldForms, List.forall_mem_cons, Field.name_required, Field.name_optional] at hother
    simp [readConstraintMember, hother, skip_of_sound hd]

theorem readBack (c : ConstraintDecl) : ReadBack c.form c.toDocument decodeConstraintDecl c := by
  refine ReadBack.record c.slots rfl ?names ?written (fun inside hinside => ?reads)
    (fun seen hseen => ?finish)
  case names => simp [fieldForms]
  case written =>
    exact .cons ⟨rfl, c.constraint.readBack.holds⟩
      (.cons ⟨rfl, (readBack_names c.groups).holds⟩ .nil)
  case reads =>
    simp only [List.forall_mem_cons] at hinside
    obtain ⟨_, hgroups, _⟩ := hinside
    exact c.reads_fields hgroups
  case finish =>
    simp only [fieldForms, List.forall_mem_cons, Field.name_required, Field.mayOmit_required,
      Field.name_optional, Field.mayOmit_optional, or_false] at hseen
    obtain ⟨hconstraint, hgroups, _⟩ := hseen
    simp [slots, demand_slot hconstraint, getD_slot hgroups]

end ConstraintDecl

namespace PropertyDescriptor

/-- The fields of a property. -/
def fieldForms (p : PropertyDescriptor) : List Field :=
  [.required "name" (.text p.name),
   .optional "cascaded" (.bool p.cascaded) p.cascaded false,
   .required "element_class" p.elementClass.form,
   .optional "constraints" (.list (p.constraints.map ConstraintDecl.form)) p.constraints []]

def form (p : PropertyDescriptor) : Form := .record p.fieldForms

/-- The fields that have been read. -/
def slots (p : PropertyDescriptor) (seen : List String) : PartialProperty where
  name := slot seen "name" p.name
  cascaded := slot seen "cascaded" p.cascaded
  elementClass := slot seen "element_class" p.elementClass
  constraints := slot seen "constraints" p.constraints

theorem reads_fields (p : PropertyDescriptor) {inside : Nat}
    (helementClass : p.elementClass.toDocument.nesting ≤ inside)
    (hconstraints : (ofList (p.constraints.map ConstraintDecl.toDocument)).nesting ≤ inside) :
    ReadsFields p.fieldForms (readPropertyMember inside) p.slots where
  field := by
    refine List.forall_mem_cons.2 ⟨fun seen d hfresh hd => ?name, List.forall_mem_cons.2
      ⟨fun seen d hfresh hd => ?cascaded, List.forall_mem_cons.2
      ⟨fun seen d hfresh hd => ?elementClass, List.forall_mem_cons.2
      ⟨fun seen d hfresh hd => ?constraints, List.forall_mem_nil _⟩⟩⟩⟩
    case name =>
      have hfill := (ReadBack.text p.name).fill "name" (Nat.zero_le inside) hfresh hd
      simp [readPropertyMember, slots, slot_cons_of_ne, hfill]
    case cascaded =>
      have hfill := (ReadBack.bool p.cascaded).fill "cascaded" (Nat.zero_le inside) hfresh hd
      simp [readPropertyMember, slots, slot_cons_of_ne, hfill]
    case elementClass =>
      have hfill := p.elementClass.readBack.fill "element_class" helementClass hfresh hd
      simp [readPropertyMember, slots, slot_cons_of_ne, hfill]
    case constraints =>
      have hfill := (ReadBack.list fun c _ => ConstraintDecl.readBack c).fill
        "constraints" hconstraints hfresh hd
      simp [readPropertyMember, slots, slot_cons_of_ne, hfill]
  other hother hd := by
    simp only [fieldForms, List.forall_mem_cons, Field.name_required, Field.name_optional] at hother
    simp [readPropertyMember, hother, skip_of_sound hd]

theorem readBack (p : PropertyDescriptor) :
    ReadBack p.form p.toDocument decodePropertyDescriptor p := by
  refine ReadBack.record p.slots rfl ?names ?written (fun inside hinside => ?reads)
    (fun seen hseen => ?finish)
  case names => simp [fieldForms]
  case written =>
    exact .cons ⟨rfl, (ReadBack.text p.name).holds⟩
      (.cons ⟨rfl, (ReadBack.bool p.cascaded).holds⟩
      (.cons ⟨rfl, p.elementClass.readBack.holds⟩
      (.cons ⟨rfl, (ReadBack.list fun c _ => ConstraintDecl.readBack c).holds⟩ .nil)))
  case reads =>
    simp only [List.forall_mem_cons] at hinside
    obtain ⟨_, _, helementClass, hconstraints, _⟩ := hinside
    exact p.reads_fields helementClass hconstraints
  case finish =>
    simp only [fieldForms, List.forall_mem_cons, Field.name_required, Field.mayOmit_required,
      Field.name_optional, Field.mayOmit_optional, or_false] at hseen
    obtain ⟨hname, hcascaded, helementClass, hconstraints, _⟩ := hseen
    simp [slots, demand_slot hname, getD_slot hcascaded, demand_slot helementClass,
      getD_slot hconstraints]

end PropertyDescriptor

namespace BeanDescriptor

/-- The fields of a descriptor. -/
def fieldForms (b : BeanDescriptor) : List Field :=
  [.required "bean" b.bean.form,
   .optional "class_constraints" (.list (b.classConstraints.map ConstraintDecl.form))
     b.classConstraints [],
   .optional "properties" (.list (b.properties.map PropertyDescriptor.form)) b.properties []]

def form (b : BeanDescriptor) : Form := .record b.fieldForms

/-- The fields that have been read. -/
def slots (b : BeanDescriptor) (seen : List String) : PartialBean where
  bean := slot seen "bean" b.bean
  classConstraints := slot seen "class_constraints" b.classConstraints
  properties := slot seen "properties" b.properties

theorem reads_fields (b : BeanDescriptor) {inside : Nat}
    (hclassConstraints :
      (ofList (b.classConstraints.map ConstraintDecl.toDocument)).nesting ≤ inside)
    (hproperties : (ofList (b.properties.map PropertyDescriptor.toDocument)).nesting ≤ inside) :
    ReadsFields b.fieldForms (readBeanMember inside) b.slots where
  field := by
    refine List.forall_mem_cons.2 ⟨fun seen d hfresh hd => ?bean, List.forall_mem_cons.2
      ⟨fun seen d hfresh hd => ?classConstraints, List.forall_mem_cons.2
      ⟨fun seen d hfresh hd => ?properties, List.forall_mem_nil _⟩⟩⟩
    case bean =>
      have hfill := b.bean.readBack.fill "bean" (Nat.zero_le inside) hfresh hd
      simp [readBeanMember, slots, slot_cons_of_ne, hfill]
    case classConstraints =>
      have hfill := (ReadBack.list fun c _ => ConstraintDecl.readBack c).fill
        "class_constraints" hclassConstraints hfresh hd
      simp [readBeanMember, slots, slot_cons_of_ne, hfill]
    case properties =>
      have hfill := (ReadBack.list fun p _ => PropertyDescriptor.readBack p).fill
        "properties" hproperties hfresh hd
      simp [readBeanMember, slots, slot_cons_of_ne, hfill]
  other hother hd := by
    simp only [fieldForms, List.forall_mem_cons, Field.name_required, Field.name_optional] at hother
    simp [readBeanMember, hother, skip_of_sound hd]

theorem readBack (b : BeanDescriptor) : ReadBack b.form b.toDocument decodeBeanDescriptor b := by
  refine ReadBack.record b.slots rfl ?names ?written (fun inside hinside => ?reads)
    (fun seen hseen => ?finish)
  case names => simp [fieldForms]
  case written =>
    exact .cons ⟨rfl, b.bean.readBack.holds⟩
      (.cons ⟨rfl, (ReadBack.list fun c _ => ConstraintDecl.readBack c).holds⟩
      (.cons ⟨rfl, (ReadBack.list fun p _ => PropertyDescriptor.readBack p).holds⟩ .nil))
  case reads =>
    simp only [List.forall_mem_cons] at hinside
    obtain ⟨_, hclassConstraints, hproperties, _⟩ := hinside
    exact b.reads_fields hclassConstraints hproperties
  case finish =>
    simp only [fieldForms, List.forall_mem_cons, Field.name_required, Field.mayOmit_required,
      Field.name_optional, Field.mayOmit_optional, or_false] at hseen
    obtain ⟨hbean, hclassConstraints, hproperties, _⟩ := hseen
    simp [slots, demand_slot hbean, getD_slot hclassConstraints, getD_slot hproperties]

end BeanDescriptor

end ValidatorForge
