import ValidatorForge.Model.TypeRef
import ValidatorForge.Snapshot.Decoder

/-!
# Declared types in snapshots

A type is an object with one member, whose key names its form.
-/

namespace ValidatorForge.Snapshot

def decodeTypeName (d : Document) : Decoded TypeName := TypeName.mk <$> decodeString d

def decodeTypeNames (room : Nat) (d : Document) : Decoded (List TypeName) :=
  decodeList room (fun _ => decodeTypeName) d

/-- The keys of the forms of a type. -/
def typeForms : List String := ["primitive", "class", "parameterized", "array", "variable"]

def appliedLabel := "struct variant TypeRef::Parameterized"

def boundedLabel := "struct variant TypeRef::Variable"

/-- A bare name is no type, not even when it is the name of a form. -/
def bareTypeForm (name : String) : Decoded TypeRef :=
  if name ∈ ["parameterized", "variable"] then
    reject (.invalidType "unit variant" "struct variant")
  else if name ∈ typeForms then
    reject (.invalidType "unit variant" "newtype variant")
  else reject (.unknownVariant name typeForms)

/-- Reads one member of a record of two fields. -/
def readPairMember {α β : Type} (first second : String) (decodeFirst : Document → Decoded α)
    (decodeSecond : Nat → Document → Decoded β) (room : Nat) (slots : Option α × Option β)
    (key : String) (d : Document) : Decoded (Option α × Option β) := do
  if key = first then return (← fill first slots.1 (decodeFirst d), slots.2)
  else if key = second then return (slots.1, ← fill second slots.2 (decodeSecond room d))
  else
    skip d
    return slots

/-- Decodes a record of two required fields. -/
def decodePair {α β : Type} (label : String) (first second : String)
    (decodeFirst : Document → Decoded α) (decodeSecond : Nat → Document → Decoded β)
    (room : Nat) : Document → Decoded (α × β) :=
  decodeRecord label room
    (fun room => do
      let a ← Row.required label 0 2 decodeFirst
      let b ← Row.required label 1 2 (decodeSecond room)
      return (a, b))
    (fun room members close => do
      let (a, b) ← readMembers (readPairMember first second decodeFirst decodeSecond room)
        (none, none) members close
      return (← demand first a, ← demand second b))

/-- Decodes what stands under the key of a form, with `inner` for the types inside it. -/
def decodeTypeForm (inner : Nat → Document → Decoded TypeRef) (inside : Nat) (form : String) :
    Decoded (Document → Decoded TypeRef) :=
  match form with
  | "primitive" => .ok fun d => TypeRef.primitive <$> decodeString d
  | "class" => .ok fun d => TypeRef.named <$> decodeTypeName d
  | "array" => .ok fun d => TypeRef.array <$> inner inside d
  | "parameterized" => .ok fun d => do
    let (raw, args) ← decodePair appliedLabel "raw" "args" decodeTypeName
      (fun inside => decodeList inside inner) inside d
    return .applied raw args
  | "variable" => .ok fun d => do
    let (name, bound) ← decodePair boundedLabel "name" "bound" decodeString inner inside d
    return .bounded name bound
  | name => reject (.unknownVariant name typeForms)

/-- Decodes a type.  The types inside it stand in an object, so there is less room for them. -/
def decodeTypeRef (room : Nat) (d : Document) : Decoded TypeRef :=
  let inner (inside : Nat) (d : Document) : Decoded TypeRef :=
    if _inside_lt : inside < room then decodeTypeRef inside d else fail .malformed
  decodeVariant room bareTypeForm (decodeTypeForm inner) d
termination_by room

/-! ## There is always less room inside -/

section

variable {α β : Type} {room : Nat}

theorem decodeList_congr {item item' : Nat → Document → Decoded α}
    (h : ∀ inside < room, item inside = item' inside) :
    decodeList room item = decodeList room item' := by
  funext d
  cases d with
  | array items close =>
    cases room with
    | zero => rfl
    | succ inside => simp only [decodeList, h inside (Nat.lt_succ_self inside)]
  | _ => rfl

theorem decodePair_congr {label first second : String} {decodeFirst : Document → Decoded α}
    {decodeSecond decodeSecond' : Nat → Document → Decoded β}
    (h : ∀ inside < room, decodeSecond inside = decodeSecond' inside) :
    decodePair label first second decodeFirst decodeSecond room =
      decodePair label first second decodeFirst decodeSecond' room := by
  funext d
  cases room with
  | zero => cases d <;> rfl
  | succ inside =>
    have hinside := h inside (Nat.lt_succ_self inside)
    have hmember : readPairMember first second decodeFirst decodeSecond inside =
        readPairMember first second decodeFirst decodeSecond' inside := by
      funext slots key d
      simp only [readPairMember, hinside]
    cases d <;> simp only [decodePair, decodeRecord, hinside, hmember]

theorem decodeTypeForm_congr {inner inner' : Nat → Document → Decoded TypeRef}
    (h : ∀ inside ≤ room, inner inside = inner' inside) :
    decodeTypeForm inner room = decodeTypeForm inner' room := by
  have hargs : decodePair appliedLabel "raw" "args" decodeTypeName
        (fun inside => decodeList inside inner) room =
      decodePair appliedLabel "raw" "args" decodeTypeName
        (fun inside => decodeList inside inner') room :=
    decodePair_congr fun inside hinside =>
      decodeList_congr fun deeper hdeeper => h deeper (by omega)
  have hbound : decodePair boundedLabel "name" "bound" decodeString inner room =
      decodePair boundedLabel "name" "bound" decodeString inner' room :=
    decodePair_congr fun inside hinside => h inside (by omega)
  funext form
  simp only [decodeTypeForm, h room (Nat.le_refl room), hargs, hbound]

theorem decodeVariant_congr {bare : String → Decoded α}
    {payload payload' : Nat → String → Decoded (Document → Decoded α)}
    (h : ∀ inside < room, payload inside = payload' inside) :
    decodeVariant room bare payload = decodeVariant room bare payload' := by
  funext d
  cases room with
  | zero => cases d <;> rfl
  | succ inside => cases d <;> simp only [decodeVariant, h inside (Nat.lt_succ_self inside)]

end

/-- The types inside a type are decoded like the type itself. -/
theorem decodeTypeRef_eq :
    decodeTypeRef = fun room => decodeVariant room bareTypeForm (decodeTypeForm decodeTypeRef) := by
  funext room d
  rw [decodeTypeRef]
  refine congrFun (decodeVariant_congr fun inside hinside => ?_) d
  refine decodeTypeForm_congr fun deeper hdeeper => ?_
  have hroom : deeper < room := by omega
  simp only [hroom, dif_pos]

end ValidatorForge.Snapshot
