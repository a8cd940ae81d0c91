import ValidatorForge.Snapshot.Document
import ValidatorForge.Snapshot.Error
import ValidatorForge.Text.Quoted

/-!
# Decoding documents

The combinators that read model values from documents.  `room` is the number of arrays and objects
that may still be opened inside each other; a snapshot may nest 127 of them.  A record may be
written as an object of its fields in any order or as an array of them in declared order.
-/

namespace ValidatorForge.Snapshot

/-- The outcome of decoding. -/
abbrev Decoded (α : Type) := Except SnapshotError α

/-- How many arrays and objects may be open at once. -/
def maxNesting : Nat := 127

def reject {α : Type} (m : Mismatch) : Decoded α := .error (.mismatch m)

def fail {α : Type} (f : Fault) : Decoded α := .error (.fault f)

def StringToken.decodeText (t : StringToken) : Decoded String :=
  match t.text with
  | .ok s => .ok s
  | .error f => fail f

/-! ## Single values -/

/-- How a value of the wrong kind is named. -/
def Document.describe : Document → Decoded String
  | .null => .ok "null"
  | .bool b => .ok s!"boolean {ticked (toString b)}"
  | .number n => match n.describe with
    | .ok s => .ok s
    | .error f => fail f
  | .string t => do return s!"string {Text.quoted (← t.decodeText)}"
  | .array _ _ => .ok "sequence"
  | .object _ _ => .ok "map"
  | .badScalar read _ => fail read
  | .bad f => fail f

/-- Reports a value of the wrong kind. -/
def mistyped {α : Type} (expected : String) (d : Document) : Decoded α := do
  reject (.invalidType (← d.describe) expected)

def decodeString : Document → Decoded String
  | .string t => t.decodeText
  | d => mistyped "a string" d

def decodeBool : Document → Decoded Bool
  | .bool b => .ok b
  | d => mistyped "a boolean" d

/-- `null` is no value; anything else is decoded. -/
def decodeOption {α : Type} (decode : Document → Decoded α) : Document → Decoded (Option α)
  | .null => .ok none
  | d => some <$> decode d

/-- Passes over a value that nobody asks for. -/
def skip (d : Document) : Decoded Unit :=
  match d.skipFault with
  | none => .ok ()
  | some f => fail f

/-! ## Lists -/

/-- The end of a list or object whose items are all read. -/
def Close.decode : Close → Decoded Unit
  | .closed => .ok ()
  | .open f | .afterComma f => fail f
  | .badKey _ => fail .malformed

/-- Decodes a list.  `item` gets the room that is left inside it. -/
def decodeList {α : Type} (room : Nat) (item : Nat → Document → Decoded α) :
    Document → Decoded (List α)
  | .array items close =>
    match room with
    | 0 => fail .malformed
    | room + 1 => do
      let values ← items.mapM (item room)
      close.decode
      return values
  | d => mistyped "a sequence" d

/-! ## Records as arrays -/

/-- The rest of a record that is written as an array. -/
structure Row where
  items : List Document
  close : Close

abbrev RowReader := StateT Row Decoded

/-- The next item, if there is one. -/
def Row.next : RowReader (Option Document) := fun row =>
  match row.items with
  | d :: rest => .ok (some d, { row with items := rest })
  | [] => do
    row.close.decode
    return (none, row)

/-- A field that has to be there; `index` fields stand before it. -/
def Row.required {α : Type} (label : String) (index count : Nat) (decode : Document → Decoded α) :
    RowReader α := do
  match ← Row.next with
  | some d => decode d
  | none => reject (.invalidLength index s!"{label} with {count} elements")

/-- A field that may be left off. -/
def Row.optional {α : Type} (default : α) (decode : Document → Decoded α) : RowReader α := do
  match ← Row.next with
  | some d => decode d
  | none => return default

/-- The end of a record: nothing may follow its last field. -/
def Row.finish (row : Row) : Decoded Unit :=
  match row.items, row.close with
  | [], .closed => .ok ()
  | [], .open f => fail f
  | _, _ => fail .malformed

/-! ## Records as objects -/

/-- Fills the slot of a field, once. -/
def fill {α : Type} (field : String) (slot : Option α) (value : Decoded α) :
    Decoded (Option α) :=
  match slot with
  | some _ => reject (.duplicateField field)
  | none => some <$> value

/-- The value of a field that has to be there. -/
def demand {α : Type} (field : String) : Option α → Decoded α
  | some x => .ok x
  | none => reject (.missingField field)

/-- Reads the members from left to right into a partial record. -/
def readMembers {σ : Type} (step : σ → String → Document → Decoded σ) (start : σ)
    (members : List (StringToken × Document)) (close : Close) : Decoded σ := do
  let r ← members.foldlM (fun r (key, d) => do step r (← key.decodeText) d) start
  close.decode
  return r

/-- Decodes a record.  `row` and `members` read its two written forms. -/
def decodeRecord {α : Type} (label : String) (room : Nat) (row : Nat → RowReader α)
    (members : Nat → List (StringToken × Document) → Close → Decoded α) :
    Document → Decoded α
  | .array items close =>
    match room with
    | 0 => fail .malformed
    | room + 1 => do
      let (r, rest) ← row room ⟨items, close⟩
      rest.finish
      return r
  | .object ms close =>
    match room with
    | 0 => fail .malformed
    | room + 1 => members room ms close
  | d => mistyped label d

/-! ## Variants -/

/-- Decodes a value that is written as an object with one member, whose key names the variant, or as
a bare name. -/
def decodeVariant {α : Type} (room : Nat) (bare : String → Decoded α)
    (payload : Nat → String → Decoded (Document → Decoded α)) : Document → Decoded α
  | .string t => do bare (← t.decodeText)
  | .object members close =>
    match room with
    | 0 => fail .malformed
    | room + 1 =>
      match members, close with
      | [], .badKey found => mistyped "variant identifier" found
      | [], .open f => fail f
      | [], _ => fail .malformed
      | (key, d) :: rest, close => do
        let decode ← payload room (← key.decodeText)
        let value ← decode d
        match rest, close with
        | [], .closed => return value
        | [], .open f => fail f
        | _, _ => fail .malformed
  | .bad f => fail f
  | _ => fail .malformed

/-! ## Texts -/

/-- Decodes a whole text.  After the value only blanks may stand. -/
def decodeText {α : Type} (decode : Nat → Document → Decoded α) (text : String) : Decoded α := do
  let (document, after) := Document.scan text
  let value ← decode maxNesting document
  match after with
  | none => return value
  | some f => fail f

end ValidatorForge.Snapshot
