import ValidatorForge.Snapshot.StringToken
import ValidatorForge.Text.Field

/-!
# Errors of reading a snapshot

A snapshot fails by a fault of its text or by a value that does not fit.  The first one in the order
of the text is reported.
-/

namespace ValidatorForge.Snapshot

/-- A value that does not fit its place. -/
inductive Mismatch where
  | invalidType (found expected : String)
  | unknownVariant (name : String) (known : List String)
  | missingField (name : String)
  | duplicateField (name : String)
  | invalidLength (count : Nat) (expected : String)
deriving DecidableEq, Repr

/-- A name between back quotes. -/
def ticked (name : String) : String := s!"\x60{name}\x60"

/-- The known names in a message: two of them are joined by "or". -/
def oneOf : List String → String
  | [a] => ticked a
  | [a, b] => s!"{ticked a} or {ticked b}"
  | names => s!"one of {Text.commaJoin (names.map ticked)}"

def Mismatch.message : Mismatch → String
  | .invalidType found expected => s!"invalid type: {found}, expected {expected}"
  | .unknownVariant name known => s!"unknown variant {ticked name}, expected {oneOf known}"
  | .missingField name => s!"missing field {ticked name}"
  | .duplicateField name => s!"duplicate field {ticked name}"
  | .invalidLength count expected => s!"invalid length {count}, expected {expected}"

/-- Why a snapshot could not be read. -/
inductive SnapshotError where
  | fault (f : Fault)
  | mismatch (m : Mismatch)
deriving DecidableEq, Repr

def SnapshotError.message : SnapshotError → String
  | .fault .malformed => "the text is not a document"
  | .fault .cutShort => "the text ends too early"
  | .mismatch m => m.message

end ValidatorForge.Snapshot
