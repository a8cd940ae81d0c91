import ValidatorForge.Error
import ValidatorForge.Model.Universe
import ValidatorForge.Snapshot.BeanDescriptor
import ValidatorForge.Snapshot.ClassDecl

/-!
# Loading snapshots

The texts of model values, and the universe and the descriptor table that a snapshot fills.  A later
declaration or descriptor replaces an earlier one of its type.
-/

namespace ValidatorForge

open Snapshot

/-- Decodes a snapshot text. -/
def loadSnapshot {α : Type} (decode : Nat → Document → Decoded α) (text : String) :
    Except GenerateError α :=
  (decodeText decode text).mapError .malformedSnapshot

def TypeRef.ofSnapshot : String → Except GenerateError TypeRef := loadSnapshot decodeTypeRef

def MethodDecl.ofSnapshot : String → Except GenerateError MethodDecl :=
  loadSnapshot decodeMethodDecl

def ClassDecl.ofSnapshot : String → Except GenerateError ClassDecl := loadSnapshot decodeClassDecl

def BeanDescriptor.ofSnapshot : String → Except GenerateError BeanDescriptor :=
  loadSnapshot decodeBeanDescriptor

/-- A universe with the declarations of a snapshot on top of those it has. -/
def TypeUniverse.addSnapshot (u : TypeUniverse) (text : String) :
    Except GenerateError TypeUniverse :=
  u.insertAll <$> loadSnapshot (fun room => decodeList room decodeClassDecl) text

/-- The platform types and the declarations of a snapshot. -/
def TypeUniverse.ofSnapshot (text : String) : Except GenerateError TypeUniverse :=
  platform.addSnapshot text

/-- The table of the descriptors of a snapshot. -/
def DescriptorTable.ofSnapshot (text : String) : Except GenerateError DescriptorTable :=
  DescriptorTable.ofList <$> loadSnapshot (fun room => decodeList room decodeBeanDescriptor) text

end ValidatorForge
