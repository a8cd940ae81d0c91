import ValidatorForge.Artifact.Writer
import ValidatorForge.Data.OrderedMap
import ValidatorForge.Error

/-!
# Artifact sinks

A sink hands out one writer for each qualified name.  A name that was claimed before is not handed
out again, and an emitter takes that to mean that the artifact exists already.
-/

namespace ValidatorForge

/-- A destination of artifacts. -/
class ArtifactSink (σ : Type) where
  /-- Claims a name and opens its writer, unless the name was claimed before. -/
  claim : σ → (package name : String) → Option (ArtifactWriter × σ)
  /-- Stores a finished artifact. -/
  commit : σ → ArtifactWriter → Except GenerateError Unit × σ

/-- A set of names that only grows. -/
structure Claims where
  names : List String := []
deriving Repr, Inhabited, DecidableEq

namespace Claims

/-- Adds a name, unless it is there. -/
def add? (c : Claims) (name : String) : Option Claims :=
  if name ∈ c.names then none else some ⟨c.names ++ [name]⟩

/-- A writer for a name that was free. -/
def open? (c : Claims) (package name : String) : Option (ArtifactWriter × Claims) :=
  (c.add? (qualify package name)).map fun c => ({ package, name }, c)

end Claims

/-! ## Artifacts in memory -/

/-- Keeps committed sources in memory, in the order of their commits. -/
structure MemoryArtifacts where
  claims : Claims := {}
  committed : OrderedMap String String := .empty

namespace MemoryArtifacts

instance : Inhabited MemoryArtifacts := ⟨{}⟩

/-- The source committed under a qualified name. -/
def get? (m : MemoryArtifacts) (name : String) : Option String := m.committed.get? name

def contains (m : MemoryArtifacts) (name : String) : Bool := m.committed.contains name

/-- The names of the committed artifacts, in commit order. -/
def names (m : MemoryArtifacts) : List String := m.committed.keys

def size (m : MemoryArtifacts) : Nat := m.committed.size

def isEmpty (m : MemoryArtifacts) : Bool := m.committed.isEmpty

instance : ArtifactSink MemoryArtifacts where
  claim m package name :=
    (m.claims.open? package name).map fun (w, claims) => (w, { m with claims })
  commit m w := (.ok (), { m with committed := m.committed.insert w.qualifiedName w.source })

end MemoryArtifacts

end ValidatorForge
