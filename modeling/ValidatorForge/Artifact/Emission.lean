import ValidatorForge.Artifact.Sink
import ValidatorForge.Discovery.History

/-!
# Emitting an artifact

An artifact is claimed, written and committed.  The claim comes first: an artifact whose body cannot
be built keeps its name taken, and nothing is committed.
-/

namespace ValidatorForge

/-- An artifact to emit: its name, and its body if that can be built. -/
structure Artifact where
  package : String
  name : String
  body : Except GenerateError (List Source.Token)

def Artifact.qualifiedName (a : Artifact) : String := qualify a.package a.name

/-- The comment line at the head of an artifact. -/
def headerLine (qualified : String) : String :=
  s!"// @generated by bean-dispatch for {qualified}. Do not edit."

/-- Where a run leaves its artifacts and its history. -/
structure Output (σ : Type) where
  sink : σ
  history : History := []

namespace Output

variable {σ : Type}

def log (out : Output σ) (e : Event) : Output σ :=
  { out with history := out.history ++ [.logged e] }

def append (out : Output σ) (h : History) : Output σ := { out with history := out.history ++ h }

/-- Claims, writes and commits an artifact, and returns its qualified name.  A name that was claimed
before is returned as it is. -/
def emit [ArtifactSink σ] (out : Output σ) (a : Artifact) : Except GenerateError String × Output σ :=
  match ArtifactSink.claim out.sink a.package a.name with
  | none => (.ok a.qualifiedName, out.log (.alreadyClaimed a.qualifiedName))
  | some (writer, sink) =>
    match a.body with
    | .error e => (.error e, { out with sink })
    | .ok body =>
      let writer := (writer.writeLine (headerLine a.qualifiedName)).writeTokens body
      match ArtifactSink.commit sink writer with
      | (.error e, sink) => (.error e, { out with sink })
      | (.ok _, sink) =>
        (.ok a.qualifiedName, { out with sink }.log (.artifactGenerated a.qualifiedName))

end Output

end ValidatorForge
