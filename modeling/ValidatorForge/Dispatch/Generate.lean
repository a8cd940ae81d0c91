import ValidatorForge.Dispatch.Render
import ValidatorForge.Spec.Marker

/-!
# Generating a dispatching validator

A run plans the dispatch on an empty cache, which emits the markers of all types that it resolves,
and then emits the validator itself.  After an error the validator is not committed; markers of
types resolved before may be.
-/

namespace ValidatorForge

variable {σ : Type} [ArtifactSink σ]

/-- The artifact of a dispatching validator. -/
def DispatchPlan.artifact (plan : DispatchPlan) (spec : GenerationSpec) : Artifact where
  package := spec.package
  name := spec.name.text
  body := (Dispatcher.ofPlan spec plan).map Dispatcher.tokens

/-- The host of a run with the settings of a spec. -/
def GenerationSpec.host (spec : GenerationSpec) (types : TypeUniverse) (engine : ConstraintEngine) :
    Host :=
  ⟨types, engine, spec.config.containers⟩

/-- Generates the validator of a spec and all markers that it needs, and returns the qualified name
of the validator. -/
def generate (spec : GenerationSpec) (types : TypeUniverse) (engine : ConstraintEngine)
    (output : Output σ) : Except GenerateError String × Output σ :=
  match DispatchPlan.build spec (spec.host types engine) ⟨{}, output⟩ with
  | (.error e, p) => (.error e, p.output)
  | (.ok plan, p) =>
    match p.output.emit (plan.artifact spec) with
    | (.error e, output) => (.error e, output)
    | (.ok name, output) => (.ok name, output.log (.runFinished name p.cache.size))

/-- Generates the validator that a marker text declares. -/
def generateFromMarker (source : String) (types : TypeUniverse) (engine : ConstraintEngine)
    (output : Output σ) : Except GenerateError String × Output σ :=
  match GenerationSpec.ofMarker source with
  | .error e => (.error e, output)
  | .ok spec => generate spec types engine output

end ValidatorForge
