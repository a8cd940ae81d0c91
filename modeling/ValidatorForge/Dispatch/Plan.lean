import ValidatorForge.Discovery.Resolve
import ValidatorForge.Model.Specificity
import ValidatorForge.Spec.Basic

/-!
# Dispatch plans

A plan is what a dispatching validator will contain: its target types with the most specific first,
its groups and group sequences, and the types with property access.
-/

namespace ValidatorForge

variable {σ : Type} [ArtifactSink σ]

/-- A configured validation group. -/
inductive GroupStep where
  /-- A plain group with the groups that it extends. -/
  | group (group : TypeName) (parents : List TypeName)
  /-- A group sequence with its members. -/
  | sequence (sequence : TypeName) (members : List TypeName)
deriving DecidableEq, Repr

namespace GroupStep

/-- The configured group. -/
def name : GroupStep → TypeName
  | group name _ | sequence name _ => name

/-- The groups that belong to it: parents or members. -/
def others : GroupStep → List TypeName
  | group _ others | sequence _ others => others

def isSequence : GroupStep → Bool
  | sequence _ _ => true
  | group _ _ => false

end GroupStep

/-- A type with property access. -/
structure ReflectedType where
  resolved : ResolvedType
  properties : List ReadableProperty

structure DispatchPlan where
  ordered : List ResolvedType
  groups : List GroupStep
  reflected : List ReflectedType

namespace DispatchPlan

/-- The target types, most specific first. -/
def orderedNames (p : DispatchPlan) : List TypeName := p.ordered.map (·.name)

/-- The group step of a declaration: a sequence if it has members of its own. -/
def groupStep (d : ClassDecl) (group : TypeName) : GroupStep :=
  match d.groupSequence with
  | some members => .sequence group members
  | none => .group group d.interfaces

/-- The group steps of configured groups, which must be declared. -/
def groupSteps (host : Host) (groups : List TypeName) : Except GenerateError (List GroupStep) :=
  groups.mapM fun group => return groupStep (← host.types.load group) group

/-- The types with their readable properties, most specific first. -/
def reflect (host : Host) (types : List ResolvedType) : List ReflectedType :=
  (host.types.orderBySpecificity ResolvedType.name types).map fun t =>
    ⟨t, t.readableProperties host.types⟩

/-- The event that reports a finished plan. -/
def event (p : DispatchPlan) : Event :=
  .dispatchPlanned p.orderedNames p.groups.length p.reflected.length

/-- Resolves and orders what a spec needs.  The targets are resolved first; the types with property
access are the listed ones, or else all that the cache then holds. -/
def build (spec : GenerationSpec) (host : Host) (p : Progress σ) :
    Except GenerateError DispatchPlan × Progress σ :=
  match host.resolveAll spec.targets.eraseDups p with
  | (.error e, p) => (.error e, p)
  | (.ok targets, p) =>
    match host.resolveAll spec.reflect.eraseDups p with
    | (.error e, p) => (.error e, p)
    | (.ok explicit, p) =>
      match groupSteps host spec.groups.eraseDups with
      | .error e => (.error e, p)
      | .ok groups =>
        let reflected := if explicit.isEmpty then p.cache.values else explicit.map (·.resolved)
        let plan : DispatchPlan :=
          { ordered :=
              host.types.orderBySpecificity ResolvedType.name (targets.map (·.resolved))
            groups
            reflected := reflect host reflected }
        (.ok plan, { p with output := p.output.log plan.event })

end DispatchPlan

end ValidatorForge
