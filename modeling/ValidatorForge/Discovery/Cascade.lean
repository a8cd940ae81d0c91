import ValidatorForge.Discovery.History

/-!
# Following cascades

What a resolved type leads to, as a list of steps: things to record and types to visit.  The steps
depend on the type, the declarations and the engine only, never on what was visited before.
-/

namespace ValidatorForge

/-- What a run consults: the declarations, the constraint engine, and the roots of the container
types. -/
structure Host where
  types : TypeUniverse
  engine : ConstraintEngine
  roots : List TypeName

/-- A step of discovery. -/
inductive Step where
  | record (o : Occurrence)
  | visit (ty : TypeName)
deriving DecidableEq, Repr

namespace Host

/-- Whether a cascade unwraps the property to its element type. -/
def unwraps (host : Host) (p : PropertyDescriptor) : Bool :=
  host.types.isContainer host.roots p.elementClass

/-- The type that a container property reaches through its field or getter. -/
def containerElement (host : Host) (owner : ResolvedType) (p : PropertyDescriptor) (via : Access) :
    Option TypeName :=
  (owner.associationElement host.types p.name via).bind (·.erasure)

/-- The steps through a property that is no container: the engine is asked about its type, which is
visited if it is constrained. -/
def plainSteps (host : Host) (owner : ResolvedType) (p : PropertyDescriptor) : List Step :=
  match p.elementClass.erasure with
  | none => []
  | some element =>
    .record (.asked .probe element) ::
      if host.engine.isConstrained element then
        [.record (.logged (.cascade owner.name p.name element)), .visit element]
      else []

/-- The steps through a container property as it is declared in one way. -/
def accessSteps (host : Host) (owner : ResolvedType) (p : PropertyDescriptor) (via : Access) :
    List Step :=
  let notes := match (owner.declaredType host.types p.name via).bind (·.manyArguments?) with
    | some (container, arity) => [.record (.logged (.lastArgument container arity))]
    | none => []
  let visits := match host.containerElement owner p via with
    | some element =>
      [.record (.logged (.containerCascade owner.name p.name element via)), .visit element]
    | none => []
  notes ++ visits

/-- The steps through a container property: through its field, then through its getter.  If neither
leads anywhere, that is recorded. -/
def containerSteps (host : Host) (owner : ResolvedType) (p : PropertyDescriptor) : List Step :=
  let missing := (host.containerElement owner p .field).isNone &&
    (host.containerElement owner p .getter).isNone
  host.accessSteps owner p .field ++ host.accessSteps owner p .getter ++
    if missing then [.record (.logged (.noAssociation owner.name p.name))] else []

/-- The steps through one cascaded property. -/
def propertySteps (host : Host) (owner : ResolvedType) (p : PropertyDescriptor) : List Step :=
  if host.unwraps p then host.containerSteps owner p else host.plainSteps owner p

/-- The steps through all cascaded properties, in their order. -/
def steps (host : Host) (owner : ResolvedType) : List Step :=
  owner.descriptor.cascadedProperties.flatMap (host.propertySteps owner)

end Host

end ValidatorForge
