import ValidatorForge.Discovery.ResolvedType
import ValidatorForge.Text.Quoted

/-!
# The history of a run

A run leaves a trace of what it did: the events that it logs, and its questions to the constraint
engine.  Both are kept in one list, in the order in which they happened.
-/

namespace ValidatorForge

inductive Level where
  | debug | info | warning
deriving DecidableEq, Repr

def Level.text : Level → String
  | debug => "DEBUG"
  | info => "INFO"
  | warning => "WARN"

/-- An event worth logging. -/
inductive Event where
  | cacheHit (ty : TypeName)
  | cacheMiss (ty : TypeName)
  /-- A property leads to a constrained type. -/
  | cascade (owner : TypeName) (property : String) (element : TypeName)
  /-- A container property leads to its element type. -/
  | containerCascade (owner : TypeName) (property : String) (element : TypeName) (via : Access)
  /-- A container property leads nowhere. -/
  | noAssociation (owner : TypeName) (property : String)
  /-- Of the many arguments of a container the last one counts. -/
  | lastArgument (container : TypeName) (arity : Nat)
  | alreadyClaimed (artifact : String)
  | artifactGenerated (artifact : String)
  | dispatchPlanned (ordered : List TypeName) (groups reflected : Nat)
  | runFinished (validator : String) (types : Nat)
deriving DecidableEq, Repr

namespace Event

def level : Event → Level
  | artifactGenerated _ | runFinished _ _ => .info
  | noAssociation _ _ => .warning
  | _ => .debug

def message : Event → String
  | cacheHit _ => "metadata cache hit"
  | cacheMiss _ => "metadata cache miss"
  | cascade _ _ _ => "cascade"
  | containerCascade _ _ _ _ => "container cascade"
  | noAssociation _ _ => "no field or getter declares an association type; skipping cascade"
  | lastArgument _ _ => "using last type argument"
  | alreadyClaimed _ => "artifact already claimed; skipping"
  | artifactGenerated _ => "artifact generated"
  | dispatchPlanned _ _ _ => "dispatch planned"
  | runFinished _ _ => "generation run finished"

/-- The named values of an event. -/
def fields : Event → List (String × String)
  | cacheHit ty | cacheMiss ty => [("ty", ty.text)]
  | cascade owner property element =>
    [("from", owner.text), ("property", property), ("to", element.text)]
  | containerCascade owner property element via =>
    [("from", owner.text), ("property", property), ("to", element.text), ("via", via.text)]
  | noAssociation owner property => [("ty", owner.text), ("property", property)]
  | lastArgument container arity => [("container", container.text), ("arity", toString arity)]
  | alreadyClaimed artifact | artifactGenerated artifact => [("artifact", artifact)]
  | dispatchPlanned ordered groups reflected =>
    [("ordered", Text.quotedList (ordered.map (·.text))), ("groups", toString groups),
     ("reflected", toString reflected)]
  | runFinished validator types => [("validator", validator), ("types", toString types)]

end Event

/-- Why the engine was asked about a type: to resolve it, or to see whether it is constrained. -/
inductive Inquiry where
  | fetch
  | probe
deriving DecidableEq, Repr

/-- One thing that happened. -/
inductive Occurrence where
  | logged (event : Event)
  | asked (purpose : Inquiry) (ty : TypeName)
deriving DecidableEq, Repr

/-- What happened, in order. -/
abbrev History := List Occurrence

namespace History

/-- The logged events. -/
def events (h : History) : List Event :=
  h.filterMap fun
    | .logged e => some e
    | .asked _ _ => none

/-- The types that the engine was asked about. -/
def questions (h : History) : List TypeName :=
  h.filterMap fun
    | .asked _ ty => some ty
    | .logged _ => none

end History

end ValidatorForge
