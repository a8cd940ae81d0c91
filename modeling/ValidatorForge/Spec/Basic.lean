import ValidatorForge.Naming
import ValidatorForge.Source.Declaration

/-!
# Generation specs

A spec says what one dispatching validator covers: its target types, its validation groups, the
types with property access, and the settings of the run.  It is built in code here, and read from
the text of a marker in `ValidatorForge.Spec.Marker`.
-/

namespace ValidatorForge

open Source (Ident ModPath Visibility)

/-! ## Settings -/

/-- The settings of a run. -/
structure GeneratorConfig where
  /-- The path of the run-time library. -/
  runtime : ModPath
  /-- The path below which host packages are modules. -/
  root : ModPath
  /-- The types whose subtypes are unwrapped to their elements. -/
  containers : List TypeName
deriving Repr

namespace GeneratorConfig

def defaultRuntime : ModPath := .global [.plain "bean_dispatch_core"]

def defaultRoot : ModPath := .ofIdent (.plain "crate")

def defaultContainers : List TypeName := [⟨"java.lang.Iterable"⟩, ⟨"java.util.Map"⟩]

/-- The settings where none are given. -/
def standard : GeneratorConfig := ⟨defaultRuntime, defaultRoot, defaultContainers⟩

/-- Whether the settings are the standard ones.  Paths are compared as they are printed. -/
def isStandard (c : GeneratorConfig) : Bool :=
  c.runtime.text == defaultRuntime.text && c.root.text == defaultRoot.text &&
    c.containers == defaultContainers

end GeneratorConfig

/-! ## Specs -/

/-- The group that is validated when none is configured. -/
def defaultGroup : TypeName := ⟨"javax.validation.groups.Default"⟩

/-- The groups, or the default group if there are none. -/
def orDefaultGroup (groups : List TypeName) : List TypeName :=
  if groups.isEmpty then [defaultGroup] else groups

/-- What one dispatching validator covers. -/
structure GenerationSpec where
  name : Ident
  visibility : Visibility
  package : String
  targets : List TypeName
  groups : List TypeName
  /-- The types with property access; none means every resolved type. -/
  reflect : List TypeName
  config : GeneratorConfig
deriving Repr

namespace GenerationSpec

/-- A spec over a first target and more, with the package of the first. -/
def ofTargets (name : Ident) (first : TypeName) (more : List TypeName) : GenerationSpec where
  name := name
  visibility := .everywhere
  package := first.package
  targets := first :: more
  groups := [defaultGroup]
  reflect := []
  config := .standard

/-- A spec of that name over the targets, of which there must be one. -/
def create (name : String) (targets : List TypeName) : Except GenerateError GenerationSpec := do
  let name ← Naming.ident name
  match targets with
  | first :: more => return ofTargets name first more
  | [] => throw (.invalidSpec [.noTargets])

/-- Replaces the groups. -/
def withGroups (s : GenerationSpec) (groups : List TypeName) : GenerationSpec :=
  { s with groups := orDefaultGroup groups }

/-- Replaces the types with property access. -/
def withReflect (s : GenerationSpec) (reflect : List TypeName) : GenerationSpec := { s with reflect }

/-- Replaces the package. -/
def withPackage (s : GenerationSpec) (package : String) : GenerationSpec := { s with package }

/-- Replaces the settings. -/
def withConfig (s : GenerationSpec) (config : GeneratorConfig) : GenerationSpec := { s with config }

/-- The path that a text spells. -/
def readPath (source : String) : Except GenerateError ModPath :=
  match ModPath.ofText? source with
  | some p => .ok p
  | none => .error .unreadableSource

/-- What a spec built in code may set besides its name and targets. -/
structure Settings where
  groups : Option (List TypeName) := none
  reflect : Option (List TypeName) := none
  package : Option String := none
  /-- The run-time path, as text. -/
  runtime : Option String := none
  /-- The root path, as text. -/
  root : Option String := none
  containers : Option (List TypeName) := none

/-- The value of an optional path text. -/
def pathOr (standard : ModPath) : Option String → Except GenerateError ModPath
  | some source => readPath source
  | none => .ok standard

/-- A spec of that name over the targets, with the settings that are given. -/
def build (name : String) (targets : List TypeName) (settings : Settings) :
    Except GenerateError GenerationSpec := do
  let s ← create name targets
  let s := (settings.groups.map s.withGroups).getD s
  let s := (settings.reflect.map s.withReflect).getD s
  let s := (settings.package.map s.withPackage).getD s
  let runtime ← pathOr s.config.runtime settings.runtime
  let root ← pathOr s.config.root settings.root
  return s.withConfig ⟨runtime, root, settings.containers.getD s.config.containers⟩

/-- The qualified name of the dispatching validator. -/
def qualifiedName (s : GenerationSpec) : String := qualify s.package s.name.text

end GenerationSpec

end ValidatorForge
