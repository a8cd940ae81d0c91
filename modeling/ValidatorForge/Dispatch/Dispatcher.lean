import ValidatorForge.Dispatch.Plan

/-!
# Dispatchers

A dispatcher is a plan in the names of the emitted language: each type has a path to its class and
one to its validator, each property has the method that reads it.  A plan has a dispatcher only if
all its names can be spelled.
-/

namespace ValidatorForge

open Source (Ident ModPath)

/-- A type branch: the path of the type and that of its validator. -/
structure Branch where
  bean : TypeName
  type : ModPath
  marker : ModPath
deriving Repr

/-- A readable property with the method that reads it. -/
structure PropertyArm where
  property : String
  method : Ident
deriving Repr

/-- A type branch with property access. -/
structure ReflectedBranch where
  branch : Branch
  arms : List PropertyArm
deriving Repr

/-- A group or group sequence, with its path and those of the groups that belong to it. -/
structure GroupBranch where
  step : GroupStep
  group : ModPath
  others : List ModPath
deriving Repr

structure Dispatcher where
  spec : GenerationSpec
  branches : List Branch
  groups : List GroupBranch
  reflected : List ReflectedBranch

namespace Dispatcher

/-- The branch of a resolved type. -/
def branchOf (root : ModPath) (t : ResolvedType) : Except GenerateError Branch := do
  let type ← Naming.typePath root t.name
  let marker ← Naming.itemPath root t.outputPackage t.outputName
  return ⟨t.name, type, marker⟩

/-- The branch of a group step. -/
def groupOf (root : ModPath) (step : GroupStep) : Except GenerateError GroupBranch := do
  let group ← Naming.typePath root step.name
  let others ← step.others.mapM (Naming.typePath root)
  return ⟨step, group, others⟩

/-- The branch of a type with property access. -/
def reflectedOf (root : ModPath) (r : ReflectedType) : Except GenerateError ReflectedBranch := do
  let branch ← branchOf root r.resolved
  let arms ← r.properties.mapM fun p => return ⟨p.name, ← Naming.methodIdent p.getter⟩
  return ⟨branch, arms⟩

/-- The dispatcher of a plan. -/
def ofPlan (spec : GenerationSpec) (plan : DispatchPlan) : Except GenerateError Dispatcher := do
  let root := spec.config.root
  let branches ← plan.ordered.mapM (branchOf root)
  let groups ← plan.groups.mapM (groupOf root)
  let reflected ← plan.reflected.mapM (reflectedOf root)
  return { spec, branches, groups, reflected }

/-- The names of the dispatched types, in the order of their branches. -/
def supported (d : Dispatcher) : List TypeName := d.branches.map (·.bean)

end Dispatcher

end ValidatorForge
