import ValidatorForge.Dispatch.Dispatcher
import ValidatorForge.Validation.Context

/-!
# Running a dispatcher

What the emitted operations of a dispatcher do.  Each walks the branches in order and takes the
first whose guard holds: `validate` and `validateProperty` test for instances, `validateValue` and
`constraintsFor` for the very class, and `getProperty` for the very class and type of an object.
The emitted bodies answer the same (`Operation.run_validateBody` and its siblings).
-/

namespace ValidatorForge.Validation

/-- A dispatcher linked with the classes and the validators of its types. -/
structure Validator (ν : Type) where
  dispatcher : Dispatcher
  classOf : TypeName → ClassHandle
  validatorOf : TypeName → BeanValidator ν
  interpolator : MessageInterpolator := .standard
  traversable : TraversableResolver ν := .standard

namespace Validator

variable {ν : Type}

/-- The names of the dispatched types, most specific first. -/
def supported (v : Validator ν) : List String := v.dispatcher.supported.map (·.text)

/-- Registers a configured group. -/
def registerGroup (classOf : TypeName → ClassHandle) (g : GroupChain) : GroupStep → GroupChain
  | .group group parents => g.addGroup (classOf group) (parents.map classOf)
  | .sequence sequence members => g.addSequence (classOf sequence) (members.map classOf)

/-- The group chain of the validator. -/
def groups (v : Validator ν) : GroupChain :=
  (v.dispatcher.groups.map (·.step)).foldl (registerGroup v.classOf) {}

def unsupported {α : Type} (v : Validator ν) (found : ClassHandle) : Except ValidationError α :=
  .error (.unsupportedType found.name v.supported)

/-- The constraints that the validator of a branch reports. -/
def summaryOf (v : Validator ν) (b : Branch) : ConstraintSummary :=
  (v.validatorOf b.bean).constraints v.groups

/-- The context of a branch. -/
def context (v : Validator ν) (b : Branch) (rootClass : ClassHandle) (rootBean : Option (Bean ν)) :
    ValidationContext ν :=
  ⟨rootClass, rootBean, v.summaryOf b, v.interpolator, v.traversable, v.groups⟩

/-- The first branch of whose class the object is an instance. -/
def instanceBranch? (v : Validator ν) (bean : Bean ν) : Option Branch :=
  v.dispatcher.branches.find? fun b => bean.isInstanceOf (v.classOf b.bean)

/-- The first branch of exactly that class. -/
def classBranch? (v : Validator ν) (c : ClassHandle) : Option Branch :=
  v.dispatcher.branches.find? fun b => c == v.classOf b.bean

/-- Validates an object. -/
def validate (v : Validator ν) (bean : Bean ν) (groups : List ClassHandle) : Outcome :=
  match v.instanceBranch? bean with
  | some b =>
    (v.validatorOf b.bean).validate (v.context b (v.classOf b.bean) (some bean)) bean groups
  | none => v.unsupported bean.handle

/-- Validates one property of an object. -/
def validateProperty (v : Validator ν) (bean : Bean ν) (property : String)
    (groups : List ClassHandle) : Outcome :=
  match v.instanceBranch? bean with
  | some b =>
    (v.validatorOf b.bean).validateProperty (v.context b (v.classOf b.bean) (some bean)) bean
      property groups
  | none => v.unsupported bean.handle

/-- Validates a value for a property of a class. -/
def validateValue (v : Validator ν) (c : ClassHandle) (property : String) (value : ν)
    (groups : List ClassHandle) : Outcome :=
  match v.classBranch? c with
  | some b => (v.validatorOf b.bean).validateValue (v.context b c none) c property value groups
  | none => v.unsupported c

/-- The constraints of a class. -/
def constraintsFor (v : Validator ν) (c : ClassHandle) : Except ValidationError ConstraintSummary :=
  match v.classBranch? c with
  | some b => .ok (v.summaryOf b)
  | none => v.unsupported c

/-- Whether a reflected branch takes the object: by its class, and by the type that it can be read
as. -/
def reflects (v : Validator ν) (bean : Bean ν) (r : ReflectedBranch) : Bool :=
  bean.isExactly (v.classOf r.branch.bean) && bean.concrete == some r.branch.bean

/-- Reads a property of an object by its name. -/
def getProperty (v : Validator ν) (bean : Bean ν) (property : String) :
    Except ValidationError ν :=
  match v.dispatcher.reflected.find? (v.reflects bean) with
  | none => .error (.classNotReflected bean.handle.name)
  | some r =>
    match r.arms.find? (·.property == property) with
    | some arm => .ok (bean.call arm.method.text)
    | none => .error (.noSuchProperty (v.classOf r.branch.bean).name property)

end Validator

end ValidatorForge.Validation
