import ValidatorForge.Dispatch.Operation
import ValidatorForge.Validation.Validator

/-!
# Running the operations of a dispatcher

What the bodies of the operations mean for a linked validator: an expression has a value, and a
block answers with one or ends without.  Both need the names that they read to be bound.
-/

namespace ValidatorForge

open Validation

namespace Operation

/-- What the expressions of a kind are at run time.  A builder is the chain that it has so far. -/
abbrev Kind.Meaning (ν : Type) : Kind → Type
  | .object => Bean ν
  | .handle => ClassHandle
  | .text => String
  | .value => ν
  | .groups => List ClassHandle
  | .names => List String
  | .builder => GroupChain
  | .chain => GroupChain
  | .summary => ConstraintSummary
  | .root => Option (Bean ν)
  | .interpolator => MessageInterpolator
  | .traversable => TraversableResolver ν
  | .context => ValidationContext ν
  | .validator => BeanValidator ν
  | .test => Bool
  | .violations => List ConstraintViolation
  | .result k => Except ValidationError (k.Meaning ν)

/-- The names that are bound, with their values. -/
structure Scope (ν : Type) where
  object : Option (Bean ν) := none
  beanType : Option ClassHandle := none
  clazz : Option ClassHandle := none
  propertyName : Option String := none
  value : Option ν := none
  groups : Option (List ClassHandle) := none
  context : Option (ValidationContext ν) := none
  bean : Option (Bean ν) := none

variable {ν : Type}

/-- The value of a name, if it is bound. -/
def Scope.get (s : Scope ν) {k : Kind} : Var k → Option (k.Meaning ν)
  | .object => s.object
  | .beanType => s.beanType
  | .clazz => s.clazz
  | .propertyName => s.propertyName
  | .value => s.value
  | .groups => s.groups
  | .context => s.context
  | .bean => s.bean

/-- The value of an expression, if its names are bound. -/
def Expr.eval (v : Validator ν) (s : Scope ν) {k : Kind} : Expr k → Option (k.Meaning ν)
  | .var x => s.get x
  | .classOf b => some (v.classOf b.bean)
  | .classOfObject object => return (← object.eval v s).handle
  | .nameOf handle => return (← handle.eval v s).name
  | .copyOf text => text.eval v s
  | .supportedTypes => some v.supported
  | .isInstanceOf object handle => return (← object.eval v s).isInstanceOf (← handle.eval v s)
  | .isExactly object handle => return (← object.eval v s).isExactly (← handle.eval v s)
  | .equal handle other => return (← handle.eval v s) == (← other.eval v s)
  | .builder => some ({} : GroupChain)
  | .register chain g => return Validator.registerGroup v.classOf (← chain.eval v s) g.step
  | .build chain => chain.eval v s
  | .groupsMetadata => some v.groups
  | .interpolator => some v.interpolator
  | .traversable => some v.traversable
  | .noObject => some none
  | .someObject object => return some (← object.eval v s)
  | .validatorOf b => some (v.validatorOf b.bean)
  | .constraints validator chain => return (← validator.eval v s).constraints (← chain.eval v s)
  | .newContext rootClass rootBean summary messages resolver chain => do
    return ⟨← rootClass.eval v s, ← rootBean.eval v s, ← summary.eval v s, ← messages.eval v s,
      ← resolver.eval v s, ← chain.eval v s⟩
  | .validate validator context object groups => do
    return (← validator.eval v s).validate (← context.eval v s) (← object.eval v s)
      (← groups.eval v s)
  | .validateProperty validator context object property groups => do
    return (← validator.eval v s).validateProperty (← context.eval v s) (← object.eval v s)
      (← property.eval v s) (← groups.eval v s)
  | .validateValue validator context handle property value groups => do
    return (← validator.eval v s).validateValue (← context.eval v s) (← handle.eval v s)
      (← property.eval v s) (← value.eval v s) (← groups.eval v s)
  | .ok e => return .ok (← e.eval v s)
  | .unsupportedType found supported =>
    return .error (.unsupportedType (← found.eval v s) (← supported.eval v s))
  | .noSuchProperty className property =>
    return .error (.noSuchProperty (← className.eval v s) (← property.eval v s))
  | .classNotReflected className => return .error (.classNotReflected (← className.eval v s))
  | .matchProperty property bean arms other => do
    let name ← property.eval v s
    match arms.find? (·.property == name) with
    | some arm => return .ok ((← bean.eval v s).call arm.method.text)
    | none => other.eval v s

/-- Runs `rest` after a statement that gave no answer. -/
def orElse {α : Type} (statement rest : Option (Option α)) : Option (Option α) := do
  match ← statement with
  | some answer => return some answer
  | none => rest

/-- The answer of a block, or that it ends without one, if its names are bound. -/
def Block.run (v : Validator ν) {k : Kind} : Block k → Scope ν → Option (Option (k.Meaning ν))
  | .nothing, _ => some none
  | .last e, s => (e.eval v s).map some
  | .returning e, s => (e.eval v s).map some
  | .letContext e rest, s => do rest.run v { s with context := some (← e.eval v s) }
  | .ifThen test body rest, s => do
    orElse (if ← test.eval v s then body.run v s else some none) (rest.run v s)
  | .ifReads b object body rest, s => do
    let bean ← object.eval v s
    orElse (if bean.concrete == some b.bean then body.run v { s with bean := some bean }
      else some none) (rest.run v s)

end Operation

end ValidatorForge
