import ValidatorForge.Model.TypeName
import ValidatorForge.Validation.Error
import ValidatorForge.Validation.GroupChain

/-!
# Validation contexts

A validator binds a context for each call: the root class and bean, the constraint summary of the
matched type, and its collaborators.  It then hands the call to the validator of the matched type.
-/

namespace ValidatorForge.Validation

/-- An object under validation.  `concrete` is the emitted type whose methods it has; an object that
only claims its class has none.  `call` gives the value of each method. -/
structure Bean (ν : Type) where
  handle : ClassHandle
  concrete : Option TypeName
  call : String → ν

namespace Bean

variable {ν : Type}

/-- Whether the object is an instance of a class or of a subtype. -/
def isInstanceOf (b : Bean ν) (c : ClassHandle) : Bool := c.isAssignableFrom b.handle

/-- Whether the class of the object is exactly `c`. -/
def isExactly (b : Bean ν) (c : ClassHandle) : Bool := b.handle == c

end Bean

/-- The constraints of a type as they are known at run time. -/
structure ConstraintSummary where
  handle : ClassHandle
  constrainedProperties : List String
  beanConstrained : Bool
deriving Repr, Inhabited

def ConstraintSummary.isConstrained (s : ConstraintSummary) (property : String) : Bool :=
  s.constrainedProperties.contains property

/-- A failed constraint. -/
structure ConstraintViolation where
  rootClass : String
  path : String
  message : String
deriving DecidableEq, Repr

/-- Turns a message template and a property path into a message. -/
abbrev MessageInterpolator := (template path : String) → String

/-- The interpolator that returns templates as they are. -/
def MessageInterpolator.standard : MessageInterpolator := fun template _ => template

/-- The interpolator that puts the path in front of the template. -/
def MessageInterpolator.withPath : MessageInterpolator := fun template path => s!"{path}={template}"

/-- Decides which properties a validation may read and cascade into. -/
structure TraversableResolver (ν : Type) where
  isReachable : Option (Bean ν) → String → Bool
  isCascadable : Option (Bean ν) → String → Bool

namespace TraversableResolver

variable {ν : Type}

/-- The resolver that allows everything. -/
def standard : TraversableResolver ν := ⟨fun _ _ => true, fun _ _ => true⟩

/-- The resolver that denies the listed properties, and all cascades without an object. -/
def denying (properties : List String) : TraversableResolver ν where
  isReachable _ property := !properties.contains property
  isCascadable bean property := bean.isSome && !properties.contains property

end TraversableResolver

/-- What is bound for one call. -/
structure ValidationContext (ν : Type) where
  rootClass : ClassHandle
  /-- The object; there is none when a value is validated. -/
  rootBean : Option (Bean ν)
  summary : ConstraintSummary
  interpolator : MessageInterpolator
  traversable : TraversableResolver ν
  groups : GroupChain

/-- A violation at a path below the root. -/
def ValidationContext.violation {ν : Type} (c : ValidationContext ν) (path template : String) :
    ConstraintViolation :=
  ⟨c.rootClass.name, path, c.interpolator template path⟩

/-- The outcome of a validation. -/
abbrev Outcome := Except ValidationError (List ConstraintViolation)

/-- The validator of one type. -/
structure BeanValidator (ν : Type) where
  constraints : GroupChain → ConstraintSummary
  validate : ValidationContext ν → Bean ν → List ClassHandle → Outcome
  validateProperty :
    ValidationContext ν → Bean ν → (property : String) → List ClassHandle → Outcome
  validateValue :
    ValidationContext ν → ClassHandle → (property : String) → (value : ν) → List ClassHandle →
      Outcome

end ValidatorForge.Validation
