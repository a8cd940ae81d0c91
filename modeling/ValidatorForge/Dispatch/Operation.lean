import ValidatorForge.Dispatch.Dispatcher

/-!
# The operations of a dispatcher

The bodies of the emitted operations, as syntax.  Every operation is a chain of class checks, one
for each branch in order, with an error at its end:

| Operation               | Guard                         | Error at the end                  |
|-------------------------|-------------------------------|-----------------------------------|
| `validate`              | the object is an instance     | the type is not supported         |
| `validate_property`     | the object is an instance     | the type is not supported         |
| `validate_value`        | the bean type is equal        | the type is not supported         |
| `constraints_for_class` | the class is equal            | the type is not supported         |
| `get_property`          | the object's class is equal   | no such property, not reflected   |

A branch names its type and its validator twice: by the type's name, which says what it stands for,
and by a path, which says how it is written.
-/

namespace ValidatorForge

open Source (Ident ModPath)

namespace Operation

/-- What an expression stands for. -/
inductive Kind where
  | object
  | handle
  | text
  | value
  | groups
  | names
  | builder
  | chain
  | summary
  | root
  | interpolator
  | traversable
  | context
  | validator
  | test
  | violations
  /-- What is named, or an error. -/
  | result (of : Kind)

/-- The parameters of the operations, and the names that their bodies bind. -/
inductive Var : Kind → Type
  | object : Var .object
  | beanType : Var .handle
  | clazz : Var .handle
  | propertyName : Var .text
  | value : Var .value
  | groups : Var .groups
  | context : Var .context
  | bean : Var .object

/-- Expressions of the emitted code. -/
inductive Expr : Kind → Type
  | var {k : Kind} (x : Var k) : Expr k
  /-- The class of a branch's type. -/
  | classOf (b : Branch) : Expr .handle
  | classOfObject (object : Expr .object) : Expr .handle
  | nameOf (handle : Expr .handle) : Expr .text
  | copyOf (text : Expr .text) : Expr .text
  /-- The names of all dispatched types. -/
  | supportedTypes : Expr .names
  | isInstanceOf (object : Expr .object) (handle : Expr .handle) : Expr .test
  | isExactly (object : Expr .object) (handle : Expr .handle) : Expr .test
  | equal (handle other : Expr .handle) : Expr .test
  | builder : Expr .builder
  /-- Registers a group or a sequence. -/
  | register (builder : Expr .builder) (g : GroupBranch) : Expr .builder
  | build (builder : Expr .builder) : Expr .chain
  /-- The group chain of the dispatcher. -/
  | groupsMetadata : Expr .chain
  | interpolator : Expr .interpolator
  | traversable : Expr .traversable
  | noObject : Expr .root
  | someObject (object : Expr .object) : Expr .root
  /-- The shared instance of a branch's validator. -/
  | validatorOf (b : Branch) : Expr .validator
  | constraints (validator : Expr .validator) (chain : Expr .chain) : Expr .summary
  | newContext (rootClass : Expr .handle) (rootBean : Expr .root) (summary : Expr .summary)
      (interpolator : Expr .interpolator) (traversable : Expr .traversable) (chain : Expr .chain) :
      Expr .context
  | validate (validator : Expr .validator) (context : Expr .context) (object : Expr .object)
      (groups : Expr .groups) : Expr (.result .violations)
  | validateProperty (validator : Expr .validator) (context : Expr .context)
      (object : Expr .object) (property : Expr .text) (groups : Expr .groups) :
      Expr (.result .violations)
  | validateValue (validator : Expr .validator) (context : Expr .context) (handle : Expr .handle)
      (property : Expr .text) (value : Expr .value) (groups : Expr .groups) :
      Expr (.result .violations)
  | ok {k : Kind} (e : Expr k) : Expr (.result k)
  | unsupportedType {k : Kind} (found : Expr .text) (supported : Expr .names) : Expr (.result k)
  | noSuchProperty {k : Kind} (className property : Expr .text) : Expr (.result k)
  | classNotReflected {k : Kind} (className : Expr .text) : Expr (.result k)
  /-- Calls the method of the arm of that property, or goes on with `other`. -/
  | matchProperty (property : Expr .text) (bean : Expr .object) (arms : List PropertyArm)
      (other : Expr (.result .value)) : Expr (.result .value)

/-- Statements of the emitted code, each with those that follow it. -/
inductive Block (k : Kind) where
  /-- Nothing follows. -/
  | nothing
  | last (e : Expr k)
  | returning (e : Expr k)
  | letContext (e : Expr .context) (rest : Block k)
  | ifThen (test : Expr .test) (body rest : Block k)
  /-- Binds the object if it can be read as the type of a branch. -/
  | ifReads (b : Branch) (object : Expr .object) (body rest : Block k)

/-! ## The bodies -/

/-- A check for each branch, in order, and an expression at the end. -/
def chain {β : Type} {k : Kind} (branches : List β) (test : β → Expr .test) (body : β → Block k)
    (last : Expr k) : Block k :=
  branches.foldr (fun b rest => .ifThen (test b) (body b) rest) (.last last)

/-- Binds the context of a branch: its root class, the object if there is one, and what the
validation of the branch consults. -/
def inContext {k : Kind} (b : Branch) (rootClass : Expr .handle) (rootBean : Expr .root)
    (answer : Expr k) : Block k :=
  .letContext (.newContext rootClass rootBean (.constraints (.validatorOf b) .groupsMetadata)
    .interpolator .traversable .groupsMetadata) (.returning answer)

/-- The error of a class without a branch. -/
def unsupported {k : Kind} (found : Expr .handle) : Expr (.result k) :=
  .unsupportedType (.nameOf found) .supportedTypes

def instanceTest (b : Branch) : Expr .test := .isInstanceOf (.var .object) (.classOf b)

def validateBody (branches : List Branch) : Block (.result .violations) :=
  chain branches instanceTest
    (fun b => inContext b (.classOf b) (.someObject (.var .object))
      (.validate (.validatorOf b) (.var .context) (.var .object) (.var .groups)))
    (unsupported (.classOfObject (.var .object)))

def validatePropertyBody (branches : List Branch) : Block (.result .violations) :=
  chain branches instanceTest
    (fun b => inContext b (.classOf b) (.someObject (.var .object))
      (.validateProperty (.validatorOf b) (.var .context) (.var .object) (.var .propertyName)
        (.var .groups)))
    (unsupported (.classOfObject (.var .object)))

def validateValueBody (branches : List Branch) : Block (.result .violations) :=
  chain branches (fun b => .equal (.var .beanType) (.classOf b))
    (fun b => inContext b (.var .beanType) .noObject
      (.validateValue (.validatorOf b) (.var .context) (.var .beanType) (.var .propertyName)
        (.var .value) (.var .groups)))
    (unsupported (.var .beanType))

def constraintsBody (branches : List Branch) : Block (.result .summary) :=
  chain branches (fun b => .equal (.var .clazz) (.classOf b))
    (fun b => .returning (.ok (.constraints (.validatorOf b) .groupsMetadata)))
    (unsupported (.var .clazz))

/-- Reads a property of an object of a branch's type. -/
def readArms (r : ReflectedBranch) : Expr (.result .value) :=
  .matchProperty (.var .propertyName) (.var .bean) r.arms
    (.noSuchProperty (.nameOf (.classOf r.branch)) (.copyOf (.var .propertyName)))

def getPropertyBody (reflected : List ReflectedBranch) : Block (.result .value) :=
  chain reflected (fun r => .isExactly (.var .object) (.classOf r.branch))
    (fun r => .ifReads r.branch (.var .object) (.returning (readArms r)) .nothing)
    (.classNotReflected (.nameOf (.classOfObject (.var .object))))

/-- The group chain with all groups registered, in order. -/
def groupsBody (groups : List GroupBranch) : Block .chain :=
  .last (.build (groups.foldl .register .builder))

end Operation

end ValidatorForge
