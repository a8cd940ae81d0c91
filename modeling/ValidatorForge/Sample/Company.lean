import ValidatorForge.Dispatch.Generate
import ValidatorForge.Validation.Validator

/-!
# A sample company

A model of employees and managers, the dispatcher that is planned for it, and that dispatcher at
work.  The validators of the two types report what they were given, so that one can see which branch
a call has taken.
-/

namespace ValidatorForge.Sample

open Validation

/-! ## The model -/

private def acme (name : String) : TypeName := ⟨s!"com.acme.{name}"⟩

def employeeType : TypeName := acme "Employee"

def managerType : TypeName := acme "Manager"

private def textType : TypeRef := .named ⟨"java.lang.String"⟩

private def employeeList : TypeRef := .applied ⟨"java.util.List"⟩ [.named employeeType]

/-- The declarations of the company. -/
def declarations : TypeUniverse :=
  TypeUniverse.platform.insertAll
    [((((ClassDecl.ofClass employeeType).withField "name" textType).withField "active"
        (.primitive "boolean")).withGetter "getName" textType).withGetter "isActive"
        (.primitive "boolean"),
     (((((ClassDecl.ofClass managerType).withSuperclass employeeType).withField "salary"
        (.primitive "long")).withField "reports" employeeList).withGetter "getSalary"
        (.primitive "long")).withGetter "getReports" employeeList]

/-- The constraints of the company. -/
def table : DescriptorTable :=
  let constraint := fun name => ConstraintDecl.mk ⟨s!"javax.validation.constraints.{name}"⟩ []
  DescriptorTable.ofList
    [(BeanDescriptor.mk employeeType [] []).withProperty
       (.constrained "name" textType [constraint "NotNull"]),
     ((BeanDescriptor.mk managerType [] []).withProperty
       (.constrained "salary" (.primitive "long") [constraint "Min"])).withProperty
       (.intoCascade "reports" employeeList)]

/-- The spec of the company's validator. -/
def spec : Except GenerateError GenerationSpec :=
  GenerationSpec.create "AcmeValidator" [employeeType, managerType]

/-- The dispatcher that is planned for the company. -/
def dispatcher : Except GenerateError Dispatcher := do
  let spec ← spec
  let start : Progress MemoryArtifacts := ⟨{}, { sink := {} }⟩
  let plan ← (DispatchPlan.build spec (spec.host declarations table.toEngine) start).1
  Dispatcher.ofPlan spec plan

/-! ## Classes -/

/-- The classes of the company, with some that have no branch of their own. -/
inductive CompanyClass where
  | employee | manager | director | intern | proxy | room | defaultGroup
deriving DecidableEq, Repr

namespace CompanyClass

private def employeeHandle : ClassHandle := .make "com.acme.Employee" none []

private def managerHandle : ClassHandle := .make "com.acme.Manager" (some employeeHandle) []

def handle : CompanyClass → ClassHandle
  | employee => employeeHandle
  | manager => managerHandle
  | director => .make "com.acme.Director" (some managerHandle) []
  | intern => .make "com.acme.Intern" (some employeeHandle) []
  | proxy => .make "com.acme.Proxy" (some employeeHandle) [managerHandle]
  | room => .make "com.acme.Room" none []
  | defaultGroup => .make "javax.validation.groups.Default" none []

def all : List CompanyClass := [employee, manager, director, intern, proxy, room, defaultGroup]

/-- The class of that simple name. -/
def ofSimpleName? (name : String) : Option CompanyClass :=
  all.find? (·.handle.simpleName == name)

/-- The handle of a host type. -/
def handleOf (ty : TypeName) : ClassHandle :=
  ((all.map handle).find? (·.name == ty.text)).getD (.make ty.text none [])

end CompanyClass

/-! ## Objects -/

structure Employee where
  name : String := ""
  active : Bool := false
deriving DecidableEq, Repr

structure Manager extends Employee where
  salary : Int64 := 0
  reports : List Employee := []

/-- A value of a property, or a candidate for one. -/
inductive PropertyValue where
  | text (s : String)
  | truth (b : Bool)
  | number (n : Int64)
  | employees (list : List Employee)

def Employee.call (e : Employee) : String → PropertyValue
  | "get_name" => .text e.name
  | "is_active" => .truth e.active
  | _ => .number 0

def Manager.call (m : Manager) : String → PropertyValue
  | "get_salary" => .number m.salary
  | "get_reports" => .employees m.reports
  | method => m.toEmployee.call method

/-- An employee as an object. -/
def Employee.bean (e : Employee) : Bean PropertyValue :=
  ⟨CompanyClass.employee.handle, some employeeType, e.call⟩

/-- A manager as an object. -/
def Manager.bean (m : Manager) : Bean PropertyValue :=
  ⟨CompanyClass.manager.handle, some managerType, m.call⟩

/-- An object that only claims its class. -/
def claiming (c : CompanyClass) : Bean PropertyValue := ⟨c.handle, none, fun _ => .number 0⟩

/-! ## Validators that report what they see -/

/-- What a validator reports about a property: its tag and the expanded groups, whether the property
is constrained, denied or closed to cascades, and the object if there is one. -/
def report (tag : String) (context : ValidationContext PropertyValue)
    (bean : Option (Bean PropertyValue)) (property : String) (groups : List ClassHandle) :
    Outcome :=
  if property == "boom" then .error (.failed s!"{tag} exploded")
  else
    let expanded := String.intercalate "," ((context.groups.expand groups).map (·.name))
    let note := fun (applies : Bool) text =>
      if applies then [context.violation property text] else []
    let about := match bean, context.rootBean with
      | some bean, some root => [context.violation root.handle.simpleName bean.handle.name]
      | _, _ => []
    .ok (context.violation property s!"{tag} [{expanded}]" ::
      (note (property != "" && context.summary.isConstrained property) "constrained" ++
        note (!context.traversable.isReachable context.rootBean property) "unreachable" ++
        note (!context.traversable.isCascadable context.rootBean property) "not cascadable" ++
        about))

/-- The validator with that tag and those constrained properties.  It accepts any text that is not
empty. -/
def tagged (tag : String) (c : CompanyClass) (constrained : List String) :
    BeanValidator PropertyValue where
  constraints _ := ⟨c.handle, constrained, true⟩
  validate context bean groups := report tag context (some bean) "" groups
  validateProperty context bean property groups := report tag context (some bean) property groups
  validateValue context _ property value groups :=
    match value with
    | .text s => if s.isEmpty then report tag context none property groups else .ok []
    | _ => report tag context none property groups

def validatorOf (ty : TypeName) : BeanValidator PropertyValue :=
  if ty = managerType then tagged "manager" .manager ["reports", "salary"]
  else tagged "employee" .employee ["name"]

/-- The company's validator with its collaborators. -/
def validator (interpolator : MessageInterpolator) (traversable : TraversableResolver PropertyValue) :
    Except GenerateError (Validator PropertyValue) := do
  return { dispatcher := ← dispatcher, classOf := CompanyClass.handleOf, validatorOf,
           interpolator, traversable }

end ValidatorForge.Sample
