import ValidatorForge.Discovery.Cascade
import ValidatorForge.Spec.Basic
import ValidatorForge.Validation.Validator

/-!
# A sample fleet

Machines, robots and scouts, each a subtype of the one before.  A fleet has robots and a robot
belongs to a fleet, so that cascades between the two go round in a circle.  Depots can be resolved,
but no validator can name them.
-/

namespace ValidatorForge.Sample

open Validation

def machineType : TypeName := ⟨"acme.Machine"⟩

def robotType : TypeName := ⟨"acme.Robot"⟩

def scoutType : TypeName := ⟨"acme.Scout"⟩

def fleetType : TypeName := ⟨"acme.Fleet"⟩

/-- A type whose package is no module path of the emitted language. -/
def depotType : TypeName := ⟨"acme.crate.Depot"⟩

def fleetTypes : List TypeName := [machineType, robotType, scoutType, fleetType]

/-- The declarations of the fleet. -/
def fleetDeclarations : TypeUniverse :=
  TypeUniverse.platform.insertAll
    [.ofClass machineType,
     ((ClassDecl.ofClass robotType).withSuperclass machineType).withField "fleet"
       (.named fleetType),
     (ClassDecl.ofClass scoutType).withSuperclass robotType,
     (ClassDecl.ofClass fleetType).withField "robots" (.array (.named robotType)),
     .ofClass depotType]

/-- The constraints of the fleet: the cascades, and nothing else. -/
def fleetTable : DescriptorTable :=
  DescriptorTable.ofList
    [.mk machineType [] [],
     (BeanDescriptor.mk robotType [] []).withProperty (.intoCascade "fleet" (.named fleetType)),
     .mk scoutType [] [],
     (BeanDescriptor.mk fleetType [] []).withProperty
       (.intoCascade "robots" (.array (.named robotType))),
     .mk depotType [] []]

/-- The host of the fleet.  Of its containers only arrays are unwrapped. -/
def fleetHost : Host := ⟨fleetDeclarations, fleetTable.toEngine, []⟩

/-- The fleet with an engine that knows no robots, and with the standard containers. -/
def robotlessHost : Host :=
  ⟨fleetDeclarations, fleetTable.toEngine.refusing [(robotType, .missing robotType)],
    GeneratorConfig.defaultContainers⟩

/-- The spec of a validator for machines and robots, with the machines listed first and twice. -/
def fleetSpec : GenerationSpec :=
  (GenerationSpec.ofTargets (.plain "FleetValidator") machineType
    [robotType, machineType]).withConfig { GeneratorConfig.standard with containers := [] }

/-- The spec of a validator for depots. -/
def depotSpec : GenerationSpec :=
  GenerationSpec.ofTargets (.plain "DepotsValidator") depotType []

/-! ## Classes -/

def machineHandle : ClassHandle := .make "acme.Machine" none []

def robotHandle : ClassHandle := .make "acme.Robot" (some machineHandle) []

def scoutHandle : ClassHandle := .make "acme.Scout" (some robotHandle) []

/-- The class of a type of the fleet. -/
def fleetClass (ty : TypeName) : ClassHandle :=
  if ty = robotType then robotHandle
  else if ty = scoutType then scoutHandle
  else .make ty.text none []

/-! ## Validators -/

/-- The validator of a type without constraints. -/
def lenientValidator {ν : Type} : BeanValidator ν where
  constraints _ := default
  validate _ _ _ := .ok []
  validateProperty _ _ _ _ := .ok []
  validateValue _ _ _ _ _ := .ok []

/-- A dispatcher linked with classes whose types have no constraints. -/
def lenientlyLinked {ν : Type} (classOf : TypeName → ClassHandle) (d : Dispatcher) :
    Validator ν where
  dispatcher := d
  classOf := classOf
  validatorOf _ := lenientValidator

end ValidatorForge.Sample
