import ValidatorForge.Text.Field

/-!
# Class handles

At run time a class is a handle with its name and links to its direct supertypes.  Handles are equal
if their names are; a class is assignable from another if it can be reached from it over the links.
-/

namespace ValidatorForge.Validation

/-- The handle of a class: its name, its superclass and its interfaces. -/
inductive ClassHandle where
  | make (name : String) (superclass : Option ClassHandle) (interfaces : List ClassHandle)
deriving Repr

namespace ClassHandle

def name : ClassHandle → String
  | make name _ _ => name

def superclass : ClassHandle → Option ClassHandle
  | make _ superclass _ => superclass

def interfaces : ClassHandle → List ClassHandle
  | make _ _ interfaces => interfaces

instance : Inhabited ClassHandle := ⟨make "" none []⟩

instance : BEq ClassHandle := ⟨fun a b => a.name == b.name⟩

theorem beq_iff {a b : ClassHandle} : (a == b) = true ↔ a.name = b.name :=
  beq_iff_eq (a := a.name)

instance : ToString ClassHandle := ⟨name⟩

/-- The name without its package. -/
def simpleName (c : ClassHandle) : String :=
  String.ofList (Text.lastField (· == '.') c.name.toList)

mutual

/-- Whether a class of that name can be reached from a handle. -/
def reaches (target : String) : ClassHandle → Bool
  | make name superclass interfaces =>
    name == target || reachesOption target superclass || reachesAny target interfaces

def reachesOption (target : String) : Option ClassHandle → Bool
  | none => false
  | some c => c.reaches target

def reachesAny (target : String) : List ClassHandle → Bool
  | [] => false
  | c :: rest => c.reaches target || reachesAny target rest

end

/-- Whether `other` is the class or one of its subtypes. -/
def isAssignableFrom (c other : ClassHandle) : Bool := other.reaches c.name

end ClassHandle

end ValidatorForge.Validation
