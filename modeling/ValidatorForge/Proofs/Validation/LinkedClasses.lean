import Mathlib.Data.Finset.Card
import ValidatorForge.Proofs.Validation.ClassHandle

/-!
# Classes linked as they are declared

The generator knows a hierarchy by its declarations, the run-time library by the links between class
handles.  `LinkedBy` says that the links are as declared: every type has one class, which bears its
name and links to the classes of its declared supertypes.

There are three groups.

* Acyclic hierarchies.  Going up in one loses ancestors (`Acyclic.ancestors_lt`), so it unfolds to
  finite handles (`handleOf`).
* Linked classes.  `LinkedBy.mirrors` brings them under the lemmas on single handles, and
  `LinkedBy.acyclic` says that a circle cannot be linked.
* The two tests.  A hierarchy can be linked exactly if it is acyclic, and then the walk over the
  links and the search in the declarations decide the same relation (`assignable_iff_subtype`).
-/

namespace ValidatorForge

open Relation Validation

namespace TypeUniverse

variable {u : TypeUniverse} {a b ty : TypeName}

/-! ## Acyclic hierarchies -/

/-- No chain of declarations leads from a type back to it. -/
def Acyclic (u : TypeUniverse) : Prop := ∀ ty, ¬ TransGen u.Extends ty ty

/-- The declared superclass of a type. -/
def superclass? (u : TypeUniverse) (ty : TypeName) : Option TypeName :=
  (u.find? ty).bind (·.superclass)

/-- The declared interfaces of a type; none if it is undeclared. -/
def interfacesOf (u : TypeUniverse) (ty : TypeName) : List TypeName :=
  ((u.find? ty).map (·.interfaces)).getD []

theorem directSupertypes_eq_append (u : TypeUniverse) (ty : TypeName) :
    u.directSupertypes ty = (u.superclass? ty).toList ++ u.interfacesOf ty := by
  unfold directSupertypes superclass? interfacesOf
  cases u.find? ty <;> rfl

theorem extends_of_superclass? (h : u.superclass? a = some b) : u.Extends a b := by
  rw [Extends, directSupertypes_eq_append, h]
  exact List.mem_append_left _ (List.mem_singleton.2 rfl)

theorem extends_of_mem_interfacesOf (h : b ∈ u.interfacesOf a) : u.Extends a b := by
  rw [Extends, directSupertypes_eq_append]
  exact List.mem_append_right _ h

/-- Where each declaration goes down in some measure, no chain of them comes back. -/
theorem acyclic_of_lt (measure : TypeName → Nat)
    (h : ∀ a b, u.Extends a b → measure b < measure a) : u.Acyclic := by
  have hchain : ∀ a b, TransGen u.Extends a b → measure b < measure a := by
    intro a b hab
    induction hab with
    | single hab => exact h _ _ hab
    | tail _ hbc ih =>
      have hlt := h _ _ hbc
      omega
  intro ty hcircle
  have hlt := hchain ty ty hcircle
  omega

/-- Only declared types extend others. -/
theorem mem_names_of_extends (h : u.Extends a b) : a ∈ u.names := by
  cases hfind : u.find? a with
  | some d => exact mem_names_of_find? hfind
  | none =>
    rw [Extends, directSupertypes_of_undeclared hfind] at h
    exact absurd h List.not_mem_nil

/-- A list of types that no declaration leads out of has all that its types inherit from. -/
theorem mem_of_inherits_of_closed {tys : List TypeName}
    (hclosed : ∀ a ∈ tys, ∀ b ∈ u.directSupertypes a, b ∈ tys) (ha : a ∈ tys)
    (h : u.Inherits a b) : b ∈ tys := by
  induction h with
  | refl => exact ha
  | tail _ hext ih => exact hclosed _ ih _ hext

/-- In an acyclic hierarchy a supertype has fewer ancestors: the subtype is none of them. -/
theorem Acyclic.ancestors_lt (h : u.Acyclic) (hab : u.Extends a b) :
    (u.ancestry b).toFinset.card < (u.ancestry a).toFinset.card := by
  apply Finset.card_lt_card
  constructor
  · intro n hn
    rw [List.mem_toFinset, mem_ancestry_iff] at hn ⊢
    exact ReflTransGen.head hab hn
  · intro hsubset
    have ha : a ∈ (u.ancestry a).toFinset := by
      rw [List.mem_toFinset, mem_ancestry_iff]
      exact ReflTransGen.refl
    have hback := hsubset ha
    rw [List.mem_toFinset, mem_ancestry_iff] at hback
    exact h a (TransGen.head' hab hback)

/-- The class that an acyclic hierarchy unfolds to at a type. -/
def handleOf (u : TypeUniverse) (h : u.Acyclic) (ty : TypeName) : ClassHandle :=
  .make ty.text ((u.superclass? ty).attach.map fun s => u.handleOf h s.1)
    ((u.interfacesOf ty).attach.map fun i => u.handleOf h i.1)
termination_by (u.ancestry ty).toFinset.card
decreasing_by
  · exact h.ancestors_lt (extends_of_superclass? s.2)
  · exact h.ancestors_lt (extends_of_mem_interfacesOf i.2)

theorem handleOf_eq (h : u.Acyclic) (ty : TypeName) :
    u.handleOf h ty = .make ty.text ((u.superclass? ty).map (u.handleOf h))
      ((u.interfacesOf ty).map (u.handleOf h)) := by
  rw [handleOf]
  simp

/-! ## Linked classes -/

/-- Each class bears the name of its type and links to the classes of the declared superclass and
interfaces.  The class of an undeclared type has no links. -/
structure LinkedBy (u : TypeUniverse) (classOf : TypeName → ClassHandle) : Prop where
  name : ∀ ty, (classOf ty).name = ty.text
  superclass : ∀ ty, (classOf ty).superclass = (u.superclass? ty).map classOf
  interfaces : ∀ ty, (classOf ty).interfaces = (u.interfacesOf ty).map classOf

/-- An acyclic hierarchy can be linked. -/
theorem Acyclic.linkedBy (h : u.Acyclic) : u.LinkedBy (u.handleOf h) := by
  constructor <;> intro ty <;> rw [handleOf_eq] <;> rfl

namespace LinkedBy

variable {classOf : TypeName → ClassHandle}

theorem type (h : u.LinkedBy classOf) (ty : TypeName) : (classOf ty).type = ty :=
  congrArg TypeName.mk (h.name ty)

theorem links (h : u.LinkedBy classOf) (ty : TypeName) :
    (classOf ty).links = (u.directSupertypes ty).map classOf := by
  rw [ClassHandle.links, h.superclass, h.interfaces, directSupertypes_eq_append, List.map_append,
    Option.toList_map]

theorem mirrorsDecl (h : u.LinkedBy classOf) (ty : TypeName) : (classOf ty).MirrorsDecl u := by
  have hname : ClassHandle.name ∘ classOf = TypeName.text := funext h.name
  constructor
  · rw [h.superclass, h.type, Option.map_map, hname]
    rfl
  · rw [h.interfaces, h.type, List.map_map, hname]
    rfl

/-- Links never leave the classes of types. -/
theorem exists_type_of_linksTo (h : u.LinkedBy classOf) {d : ClassHandle}
    (hlink : (classOf ty).LinksTo d) : ∃ sup, d = classOf sup := by
  induction hlink with
  | refl => exact ⟨ty, rfl⟩
  | tail _ hd ih =>
    obtain ⟨sup, rfl⟩ := ih
    rw [h.links] at hd
    obtain ⟨next, _, rfl⟩ := List.mem_map.1 hd
    exact ⟨next, rfl⟩

theorem mirrors (h : u.LinkedBy classOf) (ty : TypeName) : (classOf ty).Mirrors u := by
  intro d hlink
  obtain ⟨sup, rfl⟩ := h.exists_type_of_linksTo hlink
  exact h.mirrorsDecl sup

/-- Going up, linked classes get smaller, so they cannot come back. -/
theorem acyclic (h : u.LinkedBy classOf) : u.Acyclic := by
  apply acyclic_of_lt fun ty => sizeOf (classOf ty)
  intro a b hab
  apply ClassHandle.sizeOf_lt_of_mem_links
  rw [h.links]
  exact List.mem_map_of_mem hab

end LinkedBy

/-! ## The two tests -/

/-- A hierarchy can be linked exactly if it is acyclic.  Between the classes of a linked hierarchy
the run-time test decides subtyping as the generator does. -/
theorem assignable_iff_subtype (u : TypeUniverse) :
    (u.Acyclic ↔ ∃ classOf, u.LinkedBy classOf) ∧
    ∀ classOf, u.LinkedBy classOf → ∀ a b,
      (classOf b).isAssignableFrom (classOf a) = true ↔ u.isSubtype a b = true := by
  constructor
  · constructor
    · exact fun hacyclic => ⟨_, hacyclic.linkedBy⟩
    · intro hex
      obtain ⟨classOf, hlinked⟩ := hex
      exact hlinked.acyclic
  · intro classOf hlinked a b
    rw [(hlinked.mirrors a).isAssignableFrom_iff, hlinked.type, hlinked.type, isSubtype_iff]

/-- A diamond: an amphibian is a boat and a truck, which both are vehicles.  What vehicles extend is
not declared. -/
def amphibianDeclarations : TypeUniverse :=
  TypeUniverse.empty.insertAll
    [((ClassDecl.ofClass ⟨"acme.Amphibian"⟩).withSuperclass ⟨"acme.Truck"⟩).withInterface
       ⟨"acme.Boat"⟩,
     (ClassDecl.ofInterface ⟨"acme.Boat"⟩).withInterface ⟨"acme.Vehicle"⟩,
     (ClassDecl.ofClass ⟨"acme.Truck"⟩).withInterface ⟨"acme.Vehicle"⟩,
     (ClassDecl.ofInterface ⟨"acme.Vehicle"⟩).withInterface ⟨"java.io.Serializable"⟩]

/-- How many declarations at most lead up from a type of the diamond. -/
def amphibianRank (ty : TypeName) : Nat :=
  if ty = ⟨"acme.Amphibian"⟩ then 3
  else if ty = ⟨"acme.Boat"⟩ ∨ ty = ⟨"acme.Truck"⟩ then 2
  else if ty = ⟨"acme.Vehicle"⟩ then 1
  else 0

/-- The classes of the diamond can be linked.  The undeclared class at its top takes amphibians, and
trucks are no boats. -/
theorem amphibians_are_linked :
    ∃ classOf, amphibianDeclarations.LinkedBy classOf ∧
      (classOf ⟨"java.io.Serializable"⟩).isAssignableFrom (classOf ⟨"acme.Amphibian"⟩) = true ∧
      ¬ (classOf ⟨"acme.Boat"⟩).isAssignableFrom (classOf ⟨"acme.Truck"⟩) = true := by
  have hrank : ∀ a ∈ amphibianDeclarations.names, ∀ b ∈ amphibianDeclarations.directSupertypes a,
      amphibianRank b < amphibianRank a := by decide
  have hacyclic : amphibianDeclarations.Acyclic :=
    acyclic_of_lt amphibianRank fun a b hab => hrank a (mem_names_of_extends hab) b hab
  obtain ⟨hlinkable, hdecides⟩ := assignable_iff_subtype amphibianDeclarations
  obtain ⟨classOf, hlinked⟩ := hlinkable.1 hacyclic
  refine ⟨classOf, hlinked, ?_, ?_⟩
  · rw [hdecides classOf hlinked, isSubtype_iff]
    have htruck : amphibianDeclarations.Extends ⟨"acme.Amphibian"⟩ ⟨"acme.Truck"⟩ := by decide
    have hvehicle : amphibianDeclarations.Extends ⟨"acme.Truck"⟩ ⟨"acme.Vehicle"⟩ := by decide
    have htop : amphibianDeclarations.Extends ⟨"acme.Vehicle"⟩ ⟨"java.io.Serializable"⟩ := by decide
    exact ((ReflTransGen.single htruck).tail hvehicle).tail htop
  · rw [hdecides classOf hlinked, isSubtype_iff]
    intro hboat
    have habove : ∀ a ∈ [⟨"acme.Truck"⟩, ⟨"acme.Vehicle"⟩, ⟨"java.io.Serializable"⟩],
        ∀ b ∈ amphibianDeclarations.directSupertypes a,
          b ∈ [(⟨"acme.Truck"⟩ : TypeName), ⟨"acme.Vehicle"⟩, ⟨"java.io.Serializable"⟩] := by
      decide
    have hmem := mem_of_inherits_of_closed habove List.mem_cons_self hboat
    exact absurd hmem (by decide)

end TypeUniverse

end ValidatorForge
