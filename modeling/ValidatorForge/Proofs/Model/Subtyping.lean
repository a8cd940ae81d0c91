import Mathlib.Logic.Relation
import ValidatorForge.Model.Universe

/-!
# Subtyping as inheritance

`Extends` is the relation that the declarations state: a declared type extends its superclass and
its interfaces.  `Inherits` is its reflexive transitive closure.  The search behind
`TypeUniverse.isSubtype` decides it.

* `inherits_of_mem_visitFrom`: whatever the search visits is inherited from a pending name.
* `extends_closed_visitFrom`: what the search visits is closed under `Extends`, as soon as what was
  seen before it is closed up to the pending names.
* `isSubtype_iff` and `isProperSubtype_iff` put the two together.

No lemma here assumes that the hierarchy is acyclic, or that supertypes are declared.
-/

namespace ValidatorForge.TypeUniverse

open Relation

variable {u : TypeUniverse}

/-- A declared type extends its superclass and its interfaces. -/
def Extends (u : TypeUniverse) (sub sup : TypeName) : Prop := sup ∈ u.directSupertypes sub

instance (u : TypeUniverse) (sub sup : TypeName) : Decidable (u.Extends sub sup) :=
  inferInstanceAs (Decidable (sup ∈ u.directSupertypes sub))

/-- A type inherits from itself, and from every type that a chain of declarations leads to. -/
def Inherits (u : TypeUniverse) : TypeName → TypeName → Prop := ReflTransGen u.Extends

theorem directSupertypes_of_find? {name : TypeName} {d : ClassDecl}
    (h : u.find? name = some d) : u.directSupertypes name = d.supertypes := by
  rw [directSupertypes, h]

theorem directSupertypes_of_undeclared {name : TypeName} (h : u.find? name = none) :
    u.directSupertypes name = [] := by
  rw [directSupertypes, h]

/-- A type that extends nothing inherits from itself only. -/
theorem eq_of_inherits_of_nil {sub sup : TypeName} (hnone : u.directSupertypes sub = [])
    (h : u.Inherits sub sup) : sup = sub := by
  rcases h.cases_head with heq | ⟨next, hext, _⟩
  · exact heq.symm
  · rw [Extends, hnone] at hext
    exact absurd hext List.not_mem_nil

/-! ## What the search visits -/

/-- The search keeps what was seen before it. -/
theorem mem_visitFrom_of_seen (seen pending : List TypeName) :
    ∀ n ∈ seen, n ∈ u.visitFrom seen pending := by
  fun_induction visitFrom u seen pending with
  | case1 seen => exact fun n hn => hn
  | case2 seen name pending _ ih => exact ih
  | case3 seen name pending _ d _ ih => exact fun n hn => ih n (List.mem_cons_of_mem _ hn)
  | case4 seen name pending _ _ ih => exact fun n hn => ih n (List.mem_cons_of_mem _ hn)

/-- The search visits every pending name. -/
theorem mem_visitFrom_of_pending (seen pending : List TypeName) :
    ∀ n ∈ pending, n ∈ u.visitFrom seen pending := by
  fun_induction visitFrom u seen pending with
  | case1 seen => simp
  | case2 seen name pending hseen ih =>
    refine List.forall_mem_cons.2 ⟨?_, ih⟩
    exact mem_visitFrom_of_seen _ _ _ hseen
  | case3 seen name pending _ d _ ih =>
    refine List.forall_mem_cons.2 ⟨?_, fun n hn => ih n (List.mem_append_right _ hn)⟩
    exact mem_visitFrom_of_seen _ _ _ List.mem_cons_self
  | case4 seen name pending _ _ ih =>
    refine List.forall_mem_cons.2 ⟨?_, ih⟩
    exact mem_visitFrom_of_seen _ _ _ List.mem_cons_self

/-- A name that was just marked was pending, and inherits from itself. -/
private theorem inherits_of_mem_marked {name n : TypeName} {seen pending : List TypeName}
    (h : n ∈ name :: seen) : n ∈ seen ∨ ∃ m ∈ name :: pending, u.Inherits m n := by
  rcases List.mem_cons.1 h with rfl | hold
  · exact Or.inr ⟨n, List.mem_cons_self, ReflTransGen.refl⟩
  · exact Or.inl hold

/-- Whatever the search visits was seen before, or a pending name inherits from it. -/
theorem inherits_of_mem_visitFrom {n : TypeName} (seen pending : List TypeName)
    (h : n ∈ u.visitFrom seen pending) : n ∈ seen ∨ ∃ m ∈ pending, u.Inherits m n := by
  fun_induction visitFrom u seen pending with
  | case1 seen => exact Or.inl h
  | case2 seen name pending _ ih =>
    rcases ih h with hseen | ⟨m, hm, hinh⟩
    · exact Or.inl hseen
    · exact Or.inr ⟨m, List.mem_cons_of_mem _ hm, hinh⟩
  | case3 seen name pending _ d hfind ih =>
    rcases ih h with hseen | ⟨m, hm, hinh⟩
    · exact inherits_of_mem_marked hseen
    · rcases List.mem_append.1 hm with hsup | hpend
      · have hext : u.Extends name m := by
          rw [Extends, directSupertypes_of_find? hfind]
          exact hsup
        exact Or.inr ⟨name, List.mem_cons_self, ReflTransGen.head hext hinh⟩
      · exact Or.inr ⟨m, List.mem_cons_of_mem _ hpend, hinh⟩
  | case4 seen name pending _ _ ih =>
    rcases ih h with hseen | ⟨m, hm, hinh⟩
    · exact inherits_of_mem_marked hseen
    · exact Or.inr ⟨m, List.mem_cons_of_mem _ hm, hinh⟩

/-- No name is lost when the first pending one is marked and others are put in its place. -/
private theorem seen_or_pending_of_mark {name t : TypeName} {seen pending : List TypeName}
    (more : List TypeName) (h : t ∈ seen ∨ t ∈ name :: pending) :
    t ∈ name :: seen ∨ t ∈ more ++ pending := by
  rcases h with hseen | hpending
  · exact Or.inl (List.mem_cons_of_mem _ hseen)
  · rcases List.mem_cons.1 hpending with rfl | hrest
    · exact Or.inl List.mem_cons_self
    · exact Or.inr (List.mem_append_right _ hrest)

/-- If all supertypes of the seen names are seen or pending, then all supertypes of the visited
names are visited. -/
theorem extends_closed_visitFrom (seen pending : List TypeName)
    (hclosed : ∀ s ∈ seen, ∀ t, u.Extends s t → t ∈ seen ∨ t ∈ pending) :
    ∀ s ∈ u.visitFrom seen pending, ∀ t, u.Extends s t → t ∈ u.visitFrom seen pending := by
  fun_induction visitFrom u seen pending with
  | case1 seen =>
    intro s hs t hext
    rcases hclosed s hs t hext with h | h
    · exact h
    · simp at h
  | case2 seen name pending hseen ih =>
    refine ih fun s hs t hext => ?_
    rcases hclosed s hs t hext with h | h
    · exact Or.inl h
    · rcases List.mem_cons.1 h with rfl | hp
      · exact Or.inl hseen
      · exact Or.inr hp
  | case3 seen name pending _ d hfind ih =>
    refine ih fun s hs t hext => ?_
    rcases List.mem_cons.1 hs with rfl | hold
    · rw [Extends, directSupertypes_of_find? hfind] at hext
      exact Or.inr (List.mem_append_left _ hext)
    · exact seen_or_pending_of_mark _ (hclosed s hold t hext)
  | case4 seen name pending _ hfind ih =>
    refine ih fun s hs t hext => ?_
    rcases List.mem_cons.1 hs with rfl | hold
    · rw [Extends, directSupertypes_of_undeclared hfind] at hext
      simp at hext
    · exact seen_or_pending_of_mark [] (hclosed s hold t hext)

/-! ## Subtyping -/

/-- The ancestry of a type is what it inherits from. -/
theorem mem_ancestry_iff {name n : TypeName} : n ∈ u.ancestry name ↔ u.Inherits name n := by
  constructor
  · intro h
    rcases inherits_of_mem_visitFrom _ _ h with hseen | ⟨m, hm, hinh⟩
    · simp at hseen
    · rw [List.mem_singleton] at hm
      exact hm ▸ hinh
  · intro h
    induction h with
    | refl => exact mem_visitFrom_of_pending _ _ _ (List.mem_singleton.2 rfl)
    | tail _ hext ih => exact extends_closed_visitFrom [] [name] (by simp) _ ih _ hext

theorem isSubtype_iff {sub sup : TypeName} : u.isSubtype sub sup = true ↔ u.Inherits sub sup := by
  rw [isSubtype, List.contains_iff_mem, mem_ancestry_iff]

theorem isProperSubtype_iff {sub sup : TypeName} :
    u.isProperSubtype sub sup = true ↔ sub ≠ sup ∧ u.Inherits sub sup := by
  rw [isProperSubtype, Bool.and_eq_true, isSubtype_iff, bne_iff_ne]

end ValidatorForge.TypeUniverse
