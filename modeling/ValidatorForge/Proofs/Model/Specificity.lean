import Mathlib.Tactic.ByContra
import ValidatorForge.Model.Specificity
import ValidatorForge.Proofs.Model.Subtyping

/-!
# The order of specificity

`orderBySpecificity` only moves the items (`orderBySpecificity_perm`), and it puts no item after one
of its strict supertypes (`specificFirst_orderBySpecificity`).  One insertion keeps that order by
transitivity: what stands behind the insertion point and is below the new item would be below the
item at that point too.

The order is stated without acyclicity: types that inherit from each other may stand in any order.
-/

namespace ValidatorForge

/-! ## One insertion -/

theorem insertBefore_perm {α : Type} (p : α → Bool) (x : α) (l : List α) :
    (insertBefore p x l).Perm (x :: l) := by
  induction l with
  | nil => exact List.Perm.refl _
  | cons y rest ih =>
    rw [insertBefore]
    split
    · exact List.Perm.refl _
    · exact (List.Perm.cons y ih).trans (List.Perm.swap x y rest)

namespace TypeUniverse

variable {u : TypeUniverse} {α : Type} {name : α → TypeName}

/-- A type inherits from another that does not inherit from it. -/
def StrictlyInherits (u : TypeUniverse) (sub sup : TypeName) : Prop :=
  u.Inherits sub sup ∧ ¬ u.Inherits sup sub

/-- No item stands after one of its strict supertypes. -/
def SpecificFirst (u : TypeUniverse) (name : α → TypeName) (items : List α) : Prop :=
  items.Pairwise fun x y => ¬ u.StrictlyInherits (name y) (name x)

theorem not_strictlyInherits_self (n : TypeName) : ¬ u.StrictlyInherits n n :=
  fun h => h.2 h.1

/-- An item that passed by another one is no strict subtype of it. -/
theorem not_strictlyInherits_of_not_proper {a b : TypeName}
    (h : u.isProperSubtype a b = false) : ¬ u.StrictlyInherits a b := by
  intro hab
  have hne : a ≠ b := by
    intro heq
    obtain rfl := heq
    exact not_strictlyInherits_self a hab
  rw [isProperSubtype_iff.2 ⟨hne, hab.1⟩] at h
  exact absurd h (by simp)

theorem specificFirst_insertBefore {placed : List α} (x : α)
    (h : u.SpecificFirst name placed) :
    u.SpecificFirst name
      (insertBefore (fun y => u.isProperSubtype (name x) (name y)) x placed) := by
  induction placed with
  | nil => exact List.pairwise_singleton _ _
  | cons y rest ih =>
    obtain ⟨hy, hrest⟩ := List.pairwise_cons.1 h
    rw [insertBefore]
    split
    · next hproper =>
      have hxy : u.Inherits (name x) (name y) := (isProperSubtype_iff.1 hproper).2
      refine List.pairwise_cons.2 ⟨fun z hz => ?_, h⟩
      intro hex
      obtain ⟨hzx, hxz⟩ := hex
      rcases List.mem_cons.1 hz with rfl | hz
      · exact hxz hxy
      · -- `z` is below `y` through `x`, so `y` has to be below `z`
        have hyz : u.Inherits (name y) (name z) := by
          by_contra hyz
          exact hy z hz ⟨hzx.trans hxy, hyz⟩
        exact hxz (hxy.trans hyz)
    · next hproper =>
      refine List.pairwise_cons.2 ⟨fun z hz => ?_, ih hrest⟩
      rcases List.mem_cons.1 ((insertBefore_perm _ x rest).mem_iff.1 hz) with rfl | hz
      · exact not_strictlyInherits_of_not_proper (by simpa using hproper)
      · exact hy z hz

/-! ## The whole order -/

private theorem foldl_insertBefore_perm (u : TypeUniverse) (name : α → TypeName)
    (items placed : List α) :
    (items.foldl
      (fun placed x => insertBefore (fun y => u.isProperSubtype (name x) (name y)) x placed)
      placed).Perm (items ++ placed) := by
  induction items generalizing placed with
  | nil => exact List.Perm.refl _
  | cons x rest ih =>
    refine (ih _).trans ?_
    exact ((insertBefore_perm _ x placed).append_left rest).trans List.perm_middle

/-- Ordering only moves the items. -/
theorem orderBySpecificity_perm (u : TypeUniverse) (name : α → TypeName) (items : List α) :
    (u.orderBySpecificity name items).Perm items := by
  have h := foldl_insertBefore_perm u name items []
  rwa [List.append_nil] at h

private theorem specificFirst_foldl (items placed : List α) (h : u.SpecificFirst name placed) :
    u.SpecificFirst name (items.foldl
      (fun placed x => insertBefore (fun y => u.isProperSubtype (name x) (name y)) x placed)
      placed) := by
  induction items generalizing placed with
  | nil => exact h
  | cons x rest ih => exact ih _ (specificFirst_insertBefore x h)

/-- Ordering puts no item after one of its strict supertypes. -/
theorem specificFirst_orderBySpecificity (u : TypeUniverse) (name : α → TypeName)
    (items : List α) : u.SpecificFirst name (u.orderBySpecificity name items) :=
  specificFirst_foldl items [] List.Pairwise.nil

/-- Of all items that pass a test, the first one in this order is strictly above none. -/
theorem SpecificFirst.not_strictlyInherits_find? {items : List α} {p : α → Bool} {x : α}
    (h : u.SpecificFirst name items) (hfind : items.find? p = some x) :
    ∀ y ∈ items, p y = true → ¬ u.StrictlyInherits (name y) (name x) := by
  obtain ⟨_, before, after, rfl, hbefore⟩ := List.find?_eq_some_iff_append.1 hfind
  intro y hy hpy
  rcases List.mem_append.1 hy with hy | hy
  · have hnot := hbefore y hy
    rw [hpy] at hnot
    exact absurd hnot (by simp)
  · rcases List.mem_cons.1 hy with rfl | hy
    · exact not_strictlyInherits_self _
    · exact List.rel_of_pairwise_cons (List.pairwise_append.1 h).2.1 hy

end TypeUniverse

end ValidatorForge
