import ValidatorForge.Proofs.Validation.LinkedClasses

/-!
# What ordering leaves in place

`orderBySpecificity` moves an item to the front of the first of its supertypes that was placed
before it, and no further.  From this two things follow.

* Items without supertypes among the others are never moved, and nothing that is inserted later
  changes their order (`filter_isTopmost_orderBySpecificity`).  With the order of subtypes this is
  what the ordering does on any hierarchy, circles included (`orderBySpecificity_sorts`).
* A list in which no item stands after one of its supertypes is left as it is
  (`orderBySpecificity_eq_self`).  Where types do not inherit from each other, every ordered list is
  of that kind, so ordering it again changes nothing (`orderBySpecificity_idempotent`).  Two types
  in a circle change places each time (`orderBySpecificity_circle`).
-/

namespace ValidatorForge

open Relation

/-! ## One insertion -/

theorem insertBefore_eq_append {α : Type} {p : α → Bool} {l : List α} (x : α)
    (h : ∀ y ∈ l, p y = false) : insertBefore p x l = l ++ [x] := by
  induction l with
  | nil => rfl
  | cons y rest ih =>
    obtain ⟨hy, hrest⟩ := List.forall_mem_cons.1 h
    rw [insertBefore, if_neg (by simp [hy]), ih hrest, List.cons_append]

/-- An item that a filter drops may be inserted anywhere. -/
theorem filter_insertBefore {α : Type} {p q : α → Bool} {x : α} (hx : q x = false) (l : List α) :
    (insertBefore p x l).filter q = l.filter q := by
  induction l with
  | nil => simp [insertBefore, hx]
  | cons y rest ih =>
    rw [insertBefore]
    split
    · rw [List.filter_cons_of_neg (by simp [hx])]
    · rw [List.filter_cons, List.filter_cons, ih]

namespace TypeUniverse

variable {u : TypeUniverse} {α : Type} {name : α → TypeName}

/-! ## Topmost items -/

/-- Whether none of the items is a proper supertype of `x`. -/
def isTopmost (u : TypeUniverse) (name : α → TypeName) (items : List α) (x : α) : Bool :=
  items.all fun y => !u.isProperSubtype (name x) (name y)

theorem isTopmost_iff {items : List α} {x : α} :
    u.isTopmost name items x = true ↔ ∀ y ∈ items, u.isProperSubtype (name x) (name y) = false := by
  simp [isTopmost]

/-- Of the items placed so far and those still to be placed, the topmost ones stay in order. -/
private theorem filter_isTopmost_foldl {all items placed : List α} (h : ∀ x ∈ placed, x ∈ all) :
    (∀ x ∈ items, x ∈ all) →
    (items.foldl
      (fun placed x => insertBefore (fun y => u.isProperSubtype (name x) (name y)) x placed)
      placed).filter (u.isTopmost name all) =
    placed.filter (u.isTopmost name all) ++ items.filter (u.isTopmost name all) := by
  induction items generalizing placed with
  | nil =>
    intro _
    exact (List.append_nil _).symm
  | cons x rest ih =>
    intro hitems
    obtain ⟨hx, hrest⟩ := List.forall_mem_cons.1 hitems
    have hplaced : ∀ z ∈ insertBefore (fun y => u.isProperSubtype (name x) (name y)) x placed,
        z ∈ all := by
      intro z hz
      rcases List.mem_cons.1 ((insertBefore_perm _ x placed).mem_iff.1 hz) with rfl | hz
      · exact hx
      · exact h z hz
    rw [List.foldl_cons, ih hplaced hrest]
    by_cases htop : u.isTopmost name all x = true
    · have hlast : insertBefore (fun y => u.isProperSubtype (name x) (name y)) x placed =
          placed ++ [x] :=
        insertBefore_eq_append x fun y hy => isTopmost_iff.1 htop y (h y hy)
      rw [hlast, List.filter_append, List.filter_cons_of_pos htop, List.filter_cons_of_pos htop,
        List.filter_nil, List.append_assoc, List.singleton_append]
    · rw [filter_insertBefore (by simpa using htop), List.filter_cons_of_neg htop]

/-- Items without proper supertypes in the list keep their order. -/
theorem filter_isTopmost_orderBySpecificity (u : TypeUniverse) (name : α → TypeName)
    (items : List α) :
    (u.orderBySpecificity name items).filter (u.isTopmost name items) =
      items.filter (u.isTopmost name items) :=
  filter_isTopmost_foldl (List.forall_mem_nil _) fun _ hx => hx

/-! ## Any hierarchy -/

/-- In an order in which no item stands after one of its strict supertypes, it stands before all of
them. -/
theorem SpecificFirst.lt_of_strictlyInherits {items : List α} (h : u.SpecificFirst name items)
    {i j : Nat} (hi : i < items.length) (hj : j < items.length)
    (hij : u.StrictlyInherits (name items[i]) (name items[j])) : i < j := by
  rcases Nat.lt_trichotomy i j with hlt | rfl | hgt
  · exact hlt
  · exact absurd hij (not_strictlyInherits_self _)
  · exact absurd hij (List.pairwise_iff_getElem.1 h j i hj hi hgt)

/-- Ordering moves the items so that each stands before its strict supertypes, and keeps the order
of those that have no proper supertype among them.  The hierarchy may be anything. -/
theorem orderBySpecificity_sorts (u : TypeUniverse) (name : α → TypeName) (items : List α) :
    (u.orderBySpecificity name items).Perm items ∧
    (∀ i j, (hi : i < (u.orderBySpecificity name items).length) →
      (hj : j < (u.orderBySpecificity name items).length) →
      u.isProperSubtype (name (u.orderBySpecificity name items)[i])
        (name (u.orderBySpecificity name items)[j]) = true →
      u.isSubtype (name (u.orderBySpecificity name items)[j])
        (name (u.orderBySpecificity name items)[i]) = false →
      i < j) ∧
    (u.orderBySpecificity name items).filter (u.isTopmost name items) =
      items.filter (u.isTopmost name items) := by
  refine ⟨orderBySpecificity_perm u name items, fun i j hi hj hbelow hnotAbove => ?_,
    filter_isTopmost_orderBySpecificity u name items⟩
  apply (specificFirst_orderBySpecificity u name items).lt_of_strictlyInherits hi hj
  refine ⟨(isProperSubtype_iff.1 hbelow).2, fun habove => ?_⟩
  rw [isSubtype_iff.2 habove] at hnotAbove
  cases hnotAbove

/-! ## Ordered lists -/

/-- No item stands after one of its proper supertypes. -/
def SubtypesFirst (u : TypeUniverse) (name : α → TypeName) (items : List α) : Prop :=
  items.Pairwise fun x y => u.isProperSubtype (name y) (name x) = false

/-- No two distinct types of the items inherit from each other. -/
def Antisymmetric (u : TypeUniverse) (name : α → TypeName) (items : List α) : Prop :=
  ∀ x ∈ items, ∀ y ∈ items, u.isSubtype (name x) (name y) = true →
    u.isSubtype (name y) (name x) = true → name x = name y

/-- Items that are placed in order are placed one behind the other. -/
private theorem foldl_insertBefore_of_subtypesFirst {items placed : List α}
    (h : u.SubtypesFirst name (placed ++ items)) :
    items.foldl
      (fun placed x => insertBefore (fun y => u.isProperSubtype (name x) (name y)) x placed)
      placed = placed ++ items := by
  induction items generalizing placed with
  | nil => exact (List.append_nil _).symm
  | cons x rest ih =>
    obtain ⟨_, _, hacross⟩ := List.pairwise_append.1 h
    have hlast : insertBefore (fun y => u.isProperSubtype (name x) (name y)) x placed =
        placed ++ [x] :=
      insertBefore_eq_append x fun y hy => hacross y hy x List.mem_cons_self
    rw [List.append_cons] at h
    rw [List.foldl_cons, hlast, ih h, List.append_cons placed x rest]

/-- An ordered list is left as it is. -/
theorem orderBySpecificity_eq_self {items : List α} (h : u.SubtypesFirst name items) :
    u.orderBySpecificity name items = items := by
  rw [← List.nil_append items] at h
  exact foldl_insertBefore_of_subtypesFirst h

theorem Antisymmetric.of_perm {items items' : List α} (h : u.Antisymmetric name items)
    (hperm : items'.Perm items) : u.Antisymmetric name items' :=
  fun x hx y hy => h x (hperm.mem_iff.1 hx) y (hperm.mem_iff.1 hy)

/-- Where no types inherit from each other, a proper supertype is a strict one. -/
theorem SpecificFirst.subtypesFirst {items : List α} (h : u.SpecificFirst name items)
    (hanti : u.Antisymmetric name items) : u.SubtypesFirst name items := by
  refine List.Pairwise.imp_of_mem (fun {x y} hx hy hxy => ?_) h
  rw [← Bool.not_eq_true]
  intro hproper
  obtain ⟨hne, hinherits⟩ := isProperSubtype_iff.1 hproper
  refine hxy ⟨hinherits, fun hback => hne ?_⟩
  exact hanti y hy x hx (isSubtype_iff.2 hinherits) (isSubtype_iff.2 hback)

/-- Where no types inherit from each other, ordering puts no item after one of its proper
supertypes. -/
theorem subtypesFirst_orderBySpecificity {items : List α} (h : u.Antisymmetric name items) :
    u.SubtypesFirst name (u.orderBySpecificity name items) :=
  (specificFirst_orderBySpecificity u name items).subtypesFirst
    (h.of_perm (orderBySpecificity_perm u name items))

/-- In an acyclic hierarchy no two types inherit from each other. -/
theorem Acyclic.eq_of_inherits (h : u.Acyclic) {a b : TypeName} (hab : u.Inherits a b)
    (hba : u.Inherits b a) : a = b := by
  rcases reflTransGen_iff_eq_or_transGen.1 hab with heq | hchain
  · exact heq.symm
  · exact absurd (hchain.trans_left hba) (h a)

theorem Acyclic.antisymmetric (h : u.Acyclic) (name : α → TypeName) (items : List α) :
    u.Antisymmetric name items :=
  fun _ _ _ _ hxy hyx => h.eq_of_inherits (isSubtype_iff.1 hxy) (isSubtype_iff.1 hyx)

/-- Where no types inherit from each other, a list is left as it is exactly if no item stands after
one of its proper supertypes; so ordering an ordered list gives the same list. -/
theorem orderBySpecificity_idempotent {items : List α} (h : u.Antisymmetric name items) :
    (u.orderBySpecificity name items = items ↔ u.SubtypesFirst name items) ∧
    u.orderBySpecificity name (u.orderBySpecificity name items) =
      u.orderBySpecificity name items := by
  have hordered : u.SubtypesFirst name (u.orderBySpecificity name items) :=
    subtypesFirst_orderBySpecificity h
  refine ⟨⟨fun heq => ?_, orderBySpecificity_eq_self⟩, orderBySpecificity_eq_self hordered⟩
  rw [heq] at hordered
  exact hordered

private theorem amphibians_acyclic : amphibianDeclarations.Acyclic := by
  have hrank : ∀ a ∈ amphibianDeclarations.names, ∀ b ∈ amphibianDeclarations.directSupertypes a,
      amphibianRank b < amphibianRank a := by decide
  exact acyclic_of_lt amphibianRank fun a b hab => hrank a (mem_names_of_extends hab) b hab

/-- The diamond, listed from its top, is moved by ordering, but not moved again. -/
theorem amphibians_stay_ordered :
    ∃ items : List TypeName, items = [⟨"acme.Vehicle"⟩, ⟨"acme.Boat"⟩, ⟨"acme.Amphibian"⟩,
        ⟨"acme.Truck"⟩, ⟨"acme.Boat"⟩] ∧
      amphibianDeclarations.Antisymmetric id items ∧
      amphibianDeclarations.orderBySpecificity id items ≠ items ∧
      amphibianDeclarations.orderBySpecificity id
          (amphibianDeclarations.orderBySpecificity id items) =
        amphibianDeclarations.orderBySpecificity id items := by
  have hanti := amphibians_acyclic.antisymmetric id
    [⟨"acme.Vehicle"⟩, ⟨"acme.Boat"⟩, ⟨"acme.Amphibian"⟩, ⟨"acme.Truck"⟩, ⟨"acme.Boat"⟩]
  obtain ⟨hself, hagain⟩ := orderBySpecificity_idempotent hanti
  refine ⟨_, rfl, hanti, fun heq => ?_, hagain⟩
  -- the boat stands after the vehicle
  have hboat : amphibianDeclarations.isProperSubtype ⟨"acme.Boat"⟩ ⟨"acme.Vehicle"⟩ = true :=
    isProperSubtype_iff.2 ⟨by decide, ReflTransGen.single (by decide)⟩
  have hafter := List.rel_of_pairwise_cons (hself.1 heq) List.mem_cons_self
  rw [id, id, hboat] at hafter
  cases hafter

/-- Two types that inherit from each other change places each time. -/
theorem orderBySpecificity_circle {x y : α} (hxy : u.isProperSubtype (name x) (name y) = true)
    (hyx : u.isProperSubtype (name y) (name x) = true) :
    u.orderBySpecificity name [x, y] = [y, x] ∧ u.orderBySpecificity name [y, x] = [x, y] := by
  simp [orderBySpecificity, insertBefore, hxy, hyx]

end TypeUniverse

end ValidatorForge
