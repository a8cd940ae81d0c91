import Mathlib.Data.List.Nodup
import ValidatorForge.Discovery.ResolvedType

/-!
# Where readable properties come from

A type reads its properties through methods of its own declaration and of those of its superclasses.
So a claim about all readable properties of a type is one about the methods of declared classes
(`exists_method_of_mem_readableProperties`).

The list functions that the table of properties is made with keep what a search finds: erasing
repeats keeps the first of them (`find?_eraseDupsBy`), and among distinct keys the order does not
matter (`find?_eq_of_perm`).
-/

namespace ValidatorForge

/-! ## Lists with keys -/

/-- In a list with distinct keys, a search for a key finds the element that has it. -/
theorem find?_eq_some_iff_of_key {α κ : Type} {key : α → κ} {k : κ} {f : α → Bool} {as : List α}
    (hkeys : (as.map key).Nodup) (hf : ∀ a ∈ as, f a = true ↔ key a = k) {a : α} :
    as.find? f = some a ↔ a ∈ as ∧ key a = k := by
  constructor
  · intro h
    have ha : a ∈ as := List.mem_of_find?_eq_some h
    have hfound := List.find?_some h
    exact ⟨ha, (hf a ha).1 hfound⟩
  · intro h
    obtain ⟨ha, hkey⟩ := h
    cases hfind : as.find? f with
    | none => exact absurd ((hf a ha).2 hkey) (List.find?_eq_none.1 hfind a ha)
    | some b =>
      have hb : b ∈ as := List.mem_of_find?_eq_some hfind
      have hfound := List.find?_some hfind
      have heq : key b = key a := ((hf b hb).1 hfound).trans hkey.symm
      exact congrArg some (List.inj_on_of_nodup_map hkeys hb ha heq)

/-- Among distinct keys, the order of a list does not matter for a search. -/
theorem find?_eq_of_perm {α κ : Type} {key : α → κ} {k : κ} {f : α → Bool} {as bs : List α}
    (hperm : as.Perm bs) (hkeys : (as.map key).Nodup) (hf : ∀ a ∈ as, f a = true ↔ key a = k) :
    as.find? f = bs.find? f := by
  have hkeys' : (bs.map key).Nodup := (hperm.map key).nodup_iff.1 hkeys
  have hf' : ∀ b ∈ bs, f b = true ↔ key b = k := fun b hb => hf b (hperm.mem_iff.2 hb)
  refine Option.ext fun a => ?_
  rw [find?_eq_some_iff_of_key hkeys hf, find?_eq_some_iff_of_key hkeys' hf', hperm.mem_iff]

/-! ## Lists without repeats -/

/-- Only elements of a list are left when its repeats are erased. -/
theorem mem_of_mem_eraseDupsBy {α : Type} {r : α → α → Bool} {a : α} (as : List α)
    (h : a ∈ as.eraseDupsBy r) : a ∈ as := by
  match as with
  | [] => exact h
  | b :: rest =>
    rw [List.eraseDupsBy_cons, List.mem_cons] at h
    rcases h with rfl | hrest
    · exact List.mem_cons_self
    · have hkept := mem_of_mem_eraseDupsBy _ hrest
      exact List.mem_cons_of_mem _ (List.mem_filter.1 hkept).1
termination_by as.length
decreasing_by exact Nat.lt_succ_of_le (List.length_filter_le _ rest)

/-- No element that is left repeats one before it. -/
theorem pairwise_eraseDupsBy {α : Type} (r : α → α → Bool) (as : List α) :
    (as.eraseDupsBy r).Pairwise fun a b => r b a = false := by
  match as with
  | [] => exact List.Pairwise.nil
  | a :: rest =>
    rw [List.eraseDupsBy_cons, List.pairwise_cons]
    refine ⟨fun b hb => ?_, pairwise_eraseDupsBy r _⟩
    have hkept := mem_of_mem_eraseDupsBy _ hb
    simpa using (List.mem_filter.1 hkept).2
termination_by as.length
decreasing_by exact Nat.lt_succ_of_le (List.length_filter_le _ rest)

theorem nodup_eraseDups {α : Type} [DecidableEq α] (as : List α) : as.eraseDups.Nodup :=
  (pairwise_eraseDupsBy (· == ·) as).imp fun h heq => by simp [heq] at h

/-- The first element with a property is left, if repeats have the property together. -/
theorem find?_eraseDupsBy {α : Type} {r : α → α → Bool} {f : α → Bool} (as : List α)
    (hrespects : ∀ a b, r b a = true → f b = f a) : (as.eraseDupsBy r).find? f = as.find? f := by
  match as with
  | [] => rfl
  | a :: rest =>
    rw [List.eraseDupsBy_cons, List.find?_cons, List.find?_cons]
    cases ha : f a with
    | true => rfl
    | false =>
      -- what the head hides does not have the property, as the head has not
      have hhidden : ∀ b, f b = true → r b a = false :=
        fun b hb => Bool.eq_false_iff.2 fun hr => by simp [hrespects a b hr, ha] at hb
      show (List.eraseDupsBy r _).find? f = rest.find? f
      rw [find?_eraseDupsBy _ hrespects, List.find?_filter]
      congr 1
      funext b
      cases hb : f b with
      | false => simp
      | true => simp [hhidden b hb]
termination_by as.length
decreasing_by exact Nat.lt_succ_of_le (List.length_filter_le _ rest)

/-! ## Methods of a lineage -/

/-- Each class of a superclass chain is declared. -/
theorem TypeUniverse.exists_find?_of_mem_chainFrom {u : TypeUniverse} {seen : List TypeName}
    {name : TypeName} {d : ClassDecl} (h : d ∈ u.chainFrom seen name) :
    ∃ n, u.find? n = some d := by
  fun_induction chainFrom u seen name with
  | case1 => exact absurd h List.not_mem_nil
  | case2 => exact absurd h List.not_mem_nil
  | case3 _ name _ hfind =>
    rw [List.mem_singleton.1 h]
    exact ⟨name, hfind⟩
  | case4 _ name first hfind _ parent _ ih =>
    rcases List.mem_cons.1 h with rfl | hrest
    · exact ⟨name, hfind⟩
    · exact ih hrest

/-- A method is listed as the getter of its property. -/
theorem MethodDecl.getter_of_property? {m : MethodDecl} {q : ReadableProperty}
    (h : m.property? = some q) : q.getter = m.name := by
  unfold property? at h
  split at h
  · obtain ⟨name, _, rfl⟩ := Option.map_eq_some_iff.1 h
    rfl
  · cases h

namespace ResolvedType

variable {u : TypeUniverse} {t : ResolvedType}

/-- The lineage of a type is its own declaration and classes of the universe. -/
theorem eq_decl_or_find?_of_mem_lineage {d : ClassDecl} (h : d ∈ t.lineage u) :
    d = t.decl ∨ ∃ n, u.find? n = some d := by
  unfold lineage at h
  rcases List.mem_cons.1 h with hown | hrest
  · exact Or.inl hown
  · cases hparent : t.decl.superclass with
    | none => simp [hparent] at hrest
    | some parent =>
      rw [hparent] at hrest
      exact Or.inr (TypeUniverse.exists_find?_of_mem_chainFrom hrest)

/-- A readable property is read by a method of the lineage. -/
theorem exists_method_of_mem_readableProperties {p : ReadableProperty}
    (h : p ∈ t.readableProperties u) :
    ∃ d ∈ t.lineage u, ∃ m ∈ d.methods, m.property? = some p := by
  rw [readableProperties, List.mem_mergeSort] at h
  have haccessor : p ∈ t.accessors u := mem_of_mem_eraseDupsBy _ h
  obtain ⟨d, hd, hp⟩ := List.mem_flatMap.1 haccessor
  obtain ⟨m, hm, hproperty⟩ := List.mem_filterMap.1 hp
  exact ⟨d, hd, m, hm, hproperty⟩

end ResolvedType

end ValidatorForge
