import ValidatorForge.Proofs.Discovery.Properties
import ValidatorForge.Proofs.Model.SuperclassChain

/-!
# Searches along the lineage

The lineage of a type goes on from its superclass as if the type itself had not been seen.  So on a
hierarchy that loops it may name the type once more, at its end; otherwise it is the chain of
superclasses from the type on (`lineage_eq_or`).  What a class declares was found at its first place
already, so no search along the lineage tells the two apart: neither the searches for the nearest
member (`findSome?_lineage`), nor the table of readable properties, which erases what is repeated
(`eraseDupsBy_append_of_repeats`).
-/

namespace ValidatorForge

/-- What only repeats elements of a list adds nothing to it, once repeats are erased. -/
theorem eraseDupsBy_append_of_repeats {α : Type} {r : α → α → Bool}
    (htrans : ∀ a b c, r c b = true → r b a = true → r c a = true) (as bs : List α)
    (hrepeats : ∀ b ∈ bs, ∃ a ∈ as, r b a = true) :
    (as ++ bs).eraseDupsBy r = as.eraseDupsBy r := by
  match as with
  | [] =>
    have hnone : bs = [] := by
      refine List.eq_nil_iff_forall_not_mem.2 fun b hb => ?_
      obtain ⟨a, ha, _⟩ := hrepeats b hb
      exact List.not_mem_nil ha
    rw [hnone, List.append_nil]
  | a :: rest =>
    rw [List.cons_append, List.eraseDupsBy_cons, List.eraseDupsBy_cons, List.filter_append]
    refine congrArg (a :: ·) (eraseDupsBy_append_of_repeats htrans _ _ fun b hb => ?_)
    -- what repeats a hidden element is hidden too
    obtain ⟨hb, hkept⟩ := List.mem_filter.1 hb
    obtain ⟨c, hc, hbc⟩ := hrepeats b hb
    have hnot : r b a = false := of_decide_eq_true hkept
    rcases List.mem_cons.1 hc with rfl | hrest
    · simp [hbc] at hnot
    · refine ⟨c, List.mem_filter.2 ⟨hrest, decide_eq_true ?_⟩, hbc⟩
      refine Bool.eq_false_iff.2 fun hca => ?_
      simp [htrans a c b hbc hca] at hnot
termination_by as.length
decreasing_by exact Nat.lt_succ_of_le (List.length_filter_le _ rest)

namespace ResolvedType

variable {u : TypeUniverse} {t : ResolvedType}

/-- The lineage of a declared type is the chain of superclasses from the type on, or that chain with
the type once more at its end. -/
theorem lineage_eq_or (hdecl : u.find? t.name = some t.decl) :
    t.lineage u = u.superclassChain t.name ∨
      t.lineage u = u.superclassChain t.name ++ [t.decl] := by
  rw [lineage, TypeUniverse.superclassChain, TypeUniverse.chainFrom_of_find? hdecl List.not_mem_nil]
  cases hparent : t.decl.superclass with
  | none => exact Or.inl rfl
  | some parent =>
    have hseen : ∀ n, n ∈ [t.name] ↔ n = t.decl.name ∨ n ∈ [] := fun n => List.mem_cons
    have hchain := TypeUniverse.chainFrom_of_return hdecl hparent [] parent (Or.inl rfl) hseen
    exact hchain.imp (congrArg (t.decl :: ·)) (congrArg (t.decl :: ·))

/-- The lineage of a declared type has the classes of the chain from the type on. -/
theorem mem_lineage_iff (hdecl : u.find? t.name = some t.decl) {d : ClassDecl} :
    d ∈ t.lineage u ↔ d ∈ u.superclassChain t.name := by
  rcases lineage_eq_or hdecl with heq | heq
  · rw [heq]
  · rw [heq, List.mem_append, List.mem_singleton, or_iff_left_iff_imp]
    rintro rfl
    exact TypeUniverse.mem_superclassChain_self hdecl

/-- A search along the lineage of a declared type is one along its superclasses. -/
theorem findSome?_lineage {α : Type} (hdecl : u.find? t.name = some t.decl)
    (f : ClassDecl → Option α) :
    (t.lineage u).findSome? f = (u.superclassChain t.name).findSome? f := by
  rcases lineage_eq_or hdecl with heq | heq
  · rw [heq]
  · rw [heq, List.findSome?_append]
    cases hfound : (u.superclassChain t.name).findSome? f with
    | some a => rfl
    | none =>
      have hhead := TypeUniverse.mem_superclassChain_self hdecl
      have hself := List.findSome?_eq_none_iff.1 hfound _ hhead
      rw [List.findSome?_singleton, hself]
      rfl

/-- So is the table of readable properties. -/
theorem readableProperties_lineage (hdecl : u.find? t.name = some t.decl) :
    t.readableProperties u =
      (((u.superclassChain t.name).flatMap fun d => d.methods.filterMap (·.property?)).eraseDupsBy
        fun a b => a.name == b.name).mergeSort fun a b => !(b.name < a.name : Bool) := by
  rw [readableProperties, accessors]
  congr 1
  rcases lineage_eq_or hdecl with heq | heq
  · rw [heq]
  · rw [heq, List.flatMap_append]
    refine eraseDupsBy_append_of_repeats ?_ _ _ fun q hq => ⟨q, ?_, beq_self_eq_true _⟩
    · intro a b c hcb hba
      exact beq_iff_eq.2 ((beq_iff_eq.1 hcb).trans (beq_iff_eq.1 hba))
    · rw [List.flatMap_singleton] at hq
      exact List.mem_flatMap.2 ⟨_, TypeUniverse.mem_superclassChain_self hdecl, hq⟩

end ResolvedType

namespace TypeUniverse

/-- A walk up the superclasses of a type ends after at most one turn more than there are declared
classes, and it has passed the chain of superclasses then.  The chain begins with the declaration of
the type, and is empty for a type without one.  It goes from class to superclass and names no class
twice, and every list like that is a prefix of it; so it is the longest one.  Its classes are
supertypes of the type.  The fields, getters and readable properties of a declared type are found
along the chain as they are along the lineage, even if the chain loops. -/
theorem superclassChain_is_longest_path (u : TypeUniverse) :
    (∀ name turns, u.size < turns →
      (SuperclassWalk.start u name).chain? u turns = some (u.superclassChain name)) ∧
    (∀ name, u.find? name = none → u.superclassChain name = []) ∧
    (∀ name, u.IsSuperclassPath name (u.superclassChain name) ∧
      ∀ ds, u.IsSuperclassPath name ds → ds <+: u.superclassChain name) ∧
    (∀ name, ∀ d ∈ u.superclassChain name, u.isSubtype name d.name = true) ∧
    ∀ t : ResolvedType, u.find? t.name = some t.decl →
      (∀ property, t.fieldType u property =
        ((u.superclassChain t.name).findSome? (·.fieldNamed property)).map (·.ty)) ∧
      (∀ property, t.getterType u property =
        ((u.superclassChain t.name).findSome? (·.accessorNamed (getterName property))).bind
          (·.returns)) ∧
      t.readableProperties u =
        (((u.superclassChain t.name).flatMap fun d => d.methods.filterMap (·.property?)).eraseDupsBy
          fun a b => a.name == b.name).mergeSort fun a b => !(b.name < a.name : Bool) := by
  have hpath : ∀ name, u.IsSuperclassPath name (u.superclassChain name) :=
    fun name => (u.isSuperclassPath_chainFrom [] name).1
  refine ⟨fun name turns hturns => ?_, fun name hnone => ?_, fun name => ⟨hpath name, ?_⟩,
    fun name d hd => ?_, fun t hdecl => ⟨fun property => ?_, fun property => ?_, ?_⟩⟩
  · exact SuperclassWalk.chain?_start u name hturns
  · exact chainFrom_of_undeclared hnone
  · exact fun ds hds => hds.prefix_chainFrom fun _ _ => List.not_mem_nil
  · exact isSubtype_iff.2 ((hpath name).inherits hd)
  · rw [ResolvedType.fieldType, ResolvedType.findSome?_lineage hdecl]
  · rw [ResolvedType.getterType, ResolvedType.findSome?_lineage hdecl]
  · exact ResolvedType.readableProperties_lineage hdecl

end TypeUniverse

/-- Hens come from eggs. -/
def henDecl : ClassDecl :=
  (((ClassDecl.ofClass ⟨"acme.Hen"⟩).withSuperclass ⟨"acme.Egg"⟩).withField "age"
    (.primitive "int")).withGetter "getColour" (.named ⟨"java.lang.String"⟩)

/-- Eggs come from hens. -/
def eggDecl : ClassDecl :=
  (((ClassDecl.ofClass ⟨"acme.Egg"⟩).withSuperclass ⟨"acme.Hen"⟩).withField "shell"
    (.named ⟨"acme.Shell"⟩)).withGetter "getColour" (.primitive "int")

/-- The lineage of hens names them twice, and what they declare is found along the chain that names
them once.  Nests are not declared. -/
theorem hen_members_are_found_along_chain :
    let u := TypeUniverse.empty.insertAll [henDecl, eggDecl]
    let t : ResolvedType := ⟨henDecl, .mk henDecl.name [] []⟩
    u.find? t.name = some t.decl ∧ t.lineage u = [henDecl, eggDecl, henDecl] ∧
      u.superclassChain t.name = [henDecl, eggDecl] ∧
      u.superclassChain ⟨"acme.Nest"⟩ = [] ∧
      u.isSubtype henDecl.name eggDecl.name = true ∧
      t.fieldType u "shell" = some (.named ⟨"acme.Shell"⟩) ∧
      t.getterType u "colour" = some (.named ⟨"java.lang.String"⟩) := by
  intro u t
  have hdecl : u.find? t.name = some t.decl := rfl
  obtain ⟨hwalk, hundeclared, _, hsubtype, hmembers⟩ := u.superclassChain_is_longest_path
  obtain ⟨hfield, hgetter, _⟩ := hmembers t hdecl
  have hsize : u.size < 3 := by decide
  have hhens : u.superclassChain t.name = [henDecl, eggDecl] :=
    (Option.some.inj (hwalk henDecl.name 3 hsize)).symm
  have heggs : u.superclassChain eggDecl.name = [eggDecl, henDecl] :=
    (Option.some.inj (hwalk eggDecl.name 3 hsize)).symm
  have hlineage : t.lineage u = t.decl :: u.superclassChain eggDecl.name := rfl
  refine ⟨hdecl, ?_, hhens, hundeclared _ rfl, ?_, ?_, ?_⟩
  · rw [hlineage, heggs]
  · exact hsubtype t.name eggDecl (by rw [hhens]; exact List.mem_of_getLast? rfl)
  · rw [hfield, hhens]
    rfl
  · rw [hgetter, hhens]
    rfl

end ValidatorForge
