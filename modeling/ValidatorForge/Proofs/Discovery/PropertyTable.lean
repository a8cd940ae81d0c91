import Mathlib.Data.String.Basic
import ValidatorForge.Proofs.Discovery.Accessors

/-!
# The table of readable properties

The table is sorted strictly by name (`pairwise_lt_readableProperties`).  It holds what the first
reader of each property along the lineage is listed with (`mem_readableProperties_iff`), and so the
properties that some method along the lineage reads (`mem_names_readableProperties_iff`).  Nothing
is assumed of the lineage: the type need not be declared, and its superclasses may loop.
-/

namespace ValidatorForge

namespace MethodDecl

variable {m : MethodDecl}

/-- The result type of a method that is listed with a property is that of the property. -/
theorem returns_of_property? {q : ReadableProperty} (h : m.property? = some q) :
    m.returns = some q.ty := by
  unfold property? at h
  split at h
  · next hreturns =>
    obtain ⟨_, _, rfl⟩ := Option.map_eq_some_iff.1 h
    exact hreturns
  · cases h

/-- A method is listed with the property that it reads, as its getter and with its result type. -/
theorem property?_eq_some_iff {q : ReadableProperty} :
    m.property? = some q ↔ m.Reads q.name ∧ q.getter = m.name ∧ m.returns = some q.ty := by
  constructor
  · intro h
    have hreads : m.reads q.name = true := by simp [reads, h]
    exact ⟨reads_iff.1 hreads, getter_of_property? h, returns_of_property? h⟩
  · intro h
    obtain ⟨hreads, hgetter, hreturns⟩ := h
    obtain ⟨q', hq', hname⟩ := (Option.any_eq_true _ _).1 (reads_iff.2 hreads)
    have hty : q'.ty = q.ty := Option.some.inj ((returns_of_property? hq').symm.trans hreturns)
    have hsame : q' = q := by
      rw [ReadableProperty.mk.injEq]
      exact ⟨beq_iff_eq.1 hname, (getter_of_property? hq').trans hgetter.symm, hty⟩
    rw [hq', hsame]

end MethodDecl

namespace ResolvedType

variable {u : TypeUniverse} {t : ResolvedType}

/-- Each name in the table is less than those behind it. -/
theorem pairwise_lt_readableProperties :
    (t.readableProperties u).Pairwise fun p q => p.name < q.name := by
  have hle : ∀ p q : ReadableProperty, (!(q.name < p.name : Bool)) = true ↔ p.name ≤ q.name := by
    intro p q
    simp only [Bool.not_eq_true', decide_eq_false_iff_not, not_lt]
  have hsorted : (t.readableProperties u).Pairwise fun p q => p.name ≤ q.name := by
    refine (List.pairwise_mergeSort (fun p q r hpq hqr => ?_) (fun p q => ?_) _).imp (hle _ _).1
    · exact (hle p r).2 (((hle p q).1 hpq).trans ((hle q r).1 hqr))
    · rw [Bool.or_eq_true, hle, hle]
      exact le_total p.name q.name
  have hdistinct : (t.readableProperties u).Pairwise fun p q => p.name ≠ q.name :=
    List.pairwise_map.1 nodup_names_readableProperties
  exact (hsorted.and hdistinct).imp fun h => lt_of_le_of_ne h.1 h.2

/-- The table holds what the first reader of a property along the lineage is listed with. -/
theorem mem_readableProperties_iff {q : ReadableProperty} :
    q ∈ t.readableProperties u ↔
      ∃ m, ((t.lineage u).flatMap (·.methods)).find? (·.reads q.name) = some m ∧
        m.property? = some q := by
  have hsearch := find?_eq_some_iff_of_key (k := q.name) (f := fun p => p.name == q.name) (a := q)
    (nodup_names_readableProperties (u := u) (t := t)) fun _ _ => beq_iff_eq
  rw [find?_readableProperties_lineage, Option.bind_eq_some_iff] at hsearch
  rw [hsearch, and_iff_left rfl]

/-- A property is in the table if a method along the lineage reads it. -/
theorem mem_names_readableProperties_iff {property : String} :
    property ∈ (t.readableProperties u).map (·.name) ↔
      ∃ d ∈ t.lineage u, ∃ m ∈ d.methods, m.Reads property := by
  constructor
  · intro h
    obtain ⟨q, hq, rfl⟩ := List.mem_map.1 h
    obtain ⟨m, hfind, hlisted⟩ := mem_readableProperties_iff.1 hq
    obtain ⟨d, hd, hm⟩ := List.mem_flatMap.1 (List.mem_of_find?_eq_some hfind)
    exact ⟨d, hd, m, hm, (MethodDecl.property?_eq_some_iff.1 hlisted).1⟩
  · intro h
    obtain ⟨d, hd, m, hm, hreads⟩ := h
    have hsome : (((t.lineage u).flatMap (·.methods)).find? (·.reads property)).isSome = true :=
      List.find?_isSome.2 ⟨m, List.mem_flatMap.2 ⟨d, hd, hm⟩, MethodDecl.reads_iff.2 hreads⟩
    obtain ⟨first, hfirst⟩ := Option.isSome_iff_exists.1 hsome
    have hfound := List.find?_some hfirst
    obtain ⟨q, hlisted, hname⟩ := (Option.any_eq_true _ _).1 hfound
    obtain rfl := beq_iff_eq.1 hname
    exact List.mem_map.2 ⟨q, mem_readableProperties_iff.2 ⟨first, hfirst, hlisted⟩, rfl⟩

/-- The table of readable properties is sorted strictly by name.  A property is in it exactly if a
method along the lineage reads it, and then with the name and the result type of the first such
method: the nearest class comes first, and within a class its order of declaration. -/
theorem readableProperties_list_first_readers (u : TypeUniverse) (t : ResolvedType) :
    (t.readableProperties u).Pairwise (fun p q => p.name < q.name) ∧
      (∀ property, property ∈ (t.readableProperties u).map (·.name) ↔
        ∃ d ∈ t.lineage u, ∃ m ∈ d.methods, m.Reads property) ∧
      ∀ q, q ∈ t.readableProperties u ↔
        ∃ m : MethodDecl, m.IsFirstReader ((t.lineage u).flatMap (·.methods)) q.name ∧
          q.getter = m.name ∧ m.returns = some q.ty := by
  refine ⟨pairwise_lt_readableProperties, fun _ => mem_names_readableProperties_iff, fun q => ?_⟩
  rw [mem_readableProperties_iff]
  refine exists_congr fun m => ?_
  rw [MethodDecl.find?_reads_eq_some_iff, MethodDecl.property?_eq_some_iff]
  constructor
  · intro h
    obtain ⟨hfirst, _, hgetter, hreturns⟩ := h
    exact ⟨hfirst, hgetter, hreturns⟩
  · intro h
    obtain ⟨hfirst, hgetter, hreturns⟩ := h
    exact ⟨hfirst, hfirst.reads, hgetter, hreturns⟩

end ResolvedType

end ValidatorForge
