import ValidatorForge.Proofs.Discovery.Lineage

/-!
# Which method reads a property

By the naming rule a method without arguments reads the property that its name ends in, after `get`,
or after `is` if it returns a boolean (`MethodDecl.Reads`).  A class reads a property through the
first such method along its superclasses: its own methods come first, so that a method hides those
of the same property above it (`MethodDecl.IsFirstReader`).

The table of readable properties is sorted by name and holds each name once.  A search in it finds
the nearest reader nevertheless (`find?_readableProperties`).  The table follows the lineage of a
type, along which a search finds what it finds along the superclasses, also on a hierarchy that
loops (`findSome?_lineage`).
-/

namespace ValidatorForge

/-! ## The naming rule -/

/-- A method reads a property by the naming rule. -/
structure MethodDecl.Reads (m : MethodDecl) (property : String) : Prop where
  noParams : m.params = []
  named : ∃ returns suffix, m.returns = some returns ∧ suffix ≠ [] ∧
    (m.name.toList = 'g' :: 'e' :: 't' :: suffix ∨
      m.name.toList = 'i' :: 's' :: suffix ∧ returns.isBoolean = true) ∧
    property = String.ofList (decapitalize suffix)

/-- Whether a method is an accessor of a property. -/
def MethodDecl.reads (m : MethodDecl) (property : String) : Bool :=
  m.property?.any (·.name == property)

theorem accessorSuffix?_eq_some_iff {returns : TypeRef} {name suffix : List Char} :
    accessorSuffix? returns name = some suffix ↔
      name = 'g' :: 'e' :: 't' :: suffix ∨
        name = 'i' :: 's' :: suffix ∧ returns.isBoolean = true := by
  unfold accessorSuffix?
  split
  · simp
  · simp [and_comm]
  · next hget his =>
    simp only [reduceCtorEq, false_iff, not_or, not_and]
    exact ⟨fun h => (hget suffix h).elim, fun h => (his suffix h).elim⟩

theorem propertyName?_eq_some_iff {accessor property : String} {returns : TypeRef} :
    propertyName? accessor returns = some property ↔
      ∃ suffix, accessorSuffix? returns accessor.toList = some suffix ∧ suffix ≠ [] ∧
        property = String.ofList (decapitalize suffix) := by
  unfold propertyName?
  split
  · next c suffix hsuffix =>
    rw [hsuffix]
    constructor
    · intro h
      exact ⟨c :: suffix, rfl, List.cons_ne_nil _ _, (Option.some.inj h).symm⟩
    · intro hex
      obtain ⟨suffix', hsuffix', _, rfl⟩ := hex
      rw [Option.some.inj hsuffix']
  · next hnone =>
    constructor
    · intro h
      cases h
    · intro hex
      obtain ⟨suffix, hsuffix, hne, _⟩ := hex
      obtain ⟨c, rest, rfl⟩ := List.exists_cons_of_ne_nil hne
      exact absurd hsuffix (hnone c rest)

/-- A method that reads a property is listed with it. -/
theorem MethodDecl.reads_iff {m : MethodDecl} {property : String} :
    m.reads property = true ↔ m.Reads property := by
  have hproperty : m.reads property = true ↔ m.params = [] ∧ ∃ returns, m.returns = some returns ∧
      propertyName? m.name returns = some property := by
    unfold reads property?
    split
    · next returns hparams hreturns =>
      cases hname : propertyName? m.name returns <;> simp [hparams, hreturns, hname]
    · next hother =>
      simp only [Option.any_none, Bool.false_eq_true, false_iff, not_and, not_exists]
      exact fun hparams returns hreturns => (hother returns hparams hreturns).elim
  rw [hproperty]
  constructor
  · intro h
    obtain ⟨hparams, returns, hreturns, hname⟩ := h
    obtain ⟨suffix, hsuffix, hne, hdecapitalized⟩ := propertyName?_eq_some_iff.1 hname
    exact ⟨hparams, returns, suffix, hreturns, hne, accessorSuffix?_eq_some_iff.1 hsuffix,
      hdecapitalized⟩
  · intro h
    obtain ⟨returns, suffix, hreturns, hne, hsuffix, hdecapitalized⟩ := h.named
    refine ⟨h.noParams, returns, hreturns, propertyName?_eq_some_iff.2 ⟨suffix, ?_, hne, ?_⟩⟩
    · exact accessorSuffix?_eq_some_iff.2 hsuffix
    · exact hdecapitalized

instance (m : MethodDecl) (property : String) : Decidable (m.Reads property) :=
  decidable_of_iff _ m.reads_iff

/-- A method that reads a property is listed as its getter. -/
theorem MethodDecl.exists_property?_of_reads {m : MethodDecl} {property : String}
    (h : m.reads property = true) : ∃ q, m.property? = some q ∧ q.getter = m.name := by
  cases hq : m.property? with
  | none =>
    rw [reads, hq] at h
    cases h
  | some q => exact ⟨q, rfl, getter_of_property? hq⟩

/-- The first of the methods that reads a property. -/
def MethodDecl.IsFirstReader (m : MethodDecl) (methods : List MethodDecl) (property : String) :
    Prop :=
  ∃ before after, methods = before ++ m :: after ∧ m.Reads property ∧
    ∀ m' ∈ before, ¬ m'.Reads property

theorem MethodDecl.IsFirstReader.reads {m : MethodDecl} {methods : List MethodDecl}
    {property : String} (h : m.IsFirstReader methods property) : m.Reads property := by
  obtain ⟨_, _, _, hreads, _⟩ := h
  exact hreads

/-- A search for a reader of a property finds the first one. -/
theorem MethodDecl.find?_reads_eq_some_iff {methods : List MethodDecl} {property : String}
    {m : MethodDecl} :
    methods.find? (·.reads property) = some m ↔ m.IsFirstReader methods property := by
  rw [List.find?_eq_some_iff_append, MethodDecl.reads_iff]
  constructor
  · intro h
    obtain ⟨hreads, before, after, heq, hbefore⟩ := h
    refine ⟨before, after, heq, hreads, fun m' hm' hreads' => ?_⟩
    simpa [MethodDecl.reads_iff.2 hreads'] using hbefore m' hm'
  · intro h
    obtain ⟨before, after, heq, hreads, hbefore⟩ := h
    refine ⟨hreads, before, after, heq, fun m' hm' => ?_⟩
    rw [Bool.not_eq_true', Bool.eq_false_iff]
    exact fun hreads' => hbefore m' hm' (MethodDecl.reads_iff.1 hreads')

theorem MethodDecl.find?_reads_eq_none_iff {methods : List MethodDecl} {property : String} :
    methods.find? (·.reads property) = none ↔ ∀ m ∈ methods, ¬ m.Reads property := by
  simp only [List.find?_eq_none, MethodDecl.reads_iff]

/-! ## Searches along the superclasses -/

namespace TypeUniverse

variable {u : TypeUniverse}

/-- The methods of a class and of its superclasses, nearest first. -/
def methodsAlong (u : TypeUniverse) (name : TypeName) : List MethodDecl :=
  (u.superclassChain name).flatMap (·.methods)

/-- The methods along a class without superclass are its own. -/
theorem methodsAlong_of_superclass_none {name : TypeName} {d : ClassDecl}
    (hfind : u.find? name = some d) (hnone : d.superclass = none) :
    u.methodsAlong name = d.methods := by
  rw [methodsAlong, superclassChain, chainFrom_of_find? hfind List.not_mem_nil, hnone]
  exact List.append_nil _

end TypeUniverse

namespace ResolvedType

variable {u : TypeUniverse} {t : ResolvedType}

/-- The table of readable properties has each name once. -/
theorem nodup_names_readableProperties : ((t.readableProperties u).map (·.name)).Nodup := by
  have hkept : (((t.accessors u).eraseDupsBy fun a b => a.name == b.name).map (·.name)).Nodup := by
    refine List.pairwise_map.2 ((pairwise_eraseDupsBy _ _).imp fun {a b} hdiffers heq => ?_)
    simp [heq] at hdiffers
  exact ((List.mergeSort_perm _ _).map _).nodup_iff.2 hkept

/-- A search in the table of readable properties finds what the first reader along the lineage is
listed with. -/
theorem find?_readableProperties_lineage (property : String) :
    (t.readableProperties u).find? (·.name == property) =
      (((t.lineage u).flatMap (·.methods)).find? (·.reads property)).bind (·.property?) := by
  let named (q : ReadableProperty) : Bool := q.name == property
  have hnamed : ∀ q ∈ t.readableProperties u, named q = true ↔ q.name = property :=
    fun _ _ => beq_iff_eq
  calc
    (t.readableProperties u).find? named
      = ((t.accessors u).eraseDupsBy fun a b => a.name == b.name).find? named :=
        find?_eq_of_perm (List.mergeSort_perm _ _) nodup_names_readableProperties hnamed
    _ = (t.accessors u).find? named := by
        refine find?_eraseDupsBy _ fun a b hsame => ?_
        have hname : b.name = a.name := beq_iff_eq.1 hsame
        show (b.name == property) = (a.name == property)
        rw [hname]
    _ = (((t.lineage u).flatMap (·.methods)).find? (·.reads property)).bind (·.property?) := by
        rw [accessors, ← List.filterMap_flatMap, List.find?_filterMap]
        rfl

/-- For a declared type, that is what its nearest reader is listed with. -/
theorem find?_readableProperties (hdecl : u.find? t.name = some t.decl) (property : String) :
    (t.readableProperties u).find? (·.name == property) =
      ((u.methodsAlong t.name).find? (·.reads property)).bind (·.property?) := by
  rw [find?_readableProperties_lineage, TypeUniverse.methodsAlong, List.find?_flatMap,
    List.find?_flatMap, findSome?_lineage hdecl]

end ResolvedType

end ValidatorForge
