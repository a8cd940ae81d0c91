import ValidatorForge.Proofs.Dispatch.Runs

/-!
# When a run succeeds

A run into a memory sink is planned if discovery can finish, and its validator can be rendered if
the language has a name for everything that it mentions: the types, their validators, the groups
and the methods that read properties (`exists_run_of_clean`).  `isClosedOver` computes both for a
list of types that cascades do not leave, and `exists_run_of_isClosedOver` says that such a run
succeeds.

The check needs no order of specificity, so it is cheap on a concrete run.
-/

namespace ValidatorForge

open Sample

namespace GenerateCall

/-- Whether the type can be looked up, and it and its validator have paths. -/
def namesType (c : GenerateCall) (ty : TypeName) : Bool :=
  match c.host.lookUp ty with
  | .ok t => (Dispatcher.branchOf c.spec.config.root t).isOk
  | .error _ => false

/-- Whether the groups of the spec are declared, and they and their groups have paths. -/
def namesGroups (c : GenerateCall) : Bool :=
  match DispatchPlan.groupSteps c.host c.spec.groups.eraseDups with
  | .ok steps => steps.all fun step => (Dispatcher.groupOf c.spec.config.root step).isOk
  | .error _ => false

/-- Whether every declared method has a name in the emitted language. -/
def namesMethods (c : GenerateCall) : Bool :=
  c.types.classes.entries.all fun e => e.2.methods.all fun m => (Naming.methodIdent m.name).isOk

/-- Whether the listed types are all that a run needs, and everything has a name. -/
def isClosedOver (c : GenerateCall) (tys : List TypeName) : Bool :=
  c.host.isClosedList tys && c.spec.requested.all tys.contains && tys.all c.namesType &&
    c.namesGroups && c.namesMethods

variable {c : GenerateCall} {tys : List TypeName}

theorem exists_groups_of_namesGroups (h : c.namesGroups = true) :
    ∃ steps, DispatchPlan.groupSteps c.host c.spec.groups.eraseDups = .ok steps ∧
      ∀ step ∈ steps, ∃ g, Dispatcher.groupOf c.spec.config.root step = .ok g := by
  unfold namesGroups at h
  split at h
  · next steps hsteps =>
    exact ⟨steps, hsteps, fun step hstep => exists_eq_ok_of_isOk (List.all_eq_true.1 h step hstep)⟩
  · cases h

/-- The accessors of a type that can be looked up have methods. -/
theorem exists_methodIdent_of_namesMethods (h : c.namesMethods = true) {t : ResolvedType}
    (ht : c.host.lookUp t.name = .ok t) {q : ReadableProperty}
    (hq : q ∈ t.readableProperties c.types) : ∃ i, Naming.methodIdent q.getter = .ok i := by
  obtain ⟨d, hd, m, hm, hproperty⟩ := ResolvedType.exists_method_of_mem_readableProperties hq
  obtain ⟨n, hn⟩ : ∃ n, c.types.find? n = some d := by
    rcases ResolvedType.eq_decl_or_find?_of_mem_lineage hd with rfl | hfound
    · exact ⟨t.name, (Host.lookUp_eq_ok_iff.1 ht).2⟩
    · exact hfound
  have hmethods := List.all_eq_true.1 h (n, d) (OrderedMap.mem_entries_of_get? hn)
  rw [MethodDecl.getter_of_property? hproperty]
  exact exists_eq_ok_of_isOk (List.all_eq_true.1 hmethods m hm)

/-- A run succeeds if what it requests is clean and what it needs has names: the types branches, the
groups branches and the accessors methods. -/
theorem exists_run_of_clean
    (hclean : ∀ ty ∈ c.spec.targets ++ c.spec.reflect, c.host.Clean ty)
    {steps : List GroupStep}
    (hsteps : DispatchPlan.groupSteps c.host c.spec.groups.eraseDups = .ok steps)
    (hgroups : ∀ step ∈ steps, ∃ g, Dispatcher.groupOf c.spec.config.root step = .ok g)
    (hbranches : ∀ t, c.spec.Needs c.host t →
      ∃ b, Dispatcher.branchOf c.spec.config.root t = .ok b)
    (hmethods : ∀ t, c.spec.Needs c.host t → ∀ q ∈ t.readableProperties c.types,
      ∃ i, Naming.methodIdent q.getter = .ok i)
    (out : Output MemoryArtifacts) :
    ∃ plan p d name out', c.plan out = (.ok plan, p) ∧
      Dispatcher.ofPlan c.spec plan = .ok d ∧ c.run out = (.ok name, out') := by
  obtain ⟨hcleanTargets, hcleanReflect⟩ := List.forall_mem_append.1 hclean
  obtain ⟨plan, p, hbuild⟩ :=
    DispatchPlan.build_total hcleanTargets hcleanReflect hsteps ⟨{}, out⟩
  have hplan : c.plan out = (.ok plan, p) := hbuild
  have hneeds : ∀ t ∈ p.cache.values, c.spec.Needs c.host t :=
    fun t ht => (mem_values_iff_needs hplan).1 ht
  obtain ⟨d, hd⟩ : ∃ d, Dispatcher.ofPlan c.spec plan = .ok d := by
    apply Dispatcher.ofPlan_total
    case hordered =>
      intro t ht
      exact hbranches t (hneeds t (DispatchPlan.mem_values_of_mem_ordered hbuild ht))
    case hgroups =>
      obtain ⟨_, _, _, _, _, _, _, _, hplanned, _⟩ := DispatchPlan.build_ok hbuild
      rw [← Except.ok.inj (hsteps.symm.trans hplanned)]
      exact hgroups
    case hreflected =>
      intro r hr
      exact hbranches _ (hneeds _ (DispatchPlan.mem_values_of_mem_reflected hbuild hr))
    case harms =>
      intro r hr q hq
      have ht := hneeds _ (DispatchPlan.mem_values_of_mem_reflected hbuild hr)
      rw [DispatchPlan.properties_of_mem_reflected hbuild hr] at hq
      exact hmethods _ ht q hq
  obtain ⟨name, out', hrun⟩ := exists_run_ok hplan hd
  exact ⟨plan, p, d, name, out', hplan, hd, hrun⟩

/-- A run whose types are all listed, and have names, succeeds into any memory sink. -/
theorem exists_run_of_isClosedOver (h : c.isClosedOver tys = true) (out : Output MemoryArtifacts) :
    ∃ plan p d name out', c.plan out = (.ok plan, p) ∧
      Dispatcher.ofPlan c.spec plan = .ok d ∧ c.run out = (.ok name, out') := by
  simp only [isClosedOver, Bool.and_eq_true, List.all_eq_true, List.contains_iff_mem] at h
  obtain ⟨⟨⟨⟨hclosed, hrequested⟩, htypes⟩, hgroups⟩, hmethods⟩ := h
  have hlisted : ∀ ty ∈ c.spec.targets ++ c.spec.reflect, ty ∈ tys :=
    fun ty hty => hrequested ty (GenerationSpec.mem_requested.2 hty)
  obtain ⟨steps, hsteps, hpaths⟩ := exists_groups_of_namesGroups hgroups
  have hclean : ∀ ty ∈ c.spec.targets ++ c.spec.reflect, c.host.Clean ty :=
    fun ty hty => Host.clean_of_isClosedList hclosed ty (hlisted ty hty)
  refine exists_run_of_clean hclean hsteps hpaths ?_ ?_ out
  · intro t hneeds
    obtain ⟨hlookUp, ty, hty, hreach⟩ := hneeds
    have hlist := Host.mem_of_reaches_of_isClosedList hclosed (hlisted ty hty) hreach
    have hname := htypes t.name hlist
    rw [namesType, hlookUp] at hname
    exact exists_eq_ok_of_isOk hname
  · exact fun t hneeds q hq => exists_methodIdent_of_namesMethods hmethods hneeds.1 hq

end GenerateCall

/-- A run for the machines and robots of the fleet. -/
def fleetCall : GenerateCall := ⟨fleetSpec, fleetDeclarations, fleetTable.toEngine⟩

/-- A run for the machines of the fleet alone, into the given package. -/
def machineCall (name : Source.Ident) (package : String) : GenerateCall where
  spec := (GenerationSpec.ofTargets name machineType []).withPackage package
  types := fleetDeclarations
  engine := fleetTable.toEngine

namespace GenerateCall

/-- The run for the fleet needs its four types, and all of them have names. -/
theorem isClosedOver_fleet : fleetCall.isClosedOver fleetTypes = true := by decide +kernel

theorem isClosedOver_machine :
    (machineCall (.plain "MachineValidator") "acme").isClosedOver [machineType] = true := by
  decide +kernel

end GenerateCall

end ValidatorForge
