import ValidatorForge.Proofs.Dispatch.Plan
import ValidatorForge.Proofs.Validation.ClassHandle
import ValidatorForge.Validation.Validator

/-!
# Instance dispatch finds the nearest target

`validate` and `validateProperty` take the first branch of whose class the object is an instance.
On a handle that mirrors the declared hierarchy the guards decide inheritance, and no planned type
stands after one of its strict supertypes.  So the branch taken is that of a target which the class
of the object inherits from, with no other such target below it
(`isNearestTarget_of_instanceTarget?`).  An object of a class that inherits from no target is
refused.
-/

namespace ValidatorForge

open Sample Validation

/-- One of the targets that a type inherits from, with no other of them below it. -/
structure IsNearestTarget (u : TypeUniverse) (targets : List TypeName) (ty t : TypeName) :
    Prop where
  target : t ∈ targets
  inherits : u.Inherits ty t
  nearest : ∀ t' ∈ targets, u.Inherits ty t' → t' ≠ t → ¬ u.Inherits t' t

namespace DispatchPlan

/-- The first planned type of whose class a handle is an instance. -/
def instanceTarget? (plan : DispatchPlan) (classOf : TypeName → ClassHandle) (c : ClassHandle) :
    Option ResolvedType :=
  plan.ordered.find? fun t => (classOf t.name).isAssignableFrom c

variable {σ : Type} [ArtifactSink σ] {spec : GenerationSpec} {host : Host} {p p' : Progress σ}
  {plan : DispatchPlan} {classOf : TypeName → ClassHandle} {c : ClassHandle}

/-- The guard of a planned type decides inheritance. -/
theorem guard_iff (h : build spec host p = (.ok plan, p'))
    (hclass : ∀ t ∈ spec.targets, (classOf t).name = t.text) (hmirrors : c.Mirrors host.types)
    (t : ResolvedType) (ht : t ∈ plan.ordered) :
    (classOf t.name).isAssignableFrom c = true ↔ host.types.Inherits c.type t.name := by
  have htarget : t.name ∈ spec.targets := (mem_orderedNames_iff h).1 (List.mem_map_of_mem ht)
  have htype : (classOf t.name).type = t.name := congrArg TypeName.mk (hclass _ htarget)
  rw [hmirrors.isAssignableFrom_iff, htype]

theorem isNearestTarget_of_instanceTarget? (h : build spec host p = (.ok plan, p'))
    (hclass : ∀ t ∈ spec.targets, (classOf t).name = t.text) (hmirrors : c.Mirrors host.types)
    {t : ResolvedType} (ht : plan.instanceTarget? classOf c = some t) :
    IsNearestTarget host.types spec.targets c.type t.name := by
  have hmem : t ∈ plan.ordered := List.mem_of_find?_eq_some ht
  have hguard := guard_iff h hclass hmirrors
  refine ⟨(mem_orderedNames_iff h).1 (List.mem_map_of_mem hmem), ?_, ?_⟩
  · have hassignable := List.find?_some ht
    exact (hguard t hmem).1 hassignable
  · intro t' ht' hinherits hne hbelow
    obtain ⟨r, hr, rfl⟩ := List.mem_map.1 ((mem_orderedNames_iff h).2 ht')
    -- the chosen type would stand before a strict subtype of its own
    have hstrict : host.types.StrictlyInherits r.name t.name :=
      hmirrors.strictlyInherits hinherits hbelow hne
    exact (specificFirst_ordered h).not_strictlyInherits_find? ht r hr ((hguard r hr).2 hinherits)
      hstrict

theorem instanceTarget?_eq_none_iff (h : build spec host p = (.ok plan, p'))
    (hclass : ∀ t ∈ spec.targets, (classOf t).name = t.text) (hmirrors : c.Mirrors host.types) :
    plan.instanceTarget? classOf c = none ↔
      ∀ t ∈ spec.targets, ¬ host.types.Inherits c.type t := by
  have hguard := guard_iff h hclass hmirrors
  rw [instanceTarget?, List.find?_eq_none]
  constructor
  · intro hnone t ht hinherits
    obtain ⟨r, hr, rfl⟩ := List.mem_map.1 ((mem_orderedNames_iff h).2 ht)
    exact hnone r hr ((hguard r hr).2 hinherits)
  · intro hnone r hr hassignable
    have ht : r.name ∈ spec.targets := (mem_orderedNames_iff h).1 (List.mem_map_of_mem hr)
    exact hnone _ ht ((hguard r hr).1 hassignable)

/-- An exact instance of a target reaches the branch of that target. -/
theorem instanceTarget?_of_mem_targets (h : build spec host p = (.ok plan, p'))
    (hclass : ∀ t ∈ spec.targets, (classOf t).name = t.text) (hmirrors : c.Mirrors host.types)
    (hc : c.type ∈ spec.targets) :
    ∃ t, plan.instanceTarget? classOf c = some t ∧ t.name = c.type := by
  have hself : host.types.Inherits c.type c.type := Relation.ReflTransGen.refl
  cases hfind : plan.instanceTarget? classOf c with
  | none => exact absurd hself ((instanceTarget?_eq_none_iff h hclass hmirrors).1 hfind _ hc)
  | some t =>
    have hnearest := isNearestTarget_of_instanceTarget? h hclass hmirrors hfind
    refine ⟨t, rfl, ?_⟩
    by_contra hne
    exact hnearest.nearest c.type hc hself (Ne.symm hne) hnearest.inherits

end DispatchPlan

/-! ## The operations of the validator -/

namespace Validation.Validator

variable {ν : Type} {v : Validator ν} {bean : Bean ν}

/-- `validate` and `validateProperty` hand an object to the validator of a dispatched type, in the
context of that type. -/
structure HandsTo (v : Validator ν) (bean : Bean ν) (t : TypeName) (context : ValidationContext ν) :
    Prop where
  validate : ∀ groups, v.validate bean groups = (v.validatorOf t).validate context bean groups
  validateProperty : ∀ property groups,
    v.validateProperty bean property groups =
      (v.validatorOf t).validateProperty context bean property groups

/-- `validate` and `validateProperty` refuse an object, and name the supported types. -/
structure Refuses (v : Validator ν) (bean : Bean ν) (supported : List TypeName) : Prop where
  validate : ∀ groups,
    v.validate bean groups =
      .error (.unsupportedType bean.handle.name (supported.map (·.text)))
  validateProperty : ∀ property groups,
    v.validateProperty bean property groups =
      .error (.unsupportedType bean.handle.name (supported.map (·.text)))

/-- The context that the branch of a type binds for an object: rooted at the class of the type, with
the constraints of the type's validator. -/
def contextOf (v : Validator ν) (bean : Bean ν) (t : TypeName) : ValidationContext ν :=
  ⟨v.classOf t, some bean, (v.validatorOf t).constraints v.groups, v.interpolator, v.traversable,
    v.groups⟩

theorem handsTo_of_instanceBranch? {b : Branch} (h : v.instanceBranch? bean = some b) :
    v.HandsTo bean b.bean (v.contextOf bean b.bean) where
  validate groups := by
    rw [validate, h]
    rfl
  validateProperty property groups := by
    rw [validateProperty, h]
    rfl

theorem refuses_of_instanceBranch? (h : v.instanceBranch? bean = none) :
    v.Refuses bean v.dispatcher.supported where
  validate groups := by
    rw [validate, h]
    rfl
  validateProperty property groups := by
    rw [validateProperty, h]
    rfl

/-- The branch that takes an object is that of the first planned type that does. -/
theorem instanceBranch?_map_bean {spec : GenerationSpec} {plan : DispatchPlan}
    (h : Dispatcher.ofPlan spec plan = .ok v.dispatcher) (bean : Bean ν) :
    (v.instanceBranch? bean).map (·.bean) =
      (plan.instanceTarget? v.classOf bean.handle).map (·.name) := by
  let takes (n : TypeName) : Bool := (v.classOf n).isAssignableFrom bean.handle
  calc
    (v.instanceBranch? bean).map (·.bean)
      = (v.dispatcher.branches.map (·.bean)).find? takes := by
        rw [List.find?_map]
        rfl
    _ = plan.orderedNames.find? takes := by rw [Dispatcher.branches_map_bean h]
    _ = (plan.instanceTarget? v.classOf bean.handle).map (·.name) := by
        rw [DispatchPlan.orderedNames, List.find?_map]
        rfl

/-- A linked dispatcher does what the first planned type that takes the object says. -/
theorem runs_instanceTarget? {spec : GenerationSpec} {plan : DispatchPlan}
    (h : Dispatcher.ofPlan spec plan = .ok v.dispatcher) :
    match plan.instanceTarget? v.classOf bean.handle with
    | some t => v.HandsTo bean t.name (v.contextOf bean t.name)
    | none => v.Refuses bean plan.orderedNames := by
  have hbranch := instanceBranch?_map_bean h bean
  cases htarget : plan.instanceTarget? v.classOf bean.handle with
  | some t =>
    rw [htarget] at hbranch
    obtain ⟨b, hb, hbean⟩ := Option.map_eq_some_iff.1 hbranch
    have hname : b.bean = t.name := hbean
    show v.HandsTo bean t.name (v.contextOf bean t.name)
    rw [← hname]
    exact handsTo_of_instanceBranch? hb
  | none =>
    rw [htarget] at hbranch
    rw [← Dispatcher.branches_map_bean h]
    exact refuses_of_instanceBranch? (Option.map_eq_none_iff.1 hbranch)

end Validation.Validator

/-- The handle of a scout mirrors the declared hierarchy, and so do those above it. -/
theorem scout_mirrors : scoutHandle.Mirrors fleetHost.types := by
  have hmachine : machineHandle.Mirrors fleetHost.types :=
    ClassHandle.Mirrors.of_links ⟨rfl, rfl⟩ (List.forall_mem_nil _)
  have hrobot : robotHandle.Mirrors fleetHost.types :=
    ClassHandle.Mirrors.of_links ⟨rfl, rfl⟩ (List.forall_mem_singleton.2 hmachine)
  exact ClassHandle.Mirrors.of_links ⟨rfl, rfl⟩ (List.forall_mem_singleton.2 hrobot)

/-- On an object whose class mirrors the declared hierarchy, the chain of a plan takes the branch of
the nearest target, or refuses the object exactly when its class inherits from no target.  The
supported types are the distinct targets in the order of their branches. -/
theorem dispatches_to_nearest_target {σ : Type} [ArtifactSink σ] {spec : GenerationSpec}
    {host : Host} {p p' : Progress σ} {plan : DispatchPlan} {classOf : TypeName → ClassHandle}
    {c : ClassHandle} (hbuild : DispatchPlan.build spec host p = (.ok plan, p'))
    (hclass : ∀ t ∈ spec.targets, (classOf t).name = t.text) (hmirrors : c.Mirrors host.types) :
    (∀ t, plan.instanceTarget? classOf c = some t →
      IsNearestTarget host.types spec.targets c.type t.name) ∧
    (plan.instanceTarget? classOf c = none ↔
      ∀ t ∈ spec.targets, ¬ host.types.Inherits c.type t) ∧
    (c.type ∈ spec.targets → ∃ t, plan.instanceTarget? classOf c = some t ∧ t.name = c.type) ∧
    plan.orderedNames.Perm spec.targets.eraseDups ∧
    ∀ (ν : Type) (v : Validator ν) (bean : Bean ν),
      Dispatcher.ofPlan spec plan = .ok v.dispatcher → v.classOf = classOf → bean.handle = c →
      match plan.instanceTarget? classOf c with
      | some t => v.HandsTo bean t.name (v.contextOf bean t.name)
      | none => v.Refuses bean plan.orderedNames := by
  refine ⟨fun t ht => ?_, ?_, ?_, DispatchPlan.orderedNames_perm hbuild, ?_⟩
  · exact DispatchPlan.isNearestTarget_of_instanceTarget? hbuild hclass hmirrors ht
  · exact DispatchPlan.instanceTarget?_eq_none_iff hbuild hclass hmirrors
  · exact DispatchPlan.instanceTarget?_of_mem_targets hbuild hclass hmirrors
  · intro ν v bean hdispatcher hclassOf hhandle
    subst hclassOf hhandle
    exact Validator.runs_instanceTarget? hdispatcher

/-- A scout goes to the robots, although the machines are listed before them. -/
theorem dispatches_scout_to_robots :
    ∃ (plan : DispatchPlan) (p' : Progress MemoryArtifacts),
      DispatchPlan.build fleetSpec fleetHost ⟨{}, { sink := {} }⟩ = (.ok plan, p') ∧
      ∃ t, plan.instanceTarget? fleetClass scoutHandle = some t ∧ t.name = robotType := by
  have hmem : ∀ ty ∈ fleetSpec.targets, ty ∈ fleetTypes := by decide
  have hclean : ∀ ty ∈ fleetSpec.targets, fleetHost.Clean ty :=
    fun ty hty => Host.clean_fleet ty (hmem ty hty)
  obtain ⟨plan, p', hbuild⟩ :=
    DispatchPlan.build_total hclean (fun _ hty => nomatch hty) rfl ⟨{}, { sink := {} }⟩
  have hclass : ∀ t ∈ fleetSpec.targets, (fleetClass t).name = t.text := by decide
  obtain ⟨hnearest, hnone, _⟩ := dispatches_to_nearest_target hbuild hclass scout_mirrors
  have hrobot : fleetHost.types.Inherits scoutType robotType :=
    Relation.ReflTransGen.single (by decide)
  have hmachine : fleetHost.types.Inherits robotType machineType :=
    Relation.ReflTransGen.single (by decide)
  cases hfind : plan.instanceTarget? fleetClass scoutHandle with
  | none => exact absurd hrobot (hnone.1 hfind robotType (by decide))
  | some t =>
    have ht := hnearest t hfind
    refine ⟨plan, p', hbuild, t, hfind, ?_⟩
    by_contra hne
    have htarget : t.name ∈ [machineType, robotType, machineType] := ht.target
    have hname : t.name = machineType := by simpa [hne] using htarget
    exact ht.nearest robotType (by decide) hrobot (Ne.symm hne) (hname ▸ hmachine)

end ValidatorForge
