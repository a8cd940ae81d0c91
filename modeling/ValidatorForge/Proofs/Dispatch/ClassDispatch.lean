import ValidatorForge.Proofs.Dispatch.InstanceDispatch
import ValidatorForge.Proofs.Dispatch.Renderable

/-!
# Dispatch by class agrees with dispatch by instance

`validateValue` and `constraintsFor` have no object to test.  They take the branch of whose class
the given one is, where `validate` and `validateProperty` take the first one above the object.  On
an exact instance of a target all four take the branch of that target
(`operations_agree_on_targets`): nothing below the target stands before it.

On any other class the first two refuse, also where the other two find a target above it.
-/

namespace ValidatorForge

open Sample Validation

namespace Validation.Validator

variable {ν : Type} {v : Validator ν} {c : ClassHandle}

/-- The context that the branch of a type binds for a class: rooted at the class, without an object,
with the constraints of the type's validator. -/
def classContextOf (v : Validator ν) (c : ClassHandle) (t : TypeName) : ValidationContext ν :=
  ⟨c, none, (v.validatorOf t).constraints v.groups, v.interpolator, v.traversable, v.groups⟩

/-- `validateValue` and `constraintsFor` hand a class to the validator of a dispatched type. -/
structure HandsClassTo (v : Validator ν) (c : ClassHandle) (t : TypeName) : Prop where
  validateValue : ∀ property value groups,
    v.validateValue c property value groups =
      (v.validatorOf t).validateValue (v.classContextOf c t) c property value groups
  constraintsFor : v.constraintsFor c = .ok ((v.validatorOf t).constraints v.groups)

/-- `validateValue` and `constraintsFor` refuse a class, and name the supported types. -/
structure RefusesClass (v : Validator ν) (c : ClassHandle) (supported : List TypeName) : Prop where
  validateValue : ∀ property value groups,
    v.validateValue c property value groups =
      .error (.unsupportedType c.name (supported.map (·.text)))
  constraintsFor : v.constraintsFor c = .error (.unsupportedType c.name (supported.map (·.text)))

theorem handsClassTo_of_classBranch? {b : Branch} (h : v.classBranch? c = some b) :
    v.HandsClassTo c b.bean where
  validateValue property value groups := by
    rw [validateValue, h]
    rfl
  constraintsFor := by
    rw [constraintsFor, h]
    rfl

theorem refusesClass_of_classBranch? (h : v.classBranch? c = none) :
    v.RefusesClass c v.dispatcher.supported where
  validateValue property value groups := by
    rw [validateValue, h]
    rfl
  constraintsFor := by
    rw [constraintsFor, h]
    rfl

variable {σ : Type} [ArtifactSink σ] {spec : GenerationSpec} {host : Host} {p p' : Progress σ}
  {plan : DispatchPlan}

/-- The branches of a plan dispatch to the targets, each of them once. -/
theorem nodup_branch_beans (hbuild : DispatchPlan.build spec host p = (.ok plan, p'))
    (hd : Dispatcher.ofPlan spec plan = .ok v.dispatcher) :
    (v.dispatcher.branches.map (·.bean)).Nodup := by
  rw [Dispatcher.branches_map_bean hd]
  exact DispatchPlan.nodup_orderedNames hbuild

/-- The branch that takes a class is the one of the type that the class has. -/
theorem classBranch?_eq_some_iff (hbuild : DispatchPlan.build spec host p = (.ok plan, p'))
    (hd : Dispatcher.ofPlan spec plan = .ok v.dispatcher)
    (hclass : ∀ t ∈ spec.targets, (v.classOf t).name = t.text) {b : Branch} :
    v.classBranch? c = some b ↔ b ∈ v.dispatcher.branches ∧ b.bean = c.type := by
  refine find?_eq_some_iff_of_key (nodup_branch_beans hbuild hd) fun b hb => ?_
  have htarget : b.bean ∈ spec.targets := by
    rw [← DispatchPlan.mem_orderedNames_iff hbuild, ← Dispatcher.branches_map_bean hd]
    exact List.mem_map_of_mem hb
  have hname : (v.classOf b.bean).name = b.bean.text := hclass _ htarget
  show (c.name == (v.classOf b.bean).name) = true ↔ b.bean = c.type
  rw [hname, beq_iff_eq]
  constructor
  · exact fun htext => congrArg TypeName.mk htext.symm
  · intro hbean
    rw [hbean]
    rfl

/-- A class that is no target has no branch. -/
theorem classBranch?_eq_none (hbuild : DispatchPlan.build spec host p = (.ok plan, p'))
    (hd : Dispatcher.ofPlan spec plan = .ok v.dispatcher)
    (hclass : ∀ t ∈ spec.targets, (v.classOf t).name = t.text) (hc : c.type ∉ spec.targets) :
    v.classBranch? c = none := by
  refine Option.eq_none_iff_forall_ne_some.2 fun b hb => hc ?_
  obtain ⟨hmem, hbean⟩ := (classBranch?_eq_some_iff hbuild hd hclass).1 hb
  rw [← hbean, ← DispatchPlan.mem_orderedNames_iff hbuild, ← Dispatcher.branches_map_bean hd]
  exact List.mem_map_of_mem hmem

/-- A target has one branch, which takes its class and the exact instances of the class. -/
theorem exists_branch_of_target (hbuild : DispatchPlan.build spec host p = (.ok plan, p'))
    (hd : Dispatcher.ofPlan spec plan = .ok v.dispatcher)
    (hclass : ∀ t ∈ spec.targets, (v.classOf t).name = t.text) (hc : c.type ∈ spec.targets) :
    ∃ t ∈ plan.ordered, t.name = c.type ∧ ∃ b,
      Dispatcher.branchOf spec.config.root t = .ok b ∧ v.classBranch? c = some b ∧
      ∀ bean : Bean ν, bean.handle = c → c.Mirrors host.types →
        v.instanceBranch? bean = some b := by
  obtain ⟨t, ht, hname⟩ := List.mem_map.1 ((DispatchPlan.mem_orderedNames_iff hbuild).2 hc)
  obtain ⟨b, hb, hbranch⟩ := exists_mem_of_forall₂ (Dispatcher.branches_of_ofPlan hd) t ht
  have hbean : b.bean = c.type := (Dispatcher.bean_of_branchOf hbranch).trans hname
  refine ⟨t, ht, hname, b, hbranch, (classBranch?_eq_some_iff hbuild hd hclass).2 ⟨hb, hbean⟩, ?_⟩
  intro bean hhandle hmirrors
  subst hhandle
  obtain ⟨t', htarget, hname'⟩ :=
    DispatchPlan.instanceTarget?_of_mem_targets hbuild hclass hmirrors hc
  have hmap := instanceBranch?_map_bean hd bean
  rw [htarget] at hmap
  obtain ⟨b', hb', hbean'⟩ := Option.map_eq_some_iff.1 hmap
  -- both branches are the one for the type of the object
  have hsame : b'.bean = b.bean := hbean'.trans (hname'.trans hbean.symm)
  have hmem' : b' ∈ v.dispatcher.branches := List.mem_of_find?_eq_some hb'
  rw [hb', List.inj_on_of_nodup_map (nodup_branch_beans hbuild hd) hmem' hb hsame]

end Validation.Validator

/-- For the class of a target, the four operations that dispatch take the same branch: that of the
target, in contexts that are rooted at the class and have the constraints that the target's
validator reports.  Any other class is refused by `validateValue` and `constraintsFor`, which name
the dispatched types in their order, even where the objects of the class have a nearest target that
they are handed to. -/
theorem operations_agree_on_targets {σ ν : Type} [ArtifactSink σ] {spec : GenerationSpec}
    {host : Host} {p p' : Progress σ} {plan : DispatchPlan} {v : Validator ν}
    (hbuild : DispatchPlan.build spec host p = (.ok plan, p'))
    (hd : Dispatcher.ofPlan spec plan = .ok v.dispatcher)
    (hclass : ∀ t ∈ spec.targets, (v.classOf t).name = t.text) :
    (∀ c : ClassHandle, c.type ∈ spec.targets →
      ∃ t ∈ plan.ordered, t.name = c.type ∧ ∃ b,
        Dispatcher.branchOf spec.config.root t = .ok b ∧ v.classBranch? c = some b ∧
        v.HandsClassTo c c.type ∧
        ∀ bean : Bean ν, bean.handle = c → c.Mirrors host.types →
          v.instanceBranch? bean = some b ∧ v.HandsTo bean c.type (v.contextOf bean c.type) ∧
          (v.contextOf bean c.type).rootClass.type = c.type) ∧
    ∀ c : ClassHandle, c.type ∉ spec.targets →
      v.RefusesClass c plan.orderedNames ∧
      ∀ bean : Bean ν, bean.handle = c → c.Mirrors host.types →
        (∃ t ∈ spec.targets, host.types.Inherits c.type t) →
        ∃ t, IsNearestTarget host.types spec.targets c.type t ∧
          v.HandsTo bean t (v.contextOf bean t) := by
  constructor
  · intro c hc
    obtain ⟨t, ht, hname, b, hbranch, htakes, hexact⟩ :=
      Validator.exists_branch_of_target hbuild hd hclass hc
    have hbean : b.bean = c.type := (Dispatcher.bean_of_branchOf hbranch).trans hname
    have hhands := Validator.handsClassTo_of_classBranch? htakes
    rw [hbean] at hhands
    refine ⟨t, ht, hname, b, hbranch, htakes, hhands, fun bean hhandle hmirrors => ?_⟩
    have htaken := hexact bean hhandle hmirrors
    have hobject := Validator.handsTo_of_instanceBranch? htaken
    rw [hbean] at hobject
    exact ⟨htaken, hobject, congrArg TypeName.mk (hclass _ hc)⟩
  · intro c hc
    have hnone := Validator.classBranch?_eq_none hbuild hd hclass hc
    have hrefuses := Validator.refusesClass_of_classBranch? hnone
    rw [Dispatcher.supported, Dispatcher.branches_map_bean hd] at hrefuses
    refine ⟨hrefuses, fun bean hhandle hmirrors hinherits => ?_⟩
    subst hhandle
    have hruns := @Validator.runs_instanceTarget? ν v bean spec plan hd
    cases htarget : plan.instanceTarget? v.classOf bean.handle with
    | none =>
      obtain ⟨t, ht, habove⟩ := hinherits
      have hrefused := (DispatchPlan.instanceTarget?_eq_none_iff hbuild hclass hmirrors).1 htarget
      exact absurd habove (hrefused t ht)
    | some t =>
      rw [htarget] at hruns
      refine ⟨t.name, ?_, hruns⟩
      exact DispatchPlan.isNearestTarget_of_instanceTarget? hbuild hclass hmirrors htarget

/-- A dispatcher linked with the classes of the fleet. -/
def fleetValidator (d : Dispatcher) : Validator Unit := lenientlyLinked fleetClass d

/-- The robots have their own branch for objects and for their class.  The class of the scouts is
refused, although the machines and robots take its objects. -/
theorem scouts_are_dispatched_as_objects_only :
    ∃ (plan : DispatchPlan) (d : Dispatcher), Dispatcher.ofPlan fleetSpec plan = .ok d ∧
      (fleetValidator d).HandsClassTo robotHandle robotType ∧
      (fleetValidator d).RefusesClass scoutHandle plan.orderedNames ∧
      ∀ bean : Bean Unit, bean.handle = scoutHandle →
        ∃ t, IsNearestTarget fleetDeclarations fleetSpec.targets scoutType t ∧
          (fleetValidator d).HandsTo bean t ((fleetValidator d).contextOf bean t) := by
  obtain ⟨plan, p, d, _, _, hplan, hd, _⟩ :=
    GenerateCall.exists_run_of_isClosedOver GenerateCall.isClosedOver_fleet { sink := {} }
  have hclass : ∀ t ∈ fleetSpec.targets, (fleetClass t).name = t.text := by decide
  obtain ⟨htargets, hothers⟩ := operations_agree_on_targets (v := fleetValidator d) hplan hd hclass
  obtain ⟨_, _, _, _, _, _, hrobots, _⟩ := htargets robotHandle (by decide)
  obtain ⟨hscouts, hobjects⟩ := hothers scoutHandle (by decide)
  have hrobot : fleetDeclarations.Inherits scoutType robotType :=
    Relation.ReflTransGen.single (by decide)
  refine ⟨plan, d, hd, hrobots, hscouts, fun bean hhandle => ?_⟩
  exact hobjects bean hhandle scout_mirrors ⟨robotType, by decide, hrobot⟩

end ValidatorForge
