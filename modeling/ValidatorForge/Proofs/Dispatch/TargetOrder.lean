import ValidatorForge.Proofs.Dispatch.InstanceDispatch
import ValidatorForge.Proofs.Dispatch.Renderable
import ValidatorForge.Proofs.Validation.LinkedClasses

/-!
# Dispatch does not depend on the order of the targets

Listing the targets in another order really changes a plan: unrelated types end up in other places.
It changes nothing for an object as long as the targets above its class form a chain
(`ChainAbove`).  Then only one of them is nearest (`IsNearestTarget.eq`), and both plans choose it
(`instanceTarget?_eq_some_iff`).

The targets above a class form a chain if they are all reached through superclasses, as a class has
one superclass at most (`chainAbove_of_superclasses`).  Below two unrelated interfaces there is no
such chain, and then the order does matter.
-/

namespace ValidatorForge

open Relation Sample Validation

namespace TypeUniverse

variable {u : TypeUniverse} {targets : List TypeName} {a b ty : TypeName}

/-- Any two targets that a type inherits from are related. -/
def ChainAbove (u : TypeUniverse) (targets : List TypeName) (ty : TypeName) : Prop :=
  ∀ s ∈ targets, ∀ t ∈ targets, u.Inherits ty s → u.Inherits ty t →
    u.Inherits s t ∨ u.Inherits t s

/-- A chain of superclasses leads from one type to another. -/
def InheritsBySuperclass (u : TypeUniverse) : TypeName → TypeName → Prop :=
  ReflTransGen fun a b => u.superclass? a = some b

theorem InheritsBySuperclass.inherits (h : u.InheritsBySuperclass a b) : u.Inherits a b := by
  induction h with
  | refl => exact ReflTransGen.refl
  | tail _ hlast ih => exact ih.tail (extends_of_superclass? hlast)

/-- Targets that are reached through superclasses alone form a chain. -/
theorem chainAbove_of_superclasses
    (h : ∀ t ∈ targets, u.Inherits ty t → u.InheritsBySuperclass ty t) :
    u.ChainAbove targets ty := by
  have hunique : Relator.RightUnique fun a b => u.superclass? a = some b :=
    fun _ _ _ hb hc => Option.some.inj (hb.symm.trans hc)
  intro s hs t ht hinheritsS hinheritsT
  have hpathS := h s hs hinheritsS
  have hpathT := h t ht hinheritsT
  rcases ReflTransGen.total_of_right_unique hunique hpathS hpathT with hst | hts
  · exact Or.inl (InheritsBySuperclass.inherits hst)
  · exact Or.inr (InheritsBySuperclass.inherits hts)

end TypeUniverse

/-- It does not matter for a nearest target where it is listed. -/
theorem IsNearestTarget.congr {u : TypeUniverse} {targets targets' : List TypeName}
    {ty t : TypeName} (h : IsNearestTarget u targets ty t)
    (hsame : ∀ n, n ∈ targets ↔ n ∈ targets') : IsNearestTarget u targets' ty t where
  target := (hsame t).1 h.target
  inherits := h.inherits
  nearest s hs := h.nearest s ((hsame s).2 hs)

/-- Of targets in a chain only one is nearest. -/
theorem IsNearestTarget.eq {u : TypeUniverse} {targets : List TypeName} {ty s t : TypeName}
    (hs : IsNearestTarget u targets ty s) (ht : IsNearestTarget u targets ty t)
    (hchain : u.ChainAbove targets ty) : s = t := by
  by_contra hne
  rcases hchain s hs.target t ht.target hs.inherits ht.inherits with hst | hts
  · exact ht.nearest s hs.target hs.inherits hne hst
  · exact hs.nearest t ht.target ht.inherits (Ne.symm hne) hts

/-- The branch of a type depends on its name only. -/
theorem Dispatcher.branchOf_congr {root : Source.ModPath} {s t : ResolvedType}
    (h : s.name = t.name) : branchOf root s = branchOf root t := by
  have hpackage : s.outputPackage = t.outputPackage := congrArg TypeName.package h
  have hname : s.outputName = t.outputName := by
    rw [ResolvedType.outputName, ResolvedType.outputName, h]
  rw [branchOf, branchOf, h, hpackage, hname]

section

variable {σ : Type} [ArtifactSink σ] {spec : GenerationSpec} {targets : List TypeName}
  {host : Host} {p p' q q' : Progress σ} {plan plan' : DispatchPlan}
  {classOf : TypeName → ClassHandle} {c : ClassHandle}

/-- With a chain of targets above a class, a plan chooses the nearest of them and no other. -/
theorem DispatchPlan.instanceTarget?_eq_some_iff (hbuild : build spec host p = (.ok plan, q))
    (hclass : ∀ t ∈ spec.targets, (classOf t).name = t.text) (hmirrors : c.Mirrors host.types)
    (hchain : host.types.ChainAbove spec.targets c.type) {t : TypeName} :
    (plan.instanceTarget? classOf c).map (·.name) = some t ↔
      IsNearestTarget host.types spec.targets c.type t := by
  cases htarget : plan.instanceTarget? classOf c with
  | none =>
    have hrefused := (instanceTarget?_eq_none_iff hbuild hclass hmirrors).1 htarget
    constructor
    · intro h
      cases h
    · intro ht
      exact absurd ht.inherits (hrefused t ht.target)
  | some s =>
    have hs := isNearestTarget_of_instanceTarget? hbuild hclass hmirrors htarget
    constructor
    · intro h
      cases h
      exact hs
    · intro ht
      exact congrArg some (hs.eq ht hchain)

/-- Plans for the same targets choose the same one for a class with a chain of targets above. -/
theorem DispatchPlan.instanceTarget?_congr (hperm : targets.Perm spec.targets)
    (hbuild : build spec host p = (.ok plan, q))
    (hbuild' : build { spec with targets } host p' = (.ok plan', q'))
    (hclass : ∀ t ∈ spec.targets, (classOf t).name = t.text) (hmirrors : c.Mirrors host.types)
    (hchain : host.types.ChainAbove spec.targets c.type) :
    (plan.instanceTarget? classOf c).map (·.name) =
      (plan'.instanceTarget? classOf c).map (·.name) := by
  have hsame : ∀ n, n ∈ targets ↔ n ∈ spec.targets := fun _ => hperm.mem_iff
  have hclass' : ∀ t ∈ targets, (classOf t).name = t.text :=
    fun t ht => hclass t ((hsame t).1 ht)
  have hchain' : host.types.ChainAbove targets c.type :=
    fun s hs t ht => hchain s ((hsame s).1 hs) t ((hsame t).1 ht)
  refine Option.ext fun t => ?_
  rw [instanceTarget?_eq_some_iff hbuild hclass hmirrors hchain,
    instanceTarget?_eq_some_iff hbuild' hclass' hmirrors hchain']
  constructor
  · exact fun h => h.congr fun n => (hsame n).symm
  · exact fun h => h.congr hsame

/-- Branches for one type are the same in two dispatchers with the same root. -/
theorem Dispatcher.branch_eq {spec spec' : GenerationSpec} {d d' : Dispatcher} {b b' : Branch}
    (hd : ofPlan spec plan = .ok d) (hd' : ofPlan spec' plan' = .ok d')
    (hroot : spec.config.root = spec'.config.root) (hb : b ∈ d.branches) (hb' : b' ∈ d'.branches)
    (hbean : b.bean = b'.bean) : b = b' := by
  obtain ⟨s, _, hs⟩ := exists_mem_of_forall₂ (branches_of_ofPlan hd).flip b hb
  obtain ⟨t, _, ht⟩ := exists_mem_of_forall₂ (branches_of_ofPlan hd').flip b' hb'
  have hname : s.name = t.name := by
    rw [← bean_of_branchOf hs, ← bean_of_branchOf ht, hbean]
  have hsame : branchOf spec.config.root s = branchOf spec.config.root t := branchOf_congr hname
  rw [hs, hroot, ht] at hsame
  exact Except.ok.inj hsame

/-- Dispatchers that choose the same type for an object take the same branch. -/
theorem Validation.Validator.instanceBranch?_congr {spec spec' : GenerationSpec} {ν : Type}
    {v v' : Validator ν} {bean : Bean ν} (hd : Dispatcher.ofPlan spec plan = .ok v.dispatcher)
    (hd' : Dispatcher.ofPlan spec' plan' = .ok v'.dispatcher)
    (hroot : spec.config.root = spec'.config.root)
    (hsame : (plan.instanceTarget? v.classOf bean.handle).map (·.name) =
      (plan'.instanceTarget? v'.classOf bean.handle).map (·.name)) :
    v.instanceBranch? bean = v'.instanceBranch? bean := by
  have hbeans : (v.instanceBranch? bean).map (·.bean) = (v'.instanceBranch? bean).map (·.bean) := by
    rw [instanceBranch?_map_bean hd, instanceBranch?_map_bean hd', hsame]
  cases hb : v.instanceBranch? bean with
  | none =>
    rw [hb] at hbeans
    exact (Option.map_eq_none_iff.1 hbeans.symm).symm
  | some b =>
    rw [hb] at hbeans
    obtain ⟨b', hb', hbean⟩ := Option.map_eq_some_iff.1 hbeans.symm
    have hmem : b ∈ v.dispatcher.branches := List.mem_of_find?_eq_some hb
    have hmem' : b' ∈ v'.dispatcher.branches := List.mem_of_find?_eq_some hb'
    rw [hb', Dispatcher.branch_eq hd hd' hroot hmem hmem' hbean.symm]

/-- Two plans for one list of targets in different orders choose alike for the objects of a class,
if the targets above the class form a chain.  Both take the branch of the nearest target, or none if
there is no target above.  The targets form a chain if all of them are reached through
superclasses. -/
theorem permuted_targets_take_same_branch (hperm : targets.Perm spec.targets)
    (hbuild : DispatchPlan.build spec host p = (.ok plan, q))
    (hbuild' : DispatchPlan.build { spec with targets } host p' = (.ok plan', q'))
    (hclass : ∀ t ∈ spec.targets, (classOf t).name = t.text) :
    (∀ c : ClassHandle, c.Mirrors host.types → host.types.ChainAbove spec.targets c.type →
      ∃ choice : Option TypeName,
        (∀ t, choice = some t ↔ IsNearestTarget host.types spec.targets c.type t) ∧
        (choice = none ↔ ∀ t ∈ spec.targets, ¬ host.types.Inherits c.type t) ∧
        (plan.instanceTarget? classOf c).map (·.name) = choice ∧
        (plan'.instanceTarget? classOf c).map (·.name) = choice ∧
        ∀ (ν : Type) (v v' : Validator ν) (bean : Bean ν),
          Dispatcher.ofPlan spec plan = .ok v.dispatcher →
          Dispatcher.ofPlan { spec with targets } plan' = .ok v'.dispatcher →
          v.classOf = classOf → v'.classOf = classOf → bean.handle = c →
          (v.instanceBranch? bean).map (·.bean) = choice ∧
            v.instanceBranch? bean = v'.instanceBranch? bean) ∧
    ∀ ty, (∀ t ∈ spec.targets, host.types.Inherits ty t → host.types.InheritsBySuperclass ty t) →
      host.types.ChainAbove spec.targets ty := by
  constructor
  · intro c hmirrors hchain
    have hsame := DispatchPlan.instanceTarget?_congr hperm hbuild hbuild' hclass hmirrors hchain
    refine ⟨_, fun t => ?_, ?_, rfl, hsame.symm, ?_⟩
    · exact DispatchPlan.instanceTarget?_eq_some_iff hbuild hclass hmirrors hchain
    · rw [Option.map_eq_none_iff]
      exact DispatchPlan.instanceTarget?_eq_none_iff hbuild hclass hmirrors
    · intro ν v v' bean hd hd' hclassOf hclassOf' hhandle
      subst hhandle
      constructor
      · rw [Validator.instanceBranch?_map_bean hd, hclassOf]
      · apply Validator.instanceBranch?_congr hd hd' rfl
        rw [hclassOf, hclassOf']
        exact hsame
  · exact fun ty hsuper => TypeUniverse.chainAbove_of_superclasses hsuper

end

/-- A run for the targets of the fleet in another order. -/
def robotsFirstCall : GenerateCall :=
  { fleetCall with spec := { fleetSpec with targets := [robotType, machineType, machineType] } }

/-- Above scouts there are machines and robots, which are all superclasses of theirs, so a scout
goes to the robots whichever of them is listed first. -/
theorem scouts_take_robots_in_any_order :
    ∃ (plan plan' : DispatchPlan) (d d' : Dispatcher),
      Dispatcher.ofPlan fleetSpec plan = .ok d ∧
      Dispatcher.ofPlan robotsFirstCall.spec plan' = .ok d' ∧
      ∀ bean : Bean Unit, bean.handle = scoutHandle →
        ((lenientlyLinked fleetClass d).instanceBranch? bean).map (·.bean) = some robotType ∧
        (lenientlyLinked fleetClass d).instanceBranch? bean =
          (lenientlyLinked fleetClass d').instanceBranch? bean := by
  obtain ⟨plan, p, d, _, _, hplan, hd, _⟩ :=
    GenerateCall.exists_run_of_isClosedOver GenerateCall.isClosedOver_fleet { sink := {} }
  have hclosed : robotsFirstCall.isClosedOver fleetTypes = true := by decide +kernel
  obtain ⟨plan', p', d', _, _, hplan', hd', _⟩ :=
    GenerateCall.exists_run_of_isClosedOver hclosed { sink := {} }
  have hperm : [robotType, machineType, machineType].Perm fleetSpec.targets := by decide
  have hclass : ∀ t ∈ fleetSpec.targets, (fleetClass t).name = t.text := by decide
  obtain ⟨hchoice, hsupers⟩ := permuted_targets_take_same_branch hperm hplan hplan' hclass
  have htargets : ∀ t ∈ fleetSpec.targets, t = machineType ∨ t = robotType := by decide
  have hrobot : fleetDeclarations.InheritsBySuperclass scoutType robotType :=
    ReflTransGen.single (by decide)
  have hmachine : fleetDeclarations.InheritsBySuperclass robotType machineType :=
    ReflTransGen.single (by decide)
  have hsuper : ∀ t ∈ fleetSpec.targets, fleetDeclarations.Inherits scoutType t →
      fleetDeclarations.InheritsBySuperclass scoutType t := by
    intro t ht _
    rcases htargets t ht with rfl | rfl
    · exact hrobot.trans hmachine
    · exact hrobot
  obtain ⟨choice, hnearest, _, _, _, hbranches⟩ :=
    hchoice scoutHandle scout_mirrors (hsupers scoutType hsuper)
  have hrobots : choice = some robotType := by
    refine (hnearest robotType).2 ⟨by decide, hrobot.inherits, fun t ht _ hne hinherits => ?_⟩
    rcases htargets t ht with rfl | rfl
    · -- machines extend nothing
      have hclosed : ∀ a ∈ [machineType], ∀ b ∈ fleetDeclarations.directSupertypes a,
          b ∈ [machineType] := by decide
      have hmem := TypeUniverse.mem_of_inherits_of_closed hclosed List.mem_cons_self hinherits
      exact absurd hmem (by decide)
    · exact hne rfl
  refine ⟨plan, plan', d, d', hd, hd', fun bean hhandle => ?_⟩
  rw [← hrobots]
  exact hbranches Unit _ _ bean hd hd' rfl rfl hhandle

end ValidatorForge
