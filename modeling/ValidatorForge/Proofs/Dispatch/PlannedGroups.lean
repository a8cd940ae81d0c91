import ValidatorForge.Proofs.Dispatch.Renderable
import ValidatorForge.Proofs.Validation.ClassHandle
import ValidatorForge.Proofs.Validation.GroupChain

/-!
# The groups of a plan

A plan keeps one step for each distinct group of its spec, in the order in which they are listed
first (`map_name_groups`), and the step says what the declaration of the group says
(`exists_decl_of_mem_groups`).  The validator registers these steps, so at run time its chain
answers as the declarations do (`GroupChain.Describes`), which is
`planned_groups_describe_declarations`.

Repeated groups are planned once.  A sequence may list itself, and is then a member like any other.
-/

namespace ValidatorForge

open Sample Validation

/-- Whether a type is declared as a group sequence. -/
def TypeUniverse.declaresSequence (u : TypeUniverse) (group : TypeName) : Bool :=
  match u.find? group with
  | some d => d.groupSequence.isSome
  | none => false

/-- What a chain answers for a group is what the group's declaration says. -/
structure Validation.GroupChain.Describes (chain : GroupChain)
    (classOf : TypeName → ClassHandle) (group : TypeName) (d : ClassDecl) : Prop where
  /-- The group is a sequence if it is declared with members. -/
  isSequence : chain.isSequence (classOf group) = d.groupSequence.isSome
  /-- The members of a sequence are the declared ones. -/
  members : chain.members? (classOf group) = d.groupSequence.map (·.map classOf)
  /-- The parents of a plain group are its declared interfaces. -/
  parents : chain.parents? (classOf group) =
    if d.groupSequence.isSome then none else some (d.interfaces.map classOf)
  /-- A request stands for the members of a sequence, or for a plain group and its parents. -/
  expand : chain.expand [classOf group] =
    (d.groupSequence.getD (group :: d.interfaces)).eraseDups.map classOf

namespace DispatchPlan

variable {σ : Type} [ArtifactSink σ] {spec : GenerationSpec} {host : Host} {p p' : Progress σ}
  {plan : DispatchPlan} {classOf : TypeName → ClassHandle}

/-- The chain of the planned groups. -/
def groupChain (plan : DispatchPlan) (classOf : TypeName → ClassHandle) : GroupChain :=
  GroupChain.ofSteps classOf plan.groups

/-! ## Steps and declarations -/

section

variable (d : ClassDecl) (group : TypeName)

@[simp] theorem name_groupStep : (groupStep d group).name = group := by
  unfold groupStep
  cases d.groupSequence <;> rfl

@[simp] theorem isSequence_groupStep :
    (groupStep d group).isSequence = d.groupSequence.isSome := by
  unfold groupStep
  cases d.groupSequence <;> rfl

@[simp] theorem others_groupStep :
    (groupStep d group).others = d.groupSequence.getD d.interfaces := by
  unfold groupStep
  cases d.groupSequence <;> rfl

@[simp] theorem standsFor_groupStep :
    (groupStep d group).standsFor = d.groupSequence.getD (group :: d.interfaces) := by
  unfold groupStep
  cases d.groupSequence <;> rfl

end

theorem mem_of_mem_others_groupStep {d : ClassDecl} {group ty : TypeName}
    (h : ty ∈ (groupStep d group).others) : ty ∈ d.interfaces ++ d.groupSequence.getD [] := by
  rw [others_groupStep] at h
  cases hsequence : d.groupSequence with
  | none =>
    rw [hsequence] at h
    exact List.mem_append_left _ h
  | some members =>
    rw [hsequence] at h
    exact List.mem_append_right _ h

/-- Each group has the step of its declaration. -/
theorem forall₂_groupSteps {groups : List TypeName} {steps : List GroupStep}
    (h : groupSteps host groups = .ok steps) :
    List.Forall₂ (fun group step => ∃ d, host.types.find? group = some d ∧ step = groupStep d group)
      groups steps := by
  refine (Dispatcher.forall₂_of_mapM h).imp fun group step hstep => ?_
  obtain ⟨d, hload, hstep⟩ := Dispatcher.bind_ok hstep
  unfold TypeUniverse.load at hload
  split at hload
  · next hfind =>
    cases hload
    cases hstep
    exact ⟨d, hfind, rfl⟩
  · cases hload

/-- Groups that are declared have steps. -/
theorem groupSteps_total {groups : List TypeName}
    (h : ∀ g ∈ groups, ∃ d, host.types.find? g = some d) :
    ∃ steps, groupSteps host groups = .ok steps := by
  refine Dispatcher.mapM_total fun g hg => ?_
  obtain ⟨d, hfind⟩ := h g hg
  refine ⟨groupStep d g, ?_⟩
  simp only [TypeUniverse.load, hfind]
  rfl

theorem forall₂_groups (h : build spec host p = (.ok plan, p')) :
    List.Forall₂ (fun group step => ∃ d, host.types.find? group = some d ∧ step = groupStep d group)
      spec.groups.eraseDups plan.groups := by
  obtain ⟨_, _, _, _, _, _, _, _, hgroups, _⟩ := build_ok h
  exact forall₂_groupSteps hgroups

/-- The planned groups are the distinct groups of the spec, in the order of their first places. -/
theorem map_name_groups (h : build spec host p = (.ok plan, p')) :
    plan.groups.map (·.name) = spec.groups.eraseDups := by
  rw [← List.forall₂_eq_eq_eq, List.forall₂_map_left_iff]
  refine (forall₂_groups h).flip.imp fun step group hstep => ?_
  obtain ⟨d, _, rfl⟩ := hstep
  exact name_groupStep d group

theorem nodup_groups (h : build spec host p = (.ok plan, p')) :
    (plan.groups.map (·.name)).Nodup := by
  rw [map_name_groups h]
  exact nodup_eraseDups spec.groups

theorem exists_decl_of_mem_groups (h : build spec host p = (.ok plan, p')) {step : GroupStep}
    (hstep : step ∈ plan.groups) :
    ∃ d, host.types.find? step.name = some d ∧ step = groupStep d step.name := by
  obtain ⟨group, _, d, hfind, rfl⟩ := exists_mem_of_forall₂ (forall₂_groups h).flip step hstep
  rw [name_groupStep]
  exact ⟨d, hfind, rfl⟩

theorem isSequence_of_mem_groups (h : build spec host p = (.ok plan, p')) {step : GroupStep}
    (hstep : step ∈ plan.groups) : step.isSequence = host.types.declaresSequence step.name := by
  obtain ⟨d, hfind, heq⟩ := exists_decl_of_mem_groups h hstep
  rw [TypeUniverse.declaresSequence, hfind, heq, isSequence_groupStep]

/-- The planned groups of one kind, as classes. -/
theorem map_name_filter_groups (h : build spec host p = (.ok plan, p')) (kind : Bool → Bool) :
    ((plan.groups.filter fun s => kind s.isSequence).map fun s => classOf s.name) =
      (spec.groups.eraseDups.filter fun g => kind (host.types.declaresSequence g)).map classOf := by
  have hkinds : plan.groups.filter (fun s => kind s.isSequence) =
      plan.groups.filter fun s => kind (host.types.declaresSequence s.name) :=
    List.filter_congr fun s hs => by rw [isSequence_of_mem_groups h hs]
  rw [hkinds, ← map_name_groups h, List.filter_map, List.map_map]
  rfl

/-! ## The chain of a plan -/

theorem isNamed_groups (h : build spec host p = (.ok plan, p'))
    (hnamed : IsNamed classOf (plan.groups.flatMap (·.mentioned))) :
    IsNamed classOf spec.groups := by
  intro g hg
  have hname : g ∈ plan.groups.map (·.name) := by
    rw [map_name_groups h]
    exact List.mem_eraseDups.2 hg
  obtain ⟨step, hstep, rfl⟩ := List.mem_map.1 hname
  exact hnamed step.name (List.mem_flatMap.2 ⟨step, hstep, List.mem_cons_self⟩)

/-- The chain describes each group of the spec. -/
theorem describes_groupChain (h : build spec host p = (.ok plan, p'))
    (hnamed : IsNamed classOf (plan.groups.flatMap (·.mentioned))) {g : TypeName}
    (hg : g ∈ spec.groups) :
    ∃ d, host.types.find? g = some d ∧ (plan.groupChain classOf).Describes classOf g d := by
  obtain ⟨step, hstep, d, hfind, rfl⟩ :=
    exists_mem_of_forall₂ (forall₂_groups h) g (List.mem_eraseDups.2 hg)
  have hnodup := nodup_groups h
  have hnames : IsNamed classOf (plan.groups.map (·.name)) := by
    rw [map_name_groups h]
    exact fun g hg => isNamed_groups h hnamed g (List.mem_eraseDups.1 hg)
  have hkind := GroupChain.isSequence_ofSteps hnodup hnames hstep
  have hmembers := GroupChain.members?_ofSteps hnodup hnames hstep
  have hparents := GroupChain.parents?_ofSteps hnodup hnames hstep
  have hexpand := GroupChain.expand_ofSteps hnodup hnamed (List.forall_mem_singleton.2 hstep)
  simp only [name_groupStep, isSequence_groupStep, others_groupStep, standsFor_groupStep,
    List.map_singleton, List.flatMap_singleton] at hkind hmembers hparents hexpand
  refine ⟨d, hfind, hkind, ?_, ?_, hexpand⟩
  · refine hmembers.trans ?_
    cases d.groupSequence <;> rfl
  · refine hparents.trans ?_
    cases d.groupSequence <;> rfl

end DispatchPlan

/-- The group branches keep the steps of the plan. -/
theorem Dispatcher.groups_map_step {spec : GenerationSpec} {plan : DispatchPlan} {d : Dispatcher}
    (h : ofPlan spec plan = .ok d) : d.groups.map (·.step) = plan.groups := by
  obtain ⟨_, _, h⟩ := bind_ok h
  obtain ⟨groups, hgroups, h⟩ := bind_ok h
  obtain ⟨_, _, h⟩ := bind_ok h
  cases h
  rw [← List.forall₂_eq_eq_eq, List.forall₂_map_left_iff]
  refine (forall₂_of_mapM hgroups).flip.imp fun branch step hbranch => ?_
  obtain ⟨_, _, hbranch⟩ := bind_ok hbranch
  obtain ⟨_, _, hbranch⟩ := bind_ok hbranch
  cases hbranch
  rfl

/-- The groups of a validator are those of its plan. -/
theorem Validation.Validator.groups_eq {ν : Type} {v : Validator ν} {spec : GenerationSpec}
    {plan : DispatchPlan} (h : Dispatcher.ofPlan spec plan = .ok v.dispatcher) :
    v.groups = plan.groupChain v.classOf := by
  rw [groups, Dispatcher.groups_map_step h]
  rfl

/-- At run time the chain of a plan answers for every group of the spec as the group is declared.
It lists the plain groups and the sequences in the order of the spec, and together they are the
distinct groups of the spec.  It is the chain of every validator that is linked with the plan. -/
theorem planned_groups_describe_declarations {σ : Type} [ArtifactSink σ] {spec : GenerationSpec}
    {host : Host} {p p' : Progress σ} {plan : DispatchPlan} {classOf : TypeName → ClassHandle}
    (hbuild : DispatchPlan.build spec host p = (.ok plan, p'))
    (hnamed : IsNamed classOf (plan.groups.flatMap (·.mentioned))) :
    (∀ g ∈ spec.groups, ∃ d, host.types.find? g = some d ∧
      (plan.groupChain classOf).Describes classOf g d) ∧
    (plan.groupChain classOf).groups =
      (spec.groups.eraseDups.filter fun g => !host.types.declaresSequence g).map classOf ∧
    (plan.groupChain classOf).sequences =
      (spec.groups.eraseDups.filter fun g => host.types.declaresSequence g).map classOf ∧
    (((plan.groupChain classOf).groups ++ (plan.groupChain classOf).sequences).map (·.type)).Perm
      spec.groups.eraseDups ∧
    ∀ (ν : Type) (v : Validator ν), Dispatcher.ofPlan spec plan = .ok v.dispatcher →
      v.classOf = classOf → v.groups = plan.groupChain classOf := by
  have hgroups : (plan.groupChain classOf).groups =
      (spec.groups.eraseDups.filter fun g => !host.types.declaresSequence g).map classOf :=
    GroupChain.groups_ofSteps.trans (DispatchPlan.map_name_filter_groups hbuild not)
  have hsequences : (plan.groupChain classOf).sequences =
      (spec.groups.eraseDups.filter fun g => host.types.declaresSequence g).map classOf :=
    GroupChain.sequences_ofSteps.trans (DispatchPlan.map_name_filter_groups hbuild id)
  refine ⟨fun g hg => DispatchPlan.describes_groupChain hbuild hnamed hg, hgroups, hsequences,
    ?_, ?_⟩
  · have hkinds := List.perm_append_comm.trans
      (List.filter_append_perm host.types.declaresSequence spec.groups.eraseDups)
    have htypes :
        spec.groups.eraseDups.map (fun g => (classOf g).type) = spec.groups.eraseDups := by
      refine (List.map_congr_left fun g hg => ?_).trans (List.map_id _)
      have hname := DispatchPlan.isNamed_groups hbuild hnamed g (List.mem_eraseDups.1 hg)
      exact congrArg TypeName.mk hname
    have hperm := hkinds.map fun g => (classOf g).type
    rw [htypes] at hperm
    rw [hgroups, hsequences, ← List.map_append, List.map_map]
    exact hperm
  · intro ν v hd hclassOf
    rw [Validator.groups_eq hd, hclassOf]

/-! ## Groups of inspections -/

def basicGroup : TypeName := ⟨"acme.Basic"⟩

def fullGroup : TypeName := ⟨"acme.Full"⟩

def strictGroup : TypeName := ⟨"acme.Strict"⟩

def quietGroup : TypeName := ⟨"acme.Quiet"⟩

/-- A run for the fleet with groups for its inspections: one extends another group, one is a
sequence that lists itself, and one is a sequence without members. -/
def inspectionCall : GenerateCall where
  spec := fleetSpec.withGroups [strictGroup, fullGroup, strictGroup, quietGroup, defaultGroup]
  types := fleetDeclarations.insertAll
    [.ofInterface basicGroup,
     (ClassDecl.ofInterface fullGroup).withInterface basicGroup,
     (ClassDecl.ofInterface strictGroup).withGroupSequence
       [defaultGroup, strictGroup, defaultGroup],
     (ClassDecl.ofInterface quietGroup).withGroupSequence []]
  engine := fleetTable.toEngine

/-- The class of a type without supertypes. -/
def plainClass (ty : TypeName) : ClassHandle := .make ty.text none []

theorem inspections_expand_as_declared :
    ∃ (plan : DispatchPlan) (d : Dispatcher), Dispatcher.ofPlan inspectionCall.spec plan = .ok d ∧
      (lenientlyLinked plainClass d : Validator Unit).groups = plan.groupChain plainClass ∧
      (plan.groupChain plainClass).groups = [fullGroup, defaultGroup].map plainClass ∧
      (plan.groupChain plainClass).sequences = [strictGroup, quietGroup].map plainClass ∧
      (plan.groupChain plainClass).expand [plainClass strictGroup] =
        [defaultGroup, strictGroup].map plainClass ∧
      (plan.groupChain plainClass).expand [plainClass quietGroup] = [] ∧
      (plan.groupChain plainClass).expand [plainClass fullGroup] =
        [fullGroup, basicGroup].map plainClass := by
  have hclosed : inspectionCall.isClosedOver fleetTypes = true := by decide +kernel
  obtain ⟨plan, p, d, _, _, hplan, hd, _⟩ :=
    GenerateCall.exists_run_of_isClosedOver hclosed { sink := {} }
  have hnamed : IsNamed plainClass (plan.groups.flatMap (·.mentioned)) := fun _ _ => rfl
  obtain ⟨hdescribes, hgroups, hsequences, _, hchain⟩ :=
    planned_groups_describe_declarations hplan hnamed
  obtain ⟨_, hstrict, hstrictly⟩ := hdescribes strictGroup (by decide)
  obtain ⟨_, hquiet, hquietly⟩ := hdescribes quietGroup (by decide)
  obtain ⟨_, hfull, hfully⟩ := hdescribes fullGroup (by decide)
  cases hstrict
  cases hquiet
  cases hfull
  refine ⟨plan, d, hd, hchain Unit _ hd rfl, hgroups, hsequences, ?_, ?_, ?_⟩
  · exact hstrictly.expand
  · exact hquietly.expand
  · exact hfully.expand

end ValidatorForge
