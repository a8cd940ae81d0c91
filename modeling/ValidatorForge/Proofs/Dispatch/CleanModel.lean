import ValidatorForge.Proofs.Dispatch.PlannedGroups
import ValidatorForge.Proofs.Naming.AccessorMethods

/-!
# Clean models

A model is clean for a run if everything that the run comes across is declared and described, and
all names in it can be spelled (`GenerateCall.IsClean`).  On a clean model a run succeeds, whatever
its memory sink already holds (`clean_run_succeeds`).

The conditions are about names as the host has them.  That the names which are made of them are
identifiers too is `TypeName.Spellable` for types, validators and groups, and
`Naming.methodIdent_total` for the methods that read properties.
-/

namespace ValidatorForge

open Sample Source.Ident

namespace GenerateCall

/-- Cascades lead to the type from a target, or from a type with property access. -/
def InClosure (c : GenerateCall) (n : TypeName) : Prop :=
  ∃ ty ∈ c.spec.targets ++ c.spec.reflect, c.host.Reaches ty n

/-- Everything that a run comes across is known to the host, and has names that can be spelled. -/
structure IsClean (c : GenerateCall) : Prop where
  described : ∀ n, c.InClosure n → ∃ d, c.engine.describe n = .ok d
  declared : ∀ n, c.InClosure n → ∃ d, c.types.find? n = some d
  spellable : ∀ n, c.InClosure n → n.Spellable
  /-- The methods that read properties have ASCII names, along all superclasses. -/
  readers : ∀ n, c.InClosure n → ∀ m ∈ c.types.methodsAlong n, ∀ property, m.Reads property →
    ∀ ch ∈ m.name.toList, isAsciiWordChar ch = true
  groupsDeclared : ∀ g ∈ c.spec.groups, ∃ d, c.types.find? g = some d
  /-- Groups, their interfaces and the members of sequences have names that can be spelled. -/
  groupsSpellable : ∀ g ∈ c.spec.groups, ∀ d, c.types.find? g = some d →
    ∀ ty ∈ g :: (d.interfaces ++ d.groupSequence.getD []), ty.Spellable

namespace IsClean

variable {c : GenerateCall}

theorem clean (h : c.IsClean) : ∀ ty ∈ c.spec.targets ++ c.spec.reflect, c.host.Clean ty := by
  intro ty hty n hreach
  have hn : c.InClosure n := ⟨ty, hty, hreach⟩
  obtain ⟨descriptor, hdescribe⟩ := h.described n hn
  obtain ⟨decl, hfind⟩ := h.declared n hn
  have hlookUp : c.host.lookUp n = .ok ⟨decl, descriptor⟩ :=
    Host.lookUp_eq_ok_iff.2 ⟨hdescribe, hfind⟩
  have hname : (⟨decl, descriptor⟩ : ResolvedType).name = n := TypeUniverse.name_of_find? hfind
  have hmarker : Naming.Accepts (ResolvedType.outputName ⟨decl, descriptor⟩) :=
    Naming.accepts_outputName (hname ▸ h.spellable n hn)
  exact ⟨_, hlookUp, ResolvedType.marker_body_eq_ok_iff.2 hmarker⟩

/-- The groups have steps, and all steps have branches. -/
theorem groups (h : c.IsClean) :
    ∃ steps, DispatchPlan.groupSteps c.host c.spec.groups.eraseDups = .ok steps ∧
      ∀ step ∈ steps, ∃ g, Dispatcher.groupOf c.spec.config.root step = .ok g := by
  have hdeclared : ∀ g ∈ c.spec.groups.eraseDups, ∃ d, c.host.types.find? g = some d :=
    fun g hg => h.groupsDeclared g (List.mem_eraseDups.1 hg)
  obtain ⟨steps, hsteps⟩ := DispatchPlan.groupSteps_total hdeclared
  refine ⟨steps, hsteps, fun step hstep => ?_⟩
  obtain ⟨g, hg, d, hfind, rfl⟩ :=
    exists_mem_of_forall₂ (DispatchPlan.forall₂_groupSteps hsteps).flip step hstep
  obtain ⟨hspellable, hothers⟩ :=
    List.forall_mem_cons.1 (h.groupsSpellable g (List.mem_eraseDups.1 hg) d hfind)
  apply Dispatcher.groupOf_total
  case h =>
    rw [DispatchPlan.name_groupStep]
    exact hspellable
  case hothers =>
    exact fun ty hty => hothers ty (DispatchPlan.mem_of_mem_others_groupStep hty)

theorem branches (h : c.IsClean) {t : ResolvedType} (ht : c.spec.Needs c.host t) :
    ∃ b, Dispatcher.branchOf c.spec.config.root t = .ok b :=
  Dispatcher.branchOf_total (h.spellable t.name ht.2) _

theorem methods (h : c.IsClean) {t : ResolvedType} (ht : c.spec.Needs c.host t)
    {q : ReadableProperty} (hq : q ∈ t.readableProperties c.types) :
    ∃ i, Naming.methodIdent q.getter = .ok i := by
  obtain ⟨hlookUp, hclosure⟩ := ht
  have hdecl : c.types.find? t.name = some t.decl := (Host.lookUp_eq_ok_iff.1 hlookUp).2
  obtain ⟨d, hd, m, hm, hproperty⟩ := ResolvedType.exists_method_of_mem_readableProperties hq
  have hchain := (ResolvedType.mem_lineage_iff hdecl).1 hd
  have hmethod : m ∈ c.types.methodsAlong t.name := List.mem_flatMap.2 ⟨d, hchain, hm⟩
  have hreads : m.Reads q.name := by
    rw [← MethodDecl.reads_iff, MethodDecl.reads, hproperty]
    exact beq_self_eq_true q.name
  rw [MethodDecl.getter_of_property? hproperty]
  exact Naming.methodIdent_total hreads (h.readers t.name hclosure m hmethod q.name hreads)

end IsClean

end GenerateCall

/-- On a clean model a run succeeds and returns the name of its validator. -/
theorem clean_run_succeeds {c : GenerateCall} (h : c.IsClean) (out : Output MemoryArtifacts) :
    ∃ out', c.run out = (.ok c.spec.qualifiedName, out') := by
  obtain ⟨steps, hsteps, hgroups⟩ := h.groups
  obtain ⟨plan, p, d, name, out', _, _, hrun⟩ :=
    GenerateCall.exists_run_of_clean h.clean hsteps hgroups (fun _ => h.branches)
      (fun _ ht _ => h.methods ht) out
  obtain ⟨rfl, _⟩ := GenerateCall.of_run_ok hrun
  exact ⟨out', hrun⟩

/-! ## A workshop -/

def benchType : TypeName := ⟨"acme.type.Workshop$Bench"⟩

def toolType : TypeName := ⟨"acme.type.Tool"⟩

/-- Benches stand in rooms. -/
def roomDecl : ClassDecl :=
  (ClassDecl.ofClass ⟨"acme.Room"⟩).withGetter "getAREA" (.primitive "int")

/-- Benches have tools and read two properties of their own. -/
def benchDecl : ClassDecl :=
  ((((ClassDecl.ofClass benchType).withSuperclass roomDecl.name).withField "tools"
    (.array (.named toolType))).withGetter "getHTML5Doc" (.primitive "int")).withGetter "is_"
    (.primitive "boolean")

/-- A group sequence that lists itself. -/
def fullGroupDecl : ClassDecl :=
  (ClassDecl.ofInterface ⟨"acme.async.Checks$Full"⟩).withGroupSequence
    [defaultGroup, ⟨"acme.async.Checks$Full"⟩]

/-- A run for benches.  There are keywords among the packages, and the accessors have digits,
capitals and underscores where words end. -/
def workshopCall : GenerateCall where
  spec := (GenerationSpec.ofTargets (.plain "BenchValidator") benchType []).withGroups
    [defaultGroup, fullGroupDecl.name]
  types := TypeUniverse.platform.insertAll
    [roomDecl, benchDecl, (ClassDecl.ofClass toolType).withGetter "get2ndUse" (.primitive "int"),
     fullGroupDecl]
  engine := (DescriptorTable.ofList
    [(BeanDescriptor.mk benchType [] []).withProperty
       (.intoCascade "tools" (.array (.named toolType))),
     .mk toolType [] []]).toEngine

theorem workshop_isClean : workshopCall.IsClean := by
  have hclosed : workshopCall.host.isClosedList [benchType, toolType] = true := by decide +kernel
  have hlisted : ∀ n, workshopCall.InClosure n → n ∈ [benchType, toolType] := by
    intro n hn
    obtain ⟨ty, hty, hreach⟩ := hn
    have hmem : ∀ ty ∈ workshopCall.spec.targets ++ workshopCall.spec.reflect,
        ty ∈ [benchType, toolType] := by decide
    exact Host.mem_of_reaches_of_isClosedList hclosed (hmem ty hty) hreach
  have hlookUp : ∀ n, workshopCall.InClosure n → ∃ t, workshopCall.host.lookUp n = .ok t := by
    intro n hn
    obtain ⟨t, hlookUp, _⟩ := (Host.clean_of_isClosedList hclosed n (hlisted n hn)).resolvable
    exact ⟨t, hlookUp⟩
  have hspellable : ∀ n ∈ [benchType, toolType], n.Spellable := by decide +kernel
  have hmethods : workshopCall.types.classes.entries.all (fun e =>
      e.2.methods.all fun m => m.name.toList.all isAsciiWordChar) = true := by decide +kernel
  have hgroups : ∀ g ∈ workshopCall.spec.groups, ∃ d, workshopCall.types.find? g = some d ∧
      ∀ ty ∈ g :: (d.interfaces ++ d.groupSequence.getD []), ty.Spellable := by
    have hconfigured : ∀ g ∈ workshopCall.spec.groups,
        g = defaultGroup ∨ g = fullGroupDecl.name := by decide
    intro g hg
    rcases hconfigured g hg with rfl | rfl
    · exact ⟨_, rfl, by decide +kernel⟩
    · exact ⟨_, rfl, by decide +kernel⟩
  constructor
  case described =>
    intro n hn
    obtain ⟨t, ht⟩ := hlookUp n hn
    exact ⟨t.descriptor, (Host.lookUp_eq_ok_iff.1 ht).1⟩
  case declared =>
    intro n hn
    obtain ⟨t, ht⟩ := hlookUp n hn
    exact ⟨t.decl, (Host.lookUp_eq_ok_iff.1 ht).2⟩
  case spellable => exact fun n hn => hspellable n (hlisted n hn)
  case readers =>
    intro n _ m hm _ _
    obtain ⟨d, hd, hm⟩ := List.mem_flatMap.1 hm
    obtain ⟨owner, howner⟩ := TypeUniverse.exists_find?_of_mem_chainFrom hd
    have hentry := List.all_eq_true.1 hmethods _ (OrderedMap.mem_entries_of_get? howner)
    have hname := List.all_eq_true.1 hentry m hm
    exact List.all_eq_true.1 hname
  case groupsDeclared =>
    intro g hg
    obtain ⟨d, hfind, _⟩ := hgroups g hg
    exact ⟨d, hfind⟩
  case groupsSpellable =>
    intro g hg d hfind
    obtain ⟨d', hfind', hall⟩ := hgroups g hg
    obtain rfl : d = d' := Option.some.inj (hfind.symm.trans hfind')
    exact hall

/-- The names of a workshop can be spelled, so its validator is generated. -/
theorem workshop_run_succeeds :
    ∃ out', workshopCall.run { sink := {} } = (.ok "acme.type.BenchValidator", out') :=
  clean_run_succeeds workshop_isClean { sink := {} }

end ValidatorForge
