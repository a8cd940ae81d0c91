import ValidatorForge.Dispatch.Dispatcher
import ValidatorForge.Proofs.Discovery.Closure
import ValidatorForge.Proofs.Discovery.Properties
import ValidatorForge.Proofs.Discovery.Resolvable
import ValidatorForge.Proofs.Model.Specificity

/-!
# What a plan contains

`build_ok` takes a successful plan apart into the two resolutions and the order that it came from.
From it, the planned types are the distinct targets (`orderedNames_perm`), none after one of its
strict supertypes (`specificFirst_ordered`).  However planning ends, it is one search for the
requested types (`ends_of_build`).

The dispatcher of a plan has one branch for each planned type, in the same order
(`branches_map_bean`), and there is none if a target has no path in the emitted language
(`exists_typePath_of_ofPlan`).  All its branches belong to cached types (`exists_value_of_branch`).
-/

namespace ValidatorForge

variable {σ : Type} [ArtifactSink σ]

/-- Of two lists whose elements are related place by place, each element of the first has its
counterpart in the second. -/
theorem exists_mem_of_forall₂ {α β : Type} {R : α → β → Prop} {as : List α} {bs : List β}
    (h : List.Forall₂ R as bs) : ∀ a ∈ as, ∃ b ∈ bs, R a b := by
  induction h with
  | nil => exact List.forall_mem_nil _
  | cons hhead _ ih =>
    refine List.forall_mem_cons.2 ⟨⟨_, List.mem_cons_self, hhead⟩, fun a ha => ?_⟩
    obtain ⟨b, hb, hab⟩ := ih a ha
    exact ⟨b, List.mem_cons_of_mem _ hb, hab⟩

/-- The types that are resolved for a plan, in this order. -/
def GenerationSpec.requested (spec : GenerationSpec) : List TypeName :=
  spec.targets.eraseDups ++ spec.reflect.eraseDups

theorem GenerationSpec.mem_requested {spec : GenerationSpec} {n : TypeName} :
    n ∈ spec.requested ↔ n ∈ spec.targets ++ spec.reflect := by
  simp only [requested, List.mem_append, List.mem_eraseDups]

namespace DispatchPlan

variable {spec : GenerationSpec} {host : Host} {p p' : Progress σ} {plan : DispatchPlan}

/-- A plan comes from the resolved targets, then the resolved types with property access. -/
theorem build_ok (h : build spec host p = (.ok plan, p')) :
    ∃ targets p₁ explicit p₂,
      host.resolveAll spec.targets.eraseDups p = (.ok targets, p₁) ∧
      host.resolveAll spec.reflect.eraseDups p₁ = (.ok explicit, p₂) ∧
      plan.ordered = host.types.orderBySpecificity ResolvedType.name (targets.map (·.resolved)) ∧
      plan.reflected = reflect host
        (if explicit.isEmpty then p₂.cache.values else explicit.map (·.resolved)) ∧
      groupSteps host spec.groups.eraseDups = .ok plan.groups ∧
      p' = { p₂ with output := p₂.output.log plan.event } := by
  unfold build at h
  split at h
  · simp at h
  · next targets p₁ htargets =>
    split at h
    · simp at h
    · next explicit p₂ hexplicit =>
      split at h
      · simp at h
      · next groups hgroups =>
        obtain ⟨hplan, hp⟩ := Prod.mk.inj h
        obtain rfl := Except.ok.inj hplan
        exact ⟨targets, p₁, explicit, p₂, htargets, hexplicit, rfl, rfl, hgroups, hp.symm⟩

/-- The planned types are the distinct targets. -/
theorem orderedNames_perm (h : build spec host p = (.ok plan, p')) :
    plan.orderedNames.Perm spec.targets.eraseDups := by
  obtain ⟨targets, p₁, explicit, p₂, htargets, _, hordered, _⟩ := build_ok h
  rw [orderedNames, hordered, ← Host.map_name_of_resolveAll htargets]
  exact (host.types.orderBySpecificity_perm ResolvedType.name _).map _

theorem mem_orderedNames_iff (h : build spec host p = (.ok plan, p')) {n : TypeName} :
    n ∈ plan.orderedNames ↔ n ∈ spec.targets := by
  rw [(orderedNames_perm h).mem_iff, List.mem_eraseDups]

theorem nodup_orderedNames (h : build spec host p = (.ok plan, p')) : plan.orderedNames.Nodup :=
  (orderedNames_perm h).nodup_iff.2 (nodup_eraseDups _)

/-- The names of the types with property access. -/
def reflectedNames (plan : DispatchPlan) : List TypeName := plan.reflected.map (·.resolved.name)

/-- The types with property access are the listed ones, or all cached ones if none are listed. -/
theorem reflectedNames_perm (h : build spec host p = (.ok plan, p')) :
    plan.reflectedNames.Perm
      (if spec.reflect = [] then p'.cache.names else spec.reflect.eraseDups) := by
  obtain ⟨_, _, explicit, p₂, _, hexplicit, _, hreflected, _, rfl⟩ := build_ok h
  have hperm : ∀ types : List ResolvedType, plan.reflected = reflect host types →
      plan.reflectedNames.Perm (types.map (·.name)) := by
    intro types htypes
    rw [reflectedNames, htypes, reflect, List.map_map]
    exact (host.types.orderBySpecificity_perm ResolvedType.name types).map _
  have hnames : explicit.map (·.resolved.name) = spec.reflect.eraseDups := by
    rw [← Host.map_name_of_resolveAll hexplicit, List.map_map]
    rfl
  have hempty : explicit.isEmpty = true ↔ spec.reflect = [] := by
    rw [List.isEmpty_iff, ← List.map_eq_nil_iff, hnames, List.eq_nil_iff_forall_not_mem,
      List.eq_nil_iff_forall_not_mem]
    simp only [List.mem_eraseDups]
  by_cases hnone : spec.reflect = []
  · rw [if_pos hnone, TypeCache.names_eq_map_name]
    rw [if_pos (hempty.2 hnone)] at hreflected
    exact hperm _ hreflected
  · rw [if_neg hnone, ← hnames]
    rw [if_neg fun hex => hnone (hempty.1 hex)] at hreflected
    have hlisted := hperm _ hreflected
    rw [List.map_map] at hlisted
    exact hlisted

/-- Each type has property access once. -/
theorem nodup_reflectedNames (h : build spec host p = (.ok plan, p')) :
    plan.reflectedNames.Nodup := by
  refine (reflectedNames_perm h).nodup_iff.2 ?_
  split
  · exact p'.cache.entries.nodup
  · exact nodup_eraseDups _

/-- No planned type stands after one of its strict supertypes. -/
theorem specificFirst_ordered (h : build spec host p = (.ok plan, p')) :
    host.types.SpecificFirst ResolvedType.name plan.ordered := by
  obtain ⟨targets, p₁, explicit, p₂, _, _, hordered, _⟩ := build_ok h
  rw [hordered]
  exact TypeUniverse.specificFirst_orderBySpecificity _ _ _

/-- Nor does a type with property access. -/
theorem specificFirst_reflected (h : build spec host p = (.ok plan, p')) :
    host.types.SpecificFirst (fun r : ReflectedType => r.resolved.name) plan.reflected := by
  obtain ⟨_, _, _, _, _, _, _, hreflected, _⟩ := build_ok h
  rw [hreflected]
  exact List.pairwise_map.2 (TypeUniverse.specificFirst_orderBySpecificity _ _ _)

/-- A planned run has resolved the requested types, and logs the plan at last. -/
theorem runs_of_build (h : build spec host p = (.ok plan, p')) :
    ∃ p₁, host.Runs ⟨p, spec.requested.map .visit⟩ ⟨p₁, []⟩ ∧
      p' = { p₁ with output := p₁.output.log plan.event } := by
  obtain ⟨targets, p₁, explicit, p₂, htargets, hexplicit, _, _, _, hp'⟩ := build_ok h
  have hfirst :=
    Host.Runs.append (Host.resolveAll_ok htargets).1 (spec.reflect.eraseDups.map .visit)
  refine ⟨p₂, ?_, hp'⟩
  rw [GenerationSpec.requested, List.map_append]
  exact hfirst.trans (Host.resolveAll_ok hexplicit).1

/-- From an empty cache, planning caches what the requested types reach. -/
theorem mem_names_iff_reaches (hempty : p.cache.names = [])
    (h : build spec host p = (.ok plan, p')) {n : TypeName} :
    n ∈ p'.cache.names ↔ ∃ ty ∈ spec.targets ++ spec.reflect, host.Reaches ty n := by
  obtain ⟨p₁, hrun, rfl⟩ := runs_of_build h
  have hnames : n ∈ p₁.cache.names ↔ ∃ ty ∈ spec.requested, host.Reaches ty n :=
    Host.mem_names_iff_of_finished hempty hrun
  simp only [GenerationSpec.mem_requested] at hnames
  exact hnames

/-- Planning fails because its search stops, or because of a group after the search has finished. -/
theorem stopped_or_finished_of_build_error {e : GenerateError}
    (h : build spec host p = (.error e, p')) :
    (∃ s, host.Runs ⟨p, spec.requested.map .visit⟩ s ∧ host.Stops s e p') ∨
      host.Runs ⟨p, spec.requested.map .visit⟩ ⟨p', []⟩ ∧
        groupSteps host spec.groups.eraseDups = .error e := by
  rw [GenerationSpec.requested, List.map_append]
  unfold build at h
  split at h
  · next hfails =>
    cases h
    obtain ⟨s, hrun, hstop⟩ := Host.resolveAll_error hfails
    exact Or.inl ⟨_, Host.Runs.append hrun _, hstop.append _⟩
  · next htargets =>
    have hfirst :=
      Host.Runs.append (Host.resolveAll_ok htargets).1 (spec.reflect.eraseDups.map .visit)
    split at h
    · next hfails =>
      cases h
      obtain ⟨s, hrun, hstop⟩ := Host.resolveAll_error hfails
      exact Or.inl ⟨_, hfirst.trans hrun, hstop⟩
    · next hexplicit =>
      split at h
      · next hgroups =>
        cases h
        exact Or.inr ⟨hfirst.trans (Host.resolveAll_ok hexplicit).1, hgroups⟩
      · cases h

/-- Planning is a search for the requested types.  Besides, it may log the plan. -/
theorem ends_of_build {r : Except GenerateError DispatchPlan} (h : build spec host p = (r, p')) :
    ∃ p₁, host.Ends ⟨p, spec.requested.map .visit⟩ p₁ ∧ p'.cache = p₁.cache ∧
      p'.output.sink = p₁.output.sink := by
  cases r with
  | ok plan =>
    obtain ⟨p₁, hrun, rfl⟩ := runs_of_build h
    exact ⟨p₁, Host.Ends.finished hrun, rfl, rfl⟩
  | error e =>
    refine ⟨p', ?_, rfl, rfl⟩
    rcases stopped_or_finished_of_build_error h with ⟨s, hrun, hstop⟩ | ⟨hrun, _⟩
    · exact Host.Ends.stopped hrun hstop
    · exact Host.Ends.finished hrun

/-- Planned types are cached. -/
theorem mem_values_of_mem_ordered (h : build spec host p = (.ok plan, p')) {t : ResolvedType}
    (ht : t ∈ plan.ordered) : t ∈ p'.cache.values := by
  obtain ⟨targets, p₁, explicit, p₂, htargets, hexplicit, hordered, _, _, rfl⟩ := build_ok h
  rw [hordered, (host.types.orderBySpecificity_perm ResolvedType.name _).mem_iff] at ht
  obtain ⟨e, he, rfl⟩ := List.mem_map.1 ht
  obtain ⟨ty, _, hget⟩ := exists_mem_of_forall₂ (Host.resolveAll_ok htargets).2.flip e he
  exact TypeCache.mem_values_of_get? (Host.get?_of_runs (Host.resolveAll_ok hexplicit).1 hget)

/-- Types with property access are cached. -/
theorem mem_values_of_mem_reflected (h : build spec host p = (.ok plan, p')) {r : ReflectedType}
    (hr : r ∈ plan.reflected) : r.resolved ∈ p'.cache.values := by
  obtain ⟨targets, p₁, explicit, p₂, _, hexplicit, _, hreflected, _, rfl⟩ := build_ok h
  rw [hreflected] at hr
  obtain ⟨t, ht, rfl⟩ := List.mem_map.1 hr
  rw [(host.types.orderBySpecificity_perm ResolvedType.name _).mem_iff] at ht
  split at ht
  · exact ht
  · obtain ⟨e, he, rfl⟩ := List.mem_map.1 ht
    obtain ⟨ty, _, hget⟩ := exists_mem_of_forall₂ (Host.resolveAll_ok hexplicit).2.flip e he
    exact TypeCache.mem_values_of_get? hget

/-- The properties of a planned type are those that it can read. -/
theorem properties_of_mem_reflected (h : build spec host p = (.ok plan, p')) {r : ReflectedType}
    (hr : r ∈ plan.reflected) : r.properties = r.resolved.readableProperties host.types := by
  obtain ⟨_, _, _, _, _, _, _, hreflected, _⟩ := build_ok h
  rw [hreflected] at hr
  obtain ⟨t, _, rfl⟩ := List.mem_map.1 hr
  rfl

/-- A plan is built if all targets and all types with property access are clean, and all groups are
declared. -/
theorem build_total {spec : GenerationSpec} {host : Host}
    (htargets : ∀ ty ∈ spec.targets, host.Clean ty) (hreflect : ∀ ty ∈ spec.reflect, host.Clean ty)
    {groups : List GroupStep} (hgroups : groupSteps host spec.groups.eraseDups = .ok groups)
    (p : Progress MemoryArtifacts) : ∃ plan p', build spec host p = (.ok plan, p') := by
  obtain ⟨targets, p₁, hfirst⟩ :=
    Host.resolveAll_total (fun ty hty => htargets ty (List.mem_eraseDups.1 hty)) p
  obtain ⟨explicit, p₂, hsecond⟩ :=
    Host.resolveAll_total (fun ty hty => hreflect ty (List.mem_eraseDups.1 hty)) p₁
  unfold build
  rw [hfirst]
  simp only [hsecond, hgroups]
  exact ⟨_, _, rfl⟩

/-- The sample fleet can be planned. -/
theorem build_fleet (p : Progress MemoryArtifacts) :
    ∃ plan p', build Sample.fleetSpec Sample.fleetHost p = (.ok plan, p') := by
  have htargets : ∀ ty ∈ Sample.fleetSpec.targets, ty ∈ Sample.fleetTypes := by decide
  have hclean : ∀ ty ∈ Sample.fleetSpec.targets, Sample.fleetHost.Clean ty :=
    fun ty hty => Host.clean_fleet ty (htargets ty hty)
  exact build_total hclean (fun _ hty => nomatch hty) rfl p

end DispatchPlan

/-! ## The dispatcher of a plan -/

namespace Dispatcher

open Source (ModPath)

/-- What a computation with a next step returns is the result of the next step. -/
theorem bind_ok {ε α β : Type} {x : Except ε α} {f : α → Except ε β} {b : β}
    (h : (x >>= f) = .ok b) : ∃ a, x = .ok a ∧ f a = .ok b := by
  cases x with
  | error e => cases h
  | ok a => exact ⟨a, rfl, h⟩

/-- What a computation with a next step fails with is the error of one of the two. -/
theorem bind_error {ε α β : Type} {x : Except ε α} {f : α → Except ε β} {e : ε}
    (h : (x >>= f) = .error e) : x = .error e ∨ ∃ a, x = .ok a ∧ f a = .error e := by
  cases x with
  | error e' => exact Or.inl (congrArg Except.error (Except.error.inj h))
  | ok a => exact Or.inr ⟨a, rfl, h⟩

/-- Steps along a list fail at one of its elements. -/
theorem exists_error_of_mapM {ε α β : Type} {f : α → Except ε β} {as : List α} {e : ε}
    (h : as.mapM f = .error e) : ∃ a ∈ as, f a = .error e := by
  induction as with
  | nil => cases h
  | cons a rest ih =>
    rw [List.mapM_cons] at h
    rcases bind_error h with hhead | ⟨b, _, h⟩
    · exact ⟨a, List.mem_cons_self, hhead⟩
    · rcases bind_error h with hrest | ⟨more, _, h⟩
      · obtain ⟨a', ha', herror⟩ := ih hrest
        exact ⟨a', List.mem_cons_of_mem _ ha', herror⟩
      · cases h

/-- Each element of a list has gone through its step, to the result at its place. -/
theorem forall₂_of_mapM {ε α β : Type} {f : α → Except ε β} {as : List α} {bs : List β}
    (h : as.mapM f = .ok bs) : List.Forall₂ (fun a b => f a = .ok b) as bs := by
  induction as generalizing bs with
  | nil =>
    rw [List.mapM_nil] at h
    cases h
    exact List.Forall₂.nil
  | cons a rest ih =>
    rw [List.mapM_cons] at h
    obtain ⟨b, hb, h⟩ := bind_ok h
    obtain ⟨more, hmore, h⟩ := bind_ok h
    cases h
    exact List.Forall₂.cons hb (ih hmore)

/-- Steps that succeed on all elements succeed along the list. -/
theorem mapM_total {ε α β : Type} {f : α → Except ε β} {as : List α}
    (h : ∀ a ∈ as, ∃ b, f a = .ok b) : ∃ bs, as.mapM f = .ok bs := by
  induction as with
  | nil => exact ⟨[], rfl⟩
  | cons a rest ih =>
    obtain ⟨⟨b, hb⟩, hrest⟩ := List.forall_mem_cons.1 h
    obtain ⟨more, hmore⟩ := ih hrest
    exact ⟨b :: more, by rw [List.mapM_cons, hb, hmore]; rfl⟩

theorem bean_of_branchOf {root : ModPath} {t : ResolvedType} {b : Branch}
    (h : branchOf root t = .ok b) : b.bean = t.name := by
  obtain ⟨type, _, h⟩ := bind_ok h
  obtain ⟨marker, _, h⟩ := bind_ok h
  cases h
  rfl

theorem branches_of_ofPlan {spec : GenerationSpec} {plan : DispatchPlan} {d : Dispatcher}
    (h : ofPlan spec plan = .ok d) :
    List.Forall₂ (fun t b => branchOf spec.config.root t = .ok b) plan.ordered d.branches := by
  obtain ⟨branches, hbranches, h⟩ := bind_ok h
  obtain ⟨groups, _, h⟩ := bind_ok h
  obtain ⟨reflected, _, h⟩ := bind_ok h
  cases h
  exact forall₂_of_mapM hbranches

theorem reflected_of_ofPlan {spec : GenerationSpec} {plan : DispatchPlan} {d : Dispatcher}
    (h : ofPlan spec plan = .ok d) :
    List.Forall₂ (fun r b => reflectedOf spec.config.root r = .ok b) plan.reflected
      d.reflected := by
  obtain ⟨branches, _, h⟩ := bind_ok h
  obtain ⟨groups, _, h⟩ := bind_ok h
  obtain ⟨reflected, hreflected, h⟩ := bind_ok h
  cases h
  exact forall₂_of_mapM hreflected

/-- A branch with property access belongs to the type at its place, with the methods of the type's
properties. -/
theorem of_reflectedOf {root : ModPath} {r : ReflectedType} {rb : ReflectedBranch}
    (h : reflectedOf root r = .ok rb) :
    branchOf root r.resolved = .ok rb.branch ∧
      List.Forall₂ (fun q (arm : PropertyArm) => arm.property = q.name ∧
        Naming.methodIdent q.getter = .ok arm.method) r.properties rb.arms := by
  obtain ⟨b, hb, h⟩ := bind_ok h
  obtain ⟨arms, harms, h⟩ := bind_ok h
  cases h
  refine ⟨hb, (forall₂_of_mapM harms).imp fun q arm harm => ?_⟩
  obtain ⟨i, hi, harm⟩ := bind_ok harm
  cases harm
  exact ⟨rfl, hi⟩

/-- The branches of a dispatcher, with and without property access. -/
def allBranches (d : Dispatcher) : List Branch := d.branches ++ d.reflected.map (·.branch)

/-- Every branch belongs to a cached type. -/
theorem exists_value_of_branch {spec : GenerationSpec} {host : Host} {p p' : Progress σ}
    {plan : DispatchPlan} {d : Dispatcher}
    (hbuild : DispatchPlan.build spec host p = (.ok plan, p'))
    (h : ofPlan spec plan = .ok d) :
    ∀ b ∈ d.allBranches, ∃ t ∈ p'.cache.values, branchOf spec.config.root t = .ok b := by
  intro b hb
  rcases List.mem_append.1 hb with hb | hb
  · obtain ⟨t, ht, hbranch⟩ := exists_mem_of_forall₂ (branches_of_ofPlan h).flip b hb
    exact ⟨t, DispatchPlan.mem_values_of_mem_ordered hbuild ht, hbranch⟩
  · obtain ⟨rb, hrb, rfl⟩ := List.mem_map.1 hb
    obtain ⟨r, hr, hreflected⟩ := exists_mem_of_forall₂ (reflected_of_ofPlan h).flip rb hrb
    exact ⟨r.resolved, DispatchPlan.mem_values_of_mem_reflected hbuild hr,
      (of_reflectedOf hreflected).1⟩

/-- The branches dispatch to the planned types, in their order. -/
theorem branches_map_bean {spec : GenerationSpec} {plan : DispatchPlan} {d : Dispatcher}
    (h : ofPlan spec plan = .ok d) : d.branches.map (·.bean) = plan.orderedNames := by
  have hbeans := (branches_of_ofPlan h).flip.imp fun _ _ => bean_of_branchOf
  rw [← List.forall₂_eq_eq_eq, DispatchPlan.orderedNames, List.forall₂_map_left_iff,
    List.forall₂_map_right_iff]
  exact hbeans

/-- The branches with property access belong to the types with property access, in their order. -/
theorem reflected_map_bean {spec : GenerationSpec} {plan : DispatchPlan} {d : Dispatcher}
    (h : ofPlan spec plan = .ok d) : d.reflected.map (·.branch.bean) = plan.reflectedNames := by
  have hbeans := (reflected_of_ofPlan h).flip.imp fun _ _ hr =>
    bean_of_branchOf (of_reflectedOf hr).1
  rw [← List.forall₂_eq_eq_eq, DispatchPlan.reflectedNames, List.forall₂_map_left_iff,
    List.forall₂_map_right_iff]
  exact hbeans

/-- A plan has a dispatcher only if all its targets have paths. -/
theorem exists_typePath_of_ofPlan {spec : GenerationSpec} {host : Host} {p p' : Progress σ}
    {plan : DispatchPlan} {d : Dispatcher}
    (hbuild : DispatchPlan.build spec host p = (.ok plan, p'))
    (h : ofPlan spec plan = .ok d) :
    ∀ t ∈ spec.targets, ∃ path, Naming.typePath spec.config.root t = .ok path := by
  intro t ht
  obtain ⟨r, hr, rfl⟩ := List.mem_map.1 ((DispatchPlan.mem_orderedNames_iff hbuild).2 ht)
  obtain ⟨b, _, hb⟩ := exists_mem_of_forall₂ (branches_of_ofPlan h) r hr
  obtain ⟨path, hpath, _⟩ := bind_ok hb
  exact ⟨path, hpath⟩

/-- A type with property access has a branch if the type has one and its accessors have methods. -/
theorem reflectedOf_total {root : ModPath} {r : ReflectedType}
    (hbranch : ∃ b, branchOf root r.resolved = .ok b)
    (harms : ∀ p ∈ r.properties, ∃ i, Naming.methodIdent p.getter = .ok i) :
    ∃ rb, reflectedOf root r = .ok rb := by
  obtain ⟨b, hb⟩ := hbranch
  have harm : ∀ p ∈ r.properties, ∃ arm : PropertyArm,
      (do return ⟨p.name, ← Naming.methodIdent p.getter⟩ : Except GenerateError _) = .ok arm := by
    intro p hp
    obtain ⟨i, hi⟩ := harms p hp
    exact ⟨⟨p.name, i⟩, by rw [hi]; rfl⟩
  obtain ⟨arms, hall⟩ := mapM_total harm
  refine ⟨⟨b, arms⟩, ?_⟩
  simp only [reflectedOf, hb, hall]
  rfl

/-- A plan has a dispatcher if all its types and groups have paths, and all accessors methods. -/
theorem ofPlan_total {spec : GenerationSpec} {plan : DispatchPlan}
    (hordered : ∀ t ∈ plan.ordered, ∃ b, branchOf spec.config.root t = .ok b)
    (hgroups : ∀ step ∈ plan.groups, ∃ g, groupOf spec.config.root step = .ok g)
    (hreflected : ∀ r ∈ plan.reflected, ∃ b, branchOf spec.config.root r.resolved = .ok b)
    (harms : ∀ r ∈ plan.reflected, ∀ p ∈ r.properties,
      ∃ i, Naming.methodIdent p.getter = .ok i) :
    ∃ d, ofPlan spec plan = .ok d := by
  obtain ⟨branches, hb⟩ := mapM_total hordered
  obtain ⟨groups, hg⟩ := mapM_total hgroups
  obtain ⟨reflected, hr⟩ := mapM_total fun r hr => reflectedOf_total (hreflected r hr) (harms r hr)
  refine ⟨{ spec, branches, groups, reflected }, ?_⟩
  simp only [ofPlan, hb, hg, hr]
  rfl

end Dispatcher

end ValidatorForge
