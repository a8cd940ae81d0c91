import ValidatorForge.Proofs.Discovery.Failure
import ValidatorForge.Proofs.Dispatch.Provenance
import ValidatorForge.Proofs.Dispatch.Renderable

/-!
# Refused element types

An engine may refuse the element type of a cascaded property.  Container properties and plain ones
answer differently.  The element of a container is visited, so a refusal stops the search
(`unplanned_of_refused`).  A plain element is first asked whether it is constrained, and a type that
cannot be described counts as not constrained: it is not visited, and the refusal is not reported.

`undescribed_of_run_error` is the converse: a run that fails for a refused type has requested the
type, or has reached it through a container.  It rests on the origin of visits: every pending visit
was requested, or a cascade leads there from a cached type (`traced_of_runs`).
-/

namespace ValidatorForge

open Relation Sample

/-! ## Names that cannot be spelled -/

namespace Naming

/-- A path fails only for a name that is no identifier. -/
theorem exists_invalidName_of_itemPath {root : Source.ModPath} {package name : String}
    {e : GenerateError} (h : itemPath root package name = .error e) :
    ∃ n, e = .invalidName n := by
  rcases Dispatcher.bind_error h with hmodules | ⟨_, _, h⟩
  · obtain ⟨segment, _, hsegment⟩ := Dispatcher.exists_error_of_mapM hmodules
    exact ⟨segment, eq_invalidName_of_ident hsegment⟩
  · rcases Dispatcher.bind_error h with hname | ⟨_, _, h⟩
    · exact ⟨name, eq_invalidName_of_ident hname⟩
    · cases h

end Naming

namespace Dispatcher

variable {root : Source.ModPath} {e : GenerateError}

theorem exists_invalidName_of_branchOf {t : ResolvedType} (h : branchOf root t = .error e) :
    ∃ n, e = .invalidName n := by
  rcases bind_error h with htype | ⟨_, _, h⟩
  · exact Naming.exists_invalidName_of_itemPath htype
  · rcases bind_error h with hmarker | ⟨_, _, h⟩
    · exact Naming.exists_invalidName_of_itemPath hmarker
    · cases h

theorem exists_invalidName_of_groupOf {step : GroupStep} (h : groupOf root step = .error e) :
    ∃ n, e = .invalidName n := by
  rcases bind_error h with hgroup | ⟨_, _, h⟩
  · exact Naming.exists_invalidName_of_itemPath hgroup
  · rcases bind_error h with hothers | ⟨_, _, h⟩
    · obtain ⟨_, _, hother⟩ := exists_error_of_mapM hothers
      exact Naming.exists_invalidName_of_itemPath hother
    · cases h

theorem exists_invalidName_of_reflectedOf {r : ReflectedType} (h : reflectedOf root r = .error e) :
    ∃ n, e = .invalidName n := by
  rcases bind_error h with hbranch | ⟨_, _, h⟩
  · exact exists_invalidName_of_branchOf hbranch
  · rcases bind_error h with harms | ⟨_, _, h⟩
    · obtain ⟨q, _, harm⟩ := exists_error_of_mapM harms
      rcases bind_error harm with hmethod | ⟨_, _, harm⟩
      · exact ⟨_, Naming.eq_invalidName_of_ident hmethod⟩
      · cases harm
    · cases h

/-- A plan without a dispatcher has a name that is no identifier. -/
theorem exists_invalidName_of_ofPlan {spec : GenerationSpec} {plan : DispatchPlan}
    (h : ofPlan spec plan = .error e) : ∃ n, e = .invalidName n := by
  rcases bind_error h with hbranches | ⟨_, _, h⟩
  · obtain ⟨_, _, hbranch⟩ := exists_error_of_mapM hbranches
    exact exists_invalidName_of_branchOf hbranch
  · rcases bind_error h with hgroups | ⟨_, _, h⟩
    · obtain ⟨_, _, hgroup⟩ := exists_error_of_mapM hgroups
      exact exists_invalidName_of_groupOf hgroup
    · rcases bind_error h with hreflected | ⟨_, _, h⟩
      · obtain ⟨_, _, hr⟩ := exists_error_of_mapM hreflected
        exact exists_invalidName_of_reflectedOf hr
      · cases h

end Dispatcher

/-- A group that stands for no step is not declared. -/
theorem DispatchPlan.exists_unknownType_of_groupSteps {host : Host} {groups : List TypeName}
    {e : GenerateError} (h : groupSteps host groups = .error e) : ∃ n, e = .unknownType n := by
  obtain ⟨group, _, hgroup⟩ := Dispatcher.exists_error_of_mapM h
  rcases Dispatcher.bind_error hgroup with hload | ⟨_, _, hgroup⟩
  · unfold TypeUniverse.load at hload
    split at hload
    · cases hload
    · exact ⟨group, (Except.error.inj hload).symm⟩
  · cases hgroup

namespace Host

variable {host : Host} {t : ResolvedType} {n : TypeName} {cause : EngineError}

/-! ## Container properties -/

/-- A cascaded container property of a type leads to an element, through its field or its getter. -/
def UnwrapsTo (host : Host) (t : ResolvedType) (n : TypeName) : Prop :=
  ∃ q ∈ t.descriptor.cascadedProperties, host.unwraps q = true ∧
    ∃ via, host.containerElement t q via = some n

theorem UnwrapsTo.cascadesTo (h : host.UnwrapsTo t n) (hlookUp : host.lookUp t.name = .ok t) :
    host.CascadesTo t.name n := by
  obtain ⟨q, hq, hunwraps, helement⟩ := h
  have hvisit := visit_mem_propertySteps_iff.2 (Or.inr ⟨hunwraps, helement⟩)
  exact (visit_mem_steps_iff hlookUp).1 (List.mem_flatMap.2 ⟨q, hq, hvisit⟩)

/-- A cascade to a type that is not described goes through a container, as a plain one needs an
element that the engine has constrained. -/
theorem unwrapsTo_of_refused
    (hdefault : host.engine.isConstrained = isConstrainedBy host.engine.describe)
    (hrefused : host.engine.describe n = .error cause) (h : .visit n ∈ host.steps t) :
    host.UnwrapsTo t n := by
  obtain ⟨q, hq, hvisit⟩ := List.mem_flatMap.1 h
  rcases visit_mem_propertySteps_iff.1 hvisit with ⟨_, _, hconstrained⟩ | ⟨hunwraps, helement⟩
  · rw [hdefault, isConstrainedBy, hrefused] at hconstrained
    cases hconstrained
  · exact ⟨q, hq, hunwraps, helement⟩

/-! ## Where visits come from -/

variable {σ : Type} [ArtifactSink σ] {tys : List TypeName}

/-- Every pending visit is to a listed type, or a cascade of a cached type leads there. -/
def Traced (host : Host) (tys : List TypeName) (s : Search σ) : Prop :=
  ∀ n, .visit n ∈ s.pending → n ∈ tys ∨ ∃ m ∈ s.cached, host.CascadesTo m n

theorem traced_of_advances {s s' : Search σ} (h : host.Advances s s')
    (hs : host.Traced tys s) : host.Traced tys s' := by
  intro n hn
  have hkept : .visit n ∈ s.pending → n ∈ tys ∨ ∃ m ∈ s'.cached, host.CascadesTo m n := by
    intro hpending
    rcases hs n hpending with hlisted | ⟨m, hm, hcascade⟩
    · exact Or.inl hlisted
    · exact Or.inr ⟨m, cached_of_advances h hm, hcascade⟩
  cases h with
  | record => exact hkept (List.mem_cons_of_mem _ hn)
  | hit => exact hkept (List.mem_cons_of_mem _ hn)
  | @enter cache out out' ty rest t name hnew hlookUp hemit =>
    rcases List.mem_append.1 hn with hn | hn
    · refine Or.inr ⟨ty, ?_, (visit_mem_steps_iff hlookUp).1 hn⟩
      exact (TypeCache.mem_names_insert _ _ _).2 (Or.inl (name_of_lookUp hlookUp).symm)
    · exact hkept (List.mem_cons_of_mem _ hn)

theorem traced_of_runs {s s' : Search σ} (h : host.Runs s s') (hs : host.Traced tys s) :
    host.Traced tys s' := by
  induction h with
  | refl => exact hs
  | tail _ hstep ih => exact traced_of_advances hstep ih

omit [ArtifactSink σ] in
theorem traced_visits (p : Progress σ) : host.Traced tys ⟨p, tys.map .visit⟩ := by
  intro n hn
  obtain ⟨ty, hty, heq⟩ := List.mem_map.1 hn
  cases heq
  exact Or.inl hty

/-- A search that stops at a type which is not described was told to visit it, or a cascade from a
type in its cache leads there. -/
theorem traced_of_stopped {p p' : Progress MemoryArtifacts} {s : Search MemoryArtifacts}
    (hrun : host.Runs ⟨p, tys.map .visit⟩ s) (hstop : host.Stops s (.unresolvableType n cause) p') :
    host.engine.describe n = .error cause ∧
      (n ∈ tys ∨ ∃ m ∈ p'.cache.names, host.CascadesTo m n) := by
  obtain ⟨_, _, _, _, hkept⟩ := names_of_stops hstop
  obtain ⟨ty, hvisit, hfaulty⟩ := faulty_of_stops hstop
  cases hfaulty with
  | undescribed hdescribe =>
    refine ⟨hdescribe, ?_⟩
    rcases traced_of_runs hrun (traced_visits p) n hvisit with hlisted | ⟨m, hm, hcascade⟩
    · exact Or.inl hlisted
    · exact Or.inr ⟨m, hkept m hm, hcascade⟩

end Host

namespace GenerateCall

variable {c : GenerateCall} {out : Output MemoryArtifacts} {p : Progress MemoryArtifacts}
  {t : ResolvedType} {n : TypeName} {cause : EngineError}

/-- The types that a run requests reach a type. -/
def Reaches (c : GenerateCall) (n : TypeName) : Prop :=
  ∃ ty ∈ c.spec.targets ++ c.spec.reflect, c.host.Reaches ty n

/-- A run that fails, and commits no dispatching validator. -/
structure FailsWith (c : GenerateCall) (out : Output MemoryArtifacts) (e : GenerateError) :
    Prop where
  result : (c.run out).1 = .error e
  /-- A validator in the sink was there before. -/
  validators : ∀ q (d : Dispatcher), (c.run out).2.sink.get? q = some (artifactText q d.tokens) →
    out.sink.get? q = some (artifactText q d.tokens)

/-- A run without a plan commits no validator. -/
theorem failsWith_of_unplanned {asked : List Artifact} (hasked : out.sink.Answers asked)
    {e : GenerateError} (h : c.plan out = (.error e, p)) : c.FailsWith out e where
  result := by rw [run_of_unplanned h]
  validators q d hget := by
    rw [run_of_unplanned h] at hget
    obtain ⟨a, hfirst, hsource⟩ := (answers_plan hasked h).get?_eq_some_iff.1 hget
    have hname : a.qualifiedName = q := by simpa using List.find?_some hfirst
    rw [firstAsking, List.find?_append] at hfirst
    cases hold : asked.find? fun a => a.qualifiedName == q with
    | some a' =>
      rw [hold, Option.some_or, Option.some.injEq] at hfirst
      obtain rfl := hfirst
      exact hasked.get?_eq_some_iff.2 ⟨a', hold, hsource⟩
    | none =>
      rw [hold, Option.none_or] at hfirst
      obtain ⟨t, _, rfl⟩ := List.mem_map.1 (List.mem_of_find?_eq_some hfirst)
      exact absurd hsource (t.source?_marker_ne d q hname)

/-- No finished search has cached a type with a container of refused elements. -/
theorem not_finished_of_refused {p : Progress MemoryArtifacts}
    (hrun : c.host.Runs ⟨⟨{}, out⟩, c.spec.requested.map .visit⟩ ⟨p, []⟩)
    (ht : t ∈ p.cache.values) (hunwraps : c.host.UnwrapsTo t n) :
    c.engine.describe n ≠ .error cause := by
  intro hrefused
  obtain ⟨types, htypes⟩ := Host.enters_of_runs hrun
  have hvalues : p.cache.values = types := htypes.values
  have hlookUp : ∀ t ∈ p.cache.values, c.host.lookUp t.name = .ok t := hvalues ▸ htypes.lookUp
  have hcached : t.name ∈ p.cache.names := by
    rw [TypeCache.names_eq_map_name]
    exact List.mem_map_of_mem ht
  -- the element was visited, so it was looked up
  have helement : n ∈ p.cache.names := by
    rw [Host.mem_names_iff_of_finished rfl hrun] at hcached ⊢
    exact Host.exists_reaches_of_cascadesTo _ _ hcached (hunwraps.cascadesTo (hlookUp t ht))
  rw [TypeCache.names_eq_map_name] at helement
  obtain ⟨t', ht', rfl⟩ := List.mem_map.1 helement
  have hdescribe : c.engine.describe t'.name = .ok t'.descriptor :=
    (Host.lookUp_eq_ok_iff.1 (hlookUp t' ht')).1
  rw [hrefused] at hdescribe
  cases hdescribe

/-- A run with a cached type that has a container of refused elements fails at a type that it
reaches. -/
theorem unplanned_of_refused (ht : t ∈ (c.plan out).2.cache.values)
    (hunwraps : c.host.UnwrapsTo t n) (hrefused : c.engine.describe n = .error cause) :
    ∃ e p, c.plan out = (.error e, p) ∧ ∃ m, c.Reaches m ∧ c.host.Faulty m e := by
  cases hplan : c.plan out with
  | mk r p =>
    rw [hplan] at ht
    cases r with
    | ok plan =>
      obtain ⟨p₁, hrun, rfl⟩ := DispatchPlan.runs_of_build hplan
      exact absurd hrefused (not_finished_of_refused hrun ht hunwraps)
    | error e =>
      refine ⟨e, p, rfl, ?_⟩
      rcases DispatchPlan.stopped_or_finished_of_build_error hplan with ⟨s, hrun, hstop⟩ | ⟨hrun, _⟩
      · obtain ⟨m, ⟨ty, hty, hreach⟩, hfaulty⟩ := Host.exists_faulty_of_stopped hrun hstop
        exact ⟨m, ⟨ty, GenerationSpec.mem_requested.1 hty, hreach⟩, hfaulty⟩
      · exact absurd hrefused (not_finished_of_refused hrun ht hunwraps)

/-- A refused type for which a run fails was requested, or is an element of a container. -/
theorem undescribed_of_run_error
    (hdefault : c.engine.isConstrained = isConstrainedBy c.engine.describe)
    (h : (c.run out).1 = .error (.unresolvableType n cause)) :
    c.engine.describe n = .error cause ∧ (n ∈ c.spec.targets ++ c.spec.reflect ∨
      ∃ t ∈ (c.plan out).2.cache.values, c.host.UnwrapsTo t n) := by
  cases hplan : c.plan out with
  | mk r p =>
    cases r with
    | ok plan =>
      have hrun : c.run out = (.error (.unresolvableType n cause), (c.run out).2) := Prod.ext h rfl
      have hbody := body_of_run_error hplan hrun
      cases hd : Dispatcher.ofPlan c.spec plan with
      | ok d =>
        rw [DispatchPlan.artifact, hd] at hbody
        cases hbody
      | error e =>
        obtain ⟨name, rfl⟩ := Dispatcher.exists_invalidName_of_ofPlan hd
        rw [DispatchPlan.artifact, hd] at hbody
        cases hbody
    | error e =>
      rw [run_of_unplanned hplan] at h
      obtain rfl := Except.error.inj h
      rcases DispatchPlan.stopped_or_finished_of_build_error hplan with
        ⟨s, hrun, hstop⟩ | ⟨_, hgroups⟩
      · obtain ⟨hdescribe, horigin⟩ := Host.traced_of_stopped hrun hstop
        refine ⟨hdescribe, ?_⟩
        rcases horigin with hrequested | ⟨m, hm, hcascade⟩
        · exact Or.inl (GenerationSpec.mem_requested.1 hrequested)
        · rw [TypeCache.names_eq_map_name] at hm
          obtain ⟨t, ht, rfl⟩ := List.mem_map.1 hm
          have hvisit := (Host.visit_mem_steps_iff (lookUp_of_mem_values hplan ht)).2 hcascade
          exact Or.inr ⟨t, ht, Host.unwrapsTo_of_refused hdefault hdescribe hvisit⟩
      · obtain ⟨_, hunknown⟩ := DispatchPlan.exists_unknownType_of_groupSteps hgroups
        cases hunknown

/-- A planned run commits a validator that can be rendered, unless a cached type has a marker of its
name. -/
theorem get?_validator_of_planned {plan : DispatchPlan}
    (hplan : c.plan { sink := {} } = (.ok plan, p))
    {d : Dispatcher} (hd : Dispatcher.ofPlan c.spec plan = .ok d)
    (hown : ∀ t ∈ p.cache.values, t.qualifiedOutputName ≠ c.spec.qualifiedName) :
    (c.run { sink := {} }).2.sink.get? c.spec.qualifiedName =
      some (artifactText c.spec.qualifiedName d.tokens) := by
  have hanswers := c.answers_run answers_start
  rw [List.nil_append, requests_of_planned hplan] at hanswers
  refine hanswers.get?_eq_some_iff.2 ⟨plan.artifact c.spec, ?_, DispatchPlan.source?_artifact hd⟩
  have hnone : firstAsking (p.cache.values.map (·.marker)) c.spec.qualifiedName = none := by
    refine firstAsking_eq_none_iff.2 fun a ha => ?_
    obtain ⟨t, ht, rfl⟩ := List.mem_map.1 ha
    exact hown t ht
  have hname : (plan.artifact c.spec).qualifiedName = c.spec.qualifiedName := rfl
  rw [firstAsking_append_self, hnone, if_pos hname]
  rfl

end GenerateCall

/-- After any runs, with an engine that answers by its descriptions, a run fails if it has cached a
type with a container property whose elements are refused, and it commits no validator.  It reports
the fault of a type that it reaches, so a refusal if nothing else is wrong with these types.  A
refused type that it reports was requested or is an element of a container. -/
theorem run_fails_of_refused_elements (calls : List GenerateCall) (c : GenerateCall)
    (hdefault : c.engine.isConstrained = isConstrainedBy c.engine.describe) :
    (∀ t ∈ (c.plan (afterCalls { sink := {} } calls)).2.cache.values, ∀ n cause,
      c.host.UnwrapsTo t n → c.engine.describe n = .error cause →
      ∃ e, c.FailsWith (afterCalls { sink := {} } calls) e ∧
        (∃ m, c.Reaches m ∧ c.host.Faulty m e) ∧
        ((∀ m e', c.Reaches m → c.host.Faulty m e' → ∃ cause', e' = .unresolvableType m cause') →
          ∃ m cause', e = .unresolvableType m cause' ∧ c.engine.describe m = .error cause')) ∧
    ∀ n cause,
      (c.run (afterCalls { sink := {} } calls)).1 = .error (.unresolvableType n cause) →
      c.engine.describe n = .error cause ∧ (n ∈ c.spec.targets ++ c.spec.reflect ∨
        ∃ t ∈ (c.plan (afterCalls { sink := {} } calls)).2.cache.values, c.host.UnwrapsTo t n) := by
  have hasked := answers_afterCalls answers_start calls
  refine ⟨fun t ht n cause hunwraps hrefused => ?_, fun n cause hrun => ?_⟩
  · obtain ⟨e, p, hplan, m, hreach, hfaulty⟩ :=
      GenerateCall.unplanned_of_refused ht hunwraps hrefused
    refine ⟨e, GenerateCall.failsWith_of_unplanned hasked hplan, ⟨m, hreach, hfaulty⟩, ?_⟩
    intro honly
    obtain ⟨cause', rfl⟩ := honly m e hreach hfaulty
    cases hfaulty with
    | undescribed hdescribe => exact ⟨m, cause', rfl, hdescribe⟩
  · exact GenerateCall.undescribed_of_run_error hdefault hrun

/-- A run for fleets, with an engine that refuses robots. -/
def refusedRobotsCall : GenerateCall where
  spec := GenerationSpec.ofTargets (.plain "FleetsValidator") fleetType []
  types := fleetDeclarations
  engine :=
    fleetTable.toEngine.refusing [(robotType, .rejected robotType "conflicting constraints")]

private theorem refused_robots_reaches {m : TypeName} (h : refusedRobotsCall.Reaches m) :
    m = fleetType ∨ m = robotType := by
  have hrobot : refusedRobotsCall.host.engine.describe robotType =
      .error (.rejected robotType "conflicting constraints") := rfl
  obtain ⟨t, hlookUp, hsteps⟩ : ∃ t, refusedRobotsCall.host.lookUp fleetType = .ok t ∧
      (refusedRobotsCall.host.steps t).all (Host.staysIn [robotType]) = true := ⟨_, rfl, rfl⟩
  obtain ⟨ty, hty, hreach⟩ := h
  obtain rfl : ty = fleetType := List.mem_singleton.1 hty
  induction hreach with
  | refl => exact Or.inl rfl
  | @tail n m _ hcascade ih =>
    rcases ih with rfl | rfl
    · have hvisit := List.all_eq_true.1 hsteps _ ((Host.visit_mem_steps_iff hlookUp).2 hcascade)
      exact Or.inr (List.mem_singleton.1 (List.contains_iff_mem.1 hvisit))
    · exact absurd hcascade (Host.not_cascadesTo_of_undescribed hrobot m)

/-- The fleet has an array of robots, so the run fails for them. -/
theorem run_refused_robots_fails :
    refusedRobotsCall.FailsWith { sink := {} }
      (.unresolvableType robotType (.rejected robotType "conflicting constraints")) := by
  have hrefused : refusedRobotsCall.engine.describe robotType =
      .error (.rejected robotType "conflicting constraints") := rfl
  obtain ⟨hcontainer, _⟩ := run_fails_of_refused_elements [] refusedRobotsCall rfl
  obtain ⟨t, hlookUp, hvisit, hbody⟩ : ∃ t, refusedRobotsCall.host.lookUp fleetType = .ok t ∧
      .visit robotType ∈ refusedRobotsCall.host.steps t ∧ t.marker.body.isOk = true :=
    ⟨_, rfl, by decide, rfl⟩
  have hcached : t ∈ (refusedRobotsCall.plan { sink := {} }).2.cache.values := by
    cases hplan : refusedRobotsCall.plan { sink := {} } with
    | mk r p =>
      obtain ⟨p₁, hends, hcache, _⟩ := DispatchPlan.ends_of_build hplan
      have hfleet : fleetType ∈ p.cache.names := hcache ▸ Host.mem_names_of_ends hlookUp hends
      rw [TypeCache.names_eq_map_name] at hfleet
      obtain ⟨t', ht', hname⟩ := List.mem_map.1 hfleet
      have hlookUp' := GenerateCall.lookUp_of_mem_values hplan ht'
      rw [hname, hlookUp] at hlookUp'
      exact Except.ok.inj hlookUp' ▸ ht'
  have hunwraps := Host.unwrapsTo_of_refused rfl hrefused hvisit
  obtain ⟨e, hfails, ⟨m, hreach, hfaulty⟩, _⟩ := hcontainer t hcached robotType _ hunwraps hrefused
  have herror :
      e = .unresolvableType robotType (.rejected robotType "conflicting constraints") := by
    rcases refused_robots_reaches hreach with rfl | rfl
    · exact absurd ⟨t, hlookUp, exists_eq_ok_of_isOk hbody⟩ hfaulty.not_resolvable
    · cases hfaulty with
      | undescribed hdescribe =>
        obtain rfl := Except.error.inj (hrefused.symm.trans hdescribe)
        rfl
      | undeclared hnone => cases hnone
      | unnamed hfound => cases hfound
  exact herror ▸ hfails

/-- A run for robots, with an engine that refuses fleets. -/
def refusedFleetCall : GenerateCall where
  spec := (GenerationSpec.ofTargets (.plain "RobotsValidator") robotType []).withConfig
    { GeneratorConfig.standard with containers := [] }
  types := fleetDeclarations
  engine :=
    fleetTable.toEngine.refusing [(fleetType, .rejected fleetType "conflicting constraints")]

/-- Robots have a cascade to their fleet, which is no container and is refused.  The run succeeds
nevertheless, and commits its validator. -/
theorem run_refused_fleet_succeeds :
    ∃ plan p d name out', refusedFleetCall.plan { sink := {} } = (.ok plan, p) ∧
      Dispatcher.ofPlan refusedFleetCall.spec plan = .ok d ∧
      refusedFleetCall.run { sink := {} } = (.ok name, out') ∧
      (∃ t ∈ p.cache.values, ∃ q ∈ t.descriptor.cascadedProperties,
        refusedFleetCall.host.unwraps q = false ∧ q.elementClass.erasure = some fleetType) ∧
      refusedFleetCall.engine.describe fleetType =
        .error (.rejected fleetType "conflicting constraints") ∧
      out'.sink.get? "acme.RobotsValidator" =
        some (artifactText "acme.RobotsValidator" d.tokens) := by
  have hclosed : refusedFleetCall.isClosedOver [robotType] = true := by decide +kernel
  obtain ⟨plan, p, d, name, out', hplan, hd, hrun⟩ :=
    GenerateCall.exists_run_of_isClosedOver hclosed { sink := {} }
  refine ⟨plan, p, d, name, out', hplan, hd, hrun, ?_, rfl, ?_⟩
  · obtain ⟨t, hlookUp, hname, hproperty⟩ : ∃ t, refusedFleetCall.host.lookUp robotType = .ok t ∧
        t.name = robotType ∧ ∃ q ∈ t.descriptor.cascadedProperties,
          refusedFleetCall.host.unwraps q = false ∧ q.elementClass.erasure = some fleetType :=
      ⟨_, rfl, rfl, _, List.mem_cons_self, rfl, rfl⟩
    have hneeds : refusedFleetCall.spec.Needs refusedFleetCall.host t :=
      ⟨hname ▸ hlookUp, robotType, by decide, hname ▸ ReflTransGen.refl⟩
    exact ⟨t, (GenerateCall.mem_values_iff_needs hplan).2 hneeds, hproperty⟩
  · have hvalidator := GenerateCall.get?_validator_of_planned hplan hd
      fun t _ => t.qualifiedOutputName_ne (by decide)
    have hqualified : refusedFleetCall.spec.qualifiedName = "acme.RobotsValidator" := by decide
    rw [hrun, hqualified] at hvalidator
    exact hvalidator

end ValidatorForge
