import ValidatorForge.Proofs.Dispatch.Provenance
import ValidatorForge.Proofs.Dispatch.Renderable

/-!
# Runs that share a sink

Several runs emit into one sink, and a name belongs to the request that came first.  So a name holds
a dispatching validator exactly if the first request for it was for a validator that could be
rendered (`holdsValidator_iff`).  A validator that could not be rendered, or a marker, keeps the
name from all later runs, and these succeed nevertheless.
-/

namespace ValidatorForge

open Sample

/-- The artifact of a dispatching validator that can be rendered. -/
def Artifact.IsRendered (a : Artifact) : Prop :=
  ∃ spec plan d, a = DispatchPlan.artifact plan spec ∧ Dispatcher.ofPlan spec plan = .ok d

/-- What is committed under a name is the source of a dispatching validator, rendered for a spec of
that name. -/
def HoldsValidator (m : MemoryArtifacts) (q : String) : Prop :=
  ∃ spec plan d, GenerationSpec.qualifiedName spec = q ∧ Dispatcher.ofPlan spec plan = .ok d ∧
    m.get? q = some (artifactText q d.tokens)

/-- After any series of runs, a name holds a dispatching validator exactly if the first request for
the name was for one that could be rendered. -/
theorem holdsValidator_iff (calls : List GenerateCall) (q : String) :
    HoldsValidator (afterCalls { sink := {} } calls).sink q ↔
      ∃ a, firstAsking (requestsOf { sink := {} } calls) q = some a ∧ a.IsRendered := by
  have hanswers := answers_afterCalls answers_start calls
  rw [List.nil_append] at hanswers
  constructor
  · intro h
    obtain ⟨spec, plan, d, _, hd, hget⟩ := h
    obtain ⟨a, hfirst, hsource⟩ := hanswers.get?_eq_some_iff.1 hget
    have hname : a.qualifiedName = q := by simpa using List.find?_some hfirst
    obtain ⟨c, _, out', ha⟩ := exists_call_of_mem_requestsOf (List.mem_of_find?_eq_some hfirst)
    refine ⟨a, hfirst, ?_⟩
    rcases c.marker_or_artifact_of_mem_requests ha with ⟨t, rfl⟩ | ⟨plan', p, _, rfl⟩
    · exact absurd hsource (t.source?_marker_ne d q hname)
    · cases hd' : Dispatcher.ofPlan c.spec plan' with
      | ok d' => exact ⟨c.spec, plan', d', rfl, hd'⟩
      | error e =>
        rw [Artifact.source?, DispatchPlan.artifact, hd'] at hsource
        cases hsource
  · intro h
    obtain ⟨a, hfirst, spec, plan, d, rfl, hd⟩ := h
    have hasked : (plan.artifact spec).qualifiedName = q := by simpa using List.find?_some hfirst
    have hname : spec.qualifiedName = q := hasked
    refine ⟨spec, plan, d, hname, hd, hanswers.get?_eq_some_iff.2 ⟨_, hfirst, ?_⟩⟩
    rw [DispatchPlan.source?_artifact hd, hname]

/-- If no run before has asked for the name of a validator that can be rendered, the first request
for the name is for that validator. -/
theorem firstAsking_isRendered {calls : List GenerateCall} {c : GenerateCall} {plan : DispatchPlan}
    {p : Progress MemoryArtifacts} {d : Dispatcher}
    (hfree : ∀ a ∈ requestsOf { sink := {} } calls, a.qualifiedName ≠ c.spec.qualifiedName)
    (hplan : c.plan (afterCalls { sink := {} } calls) = (.ok plan, p))
    (hown : ∀ t ∈ p.cache.values, t.qualifiedOutputName ≠ c.spec.qualifiedName)
    (hd : Dispatcher.ofPlan c.spec plan = .ok d) :
    ∃ a, firstAsking (requestsOf { sink := {} } (calls ++ [c])) c.spec.qualifiedName = some a ∧
      a.IsRendered := by
  refine ⟨plan.artifact c.spec, ?_, c.spec, plan, d, rfl, hd⟩
  rw [requestsOf_append, requestsOf, requestsOf, List.append_nil, firstAsking_append,
    firstAsking_eq_none_iff.2 hfree, GenerateCall.firstAsking_requests hplan hown]
  rfl

/-- A run that generates a validator for depots, which cannot be rendered. -/
def depotCall : GenerateCall := ⟨depotSpec, fleetDeclarations, fleetTable.toEngine⟩

private theorem depot_plan (out : Output MemoryArtifacts) :
    ∃ plan p, depotCall.plan out = (.ok plan, p) := by
  have hclosed : (depotSpec.host fleetDeclarations fleetTable.toEngine).isClosedList
      depotSpec.targets = true := rfl
  exact DispatchPlan.build_total (Host.clean_of_isClosedList hclosed) (fun _ hty => nomatch hty) rfl
    ⟨{}, out⟩

private theorem depot_unbuilt {out : Output MemoryArtifacts} {plan : DispatchPlan}
    {p : Progress MemoryArtifacts} (h : depotCall.plan out = (.ok plan, p)) :
    ∃ e, (plan.artifact depotSpec).body = .error e := by
  cases hd : Dispatcher.ofPlan depotSpec plan with
  | error e => exact ⟨e, by rw [DispatchPlan.artifact, hd]; rfl⟩
  | ok d =>
    obtain ⟨path, hpath⟩ := Dispatcher.exists_typePath_of_ofPlan h hd depotType (by decide)
    cases hpath

private theorem depot_requests {out : Output MemoryArtifacts} {a : Artifact}
    (h : a ∈ depotCall.requests out) (hname : a.qualifiedName = depotSpec.qualifiedName) :
    ∃ e, a.body = .error e := by
  rcases depotCall.marker_or_artifact_of_mem_requests h with ⟨t, rfl⟩ | ⟨plan, p, hplan, rfl⟩
  · exact absurd hname (t.qualifiedOutputName_ne (by decide))
  · exact depot_unbuilt hplan

/-- The second run for depots finds the name of the validator taken. -/
theorem depot_second_run :
    ∃ out', depotCall.run (afterCalls { sink := {} } [depotCall]) =
        (.ok depotSpec.qualifiedName, out') ∧
      out'.sink.get? depotSpec.qualifiedName = none := by
  have hfirst := depotCall.answers_run answers_start
  obtain ⟨plan, p, hplan⟩ := depot_plan { sink := {} }
  obtain ⟨plan', p', hplan'⟩ := depot_plan (depotCall.run { sink := {} }).2
  have hasked : plan.artifact depotSpec ∈ depotCall.requests { sink := {} } := by
    rw [GenerateCall.requests_of_planned hplan]
    exact List.mem_append_right _ (List.mem_singleton.2 rfl)
  have htaken : depotSpec.qualifiedName ∈ p'.output.sink.taken := by
    refine ((GenerateCall.answers_plan hfirst hplan').taken_iff _).2
      ⟨plan.artifact depotSpec, ?_, rfl⟩
    exact List.mem_append_left _ (List.mem_append_right _ hasked)
  have hrun := GenerateCall.run_of_taken hplan' htaken
  refine ⟨_, Prod.ext hrun rfl, ?_⟩
  refine (depotCall.answers_run hfirst).get?_eq_none fun a ha hname => ?_
  rcases List.mem_append.1 ha with ha | ha
  · exact depot_requests ha hname
  · exact depot_requests ha hname

/-- A run that succeeds after others holds its validator exactly if the first request for the
validator's name was for one that could be rendered. -/
theorem run_ok_holdsValidator_iff (calls : List GenerateCall) (c : GenerateCall) {q : String}
    {out' : Output MemoryArtifacts} (h : c.run (afterCalls { sink := {} } calls) = (.ok q, out')) :
    q = c.spec.qualifiedName ∧
      (HoldsValidator out'.sink q ↔
        ∃ a, firstAsking (requestsOf { sink := {} } (calls ++ [c])) q = some a ∧ a.IsRendered) := by
  refine ⟨(GenerateCall.of_run_ok h).1, ?_⟩
  have hafter : afterCalls { sink := {} } (calls ++ [c]) = out' := by
    rw [afterCalls, List.foldl_append]
    exact congrArg Prod.snd h
  rw [← hafter]
  exact holdsValidator_iff (calls ++ [c]) q

/-- At the second run for depots, the first request for the validator's name was not for one that
could be rendered.  A run for machines after both holds its validator. -/
theorem machine_run_holds_after_depot_runs :
    (depotCall.run (afterCalls { sink := {} } [depotCall])).1 = .ok depotSpec.qualifiedName ∧
      (¬ ∃ a, firstAsking (requestsOf { sink := {} } [depotCall, depotCall])
          depotSpec.qualifiedName = some a ∧ a.IsRendered) ∧
      ∃ out', (machineCall (.plain "MachineValidator") "acme").run
          (afterCalls { sink := {} } [depotCall, depotCall]) = (.ok "acme.MachineValidator", out') ∧
        HoldsValidator out'.sink "acme.MachineValidator" := by
  obtain ⟨out', hrun, hnone⟩ := depot_second_run
  refine ⟨congrArg Prod.fst hrun, fun hrendered => ?_, ?_⟩
  · obtain ⟨_, hiff⟩ := run_ok_holdsValidator_iff [depotCall] depotCall hrun
    obtain ⟨spec, plan, d, _, _, hget⟩ := hiff.2 hrendered
    rw [hnone] at hget
    cases hget
  · obtain ⟨plan, p, d, name, out', hplan, hd, hrun⟩ :=
      GenerateCall.exists_run_of_isClosedOver GenerateCall.isClosedOver_machine
        (afterCalls { sink := {} } [depotCall, depotCall])
    obtain ⟨rfl, hiff⟩ := run_ok_holdsValidator_iff [depotCall, depotCall] _ hrun
    have hfree : ∀ a ∈ requestsOf { sink := {} } [depotCall, depotCall],
        a.qualifiedName ≠ "acme.MachineValidator" := by
      intro a ha
      obtain ⟨c, hc, out, ha⟩ := exists_call_of_mem_requestsOf ha
      obtain rfl : c = depotCall := by simpa using hc
      exact GenerateCall.ne_of_mem_requests ha (by decide) (by decide)
    exact ⟨out', hrun, hiff.2 (firstAsking_isRendered hfree hplan
      (fun t _ => t.qualifiedOutputName_ne (by decide)) hd)⟩

/-- The first run for depots fails at a name that cannot be spelled.  The second one succeeds, and
nothing is committed under the name that it returns. -/
theorem run_depot_twice :
    (∃ e, (depotCall.run { sink := {} }).1 = .error e) ∧
    ∃ out', depotCall.run (afterCalls { sink := {} } [depotCall]) =
        (.ok depotSpec.qualifiedName, out') ∧
      out'.sink.get? depotSpec.qualifiedName = none := by
  refine ⟨?_, depot_second_run⟩
  obtain ⟨plan, p, hplan⟩ := depot_plan { sink := {} }
  obtain ⟨e, he⟩ := depot_unbuilt hplan
  refine ⟨e, GenerateCall.run_of_unbuilt hplan ?_ he⟩
  intro htaken
  obtain ⟨a, ha, hname⟩ := ((GenerateCall.answers_plan answers_start hplan).taken_iff _).1 htaken
  obtain ⟨t, _, rfl⟩ := List.mem_map.1 ha
  exact t.qualifiedOutputName_ne (by decide) hname

end ValidatorForge
