import ValidatorForge.Dispatch.Generate
import ValidatorForge.Proofs.Discovery.Fetching
import ValidatorForge.Proofs.Discovery.Markers
import ValidatorForge.Proofs.Dispatch.Plan

/-!
# Runs of the generator

A run is given a spec, declarations and an engine of its own.  It asks for the markers of all types
that enter its cache, and then for its validator, if that was planned.  Its sink receives these
requests in their order (`sink_run`).  So the sink of a series of runs answers the requests of all
of them (`answers_afterCalls`).

A planned run has cached what its targets and its types with property access reach
(`mem_values_iff_needs`), and it succeeds if its validator can be rendered (`exists_run_ok`).
-/

namespace ValidatorForge

/-- A run of the generator: what it is given besides the sink. -/
structure GenerateCall where
  spec : GenerationSpec
  types : TypeUniverse
  engine : ConstraintEngine

namespace GenerateCall

def run (c : GenerateCall) (out : Output MemoryArtifacts) :
    Except GenerateError String × Output MemoryArtifacts :=
  generate c.spec c.types c.engine out

/-- How the run plans its validator. -/
def plan (c : GenerateCall) (out : Output MemoryArtifacts) :
    Except GenerateError DispatchPlan × Progress MemoryArtifacts :=
  DispatchPlan.build c.spec (c.spec.host c.types c.engine) ⟨{}, out⟩

/-- The artifacts that a run asks for: the markers of the types that enter its cache, then the
validator if it is planned. -/
def requests (c : GenerateCall) (out : Output MemoryArtifacts) : List Artifact :=
  (c.plan out).2.cache.values.map (·.marker) ++
    match (c.plan out).1 with
    | .ok plan => [plan.artifact c.spec]
    | .error _ => []

/-- How the run plans its validator over any sink. -/
def planOver {σ : Type} [ArtifactSink σ] (c : GenerateCall) (out : Output σ) :
    Except GenerateError DispatchPlan × Progress σ :=
  DispatchPlan.build c.spec (c.spec.host c.types c.engine) ⟨{}, out⟩

/-- The artifacts that the run asks for over any sink. -/
def requestsOver {σ : Type} [ArtifactSink σ] (c : GenerateCall) (out : Output σ) : List Artifact :=
  (c.planOver out).2.cache.values.map (·.marker) ++
    match (c.planOver out).1 with
    | .ok plan => [plan.artifact c.spec]
    | .error _ => []

end GenerateCall

/-- What runs leave behind, one after the other. -/
def afterCalls (out : Output MemoryArtifacts) (calls : List GenerateCall) :
    Output MemoryArtifacts :=
  calls.foldl (fun out c => (c.run out).2) out

/-- All artifacts that the runs ask for, in order. -/
def requestsOf (out : Output MemoryArtifacts) : List GenerateCall → List Artifact
  | [] => []
  | c :: rest => c.requests out ++ requestsOf (c.run out).2 rest

/-! ## One run -/

theorem DispatchPlan.source?_artifact {spec : GenerationSpec} {plan : DispatchPlan} {d : Dispatcher}
    (h : Dispatcher.ofPlan spec plan = .ok d) :
    (plan.artifact spec).source? = some (artifactText spec.qualifiedName d.tokens) := by
  have hbody : (plan.artifact spec).body = .ok d.tokens := by
    rw [artifact, h]
    rfl
  rw [Artifact.source?, hbody]
  rfl

/-- Planning enters types into the cache and emits their markers, whether it succeeds or fails. -/
theorem DispatchPlan.enters_of_build {spec : GenerationSpec} {host : Host}
    {p p' : Progress MemoryArtifacts} {r : Except GenerateError DispatchPlan}
    (h : build spec host p = (r, p')) : ∃ types, host.Enters p p' types := by
  obtain ⟨p₁, hends, hcache, hsink⟩ := ends_of_build h
  obtain ⟨types, htypes⟩ := Host.enters_of_ends hends
  exact ⟨_, htypes.trans (Host.Enters.of_unchanged hcache hsink)⟩

namespace GenerateCall

variable {c : GenerateCall} {out : Output MemoryArtifacts} {asked : List Artifact}
  {p : Progress MemoryArtifacts}

/-- A run without a plan ends where planning has ended. -/
theorem run_of_unplanned {e : GenerateError} (h : c.plan out = (.error e, p)) :
    c.run out = (.error e, p.output) := by
  have hbuild : DispatchPlan.build c.spec (c.spec.host c.types c.engine) ⟨{}, out⟩ =
    (.error e, p) := h
  rw [run, generate, hbuild]

/-- A planned run emits its validator. -/
theorem run_of_planned {plan : DispatchPlan} (h : c.plan out = (.ok plan, p)) :
    (c.run out).1 = (p.output.emit (plan.artifact c.spec)).1 ∧
      (c.run out).2.sink = (p.output.emit (plan.artifact c.spec)).2.sink := by
  have hbuild : DispatchPlan.build c.spec (c.spec.host c.types c.engine) ⟨{}, out⟩ =
    (.ok plan, p) := h
  simp only [run, generate, hbuild]
  cases hemit : p.output.emit (plan.artifact c.spec) with
  | mk r out' => cases r <;> exact ⟨rfl, rfl⟩

theorem requests_of_unplanned {e : GenerateError} (h : c.plan out = (.error e, p)) :
    c.requests out = p.cache.values.map (·.marker) := by
  rw [requests, h, List.append_nil]

theorem requests_of_planned {plan : DispatchPlan} (h : c.plan out = (.ok plan, p)) :
    c.requests out = p.cache.values.map (·.marker) ++ [plan.artifact c.spec] := by
  rw [requests, h]

/-- Planning asks the sink for the markers of all types that it enters. -/
theorem answers_plan {r : Except GenerateError DispatchPlan} (h : out.sink.Answers asked)
    (hplan : c.plan out = (r, p)) :
    p.output.sink.Answers (asked ++ p.cache.values.map (·.marker)) := by
  obtain ⟨types, htypes⟩ := DispatchPlan.enters_of_build hplan
  have hvalues : p.cache.values = types := htypes.values
  rw [hvalues]
  exact htypes.answers asked h

/-- A run asks the sink for its requests. -/
theorem answers_run (c : GenerateCall) (h : out.sink.Answers asked) :
    (c.run out).2.sink.Answers (asked ++ c.requests out) := by
  cases hplan : c.plan out with
  | mk r p =>
    have hmarkers := answers_plan h hplan
    cases r with
    | error e =>
      rw [run_of_unplanned hplan, requests_of_unplanned hplan]
      exact hmarkers
    | ok plan =>
      rw [(run_of_planned hplan).2, requests_of_planned hplan, ← List.append_assoc]
      exact hmarkers.emit _

/-- A planned run whose name is taken succeeds without its validator. -/
theorem run_of_taken {plan : DispatchPlan} (hplan : c.plan out = (.ok plan, p))
    (htaken : c.spec.qualifiedName ∈ p.output.sink.taken) :
    (c.run out).1 = .ok c.spec.qualifiedName := by
  have hclaimed : (plan.artifact c.spec).qualifiedName ∈ p.output.sink.taken := htaken
  rw [(run_of_planned hplan).1, Output.emit_claimed hclaimed]
  rfl

/-- A planned run whose name is free fails if its validator cannot be built. -/
theorem run_of_unbuilt {plan : DispatchPlan} (hplan : c.plan out = (.ok plan, p))
    (hfree : c.spec.qualifiedName ∉ p.output.sink.taken) {e : GenerateError}
    (hbody : (plan.artifact c.spec).body = .error e) : (c.run out).1 = .error e := by
  have hunclaimed : (plan.artifact c.spec).qualifiedName ∉ p.output.sink.taken := hfree
  rw [(run_of_planned hplan).1, Output.emit_unbuilt hunclaimed hbody]

/-- A run that succeeds returns the name of its validator, which it has asked for. -/
theorem of_run_ok {q : String} {out' : Output MemoryArtifacts} (h : c.run out = (.ok q, out')) :
    q = c.spec.qualifiedName ∧ ∃ plan p, c.plan out = (.ok plan, p) := by
  cases hplan : c.plan out with
  | mk r p =>
    cases r with
    | error e =>
      rw [run_of_unplanned hplan] at h
      cases h
    | ok plan =>
      have hresult := (run_of_planned hplan).1
      rw [h] at hresult
      have hemit : p.output.emit (plan.artifact c.spec) =
          (.ok q, (p.output.emit (plan.artifact c.spec)).2) := Prod.ext hresult.symm rfl
      exact ⟨Output.name_of_emit_ok hemit, plan, p, rfl⟩

/-- Over any sink, a request is for the marker of a cached type, or for the planned validator. -/
theorem marker_or_artifact_of_mem_requestsOver {σ : Type} [ArtifactSink σ] {out : Output σ}
    {a : Artifact} (h : a ∈ c.requestsOver out) :
    (∃ t ∈ (c.planOver out).2.cache.values, a = t.marker) ∨
      ∃ plan p, c.planOver out = (.ok plan, p) ∧ a = plan.artifact c.spec := by
  rcases List.mem_append.1 h with h | h
  · obtain ⟨t, ht, rfl⟩ := List.mem_map.1 h
    exact Or.inl ⟨t, ht, rfl⟩
  · split at h
    · next plan hplan => exact Or.inr ⟨plan, _, Prod.ext hplan rfl, List.mem_singleton.1 h⟩
    · exact absurd h List.not_mem_nil

/-- A request is for a marker, or for the planned validator. -/
theorem marker_or_artifact_of_mem_requests {a : Artifact} (h : a ∈ c.requests out) :
    (∃ t : ResolvedType, a = t.marker) ∨
      ∃ plan p, c.plan out = (.ok plan, p) ∧ a = plan.artifact c.spec := by
  refine (marker_or_artifact_of_mem_requestsOver h).imp_left fun hmarker => ?_
  obtain ⟨t, _, rfl⟩ := hmarker
  exact ⟨t, rfl⟩

end GenerateCall

/-! ## What a run needs -/

/-- The types that a spec needs: what its targets and its types with property access reach. -/
def GenerationSpec.Needs (spec : GenerationSpec) (host : Host) (t : ResolvedType) : Prop :=
  host.lookUp t.name = .ok t ∧ ∃ ty ∈ spec.targets ++ spec.reflect, host.Reaches ty t.name

namespace GenerateCall

/-- What a run consults. -/
def host (c : GenerateCall) : Host := c.spec.host c.types c.engine

variable {c : GenerateCall} {out : Output MemoryArtifacts} {p : Progress MemoryArtifacts}
  {plan : DispatchPlan}

/-- However planning ends, the sink has received the markers of all types in the cache. -/
theorem marked_planOver {σ : Type} [ArtifactSink σ] {out : Output σ} {p : Progress σ}
    {r : Except GenerateError DispatchPlan} (hplan : c.planOver out = (r, p)) :
    p.Marked out.sink := by
  obtain ⟨p₁, hends, hcache, hsink⟩ := DispatchPlan.ends_of_build hplan
  have hmarked : p₁.Marked out.sink := Host.marked_of_ends hends rfl
  rw [Progress.Marked, hsink, hcache]
  exact hmarked

theorem marked_plan {r : Except GenerateError DispatchPlan} (hplan : c.plan out = (r, p)) :
    p.Marked out.sink :=
  marked_planOver hplan

/-- A run lets any sink receive its requests. -/
theorem sink_generate {σ : Type} [ArtifactSink σ] (c : GenerateCall) (out : Output σ) :
    (generate c.spec c.types c.engine out).2.sink = receiveAll out.sink (c.requestsOver out) := by
  cases hplan : c.planOver out with
  | mk r p =>
    have hmarked : p.output.sink = receiveAll out.sink (p.cache.values.map (·.marker)) :=
      marked_planOver hplan
    have hbuild : DispatchPlan.build c.spec (c.spec.host c.types c.engine) ⟨{}, out⟩ = (r, p) :=
      hplan
    rw [requestsOver, hplan]
    cases r with
    | error e =>
      rw [generate, hbuild, List.append_nil]
      exact hmarked
    | ok plan =>
      rw [generate, hbuild, receiveAll_concat, ← hmarked, ← Output.sink_emit]
      cases hemit : p.output.emit (plan.artifact c.spec) with
      | mk r out' => cases r <;> simp [hemit, Output.log]

/-- A run lets its sink receive the requests. -/
theorem sink_run (c : GenerateCall) (out : Output MemoryArtifacts) :
    (c.run out).2.sink = receiveAll out.sink (c.requests out) :=
  c.sink_generate out

/-- A type that enters the cache of a run can be looked up. -/
theorem lookUp_of_mem_values {r : Except GenerateError DispatchPlan} (hplan : c.plan out = (r, p))
    {t : ResolvedType} (ht : t ∈ p.cache.values) : c.host.lookUp t.name = .ok t := by
  obtain ⟨types, htypes⟩ := DispatchPlan.enters_of_build hplan
  have hvalues : p.cache.values = types := htypes.values
  exact htypes.lookUp t (hvalues ▸ ht)

/-- A planned run has cached what its targets and its types with property access reach. -/
theorem mem_names_iff_reaches (hplan : c.plan out = (.ok plan, p)) {n : TypeName} :
    n ∈ p.cache.names ↔ ∃ ty ∈ c.spec.targets ++ c.spec.reflect, c.host.Reaches ty n :=
  DispatchPlan.mem_names_iff_reaches rfl hplan

/-- A planned run has cached the types that the spec needs, and no others. -/
theorem mem_values_iff_needs (hplan : c.plan out = (.ok plan, p)) {t : ResolvedType} :
    t ∈ p.cache.values ↔ c.spec.Needs c.host t := by
  have hnames : t.name ∈ p.cache.values.map (·.name) ↔
      ∃ ty ∈ c.spec.targets ++ c.spec.reflect, c.host.Reaches ty t.name := by
    rw [← TypeCache.names_eq_map_name]
    exact mem_names_iff_reaches hplan
  constructor
  · intro ht
    exact ⟨lookUp_of_mem_values hplan ht, hnames.1 (List.mem_map_of_mem ht)⟩
  · intro hneeds
    obtain ⟨hlookUp, hreach⟩ := hneeds
    obtain ⟨t', ht', hname⟩ := List.mem_map.1 (hnames.2 hreach)
    -- a name is looked up in one way only, so what is cached under it is the type itself
    have hlookUp' : c.host.lookUp t.name = .ok t' := hname ▸ lookUp_of_mem_values hplan ht'
    rw [hlookUp] at hlookUp'
    rw [Except.ok.inj hlookUp']
    exact ht'

/-- The types of a planned run were looked up in the order in which they are cached. -/
theorem fetched_plan {sink : MemoryArtifacts} (hplan : c.plan { sink } = (.ok plan, p)) :
    p.output.history.fetched = p.cache.names := by
  obtain ⟨p₁, hrun, rfl⟩ := DispatchPlan.runs_of_build hplan
  have hstart : Progress.FetchedCached (⟨{}, { sink }⟩ : Progress MemoryArtifacts) := rfl
  have hfetched : p₁.output.history.fetched = p₁.cache.names :=
    (Host.fetched_of_runs hrun (Search.unfetching_visits _ _) hstart).2
  show History.fetched (p₁.output.history ++ [.logged plan.event]) = p₁.cache.names
  rw [History.fetched_append, hfetched]
  exact List.append_nil _

/-- A planned run into an empty sink has built the markers of all types in its cache. -/
theorem built_plan (hplan : c.plan { sink := {} } = (.ok plan, p)) : Host.Built p := by
  obtain ⟨p₁, hrun, rfl⟩ := DispatchPlan.runs_of_build hplan
  exact Host.built_of_runs hrun rfl (List.forall_mem_nil _)

/-- A planned run fails only for want of its validator's body. -/
theorem body_of_run_error (hplan : c.plan out = (.ok plan, p)) {e : GenerateError}
    {out' : Output MemoryArtifacts} (h : c.run out = (.error e, out')) :
    (plan.artifact c.spec).body = .error e := by
  have hresult := (run_of_planned hplan).1
  rw [h] at hresult
  have hemit : p.output.emit (plan.artifact c.spec) =
      (.error e, (p.output.emit (plan.artifact c.spec)).2) := Prod.ext hresult.symm rfl
  exact Output.body_of_emit_error hemit

/-- A planned run succeeds if its validator can be rendered. -/
theorem exists_run_ok (hplan : c.plan out = (.ok plan, p)) {d : Dispatcher}
    (hd : Dispatcher.ofPlan c.spec plan = .ok d) : ∃ name out', c.run out = (.ok name, out') := by
  cases hrun : c.run out with
  | mk r out' =>
    cases r with
    | ok name => exact ⟨name, out', rfl⟩
    | error e =>
      have hbody := body_of_run_error hplan hrun
      rw [DispatchPlan.artifact, hd] at hbody
      cases hbody

/-- A name that is neither the run's own nor one of a marker is not asked for. -/
theorem ne_of_mem_requests {a : Artifact} (ha : a ∈ c.requests out) {q : String}
    (hown : c.spec.qualifiedName ≠ q)
    (hmarker : (Text.lastField (· == '.') q.toList).head? ≠ some '_') : a.qualifiedName ≠ q := by
  rcases marker_or_artifact_of_mem_requests ha with ⟨t, rfl⟩ | ⟨plan, p, _, rfl⟩
  · exact t.qualifiedOutputName_ne hmarker
  · exact hown

/-- A planned run asks for its own name with its validator, unless a marker has that name. -/
theorem firstAsking_requests (hplan : c.plan out = (.ok plan, p))
    (hown : ∀ t ∈ p.cache.values, t.qualifiedOutputName ≠ c.spec.qualifiedName) :
    firstAsking (c.requests out) c.spec.qualifiedName = some (plan.artifact c.spec) := by
  have hmarkers : firstAsking (p.cache.values.map (·.marker)) c.spec.qualifiedName = none :=
    firstAsking_eq_none_iff.2 (List.forall_mem_map.2 hown)
  rw [requests_of_planned hplan, firstAsking_append_self, hmarkers, Option.none_or]
  exact if_pos rfl

end GenerateCall

/-! ## Series of runs -/

theorem answers_start : ({ sink := {} } : Output MemoryArtifacts).sink.Answers [] :=
  MemoryArtifacts.answers_empty

/-- The sink answers the requests of all runs. -/
theorem answers_afterCalls {out : Output MemoryArtifacts} {asked : List Artifact}
    (h : out.sink.Answers asked) (calls : List GenerateCall) :
    (afterCalls out calls).sink.Answers (asked ++ requestsOf out calls) := by
  induction calls generalizing out asked with
  | nil =>
    rw [requestsOf, List.append_nil]
    exact h
  | cons c rest ih =>
    rw [requestsOf, ← List.append_assoc]
    exact ih (c.answers_run h)

theorem requestsOf_append (out : Output MemoryArtifacts) (calls calls' : List GenerateCall) :
    requestsOf out (calls ++ calls') =
      requestsOf out calls ++ requestsOf (afterCalls out calls) calls' := by
  induction calls generalizing out with
  | nil => rfl
  | cons c rest ih =>
    rw [List.cons_append, requestsOf, requestsOf, ih, List.append_assoc]
    rfl

/-- Each request of a series of runs is one of a run. -/
theorem exists_call_of_mem_requestsOf {out : Output MemoryArtifacts} {calls : List GenerateCall}
    {a : Artifact} (h : a ∈ requestsOf out calls) : ∃ c ∈ calls, ∃ out', a ∈ c.requests out' := by
  induction calls generalizing out with
  | nil => exact absurd h List.not_mem_nil
  | cons c rest ih =>
    rcases List.mem_append.1 h with h | h
    · exact ⟨c, List.mem_cons_self, out, h⟩
    · obtain ⟨c', hc', out', h'⟩ := ih h
      exact ⟨c', List.mem_cons_of_mem _ hc', out', h'⟩

end ValidatorForge
