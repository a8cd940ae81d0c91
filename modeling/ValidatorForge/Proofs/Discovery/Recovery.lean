import ValidatorForge.Proofs.Discovery.Markers

/-!
# Resolving again after a failure

A cache and a sink are used for a series of calls, each of which resolves a type or clears the
cache; resolutions may fail on the way.  A failed resolution leaves in the cache what it had
entered, so the cascades of a cached type need not have been followed.  They have been if the type
is clean: then no failure can have stood between it and the ends of its cascades (`coherent_after`).

So a later resolution is sound for clean types and for no others (`settled_iff_clean`): a type that
reaches one that cannot be resolved may be found in the cache and reported as resolved.
-/

namespace ValidatorForge

open Relation Sample

/-- A call on a cache. -/
inductive CacheCall where
  | resolve (ty : TypeName)
  | clear

namespace Host

/-! ## Series of calls -/

/-- What a call leaves behind, whether it succeeds or fails. -/
def perform (host : Host) (p : Progress MemoryArtifacts) : CacheCall → Progress MemoryArtifacts
  | .resolve ty => (host.resolve ty p).2
  | .clear => { p with cache := p.cache.clear }

/-- What a series of calls leaves behind that starts with an empty cache and an empty sink. -/
def after (host : Host) (calls : List CacheCall) : Progress MemoryArtifacts :=
  calls.foldl host.perform ⟨{}, { sink := {} }⟩

/-- What holds after each call, `asked` being the artifacts that the sink was asked for. -/
structure Coherent (host : Host) (p : Progress MemoryArtifacts) (asked : List Artifact) : Prop where
  lookUp : ∀ t ∈ p.cache.values, host.lookUp t.name = .ok t
  /-- The cascades of clean types have been followed. -/
  followed : ∀ n ∈ p.cache.names, host.Clean n → ∀ m, host.CascadesTo n m → m ∈ p.cache.names
  answers : p.output.sink.Answers asked
  /-- Only markers of looked-up types were asked for. -/
  markers : ∀ a ∈ asked, ∃ t, host.lookUp t.name = .ok t ∧ a = t.marker
  asked : ∀ t ∈ p.cache.values, t.marker ∈ asked

variable {host : Host} {p p' : Progress MemoryArtifacts} {asked : List Artifact}

/-- When a search stops, the cascades of clean types have been followed: what stopped it would be
reached from them. -/
theorem cached_of_stopped_cascade {s s' : Search MemoryArtifacts} {e : GenerateError}
    (hrun : host.Runs s s') (hstop : host.Stops s' e p') (hf : s.Followed host host.Clean)
    {n m : TypeName} (hn : n ∈ p'.cache.names) (hclean : host.Clean n)
    (hnm : host.CascadesTo n m) : m ∈ p'.cache.names := by
  obtain ⟨ty, rest, hpending, hold, hkept⟩ := names_of_stops hstop
  have hnot : ¬ host.Reaches n ty := by
    obtain ⟨ty', rest', hpending', hbad⟩ := exists_not_resolvable_of_stops hstop
    obtain ⟨heq, _⟩ := List.cons.inj (hpending.symm.trans hpending')
    cases heq
    exact fun hreach => hbad (hclean ty hreach)
  rcases hold n hn with rfl | hn
  · exact absurd ReflTransGen.refl hnot
  · rcases followed_of_runs hrun hf n hn hclean m hnm with hm | hahead
    · exact hkept m hm
    · rw [hpending] at hahead
      rcases hahead.head_or_tail with heq | ⟨hhead, _⟩
      · cases heq
        exact absurd (ReflTransGen.single hnm) hnot
      · exact absurd (hhead ty rfl) hnot

theorem coherent_start : host.Coherent ⟨{}, { sink := {} }⟩ [] where
  lookUp := List.forall_mem_nil _
  followed := List.forall_mem_nil _
  answers := MemoryArtifacts.answers_empty
  markers := List.forall_mem_nil _
  asked := List.forall_mem_nil _

theorem Coherent.clear (h : host.Coherent p asked) :
    host.Coherent { p with cache := p.cache.clear } asked where
  lookUp := List.forall_mem_nil _
  followed := List.forall_mem_nil _
  answers := h.answers
  markers := h.markers
  asked := List.forall_mem_nil _

theorem Coherent.followed_of_resolve (h : host.Coherent p asked) {ty : TypeName}
    {r : Except GenerateError CacheEntry} (hresolve : host.resolve ty p = (r, p')) :
    ∀ n ∈ p'.cache.names, host.Clean n → ∀ m, host.CascadesTo n m → m ∈ p'.cache.names := by
  have hf : Search.Followed host host.Clean (⟨p, [.visit ty]⟩ : Search MemoryArtifacts) :=
    fun n hn hclean m hnm => Or.inl (h.followed n hn hclean m hnm)
  intro n hn hclean m hnm
  cases ends_of_resolve hresolve with
  | finished hrun => exact cached_of_finished_cascade hrun hf hn hclean hnm
  | stopped hrun hstop => exact cached_of_stopped_cascade hrun hstop hf hn hclean hnm

theorem Coherent.resolve (h : host.Coherent p asked) {ty : TypeName}
    {r : Except GenerateError CacheEntry} (hresolve : host.resolve ty p = (r, p')) :
    ∃ asked', host.Coherent p' asked' := by
  obtain ⟨types, hvalues, hlookUp, hanswers⟩ := enters_of_resolve hresolve
  refine ⟨asked ++ types.map (·.marker), ?_, h.followed_of_resolve hresolve,
    hanswers asked h.answers, ?_, ?_⟩
  · rw [hvalues]
    exact List.forall_mem_append.2 ⟨h.lookUp, hlookUp⟩
  · refine List.forall_mem_append.2 ⟨h.markers, List.forall_mem_map.2 fun t ht => ?_⟩
    exact ⟨t, hlookUp t ht, rfl⟩
  · rw [hvalues]
    refine List.forall_mem_append.2 ⟨fun t ht => ?_, fun t ht => ?_⟩
    · exact List.mem_append_left _ (h.asked t ht)
    · exact List.mem_append_right _ (List.mem_map_of_mem ht)

theorem Coherent.exists_lookUp (h : host.Coherent p asked) {n : TypeName}
    (hn : n ∈ p.cache.names) : ∃ t, host.lookUp n = .ok t := by
  rw [TypeCache.names_eq_map_name] at hn
  obtain ⟨t, ht, rfl⟩ := List.mem_map.1 hn
  exact ⟨t, h.lookUp t ht⟩

private theorem coherent_foldl (calls : List CacheCall) (h : host.Coherent p asked) :
    ∃ asked', host.Coherent (calls.foldl host.perform p) asked' := by
  induction calls generalizing p asked with
  | nil => exact ⟨asked, h⟩
  | cons call rest ih =>
    cases call with
    | resolve ty =>
      have hresolve :
          host.resolve ty p = ((host.resolve ty p).1, host.perform p (.resolve ty)) := rfl
      obtain ⟨asked', h'⟩ := h.resolve hresolve
      exact ih h'
    | clear => exact ih h.clear

theorem coherent_after (host : Host) (calls : List CacheCall) :
    ∃ asked, host.Coherent (host.after calls) asked :=
  coherent_foldl calls coherent_start

/-! ## What a later resolution leaves -/

/-- A type is cached, and a marker is committed under the name of its validator. -/
def Settled (host : Host) (p : Progress MemoryArtifacts) (n : TypeName) : Prop :=
  ∃ t ∈ p.cache.values, t.name = n ∧
    ∃ t' body, host.lookUp t'.name = .ok t' ∧ t'.qualifiedOutputName = t.qualifiedOutputName ∧
      t'.marker.body = .ok body ∧
      p.output.sink.get? t.qualifiedOutputName = some (artifactText t.qualifiedOutputName body)

theorem Coherent.resolvable_of_settled (h : host.Coherent p asked) {n : TypeName}
    (hn : host.Settled p n) : host.Resolvable n := by
  obtain ⟨t, ht, rfl, t', body, _, hname, hbody, _⟩ := hn
  exact ⟨t, h.lookUp t ht, (ResolvedType.exists_marker_body_congr hname).1 ⟨body, hbody⟩⟩

/-- The first type that asked for the name of a cached type has committed its marker. -/
theorem Coherent.settled_of_resolvable (h : host.Coherent p asked) {n : TypeName}
    (hn : n ∈ p.cache.names) (hresolvable : host.Resolvable n) : host.Settled p n := by
  rw [TypeCache.names_eq_map_name] at hn
  obtain ⟨t, ht, rfl⟩ := List.mem_map.1 hn
  cases hfirst : firstAsking asked t.qualifiedOutputName with
  | none => exact absurd rfl (firstAsking_eq_none_iff.1 hfirst t.marker (h.asked t ht))
  | some a =>
    obtain ⟨t', hlookUp', rfl⟩ := h.markers a (List.mem_of_find?_eq_some hfirst)
    have hname : t'.qualifiedOutputName = t.qualifiedOutputName := by
      simpa using List.find?_some hfirst
    obtain ⟨t'', hlookUp, body, hbody⟩ := hresolvable
    obtain rfl : t = t'' := Except.ok.inj ((h.lookUp t ht).symm.trans hlookUp)
    obtain ⟨body', hbody'⟩ := (ResolvedType.exists_marker_body_congr hname).2 ⟨body, hbody⟩
    refine ⟨t, ht, rfl, t', body', hlookUp', hname, hbody', h.answers.get?_eq_some_iff.2 ?_⟩
    refine ⟨t'.marker, hfirst, ?_⟩
    rw [Artifact.source?, hbody', ResolvedType.qualifiedName_marker, hname]

/-- Everything that a clean type reaches is cached with it. -/
theorem Coherent.mem_names_of_reaches (h : host.Coherent p asked) {ty n : TypeName}
    (hty : ty ∈ p.cache.names) (hclean : host.Clean ty) (hn : host.Reaches ty n) :
    n ∈ p.cache.names := by
  induction hn with
  | refl => exact hty
  | tail hreach hcascade ih => exact h.followed _ ih (hclean.of_reaches hreach) _ hcascade

/-- After a resolution that succeeds, all that the type reaches is settled exactly if the type is
clean. -/
theorem Coherent.settled_iff_clean (h : host.Coherent p asked) {ty : TypeName} {e : CacheEntry}
    (hresolve : host.resolve ty p = (.ok e, p')) :
    (∀ n, host.Reaches ty n → host.Settled p' n) ↔ host.Clean ty := by
  obtain ⟨asked', h'⟩ := h.resolve hresolve
  constructor
  · exact fun hsettled n hn => h'.resolvable_of_settled (hsettled n hn)
  · intro hclean n hn
    have hty : ty ∈ p'.cache.names := TypeCache.mem_names_of_get? (resolve_ok hresolve).2
    exact h'.settled_of_resolvable (h'.mem_names_of_reaches hty hclean hn) (hclean n hn)

/-- After any series of calls, a clean type is resolved; and of all types that are reported as
resolved, exactly the clean ones have everything cached and committed that they reach. -/
theorem resolve_after_calls (host : Host) (calls : List CacheCall) (ty : TypeName) :
    (host.Clean ty → ∃ e p', host.resolve ty (host.after calls) = (.ok e, p')) ∧
    ∀ e p', host.resolve ty (host.after calls) = (.ok e, p') →
      ((∀ n, host.Reaches ty n → host.Settled p' n) ↔ host.Clean ty) := by
  refine ⟨fun hclean => resolve_total hclean _, fun e p' hresolve => ?_⟩
  obtain ⟨asked, h⟩ := coherent_after host calls
  exact h.settled_iff_clean hresolve

/-- A resolution on an empty cache has failed if it leaves a cascade of its type uncached. -/
private theorem exists_error_of_uncached {ty m : TypeName} {r : Except GenerateError CacheEntry}
    (hempty : p.cache.names = []) (hresolve : host.resolve ty p = (r, p'))
    (hty : ty ∈ p'.cache.names) (hcascade : host.CascadesTo ty m) (hm : m ∉ p'.cache.names) :
    ∃ error, r = .error error := by
  cases r with
  | error error => exact ⟨error, rfl⟩
  | ok e =>
    have hf : Search.Followed host (fun _ => True) (⟨p, [.visit ty]⟩ : Search MemoryArtifacts) :=
      followed_of_empty hempty
    have hcached := cached_of_finished_cascade (resolve_ok hresolve).1 hf hty trivial hcascade
    exact absurd hcached hm

/-- With an engine that knows no robots, the first resolution of the fleet fails and the second one
succeeds, although robots belong to the fleet and are cached neither before nor after. -/
theorem resolve_fleet_twice :
    (∃ error, (robotlessHost.resolve fleetType (robotlessHost.after [])).1 = .error error) ∧
    ∃ e p', robotlessHost.resolve fleetType (robotlessHost.after [.resolve fleetType]) =
        (.ok e, p') ∧
      robotlessHost.Reaches fleetType robotType ∧ robotType ∉ p'.cache.names := by
  obtain ⟨t, hlookUp, hvisit⟩ : ∃ t, robotlessHost.lookUp fleetType = .ok t ∧
      .visit robotType ∈ robotlessHost.steps t := ⟨_, rfl, by decide⟩
  have hcascade := (visit_mem_steps_iff hlookUp).1 hvisit
  cases hfirst : robotlessHost.resolve fleetType (robotlessHost.after []) with
  | mk r p =>
    have hafter : robotlessHost.after [.resolve fleetType] = p := congrArg Prod.snd hfirst
    obtain ⟨asked, h⟩ := coherent_start.resolve hfirst
    have hfleet := mem_names_of_resolve hlookUp hfirst
    have hrobot : robotType ∉ p.cache.names := by
      intro hn
      obtain ⟨t, ht⟩ := h.exists_lookUp hn
      cases ht
    constructor
    · exact exists_error_of_uncached rfl hfirst hfleet hcascade hrobot
    · obtain ⟨e, he⟩ := TypeCache.exists_get?_of_mem_names hfleet
      rw [hafter]
      exact ⟨e, _, resolve_of_cached he, ReflTransGen.single hcascade, hrobot⟩

end Host

end ValidatorForge
