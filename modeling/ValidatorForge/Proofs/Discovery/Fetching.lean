import ValidatorForge.Proofs.Artifact.Commits
import ValidatorForge.Proofs.Discovery.Resolvable

/-!
# Discovery ends, and fetches each type once

A search asks the engine for the descriptor of a type when it sees the type for the first time, and
enters the type into the cache next.  So the fetched types are the cached ones, in the same order
(`fetched_of_runs`), for as long as no resolution fails.  A cached type is never looked up again.

No search goes on for ever (`wellFounded_advances`): a step uses up a pending step, or a declared
type that is not yet cached.

A series of resolutions on one cache is a chain of `Resolves` steps.  Each of them may write to a
sink of its own; the history goes on from one to the next.
-/

namespace ValidatorForge

open Relation Sample

namespace History

/-- The types whose descriptors were fetched, in order. -/
def fetched (h : History) : List TypeName :=
  h.filterMap fun
    | .asked .fetch ty => some ty
    | .asked .probe _ => none
    | .logged _ => none

@[simp] theorem fetched_append (h h' : History) : fetched (h ++ h') = h.fetched ++ h'.fetched :=
  List.filterMap_append

@[simp] theorem fetched_logged (events : List Event) : fetched (events.map .logged) = [] := by
  simp [fetched]

theorem fetched_singleton {o : Occurrence} (h : ∀ ty, o ≠ .asked .fetch ty) : fetched [o] = [] := by
  cases o with
  | logged e => rfl
  | asked purpose ty =>
    cases purpose with
    | fetch => exact absurd rfl (h ty)
    | probe => rfl

theorem count_asked_fetch (h : History) (ty : TypeName) :
    h.count (.asked .fetch ty) = h.fetched.count ty := by
  induction h with
  | nil => rfl
  | cons o rest ih =>
    have hsplit : fetched (o :: rest) = fetched [o] ++ fetched rest := fetched_append [o] rest
    rw [hsplit, List.count_append, List.count_cons, ih]
    by_cases hfetch : ∃ n, o = .asked .fetch n
    · obtain ⟨n, rfl⟩ := hfetch
      have hone : fetched [.asked .fetch n] = [n] := rfl
      rw [hone, List.count_singleton, Nat.add_comm]
      simp
    · have hno : ∀ n, o ≠ .asked .fetch n := fun n heq => hfetch ⟨n, heq⟩
      rw [fetched_singleton hno, List.count_nil, Nat.zero_add]
      simp [hno ty]

end History

variable {σ : Type}

namespace Search

/-- No pending step fetches. -/
def Unfetching (s : Search σ) : Prop := ∀ n, .record (.asked .fetch n) ∉ s.pending

theorem unfetching_visits (p : Progress σ) (tys : List TypeName) :
    Unfetching (⟨p, tys.map .visit⟩ : Search σ) := by
  intro n hmem
  obtain ⟨ty, _, heq⟩ := List.mem_map.1 hmem
  cases heq

end Search

/-- The fetched types are the cached ones, in the order in which they were entered. -/
def Progress.FetchedCached (p : Progress σ) : Prop := p.output.history.fetched = p.cache.names

variable [ArtifactSink σ]

/-- An emission fetches nothing. -/
theorem Output.fetched_emit (out : Output σ) (a : Artifact) :
    (out.emit a).2.history.fetched = out.history.fetched := by
  obtain ⟨events, hevents⟩ := out.exists_history_emit a
  rw [hevents, History.fetched_append, History.fetched_logged, List.append_nil]

namespace Host

variable {host : Host}

/-! ## Every search ends -/

/-- A type that is looked up leaves fewer declared types to be seen. -/
theorem unvisited_insert_lt {cache : TypeCache} {ty : TypeName} {t : ResolvedType}
    (hnew : ty ∉ cache.names) (hlookUp : host.lookUp ty = .ok t) :
    host.types.unvisited (cache.insert t).names < host.types.unvisited cache.names := by
  have hsame : host.types.unvisited (cache.insert t).names =
      host.types.unvisited (ty :: cache.names) := by
    refine host.types.unvisited_congr fun n => ?_
    rw [TypeCache.mem_names_insert, name_of_lookUp hlookUp, List.mem_cons]
  rw [hsame]
  exact TypeUniverse.unvisited_cons_lt (mem_names_of_lookUp hlookUp) hnew

/-- What a search has still to do: the declared types that it has not seen, then its pending
steps. -/
def remaining (host : Host) (s : Search σ) : Nat × Nat :=
  (host.types.unvisited s.cached, s.pending.length)

theorem remaining_lt_of_advances {s s' : Search σ} (h : host.Advances s s') :
    Prod.Lex (· < ·) (· < ·) (host.remaining s') (host.remaining s) := by
  cases h with
  | record => exact Prod.Lex.right _ (Nat.lt_succ_self _)
  | hit => exact Prod.Lex.right _ (Nat.lt_succ_self _)
  | enter hnew hlookUp => exact Prod.Lex.left _ _ (unvisited_insert_lt hnew hlookUp)

/-- There is no endless search, whatever circles the declarations and the cascades form. -/
theorem wellFounded_advances (host : Host) :
    WellFounded fun s' s : Search σ => host.Advances s s' := by
  have hlex : WellFounded (Prod.Lex (· < · : Nat → Nat → Prop) (· < · : Nat → Nat → Prop)) :=
    (Prod.lex Nat.lt_wfRel Nat.lt_wfRel).wf
  exact Subrelation.wf (fun h => remaining_lt_of_advances h) (InvImage.wf host.remaining hlex)

/-- What a resolution leaves behind is the end of a search. -/
theorem ends_resolve (host : Host) (ty : TypeName) (p : Progress σ) :
    host.Ends ⟨p, [.visit ty]⟩ (host.resolve ty p).2 :=
  ends_of_resolve rfl

/-! ## Fetched types are cached -/

/-- The steps of a type do not fetch: they probe, log and visit. -/
theorem fetch_not_mem_steps {t : ResolvedType} {n : TypeName} :
    .record (.asked .fetch n) ∉ host.steps t := by
  intro hmem
  obtain ⟨p, _, hp⟩ := List.mem_flatMap.1 hmem
  unfold propertySteps at hp
  split at hp
  · simp only [containerSteps, accessSteps, List.mem_append] at hp
    rcases hp with ((hp | hp) | hp | hp) | hp <;> split at hp <;> simp at hp
  · unfold plainSteps at hp
    split at hp
    · simp at hp
    · split at hp <;> simp at hp

theorem unfetching_of_advances {s s' : Search σ} (h : host.Advances s s') (hs : s.Unfetching) :
    s'.Unfetching := by
  intro n hmem
  cases h with
  | record => exact hs n (List.mem_cons_of_mem _ hmem)
  | hit => exact hs n (List.mem_cons_of_mem _ hmem)
  | enter =>
    rcases List.mem_append.1 hmem with hmem | hmem
    · exact fetch_not_mem_steps hmem
    · exact hs n (List.mem_cons_of_mem _ hmem)

theorem fetched_of_advances {s s' : Search σ} (h : host.Advances s s') (hs : s.Unfetching)
    (hp : s.progress.FetchedCached) : s'.progress.FetchedCached := by
  cases h with
  | @record cache out o rest =>
    have hone : History.fetched [o] = [] :=
      History.fetched_singleton fun n heq => hs n (heq ▸ List.mem_cons_self)
    show History.fetched (out.history ++ [o]) = cache.names
    rw [History.fetched_append, hone, List.append_nil]
    exact hp
  | @hit cache out ty rest hcached =>
    show History.fetched (out.history ++ [.logged (.cacheHit ty)]) = cache.names
    rw [History.fetched_append]
    exact (List.append_nil _).trans hp
  | @enter cache out out' ty rest t name hnew hlookUp hemit =>
    have hout : out' = ((out.append (firstSight ty)).emit t.marker).2 :=
      (congrArg Prod.snd hemit).symm
    have hsight : History.fetched (firstSight ty) = [ty] := rfl
    have hname : t.name = ty := name_of_lookUp hlookUp
    have hfresh : t.name ∉ cache.names := hname ▸ hnew
    show out'.history.fetched = (cache.insert t).names
    calc
      out'.history.fetched
        = History.fetched (out.history ++ firstSight ty) := by
          rw [hout, Output.fetched_emit]
          rfl
      _ = cache.names ++ [t.name] := by
          rw [History.fetched_append, hsight, hname]
          exact congrArg (· ++ [ty]) hp
      _ = (cache.insert t).names := by
          rw [TypeCache.names_eq_map_name (cache.insert t), TypeCache.values_insert hfresh,
            List.map_append, ← TypeCache.names_eq_map_name]
          rfl

theorem fetched_of_runs {s s' : Search σ} (h : host.Runs s s') (hs : s.Unfetching)
    (hp : s.progress.FetchedCached) : s'.Unfetching ∧ s'.progress.FetchedCached := by
  induction h with
  | refl => exact ⟨hs, hp⟩
  | tail _ hstep ih =>
    exact ⟨unfetching_of_advances hstep ih.1, fetched_of_advances hstep ih.1 ih.2⟩

/-! ## Series of resolutions -/

/-- A resolution that succeeds, into any sink, from a cache and a history to the next ones. -/
inductive Resolves (host : Host) : TypeCache × History → TypeCache × History → Prop
  | intro {σ : Type} [ArtifactSink σ] {cache : TypeCache} {past : History} {sink : σ}
      {ty : TypeName} {e : CacheEntry} {p : Progress σ}
      (h : host.resolve ty ⟨cache, ⟨sink, past⟩⟩ = (.ok e, p)) :
      Resolves host (cache, past) (p.cache, p.output.history)

/-- A series of resolutions on one cache, all of which succeed. -/
abbrev Series (host : Host) : TypeCache × History → TypeCache × History → Prop :=
  ReflTransGen host.Resolves

/-- An entry stays as it was stored. -/
theorem get?_of_series {c c' : TypeCache × History} (h : host.Series c c') {n : TypeName}
    {e : CacheEntry} (he : c.1.get? n = some e) : c'.1.get? n = some e := by
  induction h with
  | refl => exact he
  | tail _ hstep ih =>
    cases hstep with
    | intro hresolve => exact get?_of_runs (resolve_ok hresolve).1 ih

/-- Along a series that starts with nothing, the fetched types are the cached ones. -/
theorem fetched_of_series {c : TypeCache × History} (h : host.Series ({}, []) c) :
    History.fetched c.2 = c.1.names := by
  induction h with
  | refl => rfl
  | tail _ hstep ih =>
    cases hstep with
    | intro hresolve =>
      exact (fetched_of_runs (resolve_ok hresolve).1 (Search.unfetching_visits _ [_]) ih).2

/-- Every resolution ends.  Along a series of resolutions on one cache that all succeed, each cached
type is fetched once and no other type ever.  An entry is what all later resolutions of its type
return: they ask the engine nothing, and change neither the cache nor the sink. -/
theorem resolve_fetches_once (host : Host) :
    (∀ (σ : Type) [ArtifactSink σ],
      (WellFounded fun s' s : Search σ => host.Advances s s') ∧
      ∀ ty (p : Progress σ), host.Ends ⟨p, [.visit ty]⟩ (host.resolve ty p).2) ∧
    ∀ cache past, host.Series ({}, []) (cache, past) →
      (∀ n, past.count (.asked .fetch n) = if n ∈ cache.names then 1 else 0) ∧
      ∀ n e, cache.get? n = some e →
        ∀ cache' past', host.Series (cache, past) (cache', past') →
          ∀ (σ : Type) [ArtifactSink σ] (out : Output σ), ∃ out',
            host.resolve n ⟨cache', out⟩ = (.ok e, ⟨cache', out'⟩) ∧
              out'.sink = out.sink ∧ out'.history.questions = out.history.questions := by
  refine ⟨fun σ _ => ⟨wellFounded_advances host, ends_resolve host⟩, ?_⟩
  intro cache past hseries
  refine ⟨fun n => ?_, fun n e he cache' past' hlater σ _ out => ?_⟩
  · have hfetched : History.fetched past = cache.names := fetched_of_series hseries
    rw [History.count_asked_fetch, hfetched]
    exact List.Nodup.count cache.entries.nodup
  · have hget : cache'.get? n = some e := get?_of_series hlater he
    refine ⟨out.log (.cacheHit n), resolve_of_cached hget, rfl, ?_⟩
    show History.questions (out.history ++ [.logged (.cacheHit n)]) = out.history.questions
    simp [History.questions]

/-- The resolution of a fleet fetches the robots once, although they lead back to the fleet. -/
theorem resolve_fleet_fetches_once :
    ∃ cache past, fleetHost.Series ({}, []) (cache, past) ∧ robotType ∈ cache.names ∧
      past.count (.asked .fetch robotType) = 1 := by
  have hclean : fleetHost.Clean fleetType := clean_fleet fleetType (by simp [fleetTypes])
  obtain ⟨e, p, hresolve⟩ := resolve_total hclean ⟨{}, ⟨{}, []⟩⟩
  have hseries : fleetHost.Series ({}, []) (p.cache, p.output.history) :=
    ReflTransGen.single (Resolves.intro hresolve)
  have hrobot : robotType ∈ p.cache.names := by
    obtain ⟨t, hlookUp, hvisit⟩ : ∃ t, fleetHost.lookUp fleetType = .ok t ∧
        .visit robotType ∈ fleetHost.steps t := ⟨_, rfl, by decide⟩
    have hreach := reaches_of_visit_mem_steps hlookUp hvisit
    have hrun : fleetHost.Runs ⟨⟨{}, _⟩, [fleetType].map .visit⟩ ⟨p, []⟩ := (resolve_ok hresolve).1
    exact (mem_names_iff_of_finished rfl hrun).2 ⟨fleetType, List.mem_cons_self, hreach⟩
  refine ⟨p.cache, p.output.history, hseries, hrobot, ?_⟩
  rw [((resolve_fetches_once fleetHost).2 _ _ hseries).1, if_pos hrobot]

end Host

end ValidatorForge
