import Mathlib.Data.List.Forall2
import Mathlib.Logic.Relation
import ValidatorForge.Discovery.Resolve

/-!
# Discovery as a sequence of steps

`follow` takes the pending steps of a search from left to right.  `Advances` says what one step
does, and `Stops` how a search fails.  A run of `follow` is a sequence of steps that ends with
nothing pending or at a failure (`follow_trace`), and so are the runs of `resolve` and `resolveAll`.
Whatever a step keeps, a run keeps.

* `Search` holds the progress of a search and what it has still to do.
* `get?_of_advances`: an entry stays as it was stored.
* `seen_or_pending_of_advances`: a type that is to be visited stays so until it is cached.
* `resolve_ok`, `resolve_error`, `resolveAll_ok` and `resolveAll_error` read a run back from its
  result, `ends_of_resolve` from any result.
-/

namespace ValidatorForge

open Relation

variable {σ : Type} [ArtifactSink σ]

/-- A search under way: what it has done, and the steps that it has still to take. -/
structure Search (σ : Type) where
  progress : Progress σ
  pending : List Step

namespace Search

/-- The types that are cached. -/
def cached (s : Search σ) : List TypeName := s.progress.cache.names

end Search

namespace Host

/-! ## Steps -/

/-- One step of a search. -/
inductive Advances (host : Host) : Search σ → Search σ → Prop
  | record {cache : TypeCache} {out : Output σ} {o : Occurrence} {rest : List Step} :
      Advances host ⟨⟨cache, out⟩, .record o :: rest⟩ ⟨⟨cache, out.append [o]⟩, rest⟩
  /-- A cached type is not looked up again. -/
  | hit {cache : TypeCache} {out : Output σ} {ty : TypeName} {rest : List Step}
      (hcached : ty ∈ cache.names) :
      Advances host ⟨⟨cache, out⟩, .visit ty :: rest⟩ ⟨⟨cache, out.log (.cacheHit ty)⟩, rest⟩
  /-- A new type enters the cache, its marker is emitted, and its own steps come next. -/
  | enter {cache : TypeCache} {out out' : Output σ} {ty : TypeName} {rest : List Step}
      {t : ResolvedType} {name : String}
      (hnew : ty ∉ cache.names) (hlookUp : host.lookUp ty = .ok t)
      (hemit : (out.append (firstSight ty)).emit t.marker = (.ok name, out')) :
      Advances host ⟨⟨cache, out⟩, .visit ty :: rest⟩
        ⟨⟨cache.insert t, out'⟩, host.steps t ++ rest⟩

/-- How a search fails, and what it leaves behind. -/
inductive Stops (host : Host) : Search σ → GenerateError → Progress σ → Prop
  /-- A new type is not described or not declared. -/
  | lookUp {cache : TypeCache} {out : Output σ} {ty : TypeName} {rest : List Step}
      {e : GenerateError} (hnew : ty ∉ cache.names) (hlookUp : host.lookUp ty = .error e) :
      Stops host ⟨⟨cache, out⟩, .visit ty :: rest⟩ e ⟨cache, out.append (firstSight ty)⟩
  /-- The marker of a new type is not emitted.  The type stays in the cache. -/
  | marker {cache : TypeCache} {out out' : Output σ} {ty : TypeName} {rest : List Step}
      {t : ResolvedType} {e : GenerateError}
      (hnew : ty ∉ cache.names) (hlookUp : host.lookUp ty = .ok t)
      (hemit : (out.append (firstSight ty)).emit t.marker = (.error e, out')) :
      Stops host ⟨⟨cache, out⟩, .visit ty :: rest⟩ e ⟨cache.insert t, out'⟩

/-- A run of steps. -/
abbrev Runs (host : Host) : Search σ → Search σ → Prop := ReflTransGen host.Advances

/-- How a search ends: after a run with nothing pending any more, or stopped. -/
inductive Ends (host : Host) (s : Search σ) (p : Progress σ) : Prop
  | finished (hrun : host.Runs s ⟨p, []⟩)
  | stopped {s' : Search σ} {e : GenerateError} (hrun : host.Runs s s')
      (hstop : host.Stops s' e p)

variable {host : Host}

/-- A search is a run that ends with nothing pending or fails. -/
theorem follow_trace (host : Host) (cache : TypeCache) (out : Output σ) (steps : List Step) :
    ∃ s, host.Runs ⟨⟨cache, out⟩, steps⟩ s ∧
      match host.follow cache out steps with
      | (.ok _, p) => s = ⟨p, []⟩
      | (.error e, p) => host.Stops s e p := by
  fun_induction follow host cache out steps with
  | case1 cache out => exact ⟨_, ReflTransGen.refl, rfl⟩
  | case2 cache out o rest ih =>
    obtain ⟨s, hrun, hend⟩ := ih
    exact ⟨s, ReflTransGen.head Advances.record hrun, hend⟩
  | case3 cache out ty rest hcached ih =>
    obtain ⟨s, hrun, hend⟩ := ih
    exact ⟨s, ReflTransGen.head (Advances.hit hcached) hrun, hend⟩
  | case4 cache out ty rest hnew _ e hlookUp =>
    exact ⟨_, ReflTransGen.refl, Stops.lookUp hnew hlookUp⟩
  | case5 cache out ty rest hnew _ t hlookUp e out' hemit =>
    exact ⟨_, ReflTransGen.refl, Stops.marker hnew hlookUp hemit⟩
  | case6 cache out ty rest hnew _ t hlookUp name out' hemit ih =>
    obtain ⟨s, hrun, hend⟩ := ih
    exact ⟨s, ReflTransGen.head (Advances.enter hnew hlookUp hemit) hrun, hend⟩

theorem follow_ok {cache : TypeCache} {out : Output σ} {steps : List Step} {p : Progress σ}
    (h : host.follow cache out steps = (.ok (), p)) :
    host.Runs ⟨⟨cache, out⟩, steps⟩ ⟨p, []⟩ := by
  obtain ⟨s, hrun, hend⟩ := follow_trace host cache out steps
  rw [h] at hend
  exact hend ▸ hrun

theorem follow_error {cache : TypeCache} {out : Output σ} {steps : List Step} {p : Progress σ}
    {e : GenerateError} (h : host.follow cache out steps = (.error e, p)) :
    ∃ s, host.Runs ⟨⟨cache, out⟩, steps⟩ s ∧ host.Stops s e p := by
  obtain ⟨s, hrun, hend⟩ := follow_trace host cache out steps
  rw [h] at hend
  exact ⟨s, hrun, hend⟩

/-! ## What steps keep -/

/-- What is pending behind a step stays pending behind it. -/
theorem Advances.append {s s' : Search σ} (h : host.Advances s s') (more : List Step) :
    host.Advances ⟨s.progress, s.pending ++ more⟩ ⟨s'.progress, s'.pending ++ more⟩ := by
  cases h with
  | record => exact Advances.record
  | hit hcached => exact Advances.hit hcached
  | enter hnew hlookUp hemit =>
    show host.Advances _ ⟨_, _ ++ _ ++ more⟩
    rw [List.append_assoc]
    exact Advances.enter hnew hlookUp hemit

theorem Runs.append {s s' : Search σ} (h : host.Runs s s') (more : List Step) :
    host.Runs ⟨s.progress, s.pending ++ more⟩ ⟨s'.progress, s'.pending ++ more⟩ := by
  induction h with
  | refl => exact ReflTransGen.refl
  | tail _ hstep ih => exact ih.tail (hstep.append more)

theorem Stops.append {s : Search σ} {e : GenerateError} {p : Progress σ}
    (h : host.Stops s e p) (more : List Step) :
    host.Stops ⟨s.progress, s.pending ++ more⟩ e p := by
  cases h with
  | lookUp hnew hlookUp => exact Stops.lookUp hnew hlookUp
  | marker hnew hlookUp hemit => exact Stops.marker hnew hlookUp hemit

/-- An entry stays as it was stored. -/
theorem get?_of_advances {s s' : Search σ} (h : host.Advances s s') {n : TypeName}
    {e : CacheEntry} (he : s.progress.cache.get? n = some e) :
    s'.progress.cache.get? n = some e := by
  cases h with
  | record => exact he
  | hit => exact he
  | enter hnew hlookUp =>
    rw [TypeCache.get?_insert, if_neg, he]
    intro heq
    obtain rfl := heq
    exact hnew (name_of_lookUp hlookUp ▸ TypeCache.mem_names_of_get? he)

theorem get?_of_runs {s s' : Search σ} (h : host.Runs s s') {n : TypeName} {e : CacheEntry}
    (he : s.progress.cache.get? n = some e) : s'.progress.cache.get? n = some e := by
  induction h with
  | refl => exact he
  | tail _ hstep ih => exact get?_of_advances hstep ih

theorem cached_of_advances {s s' : Search σ} (h : host.Advances s s') {n : TypeName}
    (hn : n ∈ s.cached) : n ∈ s'.cached := by
  obtain ⟨e, he⟩ := TypeCache.exists_get?_of_mem_names hn
  exact TypeCache.mem_names_of_get? (get?_of_advances h he)

theorem cached_of_runs {s s' : Search σ} (h : host.Runs s s') {n : TypeName}
    (hn : n ∈ s.cached) : n ∈ s'.cached := by
  induction h with
  | refl => exact hn
  | tail _ hstep ih => exact cached_of_advances hstep ih

/-- A type that is to be visited stays so until it is cached. -/
theorem seen_or_pending_of_advances {s s' : Search σ} (h : host.Advances s s') {n : TypeName}
    (hn : n ∈ s.cached ∨ .visit n ∈ s.pending) : n ∈ s'.cached ∨ .visit n ∈ s'.pending := by
  rcases hn with hn | hn
  · exact Or.inl (cached_of_advances h hn)
  · cases h with
    | record =>
      rcases List.mem_cons.1 hn with heq | hrest
      · cases heq
      · exact Or.inr hrest
    | hit hcached =>
      rcases List.mem_cons.1 hn with heq | hrest
      · cases heq
        exact Or.inl hcached
      · exact Or.inr hrest
    | enter _ hlookUp =>
      rcases List.mem_cons.1 hn with heq | hrest
      · cases heq
        exact Or.inl ((TypeCache.mem_names_insert _ _ _).2 (Or.inl (name_of_lookUp hlookUp).symm))
      · exact Or.inr (List.mem_append_right _ hrest)

theorem seen_or_pending_of_runs {s s' : Search σ} (h : host.Runs s s') {n : TypeName}
    (hn : n ∈ s.cached ∨ .visit n ∈ s.pending) : n ∈ s'.cached ∨ .visit n ∈ s'.pending := by
  induction h with
  | refl => exact hn
  | tail _ hstep ih => exact seen_or_pending_of_advances hstep ih

/-- A finished run has cached everything that it was to visit. -/
theorem cached_of_finished {s : Search σ} {p : Progress σ} (h : host.Runs s ⟨p, []⟩)
    {n : TypeName} (hn : .visit n ∈ s.pending) : n ∈ p.cache.names := by
  rcases seen_or_pending_of_runs h (Or.inr hn) with hcached | hpending
  · exact hcached
  · simp at hpending

/-- A search stops before or at the type that it is to visit next. -/
theorem names_of_stops {s : Search σ} {e : GenerateError} {p : Progress σ}
    (h : host.Stops s e p) :
    ∃ ty rest, s.pending = .visit ty :: rest ∧
      (∀ n ∈ p.cache.names, n = ty ∨ n ∈ s.cached) ∧ ∀ n ∈ s.cached, n ∈ p.cache.names := by
  cases h with
  | @lookUp cache out ty rest e hnew hlookUp =>
    exact ⟨ty, rest, rfl, fun n hn => Or.inr hn, fun n hn => hn⟩
  | @marker cache out out' ty rest t e hnew hlookUp hemit =>
    refine ⟨ty, rest, rfl, fun n hn => ?_, fun n hn => ?_⟩
    · rw [← name_of_lookUp hlookUp]
      exact (TypeCache.mem_names_insert _ _ _).1 hn
    · exact (TypeCache.mem_names_insert _ _ _).2 (Or.inr hn)

/-! ## Runs of a resolution -/

/-- A cached type is resolved without a search. -/
theorem resolve_of_cached {ty : TypeName} {p : Progress σ} {e : CacheEntry}
    (h : p.cache.get? ty = some e) :
    host.resolve ty p = (.ok e, { p with output := p.output.log (.cacheHit ty) }) := by
  rw [resolve, h]

theorem resolve_ok {ty : TypeName} {p p' : Progress σ} {e : CacheEntry}
    (h : host.resolve ty p = (.ok e, p')) :
    host.Runs ⟨p, [.visit ty]⟩ ⟨p', []⟩ ∧ p'.cache.get? ty = some e := by
  unfold resolve at h
  split at h
  · next entry hget =>
    simp only [Prod.mk.injEq, Except.ok.injEq] at h
    obtain ⟨rfl, rfl⟩ := h
    exact ⟨ReflTransGen.single (Advances.hit (TypeCache.mem_names_of_get? hget)), hget⟩
  · split at h
    · simp at h
    · next p'' hfollow =>
      split at h
      · next entry hget =>
        simp only [Prod.mk.injEq, Except.ok.injEq] at h
        obtain ⟨rfl, rfl⟩ := h
        exact ⟨follow_ok hfollow, hget⟩
      · simp at h

theorem resolve_error {ty : TypeName} {p p' : Progress σ} {e : GenerateError}
    (h : host.resolve ty p = (.error e, p')) :
    ∃ s, host.Runs ⟨p, [.visit ty]⟩ s ∧ host.Stops s e p' := by
  unfold resolve at h
  split at h
  · simp at h
  · split at h
    · next e' p'' hfollow =>
      simp only [Prod.mk.injEq, Except.error.injEq] at h
      obtain ⟨rfl, rfl⟩ := h
      exact follow_error hfollow
    · next p'' hfollow =>
      split at h
      · simp at h
      · next hget =>
        -- a finished run has cached the type, so it has an entry
        have hcached := cached_of_finished (follow_ok hfollow) List.mem_cons_self
        obtain ⟨entry, hentry⟩ := TypeCache.exists_get?_of_mem_names hcached
        rw [hentry] at hget
        exact absurd hget (by simp)

theorem ends_of_resolve {ty : TypeName} {p p' : Progress σ}
    {r : Except GenerateError CacheEntry} (h : host.resolve ty p = (r, p')) :
    host.Ends ⟨p, [.visit ty]⟩ p' := by
  cases r with
  | ok e => exact Ends.finished (resolve_ok h).1
  | error e =>
    obtain ⟨s, hrun, hstop⟩ := resolve_error h
    exact Ends.stopped hrun hstop

/-- A type that is visited first and can be looked up gets cached, even if the search fails
later. -/
theorem mem_names_of_ends {ty : TypeName} {rest : List Step} {p p' : Progress σ} {t : ResolvedType}
    (hlookUp : host.lookUp ty = .ok t) (h : host.Ends ⟨p, .visit ty :: rest⟩ p') :
    ty ∈ p'.cache.names := by
  cases h with
  | finished hrun => exact cached_of_finished hrun List.mem_cons_self
  | stopped hrun hstop =>
    obtain ⟨_, _, _, _, hkept⟩ := names_of_stops hstop
    rcases ReflTransGen.cases_head hrun with rfl | ⟨s', hfirst, hrest⟩
    · cases hstop with
      | lookUp _ hfails => simp [hlookUp] at hfails
      | marker _ hfound =>
        exact (TypeCache.mem_names_insert _ _ _).2 (Or.inl (name_of_lookUp hfound).symm)
    · refine hkept ty (cached_of_runs hrest ?_)
      cases hfirst with
      | hit hcached => exact hcached
      | enter _ hfound =>
        exact (TypeCache.mem_names_insert _ _ _).2 (Or.inl (name_of_lookUp hfound).symm)

/-- A type that can be looked up is cached by its resolution, even if that fails later. -/
theorem mem_names_of_resolve {ty : TypeName} {p p' : Progress σ}
    {r : Except GenerateError CacheEntry} {t : ResolvedType} (hlookUp : host.lookUp ty = .ok t)
    (h : host.resolve ty p = (r, p')) : ty ∈ p'.cache.names :=
  mem_names_of_ends hlookUp (ends_of_resolve h)

/-- Resolving types one after the other is one run that visits them in turn. -/
theorem resolveAll_ok {tys : List TypeName} {p p' : Progress σ} {es : List CacheEntry}
    (h : host.resolveAll tys p = (.ok es, p')) :
    host.Runs ⟨p, tys.map .visit⟩ ⟨p', []⟩ ∧
      List.Forall₂ (fun ty e => p'.cache.get? ty = some e) tys es := by
  induction tys generalizing p es with
  | nil =>
    simp only [resolveAll, Prod.mk.injEq, Except.ok.injEq] at h
    obtain ⟨rfl, rfl⟩ := h
    exact ⟨ReflTransGen.refl, List.Forall₂.nil⟩
  | cons ty rest ih =>
    rw [resolveAll] at h
    split at h
    · simp at h
    · next entry p₁ hfirst =>
      split at h
      · simp at h
      · next entries p₂ hrest =>
        simp only [Prod.mk.injEq, Except.ok.injEq] at h
        obtain ⟨rfl, rfl⟩ := h
        obtain ⟨hrun, hget⟩ := resolve_ok hfirst
        obtain ⟨hruns, hgets⟩ := ih hrest
        refine ⟨ReflTransGen.trans (Runs.append hrun (rest.map .visit)) hruns, ?_⟩
        exact List.Forall₂.cons (get?_of_runs hruns hget) hgets

theorem resolveAll_error {tys : List TypeName} {p p' : Progress σ} {e : GenerateError}
    (h : host.resolveAll tys p = (.error e, p')) :
    ∃ s, host.Runs ⟨p, tys.map .visit⟩ s ∧ host.Stops s e p' := by
  induction tys generalizing p with
  | nil => simp [resolveAll] at h
  | cons ty rest ih =>
    rw [resolveAll] at h
    split at h
    · next e' p₁ hfirst =>
      simp only [Prod.mk.injEq, Except.error.injEq] at h
      obtain ⟨rfl, rfl⟩ := h
      obtain ⟨s, hrun, hstop⟩ := resolve_error hfirst
      exact ⟨_, Runs.append hrun (rest.map .visit), hstop.append _⟩
    · next entry p₁ hfirst =>
      split at h
      · next e' p₂ hrest =>
        simp only [Prod.mk.injEq, Except.error.injEq] at h
        obtain ⟨rfl, rfl⟩ := h
        obtain ⟨s, hruns, hstop⟩ := ih hrest
        have hrun := Runs.append (resolve_ok hfirst).1 (rest.map .visit)
        exact ⟨s, ReflTransGen.trans hrun hruns, hstop⟩
      · simp at h

/-- The resolved types are the asked ones. -/
theorem map_name_of_resolveAll {tys : List TypeName} {p p' : Progress σ} {es : List CacheEntry}
    (h : host.resolveAll tys p = (.ok es, p')) : (es.map (·.resolved)).map (·.name) = tys := by
  have hgets := (resolveAll_ok h).2
  clear h
  induction hgets with
  | nil => rfl
  | cons hget _ ih =>
    rw [List.map_cons, List.map_cons, ih, TypeCache.name_of_get? hget]

end Host

end ValidatorForge
