import ValidatorForge.Dispatch.Generate
import ValidatorForge.Proofs.Discovery.Search

/-!
# One run over two sinks

A run decides nothing by its sink, except that it fails where the sink does.  So two runs that
differ in their sinks only go alike, as long as the emissions do: `Simulation` asks this of single
emissions, and `agree_follow`, `agree_resolve`, `agree_resolveAll`, `agree_build` and
`agree_generate` give it for a search, for its parts and for a whole run.

One of the sinks may refuse artifacts that the other one takes.  What then happens is left open, and
the error tells it.
-/

namespace ValidatorForge

/-- The outcomes of one computation over two sinks: it was refused at the second one, or it has the
same result at both and leaves related states. -/
def Agree {α β γ : Type} (refused : GenerateError → Prop) (related : β → γ → Prop)
    (x : Except GenerateError α × β) (y : Except GenerateError α × γ) : Prop :=
  (∃ e, refused e ∧ y.1 = .error e) ∨ y.1 = x.1 ∧ related x.2 y.2

/-- Goes on with a result, unless the computation failed. -/
def andThen {α β δ : Type} (x : Except GenerateError α × β)
    (next : α → β → Except GenerateError δ × β) : Except GenerateError δ × β :=
  match x with
  | (.error e, b) => (.error e, b)
  | (.ok a, b) => next a b

/-- Outcomes that agree still do after next steps that agree. -/
theorem Agree.andThen {α β γ δ : Type} {refused : GenerateError → Prop} {related : β → γ → Prop}
    {x : Except GenerateError α × β} {y : Except GenerateError α × γ}
    (h : Agree refused related x y) {next : α → β → Except GenerateError δ × β}
    {next' : α → γ → Except GenerateError δ × γ}
    (hnext : ∀ a b c, related b c → Agree refused related (next a b) (next' a c)) :
    Agree refused related (andThen x next) (andThen y next') := by
  obtain ⟨r, b⟩ := x
  obtain ⟨r', c⟩ := y
  rcases h with ⟨e, hrefused, rfl⟩ | ⟨rfl, hrelated⟩
  · exact Or.inl ⟨e, hrefused, rfl⟩
  · cases r' with
    | error e => exact Or.inr ⟨rfl, hrelated⟩
    | ok a => exact hnext a b c hrelated

/-- Two sinks at which artifacts are emitted alike. -/
structure Simulation (σ τ : Type) [ArtifactSink σ] [ArtifactSink τ] where
  related : Output σ → Output τ → Prop
  /-- The errors with which the second sink refuses artifacts. -/
  refused : GenerateError → Prop
  /-- The artifacts that are emitted alike. -/
  covers : Artifact → Prop
  append : ∀ {out out'}, related out out' → ∀ h, related (out.append h) (out'.append h)
  emit : ∀ {out out' a}, covers a → related out out' →
    Agree refused related (out.emit a) (out'.emit a)

namespace Host

variable {σ : Type} [ArtifactSink σ] {host : Host} {cache : TypeCache} {ty : TypeName}
  {rest : List Step} {t : ResolvedType}

theorem follow_hit (out : Output σ) (h : ty ∈ cache.names) :
    host.follow cache out (.visit ty :: rest) =
      host.follow cache (out.log (.cacheHit ty)) rest := by
  rw [follow, dif_pos h]

theorem follow_unknown (out : Output σ) (h : ty ∉ cache.names) {e : GenerateError}
    (hlookUp : host.lookUp ty = .error e) :
    host.follow cache out (.visit ty :: rest) =
      (.error e, ⟨cache, out.append (firstSight ty)⟩) := by
  rw [follow, dif_neg h]
  split
  · next e' he' =>
    rw [hlookUp] at he'
    rw [Except.error.inj he']
  · next ht =>
    rw [hlookUp] at ht
    cases ht

/-- A new type whose marker is not emitted ends the search. -/
theorem follow_unmarked {out out' : Output σ} (h : ty ∉ cache.names)
    (hlookUp : host.lookUp ty = .ok t) {e : GenerateError}
    (hemit : (out.append (firstSight ty)).emit t.marker = (.error e, out')) :
    host.follow cache out (.visit ty :: rest) = (.error e, ⟨cache.insert t, out'⟩) := by
  rw [follow, dif_neg h]
  split
  · next he =>
    rw [hlookUp] at he
    cases he
  · next t' ht' =>
    rw [hlookUp] at ht'
    obtain rfl := Except.ok.inj ht'
    dsimp only
    rw [hemit]

/-- A new type whose marker is emitted has its own steps taken next. -/
theorem follow_new {out out' : Output σ} (h : ty ∉ cache.names)
    (hlookUp : host.lookUp ty = .ok t) {name : String}
    (hemit : (out.append (firstSight ty)).emit t.marker = (.ok name, out')) :
    host.follow cache out (.visit ty :: rest) =
      host.follow (cache.insert t) out' (host.steps t ++ rest) := by
  rw [follow, dif_neg h]
  split
  · next he =>
    rw [hlookUp] at he
    cases he
  · next t' ht' =>
    rw [hlookUp] at ht'
    obtain rfl := Except.ok.inj ht'
    dsimp only
    rw [hemit]

theorem resolve_of_new {p : Progress σ} (h : p.cache.get? ty = none) :
    host.resolve ty p = andThen (host.follow p.cache p.output [.visit ty]) fun _ p =>
      match p.cache.get? ty with
      | some entry => (.ok entry, p)
      | none => (.error (.unknownType ty), p) := by
  rw [resolve, h]
  rcases host.follow p.cache p.output [.visit ty] with ⟨e | u, q⟩ <;> rfl

theorem resolveAll_cons {tys : List TypeName} {p : Progress σ} :
    host.resolveAll (ty :: tys) p = andThen (host.resolve ty p) fun entry p =>
      andThen (host.resolveAll tys p) fun entries p => (.ok (entry :: entries), p) := by
  rw [resolveAll]
  rcases host.resolve ty p with ⟨e | entry, q⟩
  · rfl
  · dsimp only [andThen]
    rcases host.resolveAll tys q with ⟨e | entries, o⟩ <;> rfl

end Host

theorem DispatchPlan.build_eq {σ : Type} [ArtifactSink σ] {spec : GenerationSpec} {host : Host}
    {p : Progress σ} :
    build spec host p = andThen (host.resolveAll spec.targets.eraseDups p) fun targets p =>
      andThen (host.resolveAll spec.reflect.eraseDups p) fun explicit p =>
        match groupSteps host spec.groups.eraseDups with
        | .error e => (.error e, p)
        | .ok groups =>
          let reflected := if explicit.isEmpty then p.cache.values else explicit.map (·.resolved)
          let plan : DispatchPlan :=
            { ordered :=
                host.types.orderBySpecificity ResolvedType.name (targets.map (·.resolved))
              groups
              reflected := reflect host reflected }
          (.ok plan, { p with output := p.output.log plan.event }) := by
  rw [build]
  rcases host.resolveAll spec.targets.eraseDups p with ⟨e | targets, q⟩
  · rfl
  · dsimp only [andThen]
    rcases host.resolveAll spec.reflect.eraseDups q with ⟨e | explicit, o⟩ <;> rfl

theorem generate_eq {σ : Type} [ArtifactSink σ] {spec : GenerationSpec} {types : TypeUniverse}
    {engine : ConstraintEngine} {out : Output σ} :
    generate spec types engine out =
      match DispatchPlan.build spec (spec.host types engine) ⟨{}, out⟩ with
      | (.error e, p) => (.error e, p.output)
      | (.ok plan, p) => andThen (p.output.emit (plan.artifact spec)) fun name out =>
          (.ok name, out.log (.runFinished name p.cache.size)) := by
  rw [generate]
  rcases DispatchPlan.build spec (spec.host types engine) ⟨{}, out⟩ with ⟨e | plan, p⟩
  · rfl
  · dsimp only
    rcases p.output.emit (plan.artifact spec) with ⟨e | name, out⟩ <;> rfl

namespace Simulation

variable {σ τ : Type} [ArtifactSink σ] [ArtifactSink τ] (S : Simulation σ τ) {host : Host}
  {out : Output σ} {out' : Output τ}

theorem log (h : S.related out out') (e : Event) : S.related (out.log e) (out'.log e) :=
  S.append h [.logged e]

/-- The caches are the same, and the outputs are related. -/
def Progresses (p : Progress σ) (p' : Progress τ) : Prop :=
  p'.cache = p.cache ∧ S.related p.output p'.output

/-- All markers of the types that a host knows are emitted alike. -/
def CoversMarkers (host : Host) : Prop := ∀ ty t, host.lookUp ty = .ok t → S.covers t.marker

variable {S} (hmarkers : S.CoversMarkers host)

include hmarkers

theorem agree_follow (cache : TypeCache) (out : Output σ) (steps : List Step) :
    ∀ {out' : Output τ}, S.related out out' →
      Agree S.refused S.Progresses (host.follow cache out steps)
        (host.follow cache out' steps) := by
  fun_induction Host.follow host cache out steps with
  | case1 cache out =>
    intro out' h
    rw [Host.follow]
    exact Or.inr ⟨rfl, rfl, h⟩
  | case2 cache out o rest ih =>
    intro out' h
    rw [Host.follow]
    exact ih (S.append h [o])
  | case3 cache out ty rest hcached ih =>
    intro out' h
    rw [Host.follow_hit _ hcached]
    exact ih (S.log h _)
  | case4 cache out ty rest hnew _ e =>
    rename_i hlookUp
    intro out' h
    rw [Host.follow_unknown _ hnew hlookUp]
    exact Or.inr ⟨rfl, rfl, S.append h _⟩
  | case5 cache out ty rest hnew _ t hlookUp e out₁ =>
    rename_i hemit
    intro out' h
    have hagree := S.emit (hmarkers ty t hlookUp) (S.append h (Host.firstSight ty))
    cases hemit' : (out'.append (Host.firstSight ty)).emit t.marker with
    | mk r out₁' =>
      rw [hemit, hemit'] at hagree
      rcases hagree with ⟨e', hrefused, rfl⟩ | ⟨rfl, hrelated⟩
      · rw [Host.follow_unmarked hnew hlookUp hemit']
        exact Or.inl ⟨e', hrefused, rfl⟩
      · rw [Host.follow_unmarked hnew hlookUp hemit']
        exact Or.inr ⟨rfl, rfl, hrelated⟩
  | case6 cache out ty rest hnew _ t hlookUp name out₁ hemit =>
    rename_i ih
    intro out' h
    have hagree := S.emit (hmarkers ty t hlookUp) (S.append h (Host.firstSight ty))
    cases hemit' : (out'.append (Host.firstSight ty)).emit t.marker with
    | mk r out₁' =>
      rw [hemit, hemit'] at hagree
      rcases hagree with ⟨e', hrefused, rfl⟩ | ⟨rfl, hrelated⟩
      · rw [Host.follow_unmarked hnew hlookUp hemit']
        exact Or.inl ⟨e', hrefused, rfl⟩
      · rw [Host.follow_new hnew hlookUp hemit']
        exact ih hrelated

variable {p : Progress σ} {p' : Progress τ}

theorem agree_resolve (ty : TypeName) (h : S.Progresses p p') :
    Agree S.refused S.Progresses (host.resolve ty p) (host.resolve ty p') := by
  obtain ⟨hcache, hrelated⟩ := h
  cases hget : p.cache.get? ty with
  | some entry =>
    rw [Host.resolve_of_cached hget, Host.resolve_of_cached (hcache ▸ hget)]
    exact Or.inr ⟨rfl, hcache, S.log hrelated _⟩
  | none =>
    rw [Host.resolve_of_new hget, Host.resolve_of_new (hcache ▸ hget), hcache]
    refine (agree_follow hmarkers p.cache p.output [.visit ty] hrelated).andThen ?_
    rintro _ q q' ⟨hcache, hrelated⟩
    rw [hcache]
    cases q.cache.get? ty <;> exact Or.inr ⟨rfl, hcache, hrelated⟩

theorem agree_resolveAll (tys : List TypeName) (h : S.Progresses p p') :
    Agree S.refused S.Progresses (host.resolveAll tys p) (host.resolveAll tys p') := by
  induction tys generalizing p p' with
  | nil => exact Or.inr ⟨rfl, h⟩
  | cons ty rest ih =>
    rw [Host.resolveAll_cons, Host.resolveAll_cons]
    refine (agree_resolve hmarkers ty h).andThen fun entry q q' hprogress => ?_
    exact (ih hprogress).andThen fun entries o o' hprogress => Or.inr ⟨rfl, hprogress⟩

/-- Planning goes alike. -/
theorem agree_build (spec : GenerationSpec) (h : S.Progresses p p') :
    Agree S.refused S.Progresses (DispatchPlan.build spec host p)
      (DispatchPlan.build spec host p') := by
  rw [DispatchPlan.build_eq, DispatchPlan.build_eq]
  refine (agree_resolveAll hmarkers _ h).andThen fun targets q q' hq => ?_
  refine (agree_resolveAll hmarkers _ hq).andThen fun explicit o o' ho => ?_
  rw [ho.1]
  cases DispatchPlan.groupSteps host spec.groups.eraseDups with
  | error e => exact Or.inr ⟨rfl, ho⟩
  | ok groups => exact Or.inr ⟨rfl, rfl, S.log ho.2 _⟩

end Simulation

/-- A run goes alike over two sinks at which its artifacts are emitted alike. -/
theorem Simulation.agree_generate {σ τ : Type} [ArtifactSink σ] [ArtifactSink τ]
    (S : Simulation σ τ) (spec : GenerationSpec) (types : TypeUniverse) (engine : ConstraintEngine)
    (hmarkers : S.CoversMarkers (spec.host types engine))
    (hvalidator : ∀ plan : DispatchPlan, S.covers (plan.artifact spec)) {out : Output σ}
    {out' : Output τ} (h : S.related out out') :
    Agree S.refused S.related (generate spec types engine out)
      (generate spec types engine out') := by
  have hstart : S.Progresses ⟨{}, out⟩ ⟨{}, out'⟩ := ⟨rfl, h⟩
  have hbuild := agree_build hmarkers spec hstart
  rw [generate_eq, generate_eq]
  revert hbuild
  rcases DispatchPlan.build spec (spec.host types engine) ⟨{}, out⟩ with ⟨r, p⟩
  rcases DispatchPlan.build spec (spec.host types engine) ⟨{}, out'⟩ with ⟨r', p'⟩
  intro hbuild
  rcases hbuild with ⟨e, hrefused, rfl⟩ | ⟨rfl, hcache, hrelated⟩
  · exact Or.inl ⟨e, hrefused, rfl⟩
  · cases r' with
    | error e => exact Or.inr ⟨rfl, hrelated⟩
    | ok plan =>
      refine (S.emit (hvalidator plan) hrelated).andThen fun name o o' ho => ?_
      rw [hcache]
      exact Or.inr ⟨rfl, S.log ho _⟩

end ValidatorForge
