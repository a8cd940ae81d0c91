import ValidatorForge.Discovery.Cache
import ValidatorForge.Discovery.Cascade
import ValidatorForge.Discovery.Marker

/-!
# Resolving types

Resolving a type resolves everything that it leads to through cascades.  Each type is looked up
once: it enters the cache before its own cascades are followed, so that circles end.  The marker of
a type is emitted when the type enters the cache, and the entry stays there if that fails.
-/

namespace ValidatorForge

variable {σ : Type} [ArtifactSink σ]

/-- The cache of a run and what the run has put out. -/
structure Progress (σ : Type) where
  cache : TypeCache := {}
  output : Output σ

/-- Looks up the declaration of a type. -/
def TypeUniverse.load (u : TypeUniverse) (ty : TypeName) : Except GenerateError ClassDecl :=
  match u.find? ty with
  | some d => .ok d
  | none => .error (.unknownType ty)

namespace Host

/-- Asks the engine for the descriptor of a type, then looks up its declaration. -/
def lookUp (host : Host) (ty : TypeName) : Except GenerateError ResolvedType :=
  match host.engine.describe ty with
  | .error cause => .error (.unresolvableType ty cause)
  | .ok descriptor => (host.types.load ty).map fun decl => ⟨decl, descriptor⟩

/-- A look-up succeeds when the engine describes the type and the host declares it. -/
theorem lookUp_eq_ok_iff {host : Host} {ty : TypeName} {t : ResolvedType} :
    host.lookUp ty = .ok t ↔
      host.engine.describe ty = .ok t.descriptor ∧ host.types.find? ty = some t.decl := by
  unfold lookUp TypeUniverse.load
  constructor
  · intro h
    split at h
    · simp at h
    · next hd =>
      split at h
      · next hf =>
        obtain rfl := Except.ok.inj h
        exact ⟨hd, hf⟩
      · simp [Except.map] at h
  · intro hex
    obtain ⟨hd, hf⟩ := hex
    rw [hd, hf]
    rfl

theorem mem_names_of_lookUp {host : Host} {ty : TypeName} {t : ResolvedType}
    (h : host.lookUp ty = .ok t) : ty ∈ host.types.names :=
  TypeUniverse.mem_names_of_find? (lookUp_eq_ok_iff.1 h).2

/-- A type is looked up under its own name. -/
theorem name_of_lookUp {host : Host} {ty : TypeName} {t : ResolvedType}
    (h : host.lookUp ty = .ok t) : t.name = ty :=
  TypeUniverse.name_of_find? (lookUp_eq_ok_iff.1 h).2

/-- What is recorded when a type is seen for the first time. -/
def firstSight (ty : TypeName) : History := [.logged (.cacheMiss ty), .asked .fetch ty]

/-- Takes the steps from left to right.  A type that is visited for the first time has its own steps
taken next. -/
def follow (host : Host) (cache : TypeCache) (out : Output σ) :
    List Step → Except GenerateError Unit × Progress σ
  | [] => (.ok (), ⟨cache, out⟩)
  | .record o :: rest => host.follow cache (out.append [o]) rest
  | .visit ty :: rest =>
    if _hcached : ty ∈ cache.names then host.follow cache (out.log (.cacheHit ty)) rest
    else
      let out := out.append (firstSight ty)
      match _hlookUp : host.lookUp ty with
      | .error e => (.error e, ⟨cache, out⟩)
      | .ok t =>
        match out.emit t.marker with
        | (.error e, out) => (.error e, ⟨cache.insert t, out⟩)
        | (.ok _, out) => host.follow (cache.insert t) out (host.steps t ++ rest)
termination_by steps => (host.types.unvisited cache.names, steps.length)
decreasing_by
  · exact Prod.Lex.right _ (Nat.lt_succ_self _)
  · exact Prod.Lex.right _ (Nat.lt_succ_self _)
  · refine Prod.Lex.left _ _ ?_
    have hcongr : host.types.unvisited (cache.insert t).names =
        host.types.unvisited (ty :: cache.names) :=
      host.types.unvisited_congr fun n => by
        rw [TypeCache.mem_names_insert, name_of_lookUp _hlookUp, List.mem_cons]
    rw [hcongr]
    exact TypeUniverse.unvisited_cons_lt (mem_names_of_lookUp _hlookUp) _hcached

/-- Resolves a type and everything that it leads to. -/
def resolve (host : Host) (ty : TypeName) (p : Progress σ) :
    Except GenerateError CacheEntry × Progress σ :=
  match p.cache.get? ty with
  | some entry => (.ok entry, { p with output := p.output.log (.cacheHit ty) })
  | none =>
    match host.follow p.cache p.output [.visit ty] with
    | (.error e, p) => (.error e, p)
    | (.ok _, p) =>
      match p.cache.get? ty with
      | some entry => (.ok entry, p)
      | none => (.error (.unknownType ty), p)

/-- Resolves types from left to right, up to the first failure. -/
def resolveAll (host : Host) : List TypeName → Progress σ →
    Except GenerateError (List CacheEntry) × Progress σ
  | [], p => (.ok [], p)
  | ty :: rest, p =>
    match host.resolve ty p with
    | (.error e, p) => (.error e, p)
    | (.ok entry, p) =>
      match host.resolveAll rest p with
      | (.error e, p) => (.error e, p)
      | (.ok entries, p) => (.ok (entry :: entries), p)

end Host

end ValidatorForge
