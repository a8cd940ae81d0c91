import Mathlib.Order.Bounds.Basic
import ValidatorForge.Proofs.Discovery.Resolvable

/-!
# Discovery is exact

`ResolvedBy` describes the caches that resolutions leave when they all succeed.  Such a cache has
the requested types, is closed under cascades, and lies in every other set of that kind: the cached
types are the least such set (`isLeast_cached`).
-/

namespace ValidatorForge.TypeCache

/-- The cache after resolutions that all succeed, starting from an empty one.  They may write to any
outputs. -/
inductive ResolvedBy (host : Host) : List TypeName → TypeCache → Prop
  | empty {cache : TypeCache} (h : cache.names = []) : ResolvedBy host [] cache
  | resolve {σ : Type} [ArtifactSink σ] {tys : List TypeName} {cache : TypeCache}
      {out : Output σ} {ty : TypeName} {e : CacheEntry} {p : Progress σ}
      (before : ResolvedBy host tys cache)
      (h : host.resolve ty ⟨cache, out⟩ = (.ok e, p)) : ResolvedBy host (tys ++ [ty]) p.cache

namespace ResolvedBy

variable {host : Host} {tys : List TypeName} {cache : TypeCache}

theorem mem_names_of_mem (h : ResolvedBy host tys cache) : ∀ ty ∈ tys, ty ∈ cache.names := by
  induction h with
  | empty => simp
  | resolve _ h ih =>
    intro n hn
    have hrun := (Host.resolve_ok h).1
    rcases List.mem_append.1 hn with hn | hn
    · exact Host.cached_of_runs hrun (ih n hn)
    · rw [List.mem_singleton.1 hn]
      exact Host.cached_of_finished hrun List.mem_cons_self

/-- The cache is closed under cascades. -/
theorem mem_names_of_cascadesTo (h : ResolvedBy host tys cache) {n m : TypeName}
    (hn : n ∈ cache.names) (hnm : host.CascadesTo n m) : m ∈ cache.names := by
  induction h generalizing n m with
  | empty h => simp [h] at hn
  | @resolve σ _ tys cache out ty e p _ h ih =>
    -- the entries from before are closed, and the run follows the cascades of the new ones
    have hfollowed :
        Search.Followed host (fun _ => True) (⟨⟨cache, out⟩, [.visit ty]⟩ : Search σ) :=
      fun n hn _ m hnm => Or.inl (ih hn hnm)
    exact Host.cached_of_finished_cascade (Host.resolve_ok h).1 hfollowed hn trivial hnm

/-- The cache lies in every set with the requested types that is closed under cascades. -/
theorem forall_mem_names {P : TypeName → Prop}
    (hclosed : ∀ n m, P n → host.CascadesTo n m → P m) (h : ResolvedBy host tys cache)
    (htys : ∀ ty ∈ tys, P ty) : ∀ n ∈ cache.names, P n := by
  induction h with
  | empty h => simp [h]
  | @resolve σ _ tys cache out ty e p _ h ih =>
    have hvisits : Search.OnlyVisits P (⟨⟨cache, out⟩, [.visit ty]⟩ : Search σ) := by
      intro n hn
      obtain rfl : n = ty := by simpa using hn
      exact htys n (by simp)
    intro n hn
    rcases Host.cached_or_of_runs hclosed (Host.resolve_ok h).1 hvisits hn with hold | hP
    · exact ih (fun ty hty => htys ty (List.mem_append_left _ hty)) n hold
    · exact hP

end ResolvedBy

/-- After resolutions that all succeed, the cached types are the least set that has the requested
types and is closed under cascades. -/
theorem isLeast_cached {host : Host} {tys : List TypeName} {cache : TypeCache}
    (h : ResolvedBy host tys cache) :
    IsLeast {S : Set TypeName | (∀ ty ∈ tys, ty ∈ S) ∧ ∀ n ∈ S, ∀ m, host.CascadesTo n m → m ∈ S}
      {n | n ∈ cache.names} := by
  refine ⟨⟨h.mem_names_of_mem, fun n hn m hnm => h.mem_names_of_cascadesTo hn hnm⟩, ?_⟩
  intro S hS n hn
  obtain ⟨htys, hclosed⟩ := hS
  exact h.forall_mem_names (fun n m hn hnm => hclosed n hn m hnm) htys n hn

/-- In the sample fleet, robots are found through the circle between them and their fleet. -/
theorem isLeast_cached_fleet :
    ∃ cache, ResolvedBy Sample.fleetHost [Sample.fleetType, Sample.machineType] cache ∧
      IsLeast {S : Set TypeName | (∀ ty ∈ [Sample.fleetType, Sample.machineType], ty ∈ S) ∧
          ∀ n ∈ S, ∀ m, Sample.fleetHost.CascadesTo n m → m ∈ S}
        {n | n ∈ cache.names} := by
  have hfleet := Host.clean_fleet Sample.fleetType (by simp [Sample.fleetTypes])
  have hmachine := Host.clean_fleet Sample.machineType (by simp [Sample.fleetTypes])
  obtain ⟨_, p, hfirst⟩ := Host.resolve_total hfleet ⟨{}, { sink := {} }⟩
  obtain ⟨_, p', hsecond⟩ := Host.resolve_total hmachine p
  have hresolved := ResolvedBy.resolve (ResolvedBy.resolve (ResolvedBy.empty rfl) hfirst) hsecond
  exact ⟨p'.cache, hresolved, isLeast_cached hresolved⟩

end ValidatorForge.TypeCache
