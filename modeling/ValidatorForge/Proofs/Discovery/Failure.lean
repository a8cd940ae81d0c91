import ValidatorForge.Proofs.Discovery.Markers

/-!
# Why discovery fails

`Faulty` lists what is wrong with a type by itself, as the error that reports it: the engine does
not describe it, the host does not declare it, or the name of its validator is no identifier.  A
search stops at a faulty type, with the error of its fault (`faulty_of_stops`).

On an empty cache and an empty sink a resolution succeeds exactly when nothing that the type reaches
is faulty, and an error names a type that it reaches (`resolve_empty_ok_iff`).  This needs the cache
and the sink to be empty: an entry from before may hide a fault, and so may a name that was taken.
-/

namespace ValidatorForge

open Relation Sample

/-- A name without an identifier is refused by that name. -/
theorem Naming.eq_invalidName_of_ident {name : String} {e : GenerateError}
    (h : Naming.ident name = .error e) : e = .invalidName name := by
  unfold Naming.ident at h
  split at h
  · cases h
  · exact (Except.error.inj h).symm

/-- A marker that cannot be built is refused by the name of the validator. -/
theorem ResolvedType.ident_of_marker_body {t : ResolvedType} {e : GenerateError}
    (h : t.marker.body = .error e) : Naming.ident t.outputName = .error e := by
  rw [body_marker] at h
  cases hident : Naming.ident t.outputName with
  | error e' =>
    rw [hident] at h
    exact congrArg Except.error (Except.error.inj h)
  | ok i =>
    rw [hident] at h
    cases h

namespace Host

/-- What is wrong with a type by itself. -/
inductive Faulty (host : Host) (n : TypeName) : GenerateError → Prop
  | undescribed {cause : EngineError} (h : host.engine.describe n = .error cause) :
      Faulty host n (.unresolvableType n cause)
  | undeclared (h : host.types.find? n = none) : Faulty host n (.unknownType n)
  | unnamed {t : ResolvedType} (hlookUp : host.lookUp n = .ok t)
      (h : ∀ i, Naming.ident t.outputName ≠ .ok i) : Faulty host n (.invalidName t.outputName)

variable {host : Host} {n : TypeName} {e : GenerateError}

theorem faulty_of_lookUp (h : host.lookUp n = .error e) : host.Faulty n e := by
  unfold lookUp at h
  split at h
  · next cause hdescribe =>
    rw [← Except.error.inj h]
    exact Faulty.undescribed hdescribe
  · unfold TypeUniverse.load at h
    split at h
    · cases h
    · next hfind =>
      rw [← Except.error.inj h]
      exact Faulty.undeclared hfind

theorem faulty_of_marker {t : ResolvedType} (hlookUp : host.lookUp n = .ok t)
    (h : t.marker.body = .error e) : host.Faulty n e := by
  have hident := ResolvedType.ident_of_marker_body h
  rw [Naming.eq_invalidName_of_ident hident]
  refine Faulty.unnamed hlookUp fun i hi => ?_
  rw [hident] at hi
  cases hi

/-- A search stops at a faulty type, and reports its fault. -/
theorem faulty_of_stops {s : Search MemoryArtifacts} {p : Progress MemoryArtifacts}
    (h : host.Stops s e p) : ∃ ty, .visit ty ∈ s.pending ∧ host.Faulty ty e := by
  cases h with
  | @lookUp cache out ty rest e hnew hlookUp =>
    exact ⟨ty, List.mem_cons_self, faulty_of_lookUp hlookUp⟩
  | @marker cache out out' ty rest t e hnew hlookUp hemit =>
    exact ⟨ty, List.mem_cons_self, faulty_of_marker hlookUp (Output.body_of_emit_error hemit)⟩

/-- A search for what some types reach fails at one of the types that they reach. -/
theorem exists_faulty_of_stopped {tys : List TypeName} {p p' : Progress MemoryArtifacts}
    {s : Search MemoryArtifacts} (hrun : host.Runs ⟨p, tys.map .visit⟩ s)
    (hstop : host.Stops s e p') : ∃ n, (∃ ty ∈ tys, host.Reaches ty n) ∧ host.Faulty n e := by
  obtain ⟨n, hn, hfaulty⟩ := faulty_of_stops hstop
  have hvisits := onlyVisits_of_runs exists_reaches_of_cascadesTo hrun (onlyVisits_reached tys)
  exact ⟨n, hvisits n hn, hfaulty⟩

/-- A type can be resolved by itself if the engine describes it, the host declares it, and its
validator has a name. -/
theorem resolvable_iff :
    host.Resolvable n ↔ ∃ d decl, host.engine.describe n = .ok d ∧
      host.types.find? n = some decl ∧
        ∃ i, Naming.ident (ResolvedType.outputName ⟨decl, d⟩) = .ok i := by
  constructor
  · intro hex
    obtain ⟨t, hlookUp, hbody⟩ := hex
    obtain ⟨hdescribe, hfind⟩ := lookUp_eq_ok_iff.1 hlookUp
    exact ⟨t.descriptor, t.decl, hdescribe, hfind, ResolvedType.marker_body_eq_ok_iff.1 hbody⟩
  · intro hex
    obtain ⟨d, decl, hdescribe, hfind, hident⟩ := hex
    exact ⟨⟨decl, d⟩, lookUp_eq_ok_iff.2 ⟨hdescribe, hfind⟩,
      ResolvedType.marker_body_eq_ok_iff.2 hident⟩

/-- A faulty type cannot be resolved. -/
theorem Faulty.not_resolvable (h : host.Faulty n e) : ¬ host.Resolvable n := by
  intro hresolvable
  obtain ⟨d, decl, hdescribe, hfind, hident⟩ := resolvable_iff.1 hresolvable
  cases h with
  | undescribed hfails => simp [hfails] at hdescribe
  | undeclared hnone => simp [hnone] at hfind
  | @unnamed t hlookUp hno =>
    obtain ⟨hdescribe', hfind'⟩ := lookUp_eq_ok_iff.1 hlookUp
    obtain rfl : decl = t.decl := Option.some.inj (hfind.symm.trans hfind')
    obtain ⟨i, hi⟩ := hident
    exact hno i hi

/-- A type that the engine does not describe leads nowhere. -/
theorem not_cascadesTo_of_undescribed {cause : EngineError}
    (h : host.engine.describe n = .error cause) (m : TypeName) : ¬ host.CascadesTo n m := by
  intro hcascade
  cases hcascade with
  | plain hdescribe => simp [h] at hdescribe
  | container hdescribe => simp [h] at hdescribe

/-- What a finished run into an empty sink has cached can be resolved. -/
theorem resolvable_of_finished {p p' : Progress MemoryArtifacts} {pending : List Step}
    (hcache : p.cache.values = []) (hsink : p.output.sink = {})
    (hrun : host.Runs ⟨p, pending⟩ ⟨p', []⟩) (hn : n ∈ p'.cache.names) : host.Resolvable n := by
  have hmarked : p.Marked {} := by
    rw [Progress.Marked, hcache, hsink]
    rfl
  have hbuilt : Built p := by
    rw [Built, hcache]
    exact List.forall_mem_nil _
  obtain ⟨types, hvalues, hlookUp, _⟩ := enters_of_runs hrun
  have htypes : p'.cache.values = types := by
    rw [hvalues, hcache]
    rfl
  rw [TypeCache.names_eq_map_name] at hn
  obtain ⟨t, ht, rfl⟩ := List.mem_map.1 hn
  exact ⟨t, hlookUp t (htypes ▸ ht), built_of_runs hrun hmarked hbuilt t ht⟩

/-- On an empty cache and an empty sink, a resolution succeeds exactly if the type is clean. -/
theorem resolve_empty_ok_iff_clean {ty : TypeName} :
    (∃ e p, host.resolve ty ⟨{}, { sink := ({} : MemoryArtifacts) }⟩ = (.ok e, p)) ↔
      host.Clean ty := by
  constructor
  · intro hex n hn
    obtain ⟨e, p, hresolve⟩ := hex
    have hrun : host.Runs ⟨⟨{}, { sink := ({} : MemoryArtifacts) }⟩, [ty].map .visit⟩ ⟨p, []⟩ :=
      (resolve_ok hresolve).1
    have hcached : n ∈ p.cache.names :=
      (mem_names_iff_of_finished rfl hrun).2 ⟨ty, List.mem_cons_self, hn⟩
    exact resolvable_of_finished rfl rfl hrun hcached
  · exact fun hclean => resolve_total hclean _

/-- On an empty cache and an empty sink, a resolution succeeds exactly if all types that the type
reaches are described and declared, and the names of their validators are identifiers.  If it fails,
it reports the fault of a type that the type reaches. -/
theorem resolve_empty_ok_iff (host : Host) (ty : TypeName) :
    ((∃ e p, host.resolve ty ⟨{}, { sink := ({} : MemoryArtifacts) }⟩ = (.ok e, p)) ↔
      ∀ n, host.Reaches ty n → ∃ d decl, host.engine.describe n = .ok d ∧
        host.types.find? n = some decl ∧
        ∃ i, Naming.ident (ResolvedType.outputName ⟨decl, d⟩) = .ok i) ∧
    ∀ error p, host.resolve ty ⟨{}, { sink := ({} : MemoryArtifacts) }⟩ = (.error error, p) →
      ∃ n, host.Reaches ty n ∧ host.Faulty n error := by
  constructor
  · rw [resolve_empty_ok_iff_clean, Clean]
    exact forall_congr' fun n => imp_congr_right fun _ => resolvable_iff
  · intro error p hresolve
    obtain ⟨s, hrun, hstop⟩ := resolve_error hresolve
    have hrun' : host.Runs ⟨⟨{}, { sink := ({} : MemoryArtifacts) }⟩, [ty].map .visit⟩ s := hrun
    obtain ⟨n, ⟨ty', hty', hreach⟩, hfaulty⟩ := exists_faulty_of_stopped hrun' hstop
    rw [List.mem_singleton.1 hty'] at hreach
    exact ⟨n, hreach, hfaulty⟩

private theorem robotless_reaches {n : TypeName} (h : robotlessHost.Reaches fleetType n) :
    n = fleetType ∨ n = robotType := by
  have hrobot : robotlessHost.engine.describe robotType = .error (.missing robotType) := rfl
  obtain ⟨t, hlookUp, hsteps⟩ : ∃ t, robotlessHost.lookUp fleetType = .ok t ∧
      (robotlessHost.steps t).all (staysIn [robotType]) = true := ⟨_, rfl, rfl⟩
  induction h with
  | refl => exact Or.inl rfl
  | @tail n m _ hcascade ih =>
    rcases ih with rfl | rfl
    · have hvisit := List.all_eq_true.1 hsteps _ ((visit_mem_steps_iff hlookUp).2 hcascade)
      exact Or.inr (List.mem_singleton.1 (List.contains_iff_mem.1 hvisit))
    · exact absurd hcascade (not_cascadesTo_of_undescribed hrobot m)

/-- The fleet is refused for its robots, by the error that the engine has for them. -/
theorem resolve_robotless_fleet :
    ∃ p, robotlessHost.resolve fleetType ⟨{}, { sink := ({} : MemoryArtifacts) }⟩ =
      (.error (.unresolvableType robotType (.missing robotType)), p) := by
  have hrobot : robotlessHost.engine.describe robotType = .error (.missing robotType) := rfl
  obtain ⟨t, hlookUp, hvisit, hbody⟩ : ∃ t, robotlessHost.lookUp fleetType = .ok t ∧
      .visit robotType ∈ robotlessHost.steps t ∧ t.marker.body.isOk = true :=
    ⟨_, rfl, by decide, rfl⟩
  obtain ⟨hok, herror⟩ := resolve_empty_ok_iff robotlessHost fleetType
  cases hresolve : robotlessHost.resolve fleetType ⟨{}, { sink := ({} : MemoryArtifacts) }⟩ with
  | mk r p =>
    cases r with
    | ok e =>
      have hreach := reaches_of_visit_mem_steps hlookUp hvisit
      obtain ⟨d, _, hdescribe, _⟩ := hok.1 ⟨e, p, hresolve⟩ robotType hreach
      simp [hrobot] at hdescribe
    | error error =>
      obtain ⟨n, hreach, hfaulty⟩ := herror error p hresolve
      rcases robotless_reaches hreach with rfl | rfl
      · exact absurd ⟨t, hlookUp, exists_eq_ok_of_isOk hbody⟩ hfaulty.not_resolvable
      · cases hfaulty with
        | undescribed hfails =>
          rw [hrobot] at hfails
          obtain rfl := Except.error.inj hfails
          exact ⟨p, rfl⟩
        | undeclared hnone => cases hnone
        | unnamed hfound => cases hfound

end Host

end ValidatorForge
