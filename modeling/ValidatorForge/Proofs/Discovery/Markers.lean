import ValidatorForge.Proofs.Artifact.Commits
import ValidatorForge.Proofs.Discovery.Resolvable

/-!
# What a search emits

The types that enter the cache and the markers that are emitted go together: `Enters` says that a
part of a run adds types to the cache, in order, and asks the sink for their markers, in the same
order.  Every search does that, however it ends (`enters_of_ends`).  When it starts with an empty
cache, the sink is the one that has received the markers of the cached types (`marked_of_ends`), and
in an empty sink all of them were built unless the search has failed (`built_of_runs`).

The marker of a type has the qualified name of the type's validator.  That name determines the
validator's own name, as this has no dot (`outputName_eq_of_qualifiedOutputName_eq`); so of two
types that compete for one name, either both can have a marker or none.
-/

namespace ValidatorForge

open Relation

/-! ## Names of validators -/

/-- The last dotted part of a qualified name is the name itself, if it has no dot. -/
theorem lastField_qualify (package : String) {name : String} (h : '.' ∉ name.toList) :
    Text.lastField (· == '.') (qualify package name).toList = name.toList := by
  have hsep : ∀ c ∈ name.toList, (c == '.') = false := by
    intro c hc
    rw [beq_eq_false_iff_ne]
    intro heq
    obtain rfl := heq
    exact h hc
  unfold qualify
  split
  · exact Text.lastField_eq_self hsep
  · have htext : (s!"{package}.{name}").toList = package.toList ++ '.' :: name.toList := by
      simp [toString]
    rw [htext]
    exact Text.lastField_append_cons rfl _ hsep

namespace ResolvedType

theorem dot_not_mem_outputName (t : ResolvedType) : '.' ∉ t.outputName.toList := by
  have hflat : '.' ∉ (Naming.flatName t.name).toList := by
    simp only [Naming.flatName, Text.replaceChar, String.toList_ofList, List.mem_map, not_exists,
      not_and]
    intro c _
    split
    · decide
    · next hne => exact hne
  have htext : t.outputName.toList =
      '_' :: (Naming.flatName t.name).toList ++ "Validator".toList := by
    simp [outputName, toString]
  rw [htext]
  simpa using hflat

/-- A name whose last part does not begin with an underscore is not that of a validator. -/
theorem qualifiedOutputName_ne (t : ResolvedType) {q : String}
    (h : (Text.lastField (· == '.') q.toList).head? ≠ some '_') : t.qualifiedOutputName ≠ q := by
  intro heq
  obtain rfl := heq
  have hlast := lastField_qualify t.outputPackage t.dot_not_mem_outputName
  rw [qualifiedOutputName, hlast] at h
  exact h (by simp [outputName, toString])

/-- The qualified name of a validator determines its own name. -/
theorem outputName_eq_of_qualifiedOutputName_eq {t t' : ResolvedType}
    (h : t.qualifiedOutputName = t'.qualifiedOutputName) : t.outputName = t'.outputName := by
  have hlast := lastField_qualify t.outputPackage t.dot_not_mem_outputName
  have hlast' := lastField_qualify t'.outputPackage t'.dot_not_mem_outputName
  have hnames : qualify t.outputPackage t.outputName = qualify t'.outputPackage t'.outputName := h
  rw [hnames, hlast'] at hlast
  exact String.toList_inj.1 hlast.symm

@[simp] theorem qualifiedName_marker (t : ResolvedType) :
    t.marker.qualifiedName = t.qualifiedOutputName := rfl

/-- Types that compete for one name can both have a marker, or none. -/
theorem exists_marker_body_congr {t t' : ResolvedType}
    (h : t.qualifiedOutputName = t'.qualifiedOutputName) :
    (∃ body, t.marker.body = .ok body) ↔ ∃ body, t'.marker.body = .ok body := by
  rw [marker_body_eq_ok_iff, marker_body_eq_ok_iff, outputName_eq_of_qualifiedOutputName_eq h]

end ResolvedType

/-! ## Types that enter the cache -/

namespace Host

/-- A part of a run that enters types into the cache and emits their markers. -/
structure Enters (host : Host) (p p' : Progress MemoryArtifacts) (types : List ResolvedType) :
    Prop where
  values : p'.cache.values = p.cache.values ++ types
  lookUp : ∀ t ∈ types, host.lookUp t.name = .ok t
  answers : ∀ asked, p.output.sink.Answers asked →
    p'.output.sink.Answers (asked ++ types.map (·.marker))

variable {host : Host} {p p' p'' : Progress MemoryArtifacts}

/-- What leaves the cache and the sink alone enters nothing. -/
theorem Enters.of_unchanged (hcache : p'.cache = p.cache) (hsink : p'.output.sink = p.output.sink) :
    host.Enters p p' [] where
  values := by rw [hcache, List.append_nil]
  lookUp := List.forall_mem_nil _
  answers asked h := by
    rw [hsink, List.map_nil, List.append_nil]
    exact h

theorem Enters.trans {types types' : List ResolvedType} (h : host.Enters p p' types)
    (h' : host.Enters p' p'' types') : host.Enters p p'' (types ++ types') where
  values := by rw [h'.values, h.values, List.append_assoc]
  lookUp t ht := by
    rcases List.mem_append.1 ht with ht | ht
    · exact h.lookUp t ht
    · exact h'.lookUp t ht
  answers asked hasked := by
    rw [List.map_append, ← List.append_assoc]
    exact h'.answers _ (h.answers asked hasked)

/-- A new type enters the cache and its marker is emitted, built or not. -/
theorem enters_of_emit {cache : TypeCache} {out out' : Output MemoryArtifacts} {ty : TypeName}
    {t : ResolvedType} {r : Except GenerateError String} (hnew : ty ∉ cache.names)
    (hlookUp : host.lookUp ty = .ok t)
    (hemit : (out.append (firstSight ty)).emit t.marker = (r, out')) :
    host.Enters ⟨cache, out⟩ ⟨cache.insert t, out'⟩ [t] where
  values := TypeCache.values_insert (name_of_lookUp hlookUp ▸ hnew)
  lookUp t' ht' := by
    rw [List.mem_singleton.1 ht', name_of_lookUp hlookUp, hlookUp]
  answers asked hasked := by
    have hanswers : (out.append (firstSight ty)).sink.Answers asked := hasked
    have hemitted := hanswers.emit t.marker
    rw [hemit] at hemitted
    exact hemitted

theorem enters_of_advances {s s' : Search MemoryArtifacts} (h : host.Advances s s') :
    ∃ types, host.Enters s.progress s'.progress types := by
  cases h with
  | record => exact ⟨[], Enters.of_unchanged rfl rfl⟩
  | hit => exact ⟨[], Enters.of_unchanged rfl rfl⟩
  | enter hnew hlookUp hemit => exact ⟨_, enters_of_emit hnew hlookUp hemit⟩

theorem enters_of_runs {s s' : Search MemoryArtifacts} (h : host.Runs s s') :
    ∃ types, host.Enters s.progress s'.progress types := by
  induction h with
  | refl => exact ⟨[], Enters.of_unchanged rfl rfl⟩
  | tail _ hstep ih =>
    obtain ⟨types, htypes⟩ := ih
    obtain ⟨types', htypes'⟩ := enters_of_advances hstep
    exact ⟨_, htypes.trans htypes'⟩

theorem enters_of_stops {s : Search MemoryArtifacts} {e : GenerateError} (h : host.Stops s e p) :
    ∃ types, host.Enters s.progress p types := by
  cases h with
  | lookUp => exact ⟨[], Enters.of_unchanged rfl rfl⟩
  | marker hnew hlookUp hemit => exact ⟨_, enters_of_emit hnew hlookUp hemit⟩

/-- A search enters types into the cache and emits their markers, however it ends. -/
theorem enters_of_ends {s : Search MemoryArtifacts} (h : host.Ends s p) :
    ∃ types, host.Enters s.progress p types := by
  cases h with
  | finished hrun => exact enters_of_runs hrun
  | stopped hrun hstop =>
    obtain ⟨types, htypes⟩ := enters_of_runs hrun
    obtain ⟨types', htypes'⟩ := enters_of_stops hstop
    exact ⟨_, htypes.trans htypes'⟩

theorem enters_of_resolve {ty : TypeName} {r : Except GenerateError CacheEntry}
    (h : host.resolve ty p = (r, p')) : ∃ types, host.Enters p p' types :=
  enters_of_ends (ends_of_resolve h)

end Host

/-! ## The sink after a search -/

/-- The sink has received the markers of all cached types since a start, in the order of the
cache. -/
def Progress.Marked {σ : Type} [ArtifactSink σ] (start : σ) (p : Progress σ) : Prop :=
  p.output.sink = receiveAll start (p.cache.values.map (·.marker))

namespace Host

section

variable {σ : Type} [ArtifactSink σ] {host : Host} {start : σ}

/-- A new type comes last in the cache, and its marker is received last. -/
theorem marked_of_emit {cache : TypeCache} {out out' : Output σ} {ty : TypeName} {t : ResolvedType}
    {r : Except GenerateError String} (hnew : ty ∉ cache.names) (hlookUp : host.lookUp ty = .ok t)
    (hemit : (out.append (firstSight ty)).emit t.marker = (r, out'))
    (h : Progress.Marked start ⟨cache, out⟩) : Progress.Marked start ⟨cache.insert t, out'⟩ := by
  have hfresh : t.name ∉ cache.names := name_of_lookUp hlookUp ▸ hnew
  have hout : out' = ((out.append (firstSight ty)).emit t.marker).2 :=
    (congrArg Prod.snd hemit).symm
  show out'.sink = receiveAll start ((cache.insert t).values.map (·.marker))
  calc
    out'.sink
      = receive out.sink t.marker := by rw [hout, Output.sink_emit]; rfl
    _ = receive (receiveAll start (cache.values.map (·.marker))) t.marker :=
        congrArg (receive · t.marker) h
    _ = receiveAll start ((cache.insert t).values.map (·.marker)) := by
        rw [← receiveAll_concat, TypeCache.values_insert hfresh, List.map_append]
        rfl

theorem marked_of_advances {s s' : Search σ} (h : host.Advances s s')
    (hs : s.progress.Marked start) : s'.progress.Marked start := by
  cases h with
  | record => exact hs
  | hit => exact hs
  | enter hnew hlookUp hemit => exact marked_of_emit hnew hlookUp hemit hs

theorem marked_of_runs {s s' : Search σ} (h : host.Runs s s') (hs : s.progress.Marked start) :
    s'.progress.Marked start := by
  induction h with
  | refl => exact hs
  | tail _ hstep ih => exact marked_of_advances hstep ih

/-- However a search ends, its sink has received the markers of what it has entered. -/
theorem marked_of_ends {s : Search σ} {p : Progress σ} (h : host.Ends s p)
    (hs : s.progress.Marked start) : p.Marked start := by
  cases h with
  | finished hrun => exact marked_of_runs hrun hs
  | stopped hrun hstop =>
    have hstopped := marked_of_runs hrun hs
    cases hstop with
    | lookUp => exact hstopped
    | marker hnew hlookUp hemit => exact marked_of_emit hnew hlookUp hemit hstopped

end

/-! ## Searches into an empty sink -/

variable {host : Host}

/-- The types that are cached have markers that can be built. -/
def Built (p : Progress MemoryArtifacts) : Prop :=
  ∀ t ∈ p.cache.values, ∃ body, t.marker.body = .ok body

/-- A marker that is emitted without an error can be built.  If its name was taken, then by a type
whose marker was built under the same name. -/
theorem exists_body_of_emit {p : Progress MemoryArtifacts} {out' : Output MemoryArtifacts}
    {t : ResolvedType} {name : String} {h : History} (hmarked : p.Marked {}) (hbuilt : Built p)
    (hemit : (p.output.append h).emit t.marker = (.ok name, out')) :
    ∃ body, t.marker.body = .ok body := by
  have hanswers : p.output.sink.Answers (p.cache.values.map (·.marker)) := by
    have hall := MemoryArtifacts.answers_receiveAll MemoryArtifacts.answers_empty
      (p.cache.values.map (·.marker))
    rw [hmarked]
    exact hall
  by_cases htaken : t.qualifiedOutputName ∈ p.output.sink.taken
  · obtain ⟨a, ha, hname⟩ := (hanswers.taken_iff _).1 htaken
    obtain ⟨t', ht', rfl⟩ := List.mem_map.1 ha
    exact (ResolvedType.exists_marker_body_congr hname).1 (hbuilt t' ht')
  · have hfree : t.marker.qualifiedName ∉ (p.output.append h).sink.taken := htaken
    cases hbody : t.marker.body with
    | ok body => exact ⟨body, rfl⟩
    | error e =>
      rw [Output.emit_unbuilt hfree hbody] at hemit
      cases hemit

theorem built_of_advances {s s' : Search MemoryArtifacts} (h : host.Advances s s')
    (hmarked : s.progress.Marked {}) (hbuilt : Built s.progress) : Built s'.progress := by
  cases h with
  | record => exact hbuilt
  | hit => exact hbuilt
  | @enter cache out out' ty rest t name hnew hlookUp hemit =>
    have hfresh : t.name ∉ cache.names := name_of_lookUp hlookUp ▸ hnew
    show ∀ t' ∈ (cache.insert t).values, _
    rw [TypeCache.values_insert hfresh]
    refine List.forall_mem_append.2 ⟨hbuilt, List.forall_mem_singleton.2 ?_⟩
    exact exists_body_of_emit hmarked hbuilt hemit

/-- A run into an empty sink that has not failed has built the markers of all cached types. -/
theorem built_of_runs {s s' : Search MemoryArtifacts} (h : host.Runs s s')
    (hmarked : s.progress.Marked {}) (hbuilt : Built s.progress) : Built s'.progress := by
  induction h with
  | refl => exact hbuilt
  | tail hrun hstep ih => exact built_of_advances hstep (marked_of_runs hrun hmarked) ih

end Host

end ValidatorForge
