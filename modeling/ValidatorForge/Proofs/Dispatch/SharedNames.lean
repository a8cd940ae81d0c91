import Mathlib.Data.List.Dedup
import ValidatorForge.Proofs.Dispatch.Renderable
import ValidatorForge.Proofs.Naming.Separation

/-!
# Whether the types of a run have names of their own

Two host types whose names flatten alike compete for one marker and one path.  The sink keeps the
first marker and passes over the second without an error, and the branches of the two types guard
the same class.  So a run that succeeds need not have separated its types.

* `markersOf_length`: a run into an empty sink has committed one marker for each marker name that
  its types ask for, so one for each type exactly if no two types share a marker
  (`markersOf_length_eq_size_iff`).
* `Separates` says that every cached type has a marker and paths of its own.
  `run_empty_separates_iff` says when this is so, in the characters of the cached names.
* `run_bays_shares_names` is a run for a nested type and a type with an underscore, which share
  everything.
-/

namespace ValidatorForge

open Sample

/-- The committed artifacts that are markers of the listed types. -/
def MemoryArtifacts.markersOf (m : MemoryArtifacts) (ts : List ResolvedType) :
    List (String × String) :=
  m.entries.filter fun e =>
    ts.any fun t => t.qualifiedOutputName == e.1 && t.marker.source? == some e.2

namespace MemoryArtifacts

variable {m : MemoryArtifacts} {ts : List ResolvedType} {q source : String}

theorem mem_entries_of_get? (h : m.get? q = some source) : (q, source) ∈ m.entries :=
  OrderedMap.mem_entries_of_get? h

theorem mem_markersOf_iff :
    (q, source) ∈ m.markersOf ts ↔ (q, source) ∈ m.entries ∧ ∃ t ∈ ts,
      t.qualifiedOutputName = q ∧ t.marker.source? = some source := by
  simp only [markersOf, List.mem_filter, List.any_eq_true, Bool.and_eq_true, beq_iff_eq]

theorem mem_names_markersOf_iff :
    q ∈ (m.markersOf ts).map Prod.fst ↔ ∃ source, (q, source) ∈ m.markersOf ts := by
  simp only [List.mem_map, Prod.exists, exists_and_right, exists_eq_right]

end MemoryArtifacts

/-- Two host names share neither a marker nor a path below a root, if the path exists. -/
def TypeName.Apart (root : Source.ModPath) (a b : TypeName) : Prop :=
  ¬ a.SharesMarker b ∧ ∀ path, Naming.typePath root a = .ok path → ¬ a.SharesPath b

/-- Names that share a marker share their path. -/
theorem TypeName.SharesMarker.sharesPath {a b : TypeName} (h : a.SharesMarker b) :
    a.SharesPath b where
  package := Naming.packageSegments_eq_iff.1 (by rw [h.package])
  localName := h.localName

/-! ## Branches -/

namespace Dispatcher

open Source (ModPath)

variable {root : ModPath} {t t' : ResolvedType} {b b' : Branch}

/-- The two paths of a branch. -/
theorem paths_of_branchOf (h : branchOf root t = .ok b) :
    Naming.typePath root t.name = .ok b.type ∧
      Naming.itemPath root t.outputPackage t.outputName = .ok b.marker := by
  obtain ⟨type, htype, h⟩ := bind_ok h
  obtain ⟨marker, hmarker, h⟩ := bind_ok h
  cases h
  exact ⟨htype, hmarker⟩

/-- Two branches guard one class exactly if the names of their types share a path. -/
theorem type_eq_iff (h : branchOf root t = .ok b) (h' : branchOf root t' = .ok b') :
    b.type = b'.type ↔ b.bean.SharesPath b'.bean := by
  rw [bean_of_branchOf h, bean_of_branchOf h', ← Naming.typePath_eq_iff (paths_of_branchOf h).1,
    (paths_of_branchOf h').1, Except.ok.injEq]
  exact eq_comm

/-- Two branches have one validator exactly if the names of their types share a path. -/
theorem marker_eq_iff (h : branchOf root t = .ok b) (h' : branchOf root t' = .ok b') :
    b.marker = b'.marker ↔ b.bean.SharesPath b'.bean := by
  rw [bean_of_branchOf h, bean_of_branchOf h',
    ← ResolvedType.markerPath_eq_iff (paths_of_branchOf h).2, (paths_of_branchOf h').2,
    Except.ok.injEq]
  exact eq_comm

/-- Branches of different types that are pairwise apart have different classes and validators. -/
theorem nodup_paths {bs : List Branch} (hbeans : (bs.map (·.bean)).Nodup)
    (hbranch : ∀ b ∈ bs, ∃ t, branchOf root t = .ok b)
    (hapart : ∀ b ∈ bs, ∀ b' ∈ bs, b.bean ≠ b'.bean → b.bean.Apart root b'.bean) :
    (bs.map (·.type)).Nodup ∧ (bs.map (·.marker)).Nodup := by
  have hshared : ∀ b ∈ bs, ∀ b' ∈ bs, b.bean.SharesPath b'.bean → b = b' := by
    intro b hb b' hb' hshared
    obtain ⟨t, ht⟩ := hbranch b hb
    have hpath := (paths_of_branchOf ht).1
    rw [← bean_of_branchOf ht] at hpath
    refine List.inj_on_of_nodup_map hbeans hb hb' ?_
    by_contra hne
    exact (hapart b hb b' hb' hne).2 _ hpath hshared
  constructor
  · refine hbeans.of_map.map_on fun b hb b' hb' heq => hshared b hb b' hb' ?_
    obtain ⟨t, ht⟩ := hbranch b hb
    obtain ⟨t', ht'⟩ := hbranch b' hb'
    exact (type_eq_iff ht ht').1 heq
  · refine hbeans.of_map.map_on fun b hb b' hb' heq => hshared b hb b' hb' ?_
    obtain ⟨t, ht⟩ := hbranch b hb
    obtain ⟨t', ht'⟩ := hbranch b' hb'
    exact (marker_eq_iff ht ht').1 heq

end Dispatcher

namespace GenerateCall

variable {c : GenerateCall} {p : Progress MemoryArtifacts} {plan : DispatchPlan}

/-! ## Committed markers -/

/-- Under the name of a cached type's marker a planned run into an empty sink has committed the
marker of a cached type. -/
theorem exists_committed_marker (hplan : c.plan { sink := {} } = (.ok plan, p)) {t : ResolvedType}
    (ht : t ∈ p.cache.values) :
    ∃ t' ∈ p.cache.values, t'.qualifiedOutputName = t.qualifiedOutputName ∧
      ∃ source, t'.marker.source? = some source ∧
        (c.run { sink := {} }).2.sink.get? t.qualifiedOutputName = some source := by
  have hanswers := c.answers_run answers_start
  rw [List.nil_append, requests_of_planned hplan] at hanswers
  obtain ⟨a, hfirst⟩ : ∃ a,
      firstAsking (p.cache.values.map (·.marker)) t.qualifiedOutputName = some a := by
    refine Option.ne_none_iff_exists'.1 fun hnone => ?_
    exact firstAsking_eq_none_iff.1 hnone t.marker (List.mem_map_of_mem ht) rfl
  obtain ⟨t', ht', rfl⟩ := List.mem_map.1 (List.mem_of_find?_eq_some hfirst)
  have hname : t'.qualifiedOutputName = t.qualifiedOutputName := by
    simpa using List.find?_some hfirst
  obtain ⟨body, hbody⟩ := built_plan hplan t' ht'
  have hsource : t'.marker.source? = some (artifactText t'.qualifiedOutputName body) := by
    rw [Artifact.source?, hbody]
    rfl
  refine ⟨t', ht', hname, _, hsource, hanswers.get?_eq_some_iff.2 ⟨t'.marker, ?_, hsource⟩⟩
  -- the validator comes after all markers
  rw [firstAsking, List.find?_append]
  exact congrArg (Option.or · _) hfirst

/-- The committed markers have the names that the cached types ask for. -/
theorem mem_markersOf_names_iff (hplan : c.plan { sink := {} } = (.ok plan, p)) {q : String} :
    q ∈ ((c.run { sink := {} }).2.sink.markersOf p.cache.values).map Prod.fst ↔
      q ∈ p.cache.values.map (·.qualifiedOutputName) := by
  rw [MemoryArtifacts.mem_names_markersOf_iff]
  constructor
  · intro hex
    obtain ⟨source, hmarker⟩ := hex
    obtain ⟨_, t, ht, rfl, _⟩ := MemoryArtifacts.mem_markersOf_iff.1 hmarker
    exact List.mem_map_of_mem ht
  · intro hq
    obtain ⟨t, ht, rfl⟩ := List.mem_map.1 hq
    obtain ⟨t', ht', hname, source, hsource, hget⟩ := exists_committed_marker hplan ht
    have hentry := MemoryArtifacts.mem_entries_of_get? hget
    exact ⟨source, MemoryArtifacts.mem_markersOf_iff.2 ⟨hentry, t', ht', hname, hsource⟩⟩

/-- A run has committed one marker for each name that its types ask for. -/
theorem markersOf_length (hplan : c.plan { sink := {} } = (.ok plan, p)) :
    ((c.run { sink := {} }).2.sink.markersOf p.cache.values).length =
      (p.cache.values.map (·.qualifiedOutputName)).dedup.length := by
  let m := (c.run { sink := {} }).2.sink
  have hnodup : ((m.markersOf p.cache.values).map Prod.fst).Nodup :=
    m.committed.nodup.sublist (List.filter_sublist.map Prod.fst)
  have hperm : ((m.markersOf p.cache.values).map Prod.fst).Perm
      (p.cache.values.map (·.qualifiedOutputName)).dedup := by
    refine (List.perm_ext_iff_of_nodup hnodup (List.nodup_dedup _)).2 fun q => ?_
    rw [List.mem_dedup]
    exact mem_markersOf_names_iff hplan
  rw [← hperm.length_eq, List.length_map]

/-- The types of a cache ask for different markers exactly if no two of their names share one. -/
theorem nodup_qualifiedOutputNames_iff :
    (p.cache.values.map (·.qualifiedOutputName)).Nodup ↔
      ∀ a ∈ p.cache.names, ∀ b ∈ p.cache.names, a.SharesMarker b → a = b := by
  have hnames : (p.cache.values.map (·.name)).Nodup := by
    rw [← TypeCache.names_eq_map_name]
    exact p.cache.entries.nodup
  rw [TypeCache.names_eq_map_name]
  constructor
  · intro hnodup a ha b hb hshared
    obtain ⟨t, ht, rfl⟩ := List.mem_map.1 ha
    obtain ⟨t', ht', rfl⟩ := List.mem_map.1 hb
    have hmarker := ResolvedType.qualifiedOutputName_eq_iff.2 hshared
    rw [List.inj_on_of_nodup_map hnodup ht ht' hmarker]
  · intro hapart
    refine hnames.of_map.map_on fun t ht t' ht' heq => List.inj_on_of_nodup_map hnames ht ht' ?_
    exact hapart _ (List.mem_map_of_mem ht) _ (List.mem_map_of_mem ht')
      (ResolvedType.qualifiedOutputName_eq_iff.1 heq)

/-- There are as many committed markers as cached types exactly if no two of these share one. -/
theorem markersOf_length_eq_size_iff (hplan : c.plan { sink := {} } = (.ok plan, p)) :
    ((c.run { sink := {} }).2.sink.markersOf p.cache.values).length = p.cache.size ↔
      ∀ a ∈ p.cache.names, ∀ b ∈ p.cache.names, a.SharesMarker b → a = b := by
  have hsize : p.cache.size = (p.cache.values.map (·.qualifiedOutputName)).length := by
    simp [TypeCache.size, TypeCache.values, OrderedMap.size, OrderedMap.values]
  rw [markersOf_length hplan, hsize, ← nodup_qualifiedOutputNames_iff, ← List.dedup_eq_self]
  constructor
  · exact (List.dedup_sublist _).eq_of_length
  · intro heq
    rw [heq]

/-! ## Separated types -/

/-- Every cached type has a committed marker of its own and paths of its own. -/
structure Separates (c : GenerateCall) (plan : DispatchPlan) (p : Progress MemoryArtifacts)
    (m : MemoryArtifacts) : Prop where
  markers : (p.cache.values.map (·.qualifiedOutputName)).Nodup
  committed : ∀ t ∈ p.cache.values, ∃ source, t.marker.source? = some source ∧
    m.get? t.qualifiedOutputName = some source
  count : (m.markersOf p.cache.values).length = p.cache.size
  paths : ∀ a ∈ p.cache.names, ∀ b ∈ p.cache.names, a ≠ b → ∀ path,
    Naming.typePath c.spec.config.root a = .ok path →
      Naming.typePath c.spec.config.root b ≠ .ok path
  /-- No two branches for objects guard one class or have one validator. -/
  branches : ∀ d, Dispatcher.ofPlan c.spec plan = .ok d →
    (d.branches.map (·.type)).Nodup ∧ (d.branches.map (·.marker)).Nodup
  /-- Nor do two branches for property access. -/
  reflected : ∀ d, Dispatcher.ofPlan c.spec plan = .ok d →
    (d.reflected.map (·.branch.type)).Nodup ∧ (d.reflected.map (·.branch.marker)).Nodup

/-- The branches of cached types whose names are pairwise apart have paths of their own. -/
theorem nodup_paths_of_apart (hplan : c.plan { sink := {} } = (.ok plan, p)) {d : Dispatcher}
    (hd : Dispatcher.ofPlan c.spec plan = .ok d)
    (hapart : ∀ a ∈ p.cache.names, ∀ b ∈ p.cache.names, a ≠ b → a.Apart c.spec.config.root b)
    {bs : List Branch} (hbs : ∀ b ∈ bs, b ∈ d.allBranches) (hbeans : (bs.map (·.bean)).Nodup) :
    (bs.map (·.type)).Nodup ∧ (bs.map (·.marker)).Nodup := by
  have hbranch : ∀ b ∈ bs, ∃ t, Dispatcher.branchOf c.spec.config.root t = .ok b := by
    intro b hb
    obtain ⟨t, _, ht⟩ := Dispatcher.exists_value_of_branch hplan hd b (hbs b hb)
    exact ⟨t, ht⟩
  have hcached : ∀ b ∈ bs, b.bean ∈ p.cache.names := by
    intro b hb
    obtain ⟨t, ht, hbranch⟩ := Dispatcher.exists_value_of_branch hplan hd b (hbs b hb)
    rw [TypeCache.names_eq_map_name, Dispatcher.bean_of_branchOf hbranch]
    exact List.mem_map_of_mem ht
  refine Dispatcher.nodup_paths hbeans hbranch fun b hb b' hb' hne => ?_
  exact hapart _ (hcached b hb) _ (hcached b' hb') hne

/-- Types whose names are pairwise apart are separated. -/
theorem separates_of_apart (hplan : c.plan { sink := {} } = (.ok plan, p))
    (hapart : ∀ a ∈ p.cache.names, ∀ b ∈ p.cache.names, a ≠ b → a.Apart c.spec.config.root b) :
    c.Separates plan p (c.run { sink := {} }).2.sink := by
  have hshared : ∀ a ∈ p.cache.names, ∀ b ∈ p.cache.names, a.SharesMarker b → a = b := by
    intro a ha b hb hmarker
    by_contra hne
    exact (hapart a ha b hb hne).1 hmarker
  have hmarkers := nodup_qualifiedOutputNames_iff.2 hshared
  constructor
  case markers => exact hmarkers
  case committed =>
    intro t ht
    obtain ⟨t', ht', hname, source, hsource, hget⟩ := exists_committed_marker hplan ht
    obtain rfl := List.inj_on_of_nodup_map hmarkers ht' ht hname
    exact ⟨source, hsource, hget⟩
  case count => exact (markersOf_length_eq_size_iff hplan).2 hshared
  case paths =>
    intro a ha b hb hne path hpath hpath'
    exact (hapart a ha b hb hne).2 path hpath ((Naming.typePath_eq_iff hpath).1 hpath')
  case branches =>
    intro d hd
    have hbeans : (d.branches.map (·.bean)).Nodup := by
      rw [Dispatcher.branches_map_bean hd]
      exact DispatchPlan.nodup_orderedNames hplan
    exact nodup_paths_of_apart hplan hd hapart (fun b hb => List.mem_append_left _ hb) hbeans
  case reflected =>
    intro d hd
    have hbeans : ((d.reflected.map (·.branch)).map (·.bean)).Nodup := by
      rw [List.map_map]
      exact Dispatcher.reflected_map_bean hd ▸ DispatchPlan.nodup_reflectedNames hplan
    have hpaths :=
      nodup_paths_of_apart hplan hd hapart (fun b hb => List.mem_append_right _ hb) hbeans
    simpa only [List.map_map, Function.comp_def] using hpaths

/-- Separated types have names that are pairwise apart. -/
theorem Separates.apart {m : MemoryArtifacts} (h : c.Separates plan p m) :
    ∀ a ∈ p.cache.names, ∀ b ∈ p.cache.names, a ≠ b → a.Apart c.spec.config.root b := by
  intro a ha b hb hne
  constructor
  · intro hshared
    exact hne (nodup_qualifiedOutputNames_iff.1 h.markers a ha b hb hshared)
  · intro path hpath hshared
    exact h.paths a ha b hb hne path hpath ((Naming.typePath_eq_iff hpath).2 hshared)

end GenerateCall

/-- A run into an empty sink that succeeds has committed as many markers as it has cached types
exactly if no two cached types share a marker, and it has separated them exactly if they also share
no path.  It has done so if all their names have only parts with characters in them and none has a
dollar sign in its local name, or none an underscore. -/
theorem run_empty_separates_iff (c : GenerateCall) {name : String} {out' : Output MemoryArtifacts}
    (h : c.run { sink := {} } = (.ok name, out')) :
    ∃ plan p, c.plan { sink := {} } = (.ok plan, p) ∧
      ((out'.sink.markersOf p.cache.values).length = p.cache.size ↔
        ∀ a ∈ p.cache.names, ∀ b ∈ p.cache.names, a.SharesMarker b → a = b) ∧
      (c.Separates plan p out'.sink ↔
        ∀ a ∈ p.cache.names, ∀ b ∈ p.cache.names, a ≠ b → a.Apart c.spec.config.root b) ∧
      ∀ flat, flat = '$' ∨ flat = '_' →
        (∀ a ∈ p.cache.names, (∀ part ∈ a.parts, part ≠ []) ∧ flat ∉ a.localName) →
        c.Separates plan p out'.sink := by
  obtain ⟨_, plan, p, hplan⟩ := GenerateCall.of_run_ok h
  have hsink : (c.run { sink := {} }).2.sink = out'.sink := by rw [h]
  have hseparates := GenerateCall.separates_of_apart hplan
  rw [hsink] at hseparates
  refine ⟨plan, p, hplan, ?_, ⟨fun hsep => hsep.apart, hseparates⟩, fun flat hflat hplain => ?_⟩
  · rw [← hsink]
    exact GenerateCall.markersOf_length_eq_size_iff hplan
  · have heq : ∀ a ∈ p.cache.names, ∀ b ∈ p.cache.names, a.SharesPath b → a = b := by
      intro a ha b hb hshared
      obtain ⟨hparts, hlocal⟩ := hplain a ha
      obtain ⟨hparts', hlocal'⟩ := hplain b hb
      exact hshared.eq hflat hparts hparts' hlocal hlocal'
    refine hseparates fun a ha b hb hne => ⟨fun hmarker => ?_, fun _ _ hpath => ?_⟩
    · exact hne (heq a ha b hb hmarker.sharesPath)
    · exact hne (heq a ha b hb hpath)

/-- The types of the fleet, whose names have no dollar signs, are separated. -/
theorem run_fleet_separates :
    ∃ plan p name out', fleetCall.run { sink := {} } = (.ok name, out') ∧
      fleetCall.Separates plan p out'.sink := by
  obtain ⟨_, _, _, name, out', _, _, hrun⟩ :=
    GenerateCall.exists_run_of_isClosedOver GenerateCall.isClosedOver_fleet { sink := {} }
  obtain ⟨plan, p, hplan, _, _, hplain⟩ := run_empty_separates_iff fleetCall hrun
  refine ⟨plan, p, name, out', hrun, hplain '$' (Or.inl rfl) fun a ha => ?_⟩
  obtain ⟨ty, hty, hreach⟩ := (GenerateCall.mem_names_iff_reaches hplan).1 ha
  have htargets : ∀ ty ∈ fleetSpec.targets ++ fleetSpec.reflect, ty ∈ fleetTypes := by decide
  have hfleet : a ∈ fleetTypes :=
    Host.mem_of_reaches_of_isClosedList rfl (htargets ty hty) hreach
  have hparts : ∀ a ∈ fleetTypes, (∀ part ∈ a.parts, part ≠ []) ∧ '$' ∉ a.localName := by decide
  exact hparts a hfleet

/-- The bay that is nested in a depot. -/
def nestedBayType : TypeName := ⟨"acme.Depot$Bay"⟩

/-- A bay that has the name of the nested one once that is flattened. -/
def flatBayType : TypeName := ⟨"acme.Depot_Bay"⟩

/-- A run for both bays. -/
def bayCall : GenerateCall where
  spec := GenerationSpec.ofTargets (.plain "DepotValidator") nestedBayType [flatBayType]
  types := TypeUniverse.platform.insertAll [.ofClass nestedBayType, .ofClass flatBayType]
  engine := (DescriptorTable.ofList [.mk nestedBayType [] [], .mk flatBayType [] []]).toEngine

/-- A run for the two bays succeeds, with fewer markers than types: the branches of both guard one
class and have one validator. -/
theorem run_bays_shares_names :
    ∃ plan p d name out', bayCall.plan { sink := {} } = (.ok plan, p) ∧
      bayCall.run { sink := {} } = (.ok name, out') ∧
      Dispatcher.ofPlan bayCall.spec plan = .ok d ∧
      (∀ ty, ty = nestedBayType ∨ ty = flatBayType → ty ∈ p.cache.names) ∧
      (out'.sink.markersOf p.cache.values).length ≠ p.cache.size ∧
      ∃ b ∈ d.branches, ∃ b' ∈ d.branches, b.bean ≠ b'.bean ∧ b.type = b'.type ∧
        b.marker = b'.marker := by
  have hclosed : bayCall.isClosedOver [nestedBayType, flatBayType] = true := by decide +kernel
  obtain ⟨plan, p, d, name, out', hplan, hd, hrun⟩ :=
    GenerateCall.exists_run_of_isClosedOver hclosed { sink := {} }
  have hlocal : nestedBayType.localName.map flattened = flatBayType.localName.map flattened := by
    decide
  have hmarker : nestedBayType.SharesMarker flatBayType := ⟨by decide, hlocal⟩
  have hne : nestedBayType ≠ flatBayType := by decide
  have hcached : ∀ ty, ty = nestedBayType ∨ ty = flatBayType → ty ∈ p.cache.names := by
    intro ty hty
    have htarget : ty ∈ bayCall.spec.targets ++ bayCall.spec.reflect := by
      rcases hty with rfl | rfl <;> decide
    exact (GenerateCall.mem_names_iff_reaches hplan).2 ⟨ty, htarget, Relation.ReflTransGen.refl⟩
  refine ⟨plan, p, d, name, out', hplan, hrun, hd, hcached, fun hcount => ?_, ?_⟩
  · have hsink : (bayCall.run { sink := {} }).2.sink = out'.sink := by rw [hrun]
    rw [← hsink] at hcount
    have hshared := (GenerateCall.markersOf_length_eq_size_iff hplan).1 hcount
    exact hne (hshared _ (hcached _ (Or.inl rfl)) _ (hcached _ (Or.inr rfl)) hmarker)
  · have hbranch : ∀ ty ∈ bayCall.spec.targets, ∃ b ∈ d.branches, b.bean = ty := by
      intro ty hty
      have hordered := (DispatchPlan.mem_orderedNames_iff hplan).2 hty
      rw [← Dispatcher.branches_map_bean hd] at hordered
      exact List.mem_map.1 hordered
    obtain ⟨b, hb, hbean⟩ := hbranch nestedBayType (by decide)
    obtain ⟨b', hb', hbean'⟩ := hbranch flatBayType (by decide)
    obtain ⟨t, _, ht⟩ :=
      Dispatcher.exists_value_of_branch hplan hd b (List.mem_append_left _ hb)
    obtain ⟨t', _, ht'⟩ :=
      Dispatcher.exists_value_of_branch hplan hd b' (List.mem_append_left _ hb')
    have hpath : b.bean.SharesPath b'.bean := by
      rw [hbean, hbean']
      exact hmarker.sharesPath
    refine ⟨b, hb, b', hb', by rwa [hbean, hbean'], ?_, ?_⟩
    · exact (Dispatcher.type_eq_iff ht ht').2 hpath
    · exact (Dispatcher.marker_eq_iff ht ht').2 hpath

end ValidatorForge
