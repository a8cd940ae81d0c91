import Mathlib.Data.Set.Operations
import ValidatorForge.Proofs.Dispatch.SharedSink

/-!
# What one run commits

A run leaves its sink as if this had received the requests of the run in their order (`sink_run`).
So what the run commits can be read off from its requests.

* A run that fails has not asked for a validator that could be built.  All that it has committed
  are markers of the types in its cache, behind what was committed before
  (`failed_run_commits_markers`).
* A run into an empty sink that succeeds has asked for the markers of all types that the spec needs,
  in the order in which they entered the cache, and then for the validator.  If all these names
  differ, they are the committed names (`run_empty_commits`).

The validator refers to the validator of a type by the identifier that the marker of the type
declares (`exists_ident_of_branchOf`).
-/

namespace ValidatorForge

open Sample

/-! ## The struct of a marker -/

namespace Source

/-- Whether a token is the word that begins a struct. -/
def Token.isStruct : Token → Bool
  | .ident i => i.isPlain "struct"
  | _ => false

/-- The identifier of the first struct that a fragment declares. -/
def declaredStruct? (f : Fragment) : Option Ident :=
  match f.dropWhile fun t => !t.isStruct with
  | _ :: .ident i :: _ => some i
  | _ => none

@[simp] theorem ModPath.names_child (p : ModPath) (n : Ident) :
    (p.child n).names = p.names ++ [n] := by
  simp [child, names]

end Source

/-- A marker declares the struct of its validator. -/
theorem declaredStruct?_markerTokens (i : Source.Ident) (ty : TypeName) :
    Source.declaredStruct? (markerTokens i ty) = some i := rfl

/-- The path of an item ends in the identifier of the item. -/
theorem Naming.exists_ident_of_itemPath {root path : Source.ModPath} {package name : String}
    (h : itemPath root package name = .ok path) :
    ∃ i, ident name = .ok i ∧ path.names.getLast? = some i := by
  obtain ⟨modules, _, h⟩ := Dispatcher.bind_ok h
  obtain ⟨i, hi, h⟩ := Dispatcher.bind_ok h
  cases h
  refine ⟨i, hi, ?_⟩
  rw [Source.ModPath.names_child, List.getLast?_concat]

/-- The path of a branch to the validator of its type ends in the identifier that the marker of the
type declares. -/
theorem Dispatcher.exists_ident_of_branchOf {root : Source.ModPath} {t : ResolvedType} {b : Branch}
    (h : branchOf root t = .ok b) :
    ∃ body i, t.marker.body = .ok body ∧ Source.declaredStruct? body = some i ∧
      b.marker.names.getLast? = some i := by
  obtain ⟨type, _, h⟩ := bind_ok h
  obtain ⟨path, hpath, h⟩ := bind_ok h
  cases h
  obtain ⟨i, hi, hlast⟩ := Naming.exists_ident_of_itemPath hpath
  have hbody : t.marker.body = .ok (markerTokens i t.name) := by
    rw [ResolvedType.body_marker, hi]
    rfl
  exact ⟨_, i, hbody, declaredStruct?_markerTokens i t.name, hlast⟩

/-! ## Runs that fail -/

namespace GenerateCall

variable {c : GenerateCall} {out : Output MemoryArtifacts} {p : Progress MemoryArtifacts}
  {plan : DispatchPlan}

/-- Whatever a failed run has asked for and could be built is the marker of a type in its cache. -/
theorem exists_marker_of_run_error {e : GenerateError} {out' : Output MemoryArtifacts}
    (h : c.run out = (.error e, out')) {a : Artifact} (ha : a ∈ c.requests out) {source : String}
    (hsource : a.source? = some source) : ∃ t ∈ (c.plan out).2.cache.values, a = t.marker := by
  cases hplan : c.plan out with
  | mk r p =>
    cases r with
    | error e' =>
      rw [requests_of_unplanned hplan] at ha
      obtain ⟨t, ht, rfl⟩ := List.mem_map.1 ha
      exact ⟨t, ht, rfl⟩
    | ok plan =>
      rw [requests_of_planned hplan] at ha
      rcases List.mem_append.1 ha with ha | ha
      · obtain ⟨t, ht, rfl⟩ := List.mem_map.1 ha
        exact ⟨t, ht, rfl⟩
      · have hbody := body_of_run_error hplan h
        rw [List.mem_singleton.1 ha, Artifact.source?, hbody] at hsource
        cases hsource

end GenerateCall

/-- A run that fails, after any others, commits no validator.  What was committed stays, and what
the run has committed behind it are markers of types that entered its cache. -/
theorem failed_run_commits_markers (calls : List GenerateCall) (c : GenerateCall)
    {e : GenerateError} {out' : Output MemoryArtifacts}
    (h : c.run (afterCalls { sink := {} } calls) = (.error e, out')) :
    ∃ new, out'.sink.entries = (afterCalls { sink := {} } calls).sink.entries ++ new ∧
      ∀ entry ∈ new,
        (∃ t ∈ (c.plan (afterCalls { sink := {} } calls)).2.cache.values,
          t.qualifiedOutputName = entry.1 ∧ t.marker.source? = some entry.2) ∧
        ∀ d : Dispatcher, entry.2 ≠ artifactText entry.1 d.tokens := by
  have hsound := (answers_afterCalls answers_start calls).sound
  have hsink := c.sink_run (afterCalls { sink := {} } calls)
  rw [h] at hsink
  obtain ⟨new, hentries, hnew⟩ :=
    MemoryArtifacts.exists_entries_receiveAll hsound (c.requests (afterCalls { sink := {} } calls))
  refine ⟨new, by rw [← hentries, ← hsink], fun entry hentry => ?_⟩
  obtain ⟨a, ha, hname, hsource⟩ := hnew entry hentry
  obtain ⟨t, ht, rfl⟩ := GenerateCall.exists_marker_of_run_error h ha hsource
  refine ⟨⟨t, ht, hname, hsource⟩, fun d heq => ?_⟩
  rw [heq] at hsource
  exact t.source?_marker_ne d entry.1 hname hsource

/-- A run for machines and fleets, with an engine that knows no robots. -/
def robotlessCall : GenerateCall where
  spec := GenerationSpec.ofTargets (.plain "FleetValidator") machineType [fleetType]
  types := fleetDeclarations
  engine := fleetTable.toEngine.refusing [(robotType, .missing robotType)]

private theorem robotless_unplanned (out : Output MemoryArtifacts) :
    ∃ e p, robotlessCall.plan out = (.error e, p) := by
  cases hplan : robotlessCall.plan out with
  | mk r p =>
    cases r with
    | error e => exact ⟨e, p, rfl⟩
    | ok plan =>
      -- a plan would need the robots of the fleet
      obtain ⟨t, hlookUp, hvisit⟩ : ∃ t, robotlessCall.host.lookUp fleetType = .ok t ∧
          .visit robotType ∈ robotlessCall.host.steps t := ⟨_, rfl, by decide⟩
      have hreach := Host.reaches_of_visit_mem_steps hlookUp hvisit
      have hrobot : robotType ∈ p.cache.names :=
        (GenerateCall.mem_names_iff_reaches hplan).2 ⟨fleetType, by decide, hreach⟩
      rw [TypeCache.names_eq_map_name] at hrobot
      obtain ⟨t', ht', hname⟩ := List.mem_map.1 hrobot
      have hfails := GenerateCall.lookUp_of_mem_values hplan ht'
      rw [hname] at hfails
      cases hfails

/-- What a run for machines leaves behind. -/
def afterMachines : Output MemoryArtifacts :=
  afterCalls { sink := {} } [machineCall (.plain "MachineValidator") "acme"]

private theorem machine_committed : ∃ d : Dispatcher,
    ("acme.MachineValidator", artifactText "acme.MachineValidator" d.tokens) ∈
      afterMachines.sink.entries := by
  obtain ⟨plan, p, d, _, _, hplan, hd, _⟩ :=
    GenerateCall.exists_run_of_isClosedOver GenerateCall.isClosedOver_machine
      (afterCalls { sink := {} } [])
  have hrendered := firstAsking_isRendered (List.forall_mem_nil _) hplan
    (fun t _ => t.qualifiedOutputName_ne (by decide)) hd
  obtain ⟨_, _, d, _, _, hget⟩ := (holdsValidator_iff _ "acme.MachineValidator").2 hrendered
  exact ⟨d, OrderedMap.mem_entries_of_get? hget⟩

private theorem robotless_unasked :
    robotlessCall.spec.qualifiedName ∉ afterMachines.sink.names := by
  intro hmem
  have hanswers := answers_afterCalls answers_start
    [machineCall (.plain "MachineValidator") "acme"]
  obtain ⟨a, ha, hname⟩ := (hanswers.taken_iff _).1 (hanswers.sound _ hmem)
  obtain ⟨c, hc, out, ha⟩ := exists_call_of_mem_requestsOf ha
  obtain rfl := List.mem_singleton.1 hc
  exact GenerateCall.ne_of_mem_requests ha (by decide) (by decide) hname

/-- After a run for machines, a run that knows no robots fails.  The validator for machines stays,
and none is committed for machines and fleets. -/
theorem robotless_run_keeps_machines :
    ∃ e out', robotlessCall.run afterMachines = (.error e, out') ∧
      (∃ d : Dispatcher, ("acme.MachineValidator",
        artifactText "acme.MachineValidator" d.tokens) ∈ out'.sink.entries) ∧
      robotlessCall.spec.qualifiedName ∉ out'.sink.names := by
  obtain ⟨e, p, hplan⟩ := robotless_unplanned afterMachines
  have hrun := GenerateCall.run_of_unplanned hplan
  obtain ⟨new, hentries, hnew⟩ := failed_run_commits_markers
    [machineCall (.plain "MachineValidator") "acme"] robotlessCall hrun
  have hstays : p.output.sink.entries = afterMachines.sink.entries ++ new := hentries
  refine ⟨e, p.output, hrun, ?_, ?_⟩
  · obtain ⟨d, hd⟩ := machine_committed
    exact ⟨d, hstays ▸ List.mem_append_left new hd⟩
  · rw [MemoryArtifacts.names_eq_map_entries, hstays, List.map_append, List.mem_append, not_or]
    refine ⟨robotless_unasked, fun hmem => ?_⟩
    obtain ⟨entry, hentry, hname⟩ := List.mem_map.1 hmem
    obtain ⟨⟨t, _, hmarker, _⟩, _⟩ := hnew entry hentry
    exact t.qualifiedOutputName_ne (by decide) (hmarker.trans hname)

/-! ## Runs into an empty sink -/

namespace GenerateCall

/-- What a run into an empty sink has committed, if all names differ: the markers of the types that
the spec needs, then the validator. -/
structure Commits (c : GenerateCall) (p : Progress MemoryArtifacts) (d : Dispatcher)
    (m : MemoryArtifacts) : Prop where
  /-- The types in the cache are those that the spec needs. -/
  entered : ∀ t, t ∈ p.cache.values ↔ c.spec.Needs c.host t
  /-- They were looked up in the order of the cache. -/
  fetched : p.output.history.fetched = p.cache.names
  names : m.names = p.cache.values.map (·.qualifiedOutputName) ++ [c.spec.qualifiedName]
  once : m.names.Nodup
  validator : m.get? c.spec.qualifiedName = some (artifactText c.spec.qualifiedName d.tokens)
  /-- The path to the validator of a type ends in the identifier that the committed marker of the
  type declares. -/
  declared : ∀ b ∈ d.allBranches, ∃ t ∈ p.cache.values, t.name = b.bean ∧ ∃ body i,
    t.marker.body = .ok body ∧
      m.get? t.qualifiedOutputName = some (artifactText t.qualifiedOutputName body) ∧
      Source.declaredStruct? body = some i ∧ b.marker.names.getLast? = some i

variable {c : GenerateCall} {out : Output MemoryArtifacts} {p : Progress MemoryArtifacts}
  {plan : DispatchPlan}

/-- A planned run asks for the names of the markers in the order of the cache, then for its own. -/
theorem names_requests (hplan : c.plan out = (.ok plan, p)) :
    (c.requests out).map (·.qualifiedName) =
      p.cache.values.map (·.qualifiedOutputName) ++ [c.spec.qualifiedName] := by
  have hown : (plan.artifact c.spec).qualifiedName = c.spec.qualifiedName := rfl
  simp only [requests_of_planned hplan, List.map_append, List.map_map, List.map_singleton,
    Function.comp_def, ResolvedType.qualifiedName_marker, hown]

/-- If the needed types have validators of different names, all requests of a planned run have
different names. -/
theorem nodup_names_requests
    (hdistinct : Set.InjOn ResolvedType.qualifiedOutputName {t | c.spec.Needs c.host t})
    (hown : ∀ t, c.spec.Needs c.host t → t.qualifiedOutputName ≠ c.spec.qualifiedName)
    (hplan : c.plan out = (.ok plan, p)) :
    ((c.requests out).map (·.qualifiedName)).Nodup := by
  have hneeds : ∀ t ∈ p.cache.values, c.spec.Needs c.host t :=
    fun t ht => (mem_values_iff_needs hplan).1 ht
  have hvalues : p.cache.values.Nodup := by
    have hnames : (p.cache.values.map (·.name)).Nodup := by
      rw [← TypeCache.names_eq_map_name]
      exact p.cache.entries.nodup
    exact hnames.of_map
  -- the markers differ among each other, and the validator comes last with another name
  have hmarkers : (p.cache.values.map (·.qualifiedOutputName)).Nodup :=
    hvalues.map_on fun t ht t' ht' heq => hdistinct (hneeds t ht) (hneeds t' ht') heq
  have hlast : c.spec.qualifiedName ∉ p.cache.values.map (·.qualifiedOutputName) := by
    intro hmem
    obtain ⟨t, ht, heq⟩ := List.mem_map.1 hmem
    exact hown t (hneeds t ht) heq
  rw [names_requests hplan, ← List.concat_eq_append]
  exact hmarkers.concat hlast

/-- A run into an empty sink whose validator's name is not that of a needed type succeeds only if
the validator can be rendered. -/
theorem exists_dispatcher_of_run_ok
    (hown : ∀ t, c.spec.Needs c.host t → t.qualifiedOutputName ≠ c.spec.qualifiedName)
    (hplan : c.plan { sink := {} } = (.ok plan, p)) {name : String} {out' : Output MemoryArtifacts}
    (h : c.run { sink := {} } = (.ok name, out')) : ∃ d, Dispatcher.ofPlan c.spec plan = .ok d := by
  -- in a sink that was empty only markers can have taken the name
  have hfree : c.spec.qualifiedName ∉ p.output.sink.taken := by
    intro htaken
    obtain ⟨a, ha, hname⟩ := ((answers_plan answers_start hplan).taken_iff _).1 htaken
    obtain ⟨t, ht, rfl⟩ := List.mem_map.1 ha
    exact hown t ((mem_values_iff_needs hplan).1 ht) hname
  cases hd : Dispatcher.ofPlan c.spec plan with
  | ok d => exact ⟨d, rfl⟩
  | error e =>
    have hbody : (plan.artifact c.spec).body = .error e := by
      rw [DispatchPlan.artifact, hd]
      rfl
    have hfails := run_of_unbuilt hplan hfree hbody
    rw [h] at hfails
    cases hfails

/-- A run whose requests have different names and can all be built commits them in order. -/
theorem commits_of_planned (hplan : c.plan { sink := {} } = (.ok plan, p)) {d : Dispatcher}
    (hd : Dispatcher.ofPlan c.spec plan = .ok d)
    (hdistinct : ((c.requests { sink := {} }).map (·.qualifiedName)).Nodup) :
    c.Commits p d (c.run { sink := {} }).2.sink := by
  have hsource := DispatchPlan.source?_artifact hd
  have hrequests := requests_of_planned hplan
  have hbuilt : ∀ a ∈ c.requests { sink := {} }, ∃ source, a.source? = some source := by
    rw [hrequests]
    refine List.forall_mem_append.2 ⟨fun a ha => ?_, List.forall_mem_singleton.2 ⟨_, hsource⟩⟩
    obtain ⟨t, ht, rfl⟩ := List.mem_map.1 ha
    obtain ⟨body, hbody⟩ := built_plan hplan t ht
    exact ⟨artifactText t.qualifiedOutputName body, by rw [Artifact.source?, hbody]; rfl⟩
  have hnames : (c.run { sink := {} }).2.sink.names =
      (c.requests { sink := {} }).map (·.qualifiedName) := by
    have hfree : ∀ a ∈ c.requests { sink := {} }, a.qualifiedName ∉ ({} : MemoryArtifacts).taken :=
      fun _ _ => List.not_mem_nil
    rw [sink_run]
    exact MemoryArtifacts.names_receiveAll MemoryArtifacts.answers_empty.sound hbuilt hdistinct
      hfree
  have hget : ∀ a ∈ c.requests { sink := {} },
      (c.run { sink := {} }).2.sink.get? a.qualifiedName = a.source? := by
    intro a ha
    have hanswers := c.answers_run answers_start
    rw [List.nil_append] at hanswers
    exact hanswers.get?_of_mem hdistinct ha
  rw [hrequests] at hget
  constructor
  case entered => exact fun t => mem_values_iff_needs hplan
  case fetched => exact fetched_plan hplan
  case names =>
    rw [hnames, names_requests hplan]
  case once =>
    rw [hnames]
    exact hdistinct
  case validator =>
    have hlast := hget (plan.artifact c.spec) (List.mem_append_right _ (List.mem_singleton.2 rfl))
    rw [hsource] at hlast
    exact hlast
  case declared =>
    intro b hb
    obtain ⟨t, ht, hbranch⟩ := Dispatcher.exists_value_of_branch hplan hd b hb
    obtain ⟨body, i, hbody, hstruct, hpath⟩ := Dispatcher.exists_ident_of_branchOf hbranch
    refine ⟨t, ht, (Dispatcher.bean_of_branchOf hbranch).symm, body, i, hbody, ?_, hstruct, hpath⟩
    have hmarker := hget t.marker (List.mem_append_left _ (List.mem_map_of_mem ht))
    rw [Artifact.source?, hbody] at hmarker
    exact hmarker

end GenerateCall

/-- A run into an empty sink that succeeds commits the markers of all types that its spec needs, in
the order in which they entered the cache, then the validator, as long as the validators of these
types have names of their own. -/
theorem run_empty_commits (c : GenerateCall)
    (hdistinct : Set.InjOn ResolvedType.qualifiedOutputName {t | c.spec.Needs c.host t})
    (hown : ∀ t, c.spec.Needs c.host t → t.qualifiedOutputName ≠ c.spec.qualifiedName)
    {name : String} {out' : Output MemoryArtifacts}
    (h : c.run { sink := {} } = (.ok name, out')) :
    name = c.spec.qualifiedName ∧ ∃ plan p d, c.plan { sink := {} } = (.ok plan, p) ∧
      Dispatcher.ofPlan c.spec plan = .ok d ∧ c.Commits p d out'.sink := by
  obtain ⟨hname, plan, p, hplan⟩ := GenerateCall.of_run_ok h
  obtain ⟨d, hd⟩ := GenerateCall.exists_dispatcher_of_run_ok hown hplan h
  refine ⟨hname, plan, p, d, hplan, hd, ?_⟩
  have hnodup := GenerateCall.nodup_names_requests hdistinct hown hplan
  have hcommits := GenerateCall.commits_of_planned hplan hd hnodup
  rw [h] at hcommits
  exact hcommits

/-- The run for the fleet needs types of the fleet only, whose validators have names of their
own. -/
private theorem fleet_needed : ∃ ts : List ResolvedType,
    (∀ t, fleetSpec.Needs fleetHost t → t ∈ ts) ∧ (ts.map (·.qualifiedOutputName)).Nodup := by
  obtain ⟨ts, hts, hnames⟩ : ∃ ts, fleetTypes.mapM fleetHost.lookUp = .ok ts ∧
      (ts.map (·.qualifiedOutputName)).Nodup := ⟨_, rfl, by decide⟩
  refine ⟨ts, fun t hneeds => ?_, hnames⟩
  obtain ⟨hlookUp, ty, hty, hreach⟩ := hneeds
  have htargets : ∀ ty ∈ fleetSpec.targets ++ fleetSpec.reflect, ty ∈ fleetTypes := by decide
  have hname : t.name ∈ fleetTypes :=
    Host.mem_of_reaches_of_isClosedList rfl (htargets ty hty) hreach
  obtain ⟨t', ht', hlookUp'⟩ :=
    exists_mem_of_forall₂ (Dispatcher.forall₂_of_mapM hts) t.name hname
  rw [hlookUp] at hlookUp'
  rw [Except.ok.inj hlookUp']
  exact ht'

/-- A run for machines and robots commits the marker of the fleets too, as robots belong to one. -/
theorem run_fleet_commits :
    ∃ p d out', fleetCall.run { sink := {} } = (.ok "acme.FleetValidator", out') ∧
      fleetCall.Commits p d out'.sink ∧ "acme._FleetValidator" ∈ out'.sink.names := by
  obtain ⟨_, _, _, name, out', _, _, hrun⟩ :=
    GenerateCall.exists_run_of_isClosedOver GenerateCall.isClosedOver_fleet { sink := {} }
  obtain ⟨ts, hneeded, hnames⟩ := fleet_needed
  have hdistinct :
      Set.InjOn ResolvedType.qualifiedOutputName {t | fleetCall.spec.Needs fleetCall.host t} :=
    fun t ht t' ht' heq => List.inj_on_of_nodup_map hnames (hneeded t ht) (hneeded t' ht') heq
  have hown : ∀ t, fleetCall.spec.Needs fleetCall.host t →
      t.qualifiedOutputName ≠ fleetCall.spec.qualifiedName :=
    fun t _ => t.qualifiedOutputName_ne (by decide)
  obtain ⟨rfl, plan, p, d, _, _, hcommits⟩ := run_empty_commits fleetCall hdistinct hown hrun
  refine ⟨p, d, out', hrun, hcommits, ?_⟩
  have hfleet : ∃ t, fleetHost.lookUp fleetType = .ok t ∧ t.name = fleetType ∧
      t.qualifiedOutputName = "acme._FleetValidator" := ⟨_, rfl, rfl, by decide⟩
  obtain ⟨t, hlookUp, hname, hmarker⟩ := hfleet
  obtain ⟨robot, hrobot, hvisit⟩ : ∃ robot, fleetHost.lookUp robotType = .ok robot ∧
      .visit fleetType ∈ fleetHost.steps robot := ⟨_, rfl, by decide⟩
  have hneeds : fleetSpec.Needs fleetHost t := by
    refine ⟨hname ▸ hlookUp, robotType, by decide, ?_⟩
    rw [hname]
    exact Host.reaches_of_visit_mem_steps hrobot hvisit
  rw [hcommits.names, ← hmarker]
  exact List.mem_append_left _ (List.mem_map_of_mem ((hcommits.entered t).2 hneeds))

end ValidatorForge
