import ValidatorForge.Proofs.Artifact.Commits
import ValidatorForge.Proofs.Discovery.Resolvable

/-!
# Cascades that lead nowhere

A container property whose field and getter both name no class leads nowhere.  The steps of a type
hold one warning for each such property (`warnings_steps`).  A search takes the steps of a type as
soon as the type enters the cache, but it takes those of other types in between.  So what a search
has logged and what it has still to record are accounted for together: both make up the warnings of
the types that have entered (`Accounts`), in some order.

At the end of a search nothing is pending any more, and the elements of all other container
properties are cached (`not_leadsInto_iff_of_finished`).  So a container property of a new type
either leads into the cache or has its warning, and there are no other warnings
(`resolve_warns_of_lost_cascades`).
-/

namespace ValidatorForge

open scoped List

/-! ## Warnings -/

namespace History

/-- The logged warnings. -/
def warnings (h : History) : List Event := h.events.filter (·.level = .warning)

@[simp] theorem warnings_append (h h' : History) :
    warnings (h ++ h') = h.warnings ++ h'.warnings := by
  simp [warnings, events]

end History

/-- What a step list records by itself. -/
def recorded (steps : List Step) : History :=
  steps.filterMap fun
    | .record o => some o
    | .visit _ => none

@[simp] theorem recorded_append (steps steps' : List Step) :
    recorded (steps ++ steps') = recorded steps ++ recorded steps' :=
  List.filterMap_append

theorem recorded_visits (tys : List TypeName) : recorded (tys.map .visit) = [] := by
  simp [recorded]

/-- What was added to a cache was not in it before. -/
theorem TypeCache.mem_names_of_values_append {c c' : TypeCache} {added : List ResolvedType}
    (h : c'.values = c.values ++ added) {t : ResolvedType} (ht : t ∈ added) :
    t.name ∈ c'.names ∧ t.name ∉ c.names := by
  have hnames : c'.names = c.names ++ added.map (·.name) := by
    rw [c'.names_eq_map_name, h, List.map_append, ← c.names_eq_map_name]
  have hname : t.name ∈ added.map (·.name) := List.mem_map_of_mem ht
  have hdistinct : (c.names ++ added.map (·.name)).Nodup := hnames ▸ c'.entries.nodup
  refine ⟨hnames ▸ List.mem_append_right _ hname, fun hold => ?_⟩
  exact List.disjoint_of_nodup_append hdistinct hold hname

variable {σ : Type} [ArtifactSink σ]

/-- An emission warns of nothing. -/
theorem Output.warnings_emit (out : Output σ) (a : Artifact) :
    (out.emit a).2.history.warnings = out.history.warnings := by
  unfold emit
  split
  · exact (History.warnings_append _ _).trans (List.append_nil _)
  · split
    · rfl
    · dsimp only
      split
      · rfl
      · exact (History.warnings_append _ _).trans (List.append_nil _)

/-- Entering a type into a cache warns of nothing. -/
theorem exists_history_enter {out out' : Output σ} {name : String} (ty : TypeName) (a : Artifact)
    (hemit : (out.append (Host.firstSight ty)).emit a = (.ok name, out')) :
    ∃ added, out'.history = out.history ++ added ∧ History.warnings added = [] := by
  obtain ⟨events, hevents⟩ := (out.append (Host.firstSight ty)).exists_history_emit a
  have hquiet := (out.append (Host.firstSight ty)).warnings_emit a
  rw [hevents, History.warnings_append, List.append_right_eq_self] at hquiet
  rw [hemit] at hevents
  refine ⟨Host.firstSight ty ++ events.map .logged, ?_, ?_⟩
  · rw [hevents, ← List.append_assoc]
    rfl
  · rw [History.warnings_append, hquiet]
    rfl

namespace Host

variable {host : Host}

/-! ## Container properties -/

/-- The cascaded properties of container types. -/
def containerProperties (host : Host) (t : ResolvedType) : List PropertyDescriptor :=
  t.descriptor.cascadedProperties.filter fun q => host.types.isContainer host.roots q.elementClass

/-- Neither the field nor the getter names a class. -/
def isDeadEnd (host : Host) (t : ResolvedType) (q : PropertyDescriptor) : Bool :=
  (host.containerElement t q .field).isNone && (host.containerElement t q .getter).isNone

/-- The element type that is read through the field or through the getter is cached. -/
def LeadsInto (host : Host) (cache : TypeCache) (t : ResolvedType) (q : PropertyDescriptor) :
    Prop :=
  ∃ via ty n, t.associationElement host.types q.name via = some ty ∧ ty.erasure = some n ∧
    n ∈ cache.names

/-- The warnings that a type gives rise to. -/
def lostCascades (host : Host) (t : ResolvedType) : List Event :=
  ((host.containerProperties t).filter (host.isDeadEnd t)).map fun q =>
    .noAssociation t.name q.name

variable {t : ResolvedType} {q : PropertyDescriptor} {cache : TypeCache}

/-- These are the properties that a cascade unwraps. -/
theorem containerProperties_eq :
    host.containerProperties t = t.descriptor.cascadedProperties.filter host.unwraps := rfl

theorem leadsInto_iff :
    host.LeadsInto cache t q ↔
      ∃ via n, host.containerElement t q via = some n ∧ n ∈ cache.names := by
  simp only [LeadsInto, containerElement, Option.bind_eq_some_iff]
  constructor
  · intro hex
    obtain ⟨via, ty, n, hty, herasure, hn⟩ := hex
    exact ⟨via, n, ⟨ty, hty, herasure⟩, hn⟩
  · intro hex
    obtain ⟨via, n, ⟨ty, hty, herasure⟩, hn⟩ := hex
    exact ⟨via, ty, n, hty, herasure, hn⟩

theorem isDeadEnd_iff :
    host.isDeadEnd t q = true ↔ ∀ via, host.containerElement t q via = none := by
  simp only [isDeadEnd, Bool.and_eq_true, Option.isNone_iff_eq_none]
  constructor
  · intro hboth via
    cases via with
    | field => exact hboth.1
    | getter => exact hboth.2
  · exact fun hall => ⟨hall .field, hall .getter⟩

theorem not_leadsInto_of_isDeadEnd (h : host.isDeadEnd t q = true) :
    ¬ host.LeadsInto cache t q := by
  rw [leadsInto_iff]
  intro hex
  obtain ⟨via, n, hn, _⟩ := hex
  rw [isDeadEnd_iff.1 h via] at hn
  cases hn

instance : Decidable (host.LeadsInto cache t q) :=
  decidable_of_iff
    ([Access.field, .getter].any fun via =>
      (host.containerElement t q via).any fun n => decide (n ∈ cache.names)) <| by
    rw [leadsInto_iff]
    simp only [List.any_eq_true, Option.any_eq_true, decide_eq_true_iff]
    constructor
    · intro hex
      obtain ⟨via, _, n, hn⟩ := hex
      exact ⟨via, n, hn⟩
    · intro hex
      obtain ⟨via, n, hn⟩ := hex
      exact ⟨via, by cases via <;> simp, n, hn⟩

/-! ## The warnings of a step list -/

theorem warnings_plainSteps : (recorded (host.plainSteps t q)).warnings = [] := by
  unfold plainSteps
  split
  · rfl
  · split <;> rfl

theorem warnings_accessSteps {via : Access} :
    (recorded (host.accessSteps t q via)).warnings = [] := by
  unfold accessSteps
  rw [recorded_append, History.warnings_append, List.append_eq_nil_iff]
  constructor <;> split <;> rfl

theorem warnings_containerSteps :
    (recorded (host.containerSteps t q)).warnings =
      if host.isDeadEnd t q then [.noAssociation t.name q.name] else [] := by
  unfold containerSteps
  simp only [recorded_append, History.warnings_append, warnings_accessSteps, List.nil_append]
  rw [← isDeadEnd]
  split <;> rfl

/-- A step list warns of the container properties that lead nowhere, of each of them once. -/
theorem warnings_steps (t : ResolvedType) :
    (recorded (host.steps t)).warnings = host.lostCascades t := by
  rw [steps, lostCascades, containerProperties_eq]
  induction t.descriptor.cascadedProperties with
  | nil => rfl
  | cons q rest ih =>
    rw [List.flatMap_cons, recorded_append, History.warnings_append, ih]
    cases hunwraps : host.unwraps q with
    | false =>
      rw [propertySteps, hunwraps, if_neg Bool.false_ne_true, warnings_plainSteps,
        List.filter_cons_of_neg (by simp [hunwraps])]
      rfl
    | true =>
      rw [propertySteps, hunwraps, if_pos rfl, warnings_containerSteps,
        List.filter_cons_of_pos hunwraps]
      cases hdead : host.isDeadEnd t q with
      | false => simp [hdead]
      | true => simp [hdead]

/-! ## The account of a search -/

/-- What a search has done since it started: the types that it has entered, what it has added to the
history, and the warnings that these types give rise to, each of them either logged or pending. -/
structure Accounts (host : Host) (start : Progress σ) (entered : List ResolvedType)
    (logged : History) (s : Search σ) : Prop where
  values : s.progress.cache.values = start.cache.values ++ entered
  lookUp : ∀ t ∈ entered, host.lookUp t.name = .ok t
  history : s.progress.output.history = start.output.history ++ logged
  warnings : logged.warnings ++ (recorded s.pending).warnings ~ entered.flatMap host.lostCascades

omit [ArtifactSink σ] in
/-- A search that is to visit types has nothing to account for. -/
theorem accounts_visits (p : Progress σ) (tys : List TypeName) :
    host.Accounts p [] [] ⟨p, tys.map .visit⟩ where
  values := (List.append_nil _).symm
  lookUp := List.forall_mem_nil _
  history := (List.append_nil _).symm
  warnings := by rw [recorded_visits]; exact List.Perm.nil

variable {start : Progress σ} {entered : List ResolvedType} {logged : History}
variable {s s' : Search σ}

theorem accounts_of_advances (h : host.Advances s s') (hs : host.Accounts start entered logged s) :
    ∃ entered' logged', host.Accounts start entered' logged' s' := by
  obtain ⟨hvalues, hlookUps, hhistory, hwarnings⟩ := hs
  cases h with
  | @record cache out o rest =>
    -- what was pending is logged
    refine ⟨entered, logged ++ [o], hvalues, hlookUps, ?_, ?_⟩
    · show out.history ++ [o] = _
      rw [hhistory, List.append_assoc]
    · have hhead : recorded (.record o :: rest) = [o] ++ recorded rest := rfl
      rw [hhead, History.warnings_append, ← List.append_assoc] at hwarnings
      rw [History.warnings_append]
      exact hwarnings
  | @hit cache out ty rest hcached =>
    refine ⟨entered, logged ++ [.logged (.cacheHit ty)], hvalues, hlookUps, ?_, ?_⟩
    · show out.history ++ [.logged (.cacheHit ty)] = _
      rw [hhistory, List.append_assoc]
    · rw [History.warnings_append]
      exact (List.append_nil logged.warnings).symm ▸ hwarnings
  | @enter cache out out' ty rest t name hnew hlookUp hemit =>
    obtain ⟨added, hadded, hquiet⟩ := exists_history_enter ty t.marker hemit
    have hname : t.name = ty := name_of_lookUp hlookUp
    refine ⟨entered ++ [t], logged ++ added, ?_, ?_, ?_, ?_⟩
    · show (cache.insert t).values = _
      rw [TypeCache.values_insert (hname ▸ hnew), hvalues, List.append_assoc]
    · intro t' ht'
      rcases List.mem_append.1 ht' with hold | hlast
      · exact hlookUps t' hold
      · rw [List.mem_singleton.1 hlast, hname]
        exact hlookUp
    · show out'.history = _
      rw [hadded, hhistory, List.append_assoc]
    · -- the warnings of the new type are pending, in front of what was pending before
      have hbefore : logged.warnings ++ (recorded rest).warnings ~
          entered.flatMap host.lostCascades := hwarnings
      rw [History.warnings_append, hquiet, List.append_nil, recorded_append,
        History.warnings_append, warnings_steps, List.flatMap_append, List.flatMap_singleton]
      calc
        logged.warnings ++ (host.lostCascades t ++ (recorded rest).warnings)
          ~ logged.warnings ++ ((recorded rest).warnings ++ host.lostCascades t) :=
            List.perm_append_comm.append_left _
        _ ~ (logged.warnings ++ (recorded rest).warnings) ++ host.lostCascades t :=
            List.Perm.of_eq (List.append_assoc _ _ _).symm
        _ ~ entered.flatMap host.lostCascades ++ host.lostCascades t :=
            hbefore.append_right _

theorem accounts_of_runs (h : host.Runs s s') (hs : host.Accounts start entered logged s) :
    ∃ entered' logged', host.Accounts start entered' logged' s' := by
  induction h with
  | refl => exact ⟨entered, logged, hs⟩
  | tail _ hstep ih =>
    obtain ⟨_, _, hmid⟩ := ih
    exact accounts_of_advances hstep hmid

/-- At the end of a run all warnings are logged. -/
theorem exists_logged_of_finished {tys : List TypeName} {p p' : Progress σ}
    (h : host.Runs ⟨p, tys.map .visit⟩ ⟨p', []⟩) :
    ∃ entered logged, p'.cache.values = p.cache.values ++ entered ∧
      p'.output.history = p.output.history ++ logged ∧
      (∀ t ∈ entered, host.lookUp t.name = .ok t) ∧
      logged.warnings ~ entered.flatMap host.lostCascades := by
  obtain ⟨entered, logged, hvalues, hlookUps, hhistory, hwarnings⟩ :=
    accounts_of_runs h (accounts_visits p tys)
  refine ⟨entered, logged, hvalues, hhistory, hlookUps, ?_⟩
  have hnone : (recorded []).warnings = [] := rfl
  rw [hnone, List.append_nil] at hwarnings
  exact hwarnings

/-! ## What is not warned of -/

/-- At the end of a run, a container property of a new type leads into the cache, unless it leads
nowhere. -/
theorem not_leadsInto_iff_of_finished {tys : List TypeName} {p p' : Progress σ}
    (h : host.Runs ⟨p, tys.map .visit⟩ ⟨p', []⟩) (hlookUp : host.lookUp t.name = .ok t)
    (hcached : t.name ∈ p'.cache.names) (hnew : t.name ∉ p.cache.names)
    (hq : q ∈ host.containerProperties t) :
    ¬ host.LeadsInto p'.cache t q ↔ host.isDeadEnd t q = true := by
  obtain ⟨hcascaded, hunwraps⟩ := List.mem_filter.1 hq
  -- the types that were cached before are not followed again, but the new ones are
  have hstart : Search.Followed host (· ∉ p.cache.names) (⟨p, tys.map .visit⟩ : Search σ) :=
    fun m hm hnot => absurd hm hnot
  refine ⟨fun hnot => isDeadEnd_iff.2 fun via => ?_, not_leadsInto_of_isDeadEnd⟩
  cases helement : host.containerElement t q via with
  | none => rfl
  | some n =>
    have hproperty : .visit n ∈ host.propertySteps t q :=
      visit_mem_propertySteps_iff.2 (Or.inr ⟨hunwraps, via, helement⟩)
    have hcascade : host.CascadesTo t.name n :=
      (visit_mem_steps_iff hlookUp).1 (List.mem_flatMap.2 ⟨q, hcascaded, hproperty⟩)
    have hend : n ∈ p'.cache.names :=
      cached_of_finished_cascade h hstart hcached hnew hcascade
    exact absurd (leadsInto_iff.2 ⟨via, n, helement, hend⟩) hnot

/-- Two properties of one name lead nowhere together. -/
theorem leadsInto_congr {q' : PropertyDescriptor} (h : q'.name = q.name) :
    host.LeadsInto cache t q' ↔ host.LeadsInto cache t q := by
  unfold LeadsInto
  rw [h]

/-- A successful resolution warns of the container properties of the new types whose elements are
not cached in the end, of each of them once, and of nothing else. -/
theorem resolve_warns_of_lost_cascades {ty : TypeName} {p p' : Progress σ} {e : CacheEntry}
    (h : host.resolve ty p = (.ok e, p')) :
    ∃ entered logged, p'.cache.values = p.cache.values ++ entered ∧
      p'.output.history = p.output.history ++ logged ∧
      (∀ t ∈ entered, host.lookUp t.name = .ok t ∧ ∀ q ∈ host.containerProperties t,
        .noAssociation t.name q.name ∈ logged.warnings ↔ ¬ host.LeadsInto p'.cache t q) ∧
      logged.warnings ~ entered.flatMap fun t =>
        ((host.containerProperties t).filter fun q => ¬ host.LeadsInto p'.cache t q).map fun q =>
          .noAssociation t.name q.name := by
  have hrun : host.Runs ⟨p, [ty].map .visit⟩ ⟨p', []⟩ := (resolve_ok h).1
  obtain ⟨entered, logged, hvalues, hhistory, hlookUps, hwarnings⟩ := exists_logged_of_finished hrun
  have hlost : ∀ t ∈ entered, ∀ q ∈ host.containerProperties t,
      (¬ host.LeadsInto p'.cache t q ↔ host.isDeadEnd t q = true) := by
    intro t ht q hq
    obtain ⟨hcached, hnew⟩ := TypeCache.mem_names_of_values_append hvalues ht
    exact not_leadsInto_iff_of_finished hrun (hlookUps t ht) hcached hnew hq
  have hsame : entered.flatMap host.lostCascades = entered.flatMap fun t =>
      ((host.containerProperties t).filter fun q => ¬ host.LeadsInto p'.cache t q).map fun q =>
        .noAssociation t.name q.name := by
    refine List.flatMap_congr fun t ht => congrArg (List.map _) (List.filter_congr fun q hq => ?_)
    rw [Bool.eq_iff_iff, decide_eq_true_iff, hlost t ht q hq]
  rw [hsame] at hwarnings
  refine ⟨entered, logged, hvalues, hhistory, fun t ht => ?_, hwarnings⟩
  refine ⟨hlookUps t ht, fun q hq => ?_⟩
  rw [hwarnings.mem_iff]
  simp only [List.mem_flatMap, List.mem_map, List.mem_filter, decide_eq_true_iff]
  constructor
  · intro hex
    -- the warning may come from another entry, but only from one of the same type and name
    obtain ⟨t', ht', q', hq', heq⟩ := hex
    obtain ⟨howner, hname⟩ := Event.noAssociation.inj heq
    obtain rfl : t' = t := Except.ok.inj ((hlookUps t' ht').symm.trans (howner ▸ hlookUps t ht))
    exact mt (leadsInto_congr hname).2 hq'.2
  · intro hnot
    exact ⟨t, ht, q, ⟨hq, hnot⟩, rfl⟩

end Host

/-! ## A hangar of drones -/

open Host

def hangarType : TypeName := ⟨"acme.Hangar"⟩

def droneType : TypeName := ⟨"acme.Drone"⟩

/-- Hangars have drones, and codes that are numbers. -/
def hangar : ResolvedType where
  decl := ((ClassDecl.ofClass hangarType).withField "drones" (.array (.named droneType))).withField
    "codes" (.array (.primitive "int"))
  descriptor := ((BeanDescriptor.mk hangarType [] []).withProperty
    (.intoCascade "drones" (.array (.named droneType)))).withProperty
    (.intoCascade "codes" (.array (.primitive "int")))

/-- Drones have parts, but the parts are not declared. -/
def drone : ResolvedType where
  decl := .ofClass droneType
  descriptor := (BeanDescriptor.mk droneType [] []).withProperty
    (.intoCascade "parts" (.array (.named ⟨"acme.Part"⟩)))

def hangarHost : Host where
  types := TypeUniverse.platform.insertAll [hangar.decl, drone.decl]
  engine := (DescriptorTable.ofList [hangar.descriptor, drone.descriptor]).toEngine
  roots := []

/-- The drones of a hangar are cached, and need no warning.  Its codes and the parts of the drones
are warned of. -/
theorem resolve_hangar_warns :
    ∃ (e : CacheEntry) (p : Progress MemoryArtifacts),
      hangarHost.resolve hangarType ⟨{}, ⟨{}, []⟩⟩ = (.ok e, p) ∧
        .noAssociation hangarType "drones" ∉ p.output.history.warnings ∧
        .noAssociation hangarType "codes" ∈ p.output.history.warnings ∧
        .noAssociation droneType "parts" ∈ p.output.history.warnings := by
  have hclosed : hangarHost.isClosedList [hangarType, droneType] = true := rfl
  obtain ⟨e, p, hresolve⟩ := resolve_total
    (clean_of_isClosedList hclosed hangarType List.mem_cons_self) ⟨{}, ⟨{}, []⟩⟩
  obtain ⟨entered, logged, hvalues, hhistory, hwarned, _⟩ :=
    resolve_warns_of_lost_cascades hresolve
  have hrun : hangarHost.Runs ⟨⟨{}, ⟨{}, []⟩⟩, [hangarType].map .visit⟩ ⟨p, []⟩ :=
    (resolve_ok hresolve).1
  have hdrone : droneType ∈ p.cache.names := by
    have hlookUp : hangarHost.lookUp hangarType = .ok hangar := rfl
    have hvisit : .visit droneType ∈ hangarHost.steps hangar := by decide
    have hreach := reaches_of_visit_mem_steps hlookUp hvisit
    exact (mem_names_iff_of_finished rfl hrun).2 ⟨hangarType, List.mem_cons_self, hreach⟩
  -- all cached types are new
  have hentered : ∀ t : ResolvedType, t.name ∈ p.cache.names →
      hangarHost.lookUp t.name = .ok t → t ∈ entered := by
    intro t ht hlookUp
    rw [TypeCache.names_eq_map_name, hvalues] at ht
    obtain ⟨t', ht', hname⟩ := List.mem_map.1 ht
    obtain rfl : t' = t := Except.ok.inj ((hname ▸ (hwarned t' ht').1).symm.trans hlookUp)
    exact ht'
  have hhangar : hangar ∈ entered :=
    hentered hangar (cached_of_finished hrun List.mem_cons_self) rfl
  have hdrone' : drone ∈ entered := hentered drone hdrone rfl
  have hlogged : p.output.history = logged := hhistory
  refine ⟨e, p, hresolve, ?_, ?_, ?_⟩ <;> rw [hlogged]
  · have hq : .intoCascade "drones" (.array (.named droneType)) ∈
        hangarHost.containerProperties hangar := List.mem_cons_self
    refine mt ((hwarned hangar hhangar).2 _ hq).1 (not_not_intro ?_)
    exact ⟨.field, .named droneType, droneType, rfl, rfl, hdrone⟩
  · have hq : .intoCascade "codes" (.array (.primitive "int")) ∈
        hangarHost.containerProperties hangar := List.mem_cons_of_mem _ List.mem_cons_self
    exact ((hwarned hangar hhangar).2 _ hq).2 (not_leadsInto_of_isDeadEnd rfl)
  · have hq : .intoCascade "parts" (.array (.named ⟨"acme.Part"⟩)) ∈
        hangarHost.containerProperties drone := List.mem_cons_self
    exact ((hwarned drone hdrone').2 _ hq).2 (not_leadsInto_of_isDeadEnd rfl)

end ValidatorForge
