import ValidatorForge.Proofs.Artifact.Directory
import ValidatorForge.Proofs.Dispatch.PlannedGroups
import ValidatorForge.Proofs.Dispatch.Refusals
import ValidatorForge.Proofs.Dispatch.SharedNames
import ValidatorForge.Proofs.Naming.Spelling

/-!
# The lines of an artifact

An artifact is written as two lines, its header and its tokens.  Host texts come into them as names,
as literals and in the header:

* a name becomes an identifier or is refused, and a literal escapes line breaks
  (`Ident.unbroken_spell`, `oneLine_textLiteral`), so the tokens of a marker are always on one line
  (`oneLine_markerTokens`);
* the tokens of a validator repeat the paths of the settings, whose generic arguments are copied as
  they are (`Dispatcher.oneLine_tokens_ofPlan`);
* the header repeats the package, which nothing checks (`unbroken_headerLine`).

So an artifact has two lines exactly if its package, and for a validator also the settings, are on
one line (`Artifact.isTwoLines_iff`), whatever sink a run writes to
(`committed_sources_have_two_lines`).
-/

namespace ValidatorForge

open Sample Source

/-! ## Texts of two lines -/

/-- A text that consists of two lines, each ended by a line feed and otherwise unbroken. -/
structure Text.IsTwoLines (head body source : String) : Prop where
  source_eq : source = head ++ "\n" ++ body ++ "\n"
  head : Text.Unbroken head.toList
  body : Text.Unbroken body.toList

theorem unbroken_text_iff {ts : List Token} :
    Text.Unbroken (Source.text ts).toList ↔ OneLine ts := by
  rw [Source.text, String.toList_ofList, unbroken_spell_iff]

private theorem headerLine_eq (q : String) :
    headerLine q = "// @generated by bean-dispatch for " ++ q ++ ". Do not edit." := rfl

theorem unbroken_headerLine {q : String} :
    Text.Unbroken (headerLine q).toList ↔ Text.Unbroken q.toList := by
  have hhead : Text.Unbroken "// @generated by bean-dispatch for ".toList :=
    Text.unbroken_ofList (by decide)
  have hrest : Text.Unbroken ". Do not edit.".toList := Text.unbroken_ofList (by decide)
  rw [headerLine_eq, String.toList_append, String.toList_append, Text.unbroken_append,
    Text.unbroken_append, and_iff_right hhead, and_iff_left hrest]

/-- The text of an artifact has two lines if its name and its tokens are on one line. -/
theorem isTwoLines_artifactText_iff {q : String} {body : List Token} :
    Text.IsTwoLines (headerLine q) (Source.text body) (artifactText q body) ↔
      Text.Unbroken q.toList ∧ OneLine body := by
  have htext : artifactText q body =
      headerLine q ++ "\n" ++ Source.text body ++ "\n" := by
    rw [artifactText, String.empty_append]
  constructor
  · intro h
    exact ⟨unbroken_headerLine.1 h.head, unbroken_text_iff.1 h.body⟩
  · rintro ⟨hname, hbody⟩
    exact ⟨htext, unbroken_headerLine.2 hname, unbroken_text_iff.2 hbody⟩

/-- A qualified name whose last part is an identifier is on one line if its package is. -/
theorem unbroken_qualify {package name : String} (h : Text.Unbroken name.toList) :
    Text.Unbroken (qualify package name).toList ↔ Text.Unbroken package.toList := by
  have hdot : Text.Unbroken ['.'] := by decide
  unfold qualify
  split
  · next hempty =>
    rw [String.isEmpty_iff.1 hempty]
    exact iff_of_true h Text.unbroken_nil
  · have htext : (s!"{package}.{name}").toList = package.toList ++ ['.'] ++ name.toList := by
      simp [toString]
    rw [htext, Text.unbroken_append, Text.unbroken_append, and_iff_left h, and_iff_left hdot]

/-! ## The tokens of an artifact -/

namespace Naming

/-- The path of an item repeats the root, and adds identifiers to it. -/
theorem oneLine_of_itemPath {root path : ModPath} {package name : String}
    (h : itemPath root package name = .ok path) : path.OneLine ↔ root.OneLine := by
  obtain ⟨modules, item, _, _, rfl⟩ := itemPath_eq_ok_iff.1 h
  rw [ModPath.oneLine_child, ModPath.oneLine_descend]

theorem unbroken_of_ident {name : String} {i : Ident} (h : ident name = .ok i) :
    Text.Unbroken name.toList := by
  have hname := Ident.name_of_ofName? (ident_eq_ok_iff.1 h)
  rw [← hname]
  exact Ident.unbroken_of_isWord i.valid

end Naming

/-- The settings that the tokens of a validator repeat are on one line.  The root stands in the
paths of types and groups only. -/
structure GenerationSpec.HasOneLineSettings (s : GenerationSpec) : Prop where
  visibility : OneLine s.visibility.tokens
  runtime : s.config.runtime.OneLine
  root : s.targets ++ s.groups ++ s.reflect ≠ [] → s.config.root.OneLine

namespace Dispatcher

variable {spec : GenerationSpec} {plan : DispatchPlan} {d : Dispatcher}

theorem spec_of_ofPlan (h : ofPlan spec plan = .ok d) : d.spec = spec := by
  obtain ⟨_, _, h⟩ := bind_ok h
  obtain ⟨_, _, h⟩ := bind_ok h
  obtain ⟨_, _, h⟩ := bind_ok h
  cases h
  rfl

theorem groups_of_ofPlan (h : ofPlan spec plan = .ok d) :
    List.Forall₂ (fun step g => groupOf spec.config.root step = .ok g) plan.groups d.groups := by
  obtain ⟨_, _, h⟩ := bind_ok h
  obtain ⟨groups, hgroups, h⟩ := bind_ok h
  obtain ⟨_, _, h⟩ := bind_ok h
  cases h
  exact forall₂_of_mapM hgroups

/-- All paths of hosts repeat the root. -/
theorem oneLine_of_mem_hostPaths (h : ofPlan spec plan = .ok d) :
    ∀ path ∈ d.hostPaths, path.OneLine ↔ spec.config.root.OneLine := by
  have hbranch : ∀ {t b}, branchOf spec.config.root t = .ok b →
      (b.type.OneLine ↔ spec.config.root.OneLine) ∧
        (b.marker.OneLine ↔ spec.config.root.OneLine) := by
    intro t b hb
    obtain ⟨type, htype, hb⟩ := bind_ok hb
    obtain ⟨marker, hmarker, hb⟩ := bind_ok hb
    cases hb
    exact ⟨Naming.oneLine_of_itemPath htype, Naming.oneLine_of_itemPath hmarker⟩
  have hgroup : ∀ {step g}, groupOf spec.config.root step = .ok g →
      ∀ path ∈ g.group :: g.others, path.OneLine ↔ spec.config.root.OneLine := by
    intro step g hg
    obtain ⟨group, hname, hg⟩ := bind_ok hg
    obtain ⟨others, hothers, hg⟩ := bind_ok hg
    cases hg
    refine List.forall_mem_cons.2 ⟨Naming.oneLine_of_itemPath hname, fun path hpath => ?_⟩
    obtain ⟨ty, _, hty⟩ := exists_mem_of_forall₂ (forall₂_of_mapM hothers).flip path hpath
    exact Naming.oneLine_of_itemPath hty
  intro path hpath
  simp only [hostPaths, List.mem_append, List.mem_flatMap, List.mem_map] at hpath
  rcases hpath with (⟨b, hb, hpath⟩ | ⟨g, hg, hpath⟩) | ⟨r, hr, rfl⟩
  · obtain ⟨t, _, ht⟩ := exists_mem_of_forall₂ (branches_of_ofPlan h).flip b hb
    rcases List.mem_pair.1 hpath with rfl | rfl
    · exact (hbranch ht).1
    · exact (hbranch ht).2
  · obtain ⟨step, _, hstep⟩ := exists_mem_of_forall₂ (groups_of_ofPlan h).flip g hg
    exact hgroup hstep path hpath
  · obtain ⟨r', _, hr'⟩ := exists_mem_of_forall₂ (reflected_of_ofPlan h).flip r hr
    exact (hbranch (of_reflectedOf hr').1).1

variable {σ : Type} [ArtifactSink σ] {host : Host} {p : Progress σ}

private theorem perm_eq_nil_iff {as bs : List TypeName} (h : as.Perm bs) : as = [] ↔ bs = [] := by
  rw [← List.length_eq_zero_iff, h.length_eq, List.length_eq_zero_iff]

private theorem eraseDups_eq_nil_iff {tys : List TypeName} : tys.eraseDups = [] ↔ tys = [] := by
  simp only [List.eq_nil_iff_forall_not_mem, List.mem_eraseDups]

section

variable {out : Output σ} (hplan : DispatchPlan.build spec host ⟨{}, out⟩ = (.ok plan, p))

include hplan

/-- The cache of a plan holds what the targets and the types with property access reach. -/
theorem names_eq_nil_of_unrequested (htargets : spec.targets = []) (hreflect : spec.reflect = []) :
    p.cache.names = [] := by
  obtain ⟨p₁, hrun, rfl⟩ := DispatchPlan.runs_of_build hplan
  refine List.eq_nil_iff_forall_not_mem.2 fun n hn => ?_
  obtain ⟨ty, hty, _⟩ := (Host.mem_names_iff_of_finished rfl hrun).1 hn
  rw [GenerationSpec.mem_requested, htargets, hreflect] at hty
  exact List.not_mem_nil hty

variable (h : ofPlan spec plan = .ok d)

include h

theorem branches_eq_nil_iff : d.branches = [] ↔ spec.targets = [] := by
  rw [← List.map_eq_nil_iff, branches_map_bean h,
    perm_eq_nil_iff (DispatchPlan.orderedNames_perm hplan), eraseDups_eq_nil_iff]

theorem groups_eq_nil_iff : d.groups = [] ↔ spec.groups = [] := by
  rw [← List.map_eq_nil_iff, groups_map_step h, ← List.map_eq_nil_iff,
    DispatchPlan.map_name_groups hplan, eraseDups_eq_nil_iff]

theorem reflected_eq_nil_iff : d.reflected = [] ↔ spec.reflect = [] ∧ p.cache.names = [] := by
  rw [← List.map_eq_nil_iff, reflected_map_bean h,
    perm_eq_nil_iff (DispatchPlan.reflectedNames_perm hplan)]
  split
  · next hnone => exact (and_iff_right hnone).symm
  · next hsome =>
    rw [eraseDups_eq_nil_iff]
    exact iff_of_false hsome fun hnone => hsome hnone.1

/-- A validator repeats the root in some path, unless its spec names no type and no group. -/
theorem hostPaths_eq_nil_iff :
    d.hostPaths = [] ↔ spec.targets ++ spec.groups ++ spec.reflect = [] := by
  have hpaths : d.hostPaths = [] ↔ d.branches = [] ∧ d.groups = [] ∧ d.reflected = [] := by
    cases hb : d.branches <;> cases hg : d.groups <;> simp [hostPaths, hb, hg]
  rw [hpaths, branches_eq_nil_iff hplan h, groups_eq_nil_iff hplan h, reflected_eq_nil_iff hplan h,
    List.append_eq_nil_iff, List.append_eq_nil_iff]
  constructor
  · rintro ⟨htargets, hgroups, hreflect, _⟩
    exact ⟨⟨htargets, hgroups⟩, hreflect⟩
  · rintro ⟨⟨htargets, hgroups⟩, hreflect⟩
    exact ⟨htargets, hgroups, hreflect, names_eq_nil_of_unrequested hplan htargets hreflect⟩

end

/-- The tokens of a planned validator are on one line if the settings of its spec are. -/
theorem oneLine_tokens_ofPlan {out : Output σ}
    (hplan : DispatchPlan.build spec host ⟨{}, out⟩ = (.ok plan, p))
    (h : ofPlan spec plan = .ok d) : OneLine d.tokens ↔ spec.HasOneLineSettings := by
  have hroot : (∀ path ∈ d.hostPaths, path.OneLine) ↔
      (spec.targets ++ spec.groups ++ spec.reflect ≠ [] → spec.config.root.OneLine) := by
    rw [ne_eq, ← hostPaths_eq_nil_iff hplan h]
    constructor
    · intro hall hsome
      obtain ⟨path, hpath⟩ := List.exists_mem_of_ne_nil _ hsome
      exact (oneLine_of_mem_hostPaths h path hpath).1 (hall path hpath)
    · intro hsome path hpath
      exact (oneLine_of_mem_hostPaths h path hpath).2 (hsome (List.ne_nil_of_mem hpath))
  rw [oneLine_tokens_iff, hroot, spec_of_ofPlan h]
  exact ⟨fun ⟨hvisibility, hruntime, hroot⟩ => ⟨hvisibility, hruntime, hroot⟩,
    fun hsettings => ⟨hsettings.visibility, hsettings.runtime, hsettings.root⟩⟩

end Dispatcher

/-! ## The artifacts of a run -/

/-- A source of an artifact that consists of its header and its tokens, on a line each. -/
def Artifact.IsTwoLines (a : Artifact) (source : String) : Prop :=
  ∃ body, a.body = .ok body ∧
    Text.IsTwoLines (headerLine a.qualifiedName) (Source.text body) source

/-- The source of an artifact has two lines if the package and the tokens are on one line. -/
theorem Artifact.isTwoLines_iff {a : Artifact} {source : String} (h : a.source? = some source)
    (hname : Text.Unbroken a.name.toList) :
    a.IsTwoLines source ↔
      Text.Unbroken a.package.toList ∧ ∀ body, a.body = .ok body → OneLine body := by
  unfold Artifact.source? at h
  split at h
  · next body hbody =>
    obtain rfl := Option.some.inj h
    rw [IsTwoLines, hbody]
    have hqualified : Text.Unbroken a.qualifiedName.toList ↔ Text.Unbroken a.package.toList :=
      unbroken_qualify hname
    constructor
    · rintro ⟨body', hbody', htwo⟩
      obtain rfl := Except.ok.inj hbody'
      obtain ⟨hq, hone⟩ := isTwoLines_artifactText_iff.1 htwo
      refine ⟨hqualified.1 hq, fun body' hbody' => ?_⟩
      rwa [← Except.ok.inj hbody']
    · rintro ⟨hpackage, hone⟩
      exact ⟨body, rfl, isTwoLines_artifactText_iff.2 ⟨hqualified.2 hpackage, hone body rfl⟩⟩
  · cases h

namespace GenerateCall

section

variable {σ : Type} [ArtifactSink σ]

/-- What the host gives for an artifact is on one line: the package, and for a validator the
settings.  A marker repeats no settings. -/
def GivesOneLine (c : GenerateCall) (a : Artifact) : Prop :=
  Text.Unbroken a.package.toList ∧ ((∃ t : ResolvedType, a = t.marker) ∨ c.spec.HasOneLineSettings)

/-- The source of a request has two lines if what the host gives for it is on one line. -/
theorem isTwoLines_iff_givesOneLine {c : GenerateCall} {out : Output σ} {a : Artifact}
    {source : String} (h : a ∈ c.requestsOver out) (hsource : a.source? = some source) :
    a.IsTwoLines source ↔ c.GivesOneLine a := by
  rcases marker_or_artifact_of_mem_requestsOver h with ⟨t, _, rfl⟩ | ⟨plan, p, hplan, rfl⟩
  · obtain ⟨i, hi⟩ : ∃ i, Naming.ident t.outputName = .ok i := by
      refine ResolvedType.marker_body_eq_ok_iff.1 ?_
      cases hbody : t.marker.body with
      | ok body => exact ⟨body, rfl⟩
      | error e =>
        rw [Artifact.source?, hbody] at hsource
        cases hsource
    have hbody : ∀ body, t.marker.body = .ok body → OneLine body := by
      intro body hbody
      rw [ResolvedType.body_marker, hi] at hbody
      rw [← Except.ok.inj hbody]
      exact oneLine_markerTokens i t.name
    rw [Artifact.isTwoLines_iff hsource (Naming.unbroken_of_ident hi), and_iff_left hbody]
    exact (and_iff_left (Or.inl ⟨t, rfl⟩)).symm
  · have hname : Text.Unbroken (plan.artifact c.spec).name.toList := by
      show Text.Unbroken c.spec.name.text.toList
      rw [Ident.text, String.toList_ofList]
      exact c.spec.name.unbroken_spell
    cases hd : Dispatcher.ofPlan c.spec plan with
    | error e =>
      rw [Artifact.source?, DispatchPlan.artifact, hd] at hsource
      cases hsource
    | ok d =>
      have hbody : (plan.artifact c.spec).body = .ok d.tokens := by
        rw [DispatchPlan.artifact, hd]
        rfl
      have hmarker : ¬ ∃ t : ResolvedType, plan.artifact c.spec = t.marker := by
        rintro ⟨t, ht⟩
        have hd' := DispatchPlan.source?_artifact hd
        rw [ht] at hd'
        exact t.source?_marker_ne d _ (congrArg Artifact.qualifiedName ht).symm hd'
      rw [Artifact.isTwoLines_iff hsource hname, hbody]
      simp only [Except.ok.injEq, forall_eq', Dispatcher.oneLine_tokens_ofPlan hplan hd]
      exact and_congr_right' (or_iff_right hmarker).symm

end

end GenerateCall

/-- Whatever was generated before, each artifact that a run commits has two lines exactly if what
the host gives for it is on one line.  In memory the new entries are such artifacts; in a directory
each file that was not there before is one. -/
theorem committed_sources_have_two_lines (c : GenerateCall) :
    (∀ calls, ∃ new,
      (c.run (afterCalls { sink := {} } calls)).2.sink.entries =
        (afterCalls { sink := {} } calls).sink.entries ++ new ∧
      ∀ e ∈ new, ∃ a ∈ c.requestsOver (afterCalls { sink := {} } calls),
        a.qualifiedName = e.1 ∧ a.source? = some e.2 ∧ (a.IsTwoLines e.2 ↔ c.GivesOneLine a)) ∧
    ∀ (out : Output DirArtifacts) (file : List String) (text : String),
      (generate c.spec c.types c.engine out).2.sink.tree.files.get? file = some text →
      out.sink.tree.files.get? file = some text ∨
        ∃ a ∈ c.requestsOver out,
          a.source? = some text ∧ (a.IsTwoLines text ↔ c.GivesOneLine a) := by
  constructor
  · intro calls
    obtain ⟨new, hentries, hnew⟩ := MemoryArtifacts.exists_entries_receiveAll
      (answers_afterCalls answers_start calls).sound
      (c.requestsOver (afterCalls { sink := {} } calls))
    rw [← c.sink_generate] at hentries
    refine ⟨new, hentries, fun e he => ?_⟩
    obtain ⟨a, ha, hname, hsource⟩ := hnew e he
    exact ⟨a, ha, hname, hsource, GenerateCall.isTwoLines_iff_givesOneLine ha hsource⟩
  · intro out file text h
    rw [c.sink_generate] at h
    refine (DirArtifacts.source_of_files_receiveAll h).imp_right fun hex => ?_
    obtain ⟨a, ha, hsource⟩ := hex
    exact ⟨a, ha, hsource, GenerateCall.isTwoLines_iff_givesOneLine ha hsource⟩

private theorem fleet_settings : fleetCall.spec.HasOneLineSettings where
  visibility := by decide
  runtime := ModPath.oneLine_global _
  root _ := List.forall_mem_singleton.2 oneLine_nil

/-- The validator of the fleet has two lines. -/
theorem fleet_validator_has_two_lines :
    ∃ (a : Artifact) (source : String),
      (fleetCall.run { sink := {} }).2.sink.get? "acme.FleetValidator" = some source ∧
      a.qualifiedName = "acme.FleetValidator" ∧ a.IsTwoLines source := by
  obtain ⟨plan, p, d, name, out', hplan, hd, hrun⟩ :=
    GenerateCall.exists_run_of_isClosedOver GenerateCall.isClosedOver_fleet { sink := {} }
  have hqualified : fleetCall.spec.qualifiedName = "acme.FleetValidator" := by decide
  have hvalidator := GenerateCall.get?_validator_of_planned hplan hd
    fun t _ => t.qualifiedOutputName_ne (by decide)
  rw [hqualified] at hvalidator
  obtain ⟨new, hentries, hnew⟩ := (committed_sources_have_two_lines fleetCall).1 []
  have hmem := MemoryArtifacts.mem_entries_of_get? hvalidator
  have hnone : (afterCalls { sink := {} } []).sink.entries = [] := rfl
  rw [hnone, List.nil_append] at hentries
  obtain ⟨a, ha, hname, hsource, htwo⟩ := hnew _ (hentries ▸ hmem)
  refine ⟨a, _, hvalidator, hname, htwo.2 ?_⟩
  rcases GenerateCall.marker_or_artifact_of_mem_requestsOver ha with
    ⟨t, _, rfl⟩ | ⟨plan', _, _, rfl⟩
  · have hne : t.qualifiedOutputName ≠ "acme.FleetValidator" :=
      t.qualifiedOutputName_ne (by decide)
    exact absurd hname hne
  · exact ⟨(by decide : Text.Unbroken "acme".toList), Or.inr fleet_settings⟩

/-- A run for machines whose validator has a package with a line break. -/
def strayCall : GenerateCall where
  spec := (GenerationSpec.ofTargets (.plain "MachineValidator") machineType []).withPackage
    "acme\nmod robots"
  types := fleetDeclarations
  engine := fleetTable.toEngine

/-- The run succeeds.  What it has committed as its validator has a header of two lines. -/
theorem stray_package_breaks_header :
    ∃ out' source,
      strayCall.run { sink := {} } = (.ok "acme\nmod robots.MachineValidator", out') ∧
      out'.sink.get? "acme\nmod robots.MachineValidator" = some source ∧
      (∃ rest, source = "// @generated by bean-dispatch for acme\n" ++
        "mod robots.MachineValidator. Do not edit.\n" ++ rest) ∧
      2 < source.toList.count '\n' := by
  have hclosed : strayCall.isClosedOver [machineType] = true := by decide +kernel
  obtain ⟨plan, p, d, name, out', hplan, hd, hrun⟩ :=
    GenerateCall.exists_run_of_isClosedOver hclosed { sink := {} }
  have hqualified : strayCall.spec.qualifiedName = "acme\nmod robots.MachineValidator" := by decide
  have hname : name = "acme\nmod robots.MachineValidator" :=
    (GenerateCall.of_run_ok hrun).1.trans hqualified
  have hvalidator := GenerateCall.get?_validator_of_planned hplan hd
    fun t _ => t.qualifiedOutputName_ne (by decide)
  rw [hrun, hqualified] at hvalidator
  have hheader : headerLine "acme\nmod robots.MachineValidator" ++ "\n" =
      "// @generated by bean-dispatch for acme\n" ++
        "mod robots.MachineValidator. Do not edit.\n" := by decide +kernel
  have htext : artifactText "acme\nmod robots.MachineValidator" d.tokens =
      "// @generated by bean-dispatch for acme\n" ++
        "mod robots.MachineValidator. Do not edit.\n" ++ (Source.text d.tokens ++ "\n") := by
    rw [artifactText, String.empty_append, hheader, String.append_assoc]
  refine ⟨out', _, hname ▸ hrun, hvalidator, ⟨_, htext⟩, ?_⟩
  have hlines : ("// @generated by bean-dispatch for acme\n" ++
      "mod robots.MachineValidator. Do not edit.\n").toList.count '\n' = 2 := by decide +kernel
  have hend : "\n".toList.count '\n' = 1 := by decide
  rw [htext, String.toList_append, List.count_append, hlines, String.toList_append,
    List.count_append, hend]
  omega

end ValidatorForge
