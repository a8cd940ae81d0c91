import ValidatorForge.Proofs.Artifact.Mirroring
import ValidatorForge.Proofs.Dispatch.CommittedArtifacts
import ValidatorForge.Proofs.Dispatch.Refusals
import ValidatorForge.Proofs.Dispatch.SharedNames
import ValidatorForge.Proofs.Dispatch.Simulation
import ValidatorForge.Proofs.Naming.Spelling

/-!
# Runs into a directory

Runs into a fresh directory, none of whose writes fails, commit what the same runs commit in memory
(`mirrored_afterCalls`), one file for each artifact.  The qualified name of an artifact is unique,
but its file is chosen by the pieces of the package.

* `FilesApart` says that all artifacts have files of their own below the root.  By `filesApart_iff`
  this is so, for relative packages, exactly if no two artifacts of one name have packages that
  spell the same pieces.
* `directory_runs_separate_iff` is the result for all runs.  `run_twins_share_file` is a run with
  two artifacts and one file.

In a tidy directory no write of a storable artifact fails, and a run whose artifacts are all
storable has the result that it has in memory (`runInto_of_storable`).
-/

namespace ValidatorForge

open Artifact DirArtifacts Sample

/-! ## Names of artifacts -/

theorem Source.Ident.isPlainName_text (i : Source.Ident) : IsPlainName i.text := by
  have habsent : ∀ c, Source.startsWord c = false → Source.continuesWord c = false →
      c ∉ ['r', '#'] → c ∉ i.text.toList := by
    intro c hstarts hcontinues hraw
    rw [text, String.toList_ofList, spell, List.mem_append, not_or]
    refine ⟨?_, Source.Ident.not_mem_of_isWord hstarts hcontinues i.valid⟩
    split
    · exact hraw
    · exact List.not_mem_nil
  exact ⟨habsent '.' (by decide +kernel) (by decide +kernel) (by decide),
    habsent '/' (by decide +kernel) (by decide +kernel) (by decide)⟩

theorem ResolvedType.isPlain_marker (t : ResolvedType) : t.marker.IsPlain := by
  intro body hbody
  obtain ⟨i, hi⟩ := marker_body_eq_ok_iff.1 ⟨body, hbody⟩
  have hname := Source.Ident.name_of_ofName? (Naming.ident_eq_ok_iff.1 hi)
  refine ⟨t.dot_not_mem_outputName, ?_⟩
  show '/' ∉ t.outputName.toList
  rw [← hname]
  exact Source.Ident.not_mem_of_isWord (by decide +kernel) (by decide +kernel) i.valid

/-- A plain name and its package can be read back from the qualified name. -/
theorem DirArtifacts.qualify_inj {package package' name name' : String} (hname : IsPlainName name)
    (hname' : IsPlainName name') (h : qualify package name = qualify package' name') :
    package = package' ∧ name = name' := by
  have hlast := lastField_qualify package hname.dotless
  rw [h, lastField_qualify package' hname'.dotless] at hlast
  obtain rfl := String.toList_inj.1 hlast
  exact ⟨qualify_left_inj h, rfl⟩

/-! ## Runs -/

namespace GenerateCall

/-- A run into a directory. -/
def runInto (c : GenerateCall) (out : Output DirArtifacts) :
    Except GenerateError String × Output DirArtifacts :=
  generate c.spec c.types c.engine out

end GenerateCall

/-- What runs into a directory leave behind, one after the other. -/
def afterCallsInto (out : Output DirArtifacts) (calls : List GenerateCall) : Output DirArtifacts :=
  calls.foldl (fun out c => (c.runInto out).2) out

/-- No write of the runs fails. -/
def AllWritten (out : Output DirArtifacts) : List GenerateCall → Prop
  | [] => True
  | c :: rest =>
    (∀ path, (c.runInto out).1 ≠ .error (.unwritable path)) ∧ AllWritten (c.runInto out).2 rest

namespace DirArtifacts

variable {root : Location} {start : FileTree}

/-- Artifacts are emitted into memory and into a directory alike, unless a write fails. -/
def mirroring (root : Location) (start : FileTree) : Simulation MemoryArtifacts DirArtifacts where
  related := Mirrored root start
  refused := GenerateError.IsUnwritable
  covers := Artifact.IsPlain
  append h events := ⟨congrArg (· ++ events) h.history, h.sinks⟩
  emit ha h := mirrored_emit h ha

/-- Storable artifacts are emitted into memory and into a tidy directory alike. -/
def mirroringTidy (root : Location) (start : FileTree) (hroot : Usable root) :
    Simulation MemoryArtifacts DirArtifacts where
  related out out' := Mirrored root start out out' ∧ out'.sink.tree.Tidy (OnTheWay root)
  refused _ := False
  covers a := ∀ body, a.body = .ok body → Storable a.package a.name
  append h events := ⟨⟨congrArg (· ++ events) h.1.history, h.1.sinks⟩, h.2⟩
  emit ha h := Or.inr (mirrored_emit_of_tidy h.1 hroot h.2 ha)

/-- A run goes alike in memory and in a directory, unless a write fails. -/
theorem mirrored_run {out : Output MemoryArtifacts} {out' : Output DirArtifacts}
    (h : Mirrored root start out out') (c : GenerateCall)
    (hwritten : ∀ path, (c.runInto out').1 ≠ .error (.unwritable path)) :
    (c.runInto out').1 = (c.run out).1 ∧ Mirrored root start (c.run out).2 (c.runInto out').2 := by
  have hagree := (mirroring root start).agree_generate c.spec c.types c.engine
    (fun _ t _ => t.isPlain_marker) (fun _ _ _ => c.spec.name.isPlainName_text) h
  rcases hagree with ⟨e, ⟨path, rfl⟩, herror⟩ | hsame
  · exact absurd herror (hwritten path)
  · exact hsame

/-- Runs go alike in memory and in a directory as long as no write fails. -/
theorem mirrored_afterCalls {out : Output MemoryArtifacts} {out' : Output DirArtifacts}
    (h : Mirrored root start out out') {calls : List GenerateCall}
    (hwritten : AllWritten out' calls) :
    Mirrored root start (afterCalls out calls) (afterCallsInto out' calls) := by
  induction calls generalizing out out' with
  | nil => exact h
  | cons c rest ih => exact ih (mirrored_run h c hwritten.1).2 hwritten.2

/-- In a tidy directory a run whose artifacts are storable goes as in memory. -/
theorem runInto_of_storable (hroot : Usable root) (hstart : start.Tidy (OnTheWay root))
    (c : GenerateCall)
    (hmarkers : ∀ ty t, c.host.lookUp ty = .ok t → Storable t.outputPackage t.outputName)
    (hvalidator : Storable c.spec.package c.spec.name.text) :
    (c.runInto { sink := { root, tree := start } }).1 = (c.run { sink := {} }).1 := by
  have hbegin : Mirrored root start { sink := {} } { sink := { root, tree := start } } :=
    ⟨rfl, [], mirrors_start root start⟩
  have hagree := (mirroringTidy root start hroot).agree_generate c.spec c.types c.engine
    (fun ty t ht _ _ => hmarkers ty t ht) (fun _ _ _ => hvalidator) ⟨hbegin, hstart⟩
  rcases hagree with ⟨_, hrefused, _⟩ | ⟨hsame, _⟩
  · exact hrefused.elim
  · exact hsame

/-! ## Files of their own -/

/-- All artifacts have files of their own below the root, and can be read back from them. -/
structure FilesApart (d : DirArtifacts) (ws : List ArtifactWriter) : Prop where
  below : ∀ w ∈ ws, (w.file d.root).IsBelow d.root
  apart : (ws.map (·.place d.root)).Nodup
  kept : ∀ w ∈ ws, d.tree.read? (w.file d.root) = some w.source

/-- Artifacts with relative packages have files of their own exactly if no two of one name have
packages that spell the same pieces. -/
theorem filesApart_iff {m : MemoryArtifacts} {d : DirArtifacts} {ws : List ArtifactWriter}
    (h : Mirrors root start m d ws) (hrelative : ∀ w ∈ ws, IsRelative w.package) :
    d.FilesApart ws ↔ ∀ w ∈ ws, ∀ w' ∈ ws, w.name = w'.name →
      pieces w.package = pieces w'.package → w.package = w'.package := by
  have hplace : ∀ w ∈ ws, ∀ w' ∈ ws, w.place d.root = w'.place d.root ↔
      pieces w.package = pieces w'.package ∧ w.name = w'.name :=
    fun w hw w' hw' => resolve_pathFor_eq_iff (hrelative w hw) (hrelative w' hw')
      (h.plain w hw).slashless (h.plain w' hw').slashless
  have hinjective := List.inj_on_of_nodup_map h.nodup_names
  constructor
  · intro hapart w hw w' hw' hname hpieces
    have hsame := List.inj_on_of_nodup_map hapart.apart hw hw'
      ((hplace w hw w' hw').2 ⟨hpieces, hname⟩)
    rw [hsame]
  · intro hpackages
    have hnodup : (ws.map (·.place d.root)).Nodup := by
      refine (h.nodup_names.of_map _).map_on fun w hw w' hw' heq => ?_
      obtain ⟨hpieces, hname⟩ := (hplace w hw w' hw').1 heq
      refine hinjective hw hw' ?_
      rw [ArtifactWriter.qualifiedName, ArtifactWriter.qualifiedName, hname,
        hpackages w hw w' hw' hname hpieces]
    refine ⟨fun w hw => ?_, hnodup, ?_⟩
    · exact isBelow_pathFor (hrelative w hw) (h.plain w hw).slashless
    · rw [h.root_eq] at hnodup ⊢
      exact h.read?_file hnodup

end DirArtifacts

/-- After any runs into a fresh directory, none of whose writes has failed, the directory has one
file for each artifact that the same runs commit in memory.  An artifact is kept below the root,
whatever the root, exactly if its package is relative.  If all packages are, the artifacts have
files of their own exactly if no two of one name have packages that spell the same pieces. -/
theorem directory_runs_separate_iff (root : Location) (start : FileTree)
    (calls : List GenerateCall) (h : AllWritten { sink := { root, tree := start } } calls) :
    ∃ ws : List ArtifactWriter,
      (afterCalls { sink := {} } calls).sink.entries =
        ws.map (fun w => (w.qualifiedName, w.source)) ∧
      (∀ w ∈ ws, IsPlainName w.name) ∧
      (afterCallsInto { sink := { root, tree := start } } calls).sink.written =
        ws.map (·.file root) ∧
      (∀ w ∈ ws, IsRelative w.package ↔ ∀ root', (w.file root').IsBelow root') ∧
      ((∀ w ∈ ws, IsRelative w.package) →
        ((afterCallsInto { sink := { root, tree := start } } calls).sink.FilesApart ws ↔
          ∀ w ∈ ws, ∀ w' ∈ ws, w.name = w'.name →
            pieces w.package = pieces w'.package → w.package = w'.package)) := by
  have hbegin : Mirrored root start { sink := {} } { sink := { root, tree := start } } :=
    ⟨rfl, [], mirrors_start root start⟩
  obtain ⟨ws, hws⟩ := (mirrored_afterCalls hbegin h).sinks
  refine ⟨ws, hws.entries, hws.plain, hws.written, fun w hw => ?_, filesApart_iff hws⟩
  exact isRelative_iff (hws.plain w hw).slashless

/-! ## Runs for one type -/

namespace GenerateCall

variable {c : GenerateCall} {ty : TypeName} {q : String}

/-- A run for one type that leads to no other one commits its marker, then the validator. -/
theorem names_of_isClosedOver_singleton (hclosed : c.isClosedOver [ty] = true)
    (hrequested : ty ∈ c.spec.targets ++ c.spec.reflect)
    (hmarker : ∀ t : ResolvedType, t.name = ty → t.qualifiedOutputName = q)
    (hown : q ≠ c.spec.qualifiedName) :
    (c.run { sink := {} }).1 = .ok c.spec.qualifiedName ∧
      (c.run { sink := {} }).2.sink.names = [q, c.spec.qualifiedName] := by
  obtain ⟨plan, p, d, name, out', hplan, hd, hrun⟩ :=
    exists_run_of_isClosedOver hclosed { sink := {} }
  have hlisted : ∀ ty' ∈ c.spec.targets ++ c.spec.reflect, ty' ∈ [ty] := by
    intro ty' hty'
    simp only [isClosedOver, Bool.and_eq_true, List.all_eq_true, List.contains_iff_mem] at hclosed
    exact hclosed.1.1.1.2 ty' (GenerationSpec.mem_requested.2 hty')
  have hmem : ∀ n, n ∈ p.cache.names ↔ n ∈ [ty] := by
    intro n
    rw [mem_names_iff_reaches hplan]
    constructor
    · rintro ⟨ty', hty', hreach⟩
      refine Host.mem_of_reaches_of_isClosedList ?_ (hlisted ty' hty') hreach
      simp only [isClosedOver, Bool.and_eq_true] at hclosed
      exact hclosed.1.1.1.1
    · intro hn
      rw [List.mem_singleton.1 hn]
      exact ⟨ty, hrequested, Relation.ReflTransGen.refl⟩
  have hnames : p.cache.names = [ty] :=
    List.perm_singleton.1
      ((List.perm_ext_iff_of_nodup p.cache.entries.nodup (List.nodup_singleton ty)).2 hmem)
  rw [TypeCache.names_eq_map_name] at hnames
  have hmarkers : p.cache.values.map (·.qualifiedOutputName) = [q] := by
    obtain ⟨t, hvalues, hname⟩ := List.map_eq_singleton_iff.1 hnames
    rw [hvalues, List.map_singleton, hmarker t hname]
  have hrequests : (c.requests { sink := {} }).map (·.qualifiedName) =
      [q, c.spec.qualifiedName] := by
    rw [names_requests hplan, hmarkers]
    rfl
  have hcommits := commits_of_planned hplan hd (by
    rw [hrequests]
    exact List.nodup_cons.2 ⟨by simpa using hown, List.nodup_singleton _⟩)
  refine ⟨?_, ?_⟩
  · rw [hrun, (of_run_ok hrun).1]
  · rw [hcommits.names, hmarkers]
    rfl

end GenerateCall

/-- A directory that is given by a relative path. -/
def outRoot : Location := ⟨"out"⟩

private theorem machine_storable (name : Source.Ident) (package : String) :
    ∀ ty t, (machineCall name package).host.lookUp ty = .ok t →
      Storable t.outputPackage t.outputName := by
  have hlisted : ∀ ty ∈ fleetTable.descriptors.keys,
      Storable ty.package s!"_{Naming.flatName ty}Validator" := by decide +kernel
  intro ty t ht
  have hdescribed : fleetTable.describe ty = .ok t.descriptor := (Host.lookUp_eq_ok_iff.1 ht).1
  have hknown : ty ∈ fleetTable.descriptors.keys := by
    unfold DescriptorTable.describe at hdescribed
    split at hdescribed
    · next hget => exact OrderedMap.mem_keys_of_get? hget
    · cases hdescribed
  have hstorable := hlisted ty hknown
  rwa [← Host.name_of_lookUp ht] at hstorable

private theorem usable_outRoot : Usable outRoot := ⟨by decide +kernel, by decide +kernel⟩

/-- A run for machines into a directory, where it writes two files. -/
private theorem machine_run {name : Source.Ident} {package q : String}
    (hclosed : (machineCall name package).isClosedOver [machineType] = true)
    (hqualified : qualify package name.text = q) (hown : "acme._MachineValidator" ≠ q)
    (hstorable : Storable package name.text) :
    ((machineCall name package).runInto { sink := { root := outRoot } }).1 = .ok q ∧
      AllWritten { sink := { root := outRoot } } [machineCall name package] ∧
      ((machineCall name package).run { sink := {} }).2.sink.names =
        ["acme._MachineValidator", q] := by
  have hspec : (machineCall name package).spec.qualifiedName = q := hqualified
  have hmarker : ∀ t : ResolvedType, t.name = machineType →
      t.qualifiedOutputName = "acme._MachineValidator" := by
    intro t ht
    rw [ResolvedType.qualifiedOutputName, ResolvedType.outputPackage, ResolvedType.outputName, ht]
    decide +kernel
  obtain ⟨hrun, hnames⟩ := GenerateCall.names_of_isClosedOver_singleton hclosed
    List.mem_cons_self hmarker (hspec ▸ hown)
  rw [hspec] at hrun hnames
  have hstart : FileTree.Tidy (OnTheWay outRoot) {} :=
    ⟨List.forall_mem_nil _, List.forall_mem_nil _⟩
  have hinto := runInto_of_storable usable_outRoot hstart (machineCall name package)
    (machine_storable name package) hstorable
  rw [hrun] at hinto
  refine ⟨hinto, ⟨fun path herror => ?_, trivial⟩, hnames⟩
  rw [hinto] at herror
  cases herror

/-- Two artifacts are known by their qualified names. -/
private theorem writers_of_names {ws : List ArtifactWriter} {package package' name name' : String}
    (hplain : ∀ w ∈ ws, IsPlainName w.name) (hname : IsPlainName name) (hname' : IsPlainName name')
    (h : ws.map (·.qualifiedName) = [qualify package name, qualify package' name']) :
    ∃ w w', ws = [w, w'] ∧ (w.package = package ∧ w.name = name) ∧
      w'.package = package' ∧ w'.name = name' := by
  obtain ⟨w, rest, rfl, hw, hrest⟩ := List.map_eq_cons_iff.1 h
  obtain ⟨w', rfl, hw'⟩ := List.map_eq_singleton_iff.1 hrest
  obtain ⟨hplain, hplain'⟩ := List.forall_mem_cons.1 hplain
  have hplain' := hplain' w' List.mem_cons_self
  exact ⟨w, w', rfl, qualify_inj hplain hname hw, qualify_inj hplain' hname' hw'⟩

private theorem names_of_entries {m : MemoryArtifacts} {ws : List ArtifactWriter}
    (h : m.entries = ws.map fun w => (w.qualifiedName, w.source)) :
    m.names = ws.map (·.qualifiedName) := by
  rw [MemoryArtifacts.names_eq_map_entries, h, List.map_map]
  rfl

/-- The marker of machines and their validator have files of their own. -/
theorem machine_files_apart :
    ∃ ws, (afterCallsInto { sink := { root := outRoot } }
          [machineCall (.plain "MachineValidator") "acme"]).sink.FilesApart ws ∧
      (afterCallsInto { sink := { root := outRoot } }
          [machineCall (.plain "MachineValidator") "acme"]).sink.written =
        [⟨"out/acme/_MachineValidator.rs"⟩, ⟨"out/acme/MachineValidator.rs"⟩] ∧
      ws.length = 2 := by
  obtain ⟨_, hwritten, hnames⟩ := machine_run (q := "acme.MachineValidator")
    GenerateCall.isClosedOver_machine (by decide +kernel) (by decide) (by decide +kernel)
  obtain ⟨ws, hentries, hplain, hfiles, _, hapart⟩ :=
    directory_runs_separate_iff outRoot {} [machineCall (.plain "MachineValidator") "acme"] hwritten
  have hmarker : IsPlainName "_MachineValidator" := ⟨by decide, by decide⟩
  have hvalidator : IsPlainName "MachineValidator" := ⟨by decide, by decide⟩
  have hqualified : ws.map (·.qualifiedName) =
      [qualify "acme" "_MachineValidator", qualify "acme" "MachineValidator"] :=
    (names_of_entries hentries).symm.trans (hnames.trans (by decide +kernel))
  obtain ⟨w, w', rfl, ⟨hpackage, hname⟩, hpackage', hname'⟩ :=
    writers_of_names hplain hmarker hvalidator hqualified
  have hrelative : ∀ v ∈ [w, w'], IsRelative v.package := by
    simp only [List.forall_mem_cons, hpackage, hpackage']
    decide
  have hsame : ∀ v ∈ [w, w'], ∀ v' ∈ [w, w'], v.name = v'.name →
      pieces v.package = pieces v'.package → v.package = v'.package := by
    simp [hpackage, hpackage']
  refine ⟨_, (hapart hrelative).2 hsame, hfiles.trans ?_, rfl⟩
  simp only [List.map_cons, List.map_nil, ArtifactWriter.file, hpackage, hpackage', hname, hname']
  decide +kernel

/-- A run for machines whose validator has the name of their marker, in a package with an empty
segment.  The two have different qualified names and one file, and the marker is lost. -/
theorem run_twins_share_file :
    ∃ out' : Output DirArtifacts,
      (machineCall (.plain "_MachineValidator") "acme.").runInto { sink := { root := outRoot } } =
        (.ok "acme.._MachineValidator", out') ∧
      ((machineCall (.plain "_MachineValidator") "acme.").run { sink := {} }).2.sink.names =
        ["acme._MachineValidator", "acme.._MachineValidator"] ∧
      out'.sink.written =
        [⟨"out/acme/_MachineValidator.rs"⟩, ⟨"out/acme/_MachineValidator.rs"⟩] ∧
      out'.sink.tree.files.keys = [["out", "acme", "_MachineValidator.rs"]] := by
  obtain ⟨hresult, hwritten, hnames⟩ := machine_run (q := "acme.._MachineValidator")
    (by decide +kernel : (machineCall (.plain "_MachineValidator") "acme.").isClosedOver _ = true)
    (by decide +kernel) (by decide) (by decide +kernel)
  have hbegin : Mirrored outRoot {} { sink := {} } { sink := { root := outRoot } } :=
    ⟨rfl, [], mirrors_start outRoot {}⟩
  obtain ⟨ws, hws⟩ := (mirrored_afterCalls hbegin hwritten).sinks
  have hmarker : IsPlainName "_MachineValidator" := ⟨by decide, by decide⟩
  have hqualified : ws.map (·.qualifiedName) =
      [qualify "acme" "_MachineValidator", qualify "acme." "_MachineValidator"] :=
    (names_of_entries hws.entries).symm.trans (hnames.trans (by decide +kernel))
  obtain ⟨w, w', rfl, ⟨hpackage, hname⟩, hpackage', hname'⟩ :=
    writers_of_names hws.plain hmarker hmarker hqualified
  refine ⟨_, Prod.ext hresult rfl, hnames, hws.written.trans ?_, ?_⟩
  · simp only [List.map_cons, List.map_nil, ArtifactWriter.file, hpackage, hpackage', hname, hname']
    decide +kernel
  · have hplaces : w.place outRoot = ["out", "acme", "_MachineValidator.rs"] ∧
        w'.place outRoot = ["out", "acme", "_MachineValidator.rs"] := by
      simp only [ArtifactWriter.place, ArtifactWriter.file, hpackage, hpackage', hname, hname']
      decide +kernel
    have hfiles := hws.files
    simp only [filesAfter, List.foldl_cons, List.foldl_nil, hplaces.1, hplaces.2] at hfiles
    have hkeys := congrArg OrderedMap.keys hfiles
    rw [OrderedMap.keys_insert, OrderedMap.keys_insert] at hkeys
    exact hkeys

end ValidatorForge
