import ValidatorForge.Proofs.Artifact.Commits
import ValidatorForge.Proofs.Artifact.Locations

/-!
# What a directory holds

Artifacts are emitted into a directory one after the other.  It treats names as a memory sink does;
besides, a write may fail, and then the error says so (`emit_refused`).

* `emit_taken`, `emit_bodiless`, `emit_written` and `emit_refused` are the cases of an emission.
* `source_of_files_receiveAll`: whatever fails, a file that is new holds the source of an artifact
  that was received.
* A write fails only if the path runs through a file, ends at a directory or has a bad entry name.
  In a `Tidy` tree no `Storable` artifact meets any of these (`store_of_tidy`).
-/

namespace ValidatorForge

open Artifact

/-! ## The tree -/

namespace Artifact.FileTree

/-- Making directories leaves the files alone. -/
theorem files_makeBelow (above parts : List String) (t : FileTree) :
    (makeBelow above parts t).2.files = t.files := by
  fun_induction makeBelow above parts t <;> simp_all

/-- A write puts the text in its place, or changes nothing. -/
theorem write_cases (t : FileTree) (l : Location) (text : String) :
    t.write l text = (true, { t with files := t.files.insert (resolve l.parts) text }) ∨
      t.write l text = (false, t) := by
  unfold write
  dsimp only
  split
  · exact Or.inr rfl
  · exact Or.inl rfl

/-! ### Trees that refuse nothing -/

/-- A tree in which the paths of directories satisfy `way`, and those of files do not. -/
structure Tidy (way : List String → Prop) (t : FileTree) : Prop where
  directories : ∀ path ∈ t.directories, way path
  files : ∀ path ∈ t.files.keys, ¬ way path

variable {way : List String → Prop} {t : FileTree}

/-- Directories are made in a tidy tree if they are on the way. -/
theorem makeBelow_of_tidy {above parts : List String} (h : t.Tidy way)
    (hparts : ∀ part ∈ parts, part ≠ ".." ∧ isEntryName part = true)
    (hway : ∀ begun ≠ [], begun <+: parts → way (above ++ begun)) :
    ∃ t', makeBelow above parts t = (true, t') ∧ t'.Tidy way := by
  induction parts generalizing above t with
  | nil => exact ⟨t, rfl, h⟩
  | cons part rest ih =>
    obtain ⟨⟨hup, hentry⟩, hrest⟩ := List.forall_mem_cons.1 hparts
    have hhere : way (above ++ [part]) :=
      hway [part] (List.cons_ne_nil _ _) (List.prefix_append [part] rest)
    have hbelow : ∀ begun ≠ [], begun <+: rest → way (above ++ [part] ++ begun) := by
      intro begun _ hbegun
      rw [List.append_assoc]
      exact hway _ (List.cons_ne_nil _ _) (List.cons_prefix_cons.2 ⟨rfl, hbegun⟩)
    have hfree : ¬ (t.files.contains (above ++ [part]) || !isEntryName part) = true := by
      rw [hentry, Bool.not_true, Bool.or_false, OrderedMap.contains_iff]
      exact fun hfile => h.files _ hfile hhere
    have hgoes : makeBelow above (part :: rest) t =
        if above ++ [part] ∈ t.directories then makeBelow (above ++ [part]) rest t
        else makeBelow (above ++ [part]) rest
          { t with directories := t.directories ++ [above ++ [part]] } := by
      rw [makeBelow, if_neg hfree]
      exact hup
    rw [hgoes]
    split
    · exact ih h hrest hbelow
    · refine ih ⟨?_, h.files⟩ hrest hbelow
      exact List.forall_mem_append.2 ⟨h.directories, List.forall_mem_singleton.2 hhere⟩

/-- A file is written in a tidy tree if it is not on the way. -/
theorem write_of_tidy {l : Location} {text : String} (h : t.Tidy way)
    (hparts : ∀ part ∈ l.parts, isEntryName part = true) (hfile : ¬ way (resolve l.parts)) :
    ∃ t', t.write l text = (true, t') ∧ t'.Tidy way := by
  have hfree : ¬ (resolve l.parts ∈ t.directories || !(l.parts.all isEntryName)) = true := by
    rw [List.all_eq_true.2 hparts, Bool.not_true, Bool.or_false, decide_eq_true_eq]
    exact fun hdir => hfile (h.directories _ hdir)
  refine ⟨_, if_neg hfree, h.directories, fun path hpath => ?_⟩
  rw [OrderedMap.keys_insert] at hpath
  split at hpath
  · exact h.files path hpath
  · rcases List.mem_append.1 hpath with hpath | hpath
    · exact h.files path hpath
    · rwa [List.mem_singleton.1 hpath]

end Artifact.FileTree

/-- The finished writer of an artifact. -/
def Artifact.writer (a : Artifact) (body : List Source.Token) : ArtifactWriter where
  package := a.package
  name := a.name
  source := artifactText a.qualifiedName body

theorem Artifact.writeTokens_writeLine (a : Artifact) (body : List Source.Token) :
    (({ package := a.package, name := a.name } : ArtifactWriter).writeLine
      (headerLine a.qualifiedName)).writeTokens body = a.writer body := by
  simp only [ArtifactWriter.writeTokens, ArtifactWriter.writeLine, writer, artifactText]

theorem Artifact.source?_of_body {a : Artifact} {body : List Source.Token} (h : a.body = .ok body) :
    a.source? = some (a.writer body).source := by
  simp only [source?, h, writer]

/-- The file of a writer below a root. -/
def ArtifactWriter.file (w : ArtifactWriter) (root : Location) : Location :=
  DirArtifacts.pathFor root w.package w.name

/-! ## One emission -/

namespace DirArtifacts

/-- The directory with one more name taken. -/
def take (d : DirArtifacts) (q : String) : DirArtifacts :=
  { d with claims := ⟨d.claims.names ++ [q]⟩ }

/-- Storing writes the file, and lists it, or leaves all files as they are. -/
theorem store_outcome (d : DirArtifacts) (w : ArtifactWriter) :
    (∃ tree, d.store w = (.ok (), { d with tree, written := d.written ++ [w.file d.root] }) ∧
      tree.files = d.tree.files.insert (FileTree.resolve (w.file d.root).parts) w.source) ∨
    ∃ path tree, d.store w = (.error (.unwritable path), { d with tree }) ∧
      tree.files = d.tree.files := by
  unfold store
  rw [← ArtifactWriter.file]
  cases hdirs : d.tree.makeDirectories (w.file d.root).parent with
  | mk made tree =>
    have htree : tree.files = d.tree.files := by
      have hmade := FileTree.files_makeBelow [] (w.file d.root).parent.parts d.tree
      rw [← FileTree.makeDirectories, hdirs] at hmade
      exact hmade
    cases made with
    | false =>
      simp only [hdirs]
      exact Or.inr ⟨_, tree, rfl, htree⟩
    | true =>
      rcases tree.write_cases (w.file d.root) w.source with hwrite | hwrite
      · simp only [hdirs, hwrite]
        exact Or.inl ⟨_, rfl, by rw [htree]⟩
      · simp only [hdirs, hwrite]
        exact Or.inr ⟨_, tree, rfl, htree⟩

end DirArtifacts

namespace Output

variable (out : Output DirArtifacts) {a : Artifact}

/-- An artifact whose name is taken is passed over. -/
theorem emit_taken (h : a.qualifiedName ∈ out.sink.claims.names) :
    out.emit a = (.ok a.qualifiedName, out.log (.alreadyClaimed a.qualifiedName)) := by
  have hadd : out.sink.claims.add? (qualify a.package a.name) = none := if_pos h
  simp [emit, ArtifactSink.claim, Claims.open?, hadd]

/-- An artifact without a body takes its name all the same. -/
theorem emit_bodiless (h : a.qualifiedName ∉ out.sink.claims.names) {e : GenerateError}
    (hbody : a.body = .error e) :
    out.emit a = (.error e, { out with sink := out.sink.take a.qualifiedName }) := by
  have hadd : out.sink.claims.add? (qualify a.package a.name) =
      some ⟨out.sink.claims.names ++ [a.qualifiedName]⟩ := if_neg h
  simp [emit, ArtifactSink.claim, Claims.open?, hadd, hbody, DirArtifacts.take]

variable {body : List Source.Token} {sink : DirArtifacts}

/-- An artifact with a body takes its name and is stored. -/
theorem emit_written (h : a.qualifiedName ∉ out.sink.claims.names) (hbody : a.body = .ok body)
    (hstore : (out.sink.take a.qualifiedName).store (a.writer body) = (.ok (), sink)) :
    out.emit a =
      (.ok a.qualifiedName, { out with sink }.log (.artifactGenerated a.qualifiedName)) := by
  have hadd : out.sink.claims.add? (qualify a.package a.name) =
      some ⟨out.sink.claims.names ++ [a.qualifiedName]⟩ := if_neg h
  rw [DirArtifacts.take] at hstore
  simp only [emit, ArtifactSink.claim, Claims.open?, hadd, hbody, Option.map_some,
    Artifact.writeTokens_writeLine, ArtifactSink.commit, hstore]

/-- An artifact that cannot be stored keeps its name taken. -/
theorem emit_refused (h : a.qualifiedName ∉ out.sink.claims.names) (hbody : a.body = .ok body)
    {e : GenerateError}
    (hstore : (out.sink.take a.qualifiedName).store (a.writer body) = (.error e, sink)) :
    out.emit a = (.error e, { out with sink }) := by
  have hadd : out.sink.claims.add? (qualify a.package a.name) =
      some ⟨out.sink.claims.names ++ [a.qualifiedName]⟩ := if_neg h
  rw [DirArtifacts.take] at hstore
  simp only [emit, ArtifactSink.claim, Claims.open?, hadd, hbody, Option.map_some,
    Artifact.writeTokens_writeLine, ArtifactSink.commit, hstore]

end Output

namespace DirArtifacts

/-- A file that is there after an artifact was received was there before, or holds its source. -/
theorem source_of_files_receive {a : Artifact} {d : DirArtifacts} {file : List String}
    {text : String} (h : (receive d a).tree.files.get? file = some text) :
    d.tree.files.get? file = some text ∨ a.source? = some text := by
  unfold receive at h
  by_cases htaken : a.qualifiedName ∈ d.claims.names
  · rw [Output.emit_taken _ htaken] at h
    exact Or.inl h
  · cases hbody : a.body with
    | error e =>
      rw [Output.emit_bodiless _ htaken hbody] at h
      exact Or.inl h
    | ok body =>
      rcases (d.take a.qualifiedName).store_outcome (a.writer body) with
        ⟨tree, hstore, hfiles⟩ | ⟨path, tree, hstore, hfiles⟩
      · rw [Output.emit_written ⟨d, []⟩ htaken hbody hstore] at h
        simp only [Output.log, hfiles, OrderedMap.get?_insert] at h
        split at h
        · exact Or.inr ((Artifact.source?_of_body hbody).trans h)
        · exact Or.inl h
      · rw [Output.emit_refused ⟨d, []⟩ htaken hbody hstore] at h
        simp only [hfiles] at h
        exact Or.inl h

/-- A file that is there after artifacts were received was there before, or holds the source of one
of them. -/
theorem source_of_files_receiveAll {as : List Artifact} {d : DirArtifacts} {file : List String}
    {text : String} (h : (receiveAll d as).tree.files.get? file = some text) :
    d.tree.files.get? file = some text ∨ ∃ a ∈ as, a.source? = some text := by
  induction as generalizing d with
  | nil => exact Or.inl h
  | cons a rest ih =>
    rcases ih h with hfirst | ⟨b, hb, hsource⟩
    · rcases source_of_files_receive hfirst with hbefore | hsource
      · exact Or.inl hbefore
      · exact Or.inr ⟨a, List.mem_cons_self, hsource⟩
    · exact Or.inr ⟨b, List.mem_cons_of_mem _ hb, hsource⟩

/-! ## Writes that succeed -/

/-- The paths on the way to files below a root: they have no dot after the parts of the root. -/
def OnTheWay (root : Location) (path : List String) : Prop :=
  ∀ part ∈ path.drop root.parts.length, '.' ∉ part.toList

/-- A root that can be made, on an otherwise free path. -/
structure Usable (root : Location) : Prop where
  plain : ".." ∉ root.parts
  entries : ∀ part ∈ root.parts, FileTree.isEntryName part = true

/-- A name that is the last part of its qualified name, and one part of a path. -/
structure IsPlainName (name : String) : Prop where
  dotless : '.' ∉ name.toList
  slashless : '/' ∉ name.toList

/-- An artifact that has a file below any usable root. -/
structure Storable (package name : String) : Prop extends IsPlainName name where
  relative : IsRelative package
  entries : ∀ part ∈ pieces package ++ [fileName name], FileTree.isEntryName part = true

instance (package name : String) : Decidable (Storable package name) :=
  decidable_of_iff (('.' ∉ name.toList ∧ '/' ∉ name.toList) ∧ IsRelative package ∧
      ∀ part ∈ pieces package ++ [fileName name], FileTree.isEntryName part = true)
    ⟨fun h => ⟨⟨h.1.1, h.1.2⟩, h.2.1, h.2.2⟩,
      fun h => ⟨⟨h.dotless, h.slashless⟩, h.relative, h.entries⟩⟩

section

variable {root : Location} {w : ArtifactWriter} {t : FileTree}

theorem parts_file (hw : Storable w.package w.name) :
    (w.file root).parts = root.parts ++ (pieces w.package ++ [fileName w.name]) :=
  parts_pathFor hw.relative hw.slashless

theorem parts_parent_file (hw : Storable w.package w.name) :
    (w.file root).parent.parts = root.parts ++ pieces w.package := by
  rw [Location.parts_parent, parts_file hw, ← List.append_assoc, List.dropLast_concat]

/-- All parts of the file are names of entries. -/
theorem isEntryName_of_mem_file (hroot : Usable root) (hw : Storable w.package w.name) :
    ∀ part ∈ (w.file root).parts, part ≠ ".." ∧ FileTree.isEntryName part = true := by
  rw [parts_file hw]
  refine List.forall_mem_append.2 ⟨fun part hpart => ?_, fun part hpart => ?_⟩
  · exact ⟨fun heq => hroot.plain (heq ▸ hpart), hroot.entries part hpart⟩
  · exact ⟨fun heq => up_not_mem_below (heq ▸ hpart), hw.entries part hpart⟩

/-- What is begun of the way to a file lies on the way to the root, or has pieces of the package
behind it. -/
theorem onTheWay_of_prefix {begun : List String}
    (h : begun <+: root.parts ++ pieces w.package) : OnTheWay root begun := by
  intro part hpart
  obtain ⟨more, hmore⟩ := h
  have hdrop : part ∈ (begun ++ more).drop root.parts.length := by
    rw [List.drop_append]
    exact List.mem_append_left _ hpart
  rw [hmore, List.drop_left] at hdrop
  exact dot_not_mem_of_mem_pieces hdrop

/-- A file is not on the way, as its name has a dot. -/
theorem not_onTheWay_file (hroot : Usable root) (hw : Storable w.package w.name) :
    ¬ OnTheWay root (FileTree.resolve (w.file root).parts) := by
  have hplain : ".." ∉ (w.file root).parts :=
    fun hup => (isEntryName_of_mem_file hroot hw _ hup).1 rfl
  rw [FileTree.resolve_of_plain hplain, parts_file hw, OnTheWay, List.drop_left]
  intro hway
  refine hway (fileName w.name) (List.mem_append_right _ (List.mem_singleton.2 rfl)) ?_
  rw [fileName, String.toList_append]
  exact List.mem_append_right _ (by decide)

theorem makeDirectories_of_storable (hroot : Usable root) (hw : Storable w.package w.name)
    (ht : t.Tidy (OnTheWay root)) :
    ∃ t', t.makeDirectories (w.file root).parent = (true, t') ∧ t'.Tidy (OnTheWay root) := by
  rw [FileTree.makeDirectories, parts_parent_file hw]
  refine FileTree.makeBelow_of_tidy ht (fun part hpart => ?_) fun begun _ hbegun => ?_
  · refine isEntryName_of_mem_file hroot hw part ?_
    rw [parts_file hw, ← List.append_assoc]
    exact List.mem_append_left _ hpart
  · rw [List.nil_append]
    exact onTheWay_of_prefix hbegun

end

/-- Below a usable root a tidy directory stores what is storable, and stays tidy. -/
theorem store_of_tidy {d : DirArtifacts} {w : ArtifactWriter} (hroot : Usable d.root)
    (htidy : d.tree.Tidy (OnTheWay d.root)) (hw : Storable w.package w.name) :
    ∃ d', d.store w = (.ok (), d') ∧ d'.tree.Tidy (OnTheWay d.root) := by
  obtain ⟨tree, hmade, htree⟩ := makeDirectories_of_storable hroot hw htidy
  obtain ⟨tree', hwritten, htree'⟩ : ∃ tree',
      tree.write (w.file d.root) w.source = (true, tree') ∧ tree'.Tidy (OnTheWay d.root) :=
    FileTree.write_of_tidy htree
      (fun part hpart => (isEntryName_of_mem_file hroot hw part hpart).2)
      (not_onTheWay_file hroot hw)
  refine ⟨{ d with tree := tree', written := d.written ++ [w.file d.root] }, ?_, htree'⟩
  unfold store
  rw [← ArtifactWriter.file]
  simp only [hmade, hwritten]

end DirArtifacts

end ValidatorForge
