import ValidatorForge.Proofs.Artifact.Directory

/-!
# A directory beside a memory sink

Artifacts are emitted into a directory and into a memory sink alike, as long as no write fails:
`Mirrors` says that the directory has one file for each artifact that the memory sink has committed,
written in the same order.  `mirrored_emit` is the step, and `mirrored_emit_of_tidy` the step in a
tidy directory, where no write of a storable artifact fails.

The files were written one after the other, each to its place.  If the places differ, all of them
hold what was written (`Mirrors.read?_file`).
-/

namespace ValidatorForge

open Artifact

/-- The place of the file of a writer, after going up for each `..`. -/
def ArtifactWriter.place (w : ArtifactWriter) (root : Location) : List String :=
  FileTree.resolve (w.file root).parts

/-- The files after writers have been stored one after the other. -/
def filesAfter (root : Location) (files : OrderedMap (List String) String)
    (ws : List ArtifactWriter) : OrderedMap (List String) String :=
  ws.foldl (fun files w => files.insert (w.place root) w.source) files

theorem get?_filesAfter_of_not_mem {root : Location} {files : OrderedMap (List String) String}
    {ws : List ArtifactWriter} {place : List String} (h : place ∉ ws.map (·.place root)) :
    (filesAfter root files ws).get? place = files.get? place := by
  induction ws generalizing files with
  | nil => rfl
  | cons w rest ih =>
    obtain ⟨hfirst, hrest⟩ := not_or.1 (mt List.mem_cons.2 h)
    rw [filesAfter, List.foldl_cons, ← filesAfter, ih hrest, OrderedMap.get?_insert, if_neg hfirst]

/-- What was written to a place stays there if nothing else is written to it. -/
theorem get?_filesAfter {root : Location} {files : OrderedMap (List String) String}
    {ws : List ArtifactWriter} (h : (ws.map (·.place root)).Nodup) {w : ArtifactWriter}
    (hw : w ∈ ws) : (filesAfter root files ws).get? (w.place root) = some w.source := by
  induction ws generalizing files with
  | nil => exact absurd hw List.not_mem_nil
  | cons v rest ih =>
    obtain ⟨hfirst, hrest⟩ := List.nodup_cons.1 h
    rw [filesAfter, List.foldl_cons, ← filesAfter]
    rcases List.mem_cons.1 hw with rfl | hw
    · rw [get?_filesAfter_of_not_mem hfirst, OrderedMap.get?_insert, if_pos rfl]
    · exact ih hrest hw

namespace DirArtifacts

/-- A directory below `root`, with the files `start` from before, beside a memory sink: the same
names are taken, and what the memory sink has committed are the files written.  The finished writers
are `ws`, in commit order. -/
structure Mirrors (root : Location) (start : FileTree) (m : MemoryArtifacts) (d : DirArtifacts)
    (ws : List ArtifactWriter) : Prop where
  root_eq : d.root = root
  claims : d.claims = m.claims
  sound : m.Sound
  entries : m.entries = ws.map fun w => (w.qualifiedName, w.source)
  written : d.written = ws.map (·.file root)
  files : d.tree.files = filesAfter root start.files ws
  plain : ∀ w ∈ ws, IsPlainName w.name

/-- A fresh directory beside an empty memory sink. -/
theorem mirrors_start (root : Location) (start : FileTree) :
    Mirrors root start {} { root, tree := start } [] where
  root_eq := rfl
  claims := rfl
  sound := fun _ h => absurd h List.not_mem_nil
  entries := rfl
  written := rfl
  files := rfl
  plain := List.forall_mem_nil _

namespace Mirrors

variable {root : Location} {start : FileTree} {m : MemoryArtifacts} {d : DirArtifacts}
  {ws : List ArtifactWriter}

/-- The committed artifacts have different qualified names. -/
theorem nodup_names (h : Mirrors root start m d ws) : (ws.map (·.qualifiedName)).Nodup := by
  have hnames : m.entries.map Prod.fst = ws.map (·.qualifiedName) := by
    rw [h.entries, List.map_map]
    rfl
  rw [← hnames]
  exact m.committed.nodup

/-- If the files are in different places, each artifact is read back from its file. -/
theorem read?_file (h : Mirrors root start m d ws) (hplaces : (ws.map (·.place root)).Nodup) :
    ∀ w ∈ ws, d.tree.read? (w.file root) = some w.source := by
  intro w hw
  rw [FileTree.read?, h.files]
  exact get?_filesAfter hplaces hw

/-- Both sinks take a name. -/
theorem take (h : Mirrors root start m d ws) (q : String) :
    Mirrors root start (m.take q) (d.take q) ws where
  root_eq := h.root_eq
  claims := by rw [DirArtifacts.take, MemoryArtifacts.take, h.claims]
  sound q' hq' := List.mem_append_left _ (h.sound q' hq')
  entries := h.entries
  written := h.written
  files := h.files
  plain := h.plain

/-- Both sinks store what was claimed last. -/
theorem store (h : Mirrors root start m d ws) {w : ArtifactWriter} {tree : FileTree}
    (htaken : w.qualifiedName ∈ m.taken) (hnew : w.qualifiedName ∉ m.names)
    (hname : IsPlainName w.name)
    (hfiles : tree.files = d.tree.files.insert (w.place d.root) w.source) :
    Mirrors root start (m.store w.qualifiedName w.source)
      { d with tree, written := d.written ++ [w.file d.root] } (ws ++ [w]) where
  root_eq := h.root_eq
  claims := h.claims
  sound q hq := by
    rw [MemoryArtifacts.names_eq_map_entries, MemoryArtifacts.entries_store _ hnew, List.map_append,
      List.mem_append] at hq
    rcases hq with hq | hq
    · exact h.sound q hq
    · rwa [List.mem_singleton.1 hq]
  entries := by rw [MemoryArtifacts.entries_store _ hnew, h.entries, List.map_append]; rfl
  written := by rw [List.map_append, ← h.written, h.root_eq]; rfl
  files := by rw [hfiles, h.files, h.root_eq, filesAfter, filesAfter, List.foldl_append]; rfl
  plain := List.forall_mem_append.2 ⟨h.plain, List.forall_mem_singleton.2 hname⟩

end Mirrors

/-- The outputs of one run into a memory sink and into a directory beside it. -/
structure Mirrored (root : Location) (start : FileTree) (out : Output MemoryArtifacts)
    (out' : Output DirArtifacts) : Prop where
  history : out'.history = out.history
  sinks : ∃ ws, Mirrors root start out.sink out'.sink ws

/-! ## One emission -/

section

variable {root : Location} {start : FileTree} {out : Output MemoryArtifacts}
  {out' : Output DirArtifacts} {a : Artifact}

theorem Mirrored.taken_eq (h : Mirrored root start out out') :
    out'.sink.claims.names = out.sink.taken := by
  obtain ⟨ws, hws⟩ := h.sinks
  rw [hws.claims]
  rfl

/-- An artifact that is not stored leaves the tree as it is. -/
theorem mirrored_emit_unstored (h : Mirrored root start out out')
    (hunstored : a.qualifiedName ∈ out.sink.taken ∨ ∃ e, a.body = .error e) :
    (out'.emit a).1 = (out.emit a).1 ∧ Mirrored root start (out.emit a).2 (out'.emit a).2 ∧
      (out'.emit a).2.sink.tree = out'.sink.tree := by
  by_cases htaken : a.qualifiedName ∈ out.sink.taken
  · rw [Output.emit_claimed htaken, Output.emit_taken _ (h.taken_eq ▸ htaken)]
    exact ⟨rfl, ⟨congrArg (· ++ _) h.history, h.sinks⟩, rfl⟩
  · obtain ⟨e, hbody⟩ := hunstored.resolve_left htaken
    rw [Output.emit_unbuilt htaken hbody, Output.emit_bodiless _ (h.taken_eq ▸ htaken) hbody]
    obtain ⟨ws, hws⟩ := h.sinks
    exact ⟨rfl, ⟨h.history, ws, hws.take _⟩, rfl⟩

/-- An artifact that is stored becomes a file. -/
theorem mirrored_emit_stored (h : Mirrored root start out out')
    (hfree : a.qualifiedName ∉ out.sink.taken) {body : List Source.Token}
    (hbody : a.body = .ok body) (hname : IsPlainName a.name) {tree : FileTree}
    (hstore : (out'.sink.take a.qualifiedName).store (a.writer body) =
      (.ok (), { out'.sink.take a.qualifiedName with
        tree
        written := out'.sink.written ++ [(a.writer body).file out'.sink.root] }))
    (hfiles : tree.files =
      out'.sink.tree.files.insert ((a.writer body).place out'.sink.root) (a.writer body).source) :
    (out'.emit a).1 = (out.emit a).1 ∧ Mirrored root start (out.emit a).2 (out'.emit a).2 ∧
      (out'.emit a).2.sink.tree = tree := by
  rw [Output.emit_built hfree hbody, Output.emit_written _ (h.taken_eq ▸ hfree) hbody hstore]
  obtain ⟨ws, hws⟩ := h.sinks
  have htaken : (a.writer body).qualifiedName ∈ (out.sink.take a.qualifiedName).taken :=
    List.mem_append_right _ (List.mem_singleton.2 rfl)
  have hnew : (a.writer body).qualifiedName ∉ (out.sink.take a.qualifiedName).names :=
    fun hq => hfree (hws.sound _ hq)
  have hmirrors := (hws.take a.qualifiedName).store htaken hnew hname hfiles
  exact ⟨rfl, ⟨congrArg (· ++ _) h.history, _, hmirrors⟩, rfl⟩

end

end DirArtifacts

/-- An artifact whose own name is plain, if it has a body at all. -/
def Artifact.IsPlain (a : Artifact) : Prop :=
  ∀ body, a.body = .ok body → DirArtifacts.IsPlainName a.name

/-- An error that says that a write has failed. -/
def GenerateError.IsUnwritable (e : GenerateError) : Prop := ∃ path, e = .unwritable path

namespace DirArtifacts

variable {root : Location} {start : FileTree} {out : Output MemoryArtifacts}
  {out' : Output DirArtifacts} {a : Artifact}

/-- An artifact is emitted alike into both, unless its write fails. -/
theorem mirrored_emit (h : Mirrored root start out out') (ha : a.IsPlain) :
    (∃ e : GenerateError, e.IsUnwritable ∧ (out'.emit a).1 = .error e) ∨
      (out'.emit a).1 = (out.emit a).1 ∧ Mirrored root start (out.emit a).2 (out'.emit a).2 := by
  by_cases htaken : a.qualifiedName ∈ out.sink.taken
  · obtain ⟨hresult, hmirrored, _⟩ := mirrored_emit_unstored h (Or.inl htaken)
    exact Or.inr ⟨hresult, hmirrored⟩
  · cases hbody : a.body with
    | error e =>
      obtain ⟨hresult, hmirrored, _⟩ := mirrored_emit_unstored h (Or.inr ⟨e, hbody⟩)
      exact Or.inr ⟨hresult, hmirrored⟩
    | ok body =>
      rcases (out'.sink.take a.qualifiedName).store_outcome (a.writer body) with
        ⟨tree, hstore, hfiles⟩ | ⟨path, tree, hstore, _⟩
      · obtain ⟨hresult, hmirrored, _⟩ :=
          mirrored_emit_stored h htaken hbody (ha body hbody) hstore hfiles
        exact Or.inr ⟨hresult, hmirrored⟩
      · rw [Output.emit_refused _ (h.taken_eq ▸ htaken) hbody hstore]
        exact Or.inl ⟨_, ⟨path, rfl⟩, rfl⟩

/-- In a tidy directory a storable artifact is emitted alike into both. -/
theorem mirrored_emit_of_tidy (h : Mirrored root start out out') (hroot : Usable root)
    (htidy : out'.sink.tree.Tidy (OnTheWay root))
    (ha : ∀ body, a.body = .ok body → Storable a.package a.name) :
    (out'.emit a).1 = (out.emit a).1 ∧ Mirrored root start (out.emit a).2 (out'.emit a).2 ∧
      (out'.emit a).2.sink.tree.Tidy (OnTheWay root) := by
  by_cases htaken : a.qualifiedName ∈ out.sink.taken
  · obtain ⟨hresult, hmirrored, htree⟩ := mirrored_emit_unstored h (Or.inl htaken)
    exact ⟨hresult, hmirrored, htree ▸ htidy⟩
  · cases hbody : a.body with
    | error e =>
      obtain ⟨hresult, hmirrored, htree⟩ := mirrored_emit_unstored h (Or.inr ⟨e, hbody⟩)
      exact ⟨hresult, hmirrored, htree ▸ htidy⟩
    | ok body =>
      have hat : (out'.sink.take a.qualifiedName).root = root := by
        obtain ⟨ws, hws⟩ := h.sinks
        exact hws.root_eq
      obtain ⟨d', hd', htidy'⟩ := store_of_tidy (w := a.writer body) (hat ▸ hroot)
        (hat ▸ htidy : (out'.sink.take a.qualifiedName).tree.Tidy _) (ha body hbody)
      rcases (out'.sink.take a.qualifiedName).store_outcome (a.writer body) with
        ⟨tree, hstore, hfiles⟩ | ⟨path, tree, hstore, _⟩
      · rw [hstore] at hd'
        obtain ⟨hresult, hmirrored, htree⟩ :=
          mirrored_emit_stored h htaken hbody (ha body hbody).toIsPlainName hstore hfiles
        refine ⟨hresult, hmirrored, ?_⟩
        rw [htree, ← hat]
        rw [← (Prod.mk.inj hd').2] at htidy'
        exact htidy'
      · rw [hstore] at hd'
        cases hd'

end DirArtifacts

end ValidatorForge
