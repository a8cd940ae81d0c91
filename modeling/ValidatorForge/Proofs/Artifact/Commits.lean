import Mathlib.Data.List.Nodup
import ValidatorForge.Proofs.Artifact.Emission

/-!
# The order of commits

An emission changes a sink in one way, whatever else the output holds: `receive` is that change, and
`receiveAll` the change that a list of emissions makes.  A memory sink only ever commits new names,
at its end, as long as all committed names are taken (`Sound`).

* `sink_emit`: an emission lets its sink receive the artifact.
* `exists_entries_receiveAll`: what was committed stays in front, and what is new are sources of the
  received artifacts.
* `names_receiveAll`: artifacts with free and distinct names that can all be built are committed in
  the order in which they are received, each with its own source (`Answers.get?_of_mem`).
-/

namespace ValidatorForge

section

variable {σ : Type} [ArtifactSink σ]

/-- What an emission makes of a sink. -/
def receive (sink : σ) (a : Artifact) : σ := (Output.emit { sink } a).2.sink

/-- What emissions make of a sink, one after the other, whether they succeed or fail. -/
def receiveAll (sink : σ) (as : List Artifact) : σ := as.foldl receive sink

@[simp] theorem receiveAll_cons (sink : σ) (a : Artifact) (as : List Artifact) :
    receiveAll sink (a :: as) = receiveAll (receive sink a) as := rfl

theorem receiveAll_concat (sink : σ) (as : List Artifact) (a : Artifact) :
    receiveAll sink (as ++ [a]) = receive (receiveAll sink as) a := by
  rw [receiveAll, List.foldl_append]
  rfl

/-- The history of an output has no influence on its sink. -/
theorem Output.sink_emit (out : Output σ) (a : Artifact) :
    (out.emit a).2.sink = receive out.sink a := by
  unfold receive emit
  cases ArtifactSink.claim out.sink a.package a.name with
  | none => rfl
  | some opened =>
    cases a.body with
    | error e => rfl
    | ok body =>
      cases hcommit : ArtifactSink.commit opened.2
          ((opened.1.writeLine (headerLine a.qualifiedName)).writeTokens body) with
      | mk r sink => cases r <;> simp [hcommit, Output.log]

/-- An emission logs events.  It asks the engine nothing. -/
theorem Output.exists_history_emit (out : Output σ) (a : Artifact) :
    ∃ events : List Event, (out.emit a).2.history = out.history ++ events.map .logged := by
  unfold emit
  split
  · exact ⟨[.alreadyClaimed a.qualifiedName], rfl⟩
  · split
    · exact ⟨[], by simp⟩
    · next writer sink _ _ body _ =>
      cases hcommit : ArtifactSink.commit sink
          ((writer.writeLine (headerLine a.qualifiedName)).writeTokens body) with
      | mk r sink =>
        cases r with
        | error e => exact ⟨[], by simp [hcommit]⟩
        | ok u => exact ⟨[.artifactGenerated a.qualifiedName], by simp [hcommit, Output.log]⟩

end

namespace MemoryArtifacts

/-- The committed names with their sources, in commit order. -/
def entries (m : MemoryArtifacts) : List (String × String) := m.committed.entries

/-- All committed names are taken. -/
def Sound (m : MemoryArtifacts) : Prop := ∀ q ∈ m.names, q ∈ m.taken

theorem names_eq_map_entries (m : MemoryArtifacts) : m.names = m.entries.map Prod.fst := rfl

/-- A source under a new name goes to the end. -/
theorem entries_store {m : MemoryArtifacts} {q : String} (source : String) (h : q ∉ m.names) :
    (m.store q source).entries = m.entries ++ [(q, source)] :=
  OrderedMap.entries_insert_of_not_mem source h

/-- A sink that answers a list of artifacts is sound: a source comes from an artifact that asked. -/
theorem Answers.sound {m : MemoryArtifacts} {asked : List Artifact} (h : m.Answers asked) :
    m.Sound := by
  intro q hq
  obtain ⟨source, hsource⟩ := OrderedMap.exists_get?_of_mem_keys hq
  obtain ⟨a, hfirst, _⟩ := h.get?_eq_some_iff.1 hsource
  have hname : a.qualifiedName = q := by simpa using List.find?_some hfirst
  exact (h.taken_iff q).2 ⟨a, List.mem_of_find?_eq_some hfirst, hname⟩

/-- Artifacts with distinct names all keep their own sources. -/
theorem Answers.get?_of_mem {m : MemoryArtifacts} {asked : List Artifact} (h : m.Answers asked)
    (hdistinct : (asked.map (·.qualifiedName)).Nodup) {a : Artifact} (ha : a ∈ asked) :
    m.get? a.qualifiedName = a.source? := by
  have hfirst : firstAsking asked a.qualifiedName = some a := by
    cases hfirst : firstAsking asked a.qualifiedName with
    | none => exact absurd rfl (firstAsking_eq_none_iff.1 hfirst a ha)
    | some b =>
      have hname : b.qualifiedName = a.qualifiedName := by simpa using List.find?_some hfirst
      have hb : b ∈ asked := List.mem_of_find?_eq_some hfirst
      exact congrArg some (List.inj_on_of_nodup_map hdistinct hb ha hname)
  rw [h.get?_eq, hfirst]
  rfl

theorem answers_receive {m : MemoryArtifacts} {asked : List Artifact} (h : m.Answers asked)
    (a : Artifact) : (receive m a).Answers (asked ++ [a]) := by
  have hout : ({ sink := m } : Output MemoryArtifacts).sink.Answers asked := h
  exact hout.emit a

theorem answers_receiveAll {m : MemoryArtifacts} {asked : List Artifact} (h : m.Answers asked)
    (as : List Artifact) : (receiveAll m as).Answers (asked ++ as) := by
  induction as generalizing m asked with
  | nil =>
    rw [List.append_nil]
    exact h
  | cons a rest ih =>
    rw [receiveAll_cons, List.append_cons]
    exact ih (answers_receive h a)

/-! ## One artifact -/

variable {m : MemoryArtifacts} {a : Artifact}

theorem receive_claimed (h : a.qualifiedName ∈ m.taken) : receive m a = m := by
  rw [receive, Output.emit_claimed h]
  rfl

theorem receive_unbuilt (h : a.qualifiedName ∉ m.taken) (hsource : a.source? = none) :
    receive m a = m.take a.qualifiedName := by
  cases hbody : a.body with
  | error e => rw [receive, Output.emit_unbuilt h hbody]
  | ok body => simp [Artifact.source?, hbody] at hsource

theorem receive_built (h : a.qualifiedName ∉ m.taken) {source : String}
    (hsource : a.source? = some source) :
    receive m a = (m.take a.qualifiedName).store a.qualifiedName source := by
  cases hbody : a.body with
  | error e => simp [Artifact.source?, hbody] at hsource
  | ok body =>
    rw [Artifact.source?, hbody] at hsource
    obtain rfl := Option.some.inj hsource
    rw [receive, Output.emit_built h hbody]
    rfl

/-- The three things that can happen to the committed entries: a taken name and an artifact without
source leave them, any other artifact comes last. -/
theorem entries_receive (h : m.Sound) (a : Artifact) :
    (receive m a).entries = m.entries ∨
      ∃ source, a.source? = some source ∧
        (receive m a).entries = m.entries ++ [(a.qualifiedName, source)] := by
  by_cases htaken : a.qualifiedName ∈ m.taken
  · rw [receive_claimed htaken]
    exact Or.inl rfl
  · cases hsource : a.source? with
    | none =>
      rw [receive_unbuilt htaken hsource]
      exact Or.inl rfl
    | some source =>
      have hnew : a.qualifiedName ∉ (m.take a.qualifiedName).names := fun hq => htaken (h _ hq)
      rw [receive_built htaken hsource, entries_store source hnew]
      exact Or.inr ⟨source, rfl, rfl⟩

theorem mem_taken_receive {q : String} :
    q ∈ (receive m a).taken ↔ q = a.qualifiedName ∨ q ∈ m.taken := by
  by_cases htaken : a.qualifiedName ∈ m.taken
  · rw [receive_claimed htaken]
    constructor
    · exact Or.inr
    · intro hor
      rcases hor with rfl | hq
      · exact htaken
      · exact hq
  · have htaken' : (receive m a).taken = m.taken ++ [a.qualifiedName] := by
      cases hsource : a.source? with
      | none => rw [receive_unbuilt htaken hsource, taken_take]
      | some source => rw [receive_built htaken hsource, taken_store, taken_take]
    rw [htaken', List.mem_append, List.mem_singleton]
    exact or_comm

theorem sound_receive (h : m.Sound) (a : Artifact) : (receive m a).Sound := by
  intro q hq
  rw [names_eq_map_entries] at hq
  rw [mem_taken_receive]
  rcases entries_receive h a with hsame | ⟨source, _, hnew⟩
  · rw [hsame] at hq
    exact Or.inr (h q hq)
  · rw [hnew, List.map_append, List.mem_append] at hq
    rcases hq with hq | hq
    · exact Or.inr (h q hq)
    · exact Or.inl (List.mem_singleton.1 hq)

/-! ## Many artifacts -/

/-- A sink does not change when it receives artifacts whose names are all taken. -/
theorem receiveAll_claimed {as : List Artifact} (h : ∀ a ∈ as, a.qualifiedName ∈ m.taken) :
    receiveAll m as = m := by
  induction as with
  | nil => rfl
  | cons a rest ih =>
    obtain ⟨hfirst, hrest⟩ := List.forall_mem_cons.1 h
    rw [receiveAll_cons, receive_claimed hfirst, ih hrest]

/-- The taken names are those taken before and those of the received artifacts. -/
theorem mem_taken_receiveAll {as : List Artifact} {q : String} :
    q ∈ (receiveAll m as).taken ↔ q ∈ m.taken ∨ ∃ a ∈ as, a.qualifiedName = q := by
  induction as generalizing m with
  | nil => simp [receiveAll]
  | cons a rest ih =>
    rw [receiveAll_cons, ih, mem_taken_receive, List.exists_mem_cons_iff, or_assoc, or_left_comm,
      eq_comm]

/-- What was committed stays in front, and what is new are sources of the received artifacts. -/
theorem exists_entries_receiveAll (h : m.Sound) (as : List Artifact) :
    ∃ new, (receiveAll m as).entries = m.entries ++ new ∧
      ∀ e ∈ new, ∃ a ∈ as, a.qualifiedName = e.1 ∧ a.source? = some e.2 := by
  induction as generalizing m with
  | nil => exact ⟨[], (List.append_nil _).symm, List.forall_mem_nil _⟩
  | cons a rest ih =>
    obtain ⟨new, hentries, hnew⟩ := ih (sound_receive h a)
    have hrest : ∀ e ∈ new, ∃ b ∈ a :: rest, b.qualifiedName = e.1 ∧ b.source? = some e.2 := by
      intro e he
      obtain ⟨b, hb, hboth⟩ := hnew e he
      exact ⟨b, List.mem_cons_of_mem _ hb, hboth⟩
    rw [receiveAll_cons, hentries]
    rcases entries_receive h a with hsame | ⟨source, hsource, hlast⟩
    · exact ⟨new, by rw [hsame], hrest⟩
    · refine ⟨(a.qualifiedName, source) :: new, by rw [hlast, List.append_assoc]; rfl, ?_⟩
      exact List.forall_mem_cons.2 ⟨⟨a, List.mem_cons_self, rfl, hsource⟩, hrest⟩

/-- Artifacts that can be built, with names that are free and distinct, are committed in the order
in which they are received. -/
theorem names_receiveAll (h : m.Sound) {as : List Artifact}
    (hbuilt : ∀ a ∈ as, ∃ source, a.source? = some source)
    (hdistinct : (as.map (·.qualifiedName)).Nodup) (hfree : ∀ a ∈ as, a.qualifiedName ∉ m.taken) :
    (receiveAll m as).names = m.names ++ as.map (·.qualifiedName) := by
  induction as generalizing m with
  | nil => exact (List.append_nil _).symm
  | cons a rest ih =>
    obtain ⟨source, hsource⟩ := hbuilt a List.mem_cons_self
    obtain ⟨hhead, htail⟩ := List.nodup_cons.1 hdistinct
    have htaken : a.qualifiedName ∉ m.taken := hfree a List.mem_cons_self
    have hnew : a.qualifiedName ∉ (m.take a.qualifiedName).names := fun hq => htaken (h _ hq)
    have hnames : (receive m a).names = m.names ++ [a.qualifiedName] := by
      rw [receive_built htaken hsource, names_eq_map_entries, entries_store source hnew,
        List.map_append]
      rfl
    have hrest : ∀ b ∈ rest, b.qualifiedName ∉ (receive m a).taken := by
      intro b hb hq
      rcases mem_taken_receive.1 hq with heq | hq
      · exact hhead (List.mem_map.2 ⟨b, hb, heq⟩)
      · exact hfree b (List.mem_cons_of_mem _ hb) hq
    have hbuilt' : ∀ b ∈ rest, ∃ source, b.source? = some source :=
      fun b hb => hbuilt b (List.mem_cons_of_mem _ hb)
    rw [receiveAll_cons, ih (sound_receive h a) hbuilt' htail hrest, hnames, List.append_assoc]
    rfl

end MemoryArtifacts

end ValidatorForge
