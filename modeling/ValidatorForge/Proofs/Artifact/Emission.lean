import ValidatorForge.Artifact.Emission

/-!
# What a memory sink holds

Artifacts are emitted into a memory sink one after the other.  A name belongs to the first artifact
that asks for it, whether or not the body of that artifact can be built: `Answers` states this as a
relation between a sink and the list of the artifacts that have asked so far.

* `emit_claimed`, `emit_unbuilt` and `emit_built` are the three cases of an emission.
* `MemoryArtifacts.Answers.emit` says that an emission adds its artifact to the list.
* `MemoryArtifacts.Answers.get?_eq_some_iff` reads the sink back from the list.
-/

namespace ValidatorForge

/-- The text of an artifact: its header line, and its body on the next line. -/
def artifactText (qualified : String) (body : List Source.Token) : String :=
  "" ++ headerLine qualified ++ "\n" ++ Source.text body ++ "\n"

/-- The source of an artifact, if its body can be built. -/
def Artifact.source? (a : Artifact) : Option String :=
  match a.body with
  | .ok body => some (artifactText a.qualifiedName body)
  | .error _ => none

/-! ## One emission -/

namespace MemoryArtifacts

/-- The sink with one more name taken. -/
def take (m : MemoryArtifacts) (q : String) : MemoryArtifacts :=
  { m with claims := ⟨m.claims.names ++ [q]⟩ }

/-- The sink with a source stored. -/
def store (m : MemoryArtifacts) (q source : String) : MemoryArtifacts :=
  { m with committed := m.committed.insert q source }

/-- The names that were handed out. -/
def taken (m : MemoryArtifacts) : List String := m.claims.names

@[simp] theorem taken_take (m : MemoryArtifacts) (q : String) :
    (m.take q).taken = m.taken ++ [q] := rfl

@[simp] theorem taken_store (m : MemoryArtifacts) (q source : String) :
    (m.store q source).taken = m.taken := rfl

@[simp] theorem get?_take (m : MemoryArtifacts) (q n : String) : (m.take q).get? n = m.get? n := rfl

@[simp] theorem get?_store (m : MemoryArtifacts) (q source n : String) :
    (m.store q source).get? n = if n = q then some source else m.get? n :=
  OrderedMap.get?_insert _ _ _ _

end MemoryArtifacts

namespace Output

variable {out : Output MemoryArtifacts} {a : Artifact}

/-- An artifact whose name is taken is passed over. -/
theorem emit_claimed (h : a.qualifiedName ∈ out.sink.taken) :
    out.emit a = (.ok a.qualifiedName, out.log (.alreadyClaimed a.qualifiedName)) := by
  have hadd : out.sink.claims.add? (qualify a.package a.name) = none := if_pos h
  simp [emit, ArtifactSink.claim, Claims.open?, hadd]

/-- An artifact without a body takes its name all the same. -/
theorem emit_unbuilt (h : a.qualifiedName ∉ out.sink.taken) {e : GenerateError}
    (hbody : a.body = .error e) :
    out.emit a = (.error e, { out with sink := out.sink.take a.qualifiedName }) := by
  have hadd : out.sink.claims.add? (qualify a.package a.name) =
      some ⟨out.sink.claims.names ++ [a.qualifiedName]⟩ := if_neg h
  simp [emit, ArtifactSink.claim, Claims.open?, hadd, hbody, MemoryArtifacts.take]

/-- An artifact with a body takes its name and is stored. -/
theorem emit_built (h : a.qualifiedName ∉ out.sink.taken) {body : List Source.Token}
    (hbody : a.body = .ok body) :
    out.emit a =
      (.ok a.qualifiedName,
        { out with
          sink := (out.sink.take a.qualifiedName).store a.qualifiedName
            (artifactText a.qualifiedName body) }.log (.artifactGenerated a.qualifiedName)) := by
  have hadd : out.sink.claims.add? (qualify a.package a.name) =
      some ⟨out.sink.claims.names ++ [a.qualifiedName]⟩ := if_neg h
  simp [emit, ArtifactSink.claim, ArtifactSink.commit, Claims.open?, hadd, hbody,
    MemoryArtifacts.take, MemoryArtifacts.store, artifactText, ArtifactWriter.writeTokens,
    ArtifactWriter.writeLine, ArtifactWriter.qualifiedName, Artifact.qualifiedName]

/-- An emission fails only for want of a body. -/
theorem body_of_emit_error {out' : Output MemoryArtifacts} {e : GenerateError}
    (h : out.emit a = (.error e, out')) : a.body = .error e := by
  by_cases htaken : a.qualifiedName ∈ out.sink.taken
  · rw [emit_claimed htaken] at h
    simp at h
  · cases hbody : a.body with
    | error e' =>
      rw [emit_unbuilt htaken hbody] at h
      rw [Except.error.inj (Prod.mk.inj h).1]
    | ok body =>
      rw [emit_built htaken hbody] at h
      simp at h

/-- An emission that succeeds returns the qualified name. -/
theorem name_of_emit_ok {out' : Output MemoryArtifacts} {q : String}
    (h : out.emit a = (.ok q, out')) : q = a.qualifiedName := by
  by_cases htaken : a.qualifiedName ∈ out.sink.taken
  · rw [emit_claimed htaken] at h
    exact (Except.ok.inj (Prod.mk.inj h).1).symm
  · cases hbody : a.body with
    | error e =>
      rw [emit_unbuilt htaken hbody] at h
      simp at h
    | ok body =>
      rw [emit_built htaken hbody] at h
      exact (Except.ok.inj (Prod.mk.inj h).1).symm

end Output

/-! ## The first to ask -/

/-- The first of the artifacts that asks for a name. -/
def firstAsking (asked : List Artifact) (q : String) : Option Artifact :=
  asked.find? fun a => a.qualifiedName == q

theorem firstAsking_append {asked asked' : List Artifact} (q : String) :
    firstAsking (asked ++ asked') q = (firstAsking asked q).or (firstAsking asked' q) :=
  List.find?_append

theorem firstAsking_append_self {asked : List Artifact} {a : Artifact} (q : String) :
    firstAsking (asked ++ [a]) q =
      (firstAsking asked q).or (if a.qualifiedName = q then some a else none) := by
  rw [firstAsking_append]
  by_cases h : a.qualifiedName = q <;> simp [firstAsking, h]

theorem firstAsking_eq_none_iff {asked : List Artifact} {q : String} :
    firstAsking asked q = none ↔ ∀ a ∈ asked, a.qualifiedName ≠ q := by
  simp [firstAsking]

namespace MemoryArtifacts

/-- A sink into which the listed artifacts were emitted, in this order: each name that was asked for
is taken, and what is stored under it is the source of the first artifact that asked. -/
structure Answers (m : MemoryArtifacts) (asked : List Artifact) : Prop where
  taken_iff : ∀ q, q ∈ m.taken ↔ ∃ a ∈ asked, a.qualifiedName = q
  get?_eq : ∀ q, m.get? q = (firstAsking asked q).bind Artifact.source?

theorem answers_empty : Answers {} [] where
  taken_iff := by simp [taken]
  get?_eq q := rfl

namespace Answers

variable {m : MemoryArtifacts} {asked : List Artifact}

theorem firstAsking_eq_none (h : m.Answers asked) {q : String} (hq : q ∉ m.taken) :
    firstAsking asked q = none :=
  firstAsking_eq_none_iff.2 fun a ha heq => hq ((h.taken_iff q).2 ⟨a, ha, heq⟩)

/-- A name that was taken before keeps its source. -/
theorem append_claimed (h : m.Answers asked) {a : Artifact} (ha : a.qualifiedName ∈ m.taken) :
    m.Answers (asked ++ [a]) where
  taken_iff q := by
    rw [h.taken_iff]
    constructor
    · intro hex
      obtain ⟨b, hb, heq⟩ := hex
      exact ⟨b, List.mem_append_left _ hb, heq⟩
    · intro hex
      obtain ⟨b, hb, rfl⟩ := hex
      rcases List.mem_append.1 hb with hb | hb
      · exact ⟨b, hb, rfl⟩
      · rw [List.mem_singleton.1 hb]
        exact (h.taken_iff _).1 ha
  get?_eq q := by
    rw [h.get?_eq, firstAsking_append_self]
    cases hfirst : firstAsking asked q with
    | some b => rfl
    | none =>
      rw [if_neg]
      · rfl
      · intro heq
        obtain rfl := heq
        obtain ⟨b, hb, heq⟩ := (h.taken_iff _).1 ha
        exact firstAsking_eq_none_iff.1 hfirst b hb heq

/-- A free name is taken, and stores the source if there is one. -/
theorem append_free (h : m.Answers asked) {a : Artifact} {m' : MemoryArtifacts}
    (ha : a.qualifiedName ∉ m.taken) (htaken : m'.taken = m.taken ++ [a.qualifiedName])
    (hget : ∀ q, m'.get? q = if q = a.qualifiedName then a.source? else m.get? q) :
    m'.Answers (asked ++ [a]) where
  taken_iff q := by
    simp only [htaken, List.mem_append, List.mem_singleton, h.taken_iff]
    constructor
    · intro hor
      rcases hor with ⟨b, hb, heq⟩ | rfl
      · exact ⟨b, Or.inl hb, heq⟩
      · exact ⟨a, Or.inr rfl, rfl⟩
    · intro hex
      obtain ⟨b, hb | rfl, rfl⟩ := hex
      · exact Or.inl ⟨b, hb, rfl⟩
      · exact Or.inr rfl
  get?_eq q := by
    rw [hget, firstAsking_append_self]
    by_cases hq : q = a.qualifiedName
    · subst hq
      rw [if_pos rfl, if_pos rfl, h.firstAsking_eq_none ha]
      rfl
    · rw [if_neg hq, if_neg fun heq => hq heq.symm, Option.or_none, h.get?_eq]

theorem emit {out : Output MemoryArtifacts} (h : out.sink.Answers asked) (a : Artifact) :
    (out.emit a).2.sink.Answers (asked ++ [a]) := by
  by_cases htaken : a.qualifiedName ∈ out.sink.taken
  · rw [Output.emit_claimed htaken]
    exact h.append_claimed htaken
  · cases hbody : a.body with
    | error e =>
      rw [Output.emit_unbuilt htaken hbody]
      refine h.append_free htaken (MemoryArtifacts.taken_take _ _) fun q => ?_
      rw [MemoryArtifacts.get?_take, Artifact.source?, hbody]
      split
      · next hq =>
        rw [h.get?_eq, hq, h.firstAsking_eq_none htaken]
        rfl
      · rfl
    | ok body =>
      rw [Output.emit_built htaken hbody]
      refine h.append_free htaken ?_ fun q => ?_
      · show ((out.sink.take _).store _ _).taken = _
        rw [MemoryArtifacts.taken_store, MemoryArtifacts.taken_take]
      · show ((out.sink.take _).store _ _).get? q = _
        rw [MemoryArtifacts.get?_store, MemoryArtifacts.get?_take, Artifact.source?, hbody]

/-- A source is stored under a name if the first artifact that asked for the name has it. -/
theorem get?_eq_some_iff (h : m.Answers asked) {q source : String} :
    m.get? q = some source ↔
      ∃ a, firstAsking asked q = some a ∧ a.source? = some source := by
  rw [h.get?_eq, Option.bind_eq_some_iff]

/-- A name is empty if no artifact that asked for it has a body. -/
theorem get?_eq_none (h : m.Answers asked) {q : String}
    (hbody : ∀ a ∈ asked, a.qualifiedName = q → ∃ e, a.body = .error e) : m.get? q = none := by
  rw [h.get?_eq, Option.bind_eq_none_iff]
  intro a hfirst
  have hname : a.qualifiedName = q := by simpa using List.find?_some hfirst
  obtain ⟨e, he⟩ := hbody a (List.mem_of_find?_eq_some hfirst) hname
  rw [Artifact.source?, he]

end Answers

end MemoryArtifacts

end ValidatorForge
