import Mathlib.Data.List.Perm.Subperm
import Mathlib.Logic.Relation
import ValidatorForge.Artifact.Directory
import ValidatorForge.Proofs.Artifact.Commits

/-!
# Emitters at one sink

Any number of emitters claim names at one sink, write to the writers that they get, and commit them,
in any order.  A `Workshop` is a sink with the writers that are in use and a log of what has
happened; `Step` is one move of one emitter.  Writers come from claims only, and a commit takes the
writer away, whether it succeeds or fails.

* `reaches_emit`: an emission is a series of such moves.
* `LawfulSink` says what the two kinds of sinks have in common: a claim is refused exactly if the
  name is taken, and only claims take names.
* `Accounted` is the invariant: the writers in use and those that were stored were handed out, each
  under a name of its own, and they hold what was written to them.  Every move keeps it.
* `accounted_of_reaches` is the result for both kinds of sinks, `listed_of_reaches` and
  `written_of_reaches` say what each kind holds, and `emitters_share_sink` puts them together.
-/

namespace ValidatorForge

open Relation

/-! ## The log -/

/-- What happens at a sink. -/
inductive SinkEvent (ε : Type) where
  /-- A writer is handed out. -/
  | opened (emitter : ε) (w : ArtifactWriter)
  /-- A line is written to the writer of a qualified name. -/
  | wrote (emitter : ε) (qualified line : String)
  /-- A finished writer is stored. -/
  | stored (emitter : ε) (w : ArtifactWriter)

namespace SinkEvent

variable {ε : Type}

def opened? : SinkEvent ε → Option ArtifactWriter
  | opened _ w => some w
  | _ => none

def stored? : SinkEvent ε → Option ArtifactWriter
  | stored _ w => some w
  | _ => none

/-- What an event adds to the text under a qualified name. -/
def lineFor (q : String) : SinkEvent ε → String
  | wrote _ q' line => if q' = q then line ++ "\n" else ""
  | _ => ""

/-- The writers that were handed out, in order. -/
def handedOut (log : List (SinkEvent ε)) : List ArtifactWriter := log.filterMap opened?

/-- The names that were handed out, in order. -/
def namesOf (log : List (SinkEvent ε)) : List String := (handedOut log).map (·.qualifiedName)

/-- The writers that were stored, in order, as they were then. -/
def finished (log : List (SinkEvent ε)) : List ArtifactWriter := log.filterMap stored?

/-- All lines that were written under a qualified name. -/
def textOf (log : List (SinkEvent ε)) (q : String) : String :=
  log.foldl (fun text event => text ++ lineFor q event) ""

variable {log : List (SinkEvent ε)} {e : ε} {w : ArtifactWriter} {q line : String}

@[simp] theorem handedOut_opened : handedOut (log ++ [opened e w]) = handedOut log ++ [w] := by
  simp [handedOut, opened?]

@[simp] theorem handedOut_wrote : handedOut (log ++ [wrote e q line]) = handedOut log := by
  simp [handedOut, opened?]

@[simp] theorem handedOut_stored : handedOut (log ++ [stored e w]) = handedOut log := by
  simp [handedOut, opened?]

@[simp] theorem namesOf_opened :
    namesOf (log ++ [opened e w]) = namesOf log ++ [w.qualifiedName] := by
  simp [namesOf]

@[simp] theorem namesOf_wrote : namesOf (log ++ [wrote e q line]) = namesOf log := by simp [namesOf]

@[simp] theorem namesOf_stored : namesOf (log ++ [stored e w]) = namesOf log := by simp [namesOf]

@[simp] theorem finished_opened : finished (log ++ [opened e w]) = finished log := by
  simp [finished, stored?]

@[simp] theorem finished_wrote : finished (log ++ [wrote e q line]) = finished log := by
  simp [finished, stored?]

@[simp] theorem finished_stored : finished (log ++ [stored e w]) = finished log ++ [w] := by
  simp [finished, stored?]

@[simp] theorem textOf_opened (q : String) : textOf (log ++ [opened e w]) q = textOf log q := by
  simp [textOf, lineFor]

@[simp] theorem textOf_stored (q : String) : textOf (log ++ [stored e w]) q = textOf log q := by
  simp [textOf, lineFor]

theorem textOf_wrote_self : textOf (log ++ [wrote e q line]) q = textOf log q ++ line ++ "\n" := by
  simp [textOf, lineFor, String.append_assoc]

theorem textOf_wrote_of_ne {q' : String} (h : q ≠ q') :
    textOf (log ++ [wrote e q line]) q' = textOf log q' := by
  simp [textOf, lineFor, h]

end SinkEvent

/-! ## The moves of emitters -/

/-- A sink that emitters share. -/
structure Workshop (ε σ : Type) where
  sink : σ
  /-- The writers in use, with the emitters that use them. -/
  held : List (ε × ArtifactWriter) := []
  log : List (SinkEvent ε) := []

namespace Workshop

section

variable {ε σ : Type} [ArtifactSink σ]

/-- One move of one emitter. -/
inductive Step : Workshop ε σ → Workshop ε σ → Prop
  | claim {sink sink' : σ} {held : List (ε × ArtifactWriter)} {log : List (SinkEvent ε)} {e : ε}
      {package name : String} {w : ArtifactWriter}
      (hclaim : ArtifactSink.claim sink package name = some (w, sink')) :
      Step ⟨sink, held, log⟩ ⟨sink', (e, w) :: held, log ++ [.opened e w]⟩
  /-- A claim that is refused changes nothing. -/
  | refused {s : Workshop ε σ} {package name : String}
      (hclaim : ArtifactSink.claim s.sink package name = none) : Step s s
  | write {sink : σ} {before after : List (ε × ArtifactWriter)} {log : List (SinkEvent ε)} {e : ε}
      {w : ArtifactWriter} {line : String} :
      Step ⟨sink, before ++ (e, w) :: after, log⟩
        ⟨sink, before ++ (e, w.writeLine line) :: after, log ++ [.wrote e w.qualifiedName line]⟩
  | commit {sink sink' : σ} {before after : List (ε × ArtifactWriter)} {log : List (SinkEvent ε)}
      {e : ε} {w : ArtifactWriter} (hcommit : ArtifactSink.commit sink w = (.ok (), sink')) :
      Step ⟨sink, before ++ (e, w) :: after, log⟩ ⟨sink', before ++ after, log ++ [.stored e w]⟩
  /-- A commit that fails leaves nothing to commit again. -/
  | fail {sink sink' : σ} {before after : List (ε × ArtifactWriter)} {log : List (SinkEvent ε)}
      {e : ε} {w : ArtifactWriter} {error : GenerateError}
      (hcommit : ArtifactSink.commit sink w = (.error error, sink')) :
      Step ⟨sink, before ++ (e, w) :: after, log⟩ ⟨sink', before ++ after, log⟩
  /-- An emitter may give up a writer. -/
  | discard {sink : σ} {before after : List (ε × ArtifactWriter)} {log : List (SinkEvent ε)} {e : ε}
      {w : ArtifactWriter} :
      Step ⟨sink, before ++ (e, w) :: after, log⟩ ⟨sink, before ++ after, log⟩

/-- Any interleaving of moves. -/
abbrev Reaches : Workshop ε σ → Workshop ε σ → Prop := ReflTransGen Step

/-- An emission is a series of moves of one emitter: it claims a name and then either writes two
lines and commits, or gives the writer up. -/
theorem reaches_emit (e : ε) (out : Output σ) (a : Artifact) (held : List (ε × ArtifactWriter))
    (log : List (SinkEvent ε)) :
    ∃ log', Reaches ⟨out.sink, held, log⟩ ⟨(out.emit a).2.sink, held, log'⟩ := by
  unfold Output.emit
  split
  · exact ⟨log, ReflTransGen.refl⟩
  · next w sink hclaim =>
    have hopen : Step (⟨out.sink, held, log⟩ : Workshop ε σ)
        ⟨sink, [] ++ (e, w) :: held, log ++ [.opened e w]⟩ := Step.claim hclaim
    split
    · exact ⟨_, (ReflTransGen.single hopen).tail Step.discard⟩
    · next body _ =>
      -- the header line and the body are two writes
      obtain ⟨log', hwrites⟩ : ∃ log', Reaches (⟨out.sink, held, log⟩ : Workshop ε σ)
          ⟨sink, [] ++ (e, (w.writeLine (headerLine a.qualifiedName)).writeTokens body) :: held,
            log'⟩ :=
        ⟨_, ((ReflTransGen.single hopen).tail Step.write).tail Step.write⟩
      cases hcommit : ArtifactSink.commit sink
          ((w.writeLine (headerLine a.qualifiedName)).writeTokens body) with
      | mk r sink' =>
        cases r with
        | error error =>
          simp only [hcommit]
          exact ⟨_, hwrites.tail (Step.fail hcommit)⟩
        | ok u =>
          simp only [hcommit]
          exact ⟨_, hwrites.tail (Step.commit hcommit)⟩

end

end Workshop

/-! ## Sinks -/

/-- A sink that hands out each name once. -/
class LawfulSink (σ : Type) [ArtifactSink σ] where
  /-- The names that were handed out. -/
  taken : σ → List String
  claim_eq_none_iff : ∀ {s : σ} {package name : String},
    ArtifactSink.claim s package name = none ↔ qualify package name ∈ taken s
  of_claim : ∀ {s s' : σ} {package name : String} {w : ArtifactWriter},
    ArtifactSink.claim s package name = some (w, s') →
      w = { package, name } ∧ taken s' = taken s ++ [qualify package name]
  taken_commit : ∀ (s : σ) (w : ArtifactWriter), taken (ArtifactSink.commit s w).2 = taken s

namespace Claims

theorem open?_eq_none_iff {c : Claims} {package name : String} :
    c.open? package name = none ↔ qualify package name ∈ c.names := by
  simp [open?, add?]

theorem of_open? {c c' : Claims} {package name : String} {w : ArtifactWriter}
    (h : c.open? package name = some (w, c')) :
    w = { package, name } ∧ c'.names = c.names ++ [qualify package name] := by
  unfold open? add? at h
  split at h
  · cases h
  · obtain ⟨rfl, rfl⟩ := Prod.mk.inj (Option.some.inj h)
    exact ⟨rfl, rfl⟩

end Claims

instance : LawfulSink MemoryArtifacts where
  taken := MemoryArtifacts.taken
  claim_eq_none_iff := Option.map_eq_none_iff.trans Claims.open?_eq_none_iff
  of_claim h := by
    obtain ⟨opened, hopen, heq⟩ := Option.map_eq_some_iff.1 h
    cases heq
    exact Claims.of_open? hopen
  taken_commit _ _ := rfl

namespace DirArtifacts

/-- A file that is stored is written last.  If it cannot be stored, only the tree may change. -/
theorem store_cases (d : DirArtifacts) (w : ArtifactWriter) :
    (∃ tree, d.store w =
      (.ok (), { d with tree, written := d.written ++ [pathFor d.root w.package w.name] })) ∨
    ∃ e tree, d.store w = (.error e, { d with tree }) := by
  unfold store
  cases hdirs : d.tree.makeDirectories (pathFor d.root w.package w.name).parent with
  | mk made tree =>
    cases made with
    | false =>
      simp only [hdirs]
      exact Or.inr ⟨_, tree, rfl⟩
    | true =>
      cases hwrite : tree.write (pathFor d.root w.package w.name) w.source with
      | mk done tree' =>
        cases done with
        | false =>
          simp only [hdirs, hwrite]
          exact Or.inr ⟨_, tree', rfl⟩
        | true =>
          simp only [hdirs, hwrite]
          exact Or.inl ⟨tree', rfl⟩

/-- The names that were handed out. -/
def taken (d : DirArtifacts) : List String := d.claims.names

theorem taken_commit (d : DirArtifacts) (w : ArtifactWriter) :
    (ArtifactSink.commit d w).2.taken = d.taken := by
  show (d.store w).2.taken = d.taken
  rcases d.store_cases w with ⟨tree, h⟩ | ⟨e, tree, h⟩
  · rw [h]
    rfl
  · rw [h]
    rfl

end DirArtifacts

instance : LawfulSink DirArtifacts where
  taken := DirArtifacts.taken
  claim_eq_none_iff := Option.map_eq_none_iff.trans Claims.open?_eq_none_iff
  of_claim h := by
    obtain ⟨opened, hopen, heq⟩ := Option.map_eq_some_iff.1 h
    cases heq
    exact Claims.of_open? hopen
  taken_commit := DirArtifacts.taken_commit

/-! ## The invariant -/

namespace SinkEvent

variable {ε : Type}

/-- What a log accounts for: the names that are taken, and the writers in use or stored. -/
structure Accounts (log : List (SinkEvent ε)) (taken : List String) (known : List ArtifactWriter) :
    Prop where
  taken_eq : taken = namesOf log
  /-- No name was handed out twice. -/
  once : (namesOf log).Nodup
  /-- No two writers have one name. -/
  apart : (known.map (·.qualifiedName)).Nodup
  /-- Every writer was handed out, without text. -/
  origin : ∀ w ∈ known, ({ package := w.package, name := w.name } : ArtifactWriter) ∈ handedOut log
  /-- Every writer holds what was written under its name. -/
  text : ∀ w ∈ known, w.source = textOf log w.qualifiedName
  /-- Nothing was written under a name that was not handed out. -/
  silent : ∀ q, q ∉ namesOf log → textOf log q = ""

namespace Accounts

variable {log : List (SinkEvent ε)} {taken : List String} {known known' : List ArtifactWriter}
  {e : ε} {w : ArtifactWriter}

theorem nil : Accounts ([] : List (SinkEvent ε)) [] [] where
  taken_eq := rfl
  once := List.nodup_nil
  apart := List.nodup_nil
  origin := List.forall_mem_nil _
  text := List.forall_mem_nil _
  silent _ _ := rfl

theorem mem_namesOf (h : Accounts log taken known) (hw : w ∈ known) :
    w.qualifiedName ∈ namesOf log :=
  List.mem_map.2 ⟨_, h.origin w hw, rfl⟩

/-- Writers may be lost, and their order does not matter. -/
theorem subperm (h : Accounts log taken known) (hsub : known'.Subperm known) :
    Accounts log taken known' where
  taken_eq := h.taken_eq
  once := h.once
  apart := by
    obtain ⟨l, hperm, hsublist⟩ := hsub
    exact (hperm.map _).nodup (h.apart.sublist (hsublist.map _))
  origin w hw := h.origin w (hsub.subset hw)
  text w hw := h.text w (hsub.subset hw)
  silent := h.silent

/-- A writer that is handed out has a new name and no text. -/
theorem opened {package name : String} (h : Accounts log taken known)
    (hfree : qualify package name ∉ taken) :
    Accounts (log ++ [.opened e { package, name }]) (taken ++ [qualify package name])
      ({ package, name } :: known) where
  taken_eq := by
    rw [namesOf_opened, h.taken_eq]
    rfl
  once := by
    rw [namesOf_opened, ← List.concat_eq_append]
    exact h.once.concat (h.taken_eq ▸ hfree)
  apart := by
    refine List.nodup_cons.2 ⟨fun hmem => hfree ?_, h.apart⟩
    obtain ⟨v, hv, hname⟩ := List.mem_map.1 hmem
    have hknown : v.qualifiedName ∈ taken := h.taken_eq ▸ h.mem_namesOf hv
    rw [hname] at hknown
    exact hknown
  origin := by
    rw [handedOut_opened]
    exact List.forall_mem_cons.2 ⟨List.mem_append_right _ (List.mem_singleton.2 rfl),
      fun v hv => List.mem_append_left _ (h.origin v hv)⟩
  text := by
    simp only [textOf_opened]
    exact List.forall_mem_cons.2 ⟨(h.silent _ (h.taken_eq ▸ hfree)).symm, h.text⟩
  silent q hq := by
    rw [textOf_opened]
    refine h.silent q fun hmem => hq ?_
    rw [namesOf_opened]
    exact List.mem_append_left _ hmem

/-- A line goes to one writer.  The others have other names. -/
theorem wrote {line : String} (h : Accounts log taken (w :: known)) :
    Accounts (log ++ [.wrote e w.qualifiedName line]) taken (w.writeLine line :: known) where
  taken_eq := by
    rw [namesOf_wrote]
    exact h.taken_eq
  once := by
    rw [namesOf_wrote]
    exact h.once
  apart := h.apart
  origin := by
    rw [handedOut_wrote]
    obtain ⟨hw, hrest⟩ := List.forall_mem_cons.1 h.origin
    exact List.forall_mem_cons.2 ⟨hw, hrest⟩
  text := by
    obtain ⟨hw, hrest⟩ := List.forall_mem_cons.1 h.text
    obtain ⟨hother, _⟩ := List.nodup_cons.1 h.apart
    refine List.forall_mem_cons.2 ⟨?_, fun v hv => ?_⟩
    · show w.source ++ line ++ "\n" = textOf _ w.qualifiedName
      rw [textOf_wrote_self, hw]
    · have hne : w.qualifiedName ≠ v.qualifiedName :=
        fun heq => hother (List.mem_map.2 ⟨v, hv, heq.symm⟩)
      rw [textOf_wrote_of_ne hne]
      exact hrest v hv
  silent q hq := by
    rw [namesOf_wrote] at hq
    have hne : w.qualifiedName ≠ q := by
      intro heq
      exact hq (heq ▸ h.mem_namesOf List.mem_cons_self)
    rw [textOf_wrote_of_ne hne]
    exact h.silent q hq

/-- Storing a writer changes neither names nor texts. -/
theorem stored (h : Accounts log taken known) : Accounts (log ++ [.stored e w]) taken known where
  taken_eq := by
    rw [namesOf_stored]
    exact h.taken_eq
  once := by
    rw [namesOf_stored]
    exact h.once
  apart := h.apart
  origin := by
    rw [handedOut_stored]
    exact h.origin
  text := by
    simp only [textOf_stored]
    exact h.text
  silent := by
    simp only [namesOf_stored, textOf_stored]
    exact h.silent

end Accounts

end SinkEvent

namespace Workshop

open SinkEvent (Accounts handedOut namesOf finished textOf)

section

variable {ε σ : Type} [ArtifactSink σ] [LawfulSink σ]

/-- The log accounts for the taken names and for the writers in use and those stored. -/
def Accounted (s : Workshop ε σ) : Prop :=
  Accounts s.log (LawfulSink.taken s.sink) (s.held.map Prod.snd ++ finished s.log)

omit [ArtifactSink σ] [LawfulSink σ] in
/-- One writer in use comes first, up to order. -/
theorem held_perm (before after : List (ε × ArtifactWriter)) (e : ε) (w : ArtifactWriter)
    (stored : List ArtifactWriter) :
    ((before ++ (e, w) :: after).map Prod.snd ++ stored).Perm
      (w :: ((before ++ after).map Prod.snd ++ stored)) := by
  simp only [List.map_append, List.map_cons, List.append_assoc, List.cons_append]
  exact List.perm_middle

theorem accounted_of_step {s s' : Workshop ε σ} (h : Step s s') (hs : s.Accounted) :
    s'.Accounted := by
  cases h with
  | refused => exact hs
  | @claim sink sink' held log e package name w hclaim =>
    have hfree : qualify package name ∉ LawfulSink.taken sink := by
      rw [← LawfulSink.claim_eq_none_iff, hclaim]
      exact Option.some_ne_none _
    obtain ⟨rfl, htaken⟩ := LawfulSink.of_claim hclaim
    have hopened := Accounts.opened (e := e) hs hfree
    rw [Accounted, htaken, SinkEvent.finished_opened]
    exact hopened
  | @write sink before after log e w line =>
    have hfirst := hs.subperm (held_perm before after e w (finished log)).symm.subperm
    rw [Accounted, SinkEvent.finished_wrote]
    exact (Accounts.wrote (e := e) hfirst).subperm (held_perm before after e _ _).subperm
  | @commit sink sink' before after log e w hcommit =>
    have htaken : LawfulSink.taken sink' = LawfulSink.taken sink := by
      rw [← LawfulSink.taken_commit sink w, hcommit]
    rw [Accounted, htaken, SinkEvent.finished_stored]
    refine (Accounts.stored hs).subperm (List.Perm.subperm ?_)
    rw [← List.append_assoc]
    exact (List.perm_append_singleton w _).trans (held_perm before after e w (finished log)).symm
  | @fail sink sink' before after log e w error hcommit =>
    have htaken : LawfulSink.taken sink' = LawfulSink.taken sink := by
      rw [← LawfulSink.taken_commit sink w, hcommit]
    rw [Accounted, htaken]
    have hfirst := hs.subperm (held_perm before after e w (finished log)).symm.subperm
    exact hfirst.subperm (List.sublist_cons_self _ _).subperm
  | @discard sink before after log e w =>
    have hfirst := hs.subperm (held_perm before after e w (finished log)).symm.subperm
    exact hfirst.subperm (List.sublist_cons_self _ _).subperm

theorem accounted_of_reaches {s s' : Workshop ε σ} (h : Reaches s s') (hs : s.Accounted) :
    s'.Accounted := by
  induction h with
  | refl => exact hs
  | tail _ hstep ih => exact accounted_of_step hstep ih

/-- What emitters can rely on, whatever the others do. -/
structure HandsOutOnce (s : Workshop ε σ) : Prop where
  /-- No qualified name was handed out twice. -/
  once : (namesOf s.log).Nodup
  /-- A claim is refused exactly if its name was handed out. -/
  refused_iff : ∀ package name, ArtifactSink.claim s.sink package name = none ↔
    qualify package name ∈ namesOf s.log
  /-- What was stored was handed out, and stored once. -/
  claimed : ∀ w ∈ finished s.log,
    ({ package := w.package, name := w.name } : ArtifactWriter) ∈ handedOut s.log
  storedOnce : ((finished s.log).map (·.qualifiedName)).Nodup
  /-- What was stored under a name is what was written under it. -/
  text : ∀ w ∈ finished s.log, w.source = textOf s.log w.qualifiedName

theorem Accounted.handsOutOnce {s : Workshop ε σ} (h : s.Accounted) : s.HandsOutOnce where
  once := h.once
  refused_iff package name := by rw [LawfulSink.claim_eq_none_iff, h.taken_eq]
  claimed w hw := h.origin w (List.mem_append_right _ hw)
  storedOnce := by
    have hapart := h.apart
    rw [List.map_append] at hapart
    exact hapart.of_append_right
  text w hw := h.text w (List.mem_append_right _ hw)

end

/-! ## What the sinks hold -/

variable {ε : Type}

/-- A memory sink holds the sources of the stored writers, in the order of their storing. -/
def Listed (s : Workshop ε MemoryArtifacts) : Prop :=
  s.sink.entries = (finished s.log).map fun w => (w.qualifiedName, w.source)

theorem listed_of_step {s s' : Workshop ε MemoryArtifacts} (h : Step s s') (hs : s.Accounted)
    (hlisted : s.Listed) : s'.Listed := by
  cases h with
  | refused => exact hlisted
  | @claim sink sink' held log e package name w hclaim =>
    obtain ⟨opened, _, heq⟩ := Option.map_eq_some_iff.1 hclaim
    cases heq
    rw [Listed, SinkEvent.finished_opened]
    exact hlisted
  | write =>
    rw [Listed, SinkEvent.finished_wrote]
    exact hlisted
  | @commit sink sink' before after log e w hcommit =>
    -- the writer was in use, so nothing was stored under its name
    have hnew : w.qualifiedName ∉ sink.names := by
      have hfirst := hs.subperm (held_perm before after e w (finished log)).symm.subperm
      obtain ⟨hother, _⟩ := List.nodup_cons.1 hfirst.apart
      rw [MemoryArtifacts.names_eq_map_entries, show sink.entries = _ from hlisted, List.map_map]
      intro hmem
      refine hother ?_
      rw [List.map_append]
      exact List.mem_append_right _ hmem
    have hsink : sink' = sink.store w.qualifiedName w.source := (Prod.mk.inj hcommit).2.symm
    rw [Listed, SinkEvent.finished_stored, hsink, MemoryArtifacts.entries_store _ hnew,
      List.map_append, show sink.entries = _ from hlisted]
    rfl
  | fail hcommit => cases hcommit
  | discard => exact hlisted

/-- A directory sink lists the files of the stored writers, in the order in which they were
stored. -/
def Written (root : Artifact.Location) (s : Workshop ε DirArtifacts) : Prop :=
  s.sink.root = root ∧
    s.sink.written = (finished s.log).map fun w => DirArtifacts.pathFor root w.package w.name

theorem written_of_step {root : Artifact.Location} {s s' : Workshop ε DirArtifacts}
    (h : Step s s') (hs : s.Written root) : s'.Written root := by
  obtain ⟨hroot, hwritten⟩ := hs
  cases h with
  | refused => exact ⟨hroot, hwritten⟩
  | @claim sink sink' held log e package name w hclaim =>
    obtain ⟨opened, _, heq⟩ := Option.map_eq_some_iff.1 hclaim
    cases heq
    rw [Written, SinkEvent.finished_opened]
    exact ⟨hroot, hwritten⟩
  | write =>
    rw [Written, SinkEvent.finished_wrote]
    exact ⟨hroot, hwritten⟩
  | @commit sink sink' before after log e w hcommit =>
    have hstore : sink.store w = (.ok (), sink') := hcommit
    rw [Written, SinkEvent.finished_stored, List.map_append]
    rcases sink.store_cases w with ⟨tree, heq⟩ | ⟨error, tree, heq⟩
    · rw [hstore] at heq
      cases heq
      exact ⟨hroot, by rw [hroot]; exact congrArg (· ++ _) hwritten⟩
    · rw [hstore] at heq
      cases heq
  | @fail sink sink' before after log e w error hcommit =>
    have hstore : sink.store w = (.error error, sink') := hcommit
    rcases sink.store_cases w with ⟨tree, heq⟩ | ⟨error', tree, heq⟩
    · rw [hstore] at heq
      cases heq
    · rw [hstore] at heq
      cases heq
      exact ⟨hroot, hwritten⟩
  | discard => exact ⟨hroot, hwritten⟩

/-- The log only grows at its end. -/
theorem log_prefix_of_reaches {σ : Type} [ArtifactSink σ] {s s' : Workshop ε σ} (h : Reaches s s') :
    s.log <+: s'.log := by
  induction h with
  | refl => exact List.prefix_refl _
  | tail _ hstep ih =>
    refine ih.trans ?_
    cases hstep with
    | claim => exact List.prefix_append _ _
    | refused => exact List.prefix_refl _
    | write => exact List.prefix_append _ _
    | commit => exact List.prefix_append _ _
    | fail => exact List.prefix_refl _
    | discard => exact List.prefix_refl _

theorem finished_prefix_of_reaches {σ : Type} [ArtifactSink σ] {s s' : Workshop ε σ}
    (h : Reaches s s') : finished s.log <+: finished s'.log :=
  (log_prefix_of_reaches h).filterMap _

theorem listed_of_reaches {s : Workshop ε MemoryArtifacts} (h : Reaches ⟨{}, [], []⟩ s) :
    s.Listed := by
  induction h with
  | refl => rfl
  | tail hbefore hstep ih =>
    exact listed_of_step hstep (accounted_of_reaches hbefore Accounts.nil) ih

theorem written_of_reaches {root : Artifact.Location} {tree : Artifact.FileTree}
    {s : Workshop ε DirArtifacts} (h : Reaches ⟨{ root, tree }, [], []⟩ s) : s.Written root := by
  induction h with
  | refl => exact ⟨rfl, rfl⟩
  | tail _ hstep ih => exact written_of_step hstep ih

end Workshop

open SinkEvent (finished) in
open Workshop (Reaches) in
/-- However emitters interleave at a fresh sink, each name is handed out once.  A memory sink holds
the sources of the stored writers, and a directory sink lists their files, in the order in which
they were stored; what is there stays, and more comes behind it. -/
theorem emitters_share_sink (ε : Type) :
    (∀ s : Workshop ε MemoryArtifacts, Reaches ⟨{}, [], []⟩ s →
      s.HandsOutOnce ∧
      s.sink.entries = (finished s.log).map (fun w => (w.qualifiedName, w.source)) ∧
      ∀ s', Reaches s s' → s.sink.entries <+: s'.sink.entries) ∧
    ∀ (root : Artifact.Location) (tree : Artifact.FileTree) (s : Workshop ε DirArtifacts),
      Reaches ⟨{ root, tree }, [], []⟩ s →
      s.HandsOutOnce ∧
      s.sink.written =
        (finished s.log).map (fun w => DirArtifacts.pathFor root w.package w.name) ∧
      ∀ s', Reaches s s' → s.sink.written <+: s'.sink.written := by
  constructor
  · intro s hs
    have haccounted : s.Accounted := Workshop.accounted_of_reaches hs SinkEvent.Accounts.nil
    have hlisted : s.sink.entries = _ := Workshop.listed_of_reaches hs
    refine ⟨haccounted.handsOutOnce, hlisted, fun s' hs' => ?_⟩
    have hlisted' : s'.sink.entries = _ := Workshop.listed_of_reaches (hs.trans hs')
    rw [hlisted, hlisted']
    exact (Workshop.finished_prefix_of_reaches hs').map _
  · intro root tree s hs
    have haccounted : s.Accounted := Workshop.accounted_of_reaches hs SinkEvent.Accounts.nil
    have hwritten : s.sink.written = _ := (Workshop.written_of_reaches hs).2
    refine ⟨haccounted.handsOutOnce, hwritten, fun s' hs' => ?_⟩
    have hwritten' : s'.sink.written = _ := (Workshop.written_of_reaches (hs.trans hs')).2
    rw [hwritten, hwritten']
    exact (Workshop.finished_prefix_of_reaches hs').map _

def thingWriter : ArtifactWriter := { package := "com.acme", name := "Thing" }

def rootWriter : ArtifactWriter := { package := "", name := "Root" }

def leafWriter : ArtifactWriter := { package := "", name := "Leaf" }

/-- The writer of the root with its line. -/
def writtenRoot : ArtifactWriter := rootWriter.writeLine "// root"

private theorem things_in_memory :
    ∃ s : Workshop Nat MemoryArtifacts, Workshop.Reaches ⟨{}, [], []⟩ s ∧
      ArtifactSink.claim s.sink "com" "acme.Thing" = none ∧
      s.sink.entries = [("Root", "// root\n"), ("com.acme.Thing", "// thing\n")] := by
  let first : MemoryArtifacts := { claims := ⟨["com.acme.Thing"]⟩ }
  let both : MemoryArtifacts := { claims := ⟨["com.acme.Thing", "Root"]⟩ }
  have hthing : ArtifactSink.claim ({} : MemoryArtifacts) "com.acme" "Thing" =
      some (thingWriter, first) := rfl
  have hroot : ArtifactSink.claim first "" "Root" = some (rootWriter, both) := rfl
  have hjoined : ArtifactSink.claim both "com" "acme.Thing" = none := rfl
  have hclaims : Workshop.Reaches (⟨{}, [], []⟩ : Workshop Nat MemoryArtifacts)
      ⟨both, [(2, rootWriter)] ++ (1, thingWriter) :: [], _⟩ :=
    ((ReflTransGen.single (.claim hthing)).tail (.claim hroot)).tail (.refused hjoined)
  -- both write a line, then the second commits before the first
  let thing := thingWriter.writeLine "// thing"
  have hwrites : Workshop.Reaches (⟨{}, [], []⟩ : Workshop Nat MemoryArtifacts)
      ⟨both, [] ++ (2, writtenRoot) :: [(1, thing)], _⟩ :=
    (hclaims.tail .write).tail
      (.write : Workshop.Step ⟨both, [] ++ (2, rootWriter) :: [(1, thing)], _⟩ _)
  have hcommits : Workshop.Reaches (⟨{}, [], []⟩ : Workshop Nat MemoryArtifacts)
      ⟨(both.store "Root" writtenRoot.source).store "com.acme.Thing" thing.source, [] ++ [], _⟩ :=
    (hwrites.tail (.commit rfl)).tail (.commit rfl : Workshop.Step
      ⟨both.store "Root" writtenRoot.source, [] ++ (1, thing) :: [], _⟩ _)
  exact ⟨_, hcommits, hjoined, rfl⟩

/-- A sink at a directory that has a file where the package `com` would go, with names that are
claimed and files that are written. -/
def blockedSink (names : List String) (files : List (String × String)) : DirArtifacts where
  root := ⟨"out"⟩
  claims := ⟨names⟩
  written := files.map fun f => ⟨"out/" ++ f.1⟩
  tree :=
    { directories := [["out"]]
      files := files.foldl (fun written f => written.insert ["out", f.1] f.2)
        (OrderedMap.empty.insert ["out", "com"] "") }

def blockedNames : List String := ["com.acme.Thing", "Root", "Leaf"]

private theorem things_in_directory :
    ∃ s : Workshop Nat DirArtifacts,
      Workshop.Reaches ⟨{ root := ⟨"out"⟩, tree := (blockedSink [] []).tree }, [], []⟩ s ∧
      ArtifactSink.claim s.sink "com" "acme.Thing" = none ∧
      s.sink.written = [⟨"out/Leaf.rs"⟩, ⟨"out/Root.rs"⟩] ∧
      s.sink.tree.read? ⟨"out/Root.rs"⟩ = some "// root\n" := by
  have hthing : ArtifactSink.claim (blockedSink [] []) "com.acme" "Thing" =
      some (thingWriter, blockedSink ["com.acme.Thing"] []) := rfl
  have hroot : ArtifactSink.claim (blockedSink ["com.acme.Thing"] []) "" "Root" =
      some (rootWriter, blockedSink ["com.acme.Thing", "Root"] []) := rfl
  have hleaf : ArtifactSink.claim (blockedSink ["com.acme.Thing", "Root"] []) "" "Leaf" =
      some (leafWriter, blockedSink blockedNames []) := rfl
  have hclaims : Workshop.Reaches (⟨blockedSink [] [], [], []⟩ : Workshop Nat DirArtifacts)
      ⟨blockedSink blockedNames [],
        [(1, leafWriter)] ++ (2, rootWriter) :: [(1, thingWriter)], _⟩ :=
    ((ReflTransGen.single (.claim hthing)).tail (.claim hroot)).tail (.claim hleaf)
  have hwrites : Workshop.Reaches (⟨blockedSink [] [], [], []⟩ : Workshop Nat DirArtifacts)
      ⟨blockedSink blockedNames [],
        [(1, leafWriter)] ++ (2, writtenRoot) :: [(1, thingWriter)], _⟩ :=
    hclaims.tail .write
  -- the last claimed is stored first, and the file in the way of the thing is met at its commit
  have hfirst : ArtifactSink.commit (blockedSink blockedNames []) leafWriter =
      (.ok (), blockedSink blockedNames [("Leaf.rs", "")]) := rfl
  have hblocked : ArtifactSink.commit (blockedSink blockedNames [("Leaf.rs", "")]) thingWriter =
      (.error (.unwritable "com/acme"), blockedSink blockedNames [("Leaf.rs", "")]) := rfl
  have hlast : ArtifactSink.commit (blockedSink blockedNames [("Leaf.rs", "")]) writtenRoot =
      (.ok (), blockedSink blockedNames [("Leaf.rs", ""), ("Root.rs", "// root\n")]) := rfl
  have hcommits : Workshop.Reaches (⟨blockedSink [] [], [], []⟩ : Workshop Nat DirArtifacts)
      ⟨blockedSink blockedNames [("Leaf.rs", ""), ("Root.rs", "// root\n")], [] ++ [], _⟩ :=
    ((hwrites.tail (.commit hfirst : Workshop.Step
      ⟨_, [] ++ (1, leafWriter) :: [(2, writtenRoot), (1, thingWriter)], _⟩ _)).tail
      (.fail hblocked : Workshop.Step
        ⟨_, [(2, writtenRoot)] ++ (1, thingWriter) :: [], _⟩ _)).tail
      (.commit hlast : Workshop.Step ⟨_, [] ++ (2, writtenRoot) :: [], _⟩ _)
  exact ⟨_, hcommits, rfl, rfl, rfl⟩

/-- Emitters work at one sink: none gets a writer for a name that joins to one that was claimed
before, and what is claimed last may be committed first.  A commit that fails leaves no file. -/
theorem emitters_share_things :
    (∃ s : Workshop Nat MemoryArtifacts, Workshop.Reaches ⟨{}, [], []⟩ s ∧
      ArtifactSink.claim s.sink "com" "acme.Thing" = none ∧
      s.sink.entries = [("Root", "// root\n"), ("com.acme.Thing", "// thing\n")] ∧
      s.HandsOutOnce) ∧
    ∃ s : Workshop Nat DirArtifacts,
      Workshop.Reaches ⟨{ root := ⟨"out"⟩, tree := (blockedSink [] []).tree }, [], []⟩ s ∧
      ArtifactSink.claim s.sink "com" "acme.Thing" = none ∧
      s.sink.written = [⟨"out/Leaf.rs"⟩, ⟨"out/Root.rs"⟩] ∧
      s.sink.tree.read? ⟨"out/Root.rs"⟩ = some "// root\n" ∧ s.HandsOutOnce := by
  obtain ⟨hmemory, hdirectory⟩ := emitters_share_sink Nat
  constructor
  · obtain ⟨s, hs, hjoined, hentries⟩ := things_in_memory
    exact ⟨s, hs, hjoined, hentries, (hmemory s hs).1⟩
  · obtain ⟨s, hs, hjoined, hwritten, hread⟩ := things_in_directory
    exact ⟨s, hs, hjoined, hwritten, hread, (hdirectory _ _ s hs).1⟩

end ValidatorForge
