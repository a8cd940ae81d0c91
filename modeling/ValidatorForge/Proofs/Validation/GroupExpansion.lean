import Mathlib.Data.List.Induction
import Mathlib.Data.List.Nodup
import ValidatorForge.Validation.GroupChain

/-!
# Extending a request for groups

A request is expanded class by class.  `StandsFor` says what one class brings along: a sequence its
members, any other class itself and its parents, both looked up in the first entry of that name
(`mem_standsFor_iff`).  Nothing is assumed of the entries; a name may be registered twice, or as a
group and as a sequence.

All that a request stands for goes through `pushUnique`, which keeps the first class of each name.

* One step adds a name that is not there and changes nothing else (`mem_names_pushUnique`,
  `nodup_names_pushUnique`).  From it follows what a whole list of steps leaves.
* What is pushed onto some classes is what would be pushed onto none, less the names that are there
  (`foldl_pushUnique`).  So a longer request only adds groups behind those of the shorter one.
-/

namespace ValidatorForge.Validation.GroupChain

variable {g : GroupChain} {c d : ClassHandle} {out cs xs ys : List ClassHandle}
  {entries : List (ClassHandle × List ClassHandle)} {others : List ClassHandle}

/-! ## What a class stands for -/

/-- The classes that were registered with the first entry of the name of `c`. -/
def IsFirstEntry (entries : List (ClassHandle × List ClassHandle)) (c : ClassHandle)
    (others : List ClassHandle) : Prop :=
  ∃ before group after, entries = before ++ (group, others) :: after ∧ group.name = c.name ∧
    ∀ e ∈ before, e.1.name ≠ c.name

/-- A search by name finds the first entry. -/
theorem map_find?_eq_some_iff :
    (entries.find? (·.1 == c)).map (·.2) = some others ↔ IsFirstEntry entries c others := by
  simp only [Option.map_eq_some_iff, List.find?_eq_some_iff_append, ClassHandle.beq_iff,
    Bool.not_eq_true', ← Bool.not_eq_true]
  constructor
  · rintro ⟨⟨group, _⟩, ⟨hname, before, after, hentries, hbefore⟩, rfl⟩
    exact ⟨before, group, after, hentries, hname, hbefore⟩
  · rintro ⟨before, group, after, hentries, hname, hbefore⟩
    exact ⟨(group, others), ⟨hname, before, after, hentries, hbefore⟩, rfl⟩

/-- The classes that a requested class brings along. -/
inductive StandsFor (g : GroupChain) (c : ClassHandle) : ClassHandle → Prop
  /-- A member of a sequence. -/
  | member {members : List ClassHandle} {d : ClassHandle}
    (hfirst : IsFirstEntry g.sequenceEntries c members) (hd : d ∈ members) : StandsFor g c d
  /-- A class that is no sequence. -/
  | group (hplain : g.isSequence c = false) : StandsFor g c c
  /-- A parent of a class that is no sequence. -/
  | parent {parents : List ClassHandle} {d : ClassHandle} (hplain : g.isSequence c = false)
    (hfirst : IsFirstEntry g.groupEntries c parents) (hd : d ∈ parents) : StandsFor g c d

/-- A sequence is a class with members, though there may be none in the list. -/
theorem isSequence_eq_isSome_members? : g.isSequence c = (g.members? c).isSome := by
  rw [isSequence, members?, Option.isSome_map, List.isSome_find?]

theorem mem_standsFor_iff : d ∈ g.standsFor c ↔ StandsFor g c d := by
  have hsequence := isSequence_eq_isSome_members? (g := g) (c := c)
  rw [standsFor]
  cases hmembers : g.members? c with
  | some members =>
    rw [hmembers] at hsequence
    constructor
    · exact .member (map_find?_eq_some_iff.1 hmembers)
    · intro h
      cases h with
      | member hfirst hd =>
        rw [Option.some.inj (hmembers.symm.trans (map_find?_eq_some_iff.2 hfirst))]
        exact hd
      | group hplain | parent hplain => simp [hplain] at hsequence
  | none =>
    rw [hmembers] at hsequence
    constructor
    · intro h
      rcases List.mem_cons.1 h with rfl | hparent
      · exact .group hsequence
      · cases hparents : g.parents? c with
        | none => simp [hparents] at hparent
        | some parents =>
          rw [hparents] at hparent
          exact .parent hsequence (map_find?_eq_some_iff.1 hparents) hparent
    · intro h
      cases h with
      | member hfirst =>
        have hsome : g.members? c = some _ := map_find?_eq_some_iff.2 hfirst
        simp [hmembers] at hsome
      | group => exact List.mem_cons_self
      | parent _ hfirst hd =>
        have hparents : g.parents? c = some _ := map_find?_eq_some_iff.2 hfirst
        rw [hparents]
        exact List.mem_cons_of_mem _ hd

/-! ## One step -/

theorem mem_names_pushUnique {n : String} :
    n ∈ (pushUnique out c).map (·.name) ↔ n ∈ out.map (·.name) ∨ n = c.name := by
  by_cases hmem : c.name ∈ out.map (·.name)
  · rw [pushUnique_of_mem hmem]
    exact ⟨Or.inl, fun h => h.elim id fun heq => heq ▸ hmem⟩
  · rw [pushUnique_of_not_mem hmem, List.map_append, List.mem_append, List.map_singleton,
      List.mem_singleton]

theorem nodup_names_pushUnique (h : (out.map (·.name)).Nodup) :
    ((pushUnique out c).map (·.name)).Nodup := by
  by_cases hmem : c.name ∈ out.map (·.name)
  · rwa [pushUnique_of_mem hmem]
  · rw [pushUnique_of_not_mem hmem, List.map_append, List.map_singleton, ← List.concat_eq_append]
    exact h.concat hmem

theorem mem_of_mem_pushUnique (h : d ∈ pushUnique out c) : d ∈ out ∨ d = c := by
  by_cases hmem : c.name ∈ out.map (·.name)
  · rw [pushUnique_of_mem hmem] at h
    exact Or.inl h
  · rw [pushUnique_of_not_mem hmem] at h
    simpa using h

/-! ## All steps -/

theorem mem_names_foldl_pushUnique {n : String} :
    n ∈ (cs.foldl pushUnique out).map (·.name) ↔ n ∈ out.map (·.name) ∨ n ∈ cs.map (·.name) := by
  induction cs generalizing out with
  | nil => simp
  | cons c rest ih => rw [List.foldl_cons, ih, mem_names_pushUnique, List.map_cons, List.mem_cons,
      or_assoc]

theorem nodup_names_foldl_pushUnique (h : (out.map (·.name)).Nodup) :
    ((cs.foldl pushUnique out).map (·.name)).Nodup := by
  induction cs generalizing out with
  | nil => exact h
  | cons c rest ih => exact ih (nodup_names_pushUnique h)

theorem mem_of_mem_foldl_pushUnique (h : d ∈ cs.foldl pushUnique out) : d ∈ out ∨ d ∈ cs := by
  induction cs generalizing out with
  | nil => exact Or.inl h
  | cons c rest ih =>
    rcases ih h with hpushed | hrest
    · rcases mem_of_mem_pushUnique hpushed with hout | rfl
      · exact Or.inl hout
      · exact Or.inr List.mem_cons_self
    · exact Or.inr (List.mem_cons_of_mem _ hrest)

/-- Pushing onto classes adds what pushing onto none would give, less the names that are there. -/
theorem foldl_pushUnique (cs out : List ClassHandle) :
    cs.foldl pushUnique out =
      out ++ (cs.foldl pushUnique []).filter fun d => d.name ∉ out.map (·.name) := by
  induction cs using List.reverseRecOn with
  | nil => simp
  | append_singleton cs c ih =>
    rw [List.foldl_concat, List.foldl_concat]
    by_cases hnew : c.name ∈ (cs.foldl pushUnique []).map (·.name)
    · -- the name is among those pushed before, or hidden by one that was there
      have hold : c.name ∈ (cs.foldl pushUnique out).map (·.name) :=
        mem_names_foldl_pushUnique.2 (Or.inr (by simpa using mem_names_foldl_pushUnique.1 hnew))
      rw [pushUnique_of_mem hnew, pushUnique_of_mem hold, ih]
    · have hcs : c.name ∉ cs.map (·.name) :=
        fun h => hnew (mem_names_foldl_pushUnique.2 (Or.inr h))
      rw [pushUnique_of_not_mem hnew, List.filter_append]
      by_cases hout : c.name ∈ out.map (·.name)
      · rw [pushUnique_of_mem (mem_names_foldl_pushUnique.2 (Or.inl hout)), ih,
          List.filter_cons_of_neg (by simpa using hout)]
        simp
      · have hnone : c.name ∉ (cs.foldl pushUnique out).map (·.name) :=
          fun h => (mem_names_foldl_pushUnique.1 h).elim hout hcs
        rw [pushUnique_of_not_mem hnone, ih, List.filter_cons_of_pos (by simpa using hout),
          List.append_assoc]
        rfl

/-! ## Requests -/

/-- Expanding a request lists each name once.  A name is listed if a class of that name is one that
a requested class stands for, and every listed class is such a one.  A longer request lists the same
classes in the same places, and behind them what else its other part lists, in the order of that
part. -/
theorem expand_extends_request (g : GroupChain) (xs ys : List ClassHandle) :
    ((g.expand xs).map (·.name)).Nodup ∧
      (∀ n, n ∈ (g.expand xs).map (·.name) ↔ ∃ c ∈ xs, ∃ d, g.StandsFor c d ∧ d.name = n) ∧
      (∀ d ∈ g.expand xs, ∃ c ∈ xs, g.StandsFor c d) ∧
      g.expand (xs ++ ys) =
        g.expand xs ++ (g.expand ys).filter (fun d => d.name ∉ (g.expand xs).map (·.name)) ∧
      g.expand xs <+: g.expand (xs ++ ys) := by
  have hstands : ∀ d, d ∈ xs.flatMap g.standsFor ↔ ∃ c ∈ xs, g.StandsFor c d := by
    intro d
    simp only [List.mem_flatMap, mem_standsFor_iff]
  have happend : g.expand (xs ++ ys) =
      g.expand xs ++ (g.expand ys).filter fun d => d.name ∉ (g.expand xs).map (·.name) := by
    rw [expand, List.flatMap_append, List.foldl_append, foldl_pushUnique]
    rfl
  refine ⟨nodup_names_foldl_pushUnique List.nodup_nil, fun n => ?_, fun d hd => ?_, happend,
    happend ▸ List.prefix_append _ _⟩
  · rw [expand, mem_names_foldl_pushUnique]
    simp only [List.map_nil, List.not_mem_nil, false_or, List.mem_map, hstands]
    constructor
    · rintro ⟨d, ⟨c, hc, hd⟩, hname⟩
      exact ⟨c, hc, d, hd, hname⟩
    · rintro ⟨c, hc, d, hd, hname⟩
      exact ⟨d, ⟨c, hc, hd⟩, hname⟩
  · have hlisted := mem_of_mem_foldl_pushUnique hd
    simpa [hstands] using hlisted

/-- A group that is requested, inherited and a member, and a sequence that lists itself. -/
example :
    let strict := ClassHandle.make "acme.Strict" none []
    let basic := ClassHandle.make "acme.Basic" none []
    let ordered := ClassHandle.make "acme.Ordered" none []
    let g := (({} : GroupChain).addGroup strict [basic]).addSequence ordered [basic, ordered]
    (g.expand [strict, ordered, basic]).map (·.name) =
      ["acme.Strict", "acme.Basic", "acme.Ordered"] := rfl

end ValidatorForge.Validation.GroupChain
