import ValidatorForge.Proofs.Discovery.Properties
import ValidatorForge.Validation.Validator

/-!
# The chain of registered groups

A validator registers its group steps one after the other and then searches the entries by the names
of classes.  This module says what a search finds, for steps with distinct names.

* Registration.  `foldl_registerGroup` follows the entries through a list of steps: each kind is
  kept in order, and apart from the other.
* Search.  `find?_entries` is the one search lemma, of which `members?_ofSteps`, `parents?_ofSteps`
  and `isSequence_ofSteps` are the cases.
* Expansion.  `foldl_pushUnique_map` follows the classes that a request stands for, and
  `expand_ofSteps` is the result.

Classes are compared by name, so all of this needs classes that have the names of their types
(`IsNamed`).
-/

namespace ValidatorForge

open Validation

/-- The types that a step mentions: its group and those that belong to it. -/
def GroupStep.mentioned (step : GroupStep) : List TypeName := step.name :: step.others

/-- What a request for the group of a step stands for: the members of a sequence, or a plain group
and its parents. -/
def GroupStep.standsFor : GroupStep → List TypeName
  | group name parents => name :: parents
  | sequence _ members => members

theorem GroupStep.mem_mentioned_of_mem_standsFor {step : GroupStep} {ty : TypeName}
    (h : ty ∈ step.standsFor) : ty ∈ step.mentioned := by
  cases step with
  | group name parents => exact h
  | sequence name members => exact List.mem_cons_of_mem _ h

namespace Validation

/-! ## Classes and their names -/

/-- The class of each listed type has the name of the type. -/
def IsNamed (classOf : TypeName → ClassHandle) (tys : List TypeName) : Prop :=
  ∀ ty ∈ tys, (classOf ty).name = ty.text

/-- Classes that have the names of their types have one name for one type only. -/
theorem IsNamed.eq_of_name_eq {classOf : TypeName → ClassHandle} {tys : List TypeName}
    {a b : TypeName} (h : IsNamed classOf tys) (ha : a ∈ tys) (hb : b ∈ tys)
    (hname : (classOf a).name = (classOf b).name) : a = b := by
  rw [h a ha, h b hb] at hname
  exact congrArg TypeName.mk hname

/-- So they are equal for equal types only. -/
theorem IsNamed.beq_eq {classOf : TypeName → ClassHandle} {tys : List TypeName} {a b : TypeName}
    (h : IsNamed classOf tys) (ha : a ∈ tys) (hb : b ∈ tys) :
    (classOf a == classOf b) = (a == b) := by
  rw [Bool.eq_iff_iff, ClassHandle.beq_iff, beq_iff_eq]
  constructor
  · exact h.eq_of_name_eq ha hb
  · rintro rfl
    rfl

namespace GroupChain

variable {classOf : TypeName → ClassHandle} {steps : List GroupStep} {step : GroupStep}

/-! ## Registration -/

/-- The entry of a step. -/
def entryOf (classOf : TypeName → ClassHandle) (step : GroupStep) :
    ClassHandle × List ClassHandle :=
  (classOf step.name, step.others.map classOf)

/-- The chain of a list of steps. -/
def ofSteps (classOf : TypeName → ClassHandle) (steps : List GroupStep) : GroupChain :=
  steps.foldl (Validator.registerGroup classOf) {}

/-- Steps are registered behind the entries of their kind that are there. -/
theorem foldl_registerGroup (steps : List GroupStep) (chain : GroupChain) :
    steps.foldl (Validator.registerGroup classOf) chain =
      { groupEntries := chain.groupEntries ++
          (steps.filter fun s => !s.isSequence).map (entryOf classOf)
        sequenceEntries := chain.sequenceEntries ++
          (steps.filter (·.isSequence)).map (entryOf classOf) } := by
  induction steps generalizing chain with
  | nil => simp
  | cons s rest ih =>
    rw [List.foldl_cons, ih]
    cases s with
    | group name parents =>
      simp [Validator.registerGroup, addGroup, entryOf, GroupStep.isSequence, GroupStep.name,
        GroupStep.others]
    | sequence name members =>
      simp [Validator.registerGroup, addSequence, entryOf, GroupStep.isSequence, GroupStep.name,
        GroupStep.others]

theorem groupEntries_ofSteps : (ofSteps classOf steps).groupEntries =
    (steps.filter fun s => !s.isSequence).map (entryOf classOf) :=
  congrArg groupEntries (foldl_registerGroup steps {})

theorem sequenceEntries_ofSteps : (ofSteps classOf steps).sequenceEntries =
    (steps.filter (·.isSequence)).map (entryOf classOf) :=
  congrArg sequenceEntries (foldl_registerGroup steps {})

theorem groups_ofSteps : (ofSteps classOf steps).groups =
    (steps.filter fun s => !s.isSequence).map fun s => classOf s.name := by
  rw [groups, groupEntries_ofSteps, List.map_map]
  rfl

theorem sequences_ofSteps : (ofSteps classOf steps).sequences =
    (steps.filter (·.isSequence)).map fun s => classOf s.name := by
  rw [sequences, sequenceEntries_ofSteps, List.map_map]
  rfl

/-! ## Search -/

/-- Among the entries of one kind, a search for the class of a step finds the entry of that step, if
the step is of that kind, and nothing otherwise. -/
theorem find?_entries (kind : GroupStep → Bool) (hnodup : (steps.map (·.name)).Nodup)
    (hnamed : IsNamed classOf (steps.map (·.name))) (hstep : step ∈ steps) :
    ((steps.filter kind).map (entryOf classOf)).find? (·.1 == classOf step.name) =
      if kind step then some (entryOf classOf step) else none := by
  have hmatch : ∀ s ∈ steps.filter kind,
      ((entryOf classOf s).1 == classOf step.name) = true ↔ s.name = step.name := by
    intro s hs
    have hs' : s.name ∈ steps.map (·.name) :=
      List.mem_map_of_mem (List.mem_filter.1 hs).1
    have hbeq := hnamed.beq_eq hs' (List.mem_map_of_mem hstep)
    show (classOf s.name == classOf step.name) = true ↔ _
    rw [hbeq, beq_iff_eq]
  rw [List.find?_map]
  cases hkind : kind step with
  | true =>
    have hkeys : ((steps.filter kind).map (·.name)).Nodup :=
      hnodup.sublist (List.filter_sublist.map _)
    have hfind := (find?_eq_some_iff_of_key hkeys hmatch).2
      ⟨List.mem_filter.2 ⟨hstep, hkind⟩, rfl⟩
    exact congrArg (Option.map (entryOf classOf)) hfind
  | false =>
    have hnone : (steps.filter kind).find?
        ((fun e => e.1 == classOf step.name) ∘ entryOf classOf) = none := by
      refine List.find?_eq_none.2 fun s hs hfound => ?_
      obtain ⟨hs', hkind'⟩ := List.mem_filter.1 hs
      -- of the two kinds there is only one step with that name
      have heq : s = step := List.inj_on_of_nodup_map hnodup hs' hstep ((hmatch s hs).1 hfound)
      rw [heq, hkind] at hkind'
      cases hkind'
    rw [hnone]
    rfl

section

variable (hnodup : (steps.map (·.name)).Nodup) (hnamed : IsNamed classOf (steps.map (·.name)))
  (hstep : step ∈ steps)

include hnodup hnamed hstep

theorem members?_ofSteps : (ofSteps classOf steps).members? (classOf step.name) =
    if step.isSequence then some (step.others.map classOf) else none := by
  rw [members?, sequenceEntries_ofSteps, find?_entries _ hnodup hnamed hstep]
  cases step <;> rfl

theorem parents?_ofSteps : (ofSteps classOf steps).parents? (classOf step.name) =
    if step.isSequence then none else some (step.others.map classOf) := by
  rw [parents?, groupEntries_ofSteps, find?_entries _ hnodup hnamed hstep]
  cases step <;> rfl

theorem isSequence_ofSteps :
    (ofSteps classOf steps).isSequence (classOf step.name) = step.isSequence := by
  have hfind := find?_entries (·.isSequence) hnodup hnamed hstep
  rw [isSequence, sequenceEntries_ofSteps, ← List.isSome_find?, hfind]
  cases step <;> rfl

/-- What the chain puts in the place of the class of a step. -/
theorem standsFor_ofSteps :
    (ofSteps classOf steps).standsFor (classOf step.name) = step.standsFor.map classOf := by
  rw [standsFor, members?_ofSteps hnodup hnamed hstep, parents?_ofSteps hnodup hnamed hstep]
  cases step <;> rfl

end

/-! ## Expansion -/

/-- The classes are pushed that are not there, once each. -/
theorem foldl_pushUnique_map {tys : List TypeName} (hnamed : IsNamed classOf tys)
    {seen names : List TypeName} (hseen : ∀ ty ∈ seen, ty ∈ tys) (hnames : ∀ ty ∈ names, ty ∈ tys) :
    (names.map classOf).foldl pushUnique (seen.map classOf) =
      (seen ++ (names.filter (· ∉ seen)).eraseDups).map classOf := by
  induction names generalizing seen with
  | nil => simp
  | cons ty rest ih =>
    obtain ⟨hty, hrest⟩ := List.forall_mem_cons.1 hnames
    have hname : (classOf ty).name ∈ (seen.map classOf).map (·.name) ↔ ty ∈ seen := by
      simp only [List.map_map, List.mem_map, Function.comp_apply]
      constructor
      · rintro ⟨s, hs, heq⟩
        exact (hnamed.eq_of_name_eq (hseen s hs) hty heq) ▸ hs
      · exact fun hmem => ⟨ty, hmem, rfl⟩
    rw [List.map_cons, List.foldl_cons]
    by_cases hmem : ty ∈ seen
    · rw [pushUnique_of_mem (hname.2 hmem), List.filter_cons_of_neg (by simpa using hmem)]
      exact ih hseen hrest
    · have hseen' : ∀ s ∈ seen ++ [ty], s ∈ tys :=
        List.forall_mem_append.2 ⟨hseen, List.forall_mem_singleton.2 hty⟩
      have hpushed := ih hseen' hrest
      rw [List.map_append, List.append_assoc] at hpushed
      have hfilter : rest.filter (· ∉ seen ++ [ty]) =
          rest.filter fun s => !s == ty && decide (s ∉ seen) := by
        refine List.filter_congr fun s _ => Bool.eq_iff_iff.2 ?_
        simp [and_comm]
      rw [pushUnique_of_not_mem (hname.not.2 hmem), List.filter_cons_of_pos (by simpa using hmem),
        List.eraseDups_cons, List.filter_filter, ← hfilter]
      exact hpushed

/-- A request for registered groups stands for what their steps stand for, each class at its first
place. -/
theorem expand_ofSteps (hnodup : (steps.map (·.name)).Nodup)
    (hnamed : IsNamed classOf (steps.flatMap (·.mentioned))) {requested : List GroupStep}
    (hrequested : ∀ s ∈ requested, s ∈ steps) :
    (ofSteps classOf steps).expand (requested.map fun s => classOf s.name) =
      (requested.flatMap (·.standsFor)).eraseDups.map classOf := by
  have hnames : IsNamed classOf (steps.map (·.name)) := by
    intro ty hty
    obtain ⟨s, hs, rfl⟩ := List.mem_map.1 hty
    exact hnamed s.name (List.mem_flatMap.2 ⟨s, hs, List.mem_cons_self⟩)
  have hmentioned : ∀ ty ∈ requested.flatMap (·.standsFor), ty ∈ steps.flatMap (·.mentioned) := by
    intro ty hty
    obtain ⟨s, hs, hstands⟩ := List.mem_flatMap.1 hty
    exact List.mem_flatMap.2
      ⟨s, hrequested s hs, GroupStep.mem_mentioned_of_mem_standsFor hstands⟩
  have hstandsFor : (requested.map fun s => classOf s.name).flatMap
      (ofSteps classOf steps).standsFor = (requested.flatMap (·.standsFor)).map classOf := by
    rw [List.flatMap_map, List.map_flatMap]
    exact List.flatMap_congr fun s hs => standsFor_ofSteps hnodup hnames (hrequested s hs)
  have hpushed := foldl_pushUnique_map hnamed (List.forall_mem_nil _) hmentioned
  rw [expand, hstandsFor]
  simpa using hpushed

end GroupChain

end Validation

end ValidatorForge
