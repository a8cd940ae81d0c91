import ValidatorForge.Proofs.Dispatch.PropertyAccess

/-!
# Which types a plan covers

A plan from an empty cache covers the targets of its spec, and reads the properties of the types
that are listed for it, or of all that the targets reach (`DispatchPlan.covers_of_build`).  Each
type stands in it once and after its subtypes.

Repeats in a spec do not matter.  A spec that lists one repeated name less is planned alike
(`DispatchPlan.build_of_shortens`), and step by step a spec loses all its repeats
(`GenerationSpec.shortens_withoutRepeats`).
-/

namespace ValidatorForge

open Relation Sample

/-! ## Lists that lose repeats -/

/-- A list loses one element, which stands before it as well. -/
inductive LosesRepeat {α : Type} : List α → List α → Prop
  | drop {front back : List α} {a : α} (ha : a ∈ front) :
    LosesRepeat (front ++ a :: back) (front ++ back)

section

variable {α : Type} [DecidableEq α]

/-- The distinct elements stay, in the order of their first places. -/
theorem eraseDups_of_losesRepeat {l l' : List α} (h : LosesRepeat l l') :
    l'.eraseDups = l.eraseDups := by
  cases h with
  | drop ha =>
    rw [List.eraseDups_append, List.eraseDups_append, List.cons_removeAll,
      if_neg (by simpa using ha)]

/-- Behind a front, a list loses what repeats the front or itself. -/
theorem losesRepeats_append (front l : List α) :
    ReflTransGen LosesRepeat (front ++ l) (front ++ (l.removeAll front).eraseDups) := by
  induction l generalizing front with
  | nil => exact ReflTransGen.refl
  | cons b rest ih =>
    rw [List.cons_removeAll]
    by_cases hb : b ∈ front
    · rw [if_neg (by simpa using hb)]
      exact ReflTransGen.head (LosesRepeat.drop hb) (ih front)
    · have hnext :
          rest.removeAll (front ++ [b]) = (rest.removeAll front).filter fun c => !c == b := by
        rw [List.removeAll, List.removeAll, List.filter_filter]
        refine List.filter_congr fun c _ => ?_
        simp [Bool.and_comm, beq_eq_decide]
      have hrest := ih (front ++ [b])
      rw [hnext, List.append_assoc, List.append_assoc] at hrest
      rw [if_pos (by simpa using hb), List.eraseDups_cons]
      exact hrest

/-- Step by step, a list loses all its repeats. -/
theorem losesRepeats_eraseDups (l : List α) : ReflTransGen LosesRepeat l l.eraseDups := by
  have h := losesRepeats_append [] l
  rwa [List.removeAll_nil] at h

end

/-! ## Specs that lose repeats -/

namespace GenerationSpec

/-- A spec lists a target, a type with property access or a group once less, but keeps it where it
is listed first. -/
inductive Shortens : GenerationSpec → GenerationSpec → Prop
  | target {spec : GenerationSpec} {names : List TypeName} (h : LosesRepeat spec.targets names) :
    Shortens spec { spec with targets := names }
  | reflect {spec : GenerationSpec} {names : List TypeName} (h : LosesRepeat spec.reflect names) :
    Shortens spec { spec with reflect := names }
  | group {spec : GenerationSpec} {names : List TypeName} (h : LosesRepeat spec.groups names) :
    Shortens spec { spec with groups := names }

/-- The spec that lists each name once. -/
def withoutRepeats (spec : GenerationSpec) : GenerationSpec :=
  { spec with
    targets := spec.targets.eraseDups
    reflect := spec.reflect.eraseDups
    groups := spec.groups.eraseDups }

/-- Step by step, a spec loses all its repeats. -/
theorem shortens_withoutRepeats (spec : GenerationSpec) :
    ReflTransGen Shortens spec spec.withoutRepeats := by
  let oneTarget : GenerationSpec := { spec with targets := spec.targets.eraseDups }
  let oneType : GenerationSpec := { oneTarget with reflect := spec.reflect.eraseDups }
  calc
    ReflTransGen Shortens spec oneTarget :=
      (losesRepeats_eraseDups spec.targets).lift (fun names => { spec with targets := names })
        fun _ _ h => Shortens.target h
    ReflTransGen Shortens oneTarget oneType :=
      (losesRepeats_eraseDups spec.reflect).lift (fun names => { oneTarget with reflect := names })
        fun _ _ h => Shortens.reflect h
    ReflTransGen Shortens oneType spec.withoutRepeats :=
      (losesRepeats_eraseDups spec.groups).lift (fun names => { oneType with groups := names })
        fun _ _ h => Shortens.group h

end GenerationSpec

namespace DispatchPlan

variable {σ : Type} [ArtifactSink σ] {spec spec' : GenerationSpec} {host : Host}
  {p p' : Progress σ} {plan : DispatchPlan}

/-- A shortened spec is planned alike. -/
theorem build_of_shortens (h : spec.Shortens spec') : build spec' host p = build spec host p := by
  cases h with
  | target h => simp only [build, eraseDups_of_losesRepeat h]
  | reflect h => simp only [build, eraseDups_of_losesRepeat h]
  | group h => simp only [build, eraseDups_of_losesRepeat h]

/-- So is a spec that is shortened again and again. -/
theorem build_of_shortened (h : ReflTransGen GenerationSpec.Shortens spec spec') :
    build spec' host p = build spec host p := by
  induction h with
  | refl => rfl
  | tail _ hstep ih => rw [build_of_shortens hstep, ih]

/-! ## What a plan covers -/

/-- A plan covers a spec: it has the types that the spec asks for, each once and none after one of
its strict supertypes. -/
structure Covers (plan : DispatchPlan) (spec : GenerationSpec) (host : Host) : Prop where
  ordered_nodup : plan.orderedNames.Nodup
  /-- The planned types are the targets. -/
  mem_ordered : ∀ n, n ∈ plan.orderedNames ↔ n ∈ spec.targets
  reflected_nodup : plan.reflectedNames.Nodup
  /-- The types with property access are the listed ones. -/
  mem_reflected_of_listed : spec.reflect ≠ [] → ∀ n, n ∈ plan.reflectedNames ↔ n ∈ spec.reflect
  /-- If none are listed, they are what the targets reach along cascades. -/
  mem_reflected_of_unlisted : spec.reflect = [] →
    ∀ n, n ∈ plan.reflectedNames ↔ ∃ t ∈ spec.targets, host.Reaches t n
  ordered_lookedUp : ∀ t ∈ plan.ordered, host.lookUp t.name = .ok t
  reflected_lookedUp : ∀ r ∈ plan.reflected, host.lookUp r.resolved.name = .ok r.resolved
  ordered_specificFirst : host.types.SpecificFirst ResolvedType.name plan.ordered
  reflected_specificFirst :
    host.types.SpecificFirst (fun r : ReflectedType => r.resolved.name) plan.reflected

/-- A plan from an empty cache covers its spec. -/
theorem covers_of_build {out : Output σ} (h : build spec host ⟨{}, out⟩ = (.ok plan, p')) :
    plan.Covers spec host where
  ordered_nodup := nodup_orderedNames h
  mem_ordered _ := mem_orderedNames_iff h
  reflected_nodup := nodup_reflectedNames h
  mem_reflected_of_listed hlisted n := by
    rw [(reflectedNames_perm h).mem_iff, if_neg hlisted, List.mem_eraseDups]
  mem_reflected_of_unlisted hnone n := by
    rw [(reflectedNames_perm h).mem_iff, if_pos hnone, mem_names_iff_reaches rfl h, hnone,
      List.append_nil]
  ordered_lookedUp t ht :=
    lookedUp_of_build (host.lookedUp_empty out) h t (mem_values_of_mem_ordered h ht)
  reflected_lookedUp r hr :=
    lookedUp_of_build (host.lookedUp_empty out) h r.resolved (mem_values_of_mem_reflected h hr)
  ordered_specificFirst := specificFirst_ordered h
  reflected_specificFirst := specificFirst_reflected h

/-- A plan from an empty cache covers its spec: it has the distinct targets, and for property access
the distinct listed types, or if there are none what the targets reach; each of them once, and none
after one of its strict supertypes.  A spec that loses repeats leads to the same plan. -/
theorem plan_covers_spec {out : Output σ} (h : build spec host ⟨{}, out⟩ = (.ok plan, p')) :
    plan.Covers spec host ∧
      ∀ spec', ReflTransGen GenerationSpec.Shortens spec spec' →
        build spec' host ⟨{}, out⟩ = (.ok plan, p') :=
  ⟨covers_of_build h, fun _ hshortened => (build_of_shortened hshortened).trans h⟩

/-- The plan for machines, robots and machines again is that for machines and robots.  It has the
robots first, and reads the properties of their fleets too. -/
theorem machines_are_planned_once :
    ∃ (plan : DispatchPlan) (p' : Progress MemoryArtifacts),
      build fleetSpec fleetHost ⟨{}, { sink := {} }⟩ = (.ok plan, p') ∧
      build fleetSpec.withoutRepeats fleetHost ⟨{}, { sink := {} }⟩ = (.ok plan, p') ∧
      fleetSpec.withoutRepeats.targets = [machineType, robotType] ∧
      ¬ List.Sublist [machineType, robotType] plan.orderedNames ∧
      fleetType ∈ plan.reflectedNames := by
  obtain ⟨plan, p', hbuild⟩ := build_fleet ⟨{}, { sink := {} }⟩
  obtain ⟨hcovers, hsame⟩ := plan_covers_spec hbuild
  refine ⟨plan, p', hbuild, hsame _ fleetSpec.shortens_withoutRepeats, rfl, ?_, ?_⟩
  · intro hbefore
    have hfirst : plan.orderedNames.Pairwise fun a b => ¬ fleetHost.types.StrictlyInherits b a :=
      List.pairwise_map.2 hcovers.ordered_specificFirst
    have hpair := List.rel_of_pairwise_cons (hfirst.sublist hbefore) List.mem_cons_self
    refine hpair ⟨ReflTransGen.single (by decide), fun hback => ?_⟩
    have hnone : fleetHost.types.directSupertypes machineType = [] := by decide
    exact absurd (TypeUniverse.eq_of_inherits_of_nil hnone hback) (by decide)
  · obtain ⟨t, hlookUp, hvisit⟩ : ∃ t, fleetHost.lookUp robotType = .ok t ∧
        .visit fleetType ∈ fleetHost.steps t := ⟨_, rfl, by decide⟩
    have hreach := Host.reaches_of_visit_mem_steps hlookUp hvisit
    exact (hcovers.mem_reflected_of_unlisted rfl fleetType).2 ⟨robotType, by decide, hreach⟩

end DispatchPlan

end ValidatorForge
