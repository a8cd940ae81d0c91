import Mathlib.Logic.Relation
import ValidatorForge.Discovery.Resolve

/-!
# What cascades lead to

`CascadesTo` states the edges of the graph that discovery searches, by the descriptor and the
declaration of a type alone.  `visit_mem_steps_iff` says that the steps of a resolved type visit
exactly the types at the ends of its edges.  `Reaches` is the reflexive transitive closure.
-/

namespace ValidatorForge.Host

open Relation

/-- A cascade leads from one type to another. -/
inductive CascadesTo (host : Host) (owner element : TypeName) : Prop
  /-- A property that is no container leads to its own type, if the engine has that constrained. -/
  | plain {d : BeanDescriptor} {p : PropertyDescriptor}
      (hdescribe : host.engine.describe owner = .ok d) (hp : p ∈ d.cascadedProperties)
      (hplain : host.types.isContainer host.roots p.elementClass = false)
      (herasure : p.elementClass.erasure = some element)
      (hconstrained : host.engine.isConstrained element = true)
  /-- A container property leads to the element type of its field, and to that of its getter. -/
  | container {d : BeanDescriptor} {decl : ClassDecl} {p : PropertyDescriptor} {via : Access}
      {ty : TypeRef}
      (hdescribe : host.engine.describe owner = .ok d) (hdecl : host.types.find? owner = some decl)
      (hp : p ∈ d.cascadedProperties)
      (hcontainer : host.types.isContainer host.roots p.elementClass = true)
      (helement : ResolvedType.associationElement host.types ⟨decl, d⟩ p.name via = some ty)
      (herasure : ty.erasure = some element)

/-- A type reaches itself, and every type that a chain of cascades leads to. -/
def Reaches (host : Host) : TypeName → TypeName → Prop := ReflTransGen host.CascadesTo

variable {host : Host} {t : ResolvedType} {p : PropertyDescriptor} {element : TypeName}

/-! ## The visits of a step list -/

theorem visit_mem_plainSteps_iff :
    .visit element ∈ host.plainSteps t p ↔
      p.elementClass.erasure = some element ∧ host.engine.isConstrained element = true := by
  unfold plainSteps
  cases herasure : p.elementClass.erasure with
  | none => simp
  | some ty =>
    by_cases hconstrained : host.engine.isConstrained ty = true
    · simp only [hconstrained, if_true, List.mem_cons, List.not_mem_nil, or_false, reduceCtorEq,
        false_or, Step.visit.injEq, Option.some.injEq]
      constructor
      · intro heq
        obtain rfl := heq
        exact ⟨rfl, hconstrained⟩
      · exact fun h => h.1.symm
    · simp only [hconstrained, if_false, List.mem_cons, List.not_mem_nil, or_false, reduceCtorEq,
        Option.some.injEq, false_iff, not_and]
      intro heq
      obtain rfl := heq
      exact hconstrained

theorem visit_mem_accessSteps_iff {via : Access} :
    .visit element ∈ host.accessSteps t p via ↔ host.containerElement t p via = some element := by
  unfold accessSteps
  rw [List.mem_append]
  constructor
  · intro hor
    rcases hor with h | h
    · split at h <;> simp at h
    · split at h
      · next ty hty =>
        simp only [List.mem_cons, List.not_mem_nil, or_false, reduceCtorEq, false_or,
          Step.visit.injEq] at h
        rw [hty, h]
      · simp at h
  · intro h
    rw [h]
    simp

theorem visit_mem_containerSteps_iff :
    .visit element ∈ host.containerSteps t p ↔
      ∃ via, host.containerElement t p via = some element := by
  unfold containerSteps
  simp only [List.mem_append, visit_mem_accessSteps_iff]
  constructor
  · intro hor
    rcases hor with (h | h) | h
    · exact ⟨.field, h⟩
    · exact ⟨.getter, h⟩
    · split at h <;> simp at h
  · intro hex
    obtain ⟨via, h⟩ := hex
    cases via with
    | field => exact Or.inl (Or.inl h)
    | getter => exact Or.inl (Or.inr h)

theorem visit_mem_propertySteps_iff :
    .visit element ∈ host.propertySteps t p ↔
      host.unwraps p = false ∧ p.elementClass.erasure = some element ∧
          host.engine.isConstrained element = true ∨
        host.unwraps p = true ∧ ∃ via, host.containerElement t p via = some element := by
  unfold propertySteps
  cases hunwraps : host.unwraps p with
  | false => simp [visit_mem_plainSteps_iff]
  | true => simp [visit_mem_containerSteps_iff]

/-- The steps of a resolved type visit the ends of its cascades. -/
theorem visit_mem_steps_iff {owner : TypeName} (hlookUp : host.lookUp owner = .ok t) :
    .visit element ∈ host.steps t ↔ host.CascadesTo owner element := by
  obtain ⟨hdescribe, hdecl⟩ := lookUp_eq_ok_iff.1 hlookUp
  unfold steps
  rw [List.mem_flatMap]
  constructor
  · intro hex
    obtain ⟨p, hp, hvisit⟩ := hex
    rcases visit_mem_propertySteps_iff.1 hvisit with ⟨hplain, herasure, hconstrained⟩ | hcontainer
    · exact CascadesTo.plain hdescribe hp hplain herasure hconstrained
    · obtain ⟨hunwraps, via, helement⟩ := hcontainer
      obtain ⟨ty, hty, herasure⟩ := Option.bind_eq_some_iff.1 helement
      exact CascadesTo.container hdescribe hdecl hp hunwraps hty herasure
  · intro h
    cases h with
    | @plain d p hd hp hplain herasure hconstrained =>
      obtain rfl : d = t.descriptor := Except.ok.inj (hd.symm.trans hdescribe)
      exact ⟨p, hp, visit_mem_propertySteps_iff.2 (Or.inl ⟨hplain, herasure, hconstrained⟩)⟩
    | @container d decl p via ty hd hc hp hunwraps helement herasure =>
      obtain rfl : d = t.descriptor := Except.ok.inj (hd.symm.trans hdescribe)
      obtain rfl : decl = t.decl := Option.some.inj (hc.symm.trans hdecl)
      refine ⟨p, hp, visit_mem_propertySteps_iff.2 (Or.inr ⟨hunwraps, via, ?_⟩)⟩
      exact Option.bind_eq_some_iff.2 ⟨ty, helement, herasure⟩

end ValidatorForge.Host
