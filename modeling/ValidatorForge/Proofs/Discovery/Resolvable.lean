import ValidatorForge.Proofs.Artifact.Emission
import ValidatorForge.Proofs.Discovery.Closure
import ValidatorForge.Sample.Fleet

/-!
# When discovery succeeds

A type can be resolved by itself if the engine describes it, the host declares it, and its validator
has a name in the emitted language.  A search into a memory sink stops only at a type that cannot
(`exists_not_resolvable_of_stops`).  So it finishes whenever everything that the requested types
reach can be resolved (`resolve_total`, `resolveAll_total`).  For a finite part of a host that can
be computed (`isClosedList`).
-/

namespace ValidatorForge

open Relation

theorem exists_eq_ok_of_isOk {ε α : Type} {x : Except ε α} (h : x.isOk = true) :
    ∃ a, x = .ok a := by
  cases x with
  | ok a => exact ⟨a, rfl⟩
  | error e => cases h

/-- The marker of a type can be built if the name of its validator is an identifier. -/
theorem ResolvedType.marker_body_eq_ok_iff {t : ResolvedType} :
    (∃ body, t.marker.body = .ok body) ↔ ∃ i, Naming.ident t.outputName = .ok i := by
  rw [body_marker]
  cases Naming.ident t.outputName with
  | ok i => exact ⟨fun _ => ⟨i, rfl⟩, fun _ => ⟨_, rfl⟩⟩
  | error e =>
    constructor
    · intro hex
      obtain ⟨body, h⟩ := hex
      cases h
    · intro hex
      obtain ⟨i, h⟩ := hex
      cases h

namespace Host

/-- The type can be looked up, and its marker can be built. -/
def Resolvable (host : Host) (n : TypeName) : Prop :=
  ∃ t, host.lookUp n = .ok t ∧ ∃ body, t.marker.body = .ok body

/-- Everything that the type reaches, itself included, can be resolved. -/
def Clean (host : Host) (ty : TypeName) : Prop := ∀ n, host.Reaches ty n → host.Resolvable n

variable {host : Host}

namespace Clean

variable {ty n : TypeName}

theorem resolvable (h : host.Clean ty) : host.Resolvable ty := h ty ReflTransGen.refl

theorem of_reaches (h : host.Clean ty) (hn : host.Reaches ty n) : host.Clean n :=
  fun _ hm => h _ (hn.trans hm)

theorem of_cascadesTo (h : host.Clean ty) (hn : host.CascadesTo ty n) : host.Clean n :=
  h.of_reaches (ReflTransGen.single hn)

end Clean

/-! ## A check for clean types -/

/-- Whether a step visits only listed types. -/
def staysIn (tys : List TypeName) : Step → Bool
  | .visit n => tys.contains n
  | .record _ => true

/-- Whether all listed types can be resolved, and their cascades lead to listed types only. -/
def isClosedList (host : Host) (tys : List TypeName) : Bool :=
  tys.all fun ty =>
    match host.lookUp ty with
    | .ok t => t.marker.body.isOk && (host.steps t).all (staysIn tys)
    | .error _ => false

private theorem of_isClosedList {tys : List TypeName} (h : host.isClosedList tys = true)
    {ty : TypeName} (hty : ty ∈ tys) :
    ∃ t, host.lookUp ty = .ok t ∧ (∃ body, t.marker.body = .ok body) ∧
      ∀ n, .visit n ∈ host.steps t → n ∈ tys := by
  have hone := List.all_eq_true.1 h ty hty
  cases hlookUp : host.lookUp ty with
  | error e => simp [hlookUp] at hone
  | ok t =>
    rw [hlookUp, Bool.and_eq_true, List.all_eq_true] at hone
    obtain ⟨hbody, hsteps⟩ := hone
    exact ⟨t, rfl, exists_eq_ok_of_isOk hbody, fun n hn => List.contains_iff_mem.1 (hsteps _ hn)⟩

/-- The types of a closed list reach only each other. -/
theorem mem_of_reaches_of_isClosedList {tys : List TypeName} (h : host.isClosedList tys = true)
    {ty n : TypeName} (hty : ty ∈ tys) (hn : host.Reaches ty n) : n ∈ tys := by
  induction hn with
  | refl => exact hty
  | tail _ hcascade ih =>
    obtain ⟨t, hlookUp, _, hsteps⟩ := of_isClosedList h ih
    exact hsteps _ ((visit_mem_steps_iff hlookUp).2 hcascade)

/-- The types of a closed list are clean. -/
theorem clean_of_isClosedList {tys : List TypeName} (h : host.isClosedList tys = true) :
    ∀ ty ∈ tys, host.Clean ty := by
  intro ty hty n hn
  have hmem : n ∈ tys := mem_of_reaches_of_isClosedList h hty hn
  obtain ⟨t, hlookUp, hbody, _⟩ := of_isClosedList h hmem
  exact ⟨t, hlookUp, hbody⟩

/-- The types of the sample fleet are clean, although their cascades go round in a circle. -/
theorem clean_fleet : ∀ ty ∈ Sample.fleetTypes, Sample.fleetHost.Clean ty :=
  clean_of_isClosedList rfl

/-! ## Searches that finish -/

/-- A search stops at a type that cannot be resolved. -/
theorem exists_not_resolvable_of_stops {s : Search MemoryArtifacts} {e : GenerateError}
    {p : Progress MemoryArtifacts} (h : host.Stops s e p) :
    ∃ ty rest, s.pending = .visit ty :: rest ∧ ¬ host.Resolvable ty := by
  cases h with
  | @lookUp cache out ty rest e hnew hlookUp =>
    refine ⟨ty, rest, rfl, ?_⟩
    intro hex
    obtain ⟨t, ht, _⟩ := hex
    rw [hlookUp] at ht
    cases ht
  | @marker cache out out' ty rest t e hnew hlookUp hemit =>
    refine ⟨ty, rest, rfl, ?_⟩
    intro hex
    obtain ⟨t', ht, body, hbody⟩ := hex
    obtain rfl : t = t' := Except.ok.inj (hlookUp.symm.trans ht)
    rw [Output.body_of_emit_error hemit] at hbody
    cases hbody

/-- A search that has only clean types ahead does not stop. -/
theorem not_stops_of_clean {tys : List TypeName} (hclean : ∀ ty ∈ tys, host.Clean ty)
    {p p' : Progress MemoryArtifacts} {s : Search MemoryArtifacts} {e : GenerateError}
    (hrun : host.Runs ⟨p, tys.map .visit⟩ s) : ¬ host.Stops s e p' := by
  intro hstop
  obtain ⟨ty, rest, hpending, hnot⟩ := exists_not_resolvable_of_stops hstop
  have hvisits : Search.OnlyVisits host.Clean (⟨p, tys.map .visit⟩ : Search MemoryArtifacts) := by
    intro n hn
    obtain ⟨ty', hty', heq⟩ := List.mem_map.1 hn
    cases heq
    exact hclean n hty'
  have hclosed : ∀ n m, host.Clean n → host.CascadesTo n m → host.Clean m :=
    fun _ _ hn hnm => hn.of_cascadesTo hnm
  refine hnot (Clean.resolvable (onlyVisits_of_runs hclosed hrun hvisits ty ?_))
  rw [hpending]
  exact List.mem_cons_self

/-- A clean type is resolved, whatever was resolved before. -/
theorem resolve_total {ty : TypeName} (h : host.Clean ty) (p : Progress MemoryArtifacts) :
    ∃ e p', host.resolve ty p = (.ok e, p') := by
  cases hresolve : host.resolve ty p with
  | mk r p' =>
    cases r with
    | ok e => exact ⟨e, p', rfl⟩
    | error e =>
      obtain ⟨s, hrun, hstop⟩ := resolve_error hresolve
      have hclean : ∀ n ∈ [ty], host.Clean n := fun n hn => List.mem_singleton.1 hn ▸ h
      exact absurd hstop (not_stops_of_clean hclean hrun)

/-- Clean types are resolved one after the other. -/
theorem resolveAll_total {tys : List TypeName} (h : ∀ ty ∈ tys, host.Clean ty)
    (p : Progress MemoryArtifacts) : ∃ es p', host.resolveAll tys p = (.ok es, p') := by
  cases hresolve : host.resolveAll tys p with
  | mk r p' =>
    cases r with
    | ok es => exact ⟨es, p', rfl⟩
    | error e =>
      obtain ⟨s, hrun, hstop⟩ := resolveAll_error hresolve
      exact absurd hstop (not_stops_of_clean h hrun)

end Host

end ValidatorForge
