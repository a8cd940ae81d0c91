import ValidatorForge.Proofs.Discovery.Reachability
import ValidatorForge.Proofs.Discovery.Search

/-!
# Invariants of discovery

Two invariants of a search.  `OnlyVisits` bounds it from above: whatever it is to visit has a
property that cascades hand on.  `Followed` bounds it from below: the cascades of each cached type
lead to types that are cached or still to be visited.  A cached type may be under way, so that its
element is visited later; `Awaits` therefore keeps, besides the pending visit, what may come before
it.  That is what a failure is read against.

* `onlyVisits_of_runs` and `followed_of_runs`: runs keep both.
* `cached_or_of_runs`: what a run adds to the cache has the property.
* `cached_of_finished_cascade`: at the end of a run the cache is closed under cascades.
* `mem_names_iff_of_finished`: a finished run from an empty cache has cached what the visited types
  reach, and nothing else.
-/

namespace ValidatorForge

open Relation

variable {σ : Type} [ArtifactSink σ]

namespace Search

/-! ## The upper bound -/

/-- All types that are to be visited have a property. -/
def OnlyVisits (P : TypeName → Prop) (s : Search σ) : Prop := ∀ n, .visit n ∈ s.pending → P n

/-! ## The lower bound -/

/-- A step list visits `m`, and whatever it visits before is reached from `n`. -/
def Ahead (host : Host) (n m : TypeName) (steps : List Step) : Prop :=
  ∃ before after, steps = before ++ .visit m :: after ∧ ∀ k, .visit k ∈ before → host.Reaches n k

/-- The search has reached `m`, or will do so through types that `n` reaches. -/
def Awaits (host : Host) (s : Search σ) (n m : TypeName) : Prop :=
  m ∈ s.cached ∨ Ahead host n m s.pending

/-- The search follows the cascades of all cached types with a property. -/
def Followed (host : Host) (P : TypeName → Prop) (s : Search σ) : Prop :=
  ∀ n ∈ s.cached, P n → ∀ m, host.CascadesTo n m → Awaits host s n m

variable {host : Host} {n m : TypeName}

theorem not_ahead_nil : ¬ Ahead host n m [] := by
  intro hex
  obtain ⟨before, after, heq, _⟩ := hex
  simp at heq

/-- The head of a step list is the awaited visit, or may come before it. -/
theorem Ahead.head_or_tail {step : Step} {rest : List Step} (h : Ahead host n m (step :: rest)) :
    step = .visit m ∨ (∀ k, step = .visit k → host.Reaches n k) ∧ Ahead host n m rest := by
  obtain ⟨before, after, heq, hbefore⟩ := h
  cases before with
  | nil => exact Or.inl (List.cons.inj heq).1
  | cons first more =>
    obtain ⟨rfl, rfl⟩ := List.cons.inj heq
    refine Or.inr ⟨fun k hk => hbefore k (hk ▸ List.mem_cons_self), more, after, rfl, ?_⟩
    exact fun k hk => hbefore k (List.mem_cons_of_mem _ hk)

/-- Steps that visit what `n` reaches may be put in front. -/
theorem Ahead.append_left {front rest : List Step} (h : Ahead host n m rest)
    (hfront : ∀ k, .visit k ∈ front → host.Reaches n k) : Ahead host n m (front ++ rest) := by
  obtain ⟨before, after, rfl, hbefore⟩ := h
  refine ⟨front ++ before, after, (List.append_assoc _ _ _).symm, fun k hk => ?_⟩
  rcases List.mem_append.1 hk with hk | hk
  · exact hfront k hk
  · exact hbefore k hk

theorem ahead_of_mem {front rest : List Step} (hm : .visit m ∈ front)
    (hfront : ∀ k, .visit k ∈ front → host.Reaches n k) : Ahead host n m (front ++ rest) := by
  obtain ⟨before, after, rfl⟩ := List.append_of_mem hm
  refine ⟨before, after ++ rest, ?_, fun k hk => hfront k (List.mem_append_left _ hk)⟩
  rw [List.append_assoc, List.cons_append]

end Search

namespace Host

open Search

variable {host : Host} {P : TypeName → Prop}

/-! ## What a step keeps -/

/-- The steps of a type visit only what it reaches. -/
theorem reaches_of_visit_mem_steps {ty n : TypeName} {t : ResolvedType}
    (hlookUp : host.lookUp ty = .ok t) (hn : .visit n ∈ host.steps t) : host.Reaches ty n :=
  ReflTransGen.single ((visit_mem_steps_iff hlookUp).1 hn)

theorem onlyVisits_of_advances (hclosed : ∀ n m, P n → host.CascadesTo n m → P m)
    {s s' : Search σ} (h : host.Advances s s') (hs : s.OnlyVisits P) : s'.OnlyVisits P := by
  intro n hn
  cases h with
  | record => exact hs n (List.mem_cons_of_mem _ hn)
  | hit => exact hs n (List.mem_cons_of_mem _ hn)
  | @enter cache out out' ty rest t name hnew hlookUp hemit =>
    rcases List.mem_append.1 hn with hn | hn
    · exact hclosed ty n (hs ty List.mem_cons_self) ((visit_mem_steps_iff hlookUp).1 hn)
    · exact hs n (List.mem_cons_of_mem _ hn)

theorem onlyVisits_of_runs (hclosed : ∀ n m, P n → host.CascadesTo n m → P m)
    {s s' : Search σ} (h : host.Runs s s') (hs : s.OnlyVisits P) : s'.OnlyVisits P := by
  induction h with
  | refl => exact hs
  | tail _ hstep ih => exact onlyVisits_of_advances hclosed hstep ih

/-- What a run adds to the cache has the property of what it was to visit. -/
theorem cached_or_of_runs (hclosed : ∀ n m, P n → host.CascadesTo n m → P m)
    {s s' : Search σ} (h : host.Runs s s') (hs : s.OnlyVisits P) {n : TypeName}
    (hn : n ∈ s'.cached) : n ∈ s.cached ∨ P n := by
  induction h with
  | refl => exact Or.inl hn
  | tail hrun hstep ih =>
    cases hstep with
    | record => exact ih hn
    | hit => exact ih hn
    | enter hnew hlookUp hemit =>
      rcases (TypeCache.mem_names_insert _ _ _).1 hn with rfl | hn
      · rw [name_of_lookUp hlookUp]
        exact Or.inr (onlyVisits_of_runs hclosed hrun hs _ List.mem_cons_self)
      · exact ih hn

/-- What is awaited stays awaited until it is cached. -/
theorem awaits_of_advances {s s' : Search σ} (h : host.Advances s s') {n m : TypeName}
    (ha : Awaits host s n m) : Awaits host s' n m := by
  rcases ha with hm | ha
  · exact Or.inl (cached_of_advances h hm)
  · cases h with
    | record =>
      rcases ha.head_or_tail with heq | ⟨_, htail⟩
      · cases heq
      · exact Or.inr htail
    | hit hcached =>
      rcases ha.head_or_tail with heq | ⟨_, htail⟩
      · cases heq
        exact Or.inl hcached
      · exact Or.inr htail
    | enter hnew hlookUp hemit =>
      rcases ha.head_or_tail with heq | ⟨hhead, htail⟩
      · cases heq
        exact Or.inl ((TypeCache.mem_names_insert _ _ _).2 (Or.inl (name_of_lookUp hlookUp).symm))
      · refine Or.inr (htail.append_left fun k hk => ?_)
        exact (hhead _ rfl).trans (reaches_of_visit_mem_steps hlookUp hk)

theorem followed_of_advances {s s' : Search σ} (h : host.Advances s s')
    (hf : s.Followed host P) : s'.Followed host P := by
  intro n hn hP m hnm
  by_cases hold : n ∈ s.cached
  · exact awaits_of_advances h (hf n hold hP m hnm)
  · cases h with
    | record => exact absurd hn hold
    | hit => exact absurd hn hold
    | @enter cache out out' ty rest t name hnew hlookUp hemit =>
      -- the new type puts its own cascades ahead
      obtain rfl : n = ty := by
        rcases (TypeCache.mem_names_insert _ _ _).1 hn with rfl | hn
        · exact name_of_lookUp hlookUp
        · exact absurd hn hold
      have hm := (visit_mem_steps_iff hlookUp).2 hnm
      exact Or.inr (ahead_of_mem hm fun k hk => reaches_of_visit_mem_steps hlookUp hk)

theorem followed_of_runs {s s' : Search σ} (h : host.Runs s s')
    (hf : s.Followed host P) : s'.Followed host P := by
  induction h with
  | refl => exact hf
  | tail _ hstep ih => exact followed_of_advances hstep ih

/-- At the end of a run nothing is awaited any more. -/
theorem cached_of_finished_cascade {s : Search σ} {p : Progress σ} (h : host.Runs s ⟨p, []⟩)
    (hf : s.Followed host P) {n m : TypeName} (hn : n ∈ p.cache.names) (hP : P n)
    (hnm : host.CascadesTo n m) : m ∈ p.cache.names := by
  rcases followed_of_runs h hf n hn hP m hnm with hm | hahead
  · exact hm
  · exact absurd hahead not_ahead_nil

/-! ## Runs from an empty cache -/

omit [ArtifactSink σ] in
/-- Without cached types there is nothing to follow yet. -/
theorem followed_of_empty {s : Search σ} (h : s.cached = []) : s.Followed host P := by
  intro n hn
  rw [h] at hn
  exact absurd hn List.not_mem_nil

omit [ArtifactSink σ] in
/-- A search that is to visit types visits what they reach. -/
theorem onlyVisits_reached {p : Progress σ} (tys : List TypeName) :
    Search.OnlyVisits (fun n => ∃ ty ∈ tys, host.Reaches ty n) ⟨p, tys.map .visit⟩ := by
  intro n hn
  obtain ⟨ty, hty, heq⟩ := List.mem_map.1 hn
  cases heq
  exact ⟨n, hty, ReflTransGen.refl⟩

/-- What is reached stays reached along cascades. -/
theorem exists_reaches_of_cascadesTo {tys : List TypeName} (n m : TypeName)
    (hn : ∃ ty ∈ tys, host.Reaches ty n) (hnm : host.CascadesTo n m) :
    ∃ ty ∈ tys, host.Reaches ty m := by
  obtain ⟨ty, hty, hreach⟩ := hn
  exact ⟨ty, hty, hreach.tail hnm⟩

/-- A finished run from an empty cache has cached what the visited types reach. -/
theorem mem_names_iff_of_finished {tys : List TypeName} {p p' : Progress σ}
    (hempty : p.cache.names = []) (h : host.Runs ⟨p, tys.map .visit⟩ ⟨p', []⟩) {n : TypeName} :
    n ∈ p'.cache.names ↔ ∃ ty ∈ tys, host.Reaches ty n := by
  constructor
  · intro hn
    rcases cached_or_of_runs exists_reaches_of_cascadesTo h (onlyVisits_reached tys) hn with
      hold | hreached
    · have hcached : n ∈ p.cache.names := hold
      rw [hempty] at hcached
      exact absurd hcached List.not_mem_nil
    · exact hreached
  · intro hex
    obtain ⟨ty, hty, hreach⟩ := hex
    induction hreach with
    | refl => exact cached_of_finished h (List.mem_map_of_mem hty)
    | tail _ hcascade ih =>
      have hf : Search.Followed host (fun _ => True) (⟨p, tys.map .visit⟩ : Search σ) :=
        followed_of_empty hempty
      exact cached_of_finished_cascade h hf ih trivial hcascade

end Host

end ValidatorForge
