import ValidatorForge.Proofs.Discovery.Accessors
import ValidatorForge.Proofs.Dispatch.Renderable
import ValidatorForge.Proofs.Validation.ClassHandle
import ValidatorForge.Validation.Validator

/-!
# What property access returns

`getProperty` takes the branch of the very class of an object, and in it the arm of the property.
Branches have different classes, so their order does not matter (`getProperty_eq_of_perm`).  The
arms of a branch come from the readable properties of its type, and so from the nearest readers
along the superclasses (`getProperty_of_mem`, with `find?_readableProperties`).

An object is taken only if it can be read as its class.  The theorems are about such objects.
-/

namespace ValidatorForge

open Sample Validation

/-! ## Cached types are declared -/

namespace Host

variable {σ : Type} [ArtifactSink σ] {host : Host}

/-- Every cached type is what the look-up of its name gives. -/
def LookedUp (host : Host) (p : Progress σ) : Prop :=
  ∀ t ∈ p.cache.values, host.lookUp t.name = .ok t

omit [ArtifactSink σ] in
theorem lookedUp_empty (host : Host) (out : Output σ) : host.LookedUp ⟨{}, out⟩ :=
  List.forall_mem_nil _

theorem lookedUp_of_advances {s s' : Search σ} (h : host.Advances s s')
    (hs : host.LookedUp s.progress) : host.LookedUp s'.progress := by
  cases h with
  | record => exact hs
  | hit => exact hs
  | @enter cache out out' ty rest t name hnew hlookUp hemit =>
    have hname := name_of_lookUp hlookUp
    intro t' ht'
    have hmem : t' ∈ (cache.insert t).values := ht'
    rw [TypeCache.values_insert (hname ▸ hnew), List.mem_append, List.mem_singleton] at hmem
    rcases hmem with hold | rfl
    · exact hs t' hold
    · rw [hname, hlookUp]

theorem lookedUp_of_runs {s s' : Search σ} (h : host.Runs s s') (hs : host.LookedUp s.progress) :
    host.LookedUp s'.progress := by
  induction h with
  | refl => exact hs
  | tail _ hstep ih => exact lookedUp_of_advances hstep ih

end Host

namespace DispatchPlan

variable {σ : Type} [ArtifactSink σ] {spec : GenerationSpec} {host : Host} {p p' : Progress σ}
  {plan : DispatchPlan}

theorem lookedUp_of_build (hcache : host.LookedUp p) (h : build spec host p = (.ok plan, p')) :
    host.LookedUp p' := by
  obtain ⟨p₁, hrun, rfl⟩ := runs_of_build h
  have hlookedUp : host.LookedUp p₁ := Host.lookedUp_of_runs hrun hcache
  exact hlookedUp

/-- A type with property access is declared as it was resolved. -/
theorem find?_of_mem_reflected (hcache : host.LookedUp p)
    (h : build spec host p = (.ok plan, p')) {r : ReflectedType} (hr : r ∈ plan.reflected) :
    host.types.find? r.resolved.name = some r.resolved.decl := by
  have hlookUp := lookedUp_of_build hcache h _ (mem_values_of_mem_reflected h hr)
  exact (Host.lookUp_eq_ok_iff.1 hlookUp).2

end DispatchPlan

/-! ## Branches and arms -/

/-- Lists that are related place by place are searched alike. -/
theorem rel_find?_of_forall₂ {α β : Type} {R : α → β → Prop} {f : α → Bool} {g : β → Bool}
    {as : List α} {bs : List β} (h : List.Forall₂ R as bs) (hfg : ∀ a b, R a b → f a = g b) :
    Option.Rel R (as.find? f) (bs.find? g) := by
  induction h with
  | nil => exact Option.Rel.none
  | @cons a b _ _ hhead _ ih =>
    rw [List.find?_cons, List.find?_cons, hfg a b hhead]
    cases g b with
    | true => exact Option.Rel.some hhead
    | false => exact ih

namespace Validation.Validator

variable {σ ν : Type} [ArtifactSink σ] {spec : GenerationSpec} {host : Host} {p p' : Progress σ}
  {plan : DispatchPlan} {v : Validator ν} {bean : Bean ν}

/-- A branch takes an object exactly if it is the one for the object's class. -/
theorem reflects_iff (hd : Dispatcher.ofPlan spec plan = .ok v.dispatcher)
    (hclass : ∀ n ∈ plan.reflectedNames, (v.classOf n).name = n.text)
    (hconcrete : bean.concrete = some bean.handle.type) {r : ReflectedBranch}
    (hr : r ∈ v.dispatcher.reflected) :
    v.reflects bean r = true ↔ r.branch.bean = bean.handle.type := by
  have hreflected : r.branch.bean ∈ plan.reflectedNames := by
    rw [← Dispatcher.reflected_map_bean hd]
    exact List.mem_map_of_mem hr
  have hname : (v.classOf r.branch.bean).name = r.branch.bean.text := hclass _ hreflected
  have hexactly : bean.isExactly (v.classOf r.branch.bean) =
      (bean.handle.name == r.branch.bean.text) := by rw [← hname]; rfl
  rw [reflects, hexactly, hconcrete, Bool.and_eq_true, beq_iff_eq, beq_iff_eq, Option.some.injEq]
  constructor
  · exact fun h => h.2.symm
  · intro hbean
    rw [hbean]
    exact ⟨rfl, rfl⟩

/-- The order of the branches with property access does not matter. -/
theorem getProperty_eq_of_perm (hbuild : DispatchPlan.build spec host p = (.ok plan, p'))
    (hd : Dispatcher.ofPlan spec plan = .ok v.dispatcher)
    (hclass : ∀ n ∈ plan.reflectedNames, (v.classOf n).name = n.text)
    (hconcrete : bean.concrete = some bean.handle.type) {v' : Validator ν}
    (hclassOf : v'.classOf = v.classOf)
    (hperm : v'.dispatcher.reflected.Perm v.dispatcher.reflected) (property : String) :
    v'.getProperty bean property = v.getProperty bean property := by
  have hkeys : (v.dispatcher.reflected.map (·.branch.bean)).Nodup := by
    rw [Dispatcher.reflected_map_bean hd]
    exact DispatchPlan.nodup_reflectedNames hbuild
  have hsame : v'.reflects bean = v.reflects bean := by
    funext r
    rw [reflects, reflects, hclassOf]
  have hfind : v.dispatcher.reflected.find? (v.reflects bean) =
      v'.dispatcher.reflected.find? (v.reflects bean) :=
    find?_eq_of_perm hperm.symm hkeys fun r hr => reflects_iff hd hclass hconcrete hr
  rw [getProperty, getProperty, hsame, ← hfind, hclassOf]

/-- An object of a class without property access is refused. -/
theorem getProperty_of_not_mem (hd : Dispatcher.ofPlan spec plan = .ok v.dispatcher)
    (hclass : ∀ n ∈ plan.reflectedNames, (v.classOf n).name = n.text)
    (hconcrete : bean.concrete = some bean.handle.type)
    (hbean : bean.handle.type ∉ plan.reflectedNames) (property : String) :
    v.getProperty bean property = .error (.classNotReflected bean.handle.name) := by
  have hnone : v.dispatcher.reflected.find? (v.reflects bean) = none := by
    refine List.find?_eq_none.2 fun r hr htakes => hbean ?_
    rw [← (reflects_iff hd hclass hconcrete hr).1 htakes, ← Dispatcher.reflected_map_bean hd]
    exact List.mem_map_of_mem hr
  rw [getProperty, hnone]

/-- An object of a class with property access is read by the method of the nearest reader. -/
theorem getProperty_of_mem (hcache : host.LookedUp p)
    (hbuild : DispatchPlan.build spec host p = (.ok plan, p'))
    (hd : Dispatcher.ofPlan spec plan = .ok v.dispatcher)
    (hclass : ∀ n ∈ plan.reflectedNames, (v.classOf n).name = n.text)
    (hconcrete : bean.concrete = some bean.handle.type)
    (hbean : bean.handle.type ∈ plan.reflectedNames) (property : String) :
    match (host.types.methodsAlong bean.handle.type).find? (·.reads property) with
    | some m => ∃ i, Naming.methodIdent m.name = .ok i ∧
        v.getProperty bean property = .ok (bean.call i.text)
    | none => v.getProperty bean property =
        .error (.noSuchProperty bean.handle.name property) := by
  have hkeys : (v.dispatcher.reflected.map (·.branch.bean)).Nodup := by
    rw [Dispatcher.reflected_map_bean hd]
    exact DispatchPlan.nodup_reflectedNames hbuild
  obtain ⟨r, hr, hname⟩ := List.mem_map.1 hbean
  obtain ⟨rb, hrb, hreflected⟩ := exists_mem_of_forall₂ (Dispatcher.reflected_of_ofPlan hd) r hr
  obtain ⟨hbranch, harms⟩ := Dispatcher.of_reflectedOf hreflected
  have hbeanOf : rb.branch.bean = bean.handle.type :=
    (Dispatcher.bean_of_branchOf hbranch).trans hname
  have hfind : v.dispatcher.reflected.find? (v.reflects bean) = some rb := by
    refine (find?_eq_some_iff_of_key hkeys fun r hr => ?_).2 ⟨hrb, hbeanOf⟩
    exact reflects_iff hd hclass hconcrete hr
  -- the arms are searched as the table of the readable properties is
  have hrel := rel_find?_of_forall₂ (f := fun q => q.name == property)
    (g := fun arm => arm.property == property) harms fun q arm h => by rw [h.1]
  rw [DispatchPlan.properties_of_mem_reflected hbuild hr, ResolvedType.find?_readableProperties
    (DispatchPlan.find?_of_mem_reflected hcache hbuild hr), hname] at hrel
  have hmissing : (v.classOf rb.branch.bean).name = bean.handle.name := by
    rw [hbeanOf, hclass _ hbean]
    rfl
  rw [getProperty, hfind]
  simp only [hmissing]
  cases hreader : (host.types.methodsAlong bean.handle.type).find? (·.reads property) with
  | none =>
    rw [hreader] at hrel
    generalize rb.arms.find? (fun arm => arm.property == property) = found at hrel ⊢
    cases hrel
    rfl
  | some m =>
    have hreads := List.find?_some hreader
    obtain ⟨q, hq, hgetter⟩ := MethodDecl.exists_property?_of_reads hreads
    rw [hreader, Option.bind_some, hq] at hrel
    generalize rb.arms.find? (fun arm => arm.property == property) = found at hrel ⊢
    cases hrel with
    | @some _ arm harm => exact ⟨arm.method, hgetter ▸ harm.2, rfl⟩

end Validation.Validator

/-- On an object that can be read as its class, property access refuses the class exactly if that
has no property access itself, misses the property exactly if no method along the superclasses reads
it, and otherwise calls the method that the nearest reader becomes.  The order of the branches does
not matter. -/
theorem getProperty_calls_nearest_reader {σ ν : Type} [ArtifactSink σ] {spec : GenerationSpec}
    {host : Host} {p p' : Progress σ} {plan : DispatchPlan} {v : Validator ν}
    (hcache : host.LookedUp p) (hbuild : DispatchPlan.build spec host p = (.ok plan, p'))
    (hd : Dispatcher.ofPlan spec plan = .ok v.dispatcher)
    (hclass : ∀ n ∈ plan.reflectedNames, (v.classOf n).name = n.text) (bean : Bean ν)
    (hconcrete : bean.concrete = some bean.handle.type) (property : String) :
    (v.getProperty bean property = .error (.classNotReflected bean.handle.name) ↔
      bean.handle.type ∉ plan.reflectedNames) ∧
    (v.getProperty bean property = .error (.noSuchProperty bean.handle.name property) ↔
      bean.handle.type ∈ plan.reflectedNames ∧
        ∀ m ∈ host.types.methodsAlong bean.handle.type, ¬ m.Reads property) ∧
    (bean.handle.type ∈ plan.reflectedNames →
      ∀ m : MethodDecl, m.IsFirstReader (host.types.methodsAlong bean.handle.type) property →
        ∃ i, Naming.methodIdent m.name = .ok i ∧
          v.getProperty bean property = .ok (bean.call i.text)) ∧
    ∀ v' : Validator ν, v'.classOf = v.classOf →
      v'.dispatcher.reflected.Perm v.dispatcher.reflected →
      v'.getProperty bean property = v.getProperty bean property := by
  have horder : ∀ v' : Validator ν, v'.classOf = v.classOf →
      v'.dispatcher.reflected.Perm v.dispatcher.reflected →
      v'.getProperty bean property = v.getProperty bean property :=
    fun v' hclassOf hperm =>
      Validator.getProperty_eq_of_perm hbuild hd hclass hconcrete hclassOf hperm property
  by_cases hbean : bean.handle.type ∈ plan.reflectedNames
  · have hreads :=
      Validator.getProperty_of_mem hcache hbuild hd hclass hconcrete hbean property
    cases hreader : (host.types.methodsAlong bean.handle.type).find? (·.reads property) with
    | none =>
      rw [hreader] at hreads
      have hnone := MethodDecl.find?_reads_eq_none_iff.1 hreader
      refine ⟨?_, ?_, ?_, horder⟩
      · simp [hreads, hbean]
      · exact ⟨fun _ => ⟨hbean, hnone⟩, fun _ => hreads⟩
      · intro _ m hm
        rw [MethodDecl.find?_reads_eq_some_iff.2 hm] at hreader
        cases hreader
    | some m =>
      rw [hreader] at hreads
      obtain ⟨i, hi, hvalue⟩ := hreads
      refine ⟨?_, ?_, ?_, horder⟩
      · simp [hvalue, hbean]
      · have hfound : ¬ ∀ m ∈ host.types.methodsAlong bean.handle.type, ¬ m.Reads property := by
          rw [← MethodDecl.find?_reads_eq_none_iff, hreader]
          exact Option.some_ne_none m
        simp [hvalue, hfound]
      · intro _ m' hm'
        rw [MethodDecl.find?_reads_eq_some_iff.2 hm'] at hreader
        obtain rfl := Option.some.inj hreader
        exact ⟨i, hi, hvalue⟩
  · have hrefused := Validator.getProperty_of_not_mem hd hclass hconcrete hbean property
    refine ⟨?_, ?_, fun h => absurd h hbean, horder⟩
    · simp [hrefused, hbean]
    · simp [hrefused, hbean]

/-- Beings have a name, and say whether they are alive. -/
def beingDecl : ClassDecl :=
  ((ClassDecl.ofClass ⟨"acme.Being"⟩).withGetter "getName" (.named ⟨"java.lang.String"⟩)).withGetter
    "isAlive" (.primitive "boolean")

/-- Persons are beings with a name of their own.  Their age is asked for a year. -/
def personDecl : ClassDecl :=
  (((ClassDecl.ofClass ⟨"acme.Person"⟩).withSuperclass beingDecl.name).withGetter "getName"
    (.named ⟨"java.lang.String"⟩)).withMethod
    { name := "getAge", params := [.primitive "int"], returns := some (.primitive "int") }

/-- Pilots are persons. -/
def pilotDecl : ClassDecl :=
  ((ClassDecl.ofClass ⟨"acme.Pilot"⟩).withSuperclass personDecl.name).withGetter "getRank"
    (.primitive "int")

/-- A run for persons. -/
def personCall : GenerateCall where
  spec := GenerationSpec.ofTargets (.plain "PersonValidator") personDecl.name []
  types := TypeUniverse.platform.insertAll [beingDecl, personDecl, pilotDecl]
  engine := (DescriptorTable.ofList [.mk personDecl.name [] []]).toEngine

private theorem person_methods :
    personCall.types.methodsAlong personDecl.name = personDecl.methods ++ beingDecl.methods := by
  have hperson : personCall.types.find? personDecl.name = some personDecl := rfl
  have hbeing : personCall.types.find? beingDecl.name = some beingDecl := rfl
  have hbelow : beingDecl.name ∉ [personDecl.name] := by decide
  have hchain : personCall.types.superclassChain personDecl.name = [personDecl, beingDecl] := by
    rw [TypeUniverse.superclassChain, TypeUniverse.chainFrom_of_find? hperson List.not_mem_nil]
    show personDecl :: personCall.types.chainFrom [personDecl.name] beingDecl.name = _
    rw [TypeUniverse.chainFrom_of_find? hbeing hbelow]
    rfl
  rw [TypeUniverse.methodsAlong, hchain]
  rfl

/-- The object of a class without supertypes, whose methods return what `call` says. -/
def plainBean (ty : TypeName) (call : String → String) : Bean String :=
  ⟨.make ty.text none [], some ty, call⟩

/-- A dispatcher linked with classes without supertypes. -/
def plainValidator (d : Dispatcher) : Validator String :=
  lenientlyLinked (fun ty => .make ty.text none []) d

/-- Persons are asked whether they are alive by the method of beings.  They have no age that can be
read, and pilots are not reflected although they are persons. -/
theorem person_properties_are_read :
    ∃ (plan : DispatchPlan) (d : Dispatcher), Dispatcher.ofPlan personCall.spec plan = .ok d ∧
      ∀ call : String → String,
        (plainValidator d).getProperty (plainBean personDecl.name call) "alive" =
          .ok (call "is_alive") ∧
        (plainValidator d).getProperty (plainBean personDecl.name call) "age" =
          .error (.noSuchProperty "acme.Person" "age") ∧
        (plainValidator d).getProperty (plainBean pilotDecl.name call) "name" =
          .error (.classNotReflected "acme.Pilot") := by
  have hclosed : personCall.isClosedOver [personDecl.name] = true := by decide +kernel
  obtain ⟨plan, p, d, _, _, hplan, hd, _⟩ :=
    GenerateCall.exists_run_of_isClosedOver hclosed { sink := {} }
  have hreflected : ∀ n, n ∈ plan.reflectedNames ↔ n = personDecl.name := by
    intro n
    have hcached : n ∈ plan.reflectedNames ↔ n ∈ p.cache.names :=
      (DispatchPlan.reflectedNames_perm hplan).mem_iff
    rw [hcached, GenerateCall.mem_names_iff_reaches hplan]
    constructor
    · intro hex
      obtain ⟨ty, hty, hreach⟩ := hex
      exact List.mem_singleton.1 (Host.mem_of_reaches_of_isClosedList rfl hty hreach)
    · intro hn
      exact ⟨personDecl.name, List.mem_cons_self, hn ▸ Relation.ReflTransGen.refl⟩
  refine ⟨plan, d, hd, fun call => ?_⟩
  have hclass : ∀ n ∈ plan.reflectedNames, ((plainValidator d).classOf n).name = n.text :=
    fun _ _ => rfl
  have hstart : personCall.host.LookedUp (⟨{}, { sink := {} }⟩ : Progress MemoryArtifacts) :=
    List.forall_mem_nil _
  have hreads := fun ty property => getProperty_calls_nearest_reader (v := plainValidator d)
    hstart hplan hd hclass (plainBean ty call) rfl property
  obtain ⟨_, _, hperson, _⟩ := hreads personDecl.name "alive"
  obtain ⟨_, hmissing, _⟩ := hreads personDecl.name "age"
  obtain ⟨hpilot, _⟩ := hreads pilotDecl.name "name"
  have hpersons : personDecl.name ∈ plan.reflectedNames := (hreflected _).2 rfl
  refine ⟨?_, hmissing.2 ⟨hpersons, ?_⟩, hpilot.2 fun hpilots => ?_⟩
  · have hnearest : MethodDecl.IsFirstReader
        { name := "isAlive", returns := some (.primitive "boolean") }
        (personCall.types.methodsAlong personDecl.name) "alive" := by
      refine ⟨personDecl.methods ++ beingDecl.methods.take 1, [], person_methods, ?_, ?_⟩
      · decide
      · decide
    obtain ⟨i, hi, hvalue⟩ := hperson hpersons _ hnearest
    have hmethod : Naming.methodIdent "isAlive" = .ok (.plain "is_alive") := rfl
    rw [hmethod] at hi
    obtain rfl := Except.ok.inj hi
    exact hvalue
  · show ∀ m ∈ personCall.types.methodsAlong personDecl.name, ¬ m.Reads "age"
    rw [person_methods]
    decide
  · have hsame := (hreflected pilotDecl.name).1 hpilots
    exact absurd hsame (by decide)

end ValidatorForge
