import ValidatorForge.Proofs.Discovery.PropertyTable
import ValidatorForge.Proofs.Dispatch.PropertyAccess
import ValidatorForge.Proofs.Naming.MethodWords

/-!
# Whether the properties of a type have methods of their own

The arm of a property calls the method that its getter becomes.  Different properties have different
getters (`nodup_getters_readableProperties`), but a getter may become the method of another one, and
then the two properties are read alike.  `emitted_methods_separate_iff` says when no two properties
of a type share a method: exactly if the words of their getters differ in lower case, and so in
particular if all getters are in camel case.

`link_properties_share_method` is a run for a type that has the properties `URL` and `url`.
-/

namespace ValidatorForge

open Validation

/-! ## Getters -/

/-- A name of an accessor determines the property that is read. -/
theorem MethodDecl.Reads.property_eq {m m' : MethodDecl} {property property' : String}
    (h : m.Reads property) (h' : m'.Reads property') (hname : m.name = m'.name) :
    property = property' := by
  obtain ⟨_, suffix, _, _, hsuffix, rfl⟩ := h.named
  obtain ⟨_, suffix', _, _, hsuffix', rfl⟩ := h'.named
  have hsame : suffix = suffix' := by
    rw [hname] at hsuffix
    rcases hsuffix with hget | ⟨his, _⟩ <;> rcases hsuffix' with hget' | ⟨his', _⟩ <;> simp_all
  rw [hsame]

namespace ResolvedType

variable {u : TypeUniverse} {t : ResolvedType} {q q' : ReadableProperty}

/-- A readable property is read by a method that is named like its getter. -/
theorem exists_reads_of_mem_readableProperties (hq : q ∈ t.readableProperties u) :
    ∃ m : MethodDecl, m.Reads q.name ∧ q.getter = m.name := by
  obtain ⟨_, _, m, _, hlisted⟩ := exists_method_of_mem_readableProperties hq
  obtain ⟨hreads, hgetter, _⟩ := MethodDecl.property?_eq_some_iff.1 hlisted
  exact ⟨m, hreads, hgetter⟩

/-- No two readable properties have the same getter. -/
theorem nodup_getters_readableProperties : ((t.readableProperties u).map (·.getter)).Nodup := by
  refine List.pairwise_map.2 ((List.pairwise_map.1 nodup_names_readableProperties).imp_of_mem ?_)
  intro q q' hq hq' hname hgetter
  obtain ⟨m, hreads, hm⟩ := exists_reads_of_mem_readableProperties hq
  obtain ⟨m', hreads', hm'⟩ := exists_reads_of_mem_readableProperties hq'
  exact hname (hreads.property_eq hreads' (hm.symm.trans (hgetter.trans hm')))

end ResolvedType

/-! ## Methods -/

/-- Lists that are related place by place are both without repeats or neither is, if their members
repeat each other in the same places. -/
theorem nodup_map_iff_of_forall₂ {α β γ δ : Type} {R : α → β → Prop} {f : α → γ} {g : β → δ}
    {as : List α} {bs : List β} (h : List.Forall₂ R as bs)
    (hR : ∀ a b a' b', R a b → R a' b' → (f a = f a' ↔ g b = g b')) :
    (as.map f).Nodup ↔ (bs.map g).Nodup := by
  induction h with
  | nil => exact iff_of_true List.nodup_nil List.nodup_nil
  | @cons a b as bs hhead htail ih =>
    have hmem : f a ∈ as.map f ↔ g b ∈ bs.map g := by
      constructor
      · intro hmem
        obtain ⟨a', ha', heq⟩ := List.mem_map.1 hmem
        obtain ⟨b', hb', hrel⟩ := exists_mem_of_forall₂ htail a' ha'
        exact List.mem_map.2 ⟨b', hb', (hR _ _ _ _ hrel hhead).1 heq⟩
      · intro hmem
        obtain ⟨b', hb', heq⟩ := List.mem_map.1 hmem
        obtain ⟨a', ha', hrel⟩ := exists_mem_of_forall₂ htail.flip b' hb'
        exact List.mem_map.2 ⟨a', ha', (hR _ _ _ _ hrel hhead).2 heq⟩
    rw [List.map_cons, List.map_cons, List.nodup_cons, List.nodup_cons, hmem, ih]

/-- The words of getters in camel case tell properties apart. -/
theorem ResolvedType.nodup_methodWords_of_isCamelCase {u : TypeUniverse} {t : ResolvedType}
    (h : ∀ q ∈ t.readableProperties u, Text.IsCamelCase q.getter.toList) :
    ((t.readableProperties u).map fun q => Naming.methodWords q.getter).Nodup := by
  have hhead : ∀ q ∈ t.readableProperties u,
      ∃ c rest, q.getter.toList = c :: rest ∧ c.toLower = c := by
    intro q hq
    obtain ⟨m, hreads, hgetter⟩ := exists_reads_of_mem_readableProperties hq
    obtain ⟨c, rest, hname, hc⟩ := hreads.exists_name_cons
    exact ⟨c, rest, hgetter ▸ hname, by rcases hc with rfl | rfl <;> rfl⟩
  refine List.pairwise_map.2 ((List.pairwise_map.1 nodup_getters_readableProperties).imp_of_mem ?_)
  intro q q' hq hq' hgetter hwords
  obtain ⟨c, cs, hcs, hc⟩ := hhead q hq
  obtain ⟨d, ds, hds, hd⟩ := hhead q' hq'
  exact hgetter (Naming.eq_of_methodWords_eq hcs hds hc hd (h q hq) (h q' hq') hwords)

/-- The arm of a property calls the method of its first reader along the lineage. -/
theorem Dispatcher.mem_arms_of_reads {root : Source.ModPath} {u : TypeUniverse} {t : ResolvedType}
    {rb : ReflectedBranch} (h : reflectedOf root ⟨t, t.readableProperties u⟩ = .ok rb)
    {property : String} {m : MethodDecl} {i : Source.Ident}
    (hm : ((t.lineage u).flatMap (·.methods)).find? (·.reads property) = some m)
    (hi : Naming.methodIdent m.name = .ok i) : ⟨property, i⟩ ∈ rb.arms := by
  have hreads := List.find?_some hm
  obtain ⟨q, hlisted, hname⟩ := (Option.any_eq_true _ _).1 hreads
  obtain rfl : q.name = property := beq_iff_eq.1 hname
  have hq : q ∈ t.readableProperties u := ResolvedType.mem_readableProperties_iff.2 ⟨m, hm, hlisted⟩
  obtain ⟨⟨property, method⟩, harm, hproperty, hmethod⟩ :=
    exists_mem_of_forall₂ (of_reflectedOf h).2 q hq
  rw [MethodDecl.getter_of_property? hlisted, hi] at hmethod
  obtain rfl : i = method := Except.ok.inj hmethod
  obtain rfl : property = q.name := hproperty
  exact harm

/-- A type with property access that is rendered has an arm for each readable property, which calls
the method of the property's own getter.  No two arms call the same method exactly if no two getters
have the same words in lower case.  That holds if all getters are in camel case. -/
theorem emitted_methods_separate_iff {root : Source.ModPath} {u : TypeUniverse} {t : ResolvedType}
    {rb : ReflectedBranch}
    (h : Dispatcher.reflectedOf root ⟨t, t.readableProperties u⟩ = .ok rb) :
    List.Forall₂ (fun q (arm : PropertyArm) => arm.property = q.name ∧
        Naming.methodIdent q.getter = .ok arm.method) (t.readableProperties u) rb.arms ∧
      (rb.arms.map (·.property)).Nodup ∧
      ((rb.arms.map (·.method)).Nodup ↔
        ((t.readableProperties u).map fun q => Naming.methodWords q.getter).Nodup) ∧
      ((∀ q ∈ t.readableProperties u, Text.IsCamelCase q.getter.toList) →
        (rb.arms.map (·.method)).Nodup) := by
  have harms := (Dispatcher.of_reflectedOf h).2
  have hmethods : (rb.arms.map (·.method)).Nodup ↔
      ((t.readableProperties u).map fun q => Naming.methodWords q.getter).Nodup :=
    nodup_map_iff_of_forall₂ harms.flip fun arm q arm' q' harm harm' =>
      Naming.methodIdent_eq_iff harm.2 harm'.2
  have hproperties : (rb.arms.map (·.property)).Nodup :=
    (nodup_map_iff_of_forall₂ harms.flip fun arm q arm' q' harm harm' => by
      rw [harm.1, harm'.1]).2 ResolvedType.nodup_names_readableProperties
  refine ⟨harms, hproperties, hmethods, fun hcamel => hmethods.2 ?_⟩
  exact ResolvedType.nodup_methodWords_of_isCamelCase hcamel

/-- Beings have a name and are alive, and there is a method for both. -/
theorem being_methods_separate :
    ∃ rb, Dispatcher.reflectedOf GeneratorConfig.defaultRoot ⟨⟨beingDecl, default⟩,
        ResolvedType.readableProperties TypeUniverse.platform ⟨beingDecl, default⟩⟩ = .ok rb ∧
      (rb.arms.map (·.method)).Nodup := by
  have hgetters : ∀ q ∈ ResolvedType.readableProperties TypeUniverse.platform ⟨beingDecl, default⟩,
      ∃ m ∈ beingDecl.methods, m.Reads q.name ∧ q.getter = m.name := by
    intro q hq
    obtain ⟨d, hd, m, hm, hlisted⟩ := ResolvedType.exists_method_of_mem_readableProperties hq
    obtain rfl : d = beingDecl := List.mem_singleton.1 hd
    obtain ⟨hreads, hgetter, _⟩ := MethodDecl.property?_eq_some_iff.1 hlisted
    exact ⟨m, hm, hreads, hgetter⟩
  have hcamel : ∀ m ∈ beingDecl.methods, Text.IsCamelCase m.name.toList := by decide
  obtain ⟨rb, hrb⟩ := Dispatcher.reflectedOf_total
    (r := ⟨⟨beingDecl, default⟩,
      ResolvedType.readableProperties TypeUniverse.platform ⟨beingDecl, default⟩⟩)
    (Dispatcher.branchOf_total (by decide) GeneratorConfig.defaultRoot) fun q hq => by
      obtain ⟨m, hm, hreads, hgetter⟩ := hgetters q hq
      rw [hgetter]
      refine Naming.methodIdent_total hreads fun c hc => ?_
      simp [Source.Ident.isAsciiWordChar, (hcamel m hm).chars c hc]
  obtain ⟨_, _, _, hseparate⟩ := emitted_methods_separate_iff hrb
  refine ⟨rb, hrb, hseparate fun q hq => ?_⟩
  obtain ⟨m, hm, _, hgetter⟩ := hgetters q hq
  exact hgetter ▸ hcamel m hm

/-- A getter that returns a text. -/
def textGetter (name : String) : MethodDecl :=
  { name, returns := some (.named ⟨"java.lang.String"⟩) }

/-- Links have a URL in capitals, and one in small letters. -/
def linkDecl : ClassDecl :=
  ((ClassDecl.ofClass ⟨"acme.Link"⟩).withMethod (textGetter "getURL")).withMethod
    (textGetter "getUrl")

/-- A run for links. -/
def linkCall : GenerateCall where
  spec := GenerationSpec.ofTargets (.plain "LinkValidator") linkDecl.name []
  types := TypeUniverse.platform.insertAll [linkDecl]
  engine := (DescriptorTable.ofList [.mk linkDecl.name [] []]).toEngine

private theorem link_readers :
    linkDecl.methods.find? (·.reads "URL") = some (textGetter "getURL") ∧
      linkDecl.methods.find? (·.reads "url") = some (textGetter "getUrl") := ⟨rfl, rfl⟩

private theorem link_methodIdents :
    Naming.methodIdent (textGetter "getURL").name = .ok (.plain "get_url") ∧
      Naming.methodIdent (textGetter "getUrl").name = .ok (.plain "get_url") := ⟨rfl, rfl⟩

/-- The run for links succeeds, and both properties of a link are read by one method. -/
theorem link_properties_share_method :
    ∃ (plan : DispatchPlan) (d : Dispatcher) (name : String) (out : Output MemoryArtifacts),
      Dispatcher.ofPlan linkCall.spec plan = .ok d ∧
      linkCall.run { sink := {} } = (.ok name, out) ∧
      (∃ rb ∈ d.reflected, rb.branch.bean = linkDecl.name ∧
        ⟨"URL", .plain "get_url"⟩ ∈ rb.arms ∧ ⟨"url", .plain "get_url"⟩ ∈ rb.arms) ∧
      ∀ call : String → String,
        (plainValidator d).getProperty (plainBean linkDecl.name call) "URL" =
          .ok (call "get_url") ∧
        (plainValidator d).getProperty (plainBean linkDecl.name call) "url" =
          .ok (call "get_url") := by
  have hclosed : linkCall.isClosedOver [linkDecl.name] = true := by decide +kernel
  obtain ⟨plan, p, d, name, out, hplan, hd, hrun⟩ :=
    GenerateCall.exists_run_of_isClosedOver hclosed { sink := {} }
  have hstart : linkCall.host.LookedUp (⟨{}, { sink := {} }⟩ : Progress MemoryArtifacts) :=
    List.forall_mem_nil _
  have hlink : linkDecl.name ∈ plan.reflectedNames := by
    refine (DispatchPlan.reflectedNames_perm hplan).mem_iff.2 ?_
    exact (GenerateCall.mem_names_iff_reaches hplan).2
      ⟨linkDecl.name, List.mem_cons_self, Relation.ReflTransGen.refl⟩
  obtain ⟨hcapitals, hsmall⟩ := link_readers
  obtain ⟨hmethod, hmethod'⟩ := link_methodIdents
  refine ⟨plan, d, name, out, hd, hrun, ?_, fun call => ?_⟩
  · obtain ⟨⟨t, properties⟩, hr, hname⟩ := List.mem_map.1 hlink
    have hdeclared := DispatchPlan.find?_of_mem_reflected hstart hplan hr
    obtain rfl : properties = t.readableProperties linkCall.types :=
      DispatchPlan.properties_of_mem_reflected hplan hr
    obtain ⟨rb, hrb, hreflected⟩ := exists_mem_of_forall₂ (Dispatcher.reflected_of_ofPlan hd) _ hr
    have hbean := Dispatcher.bean_of_branchOf (Dispatcher.of_reflectedOf hreflected).1
    have hdecl : t.decl = linkDecl := by
      have hname : t.name = linkDecl.name := hname
      rw [hname] at hdeclared
      exact (Option.some.inj hdeclared).symm
    have hmethods : (t.lineage linkCall.types).flatMap (·.methods) = linkDecl.methods := by
      rw [ResolvedType.lineage, hdecl]
      rfl
    exact ⟨rb, hrb, hbean.trans hname,
      Dispatcher.mem_arms_of_reads hreflected (hmethods ▸ hcapitals) hmethod,
      Dispatcher.mem_arms_of_reads hreflected (hmethods ▸ hsmall) hmethod'⟩
  · have hmethods : linkCall.host.types.methodsAlong (plainBean linkDecl.name call).handle.type =
        linkDecl.methods := TypeUniverse.methodsAlong_of_superclass_none rfl rfl
    have hread : ∀ property m, linkDecl.methods.find? (·.reads property) = some m →
        Naming.methodIdent m.name = .ok (.plain "get_url") →
        (plainValidator d).getProperty (plainBean linkDecl.name call) property =
          .ok (call "get_url") := by
      intro property m hm hmethod
      have hconcrete : (plainBean linkDecl.name call).concrete =
          some (plainBean linkDecl.name call).handle.type := rfl
      have hproperty := Validator.getProperty_of_mem (v := plainValidator d) hstart hplan hd
        (fun _ _ => rfl) hconcrete hlink property
      rw [hmethods, hm] at hproperty
      obtain ⟨i, hi, hvalue⟩ := hproperty
      obtain rfl := Except.ok.inj (hi.symm.trans hmethod)
      exact hvalue
    exact ⟨hread "URL" _ hcapitals hmethod, hread "url" _ hsmall hmethod'⟩

end ValidatorForge
