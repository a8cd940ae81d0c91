import ValidatorForge.Proofs.Discovery.PropertyTable

/-!
# Getters of readable properties

`getterName` goes from a property to its getter, and the table of readable properties goes from
accessors to properties.  The two agree on a getter whose suffix begins with a capital letter of
ASCII.

* Names.  A suffix loses the capital that `getterName` puts back, or keeps it, and then `getterName`
  leaves it as it is (`getterName_decapitalize`).
* Searches.  A method that is named like a getter reads one property, whichever class declares it
  (`MethodDecl.reads_of_isAccessor`).  So the first getter of that name along the lineage is the
  first reader of the property, and the search by name ends at the method that the table lists
  (`getterType_of_mem_readableProperties`).
-/

namespace ValidatorForge

/-! ## Names -/

/-- A suffix that begins with a capital keeps it, or has it in lower case. -/
theorem decapitalize_cons {c : Char} (hc : c.isUpper = true) (rest : List Char) :
    decapitalize (c :: rest) = c :: rest ∨ decapitalize (c :: rest) = c.toLower :: rest := by
  obtain ⟨_, hlower, _⟩ := Text.upperChars_of_isUpper hc
  cases rest with
  | nil => exact Or.inr hlower
  | cons d rest =>
    rw [decapitalize, hlower]
    split
    · exact Or.inl rfl
    · exact Or.inr rfl

theorem getterName_ofList_cons (c : Char) (rest : List Char) :
    getterName (String.ofList (c :: rest)) =
      String.ofList ('g' :: 'e' :: 't' :: (Text.upperChars c ++ rest)) := by
  rw [getterName, String.toList_ofList]

/-- A getter is the one of the property that its suffix names. -/
theorem getterName_decapitalize {c : Char} (hc : c.isUpper = true) (rest : List Char) :
    getterName (String.ofList (decapitalize (c :: rest))) =
      String.ofList ('g' :: 'e' :: 't' :: c :: rest) := by
  obtain ⟨hupper, _, hback⟩ := Text.upperChars_of_isUpper hc
  rcases decapitalize_cons hc rest with hkept | hlowered
  · rw [hkept, getterName_ofList_cons, hupper]
    rfl
  · rw [hlowered, getterName_ofList_cons, hback]
    rfl

/-! ## Searches -/

namespace MethodDecl

variable {m : MethodDecl} {suffix : List Char}

/-- An accessor that is named like a getter reads the property that its suffix names. -/
theorem reads_of_isAccessor (haccessor : m.isAccessor = true)
    (hname : m.name.toList = 'g' :: 'e' :: 't' :: suffix) (hne : suffix ≠ []) :
    m.Reads (String.ofList (decapitalize suffix)) := by
  obtain ⟨hparams, hreturns⟩ := Bool.and_eq_true_iff.1 haccessor
  obtain ⟨returns, hreturns⟩ := Option.isSome_iff_exists.1 hreturns
  exact ⟨List.isEmpty_iff.1 hparams, returns, suffix, hreturns, hne, .inl hname, rfl⟩

/-- It reads no other property. -/
theorem Reads.eq_of_getter {property : String} (h : m.Reads property)
    (hname : m.name.toList = 'g' :: 'e' :: 't' :: suffix) :
    suffix ≠ [] ∧ property = String.ofList (decapitalize suffix) := by
  obtain ⟨_, suffix', _, hne, hget | ⟨his, _⟩, hproperty⟩ := h.named
  · rw [hname] at hget
    simp only [List.cons.injEq, true_and] at hget
    subst hget
    exact ⟨hne, hproperty⟩
  · rw [hname] at his
    simp at his

theorem Reads.isAccessor {property : String} (h : m.Reads property) : m.isAccessor = true := by
  obtain ⟨returns, _, hreturns, _⟩ := h.named
  simp [MethodDecl.isAccessor, h.noParams, hreturns]

end MethodDecl

namespace ResolvedType

variable {u : TypeUniverse} {t : ResolvedType} {q : ReadableProperty}

/-- The first getter of that name along the lineage is the one that the table lists. -/
theorem findSome?_accessorNamed_of_mem {suffix : List Char} (hq : q ∈ t.readableProperties u)
    (hgetter : q.getter.toList = 'g' :: 'e' :: 't' :: suffix) :
    ∃ m, (t.lineage u).findSome? (·.accessorNamed q.getter) = some m ∧ m.returns = some q.ty := by
  obtain ⟨m, hfirst, hlisted⟩ := mem_readableProperties_iff.1 hq
  obtain ⟨_, hname, hreturns⟩ := MethodDecl.property?_eq_some_iff.1 hlisted
  obtain ⟨before, after, hmethods, hreads, hbefore⟩ := MethodDecl.find?_reads_eq_some_iff.1 hfirst
  obtain ⟨hne, hproperty⟩ := hreads.eq_of_getter (hname ▸ hgetter)
  refine ⟨m, ?_, hreturns⟩
  have hsearch : ((t.lineage u).flatMap (·.methods)).find?
      (fun m => m.name == q.getter && m.isAccessor) = some m := by
    refine List.find?_eq_some_iff_append.2 ⟨by simp [hname, hreads.isAccessor], before, after,
      hmethods, fun m' hm' => ?_⟩
    rw [Bool.not_eq_true', Bool.eq_false_iff]
    intro hfound
    obtain ⟨hsame, haccessor⟩ := Bool.and_eq_true_iff.1 hfound
    have hname' : m'.name.toList = 'g' :: 'e' :: 't' :: suffix := beq_iff_eq.1 hsame ▸ hgetter
    exact hbefore m' hm' (hproperty ▸ MethodDecl.reads_of_isAccessor haccessor hname' hne)
  rwa [List.find?_flatMap] at hsearch

/-- A search for the getter of a property finds the type that the table records, if the getter is
named after the property. -/
theorem getterType_of_mem_readableProperties {suffix : List Char}
    (hq : q ∈ t.readableProperties u)
    (hgetter : q.getter.toList = 'g' :: 'e' :: 't' :: suffix)
    (hname : getterName q.name = q.getter) : t.getterType u q.name = some q.ty := by
  obtain ⟨m, hfound, hreturns⟩ := findSome?_accessorNamed_of_mem hq hgetter
  rw [getterType, hname, hfound]
  exact hreturns

/-- For a readable property whose getter is `get` before a suffix that begins with a capital letter
of ASCII, the name of the getter is made from the property, and a search for it finds the type that
is recorded for the property. -/
theorem getters_agree {c : Char} {rest : List Char} (hq : q ∈ t.readableProperties u)
    (hgetter : q.getter.toList = 'g' :: 'e' :: 't' :: c :: rest) (hc : c.isUpper = true) :
    getterName q.name = q.getter ∧ t.isDeclared u q.name .getter = true ∧
      t.getterType u q.name = some q.ty := by
  have hname : getterName q.name = q.getter := by
    obtain ⟨m, _, hlisted⟩ := mem_readableProperties_iff.1 hq
    obtain ⟨hreads, hlistedName, _⟩ := MethodDecl.property?_eq_some_iff.1 hlisted
    obtain ⟨_, hproperty⟩ := hreads.eq_of_getter (hlistedName ▸ hgetter)
    rw [hproperty, getterName_decapitalize hc, ← hgetter, String.ofList_toList]
  have hty := getterType_of_mem_readableProperties hq hgetter hname
  have hdeclared : t.declaredType u q.name .getter = some q.ty := hty
  exact ⟨hname, by rw [isDeclared, hdeclared]; rfl, hty⟩

end ResolvedType

/-- Pages have an address, whose name is kept in capitals. -/
def pageDecl : ClassDecl :=
  (ClassDecl.ofClass ⟨"acme.Page"⟩).withGetter "getURL" (.named ⟨"java.lang.String"⟩)

/-- Articles are pages with a headline. -/
def articleDecl : ClassDecl :=
  ((ClassDecl.ofClass ⟨"acme.Article"⟩).withSuperclass pageDecl.name).withGetter "getHeadline"
    (.named ⟨"java.lang.String"⟩)

/-- The getter of an inherited property is found by the name of the property. -/
theorem article_address_is_found :
    let u := TypeUniverse.platform.insertAll [pageDecl, articleDecl]
    let t : ResolvedType := ⟨articleDecl, .mk articleDecl.name [] []⟩
    getterName "URL" = "getURL" ∧ t.isDeclared u "URL" .getter = true ∧
      t.getterType u "URL" = some (.named ⟨"java.lang.String"⟩) := by
  intro u t
  have hpage : u.find? pageDecl.name = some pageDecl := rfl
  have hlineage : t.lineage u = [articleDecl, pageDecl] := by
    show articleDecl :: u.superclassChain pageDecl.name = _
    rw [TypeUniverse.superclassChain, TypeUniverse.chainFrom_of_find? hpage List.not_mem_nil]
    rfl
  have hread : (⟨"URL", "getURL", .named ⟨"java.lang.String"⟩⟩ : ReadableProperty) ∈
      t.readableProperties u := by
    refine ResolvedType.mem_readableProperties_iff.2
      ⟨{ name := "getURL", returns := some (.named ⟨"java.lang.String"⟩) }, ?_, rfl⟩
    rw [hlineage]
    rfl
  exact ResolvedType.getters_agree hread rfl rfl

end ValidatorForge
