import ValidatorForge.Proofs.Discovery.Resolvable
import ValidatorForge.Proofs.Naming.Separation

/-!
# Names that can be spelled

A host name has an identifier if it is a word of ASCII letters, digits and underscores that does not
begin with a digit, is not the underscore alone and is no keyword of paths (`accepts_iff`).  The
names that are emitted for a type are put together from such names:

* the flat name of a nested type, whose names are joined by underscores (`accepts_flatName`),
* the name of its validator, which is the flat name between an underscore and a suffix
  (`accepts_outputName`),
* the path of an item, which is spelled segment by segment (`itemPath_total`).

An underscore inside a word excludes the keywords of paths, so joined names need no other check
(`accepts_of_underscore_mem`).  All of this can be emitted for a type if the names between its dots
and dollar signs can be spelled (`TypeName.Spellable`).
-/

namespace ValidatorForge

open Source (Ident ModPath)
open Source.Ident (isAsciiWordChar)

/-! ## Words of ASCII characters -/

namespace Source.Ident

variable {c : Char}

theorem toNat_lt_of_isAsciiWordChar (h : isAsciiWordChar c = true) : c.toNat < 0x80 := by
  have hlast : ∀ d : Char, c.val ≤ d.val → d.toNat < 0x80 → c.toNat < 0x80 := by
    intro d hle hd
    have hnat : c.toNat ≤ d.toNat := UInt32.le_iff_toNat_le.1 hle
    omega
  have hclasses : (c == '_' || (c.isUpper || c.isLower || c.isDigit)) = true := h
  simp only [Bool.or_eq_true, beq_iff_eq] at hclasses
  rcases hclasses with rfl | (hupper | hlower) | hdigit
  · decide
  · exact hlast 'Z' (of_decide_eq_true hupper).2 (by decide)
  · exact hlast 'z' (of_decide_eq_true (Bool.and_eq_true_iff.1 hlower).2) (by decide)
  · exact hlast '9' (of_decide_eq_true (Bool.and_eq_true_iff.1 hdigit).2) (by decide)

/-- What holds of all code points of ASCII holds of the characters of words. -/
theorem of_isAsciiWordChar {P : Char → Prop} (hall : ∀ n < 0x80, P (Char.ofNat n))
    (h : isAsciiWordChar c = true) : P c :=
  Text.of_ascii hall (toNat_lt_of_isAsciiWordChar h)

theorem isAsciiWordChar_toLower (h : isAsciiWordChar c = true) :
    isAsciiWordChar c.toLower = true :=
  of_isAsciiWordChar
    (P := fun c => isAsciiWordChar c = true → isAsciiWordChar c.toLower = true) (by decide) h h

theorem startsWord_of_isAsciiWordChar (h : isAsciiWordChar c = true) :
    startsWord c = !c.isDigit :=
  of_isAsciiWordChar
    (P := fun c => isAsciiWordChar c = true → startsWord c = !c.isDigit) (by decide) h h

theorem continuesWord_of_isAsciiWordChar (h : isAsciiWordChar c = true) :
    continuesWord c = true :=
  of_isAsciiWordChar
    (P := fun c => isAsciiWordChar c = true → continuesWord c = true) (by decide) h h

/-- A word of ASCII letters, digits and underscores. -/
structure IsAsciiWord (cs : List Char) : Prop where
  chars : ∀ c ∈ cs, isAsciiWordChar c = true
  head : ∃ c rest, cs = c :: rest ∧ c.isDigit = false

theorem IsAsciiWord.of_isWord {cs : List Char} (h : isWord cs = true)
    (hchars : ∀ c ∈ cs, isAsciiWordChar c = true) : IsAsciiWord cs := by
  cases cs with
  | nil => cases h
  | cons c rest =>
    obtain ⟨hstarts, _⟩ := Bool.and_eq_true_iff.1 h
    rw [startsWord_of_isAsciiWordChar (hchars c List.mem_cons_self), Bool.not_eq_true'] at hstarts
    exact ⟨hchars, c, rest, rfl, hstarts⟩

theorem IsAsciiWord.isWord {cs : List Char} (h : IsAsciiWord cs) : isWord cs = true := by
  obtain ⟨c, rest, rfl, hdigit⟩ := h.head
  obtain ⟨hc, hrest⟩ := List.forall_mem_cons.1 h.chars
  rw [Source.isWord, startsWord_of_isAsciiWordChar hc, hdigit, Bool.not_false, Bool.true_and,
    List.all_eq_true]
  exact fun d hd => continuesWord_of_isAsciiWordChar (hrest d hd)

theorem IsAsciiWord.append {cs ds : List Char} (h : IsAsciiWord cs)
    (hds : ∀ d ∈ ds, isAsciiWordChar d = true) : IsAsciiWord (cs ++ ds) := by
  obtain ⟨c, rest, rfl, hdigit⟩ := h.head
  exact ⟨List.forall_mem_append.2 ⟨h.chars, hds⟩, c, rest ++ ds, rfl, hdigit⟩

end Source.Ident

/-! ## Names with an identifier -/

namespace Naming

open Source Source.Ident

/-- A name that has an identifier. -/
def Accepts (name : String) : Prop := ∃ i, ident name = .ok i

theorem ident_eq_ok_iff {name : String} {i : Ident} :
    ident name = .ok i ↔ ofName? name = some i := by
  unfold ident
  cases ofName? name <;> simp

instance : DecidablePred Accepts := fun name =>
  decidable_of_iff ((ident name).isOk = true)
    ⟨exists_eq_ok_of_isOk, fun h => by obtain ⟨i, hi⟩ := h; rw [hi]; rfl⟩

theorem accepts_iff {name : String} :
    Accepts name ↔ IsAsciiWord name.toList ∧ name ≠ "_" ∧ name ∉ pathKeywords := by
  have hfound : Accepts name ↔ ∃ i, Ident.ofName? name = some i := by
    unfold Accepts ident
    cases Ident.ofName? name <;> simp
  have hcheck : (name.toList.all isAsciiWordChar && name != "_" && !pathKeywords.contains name) =
        true ↔
      (∀ c ∈ name.toList, isAsciiWordChar c = true) ∧ name ≠ "_" ∧ name ∉ pathKeywords := by
    simp [and_assoc]
  rw [hfound, ofName?]
  constructor
  · intro h
    obtain ⟨i, hi⟩ := h
    split at hi
    · next hpassed =>
      obtain ⟨hchars, hothers⟩ := hcheck.1 hpassed
      split at hi
      · next hword => exact ⟨.of_isWord hword hchars, hothers⟩
      · cases hi
    · cases hi
  · intro h
    obtain ⟨hword, hothers⟩ := h
    rw [if_pos (hcheck.2 ⟨hword.chars, hothers⟩), dif_pos hword.isWord]
    exact ⟨_, rfl⟩

theorem isAsciiWord_of_accepts {cs : List Char} (h : Accepts (String.ofList cs)) :
    IsAsciiWord cs := by
  simpa using (accepts_iff.1 h).1

/-- A word with an underscore is accepted, unless it is just that. -/
theorem accepts_of_underscore_mem {name : String} (hword : IsAsciiWord name.toList)
    (hmem : '_' ∈ name.toList) (hne : name ≠ "_") : Accepts name := by
  have hkeywords : ∀ w ∈ pathKeywords, '_' ∉ w.toList := by decide
  exact accepts_iff.2 ⟨hword, hne, fun hpath => hkeywords name hpath hmem⟩

end Naming

/-! ## Joined fields -/

namespace Text

/-- Joined fields begin with the first of them. -/
theorem exists_join_cons (sep f : List Char) (rest : List (List Char)) :
    ∃ more, join sep (f :: rest) = f ++ more := by
  cases rest with
  | nil => exact ⟨[], (List.append_nil f).symm⟩
  | cons g more => exact ⟨sep ++ join sep (g :: more), List.append_assoc ..⟩

theorem mem_join_of_mem {sep f : List Char} {fs : List (List Char)} {c : Char} (hf : f ∈ fs)
    (hc : c ∈ f) : c ∈ join sep fs := by
  induction fs with
  | nil => exact absurd hf List.not_mem_nil
  | cons g rest ih =>
    obtain ⟨more, hjoin⟩ := exists_join_cons sep g rest
    rcases List.mem_cons.1 hf with rfl | hf
    · rw [hjoin]
      exact List.mem_append_left _ hc
    · cases rest with
      | nil => exact absurd hf List.not_mem_nil
      | cons g' rest => exact List.mem_append_right _ (ih hf)

theorem mem_join {sep : List Char} {fs : List (List Char)} {c : Char} (h : c ∈ join sep fs) :
    c ∈ sep ∨ ∃ f ∈ fs, c ∈ f := by
  induction fs with
  | nil => exact absurd h List.not_mem_nil
  | cons f rest ih =>
    cases rest with
    | nil => exact Or.inr ⟨f, List.mem_cons_self, h⟩
    | cons g more =>
      rcases List.mem_append.1 h with hfirst | hmore
      · rcases List.mem_append.1 hfirst with hf | hsep
        · exact Or.inr ⟨f, List.mem_cons_self, hf⟩
        · exact Or.inl hsep
      · rcases ih hmore with hsep | ⟨f', hf', hc⟩
        · exact Or.inl hsep
        · exact Or.inr ⟨f', List.mem_cons_of_mem _ hf', hc⟩

/-- What a separator is replaced by joins the fields. -/
theorem map_join {g : Char → Char} {sep : List Char} {fs : List (List Char)}
    (h : ∀ f ∈ fs, f.map g = f) : (join sep fs).map g = join (sep.map g) fs := by
  induction fs with
  | nil => rfl
  | cons f rest ih =>
    obtain ⟨hf, hrest⟩ := List.forall_mem_cons.1 h
    cases rest with
    | nil => exact hf
    | cons f' more =>
      show (f ++ sep ++ join sep (f' :: more)).map g =
        f ++ sep.map g ++ join (sep.map g) (f' :: more)
      rw [List.map_append, List.map_append, hf, ih hrest]

end Text

/-! ## Names of types -/

namespace TypeName

/-- The names between the dots and the dollar signs of a type name can be spelled.  A package may
have empty parts, which are passed over. -/
structure Spellable (n : TypeName) : Prop where
  package : ∀ part ∈ n.parts.dropLast, part ≠ [] → Naming.Accepts (String.ofList part)
  localName : ∀ field ∈ Text.fields '$' n.localName, Naming.Accepts (String.ofList field)

instance : DecidablePred Spellable := fun n =>
  decidable_of_iff
    ((∀ part ∈ n.parts.dropLast, part ≠ [] → Naming.Accepts (String.ofList part)) ∧
      ∀ field ∈ Text.fields '$' n.localName, Naming.Accepts (String.ofList field))
    ⟨fun h => ⟨h.1, h.2⟩, fun h => ⟨h.package, h.localName⟩⟩

end TypeName

namespace Naming

open Source Source.Ident

variable {n : TypeName}

/-- A flat name is joined by underscores. -/
theorem toList_flatName_eq_join (n : TypeName) :
    (flatName n).toList = Text.join ['_'] (Text.fields '$' n.localName) := by
  have hfields : ∀ f ∈ Text.fields '$' n.localName, f.map flattened = f := by
    intro f hf
    refine (List.map_congr_left fun c hc => ?_).trans (List.map_id _)
    have hdollar := Text.not_sep_of_mem_fieldsBy hf c hc
    exact if_neg (beq_eq_false_iff_ne.1 hdollar)
  rw [toList_flatName]
  conv_lhs => rw [← Text.join_fields '$' n.localName]
  exact Text.map_join hfields

/-- Accepted names that are joined by underscores are accepted. -/
theorem accepts_join {fs : List (List Char)} (hne : fs ≠ [])
    (h : ∀ f ∈ fs, Accepts (String.ofList f)) : Accepts (String.ofList (Text.join ['_'] fs)) := by
  have hwords : ∀ f ∈ fs, IsAsciiWord f := fun f hf => isAsciiWord_of_accepts (h f hf)
  match fs with
  | [] => exact absurd rfl hne
  | [f] => exact h f List.mem_cons_self
  | f :: g :: more =>
    have hf := hwords f List.mem_cons_self
    have hchars : ∀ c ∈ '_' :: Text.join ['_'] (g :: more), isAsciiWordChar c = true := by
      refine List.forall_mem_cons.2 ⟨rfl, fun c hc => ?_⟩
      rcases Text.mem_join hc with hsep | ⟨f', hf', hc'⟩
      · rw [List.mem_singleton.1 hsep]
        rfl
      · exact (hwords f' (List.mem_cons_of_mem _ hf')).chars c hc'
    have hjoin : Text.join ['_'] (f :: g :: more) = f ++ '_' :: Text.join ['_'] (g :: more) :=
      List.append_assoc ..
    rw [hjoin]
    apply accepts_of_underscore_mem
    case hword =>
      rw [String.toList_ofList]
      exact hf.append hchars
    case hmem => simp
    case hne =>
      -- the first name is not empty, so the underscore after it is not alone
      obtain ⟨c, rest, rfl, _⟩ := hf.head
      intro heq
      have hlength := congrArg (fun s => s.toList.length) heq
      simp at hlength

theorem accepts_flatName (h : n.Spellable) : Accepts (flatName n) := by
  have hflat : flatName n = String.ofList (Text.join ['_'] (Text.fields '$' n.localName)) :=
    String.toList_inj.1 (by rw [toList_flatName_eq_join, String.toList_ofList])
  rw [hflat]
  exact accepts_join (Text.fieldsBy_ne_nil _ _) h.localName

/-- The name of a validator is the flat name of its type between an underscore and a suffix. -/
theorem accepts_outputName {t : ResolvedType} (h : t.name.Spellable) : Accepts t.outputName := by
  have hflat := (accepts_iff.1 (accepts_flatName h)).1
  have hname : t.outputName.toList = '_' :: ((flatName t.name).toList ++ "Validator".toList) := by
    simp [ResolvedType.outputName, toString]
  apply accepts_of_underscore_mem
  case hword =>
    have hsuffix : "Validator".toList.all isAsciiWordChar = true := by decide
    have hchars : ∀ c ∈ '_' :: ((flatName t.name).toList ++ "Validator".toList),
        isAsciiWordChar c = true :=
      List.forall_mem_cons.2
        ⟨rfl, List.forall_mem_append.2 ⟨hflat.chars, List.all_eq_true.1 hsuffix⟩⟩
    rw [hname]
    exact ⟨hchars, '_', _, rfl, rfl⟩
  case hmem =>
    rw [hname]
    exact List.mem_cons_self
  case hne =>
    intro heq
    have hlength := congrArg (fun s => s.toList.length) heq
    rw [hname] at hlength
    simp at hlength

theorem itemPath_total (h : n.Spellable) {name : String} (hname : Accepts name) (root : ModPath) :
    ∃ path, itemPath root n.package name = .ok path := by
  obtain ⟨modules, hmodules⟩ : ∃ modules, (packageSegments n.package).mapM ident = .ok modules := by
    apply Dispatcher.mapM_total
    rw [packageSegments_package]
    intro segment hsegment
    obtain ⟨part, hpart, rfl⟩ := List.mem_map.1 hsegment
    obtain ⟨hpart, hnonempty⟩ := List.mem_filter.1 hpart
    exact h.package part hpart (by simpa using hnonempty)
  obtain ⟨item, hitem⟩ := hname
  exact ⟨_, itemPath_eq_ok_iff.2 ⟨modules, item, hmodules, hitem, rfl⟩⟩

theorem typePath_total (h : n.Spellable) (root : ModPath) : ∃ path, typePath root n = .ok path :=
  itemPath_total h (accepts_flatName h) root

end Naming

namespace Dispatcher

/-- A type has a branch if its name can be spelled. -/
theorem branchOf_total {t : ResolvedType} (h : t.name.Spellable) (root : ModPath) :
    ∃ b, branchOf root t = .ok b := by
  obtain ⟨type, htype⟩ := Naming.typePath_total h root
  obtain ⟨marker, hmarker⟩ := Naming.itemPath_total h (Naming.accepts_outputName h) root
  have hmarker' : Naming.itemPath root t.outputPackage t.outputName = .ok marker := hmarker
  refine ⟨⟨t.name, type, marker⟩, ?_⟩
  simp only [branchOf, htype, hmarker']
  rfl

/-- A group has a branch if its name and those of the groups that belong to it can be spelled. -/
theorem groupOf_total {step : GroupStep} (h : step.name.Spellable)
    (hothers : ∀ ty ∈ step.others, ty.Spellable) (root : ModPath) :
    ∃ g, groupOf root step = .ok g := by
  obtain ⟨group, hgroup⟩ := Naming.typePath_total h root
  obtain ⟨others, hothers⟩ := mapM_total fun ty hty => Naming.typePath_total (hothers ty hty) root
  refine ⟨⟨step, group, others⟩, ?_⟩
  simp only [groupOf, hgroup, hothers]
  rfl

end Dispatcher

end ValidatorForge
