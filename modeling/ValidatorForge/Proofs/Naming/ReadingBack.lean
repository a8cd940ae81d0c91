import ValidatorForge.Proofs.Spec.MarkerText

/-!
# Reading an emitted path back

A marker names a host type by the path of its parts, and `typePath` emits a path for the type below
a root.  If all parts of the name are accepted, the emitted path runs through the same segments
behind those of the root (`exists_typePath_eq_descend`).  So it is read back to the name that it was
made from, as a path and as a printed text, and no other such name has it (`typePath_reads_back`).

Keywords are written raw, and no word of a host name has the mark of raw words.  So the identifiers
of different names are spelled differently (`name_eq_of_text_eq`).
-/

namespace ValidatorForge

open Source

/-! ## Paths below a root -/

namespace Source.ModPath

/-- What a path below `root` runs through behind it. -/
def behind (path root : ModPath) : ModPath :=
  { segments := path.segments.drop root.segments.length }

theorem child_descend (root : ModPath) (modules : List Ident) (item : Ident) :
    (root.descend modules).child item = root.descend (modules ++ [item]) := by
  rw [descend, descend, List.foldl_append]
  rfl

theorem absolute_descend (root : ModPath) (names : List Ident) :
    (root.descend names).absolute = root.absolute := by
  induction names generalizing root with
  | nil => rfl
  | cons i rest ih => exact ih (root.child i)

theorem behind_descend (root : ModPath) (names : List Ident) :
    (root.descend names).behind root = .relative names := by
  rw [behind, segments_descend, List.drop_left, relative]

end Source.ModPath

namespace Naming

/-! ## Identifiers -/

/-- The mark of raw words is in no host name. -/
theorem IsHostIdent.hash_not_mem {i : Ident} (h : IsHostIdent i) : '#' ∉ i.name.toList := by
  obtain ⟨name, hname⟩ := h
  have hword := (accepts_iff.1 ⟨i, ident_eq_ok_iff.2 hname⟩).1
  rw [Ident.name_of_ofName? hname]
  exact fun hmem => absurd (hword.chars '#' hmem) (by decide)

/-- Identifiers of host names have the same name if they are spelled alike. -/
theorem name_eq_of_text_eq {i j : Ident} (hi : IsHostIdent i) (hj : IsHostIdent j)
    (h : i.text = j.text) : i.name = j.name := by
  have hspell : i.spell = j.spell := String.ofList_inj.1 h
  have hmark : ∀ {k : Ident} {cs : List Char}, IsHostIdent k →
      k.name.toList ≠ 'r' :: '#' :: cs := by
    intro k cs hk heq
    exact hk.hash_not_mem (by simp [heq])
  unfold Ident.spell at hspell
  cases hrawi : i.raw <;> cases hrawj : j.raw <;> rw [hrawi, hrawj] at hspell
  case false.false => exact String.toList_inj.1 hspell
  case false.true => exact absurd hspell (hmark hi)
  case true.false => exact absurd hspell.symm (hmark hj)
  case true.true => exact String.toList_inj.1 (List.append_cancel_left hspell)

/-! ## Paths of types -/

variable {n : TypeName}

/-- A name whose parts are accepted is its own flat name. -/
theorem flatName_of_accepts (h : Accepts (String.ofList n.localName)) :
    flatName n = String.ofList n.localName := by
  have hword := isAsciiWord_of_accepts h
  rw [← String.toList_inj, toList_flatName, String.toList_ofList]
  refine (List.map_congr_left fun c hc => if_neg ?_).trans (List.map_id _)
  rintro rfl
  exact absurd (hword.chars '$' hc) (by decide)

/-- No accepted part of a package is passed over. -/
theorem packageSegments_of_accepts
    (h : ∀ part ∈ n.parts.dropLast, Accepts (String.ofList part)) :
    packageSegments n.package = n.parts.dropLast.map String.ofList := by
  rw [packageSegments_package, List.filter_eq_self.2]
  intro part hpart
  suffices hne : part ≠ [] by simpa using hne
  rintro rfl
  exact absurd (h [] hpart) (by decide)

/-- Below every root, the path of a type runs through the segments by which a marker names it. -/
theorem exists_typePath_eq_descend (h : ∀ part ∈ n.parts, Accepts (String.ofList part)) :
    ∃ names, spelledPath n = .ok (.relative names) ∧
      ∀ root, typePath root n = .ok (root.descend names) := by
  rw [n.parts_eq_append, List.forall_mem_append, List.forall_mem_singleton] at h
  obtain ⟨hpackage, hlocal⟩ := h
  obtain ⟨modules, hmodules⟩ := Dispatcher.mapM_total hpackage
  obtain ⟨item, hitem⟩ := id hlocal
  refine ⟨modules ++ [item], ?_, fun root => ?_⟩
  · rw [spelledPath, n.parts_eq_append, List.mapM_append, hmodules, List.mapM_cons, hitem]
    rfl
  · rw [← ModPath.child_descend]
    refine itemPath_eq_ok_iff.2 ⟨modules, item, ?_, ?_, rfl⟩
    · rw [packageSegments_of_accepts hpackage, List.mapM_map]
      exact hmodules
    · rw [flatName_of_accepts hlocal, hitem]

/-- The path by which a marker names a type is printed as a text that a list of types is read from:
it names that type. -/
theorem readTypeList_spelledPath {p : ModPath} (h : spelledPath n = .ok p) :
    ∃ body, tokenize p.text = some body ∧
      ∀ field head, readTypeList field (.list head body) = .ok [n] := by
  obtain ⟨hlegible, hreads⟩ := reads_spelledPath h
  refine ⟨p.tokens, tokenize_text hlegible, fun field head => ?_⟩
  have hitems : MarkerItem.ofTokens p.tokens = .ok [.word p] :=
    MarkerItem.ofTokens_commaSeparated (.cons hreads .nil)
  have htypes := MarkerItem.typesOfItems_words field [p]
  rw [readTypeList, hitems]
  rw [List.map_singleton, List.map_singleton, (spelledPath_ok h).2] at htypes
  exact htypes

/-- A type whose parts are accepted has a path below every root.  It begins with the segments of the
root.  What follows is read back to the type, as the path that it is and as the text that it is
printed as, where keywords, and nothing else, are raw.  No other such type has the path.  And two
names whose identifiers are spelled alike are one name.

An accepted part has no dollar sign, so the types are not nested. -/
theorem typePath_reads_back :
    (∀ (root : ModPath) (n : TypeName), (∀ part ∈ n.parts, Accepts (String.ofList part)) →
      ∃ path, typePath root n = .ok path ∧
        path.absolute = root.absolute ∧
        path.segments = root.segments ++ (path.behind root).segments ∧
        TypeName.ofPath (path.behind root) = n ∧
        (∀ i ∈ (path.behind root).names, i.raw = keywords.contains i.name) ∧
        (∃ body, tokenize (path.behind root).text = some body ∧
          ∀ field head, readTypeList field (.list head body) = .ok [n]) ∧
        ∀ m : TypeName, (∀ part ∈ m.parts, Accepts (String.ofList part)) →
          typePath root m = .ok path → m = n) ∧
    ∀ (a b : String) (i j : Ident),
      ident a = .ok i → ident b = .ok j → i.text = j.text → a = b := by
  constructor
  · intro root n hn
    obtain ⟨names, hspelled, hpath⟩ := exists_typePath_eq_descend hn
    obtain ⟨⟨names', hrelative, _, hhost⟩, hread⟩ := spelledPath_ok hspelled
    obtain rfl : names = names' := by simpa using congrArg ModPath.names hrelative
    have hbehind := ModPath.behind_descend root names
    refine ⟨root.descend names, hpath root, ModPath.absolute_descend root names, ?_, ?_, ?_, ?_, ?_⟩
    · rw [hbehind]
      exact ModPath.segments_descend root names
    · rw [hbehind, hread]
    · rw [hbehind, ModPath.names_relative]
      intro i hi
      obtain ⟨name, hname⟩ := hhost i hi
      exact raw_of_ofName? hname
    · rw [hbehind]
      exact readTypeList_spelledPath hspelled
    · intro m hm hsame
      obtain ⟨names', hspelled', hpath'⟩ := exists_typePath_eq_descend hm
      have hdescend : root.descend names' = root.descend names :=
        Except.ok.inj ((hpath' root).symm.trans hsame)
      rw [← (spelledPath_ok hspelled').2, ← ModPath.behind_descend root, hdescend, hbehind, hread]
  · intro a b i j ha hb htext
    have hi := ident_eq_ok_iff.1 ha
    have hj := ident_eq_ok_iff.1 hb
    have hname := name_eq_of_text_eq ⟨a, hi⟩ ⟨b, hj⟩ htext
    rwa [Ident.name_of_ofName? hi, Ident.name_of_ofName? hj] at hname

/-- A type in a package that is named by a keyword. -/
def rawThing : TypeName := ⟨"org.type.Thing"⟩

/-- The path of a module, as a root. -/
def modelRoot : ModPath := .relative [.plain "crate", .plain "model"]

theorem rawThing_path_reads_back :
    (∀ part ∈ rawThing.parts, Accepts (String.ofList part)) ∧
      ∃ path, typePath modelRoot rawThing = .ok path ∧
        path.text = "crate :: model :: org :: r#type :: Thing" ∧
        TypeName.ofPath (path.behind modelRoot) = rawThing := by
  have hparts : ∀ part ∈ rawThing.parts, Accepts (String.ofList part) := by decide
  obtain ⟨path, hpath, _, _, hread, _⟩ := typePath_reads_back.1 modelRoot rawThing hparts
  have hprinted : (typePath modelRoot rawThing).map ModPath.text =
      .ok "crate :: model :: org :: r#type :: Thing" := by decide +kernel
  rw [hpath] at hprinted
  exact ⟨hparts, path, hpath, Except.ok.inj hprinted, hread⟩

end Naming

end ValidatorForge
