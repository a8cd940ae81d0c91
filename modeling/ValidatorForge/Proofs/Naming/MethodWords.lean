import ValidatorForge.Proofs.Naming.AccessorMethods

/-!
# Which accessors have one method

Snake case forgets the case of a name, and which separator ended a word: `getURL`, `getUrl` and
`get_url` all become `get_url`.  It forgets nothing else.  Two accessors with methods have the same
method exactly if they have the same words in lower case (`methodIdent_eq_iff`).

* An accessor with a method consists of characters of words and of separators, and perhaps the
  Kelvin sign, whose small letter is that of `K` (`isPlain_of_snakeCase`).  In such a text each
  character is a cluster, so no word has an underscore, and the words can be read off the method
  (`fields_snakeCase`).
* In camel case the words determine the name (`ofWords_lowerWords`): each word but the first begins
  with a capital or a digit, and goes on with small letters or digits.
-/

namespace ValidatorForge

open Source.Ident (isAsciiWordChar)

/-! ## Words of plain texts -/

namespace Text

/-- The words of a text in lower case. -/
def lowerWords (cs : List Char) : List (List Char) := (words cs).map toLower

/-- A character that the name of an accessor with a method may have. -/
def IsPlain (c : Char) : Prop := isAsciiWordChar c = true ∨ c ∈ ['-', ' ', kelvin]

variable {c : Char} {cs : List Char}

theorem clusterClass_of_isPlain (h : IsPlain c) : ClusterClass.of c = .other := by
  rcases h with hword | hother
  · exact Source.Ident.of_isAsciiWordChar
      (P := fun c => isAsciiWordChar c = true → ClusterClass.of c = .other) (by decide) hword hword
  · simp only [List.mem_cons, List.not_mem_nil, or_false] at hother
    rcases hother with rfl | rfl | rfl <;> decide +kernel

/-- In a plain text each character is a cluster. -/
theorem words_of_isPlain (h : ∀ c ∈ cs, IsPlain c) :
    words cs = wordsOf (cs.map fun c => ([c], WordClass.of [c])) := by
  rw [words, clusters_of_other fun c hc => clusterClass_of_isPlain (h c hc), List.map_map]
  rfl

theorem wordsOf_ne_nil (ks : List (List Char × WordClass)) : wordsOf ks ≠ [] := by
  cases ks with
  | nil => exact List.cons_ne_nil _ _
  | cons k rest =>
    obtain ⟨cluster, k⟩ := k
    rcases wordsOf_cons cluster k rest with ⟨_, hwords⟩ | ⟨_, hwords | ⟨_, _, _, hwords⟩⟩ <;>
      exact hwords ▸ List.cons_ne_nil _ _

/-- No word of a plain text has an underscore. -/
theorem underscore_not_mem_of_mem_words (h : ∀ c ∈ cs, IsPlain c) {word : List Char}
    (hword : word ∈ words cs) : '_' ∉ word := by
  intro hmem
  have hflat : '_' ∈ (words cs).flatten := List.mem_flatten.2 ⟨word, hword, hmem⟩
  rw [words_of_isPlain h, flatten_wordsOf] at hflat
  obtain ⟨k, hk, hchar⟩ := List.mem_flatMap.1 hflat
  obtain ⟨hk, hclass⟩ := List.mem_filter.1 hk
  obtain ⟨c, _, rfl⟩ := List.mem_map.1 hk
  obtain rfl := List.mem_singleton.1 hchar
  exact absurd hclass (by decide)

/-- Only an underscore has an underscore for its lower-case form. -/
theorem underscore_not_mem_lowerChars (h : IsPlain c) (hne : c ≠ '_') : '_' ∉ lowerChars c := by
  rcases h with hword | hother
  · refine Source.Ident.of_isAsciiWordChar (P := fun c => isAsciiWordChar c = true → c ≠ '_' →
      '_' ∉ lowerChars c) (by decide) hword hword hne
  · simp only [List.mem_cons, List.not_mem_nil, or_false] at hother
    rcases hother with rfl | rfl | rfl <;> decide +kernel

/-- The words of a plain text in lower case can be read off its snake case. -/
theorem fields_snakeCase (h : ∀ c ∈ cs, IsPlain c) : fields '_' (snakeCase cs) = lowerWords cs := by
  refine fields_join (by simpa [words] using wordsOf_ne_nil _) ?_
  intro lower hlower hmem
  obtain ⟨word, hword, rfl⟩ := List.mem_map.1 hlower
  rcases mem_toLower hmem with heq | heq | ⟨c, hc, hchar⟩
  · exact absurd heq (by decide)
  · exact absurd heq (by decide)
  · have hne : c ≠ '_' := fun heq => underscore_not_mem_of_mem_words h hword (heq ▸ hc)
    exact underscore_not_mem_lowerChars (h c (mem_of_mem_words hword hc)) hne hchar

/-- A character of a text is a separator or in a word. -/
theorem mem_separators_or_words (hc : c ∈ cs) :
    c ∈ ['_', '-', ' '] ∨ ∃ word ∈ words cs, c ∈ word := by
  rw [← flatten_clusters cs] at hc
  obtain ⟨cluster, hcluster, hc⟩ := List.mem_flatten.1 hc
  by_cases hclass : WordClass.of cluster = .separator
  · left
    have hseparator := mem_separators_of_class hclass
    simp only [List.mem_cons, List.not_mem_nil, or_false] at hseparator ⊢
    rcases hseparator with rfl | rfl | rfl <;> simp_all
  · right
    rw [← List.mem_flatten, words, flatten_wordsOf, List.mem_flatMap]
    refine ⟨(cluster, WordClass.of cluster), List.mem_filter.2 ⟨?_, by simpa using hclass⟩, hc⟩
    exact List.mem_map_of_mem hcluster

/-- A text is plain if its snake case consists of characters of words. -/
theorem isPlain_of_snakeCase (h : ∀ d ∈ snakeCase cs, isAsciiWordChar d = true) :
    ∀ c ∈ cs, IsPlain c := by
  intro c hc
  rcases mem_separators_or_words hc with hseparator | ⟨word, hword, hc⟩
  · simp only [List.mem_cons, List.not_mem_nil, or_false] at hseparator
    rcases hseparator with rfl | rfl | rfl
    · exact Or.inl rfl
    · exact Or.inr List.mem_cons_self
    · exact Or.inr (List.mem_cons_of_mem _ List.mem_cons_self)
  have hlower : ∀ d ∈ lowerChars c, isAsciiWordChar d = true := by
    refine forall_lowerChars_of_forall_toLower (by decide) (fun d hd => h d ?_) c hc
    exact mem_join_of_mem (List.mem_map_of_mem hword) hd
  rcases ascii_or_kelvin fun d hd => Source.Ident.toNat_lt_of_isAsciiWordChar (hlower d hd) with
    hascii | rfl
  · rw [lowerChars, if_pos hascii, List.forall_mem_singleton] at hlower
    exact Or.inl (of_ascii (P := fun c => isAsciiWordChar c.toLower = true →
      isAsciiWordChar c = true) (by decide) hascii hlower)
  · exact Or.inr (by simp)

end Text

/-! ## Methods -/

namespace Naming

/-- The words of the name of an accessor, in lower case. -/
def methodWords (accessor : String) : List (List Char) := Text.lowerWords accessor.toList

theorem toList_methodIdent {accessor : String} {i : Source.Ident}
    (h : methodIdent accessor = .ok i) : i.name.toList = Text.snakeCase accessor.toList := by
  rw [Source.Ident.name_of_ofName? (ident_eq_ok_iff.1 h), String.toList_ofList]

/-- The words of an accessor can be read off its method. -/
theorem fields_methodIdent {accessor : String} {i : Source.Ident}
    (h : methodIdent accessor = .ok i) :
    Text.fields '_' i.name.toList = methodWords accessor := by
  have hword := isAsciiWord_of_accepts ⟨i, h⟩
  rw [toList_methodIdent h]
  exact Text.fields_snakeCase (Text.isPlain_of_snakeCase hword.chars)

/-- Accessors have the same method exactly if they have the same words in lower case. -/
theorem methodIdent_eq_iff {a b : String} {i j : Source.Ident} (ha : methodIdent a = .ok i)
    (hb : methodIdent b = .ok j) : i = j ↔ methodWords a = methodWords b := by
  constructor
  · rintro rfl
    rw [← fields_methodIdent ha, ← fields_methodIdent hb]
  · intro hwords
    have hsnake : Text.snakeCase a.toList = Text.snakeCase b.toList :=
      congrArg (Text.join ['_']) hwords
    rw [methodIdent, hsnake] at ha
    exact Except.ok.inj (ha.symm.trans hb)

end Naming

/-! ## Camel case -/

namespace Text

/-- What may stand side by side in camel case: no capital follows a capital, and no small letter a
digit. -/
def CamelStep (a b : Char) : Prop :=
  ¬ (a.isUpper = true ∧ b.isUpper = true) ∧ ¬ (a.isDigit = true ∧ b.isLower = true)

instance : DecidableRel CamelStep := fun _ _ => inferInstanceAs (Decidable (_ ∧ _))

/-- A text in camel case is made of letters and digits of ASCII. -/
structure IsCamelCase (cs : List Char) : Prop where
  chars : ∀ c ∈ cs, c.isAlphanum = true
  steps : cs.IsChain CamelStep

instance : DecidablePred IsCamelCase := fun cs =>
  decidable_of_iff (cs.all Char.isAlphanum = true ∧ cs.IsChain CamelStep)
    ⟨fun h => ⟨List.all_eq_true.1 h.1, h.2⟩, fun h => ⟨List.all_eq_true.2 h.chars, h.steps⟩⟩

/-- A word with its first character in upper case. -/
def capitalize : List Char → List Char
  | [] => []
  | c :: rest => c.toUpper :: rest

/-- The text in camel case that is made of words in lower case. -/
def ofWords : List (List Char) → List Char
  | [] => []
  | word :: others => word ++ others.flatMap capitalize

/-- Letters and digits have three classes. -/
theorem wordClass_of_isAlphanum {c : Char} (h : c.isAlphanum = true) :
    WordClass.of [c] ∈ [.upper, .lower, .digit] ∧
      (c.isUpper = true ↔ WordClass.of [c] = .upper) ∧
      (c.isLower = true ↔ WordClass.of [c] = .lower) ∧
      (c.isDigit = true ↔ WordClass.of [c] = .digit) := by
  have hword : isAsciiWordChar c = true := by simp [isAsciiWordChar, h]
  refine Source.Ident.of_isAsciiWordChar (P := fun c => c.isAlphanum = true →
    WordClass.of [c] ∈ [.upper, .lower, .digit] ∧
      (c.isUpper = true ↔ WordClass.of [c] = .upper) ∧
      (c.isLower = true ↔ WordClass.of [c] = .lower) ∧
      (c.isDigit = true ↔ WordClass.of [c] = .digit)) (by decide) hword h

/-- What stands behind a character in camel case: a capital or a digit if a word begins there, a
small letter or a digit if not. -/
theorem breaks_of_camelStep {a b : Char} (ha : a.isAlphanum = true) (hb : b.isAlphanum = true)
    (hstep : CamelStep a b) (next : Option WordClass) :
    if (WordClass.of [a]).breaks (WordClass.of [b]) next then b.isLower = false
    else b.isUpper = false := by
  obtain ⟨hka, hau, -, had⟩ := wordClass_of_isAlphanum ha
  obtain ⟨hkb, hbu, hbl, -⟩ := wordClass_of_isAlphanum hb
  obtain ⟨hcapitals, hdigit⟩ := hstep
  rw [hau, hbu] at hcapitals
  rw [had, hbl] at hdigit
  rw [Bool.eq_false_iff, Bool.eq_false_iff, ne_eq, ne_eq, hbl, hbu]
  generalize WordClass.of [a] = j at *
  generalize WordClass.of [b] = k at *
  cases j <;> cases k <;> simp_all [WordClass.breaks]

theorem IsCamelCase.tail {c : Char} (h : IsCamelCase (c :: cs)) : IsCamelCase cs :=
  ⟨(List.forall_mem_cons.1 h.chars).2, h.steps.of_cons⟩

theorem IsCamelCase.isPlain (h : IsCamelCase cs) : ∀ c ∈ cs, IsPlain c :=
  fun c hc => Or.inl (by simp [isAsciiWordChar, h.chars c hc])

theorem ne_separator_of_isAlphanum {c : Char} (h : c.isAlphanum = true) :
    WordClass.of [c] ≠ .separator := by
  obtain ⟨hclass, _⟩ := wordClass_of_isAlphanum h
  rintro heq
  rw [heq] at hclass
  exact absurd hclass (by decide)

/-- The words of a text in camel case.  The first goes on in lower case, and the others are put in
upper case again by their first characters. -/
theorem wordsOf_camelCase {c : Char} {rest : List Char} (h : IsCamelCase (c :: rest)) :
    ∃ tail others,
      wordsOf ((c :: rest).map fun c => ([c], WordClass.of [c])) = (c :: tail) :: others ∧
      tail.map Char.toLower = tail ∧
      ∀ word ∈ others, capitalize (word.map Char.toLower) = word := by
  have hseparator := ne_separator_of_isAlphanum (h.chars c List.mem_cons_self)
  induction rest generalizing c with
  | nil =>
    refine ⟨[], [], ?_, rfl, List.forall_mem_nil _⟩
    rw [List.map_singleton, wordsOf, if_neg hseparator]
    rfl
  | cons d rest ih =>
    have hc := h.chars c List.mem_cons_self
    have hd := h.tail.chars d List.mem_cons_self
    have hword : isAsciiWordChar d = true := by simp [isAsciiWordChar, hd]
    obtain ⟨tail, others, hwords, htail, hothers⟩ := ih h.tail (ne_separator_of_isAlphanum hd)
    have hbreaks := breaks_of_camelStep hc hd h.steps.rel
      ((rest.map fun c => ([c], WordClass.of [c])).head?.map Prod.snd)
    rw [List.map_cons] at hwords
    rw [List.map_cons, List.map_cons, wordsOf, if_neg hseparator]
    dsimp only
    split at hbreaks
    · next hcut =>
      refine ⟨[], (d :: tail) :: others, by rw [if_pos hcut, hwords], rfl, ?_⟩
      have hback : d.toLower.toUpper = d := Source.Ident.of_isAsciiWordChar
        (P := fun d => d.isLower = false → d.toLower.toUpper = d) (by decide) hword hbreaks
      refine List.forall_mem_cons.2 ⟨?_, hothers⟩
      rw [List.map_cons, htail, capitalize, hback]
    · next hcut =>
      refine ⟨d :: tail, others, by rw [if_neg hcut, hwords]; rfl, ?_, hothers⟩
      have hlower : d.toLower = d := Source.Ident.of_isAsciiWordChar
        (P := fun d => d.isUpper = false → d.toLower = d) (by decide) hword hbreaks
      rw [List.map_cons, htail, hlower]

/-- A name in camel case that begins with a small letter is made of its words in lower case. -/
theorem ofWords_lowerWords {c : Char} {rest : List Char} (h : IsCamelCase (c :: rest))
    (hc : c.toLower = c) : ofWords (lowerWords (c :: rest)) = c :: rest := by
  obtain ⟨tail, others, hwords, htail, hothers⟩ := wordsOf_camelCase h
  have hclusters := words_of_isPlain h.isPlain
  have hflat : (words (c :: rest)).flatten = c :: rest := by
    have hkept : ((c :: rest).map fun c => ([c], WordClass.of [c])).filter (·.2 ≠ .separator) =
        (c :: rest).map fun c => ([c], WordClass.of [c]) := by
      refine List.filter_eq_self.2 (List.forall_mem_map.2 fun d hd => ?_)
      simpa using ne_separator_of_isAlphanum (h.chars d hd)
    rw [hclusters, flatten_wordsOf, hkept, List.flatMap_map, List.flatMap_singleton']
  have hlower : ∀ word ∈ words (c :: rest), toLower word = word.map Char.toLower := by
    refine fun word hword => toLower_of_ascii fun d hd => ?_
    refine Source.Ident.toNat_lt_of_isAsciiWordChar ?_
    simp [isAsciiWordChar, h.chars d (mem_of_mem_words hword hd)]
  rw [hclusters, hwords] at hflat hlower
  obtain ⟨hfirst, hlater⟩ := List.forall_mem_cons.1 hlower
  have hcapital : ∀ word ∈ others, capitalize (toLower word) = word := by
    intro word hword
    rw [hlater word hword, hothers word hword]
  rw [lowerWords, hclusters, hwords, List.map_cons, ofWords, hfirst, List.map_cons, hc, htail,
    List.flatMap_map, ← hflat, List.flatten_cons, List.flatMap_def, List.map_congr_left hcapital]
  simp

end Text

namespace Naming

/-- Accessors in camel case that begin with small letters are told apart by their words. -/
theorem eq_of_methodWords_eq {a b : String} {c d : Char} {cs ds : List Char}
    (hac : a.toList = c :: cs) (hbd : b.toList = d :: ds) (hc : c.toLower = c) (hd : d.toLower = d)
    (ha : Text.IsCamelCase a.toList) (hb : Text.IsCamelCase b.toList)
    (h : methodWords a = methodWords b) : a = b := by
  rw [methodWords, methodWords] at h
  rw [hac] at ha h
  rw [hbd] at hb h
  rw [← String.toList_inj, hac, hbd, ← Text.ofWords_lowerWords ha hc,
    ← Text.ofWords_lowerWords hb hd, h]

end Naming

end ValidatorForge
