import ValidatorForge.Proofs.Discovery.Accessors
import ValidatorForge.Proofs.Naming.Spelling

/-!
# The methods of accessors

The method of an accessor is its name in snake case, and this module says why that is an identifier
(`methodIdent_total`).  Putting an ASCII name in snake case keeps it a word:

* cutting a text into words loses nothing but separators (`flatten_wordsOf`), so the result has
  the characters of the name, in lower case, and underscores (`mem_snakeCase`),
* the first word begins with the first character (`exists_words_cons`), so the result does
  (`exists_snakeCase_cons`).

An accessor begins with `get` or `is`.  So does its method with the first letter of these, and hence
it is not empty, begins with no digit and is no keyword of paths.
-/

namespace ValidatorForge

/-! ## Words of a text -/

namespace Text

/-- Only three clusters are separators. -/
theorem mem_separators_of_class {cluster : List Char} (h : WordClass.of cluster = .separator) :
    cluster ∈ [['_'], ['-'], [' ']] := by
  unfold WordClass.of at h
  split at h
  · next hseparator =>
    simp only [Bool.or_eq_true, decide_eq_true_eq] at hseparator
    simpa [or_assoc] using hseparator
  · split at h
    · cases h
    · dsimp only at h
      split at h
      · cases h
      · split at h
        · cases h
        · split at h <;> cases h

/-- A separator ends a word.  Any other cluster is a word, or begins one. -/
theorem wordsOf_cons (cluster : List Char) (k : WordClass) (rest : List (List Char × WordClass)) :
    k = .separator ∧ wordsOf ((cluster, k) :: rest) = [] :: wordsOf rest ∨
      k ≠ .separator ∧ (wordsOf ((cluster, k) :: rest) = cluster :: wordsOf rest ∨
        ∃ word others, wordsOf rest = word :: others ∧
          wordsOf ((cluster, k) :: rest) = (cluster ++ word) :: others) := by
  by_cases hk : k = .separator
  · left
    rw [wordsOf.eq_def]
    exact ⟨hk, if_pos hk⟩
  · right
    refine ⟨hk, ?_⟩
    rw [wordsOf.eq_def ((cluster, k) :: rest)]
    dsimp only
    rw [if_neg hk]
    -- whether a word ends here depends on the next cluster
    cases rest with
    | nil => exact Or.inr ⟨[], [], rfl, rfl⟩
    | cons next more =>
      obtain ⟨following, b⟩ := next
      dsimp only
      by_cases hcut : k.breaks b (more.head?.map Prod.snd) = true
      · exact Or.inl (if_pos hcut)
      · rw [if_neg hcut]
        cases wordsOf ((following, b) :: more) with
        | nil => exact Or.inl rfl
        | cons word others => exact Or.inr ⟨word, others, rfl, rfl⟩

/-- The words hold all clusters but the separators. -/
theorem flatten_wordsOf (ks : List (List Char × WordClass)) :
    (wordsOf ks).flatten = (ks.filter (·.2 ≠ .separator)).flatMap (·.1) := by
  induction ks with
  | nil => rfl
  | cons k rest ih =>
    obtain ⟨cluster, k⟩ := k
    rcases wordsOf_cons cluster k rest with ⟨rfl, hwords⟩ | ⟨hk, hwords | hwords⟩
    · rw [hwords, List.flatten_cons, ih, List.filter_cons_of_neg (by simp)]
      rfl
    · rw [hwords, List.flatten_cons, ih, List.filter_cons_of_pos (by simpa using hk)]
      rfl
    · obtain ⟨word, others, hrest, hwords⟩ := hwords
      have hlater : word ++ others.flatten = (wordsOf rest).flatten := by rw [hrest]; rfl
      rw [hwords, List.flatten_cons, List.append_assoc, hlater, ih,
        List.filter_cons_of_pos (by simpa using hk)]
      rfl

/-- The first word begins with the first cluster, unless that is a separator. -/
theorem exists_wordsOf_cons (cluster : List Char) {k : WordClass} (hk : k ≠ .separator)
    (rest : List (List Char × WordClass)) :
    ∃ more others, wordsOf ((cluster, k) :: rest) = (cluster ++ more) :: others := by
  rcases wordsOf_cons cluster k rest with ⟨hseparator, _⟩ | ⟨_, hwords | ⟨word, others, _, hwords⟩⟩
  · exact absurd hseparator hk
  · exact ⟨[], wordsOf rest, by rw [hwords, List.append_nil]⟩
  · exact ⟨word, others, hwords⟩

theorem mem_of_mem_words {cs word : List Char} {c : Char} (hword : word ∈ words cs)
    (hc : c ∈ word) : c ∈ cs := by
  have hflat : c ∈ (words cs).flatten := List.mem_flatten.2 ⟨word, hword, hc⟩
  rw [words, flatten_wordsOf] at hflat
  obtain ⟨k, hk, hck⟩ := List.mem_flatMap.1 hflat
  obtain ⟨cluster, hcluster, rfl⟩ := List.mem_map.1 (List.mem_filter.1 hk).1
  rw [← flatten_clusters cs]
  exact List.mem_flatten.2 ⟨cluster, hcluster, hck⟩

/-- The first word begins with the first character, unless that may be a separator. -/
theorem exists_words_cons {c : Char} (hc : c ∉ ['_', '-', ' ']) (rest : List Char) :
    ∃ more others, words (c :: rest) = (c :: more) :: others := by
  obtain ⟨cluster, later, hclusters⟩ := exists_clusters_cons c rest
  have hclass : WordClass.of (c :: cluster) ≠ .separator := by
    intro hseparator
    have hmem := mem_separators_of_class hseparator
    simp only [List.mem_cons, List.cons.injEq, List.not_mem_nil, or_false] at hmem hc
    tauto
  obtain ⟨more, others, hwords⟩ := exists_wordsOf_cons (c :: cluster) hclass
    (later.map fun cluster => (cluster, WordClass.of cluster))
  refine ⟨cluster ++ more, others, ?_⟩
  rw [words, hclusters]
  exact hwords

/-! ## Snake case -/

/-- A text in snake case consists of underscores and the characters of the text in lower case. -/
theorem mem_snakeCase {cs : List Char} (hascii : ∀ c ∈ cs, c.toNat < 0x80) {d : Char}
    (h : d ∈ snakeCase cs) : d = '_' ∨ ∃ c ∈ cs, d = c.toLower := by
  rcases mem_join h with hsep | ⟨lower, hlower, hd⟩
  · exact Or.inl (List.mem_singleton.1 hsep)
  · obtain ⟨word, hword, rfl⟩ := List.mem_map.1 hlower
    have hchars : ∀ c ∈ word, c ∈ cs := fun c hc => mem_of_mem_words hword hc
    rw [toLower_of_ascii fun c hc => hascii c (hchars c hc)] at hd
    obtain ⟨c, hc, rfl⟩ := List.mem_map.1 hd
    exact Or.inr ⟨c, hchars c hc, rfl⟩

/-- A text in snake case begins with its first character in lower case. -/
theorem exists_snakeCase_cons {c : Char} {rest : List Char} (hc : c ∉ ['_', '-', ' '])
    (hascii : ∀ d ∈ c :: rest, d.toNat < 0x80) :
    ∃ more, snakeCase (c :: rest) = c.toLower :: more := by
  obtain ⟨word, others, hwords⟩ := exists_words_cons hc rest
  have hlower : toLower (c :: word) = c.toLower :: word.map Char.toLower := by
    refine toLower_of_ascii fun d hd => hascii d ?_
    exact mem_of_mem_words (hwords ▸ List.mem_cons_self) hd
  obtain ⟨more, hjoin⟩ := exists_join_cons ['_'] (toLower (c :: word)) (others.map toLower)
  refine ⟨word.map Char.toLower ++ more, ?_⟩
  rw [snakeCase, hwords, List.map_cons, hjoin, hlower, List.cons_append]

end Text

/-! ## Methods -/

/-- An accessor begins with a small letter. -/
theorem MethodDecl.Reads.exists_name_cons {m : MethodDecl} {property : String}
    (h : m.Reads property) : ∃ c rest, m.name.toList = c :: rest ∧ (c = 'g' ∨ c = 'i') := by
  obtain ⟨_, suffix, _, _, hget | ⟨his, _⟩, _⟩ := h.named
  · exact ⟨'g', _, hget, Or.inl rfl⟩
  · exact ⟨'i', _, his, Or.inr rfl⟩

namespace Naming

open Source Source.Ident

/-- A word that begins like an accessor is no name that is refused. -/
theorem accepts_of_accessor_head {name : String} {c : Char} {rest : List Char}
    (hword : IsAsciiWord name.toList) (hname : name.toList = c :: rest) (hc : c = 'g' ∨ c = 'i') :
    Accepts name := by
  have hrefused : ∀ w ∈ "_" :: pathKeywords,
      w.toList.head? ≠ some 'g' ∧ w.toList.head? ≠ some 'i' := by decide
  have hnot : name ∉ "_" :: pathKeywords := by
    intro hmem
    obtain ⟨hg, hi⟩ := hrefused name hmem
    rw [hname] at hg hi
    rcases hc with rfl | rfl
    · exact hg rfl
    · exact hi rfl
  rw [List.mem_cons, not_or] at hnot
  obtain ⟨hunderscore, hpath⟩ := hnot
  exact accepts_iff.2 ⟨hword, hunderscore, hpath⟩

/-- A method that reads a property has a name in the emitted language if its own is made of ASCII
letters, digits and underscores. -/
theorem methodIdent_total {m : MethodDecl} {property : String} (hreads : m.Reads property)
    (hchars : ∀ c ∈ m.name.toList, isAsciiWordChar c = true) :
    ∃ i, methodIdent m.name = .ok i := by
  obtain ⟨c, rest, hname, hc⟩ := hreads.exists_name_cons
  have hascii : ∀ c ∈ m.name.toList, c.toNat < 0x80 :=
    fun c hc => toNat_lt_of_isAsciiWordChar (hchars c hc)
  have hseparator : c ∉ ['_', '-', ' '] := by rcases hc with rfl | rfl <;> decide
  have hlower : c.toLower = c := by rcases hc with rfl | rfl <;> rfl
  have hdigit : c.isDigit = false := by rcases hc with rfl | rfl <;> rfl
  obtain ⟨more, hsnake⟩ := Text.exists_snakeCase_cons hseparator (hname ▸ hascii)
  rw [hlower, ← hname] at hsnake
  have hword : IsAsciiWord (Text.snakeCase m.name.toList) := by
    refine ⟨fun d hd => ?_, c, more, hsnake, hdigit⟩
    rcases Text.mem_snakeCase hascii hd with rfl | ⟨d', hd', rfl⟩
    · rfl
    · exact isAsciiWordChar_toLower (hchars d' hd')
  apply accepts_of_accessor_head
  case hword =>
    rw [String.toList_ofList]
    exact hword
  case hname =>
    rw [String.toList_ofList]
    exact hsnake
  case hc => exact hc

example : methodIdent "getHTML5Doc" = .ok (.plain "get_html_5_doc") := by rfl

end Naming

end ValidatorForge
