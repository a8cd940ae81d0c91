/-!
# Fields of a text

Dotted names and paths are read as fields between separators.  `join_fields` says that joining the
fields with their separator gives the text back, and `lastField_append_cons` reads the last field
off a text with a last separator.
-/

namespace ValidatorForge.Text

/-- The fields between the characters that satisfy `sep`.  A text without one is a single field. -/
def fieldsBy (sep : Char → Bool) : List Char → List (List Char)
  | [] => [[]]
  | c :: rest =>
    if sep c then [] :: fieldsBy sep rest
    else
      match fieldsBy sep rest with
      | [] => [[c]]
      | field :: more => (c :: field) :: more

/-- The fields between occurrences of `sep`. -/
def fields (sep : Char) (cs : List Char) : List (List Char) := fieldsBy (· == sep) cs

/-- The fields with `sep` between them. -/
def join (sep : List Char) : List (List Char) → List Char
  | [] => []
  | [field] => field
  | field :: more => field ++ sep ++ join sep more

/-- The text after the last character that satisfies `sep`, or all of it. -/
def lastField (sep : Char → Bool) (cs : List Char) : List Char :=
  ((fieldsBy sep cs).getLast?).getD []

/-- The text with every `old` replaced by `new`. -/
def replaceChar (old new : Char) (cs : List Char) : List Char :=
  cs.map fun c => if c = old then new else c

theorem fieldsBy_ne_nil (sep : Char → Bool) (cs : List Char) : fieldsBy sep cs ≠ [] := by
  induction cs with
  | nil => simp [fieldsBy]
  | cons c rest ih =>
    unfold fieldsBy
    split
    · simp
    · split <;> simp_all

/-- Joining the fields of a text with their separator gives the text. -/
theorem join_fields (sep : Char) (cs : List Char) : join [sep] (fields sep cs) = cs := by
  unfold fields
  induction cs with
  | nil => simp [fieldsBy, join]
  | cons c rest ih =>
    have hne := fieldsBy_ne_nil (· == sep) rest
    cases hf : fieldsBy (· == sep) rest with
    | nil => exact absurd hf hne
    | cons field more =>
      rw [hf] at ih
      by_cases hc : c = sep
      · subst hc
        simp [fieldsBy, hf, join, ih]
      · cases more with
        | nil => simp_all [fieldsBy, join]
        | cons next more => simp_all [fieldsBy, join]

/-- The fields before and after a separator. -/
theorem fieldsBy_append_cons {sep : Char → Bool} {c : Char} (hc : sep c = true)
    (before after : List Char) :
    fieldsBy sep (before ++ c :: after) = fieldsBy sep before ++ fieldsBy sep after := by
  induction before with
  | nil => simp [fieldsBy, hc]
  | cons d rest ih =>
    by_cases hd : sep d = true
    · simp [fieldsBy, hd, ih]
    · obtain ⟨field, more, hfields⟩ := List.exists_cons_of_ne_nil (fieldsBy_ne_nil sep rest)
      simp [fieldsBy, hd, ih, hfields]

theorem fieldsBy_eq_singleton {sep : Char → Bool} {cs : List Char}
    (h : ∀ c ∈ cs, sep c = false) : fieldsBy sep cs = [cs] := by
  induction cs with
  | nil => rfl
  | cons c rest ih =>
    have hrest := ih fun d hd => h d (List.mem_cons_of_mem _ hd)
    simp [fieldsBy, h c List.mem_cons_self, hrest]

/-- A field has no separators. -/
theorem not_sep_of_mem_fieldsBy {sep : Char → Bool} {cs field : List Char}
    (h : field ∈ fieldsBy sep cs) : ∀ c ∈ field, sep c = false := by
  induction cs generalizing field with
  | nil =>
    rw [List.mem_singleton.1 h]
    exact List.forall_mem_nil _
  | cons c rest ih =>
    obtain ⟨first, more, hrest⟩ := List.exists_cons_of_ne_nil (fieldsBy_ne_nil sep rest)
    have hfirst : ∀ d ∈ first, sep d = false := ih (hrest ▸ List.mem_cons_self)
    have hmore : ∀ f ∈ more, ∀ d ∈ f, sep d = false :=
      fun f hf => ih (hrest ▸ List.mem_cons_of_mem _ hf)
    by_cases hc : sep c = true
    · rw [fieldsBy, if_pos hc, hrest] at h
      rcases List.mem_cons.1 h with rfl | h
      · exact List.forall_mem_nil _
      · rcases List.mem_cons.1 h with rfl | h
        · exact hfirst
        · exact hmore field h
    · rw [fieldsBy, if_neg hc, hrest] at h
      rcases List.mem_cons.1 h with rfl | h
      · exact List.forall_mem_cons.2 ⟨by simpa using hc, hfirst⟩
      · exact hmore field h

/-- The characters of a field are characters of the text. -/
theorem mem_of_mem_fieldsBy {sep : Char → Bool} {cs field : List Char}
    (h : field ∈ fieldsBy sep cs) : ∀ c ∈ field, c ∈ cs := by
  induction cs generalizing field with
  | nil =>
    rw [List.mem_singleton.1 h]
    exact List.forall_mem_nil _
  | cons c rest ih =>
    obtain ⟨first, more, hrest⟩ := List.exists_cons_of_ne_nil (fieldsBy_ne_nil sep rest)
    have hfirst : ∀ d ∈ first, d ∈ c :: rest :=
      fun d hd => List.mem_cons_of_mem _ (ih (hrest ▸ List.mem_cons_self) d hd)
    have hmore : ∀ f ∈ more, ∀ d ∈ f, d ∈ c :: rest :=
      fun f hf d hd => List.mem_cons_of_mem _ (ih (hrest ▸ List.mem_cons_of_mem _ hf) d hd)
    by_cases hc : sep c = true
    · rw [fieldsBy, if_pos hc, hrest] at h
      rcases List.mem_cons.1 h with rfl | h
      · exact List.forall_mem_nil _
      · rcases List.mem_cons.1 h with rfl | h
        · exact hfirst
        · exact hmore field h
    · rw [fieldsBy, if_neg hc, hrest] at h
      rcases List.mem_cons.1 h with rfl | h
      · exact List.forall_mem_cons.2 ⟨List.mem_cons_self, hfirst⟩
      · exact hmore field h

/-- Fields that are joined by their separator are read back. -/
theorem fields_join {sep : Char} {fs : List (List Char)} (hne : fs ≠ []) (h : ∀ f ∈ fs, sep ∉ f) :
    fields sep (join [sep] fs) = fs := by
  induction fs with
  | nil => exact absurd rfl hne
  | cons f rest ih =>
    have hf : fields sep f = [f] := by
      refine fieldsBy_eq_singleton fun c hc => beq_eq_false_iff_ne.2 fun heq => ?_
      exact h f List.mem_cons_self (heq ▸ hc)
    cases rest with
    | nil => exact hf
    | cons g more =>
      have hrest : fields sep (join [sep] (g :: more)) = g :: more :=
        ih (List.cons_ne_nil _ _) fun f' hf' => h f' (List.mem_cons_of_mem _ hf')
      have happend : fieldsBy (· == sep) (f ++ sep :: join [sep] (g :: more)) =
          fieldsBy (· == sep) f ++ fieldsBy (· == sep) (join [sep] (g :: more)) :=
        fieldsBy_append_cons (by simp) _ _
      calc
        fields sep (join [sep] (f :: g :: more))
          = fields sep (f ++ sep :: join [sep] (g :: more)) := by simp [join]
        _ = fields sep f ++ fields sep (join [sep] (g :: more)) := happend
        _ = f :: g :: more := by rw [hf, hrest]; rfl

/-- A text without separators is its own last field. -/
theorem lastField_eq_self {sep : Char → Bool} {cs : List Char} (h : ∀ c ∈ cs, sep c = false) :
    lastField sep cs = cs := by
  rw [lastField, fieldsBy_eq_singleton h]
  rfl

/-- The last field of a text with a last separator. -/
theorem lastField_append_cons {sep : Char → Bool} {c : Char} (hc : sep c = true)
    (before : List Char) {after : List Char} (h : ∀ d ∈ after, sep d = false) :
    lastField sep (before ++ c :: after) = after := by
  rw [lastField, fieldsBy_append_cons hc, fieldsBy_eq_singleton h, List.getLast?_concat]
  rfl

/-- Comma-separated strings in square brackets or parentheses are written with this. -/
def commaJoin (texts : List String) : String := ", ".intercalate texts

end ValidatorForge.Text
