import ValidatorForge.Text.Unicode.CaseTable
import ValidatorForge.Text.Unicode.LetterTable

/-!
# Upper and lower case

Case mappings of characters and texts.  A mapping may give several characters (`ß` becomes `SS`).
In a text, a capital sigma at the end of a word becomes a final sigma.
-/

namespace ValidatorForge.Text

/-- Whether a table of `(first, last, stride)` entries covers the code point `n`. -/
def covers (table : List (Nat × Nat × Nat)) (n : Nat) : Bool :=
  table.any fun (first, last, stride) => first ≤ n && n ≤ last && (n - first) % stride == 0

/-- The image of `n` under a table of `(first, last, stride, shift)` runs. -/
def shifted? (runs : List (Nat × Nat × Nat × Int)) (n : Nat) : Option Nat :=
  (runs.find? fun (first, last, stride, _) =>
      first ≤ n && n ≤ last && (n - first) % stride == 0).map
    fun (_, _, _, shift) => (n + shift).toNat

private def mapped (runs : List (Nat × Nat × Nat × Int)) (special : List (Nat × List Nat))
    (c : Char) : List Char :=
  match special.lookup c.toNat with
  | some many => many.map Char.ofNat
  | none => [((shifted? runs c.toNat).map Char.ofNat).getD c]

/-- The upper-case form of a character. -/
def upperChars (c : Char) : List Char :=
  if c.toNat < 0x80 then [c.toUpper] else mapped Unicode.toUpperRuns Unicode.toUpperSpecial c

/-- The lower-case form of a character that stands alone. -/
def lowerChars (c : Char) : List Char :=
  if c.toNat < 0x80 then [c.toLower] else mapped Unicode.toLowerRuns Unicode.toLowerSpecial c

/-- Whether a character has the Uppercase property. -/
def isUppercase (c : Char) : Bool :=
  if c.toNat < 0x80 then c.isUpper else covers Unicode.uppercase c.toNat

private def isCased (c : Char) : Bool :=
  if c.toNat < 0x80 then c.isAlpha else covers Unicode.cased c.toNat

private def isCaseIgnorable (c : Char) : Bool :=
  if c.toNat < 0x80 then c ∈ ['\'', '.', ':', '^', Char.ofNat 0x60]
  else covers Unicode.caseIgnorable c.toNat

/-- Whether the first character that is not looked through has a case. -/
private def meetsCased (cs : List Char) : Bool :=
  ((cs.dropWhile isCaseIgnorable).head?.map isCased).getD false

/-- The lower-case form of the rest of a text; `before` is the part already read, last first. -/
private def lowerFrom (before : List Char) : List Char → List Char
  | [] => []
  | c :: rest =>
    (if c = 'Σ' then [if meetsCased before && !meetsCased rest then 'ς' else 'σ']
      else lowerChars c) ++ lowerFrom (c :: before) rest

/-- The upper-case form of a text. -/
def toUpper (cs : List Char) : List Char := cs.flatMap upperChars

/-- The lower-case form of a text. -/
def toLower (cs : List Char) : List Char := lowerFrom [] cs

/-- What holds of all code points of ASCII holds of all characters of ASCII. -/
theorem of_ascii {P : Char → Prop} (hall : ∀ n < 0x80, P (Char.ofNat n)) {c : Char}
    (hc : c.toNat < 0x80) : P c := by
  have h := hall c.toNat hc
  rwa [Char.ofNat_toNat] at h

/-- A capital letter of ASCII is its own capital, and that of its small letter. -/
theorem upperChars_of_isUpper {c : Char} (hc : c.isUpper = true) :
    upperChars c = [c] ∧ lowerChars c = [c.toLower] ∧ upperChars c.toLower = [c] := by
  have hlast : c.toNat ≤ 'Z'.toNat := UInt32.le_iff_toNat_le.1 (of_decide_eq_true hc).2
  have hascii : c.toNat < 0x80 := Nat.lt_of_le_of_lt hlast (by decide)
  refine of_ascii (P := fun c => c.isUpper = true →
    upperChars c = [c] ∧ lowerChars c = [c.toLower] ∧ upperChars c.toLower = [c]) ?_ hascii hc
  decide

private theorem lowerFrom_of_ascii (before : List Char) {cs : List Char}
    (h : ∀ c ∈ cs, c.toNat < 0x80) : lowerFrom before cs = cs.map Char.toLower := by
  induction cs generalizing before with
  | nil => rfl
  | cons c rest ih =>
    obtain ⟨hc, hrest⟩ := List.forall_mem_cons.1 h
    have hsigma : c ≠ 'Σ' := by
      rintro rfl
      exact absurd hc (by decide)
    rw [lowerFrom, if_neg hsigma, lowerChars, if_pos hc, ih _ hrest]
    rfl

/-- The lower-case form of an ASCII text is that of each character. -/
theorem toLower_of_ascii {cs : List Char} (h : ∀ c ∈ cs, c.toNat < 0x80) :
    toLower cs = cs.map Char.toLower := lowerFrom_of_ascii [] h

private theorem forall_lowerChars_of_lowerFrom {P : Char → Prop} (hsigma : ¬ P 'σ' ∧ ¬ P 'ς')
    (before : List Char) {cs : List Char} (h : ∀ d ∈ lowerFrom before cs, P d) :
    ∀ c ∈ cs, ∀ d ∈ lowerChars c, P d := by
  induction cs generalizing before with
  | nil => exact List.forall_mem_nil _
  | cons c rest ih =>
    obtain ⟨hc, hrest⟩ := List.forall_mem_append.1 h
    refine List.forall_mem_cons.2 ⟨?_, ih _ hrest⟩
    by_cases heq : c = 'Σ'
    · rw [if_pos heq, List.forall_mem_singleton] at hc
      split at hc
      · exact absurd hc hsigma.2
      · exact absurd hc hsigma.1
    · rwa [if_neg heq] at hc

/-- What holds of the lower-case form of a text holds of that of each character, if it does not hold
of a small sigma: a capital one is the only character with different forms. -/
theorem forall_lowerChars_of_forall_toLower {P : Char → Prop} (hsigma : ¬ P 'σ' ∧ ¬ P 'ς')
    {cs : List Char} (h : ∀ d ∈ toLower cs, P d) : ∀ c ∈ cs, ∀ d ∈ lowerChars c, P d :=
  forall_lowerChars_of_lowerFrom hsigma [] h

private theorem mem_lowerFrom (before : List Char) {cs : List Char} {d : Char}
    (h : d ∈ lowerFrom before cs) : d = 'σ' ∨ d = 'ς' ∨ ∃ c ∈ cs, d ∈ lowerChars c := by
  induction cs generalizing before with
  | nil => exact absurd h List.not_mem_nil
  | cons c rest ih =>
    rcases List.mem_append.1 h with hc | hrest
    · split at hc
      · have hd := List.mem_singleton.1 hc
        split at hd <;> simp [hd]
      · exact Or.inr (Or.inr ⟨c, List.mem_cons_self, hc⟩)
    · rcases ih _ hrest with hd | hd | ⟨c', hc', hd⟩
      · exact Or.inl hd
      · exact Or.inr (Or.inl hd)
      · exact Or.inr (Or.inr ⟨c', List.mem_cons_of_mem _ hc', hd⟩)

/-- The lower-case form of a text consists of those of its characters, and of small sigmas. -/
theorem mem_toLower {cs : List Char} {d : Char} (h : d ∈ toLower cs) :
    d = 'σ' ∨ d = 'ς' ∨ ∃ c ∈ cs, d ∈ lowerChars c := mem_lowerFrom [] h

/-! ## Small letters of ASCII -/

/-- The Kelvin sign, whose small letter is that of `K`. -/
def kelvin : Char := Char.ofNat 0x212a

private theorem exists_run_of_shifted? {runs : List (Nat × Nat × Nat × Int)} {n m : Nat}
    (h : shifted? runs n = some m) :
    ∃ first last stride shift, (first, last, stride, shift) ∈ runs ∧ first ≤ n ∧ n ≤ last ∧
      m = (n + shift).toNat := by
  obtain ⟨⟨first, last, stride, shift⟩, hrun, rfl⟩ := Option.map_eq_some_iff.1 h
  have hcovers := List.find?_some hrun
  simp only [Bool.and_eq_true, decide_eq_true_eq] at hcovers
  obtain ⟨⟨hfirst, hlast⟩, _⟩ := hcovers
  exact ⟨first, last, stride, shift, List.mem_of_find?_eq_some hrun, hfirst, hlast, rfl⟩

/-- All images under a run of a table are characters above ASCII. -/
private def staysAbove (run : Nat × Nat × Nat × Int) : Bool :=
  let (first, last, _, shift) := run
  0x80 ≤ first + shift &&
    (last + shift < 0xd800 || 0xdfff < first + shift && last + shift < 0x110000)

private theorem le_toNat_ofNat_of_staysAbove {first last stride : Nat} {shift : Int}
    (h : staysAbove (first, last, stride, shift) = true) {n : Nat} (hfirst : first ≤ n)
    (hlast : n ≤ last) : 0x80 ≤ (Char.ofNat (n + shift).toNat).toNat := by
  simp only [staysAbove, Bool.and_eq_true, Bool.or_eq_true, decide_eq_true_eq] at h
  have hvalid : (n + shift).toNat.isValidChar := by unfold Nat.isValidChar; omega
  rw [Char.ofNat, dif_pos hvalid]
  show 0x80 ≤ (n + shift).toNat
  omega

/-- The Kelvin sign is the only character above ASCII whose small letter is of ASCII. -/
theorem ascii_or_kelvin {c : Char} (h : ∀ d ∈ lowerChars c, d.toNat < 0x80) :
    c.toNat < 0x80 ∨ c = kelvin := by
  have hspecial : ∀ entry ∈ Unicode.toLowerSpecial,
      ∃ n ∈ entry.2, ¬ (Char.ofNat n).toNat < 0x80 := by decide
  have hruns : ∀ run ∈ Unicode.toLowerRuns,
      staysAbove run = true ∨ run.1 = kelvin.toNat ∧ run.2.1 = kelvin.toNat := by decide +kernel
  by_cases hascii : c.toNat < 0x80
  · exact Or.inl hascii
  right
  rw [lowerChars, if_neg hascii, mapped] at h
  cases hlookup : Unicode.toLowerSpecial.lookup c.toNat with
  | some many =>
    rw [hlookup] at h
    obtain ⟨before, after, htable, _⟩ := List.lookup_eq_some_iff.1 hlookup
    have hmem : (c.toNat, many) ∈ Unicode.toLowerSpecial := by simp [htable]
    obtain ⟨n, hn, habove⟩ := hspecial _ hmem
    exact absurd (h _ (List.mem_map_of_mem hn)) habove
  | none =>
    simp only [hlookup, List.forall_mem_singleton] at h
    cases hshifted : shifted? Unicode.toLowerRuns c.toNat with
    | none =>
      rw [hshifted] at h
      exact absurd h hascii
    | some m =>
      rw [hshifted] at h
      obtain ⟨first, last, stride, shift, hrun, hfirst, hlast, rfl⟩ :=
        exists_run_of_shifted? hshifted
      rcases hruns _ hrun with hstays | ⟨hk, hk'⟩
      · exact absurd h (Nat.not_lt_of_le (le_toNat_ofNat_of_staysAbove hstays hfirst hlast))
      · have hcode : c.toNat = kelvin.toNat := Nat.le_antisymm (hk' ▸ hlast) (hk ▸ hfirst)
        exact Char.toNat_inj.1 hcode

end ValidatorForge.Text
