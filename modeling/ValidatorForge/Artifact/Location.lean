import ValidatorForge.Text.Field

/-!
# Locations of files

A location is a slash-separated path.  `push` goes down by one part, which replaces the path if it
is absolute itself.
-/

namespace ValidatorForge.Artifact

/-- A path in the file system. -/
structure Location where
  text : String
deriving DecidableEq, Repr, Inhabited

namespace Location

instance : ToString Location := ⟨text⟩

/-- The location of `part` below a location. -/
def push (l : Location) (part : String) : Location :=
  if part.toList.head? = some '/' then ⟨part⟩
  else if l.text.isEmpty || l.text.toList.getLast? = some '/' then ⟨l.text ++ part⟩
  else ⟨l.text ++ "/" ++ part⟩

/-- The parts of a location that name something: empty ones and single dots do not. -/
def parts (l : Location) : List String :=
  ((Text.fields '/' l.text.toList).map String.ofList).filter fun p => p != "" && p != "."

private def isFiller (field : List Char) : Bool := field == [] || field == ['.']

/-- The directory of a location: the text before its last part. -/
def parent (l : Location) : Location :=
  let fields := (Text.fields '/' l.text.toList).reverse
  let above := ((fields.dropWhile isFiller).drop 1).dropWhile isFiller
  ⟨String.ofList (Text.join ['/'] above.reverse)⟩

/-- The text of a location as seen from `root`, or all of it if it is not below. -/
def relativeTo (l root : Location) : String :=
  let below := root.text.toList ++ ['/']
  if below.isPrefixOf l.text.toList then
    String.ofList ((l.text.toList.drop below.length).dropWhile (· == '/'))
  else if l = root then "" else l.text

/-! ## Parts -/

private theorem parts_eq_filter (l : Location) :
    l.parts = ((Text.fields '/' l.text.toList).filter (!isFiller ·)).map String.ofList := by
  have hfiller : ∀ f : List Char,
      (String.ofList f != "" && String.ofList f != ".") = !isFiller f := by
    intro f
    have hempty : String.ofList f = "" ↔ f = [] := String.ofList_inj
    have hdot : String.ofList f = "." ↔ f = ['.'] := String.ofList_inj
    rw [isFiller, Bool.not_or, Bool.eq_iff_iff]
    simp [hempty, hdot]
  rw [parts, List.filter_map]
  exact congrArg _ (List.filter_congr fun f _ => hfiller f)

private theorem filter_dropWhile (fs : List (List Char)) :
    (fs.dropWhile isFiller).filter (!isFiller ·) = fs.filter (!isFiller ·) := by
  induction fs with
  | nil => rfl
  | cons f rest ih => cases hf : isFiller f <;> simp [hf, ih]

private theorem filter_drop_dropWhile (fs : List (List Char)) :
    ((fs.dropWhile isFiller).drop 1).filter (!isFiller ·) =
      (fs.filter (!isFiller ·)).drop 1 := by
  induction fs with
  | nil => rfl
  | cons f rest ih =>
    cases hf : isFiller f
    · simp [hf]
    · simpa [hf] using ih

/-- The directory of a location has the parts before the last one. -/
theorem parts_parent (l : Location) : l.parent.parts = l.parts.dropLast := by
  have hslash : ∀ fs : List (List Char), fs <:+ (Text.fields '/' l.text.toList).reverse →
      (Text.fields '/' (Text.join ['/'] fs.reverse)).filter (!isFiller ·) =
        (fs.filter (!isFiller ·)).reverse := by
    intro fs hfs
    rw [← List.filter_reverse]
    by_cases hempty : fs = []
    · rw [hempty]
      rfl
    · rw [Text.fields_join (mt List.reverse_eq_nil_iff.1 hempty)]
      intro f hf hmem
      have hfield := List.mem_reverse.1 (hfs.subset (List.mem_reverse.1 hf))
      exact absurd (Text.not_sep_of_mem_fieldsBy hfield '/' hmem) (by decide)
  have hsuffix := (List.dropWhile_suffix isFiller).trans ((List.drop_suffix 1 _).trans
    (List.dropWhile_suffix isFiller (l := (Text.fields '/' l.text.toList).reverse)))
  rw [parts_eq_filter, parts_eq_filter, parent, String.toList_ofList, hslash _ hsuffix,
    filter_dropWhile, filter_drop_dropWhile, List.filter_reverse]
  simp [List.dropLast_eq_take, List.drop_reverse]

end Location

end ValidatorForge.Artifact
