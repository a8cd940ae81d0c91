/-!
# Lines of a text

A text is on one line if it has none of the characters that end a line.  These are the line feed and
the other vertical controls up to the carriage return, the next-line control, and the two
separators of Unicode.
-/

namespace ValidatorForge.Text

/-- The characters that end a line. -/
def lineBreaks : List Char := ['\n', '\x0b', '\x0c', '\r', '\u0085', '\u2028', '\u2029']

/-- A text on one line. -/
def Unbroken (cs : List Char) : Prop := ∀ c ∈ cs, c ∉ lineBreaks

-- the characters of the text are searched, not all that there are
instance : DecidablePred Unbroken := fun cs => List.decidableBAll (fun c => c ∉ lineBreaks) cs

@[simp] theorem unbroken_nil : Unbroken [] := List.forall_mem_nil _

@[simp] theorem unbroken_cons {c : Char} {cs : List Char} :
    Unbroken (c :: cs) ↔ c ∉ lineBreaks ∧ Unbroken cs :=
  List.forall_mem_cons

@[simp] theorem unbroken_append {cs ds : List Char} :
    Unbroken (cs ++ ds) ↔ Unbroken cs ∧ Unbroken ds :=
  List.forall_mem_append

/-- The characters of a fixed text are written out before they are compared. -/
theorem unbroken_ofList {cs : List Char} (h : Unbroken cs) :
    Unbroken (String.ofList cs).toList := by
  rwa [String.toList_ofList]

end ValidatorForge.Text
