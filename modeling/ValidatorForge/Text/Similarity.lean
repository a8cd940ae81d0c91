/-!
# Similarity of words

A score between 0 and 1 for how alike two words are.  It counts the characters that the words have
in common at near places and in the same order, and is raised for a common beginning.
-/

namespace ValidatorForge.Text

/-- Marks the first unmarked `c` whose place, counted from `j`, is at least `low` and less than
`high`. -/
def markMatch (c : Char) (low high : Nat) (j : Nat) :
    List (Char × Bool) → Option (List (Char × Bool))
  | [] => none
  | (d, marked) :: rest =>
    if high ≤ j then none
    else if low ≤ j && c == d && !marked then some ((d, true) :: rest)
    else (markMatch c low high (j + 1) rest).map ((d, marked) :: ·)

/-- The characters of the first word that find a partner in the second within `range` places, and
the second word with the partners marked. -/
def commonChars (range : Nat) (i : Nat) (b : List (Char × Bool)) :
    List Char → List Char × List (Char × Bool)
  | [] => ([], b)
  | c :: rest =>
    match markMatch c (i - range) (i + range + 1) 0 b with
    | some b =>
      let (found, b) := commonChars range (i + 1) b rest
      (c :: found, b)
    | none => commonChars range (i + 1) b rest

/-- The part of the score that does not look at the beginnings. -/
def commonScore (a b : List Char) : Float :=
  if a.isEmpty && b.isEmpty then 1.0
  else
    let range := max a.length b.length / 2 - 1
    let (found, marked) := commonChars range 0 (b.map (·, false)) a
    let partners := (marked.filter (·.2)).map (·.1)
    let swapped := ((found.zip partners).filter fun (c, d) => c != d).length / 2
    let count := found.length
    if count = 0 then 0.0
    else
      (count.toFloat / a.length.toFloat + count.toFloat / b.length.toFloat +
        (count - swapped).toFloat / count.toFloat) / 3.0

/-- The length of the common beginning, of which at most four characters count. -/
def commonStart (a b : List Char) : Nat :=
  (((a.take 4).zip b).takeWhile fun (c, d) => c == d).length

/-- How alike two words are. -/
def similarity (a b : List Char) : Float :=
  let score := commonScore a b
  if score > 0.7 then score + 0.1 * (commonStart a b).toFloat * (1.0 - score) else score

/-- The first of the words that is most like `a`, if its score is above 0.8. -/
def mostSimilar? {α : Type} (spelling : α → List Char) (a : List Char) (words : List α) :
    Option α :=
  let best := words.foldl
    (fun best w =>
      let score := similarity a (spelling w)
      match best with
      | none => if score > 0.8 then some (score, w) else none
      | some (top, _) => if score > 0.8 && top < score then some (score, w) else best)
    none
  best.map (·.2)

end ValidatorForge.Text
