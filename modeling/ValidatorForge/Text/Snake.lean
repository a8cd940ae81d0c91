import ValidatorForge.Text.Cluster
import ValidatorForge.Text.Field

/-!
# Snake case

A name is cut into words where its case or its digits change, and the words are joined in lower
case by underscores: `getSalary` becomes `get_salary`, `getHTML5Doc` becomes `get_html_5_doc`.
The units are grapheme clusters.
-/

namespace ValidatorForge.Text

/-- What a cluster is to the word rules. -/
inductive WordClass where
  | upper | lower | digit | separator | other
deriving DecidableEq, Repr

/-- A cluster has a case when its two case forms differ and it is one of them. -/
def WordClass.of (cluster : List Char) : WordClass :=
  if cluster = ['_'] || cluster = ['-'] || cluster = [' '] then .separator
  else if cluster.all Char.isDigit then .digit
  else
    let upper := toUpper cluster
    let lower := toLower cluster
    if upper = lower then .other
    else if cluster = upper then .upper
    else if cluster = lower then .lower
    else .other

/-- Whether a new word begins between two neighbours; `next` is the class after them. -/
def WordClass.breaks (a b : WordClass) (next : Option WordClass) : Bool :=
  match a, b with
  | .lower, .upper | .lower, .digit | .upper, .digit | .digit, .lower | .digit, .upper => true
  | .upper, .upper => next = some .lower
  | _, _ => false

/-- The words of a list of classified clusters.  A separator ends a word, also an empty one. -/
def wordsOf : List (List Char × WordClass) → List (List Char)
  | [] => [[]]
  | (cluster, k) :: rest =>
    if k = .separator then [] :: wordsOf rest
    else
      let cut := match rest with
        | [] => false
        | (_, b) :: more => k.breaks b (more.head?.map Prod.snd)
      if cut then cluster :: wordsOf rest
      else
        match wordsOf rest with
        | [] => [cluster]
        | word :: more => (cluster ++ word) :: more

/-- The words of a text. -/
def words (cs : List Char) : List (List Char) :=
  wordsOf ((clusters cs).map fun cluster => (cluster, WordClass.of cluster))

/-- A text in snake case. -/
def snakeCase (cs : List Char) : List Char := join ['_'] ((words cs).map toLower)

end ValidatorForge.Text
