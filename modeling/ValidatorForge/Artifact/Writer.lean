import ValidatorForge.Model.TypeName
import ValidatorForge.Source.Token

/-!
# Writing one artifact

A writer gathers the source of one artifact line by line.
-/

namespace ValidatorForge

/-- The open output of one artifact. -/
structure ArtifactWriter where
  package : String
  name : String
  source : String := ""
deriving Repr, Inhabited, DecidableEq

namespace ArtifactWriter

def qualifiedName (w : ArtifactWriter) : String := qualify w.package w.name

/-- Appends a line. -/
def writeLine (w : ArtifactWriter) (line : String) : ArtifactWriter :=
  { w with source := w.source ++ line ++ "\n" }

/-- Appends the text of tokens as a line. -/
def writeTokens (w : ArtifactWriter) (tokens : List Source.Token) : ArtifactWriter :=
  w.writeLine (Source.text tokens)

end ArtifactWriter

end ValidatorForge
