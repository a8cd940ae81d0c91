import ValidatorForge.Discovery.Marker
import ValidatorForge.Dispatch.Render
import ValidatorForge.Proofs.Artifact.Emission

/-!
# Telling a validator from a marker

Markers and dispatching validators are written under names that may meet.  Their texts never do:
both begin with a documentation attribute, and the attributes differ in their first letter
(`artifactText_tokens_ne_markerTokens`).  So a marker never has the source of a dispatching
validator (`ResolvedType.source?_marker_ne`).
-/

namespace ValidatorForge

open Source

/-- Artifacts of one name have equal texts if their bodies have. -/
theorem spell_eq_of_artifactText_eq {q : String} {body body' : List Token}
    (h : artifactText q body = artifactText q body') : spell body = spell body' := by
  have htoList := congrArg String.toList h
  simpa [artifactText, text] using htoList

namespace Source

/-- The text of a fragment that begins with a documentation attribute begins with the quoted
documentation. -/
theorem exists_spell_doc_append (docs : String) (rest : Fragment) :
    ∃ after, spell (doc docs ++ rest) =
      "# [doc = \"".toList ++ (Text.literalBody docs.toList ++ after) := by
  refine ⟨'"' :: ']' :: spellAfter false rest, ?_⟩
  simp [spell, doc, attributeOf, brackets, textLiteral, Literal.ofString, Text.literal, spellAfter,
    Token.spell, Token.isJoint, Delimiter.opening, Delimiter.closing, word, equals, Ident.spell,
    Ident.plain]

/-- The body of a literal that begins with a blank and a capital letter of the headings. -/
theorem literalBody_heading {c : Char} (hc : c = 'D' ∨ c = 'V') (cs : List Char) :
    Text.literalBody (' ' :: c :: cs) = ' ' :: c :: Text.literalBody cs := by
  rcases hc with rfl | rfl <;> rfl

end Source

/-- No marker has the text of a dispatching validator. -/
theorem artifactText_tokens_ne_markerTokens (q : String) (d : Dispatcher) (name : Ident)
    (ty : TypeName) : artifactText q d.tokens ≠ artifactText q (markerTokens name ty) := by
  intro heq
  have hspell := spell_eq_of_artifactText_eq heq
  obtain ⟨rest, hrest⟩ := d.exists_tokens_eq_doc_append
  rw [hrest, markerTokens, List.append_assoc] at hspell
  obtain ⟨after, hafter⟩ := exists_spell_doc_append
    s!" Dispatching validator over {Text.commaJoin (d.supported.map (·.text))}." rest
  obtain ⟨after', hafter'⟩ := exists_spell_doc_append s!" Validator of \x60{ty}\x60."
    (attributeOf [word "allow", parens [word "non_camel_case_types"]] ++ _)
  rw [hafter, hafter'] at hspell
  have hbody := List.append_cancel_left hspell
  simp [toString, literalBody_heading] at hbody

/-- A marker never has the source of a dispatching validator. -/
theorem ResolvedType.source?_marker_ne (t : ResolvedType) (d : Dispatcher) (q : String)
    (hq : t.marker.qualifiedName = q) : t.marker.source? ≠ some (artifactText q d.tokens) := by
  intro heq
  rw [Artifact.source?, body_marker, hq] at heq
  cases hident : Naming.ident t.outputName with
  | error e =>
    rw [hident] at heq
    cases heq
  | ok i =>
    rw [hident] at heq
    exact artifactText_tokens_ne_markerTokens q d i t.name (Option.some.inj heq).symm

end ValidatorForge
